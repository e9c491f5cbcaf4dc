import Almanac.Proofs.Template.Capitals
import Almanac.Success

/-! What may be written in a field.

`Says` is the language of a field without its reader: a literal, a keyword, or a keyword with an
offset, and for each the term it stands for. `ofText_eq_ok_iff` says that the reader accepts
exactly this language, on texts that have been trimmed, and finds exactly this term. The reader
takes the upper case of the whole text and then looks for signs, blanks and digits in it; that this
comes to the same thing rests on the characters that can become those of a field
(`upper_eq_map`). -/
namespace Almanac.Template

/-! ### The language -/

/-- One or more digits. -/
def Numeral (cs : List Char) : Prop :=
  cs ≠ [] ∧ ∀ c ∈ cs, c.isDigit = true

/-- The value of a numeral, whatever the number of zeros in front of it. -/
def numeralValue (digits : List Char) : Nat :=
  Nat.ofDigitChars 10 digits 0

/-- A keyword in ASCII letters of either case. -/
def IsKeyword (field : Field) (cs : List Char) : Prop :=
  cs.map Char.toUpper = field.keyword.toList

/-- The field of a term and its two numbers as integers. -/
def Term.Is (term : Term) (field : Field) (base offset : Int) : Prop :=
  term.field = field ∧ term.base.toInt = base ∧ term.offset.toInt = offset

/-- What a text says in a field, seen from an anchor. -/
inductive Says (field : Field) (anchor : Date) : List Char → Term → Prop where
  /-- A number of the field's width and in its range. -/
  | literal {digits term} : Numeral digits → digits.length = field.width →
      1 ≤ numeralValue digits → numeralValue digits ≤ field.largest →
      term.Is field (numeralValue digits) 0 → Says field anchor digits term
  /-- The keyword alone. -/
  | keyword {word term} : IsKeyword field word → term.Is field (anchor.valueOf field) 0 →
      Says field anchor word term
  /-- The keyword, a sign and a number, with gaps on either side of the sign. -/
  | offset {word before sign after digits term} : IsKeyword field word → Text.Gap before →
      isOperator sign = true → Text.Gap after → Numeral digits →
      numeralValue digits ≤ largestNumber →
      term.Is field (anchor.valueOf field)
        (if sign = '-' then -numeralValue digits else numeralValue digits) →
      Says field anchor (word ++ before ++ sign :: after ++ digits) term

/-! ### Numbers -/

theorem numeral_padded (width n : Nat) : Numeral (Text.padded width n) :=
  ⟨Text.padded_ne_nil width n, fun _ => Text.isDigit_of_mem_padded⟩

theorem number?_eq_some_iff {cs : List Char} {n : Nat} :
    Text.number? cs = some n ↔ Numeral cs ∧ n = numeralValue cs := by
  have all : cs.all Char.isDigit = true ↔ ∀ c ∈ cs, c.isDigit = true := List.all_eq_true
  unfold Text.number? Numeral numeralValue
  simp only [all]
  split
  · next h =>
    rw [Option.some.injEq, eq_comm]
    exact ⟨fun value => ⟨h, value⟩, And.right⟩
  · next h => simp [h]

theorem readNumber_eq_ok_iff {field : Field} {cs : List Char} {n : Int32} :
    readNumber field cs = .ok n ↔
      Numeral cs ∧ numeralValue cs ≤ largestNumber ∧ n = .ofNat (numeralValue cs) := by
  unfold readNumber
  split
  · next value h =>
    obtain ⟨numeral, rfl⟩ := number?_eq_some_iff.1 h
    split
    · next small => simp [numeral, small, eq_comm]
    · next large => simp [large]
  · next h =>
    have notNumeral : ¬ Numeral cs := fun numeral => by
      rw [number?_eq_some_iff.2 ⟨numeral, rfl⟩] at h
      nomatch h
    simp [notNumeral]

theorem toInt_ofNat {n : Nat} (h : n ≤ largestNumber) : (Int32.ofNat n).toInt = n :=
  Int32.toInt_ofNat_of_lt (Nat.lt_succ_of_le h)

theorem toInt_neg_ofNat {n : Nat} (h : n ≤ largestNumber) : (-Int32.ofNat n).toInt = -n := by
  unfold largestNumber at h
  rw [Int32.neg_ofNat, Int32.toInt_ofInt_of_le (by omega) (by omega)]

/-- The sign of an offset. -/
theorem toInt_signed {sign : Char} {n : Nat} (h : n ≤ largestNumber) :
    (if sign = '-' then -Int32.ofNat n else .ofNat n).toInt =
      if sign = '-' then -(n : Int) else n := by
  split
  · exact toInt_neg_ofNat h
  · exact toInt_ofNat h

theorem largest_le (field : Field) : field.largest ≤ largestNumber := by
  cases field <;> decide

theorem ofNat_lt_one_iff {n : Nat} (h : n ≤ largestNumber) : Int32.ofNat n < 1 ↔ n < 1 := by
  rw [Int32.lt_iff_toInt_lt, toInt_ofNat h, Int32.toInt_one]
  omega

/-- A literal is read when it is a number in the field's range. -/
theorem readLiteral_eq_ok_iff {field : Field} {cs : List Char} {n : Int32} :
    readLiteral field cs = .ok n ↔ Numeral cs ∧ 1 ≤ numeralValue cs ∧
      numeralValue cs ≤ field.largest ∧ n = .ofNat (numeralValue cs) := by
  rw [readLiteral, bind_eq_ok_iff]
  constructor
  · intro h
    obtain ⟨value, h, range⟩ := h
    obtain ⟨numeral, small, rfl⟩ := readNumber_eq_ok_iff.1 h
    simp only [ofNat_lt_one_iff small, toInt_ofNat small] at range
    split at range
    · nomatch range
    · split at range
      · nomatch range
      · obtain rfl := Except.ok.inj range
        exact ⟨numeral, by omega, by omega, rfl⟩
  · intro h
    obtain ⟨numeral, positive, within, rfl⟩ := h
    have small : numeralValue cs ≤ largestNumber := by
      have := largest_le field
      omega
    refine ⟨_, readNumber_eq_ok_iff.2 ⟨numeral, small, rfl⟩, ?_⟩
    simp only [ofNat_lt_one_iff small, toInt_ofNat small]
    rw [if_neg (by omega), if_neg (by omega)]

/-! ### Offsets -/

theorem readKeyword_eq_ok_iff {field : Field} {cs : List Char} :
    readKeyword field cs = .ok () ↔ Text.trim cs = field.keyword.toList := by
  unfold readKeyword
  simp only [← String.toList_inj, String.toList_ofList]
  split
  · next h => simp [h]
  · next h => simp [h]

/-- A text without a sign. -/
def Unsigned (cs : List Char) : Prop :=
  ∀ c ∈ cs, isOperator c = false

/-- A text is parted at its first sign, when it has one. -/
theorem unsigned_or_exists_sign (cs : List Char) :
    Unsigned cs ∨ ∃ word sign amount, cs = word ++ sign :: amount ∧ Unsigned word ∧
      isOperator sign = true := by
  induction cs with
  | nil => exact .inl nofun
  | cons c cs ih =>
    cases h : isOperator c
    · rcases ih with plain | ⟨word, sign, amount, rfl, plain, hs⟩
      · exact .inl (List.forall_mem_cons.2 ⟨h, plain⟩)
      · exact .inr ⟨c :: word, sign, amount, rfl, List.forall_mem_cons.2 ⟨h, plain⟩, hs⟩
    · exact .inr ⟨[], c, cs, rfl, nofun, h⟩

theorem readOffset_of_unsigned {field : Field} {cs : List Char} (h : Unsigned cs) :
    readOffset field cs = (readKeyword field cs).map fun _ => 0 := by
  have none : cs.dropWhile (!isOperator ·) = [] :=
    List.dropWhile_eq_nil_iff.2 fun c hc => by rw [h c hc]; rfl
  rw [readOffset, none]

theorem parted_at_sign {word : List Char} {sign : Char} (hw : Unsigned word)
    (hs : isOperator sign = true) (amount : List Char) :
    (word ++ sign :: amount).takeWhile (!isOperator ·) = word ∧
      (word ++ sign :: amount).dropWhile (!isOperator ·) = sign :: amount := by
  have before : ∀ c ∈ word, (!isOperator c) = true := by
    intro c hc
    rw [hw c hc]
    rfl
  constructor
  · rw [List.takeWhile_append_of_pos before, List.takeWhile_cons_of_neg (by simp [hs]),
      List.append_nil]
  · rw [List.dropWhile_append_of_pos before, List.dropWhile_cons_of_neg (by simp [hs])]

/-- Behind a sign, a second sign is looked for before anything else. -/
theorem readOffset_secondSign {field : Field} {word between rest : List Char} {sign second : Char}
    (hw : Unsigned word) (hs : isOperator sign = true) (hb : Unsigned between)
    (second_sign : isOperator second = true) :
    readOffset field (word ++ sign :: (between ++ second :: rest)) =
      .error (.unexpectedOperator field second) := by
  have first : (between ++ second :: rest).find? isOperator = some second := by
    rw [List.find?_append, List.find?_cons_of_pos second_sign,
      List.find?_eq_none.2 fun c hc => Bool.not_eq_true _ ▸ hb c hc]
    rfl
  rw [readOffset, (parted_at_sign hw hs _).2]
  dsimp only
  rw [first]

/-- With one sign, a missing number comes first, then the keyword, then the number. -/
theorem readOffset_oneSign {field : Field} {word amount : List Char} {sign : Char}
    (hw : Unsigned word) (hs : isOperator sign = true) (ha : Unsigned amount) :
    readOffset field (word ++ sign :: amount) =
      if (Text.trim amount).isEmpty then .error (.blankOffset field)
      else readKeyword field word >>= fun _ => readNumber field (Text.trim amount) >>= fun value =>
        .ok (if sign = '-' then -value else value) := by
  obtain ⟨take, drop⟩ := parted_at_sign hw hs amount
  have one : amount.find? isOperator = none :=
    List.find?_eq_none.2 fun c hc => Bool.not_eq_true _ ▸ ha c hc
  rw [readOffset, drop, take]
  dsimp only
  rw [one]

/-- A text with a sign is an offset when the keyword stands before the sign and a number after it,
gaps aside. -/
theorem readOffset_sign_eq_ok_iff {field : Field} {word amount : List Char} {sign : Char}
    (hw : Unsigned word) (hs : isOperator sign = true) {n : Int32} :
    readOffset field (word ++ sign :: amount) = .ok n ↔
      Text.trim word = field.keyword.toList ∧ Unsigned amount ∧ Numeral (Text.trim amount) ∧
        numeralValue (Text.trim amount) ≤ largestNumber ∧
        n = if sign = '-' then -.ofNat (numeralValue (Text.trim amount))
          else .ofNat (numeralValue (Text.trim amount)) := by
  rcases unsigned_or_exists_sign amount with plain | ⟨between, second, rest, rfl, hb, hs'⟩
  · rw [readOffset_oneSign hw hs plain]
    split
    · next blank =>
      have notNumeral : ¬ Numeral (Text.trim amount) := fun numeral =>
        numeral.1 (List.isEmpty_iff.1 blank)
      simp [notNumeral]
    · constructor
      · intro h
        obtain ⟨_, keyword, h⟩ := bind_eq_ok_iff.1 h
        obtain ⟨value, number, h⟩ := bind_eq_ok_iff.1 h
        obtain ⟨numeral, small, rfl⟩ := readNumber_eq_ok_iff.1 number
        exact ⟨readKeyword_eq_ok_iff.1 keyword, plain, numeral, small, (Except.ok.inj h).symm⟩
      · intro h
        obtain ⟨keyword, -, numeral, small, rfl⟩ := h
        refine bind_eq_ok_iff.2 ⟨(), readKeyword_eq_ok_iff.2 keyword, ?_⟩
        exact bind_eq_ok_iff.2 ⟨_, readNumber_eq_ok_iff.2 ⟨numeral, small, rfl⟩, rfl⟩
  · have signed : ¬ Unsigned (between ++ second :: rest) := fun plain => by
      have unsigned := plain second (by simp)
      nomatch unsigned.symm.trans hs'
    rw [readOffset_secondSign hw hs hb hs']
    simp [signed]

/-! ### Characters of a field -/

/-- A numeral has no blanks at its ends. -/
theorem trim_numeral {digits : List Char} (h : Numeral digits) : Text.trim digits = digits := by
  apply Text.trim_eq_self
  · cases digits with
    | nil => rfl
    | cons c cs => simp [Text.isBlank_of_isDigit (h.2 c (List.mem_cons_self ..))]
  · cases hl : digits.getLast? with
    | none => rfl
    | some c => simp [Text.isBlank_of_isDigit (h.2 c (List.mem_of_getLast? hl))]

theorem trim_keyword (field : Field) : Text.trim field.keyword.toList = field.keyword.toList := by
  cases field <;> decide

theorem unsigned_append {cs ds : List Char} (hc : Unsigned cs) (hd : Unsigned ds) :
    Unsigned (cs ++ ds) :=
  fun c h => (List.mem_append.1 h).elim (hc c) (hd c)

theorem unsigned_gap {gap : List Char} (h : Text.Gap gap) : Unsigned gap :=
  fun c hc => isOperator_of_isBlank (h c hc)

theorem unsigned_numeral {digits : List Char} (h : Numeral digits) : Unsigned digits :=
  fun c hc => isOperator_of_isDigit (h.2 c hc)

theorem unsigned_keyword (field : Field) : Unsigned field.keyword.toList := fun c hc => by
  simpa using of_keyword (p := (!isOperator ·)) (by decide) hc

theorem unsigned_of_isKeyword {field : Field} {word : List Char} (h : IsKeyword field word) :
    Unsigned word := by
  intro c hc
  refine Bool.eq_false_iff.2 fun sign => ?_
  have raised : c.toUpper ∈ field.keyword.toList := by
    rw [← h]
    exact List.mem_map_of_mem hc
  have same : c.toUpper = c := by
    rcases eq_of_isOperator sign with rfl | rfl
    · rfl
    · rfl
  rw [same] at raised
  exact Bool.noConfusion (sign.symm.trans (unsigned_keyword field c raised))

/-! ### The upper case of a field -/

/-- A keyword with gaps around it was one before its letters were raised. -/
theorem exists_keyword {field : Field} {cs front back : List Char} (hf : Text.Gap front)
    (hb : Text.Gap back) (h : cs.map Char.toUpper = front ++ field.keyword.toList ++ back) :
    ∃ word, cs = front ++ word ++ back ∧ IsKeyword field word := by
  obtain ⟨rest, end_, rfl, hrest, hend⟩ := List.map_eq_append_iff.1 h
  obtain ⟨start, word, rfl, hstart, hword⟩ := List.map_eq_append_iff.1 hrest
  rw [eq_of_map_toUpper hstart fun c hc => isUpper_of_isBlank (hf c hc),
    eq_of_map_toUpper hend fun c hc => isUpper_of_isBlank (hb c hc)]
  exact ⟨word, rfl, hword⟩

theorem toInt_valueOf (anchor : Date) (field : Field) :
    (Int32.ofInt (anchor.valueOf field)).toInt = anchor.valueOf field := by
  obtain ⟨first, last, month, month', day, day'⟩ := anchor.isDate
  have := monthLength_le anchor.year anchor.month
  unfold firstYear lastYear at *
  cases field <;> exact Int32.toInt_ofInt_of_le (by simp only [Date.valueOf]; omega)
    (by simp only [Date.valueOf]; omega)

/-- A trimmed text whose upper case is the keyword, gaps aside, is the keyword. -/
theorem says_of_keyword {field : Field} {anchor : Date} {cs : List Char}
    (trimmed : Text.trim cs = cs) (keyword : Text.trim (Text.upper cs) = field.keyword.toList) :
    Says field anchor cs ⟨field, .ofInt (anchor.valueOf field), 0⟩ := by
  obtain ⟨front, back, hf, hb, parts⟩ := Text.exists_gaps (Text.upper cs)
  rw [keyword] at parts
  have raised : Text.upper cs = cs.map Char.toUpper := by
    apply upper_eq_map
    rw [parts]
    simp only [List.mem_append]
    intro c hc
    rcases hc with (hc | hc) | hc
    · exact isFieldChar_of_isBlank (hf c hc)
    · exact isFieldChar_keyword hc
    · exact isFieldChar_of_isBlank (hb c hc)
  obtain ⟨word, rfl, hw⟩ := exists_keyword hf hb (raised ▸ parts)
  obtain ⟨rfl, rfl⟩ := Text.eq_nil_of_trim_eq_self hf hb trimmed
  rw [List.nil_append, List.append_nil]
  exact .keyword hw ⟨rfl, toInt_valueOf anchor field, rfl⟩

/-- A text whose upper case is an offset is one, with the same gaps, sign and digits. -/
theorem exists_offset {field : Field} {cs front before after back digits : List Char} {sign : Char}
    (hf : Text.Gap front) (hb : Text.Gap before) (hs : isOperator sign = true)
    (ha : Text.Gap after) (hk : Text.Gap back) (numeral : Numeral digits)
    (h : Text.upper cs =
      front ++ field.keyword.toList ++ before ++ sign :: (after ++ digits ++ back)) :
    ∃ word, cs = front ++ (word ++ before ++ sign :: after ++ digits) ++ back ∧
      IsKeyword field word := by
  have raised : Text.upper cs = cs.map Char.toUpper := by
    apply upper_eq_map
    rw [h]
    simp only [List.mem_append, List.mem_cons]
    intro c hc
    rcases hc with ((hc | hc) | hc) | rfl | (hc | hc) | hc
    · exact isFieldChar_of_isBlank (hf c hc)
    · exact isFieldChar_keyword hc
    · exact isFieldChar_of_isBlank (hb c hc)
    · exact isFieldChar_of_isOperator hs
    · exact isFieldChar_of_isBlank (ha c hc)
    · exact isFieldChar_of_isDigit (numeral.2 c hc)
    · exact isFieldChar_of_isBlank (hk c hc)
  rw [raised] at h
  obtain ⟨left, right, rfl, hleft, hright⟩ := List.map_eq_append_iff.1 h
  obtain ⟨word, rfl, hw⟩ := exists_keyword hf hb hleft
  -- From the sign on there is no letter, so what stands there was written as it is.
  have unchanged : right = sign :: (after ++ digits ++ back) := by
    apply eq_of_map_toUpper hright
    simp only [List.mem_append, List.mem_cons]
    intro c hc
    rcases hc with rfl | (hc | hc) | hc
    · exact isUpper_of_isOperator hs
    · exact isUpper_of_isBlank (ha c hc)
    · exact isUpper_of_isDigit (numeral.2 c hc)
    · exact isUpper_of_isBlank (hk c hc)
  exact ⟨word, by rw [unchanged]; simp, hw⟩

/-- What is read as an offset from the upper case of a trimmed text was written as one. -/
theorem says_of_readOffset {field : Field} {anchor : Date} {cs : List Char} {n : Int32}
    (trimmed : Text.trim cs = cs) (h : readOffset field (Text.upper cs) = .ok n) :
    Says field anchor cs ⟨field, .ofInt (anchor.valueOf field), n⟩ := by
  rcases unsigned_or_exists_sign (Text.upper cs) with plain | ⟨word, sign, amount, hu, plain, hs⟩
  · rw [readOffset_of_unsigned plain, map_eq_ok_iff] at h
    obtain ⟨_, keyword, rfl⟩ := h
    exact says_of_keyword trimmed (readKeyword_eq_ok_iff.1 keyword)
  · rw [hu, readOffset_sign_eq_ok_iff plain hs] at h
    obtain ⟨keyword, -, numeral, small, rfl⟩ := h
    obtain ⟨front, before, hf, hb, wordParts⟩ := Text.exists_gaps word
    obtain ⟨after, back, ha, hk, amountParts⟩ := Text.exists_gaps amount
    rw [wordParts, amountParts, keyword] at hu
    obtain ⟨word, rfl, hw⟩ := exists_offset hf hb hs ha hk numeral hu
    obtain ⟨rfl, rfl⟩ := Text.eq_nil_of_trim_eq_self hf hk trimmed
    rw [List.nil_append, List.append_nil]
    exact .offset hw hb hs ha numeral small ⟨rfl, toInt_valueOf anchor field, toInt_signed small⟩

/-! ### The other way round -/

theorem upper_keyword {field : Field} {word : List Char} (h : IsKeyword field word) :
    Text.upper word = field.keyword.toList := by
  refine (upper_eq_map_of fun c hc => upperChar_eq_toUpper ?_).trans h
  refine .inl (Nat.lt_of_not_le fun beyond => ?_)
  have raised : c ∈ field.keyword.toList := by
    rw [← h, ← toUpper_of_beyond beyond]
    exact List.mem_map_of_mem hc
  have := keyword_ascii raised
  omega

/-- An offset keeps everything but the letters of its keyword. -/
theorem upper_offset {field : Field} {word before after digits : List Char} {sign : Char}
    (hw : IsKeyword field word) (hb : Text.Gap before) (hs : isOperator sign = true)
    (ha : Text.Gap after) (hd : Numeral digits) :
    Text.upper (word ++ before ++ sign :: after ++ digits) =
      field.keyword.toList ++ before ++ sign :: (after ++ digits) := by
  have rest : Text.upper (before ++ sign :: (after ++ digits)) =
      before ++ sign :: (after ++ digits) := by
    refine (upper_eq_map_of (f := id) ?_).trans (List.map_id _)
    simp only [List.mem_append, List.mem_cons]
    intro c hc
    rcases hc with hc | rfl | hc | hc
    · exact upperChar_of_isBlank (hb c hc)
    · rcases eq_of_isOperator hs with rfl | rfl <;> rfl
    · exact upperChar_of_isBlank (ha c hc)
    · exact upperChar_of_isDigit (hd.2 c hc)
  have parts : word ++ before ++ sign :: after ++ digits =
      word ++ (before ++ sign :: (after ++ digits)) := by simp
  rw [parts, Text.upper_append, upper_keyword hw, rest, List.append_assoc]

/-- A keyword holds a letter, in either case. -/
theorem exists_letter {field : Field} {word : List Char} (h : IsKeyword field word) :
    ∃ c ∈ word, c.isDigit = false := by
  have letters : ∀ c ∈ field.keyword.toList, c.isDigit = false := fun c hc => by
    simpa using of_keyword (p := (!Char.isDigit ·)) (by decide) hc
  obtain _ | ⟨c, word⟩ := word
  · exact absurd h.symm (by cases field <;> decide)
  · refine ⟨c, List.mem_cons_self .., Bool.eq_false_iff.2 fun digit => ?_⟩
    have raised : c.toUpper.isDigit = true :=
      Text.isDigit_cases (P := fun c => c.toUpper.isDigit = true) (by decide) digit
    rw [letters _ (h ▸ List.mem_cons_self ..)] at raised
    nomatch raised

/-- What begins with a keyword is symbolic. -/
theorem entry_of_keyword {field : Field} {word : List Char} (h : IsKeyword field word)
    (rest : List Char) (trimmed : Text.trim (word ++ rest) = word ++ rest) :
    Entry.ofText field (String.ofList (word ++ rest)) =
      .ok (.symbolic (String.ofList (Text.upper (word ++ rest)))) := by
  obtain ⟨c, hc, letter⟩ := exists_letter h
  have visible : (word ++ rest).isEmpty = false := by
    rw [Bool.eq_false_iff, Ne, List.isEmpty_iff]
    exact List.ne_nil_of_mem (List.mem_append_left rest hc)
  have mixed : ¬ (word ++ rest).all Char.isDigit = true := fun all => by
    rw [List.all_eq_true.1 all c (List.mem_append_left rest hc)] at letter
    nomatch letter
  have front : field.keyword.toList.isPrefixOf (Text.upper (word ++ rest)) = true := by
    rw [Text.upper_append, upper_keyword h, List.isPrefixOf_iff_prefix]
    exact List.prefix_append _ _
  simp [Entry.ofText, String.toList_ofList, trimmed, visible, mixed, front]

theorem entry_of_digits {field : Field} {digits : List Char} (h : Numeral digits)
    (width : digits.length = field.width) :
    Entry.ofText field (String.ofList digits) = .ok (.literal (String.ofList digits)) := by
  have visible : digits.isEmpty = false := by
    rw [Bool.eq_false_iff, Ne, List.isEmpty_iff]
    exact h.1
  have all : digits.all Char.isDigit = true := List.all_eq_true.2 h.2
  simp [Entry.ofText, String.toList_ofList, trim_numeral h, visible, all, width]

theorem Term.eq_of_is {a b : Term} {field : Field} {base offset : Int} (ha : a.Is field base offset)
    (hb : b.Is field base offset) : a = b :=
  Term.ext (ha.1.trans hb.1.symm) (Int32.toInt_inj.1 (ha.2.1.trans hb.2.1.symm))
    (Int32.toInt_inj.1 (ha.2.2.trans hb.2.2.symm))

theorem says_of_ofText {field : Field} {anchor : Date} {cs : List Char} {term : Term}
    (trimmed : Text.trim cs = cs) (h : Term.ofText field anchor (String.ofList cs) = .ok term) :
    Says field anchor cs term := by
  obtain ⟨entry, he, ht⟩ := bind_eq_ok_iff.1 h
  simp only [Entry.ofText, String.toList_ofList] at he
  split at he
  · nomatch he
  split at he
  · next digits =>
    obtain rfl := Except.ok.inj he
    obtain ⟨value, hv, rfl⟩ := map_eq_ok_iff.1 ht
    rw [String.toList_ofList, readLiteral_eq_ok_iff] at hv
    obtain ⟨numeral, positive, within, rfl⟩ := hv
    have small : numeralValue cs ≤ largestNumber := by
      have := largest_le field
      omega
    exact .literal numeral digits.1 positive within ⟨rfl, toInt_ofNat small, rfl⟩
  split at he
  · obtain rfl := Except.ok.inj he
    obtain ⟨offset, ho, rfl⟩ := map_eq_ok_iff.1 ht
    rw [String.toList_ofList] at ho
    exact says_of_readOffset trimmed ho
  · nomatch he

theorem ofText_of_saying {field : Field} {anchor : Date} {cs : List Char} {term : Term}
    (trimmed : Text.trim cs = cs) (h : Says field anchor cs term) :
    Term.ofText field anchor (String.ofList cs) = .ok term := by
  cases h with
  | literal numeral width positive within is =>
    have small : numeralValue cs ≤ largestNumber := by
      have := largest_le field
      omega
    refine bind_eq_ok_iff.2 ⟨_, entry_of_digits numeral width, map_eq_ok_iff.2 ?_⟩
    rw [String.toList_ofList]
    exact ⟨_, readLiteral_eq_ok_iff.2 ⟨numeral, positive, within, rfl⟩,
      Term.eq_of_is ⟨rfl, toInt_ofNat small, rfl⟩ is⟩
  | keyword hw is =>
    have entry := entry_of_keyword hw [] (by rwa [List.append_nil])
    rw [List.append_nil, upper_keyword hw] at entry
    refine bind_eq_ok_iff.2 ⟨_, entry, map_eq_ok_iff.2 ?_⟩
    rw [String.toList_ofList, readOffset_of_unsigned (unsigned_keyword field)]
    exact ⟨0, map_eq_ok_iff.2 ⟨(), readKeyword_eq_ok_iff.2 (trim_keyword field), rfl⟩,
      Term.eq_of_is ⟨rfl, toInt_valueOf anchor field, rfl⟩ is⟩
  | @offset word before sign after digits _ hw hb hs ha numeral small is =>
    have parts : word ++ before ++ sign :: after ++ digits =
        word ++ (before ++ sign :: after ++ digits) := by simp
    have entry := entry_of_keyword hw (before ++ sign :: after ++ digits) (by rwa [← parts])
    rw [← parts, upper_offset hw hb hs ha numeral] at entry
    refine bind_eq_ok_iff.2 ⟨_, entry, map_eq_ok_iff.2 ?_⟩
    have number : Text.trim (after ++ digits) = digits := by
      rw [Text.trim_gap_append ha, trim_numeral numeral]
    have name : Text.trim (field.keyword.toList ++ before) = field.keyword.toList := by
      rw [Text.trim_append_gap hb, trim_keyword]
    rw [String.toList_ofList]
    refine ⟨_, (readOffset_sign_eq_ok_iff (unsigned_append (unsigned_keyword field)
      (unsigned_gap hb)) hs).2 ⟨name, unsigned_append (unsigned_gap ha) (unsigned_numeral numeral),
      by rwa [number], by rwa [number], rfl⟩, ?_⟩
    rw [number]
    exact Term.eq_of_is ⟨rfl, toInt_valueOf anchor field, toInt_signed small⟩ is

/-- **The language of a field.** On a trimmed text, a field is read exactly when the text is in the
language, as the term that the language gives it. -/
theorem ofText_eq_ok_iff {field : Field} {anchor : Date} {cs : List Char} {term : Term}
    (trimmed : Text.trim cs = cs) :
    Term.ofText field anchor (String.ofList cs) = .ok term ↔ Says field anchor cs term :=
  ⟨says_of_ofText trimmed, ofText_of_saying trimmed⟩

end Almanac.Template
