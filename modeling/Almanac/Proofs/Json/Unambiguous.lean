import Almanac.Proofs.Json.Grammar

/-! A JSON text is one value at most.

What the grammar derives, a reader finds (`Document.value?`), and a reader finds one value, so that
no text is two (`Document.unique`). The reader is there for this only. It takes for a number what is
none, and asks for fewer marks than there have to be: the grammar says what is a value, and the
reader where each part of one ends. -/
namespace Almanac.Json

/-! ### A reader -/

def skip (cs : List Char) : List Char :=
  cs.dropWhile isBlank

/-- The character of a code point, or of a pair of which this is the first half. -/
def code? (digits cs : List Char) : Option (Char × List Char) :=
  match ofHex? digits with
  | some char => some (char, cs)
  | none =>
    match cs with
    | '\\' :: 'u' :: a :: b :: c :: d :: cs => (ofPair? digits [a, b, c, d]).map (·, cs)
    | _ => none

/-- The character at the front of the inside of a string. -/
def char? : List Char → Option (Char × List Char)
  | '\\' :: 'u' :: a :: b :: c :: d :: cs => code? [a, b, c, d] cs
  | '\\' :: letter :: cs => (ofLetter? letter).map (·, cs)
  | c :: cs => some (c, cs)
  | [] => none

/-- The characters up to a quote. -/
def chars? : Nat → List Char → Option (List Char × List Char)
  | 0, _ => none
  | fuel + 1, cs =>
    if cs.head? = some '"' then some ([], cs.tail)
    else do
      let (c, rest) ← char? cs
      (chars? fuel rest).map (·.map (c :: ·) id)

def string? (fuel : Nat) : List Char → Option (String × List Char)
  | '"' :: cs => (chars? fuel cs).map (·.map String.ofList id)
  | _ => none

/-- Items with commas between them, up to a closing mark. -/
def items? {α : Type} (item? : List Char → Option (α × List Char)) (close : Char) :
    Nat → List Char → Option (List α × List Char)
  | 0, _ => none
  | fuel + 1, cs => do
    let (a, rest) ← item? cs
    match rest with
    | [] => none
    | c :: rest =>
      if c = close then some ([a], rest)
      else (items? item? close fuel rest).map (·.map (a :: ·) id)

/-- Items up to a closing mark, or none. -/
def list? {α : Type} (item? : List Char → Option (α × List Char)) (close : Char) (fuel : Nat)
    (cs : List Char) : Option (List α × List Char) :=
  if (skip cs).head? = some close then some ([], (skip cs).tail) else items? item? close fuel cs

/-- A value between blanks. -/
def element? (value? : List Char → Option (Value × List Char)) (cs : List Char) :
    Option (Value × List Char) :=
  (value? (skip cs)).map (·.map id skip)

/-- A name and a value, each between blanks. -/
def member? (fuel : Nat) (value? : List Char → Option (Value × List Char)) (cs : List Char) :
    Option ((String × Value) × List Char) := do
  let (name, rest) ← string? fuel (skip cs)
  (element? value? (skip rest).tail).map (·.map (name, ·) id)

/-- Whether a character may stand in a number or in a word. -/
def isWordChar (c : Char) : Bool :=
  c.isAlphanum || c == '-' || c == '+' || c == '.'

/-- A word, or a number when the word has no meaning of its own. -/
def ofWord (word : List Char) : Value :=
  if word = "null".toList then .null
  else if word = "true".toList then .boolean true
  else if word = "false".toList then .boolean false
  else .number word

/-- The value at the front of a text. -/
def value? : Nat → List Char → Option (Value × List Char)
  | 0, _ => none
  | fuel + 1, cs =>
    match cs with
    | '"' :: _ => (string? (fuel + 1) cs).map (·.map .string id)
    | '[' :: cs => (list? (element? (value? fuel)) ']' fuel cs).map (·.map .array id)
    | '\x7b' :: cs => (list? (member? fuel (value? fuel)) '\x7d' fuel cs).map (·.map .object id)
    | cs => some (ofWord (cs.takeWhile isWordChar), cs.dropWhile isWordChar)

/-! ### Reading strings -/

theorem ofHex?_eq (digits : List Char) : ofHex? digits = (codeUnit? digits).bind fun code =>
    if code.isValidChar then some (Char.ofNat code) else none := by
  unfold ofHex? codeUnit?
  cases digits.mapM hexValue? with
  | none => rfl
  | some values => rfl

/-- Half of a surrogate pair is no character by itself. -/
theorem ofHex?_of_ofPair? {high low : List Char} {char : Char} (h : ofPair? high low = some char) :
    ofHex? high = none := by
  obtain ⟨first, read, h⟩ := Option.bind_eq_some_iff.1 h
  obtain ⟨second, -, h⟩ := Option.bind_eq_some_iff.1 h
  rw [ofHex?_eq, read]
  split at h
  · next surrogates =>
    refine if_neg fun valid => ?_
    unfold Nat.isValidChar at valid
    omega
  · cases h

theorem WritesChar.char? {text : List Char} {c : Char} (h : WritesChar text c) (rest : List Char) :
    char? (text ++ rest) = some (c, rest) := by
  cases h with
  | plain quote escape control =>
    rw [List.singleton_append, Json.char?]
    · exact fun _ _ _ _ _ begins => absurd begins escape
    · exact fun _ _ begins => absurd begins escape
  | @letter letter _ named =>
    have noCode : letter ≠ 'u' := by
      rintro rfl
      cases named
    show Json.char? ('\\' :: letter :: rest) = _
    rw [Json.char?, named]
    · rfl
    · exact fun _ _ _ _ _ code => absurd code noCode
  | code named =>
    show code? _ rest = _
    unfold code?
    rw [named]
  | pair named =>
    show code? _ ('\\' :: 'u' :: _ :: _ :: _ :: _ :: rest) = _
    rw [code?, ofHex?_of_ofPair? named]
    show (ofPair? _ _).map _ = _
    rw [named]
    rfl

theorem WritesChar.exists_cons {text : List Char} {c : Char} (h : WritesChar text c) :
    ∃ d ds, text = d :: ds ∧ d ≠ '"' := by
  cases h with
  | plain quote => exact ⟨_, _, rfl, quote⟩
  | letter => exact ⟨_, _, rfl, by decide⟩
  | code => exact ⟨_, _, rfl, by decide⟩
  | pair => exact ⟨_, _, rfl, by decide⟩

theorem WritesChars.length_le {inside chars : List Char} (h : WritesChars inside chars) :
    chars.length ≤ inside.length := by
  induction h with
  | nil => exact Nat.le_refl 0
  | cons first _ ih =>
    obtain ⟨d, ds, rfl, -⟩ := first.exists_cons
    rw [List.length_append, List.length_cons, List.length_cons]
    omega

theorem WritesChars.chars? {inside chars : List Char} (h : WritesChars inside chars) {fuel : Nat}
    (enough : chars.length < fuel) (rest : List Char) :
    chars? fuel (inside ++ '"' :: rest) = some (chars, rest) := by
  induction h generalizing fuel with
  | nil =>
    obtain _ | fuel := fuel
    · cases enough
    · rfl
  | cons first _ ih =>
    obtain _ | fuel := fuel
    · cases enough
    · obtain ⟨d, ds, begins, other⟩ := first.exists_cons
      rw [List.append_assoc, Json.chars?, if_neg (by simp [begins, other]), first.char?]
      show (Json.chars? fuel _).map _ = _
      rw [ih (Nat.lt_of_succ_lt_succ enough)]
      rfl

theorem WritesString.string? {text : List Char} {s : String} (h : WritesString text s) {fuel : Nat}
    (enough : text.length ≤ fuel) (rest : List Char) :
    string? fuel (text ++ rest) = some (s, rest) := by
  obtain ⟨inside, rfl, chars⟩ := h
  have short : s.toList.length < fuel := by
    have := chars.length_le
    simp only [List.cons_append, List.length_cons, List.length_append] at enough
    omega
  rw [List.cons_append, List.cons_append, List.append_assoc, List.singleton_append, Json.string?,
    chars.chars? short]
  show some (String.ofList s.toList, rest) = _
  rw [String.ofList_toList]

/-! ### Reading lists -/

theorem skip_gap_append {gap : List Char} (h : Gap gap) (rest : List Char) :
    skip (gap ++ rest) = skip rest :=
  List.dropWhile_append_of_pos h

theorem skip_of_head {c : Char} (h : isBlank c = false) (cs : List Char) :
    skip (c :: cs) = c :: cs :=
  List.dropWhile_cons_of_neg (by simp [h])


section Lists
variable {α Part : Type} {item? : List Char → Option (α × List Char)} {close : Char}
  {chars : Part → List Char} {value : Part → α} {parts : List Part}

theorem length_le_joined {texts : List (List Char)} {text : List Char} (h : text ∈ texts) :
    text.length ≤ (joined [','] texts).length := by
  induction texts with
  | nil => cases h
  | cons first texts ih =>
    cases texts with
    | nil =>
      obtain rfl := List.mem_singleton.1 h
      simp [joined]
    | cons second texts =>
      simp only [joined, List.intercalate_cons_cons, List.length_append] at ih ⊢
      rcases List.mem_cons.1 h with rfl | later
      · omega
      · have := ih later
        omega

/-- There is a comma between each two texts. -/
theorem count_le_joined (texts : List (List Char)) :
    texts.length ≤ (joined [','] texts).length + 1 := by
  induction texts with
  | nil => exact Nat.zero_le _
  | cons first texts ih =>
    cases texts with
    | nil => simp
    | cons second texts =>
      simp only [joined, List.intercalate_cons_cons, List.length_append, List.length_cons,
        List.length_nil] at ih ⊢
      omega

/-- What is enough for a list is enough for each of its items. -/
theorem enough_of_length {first last : Char} {texts : List (List Char)} {fuel : Nat}
    (enough : (first :: joined [','] texts ++ [last]).length ≤ fuel + 1) :
    texts.length ≤ fuel ∧ ∀ text ∈ texts, text.length < fuel := by
  simp only [List.cons_append, List.length_cons, List.length_append, List.length_nil] at enough
  have many := count_le_joined texts
  refine ⟨by omega, fun text here => ?_⟩
  have := length_le_joined here
  omega

/-- Items are read when each of them is, up to the mark behind it. -/
theorem items?_joined (other : close ≠ ',') (reads : ∀ part ∈ parts, ∀ c rest, c = ',' ∨ c = close →
      item? (chars part ++ c :: rest) = some (value part, c :: rest)) (some_ : parts ≠ [])
    {fuel : Nat} (enough : parts.length ≤ fuel) (rest : List Char) :
    items? item? close fuel (joined [','] (parts.map chars) ++ close :: rest) =
      some (parts.map value, rest) := by
  induction parts generalizing fuel with
  | nil => exact absurd rfl some_
  | cons part parts ih =>
    obtain _ | fuel := fuel
    · cases enough
    obtain ⟨here, later⟩ := List.forall_mem_cons.1 reads
    cases parts with
    | nil =>
      have last := here close rest (.inr rfl)
      rw [List.map_singleton, joined, List.intercalate_singleton, items?, last]
      exact if_pos rfl
    | cons next parts =>
      have more := ih later (List.cons_ne_nil _ _) (Nat.le_of_succ_le_succ enough)
      have cut : joined [','] ((part :: next :: parts).map chars) ++ close :: rest =
          chars part ++ ',' :: (joined [','] ((next :: parts).map chars) ++ close :: rest) := by
        simp [joined, List.intercalate_cons_cons]
      rw [cut, items?, here _ _ (.inl rfl)]
      show (if ',' = close then _ else (items? item? close fuel _).map _) = _
      rw [if_neg other.symm, more]
      rfl

theorem list?_nil {blanks : List Char} (gap : Gap blanks) (visible : isBlank close = false)
    (fuel : Nat) (rest : List Char) :
    list? item? close fuel (blanks ++ close :: rest) = some ([], rest) := by
  have closed : skip (blanks ++ close :: rest) = close :: rest := by
    rw [skip_gap_append gap, skip_of_head visible]
  rw [list?, closed, List.head?_cons, if_pos rfl, List.tail_cons]

theorem list?_joined (other : close ≠ ',') (begins : ∀ part ∈ parts, ∀ rest,
      (skip (chars part ++ rest)).head? ≠ some close)
    (reads : ∀ part ∈ parts, ∀ c rest, c = ',' ∨ c = close →
      item? (chars part ++ c :: rest) = some (value part, c :: rest)) (some_ : parts ≠ [])
    {fuel : Nat} (enough : parts.length ≤ fuel) (rest : List Char) :
    list? item? close fuel (joined [','] (parts.map chars) ++ close :: rest) =
      some (parts.map value, rest) := by
  have opens : (skip (joined [','] (parts.map chars) ++ close :: rest)).head? ≠ some close := by
    cases parts with
    | nil => exact absurd rfl some_
    | cons part parts =>
      have first := begins part List.mem_cons_self
      cases parts with
      | nil => simpa [joined] using first (close :: rest)
      | cons next parts => simpa [joined, List.intercalate_cons_cons] using first _
  rw [list?, if_neg opens, items?_joined other reads some_ enough]

end Lists

/-! ### Reading values -/

/-- No number or word goes on at the front of this text. -/
def Ends (rest : List Char) : Prop :=
  ∀ c ∈ rest.head?, isWordChar c = false

theorem ends_gap_append {gap rest : List Char} (h : Gap gap) (ends : Ends rest) :
    Ends (gap ++ rest) := by
  cases gap with
  | nil => exact ends
  | cons c gap =>
    intro d here
    obtain rfl := Option.mem_some.1 here
    have blank := h c List.mem_cons_self
    simp only [isBlank, Bool.or_eq_true, beq_iff_eq] at blank
    rcases blank with ((rfl | rfl) | rfl) | rfl <;> rfl

/-- A number or a word is read whole. -/
theorem value?_word {word : List Char} (chars : word.all isWordChar = true) {c : Char}
    (first : word.head? = some c) {fuel : Nat} {rest : List Char} (ends : Ends rest) :
    value? (fuel + 1) (word ++ rest) = some (ofWord word, rest) := by
  have all : ∀ c ∈ word, isWordChar c = true := List.all_eq_true.1 chars
  have behind : rest.takeWhile isWordChar = [] ∧ rest.dropWhile isWordChar = rest := by
    cases rest with
    | nil => exact ⟨rfl, rfl⟩
    | cons d rest =>
      have other := ends d rfl
      exact ⟨List.takeWhile_cons_of_neg (by simp [other]),
        List.dropWhile_cons_of_neg (by simp [other])⟩
  have here : isWordChar c = true := all c (List.mem_of_head? first)
  have mark {d : Char} (h : isWordChar d = false) (cs : List Char) : word ++ rest ≠ d :: cs := by
    cases word with
    | nil => cases first
    | cons e word =>
      obtain rfl := Option.some.inj first
      intro same
      obtain rfl := (List.cons.inj same).1
      cases h.symm.trans here
  rw [value?]
  · rw [List.takeWhile_append_of_pos all, List.dropWhile_append_of_pos all, behind.1, behind.2,
      List.append_nil]
  · exact fun cs => mark rfl cs
  · exact fun cs => mark rfl cs
  · exact fun cs => mark rfl cs

theorem isWordChar_of_isDigit {c : Char} (h : c.isDigit = true) : isWordChar c = true := by
  simp [isWordChar, Char.isAlphanum, h]

theorem Digits.all {cs : List Char} (h : Digits cs) : cs.all isWordChar = true :=
  List.all_eq_true.2 fun c here => isWordChar_of_isDigit (List.all_eq_true.1 h.2 c here)

theorem IsNumber.all {text : List Char} (h : IsNumber text) : text.all isWordChar = true := by
  obtain ⟨sign, whole, fraction, exponent, rfl, minus, digits, point, power⟩ := h
  have ofSign : sign.all isWordChar = true := by
    rcases minus with rfl | rfl <;> rfl
  have ofFraction : fraction.all isWordChar = true := by
    rcases point with rfl | ⟨ds, rfl, digits⟩
    · rfl
    · exact Bool.and_eq_true_iff.2 ⟨rfl, digits.all⟩
  have ofExponent : exponent.all isWordChar = true := by
    rcases power with rfl | ⟨mark, sign, ds, rfl, mark_, sign_, digits⟩
    · rfl
    · have ofMark : isWordChar mark = true := by
        rcases mark_ with rfl | rfl <;> rfl
      have ofSign : sign.all isWordChar = true := by
        rcases sign_ with rfl | rfl | rfl <;> rfl
      rw [List.cons_append, List.all_cons, List.all_append, ofMark, ofSign, digits.all]
      rfl
  rw [List.all_append, List.all_append, List.all_append, ofSign, digits.1.all, ofFraction,
    ofExponent]
  rfl

/-- A number begins with a digit or with its sign. -/
theorem IsNumber.head {text : List Char} (h : IsNumber text) :
    ∃ c cs, text = c :: cs ∧ (c = '-' ∨ c.isDigit = true) := by
  obtain ⟨sign, whole, fraction, exponent, rfl, minus, digits, -⟩ := h
  rcases minus with rfl | rfl
  · obtain ⟨some_, digits⟩ := digits.1
    obtain ⟨c, cs, rfl⟩ := List.exists_cons_of_ne_nil some_
    exact ⟨c, _, rfl, .inr (List.all_eq_true.1 digits c List.mem_cons_self)⟩
  · exact ⟨'-', _, rfl, .inl rfl⟩

theorem IsNumber.ofWord {text : List Char} (h : IsNumber text) : ofWord text = .number text := by
  obtain ⟨c, cs, rfl, first⟩ := h.head
  have other {letter : Char} (noSign : letter ≠ '-') (noDigit : letter.isDigit = false)
      (word : List Char) : c :: cs ≠ letter :: word := by
    intro same
    obtain rfl := (List.cons.inj same).1
    rcases first with sign | digit
    · exact noSign sign
    · cases noDigit.symm.trans digit
  have null : c :: cs ≠ "null".toList := @other 'n' (by decide) rfl _
  have true_ : c :: cs ≠ "true".toList := @other 't' (by decide) rfl _
  have false_ : c :: cs ≠ "false".toList := @other 'f' (by decide) rfl _
  rw [Json.ofWord, if_neg null, if_neg true_, if_neg false_]

/-- No value begins with a blank or with the mark that closes an array. -/
theorem Writes.head {text : List Char} {v : Value} (h : Writes text v) :
    ∃ c cs, text = c :: cs ∧ isBlank c = false ∧ c ≠ ']' := by
  cases h with
  | null => exact ⟨_, _, rfl, rfl, by decide⟩
  | true_ => exact ⟨_, _, rfl, rfl, by decide⟩
  | false_ => exact ⟨_, _, rfl, rfl, by decide⟩
  | number number =>
    obtain ⟨c, cs, rfl, sign | digit⟩ := number.head
    · exact ⟨c, cs, rfl, sign ▸ rfl, sign ▸ by decide⟩
    · have other {d : Char} (noDigit : d.isDigit = false) : c ≠ d := by
        rintro rfl
        cases noDigit.symm.trans digit
      exact ⟨c, cs, rfl, by simp [isBlank, other], other rfl⟩
  | string written =>
    obtain ⟨inside, rfl, -⟩ := written
    exact ⟨_, _, rfl, rfl, by decide⟩
  | emptyArray => exact ⟨_, _, rfl, rfl, by decide⟩
  | array => exact ⟨_, _, rfl, rfl, by decide⟩
  | emptyObject => exact ⟨_, _, rfl, rfl, by decide⟩
  | object => exact ⟨_, _, rfl, rfl, by decide⟩

theorem skip_chars {e : Element} (spaced : e.Spaced) {v : Value} (writes : Writes e.text v)
    (rest : List Char) : skip (e.chars ++ rest) = e.text ++ (e.after ++ rest) := by
  obtain ⟨c, cs, begins, visible, -⟩ := writes.head
  rw [Element.chars, List.append_assoc, List.append_assoc, skip_gap_append spaced.1, begins,
    List.cons_append, skip_of_head visible]

theorem head?_skip_chars {e : Element} (spaced : e.Spaced) {v : Value} (writes : Writes e.text v)
    (rest : List Char) : (skip (e.chars ++ rest)).head? ≠ some ']' := by
  obtain ⟨c, cs, begins, -, open_⟩ := writes.head
  rw [skip_chars spaced writes, begins, List.cons_append, List.head?_cons]
  exact fun closed => open_ (Option.some.inj closed)

theorem skip_member {m : Member} (sound : m.Sound) (rest : List Char) :
    skip (m.chars ++ rest) = m.nameText ++ (m.after ++ ':' :: (m.element.chars ++ rest)) := by
  obtain ⟨before, -, ⟨inside, begins, -⟩, -⟩ := sound
  rw [Member.chars, List.append_assoc, List.append_assoc, List.append_assoc, skip_gap_append before,
    begins]
  exact skip_of_head rfl _

theorem head?_skip_member {m : Member} (sound : m.Sound) (rest : List Char) :
    (skip (m.chars ++ rest)).head? = some '"' := by
  obtain ⟨inside, begins, -⟩ := sound.2.2.1
  rw [skip_member sound, begins]
  rfl

section Items
variable {read? : List Char → Option (Value × List Char)} {c : Char} (visible : isBlank c = false)
  (mark : isWordChar c = false)
include visible mark

theorem element?_chars {e : Element} (spaced : e.Spaced) (writes : Writes e.text e.value)
    (reads : ∀ rest, Ends rest → read? (e.text ++ rest) = some (e.value, rest)) (rest : List Char) :
    element? read? (e.chars ++ c :: rest) = some (e.value, c :: rest) := by
  have ends : Ends (e.after ++ c :: rest) := by
    refine ends_gap_append spaced.2 fun d here => ?_
    obtain rfl := Option.mem_some.1 here
    exact mark
  rw [element?, skip_chars spaced writes, reads _ ends]
  show some (e.value, skip (e.after ++ c :: rest)) = _
  rw [skip_gap_append spaced.2, skip_of_head visible]

theorem member?_chars {m : Member} (sound : m.Sound) (writes : Writes m.element.text m.element.value)
    (reads : ∀ rest, Ends rest → read? (m.element.text ++ rest) = some (m.element.value, rest))
    {fuel : Nat} (enough : m.nameText.length ≤ fuel) (rest : List Char) :
    member? fuel read? (m.chars ++ c :: rest) = some (m.value, c :: rest) := by
  rw [member?, skip_member sound]
  obtain ⟨-, after, named, spaced⟩ := sound
  rw [named.string? enough]
  show (element? read? (skip (m.after ++ ':' :: _)).tail).map _ = _
  rw [skip_gap_append after, skip_of_head rfl, List.tail_cons,
    element?_chars visible mark spaced writes reads]
  rfl

end Items

/-- What stands behind an item is no blank and no part of a number or a word. -/
theorem mark_cases {c close : Char} (visible : isBlank close = false)
    (mark : isWordChar close = false) (h : c = ',' ∨ c = close) :
    isBlank c = false ∧ isWordChar c = false := by
  rcases h with rfl | rfl
  · exact ⟨rfl, rfl⟩
  · exact ⟨visible, mark⟩

theorem value?_openArray (fuel : Nat) (inside rest : List Char) :
    value? (fuel + 1) ('[' :: inside ++ [']'] ++ rest) =
      (list? (element? (value? fuel)) ']' fuel (inside ++ ']' :: rest)).map (·.map .array id) := by
  rw [List.cons_append, List.cons_append, List.append_assoc, value?]
  rfl

theorem value?_openObject (fuel : Nat) (inside rest : List Char) :
    value? (fuel + 1) ('\x7b' :: inside ++ ['\x7d'] ++ rest) =
      (list? (member? fuel (value? fuel)) '\x7d' fuel (inside ++ '\x7d' :: rest)).map
        (·.map .object id) := by
  rw [List.cons_append, List.cons_append, List.append_assoc, value?]
  rfl

/-- A value is read whole, when there is fuel for its characters. -/
theorem Writes.value? {text : List Char} {v : Value} (h : Writes text v) {fuel : Nat}
    (enough : text.length ≤ fuel) {rest : List Char} (ends : Ends rest) :
    value? fuel (text ++ rest) = some (v, rest) := by
  obtain _ | fuel := fuel
  · obtain ⟨c, cs, rfl, -⟩ := h.head
    cases enough
  -- The brackets of a list are two characters more than its items have, so that one unit of fuel
  -- less is enough for each of these.
  induction h generalizing fuel rest with
  | null => exact value?_word rfl rfl ends
  | true_ => exact value?_word rfl rfl ends
  | false_ => exact value?_word rfl rfl ends
  | number number =>
    obtain ⟨c, cs, first, -⟩ := number.head
    rw [value?_word number.all (congrArg List.head? first) ends, number.ofWord]
  | string written =>
    have read := written.string? enough rest
    obtain ⟨inside, rfl, -⟩ := written
    show (Json.string? (fuel + 1) _).map _ = _
    rw [read]
    rfl
  | emptyArray gap =>
    rw [value?_openArray, list?_nil gap rfl]
    rfl
  | @array elements some_ spaced writes ih =>
    obtain ⟨many, within⟩ := enough_of_length enough
    rw [List.length_map] at many
    rw [List.forall_mem_map] at within
    have reads : ∀ e ∈ elements, ∀ c rest, c = ',' ∨ c = ']' →
        element? (Json.value? fuel) (e.chars ++ c :: rest) = some (e.value, c :: rest) := by
      intro e here c rest mark
      have short := within e here
      obtain _ | fuel := fuel
      · cases short
      have marked := mark_cases rfl rfl mark
      refine element?_chars marked.1 marked.2 (spaced e here) (writes e here) (fun rest ends => ?_) rest
      refine ih e here ends _ ?_
      simp only [Element.chars, List.length_append] at short
      omega
    rw [value?_openArray, list?_joined (by decide) (fun e here =>
      head?_skip_chars (spaced e here) (writes e here)) reads some_ many]
    rfl
  | emptyObject gap =>
    rw [value?_openObject, list?_nil gap rfl]
    rfl
  | @object members some_ sound writes ih =>
    obtain ⟨many, within⟩ := enough_of_length enough
    rw [List.length_map] at many
    rw [List.forall_mem_map] at within
    have reads : ∀ m ∈ members, ∀ c rest, c = ',' ∨ c = '\x7d' →
        member? fuel (Json.value? fuel) (m.chars ++ c :: rest) = some (m.value, c :: rest) := by
      intro m here c rest mark
      have short := within m here
      simp only [Member.chars, Element.chars, List.length_append, List.length_cons] at short
      obtain _ | fuel := fuel
      · cases short
      have marked := mark_cases rfl rfl mark
      refine member?_chars marked.1 marked.2 (sound m here) (writes m here) (fun rest ends => ?_)
        (by omega) rest
      exact ih m here ends _ (by omega)
    have open_ : ∀ m ∈ members, ∀ rest, (skip (m.chars ++ rest)).head? ≠ some '\x7d' := by
      intro m here rest
      rw [head?_skip_member (sound m here)]
      decide
    rw [value?_openObject, list?_joined (by decide) open_ reads some_ many]
    rfl

/-! ### Documents -/

/-- What the grammar derives, the reader finds. -/
theorem Document.value? {text : List Char} {v : Value} (h : Document text v) :
    ∃ rest, Json.value? text.length (skip text) = some (v, rest) := by
  obtain ⟨before, inside, after, rfl, gap, gap', writes⟩ := h
  obtain ⟨c, cs, begins, visible, -⟩ := writes.head
  have front : skip (before ++ inside ++ after) = inside ++ after := by
    rw [List.append_assoc, skip_gap_append gap, begins, List.cons_append, skip_of_head visible]
  have ends : Ends after := by
    rw [← List.append_nil after]
    exact ends_gap_append gap' fun _ none => by cases none
  have enough : inside.length ≤ (before ++ inside ++ after).length := by
    simp only [List.length_append]
    omega
  exact ⟨after, front ▸ writes.value? enough ends⟩

/-- **A text is one value at most.** -/
theorem Document.unique {text : List Char} {v w : Value} (h : Document text v)
    (h' : Document text w) : v = w := by
  obtain ⟨rest, read⟩ := h.value?
  obtain ⟨rest', read'⟩ := h'.value?
  exact congrArg Prod.fst (Option.some.inj (read.symm.trans read'))

end Almanac.Json
