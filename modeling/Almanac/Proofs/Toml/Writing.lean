import Almanac.Proofs.Text.Ascii
import Almanac.Toml.Document

/-! Writing strings into a document.

A string between double quotes may hold any character: quotes and backslashes after a backslash,
and a control by its code point. What is written in this way is read back (`string?_quoted`), and so
is an array of any number of strings (`value?_writtenArray`). A document is read statement by
statement, and fuel for each is all that the reader needs (`Reads`, `parse?_of_reads`). -/
namespace Almanac.Toml

/-! ### Strings -/

/-- A character as it may stand between double quotes. -/
def written (c : Char) : List Char :=
  if c = '"' ∨ c = '\\' then ['\\', c]
  else if isPrintable c then [c]
  else ['\\', 'u', '0', '0', Nat.digitChar (c.toNat / 16), Nat.digitChar (c.toNat % 16)]

/-- A control that is not printable is told by two digits. -/
theorem escape?_control {c : Char} (h : isPrintable c = false) (cs : List Char) :
    escape? ('u' :: '0' :: '0' :: Nat.digitChar (c.toNat / 16) :: Nat.digitChar (c.toNat % 16) ::
      cs) = some (c, 5) := by
  have ascii : c.toNat < 128 := by
    simp only [isPrintable, Bool.or_eq_false_iff, Bool.and_eq_false_iff] at h
    have : c.toNat < 0x20 ∨ c.toNat = 0x7F := by simpa using h.2
    omega
  have named : codePoint? ['0', '0', Nat.digitChar (c.toNat / 16), Nat.digitChar (c.toNat % 16)] =
      some c :=
    Text.of_ascii (P := fun c => codePoint? ['0', '0', Nat.digitChar (c.toNat / 16),
      Nat.digitChar (c.toNat % 16)] = some c) (by decide +kernel) ascii
  show (codePoint? ['0', '0', Nat.digitChar (c.toNat / 16), Nat.digitChar (c.toNat % 16)]).map
    (·, 5) = _
  rw [named]
  rfl

/-- What is written for a character is read as the character. -/
theorem basic?_step (fuel : Nat) (c : Char) (cs : List Char) :
    basic? (fuel + 1) (written c ++ cs) = (basic? fuel cs).map (·.map (c :: ·) id) := by
  unfold written
  split
  · next marked =>
    rcases marked with rfl | rfl
    · rfl
    · rfl
  · next plain =>
    rw [not_or] at plain
    split
    · next printable =>
      rw [List.singleton_append, basic?, if_pos printable]
      · exact plain.1
      · exact plain.2
    · next control =>
      show basic? (fuel + 1) ('\\' :: 'u' :: '0' :: '0' :: Nat.digitChar (c.toNat / 16) ::
        Nat.digitChar (c.toNat % 16) :: cs) = _
      rw [basic?, escape?_control (by simpa using control)]
      rfl

theorem basic?_written {chars : List Char} {fuel : Nat} (enough : chars.length < fuel)
    (rest : List Char) :
    basic? fuel (chars.flatMap written ++ '"' :: rest) = some (chars, rest) := by
  induction chars generalizing fuel with
  | nil =>
    obtain _ | fuel := fuel
    · cases enough
    · rfl
  | cons c chars ih =>
    obtain _ | fuel := fuel
    · cases enough
    · rw [List.flatMap_cons, List.append_assoc, basic?_step, ih (Nat.lt_of_succ_lt_succ enough)]
      rfl

/-- No character is written as nothing, and none so that it begins with a quote. -/
theorem exists_written_eq_cons (c : Char) : ∃ d ds, written c = d :: ds ∧ d ≠ '"' := by
  unfold written
  split
  · exact ⟨_, _, rfl, by decide⟩
  · next plain =>
    split
    · exact ⟨_, _, rfl, fun quote => plain (.inl quote)⟩
    · exact ⟨_, _, rfl, by decide⟩

theorem written_ne_nil (c : Char) : written c ≠ [] := by
  obtain ⟨d, ds, begins, -⟩ := exists_written_eq_cons c
  exact begins ▸ List.cons_ne_nil d ds

/-- What is written for a list is no shorter than the list. -/
theorem length_le_flatMap {α : Type} {write : α → List Char} (some_ : ∀ a, write a ≠ [])
    (parts : List α) : parts.length ≤ (parts.flatMap write).length := by
  induction parts with
  | nil => exact Nat.zero_le _
  | cons a parts ih =>
    have := List.length_pos_iff.2 (some_ a)
    rw [List.flatMap_cons, List.length_append, List.length_cons]
    omega

/-- A text between double quotes. -/
def quoted (text : String) : List Char :=
  '"' :: text.toList.flatMap written ++ ['"']

/-- A text is read whole, the empty one too: its quotes are two in a row and not three. -/
theorem string?_quoted (text : String) {c : Char} (other : c ≠ '"') (rest : List Char) :
    string? (quoted text ++ c :: rest) = some (text, c :: rest) := by
  have split_ : quoted text ++ c :: rest =
      '"' :: (text.toList.flatMap written ++ '"' :: c :: rest) := by
    simp [quoted]
  have single (cs : List Char) :
      text.toList.flatMap written ++ '"' :: c :: rest ≠ '"' :: '"' :: cs := by
    cases text.toList with
    | nil => simp [other]
    | cons d chars =>
      obtain ⟨d, ds, begins, other⟩ := exists_written_eq_cons d
      simp [begins, other]
  have short : shortString? ('"' :: (text.toList.flatMap written ++ '"' :: c :: rest)) =
      some (text, c :: rest) := by
    have enough := length_le_flatMap written_ne_nil text.toList
    rw [shortString?, basic?_written (by rw [List.length_append]; omega)]
    simp
  rw [split_, string?, short]
  · exact fun cs three => single cs (List.cons.inj three).2
  · simp

theorem value?_quoted (depth : Nat) (text : String) {c : Char} (other : c ≠ '"')
    (rest : List Char) :
    value? depth (quoted text ++ c :: rest) = some (.string text, c :: rest) := by
  have leaf : leaf? (quoted text ++ c :: rest) = some (.string text, c :: rest) := by
    show (string? (quoted text ++ c :: rest)).map _ = _
    rw [string?_quoted text other]
    rfl
  cases depth with
  | zero => exact leaf
  | succ depth => exact leaf

/-! ### Arrays of strings -/

/-- A string with the line end in front of it and the comma after it. -/
def item (text : String) : List Char :=
  '\n' :: quoted text ++ [',']

theorem item_ne_nil (text : String) : item text ≠ [] :=
  List.cons_ne_nil _ _

theorem parts?_item (depth fuel : Nat) (text : String) (rest : List Char) :
    parts? (value? depth) ']' (fuel + 1) (item text ++ rest) =
      (parts? (value? depth) ']' fuel rest).map (·.map (.string text :: ·) id) := by
  have front : skipSpace false (item text ++ rest) = some (quoted text ++ ',' :: rest) := by
    rw [item, List.append_assoc]
    rfl
  have begins : quoted text ++ ',' :: rest =
      '"' :: (text.toList.flatMap written ++ ['"'] ++ ',' :: rest) := rfl
  have value := value?_quoted depth text (by decide : ',' ≠ '"') rest
  rw [begins] at front value
  rw [parts?, front]
  show (value? depth _ >>= _) = _
  rw [value]
  rfl

/-- What is written for a list of strings is read as the strings. -/
theorem parts?_items {depth : Nat} {texts : List String} {fuel : Nat}
    (enough : texts.length < fuel) (rest : List Char) :
    parts? (value? depth) ']' fuel (texts.flatMap item ++ '\n' :: ']' :: rest) =
      some (texts.map .string, rest) := by
  induction texts generalizing fuel with
  | nil =>
    obtain _ | fuel := fuel
    · cases enough
    · rfl
  | cons text texts ih =>
    obtain _ | fuel := fuel
    · cases enough
    · rw [List.flatMap_cons, List.append_assoc, parts?_item,
        ih (Nat.lt_of_succ_lt_succ enough)]
      rfl

/-- An array of strings, one to a line. -/
def writtenArray (texts : List String) : List Char :=
  '[' :: (texts.flatMap item ++ ['\n', ']'])

theorem value?_writtenArray (depth : Nat) (texts : List String) (rest : List Char) :
    value? (depth + 1) (writtenArray texts ++ rest) = some (.array (texts.map .string), rest) := by
  have enough := length_le_flatMap item_ne_nil texts
  have begins : writtenArray texts ++ rest =
      '[' :: (texts.flatMap item ++ '\n' :: ']' :: rest) := by
    simp [writtenArray]
  rw [begins, value?, parts?_items (by rw [List.length_append]; omega)]
  rfl

/-! ### Statements -/

theorem keyValue?_eq_some {gap? : List Char → Option (List Char)}
    {value? : List Char → Option (Value × List Char)} {path : List String} {value : Value}
    {cs afterKeys afterSign front rest : List Char} (keys : keys? cs = some (path, afterKeys))
    (sign : gap? afterKeys = some ('=' :: afterSign)) (gap : gap? afterSign = some front)
    (read : value? front = some (value, rest)) :
    keyValue? gap? value? cs = some ((path, value), rest) := by
  rw [keyValue?, keys]
  show (gap? afterKeys >>= _) = _
  rw [sign]
  show (gap? afterSign >>= fun front => value? front >>= _) = _
  rw [gap]
  show (value? front >>= _) = _
  rw [read]
  rfl

/-- A key without quotes, up to the blank and the sign behind it. -/
theorem keys?_word {word : List Char} (ne : word ≠ []) (chars : word.all isKeyChar = true)
    (rest : List Char) :
    keys? (word ++ ' ' :: '=' :: rest) = some ([String.ofList word], '=' :: rest) := by
  have take : (word ++ ' ' :: '=' :: rest).takeWhile isKeyChar = word := by
    rw [List.takeWhile_append_of_pos (List.all_eq_true.1 chars)]
    exact List.append_nil word
  have drop : (word ++ ' ' :: '=' :: rest).dropWhile isKeyChar = ' ' :: '=' :: rest := by
    rw [List.dropWhile_append_of_pos (List.all_eq_true.1 chars)]
    rfl
  have key : key? (word ++ ' ' :: '=' :: rest) = some (String.ofList word, ' ' :: '=' :: rest) := by
    unfold key?
    rw [take, drop]
    split
    · exact absurd rfl ne
    · rfl
  rw [keys?, path?, key]
  rfl

/-- A line that gives a key a value. -/
def line (word value : List Char) : List Char :=
  word ++ ' ' :: '=' :: ' ' :: value ++ ['\n']

/-- A line is read when its value is. -/
theorem statement?_line {word written : List Char} {value : Value} {rest : List Char}
    (ne : word ≠ []) (chars : word.all isKeyChar = true)
    (solid : skipBlanks (written ++ '\n' :: rest) = written ++ '\n' :: rest)
    (read : value? deepest (written ++ '\n' :: rest) = some (value, '\n' :: rest)) :
    statement? (line word written ++ rest) =
      some (.assign [String.ofList word] value, '\n' :: rest) := by
  have whole : line word written ++ rest = word ++ ' ' :: '=' :: ' ' :: (written ++ '\n' :: rest) := by
    simp [line]
  have given : keyValue? (some ∘ skipBlanks) (value? deepest) (line word written ++ rest) =
      some (([String.ofList word], value), '\n' :: rest) := by
    rw [whole]
    exact keyValue?_eq_some (keys?_word ne chars _) rfl (congrArg some solid) read
  have noHeader (cs : List Char) : line word written ++ rest ≠ '[' :: cs := by
    cases word with
    | nil => exact absurd rfl ne
    | cons c word =>
      intro header
      obtain rfl : c = '[' := (List.cons.inj header).1
      exact absurd (List.all_eq_true.1 chars _ List.mem_cons_self) (by decide)
  rw [statement?, given]
  · rfl
  · exact fun cs => noHeader _
  · exact fun cs => noHeader _

/-- What a text is read as when there is fuel enough. -/
def Reads (cs : List Char) (statements : List Statement) : Prop :=
  ∀ fuel, statements.length < fuel → statements? fuel cs = some statements

theorem reads_nil : Reads [] [] := by
  intro fuel enough
  obtain _ | fuel := fuel
  · cases enough
  · rfl

/-- Statements are read one after the other. -/
theorem Reads.cons {cs rest rest' : List Char} {statement : Statement}
    {statements : List Statement} (others : Reads rest' statements)
    (front : skipSpace false cs = some cs) (read : statement? cs = some (statement, rest))
    (ended : skipLineEnd rest = some rest') : Reads cs (statement :: statements) := by
  intro fuel enough
  obtain _ | fuel := fuel
  · cases enough
  · cases cs with
    | nil => cases read
    | cons c cs =>
      rw [statements?, front]
      show (statement? (c :: cs) >>= _) = _
      rw [read]
      show (skipLineEnd rest >>= _) = _
      rw [ended]
      show (statements? fuel rest').map _ = _
      rw [others fuel (Nat.lt_of_succ_lt_succ enough)]
      rfl

theorem skipSpace_keyChar {c : Char} (h : isKeyChar c = true) (cs : List Char) :
    skipSpace false (c :: cs) = some (c :: cs) := by
  have other {d : Char} (hd : isKeyChar d = false) : c ≠ d := fun same => by
    cases (same ▸ h).symm.trans hd
  have solid : isBlank c = false := by
    simp [isBlank, other (d := ' ') (by decide), other (d := '\t') (by decide)]
  rw [skipSpace, solid]
  · rfl
  · exact other (by decide)
  · exact fun cs same _ => other (by decide) same
  · exact other (by decide)

/-- Lines that give keys values are read one after the other. -/
theorem Reads.line {word written : List Char} {value : Value} {rest : List Char}
    {statements : List Statement} (others : Reads rest statements) (ne : word ≠ [])
    (chars : word.all isKeyChar = true)
    (solid : skipBlanks (written ++ '\n' :: rest) = written ++ '\n' :: rest)
    (read : value? deepest (written ++ '\n' :: rest) = some (value, '\n' :: rest)) :
    Reads (Toml.line word written ++ rest) (.assign [String.ofList word] value :: statements) := by
  refine others.cons ?_ (statement?_line ne chars solid read) rfl
  cases word with
  | nil => exact absurd rfl ne
  | cons c word => exact skipSpace_keyChar (List.all_eq_true.1 chars c List.mem_cons_self) _

section Lines
variable {word rest : List Char} {statements : List Statement} (others : Reads rest statements)
  (ne : word ≠ []) (chars : word.all isKeyChar = true)
include others ne chars

theorem Reads.array (texts : List String) : Reads (Toml.line word (writtenArray texts) ++ rest)
    (.assign [String.ofList word] (.array (texts.map .string)) :: statements) :=
  others.line ne chars rfl (value?_writtenArray 79 texts ('\n' :: rest))

theorem Reads.text (text : String) : Reads (Toml.line word (quoted text) ++ rest)
    (.assign [String.ofList word] (.string text) :: statements) :=
  others.line ne chars rfl (value?_quoted deepest text (by decide) rest)

end Lines

theorem parse?_of_reads {cs : List Char} {statements : List Statement}
    (reads : Reads cs statements) (unmarked : cs.head? ≠ some '\ufeff')
    (enough : statements.length ≤ cs.length) :
    parse? (String.ofList cs) = tableOf? statements := by
  have front : parse? (String.ofList cs) = statements? (cs.length + 1) cs >>= tableOf? := by
    unfold parse?
    rw [String.toList_ofList]
    dsimp only
    split
    · exact absurd rfl unmarked
    · rfl
  rw [front, reads _ (Nat.lt_succ_of_le enough)]
  rfl

end Almanac.Toml
