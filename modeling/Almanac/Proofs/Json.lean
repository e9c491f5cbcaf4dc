import Almanac.Json
import Mathlib.Tactic.SplitIfs

/-! Reading JSON text of a list of records.

The reader works in two passes. The first (`scan`) knows blanks, marks and strings, and undoes the
escapes; the second (`readRecords`) puts the tokens together. Both forms of the text scan to the
same tokens (`scans_compact`, `scans_pretty`), and from these the records are read back, member for
member and character for character (`read?_compact`, `read?_pretty_line`). -/
namespace Almanac.Json

/-! ### Tokens -/

/-- A part of a JSON text that has a meaning. -/
inductive Token
  | openList
  | closeList
  | openRecord
  | closeRecord
  | colon
  | comma
  | string (s : String)
deriving DecidableEq

/-- The token that a single character is. -/
def Token.ofChar? : Char → Option Token
  | '[' => some .openList
  | ']' => some .closeList
  | '\x7b' => some .openRecord
  | '\x7d' => some .closeRecord
  | ':' => some .colon
  | ',' => some .comma
  | _ => none

/-- Whether a character may stand between tokens. -/
def isBlank (c : Char) : Bool :=
  c == ' ' || c == '\t' || c == '\n' || c == '\r'

/-- The value of a digit of base sixteen, in letters of either case. -/
def hexValue? (c : Char) : Option Nat :=
  if c.isDigit then some (c.toNat - '0'.toNat)
  else if 'a' ≤ c ∧ c ≤ 'f' then some (c.toNat - 'a'.toNat + 10)
  else if 'A' ≤ c ∧ c ≤ 'F' then some (c.toNat - 'A'.toNat + 10)
  else none

/-- The character with a code point in base sixteen. Half of a surrogate pair is no character. -/
def ofHex? (digits : List Char) : Option Char := do
  let values ← digits.mapM hexValue?
  let code := values.foldl (fun code value => 16 * code + value) 0
  if code.isValidChar then some (Char.ofNat code) else none

/-- The character that stands after a backslash in the place of another. -/
def ofLetter? : Char → Option Char
  | '"' => some '"'
  | '\\' => some '\\'
  | '/' => some '/'
  | 'b' => some '\x08'
  | 'f' => some '\x0c'
  | 'n' => some '\n'
  | 'r' => some '\r'
  | 't' => some '\t'
  | _ => none

mutual

/-- The tokens of a text. -/
def scan : List Char → Option (List Token)
  | [] => some []
  | c :: cs =>
    if c = '"' then scanString [] cs
    else if isBlank c then scan cs
    else do
      let token ← Token.ofChar? c
      let tokens ← scan cs
      some (token :: tokens)

/-- The tokens of a text that begins inside a string of which some characters were read. -/
def scanString (read : List Char) : List Char → Option (List Token)
  | '\\' :: 'u' :: a :: b :: c :: d :: cs => do
    let char ← ofHex? [a, b, c, d]
    scanString (read ++ [char]) cs
  | '\\' :: letter :: cs => do
    let char ← ofLetter? letter
    scanString (read ++ [char]) cs
  | c :: cs =>
    if c = '"' then (scan cs).map (.string (String.ofList read) :: ·)
    else if c.toNat < 0x20 then none
    else scanString (read ++ [c]) cs
  | [] => none

end

/-! ### Records -/

mutual

/-- The records from the next on, when those before it were read. -/
def readRecords (records : List Record) : List Token → Option (List Record)
  | .openRecord :: .closeRecord :: tokens => readSeparator (records ++ [[]]) tokens
  | .openRecord :: tokens => readMembers records [] tokens
  | _ => none

/-- The records from the next member of one on. -/
def readMembers (records : List Record) (record : Record) : List Token → Option (List Record)
  | .string key :: .colon :: .string value :: .comma :: tokens =>
    readMembers records (record ++ [(key, value)]) tokens
  | .string key :: .colon :: .string value :: .closeRecord :: tokens =>
    readSeparator (records ++ [record ++ [(key, value)]]) tokens
  | _ => none

/-- The records, when at least one was read. -/
def readSeparator (records : List Record) : List Token → Option (List Record)
  | [.closeList] => some records
  | .comma :: tokens => readRecords records tokens
  | _ => none

end

/-- The records that a list of tokens writes. -/
def ofTokens? : List Token → Option (List Record)
  | [.openList, .closeList] => some []
  | .openList :: tokens => readRecords [] tokens
  | _ => none

/-- The records that a JSON text writes. -/
def read? (text : String) : Option (List Record) := do
  let tokens ← scan text.toList
  ofTokens? tokens

/-! ### Scanning what was written -/

/-- Whatever follows a text, it scans to tokens of its own. -/
def Scans (text : List Char) (tokens : List Token) : Prop :=
  ∀ rest, scan (text ++ rest) = (scan rest).map (tokens ++ ·)

theorem Scans.append {text text' : List Char} {tokens tokens' : List Token}
    (h : Scans text tokens) (h' : Scans text' tokens') :
    Scans (text ++ text') (tokens ++ tokens') := by
  intro rest
  rw [List.append_assoc, h, h', Option.map_map]
  congr 1
  funext rest
  exact (List.append_assoc _ _ _).symm

theorem scans_nil : Scans [] [] := fun _ => Option.map_id'.symm

theorem scans_blanks {blanks : List Char} (h : ∀ c ∈ blanks, isBlank c = true) :
    Scans blanks [] := by
  induction blanks with
  | nil => exact scans_nil
  | cons c blanks ih =>
    obtain ⟨blank, h⟩ := List.forall_mem_cons.1 h
    have noQuote : c ≠ '"' := by
      rintro rfl
      cases blank
    intro rest
    rw [List.cons_append, scan, if_neg noQuote, if_pos blank]
    exact ih h rest

theorem scans_mark {c : Char} {token : Token} (h : Token.ofChar? c = some token) :
    Scans [c] [token] := by
  have noQuote : c ≠ '"' := by
    rintro rfl
    cases h
  have noBlank : ¬ isBlank c = true := by
    intro blank
    simp only [isBlank, Bool.or_eq_true, beq_iff_eq] at blank
    rcases blank with ((rfl | rfl) | rfl) | rfl <;> cases h
  intro rest
  rw [List.singleton_append, scan, if_neg noQuote, if_neg noBlank, h]
  cases scan rest with
  | none => rfl
  | some tokens => rfl

/-- A control is written by four digits, two of which are zeros. -/
theorem digits_control {c : Char} (h : c.toNat < 0x20) :
    List.replicate (4 - (Text.hexDigits c.toNat).length) '0' ++ Text.hexDigits c.toNat =
      ['0', '0', Nat.digitChar (c.toNat / 16), Nat.digitChar (c.toNat % 16)] := by
  have all : ∀ n < 0x20, List.replicate (4 - (Text.hexDigits n).length) '0' ++
      Text.hexDigits n = ['0', '0', Nat.digitChar (n / 16), Nat.digitChar (n % 16)] := by
    decide +kernel
  exact all _ h

/-- The digits of a control's code point name it. -/
theorem ofHex?_control {c : Char} (h : c.toNat < 0x20) :
    ofHex? ['0', '0', Nat.digitChar (c.toNat / 16), Nat.digitChar (c.toNat % 16)] = some c := by
  have all : ∀ n < 0x20, ofHex? ['0', '0', Nat.digitChar (n / 16), Nat.digitChar (n % 16)] =
      some (Char.ofNat n) := by
    decide +kernel
  rw [all _ h, Char.ofNat_toNat]

theorem scanString_control {c : Char} (h : c.toNat < 0x20) (read rest : List Char) :
    scanString read (['\\', 'u'] ++ (List.replicate (4 - (Text.hexDigits c.toNat).length) '0' ++
      Text.hexDigits c.toNat) ++ rest) = scanString (read ++ [c]) rest := by
  rw [digits_control h]
  show scanString read ('\\' :: 'u' :: '0' :: '0' :: Nat.digitChar (c.toNat / 16) ::
    Nat.digitChar (c.toNat % 16) :: rest) = _
  rw [scanString, ofHex?_control h]
  rfl

theorem scanString_letter (letter : Char) {c : Char} (h : ofLetter? letter = some c)
    (read rest : List Char) :
    scanString read ('\\' :: letter :: rest) = scanString (read ++ [c]) rest := by
  have noCode : letter ≠ 'u' := by
    rintro rfl
    cases h
  rw [scanString, h]
  · rfl
  · exact fun _ _ _ _ _ code => absurd code noCode

theorem scanString_plain {c : Char} (noQuote : c ≠ '"') (noEscape : c ≠ '\\')
    (noControl : ¬ c.toNat < 0x20) (read rest : List Char) :
    scanString read (c :: rest) = scanString (read ++ [c]) rest := by
  rw [scanString, if_neg noQuote, if_neg noControl]
  · exact fun _ _ _ _ _ escape => absurd escape noEscape
  · exact fun _ _ escape => absurd escape noEscape

/-- What is written for a character is read as the character. -/
theorem scanString_escape (c : Char) (read rest : List Char) :
    scanString read (escape c ++ rest) = scanString (read ++ [c]) rest := by
  unfold escape
  split_ifs with quote backslash backspace tab feed page return_ control
  · exact scanString_letter '"' (congrArg some quote.symm) _ _
  · exact scanString_letter '\\' (congrArg some backslash.symm) _ _
  · exact scanString_letter 'b' (congrArg some backspace.symm) _ _
  · exact scanString_letter 't' (congrArg some tab.symm) _ _
  · exact scanString_letter 'n' (congrArg some feed.symm) _ _
  · exact scanString_letter 'f' (congrArg some page.symm) _ _
  · exact scanString_letter 'r' (congrArg some return_.symm) _ _
  · exact scanString_control control _ _
  · exact scanString_plain quote backslash control _ _

theorem scanString_escaped (chars read rest : List Char) :
    scanString read (chars.flatMap escape ++ '"' :: rest) =
      (scan rest).map (.string (String.ofList (read ++ chars)) :: ·) := by
  induction chars generalizing read with
  | nil =>
    rw [List.flatMap_nil, List.nil_append, List.append_nil, scanString, if_pos rfl]
    · exact fun _ _ _ _ _ escape => absurd escape (by decide)
    · exact fun _ _ escape => absurd escape (by decide)
  | cons c chars ih =>
    rw [List.flatMap_cons, List.append_assoc, scanString_escape, ih, List.append_assoc,
      List.singleton_append]

theorem scans_string (s : String) : Scans (string s) [.string s] := by
  intro rest
  rw [string, List.cons_append, List.cons_append, List.append_assoc, scan, if_pos rfl,
    List.singleton_append, scanString_escaped, List.nil_append, String.ofList_toList]
  rfl

theorem scans_joined {α : Type} {separator : List Char} (h : Scans separator [.comma])
    {text : α → List Char} {tokens : α → List Token} (scans : ∀ a, Scans (text a) (tokens a))
    (parts : List α) :
    Scans (joined separator (parts.map text)) ([.comma].intercalate (parts.map tokens)) := by
  induction parts with
  | nil => exact scans_nil
  | cons a parts ih =>
    cases parts with
    | nil => simpa [joined] using scans a
    | cons b parts =>
      simp only [joined, List.map_cons, List.intercalate_cons_cons] at ih ⊢
      exact ((scans a).append h).append ih

/-! ### Both forms of a text -/

/-- The tokens of a member. -/
def memberTokens : String × String → List Token
  | (key, value) => [.string key, .colon, .string value]

/-- The tokens of a record. -/
def recordTokens (r : Record) : List Token :=
  .openRecord :: [.comma].intercalate (r.map memberTokens) ++ [.closeRecord]

/-- The tokens of a list of records. -/
def tokens (rs : List Record) : List Token :=
  .openList :: [.comma].intercalate (rs.map recordTokens) ++ [.closeList]

theorem scans_compactRecord (r : Record) : Scans (compactRecord r) (recordTokens r) := by
  have member (m : String × String) :
      Scans (string m.1 ++ ':' :: string m.2) (memberTokens m) :=
    (scans_string m.1).append ((scans_mark rfl).append (scans_string m.2))
  exact ((scans_mark rfl).append (scans_joined (scans_mark rfl) member r)).append (scans_mark rfl)

theorem isBlank_of_mem_newLine {level : Nat} {c : Char} (h : c ∈ newLine level) :
    isBlank c = true := by
  obtain rfl | h := List.mem_cons.1 h
  · rfl
  · obtain rfl := List.eq_of_mem_replicate h
    rfl

theorem scans_newLine (level : Nat) : Scans (newLine level) [] :=
  scans_blanks fun _ => isBlank_of_mem_newLine

/-- Line ends and blanks add no token to a block. -/
theorem scans_block {α : Type} {level : Nat} {first last : Char} {opening closing : Token}
    (hFirst : Token.ofChar? first = some opening) (hLast : Token.ofChar? last = some closing)
    {text : α → List Char} {tokens : α → List Token} (scans : ∀ a, Scans (text a) (tokens a))
    (parts : List α) : Scans (block level first last (parts.map text))
      (opening :: [.comma].intercalate (parts.map tokens) ++ [closing]) := by
  have separator : Scans (',' :: newLine (level + 1)) [.comma] :=
    (scans_mark rfl).append (scans_newLine _)
  unfold block
  split
  · next none =>
    obtain rfl := List.map_eq_nil_iff.1 (List.isEmpty_iff.1 none)
    exact (scans_mark hFirst).append (scans_mark hLast)
  · have inside := (scans_newLine (level + 1)).append (scans_joined separator scans parts)
    have end_ := (scans_newLine level).append (scans_mark hLast)
    have whole := ((scans_mark hFirst).append inside).append end_
    simpa [List.append_assoc] using whole

theorem scans_prettyRecord (r : Record) : Scans (prettyRecord r) (recordTokens r) := by
  have blank : Scans [' '] [] := scans_blanks (List.forall_mem_singleton.2 rfl)
  have member (m : String × String) :
      Scans (string m.1 ++ ':' :: ' ' :: string m.2) (memberTokens m) :=
    (scans_string m.1).append ((scans_mark rfl).append (blank.append (scans_string m.2)))
  exact scans_block rfl rfl member r

theorem scans_compact (rs : List Record) : Scans (compact rs).toList (tokens rs) := by
  rw [compact, String.toList_ofList]
  exact ((scans_mark rfl).append (scans_joined (scans_mark rfl) scans_compactRecord rs)).append
    (scans_mark rfl)

theorem scans_pretty (rs : List Record) : Scans (pretty rs).toList (tokens rs) := by
  rw [pretty, String.toList_ofList]
  exact scans_block rfl rfl scans_prettyRecord rs

/-! ### Reading the tokens -/

theorem readMembers_tokens (records : List Record) (record : Record) (m : String × String)
    (ms : List (String × String)) (rest : List Token) :
    readMembers records record
        ([Token.comma].intercalate ((m :: ms).map memberTokens) ++ .closeRecord :: rest) =
      readSeparator (records ++ [record ++ m :: ms]) rest := by
  induction ms generalizing record m with
  | nil => rfl
  | cons m' ms ih =>
    have next := ih (record ++ [m]) m'
    rw [List.append_assoc] at next
    exact next

theorem readRecords_recordTokens (records : List Record) (r : Record) (rest : List Token) :
    readRecords records (recordTokens r ++ rest) = readSeparator (records ++ [r]) rest := by
  cases r with
  | nil => rfl
  | cons m ms =>
    have members := readMembers_tokens records [] m ms rest
    have whole : recordTokens (m :: ms) ++ rest = .openRecord ::
        ([Token.comma].intercalate ((m :: ms).map memberTokens) ++ .closeRecord :: rest) := by
      simp [recordTokens]
    rw [whole]
    cases ms with
    | nil => exact members
    | cons m' ms => exact members

theorem readRecords_tokens (records : List Record) (r : Record) (rs : List Record) :
    readRecords records
        ([Token.comma].intercalate ((r :: rs).map recordTokens) ++ [.closeList]) =
      some (records ++ r :: rs) := by
  induction rs generalizing records r with
  | nil =>
    rw [List.map_singleton, List.intercalate_singleton, readRecords_recordTokens]
    rfl
  | cons r' rs ih =>
    have next := ih (records ++ [r]) r'
    rw [List.append_assoc] at next
    rw [List.map_cons, List.map_cons, List.intercalate_cons_cons, ← List.map_cons,
      List.append_assoc, List.append_assoc, readRecords_recordTokens]
    exact next

theorem ofTokens?_tokens (rs : List Record) : ofTokens? (tokens rs) = some rs := by
  cases rs with
  | nil => rfl
  | cons r rs =>
    have records := readRecords_tokens [] r rs
    cases rs with
    | nil => exact records
    | cons r' rs => exact records

/-- Both forms of a text are read alike, and blanks after them do not matter. -/
theorem read?_of_scans {text : String} {rs : List Record} (h : Scans text.toList (tokens rs))
    (blanks : String) (blank : ∀ c ∈ blanks.toList, isBlank c = true) :
    read? (text ++ blanks) = some rs := by
  have scanned := (h.append (scans_blanks blank)) []
  rw [List.append_nil, List.append_nil, ← String.toList_append] at scanned
  rw [read?, scanned, scan]
  show ofTokens? (tokens rs ++ []) = some rs
  rw [List.append_nil, ofTokens?_tokens]

/-- **Reading what was written.** The compact text of a list of records is read as these records. -/
theorem read?_compact (rs : List Record) : read? (compact rs) = some rs := by
  have read := read?_of_scans (scans_compact rs) "" (by simp)
  rwa [String.append_empty] at read

/-- So is the pretty text with the end of its last line. -/
theorem read?_pretty_line (rs : List Record) : read? (pretty rs ++ "\n") = some rs :=
  read?_of_scans (scans_pretty rs) "\n" (by simp [isBlank])

/-- The reader also knows what the writer never writes, but no more than there is to know. -/
example : read? " [ \x7b \"day\" : \"\\u0031\\/\\u004A\" \x7d ] " = some [[("day", "1/J")]] ∧
    read? "[\x7b\x7d,]" = none := by
  decide +kernel

end Almanac.Json
