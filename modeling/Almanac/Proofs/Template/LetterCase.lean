import Almanac.Proofs.Template.FieldOutcome
import Mathlib.Data.List.Forall2

/-! The case of letters.

ASCII letters may be written in either case anywhere in a template. The work on a template whose
letters are put in capitals is the work on the template itself, stage by stage (`split_toUpper`,
`ofText_toUpper`, `resolve_toUpper`), since no character that a stage looks for is a letter, up to
the point where a field is put in upper case. Only the one fault that holds the text of a field as
written shows the case (`Fault.capitals`), so templates that differ in case come to the same but for
that text (`resolve_recased`). -/
namespace Almanac

namespace Fault

/-- A fault with ASCII capitals in the text that it holds as written. -/
def capitals : Fault → Fault
  | .invalidValue field text => .invalidValue field text.toUpper
  | fault => fault

/-- Whether a fault holds the text of a field as written. -/
def Echoes (fault : Fault) : Prop :=
  ∃ field text, fault = .invalidValue field text

theorem capitals_of_not_echoes {fault : Fault} (h : ¬ fault.Echoes) :
    fault.capitals = fault := by
  cases fault with
  | invalidValue field text => exact absurd ⟨field, text, rfl⟩ h
  | _ => rfl

/-- Faults with the same capitals are the same, or differ in the text that they hold. -/
theorem eq_or_echo_of_capitals {fault fault' : Fault} (h : fault.capitals = fault'.capitals) :
    ¬ fault.Echoes ∧ fault' = fault ∨ ∃ field text text', fault = .invalidValue field text ∧
      fault' = .invalidValue field text' ∧ text.toUpper = text'.toUpper := by
  by_cases echoes : fault.Echoes
  · obtain ⟨field, text, rfl⟩ := echoes
    by_cases echoes' : fault'.Echoes
    · obtain ⟨field', text', rfl⟩ := echoes'
      obtain ⟨rfl, same⟩ := Fault.invalidValue.inj h
      exact .inr ⟨field, text, text', rfl, rfl, same⟩
    · rw [capitals_of_not_echoes echoes'] at h
      exact absurd ⟨field, text.toUpper, h.symm⟩ echoes'
  · rw [capitals_of_not_echoes echoes] at h
    refine .inl ⟨echoes, (capitals_of_not_echoes fun echoes' => ?_).symm.trans h.symm⟩
    obtain ⟨field, text, rfl⟩ := echoes'
    exact echoes ⟨field, text.toUpper, h⟩

end Fault

/-- A rejection with ASCII capitals in what it holds as written. -/
def Rejection.capitals (r : Rejection) : Rejection :=
  ⟨r.template.toUpper, r.fault.capitals⟩

namespace Template

/-! ### Texts that differ in case -/

/-- The same character, or the same ASCII letter in the other case. -/
def Recased (c d : Char) : Prop :=
  c = d ∨ c.toUpper = d ∨ c = d.toUpper

instance (c d : Char) : Decidable (Recased c d) :=
  inferInstanceAs (Decidable (_ ∨ _))

/-- Two texts that differ in the case of ASCII letters alone. -/
def SameButCase (s t : String) : Prop :=
  List.Forall₂ Recased s.toList t.toList

instance (s t : String) : Decidable (SameButCase s t) :=
  inferInstanceAs (Decidable (List.Forall₂ _ _ _))

/-- What is the same for an ASCII character and its capital is the same for every character, since
no other character has an ASCII capital. -/
theorem toUpper_invariant {α : Type} {p : Char → α}
    (h : ∀ n < 128, p (Char.ofNat n).toUpper = p (Char.ofNat n)) (c : Char) : p c.toUpper = p c := by
  by_cases ascii : c.toNat < 128
  · exact Text.of_ascii (P := fun c => p c.toUpper = p c) h ascii
  · rw [toUpper_of_beyond (Nat.not_lt.1 ascii)]

theorem toUpper_toUpper (c : Char) : c.toUpper.toUpper = c.toUpper :=
  toUpper_invariant (by decide) c

/-- A character that is not its own capital is the small letter of it. -/
theorem eq_of_toUpper_ne {c : Char} (h : c.toUpper ≠ c) : c = Char.ofNat (c.toUpper.toNat + 32) := by
  by_cases ascii : c.toNat < 128
  · exact Text.of_ascii (P := fun c => c.toUpper ≠ c → c = Char.ofNat (c.toUpper.toNat + 32))
      (by decide) ascii h
  · exact absurd (toUpper_of_beyond (Nat.not_lt.1 ascii)) h

theorem recased_iff {c d : Char} : Recased c d ↔ c.toUpper = d.toUpper := by
  constructor
  · intro h
    rcases h with rfl | rfl | rfl
    · rfl
    · exact (toUpper_toUpper c).symm
    · exact toUpper_toUpper d
  · intro h
    by_cases capital : d.toUpper = d
    · exact .inr (.inl (h.trans capital))
    by_cases capital' : c.toUpper = c
    · exact .inr (.inr (capital'.symm.trans h))
    · rw [eq_of_toUpper_ne capital, eq_of_toUpper_ne capital', h]
      exact .inl rfl

theorem toList_toUpper (s : String) : s.toUpper.toList = s.toList.map Char.toUpper :=
  String.toList_map

/-- Texts differ in case alone when they have the same capitals. -/
theorem sameButCase_iff {s t : String} : SameButCase s t ↔ s.toUpper = t.toUpper := by
  have pointwise : List.Forall₂ Recased s.toList t.toList ↔
      s.toList.map Char.toUpper = t.toList.map Char.toUpper := by
    rw [← List.forall₂_eq_eq_eq, List.forall₂_map_left_iff, List.forall₂_map_right_iff]
    exact ⟨List.Forall₂.imp fun c d => recased_iff.1, List.Forall₂.imp fun c d => recased_iff.2⟩
  rw [SameButCase, pointwise, ← String.toList_inj, toList_toUpper, toList_toUpper]

/-! ### Characters that a stage looks for -/

theorem isBlank_toUpper (c : Char) : Text.isBlank c.toUpper = Text.isBlank c :=
  toUpper_invariant (by decide) c

theorem isDigit_toUpper (c : Char) : c.toUpper.isDigit = c.isDigit :=
  toUpper_invariant (p := Char.isDigit) (by decide) c

theorem isBracket_toUpper (c : Char) : isBracket c.toUpper = isBracket c :=
  toUpper_invariant (by decide) c

theorem toUpper_eq_separator_iff (c : Char) : c.toUpper = '-' ↔ c = '-' :=
  Iff.of_eq (toUpper_invariant (p := (· = '-')) (by simp only [eq_iff_iff]; decide) c)

theorem enter_toUpper (region : Region) (c : Char) : enter region c.toUpper = enter region c :=
  toUpper_invariant (by cases region <;> decide) c

theorem misplaced_toUpper (region : Region) (c : Char) :
    misplaced region c.toUpper = misplaced region c :=
  toUpper_invariant (by cases region <;> decide) c

theorem upperChar_toUpper (c : Char) : Text.upperChar c.toUpper = Text.upperChar c :=
  toUpper_invariant (by decide) c

/-! ### Cutting a template -/

theorem trimStart_map_toUpper (cs : List Char) :
    Text.trimStart (cs.map Char.toUpper) = (Text.trimStart cs).map Char.toUpper := by
  have same : Text.isBlank ∘ Char.toUpper = Text.isBlank := funext isBlank_toUpper
  rw [Text.trimStart, List.dropWhile_map, same]
  rfl

theorem trim_map_toUpper (cs : List Char) :
    Text.trim (cs.map Char.toUpper) = (Text.trim cs).map Char.toUpper := by
  have trimEnd (cs : List Char) : Text.trimEnd cs = (Text.trimStart cs.reverse).reverse := rfl
  rw [Text.trim, Text.trim, trimEnd, trimEnd, trimStart_map_toUpper, ← List.map_reverse,
    trimStart_map_toUpper, List.map_reverse]

theorem addToFirst_toUpper (c : Char) (pieces : List (List Char)) :
    addToFirst c.toUpper (pieces.map (·.map Char.toUpper)) =
      (addToFirst c pieces).map (·.map Char.toUpper) := by
  cases pieces <;> rfl

theorem cut_map_toUpper (region : Region) (cs : List Char) :
    cut region (cs.map Char.toUpper) =
      (cut region cs).map fun pieces => pieces.map (·.map Char.toUpper) := by
  induction cs generalizing region with
  | nil => rfl
  | cons c cs ih =>
    rw [List.map_cons, cut_cons, cut_cons]
    simp only [toUpper_eq_separator_iff, enter_toUpper, misplaced_toUpper, isBracket_toUpper]
    split
    · rw [ih]
      cases cut .before cs <;> rfl
    · cases enter region c with
      | none => rfl
      | some next =>
        dsimp only
        rw [ih]
        split
        · rfl
        · cases cut next cs with
          | error fault => rfl
          | ok pieces => exact congrArg Except.ok (addToFirst_toUpper c pieces)

theorem dropEmptyLast_map_toUpper (pieces : List (List Char)) :
    dropEmptyLast (pieces.map (·.map Char.toUpper)) =
      (dropEmptyLast pieces).map (·.map Char.toUpper) := by
  have last : (pieces.map (·.map Char.toUpper)).getLast? = some [] ↔ pieces.getLast? = some [] := by
    rw [List.getLast?_map]
    cases pieces.getLast? with
    | none => simp
    | some piece => simp
  unfold dropEmptyLast
  simp only [last]
  split
  · rw [List.map_dropLast]
  · rfl

theorem pieces_map_toUpper (cs : List Char) :
    pieces (cs.map Char.toUpper) = (pieces cs).map fun found => found.map (·.map Char.toUpper) := by
  rw [pieces, pieces, cut_map_toUpper]
  cases cut .before cs with
  | error fault => rfl
  | ok found =>
    refine congrArg Except.ok ?_
    dsimp only
    rw [dropEmptyLast_map_toUpper, List.map_map, List.map_map]
    exact List.map_congr_left fun piece _ => trim_map_toUpper piece

theorem ofList_map_toUpper (cs : List Char) :
    String.ofList (cs.map Char.toUpper) = (String.ofList cs).toUpper := by
  rw [← String.toList_inj, String.toList_ofList, toList_toUpper, String.toList_ofList]

/-- A template in capitals has the fields of the template in capitals. -/
theorem split_toUpper (template : String) :
    split template.toUpper = (split template).map (Triple.map String.toUpper) := by
  rw [split_eq, split_eq, toList_toUpper, pieces_map_toUpper]
  cases pieces template.toList with
  | error fault => rfl
  | ok found =>
    simp only [Except.map, bind, Except.bind, Triple.ofList?_map, List.length_map]
    cases Triple.ofList? found with
    | none => rfl
    | some fields =>
      refine congrArg Except.ok (Triple.ext_get fun field => ?_)
      simp only [Triple.get_map]
      exact ofList_map_toUpper _

/-! ### Reading a field -/

section Field
variable {field : Field} {anchor : Date} {text : String}

theorem upper_toUpper (text : String) : Text.upper text.toUpper.toList = Text.upper text.toList := by
  rw [toList_toUpper, Text.upper, List.flatMap_map]
  simp only [upperChar_toUpper]
  rfl

theorem gap_toUpper : Text.Gap text.toUpper.toList ↔ Text.Gap text.toList := by
  rw [← Text.trim_eq_nil_iff, ← Text.trim_eq_nil_iff, toList_toUpper, trim_map_toUpper,
    List.map_eq_nil_iff]

theorem widthNumber_toUpper :
    WidthNumber field text.toUpper.toList ↔ WidthNumber field text.toList := by
  rw [WidthNumber, WidthNumber, Numeral, Numeral, toList_toUpper, List.length_map, Ne,
    List.map_eq_nil_iff, List.forall_mem_map]
  simp only [isDigit_toUpper]

theorem worded_toUpper : Worded field text.toUpper.toList ↔ Worded field text.toList := by
  rw [Worded, Worded, gap_toUpper, widthNumber_toUpper]

/-- Digits have no case. -/
theorem toUpper_of_widthNumber (h : WidthNumber field text.toList) : text.toUpper = text := by
  rw [← String.toList_inj, toList_toUpper]
  refine (List.map_congr_left fun c hc => ?_).trans (List.map_id _)
  exact Text.isDigit_cases (P := fun c => c.toUpper = c) (by decide) (h.1.2 c hc)

/-- What an offset reports, it reports in upper case. -/
theorem not_echoes_of_offsetOutcome {cs : List Char} {fault : Fault}
    (h : OffsetOutcome field cs (.error fault)) : ¬ fault.Echoes := by
  generalize result : Except.error fault = outcome at h
  rintro ⟨field, text, rfl⟩
  cases h <;> cases result

/-- A field in capitals has the outcome of the field, with the text it reports in capitals. -/
theorem Outcome.toUpper {result : Except Fault Term} (h : Outcome field anchor text result) :
    Outcome field anchor text.toUpper (result.mapError Fault.capitals) := by
  cases h with
  | blank gap => exact .blank (gap_toUpper.2 gap)
  | literal number range is =>
    rw [toUpper_of_widthNumber number]
    exact .literal number range is
  | outOfRange number range =>
    rw [toUpper_of_widthNumber number]
    exact .outOfRange number range
  | invalid worded other => exact .invalid (worded_toUpper.2 worded) (by rwa [upper_toUpper])
  | symbolic worded keyword offset is =>
    rw [← upper_toUpper] at keyword offset
    exact .symbolic (worded_toUpper.2 worded) keyword offset is
  | @rejected fault worded keyword offset =>
    have same : Except.mapError Fault.capitals (.error fault : Except Fault Term) = .error fault :=
      congrArg Except.error (Fault.capitals_of_not_echoes (not_echoes_of_offsetOutcome offset))
    rw [same]
    rw [← upper_toUpper] at keyword offset
    exact .rejected (worded_toUpper.2 worded) keyword offset

theorem ofText_toUpper (field : Field) (anchor : Date) (text : String) :
    Term.ofText field anchor text.toUpper =
      (Term.ofText field anchor text).mapError Fault.capitals := by
  obtain ⟨result, h⟩ := exists_outcome field anchor text
  rw [ofText_of_outcome h, ofText_of_outcome h.toUpper]

end Field

/-! ### Resolving a template -/

theorem terms_toUpper (fields : Triple String) (anchor : Date) :
    terms (fields.map String.toUpper) anchor = (terms fields anchor).mapError Fault.capitals := by
  obtain ⟨year, month, day⟩ := fields
  simp only [terms_eq, Triple.map, ofText_toUpper]
  cases Term.ofText .year anchor year with
  | error fault => rfl
  | ok y =>
    cases Term.ofText .month anchor month with
    | error fault => rfl
    | ok m => cases Term.ofText .day anchor day <;> rfl

/-- A fault that lies in no field holds no text of one. -/
theorem not_echoes_of_field?_eq_none {fault : Fault} (h : fault.field? = none) :
    ¬ fault.Echoes := by
  rintro ⟨field, text, rfl⟩
  cases h

/-- A template in capitals comes to what the template comes to, with the texts in capitals. -/
theorem resolve_toUpper (template : String) (anchor : Date) :
    resolve template.toUpper anchor = (resolve template anchor).mapError Rejection.capitals := by
  -- What lies in no field is reported without a text.
  have outside {x : Except Fault Date} (h : FaultsIn none x) :
      x.mapError (Rejection.mk template.toUpper) =
        (x.mapError (Rejection.mk template)).mapError Rejection.capitals := by
    cases x with
    | ok date => rfl
    | error fault =>
      have same := Fault.capitals_of_not_echoes (not_echoes_of_field?_eq_none (h fault rfl))
      show Except.error (Rejection.mk template.toUpper fault) =
        Except.error ⟨template.toUpper, fault.capitals⟩
      rw [same]
  rw [resolve_eq, resolve_eq, readTerms_eq, readTerms_eq, split_toUpper]
  cases hs : split template with
  | error fault => exact outside (faultsIn_error (faultsIn_split template _ hs))
  | ok fields =>
    show (terms (fields.map String.toUpper) anchor >>= compose).mapError _ =
      ((terms fields anchor >>= compose).mapError _).mapError _
    rw [terms_toUpper]
    cases terms fields anchor with
    | error fault => rfl
    | ok found => exact outside (faultsIn_compose found)

/-! ### Two spellings -/

/-- What two templates come to that differ in case alone: the same date, or the same fault, but for
the text of a field that a fault holds, which is each template's own. -/
inductive Alike (s t : String) : Except Rejection Date → Except Rejection Date → Prop where
  | date (date : Date) : Alike s t (.ok date) (.ok date)
  | fault {fault : Fault} : ¬ fault.Echoes → Alike s t (.error ⟨s, fault⟩) (.error ⟨t, fault⟩)
  /-- The text is that of one field of both templates. -/
  | echo {field fields fields'} : split s = .ok fields → split t = .ok fields' →
      SameButCase (fields.get field) (fields'.get field) →
      Alike s t (.error ⟨s, .invalidValue field (fields.get field)⟩)
        (.error ⟨t, .invalidValue field (fields'.get field)⟩)

/-- The text that is reported as no value is the field as written. -/
theorem eq_of_invalidValue {field : Field} {anchor : Date} {written text : String}
    (h : Term.ofText field anchor written = .error (.invalidValue field text)) : text = written := by
  obtain ⟨result, outcome⟩ := exists_outcome field anchor written
  have same : result = .error (.invalidValue field text) := (ofText_of_outcome outcome).symm.trans h
  cases outcome with
  | invalid worded other => exact (Fault.invalidValue.inj (Except.error.inj same)).2.symm
  | rejected worded keyword offset =>
    obtain rfl := Except.error.inj same
    exact absurd ⟨_, _, rfl⟩ (not_echoes_of_offsetOutcome offset)
  | blank | literal | outOfRange | symbolic => cases same

theorem text_of_invalidValue {template text written : String} {anchor : Date} {field : Field}
    (h : resolve template anchor = .error ⟨written, .invalidValue field text⟩) :
    ∃ fields, split template = .ok fields ∧ fields.get field = text := by
  obtain ⟨fields, hs, first⟩ := (field?_eq_some_iff h).1 rfl
  exact ⟨fields, hs, (eq_of_invalidValue first.found).symm⟩

/-- **The case of letters.** Templates that differ in the case of ASCII letters alone come to the same
date from every anchor, or to the same fault, with the same numbers, sign and texts; only where the
text of a field is reported as no value of the field, each template reports its own. -/
theorem resolve_recased {s t : String} (same : SameButCase s t) (anchor : Date) :
    Alike s t (resolve s anchor) (resolve t anchor) := by
  have capitals : (resolve s anchor).mapError Rejection.capitals =
      (resolve t anchor).mapError Rejection.capitals := by
    rw [← resolve_toUpper, ← resolve_toUpper, sameButCase_iff.1 same]
  cases hs : resolve s anchor with
  | ok date =>
    rw [hs] at capitals
    rw [mapError_eq_ok_iff.1 capitals.symm]
    exact .date date
  | error rejection =>
    rw [hs] at capitals
    obtain ⟨rejection', ht, alike⟩ := mapError_eq_error_iff.1 capitals.symm
    rw [ht]
    obtain ⟨written, fault⟩ := rejection
    obtain ⟨written', fault'⟩ := rejection'
    obtain rfl : written = s := (resolve_eq_error_iff.1 hs).1
    obtain rfl : written' = t := (resolve_eq_error_iff.1 ht).1
    have alike : fault.capitals = fault'.capitals := (Rejection.mk.inj alike).2.symm
    rcases Fault.eq_or_echo_of_capitals alike with
      ⟨silent, rfl⟩ | ⟨field, text, text', rfl, rfl, same⟩
    · exact .fault silent
    · obtain ⟨fields, split, rfl⟩ := text_of_invalidValue hs
      obtain ⟨fields', split', rfl⟩ := text_of_invalidValue ht
      exact .echo split split' (sameButCase_iff.2 same)

/-- Letters of either case in a keyword and in front of a number, and texts beyond ASCII, whose case
is left as it is: a dotless i is reported, and not the letter that it is in upper case. -/
theorem resolve_recased_texts :
    (SameButCase "year-MONTH-<Day - 1>" "YEAR-month-<dAY - 1>" ∧
      resolve "year-MONTH-<Day - 1>" ⟨2024, 6, 15, by decide⟩ = .ok ⟨2024, 6, 14, by decide⟩ ∧
      Alike "year-MONTH-<Day - 1>" "YEAR-month-<dAY - 1>" (.ok ⟨2024, 6, 14, by decide⟩)
        (resolve "YEAR-month-<dAY - 1>" ⟨2024, 6, 15, by decide⟩)) ∧
    SameButCase "year-febıx-01" "Year-Febıx-01" ∧
      Alike "year-febıx-01" "Year-Febıx-01"
        (.error ⟨"year-febıx-01", .invalidValue .month "febıx"⟩)
        (.error ⟨"Year-Febıx-01", .invalidValue .month "Febıx"⟩) := by
  have read : resolve "year-MONTH-<Day - 1>" ⟨2024, 6, 15, by decide⟩ =
      .ok ⟨2024, 6, 14, by decide⟩ := by decide +kernel
  have month : resolve "year-febıx-01" ⟨2024, 6, 15, by decide⟩ =
      .error ⟨"year-febıx-01", .invalidValue .month "febıx"⟩ := by decide +kernel
  have month' : resolve "Year-Febıx-01" ⟨2024, 6, 15, by decide⟩ =
      .error ⟨"Year-Febıx-01", .invalidValue .month "Febıx"⟩ := by decide +kernel
  have keywords : SameButCase "year-MONTH-<Day - 1>" "YEAR-month-<dAY - 1>" := by decide
  have letters : SameButCase "year-febıx-01" "Year-Febıx-01" := by decide
  exact ⟨⟨keywords, read, read ▸ resolve_recased keywords _⟩, letters,
    month ▸ month' ▸ resolve_recased letters ⟨2024, 6, 15, by decide⟩⟩

end Template

end Almanac
