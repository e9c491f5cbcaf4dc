import Almanac.Proofs.Json.Unambiguous

/-! The JSON text of a list of records, by the grammar.

Both forms of the text are an array of objects whose members are strings (`ofRecords`): the compact
form has no blanks, the pretty form has a line end and blanks before each part and a line end after
the last. So both are this value, and no other (`Document.unique`). -/
namespace Almanac.Json

/-- The object that a record is. -/
def ofRecord (r : Record) : Value :=
  .object (r.map fun (key, value) => (key, .string value))

/-- The array that a list of records is. -/
def ofRecords (rs : List Record) : Value :=
  .array (rs.map ofRecord)

/-! ### Strings -/

theorem writesChar_escape (c : Char) : WritesChar (escape c) c := by
  unfold escape
  split_ifs with quote backslash backspace tab feed page return_ control
  · exact .letter (congrArg some quote.symm)
  · exact .letter (congrArg some backslash.symm)
  · exact .letter (congrArg some backspace.symm)
  · exact .letter (congrArg some tab.symm)
  · exact .letter (congrArg some feed.symm)
  · exact .letter (congrArg some page.symm)
  · exact .letter (congrArg some return_.symm)
  · dsimp only
    rw [List.append_assoc, digits_control control]
    exact .code (ofHex?_control control)
  · exact .plain quote backslash control

theorem writesChars_escape (cs : List Char) : WritesChars (cs.flatMap escape) cs := by
  induction cs with
  | nil => exact .nil
  | cons c cs ih => exact .cons (writesChar_escape c) ih

theorem writesString_string (s : String) : WritesString (string s) s :=
  ⟨_, rfl, writesChars_escape s.toList⟩

/-! ### Lists -/

section Spaced
variable {α Part : Type} {make : List Char → α → Part} {before after : List Char}

/-- The parts of a list: what `make` makes of each element with what stands behind it, which is
nothing but behind the last. -/
def spaced (make : List Char → α → Part) (after : List Char) : List α → List Part
  | [] => []
  | [a] => [make after a]
  | a :: as => make [] a :: spaced make after as

theorem joined_spaced {chars : Part → List Char} {text : α → List Char}
    (whole : ∀ behind a, chars (make behind a) = before ++ text a ++ behind) {as : List α}
    (some_ : as ≠ []) : joined [','] ((spaced make after as).map chars) =
      before ++ joined (',' :: before) (as.map text) ++ after := by
  induction as with
  | nil => exact absurd rfl some_
  | cons a as ih =>
    cases as with
    | nil => simp [spaced, joined, whole]
    | cons b as =>
      have more := ih (List.cons_ne_nil _ _)
      obtain ⟨part, parts, others⟩ : ∃ part parts, spaced make after (b :: as) = part :: parts := by
        cases as <;> exact ⟨_, _, rfl⟩
      simp only [joined, spaced, others, List.map_cons, List.intercalate_cons_cons, whole,
        List.append_nil] at more ⊢
      rw [more]
      simp

theorem mem_spaced {part : Part} {as : List α} (h : part ∈ spaced make after as) :
    ∃ a ∈ as, ∃ behind, (behind = [] ∨ behind = after) ∧ part = make behind a := by
  fun_induction spaced make after as with
  | case1 => cases h
  | case2 a =>
    obtain rfl := List.mem_singleton.1 h
    exact ⟨a, List.mem_cons_self, after, .inr rfl, rfl⟩
  | case3 a as _ ih =>
    rcases List.mem_cons.1 h with rfl | later
    · exact ⟨a, List.mem_cons_self, [], .inl rfl, rfl⟩
    · obtain ⟨b, here, made⟩ := ih later
      exact ⟨b, List.mem_cons_of_mem a here, made⟩

theorem map_spaced {β : Type} {value : Part → β} {f : α → β}
    (made : ∀ behind a, value (make behind a) = f a) (as : List α) :
    (spaced make after as).map value = as.map f := by
  fun_induction spaced make after as with
  | case1 => rfl
  | case2 a => rw [List.map_singleton, made, List.map_singleton]
  | case3 a as _ ih => rw [List.map_cons, made, ih, List.map_cons]

theorem spaced_ne_nil {as : List α} (some_ : as ≠ []) : spaced make after as ≠ [] := by
  fun_induction spaced make after as with
  | case1 => exact absurd rfl some_
  | case2 => exact List.cons_ne_nil _ _
  | case3 => exact List.cons_ne_nil _ _

end Spaced

theorem gap_nil : Gap [] :=
  List.forall_mem_nil _

theorem gap_newLine (level : Nat) : Gap (newLine level) :=
  fun _ => isBlank_of_mem_newLine

/-- What stands behind a part is a gap. -/
theorem gap_behind {after behind : List Char} (gap : Gap after) (h : behind = [] ∨ behind = after) :
    Gap behind := by
  rcases h with rfl | rfl
  · exact gap_nil
  · exact gap

section Layout
variable {before after : List Char} (gap : Gap before) (gap' : Gap after)
include gap gap'

/-- An array of elements that are values, with blanks before each and after the last. -/
theorem writes_array {α : Type} {text : α → List Char} {value : α → Value}
    (writes : ∀ a, Writes (text a) (value a)) {as : List α} (some_ : as ≠ []) :
    Writes ('[' :: (before ++ joined (',' :: before) (as.map text) ++ after) ++ [']'])
      (.array (as.map value)) := by
  let make (behind : List Char) (a : α) : Element := ⟨before, text a, behind, value a⟩
  have texts : joined [','] ((spaced make after as).map Element.chars) =
      before ++ joined (',' :: before) (as.map text) ++ after := by
    refine joined_spaced (fun behind a => ?_) some_
    rfl
  have values : (spaced make after as).map Element.value = as.map value := by
    refine map_spaced (fun behind a => ?_) as
    rfl
  rw [← texts, ← values]
  refine .array (spaced_ne_nil some_) (fun e here => ?_) (fun e here => ?_)
  · obtain ⟨a, -, behind, last, rfl⟩ := mem_spaced here
    exact ⟨gap, gap_behind gap' last⟩
  · obtain ⟨a, -, behind, -, rfl⟩ := mem_spaced here
    exact writes a

/-- An object whose members are strings, with blanks before each and after the last. -/
theorem writes_object {between : List Char} (gap'' : Gap between) {r : Record} (some_ : r ≠ []) :
    Writes ('\x7b' :: (before ++ joined (',' :: before)
      (r.map fun (key, value) => string key ++ ':' :: (between ++ string value)) ++ after) ++
        ['\x7d']) (ofRecord r) := by
  let make (behind : List Char) (m : String × String) : Member :=
    ⟨before, string m.1, [], m.1, between, string m.2, behind, .string m.2⟩
  have texts : joined [','] ((spaced make after r).map Member.chars) = before ++
      joined (',' :: before) (r.map fun (key, value) => string key ++ ':' :: (between ++ string value)) ++
        after := by
    refine joined_spaced (fun behind m => ?_) some_
    simp [make, Member.chars, Element.chars]
  have values : (spaced make after r).map Member.value =
      r.map fun (key, value) => (key, .string value) := by
    refine map_spaced (fun behind m => ?_) r
    rfl
  rw [ofRecord, ← texts, ← values]
  refine .object (spaced_ne_nil some_) (fun m here => ?_) (fun m here => ?_)
  · obtain ⟨m, -, behind, last, rfl⟩ := mem_spaced here
    exact ⟨gap, gap_nil, writesString_string m.1, gap'', gap_behind gap' last⟩
  · obtain ⟨m, -, behind, -, rfl⟩ := mem_spaced here
    exact .string (writesString_string m.2)

end Layout

/-! ### Both forms -/

theorem writes_compactRecord (r : Record) : Writes (compactRecord r) (ofRecord r) := by
  cases r with
  | nil => exact .emptyObject gap_nil
  | cons m ms =>
    have written := writes_object gap_nil gap_nil gap_nil (List.cons_ne_nil m ms)
    rwa [List.nil_append, List.append_nil] at written

theorem document_compact (rs : List Record) : Document (compact rs).toList (ofRecords rs) := by
  refine ⟨[], (compact rs).toList, [], by simp, gap_nil, gap_nil, ?_⟩
  rw [compact, String.toList_ofList]
  cases rs with
  | nil => exact .emptyArray gap_nil
  | cons r rs =>
    have written := writes_array gap_nil gap_nil writes_compactRecord (List.cons_ne_nil r rs)
    rwa [List.nil_append, List.append_nil] at written

theorem block_eq {level : Nat} {first last : Char} {parts : List (List Char)} (some_ : parts ≠ []) :
    block level first last parts = first :: (newLine (level + 1) ++
      joined (',' :: newLine (level + 1)) parts ++ newLine level) ++ [last] := by
  rw [block, if_neg (by simpa using some_)]
  simp

theorem writes_prettyRecord (r : Record) : Writes (prettyRecord r) (ofRecord r) := by
  cases r with
  | nil => exact .emptyObject gap_nil
  | cons m ms =>
    have blank : Gap [' '] := List.forall_mem_singleton.2 rfl
    rw [prettyRecord, block_eq (by simp)]
    exact writes_object (gap_newLine 2) (gap_newLine 1) blank (List.cons_ne_nil m ms)

theorem document_pretty_append (rs : List Record) {gap : List Char} (h : Gap gap) :
    Document ((pretty rs).toList ++ gap) (ofRecords rs) := by
  refine ⟨[], (pretty rs).toList, gap, by rw [List.nil_append], gap_nil, h, ?_⟩
  rw [pretty, String.toList_ofList]
  cases rs with
  | nil => exact .emptyArray gap_nil
  | cons r rs =>
    rw [block_eq (by simp)]
    exact writes_array (gap_newLine 1) (gap_newLine 0) writes_prettyRecord (List.cons_ne_nil r rs)

end Almanac.Json
