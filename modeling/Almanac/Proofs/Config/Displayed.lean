import Almanac.Proofs.Config.Listed
import Almanac.Proofs.Config.Written

/-! The times of work as they are displayed.

A weekday is displayed by an abbreviation that spells it, and an interval by a text that denotes it.
So the lists as displayed may stand in the file in place of those that the file has, and the
configuration is the same (`load_displayed`): they are a normal form of all lists of that meaning. No
two lists of days are displayed alike, and no two lists of hours, since no comma stands in an
abbreviation or in the text of an interval (`bracketed_injective`). -/
namespace Almanac.Config

/-! ### Texts between brackets -/

/-- A text that is told apart from its neighbours in a list. -/
def Listable (text : String) : Prop :=
  text ≠ "" ∧ ',' ∉ text.toList

/-- The blank after a comma may be taken as the first character of the text behind it. -/
theorem intercalate_blank (x : List Char) (xs : List (List Char)) :
    [',', ' '].intercalate (x :: xs) = [','].intercalate (x :: xs.map (' ' :: ·)) := by
  induction xs generalizing x with
  | nil => rfl
  | cons y xs ih =>
    rw [List.intercalate_cons_cons, ih, List.map_cons, List.intercalate_cons_cons]
    cases xs with
    | nil => simp
    | cons z xs => simp [List.intercalate_cons_cons]

theorem splitOn_intercalate_blank {x : List Char} {xs : List (List Char)}
    (h : ∀ part ∈ x :: xs, ',' ∉ part) :
    ([',', ' '].intercalate (x :: xs)).splitOn ',' = x :: xs.map (' ' :: ·) := by
  obtain ⟨first, others⟩ := List.forall_mem_cons.1 h
  rw [intercalate_blank, List.splitOn_intercalate ',' (List.forall_mem_cons.2 ⟨first, ?_⟩)
    (List.cons_ne_nil _ _)]
  intro part member
  obtain ⟨part', listed, rfl⟩ := List.mem_map.1 member
  simp [others part' listed]

theorem intercalate_ne_nil {x : List Char} (ne : x ≠ []) (xs : List (List Char)) :
    [',', ' '].intercalate (x :: xs) ≠ [] := by
  cases xs with
  | nil => simpa using ne
  | cons y xs => simp [List.intercalate_cons_cons]

/-- Parts that are not empty and hold no comma are told from the text that joins them. -/
theorem intercalate_injective {xs ys : List (List Char)}
    (hx : ∀ part ∈ xs, part ≠ [] ∧ ',' ∉ part) (hy : ∀ part ∈ ys, part ≠ [] ∧ ',' ∉ part)
    (same : [',', ' '].intercalate xs = [',', ' '].intercalate ys) : xs = ys := by
  cases xs with
  | nil =>
    cases ys with
    | nil => rfl
    | cons y ys => exact absurd same.symm (intercalate_ne_nil (hy y List.mem_cons_self).1 ys)
  | cons x xs =>
    cases ys with
    | nil => exact absurd same (intercalate_ne_nil (hx x List.mem_cons_self).1 xs)
    | cons y ys =>
      have parts := congrArg (List.splitOn ',') same
      rw [splitOn_intercalate_blank fun part member => (hx part member).2,
        splitOn_intercalate_blank fun part member => (hy part member).2] at parts
      obtain ⟨rfl, rest⟩ := List.cons.inj parts
      rw [List.map_injective_iff.2 List.cons_injective rest]

theorem bracketed_injective {texts texts' : List String} (h : ∀ text ∈ texts, Listable text)
    (h' : ∀ text ∈ texts', Listable text) (same : bracketed texts = bracketed texts') :
    texts = texts' := by
  have joined : [',', ' '].intercalate (texts.map String.toList) =
      [',', ' '].intercalate (texts'.map String.toList) := by
    have chars := congrArg String.toList same
    simpa [bracketed, String.toList_intercalate] using chars
  have parts {texts : List String} (h : ∀ text ∈ texts, Listable text) :
      ∀ part ∈ texts.map String.toList, part ≠ [] ∧ ',' ∉ part := by
    intro part member
    obtain ⟨text, listed, rfl⟩ := List.mem_map.1 member
    exact ⟨mt String.toList_eq_nil_iff.1 (h text listed).1, (h text listed).2⟩
  exact List.map_injective_iff.2 (fun _ _ => String.toList_injective)
    (intercalate_injective (parts h) (parts h') joined)

theorem listable_abbreviation (day : Weekday) : Listable day.abbreviation := by
  cases day <;> exact ⟨by decide, by decide⟩

theorem listable_text (i : HourInterval) : Listable i.text := by
  have chars : i.text.toList = Text.padded 2 i.start ++ '-' :: Text.padded 2 i.stop :=
    String.toList_ofList
  refine ⟨fun empty => ?_, ?_⟩
  · rw [empty] at chars
    simp at chars
  · have comma (n : Nat) : ',' ∉ Text.padded 2 n := HourInterval.not_mem_padded (by decide) n
    simp [chars, comma]

/-! ### What is displayed -/

section Texts
variable {c c' : Config}

/-- The days of work are told from the text that displays them. -/
theorem workDays_text_iff : c.summary.lookup "Work Days" = c'.summary.lookup "Work Days" ↔
    c.workDays = c'.workDays := by
  constructor
  · intro same
    have texts := bracketed_injective (List.forall_mem_map.2 fun day _ => listable_abbreviation day)
      (List.forall_mem_map.2 fun day _ => listable_abbreviation day) (Option.some.inj same)
    exact List.map_injective_iff.2 (fun _ _ => Weekday.abbreviation_injective) texts
  · intro same
    simp only [summary, same, List.lookup_cons, beq_self_eq_true]

/-- The hours of work are told from the text that displays them. -/
theorem workHours_text_iff : c.summary.lookup "Work Hours" = c'.summary.lookup "Work Hours" ↔
    c.workHours = c'.workHours := by
  constructor
  · intro same
    have texts := bracketed_injective (List.forall_mem_map.2 fun i _ => listable_text i)
      (List.forall_mem_map.2 fun i _ => listable_text i) (Option.some.inj same)
    exact List.map_injective_iff.2 (fun _ _ => HourInterval.text_injective) texts
  · intro same
    show some (bracketed _) = some (bracketed _)
    rw [same]

end Texts

/-! ### The displayed texts in a file -/

/-- Settings with the days and the hours as a configuration displays them. -/
def Settings.displayed (settings : Settings) (c : Config) : Settings :=
  settings.withTimes (c.workDays.map Weekday.abbreviation) (c.workHours.map HourInterval.text)

/-- Everything that a list means, written down so that it is meant again, means the same. -/
theorem sameMeaning_of_write {α : Type} {means : String → α → Prop} {texts : List String}
    {found : List α} {write : α → String}
    (unique : ∀ text a b, means text a → means text b → a = b)
    (read : (∀ text ∈ texts, ∃ a, means text a) ∧ ∀ a, a ∈ found ↔ ∃ text ∈ texts, means text a)
    (written : ∀ a ∈ found, means (write a) a) : SameMeaning means texts (found.map write) := by
  refine ⟨read.1, List.forall_mem_map.2 fun a member => ⟨a, written a member⟩, fun a => ?_⟩
  rw [← read.2]
  constructor
  · intro member
    exact ⟨write a, List.mem_map_of_mem member, written a member⟩
  · rintro ⟨text, listed, meant⟩
    obtain ⟨b, member, rfl⟩ := List.mem_map.1 listed
    rwa [unique _ _ _ meant (written b member)]

theorem sameMeaning_abbreviations {names : List String} {days : List Weekday}
    (h : readWorkDays names = .ok days) :
    SameMeaning Weekday.Spells names (days.map Weekday.abbreviation) :=
  sameMeaning_of_write (fun _ _ _ => Weekday.Spells.unique) (mem_readWorkDays h)
    fun day _ => day.spells_abbreviation

theorem sameMeaning_texts {texts : List String} {hours : List HourInterval}
    (h : readWorkHours texts = .ok hours) :
    SameMeaning HourInterval.Denotes texts (hours.map HourInterval.text) := by
  obtain ⟨-, -, bounds⟩ := readWorkHours_ordered h
  exact sameMeaning_of_write (fun _ _ _ => HourInterval.Denotes.unique) (mem_readWorkHours h)
    fun i member => HourInterval.denotes_text (bounds i member).1 (bounds i member).2

/-- **The times of work as displayed are a normal form.** A file with the displayed texts in place
of its own can be written and is the same configuration, however it is written. And two
configurations display the same days and the same hours only when these are the same. -/
theorem load_displayed {files : FileSystem} {env : Environment} {path? : Option String}
    {anchor : Date} {c : Config} (h : load files env path? anchor = .ok c) :
    (∃ settings, Says (files.read (pathOr env path?)) settings ∧
      (∃ text : String, Says (.bytes text.toUTF8) (settings.displayed c)) ∧
      ∀ (files' : FileSystem) (path'? : Option String),
        Says (files'.read (pathOr env path'?)) (settings.displayed c) →
        load files' env path'? anchor = .ok c) ∧
    ∀ c' : Config, c.summary.lookup "Work Days" = c'.summary.lookup "Work Days" ∧
      c.summary.lookup "Work Hours" = c'.summary.lookup "Work Hours" ↔
        c.workDays = c'.workDays ∧ c.workHours = c'.workHours := by
  obtain ⟨settings, said, meant⟩ := load_eq_ok_iff.1 h
  obtain ⟨known, -, days, hours, -⟩ := ofSettings_eq_ok_iff.1 meant
  refine ⟨⟨settings, said, ⟨_, says_written known⟩, fun files' path'? said' => ?_⟩, fun c' => ?_⟩
  · exact load_eq_ok_iff.2 ⟨_, said', ofSettings_of_sameMeaning meant
      (sameMeaning_abbreviations days) (sameMeaning_texts hours)⟩
  · exact and_congr workDays_text_iff workHours_text_iff

/-- Out of order, in other spellings and of other widths than they are displayed. -/
theorem load_displayed_sorted :
    let anchor : Date := ⟨2024, 6, 15, by decide⟩
    let contents := Contents.bytes ("version = 1\n[off_duty]\n" ++
      "work_days = [\"friday\", \" MON\"]\nwork_hours = [\"13-17\", \"8 - 9\"]").toUTF8
    let contents' := Contents.bytes ("version = 1\n[off_duty]\n" ++
      "work_days = [\"Mon\", \"Fri\"]\nwork_hours = [\"08-09\", \"13-17\"]").toUTF8
    let c : Config := ⟨anchor, [.monday, .friday], [⟨8, 9⟩, ⟨13, 17⟩], ⟨[]⟩, .default⟩
    load ⟨fun _ => contents, fun _ => .ok ()⟩ ⟨[], none⟩ (some "/hld.toml") anchor = .ok c ∧
      c.summary = [("Work Days", "[Mon, Fri]"), ("Work Hours", "[08-09, 13-17]"),
        ("Holidays", "[]")] ∧
      load ⟨fun _ => contents', fun _ => .ok ()⟩ ⟨[], none⟩ (some "/hld.toml") anchor = .ok c := by
  intro anchor contents contents' c
  let settings : Settings := ⟨1, ⟨["friday", " MON"], ["13-17", "8 - 9"], []⟩, .default⟩
  have said : Says contents settings := (says_iff "").2 (by decide +kernel)
  have said' : Says contents' (settings.displayed c) := (says_iff "").2 (by decide +kernel)
  have days : readWorkDays settings.offDuty.workDays = .ok c.workDays := by
    rw [readWorkDays_eq_filter]
    decide +kernel
  have hours : readWorkHours settings.offDuty.workHours = .ok c.workHours := by
    rw [readWorkHours_eq]
    refine readListed_eq_ok_iff.2 ⟨by decide, [⟨13, 17⟩, ⟨8, 9⟩], by decide +kernel, ?_⟩
    simp +decide [c, ascending, List.mergeSort, dropRepeats]
  have loaded : load ⟨fun _ => contents, fun _ => .ok ()⟩ ⟨[], none⟩ (some "/hld.toml") anchor =
      .ok c :=
    load_eq_ok_iff.2 ⟨settings, said, ofSettings_eq_ok_iff.2
      ⟨rfl, rfl, days, hours, by decide +kernel, by decide +kernel⟩⟩
  obtain ⟨⟨found, said'', -, again⟩, -⟩ := load_displayed loaded
  obtain rfl := said''.unique said
  exact ⟨loaded, by decide +kernel, again ⟨fun _ => contents', fun _ => .ok ()⟩ _ said'⟩

end Almanac.Config
