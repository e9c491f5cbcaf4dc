import Almanac.Proofs.Calendar.DateText
import Almanac.Proofs.Command.Resolving
import Almanac.Proofs.Template.Endings

/-! The lines of `resolve`, read back.

A line is a template, an arrow and the date that the template names. Nothing in it is escaped, and a
template may hold line ends and arrows of its own. The separators tell where it ends all the same: a
template that names a date has two or three of them, no region is open after an arrow, and the two
separators of a date would be too many (`no_arrow_after`). So a line ends in one way, whatever
follows it (`line_append_inj`), and a text of lines tells the holidays (`plain_decodable`). -/
namespace Almanac

namespace Template

/-! ### Counting separators -/

/-- Outside regions and without brackets, every `-` separates. -/
theorem separators_plain {cs : List Char} (h : Plain cs) : separators false cs = cs.count '-' := by
  induction cs with
  | nil => rfl
  | cons c cs ih =>
    obtain ⟨text, rest⟩ := List.forall_mem_cons.1 h
    rw [separators, openNext_plain text, ih rest, List.count_cons, Nat.add_comm]
    simp

theorem plain_chars (d : Date) : Plain d.chars := fun c h => by
  cases bracket : isBracket c with
  | false => rfl
  | true =>
    obtain rfl | rfl : c = '<' ∨ c = '>' := by simpa [isBracket] using bracket
    · exact absurd h (Date.not_mem_chars rfl (by decide) (by decide))
    · exact absurd h (Date.not_mem_chars rfl (by decide) (by decide))

theorem two_le_separators_chars (d : Date) : 2 ≤ separators false d.chars := by
  rw [separators_plain (plain_chars d), Date.chars]
  simp only [List.count_append, List.count_cons_self]
  omega

/-! ### Templates and arrows -/

/-- What stands between a template and its date. -/
def arrow : List Char := [' ', '-', '>', ' ']

/-- An arrow closes the region that is open, if one is. -/
theorem openAfter_arrow (inside : Bool) : openAfter inside arrow = false := by
  cases inside <;> rfl

theorem separators_of_named {template : String} {anchor date : Date}
    (h : resolve template anchor = .ok date) :
    2 ≤ separators false template.toList ∧ separators false template.toList ≤ 3 := by
  obtain ⟨found, read, -⟩ := resolve_eq_ok_iff_readTerms.1 h
  rw [separators_of_readTerms read]
  split
  · exact ⟨by decide, by decide⟩
  · exact ⟨by decide, by decide⟩

/-- No template that names a date begins with another one, an arrow and a date. -/
theorem no_arrow_after {template template' : String} {anchor anchor' date date' : Date}
    (h : resolve template anchor = .ok date) (h' : resolve template' anchor' = .ok date')
    (d : Date) : ¬ template.toList ++ (arrow ++ d.chars) <+: template'.toList := by
  rintro ⟨rest, whole⟩
  have least := (separators_of_named h).1
  have most := (separators_of_named h').2
  have dated := two_le_separators_chars d
  rw [← whole, List.append_assoc, List.append_assoc, separators_append, separators_append,
    separators_append, openAfter_arrow] at most
  omega

end Template

/-! ### Lines -/

namespace Holiday
open Template (arrow)

/-- A template, an arrow, the date and the character that ends the line. -/
def line (h : Holiday) : List Char :=
  h.template.toList ++ (arrow ++ (h.date.chars ++ ['\n']))

/-- Before an arrow that stands further on stand the first arrow and its date. -/
theorem arrow_of_skipped (d : Date) {skipped rest rest' : List Char} (ne : skipped ≠ [])
    (h : arrow ++ (d.chars ++ '\n' :: rest) = skipped ++ (arrow ++ rest')) :
    arrow ++ d.chars <+: skipped := by
  have solid : ' ' ∉ d.chars := Date.not_mem_chars rfl (by decide) (by decide)
  have blunt : '>' ∉ d.chars := Date.not_mem_chars rfl (by decide) (by decide)
  obtain _ | ⟨a, _ | ⟨b, _ | ⟨c, _ | ⟨e, skipped⟩⟩⟩⟩ := skipped
  · exact absurd rfl ne
  · simp [arrow] at h
  · simp [arrow] at h
  · -- The blank that ends the first arrow would begin the second, and the date would be its tip.
    obtain ⟨-, -, -, tip⟩ : ' ' = a ∧ '-' = b ∧ '>' = c ∧
        d.chars ++ '\n' :: rest = '-' :: '>' :: ' ' :: rest' := by simpa [arrow] using h
    rcases chars : d.chars with _ | ⟨x, _ | ⟨y, cs⟩⟩
    · simp [chars] at tip
    · simp [chars] at tip
    · simp only [chars, List.cons_append, List.cons.injEq] at tip
      rw [chars, tip.2.1] at blunt
      simp at blunt
  · obtain ⟨rfl, rfl, rfl, rfl, after⟩ : ' ' = a ∧ '-' = b ∧ '>' = c ∧ ' ' = e ∧
        d.chars ++ '\n' :: rest = skipped ++ (arrow ++ rest') := by simpa [arrow] using h
    refine (List.prefix_append_right_inj arrow).2 ?_
    obtain ⟨tail, rfl, -⟩ | ⟨tail, chars, next⟩ := List.append_eq_append_iff.1 after
    · exact List.prefix_append _ _
    · obtain _ | ⟨x, tail⟩ := tail
      · have whole : d.chars = skipped := by rw [chars, List.append_nil]
        exact whole ▸ List.prefix_refl _
      · obtain rfl : ' ' = x := by simp [arrow] at next; exact next.1
        rw [chars] at solid
        simp at solid

/-- So a template that names a date is not the beginning of a longer one with the same text. -/
theorem skipped_eq_nil {template template' : String} {a b date date' : Date}
    (named : Template.resolve template a = .ok date)
    (named' : Template.resolve template' b = .ok date') (d : Date)
    {skipped rest rest' : List Char} (longer : template'.toList = template.toList ++ skipped)
    (same : arrow ++ (d.chars ++ '\n' :: rest) = skipped ++ (arrow ++ rest')) : skipped = [] := by
  by_contra ne
  refine Template.no_arrow_after named named' d ?_
  rw [longer]
  exact (List.prefix_append_right_inj _).2 (arrow_of_skipped d ne same)

/-- A date ends at the end of its line. -/
theorem chars_append_inj {d e : Date} {rest rest' : List Char}
    (same : d.chars ++ '\n' :: rest = e.chars ++ '\n' :: rest') : d = e ∧ rest = rest' := by
  have oneLine (d : Date) (rest : List Char) :
      (d.chars ++ '\n' :: rest).takeWhile (· != '\n') = d.chars := by
    have inside : ∀ c ∈ d.chars, (c != '\n') = true := fun c hc => bne_iff_ne.2 fun newline =>
      Date.not_mem_chars rfl (by decide) (by decide) (newline ▸ hc)
    rw [List.takeWhile_append_of_pos inside, List.takeWhile_cons_of_neg (by simp), List.append_nil]
  have chars := congrArg (List.takeWhile (· != '\n')) same
  rw [oneLine, oneLine] at chars
  obtain rfl := Date.text_injective (congrArg String.ofList chars)
  exact ⟨rfl, (List.cons.inj (List.append_cancel_left same)).2⟩

/-- **A line ends in one way**, whatever follows it. -/
theorem line_append_inj {h k : Holiday} {a b : Date} {rest rest' : List Char}
    (named : Template.resolve h.template a = .ok h.date)
    (named' : Template.resolve k.template b = .ok k.date)
    (same : h.line ++ rest = k.line ++ rest') : h = k ∧ rest = rest' := by
  simp only [line, List.append_assoc, List.singleton_append] at same
  have template : h.template = k.template := by
    rw [← String.toList_inj]
    obtain ⟨skipped, longer, after⟩ | ⟨skipped, longer, after⟩ := List.append_eq_append_iff.1 same
    · rw [longer, skipped_eq_nil named named' _ longer after, List.append_nil]
    · rw [longer, skipped_eq_nil named' named _ longer after, List.append_nil]
  rw [template, List.append_cancel_left_eq, List.append_cancel_left_eq] at same
  obtain ⟨date, rest⟩ := chars_append_inj same
  exact ⟨Holiday.mk.injEq .. ▸ ⟨template, date⟩, rest⟩

theorem line_ne_nil (h : Holiday) : h.line ≠ [] := by
  simp [line]

/-- Lines one after the other tell the holidays. -/
theorem eq_of_lines {hs ks : List Holiday} {a b : Date}
    (named : ∀ h ∈ hs, Template.resolve h.template a = .ok h.date)
    (named' : ∀ k ∈ ks, Template.resolve k.template b = .ok k.date)
    (same : hs.flatMap line = ks.flatMap line) : hs = ks := by
  induction hs generalizing ks with
  | nil =>
    cases ks with
    | nil => rfl
    | cons k ks => exact absurd (List.append_eq_nil_iff.1 same.symm).1 (line_ne_nil k)
  | cons h hs ih =>
    cases ks with
    | nil => exact absurd (List.append_eq_nil_iff.1 same).1 (line_ne_nil h)
    | cons k ks =>
      rw [List.forall_mem_cons] at named named'
      obtain ⟨rfl, rest⟩ := line_append_inj named.1 named'.1 same
      rw [ih named.2 named'.2 rest]

end Holiday

/-! ### Runs -/

theorem Report.toList_text_plain (status : Status) (holidays : List Holiday) :
    (text ⟨status, plain holidays⟩).toList = holidays.flatMap Holiday.line := by
  rw [text_plain]
  induction holidays with
  | nil => rfl
  | cons holiday holidays ih =>
    rw [List.map_cons, String.join_cons, String.toList_append, ih, List.flatMap_cons]
    simp [Holiday.line, Template.arrow, Date.text]

/-- A run that succeeds without JSON prints the lines of its holidays. -/
theorem exists_lines_of_success {w : World} {words : List String} {i : Invocation}
    {templates : List String} (asked : Request.ofArguments? words = some (.run i))
    (command : i.command = .resolve templates false)
    (succeeds : (run w words).report.status.code = 0) :
    ∃ holidays, Holidays.resolve templates (i.anchor w) = .ok holidays ∧
      (run w words).report.text.toList = holidays.entries.flatMap Holiday.line := by
  rw [run_of_request asked, Invocation.report_run_resolve command] at succeeds ⊢
  cases h : Holidays.resolve templates (i.anchor w) with
  | error error =>
    rw [Report.resolve_of_error h] at succeeds
    cases succeeds
  | ok holidays =>
    rw [Report.resolve_of_ok h]
    exact ⟨holidays, rfl, Report.toList_text_plain _ _⟩

/-- **What `resolve` prints can be read back.** If two runs succeed without JSON and print the same,
they were given the same templates, and these name the same dates in both. -/
theorem plain_decodable {w w' : World} {words words' : List String} {i i' : Invocation}
    {templates templates' : List String}
    (asked : Request.ofArguments? words = some (.run i))
    (asked' : Request.ofArguments? words' = some (.run i'))
    (command : i.command = .resolve templates false)
    (command' : i'.command = .resolve templates' false)
    (succeeds : (run w words).report.status.code = 0)
    (succeeds' : (run w' words').report.status.code = 0)
    (same : (run w words).report.text = (run w' words').report.text) :
    templates = templates' ∧ ∃ holidays, Holidays.resolve templates (i.anchor w) = .ok holidays ∧
      Holidays.resolve templates' (i'.anchor w') = .ok holidays := by
  obtain ⟨holidays, h, lines⟩ := exists_lines_of_success asked command succeeds
  obtain ⟨holidays', h', lines'⟩ := exists_lines_of_success asked' command' succeeds'
  obtain ⟨written, named⟩ := Holidays.resolve_eq_ok_iff.1 h
  obtain ⟨written', named'⟩ := Holidays.resolve_eq_ok_iff.1 h'
  rw [same, lines'] at lines
  obtain rfl : holidays = holidays' :=
    congrArg Holidays.mk (Holiday.eq_of_lines named named' lines.symm)
  exact ⟨written.symm.trans written', holidays, h, h'⟩

/-- From two days of one year, a template with an arrow and one with a line end. -/
theorem plain_decodable_arrow :
    let templates := ["<YEAR -> 1-01-01", "2024-<\nMONTH>-15-"]
    let words := ["resolve", "--anchor=2024-06-15", "<YEAR -> 1-01-01", "2024-<\nMONTH>-15-"]
    let words' := ["resolve", "--anchor", "2024-6-30", "--", "<YEAR -> 1-01-01",
      "2024-<\nMONTH>-15-"]
    let world := World.uniform .missing false
    (Request.ofArguments? words = some (.run ⟨none, some ⟨2024, 6, 15, by decide⟩,
        .resolve templates false⟩) ∧
      Request.ofArguments? words' = some (.run ⟨none, some ⟨2024, 6, 30, by decide⟩,
        .resolve templates false⟩)) ∧
    ((run world words).report.status.code = 0 ∧ (run world words').report.status.code = 0 ∧
      (run world words).report.text = (run world words').report.text) ∧
    ∃ holidays, Holidays.resolve templates ⟨2024, 6, 15, by decide⟩ = .ok holidays ∧
      Holidays.resolve templates ⟨2024, 6, 30, by decide⟩ = .ok holidays := by
  intro templates words words' world
  have asked : Request.ofArguments? words = some (.run ⟨none, some ⟨2024, 6, 15, by decide⟩,
      .resolve templates false⟩) := by decide +kernel
  have asked' : Request.ofArguments? words' = some (.run ⟨none, some ⟨2024, 6, 30, by decide⟩,
      .resolve templates false⟩) := by decide +kernel
  have succeeds : (run world words).report.status.code = 0 := by decide +kernel
  have succeeds' : (run world words').report.status.code = 0 := by decide +kernel
  have same : (run world words).report.text = (run world words').report.text := by decide +kernel
  exact ⟨⟨asked, asked'⟩, ⟨succeeds, succeeds', same⟩,
    (plain_decodable asked asked' rfl rfl succeeds succeeds' same).2⟩

end Almanac
