import Almanac.Proofs.Command.Resolving
import Almanac.Proofs.Template.Steps

/-! What is heard of templates.

A template that names a date leaves seven lines in a log, each with what a step of resolving it has
led to, and the last of them says that it is resolved (`OwnLines`). What is heard of several
templates is made of the lines of each, one template after the other, up to the first that names no
date, of which it is said last that it is rejected (`Heard`, `heard_resolveTemplates`). So as many
templates are resolved in a log as there are before that one (`Heard.resolvedCount_eq`), and a
template that is has left its own lines just before (`Heard.exists_own`). -/
namespace Almanac.Log

/-! ### Messages -/

/-- What is said of a log file that cannot be created begins like no other message. -/
theorem head?_createError (error : CreateError) : error.message.toList.head? = some 'F' := by
  have begun (thing path reason : String) :
      (CreateError.failed thing path reason).toList.head? = some 'F' := by
    unfold CreateError.failed
    simp only [String.toList_append, List.head?_append]
    rfl
  cases error with
  | directory path reason => exact begun ..
  | file path reason => exact begun ..

theorem message_logFileRefused_ne {error : CreateError} {text : String}
    (other : text.toList.head? ≠ some 'F') : (Event.logFileRefused error).message ≠ text := by
  rintro rfl
  rw [Event.message, String.toList_append, List.head?_append, head?_createError] at other
  exact other rfl

theorem message_eq_resolved_iff {e : Event} : e.message = "resolved holiday template" ↔
    ∃ template anchor date, e = .template (.named template anchor date) := by
  constructor
  · cases e with
    | template step => cases step <;> simp [Event.message, Template.Step.message]
    | logFileRefused error =>
      exact fun same => absurd same (message_logFileRefused_ne (by decide))
    | started | configRejected | configMissed | templateRejected => simp [Event.message]
  · rintro ⟨template, anchor, date, rfl⟩
    rfl

/-- The number of templates that a log says are resolved. -/
def resolvedCount (events : List Event) : Nat :=
  events.countP fun e => e.message = "resolved holiday template"

theorem resolvedCount_append (front back : List Event) :
    resolvedCount (front ++ back) = resolvedCount front + resolvedCount back :=
  List.countP_append

theorem resolvedCount_cons {e : Event} (resolved : e.message = "resolved holiday template")
    (events : List Event) : resolvedCount (e :: events) = resolvedCount events + 1 :=
  List.countP_cons_of_pos (by simp [resolved])

theorem resolvedCount_started (anchor : Date) (events : List Event) :
    resolvedCount (.started anchor :: events) = resolvedCount events :=
  List.countP_cons_of_neg (by simp [Event.message])

/-! ### The lines of a template -/

open Template.Trace (script)

variable {anchor : Date} {template : String} {templates : List String} {log own : List Event}

/-- The lines of a template that names a date: how it is cut, what its three fields stand for, the
date that their bases form, the date that their offsets lead to, and that this is the date it
names. -/
inductive OwnLines (anchor : Date) (template : String) : List Event → Prop
  | intro {fields : Triple String} {terms : Triple Template.Term} {base date : Date}
    (cut : Template.split template = .ok fields)
    (read : Template.terms fields anchor = .ok terms)
    (composed : Template.baseDate terms = .ok base)
    (moved : Template.applyOffsets base terms = some date) :
    OwnLines anchor template
      [.template (.cut fields.toList), .template (.read terms.year), .template (.read terms.month),
        .template (.read terms.day), .template (.composed base), .template (.moved date),
        .template (.named template anchor date)]

namespace OwnLines

theorem exists_date (h : OwnLines anchor template own) :
    ∃ date, Template.resolve template anchor = .ok date := by
  cases h with
  | intro cut read composed moved =>
    exact ⟨_, Template.resolve_eq_ok_iff.2
      ⟨_, _, cut, read, Template.compose_eq_ok_iff.2 ⟨_, composed, moved⟩⟩⟩

theorem messages (h : OwnLines anchor template own) :
    own.map Event.message = script ++ ["resolved holiday template"] := by
  cases h with
  | intro => rfl

theorem messages_before {e : Event} (h : OwnLines anchor template (own ++ [e])) :
    own.map Event.message = script :=
  (List.append_inj' (List.map_append.symm.trans h.messages) rfl).1

theorem resolvedCount_eq (h : OwnLines anchor template own) : resolvedCount own = 1 := by
  cases h with
  | intro => rfl

theorem not_rejected (h : OwnLines anchor template own) :
    ∀ e ∈ own, e.message ≠ "template rejected" := by
  intro e here rejected
  have said : e.message ∈ script ++ ["resolved holiday template"] :=
    h.messages ▸ List.mem_map_of_mem here
  rw [rejected] at said
  exact absurd said (by decide)

/-- The line that says that the template is resolved is the last one. -/
theorem eq_nil_of_resolved {front back : List Event} {e : Event}
    (h : OwnLines anchor template (front ++ e :: back))
    (resolved : e.message = "resolved holiday template") :
    back = [] ∧ resolvedCount front = 0 := by
  have one := h.resolvedCount_eq
  rw [resolvedCount_append, resolvedCount_cons resolved] at one
  rcases List.eq_nil_or_concat' back with rfl | ⟨back, behind, rfl⟩
  · exact ⟨rfl, by omega⟩
  · -- The last line has the message, so that there would be two of them.
    have last := congrArg List.getLast? h.messages
    rw [← List.cons_append, ← List.append_assoc, List.map_append, List.map_singleton,
      List.getLast?_concat, List.getLast?_concat] at last
    rw [resolvedCount_append, resolvedCount_cons (Option.some.inj last)] at one
    omega

end OwnLines

/-! ### The lines of all templates -/

/-- What is heard of templates in turn: the lines of each, up to the first that names no date. Of that
one is heard how far it came and then that it is rejected. -/
inductive Heard (anchor : Date) : List String → List Event → Prop
  | nothing : Heard anchor [] []
  | named {template : String} {templates : List String} {own log : List Event}
    (lines : OwnLines anchor template own) (others : Heard anchor templates log) :
    Heard anchor (template :: templates) (own ++ log)
  | rejected {template : String} {templates : List String} {rejection : Rejection}
    {before : List Event} (unnamed : Template.resolve template anchor = .error rejection)
    (lines : before.map Event.message <+: script) :
    Heard anchor (template :: templates) (before ++ [.templateRejected rejection.fault])

theorem steps_resolveTemplate (anchor : Date) (template : String) :
    (Command.resolveTemplate anchor template).steps =
      (Template.Trace.resolve template anchor).steps.map .template := by
  rw [Command.resolveTemplate]
  cases h : ((Template.Trace.resolve template anchor).mapSteps Event.template).result with
  | error rejection => rw [Traced.steps_bind_of_error h, Traced.steps_mapSteps]
  | ok date =>
    rw [Traced.steps_bind_of_ok h, Traced.steps_mapSteps, Traced.steps_pure, List.append_nil]

theorem ownLines_of_resolve {date : Date} (h : Template.resolve template anchor = .ok date) :
    OwnLines anchor template (Command.resolveTemplate anchor template).steps := by
  obtain ⟨fields, terms, base, cut, read, composed, moved, steps⟩ :=
    Template.Trace.steps_of_resolve h
  rw [steps_resolveTemplate, steps]
  exact .intro cut read composed moved

theorem lines_of_rejected {rejection : Rejection}
    (h : Template.resolve template anchor = .error rejection) :
    (Command.resolveTemplate anchor template).steps.map Event.message <+: script := by
  rw [steps_resolveTemplate, List.map_map]
  exact Template.Trace.steps_of_rejected h

/-- The script stops before a template is resolved. -/
theorem not_resolved_of_script {before : List Event} (h : before.map Event.message <+: script) :
    ∀ e ∈ before, e.message ≠ "resolved holiday template" := by
  intro e here resolved
  have said := h.subset (List.mem_map_of_mem here)
  rw [resolved] at said
  exact absurd said (by decide)

/-- The templates of a command line are heard in turn. -/
theorem heard_resolveTemplates (anchor : Date) (templates : List String) :
    Heard anchor templates (Command.resolveTemplates anchor templates).steps := by
  induction templates with
  | nil => exact .nothing
  | cons template templates ih =>
    rw [Command.resolveTemplates]
    cases result : (Command.resolveTemplate anchor template).result with
    | ok holiday =>
      have named := (Command.result_resolveTemplate anchor template).symm.trans result
      rw [Traced.steps_bind_of_ok (Traced.result_sayError.trans result),
        Traced.steps_sayError_of_ok result]
      refine .named (ownLines_of_resolve (Holiday.resolve_eq_ok_iff.1 named).2) ?_
      cases rest : (Command.resolveTemplates anchor templates).result with
      | error rejection => rwa [Traced.steps_bind_of_error rest]
      | ok holidays => rwa [Traced.steps_bind_of_ok rest, Traced.steps_pure, List.append_nil]
    | error rejection =>
      have unnamed := (Command.result_resolveTemplate anchor template).symm.trans result
      have unnamed := Holiday.resolve_eq_error_iff.1 unnamed
      rw [Traced.steps_bind_of_error (Traced.result_sayError.trans result),
        Traced.steps_sayError_of_error result]
      exact .rejected unnamed (lines_of_rejected unnamed)

namespace Heard

/-- Each template before the first that names no date is resolved in the log once. -/
theorem resolvedCount_eq (h : Heard anchor templates log) : resolvedCount log =
    templates.findIdx fun template => !(Template.resolve template anchor).isOk := by
  induction h with
  | nothing => rfl
  | named lines _ ih =>
    obtain ⟨date, named⟩ := lines.exists_date
    rw [resolvedCount_append, lines.resolvedCount_eq, ih, Nat.add_comm]
    simp [List.findIdx_cons, named, Except.isOk, Except.toBool]
  | rejected unnamed lines =>
    have silent : resolvedCount _ = 0 := List.countP_eq_zero.2 fun e here =>
      (by simpa using not_resolved_of_script lines e here)
    rw [resolvedCount_append, silent]
    simp [List.findIdx_cons, unnamed, Except.isOk, Except.toBool, resolvedCount, Event.message]

/-- The first rejection is the last line. -/
theorem exists_eq_append_rejected {place : Nat} {rejection : Rejection}
    (h : Heard anchor templates log) (first : FirstRejection anchor templates place rejection) :
    ∃ front, log = front ++ [.templateRejected rejection.fault] := by
  induction h generalizing place with
  | nothing => exact absurd first FirstRejection.not_nil
  | @named _ _ own _ lines _ ih =>
    obtain ⟨date, named⟩ := lines.exists_date
    cases place with
    | zero => cases named.symm.trans (FirstRejection.zero_iff.1 first)
    | succ place =>
      obtain ⟨front, rfl⟩ := ih (FirstRejection.succ_iff.1 first).2
      exact ⟨own ++ front, (List.append_assoc ..).symm⟩
  | @rejected _ _ _ before unnamed _ =>
    cases place with
    | zero =>
      obtain rfl := Except.error.inj (unnamed.symm.trans (FirstRejection.zero_iff.1 first))
      exact ⟨before, rfl⟩
    | succ place =>
      obtain ⟨⟨date, named⟩, -⟩ := FirstRejection.succ_iff.1 first
      cases named.symm.trans unnamed

theorem not_rejected (h : Heard anchor templates log)
    (named : ∀ template ∈ templates, ∃ date, Template.resolve template anchor = .ok date) :
    ∀ e ∈ log, e.message ≠ "template rejected" := by
  induction h with
  | nothing => exact List.forall_mem_nil _
  | named lines _ ih =>
    exact List.forall_mem_append.2
      ⟨lines.not_rejected, ih (List.forall_mem_cons.1 named).2⟩
  | rejected unnamed =>
    obtain ⟨date, found⟩ := named _ List.mem_cons_self
    cases found.symm.trans unnamed

/-- A template that is resolved in the log has left its own lines just before, and the templates in
front of it have left theirs before that. -/
theorem exists_own {front back : List Event} {e : Event} (h : Heard anchor templates log)
    (cut : log = front ++ e :: back) (resolved : e.message = "resolved holiday template") :
    ∃ template own parts, templates[resolvedCount front]? = some template ∧
      OwnLines anchor template (own ++ [e]) ∧
      List.Forall₂ (OwnLines anchor) (templates.take (resolvedCount front)) parts ∧
      front = parts.flatten ++ own := by
  induction h generalizing front with
  | nothing => simp at cut
  | @named template templates own log lines _ ih =>
    -- The line is one of the others' lines or one of the template's own.
    have place : (∃ skipped, front = own ++ skipped ∧ log = skipped ++ e :: back) ∨
        ∃ tail, own = front ++ e :: tail := by
      rcases List.append_eq_append_iff.1 cut with ⟨skipped, before, rest⟩ | ⟨tail, whole, rest⟩
      · exact .inl ⟨skipped, before, rest⟩
      · cases tail with
        | nil => exact .inl ⟨[], by simpa using whole.symm, rest.symm⟩
        | cons first tail =>
          obtain ⟨rfl, -⟩ := List.cons.inj rest
          exact .inr ⟨tail, whole⟩
    rcases place with ⟨skipped, rfl, rest⟩ | ⟨tail, rfl⟩
    · obtain ⟨found, its, parts, place, theirs, earlier, rfl⟩ := ih rest
      rw [resolvedCount_append, lines.resolvedCount_eq, Nat.add_comm, List.getElem?_cons_succ,
        List.take_succ_cons]
      exact ⟨found, its, own :: parts, place, theirs, .cons lines earlier,
        (List.append_assoc ..).symm⟩
    · obtain ⟨rfl, first⟩ := lines.eq_nil_of_resolved resolved
      rw [first]
      exact ⟨template, front, [], rfl, lines, .nil, rfl⟩
  | @rejected _ _ rejection before _ lines =>
    -- Neither what is said before the rejection nor the rejection itself.
    have here : e ∈ before ++ [.templateRejected rejection.fault] := by simp [cut]
    rcases List.mem_append.1 here with here | here
    · exact absurd resolved (not_resolved_of_script lines e here)
    · rw [List.mem_singleton.1 here] at resolved
      simp [Event.message] at resolved

end Heard

end Almanac.Log
