import Almanac.Proofs.Config.Templates
import Almanac.Proofs.Log.Heard
import Almanac.Proofs.Log.Level

/-! What the log file says of `resolve`.

The full log of a run begins with the run and goes on with what is heard of its templates
(`Log.fullLog`). A log that keeps less is that log without the lines that are not serious enough, and
how serious they have to be is a word of the log settings (`resolve_log_file`). -/
namespace Almanac

namespace Log
variable {anchor : Date} {templates : List String}

/-! ### The most generous levels -/

section Generous
variable {t : Threshold} (generous : t = .downTo .debug ∨ t = .downTo .trace)
include generous

/-- The most generous levels keep what is there for debugging. -/
theorem mem_atOrAbove_of_debug {e : Event} (debug : e.severity = .debug) :
    e.severity ∈ t.atOrAbove := by
  rw [debug]
  rcases generous with rfl | rfl
  · decide
  · decide

theorem resolvedCount_atLeast (events : List Event) :
    resolvedCount (atLeast t events) = resolvedCount events := by
  rw [resolvedCount, atLeast, List.countP_filter]
  refine List.countP_congr fun e _ => ?_
  rw [Bool.and_eq_true, decide_eq_true_iff, decide_eq_true_iff, and_iff_left_iff_imp,
    message_eq_resolved_iff]
  rintro ⟨template, anchor, date, rfl⟩
  exact mem_atOrAbove_of_debug generous rfl

theorem getLast?_atLeast_rejected (front : List Event) (fault : Fault) :
    (atLeast t (front ++ [.templateRejected fault])).getLast? = some (.templateRejected fault) := by
  have kept : atLeast t [.templateRejected fault] = [.templateRejected fault] :=
    List.filter_eq_self.2 (List.forall_mem_singleton.2
      (decide_eq_true (mem_atOrAbove_of_debug generous rfl)))
  rw [atLeast, List.filter_append, ← atLeast, ← atLeast, kept, List.getLast?_concat]

end Generous

/-! ### The log of a run -/

/-- Everything that a run of `resolve` with a configuration has for a log. -/
def fullLog (anchor : Date) (templates : List String) : List Event :=
  .started anchor :: (Command.resolveTemplates anchor templates).steps

theorem resolvedCount_fullLog : resolvedCount (fullLog anchor templates) =
    templates.findIdx fun template => !(Template.resolve template anchor).isOk :=
  (resolvedCount_started ..).trans (heard_resolveTemplates anchor templates).resolvedCount_eq

theorem exists_fullLog_eq {place : Nat} {rejection : Rejection}
    (first : FirstRejection anchor templates place rejection) :
    ∃ front, fullLog anchor templates = front ++ [.templateRejected rejection.fault] := by
  obtain ⟨front, ends⟩ :=
    (heard_resolveTemplates anchor templates).exists_eq_append_rejected first
  refine ⟨.started anchor :: front, ?_⟩
  rw [fullLog, ends, List.cons_append]

theorem not_rejected_fullLog
    (named : ∀ template ∈ templates, ∃ date, Template.resolve template anchor = .ok date) :
    ∀ e ∈ fullLog anchor templates, e.message ≠ "template rejected" :=
  List.forall_mem_cons.2
    ⟨by simp [Event.message], (heard_resolveTemplates anchor templates).not_rejected named⟩

theorem exists_own_fullLog {front back : List Event} {e : Event}
    (cut : fullLog anchor templates = front ++ e :: back)
    (resolved : e.message = "resolved holiday template") :
    ∃ template own parts, templates[resolvedCount front]? = some template ∧
      OwnLines anchor template (own ++ [e]) ∧
      List.Forall₂ (OwnLines anchor) (templates.take (resolvedCount front)) parts ∧
      front = .started anchor :: (parts.flatten ++ own) := by
  cases front with
  | nil =>
    obtain ⟨rfl, -⟩ := List.cons.inj cut
    simp [Event.message] at resolved
  | cons first front =>
    obtain ⟨rfl, others⟩ := List.cons.inj cut
    obtain ⟨template, own, parts, place, lines, earlier, rfl⟩ :=
      (heard_resolveTemplates anchor templates).exists_own others resolved
    rw [resolvedCount_started]
    exact ⟨template, own, parts, place, lines, earlier, rfl⟩

end Log

/-! ### Runs -/

/-- The command succeeds when every template names a date, and fails otherwise. -/
theorem Report.resolve_code_cases (templates : List String) (json : Bool) (anchor : Date) :
    ((resolve templates json anchor).status.code = 0 ∧
        ∀ template ∈ templates, ∃ date, Template.resolve template anchor = .ok date) ∨
      (resolve templates json anchor).status.code = 1 ∧
        ∃ place rejection, FirstRejection anchor templates place rejection := by
  cases found : Holidays.resolve templates anchor with
  | ok holidays =>
    rw [Report.resolve_of_ok found]
    exact .inl ⟨rfl, Holidays.exists_resolve_iff.1 ⟨holidays, found⟩⟩
  | error error =>
    rw [Report.resolve_of_error found]
    exact .inr ⟨rfl, _, _, Holidays.resolve_eq_error_iff.1 found⟩

/-- A world in which a configuration asks for a log file that can be created, and no variable asks
for anything else. -/
structure LogsTo (w : World) (config? : Option String) (anchor : Date) (c : Config)
    (path : String) : Prop where
  loaded : Config.load w.files w.environment config? anchor = .ok c
  file : c.logging.file? = some path
  opens : w.files.canCreate path = true
  unasked : w.environment.get? "RUST_LOG" = none

namespace LogsTo
variable {w : World} {config? : Option String} {anchor : Date} {c : Config} {path : String}

theorem create_eq (logs : LogsTo w config? anchor c path) : w.files.create path = .ok () := by
  have opens := logs.opens
  rw [FileSystem.canCreate] at opens
  cases created : w.files.create path with
  | ok done => rfl
  | error e =>
    rw [created] at opens
    cases opens

theorem logFile?_run {words : List String} {templates : List String} {json : Bool}
    (logs : LogsTo w config? anchor c path)
    (asked : Request.ofArguments? words =
      some (.run ⟨config?, some anchor, .resolve templates json⟩)) :
    (run w words).logFile? = some ⟨path,
      Log.atLeast (Log.fileThreshold c.logging) (Log.fullLog anchor templates)⟩ := by
  have filter : Log.fileFilter w.environment c.logging = .uniform (Log.fileThreshold c.logging) := by
    rw [Log.fileFilter, Log.filter, logs.unasked]
    rfl
  have found : (Invocation.mk config? (some anchor) (.resolve templates json)).load w = .ok c :=
    logs.loaded
  rw [run_of_request asked, Invocation.run, found, Invocation.outcome]
  simp only [Invocation.logging, logs.file, logs.create_eq, filter, Log.keep_uniform]
  rfl

end LogsTo

/-- **What the log file says.** A log keeps the events of the full log from its level upwards, in
their order. From debugging upwards it says of as many templates that they are resolved as there
are before the first that names no date, and a failed run ends with the rejection of that one, which
no other run has. The full log begins with the run and goes on with what is heard of the templates:
one that is resolved has left its own lines just before, and the templates before it have left theirs
before that. The level is the one that the log settings spell, in letters of either case, and
debugging if they spell none. -/
theorem resolve_log_file {w : World} {words : List String} {config? : Option String}
    {anchor : Date} {templates : List String} {json : Bool} {c : Config} {path : String}
    (asked : Request.ofArguments? words =
      some (.run ⟨config?, some anchor, .resolve templates json⟩))
    (logs : LogsTo w config? anchor c path) :
    let level := Log.fileThreshold c.logging
    ∃ log, (run w words).logFile? = some ⟨path, log⟩ ∧
      (∀ w' c' path' log', LogsTo w' config? anchor c' path' →
        Log.fileThreshold c'.logging = .downTo .trace →
        (run w' words).logFile? = some ⟨path', log'⟩ →
          log = log'.filter fun e => e.severity ∈ level.atOrAbove) ∧
      (level = .downTo .debug ∨ level = .downTo .trace →
        Log.resolvedCount log =
            templates.findIdx (fun template => !(Template.resolve template anchor).isOk) ∧
          ((run w words).report.status.code = 1 → ∃ place rejection,
            FirstRejection anchor templates place rejection ∧
              log.getLast? = some (.templateRejected rejection.fault) ∧
              log.getLast?.map Log.Event.message = some "template rejected") ∧
          ((run w words).report.status.code = 0 →
            ∀ e ∈ log, e.message ≠ "template rejected")) ∧
      (level = .downTo .trace →
        (∃ heard, log = .started anchor :: heard ∧ Log.Heard anchor templates heard) ∧
        ∀ front e back, log = front ++ e :: back → e.message = "resolved holiday template" →
          ∃ template own parts, templates[Log.resolvedCount front]? = some template ∧
            Log.OwnLines anchor template (own ++ [e]) ∧
            own.map Log.Event.message = Template.Trace.script ∧
            List.Forall₂ (Log.OwnLines anchor) (templates.take (Log.resolvedCount front)) parts ∧
            front = .started anchor :: (parts.flatten ++ own)) ∧
      (∀ t, Log.Threshold.Spells (c.logging.fileLevel?.getD c.logging.level) t → level = t) ∧
      ((∀ t, ¬ Log.Threshold.Spells (c.logging.fileLevel?.getD c.logging.level) t) →
        level = .downTo .debug) := by
  intro level
  refine ⟨_, logs.logFile?_run asked, fun w' c' path' log' logs' full h => ?_,
    fun generous => ⟨?_, fun failed => ?_, fun succeeded e here => ?_⟩, fun full => ⟨?_, ?_⟩,
    fun t => Log.fileThreshold_of_spells, Log.fileThreshold_of_unknown⟩
  · rw [logs'.logFile?_run asked, full, Log.atLeast_trace] at h
    obtain ⟨-, rfl⟩ := LogFile.mk.inj (Option.some.inj h)
    rfl
  · rw [Log.resolvedCount_atLeast generous, Log.resolvedCount_fullLog]
  · rw [run_of_request asked, Invocation.report_run_resolve rfl] at failed
    rcases Report.resolve_code_cases templates json anchor with
      ⟨succeeded, -⟩ | ⟨-, place, rejection, first⟩
    · cases succeeded.symm.trans failed
    · obtain ⟨front, ends⟩ := Log.exists_fullLog_eq first
      rw [ends, Log.getLast?_atLeast_rejected generous]
      exact ⟨place, rejection, first, rfl, rfl⟩
  · rw [run_of_request asked, Invocation.report_run_resolve rfl] at succeeded
    rcases Report.resolve_code_cases templates json anchor with ⟨-, named⟩ | ⟨failed, -⟩
    · exact Log.not_rejected_fullLog named e (List.mem_filter.1 here).1
    · cases failed.symm.trans succeeded
  · rw [show Log.fileThreshold c.logging = .downTo .trace from full, Log.atLeast_trace]
    exact ⟨_, rfl, Log.heard_resolveTemplates anchor templates⟩
  · rw [show Log.fileThreshold c.logging = .downTo .trace from full, Log.atLeast_trace]
    intro front e back cut resolved
    obtain ⟨template, own, parts, place, lines, earlier, front⟩ :=
      Log.exists_own_fullLog cut resolved
    exact ⟨template, own, parts, place, lines, lines.messages_before, earlier, front⟩

/-- A template that names a date, one that does not and one that is not reached, in a log for
debugging and in a full one. -/
theorem resolve_log_file_february :
    let words := ["resolve", "--anchor=2024-06-15", "YEAR-12-25", "2024-02-30", "DAY"]
    let anchor : Date := ⟨2024, 6, 15, by decide⟩
    let christmas : Date := ⟨2024, 12, 25, by decide⟩
    let named : Log.Event := .template (.named "YEAR-12-25" anchor christmas)
    let own : List Log.Event := [.template (.cut ["YEAR", "12", "25"]),
      .template (.read ⟨.year, 2024, 0⟩), .template (.read ⟨.month, 12, 0⟩),
      .template (.read ⟨.day, 25, 0⟩), .template (.composed christmas),
      .template (.moved christmas)]
    let others : List Log.Event := [.template (.cut ["2024", "02", "30"]),
      .template (.read ⟨.year, 2024, 0⟩), .template (.read ⟨.month, 2, 0⟩),
      .template (.read ⟨.day, 30, 0⟩), .templateRejected (.noSuchDate 2024 2 30)]
    let debug := World.uniform (.bytes
      "version = 1\n[logging]\nfile_level = \"DeBug\"\nfile = \"/hld.log\"".toUTF8) true
    let full := World.uniform (.bytes
      "version = 1\n[logging]\nlevel = \"TRACE\"\nfile = \"/hld.log\"".toUTF8) true
    Request.ofArguments? words = some (.run ⟨none, some anchor,
        .resolve ["YEAR-12-25", "2024-02-30", "DAY"] false⟩) ∧
      ∃ c c', LogsTo debug none anchor c "/hld.log" ∧ LogsTo full none anchor c' "/hld.log" ∧
        ∃ log log', (run debug words).logFile? = some ⟨"/hld.log", log⟩ ∧
          (run full words).logFile? = some ⟨"/hld.log", log'⟩ ∧
          log = [.started anchor, named, .templateRejected (.noSuchDate 2024 2 30)] ∧
          log' = .started anchor :: (own ++ named :: others) ∧
          log = log'.filter (fun e => e.severity ∈ (Log.Threshold.downTo .debug).atOrAbove) ∧
          Log.resolvedCount log = 1 ∧
          log.getLast?.map Log.Event.message = some "template rejected" ∧
          Log.OwnLines anchor "YEAR-12-25" (own ++ [named]) := by
  intro words anchor christmas named own others debug full
  have logs (contents : Contents) (logging : Config.Logging)
      (said : Config.Says contents ⟨1, .default, logging⟩)
      (file : logging.file? = some "/hld.log")
      (expanded : Config.readLogging ⟨[("HOME", "/home/hld")], none⟩ logging = .ok logging) :
      LogsTo (.uniform contents true) none anchor
        ⟨anchor, Config.workWeek, Config.workTime, ⟨[]⟩, logging⟩ "/hld.log" :=
    ⟨Config.load_eq_ok_iff.2 ⟨_, said, Config.ofSettings_eq_ok_iff.2
      ⟨rfl, rfl, Config.readWorkDays_default, Config.readWorkHours_default, rfl, expanded⟩⟩,
      file, rfl, rfl⟩
  have logsDebug : LogsTo debug none anchor _ "/hld.log" :=
    logs _ ⟨"info", some "DeBug", some "/hld.log"⟩ ((Config.says_iff "").2 (by decide +kernel)) rfl
      (by decide +kernel)
  have logsFull : LogsTo full none anchor _ "/hld.log" :=
    logs _ ⟨"TRACE", none, some "/hld.log"⟩ ((Config.says_iff "").2 (by decide +kernel)) rfl
      (by decide +kernel)
  have asked : Request.ofArguments? words = some (.run ⟨none, some anchor,
      .resolve ["YEAR-12-25", "2024-02-30", "DAY"] false⟩) := by decide +kernel
  have steps : (Command.resolveTemplates anchor ["YEAR-12-25", "2024-02-30", "DAY"]).steps =
      own ++ named :: others := by decide +kernel
  have failed : (run debug words).report.status.code = 1 := by
    rw [run_of_request asked, Invocation.report_run_resolve rfl]
    decide +kernel
  obtain ⟨log, here, kept, generous, -, level, -⟩ := resolve_log_file asked logsDebug
  obtain ⟨log', here', -, -, whole, level', -⟩ := resolve_log_file asked logsFull
  have spelled := level (.downTo .debug) (by decide +kernel)
  have spelled' := level' (.downTo .trace) (by decide +kernel)
  obtain ⟨counted, ends, -⟩ := generous (.inl spelled)
  have kept := kept full _ _ _ logsFull spelled' here'
  rw [spelled] at kept
  obtain rfl : .started anchor :: (own ++ named :: others) = log' := by
    have exactly := (logsFull.logFile?_run asked).symm.trans here'
    rw [spelled', Log.atLeast_trace, Log.fullLog, steps] at exactly
    exact (LogFile.mk.inj (Option.some.inj exactly)).2
  obtain ⟨place, rejection, -, -, last⟩ := ends failed
  obtain ⟨template, its, parts, found, lines, -, earlier, front⟩ :=
    (whole spelled').2 (.started anchor :: own) named others rfl rfl
  refine ⟨asked, _, _, logsDebug, logsFull, log, _, here, here', ?_, rfl, kept, ?_, last, ?_⟩
  · rw [kept]
    decide +kernel
  · rw [counted]
    decide +kernel
  · have begun : Log.resolvedCount (.started anchor :: own) = 0 := by decide +kernel
    rw [begun] at found earlier
    obtain rfl := Option.some.inj found
    cases earlier
    obtain ⟨-, rfl⟩ := List.cons.inj front
    exact lines

end Almanac
