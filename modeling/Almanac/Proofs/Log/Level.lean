import Almanac.Log.Setup
import Almanac.Proofs.Text.LowerCase

/-! The levels of a log.

A level is spelled by its word in letters of either case, and a text spells one level at most
(`Threshold.Spells.unique`). It keeps the events whose severity is at or above it
(`Threshold.atOrAbove`), in their order, and nothing else (`keep_uniform`). The level of the log file
is the one that the log settings spell for it, and debugging if they spell none
(`fileThreshold_of_spells`, `fileThreshold_of_unknown`). -/
namespace Almanac.Log

namespace Threshold

/-- A text is the word for a level, in letters of either case. -/
def Spells (text : String) (t : Threshold) : Prop :=
  (String.ofList (text.toList.map Char.toLower), t) ∈ [("off", off), ("error", downTo .error),
    ("warn", downTo .warn), ("info", downTo .info), ("debug", downTo .debug),
    ("trace", downTo .trace)]

instance (text : String) (t : Threshold) : Decidable (Spells text t) :=
  inferInstanceAs (Decidable (_ ∈ _))

theorem mem_all (t : Threshold) : t ∈ all := by
  rcases t with _ | _ | _ | _ | _ | _ <;> decide

theorem isWordLetter_word (t : Threshold) : t.word.toList.all Text.isWordLetter = true :=
  List.all_eq_true.1 (by decide : all.all (fun t => t.word.toList.all Text.isWordLetter) = true) t
    (mem_all t)

theorem word_injective {t u : Threshold} (h : t.word = u.word) : t = u := by
  rcases t with _ | _ | _ | _ | _ | _ <;> rcases u with _ | _ | _ | _ | _ | _ <;>
    simp_all [word]

theorem spells_iff {text : String} {t : Threshold} :
    Spells text t ↔ text.toList.map Char.toLower = t.word.toList := by
  rw [← String.ofList_inj, String.ofList_toList, Spells]
  rcases t with _ | _ | _ | _ | _ | _ <;> simp [word]

theorem lower_eq_word_iff {text : String} {t : Threshold} :
    Text.lower text.toList = t.word.toList ↔ Spells text t :=
  (Text.lower_eq_iff (List.all_eq_true.1 (isWordLetter_word t))).trans spells_iff.symm

/-- A text spells one level at most. -/
theorem Spells.unique {text : String} {t u : Threshold} (h : Spells text t) (h' : Spells text u) :
    t = u :=
  word_injective (String.toList_inj.1 ((spells_iff.1 h).symm.trans (spells_iff.1 h')))

theorem spells_of_ofText? {text : String} {t : Threshold} (h : ofText? text = some t) :
    Spells text t := by
  have matched : (t.word.toList == Text.lower text.toList) = true :=
    List.find?_some (p := fun t : Threshold => t.word.toList == Text.lower text.toList) h
  exact lower_eq_word_iff.1 (beq_iff_eq.1 matched).symm

theorem ofText?_eq_some_iff {text : String} {t : Threshold} :
    ofText? text = some t ↔ Spells text t := by
  refine ⟨spells_of_ofText?, fun h => ?_⟩
  cases found : ofText? text with
  | none =>
    have other := List.find?_eq_none.1 found t (mem_all t)
    exact absurd (beq_iff_eq.2 (lower_eq_word_iff.2 h).symm) other
  | some u => rw [(spells_of_ofText? found).unique h]

/-- The severities at or above a level. -/
def atOrAbove : Threshold → List Severity
  | off => []
  | downTo .error => [.error]
  | downTo .warn => [.error, .warn]
  | downTo .info => [.error, .warn, .info]
  | downTo .debug => [.error, .warn, .info, .debug]
  | downTo .trace => [.error, .warn, .info, .debug, .trace]

theorem admits_eq (t : Threshold) (severity : Severity) :
    t.admits severity = decide (severity ∈ t.atOrAbove) := by
  rcases t with _ | _ | _ | _ | _ | _ <;> cases severity <;> rfl

end Threshold

/-! ### The level of the log file -/

/-- The text that the level of the log file is read from. -/
def levelText (logging : Config.Logging) : String :=
  logging.fileLevel?.getD logging.level

theorem fileThreshold_of_spells {logging : Config.Logging} {t : Threshold}
    (h : Threshold.Spells (levelText logging) t) : fileThreshold logging = t := by
  rw [levelText, ← Threshold.ofText?_eq_some_iff] at h
  rw [fileThreshold, h]
  rfl

theorem fileThreshold_of_unknown {logging : Config.Logging}
    (h : ∀ t, ¬ Threshold.Spells (levelText logging) t) :
    fileThreshold logging = .downTo .debug := by
  have unknown : Threshold.ofText? (levelText logging) = none :=
    Option.eq_none_iff_forall_ne_some.2 fun t found => h t (Threshold.ofText?_eq_some_iff.1 found)
  rw [levelText] at unknown
  rw [fileThreshold, unknown]
  rfl

/-! ### What a level keeps -/

/-- The events at or above a level. -/
def atLeast (t : Threshold) (events : List Event) : List Event :=
  events.filter fun e => e.severity ∈ t.atOrAbove

theorem keep_uniform (t : Threshold) (events : List Event) :
    (Filter.uniform t).keep events = atLeast t events :=
  List.filter_congr fun e _ => (Filter.admits_uniform t e).trans (t.admits_eq e.severity)

theorem atLeast_trace (events : List Event) : atLeast (.downTo .trace) events = events := by
  refine List.filter_eq_self.2 fun e _ => ?_
  cases e.severity <;> rfl

end Almanac.Log
