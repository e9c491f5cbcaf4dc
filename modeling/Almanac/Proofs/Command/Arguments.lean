import Almanac.Command.Arguments

/-! Options on a command line.

The option `--config` may stand before the name of the command or after it, and gives its value as
the next word or after `=`. Wherever it stands, it says which configuration is meant and nothing
else: a command line that is understood is understood without it as well, and then asks for the same
command with the same anchor (`ofArguments?_withoutConfig`). With the options of `resolve` written
out, the command line asks for all its templates as they are (`ofArguments?_resolveWords`). -/
namespace Almanac

namespace Command

/-! ### What options give -/

namespace Given
variable {g h : Given}

theorem set_config_eq_some_iff {value : String} : g.set .config value = some h ↔
    (g.config? = none ∧ value ≠ "") ∧ h = { g with config? := some value } := by
  simp only [set]
  split
  · next refused =>
    constructor
    · intro given
      cases given
    · intro given
      simp [given.1] at refused
  · next allowed =>
    rw [Option.some.injEq, eq_comm (b := h)]
    simp only [not_or, Bool.not_eq_true, Option.isSome_eq_false_iff, Option.isNone_iff_eq_none,
      String.isEmpty_eq_false_iff] at allowed
    exact (and_iff_right allowed).symm

theorem set_anchor_eq_some_iff {value : String} : g.set .anchor value = some h ↔
    g.anchor? = none ∧
      ∃ date, Date.ofText? value = some date ∧ h = { g with anchor? := some date } := by
  simp only [set]
  cases g.anchor? with
  | some date => simp
  | none => simp [Option.map_eq_some_iff, eq_comm (b := h)]

theorem setJson_eq_some_iff :
    g.setJson = some h ↔ g.json = false ∧ h = { g with json := true } := by
  simp only [setJson]
  cases g.json with
  | true => simp
  | false => simp [eq_comm (b := h)]

end Given

/-- An option with its value after `=`. -/
def Setting.word (setting : Setting) (value : String) : String :=
  "--" ++ setting.name ++ "=" ++ value

theorem Setting.ofName?_name (setting : Setting) : ofName? setting.name.toList = some setting := by
  cases setting with
  | config => rfl
  | anchor => rfl

theorem Word.ofText_word (setting : Setting) (value : String) :
    Word.ofText (setting.word value) = .option setting.name.toList (some value.toList) := by
  rw [Word.ofText, Setting.word, String.toList_append]
  cases setting with
  | config => rfl
  | anchor => rfl

theorem readWords_word (g : Given) (setting : Setting) (value : String) (words : List String) :
    readWords g (setting.word value :: words) =
      (g.set setting value).bind (readWords · words) := by
  simp only [readWords, Word.ofText_word, Setting.ofName?_name, String.ofList_toList]
  rfl

theorem valueOf_eq_some_iff {word value : String} :
    valueOf word = some value ↔ Word.ofText word = .plain ∧ word = value := by
  unfold valueOf
  split
  · next look => rw [Option.some.injEq, and_iff_right look]
  · next other =>
    constructor
    · intro none
      cases none
    · intro plain
      exact absurd plain.1 other

/-! ### Without the configuration -/

/-- What was given, but for the configuration. -/
def Given.withoutConfig (g : Given) : Given :=
  { g with config? := none }

/-- Words without the option `--config` and its value. After `--` there are no options. -/
def withoutConfig : List String → List String
  | [] => []
  | word :: words =>
    match Word.ofText word with
    | .dashes => word :: words
    | .plain | .letters _ => word :: withoutConfig words
    | .option name value? =>
      match Setting.ofName? name, value?, words with
      | some .config, some _, words => withoutConfig words
      | some .config, none, _ :: words => withoutConfig words
      | some .config, none, [] => []
      | _, _, words => word :: withoutConfig words

namespace Given
variable {g h : Given}

theorem withoutConfig_of_set {value : String} (given : g.set .config value = some h) :
    h.withoutConfig = g.withoutConfig := by
  obtain ⟨-, rfl⟩ := set_config_eq_some_iff.1 given
  rfl

theorem set_anchor_withoutConfig {value : String} (given : g.set .anchor value = some h) :
    g.withoutConfig.set .anchor value = some h.withoutConfig := by
  obtain ⟨first, date, read, rfl⟩ := set_anchor_eq_some_iff.1 given
  exact set_anchor_eq_some_iff.2 ⟨first, date, read, rfl⟩

theorem setJson_withoutConfig (given : g.setJson = some h) :
    g.withoutConfig.setJson = some h.withoutConfig := by
  obtain ⟨first, rfl⟩ := setJson_eq_some_iff.1 given
  exact setJson_eq_some_iff.2 ⟨first, rfl⟩

end Given

/-- The words after the name of a command. -/
theorem readWords_withoutConfig {g found : Given} {words : List String}
    (h : readWords g words = some found) :
    readWords g.withoutConfig (withoutConfig words) = some found.withoutConfig := by
  fun_induction readWords g words with
  | case1 g =>
    obtain rfl := Option.some.inj h
    rfl
  | case2 g word words look ih =>
    simp only [withoutConfig, look, readWords]
    exact ih h
  | case3 g word words look =>
    obtain rfl := Option.some.inj h
    simp only [withoutConfig, look, readWords]
    rfl
  | case4 g word words cs look help =>
    obtain rfl := Option.some.inj h
    simp only [withoutConfig, look, readWords, help, if_true]
    rfl
  | case5 => cases h
  | case6 g word name setting value words named look ih =>
    obtain ⟨next, given, rest⟩ := Option.bind_eq_some_iff.1 h
    cases setting with
    | config =>
      simp only [withoutConfig, look, named]
      rw [← Given.withoutConfig_of_set given]
      exact ih next rest
    | anchor =>
      simp only [withoutConfig, look, named, readWords, Given.set_anchor_withoutConfig given]
      exact ih next rest
  | case7 g word name setting value words named look ih =>
    obtain ⟨text, plain, h'⟩ := Option.bind_eq_some_iff.1 h
    obtain ⟨next, given, rest⟩ := Option.bind_eq_some_iff.1 h'
    obtain ⟨valueLook, rfl⟩ := valueOf_eq_some_iff.1 plain
    cases setting with
    | config =>
      simp only [withoutConfig, look, named]
      rw [← Given.withoutConfig_of_set given]
      exact ih next rest
    | anchor =>
      simp only [withoutConfig, look, named, valueLook, readWords, plain]
      show (Given.set _ _ _ >>= _) = _
      rw [Given.set_anchor_withoutConfig given]
      exact ih next rest
  | case8 => cases h
  | case9 g word words named look ih =>
    obtain ⟨next, given, rest⟩ := Option.bind_eq_some_iff.1 h
    simp only [withoutConfig, look, named, readWords, Given.setJson_withoutConfig given]
    exact ih next rest
  | case10 g word words named other look =>
    obtain rfl := Option.some.inj h
    simp only [withoutConfig, look, named, readWords, if_neg other, if_true]
    rfl
  | case11 => cases h
  | case12 => cases h

end Command

namespace Request
open Command

/-- A request, but for the configuration. -/
def withoutConfig : Request → Request
  | .version => .version
  | .help topic => .help topic
  | .run invocation => .run { invocation with config? := none }

theorem ofCommand?_withoutConfig {g : Given} {name : String} {words : List String}
    {request : Request} (h : ofCommand? g name words = some request) :
    ofCommand? g.withoutConfig name (Command.withoutConfig words) = some request.withoutConfig := by
  obtain ⟨inner, read, h⟩ := Option.bind_eq_some_iff.1 h
  have read : readWords Given.nothing (Command.withoutConfig words) = some inner.withoutConfig :=
    readWords_withoutConfig read
  rw [ofCommand?, read]
  split at h
  · next help =>
    obtain ⟨topic, named, rfl⟩ := Option.map_eq_some_iff.1 h
    show (if inner.help = true then (topicOf? name inner.withoutConfig).map Request.help else _) = _
    rw [if_pos help]
    exact Option.map_eq_some_iff.2 ⟨topic, named, rfl⟩
  · next run =>
    obtain ⟨command, named, made⟩ := Option.bind_eq_some_iff.1 h
    obtain rfl := Option.some.inj made
    have named : Command.ofName? name inner.withoutConfig = some command := named
    show (if inner.help = true then _ else Command.ofName? name inner.withoutConfig >>= _) = _
    rw [if_neg run, named]
    rfl

/-- The name of a topic is no option. -/
theorem plain_of_topic {name : String} {topic : Topic} (h : Topic.ofName? name = some topic) :
    Word.ofText name = .plain := by
  unfold Topic.ofName? at h
  split at h
  · rfl
  · rfl
  · rfl
  · rfl
  · cases h

theorem ofTopics?_withoutConfig {words : List String} {request : Request}
    (h : ofTopics? words = some request) :
    ofTopics? (Command.withoutConfig words) = some request.withoutConfig := by
  unfold ofTopics? at h
  split at h
  · obtain rfl := Option.some.inj h
    rfl
  · next name =>
    obtain ⟨topic, named, rfl⟩ := Option.map_eq_some_iff.1 h
    have kept : Command.withoutConfig [name] = [name] := by
      simp only [Command.withoutConfig, plain_of_topic named]
    rw [kept, ofTopics?, named]
    rfl
  · cases h

theorem ofWords?_withoutConfig {g : Given} {words : List String} {request : Request}
    (h : ofWords? g words = some request) :
    ofWords? g.withoutConfig (Command.withoutConfig words) = some request.withoutConfig := by
  fun_induction ofWords? g words with
  | case1 => cases h
  | case2 g words look =>
    simp only [Command.withoutConfig, look, ofWords?, if_true]
    exact ofTopics?_withoutConfig h
  | case3 g word words look command =>
    simp only [Command.withoutConfig, look, ofWords?, if_neg command]
    exact ofCommand?_withoutConfig h
  | case4 => cases h
  | case5 g word words cs look version =>
    obtain rfl := Option.some.inj h
    simp only [Command.withoutConfig, look, ofWords?, version, if_true]
    rfl
  | case6 g word words cs look _ help =>
    obtain rfl := Option.some.inj h
    simp only [Command.withoutConfig, look, ofWords?, help, if_true]
    rfl
  | case7 => cases h
  | case8 g word name setting value words named look ih =>
    obtain ⟨next, given, rest⟩ := Option.bind_eq_some_iff.1 h
    cases setting with
    | config =>
      simp only [Command.withoutConfig, look, named]
      rw [← Given.withoutConfig_of_set given]
      exact ih next rest
    | anchor =>
      simp only [Command.withoutConfig, look, named, ofWords?,
        Given.set_anchor_withoutConfig given]
      exact ih next rest
  | case9 g word name setting value words named look ih =>
    obtain ⟨text, plain, h'⟩ := Option.bind_eq_some_iff.1 h
    obtain ⟨next, given, rest⟩ := Option.bind_eq_some_iff.1 h'
    obtain ⟨valueLook, rfl⟩ := valueOf_eq_some_iff.1 plain
    cases setting with
    | config =>
      simp only [Command.withoutConfig, look, named]
      rw [← Given.withoutConfig_of_set given]
      exact ih next rest
    | anchor =>
      simp only [Command.withoutConfig, look, named, valueLook, ofWords?, plain]
      show (Given.set _ _ _ >>= _) = _
      rw [Given.set_anchor_withoutConfig given]
      exact ih next rest
  | case10 => cases h
  | case11 g word words named look =>
    obtain rfl := Option.some.inj h
    simp only [Command.withoutConfig, look, named, ofWords?, if_true]
    rfl
  | case12 g word words named other look =>
    obtain rfl := Option.some.inj h
    simp only [Command.withoutConfig, look, named, ofWords?, if_neg other, if_true]
    rfl
  | case13 => cases h
  | case14 => cases h

/-- **The option `--config` says which configuration is meant and nothing else.** A command line
that is understood is understood without it, and then asks for the same. -/
theorem ofArguments?_withoutConfig {words : List String} {request : Request}
    (h : ofArguments? words = some request) :
    ofArguments? (Command.withoutConfig words) = some request.withoutConfig :=
  ofWords?_withoutConfig h

/-- Requests whose command lines differ in the option alone differ in the configuration alone. -/
theorem withoutConfig_eq {words words' : List String} {request request' : Request}
    (h : ofArguments? words = some request) (h' : ofArguments? words' = some request')
    (same : Command.withoutConfig words = Command.withoutConfig words') :
    request.withoutConfig = request'.withoutConfig := by
  have asked := ofArguments?_withoutConfig h
  rw [same, ofArguments?_withoutConfig h'] at asked
  exact (Option.some.inj asked).symm

/-! ### The command line of `resolve` -/

/-- The configuration, if there is one, and the anchor in front of other words. A path must not be
empty. -/
theorem readWords_options (config? : Option String) (anchor : String) (words : List String) :
    readWords Given.nothing
        (config?.toList.map Setting.config.word ++ Setting.anchor.word anchor :: words) =
      if config? = some "" then none
      else (Date.ofText? anchor).bind fun date =>
        readWords ⟨config?, some date, false, [], false⟩ words := by
  have anchored : readWords ⟨config?, none, false, [], false⟩ (Setting.anchor.word anchor :: words) =
      (Date.ofText? anchor).bind fun date => readWords ⟨config?, some date, false, [], false⟩ words := by
    rw [readWords_word]
    show ((Date.ofText? anchor).map _).bind _ = _
    cases Date.ofText? anchor with
    | none => rfl
    | some date => rfl
  cases config? with
  | none => exact anchored
  | some path =>
    show readWords Given.nothing (Setting.config.word path :: _) = _
    rw [readWords_word]
    by_cases empty : path = ""
    · rw [if_pos (congrArg some empty), empty]
      rfl
    · have set : Given.nothing.set .config path = some ⟨some path, none, false, [], false⟩ :=
        Given.set_config_eq_some_iff.2 ⟨⟨rfl, empty⟩, rfl⟩
      rw [if_neg (mt Option.some.inj empty), set]
      exact anchored

/-- A command line of `resolve` with its options between the command and the templates. -/
def resolveWords (config? : Option String) (anchor : String) (json : Bool)
    (templates : List String) : List String :=
  "resolve" :: config?.toList.map Setting.config.word ++ Setting.anchor.word anchor ::
    (if json then ["--json"] else []) ++ "--" :: templates

theorem readWords_resolveWords {config? : Option String} (given : config? ≠ some "")
    (anchor : String) (json : Bool) (templates : List String) :
    readWords Given.nothing (resolveWords config? anchor json templates).tail =
      (Date.ofText? anchor).map fun date => ⟨config?, some date, json, templates, false⟩ := by
  have options : (resolveWords config? anchor json templates).tail =
      config?.toList.map Setting.config.word ++ Setting.anchor.word anchor ::
        ((if json then ["--json"] else []) ++ "--" :: templates) := by
    simp [resolveWords]
  rw [options, readWords_options, if_neg given]
  cases Date.ofText? anchor with
  | none => rfl
  | some date =>
    cases json with
    | false => rfl
    | true => rfl

/-- The command line asks for its templates when its anchor can be read and there are any. -/
theorem ofArguments?_resolveWords {config? : Option String} (given : config? ≠ some "")
    (anchor : String) (json : Bool) (templates : List String) :
    ofArguments? (resolveWords config? anchor json templates) =
      (Date.ofText? anchor).bind fun date =>
        if templates.isEmpty then none
        else some (.run ⟨config?, some date, .resolve templates json⟩) := by
  show (readWords Given.nothing (resolveWords config? anchor json templates).tail >>= _) = _
  rw [readWords_resolveWords given]
  cases Date.ofText? anchor with
  | none => rfl
  | some date =>
    show (Command.ofName? "resolve" ⟨config?, some date, json, templates, false⟩ >>= _) = _
    cases templates with
    | nil => rfl
    | cons template templates =>
      cases config? with
      | none => rfl
      | some path => rfl

end Request

end Almanac
