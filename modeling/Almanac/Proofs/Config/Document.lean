import Almanac.Config.Load

/-! What a configuration file says.

The bytes of a file are a text, the text is a document, and the document makes settings
(`Decodes`, `Says`): no others (`Says.unique`), and whatever the path that the file was found at.
Loading is to find what the file says, and then to give it a meaning (`ofContents_eq`,
`load_eq_ok_iff`). -/
namespace Almanac.Config

/-! ### Texts, documents and settings -/

/-- What was found is the text of a document with this table. -/
def Decodes (contents : Contents) (table : Toml.Table) : Prop :=
  ∃ text : String, contents = .bytes text.toUTF8 ∧ Toml.parse? text = some table

/-- What was found is the text of a document that makes these settings. -/
def Says (contents : Contents) (settings : Settings) : Prop :=
  ∃ table, Decodes contents table ∧ Settings.ofTable table = .ok settings

theorem fromUTF8?_eq_some_iff {data : ByteArray} {text : String} :
    String.fromUTF8? data = some text ↔ text.toUTF8 = data := by
  unfold String.fromUTF8?
  split
  · next valid =>
    rw [Option.some.injEq, ← String.toByteArray_inj]
    exact eq_comm
  · next invalid =>
    constructor
    · intro h
      cases h
    · rintro rfl
      exact absurd text.isValidUTF8 invalid

theorem textOf_eq_ok_iff {path text : String} {contents : Contents} :
    textOf path contents = .ok text ↔ contents = .bytes text.toUTF8 := by
  cases contents with
  | missing => simp [textOf]
  | unreadable reason => simp [textOf]
  | bytes data =>
    rw [textOf, Contents.bytes.injEq, eq_comm (b := text.toUTF8), ← fromUTF8?_eq_some_iff]
    split
    · next text' found => rw [found, Except.ok.injEq, Option.some.injEq]
    · next none => simp [none]

/-- A file that is no directory fails to be a text by its bytes alone. -/
theorem textOf_bytes_eq_error_iff {path : String} {data : ByteArray} {e : ConfigError} :
    textOf path (.bytes data) = .error e ↔ (∀ text : String, text.toUTF8 ≠ data) ∧
      e = .unreadable path "stream did not contain valid UTF-8" := by
  rw [textOf]
  split
  · next text found =>
    constructor
    · intro h
      cases h
    · intro h
      exact absurd (fromUTF8?_eq_some_iff.1 found) (h.1 text)
  · next none =>
    have noText (text : String) : text.toUTF8 ≠ data := fun same => by
      cases none.symm.trans (fromUTF8?_eq_some_iff.2 same)
    rw [Except.error.injEq, and_iff_right noText]
    exact eq_comm

/-- The settings that a text makes. -/
def settingsOf (path text : String) : Except ConfigError Settings :=
  match Toml.parse? text with
  | some table => (Settings.ofTable table).mapError (.wrongShape path)
  | none => .error (.malformed path)

theorem settingsOf_eq_ok_iff {path text : String} {settings : Settings} :
    settingsOf path text = .ok settings ↔
      ∃ table, Toml.parse? text = some table ∧ Settings.ofTable table = .ok settings := by
  unfold settingsOf
  split
  · next table parsed =>
    rw [parsed, mapError_eq_ok_iff]
    simp
  · next none => simp [none]

theorem settingsOf_eq_error_iff {path text : String} {e : ConfigError} :
    settingsOf path text = .error e ↔ Toml.parse? text = none ∧ e = .malformed path ∨
      ∃ table error, Toml.parse? text = some table ∧ Settings.ofTable table = .error error ∧
        e = .wrongShape path error := by
  unfold settingsOf
  split
  · next table parsed =>
    rw [parsed, mapError_eq_error_iff]
    simp [eq_comm (a := e)]
  · next none => simp [none, eq_comm (a := e)]

theorem says_iff {contents : Contents} {settings : Settings} (path : String) :
    Says contents settings ↔ textOf path contents >>= settingsOf path = .ok settings := by
  simp only [bind_eq_ok_iff, textOf_eq_ok_iff, settingsOf_eq_ok_iff]
  constructor
  · intro h
    obtain ⟨table, ⟨text, found, parsed⟩, shaped⟩ := h
    exact ⟨text, found, table, parsed, shaped⟩
  · intro h
    obtain ⟨text, found, table, parsed, shaped⟩ := h
    exact ⟨table, ⟨text, found, parsed⟩, shaped⟩

/-- A file says one thing at most. -/
theorem Says.unique {contents : Contents} {settings settings' : Settings}
    (h : Says contents settings) (h' : Says contents settings') : settings = settings' :=
  Except.ok.inj (((says_iff "").1 h).symm.trans ((says_iff "").1 h'))

/-! ### Loading -/

/-- Whether anything was found. -/
def requireFound (path : String) : Contents → Except ConfigError Unit
  | .missing => .error (.notFound path)
  | .unreadable _ | .bytes _ => .ok ()

/-- What is found is read, and what it says is given its meaning. -/
theorem ofContents_eq (env : Environment) (path : String) (anchor : Date) (contents : Contents) :
    ofContents env path anchor contents =
      requireFound path contents >>= fun _ => textOf path contents >>= fun text =>
        settingsOf path text >>= ofSettings env path anchor := by
  have read (text : String) : (match Toml.parse? text with
      | some table => ofTable env path anchor table
      | none => .error (.malformed path)) = settingsOf path text >>= ofSettings env path anchor := by
    unfold settingsOf
    cases Toml.parse? text with
    | none => rfl
    | some table => rfl
  cases contents with
  | missing => rfl
  | unreadable reason => rfl
  | bytes data => exact congrArg (textOf path (.bytes data) >>= ·) (funext read)

theorem Decodes.ofContents_eq {contents : Contents} {table : Toml.Table} (h : Decodes contents table)
    (env : Environment) (path : String) (anchor : Date) :
    ofContents env path anchor contents = ofTable env path anchor table := by
  obtain ⟨text, rfl, parsed⟩ := h
  have read : textOf path (.bytes text.toUTF8) = .ok text := textOf_eq_ok_iff.2 rfl
  rw [Config.ofContents_eq, read]
  show settingsOf path text >>= _ = _
  unfold settingsOf
  rw [parsed]
  rfl

/-- A file that says something means what it says. -/
theorem Says.ofContents_eq {contents : Contents} {settings : Settings}
    (h : Says contents settings) (env : Environment) (path : String) (anchor : Date) :
    ofContents env path anchor contents = ofSettings env path anchor settings := by
  obtain ⟨table, ⟨text, rfl, parsed⟩, shaped⟩ := h
  have read : textOf path (.bytes text.toUTF8) = .ok text := textOf_eq_ok_iff.2 rfl
  have made : settingsOf path text = .ok settings := settingsOf_eq_ok_iff.2 ⟨table, parsed, shaped⟩
  rw [Config.ofContents_eq, read]
  show settingsOf path text >>= _ = _
  rw [made]
  rfl

theorem ofContents_eq_ok_iff {env : Environment} {path : String} {anchor : Date}
    {contents : Contents} {c : Config} : ofContents env path anchor contents = .ok c ↔
      ∃ settings, Says contents settings ∧ ofSettings env path anchor settings = .ok c := by
  constructor
  · intro h
    simp only [ofContents_eq, bind_eq_ok_iff] at h
    obtain ⟨_, -, text, read, settings, made, meant⟩ := h
    exact ⟨settings, (says_iff path).2 (bind_eq_ok_iff.2 ⟨text, read, made⟩), meant⟩
  · intro h
    obtain ⟨settings, said, meant⟩ := h
    rw [said.ofContents_eq, meant]

theorem load_eq_ok_iff {files : FileSystem} {env : Environment} {path? : Option String}
    {anchor : Date} {c : Config} : load files env path? anchor = .ok c ↔
      ∃ settings, Says (files.read (pathOr env path?)) settings ∧
        ofSettings env (pathOr env path?) anchor settings = .ok c :=
  ofContents_eq_ok_iff

end Almanac.Config
