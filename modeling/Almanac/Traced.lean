import Almanac.Success

/-! Computations that say what they do.

A `Traced` computation takes steps and says each of them. It ends with a value or with an error, and
what was said before an error stays said. Its result is that of the same computation done in silence
(`result_bind`), and its steps are those of its parts, one after the other, up to the part that fails
(`steps_bind_of_ok`, `steps_bind_of_error`). A computation whose parts follow scripts follows their
scripts joined (`Follows.bind`). -/
namespace Almanac

/-- The steps of a computation that may fail, and what it came to. -/
structure Traced (σ ε α : Type) where
  steps : List σ
  result : Except ε α

namespace Traced
variable {σ τ ε ε' α β : Type}

/-- What is done in silence. -/
def silent (x : Except ε α) : Traced σ ε α :=
  ⟨[], x⟩

/-- Says a step. -/
def say (step : σ) : Traced σ ε Unit :=
  ⟨[step], .ok ()⟩

/-- A computation and what is done with its value. -/
def bind (x : Traced σ ε α) (f : α → Traced σ ε β) : Traced σ ε β :=
  match x.result with
  | .ok a => ⟨x.steps ++ (f a).steps, (f a).result⟩
  | .error e => ⟨x.steps, .error e⟩

instance : Monad (Traced σ ε) where
  pure a := silent (.ok a)
  bind := bind

def mapError (f : ε → ε') (x : Traced σ ε α) : Traced σ ε' α :=
  ⟨x.steps, x.result.mapError f⟩

/-- The same computation with other words for its steps. -/
def mapSteps (f : σ → τ) (x : Traced σ ε α) : Traced τ ε α :=
  ⟨x.steps.map f, x.result⟩

/-- Says an error as the last step. -/
def sayError (f : ε → σ) (x : Traced σ ε α) : Traced σ ε α :=
  match x.result with
  | .ok _ => x
  | .error e => ⟨x.steps ++ [f e], .error e⟩

@[simp] theorem result_pure (a : α) : (pure a : Traced σ ε α).result = .ok a := rfl

@[simp] theorem steps_pure (a : α) : (pure a : Traced σ ε α).steps = [] := rfl

@[simp] theorem result_silent (x : Except ε α) : (silent x : Traced σ ε α).result = x := rfl

@[simp] theorem result_mapError (f : ε → ε') (x : Traced σ ε α) :
    (x.mapError f).result = x.result.mapError f := rfl

@[simp] theorem steps_mapError (f : ε → ε') (x : Traced σ ε α) : (x.mapError f).steps = x.steps := rfl

@[simp] theorem result_mapSteps (f : σ → τ) (x : Traced σ ε α) : (x.mapSteps f).result = x.result :=
  rfl

@[simp] theorem steps_mapSteps (f : σ → τ) (x : Traced σ ε α) :
    (x.mapSteps f).steps = x.steps.map f := rfl

section Bind
variable {x : Traced σ ε α} {f : α → Traced σ ε β}

@[simp] theorem result_bind : (x >>= f).result = x.result >>= fun a => (f a).result := by
  obtain ⟨steps, _ | a⟩ := x
  · rfl
  · rfl

theorem steps_bind_of_ok {a : α} (h : x.result = .ok a) :
    (x >>= f).steps = x.steps ++ (f a).steps := by
  obtain ⟨steps, _⟩ := x
  obtain rfl := h
  rfl

theorem steps_bind_of_error {e : ε} (h : x.result = .error e) : (x >>= f).steps = x.steps := by
  obtain ⟨steps, _⟩ := x
  obtain rfl := h
  rfl

end Bind

section SayError
variable {x : Traced σ ε α} {f : ε → σ}

@[simp] theorem result_sayError : (x.sayError f).result = x.result := by
  obtain ⟨steps, _ | a⟩ := x
  · rfl
  · rfl

theorem steps_sayError_of_ok {a : α} (h : x.result = .ok a) : (x.sayError f).steps = x.steps := by
  obtain ⟨steps, _⟩ := x
  obtain rfl := h
  rfl

theorem steps_sayError_of_error {e : ε} (h : x.result = .error e) :
    (x.sayError f).steps = x.steps ++ [f e] := by
  obtain ⟨steps, _⟩ := x
  obtain rfl := h
  rfl

end SayError

/-! ### Scripts -/

/-- What a computation says, told by the names of its steps: all of a script when it succeeds, and a
beginning of it in any case. -/
structure Follows (x : Traced σ ε α) (name : σ → τ) (script : List τ) : Prop where
  begins : x.steps.map name <+: script
  ends : ∀ a, x.result = .ok a → x.steps.map name = script

namespace Follows
variable {name : σ → τ} {script rest : List τ}

theorem silent (x : Except ε α) : (Traced.silent x).Follows name [] :=
  ⟨List.nil_prefix, fun _ _ => rfl⟩

theorem pure (a : α) : (Pure.pure a : Traced σ ε α).Follows name [] :=
  silent _

theorem say (step : σ) : (Traced.say step : Traced σ ε Unit).Follows name [name step] :=
  ⟨List.prefix_refl _, fun _ _ => rfl⟩

/-- Where there is no success, nothing need be said. -/
theorem error (e : ε) : (Traced.silent (.error e) : Traced σ ε α).Follows name script :=
  ⟨List.nil_prefix, fun _ h => by cases h⟩

theorem bind {x : Traced σ ε α} {f : α → Traced σ ε β} (hx : x.Follows name script)
    (hf : ∀ a, (f a).Follows name rest) : (x >>= f).Follows name (script ++ rest) := by
  cases h : x.result with
  | error e =>
    constructor
    · rw [steps_bind_of_error h]
      exact hx.begins.trans (List.prefix_append _ _)
    · intro b hb
      rw [result_bind, h] at hb
      cases hb
  | ok a =>
    constructor
    · rw [steps_bind_of_ok h, List.map_append, hx.ends a h]
      exact (List.prefix_append_right_inj _).2 (hf a).begins
    · intro b hb
      rw [result_bind, h] at hb
      rw [steps_bind_of_ok h, List.map_append, hx.ends a h, (hf a).ends b hb]

end Follows

end Traced

end Almanac
