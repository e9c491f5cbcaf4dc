/-! When a computation that may fail succeeds, and when it fails.

A sequence succeeds exactly when its steps do, one after the other (`bind_eq_ok_iff`), and so does a
computation done for each element of a list (`mapM_eq_ok_iff`); what is done to the error changes no
success (`mapError_eq_ok_iff`). It fails with the error of the first step that does
(`bind_eq_error_iff`), and for a list with that of the first element (`mapM_eq_error_iff`). -/
namespace Almanac
variable {ε ε' α β : Type}

theorem exists_error_iff {x : Except ε α} : (∃ e, x = .error e) ↔ ¬ ∃ a, x = .ok a := by
  cases x with
  | error e => simp
  | ok a => simp

theorem bind_eq_ok_iff {x : Except ε α} {f : α → Except ε β} {b : β} :
    x >>= f = .ok b ↔ ∃ a, x = .ok a ∧ f a = .ok b := by
  cases x with
  | error e => simp [bind, Except.bind]
  | ok a => simp [bind, Except.bind]

theorem bind_eq_error_iff {x : Except ε α} {f : α → Except ε β} {e : ε} :
    x >>= f = .error e ↔ x = .error e ∨ ∃ a, x = .ok a ∧ f a = .error e := by
  cases x with
  | error e' => simp [bind, Except.bind]
  | ok a => simp [bind, Except.bind]

theorem map_eq_ok_iff {x : Except ε α} {f : α → β} {b : β} :
    x.map f = .ok b ↔ ∃ a, x = .ok a ∧ f a = b := by
  cases x with
  | error e => simp [Except.map]
  | ok a => simp [Except.map]

theorem map_eq_error_iff {x : Except ε α} {f : α → β} {e : ε} :
    x.map f = .error e ↔ x = .error e := by
  cases x with
  | error e' => simp [Except.map]
  | ok a => simp [Except.map]

theorem mapError_eq_error_iff {x : Except ε α} {f : ε → ε'} {e : ε'} :
    x.mapError f = .error e ↔ ∃ e', x = .error e' ∧ f e' = e := by
  cases x with
  | error e' =>
    show Except.error (f e') = .error e ↔ _
    simp
  | ok a =>
    show Except.ok a = .error e ↔ _
    simp

theorem mapError_eq_ok_iff {x : Except ε α} {f : ε → ε'} {a : α} :
    x.mapError f = .ok a ↔ x = .ok a := by
  cases x with
  | error e => exact ⟨nofun, nofun⟩
  | ok b =>
    exact ⟨fun h => congrArg Except.ok (Except.ok.inj h),
      fun h => congrArg Except.ok (Except.ok.inj h)⟩

theorem mapM_eq_ok_iff {f : α → Except ε β} {xs : List α} {ys : List β} :
    xs.mapM f = .ok ys ↔ xs.map f = ys.map .ok := by
  induction xs generalizing ys with
  | nil =>
    rw [List.mapM_nil, List.map_nil, eq_comm (a := []), List.map_eq_nil_iff]
    exact ⟨fun h => (Except.ok.inj h).symm, fun h => h ▸ rfl⟩
  | cons x xs ih =>
    rw [List.mapM_cons, bind_eq_ok_iff]
    constructor
    · rintro ⟨y, hy, h⟩
      obtain ⟨zs, hz, h⟩ := bind_eq_ok_iff.1 h
      obtain rfl := Except.ok.inj h
      simp [hy, ih.1 hz]
    · intro h
      cases ys with
      | nil => simp at h
      | cons y ys =>
        rw [List.map_cons, List.map_cons, List.cons.injEq] at h
        exact ⟨y, h.1, bind_eq_ok_iff.2 ⟨ys, ih.2 h.2, rfl⟩⟩

/-- A list fails with the error of its first element that has one. -/
theorem mapM_eq_error_iff {f : α → Except ε β} {fails : α → Bool}
    (hf : ∀ x, fails x = true ↔ ∃ e, f x = .error e) {xs : List α} {e : ε} :
    xs.mapM f = .error e ↔ ∃ x, xs.find? fails = some x ∧ f x = .error e := by
  induction xs with
  | nil =>
    constructor
    · intro h
      cases h
    · intro h
      obtain ⟨x, none, -⟩ := h
      cases none
  | cons x xs ih =>
    rw [List.mapM_cons, bind_eq_error_iff]
    cases here : f x with
    | error e' =>
      have first : fails x = true := (hf x).2 ⟨e', here⟩
      rw [List.find?_cons_of_pos first]
      simp [here]
    | ok y =>
      have passes : ¬ fails x = true := fun bad => by
        obtain ⟨e', bad⟩ := (hf x).1 bad
        cases here.symm.trans bad
      rw [List.find?_cons_of_neg passes, ← ih]
      simp only [reduceCtorEq, false_or, Except.ok.injEq, exists_eq_left', bind_eq_error_iff]
      refine ⟨fun h => h.resolve_right fun done => ?_, .inl⟩
      obtain ⟨ys, -, done⟩ := done
      cases done

end Almanac
