/-!
Computations that may fail, opened from their results.
-/
namespace CertifiedAccess
variable {ε ε' α β : Type}

theorem bind_eq_ok_iff {x : Except ε α} {f : α → Except ε β} {b : β} :
    (x >>= f) = .ok b ↔ ∃ a, x = .ok a ∧ f a = .ok b := by
  cases x with
  | ok a => simp [bind, Except.bind]
  | error e => simp [bind, Except.bind]

theorem bind_eq_error_iff {x : Except ε α} {f : α → Except ε β} {e : ε} :
    (x >>= f) = .error e ↔ x = .error e ∨ ∃ a, x = .ok a ∧ f a = .error e := by
  cases x with
  | ok a => simp [bind, Except.bind]
  | error e' => simp [bind, Except.bind]

/-- What is made of a value in the end can no longer fail. -/
theorem bind_pure_eq_error_iff {x : Except ε α} {f : α → β} {e : ε} :
    (x >>= fun a => pure (f a)) = .error e ↔ x = .error e := by
  cases x with
  | ok a => simp [bind, Except.bind, pure, Except.pure]
  | error e' => simp [bind, Except.bind]

@[simp] theorem pure_eq_ok_iff {a b : α} : (pure a : Except ε α) = .ok b ↔ a = b := by
  simp [pure, Except.pure]

theorem map_eq_ok_iff {x : Except ε α} {f : α → β} {b : β} :
    x.map f = .ok b ↔ ∃ a, x = .ok a ∧ f a = b := by
  cases x with
  | ok a =>
    change Except.ok (f a) = _ ↔ _
    simp
  | error e =>
    change Except.error e = _ ↔ _
    simp

theorem map_eq_error_iff {x : Except ε α} {f : α → β} {e : ε} : x.map f = .error e ↔ x = .error e := by
  cases x with
  | ok a =>
    change Except.ok (f a) = _ ↔ _
    simp
  | error e' =>
    change Except.error e' = _ ↔ _
    simp

theorem mapError_eq_ok_iff {x : Except ε α} {f : ε → ε'} {a : α} :
    x.mapError f = .ok a ↔ x = .ok a := by
  cases x with
  | ok b =>
    change Except.ok b = _ ↔ _
    simp
  | error e =>
    change Except.error (f e) = _ ↔ _
    simp

theorem mapError_eq_error_iff {x : Except ε α} {f : ε → ε'} {e' : ε'} :
    x.mapError f = .error e' ↔ ∃ e, x = .error e ∧ f e = e' := by
  cases x with
  | ok a =>
    change Except.ok a = _ ↔ _
    simp
  | error e =>
    change Except.error (f e) = _ ↔ _
    simp

/-- What fails exactly with what a search finds succeeds exactly if there is nothing to find. -/
theorem exists_ok_iff_eq_none {x : Except ε α} {found : Option β} {f : β → ε}
    (fails : ∀ e, x = .error e ↔ ∃ b, found = some b ∧ e = f b) :
    (∃ a, x = .ok a) ↔ found = none := by
  cases x with
  | ok a =>
    refine iff_of_true ⟨a, rfl⟩ (Option.eq_none_iff_forall_ne_some.mpr fun b there => ?_)
    have failed := (fails (f b)).mpr ⟨b, there, rfl⟩
    contradiction
  | error e =>
    obtain ⟨b, there, -⟩ := (fails e).mp rfl
    rw [there]
    exact iff_of_false nofun nofun

end CertifiedAccess
