import CertifiedAccess.Authority.Lifecycle

/-!
Actions seen from outside: what a successful one gives and leaves behind, and what every one keeps,
failed ones included.
-/
namespace CertifiedAccess

namespace Action
variable {ω ε α β : Type}

/-- The action succeeds with a value and leaves a state. -/
def Yields (act : Action ω ε α) (before : ω) (a : α) (after : ω) : Prop :=
  (act.run before).result = .ok a ∧ (act.run before).state = after

/-- The action ends in this way, well or not, and leaves a state. -/
def Ends (act : Action ω ε α) (before : ω) (result : Except ε α) (after : ω) : Prop :=
  (act.run before).result = result ∧ (act.run before).state = after

/-- The action leads from states with a property to such states only, however it ends. -/
def Keeps (act : Action ω ε α) (P : ω → Prop) : Prop :=
  ∀ before, P before → P (act.run before).state

theorem run_bind_of_ok {act : Action ω ε α} {next : α → Action ω ε β} {before : ω} {a : α}
    (done : (act.run before).result = .ok a) :
    ((act >>= next).run before).result = ((next a).run (act.run before).state).result ∧
      ((act >>= next).run before).state = ((next a).run (act.run before).state).state := by
  simp only [run, bind] at *
  rw [done]
  exact ⟨rfl, rfl⟩

theorem run_bind_of_error {act : Action ω ε α} {next : α → Action ω ε β} {before : ω} {e : ε}
    (failed : (act.run before).result = .error e) :
    ((act >>= next).run before).result = .error e ∧
      ((act >>= next).run before).state = (act.run before).state := by
  simp only [run, bind] at *
  rw [failed]
  exact ⟨rfl, rfl⟩

theorem ends_unique {act : Action ω ε α} {before after after' : ω} {result result' : Except ε α}
    (first : act.Ends before result after) (second : act.Ends before result' after') :
    result = result' ∧ after = after' :=
  ⟨first.1.symm.trans second.1, first.2.symm.trans second.2⟩

theorem ends_bind_of_yields {act : Action ω ε α} {next : α → Action ω ε β} {before middle after : ω}
    {a : α} {result : Except ε β} (first : act.Yields before a middle)
    (rest : (next a).Ends middle result after) : (act >>= next).Ends before result after := by
  obtain ⟨done, rfl⟩ := first
  exact ⟨(run_bind_of_ok done).1.trans rest.1, (run_bind_of_ok done).2.trans rest.2⟩

theorem ends_bind_of_error {act : Action ω ε α} {next : α → Action ω ε β} {before after : ω} {e : ε}
    (failed : act.Ends before (.error e) after) : (act >>= next).Ends before (.error e) after := by
  obtain ⟨error, rfl⟩ := failed
  exact run_bind_of_error error

theorem yields_bind_iff {act : Action ω ε α} {next : α → Action ω ε β} {before after : ω} {b : β} :
    (act >>= next).Yields before b after ↔
      ∃ a middle, act.Yields before a middle ∧ (next a).Yields middle b after := by
  unfold Yields
  cases ended : (act.run before).result with
  | ok a =>
    obtain ⟨result, state⟩ := run_bind_of_ok ended
    rw [result, state]
    constructor
    · intro done
      exact ⟨a, _, ⟨rfl, rfl⟩, done⟩
    · rintro ⟨_, _, ⟨⟨⟩, rfl⟩, done⟩
      exact done
  | error e =>
    rw [(run_bind_of_error ended).1]
    constructor
    · rintro ⟨failed, -⟩
      contradiction
    · rintro ⟨_, _, ⟨failed, -⟩, -⟩
      contradiction

theorem yields_pure_iff {a b : α} {before after : ω} :
    (pure a : Action ω ε α).Yields before b after ↔ a = b ∧ before = after := by
  change (Except.ok a = Except.ok b ∧ before = after) ↔ _
  rw [Except.ok.injEq]

/-- An action that hands its value on, as what it gives. -/
theorem yields_some_iff {act : Action ω ε α} {a : α} {before after : ω} :
    (act >>= fun a => pure (some a)).Yields before (some a) after ↔ act.Yields before a after := by
  rw [yields_bind_iff]
  constructor
  · rintro ⟨_, _, done, same⟩
    obtain ⟨⟨⟩, rfl⟩ := yields_pure_iff.mp same
    exact done
  · intro done
    exact ⟨a, after, done, yields_pure_iff.mpr ⟨rfl, rfl⟩⟩

/-- As `yields_some_iff`, for all ways to end. -/
theorem ends_some {act : Action ω ε α} {before after : ω} {result : Except ε α}
    (ended : act.Ends before result after) :
    (act >>= fun a => pure (some a)).Ends before (result.map some) after := by
  cases result with
  | ok a => exact ends_bind_of_yields ended ⟨rfl, rfl⟩
  | error e => exact ends_bind_of_error ended

theorem not_yields_none {act : Action ω ε α} {b : β} {before after : ω} :
    ¬ (act >>= fun _ => pure none).Yields before (some b) after := by
  rw [yields_bind_iff]
  rintro ⟨_, _, -, same⟩
  obtain ⟨nothing, -⟩ := yields_pure_iff.mp same
  contradiction

theorem yields_emit_iff {event : Event} {before after : ω} {u : Unit} :
    (emit event : Action ω ε Unit).Yields before u after ↔ before = after := by
  change (Except.ok () = Except.ok u ∧ before = after) ↔ _
  simp

theorem not_yields_fail {e : ε} {before after : ω} {a : α} :
    ¬ (fail e : Action ω ε α).Yields before a after := by
  rintro ⟨failed, -⟩
  contradiction

theorem not_yields_failWith {event : Event} {e : ε} {before after : ω} {a : α} :
    ¬ (failWith event e : Action ω ε α).Yields before a after := by
  rintro ⟨failed, -⟩
  contradiction

variable {P : ω → Prop}

theorem keeps_bind {act : Action ω ε α} {next : α → Action ω ε β} (first : act.Keeps P)
    (second : ∀ a, (next a).Keeps P) : (act >>= next).Keeps P := by
  intro before kept
  have middle := first before kept
  cases ended : (act.run before).result with
  | ok a =>
    rw [(run_bind_of_ok ended).2]
    exact second a _ middle
  | error e =>
    rw [(run_bind_of_error ended).2]
    exact middle

theorem keeps_pure (a : α) : (pure a : Action ω ε α).Keeps P := fun _ kept => kept

theorem keeps_fail (e : ε) : (fail e : Action ω ε α).Keeps P := fun _ kept => kept

theorem keeps_emit (event : Event) : (emit event : Action ω ε Unit).Keeps P := fun _ kept => kept

theorem keeps_failWith (event : Event) (e : ε) : (failWith event e : Action ω ε α).Keeps P :=
  fun _ kept => kept

end Action

namespace Authority
open CertifiedAccess.Action
variable {σ α : Type} {before after : World σ}

theorem yields_ask_iff {question : σ → Except StoreError α} {a : α} :
    (ask question : Deed σ α).Yields before a after ↔
      question before.store = .ok a ∧ before = after := by
  unfold Yields Action.run ask
  cases question before.store with
  | ok value => simp
  | error e =>
    change (Except.error _ = _ ∧ _) ↔ _
    simp

theorem yields_changeOr_iff {refused : StoreError → Deed σ α}
    {act : σ → Except StoreError (Change σ α)} {a : α}
    (hopeless : ∀ e before after, ¬ (refused e).Yields before a after) :
    (changeOr refused act).Yields before a after ↔
      ∃ c, act before.store = .ok c ∧ c.value = a ∧ { before with store := c.state } = after := by
  unfold Yields Action.run changeOr
  cases made : act before.store with
  | ok c => simp
  | error e =>
    constructor
    · intro done
      exact absurd done (hopeless e before after)
    · rintro ⟨_, failed, -⟩
      contradiction

theorem changeOr_yields {refused : StoreError → Deed σ α} {act : σ → Except StoreError (Change σ α)}
    {c : Change σ α} (made : act before.store = .ok c) :
    (changeOr refused act).Yields before c.value { before with store := c.state } := by
  unfold Yields Action.run changeOr
  rw [made]
  exact ⟨rfl, rfl⟩

theorem changeOr_ends {refused : StoreError → Deed σ α} {act : σ → Except StoreError (Change σ α)}
    {e : StoreError} {result : Except SessionError α} (failed : act before.store = .error e)
    (ended : (refused e).Ends before result after) : (changeOr refused act).Ends before result after := by
  unfold Ends Action.run changeOr
  rw [failed]
  exact ended

theorem yields_change_iff {act : σ → Except StoreError (Change σ α)} {a : α} :
    (change act).Yields before a after ↔
      ∃ c, act before.store = .ok c ∧ c.value = a ∧ { before with store := c.state } = after :=
  yields_changeOr_iff fun _ _ _ => not_yields_failWith

theorem yields_drawSessionId_iff {id : SessionId} :
    (drawSessionId : Deed σ SessionId).Yields before id after ↔
      id = ⟨before.drawn⟩ ∧ { before with drawn := before.drawn + 1 } = after := by
  change (Except.ok (⟨before.drawn⟩ : SessionId) = Except.ok id ∧
    { before with drawn := before.drawn + 1 } = after) ↔ _
  rw [Except.ok.injEq, eq_comm]

variable {P : σ → Prop}

/-- What a deed keeps of the store. -/
abbrev KeepsStore (deed : Deed σ α) (P : σ → Prop) : Prop :=
  deed.Keeps fun world => P world.store

theorem keepsStore_ask (question : σ → Except StoreError α) :
    KeepsStore (ask question : Deed σ α) P := by
  intro before kept
  unfold Action.run ask
  cases question before.store with
  | ok value => exact kept
  | error e => exact kept

theorem keepsStore_changeOr {refused : StoreError → Deed σ α}
    {act : σ → Except StoreError (Change σ α)} (otherwise : ∀ e, KeepsStore (refused e) P)
    (kept : ∀ store c, P store → act store = .ok c → P c.state) :
    KeepsStore (changeOr refused act) P := by
  intro before held
  unfold Action.run changeOr
  cases made : act before.store with
  | ok c => exact kept before.store c held made
  | error e => exact otherwise e before held

theorem keepsStore_change {act : σ → Except StoreError (Change σ α)}
    (kept : ∀ store c, P store → act store = .ok c → P c.state) : KeepsStore (change act) P :=
  keepsStore_changeOr (fun _ => keeps_failWith _ _) kept

theorem keepsStore_drawSessionId : KeepsStore (drawSessionId : Deed σ SessionId) P :=
  fun _ kept => kept

end Authority
end CertifiedAccess
