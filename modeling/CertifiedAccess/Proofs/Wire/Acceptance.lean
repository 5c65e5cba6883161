import CertifiedAccess.Proofs.Octets
import CertifiedAccess.Wire.Codec

/-!
What reads accept. A read is described by a form: which octets stand for which value. It accepts the
octets of its form wherever they stand, whatever comes before and after, moves behind them, and accepts
nothing else. Forms of composed reads are put together from those of their parts.
-/
namespace CertifiedAccess.Wire

/-- These octets stand at the reader's position, and `next` is the reader moved behind them. -/
def Reader.Advances (r : Reader) (bytes : Bytes) (next : Reader) : Prop :=
  bytes <+: r.input.drop r.position ∧ next = { r with position := r.position + bytes.length }

namespace Reader.Advances

theorem nil_iff {r next : Reader} : r.Advances [] next ↔ next = r := by
  simp [Advances]

theorem append_iff {r last : Reader} {first second : Bytes} :
    r.Advances (first ++ second) last ↔
      ∃ next, r.Advances first next ∧ next.Advances second last := by
  constructor
  · rintro ⟨⟨after, stands⟩, rfl⟩
    rw [List.append_assoc] at stands
    refine ⟨_, ⟨⟨_, stands⟩, rfl⟩, ⟨after, ?_⟩, ?_⟩
    · rw [← List.drop_drop, ← stands, List.drop_left]
    · simp [Nat.add_assoc]
  · rintro ⟨next, ⟨⟨behind, stands⟩, rfl⟩, ⟨after, follows⟩, rfl⟩
    rw [← List.drop_drop, ← stands, List.drop_left] at follows
    refine ⟨⟨after, ?_⟩, ?_⟩
    · rw [List.append_assoc, follows, stands]
    · simp [Nat.add_assoc]

/-- What a reader was moved behind lies between its two positions. -/
theorem extract_eq {r next : Reader} {bytes : Bytes} (moved : r.Advances bytes next) :
    r.input.extract r.position next.position = bytes := by
  obtain ⟨stands, rfl⟩ := moved
  rw [List.extract_eq_take_drop, Nat.add_sub_cancel_left]
  exact (List.prefix_iff_eq_take.mp stands).symm

end Reader.Advances

namespace Read
variable {α β : Type}

/-- The octets that a read takes for a value. -/
abbrev Form (α : Type) := α → Bytes → Prop

/-- A read accepts the octets of a form wherever they stand, and no others. -/
def Accepts (read : Read α) (form : Form α) : Prop :=
  ∀ r value next, read r = .ok value next ↔ ∃ bytes, form value bytes ∧ r.Advances bytes next

theorem bind_eq_ok_iff {read : Read α} {f : α → Read β} {r last : Reader} {value : β} :
    (read >>= f) r = .ok value last ↔
      ∃ a next, read r = .ok a next ∧ f a next = .ok value last := by
  change EStateM.bind read f r = _ ↔ _
  cases result : read r with
  | ok a next =>
    simp only [EStateM.bind, result]
    constructor
    · intro h
      exact ⟨a, next, rfl, h⟩
    · rintro ⟨_, _, same, h⟩
      cases same
      exact h
  | error e next => simp [EStateM.bind, result]

section
variable {read : Read α} {r next : Reader} {f : α → Read β}

theorem bind_of_ok {a : α} (first : read r = .ok a next) : (read >>= f) r = f a next := by
  change EStateM.bind read f r = _
  rw [EStateM.bind, first]

theorem bind_of_error {e : WireError} (failed : read r = .error e next) :
    (read >>= f) r = .error e next := by
  change EStateM.bind read f r = _
  rw [EStateM.bind, failed]

theorem bind_eq_error_iff {e : WireError} :
    (read >>= f) r = .error e next ↔
      read r = .error e next ∨ ∃ a middle, read r = .ok a middle ∧ f a middle = .error e next := by
  cases first : read r with
  | ok a middle =>
    rw [bind_of_ok first]
    simp
  | error e' stop =>
    rw [bind_of_error first]
    simp

theorem map_eq_error_iff {g : α → β} {e : WireError} :
    (g <$> read) r = .error e next ↔ read r = .error e next := by
  change (read >>= fun a => pure (g a)) r = _ ↔ _
  rw [bind_eq_error_iff, or_iff_left]
  rintro ⟨a, middle, -, impossible⟩
  cases impossible

end

namespace Accepts
variable {read : Read α} {form other : Form α}

theorem reads (accepts : read.Accepts form) {value : α} {bytes : Bytes} {r next : Reader}
    (formed : form value bytes) (moved : r.Advances bytes next) : read r = .ok value next :=
  (accepts r value next).mpr ⟨bytes, formed, moved⟩

theorem congr (accepts : read.Accepts form) (same : ∀ value bytes, form value bytes ↔ other value bytes) :
    read.Accepts other := by
  intro r value next
  rw [accepts r value next]
  exact exists_congr fun bytes => and_congr_left' (same value bytes)

theorem returned (a : α) : Accepts (pure a : Read α) fun value bytes => value = a ∧ bytes = [] := by
  intro r value next
  change EStateM.Result.ok a r = _ ↔ _
  constructor
  · intro h
    cases h
    exact ⟨[], ⟨rfl, rfl⟩, Reader.Advances.nil_iff.mpr rfl⟩
  · rintro ⟨_, ⟨rfl, rfl⟩, moved⟩
    rw [Reader.Advances.nil_iff.mp moved]

theorem thrown (e : WireError) : Accepts (throw e : Read α) fun _ _ => False := by
  intro r value next
  change EStateM.Result.error e r = _ ↔ _
  simp

theorem thrown_bind (e : WireError) (rest : β → Read α) :
    Accepts ((MonadExcept.throw e : Read β) >>= rest) fun _ _ => False :=
  thrown e

theorem bind {rest : α → Read β} {forms : α → Form β} (accepts : read.Accepts form)
    (then_accepts : ∀ a, (rest a).Accepts (forms a)) :
    Accepts (read >>= rest) fun value bytes =>
      ∃ a first second, form a first ∧ forms a value second ∧ bytes = first ++ second := by
  intro r value last
  rw [bind_eq_ok_iff]
  constructor
  · rintro ⟨a, next, taken, followed⟩
    obtain ⟨first, formed, moved⟩ := (accepts r a next).mp taken
    obtain ⟨second, formed', moved'⟩ := (then_accepts a next value last).mp followed
    exact ⟨_, ⟨a, first, second, formed, formed', rfl⟩,
      Reader.Advances.append_iff.mpr ⟨next, moved, moved'⟩⟩
  · rintro ⟨_, ⟨a, first, second, formed, formed', rfl⟩, moved⟩
    obtain ⟨next, moved, moved'⟩ := Reader.Advances.append_iff.mp moved
    exact ⟨a, next, (accepts r a next).mpr ⟨first, formed, moved⟩,
      (then_accepts a next value last).mpr ⟨second, formed', moved'⟩⟩

/-- A read whose second half takes no octets, as a change or a check of what the first half took. -/
theorem bind_nil {rest : α → Read β} {takes : α → β → Prop} (accepts : read.Accepts form)
    (then_accepts : ∀ a, (rest a).Accepts fun value bytes => takes a value ∧ bytes = []) :
    Accepts (read >>= rest) fun value bytes => ∃ a, form a bytes ∧ takes a value := by
  refine Accepts.congr (accepts.bind then_accepts) fun value bytes => ?_
  constructor
  · rintro ⟨a, first, _, formed, ⟨taken, rfl⟩, rfl⟩
    exact ⟨a, by rwa [List.append_nil], taken⟩
  · rintro ⟨a, formed, taken⟩
    exact ⟨a, bytes, [], formed, ⟨taken, rfl⟩, (List.append_nil bytes).symm⟩

theorem map (f : α → β) (accepts : read.Accepts form) :
    Accepts (f <$> read) fun value bytes => ∃ a, form a bytes ∧ value = f a :=
  accepts.bind_nil fun a => returned (f a)

theorem ofExcept (result : Except WireError α) :
    Accepts (ofExcept result) fun value bytes => result = .ok value ∧ bytes = [] := by
  cases result with
  | ok a => exact (returned a).congr (by simp [eq_comm])
  | error e => exact (thrown e).congr (by simp)

end Accepts

/-- A read that leaves the input as it is, and the mark too unless it sets it, at least `count` octets behind
where it started. Its position may go anywhere. -/
def MarksPast (read : Read α) (count : Nat) : Prop :=
  ∀ r value next, read r = .ok value next →
    next.input = r.input ∧ (next.mark = r.mark ∨ r.position + count ≤ next.mark)

section
variable {read : Read α} {form : Form α} {rest : α → Read β} {count : Nat}

theorem Accepts.marksPast (accepts : read.Accepts form) (count : Nat) : read.MarksPast count := by
  intro r value next taken
  obtain ⟨_, -, -, rfl⟩ := (accepts r value next).mp taken
  exact ⟨rfl, .inl rfl⟩

/-- What is read first is between the start and all later marks. -/
theorem Accepts.marksPast_bind {size : Nat} (accepts : read.Accepts form)
    (long : ∀ a bytes, form a bytes → bytes.length = size) (later : ∀ a, (rest a).MarksPast count) :
    (read >>= rest).MarksPast (size + count) := by
  intro r value last done
  obtain ⟨a, next, taken, followed⟩ := bind_eq_ok_iff.mp done
  obtain ⟨bytes, formed, -, rfl⟩ := (accepts r a next).mp taken
  obtain ⟨input, mark⟩ := later a _ value last followed
  refine ⟨input, mark.imp id fun past => ?_⟩
  rwa [long a bytes formed, Nat.add_assoc] at past

theorem MarksPast.bind {forms : α → Form β} (first : read.MarksPast count)
    (accepts : ∀ a, (rest a).Accepts (forms a)) : (read >>= rest).MarksPast count := by
  intro r value last done
  obtain ⟨a, next, taken, followed⟩ := bind_eq_ok_iff.mp done
  obtain ⟨_, -, -, rfl⟩ := (accepts a next value last).mp followed
  exact first r a next taken

end
end Read
end CertifiedAccess.Wire
