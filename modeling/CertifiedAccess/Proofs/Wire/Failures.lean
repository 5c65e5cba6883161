import CertifiedAccess.Proofs.Certificate.ReadBack

/-!
How reads fail. A read goes forward through the input and does not look at what is left over. So it fails for good,
whatever octets may follow, unless it says that octets are missing.
-/
namespace CertifiedAccess
open Wire

namespace Wire

/-- The reader with more octets behind its input. -/
def Reader.extend (r : Reader) (more : Bytes) : Reader := { r with input := r.input ++ more }

theorem Reader.Advances.extend {r next : Reader} {bytes : Bytes} (moved : r.Advances bytes next)
    (more : Bytes) : (r.extend more).Advances bytes (next.extend more) := by
  obtain ⟨stands, rfl⟩ := moved
  refine ⟨?_, rfl⟩
  rw [Reader.extend, List.drop_append]
  exact stands.trans (List.prefix_append _ _)

namespace Read
variable {α β : Type} {read : Read α} {form : Form α} {r next : Reader}

theorem Accepts.extend (accepts : read.Accepts form) {value : α} (done : read r = .ok value next)
    (more : Bytes) : read (r.extend more) = .ok value (next.extend more) := by
  obtain ⟨bytes, formed, moved⟩ := (accepts r value next).mp done
  exact accepts.reads formed (moved.extend more)

/-- No octets behind the input change a failure, unless it says that octets are missing; and nothing is said
of what is left over. -/
structure FailsForGood (read : Read α) : Prop where
  stands {r stop : Reader} {e : WireError} : read r = .error e stop →
    (∃ needed remaining, e = .truncated needed remaining) ∨
      ∀ more, ∃ stop', read (r.extend more) = .error e stop'
  not_trailing {r stop : Reader} {count : Nat} : read r ≠ .error (.trailingBytes count) stop

namespace FailsForGood

theorem returned (a : α) : FailsForGood (pure a : Read α) where
  stands := nofun
  not_trailing := nofun

theorem thrown {e : WireError} (other : ∀ count, e ≠ .trailingBytes count) :
    FailsForGood (throw e : Read α) where
  stands failed := by
    cases failed
    exact .inr fun more => ⟨_, rfl⟩
  not_trailing failed := by
    cases failed
    exact other _ rfl

theorem bind {f : α → Read β} (fails : read.FailsForGood) (accepts : read.Accepts form)
    (rest : ∀ a, (f a).FailsForGood) : (read >>= f).FailsForGood where
  stands {r stop e} failed := by
    rcases bind_eq_error_iff.mp failed with failed | ⟨a, next, first, failed⟩
    · rcases fails.stands failed with missing | stays
      · exact .inl missing
      · refine .inr fun more => ?_
        obtain ⟨stop', still⟩ := stays more
        exact ⟨stop', bind_of_error still⟩
    · rcases (rest a).stands failed with missing | stays
      · exact .inl missing
      · refine .inr fun more => ?_
        rw [bind_of_ok (accepts.extend first more)]
        exact stays more
  not_trailing {r stop count} failed := by
    rcases bind_eq_error_iff.mp failed with failed | ⟨a, next, -, failed⟩
    · exact fails.not_trailing failed
    · exact (rest a).not_trailing failed

theorem thrown_bind {e : WireError} (other : ∀ count, e ≠ .trailingBytes count) (rest : β → Read α) :
    FailsForGood ((MonadExcept.throw e : Read β) >>= rest) :=
  thrown other

theorem map (f : α → β) (fails : read.FailsForGood) (accepts : read.Accepts form) :
    (f <$> read).FailsForGood :=
  fails.bind accepts fun a => returned (f a)

theorem ofExcept {result : Except WireError α}
    (other : ∀ count, result ≠ .error (.trailingBytes count)) : (ofExcept result).FailsForGood := by
  cases result with
  | ok a => exact returned a
  | error e => exact thrown fun count same => other count (by rw [same])

theorem bytes (count : Nat) : (Read.bytes count).FailsForGood where
  stands failed := by
    obtain ⟨-, told, -⟩ := bytes_eq_error_iff.mp failed
    exact .inl ⟨_, _, told⟩
  not_trailing failed := by
    obtain ⟨-, told, -⟩ := bytes_eq_error_iff.mp failed
    contradiction

theorem number (width : Nat) : (Read.number width).FailsForGood :=
  map _ (bytes width) (Accepts.bytes width)

theorem u8 : Read.u8.FailsForGood := map _ (number 1) (Accepts.number 1)

theorem u32 : Read.u32.FailsForGood := map _ (number 4) (Accepts.number 4)

theorem u64 : Read.u64.FailsForGood := map _ (number 8) (Accepts.number 8)

theorem i64 : Read.i64.FailsForGood := map _ u64 Accepts.u64

theorem field : Read.field.FailsForGood := by
  refine u32.bind Accepts.u32 fun length => ?_
  dsimp only
  split
  · refine thrown_bind ?_ _
    exact fun _ => nofun
  · exact bytes _

theorem text : Read.text.FailsForGood := by
  refine field.bind Accepts.field fun octets => ?_
  split
  · exact returned _
  · exact thrown fun _ => nofun

theorem tagged : Read.tagged.FailsForGood := by
  refine field.bind Accepts.field fun octets => ofExcept fun count failed => ?_
  cases octets with
  | nil => cases failed
  | cons tag payload =>
    rw [Tagged.decode, bind_pure_eq_error_iff, Mechanism.ofTag] at failed
    split at failed
    · contradiction
    · cases failed

theorem readKey [SignatureScheme] : Certificate.readKey.FailsForGood := by
  refine tagged.bind Accepts.tagged fun octets => ofExcept fun count failed => ?_
  obtain ⟨⟨⟩, payload⟩ := octets
  obtain ⟨_, -, same⟩ := mapError_eq_error_iff.mp failed
  contradiction

end FailsForGood
end Read
end Wire

namespace Certificate
variable [SignatureScheme] {π : Type} [Codec π]

theorem failsForGood_decode [Canonical π] (payload : (Codec.decode : Read π).FailsForGood) :
    (decode : Read (Certificate π)).FailsForGood := by
  refine Read.FailsForGood.u8.bind Read.Accepts.u8 fun version => ?_
  dsimp only
  split
  · refine .thrown_bind ?_ _
    exact fun _ => nofun
  · refine Read.FailsForGood.readKey.bind Read.Accepts.readKey fun issuer => ?_
    refine Read.FailsForGood.readKey.bind Read.Accepts.readKey fun client => ?_
    refine Read.FailsForGood.i64.bind Read.Accepts.i64 fun word => ?_
    split
    · exact .thrown fun _ => nofun
    · refine Read.FailsForGood.u64.bind Read.Accepts.u64 fun roles => ?_
      exact payload.bind Canonical.accepts fun inner => .returned _

end Certificate

/-- Values of every kind are read so. -/
theorem Wire.Schema.failsForGood [SignatureScheme] (s : Schema) :
    (Codec.decode : Read s.Value).FailsForGood := by
  induction s with
  | blob => exact .map _ .field Read.Accepts.field
  | text => exact .text
  | nothing => exact .returned _
  | account =>
    refine Read.FailsForGood.text.bind Read.Accepts.text fun userId => ?_
    exact Read.FailsForGood.text.bind Read.Accepts.text fun username => .returned _
  | certificate payload ih => exact Certificate.failsForGood_decode ih

end CertifiedAccess
