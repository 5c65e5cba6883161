import CertifiedAccess.Bytes

/-!
Cutting a message into blocks and padding its last block, as the digests of this library do.
-/
namespace CertifiedAccess.Digest

/-- Folds `step` over the first `count` blocks of `size` octets; gives the state and what is left. -/
def overBlocks {σ : Type} (size : Nat) (step : σ → Bytes → σ) : Nat → σ → Bytes → σ × Bytes
  | 0, state, rest => (state, rest)
  | count + 1, state, rest =>
    overBlocks size step count (step state (rest.take size)) (rest.drop size)

/-- The end of a message with a one bit, zeros up to a whole number of blocks, and the length field. -/
def padded (size : Nat) (rest lengthField : Bytes) : Bytes :=
  let used := rest.length + 1 + lengthField.length
  rest ++ 0x80 :: List.replicate ((size - used % size) % size) 0 ++ lengthField

/-- The state after the whole message and its padding. -/
def absorb {σ : Type} (size : Nat) (step : σ → Bytes → σ) (start : σ) (lengthField : Bytes)
    (message : Bytes) : σ :=
  let (state, rest) := overBlocks size step (message.length / size) start message
  let tail := padded size rest lengthField
  (overBlocks size step (tail.length / size) state tail).1

/-- The words of `width` octets that make up a block, read by `read`. -/
def words {ω : Type} (width : Nat) (read : Bytes → ω) : Nat → Bytes → List ω
  | 0, _ => []
  | count + 1, bytes => read (bytes.take width) :: words width read count (bytes.drop width)

end CertifiedAccess.Digest
