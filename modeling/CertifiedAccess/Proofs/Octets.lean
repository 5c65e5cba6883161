import CertifiedAccess.Bytes
import Mathlib.Tactic.Linarith
import Mathlib.Tactic.Ring

/-!
Fixed-width integers in octets: reading undoes writing below `256 ^ width`, and writing what was read
gives back the octets.
-/
namespace CertifiedAccess.Bytes

theorem foldl_octets (bytes : Bytes) (start : Nat) :
    bytes.foldl (fun n b => n * 256 + b.toNat) start =
      start * 256 ^ bytes.length + ofBigEndian bytes := by
  -- both sides are folds over `rest`, from starts that differ by the first octet
  induction bytes generalizing start with
  | nil => simp [ofBigEndian]
  | cons b rest ih =>
    have whole := ih (start * 256 + b.toNat)
    have tail := ih b.toNat
    simp only [ofBigEndian, List.foldl_cons, List.length_cons, Nat.zero_mul, Nat.zero_add] at *
    rw [whole, tail]
    ring

theorem ofBigEndian_cons (b : UInt8) (rest : Bytes) :
    ofBigEndian (b :: rest) = b.toNat * 256 ^ rest.length + ofBigEndian rest := by
  have fold := foldl_octets rest b.toNat
  simpa only [ofBigEndian, List.foldl_cons, Nat.zero_mul, Nat.zero_add] using fold

theorem ofBigEndian_lt (bytes : Bytes) : ofBigEndian bytes < 256 ^ bytes.length := by
  induction bytes with
  | nil => decide
  | cons b rest ih =>
    have octet : b.toNat + 1 ≤ 256 := b.toNat_lt
    have scaled := Nat.mul_le_mul_right (256 ^ rest.length) octet
    rw [ofBigEndian_cons, List.length_cons, Nat.pow_succ]
    linarith

theorem bigEndian_succ (width n : Nat) :
    bigEndian (width + 1) n = UInt8.ofNat (n / 256 ^ width) :: bigEndian width n := by
  have shifted : n >>> (8 * width) = n / 256 ^ width := by
    rw [Nat.shiftRight_eq_div_pow, Nat.pow_mul]
  rw [bigEndian, shifted]

theorem ofBigEndian_bigEndian (width n : Nat) :
    ofBigEndian (bigEndian width n) = n % 256 ^ width := by
  induction width with
  | zero => simp [bigEndian, ofBigEndian, Nat.mod_one]
  | succ width ih =>
    have head : (UInt8.ofNat (n / 256 ^ width)).toNat = n / 256 ^ width % 256 := rfl
    rw [bigEndian_succ, ofBigEndian_cons, ih, length_bigEndian, head, Nat.pow_succ, Nat.mod_mul]
    ring

theorem bigEndian_inj_of_lt {width m n : Nat} (hm : m < 256 ^ width) (hn : n < 256 ^ width)
    (same : bigEndian width m = bigEndian width n) : m = n := by
  have read := congrArg ofBigEndian same
  rwa [ofBigEndian_bigEndian, ofBigEndian_bigEndian, Nat.mod_eq_of_lt hm, Nat.mod_eq_of_lt hn] at read

/-- Octets above the width leave no trace. -/
theorem bigEndian_add_mul (width n k : Nat) :
    bigEndian width (n + k * 256 ^ width) = bigEndian width n := by
  induction width generalizing k with
  | zero => rfl
  | succ width ih =>
    have shifted : n + k * 256 ^ (width + 1) = n + k * 256 * 256 ^ width := by ring
    have positive : 0 < 256 ^ width := Nat.pow_pos (by decide)
    rw [bigEndian_succ, bigEndian_succ, shifted, ih, Nat.add_mul_div_right _ _ positive]
    have same : UInt8.ofNat (n / 256 ^ width + k * 256) = UInt8.ofNat (n / 256 ^ width) := by
      apply UInt8.toNat_inj.mp
      simp
    rw [same]

theorem bigEndian_ofBigEndian (bytes : Bytes) :
    bigEndian bytes.length (ofBigEndian bytes) = bytes := by
  induction bytes with
  | nil => rfl
  | cons b rest ih =>
    have positive : 0 < 256 ^ rest.length := Nat.pow_pos (by decide)
    have high : (b.toNat * 256 ^ rest.length + ofBigEndian rest) / 256 ^ rest.length = b.toNat := by
      rw [Nat.add_comm, Nat.add_mul_div_right _ _ positive,
        Nat.div_eq_of_lt (ofBigEndian_lt rest), Nat.zero_add]
    rw [ofBigEndian_cons, List.length_cons, bigEndian_succ, high, Nat.add_comm, bigEndian_add_mul, ih,
      UInt8.ofNat_toNat]

end CertifiedAccess.Bytes
