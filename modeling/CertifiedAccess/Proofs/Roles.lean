import CertifiedAccess.Proofs.Outcomes
import CertifiedAccess.Role
import Mathlib.Logic.Basic

/-!
Sets of roles made of lists of numbers. A list makes a set if all its numbers are below 64, and then the set
has the numbers of the list and no others; otherwise the first number that is not is what is told. A set is
made of its own numbers, in ascending order.
-/
namespace CertifiedAccess.RoleMask
variable {mask after : RoleMask} {id other : UInt8}

theorem testBit_insert (bits : UInt64) (inside : id.toNat < 64) (position : Nat) :
    (bits ||| 1 <<< id.toUInt64).toNat.testBit position =
      (bits.toNat.testBit position || decide (id.toNat = position)) := by
  have one : (1 <<< id.toUInt64 : UInt64).toNat = 2 ^ id.toNat := by
    have small : 2 ^ id.toNat < 2 ^ 64 := Nat.pow_lt_pow_right (by decide) inside
    rw [UInt64.toNat_shiftLeft, UInt8.toNat_toUInt64, UInt64.toNat_one, Nat.one_shiftLeft,
      Nat.mod_eq_of_lt inside, Nat.mod_eq_of_lt small]
  rw [UInt64.toNat_or, Nat.testBit_or, one, Nat.testBit_two_pow]

theorem insert_eq_ok_iff :
    mask.insert id = .ok after ↔ id.toNat < maxRoles ∧ after = ⟨mask.bits ||| 1 <<< id.toUInt64⟩ := by
  unfold insert
  by_cases inside : id.toNat < maxRoles
  · simp [inside, eq_comm]
  · simp [inside]

theorem contains_insert_iff (inserted : mask.insert id = .ok after) :
    after.contains other = true ↔ mask.contains other = true ∨ other = id := by
  obtain ⟨inside, rfl⟩ := insert_eq_ok_iff.mp inserted
  simp only [contains, testBit_insert mask.bits inside, Bool.and_eq_true, Bool.or_eq_true,
    decide_eq_true_eq, UInt8.toNat_inj, eq_comm (a := other)]
  constructor
  · rintro ⟨small, known | rfl⟩
    · exact .inl ⟨small, known⟩
    · exact .inr rfl
  · rintro (⟨small, known⟩ | rfl)
    · exact ⟨small, .inl known⟩
    · exact ⟨inside, .inr rfl⟩

/-- The first number of a list that is no role's. -/
def firstStrange? (ids : List UInt8) : Option UInt8 := ids.find? fun id => maxRoles ≤ id.toNat

theorem foldlM_insert_eq_error_iff {ids : List UInt8} {e : RoleError} :
    ids.foldlM insert mask = .error e ↔ ∃ id, firstStrange? ids = some id ∧ e = .outOfRange id := by
  induction ids generalizing mask with
  | nil => simp [firstStrange?, pure, Except.pure]
  | cons id rest ih =>
    rw [List.foldlM_cons, firstStrange?]
    by_cases inside : id.toNat < maxRoles
    · have inserted : mask.insert id = .ok _ := insert_eq_ok_iff.mpr ⟨inside, rfl⟩
      rw [inserted, List.find?_cons_of_neg (by simpa using inside)]
      exact ih
    · have refused : mask.insert id = .error (.outOfRange id) := if_neg inside
      rw [refused, List.find?_cons_of_pos (by simpa using inside)]
      change Except.error _ = _ ↔ _
      simp [eq_comm]

theorem contains_foldlM_insert_iff {ids : List UInt8} (made : ids.foldlM insert mask = .ok after) :
    after.contains other = true ↔ mask.contains other = true ∨ other ∈ ids := by
  induction ids generalizing mask with
  | nil =>
    obtain rfl := pure_eq_ok_iff.mp made
    simp
  | cons id rest ih =>
    obtain ⟨middle, inserted, made⟩ := bind_eq_ok_iff.mp made
    rw [ih made, contains_insert_iff inserted, List.mem_cons, or_assoc]

theorem contains_empty : empty.contains other = false := by
  simp [contains, empty]

theorem contains_iff_testBit :
    mask.contains id = true ↔ id.toNat < maxRoles ∧ mask.bits.toNat.testBit id.toNat = true := by
  rw [contains, Bool.and_eq_true, decide_eq_true_eq]

theorem mem_ids_iff : id ∈ mask.ids ↔ mask.contains id = true := by
  rw [ids, List.mem_filter, List.mem_map]
  refine and_iff_right_of_imp fun known => ?_
  obtain ⟨inside, -⟩ := contains_iff_testBit.mp known
  exact ⟨id.toNat, List.mem_range.mpr inside, UInt8.ofNat_toNat⟩

/-- The numbers of a mask are the places of its bits. -/
theorem mem_ids_iff_testBit :
    id ∈ mask.ids ↔ id.toNat < maxRoles ∧ mask.bits.toNat.testBit id.toNat = true :=
  mem_ids_iff.trans contains_iff_testBit

theorem toNat_lt_of_mem_ids (known : id ∈ mask.ids) : id.toNat < maxRoles :=
  (mem_ids_iff_testBit.mp known).1

/-- The numbers of a set are told in ascending order, each of them once. -/
theorem pairwise_ids (mask : RoleMask) : mask.ids.Pairwise (· < ·) := by
  refine List.Pairwise.filter _ (List.pairwise_map.mpr ?_)
  refine List.pairwise_lt_range.imp_of_mem fun {a b} _ inside before => ?_
  have inside : b < 256 := Nat.lt_trans (List.mem_range.mp inside) (by decide)
  rw [UInt8.lt_iff_toNat_lt, UInt8.toNat_ofNat_of_lt' (Nat.lt_trans before inside),
    UInt8.toNat_ofNat_of_lt' inside]
  exact before

/-- A mask has no bits but those of its numbers. -/
theorem eq_of_contains (same : ∀ id, mask.contains id = after.contains id) : mask = after := by
  obtain ⟨bits⟩ := mask
  obtain ⟨bits'⟩ := after
  refine congrArg mk (UInt64.toNat_inj.mp (Nat.eq_of_testBit_eq fun position => ?_))
  by_cases inside : position < 64
  · have code : (UInt8.ofNat position).toNat = position :=
      UInt8.toNat_ofNat_of_lt' (Nat.lt_trans inside (by decide))
    simpa [contains, code, maxRoles, inside] using same (UInt8.ofNat position)
  · have beyond : 2 ^ 64 ≤ 2 ^ position := Nat.pow_le_pow_right (by decide) (Nat.le_of_not_lt inside)
    rw [Nat.testBit_lt_two_pow (Nat.lt_of_lt_of_le bits.toNat_lt beyond),
      Nat.testBit_lt_two_pow (Nat.lt_of_lt_of_le bits'.toNat_lt beyond)]

section
variable {numbers : List UInt8}

theorem firstStrange?_eq_none_iff :
    firstStrange? numbers = none ↔ ∀ id ∈ numbers, id.toNat < maxRoles := by
  simp [firstStrange?, List.find?_eq_none]

theorem ofIds_eq_error_iff {e : RoleError} :
    ofIds numbers = .error e ↔ ∃ id, firstStrange? numbers = some id ∧ e = .outOfRange id :=
  foldlM_insert_eq_error_iff

theorem exists_ofIds_iff : (∃ mask, ofIds numbers = .ok mask) ↔ firstStrange? numbers = none :=
  exists_ok_iff_eq_none fun _ => ofIds_eq_error_iff

theorem mem_ids_of_ofIds (made : ofIds numbers = .ok mask) : id ∈ mask.ids ↔ id ∈ numbers := by
  rw [mem_ids_iff, contains_foldlM_insert_iff made, contains_empty]
  simp

theorem ofIds_ids (mask : RoleMask) : ofIds mask.ids = .ok mask := by
  have inside : firstStrange? mask.ids = none :=
    firstStrange?_eq_none_iff.mpr fun _ => toNat_lt_of_mem_ids
  obtain ⟨again, made⟩ := exists_ofIds_iff.mpr inside
  rw [made, Except.ok.injEq]
  refine eq_of_contains fun id => ?_
  rw [Bool.eq_iff_iff, ← mem_ids_iff, ← mem_ids_iff, mem_ids_of_ofIds made]

end

section
variable {ρ : Type} [Role ρ] {roles : List ρ}

/-- Of a list of roles the first that has no number below 64 is refused. -/
theorem encode_eq_error_iff {e : RoleError} :
    encode roles = .error e ↔
      ∃ id, firstStrange? (roles.map Role.id) = some id ∧ e = .outOfRange id :=
  ofIds_eq_error_iff

theorem exists_encode_error_iff :
    (∃ e, encode roles = .error e) ↔ ∃ role ∈ roles, maxRoles ≤ (Role.id role).toNat := by
  have some_strange : (∃ id, firstStrange? (roles.map Role.id) = some id) ↔
      ∃ role ∈ roles, maxRoles ≤ (Role.id role).toNat := by
    rw [← Option.isSome_iff_exists, firstStrange?, List.find?_isSome]
    simp
  rw [← some_strange]
  constructor
  · rintro ⟨e, refused⟩
    obtain ⟨id, strange, -⟩ := encode_eq_error_iff.mp refused
    exact ⟨id, strange⟩
  · rintro ⟨id, strange⟩
    exact ⟨_, encode_eq_error_iff.mpr ⟨id, strange, rfl⟩⟩

/-- The set has the roles of the list, and no others. -/
theorem contains_of_encode (made : encode roles = .ok mask) :
    mask.contains id = true ↔ ∃ role ∈ roles, Role.id role = id := by
  rw [← mem_ids_iff, mem_ids_of_ofIds made, List.mem_map]

end

/-- Roles that are known only by their numbers are in the set that they are written as, by number. -/
theorem contains_iff_mem_of_encode {roles : List RoleId} (made : encode roles = .ok mask) :
    mask.contains id = true ↔ ⟨id⟩ ∈ roles := by
  rw [contains_of_encode made]
  constructor
  · rintro ⟨role, given, rfl⟩
    exact given
  · intro given
    exact ⟨⟨id⟩, given, rfl⟩

/-- The same, told by the bits. -/
theorem stands_of_encode {roles : List RoleId} (made : encode roles = .ok mask) :
    (mask.contains id = true ↔ ⟨id⟩ ∈ roles) ∧
      (⟨id⟩ ∈ roles ↔ id.toNat < maxRoles ∧ mask.bits.toNat.testBit id.toNat = true) :=
  ⟨contains_iff_mem_of_encode made,
    (contains_iff_mem_of_encode made).symm.trans contains_iff_testBit⟩

end CertifiedAccess.RoleMask
