import CertifiedAccess.Proofs.Roles
import Mathlib.Data.List.Nodup

/-!
Masks and the sets that they stand for. A mask is made of the numbers that it has, in whatever order and however
often they are given, and a set of roles is read back as it was written. Where a number is no role's, the lowest
such number is what is told.
-/
namespace CertifiedAccess

/-- Roles that are told apart by their numbers, and that have no number but their own. -/
class LawfulRole (ρ : Type) [Role ρ] : Prop where
  id_of_ofId? {id : UInt8} {role : ρ} : Role.ofId? id = some role → Role.id role = id
  ofId?_id (role : ρ) : (Role.id role).toNat < maxRoles → Role.ofId? (Role.id role) = some role

namespace RoleMask
variable {mask : RoleMask} {numbers : List UInt8} {id : UInt8}

section
variable {ρ : Type} [Role ρ] {roles : List ρ}

/-- The role with this number. -/
def known (ρ : Type) [Role ρ] (id : UInt8) : Except RoleError ρ :=
  match Role.ofId? id with
  | some role => .ok role
  | none => .error (.unknownBit id)

theorem known_eq_ok_iff {role : ρ} : known ρ id = .ok role ↔ Role.ofId? id = some role := by
  unfold known
  cases (Role.ofId? id : Option ρ) with
  | some found => simp
  | none => simp

theorem known_eq_error_iff {e : RoleError} :
    known ρ id = .error e ↔ (Role.ofId? id : Option ρ) = none ∧ e = .unknownBit id := by
  unfold known
  cases (Role.ofId? id : Option ρ) with
  | some found => simp
  | none => simp [eq_comm]

/-- The first number of a list that is no role's. -/
def firstUnknown? (ρ : Type) [Role ρ] (numbers : List UInt8) : Option UInt8 :=
  numbers.find? fun id => (Role.ofId? id : Option ρ).isNone

theorem mapM_known_eq_ok_iff :
    numbers.mapM (known ρ) = .ok roles ↔ numbers.map Role.ofId? = roles.map some := by
  induction numbers generalizing roles with
  | nil =>
    rw [List.mapM_nil, pure_eq_ok_iff, List.map_nil, eq_comm, eq_comm (a := []), List.map_eq_nil_iff]
  | cons id rest ih =>
    simp only [List.mapM_cons, bind_eq_ok_iff, pure_eq_ok_iff, known_eq_ok_iff, ih]
    constructor
    · rintro ⟨role, found, others, same, rfl⟩
      rw [List.map_cons, List.map_cons, found, same]
    · intro same
      cases roles with
      | nil => contradiction
      | cons role others =>
        rw [List.map_cons, List.map_cons, List.cons.injEq] at same
        exact ⟨role, same.1, others, same.2, rfl⟩

theorem mapM_known_eq_error_iff {e : RoleError} :
    numbers.mapM (known ρ) = .error e ↔ ∃ id, firstUnknown? ρ numbers = some id ∧ e = .unknownBit id := by
  induction numbers with
  | nil => simp [firstUnknown?, pure, Except.pure]
  | cons id rest ih =>
    rw [List.mapM_cons, firstUnknown?]
    cases found : (Role.ofId? id : Option ρ) with
    | some role =>
      rw [known_eq_ok_iff.mpr found, List.find?_cons_of_neg (by simp [found])]
      exact bind_pure_eq_error_iff.trans ih
    | none =>
      rw [known_eq_error_iff.mpr ⟨found, rfl⟩, List.find?_cons_of_pos (by simp [found])]
      change Except.error _ = _ ↔ _
      simp [eq_comm]

theorem decode_eq_ok_iff :
    mask.decode ρ = .ok roles ↔ mask.ids.map Role.ofId? = roles.map some :=
  mapM_known_eq_ok_iff

theorem decode_eq_error_iff {e : RoleError} :
    mask.decode ρ = .error e ↔ ∃ id, firstUnknown? ρ mask.ids = some id ∧ e = .unknownBit id :=
  mapM_known_eq_error_iff

/-- In ascending order the first is the lowest. -/
theorem firstUnknown?_eq_some_iff (ascending : numbers.Pairwise (· < ·)) :
    firstUnknown? ρ numbers = some id ↔ id ∈ numbers ∧ (Role.ofId? id : Option ρ) = none ∧
      ∀ lower ∈ numbers, lower < id → ∃ role : ρ, Role.ofId? lower = some role := by
  induction numbers with
  | nil => simp [firstUnknown?]
  | cons first rest ih =>
    obtain ⟨below, ascending⟩ := List.pairwise_cons.mp ascending
    rw [firstUnknown?]
    cases found : (Role.ofId? first : Option ρ) with
    | none =>
      rw [List.find?_cons_of_pos (by simp [found]), Option.some.injEq]
      constructor
      · rintro rfl
        refine ⟨List.mem_cons_self, found, fun lower there before => ?_⟩
        rcases List.mem_cons.mp there with rfl | there
        · exact absurd before (UInt8.lt_irrefl _)
        · exact absurd before (UInt8.lt_asymm (below lower there))
      · rintro ⟨there, -, lowest⟩
        rcases List.mem_cons.mp there with rfl | there
        · rfl
        · obtain ⟨role, found'⟩ := lowest first List.mem_cons_self (below id there)
          rw [found] at found'
          contradiction
    | some role =>
      rw [List.find?_cons_of_neg (by simp [found])]
      refine (ih ascending).trans ?_
      constructor
      · rintro ⟨there, unknown, lowest⟩
        refine ⟨List.mem_cons_of_mem _ there, unknown, fun lower there' before => ?_⟩
        rcases List.mem_cons.mp there' with rfl | there'
        · exact ⟨role, found⟩
        · exact lowest lower there' before
      · rintro ⟨there, unknown, lowest⟩
        rcases List.mem_cons.mp there with rfl | there
        · rw [found] at unknown
          contradiction
        · exact ⟨there, unknown, fun lower there' => lowest lower (List.mem_cons_of_mem _ there')⟩

theorem exists_decode_iff :
    (∃ roles, mask.decode ρ = .ok roles) ↔
      ∀ id ∈ mask.ids, ∃ role : ρ, Role.ofId? id = some role := by
  rw [exists_ok_iff_eq_none fun _ => decode_eq_error_iff]
  simp [firstUnknown?, List.find?_eq_none, Option.ne_none_iff_exists']

variable [LawfulRole ρ]

theorem map_id_eq (named : numbers.map Role.ofId? = roles.map some) : roles.map Role.id = numbers := by
  induction numbers generalizing roles with
  | nil =>
    rw [List.map_nil, eq_comm, List.map_eq_nil_iff] at named
    rw [named, List.map_nil]
  | cons id rest ih =>
    cases roles with
    | nil => contradiction
    | cons role others =>
      rw [List.map_cons, List.map_cons, List.cons.injEq] at named
      rw [List.map_cons, LawfulRole.id_of_ofId? named.1, ih named.2]

theorem map_id_of_decode (told : mask.decode ρ = .ok roles) : roles.map Role.id = mask.ids :=
  map_id_eq (decode_eq_ok_iff.mp told)

theorem mem_decode_iff (told : mask.decode ρ = .ok roles) {role : ρ} :
    role ∈ roles ↔ Role.id role ∈ mask.ids := by
  constructor
  · intro there
    rw [← map_id_of_decode told]
    exact List.mem_map_of_mem there
  · intro there
    have own := LawfulRole.ofId?_id role (toNat_lt_of_mem_ids there)
    have found : some role ∈ mask.ids.map (Role.ofId? (ρ := ρ)) := List.mem_map.mpr ⟨_, there, own⟩
    rw [decode_eq_ok_iff.mp told] at found
    exact (List.mem_map_of_injective fun _ _ => Option.some.inj).mp found

theorem nodup_decode (told : mask.decode ρ = .ok roles) : roles.Nodup := by
  have ascending := mask.pairwise_ids
  rw [← map_id_of_decode told] at ascending
  exact .of_map Role.id (ascending.imp UInt8.ne_of_lt)

/-- A set of roles with numbers within the limit is read back as it was written. -/
theorem decode_encode (inside : ∀ role ∈ roles, (Role.id role).toNat < maxRoles) :
    ∃ mask back, encode roles = .ok mask ∧ mask.decode ρ = .ok back ∧ back.Nodup ∧
      ∀ role, role ∈ back ↔ role ∈ roles := by
  have numbered : firstStrange? (roles.map Role.id) = none :=
    firstStrange?_eq_none_iff.mpr (List.forall_mem_map.mpr inside)
  obtain ⟨mask, made⟩ := exists_ofIds_iff.mpr numbered
  have mem (id : UInt8) : id ∈ mask.ids ↔ ∃ role ∈ roles, Role.id role = id := by
    rw [mem_ids_of_ofIds made, List.mem_map]
  have all_known : ∀ id ∈ mask.ids, ∃ role : ρ, Role.ofId? id = some role := by
    intro id there
    obtain ⟨role, given, rfl⟩ := (mem id).mp there
    exact ⟨role, LawfulRole.ofId?_id role (inside role given)⟩
  obtain ⟨back, told⟩ := exists_decode_iff.mpr all_known
  refine ⟨mask, back, made, told, nodup_decode told, fun role => ?_⟩
  rw [mem_decode_iff told, mem]
  constructor
  · rintro ⟨role', given, same⟩
    -- two roles with one number within the limit are one role
    have own := LawfulRole.ofId?_id role' (inside role' given)
    rw [same, LawfulRole.ofId?_id role (same ▸ inside role' given)] at own
    cases own
    exact given
  · intro given
    exact ⟨role, given, rfl⟩

end

/-- Masks are sets of numbers below 64, one for each bit. A list of numbers gives the mask that has its numbers and no others, or
is refused for the first that is out of range; the numbers of a mask, each told once in ascending order, give the
mask again. To roles that have numbers of their own a mask is read exactly as those whose numbers it has, and is
refused for the lowest number that is no role's; what a set of roles is written as is read as that set. -/
theorem sets_correspond (ρ : Type) [Role ρ] [LawfulRole ρ] :
    (∀ numbers, (∀ e, ofIds numbers = .error e ↔
        ∃ id, firstStrange? numbers = some id ∧ e = .outOfRange id) ∧
      (firstStrange? numbers = none → ∃ mask, ofIds numbers = .ok mask ∧
        mask.ids.Pairwise (· < ·) ∧ ∀ id, id ∈ mask.ids ↔ id ∈ numbers)) ∧
    (∀ mask : RoleMask, ofIds mask.ids = .ok mask ∧
      ∀ id : UInt8, (mask.contains id = true ↔ id ∈ mask.ids) ∧
        (id ∈ mask.ids ↔ id.toNat < maxRoles ∧ mask.bits.toNat.testBit id.toNat = true)) ∧
    (∀ mask : RoleMask,
      ((∃ roles, mask.decode ρ = .ok roles) ↔
        ∀ id ∈ mask.ids, ∃ role : ρ, Role.ofId? id = some role) ∧
      (∀ roles, mask.decode ρ = .ok roles →
        roles.map Role.id = mask.ids ∧ ∀ role, role ∈ roles ↔ Role.id role ∈ mask.ids) ∧
      ∀ e, mask.decode ρ = .error e ↔ ∃ id ∈ mask.ids, (Role.ofId? id : Option ρ) = none ∧
        (∀ lower ∈ mask.ids, lower < id → ∃ role : ρ, Role.ofId? lower = some role) ∧
        e = .unknownBit id) ∧
    ∀ roles : List ρ, (∀ role ∈ roles, (Role.id role).toNat < maxRoles) →
      ∃ mask back, encode roles = .ok mask ∧ mask.decode ρ = .ok back ∧ back.Nodup ∧
        ∀ role, role ∈ back ↔ role ∈ roles := by
  refine ⟨fun numbers => ⟨fun e => ofIds_eq_error_iff, fun inside => ?_⟩,
    fun mask => ⟨ofIds_ids mask, fun id => ⟨mem_ids_iff.symm, mem_ids_iff_testBit⟩⟩,
    fun mask => ⟨exists_decode_iff, fun roles told => ?_, fun e => ?_⟩, fun roles => decode_encode⟩
  · obtain ⟨mask, made⟩ := exists_ofIds_iff.mpr inside
    exact ⟨mask, made, mask.pairwise_ids, fun id => mem_ids_of_ofIds made⟩
  · exact ⟨map_id_of_decode told, fun role => mem_decode_iff told⟩
  · simp only [decode_eq_error_iff, firstUnknown?_eq_some_iff mask.pairwise_ids, and_assoc]

end RoleMask

/-! Two roles with the first and the last number, and a mask that also has a number of neither. -/
namespace Firm
open RoleMask

inductive Rank where
  | clerk
  | founder
  deriving DecidableEq

instance : Role Rank where
  id
    | .clerk => 0
    | .founder => 63
  ofId? id := if id = 0 then some .clerk else if id = 63 then some .founder else none

instance : LawfulRole Rank where
  id_of_ofId? {id role} found := by
    simp only [Role.ofId?] at found
    split at found
    · cases found
      exact Eq.symm ‹_›
    · split at found
      · cases found
        exact Eq.symm ‹_›
      · contradiction
  ofId?_id role _ := by
    cases role with
    | clerk => rfl
    | founder => rfl

def crowded : RoleMask := ⟨0x8000010000000001⟩

def staff : List Rank := [.founder, .clerk, .founder]

theorem decode_staff :
    crowded.decode Rank = .error (.unknownBit 40) ∧
      ∃ mask back, encode staff = .ok mask ∧ mask.decode Rank = .ok back ∧ back.Nodup ∧
        ∀ role, role ∈ back ↔ role ∈ staff := by
  obtain ⟨-, -, reads, restores⟩ := sets_correspond Rank
  have told : crowded.ids = [0, 40, 63] := by decide
  have lowest : ∀ lower ∈ crowded.ids, lower < 40 → ∃ role : Rank, Role.ofId? lower = some role := by
    intro lower there before
    rw [told] at there
    simp only [List.mem_cons, List.not_mem_nil, or_false] at there
    rcases there with rfl | rfl | rfl
    · exact ⟨.clerk, rfl⟩
    · exact absurd before (by decide)
    · exact absurd before (by decide)
  refine ⟨((reads crowded).2.2 _).mpr ⟨40, by decide, rfl, lowest, rfl⟩, restores staff ?_⟩
  decide

end Firm
end CertifiedAccess
