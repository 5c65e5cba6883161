import CertifiedAccess.Bytes

/-!
Roles and sets of roles. A role has a number below 64, and a set of roles is the mask with a bit for each.
-/
namespace CertifiedAccess

def maxRoles : Nat := 64

inductive RoleError where
  | outOfRange (id : UInt8)
  | unknownBit (id : UInt8)
  deriving DecidableEq

def RoleError.message : RoleError → String
  | .outOfRange id => "role id " ++ id.toNat.repr ++ " out of range (0-63)"
  | .unknownBit id => "invalid role code: bit " ++ id.toNat.repr

/-- An application's roles, told apart by number. -/
class Role (ρ : Type) where
  id : ρ → UInt8
  ofId? : UInt8 → Option ρ

/-- A role that is known only by its number. -/
structure RoleId where
  number : UInt8
  deriving DecidableEq

instance : Role RoleId where
  id := RoleId.number
  ofId? id := if id.toNat < maxRoles then some ⟨id⟩ else none

/-- A set of role numbers: bit `i` stands for role `i`. -/
structure RoleMask where
  bits : UInt64
  deriving DecidableEq

namespace RoleMask

def empty : RoleMask := ⟨0⟩

def isEmpty (mask : RoleMask) : Bool := mask.bits == 0

/-- Whether a role number is in the set; no number from 64 on is. -/
def contains (mask : RoleMask) (id : UInt8) : Bool :=
  id.toNat < maxRoles && mask.bits.toNat.testBit id.toNat

/-- The role numbers in the set, in ascending order. -/
def ids (mask : RoleMask) : List UInt8 :=
  ((List.range maxRoles).map UInt8.ofNat).filter mask.contains

def insert (mask : RoleMask) (id : UInt8) : Except RoleError RoleMask :=
  if id.toNat < maxRoles then .ok ⟨mask.bits ||| (1 <<< id.toUInt64)⟩ else .error (.outOfRange id)

/-- The set of the numbers in a list; the first that is out of range is refused. -/
def ofIds (ids : List UInt8) : Except RoleError RoleMask :=
  ids.foldlM insert empty

def encode {ρ : Type} [Role ρ] (roles : List ρ) : Except RoleError RoleMask :=
  ofIds (roles.map Role.id)

/-- The roles in the set, by ascending number; the lowest number that is no role is refused. -/
def decode (ρ : Type) [Role ρ] (mask : RoleMask) : Except RoleError (List ρ) :=
  mask.ids.mapM fun id =>
    match Role.ofId? id with
    | some role => .ok role
    | none => .error (.unknownBit id)

end RoleMask
end CertifiedAccess
