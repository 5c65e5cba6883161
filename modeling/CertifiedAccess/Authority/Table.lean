/-!
Tables: finite maps kept as lists of entries, in the order in which their keys came.
-/
namespace CertifiedAccess

/-- Entries with different keys. -/
structure Table (κ ν : Type) where
  entries : List (κ × ν)
  nodup : (entries.map Prod.fst).Nodup
  deriving DecidableEq

namespace Table
variable {κ ν : Type} [DecidableEq κ]

def empty : Table κ ν := ⟨[], List.nodup_nil⟩

def get? (t : Table κ ν) (key : κ) : Option ν :=
  (t.entries.find? fun entry => entry.1 = key).map (·.2)

def contains (t : Table κ ν) (key : κ) : Bool := (t.get? key).isSome

theorem contains_iff (t : Table κ ν) (key : κ) :
    t.contains key = true ↔ key ∈ t.entries.map Prod.fst := by
  simp [contains, get?]

def modify (t : Table κ ν) (key : κ) (f : ν → ν) : Table κ ν where
  entries := t.entries.map fun entry => if entry.1 = key then (entry.1, f entry.2) else entry
  nodup := by
    have same : (Prod.fst ∘ fun entry : κ × ν => if entry.1 = key then (entry.1, f entry.2) else entry)
        = Prod.fst := by
      funext entry
      simp only [Function.comp_apply]
      split <;> rfl
    rw [List.map_map, same]
    exact t.nodup

/-- The table with a key's value put in its place, or behind all others if the key is new. -/
def insert (t : Table κ ν) (key : κ) (value : ν) : Table κ ν :=
  if h : t.contains key then t.modify key fun _ => value
  else
    { entries := t.entries ++ [(key, value)]
      nodup := by
        have new : key ∉ t.entries.map Prod.fst := fun mem => h ((t.contains_iff key).mpr mem)
        rw [List.map_append, List.nodup_append]
        refine ⟨t.nodup, by simp, ?_⟩
        intro a ha b hb same
        rw [List.map_cons, List.map_nil, List.mem_singleton] at hb
        obtain rfl : a = key := same.trans hb
        exact new ha }

def erase (t : Table κ ν) (key : κ) : Table κ ν where
  entries := t.entries.filter fun entry => entry.1 ≠ key
  nodup := t.nodup.sublist (List.filter_sublist.map Prod.fst)

/-- The values, in the order in which their keys came. -/
def values (t : Table κ ν) : List ν := t.entries.map (·.2)

def size (t : Table κ ν) : Nat := t.entries.length

end Table
end CertifiedAccess
