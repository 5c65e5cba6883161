import CertifiedAccess.Authority.Table

/-!
Tables as functions: what a key leads to after each change.
-/
namespace CertifiedAccess.Table
variable {κ ν : Type} [DecidableEq κ]

theorem contains_eq_isSome (t : Table κ ν) (key : κ) : t.contains key = (t.get? key).isSome := rfl

theorem get?_modify (t : Table κ ν) (key other : κ) (f : ν → ν) :
    (t.modify key f).get? other = if key = other then (t.get? key).map f else t.get? other := by
  obtain ⟨entries, nodup⟩ := t
  simp only [modify, get?]
  clear nodup
  induction entries with
  | nil => simp
  | cons entry rest ih =>
    obtain ⟨first, old⟩ := entry
    by_cases here : first = key
    · subst here
      by_cases same : first = other
      · simp [same]
      · simpa [same] using ih
    · by_cases found : first = other
      · subst found
        simp [here, Ne.symm here]
      · simpa [here, found] using ih

theorem modify_eq_self {t : Table κ ν} {key : κ} {f : ν → ν} (absent : t.contains key = false) :
    t.modify key f = t := by
  have none_there : ∀ entry ∈ t.entries, ¬ entry.1 = key := by
    intro entry stands same
    have present : t.contains key = true :=
      (t.contains_iff key).mpr (same ▸ List.mem_map_of_mem stands)
    rw [absent] at present
    contradiction
  obtain ⟨entries, nodup⟩ := t
  simp only [modify, mk.injEq]
  have same : entries.map (fun entry => if entry.1 = key then (entry.1, f entry.2) else entry) =
      entries.map id := List.map_congr_left fun entry stands => if_neg (none_there entry stands)
  rw [same, List.map_id]

theorem get?_insert (t : Table κ ν) (key other : κ) (value : ν) :
    (t.insert key value).get? other = if key = other then some value else t.get? other := by
  unfold insert
  split
  · rename_i present
    rw [get?_modify]
    obtain ⟨old, found⟩ := Option.isSome_iff_exists.mp present
    rw [found, Option.map_some]
  · rename_i absent
    have missing : t.get? key = none := by
      rwa [contains_eq_isSome, Bool.not_eq_true, Option.isSome_eq_false_iff,
        Option.isNone_iff_eq_none] at absent
    simp only [get?, List.find?_append] at *
    by_cases same : key = other
    · subst same
      rw [Option.map_eq_none_iff] at missing
      simp [missing]
    · simp [same]

theorem entries_insert_of_absent {t : Table κ ν} {key : κ} {value : ν}
    (absent : t.contains key = false) : (t.insert key value).entries = t.entries ++ [(key, value)] := by
  simp only [insert, absent, Bool.false_eq_true, dif_neg, not_false_eq_true]

theorem get?_insert_self (t : Table κ ν) (key : κ) (value : ν) :
    (t.insert key value).get? key = some value := by
  rw [get?_insert, if_pos rfl]

theorem get?_erase (t : Table κ ν) (key other : κ) :
    (t.erase key).get? other = if key = other then none else t.get? other := by
  obtain ⟨entries, nodup⟩ := t
  simp only [erase, get?]
  clear nodup
  induction entries with
  | nil => simp
  | cons entry rest ih =>
    obtain ⟨first, old⟩ := entry
    by_cases here : first = key
    · subst here
      by_cases same : first = other
      · simp [same]
      · simpa [same] using ih
    · by_cases found : first = other
      · subst found
        simp [here, Ne.symm here]
      · simpa [here, found] using ih

theorem get?_of_mem_entries {t : Table κ ν} {key : κ} {value : ν} (mem : (key, value) ∈ t.entries) :
    t.get? key = some value := by
  obtain ⟨entries, nodup⟩ := t
  simp only [get?] at *
  induction entries with
  | nil => contradiction
  | cons entry rest ih =>
    rw [List.map_cons, List.nodup_cons] at nodup
    rcases List.mem_cons.mp mem with rfl | behind
    · simp
    · have away : entry.1 ≠ key := by
        intro same
        exact nodup.1 (same ▸ List.mem_map_of_mem behind)
      simpa [away] using ih nodup.2 behind

theorem mem_entries_iff {t : Table κ ν} {key : κ} {value : ν} :
    (key, value) ∈ t.entries ↔ t.get? key = some value := by
  constructor
  · exact get?_of_mem_entries
  · intro found
    obtain ⟨⟨first, _⟩, there, rfl⟩ := Option.map_eq_some_iff.mp found
    have here : first = key := by simpa using List.find?_some there
    exact here ▸ List.mem_of_find?_eq_some there

theorem insert_eq_self {t : Table κ ν} {key : κ} {value : ν} (found : t.get? key = some value) :
    t.insert key value = t := by
  have present : t.contains key = true := by
    rw [contains_eq_isSome, found, Option.isSome_some]
  have same (entry : κ × ν) (stands : entry ∈ t.entries) :
      (if entry.1 = key then (entry.1, value) else entry) = entry := by
    split
    · rename_i here
      have own := get?_of_mem_entries (here ▸ stands : (key, entry.2) ∈ t.entries)
      rw [found] at own
      rw [here, Option.some.inj own, ← here]
    · rfl
  rw [insert, dif_pos present]
  obtain ⟨entries, nodup⟩ := t
  rw [modify, mk.injEq, List.map_congr_left same, List.map_id']

theorem exists_get?_of_mem_values {t : Table κ ν} {value : ν} (mem : value ∈ t.values) :
    ∃ key, t.get? key = some value := by
  obtain ⟨⟨key, _⟩, stands, rfl⟩ := List.mem_map.mp mem
  exact ⟨key, get?_of_mem_entries stands⟩

theorem mem_values_iff {t : Table κ ν} {value : ν} :
    value ∈ t.values ↔ ∃ key, t.get? key = some value := by
  constructor
  · exact exists_get?_of_mem_values
  · rintro ⟨key, found⟩
    exact List.mem_map_of_mem (mem_entries_iff.mpr found)

theorem mem_keys_iff {t : Table κ ν} {key : κ} :
    key ∈ t.entries.map Prod.fst ↔ ∃ value, t.get? key = some value := by
  rw [← contains_iff, contains_eq_isSome, Option.isSome_iff_exists]

end CertifiedAccess.Table
