import Mathlib.Data.List.AList

/-! # Hash maps as association lists

`std::collections::HashMap` is modelled by Mathlib's `AList`, whose keys are
duplicate-free by construction. The operations the router performs correspond
as follows: `insert` is `AList.insert`, `remove` is `AList.extract` (or
`AList.erase` when the removed value is dropped), `get` and `get_mut` are
`AList.lookup`, an update made through `get_mut` is `AList.replace`,
`contains_key` is membership and `iter` walks `entries`. A `HashMap` iterates
in an unspecified order; here that order is the order of `entries`, and a
result that must not depend on it is stated for every permutation of them. -/

namespace TendermintRpc

/-- `HashMap K V`: an association list with duplicate-free keys. -/
abbrev HashMap (K V : Type) := AList (fun _ : K => V)

namespace HashMap

variable {K V : Type} [DecidableEq K]

private theorem dlookup_kreplace (key other : K) (value : V) :
    ∀ entries : List (Σ _ : K, V),
      (entries.kreplace key value).dlookup other =
        if other = key then (entries.dlookup other).map fun _ => value
        else entries.dlookup other
  | [] => by simp [List.kreplace]
  | ⟨head, headValue⟩ :: rest => by
      by_cases same : key = head
      · subst head
        rw [List.kreplace,
          @List.lookmap_cons_some _ _ ⟨key, headValue⟩ ⟨key, value⟩ rest (by simp)]
        by_cases found : other = key
        · subst found
          simp [List.dlookup_cons_eq]
        · simp [found, List.dlookup_cons_ne rest ⟨key, headValue⟩ found,
            List.dlookup_cons_ne rest ⟨key, value⟩ found]
      · rw [List.kreplace, List.lookmap_cons_none _ rest (by simp [same]), ← List.kreplace]
        by_cases found : other = head
        · subst other
          simp [Ne.symm same]
        · simp only [List.dlookup_cons_ne rest ⟨head, headValue⟩ found,
            List.dlookup_cons_ne (rest.kreplace key value) ⟨head, headValue⟩ found,
            dlookup_kreplace key other value rest]

/-- An update through `get_mut` changes the value at its key, and only there. -/
theorem lookup_replace (key other : K) (value : V) (map : HashMap K V) :
    (map.replace key value).lookup other =
      if other = key then (map.lookup other).map fun _ => value else map.lookup other :=
  dlookup_kreplace key other value map.entries

@[simp] theorem lookup_replace_self {key : K} {value : V} {map : HashMap K V}
    (member : key ∈ map) : (map.replace key value).lookup key = some value := by
  obtain ⟨old, found⟩ := Option.isSome_iff_exists.mp (AList.lookup_isSome.mpr member)
  simp [lookup_replace, found]

@[simp] theorem lookup_replace_ne {key other : K} {value : V} {map : HashMap K V}
    (different : other ≠ key) : (map.replace key value).lookup other = map.lookup other := by
  simp [lookup_replace, different]

theorem lookup_insert_eq_ite (key other : K) (value : V) (map : HashMap K V) :
    (map.insert key value).lookup other = if key = other then some value else map.lookup other := by
  by_cases same : key = other
  · subst same
    simp [AList.lookup_insert]
  · simp [AList.lookup_insert_ne (Ne.symm same), same]

theorem lookup_erase_eq_ite (key other : K) (map : HashMap K V) :
    (map.erase key).lookup other = if key = other then none else map.lookup other := by
  by_cases same : key = other
  · subst same
    simp [AList.lookup_erase]
  · simp [AList.lookup_erase_ne (Ne.symm same), same]

theorem erase_of_not_mem {key : K} {map : HashMap K V} (absent : key ∉ map) :
    map.erase key = map :=
  AList.ext (List.kerase_of_not_mem_keys absent)

/-- Inserting a key that is absent and removing it again changes nothing. -/
theorem erase_insert_of_not_mem {key : K} {value : V} {map : HashMap K V} (absent : key ∉ map) :
    (map.insert key value).erase key = map := by
  apply AList.ext
  change List.kerase key (map.insert key value).entries = map.entries
  rw [AList.insert_entries, List.kerase_cons_eq (show key = (⟨key, value⟩ : Σ _ : K, V).1 from rfl),
    List.kerase_of_not_mem_keys absent]

/-- Removing one key and inserting another commute. -/
theorem erase_insert_of_ne {key other : K} {value : V} {map : HashMap K V}
    (different : key ≠ other) :
    (map.insert key value).erase other = (map.erase other).insert key value := by
  apply AList.ext
  change List.kerase other (map.insert key value).entries =
    ⟨key, value⟩ :: List.kerase key (List.kerase other map.entries)
  rw [AList.insert_entries, List.kerase_cons_ne (Ne.symm different), List.kerase_comm]

/-- Removing every key of a list leaves the other entries. -/
theorem lookup_foldl_erase (keys : List K) (map : HashMap K V) (key : K) :
    (keys.foldl (fun map key => map.erase key) map).lookup key =
      if key ∈ keys then none else map.lookup key := by
  induction keys generalizing map with
  | nil => simp
  | cons first rest induction =>
      rw [List.foldl_cons, induction]
      by_cases same : key = first
      · subst same
        simp
      · simp [same, AList.lookup_erase_ne]

/-- The keys of the entries that satisfy `keep`. -/
theorem mem_map_fst_filter (keep : (Σ _ : K, V) → Bool) (map : HashMap K V) (key : K) :
    key ∈ (map.entries.filter keep).map Sigma.fst ↔
      ∃ value, map.lookup key = some value ∧ keep ⟨key, value⟩ = true := by
  simp only [List.mem_map, List.mem_filter]
  constructor
  · rintro ⟨⟨key, value⟩, ⟨member, kept⟩, rfl⟩
    exact ⟨value, AList.mem_lookup_iff.mpr member, kept⟩
  · rintro ⟨value, found, kept⟩
    exact ⟨⟨key, value⟩, ⟨AList.mem_lookup_iff.mp found, kept⟩, rfl⟩

/-- Filtering a duplicate-free list whose kept elements are all `kept` keeps
`kept` alone, or nothing. -/
theorem filter_eq_of_forall_eq {β : Type} [DecidableEq β] {entries : List β}
    {keep : β → Bool} (kept : β) (nodup : entries.Nodup)
    (only : ∀ entry ∈ entries, keep entry → entry = kept) :
    entries.filter keep = if kept ∈ entries ∧ keep kept then [kept] else [] := by
  induction entries with
  | nil => simp
  | cons first rest induction =>
      obtain ⟨fresh, nodupRest⟩ := List.nodup_cons.mp nodup
      have restOnly : ∀ entry ∈ rest, keep entry → entry = kept := fun entry member =>
        only entry (List.mem_cons_of_mem _ member)
      by_cases keeps : keep first
      · obtain rfl := only first (List.mem_cons_self _ _) keeps
        have absent : rest.filter keep = [] := by
          rw [induction nodupRest restOnly]
          simp [fresh]
        simp [List.filter_cons, keeps, absent]
      · rw [List.filter_cons, if_neg keeps, induction nodupRest restOnly]
        by_cases same : kept = first
        · subst same
          simp [keeps]
        · simp [same]

/-- Inserting adds at most the new entry to those that satisfy `keep`. -/
theorem countP_insert_le (keep : (Σ _ : K, V) → Bool) (key : K) (value : V) (map : HashMap K V) :
    (map.insert key value).entries.countP keep ≤
      map.entries.countP keep + if keep ⟨key, value⟩ then 1 else 0 := by
  have erased := (List.kerase_sublist key map.entries).countP_le keep
  rw [AList.insert_entries, List.countP_cons]
  omega

/-- Removing a key takes its entry, and only it, from those that satisfy
`keep`. -/
theorem countP_erase (keep : (Σ _ : K, V) → Bool) {key : K} {value : V} {map : HashMap K V}
    (found : map.lookup key = some value) :
    (map.erase key).entries.countP keep + (if keep ⟨key, value⟩ then 1 else 0) =
      map.entries.countP keep := by
  obtain ⟨stored, before, after, absent, split, erased⟩ :=
    List.exists_of_kerase (AList.lookup_isSome.mp (by simp [found]) : key ∈ map.entries.keys)
  have same : stored = value := by
    change map.entries.dlookup key = some value at found
    rw [split, List.dlookup_append, List.dlookup_eq_none.mpr absent] at found
    simpa using found
  subst same
  change (map.entries.kerase key).countP keep + _ = _
  rw [erased, split, List.countP_append, List.countP_append, List.countP_cons]
  omega

end HashMap

end TendermintRpc
