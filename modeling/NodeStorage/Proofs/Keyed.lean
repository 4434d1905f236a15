import Mathlib.Data.Finset.Card
import Mathlib.Data.List.Induction
import NodeStorage.Keyed

/-! The keys of pairs that are put one after the other, and what is found under them. Each key is there
once, and each pair of the last one with its key. -/

namespace NodeStorage.Keyed

variable {κ α : Type} [BEq κ] [LawfulBEq κ] {key other : κ} {value : α}
  {entries pairs : List (κ × α)}

theorem put_of_not_mem (new : key ∉ entries.map Prod.fst) (value : α) :
    put key value entries = entries ++ [(key, value)] := by
  induction entries with
  | nil => rfl
  | cons entry rest ih =>
    rw [List.map_cons, List.mem_cons, not_or] at new
    obtain ⟨other, new⟩ := new
    have differs : (entry.1 == key) = false := beq_eq_false_iff_ne.2 (Ne.symm other)
    rw [put, differs, ih new]
    rfl

theorem keys_put_of_mem (known : key ∈ entries.map Prod.fst) (value : α) :
    (put key value entries).map Prod.fst = entries.map Prod.fst := by
  induction entries with
  | nil => cases known
  | cons entry rest ih =>
    obtain ⟨k, v⟩ := entry
    by_cases same : k = key
    · simp [put, same]
    · have later : key ∈ rest.map Prod.fst :=
        (List.mem_cons.1 known).resolve_left fun own => same own.symm
      simp [put, same, ih later]

theorem mem_keys_put : other ∈ (put key value entries).map Prod.fst ↔
    other ∈ entries.map Prod.fst ∨ other = key := by
  by_cases known : key ∈ entries.map Prod.fst
  · rw [keys_put_of_mem known, or_iff_left_of_imp]
    exact fun same => same ▸ known
  · simp [put_of_not_mem known]

theorem nodup_keys_put (distinct : (entries.map Prod.fst).Nodup) :
    ((put key value entries).map Prod.fst).Nodup := by
  by_cases known : key ∈ entries.map Prod.fst
  · rwa [keys_put_of_mem known]
  · rw [put_of_not_mem known, List.map_append, List.map_singleton, ← List.concat_eq_append]
    exact distinct.concat known

theorem ofPairs_of_nodup (distinct : (pairs.map Prod.fst).Nodup) : ofPairs pairs = pairs := by
  induction pairs using List.reverseRecOn with
  | nil => rfl
  | append_singleton front last ih =>
    rw [List.map_append, List.nodup_append] at distinct
    obtain ⟨front_distinct, -, apart⟩ := distinct
    have new : last.1 ∉ front.map Prod.fst := fun mem => apart _ mem _ (by simp) rfl
    rw [ofPairs_concat, ih front_distinct, put_of_not_mem new]

theorem mem_keys_ofPairs : key ∈ (ofPairs pairs).map Prod.fst ↔ key ∈ pairs.map Prod.fst := by
  induction pairs using List.reverseRecOn with
  | nil => rfl
  | append_singleton front last ih =>
    rw [ofPairs_concat, mem_keys_put, ih]
    simp

theorem nodup_keys_ofPairs (pairs : List (κ × α)) : ((ofPairs pairs).map Prod.fst).Nodup := by
  induction pairs using List.reverseRecOn with
  | nil => exact List.nodup_nil
  | append_singleton front last ih =>
    rw [ofPairs_concat]
    exact nodup_keys_put ih

theorem length_ofPairs [DecidableEq κ] (pairs : List (κ × α)) :
    (ofPairs pairs).length = (pairs.map Prod.fst).toFinset.card := by
  have same : ((ofPairs pairs).map Prod.fst).toFinset = (pairs.map Prod.fst).toFinset := by
    ext key
    rw [List.mem_toFinset, List.mem_toFinset, mem_keys_ofPairs]
  rw [← same, List.toFinset_card_of_nodup (nodup_keys_ofPairs pairs), List.length_map]

theorem lookup_ofPairs_eq_some_iff : (ofPairs pairs).lookup key = some value ↔
    ∃ earlier later, pairs = earlier ++ (key, value) :: later ∧ key ∉ later.map Prod.fst := by
  rw [lookup_ofPairs, List.lookup_eq_some_iff]
  constructor
  · rintro ⟨later, earlier, backwards, others⟩
    refine ⟨earlier.reverse, later.reverse, ?_, ?_⟩
    · rw [← List.reverse_reverse pairs, backwards]
      simp
    · rw [List.map_reverse, List.mem_reverse, List.mem_map]
      rintro ⟨pair, mem, rfl⟩
      simpa using others pair mem
  · rintro ⟨earlier, later, rfl, others⟩
    refine ⟨later.reverse, earlier.reverse, by simp, fun pair mem => ?_⟩
    rw [bne_iff_ne]
    rintro rfl
    exact others (List.mem_map_of_mem (List.mem_reverse.1 mem))

end NodeStorage.Keyed
