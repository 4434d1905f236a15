/-! Lists of keys with values, each key once, in order of first appearance. A new value for a key that
is there takes the place of the old one. -/

namespace NodeStorage.Keyed

variable {κ α : Type} [BEq κ]

def put (key : κ) (value : α) : List (κ × α) → List (κ × α)
  | [] => [(key, value)]
  | (k, v) :: rest => if k == key then (key, value) :: rest else (k, v) :: put key value rest

def ofPairs (pairs : List (κ × α)) : List (κ × α) :=
  pairs.foldl (fun known (key, value) => put key value known) []

theorem ofPairs_concat (pairs : List (κ × α)) (key : κ) (value : α) :
    ofPairs (pairs ++ [(key, value)]) = put key value (ofPairs pairs) := by
  simp [ofPairs]

variable [LawfulBEq κ]

theorem lookup_put (key : κ) (value : α) (entries : List (κ × α)) :
    (put key value entries).lookup key = some value := by
  induction entries with
  | nil => simp [put]
  | cons entry rest ih =>
    obtain ⟨k, v⟩ := entry
    by_cases h : k = key
    · simp [put, h]
    · simp [put, h, List.lookup_cons, beq_eq_false_iff_ne.2 (Ne.symm h), ih]

theorem lookup_put_ne (key other : κ) (value : α) (entries : List (κ × α)) (h : other ≠ key) :
    (put key value entries).lookup other = entries.lookup other := by
  induction entries with
  | nil => simp [put, List.lookup_cons, beq_eq_false_iff_ne.2 h]
  | cons entry rest ih =>
    obtain ⟨k, v⟩ := entry
    by_cases hk : k = key
    · subst hk
      simp [put, List.lookup_cons, beq_eq_false_iff_ne.2 h]
    · simp only [put, beq_eq_false_iff_ne.2 hk, Bool.false_eq_true, if_false, List.lookup_cons, ih]

private theorem lookup_foldl_put (key : κ) (pairs known : List (κ × α)) :
    (pairs.foldl (fun known (k, v) => put k v known) known).lookup key =
      (pairs.reverse.lookup key).or (known.lookup key) := by
  induction pairs generalizing known with
  | nil => simp
  | cons pair rest ih =>
    obtain ⟨k, v⟩ := pair
    rw [List.foldl_cons, ih, List.reverse_cons, List.lookup_append]
    by_cases h : key = k
    · subst h
      simp [lookup_put]
    · simp [lookup_put_ne k key v _ h, List.lookup_cons, beq_eq_false_iff_ne.2 h]

theorem lookup_ofPairs (key : κ) (pairs : List (κ × α)) :
    (ofPairs pairs).lookup key = pairs.reverse.lookup key := by
  simp [ofPairs, lookup_foldl_put]

end NodeStorage.Keyed
