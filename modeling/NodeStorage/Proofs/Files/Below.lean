import NodeStorage.Proofs.Files.Places

/-! What trees have in common below a directory. Names lead down only, so that paths made of them see
nothing of the tree but the entries at and below the place where they start. -/

namespace NodeStorage

namespace Path

def IsName (name : String) : Prop := name ≠ "" ∧ name ≠ "." ∧ name ≠ ".." ∧ '/' ∉ name.toList

instance (name : String) : Decidable (IsName name) :=
  inferInstanceAs (Decidable (_ ∧ _ ∧ _ ∧ _))

def joinLead (root : List Char) : List Char :=
  if root.isEmpty || root.getLast? == some '/' then root else root ++ ['/']

theorem joinChars_eq (root rest : List Char) : joinChars root rest = joinLead root ++ rest := by
  unfold joinChars joinLead
  split
  · rfl
  · rw [List.append_assoc, List.singleton_append]

theorem chars_child (p : Path) (name : String) :
    (p.child name).chars = joinLead p.chars ++ name.toList :=
  (chars_ofChars _).trans (joinChars_eq _ _)

section Name

variable {name : String} (own : IsName name)
include own

theorem IsName.toList_ne_nil : name.toList ≠ [] := fun empty => own.1 (String.toList_eq_nil_iff.1 empty)

theorem IsName.getLast?_ne : name.toList.getLast? ≠ some '/' :=
  fun last => own.2.2.2 (List.mem_of_getLast? last)

theorem getLast?_chars_child (p : Path) : (p.child name).chars.getLast? = name.toList.getLast? := by
  rw [chars_child, List.getLast?_append_of_ne_nil _ own.toList_ne_nil]

theorem endsInSlash_child (p : Path) : (p.child name).endsInSlash = false := by
  rw [endsInSlash, getLast?_chars_child own]
  exact beq_false_of_ne own.getLast?_ne

theorem child_child (p : Path) (next : String) :
    (p.child name).child next = p.child (name ++ "/" ++ next) := by
  have between : joinLead (p.child name).chars = (p.child name).chars ++ ['/'] := by
    refine if_neg fun ends => ?_
    rw [Bool.or_eq_true, List.isEmpty_iff, beq_iff_eq, getLast?_chars_child own] at ends
    rcases ends with empty | slash
    · rw [chars_child, List.append_eq_nil_iff] at empty
      exact own.toList_ne_nil empty.2
    · exact own.getLast?_ne slash
  have same : ((p.child name).child next).chars = (p.child (name ++ "/" ++ next)).chars := by
    rw [chars_child, between, chars_child, chars_child]
    simp
  exact congrArg Path.mk (String.toList_inj.1 same)

theorem names_child (p : Path) : (p.child name).names = p.names ++ [name] := by
  have alone : (name.toList.splitOn '/').filter (!·.isEmpty) = [name.toList] := by
    rw [List.splitOn_eq_singleton own.2.2.2]
    simp [own.1]
  rw [names, pieces, child, chars_ofChars, filter_splitOn_joinChars rfl, alone, List.map_append]
  simp [names, pieces]

theorem isAbsolute_child (p : Path) : (p.child name).isAbsolute = p.isAbsolute := by
  obtain ⟨c, cs, parts⟩ := List.exists_cons_of_ne_nil own.toList_ne_nil
  have other : c ≠ '/' := by
    rintro rfl
    exact own.2.2.2 (parts ▸ List.mem_cons_self)
  rw [isAbsolute, isAbsolute, chars_child, joinLead]
  cases p.chars with
  | nil => simp [parts, other]
  | cons d ds => split <;> rfl

end Name

def descend (p : Path) (names : List String) : Path := names.foldl child p

theorem descend_concat (p : Path) (names : List String) (name : String) :
    p.descend (names ++ [name]) = (p.descend names).child name := by
  rw [descend, List.foldl_append]
  rfl

theorem names_descend {names : List String} (own : ∀ name ∈ names, IsName name) (p : Path) :
    (p.descend names).names = p.names ++ names := by
  induction names generalizing p with
  | nil => exact (List.append_nil _).symm
  | cons name rest ih =>
    obtain ⟨first, others⟩ := List.forall_mem_cons.1 own
    have rest_names := ih others (p.child name)
    rw [names_child first, List.append_assoc] at rest_names
    exact rest_names

theorem isAbsolute_descend {names : List String} (own : ∀ name ∈ names, IsName name) (p : Path) :
    (p.descend names).isAbsolute = p.isAbsolute := by
  induction names generalizing p with
  | nil => rfl
  | cons name rest ih =>
    obtain ⟨first, others⟩ := List.forall_mem_cons.1 own
    exact (ih others (p.child name)).trans (isAbsolute_child first p)

theorem endsInSlash_descend {names : List String} (own : ∀ name ∈ names, IsName name)
    (filled : names ≠ []) (p : Path) : (p.descend names).endsInSlash = false := by
  obtain ⟨front, last, rfl⟩ := (List.eq_nil_or_concat' names).resolve_left filled
  rw [descend_concat]
  exact endsInSlash_child (own last (by simp)) _

end Path

namespace FileTree

/-- The same can be read at the path in both trees, and the same is listed there. -/
structure SameAt (t t' : FileTree) (p : Path) : Prop where
  readBytes_eq : t'.readBytes p = t.readBytes p
  list_eq : t'.list p = t.list p

/-- A directory and the paths that lead down from it, by names and by all that is listed. -/
inductive Below (t : FileTree) (dir : Path) : Path → Prop where
  | here : Below t dir dir
  | name {p : Path} {name : String} (h : Below t dir p) (own : Path.IsName name) :
      Below t dir (p.child name)
  | listed {p : Path} {names : List String} {name : String} (h : Below t dir p)
      (list : t.list p = .ok names) (mem : name ∈ names) : Below t dir (p.child name)

variable {t t' : FileTree} {root p : Path} {place next : Place} {names : List String}

theorem SameAt.readText_eq (same : SameAt t t' p) : t'.readText p = t.readText p := by
  rw [readText, readText, same.readBytes_eq]

theorem isFile_eq_isOk : t.isFile p = (t.readBytes p).isOk := by
  unfold isFile readBytes
  rcases t.find p with fault | ⟨place, directory | content⟩
  · rfl
  · rfl
  · rfl

theorem SameAt.isFile_eq (same : SameAt t t' p) : t'.isFile p = t.isFile p := by
  rw [isFile_eq_isOk, isFile_eq_isOk, same.readBytes_eq]

theorem eq_append_of_enter {name : String} (own : Path.IsName name) (h : t.enter place name = .ok next) :
    next = place ++ [name] := by
  rw [eq_of_enter h, if_neg own.2.1, if_neg own.2.2.1]

theorem eq_append_of_foldlM (own : ∀ name ∈ names, Path.IsName name)
    (h : names.foldlM t.enter place = .ok next) : next = place ++ names := by
  induction names generalizing place with
  | nil =>
    cases h
    exact (List.append_nil _).symm
  | cons name rest ih =>
    obtain ⟨first, others⟩ := List.forall_mem_cons.1 own
    rw [List.foldlM_cons] at h
    obtain ⟨inner, entered, h⟩ := exists_of_bind_eq_ok h
    rw [ih others h, eq_append_of_enter first entered, List.append_assoc, List.singleton_append]

theorem foldlM_enter_congr (same : ∀ rest, t'.lookup? (place ++ rest) = t.lookup? (place ++ rest))
    (own : ∀ name ∈ names, Path.IsName name) :
    names.foldlM t'.enter place = names.foldlM t.enter place := by
  induction names generalizing place with
  | nil => rfl
  | cons name rest ih =>
    obtain ⟨first, others⟩ := List.forall_mem_cons.1 own
    have here := same []
    rw [List.append_nil] at here
    have step : t'.enter place name = t.enter place name := by rw [enter, enter, here]
    rw [List.foldlM_cons, List.foldlM_cons, step]
    cases entered : t.enter place name with
    | error fault => rfl
    | ok inner =>
      obtain rfl := eq_append_of_enter first entered
      refine ih (fun later => ?_) others
      rw [List.append_assoc]
      exact same ([name] ++ later)

structure SameFrom (t t' : FileTree) (place : Place) : Prop where
  lookup?_eq : ∀ rest, t'.lookup? (place ++ rest) = t.lookup? (place ++ rest)
  namesBelow_eq : ∀ rest, t'.namesBelow (place ++ rest) = t.namesBelow (place ++ rest)

def entriesFrom (t : FileTree) (place : Place) : List (Place × Entry) :=
  t.entries.filter fun entry => place.isPrefixOf entry.1

theorem lookup_entriesFrom (t : FileTree) (place rest : Place) :
    (t.entriesFrom place).lookup (place ++ rest) = t.entries.lookup (place ++ rest) := by
  unfold entriesFrom
  induction t.entries with
  | nil => rfl
  | cons first others ih =>
    obtain ⟨p, entry⟩ := first
    rw [List.filter_cons]
    by_cases here : place ++ rest = p
    · have kept : place.isPrefixOf p = true :=
        List.isPrefixOf_iff_prefix.2 (here ▸ List.prefix_append _ _)
      rw [if_pos kept, here, List.lookup_cons_self, List.lookup_cons_self]
    · have other : (place ++ rest == p) = false := beq_false_of_ne here
      rw [List.lookup_cons, other, ← ih]
      split
      · rw [List.lookup_cons, other]
      · rfl

theorem namesBelow_eq_filterMap (t : FileTree) (place rest : Place) :
    t.namesBelow (place ++ rest) = (t.entriesFrom place).filterMap fun (p, _) =>
      if p.dropLast = place ++ rest then p.getLast? else none := by
  rw [entriesFrom, List.filterMap_filter, namesBelow]
  refine List.filterMap_congr fun (p, _) _ => ?_
  by_cases here : p.dropLast = place ++ rest
  · have kept : place <+: p := (here ▸ List.prefix_append _ _).trans (List.dropLast_prefix p)
    rw [if_pos (List.isPrefixOf_iff_prefix.2 kept)]
  · simp [here]

theorem sameFrom_of_entriesFrom (h : t'.entriesFrom place = t.entriesFrom place) :
    SameFrom t t' place where
  lookup?_eq rest := by
    rw [lookup?, lookup?, ← lookup_entriesFrom t', ← lookup_entriesFrom t, h]
  namesBelow_eq rest := by
    rw [namesBelow_eq_filterMap, namesBelow_eq_filterMap, h]

def entryAt (t : FileTree) (place : Place) : Except IoFault (Place × Entry) :=
  match t.lookup? place with
  | none => .error .notFound
  | some entry => .ok (place, entry)

theorem led_of_find {entry : Entry} (h : t.find p = .ok (place, entry)) :
    p.names.foldlM t.enter (t.start p) = .ok place ∧ t.lookup? place = some entry := by
  obtain ⟨-, -, h⟩ := exists_of_bind_eq_ok h
  obtain ⟨reached, led, h⟩ := exists_of_bind_eq_ok h
  split at h
  · cases h
  · next there =>
    cases h
    exact ⟨led, there⟩
  · next there =>
    split at h
    · cases h
    · cases h
      exact ⟨led, there⟩

theorem exists_of_list (h : t.list p = .ok names) :
    ∃ place, t.find p = .ok (place, .directory) ∧ names = t.namesBelow place := by
  unfold list at h
  rcases found : t.find p with fault | ⟨place, directory | content⟩
  · rw [found] at h
    cases h
  · rw [found] at h
    exact ⟨place, rfl, (Except.ok.inj h).symm⟩
  · rw [found] at h
    cases h

section Descend

variable (led : root.names.foldlM t.enter (t.start root) = .ok place)
  (own : ∀ name ∈ names, Path.IsName name)
include led own

theorem foldlM_names_descend :
    (root.descend names).names.foldlM t.enter (t.start (root.descend names)) =
      names.foldlM t.enter place := by
  have start : t.start (root.descend names) = t.start root := by
    rw [start, start, Path.isAbsolute_descend own]
  rw [Path.names_descend own, start, List.foldlM_append, led]
  rfl

theorem eq_append_of_find_descend {entry : Entry}
    (h : t.find (root.descend names) = .ok (next, entry)) : next = place ++ names := by
  have whole := (led_of_find h).1
  rw [foldlM_names_descend led own] at whole
  exact eq_append_of_foldlM own whole

theorem find_descend (filled : names ≠ []) :
    t.find (root.descend names) = (do
      checkPath (root.descend names)
      t.entryAt (← names.foldlM t.enter place)) := by
  rw [find, foldlM_names_descend led own, Path.endsInSlash_descend own filled]
  refine bind_congr fun _ => bind_congr fun reached => ?_
  rw [entryAt]
  rcases t.lookup? reached with - | directory | content
  · rfl
  · rfl
  · rfl

end Descend

section Same

variable {name : String} (found : t.find root = .ok (place, .directory))
  (found' : t'.find root = .ok (place, .directory)) (same : SameFrom t t' (place ++ [name]))
include found found' same

theorem find_descend_eq (own : ∀ other ∈ name :: names, Path.IsName other) :
    t'.find (root.descend (name :: names)) = t.find (root.descend (name :: names)) := by
  obtain ⟨led, there⟩ := led_of_find found
  obtain ⟨led', there'⟩ := led_of_find found'
  obtain ⟨first, others⟩ := List.forall_mem_cons.1 own
  have step : t'.enter place name = t.enter place name := by rw [enter, enter, there, there']
  have follow : (name :: names).foldlM t'.enter place = (name :: names).foldlM t.enter place := by
    rw [List.foldlM_cons, List.foldlM_cons, step]
    cases entered : t.enter place name with
    | error fault => rfl
    | ok inner =>
      obtain rfl := eq_append_of_enter first entered
      exact foldlM_enter_congr same.lookup?_eq others
  rw [find_descend led' own (List.cons_ne_nil _ _), find_descend led own (List.cons_ne_nil _ _), follow]
  refine bind_congr fun _ => ?_
  cases followed : (name :: names).foldlM t.enter place with
  | error fault => rfl
  | ok reached =>
    have there : t'.lookup? reached = t.lookup? reached := by
      rw [eq_append_of_foldlM own followed, List.append_cons]
      exact same.lookup?_eq names
    change t'.entryAt reached = t.entryAt reached
    rw [entryAt, entryAt, there]

theorem sameAt_descend (own : ∀ other ∈ name :: names, Path.IsName other) :
    SameAt t t' (root.descend (name :: names)) := by
  have find_eq := find_descend_eq found found' same own
  refine ⟨by rw [readBytes, readBytes, find_eq], ?_⟩
  rw [list, list, find_eq]
  rcases h : t.find (root.descend (name :: names)) with fault | ⟨reached, directory | content⟩
  · rfl
  · rw [eq_append_of_find_descend (led_of_find found).1 own h, List.append_cons]
    exact congrArg Except.ok (same.namesBelow_eq names)
  · rfl

theorem sameAt_of_below (own : Path.IsName name)
    (listed : ∀ rest, ∀ other ∈ t.namesBelow (place ++ [name] ++ rest), Path.IsName other)
    (h : t.Below (root.child name) p) : SameAt t t' p := by
  have way : ∃ names, (∀ other ∈ name :: names, Path.IsName other) ∧
      p = root.descend (name :: names) := by
    induction h with
    | here => exact ⟨[], by simpa using own, rfl⟩
    | @name _ next _ ownNext ih =>
      obtain ⟨names, all, rfl⟩ := ih
      refine ⟨names ++ [next], ?_, (Path.descend_concat root (name :: names) next).symm⟩
      exact List.forall_mem_append.2 ⟨all, List.forall_mem_singleton.2 ownNext⟩
    | @listed _ inside next _ list mem ih =>
      obtain ⟨names, all, rfl⟩ := ih
      have ownNext : Path.IsName next := by
        obtain ⟨reached, there, rfl⟩ := exists_of_list list
        rw [eq_append_of_find_descend (led_of_find found).1 all there, List.append_cons] at mem
        exact listed names next mem
      refine ⟨names ++ [next], ?_, (Path.descend_concat root (name :: names) next).symm⟩
      exact List.forall_mem_append.2 ⟨all, List.forall_mem_singleton.2 ownNext⟩
  obtain ⟨names, all, rfl⟩ := way
  exact sameAt_descend found found' same all

end Same

end FileTree

end NodeStorage
