import NodeStorage.Proofs.Files.WriteBack
import NodeStorage.Proofs.Path.Components

/-! The places that making directories and writing files change. A name leads from a place to the one
below it of that name, and two dots to the one above, whatever else is in the tree; so the places of a
path follow from its components and from where it starts. -/

namespace NodeStorage

namespace FileTree

def follow (place : Place) (piece : List Char) : Place :=
  if Path.isUp piece then place.dropLast else place ++ [.ofList piece]

def walk (place : Place) (components : List (List Char)) : Place := components.foldl follow place

def startFrom (working : Place) (p : Path) : Place := if p.isAbsolute then [] else working

/-- The place is one that the path comes through, or that it ends in. -/
def OnWay (p : Path) (working place : Place) : Prop :=
  ∃ leading, leading <+: p.components ∧ place = walk (startFrom working p) leading

/-- The trees differ at these places only. -/
structure OnlyAt (changed : Place → Prop) (t t' : FileTree) : Prop where
  working_eq : t'.working = t.working
  lookup?_eq : ∀ place, ¬ changed place → t'.lookup? place = t.lookup? place

variable {t t' t'' : FileTree} {changed changed' : Place → Prop} {p q : Path} {place next : Place}

theorem OnlyAt.refl : OnlyAt changed t t := ⟨rfl, fun _ _ => rfl⟩

theorem OnlyAt.trans (h : OnlyAt changed t t') (h' : OnlyAt changed t' t'') : OnlyAt changed t t'' where
  working_eq := h'.working_eq.trans h.working_eq
  lookup?_eq place other := (h'.lookup?_eq place other).trans (h.lookup?_eq place other)

theorem OnlyAt.mono (h : OnlyAt changed t t') (imp : ∀ place, changed place → changed' place) :
    OnlyAt changed' t t' where
  working_eq := h.working_eq
  lookup?_eq place other := h.lookup?_eq place fun own => other (imp place own)

theorem onlyAt_put (place : Place) (entry : Entry) (h : changed place) :
    OnlyAt changed t (t.put place entry) where
  working_eq := rfl
  lookup?_eq other free := lookup?_put_ne t place other entry fun same => free (same ▸ h)

theorem OnWay.of_isOnWayTo {working : Place} (way : q.IsOnWayTo p) (h : OnWay q working place) :
    OnWay p working place := by
  obtain ⟨leading, first, rfl⟩ := h
  refine ⟨leading, first.trans way.1, ?_⟩
  rw [startFrom, startFrom, way.2]

theorem eq_of_enter {name : String} (h : t.enter place name = .ok next) :
    next = if name = "." then place else if name = ".." then place.dropLast else place ++ [name] := by
  have there := lookup?_of_enter h
  simp only [enter, there] at h
  split at h
  · next dot =>
    rw [if_pos dot]
    exact (Except.ok.inj h).symm
  · next other =>
    rw [if_neg other]
    split at h
    · next up =>
      rw [if_pos up]
      exact (Except.ok.inj h).symm
    · next down =>
      rw [if_neg down]
      split at h
      · cases h
      · exact (Except.ok.inj h).symm

theorem ofList_eq_iff {cs : List Char} {s : String} : String.ofList cs = s ↔ cs = s.toList :=
  ⟨fun same => same ▸ String.toList_ofList.symm, fun same => same ▸ String.ofList_toList⟩

theorem eq_walk_of_foldlM {pieces : List (List Char)}
    (h : ((pieces.filter (!·.isEmpty)).map String.ofList).foldlM t.enter place = .ok next) :
    next = walk place (pieces.filter (!Path.isStay ·)) := by
  induction pieces generalizing place with
  | nil =>
    cases h
    rfl
  | cons piece rest ih =>
    by_cases empty : piece = []
    · rw [empty] at h ⊢
      exact ih h
    · rw [List.filter_cons_of_pos (by simpa using empty), List.map_cons, List.foldlM_cons] at h
      obtain ⟨inner, entered, h⟩ := exists_of_bind_eq_ok h
      rw [ih h, eq_of_enter entered]
      by_cases dot : piece = ['.']
      · rw [if_pos (ofList_eq_iff.2 dot), List.filter_cons_of_neg (by simp [Path.isStay, dot])]
      · have named : Path.isStay piece = false := by simp [Path.isStay, empty, dot]
        rw [if_neg fun same => dot (ofList_eq_iff.1 same),
          List.filter_cons_of_pos (by rw [named]; rfl), walk, walk, List.foldl_cons, follow,
          Path.isUp]
        by_cases up : piece = ['.', '.']
        · rw [if_pos (ofList_eq_iff.2 up), if_pos (beq_iff_eq.2 up)]
        · rw [if_neg fun same => up (ofList_eq_iff.1 same), if_neg fun same => up (beq_iff_eq.1 same)]

theorem eq_walk_of_names (h : p.names.foldlM t.enter (t.start p) = .ok place) :
    place = walk (startFrom t.working p) p.components :=
  eq_walk_of_foldlM h

theorem onWay_of_names (h : p.names.foldlM t.enter (t.start p) = .ok place) :
    OnWay p t.working place :=
  ⟨p.components, List.prefix_rfl, eq_walk_of_names h⟩

theorem exists_walk_of_depthAfter? {base below : Place} {components : List (List Char)} {depth : Nat}
    (h : Path.depthAfter? below.length components = some depth) :
    ∃ reached, walk (base ++ below) components = base ++ reached ∧ reached.length = depth := by
  induction components generalizing below with
  | nil => exact ⟨below, rfl, Option.some.inj h⟩
  | cons piece rest ih =>
    rw [Path.depthAfter?] at h
    rw [walk, List.foldl_cons, follow]
    split at h
    · next up =>
      split at h
      · cases h
      · next filled =>
        -- The depth counts the names below the base, so the name that is left is one of them.
        have nonempty : below ≠ [] := fun empty => filled (by rw [empty]; rfl)
        rw [if_pos up, List.dropLast_append_of_ne_nil nonempty]
        exact ih (List.length_dropLast ▸ h)
    · next down =>
      rw [if_neg down, List.append_assoc]
      exact ih (by rw [List.length_append, List.length_singleton]; exact h)

theorem prefix_walk {base : Place} {components : List (List Char)}
    (stays : (Path.depthAfter? 0 components).isSome = true) : base <+: walk base components := by
  obtain ⟨depth, h⟩ := Option.isSome_iff_exists.1 stays
  have start : Path.depthAfter? ([] : Place).length components = some depth := h
  obtain ⟨reached, same, -⟩ : ∃ reached, walk (base ++ []) components = base ++ reached ∧ _ :=
    exists_walk_of_depthAfter? start
  rw [List.append_nil] at same
  rw [same]
  exact List.prefix_append base reached

def placeOf (working : Place) (p : Path) : Place := walk (startFrom working p) p.components

/-- The way to a path that stays below a root goes to the root and then stays below its place. -/
theorem OnWay.below_or_above {root : Path} {working : Place} (stays : p.StaysBelow)
    (h : OnWay (root.within p) working place) :
    placeOf working root <+: place ∨ OnWay root working place := by
  obtain ⟨leading, first, rfl⟩ := h
  have start : startFrom working (root.within p) = startFrom working root := by
    rw [startFrom, startFrom, Path.isAbsolute_within]
  rw [Path.components_within] at first
  rw [start]
  rcases List.prefix_or_prefix_of_prefix first (List.prefix_append _ _) with above | beyond
  · exact .inr ⟨leading, above, rfl⟩
  · obtain ⟨own, rfl⟩ := beyond
    have below : own <+: p.components := (List.prefix_append_right_inj _).1 first
    refine .inl ?_
    rw [walk, List.foldl_append]
    exact prefix_walk (Path.isSome_depthAfter?_of_leading below stays)

theorem onlyAt_write {content : List UInt8} (h : t.write p content = .ok t') :
    OnlyAt (OnWay p t.working) t t' := by
  obtain ⟨place, -, -, led, -, rfl⟩ := exists_of_write h
  exact onlyAt_put place _ (onWay_of_names led)

theorem onlyAt_makeDirectory (h : t.makeDirectory p = .ok t') : OnlyAt (OnWay p t.working) t t' := by
  obtain ⟨found, parent, h⟩ := exists_of_bind_eq_ok h
  cases found with
  | none => cases h
  | some place =>
    simp only at h
    split at h
    · cases h
    · cases h
      exact onlyAt_put place _ (onWay_of_names (foldlM_of_findParent parent))

section Directories

variable {working : Place} {paths missing : List Path}

def AllOnWay (changed : Place → Prop) (working : Place) (paths : List Path) : Prop :=
  ∀ p ∈ paths, ∀ place, OnWay p working place → changed place

theorem onlyAt_nearest {missing' : List Path} (h : t.nearest missing paths = .ok (missing', t'))
    (all : AllOnWay changed t.working paths) (known : AllOnWay changed t.working missing) :
    OnlyAt changed t t' ∧ AllOnWay changed t.working missing' := by
  induction paths generalizing missing with
  | nil =>
    cases h
    exact ⟨.refl, known⟩
  | cons p parents ih =>
    obtain ⟨own, others⟩ := List.forall_mem_cons.1 all
    rw [nearest] at h
    cases made : t.makeDirectory p with
    | ok tree =>
      rw [made] at h
      cases h
      exact ⟨(onlyAt_makeDirectory made).mono own, known⟩
    | error fault =>
      rw [made] at h
      simp only at h
      split at h
      · exact ih h others (List.forall_mem_cons.2 ⟨own, known⟩)
      · split at h
        · cases h
          exact ⟨.refl, known⟩
        · cases h

theorem onlyAt_makeMissing (all : AllOnWay changed t.working paths) :
    OnlyAt changed t (t.makeMissing paths).2 := by
  induction paths generalizing t with
  | nil => exact .refl
  | cons p rest ih =>
    obtain ⟨own, others⟩ := List.forall_mem_cons.1 all
    rw [makeMissing]
    cases made : t.makeDirectory p with
    | ok tree =>
      have first := (onlyAt_makeDirectory made).mono own
      exact first.trans (ih (first.working_eq ▸ others))
    | error fault =>
      simp only
      split
      · exact ih others
      · exact .refl

theorem onlyAt_makeDirectories (all : AllOnWay changed t.working p.ancestors) :
    OnlyAt changed t (t.makeDirectories p).2 := by
  unfold makeDirectories
  cases found : t.nearest [] p.ancestors with
  | error fault => exact .refl
  | ok result =>
    obtain ⟨missing, tree⟩ := result
    obtain ⟨first, later⟩ := onlyAt_nearest found all nofun
    exact first.trans (onlyAt_makeMissing (first.working_eq ▸ later))

theorem allOnWay_ancestors (p : Path) : AllOnWay (OnWay p working) working p.ancestors :=
  fun _ mem _ way => way.of_isOnWayTo (Path.isOnWayTo_of_mem_ancestors mem)

theorem allOnWay_ancestors_parent? {parent : Path} (upper : p.parent? = some parent) :
    AllOnWay (OnWay p working) working parent.ancestors :=
  fun _ mem _ way => way.of_isOnWayTo (Path.isOnWayTo_of_mem_ancestors_parent? upper mem)

end Directories

end FileTree

end NodeStorage
