import Mathlib.Data.List.DropRight
import NodeStorage.Path
import NodeStorage.Proofs.Text.Division

/-! The components of paths. Those of a path below a root are the ones of the root with its own behind
them; those of a parent are a first part of them. A path stays below where it starts if it never has
more components that lead up than names before them. -/

namespace NodeStorage

namespace Path

def componentsOf (cs : List Char) : List (List Char) := (cs.splitOn '/').filter (!isStay ·)

theorem components_eq (p : Path) : p.components = componentsOf p.chars := rfl

theorem components_ofChars (cs : List Char) : (ofChars cs).components = componentsOf cs := by
  rw [components_eq, chars_ofChars]

def isUp (piece : List Char) : Bool := piece == ['.', '.']

/-- How far below its start a path ends that goes on from `depth` names below it, unless it climbs above
the start on the way. -/
def depthAfter? : Nat → List (List Char) → Option Nat
  | depth, [] => some depth
  | depth, piece :: rest =>
    if isUp piece then if depth = 0 then none else depthAfter? (depth - 1) rest
    else depthAfter? (depth + 1) rest

/-- The path never climbs above where it starts. -/
def StaysBelow (p : Path) : Prop := (depthAfter? 0 p.components).isSome = true

instance (p : Path) : Decidable p.StaysBelow := inferInstanceAs (Decidable (_ = true))

/-- The path goes to the root and stays below it from there on. -/
def LiesIn (p root : Path) : Prop :=
  p.isAbsolute = root.isAbsolute ∧
    ∃ rest, p.components = root.components ++ rest ∧ (depthAfter? 0 rest).isSome = true

theorem componentsOf_append_slash (a b : List Char) :
    componentsOf (a ++ '/' :: b) = componentsOf a ++ componentsOf b := by
  rw [componentsOf, List.splitOn_append_cons_self, List.filter_append]
  rfl

theorem componentsOf_slash (cs : List Char) : componentsOf ('/' :: cs) = componentsOf cs :=
  componentsOf_append_slash [] cs

theorem filter_splitOn_joinChars {keep : List Char → Bool} (empty : keep [] = false)
    (root rest : List Char) : ((joinChars root rest).splitOn '/').filter keep =
      (root.splitOn '/').filter keep ++ (rest.splitOn '/').filter keep := by
  unfold joinChars
  split
  · next ends =>
    rcases List.eq_nil_or_concat root with rfl | ⟨front, last, rfl⟩
    · simp [empty]
    · -- The slash that ends the root is the one between: what stands behind it is empty.
      rw [List.concat_eq_append] at ends ⊢
      obtain rfl : last = '/' := by simpa using ends
      rw [List.append_assoc, List.singleton_append, List.splitOn_append_cons_self,
        List.splitOn_append_cons_self, List.filter_append, List.filter_append]
      simp [empty]
  · rw [List.splitOn_append_cons_self, List.filter_append]

theorem componentsOf_joinChars (root rest : List Char) :
    componentsOf (joinChars root rest) = componentsOf root ++ componentsOf rest :=
  filter_splitOn_joinChars rfl root rest

theorem componentsOf_ofPieces {pieces : List (List Char)} (h : ∀ piece ∈ pieces, '/' ∉ piece) :
    componentsOf (ofPieces pieces) = pieces.filter (!isStay ·) := by
  cases pieces with
  | nil => rfl
  | cons piece rest =>
    rw [componentsOf, ofPieces, List.splitOn_intercalate '/' h (List.cons_ne_nil _ _)]

theorem filter_dropWhile_isStay (pieces : List (List Char)) :
    (pieces.dropWhile isStay).filter (!isStay ·) = pieces.filter (!isStay ·) := by
  induction pieces with
  | nil => rfl
  | cons piece rest ih =>
    cases stay : isStay piece with
    | true => rw [List.dropWhile_cons_of_pos stay, ih, List.filter_cons_of_neg (by simp [stay])]
    | false => rw [List.dropWhile_cons_of_neg (by simp [stay])]

theorem filter_dropLastStays (pieces : List (List Char)) :
    (dropLastStays pieces).filter (!isStay ·) = pieces.filter (!isStay ·) := by
  rw [dropLastStays, List.filter_reverse, filter_dropWhile_isStay, List.filter_reverse,
    List.reverse_reverse]

theorem prefix_dropLastStays (pieces : List (List Char)) : dropLastStays pieces <+: pieces :=
  List.rdropWhile_prefix isStay pieces

theorem componentsOf_belowRoot (p : Path) : componentsOf p.belowRoot = p.components := by
  have pieces : ∀ piece ∈ dropLastStays (p.pieces.dropWhile isStay), '/' ∉ piece := by
    intro piece mem
    have inside := (List.dropWhile_sublist isStay).subset ((prefix_dropLastStays _).subset mem)
    exact Text.not_mem_of_mem_splitOn piece inside
  rw [belowRoot, componentsOf_ofPieces pieces, filter_dropLastStays, filter_dropWhile_isStay]
  rfl

theorem components_within (root p : Path) :
    (root.within p).components = root.components ++ p.components := by
  rw [within, components_ofChars, componentsOf_joinChars]
  split
  · rw [componentsOf_belowRoot, ← components_eq]
  · rfl

theorem ofPieces_cons (piece : List Char) (rest : List (List Char)) :
    ∃ more, ofPieces (piece :: rest) = piece ++ more := by
  cases rest with
  | nil => exact ⟨[], by simp [ofPieces]⟩
  | cons next rest =>
    rw [ofPieces, List.intercalate_cons_cons, List.append_assoc]
    exact ⟨_, rfl⟩

theorem head?_belowRoot (p : Path) : p.belowRoot.head? ≠ some '/' := by
  rw [belowRoot]
  cases kept : dropLastStays (p.pieces.dropWhile isStay) with
  | nil => exact nofun
  | cons piece rest =>
    obtain ⟨others, whole⟩ := prefix_dropLastStays (p.pieces.dropWhile isStay)
    rw [kept, List.cons_append] at whole
    have goes : isStay piece = false := by
      have first := List.head?_dropWhile_not isStay p.pieces
      rw [← whole] at first
      exact first
    have inside : piece ∈ p.pieces := by
      refine (List.dropWhile_sublist isStay).subset ?_
      rw [← whole]
      exact List.mem_cons_self
    have clean := Text.not_mem_of_mem_splitOn piece inside
    obtain ⟨more, text⟩ := ofPieces_cons piece rest
    rw [text]
    cases piece with
    | nil => cases goes
    | cons c cs => exact fun same => clean (Option.some.inj same ▸ List.mem_cons_self)

theorem isAbsolute_within (root p : Path) : (root.within p).isAbsolute = root.isAbsolute := by
  have relative : (if p.isAbsolute then p.belowRoot else p.chars).head? ≠ some '/' := by
    split
    · exact p.head?_belowRoot
    · next other => simpa [isAbsolute] using other
  rw [isAbsolute, isAbsolute, within, chars_ofChars, joinChars]
  cases chars : root.chars with
  | nil => simpa using relative
  | cons c cs => split <;> rfl

theorem liesIn_within_iff (root p : Path) : (root.within p).LiesIn root ↔ p.StaysBelow := by
  rw [LiesIn, isAbsolute_within, components_within]
  constructor
  · rintro ⟨-, rest, same, stays⟩
    have own : p.components = rest := List.append_cancel_left same
    rw [StaysBelow, own]
    exact stays
  · exact fun stays => ⟨rfl, p.components, rfl, stays⟩

theorem prefix_joinChars (root rest : List Char) : root <+: joinChars root rest := by
  unfold joinChars
  split
  · exact List.prefix_append root rest
  · exact List.prefix_append root ('/' :: rest)

def followedBy (p q : Path) : Path := ofChars (p.chars ++ '/' :: q.chars)

theorem components_followedBy (p q : Path) :
    (p.followedBy q).components = p.components ++ q.components := by
  rw [followedBy, components_ofChars, componentsOf_append_slash]
  rfl

/-- Joining keeps the root as it is written and puts the components of the path behind it, whether the
path is absolute or not; so two paths are joined one after the other as one path is. -/
theorem within_keeps_root (root p : Path) :
    root.chars <+: (root.within p).chars ∧
      (root.within p).components = root.components ++ p.components ∧
      (root.within p).isAbsolute = root.isAbsolute ∧
      ∀ q : Path, ((root.within p).within q).components = (root.within (p.followedBy q)).components ∧
        ((root.within p).within q).components = (root.within (p.within q)).components := by
  refine ⟨?_, components_within root p, isAbsolute_within root p, fun q => ⟨?_, ?_⟩⟩
  · rw [within, chars_ofChars]
    exact prefix_joinChars _ _
  · rw [components_within, components_within, components_within, components_followedBy,
      List.append_assoc]
  · rw [components_within, components_within, components_within, components_within, List.append_assoc]

def afterLead (p : Path) : List Char := p.chars.drop p.lead.length

theorem lead_cases (p : Path) :
    (p.lead = ['/'] ∧ p.chars = '/' :: p.afterLead) ∨
      (p.lead = ['.'] ∧ p.chars = '.' :: p.afterLead ∧
        (p.afterLead = [] ∨ ∃ rest, p.afterLead = '/' :: rest)) ∨
      (p.lead = [] ∧ p.chars = p.afterLead ∧ p.isAbsolute = false) := by
  unfold afterLead lead isAbsolute
  split
  · next rest h => exact .inl ⟨rfl, by simp [h]⟩
  · next h => exact .inr (.inl ⟨rfl, by simp [h], .inl (by simp [h])⟩)
  · next rest h => exact .inr (.inl ⟨rfl, by simp [h], .inr ⟨rest, by simp [h]⟩⟩)
  · next other _ _ =>
    refine .inr (.inr ⟨rfl, rfl, ?_⟩)
    cases chars : p.chars with
    | nil => rfl
    | cons c cs =>
      refine beq_false_of_ne fun same => other cs ?_
      rw [chars, Option.some.inj same]

theorem lead_append_afterLead (p : Path) : p.lead ++ p.afterLead = p.chars := by
  rcases p.lead_cases with ⟨lead, chars⟩ | ⟨lead, chars, -⟩ | ⟨lead, chars, -⟩
  · rw [lead, chars]
    rfl
  · rw [lead, chars]
    rfl
  · rw [lead, chars]
    rfl

theorem componentsOf_lead_append {p : Path} {cs : List Char} (h : cs <+: p.afterLead) :
    componentsOf (p.lead ++ cs) = componentsOf cs := by
  rcases p.lead_cases with ⟨lead, -⟩ | ⟨lead, -, empty | ⟨rest, slash⟩⟩ | ⟨lead, -⟩
  · rw [lead]
    exact componentsOf_slash cs
  · rw [empty, List.prefix_nil] at h
    rw [lead, h]
    rfl
  · rw [slash, List.prefix_cons_iff] at h
    rcases h with rfl | ⟨more, rfl, -⟩
    · rw [lead]
      rfl
    · rw [lead, componentsOf_slash]
      exact componentsOf_append_slash ['.'] more
  · rw [lead]
    rfl

theorem prefix_ofPieces {a b : List (List Char)} (h : a <+: b) : ofPieces a <+: ofPieces b := by
  obtain ⟨more, rfl⟩ := h
  induction a with
  | nil => exact List.nil_prefix
  | cons piece rest ih =>
    cases rest with
    | nil =>
      obtain ⟨later, text⟩ := ofPieces_cons piece more
      rw [List.singleton_append, text, ofPieces, List.intercalate_singleton]
      exact List.prefix_append _ _
    | cons next rest =>
      rw [List.cons_append, List.cons_append, ofPieces, ofPieces, List.intercalate_cons_cons,
        List.intercalate_cons_cons, List.prefix_append_right_inj]
      exact ih

theorem parent?_spec {p parent : Path} (h : p.parent? = some parent) :
    parent.components <+: p.components ∧ parent.chars <+: p.chars := by
  have behind : p.chars.drop p.lead.length = p.afterLead := rfl
  unfold parent? at h
  rw [behind] at h
  dsimp only at h
  split at h
  · split at h
    · cases h
      exact ⟨List.nil_prefix, List.nil_prefix⟩
    · cases h
  cases h
  have kept : dropLastStays (dropLastStays (p.afterLead.splitOn '/')).dropLast <+:
      p.afterLead.splitOn '/' :=
    (prefix_dropLastStays _).trans ((List.dropLast_prefix _).trans (prefix_dropLastStays _))
  have text : ofPieces (dropLastStays (dropLastStays (p.afterLead.splitOn '/')).dropLast) <+:
      p.afterLead := by
    have pieces := prefix_ofPieces kept
    rwa [ofPieces, ofPieces, List.intercalate_splitOn] at pieces
  constructor
  · have clean := fun piece mem => Text.not_mem_of_mem_splitOn piece (kept.subset mem)
    rw [components_ofChars, componentsOf_lead_append text, componentsOf_ofPieces clean,
      components_eq p, ← p.lead_append_afterLead, componentsOf_lead_append List.prefix_rfl]
    exact kept.filter _
  · rw [chars_ofChars, ← p.lead_append_afterLead]
    exact (List.prefix_append_right_inj _).2 text

theorem parent?_eq_none {p : Path} (h : p.chars = []) : p.parent? = none := by
  obtain ⟨text⟩ := p
  obtain rfl : text = "" := String.toList_eq_nil_iff.1 h
  rfl

theorem isAbsolute_of_leading {p q : Path} (h : q.chars <+: p.chars) (filled : q.chars ≠ []) :
    q.isAbsolute = p.isAbsolute := by
  obtain ⟨more, whole⟩ := h
  rw [isAbsolute, isAbsolute, ← whole, List.head?_append_of_ne_nil _ filled]

/-- The way of a path is a first part of the way of another. -/
def IsOnWayTo (q p : Path) : Prop := q.components <+: p.components ∧ q.isAbsolute = p.isAbsolute

theorem isOnWayTo_of_parent? {p parent q : Path} {n : Nat} (upper : p.parent? = some parent)
    (above : q ∈ ancestors.go n parent) (h : q.IsOnWayTo parent) : q.IsOnWayTo p := by
  obtain ⟨components, chars⟩ := parent?_spec upper
  refine ⟨h.1.trans components, h.2.trans (isAbsolute_of_leading chars fun empty => ?_)⟩
  cases n with
  | zero => cases above
  | succ n =>
    rw [ancestors.go, parent?_eq_none empty] at above
    cases above

theorem isOnWayTo_of_mem_go (n : Nat) (p : Path) : ∀ q ∈ ancestors.go n p, q.IsOnWayTo p := by
  induction n generalizing p with
  | zero => exact nofun
  | succ n ih =>
    intro q mem
    cases upper : p.parent? with
    | none =>
      rw [ancestors.go, upper] at mem
      cases mem
    | some parent =>
      rw [ancestors.go, upper] at mem
      rcases List.mem_cons.1 mem with rfl | above
      · exact ⟨List.prefix_rfl, rfl⟩
      · exact isOnWayTo_of_parent? upper above (ih parent q above)

theorem isOnWayTo_of_mem_ancestors {p q : Path} (h : q ∈ p.ancestors) : q.IsOnWayTo p :=
  isOnWayTo_of_mem_go _ p q h

theorem isOnWayTo_of_mem_ancestors_parent? {p parent q : Path} (upper : p.parent? = some parent)
    (h : q ∈ parent.ancestors) : q.IsOnWayTo p :=
  isOnWayTo_of_parent? upper h (isOnWayTo_of_mem_ancestors h)

theorem depthAfter?_append (depth : Nat) (a b : List (List Char)) :
    depthAfter? depth (a ++ b) = (depthAfter? depth a).bind fun depth => depthAfter? depth b := by
  induction a generalizing depth with
  | nil => rfl
  | cons piece rest ih =>
    rw [List.cons_append, depthAfter?, depthAfter?]
    split
    · split
      · rfl
      · exact ih (depth - 1)
    · exact ih (depth + 1)

theorem isSome_depthAfter?_of_leading {a b : List (List Char)} (h : a <+: b)
    (stays : (depthAfter? 0 b).isSome = true) : (depthAfter? 0 a).isSome = true := by
  obtain ⟨more, rfl⟩ := h
  rw [depthAfter?_append] at stays
  exact Option.isSome_of_isSome_bind stays

end Path

end NodeStorage
