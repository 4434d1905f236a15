import Mathlib.Data.List.Basic
import Mathlib.Data.List.DropRight
import Mathlib.Data.List.TakeWhile
import NodeStorage.Text.Search

/-! Blanks around text. They are lost when the text is trimmed, and what a line ends in is lost with
them. -/

namespace NodeStorage.Text

def IsPadding (cs : List Char) : Prop := ∀ c ∈ cs, isBlank c = true

def IsWord (s : String) : Prop := s.toList ≠ [] ∧ ∀ c ∈ s.toList, isBlank c = false

instance (cs : List Char) : Decidable (IsPadding cs) :=
  decidable_of_iff (cs.all isBlank = true) List.all_eq_true

instance (s : String) : Decidable (IsWord s) :=
  decidable_of_iff (s.toList ≠ [] ∧ s.toList.all (!isBlank ·) = true) (by simp [IsWord])

variable {cs padding : List Char}

theorem trimChars_padding_append (h : IsPadding padding) :
    trimChars (padding ++ cs) = trimChars cs := by
  rw [trimChars, trimChars, List.dropWhile_append_of_pos h]

theorem trimChars_append_padding (h : IsPadding padding) :
    trimChars (cs ++ padding) = trimChars cs := by
  have reversed : ∀ c ∈ padding.reverse, isBlank c = true := fun c mem => h c (List.mem_reverse.1 mem)
  rw [trimChars, trimChars, List.dropWhile_append]
  split
  · next empty =>
    rw [List.isEmpty_iff.1 empty, List.dropWhile_eq_nil_iff.2 h]
  · rw [List.reverse_append, List.dropWhile_append_of_pos reversed]

theorem trimChars_padding (h : IsPadding padding) : trimChars padding = [] := by
  rw [← List.append_nil padding, trimChars_padding_append h, trimChars_nil]

theorem dropWhile_isBlank_eq_self (h : ∀ c ∈ cs.head?, isBlank c = false) :
    cs.dropWhile isBlank = cs := by
  cases cs with
  | nil => rfl
  | cons c rest => rw [List.dropWhile_cons, h c rfl, if_neg Bool.false_ne_true]

theorem trimChars_eq_self (first : ∀ c ∈ cs.head?, isBlank c = false)
    (last : ∀ c ∈ cs.getLast?, isBlank c = false) : trimChars cs = cs := by
  have backwards : ∀ c ∈ cs.reverse.head?, isBlank c = false := by
    rw [List.head?_reverse]
    exact last
  rw [trimChars, dropWhile_isBlank_eq_self first, dropWhile_isBlank_eq_self backwards,
    List.reverse_reverse]

theorem trimChars_subset (cs : List Char) : trimChars cs ⊆ cs := by
  intro c mem
  rw [trimChars, List.mem_reverse] at mem
  have inner := (List.dropWhile_sublist isBlank).subset mem
  exact (List.dropWhile_sublist isBlank).subset (List.mem_reverse.1 inner)

theorem isBlank_of_head?_trimChars {c : Char} (h : c ∈ (trimChars cs).head?) : isBlank c = false := by
  -- Trimming the end keeps the beginning, unless nothing is left.
  have leading : trimChars cs <+: cs.dropWhile isBlank := List.rdropWhile_prefix isBlank _
  obtain ⟨rest, text⟩ := List.head?_eq_some_iff.1 h
  obtain ⟨more, whole⟩ := leading
  have stop := List.head?_dropWhile_not isBlank cs
  rw [← whole, text] at stop
  exact stop

theorem isBlank_of_getLast?_trimChars {c : Char} (h : c ∈ (trimChars cs).getLast?) :
    isBlank c = false := by
  rw [trimChars, List.getLast?_reverse] at h
  have stop := List.head?_dropWhile_not isBlank (cs.dropWhile isBlank).reverse
  rw [h] at stop
  exact stop

theorem trimChars_trimChars (cs : List Char) : trimChars (trimChars cs) = trimChars cs :=
  trimChars_eq_self (fun _ => isBlank_of_head?_trimChars) fun _ => isBlank_of_getLast?_trimChars

theorem exists_padding_trimChars (cs : List Char) :
    ∃ front back, IsPadding front ∧ IsPadding back ∧ cs = front ++ trimChars cs ++ back := by
  refine ⟨cs.takeWhile isBlank, ((cs.dropWhile isBlank).reverse.takeWhile isBlank).reverse,
    fun c mem => List.mem_takeWhile_imp mem,
    fun c mem => List.mem_takeWhile_imp (List.mem_reverse.1 mem), ?_⟩
  rw [List.append_assoc, trimChars, ← List.reverse_append, List.takeWhile_append_dropWhile,
    List.reverse_reverse, List.takeWhile_append_dropWhile]

theorem IsWord.not_mem {s : String} {c : Char} (h : IsWord s) (blank : isBlank c = true) :
    c ∉ s.toList := by
  intro mem
  cases (h.2 c mem).symm.trans blank

theorem IsWord.trimChars_eq {s : String} (h : IsWord s) : trimChars s.toList = s.toList :=
  trimChars_eq_self (fun c mem => h.2 c (List.mem_of_mem_head? mem))
    fun c mem => h.2 c (List.mem_of_mem_getLast? mem)

theorem trimChars_withoutReturn (piece : List Char) :
    trimChars (withoutReturn piece) = trimChars piece := by
  unfold withoutReturn
  split
  · next ended =>
    have blank : IsPadding ['\r'] := by decide
    rw [← trimChars_append_padding blank, List.dropLast_append_getLast? _ ended]
  · rfl

theorem filterMap_lines {α : Type} {f : String → Option α} (empty : f "" = none)
    (ending : ∀ piece, f (.ofList (withoutReturn piece)) = f (.ofList piece)) (s : String) :
    (lines s).filterMap f = (s.toList.splitOn '\n').filterMap fun piece => f (.ofList piece) := by
  rw [lines, List.filterMap_map, lineChars]
  generalize parts : s.toList.splitOn '\n' = pieces
  have nonempty : pieces ≠ [] := parts ▸ List.splitOn_ne_nil '\n' _
  obtain ⟨front, last, rfl⟩ := List.eq_nil_or_concat pieces |>.resolve_left nonempty
  have front_eq : (front.map withoutReturn).filterMap (f ∘ String.ofList) =
      front.filterMap fun piece => f (.ofList piece) := by
    rw [List.filterMap_map]
    exact List.filterMap_congr fun piece _ => ending piece
  rw [List.concat_eq_append, List.dropLast_concat, List.getLast?_concat, List.filterMap_append]
  cases last with
  | nil =>
    have nothing : [[]].filterMap (fun piece => f (.ofList piece)) = [] :=
      List.filterMap_cons_none empty
    rw [front_eq, nothing, List.append_nil]
  | cons c rest =>
    rw [List.filterMap_append, front_eq]
    rfl

section Around

variable {α : Type} {f : List Char → Option α} (empty : f [] = none)
  (trims : ∀ cs, f (trimChars cs) = f cs)

include trims

theorem apply_padding_append (h : IsPadding padding) : f (padding ++ cs) = f cs := by
  rw [← trims, trimChars_padding_append h, trims]

theorem apply_append_padding (h : IsPadding padding) : f (cs ++ padding) = f cs := by
  rw [← trims, trimChars_append_padding h, trims]

include empty

theorem filterMap_splitOn_padding_append (h : IsPadding padding) :
    ((padding ++ cs).splitOn '\n').filterMap f = (cs.splitOn '\n').filterMap f := by
  induction padding with
  | nil => rfl
  | cons c rest ih =>
    obtain ⟨blank, others⟩ := List.forall_mem_cons.1 h
    rw [List.cons_append, List.splitOn_cons_eq_if_modifyHead, ← ih others]
    split
    · exact List.filterMap_cons_none empty
    · obtain ⟨piece, pieces, parts⟩ := List.exists_cons_of_ne_nil (List.splitOn_ne_nil '\n' (rest ++ cs))
      have same : f (c :: piece) = f piece :=
        apply_padding_append trims (List.forall_mem_singleton.2 blank)
      rw [parts, List.modifyHead_cons, List.filterMap_cons, List.filterMap_cons, same]

omit empty trims in
theorem filterMap_splitOn_append_cons {body : List Char} (whole : '\n' ∉ body) (rest : List Char) :
    ((body ++ '\n' :: rest).splitOn '\n').filterMap f =
      (f body).toList ++ (rest.splitOn '\n').filterMap f := by
  rw [List.splitOn_append_cons_self_of_not_mem whole, List.filterMap_cons]
  cases f body <;> rfl

theorem filterMap_splitOn_line {body : List Char} (whole : '\n' ∉ body) (h : IsPadding padding)
    (rest : List Char) : ((body ++ padding ++ '\n' :: rest).splitOn '\n').filterMap f =
      (f body).toList ++ (rest.splitOn '\n').filterMap f := by
  by_cases fed : '\n' ∈ padding
  · obtain ⟨front, back, rfl, unfed⟩ := List.eq_append_cons_of_mem fed
    obtain ⟨front_padding, later⟩ := List.forall_mem_append.1 h
    obtain ⟨-, back_padding⟩ := List.forall_mem_cons.1 later
    have line : '\n' ∉ body ++ front := mt List.mem_append.1 (not_or.2 ⟨whole, unfed⟩)
    have ended : IsPadding (back ++ ['\n']) :=
      List.forall_mem_append.2 ⟨back_padding, List.forall_mem_singleton.2 rfl⟩
    have shape : body ++ (front ++ '\n' :: back) ++ '\n' :: rest =
        body ++ front ++ '\n' :: (back ++ ['\n'] ++ rest) := by simp
    rw [shape, filterMap_splitOn_append_cons line, apply_append_padding trims front_padding,
      filterMap_splitOn_padding_append empty trims ended]
  · have line : '\n' ∉ body ++ padding := mt List.mem_append.1 (not_or.2 ⟨whole, fed⟩)
    rw [filterMap_splitOn_append_cons line, apply_append_padding trims h]

end Around

end NodeStorage.Text
