import Mathlib.Data.List.Basic
import NodeStorage.Proofs.Text.Blank
import NodeStorage.Text.Search

/-! Where text is divided: into pieces at single characters, and in two at the first place where a piece
stands. -/

namespace NodeStorage.Text

def pieces (divides : Char → Bool) (s : String) : List String :=
  ((s.toList.splitOnP divides).filter (!·.isEmpty)).map .ofList

theorem words_eq_pieces : words = pieces isBlank := rfl

section Pieces

variable {divides : Char → Bool}

theorem pieces_append_cons {c : Char} (chosen : divides c = true) (a b : List Char) :
    pieces divides (.ofList (a ++ c :: b)) = pieces divides (.ofList a) ++ pieces divides (.ofList b) := by
  simp only [pieces, String.toList_ofList]
  rw [List.splitOnP_append_cons a b chosen, List.filter_append, List.map_append]

theorem pieces_nil : pieces divides (.ofList []) = [] := by
  rw [pieces, String.toList_ofList, List.splitOnP_nil]
  rfl

theorem pieces_solid {cs : List Char} (filled : cs ≠ []) (solid : ∀ c ∈ cs, divides c = false) :
    pieces divides (.ofList cs) = [.ofList cs] := by
  rw [pieces, String.toList_ofList, List.splitOnP_eq_singleton solid]
  simp [filled]

theorem head?_pieces {cs : List Char} (filled : cs.takeWhile (fun c => !divides c) ≠ []) :
    (pieces divides (.ofList cs)).head? = some (.ofList (cs.takeWhile fun c => !divides c)) := by
  have first : pieces divides (.ofList (cs.takeWhile fun c => !divides c)) =
      [.ofList (cs.takeWhile fun c => !divides c)] :=
    pieces_solid filled fun c mem => by simpa using List.mem_takeWhile_imp mem
  have whole := List.takeWhile_append_dropWhile (p := fun c => !divides c) (l := cs)
  cases tail : cs.dropWhile fun c => !divides c with
  | nil =>
    rw [tail, List.append_nil] at whole
    rw [whole] at first ⊢
    rw [first, List.head?_cons]
  | cons c later =>
    have chosen : divides c = true := by
      have stop := List.head_dropWhile_not (fun c => !divides c)
        (tail ▸ List.cons_ne_nil c later : cs.dropWhile (fun c => !divides c) ≠ [])
      simpa [tail] using stop
    nth_rewrite 1 [← whole]
    rw [tail, pieces_append_cons chosen, first, List.singleton_append, List.head?_cons]

end Pieces

theorem mem_of_mem_intercalate {α : Type} {between : List α} {pieces : List (List α)} {a : α}
    (h : a ∈ between.intercalate pieces) : a ∈ between ∨ ∃ piece ∈ pieces, a ∈ piece := by
  induction pieces with
  | nil => cases h
  | cons piece rest ih =>
    cases rest with
    | nil =>
      rw [List.intercalate_singleton] at h
      exact .inr ⟨piece, List.mem_singleton_self _, h⟩
    | cons next later =>
      rw [List.intercalate_cons_cons, List.mem_append, List.mem_append] at h
      rcases h with (own | separator) | others
      · exact .inr ⟨piece, List.mem_cons_self, own⟩
      · exact .inl separator
      · exact (ih others).imp_right fun ⟨p, mem, inside⟩ => ⟨p, List.mem_cons_of_mem _ mem, inside⟩

section Joining

variable {c : Char}

theorem not_mem_of_mem_splitOn {cs : List Char} : ∀ piece ∈ cs.splitOn c, c ∉ piece := by
  induction cs with
  | nil => simp
  | cons d rest ih =>
    obtain ⟨piece, pieces, parts⟩ := List.exists_cons_of_ne_nil (List.splitOn_ne_nil c rest)
    rw [parts] at ih
    rw [List.splitOn_cons_eq_if_modifyHead, parts]
    by_cases same : d = c
    · rw [if_pos (beq_iff_eq.2 same)]
      exact List.forall_mem_cons.2 ⟨List.not_mem_nil, ih⟩
    · rw [if_neg (by simpa using same)]
      obtain ⟨own, others⟩ := List.forall_mem_cons.1 ih
      refine List.forall_mem_cons.2 ⟨?_, others⟩
      exact fun mem => (List.mem_cons.1 mem).elim (fun equal => same equal.symm) own

theorem splitOn_eq_pair_iff {cs a b : List Char} :
    cs.splitOn c = [a, b] ↔ cs = a ++ c :: b ∧ c ∉ a ∧ c ∉ b := by
  constructor
  · intro parts
    have clean : ∀ piece ∈ cs.splitOn c, c ∉ piece := not_mem_of_mem_splitOn
    have joined : [c].intercalate (cs.splitOn c) = cs := List.intercalate_splitOn c
    rw [parts] at clean joined
    rw [List.intercalate_cons_cons, List.intercalate_singleton, List.append_assoc] at joined
    exact ⟨joined.symm, clean a (by simp), clean b (by simp)⟩
  · rintro ⟨rfl, first, second⟩
    rw [List.splitOn_append_cons_self_of_not_mem first, List.splitOn_eq_singleton second]

theorem intercalate_append {α : Type} {between : List α} {a b : List (List α)} (first : a ≠ [])
    (second : b ≠ []) :
    between.intercalate (a ++ b) = between.intercalate a ++ between ++ between.intercalate b := by
  induction a with
  | nil => exact absurd rfl first
  | cons piece rest ih =>
    obtain ⟨next, later, rfl⟩ := List.exists_cons_of_ne_nil second
    cases rest with
    | nil => rw [List.singleton_append, List.intercalate_cons_cons, List.intercalate_singleton]
    | cons other rest =>
      rw [List.cons_append, List.cons_append, List.intercalate_cons_cons, List.intercalate_cons_cons,
        ← List.cons_append, ih (List.cons_ne_nil _ _)]
      simp only [List.append_assoc]

theorem splitOn_intercalate_eq_flatMap {pieces : List (List Char)} (filled : pieces ≠ []) :
    ([c].intercalate pieces).splitOn c = pieces.flatMap (·.splitOn c) := by
  induction pieces with
  | nil => exact absurd rfl filled
  | cons piece rest ih =>
    cases rest with
    | nil => simp
    | cons next rest =>
      rw [List.intercalate_cons_cons, List.append_assoc, List.singleton_append,
        List.splitOn_append_cons_self, ih (List.cons_ne_nil _ _)]
      exact List.flatMap_cons.symm

end Joining

section Piece

variable {piece : List Char} (filled : piece ≠ [])

include filled

theorem divideChars_nil : divideChars piece [] = none := by
  rw [divideChars, if_neg (by simpa using filled)]

theorem divideChars_piece_append (after : List Char) :
    divideChars piece (piece ++ after) = some ([], after) := by
  obtain ⟨c, rest, rfl⟩ := List.exists_cons_of_ne_nil filled
  rw [List.cons_append, divideChars, if_pos]
  · rw [← List.cons_append, List.drop_left]
  · exact List.isPrefixOf_iff_prefix.2 (List.prefix_append (c :: rest) after)

end Piece

theorem divideChars_cons_of_not_led {piece cs : List Char} {c : Char} (h : ¬ piece <+: c :: cs) :
    divideChars piece (c :: cs) =
      (divideChars piece cs).map fun (before, after) => (c :: before, after) := by
  rw [divideChars, if_neg]
  exact fun led => h (List.isPrefixOf_iff_prefix.1 led)

theorem divideChars_eq_none_iff {piece : List Char} (filled : piece ≠ []) (cs : List Char) :
    divideChars piece cs = none ↔ ¬ piece <:+: cs := by
  induction cs with
  | nil => simp [divideChars_nil filled, filled]
  | cons c rest ih =>
    by_cases led : piece <+: c :: rest
    · obtain ⟨after, same⟩ := led
      rw [← same, divideChars_piece_append filled]
      exact iff_of_false nofun fun h => h (List.prefix_append _ _).isInfix
    · rw [divideChars_cons_of_not_led led, Option.map_eq_none_iff, ih, List.infix_cons_iff, not_or,
        and_iff_right led]

theorem divideChars_append_of_not_mem {c : Char} {piece before : List Char} (absent : c ∉ before)
    (rest : List Char) : divideChars (c :: piece) (before ++ rest) =
      (divideChars (c :: piece) rest).map fun (front, after) => (before ++ front, after) := by
  induction before with
  | nil => exact Option.map_id'.symm
  | cons d later ih =>
    obtain ⟨other, others⟩ := not_or.1 (mt List.mem_cons.2 absent)
    rw [List.cons_append, divideChars_cons_of_not_led, ih others, Option.map_map]
    · rfl
    · exact fun led => other (List.cons_prefix_cons.1 led).1

theorem divideChars_append_piece {c : Char} {piece before : List Char} (absent : c ∉ before)
    (after : List Char) :
    divideChars (c :: piece) (before ++ (c :: piece ++ after)) = some (before, after) := by
  rw [divideChars_append_of_not_mem absent, divideChars_piece_append (List.cons_ne_nil c piece)]
  simp

theorem divide_append (name value : String) (h : '=' ∉ name.toList) :
    divide "=" (name ++ "=" ++ value) = some (name, value) := by
  have sign : "=".toList = ['='] := rfl
  rw [divide, String.toList_append, String.toList_append, List.append_assoc, sign,
    divideChars_append_piece h]
  simp

theorem divideChars_concat {piece : List Char} {c : Char} (filled : piece ≠ []) (absent : c ∉ piece)
    (cs : List Char) : divideChars piece (cs ++ [c]) =
      (divideChars piece cs).map fun (before, after) => (before, after ++ [c]) := by
  have led_iff : ∀ l : List Char, piece <+: l ++ [c] ↔ piece <+: l := by
    intro l
    rw [List.prefix_concat_iff, or_iff_right]
    rintro rfl
    exact absent (List.mem_append_right l (List.mem_singleton_self c))
  induction cs with
  | nil =>
    have other : ¬ piece <+: [c] := fun h => filled (List.prefix_nil.1 ((led_iff []).1 h))
    rw [List.nil_append, divideChars_cons_of_not_led other, divideChars_nil filled]
    rfl
  | cons d rest ih =>
    by_cases led : piece <+: d :: rest
    · obtain ⟨after, same⟩ := led
      rw [← same, List.append_assoc, divideChars_piece_append filled, divideChars_piece_append filled]
      rfl
    · have later : ¬ piece <+: d :: (rest ++ [c]) := mt (led_iff (d :: rest)).1 led
      rw [divideChars_cons_of_not_led led, List.cons_append, divideChars_cons_of_not_led later,
        ih, Option.map_map, Option.map_map]
      rfl

end NodeStorage.Text
