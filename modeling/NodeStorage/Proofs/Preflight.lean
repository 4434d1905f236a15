import Mathlib.Data.List.Destutter
import Mathlib.Data.List.Nodup
import NodeStorage.Provision

/-! The list of the tools that are not there. Of the absent binaries, in order of request, it leaves out
those that stand right behind themselves: it is the largest part of the requests without equal
neighbours. So it names all absent binaries, and for the first time in the order of the first requests,
but one that is requested again behind another absent one is named again. -/

namespace NodeStorage

/-- The list has each of the requested names once, in order of first request, and nothing else. -/
structure ListsEachOnce (requested listed : List String) : Prop where
  members : ∀ name, name ∈ listed ↔ name ∈ requested
  once : listed.Nodup
  ordered : listed.Pairwise fun a b => requested.idxOf a < requested.idxOf b

/-- The requested binaries that are not there, each as often as it is requested. -/
def absentBinaries (isPresent : String → Bool) (tools : List Tool) : List String :=
  (tools.map Tool.binary).filter (!isPresent ·)

/-- The list has all absent binaries. Their first places are in order of request, and of the requests it
is the largest part without equal neighbours; so each stands there once just if none is requested again
behind another one, as when all tools are different. -/
structure ListsAbsent (isPresent : String → Bool) (tools : List Tool) (missing : List String) : Prop where
  members : ∀ name, name ∈ missing ↔ ∃ tool ∈ tools, tool.binary = name ∧ isPresent name = false
  ordered : ∀ a b, missing.idxOf a < missing.idxOf b ↔
    (absentBinaries isPresent tools).idxOf a < (absentBinaries isPresent tools).idxOf b
  chain : missing.IsChain (· ≠ ·)
  sublist_iff : ∀ part : List String, part.IsChain (· ≠ ·) →
    (part.Sublist missing ↔ part.Sublist (absentBinaries isPresent tools))
  each_once_iff : ListsEachOnce (absentBinaries isPresent tools) missing ↔
    ∀ a b, [a, b, a].Sublist (absentBinaries isPresent tools) → a = b
  each_once_of_nodup : tools.Nodup → ListsEachOnce (absentBinaries isPresent tools) missing

section Repeats

variable {α : Type} {part items : List α} {a : α}

theorem sublist_of_repeated (chain : part.IsChain (· ≠ ·)) (found : part.Sublist (a :: a :: items)) :
    part.Sublist (a :: items) := by
  cases found with
  | cons _ found => exact found
  | cons_cons _ found =>
    refine List.Sublist.cons_cons a ?_
    cases found with
    | cons _ found => exact found
    | cons_cons _ found => exact absurd rfl (List.isChain_cons_cons.1 chain).1

theorem exists_between (chain : items.IsChain (· ≠ ·)) (twice : [a, a].Sublist items) :
    ∃ b, b ≠ a ∧ [a, b, a].Sublist items := by
  induction items with
  | nil => cases twice
  | cons c rest ih =>
    cases twice with
    | cons _ twice =>
      obtain ⟨b, other, between⟩ := ih chain.tail twice
      exact ⟨b, other, between.cons c⟩
    | cons_cons _ later =>
      cases rest with
      | nil => cases later
      | cons b rest =>
        have other : b ≠ a := (List.isChain_cons_cons.1 chain).1.symm
        have again : a ∈ rest := by simpa [other.symm] using List.singleton_sublist.1 later
        exact ⟨b, other, ((List.singleton_sublist.2 again).cons_cons b).cons_cons a⟩

variable [DecidableEq α]

theorem withoutRepeats_eq_destutter (items : List α) :
    withoutRepeats items = items.destutter (· ≠ ·) := by
  fun_induction withoutRepeats items with
  | case1 => rfl
  | case2 a => rfl
  | case3 b rest ih =>
    have same : ¬ b ≠ b := fun differs => differs rfl
    rw [ih, List.destutter_cons', List.destutter_cons', List.destutter'_cons_neg _ same]
  | case4 a b rest differs ih =>
    rw [ih, List.destutter_cons', List.destutter_cons', List.destutter'_cons_pos _ differs]

theorem isChain_withoutRepeats (items : List α) : (withoutRepeats items).IsChain (· ≠ ·) := by
  rw [withoutRepeats_eq_destutter]
  exact List.isChain_destutter _ items

theorem withoutRepeats_sublist (items : List α) : (withoutRepeats items).Sublist items := by
  rw [withoutRepeats_eq_destutter]
  exact List.destutter_sublist _ items

theorem sublist_withoutRepeats_iff (chain : part.IsChain (· ≠ ·)) :
    part.Sublist (withoutRepeats items) ↔ part.Sublist items := by
  refine ⟨fun kept => kept.trans (withoutRepeats_sublist items), fun found => ?_⟩
  fun_induction withoutRepeats items generalizing part with
  | case1 => exact found
  | case2 a => exact found
  | case3 b rest ih => exact ih chain (sublist_of_repeated chain found)
  | case4 a b rest differs ih =>
    cases found with
    | cons _ found => exact (ih chain found).cons a
    | cons_cons _ found => exact (ih chain.tail found).cons_cons a

theorem mem_withoutRepeats : a ∈ withoutRepeats items ↔ a ∈ items := by
  rw [← List.singleton_sublist, ← List.singleton_sublist]
  exact sublist_withoutRepeats_iff (List.isChain_singleton a)

theorem idxOf_withoutRepeats_lt_iff (a b : α) :
    (withoutRepeats items).idxOf a < (withoutRepeats items).idxOf b ↔
      items.idxOf a < items.idxOf b := by
  fun_induction withoutRepeats items with
  | case1 => rfl
  | case2 c => rfl
  | case3 c rest ih => grind
  | case4 c d rest differs ih => grind

theorem nodup_withoutRepeats_iff :
    (withoutRepeats items).Nodup ↔ ∀ a b, [a, b, a].Sublist items → a = b := by
  rw [List.nodup_iff_sublist]
  constructor
  · intro once a b returns
    by_contra differ
    have chain : [a, b, a].IsChain (· ≠ ·) := by simp [differ, Ne.symm differ]
    have kept := (sublist_withoutRepeats_iff chain).2 returns
    exact once a (((List.sublist_cons_self b [a]).cons_cons a).trans kept)
  · intro never a twice
    obtain ⟨b, other, between⟩ := exists_between (isChain_withoutRepeats items) twice
    exact other (never a b (between.trans (withoutRepeats_sublist items))).symm

end Repeats

theorem listsEachOnce_withoutRepeats {requested : List String}
    (once : (withoutRepeats requested).Nodup) :
    ListsEachOnce requested (withoutRepeats requested) where
  members _ := mem_withoutRepeats
  once := once
  ordered := by
    refine List.pairwise_iff_getElem.2 fun i j hi hj before => ?_
    rw [← idxOf_withoutRepeats_lt_iff, once.idxOf_getElem, once.idxOf_getElem]
    exact before

section Tools

variable {isPresent : String → Bool} {tools : List Tool}

theorem Tool.binary_injective : Function.Injective Tool.binary := fun a b same =>
  Option.some.inj (by rw [← ofBinary?_binary a, ← ofBinary?_binary b, same])

theorem mem_absentBinaries {name : String} : name ∈ absentBinaries isPresent tools ↔
    ∃ tool ∈ tools, tool.binary = name ∧ isPresent name = false := by
  simp only [absentBinaries, List.mem_filter, List.mem_map, Bool.not_eq_true', ← and_assoc,
    exists_and_right]

theorem nodup_absentBinaries (once : tools.Nodup) : (absentBinaries isPresent tools).Nodup :=
  (once.map Tool.binary_injective).filter _

theorem listsAbsent_missingTools : ListsAbsent isPresent tools (missingTools isPresent tools) where
  members _ := mem_withoutRepeats.trans mem_absentBinaries
  ordered := idxOf_withoutRepeats_lt_iff
  chain := isChain_withoutRepeats _
  sublist_iff _ := sublist_withoutRepeats_iff
  each_once_iff := by
    rw [← nodup_withoutRepeats_iff]
    exact ⟨fun listed => listed.once, listsEachOnce_withoutRepeats⟩
  each_once_of_nodup once :=
    listsEachOnce_withoutRepeats ((nodup_absentBinaries once).sublist (withoutRepeats_sublist _))

theorem checkTools_apply (m : Machine) (w : World) : checkTools isPresent tools m w =
    if missingTools isPresent tools = [] then
      (.ok (), { w with notices := w.notices ++
        [.info ("all " ++ Text.decimal tools.length ++ " required tools found")] })
    else (.error (.missingTools (missingTools isPresent tools)), w) := by
  rw [checkTools]
  simp only [List.isEmpty_iff]
  split
  · rfl
  · rfl

end Tools

/-- The list behind the check of the tools has all absent binaries, each once just if none is requested
again behind another absent one. The check succeeds just if the list is empty, and tells it otherwise. -/
theorem absent_tools_listed (isPresent : String → Bool) (tools : List Tool) :
    ListsAbsent isPresent tools (missingTools isPresent tools) ∧
      ∀ m w, ((checkTools isPresent tools m w).1 = .ok () ↔ missingTools isPresent tools = []) ∧
        (missingTools isPresent tools ≠ [] → checkTools isPresent tools m w =
          (.error (.missingTools (missingTools isPresent tools)), w)) := by
  refine ⟨listsAbsent_missingTools, fun m w => ?_⟩
  rw [checkTools_apply]
  by_cases complete : missingTools isPresent tools = []
  · simp [complete]
  · simp [complete]

def lacksThree (name : String) : Bool := name ∉ ["nvme", "sgdisk", "mdadm"]

theorem absent_tools_listed_lacksThree : Tool.all.Nodup ∧
    missingTools lacksThree Tool.all = ["sgdisk", "mdadm", "nvme"] ∧
    ListsEachOnce (absentBinaries lacksThree Tool.all) ["sgdisk", "mdadm", "nvme"] := by
  have once : Tool.all.Nodup := by decide
  have missing : missingTools lacksThree Tool.all = ["sgdisk", "mdadm", "nvme"] := by decide
  exact ⟨once, missing, missing ▸ (absent_tools_listed lacksThree Tool.all).1.each_once_of_nodup once⟩

/-- A tool that is requested again behind another one is told twice. -/
theorem tool_listed_twice :
    missingTools (fun _ => false) [.sgdisk, .mdadm, .sgdisk] = ["sgdisk", "mdadm", "sgdisk"] ∧
      ¬ ListsEachOnce (absentBinaries (fun _ => false) [.sgdisk, .mdadm, .sgdisk])
        (missingTools (fun _ => false) [.sgdisk, .mdadm, .sgdisk]) :=
  ⟨by decide, fun listed => absurd listed.once (by decide)⟩

end NodeStorage
