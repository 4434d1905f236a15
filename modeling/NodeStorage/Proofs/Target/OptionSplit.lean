import Mathlib.Data.Nat.Bitwise
import NodeStorage.Proofs.Text.Division
import NodeStorage.Target.Mounts
import NodeStorage.Target.TableFile

/-! Splitting mount options into flags and data. Commas between options and blanks around them make no
difference, so that the text in the mount table splits as the options that it was written from; what is
handed to a filesystem as data holds no flag and splits into itself. -/

namespace NodeStorage

open Text

namespace MountOptions

variable {options : List String}

theorem single_joined (filled : options ≠ []) : single [joined "," options] = single options := by
  have pieces : options.map String.toList ≠ [] := fun empty => filled (List.map_eq_nil_iff.1 empty)
  have divided : (joined "," options).toList.splitOn ',' =
      options.flatMap fun option => option.toList.splitOn ',' := by
    rw [toList_joined]
    exact (splitOn_intercalate_eq_flatMap pieces).trans (List.flatMap_map ..)
  simp only [single, List.flatMap_cons, List.flatMap_nil, List.append_nil, divided, List.map_flatMap]

def IsSingle (option : String) : Prop := ',' ∉ option.toList ∧ trimChars option.toList = option.toList

theorem isSingle_of_mem_single {option : String} (h : option ∈ single options) : IsSingle option := by
  obtain ⟨item, -, mem⟩ := List.mem_flatMap.1 h
  obtain ⟨piece, part, rfl⟩ := List.mem_map.1 mem
  rw [IsSingle, String.toList_ofList]
  refine ⟨fun comma => ?_, trimChars_trimChars piece⟩
  exact not_mem_of_mem_splitOn piece part (trimChars_subset piece comma)

theorem single_of_isSingle (all : ∀ option ∈ options, IsSingle option) : single options = options := by
  induction options with
  | nil => rfl
  | cons option rest ih =>
    obtain ⟨own, others⟩ := List.forall_mem_cons.1 all
    have alone : single [option] = [option] := by
      simp [single, List.splitOn_eq_singleton own.1, own.2]
    rw [← List.singleton_append, single_append, alone, ih others]

theorem testBit_foldl_bit (options : List String) (bits i : Nat) :
    (options.foldl (fun bits option => bits ||| bit option) bits).testBit i =
      (bits.testBit i || options.any fun option => (bit option).testBit i) := by
  induction options generalizing bits with
  | nil => simp
  | cons option rest ih => rw [List.foldl_cons, ih, Nat.testBit_or, List.any_cons, Bool.or_assoc]

theorem testBit_flags (options : List String) (i : Nat) :
    (flags options).testBit i = (single options).any fun option => (bit option).testBit i := by
  rw [flags, testBit_foldl_bit, Nat.zero_testBit, Bool.false_or]

theorem flags_congr {a b : List String} (same : single a = single b) : flags a = flags b := by
  rw [flags, flags, same]

theorem flags_append (a b : List String) : flags (a ++ b) = flags a ||| flags b := by
  refine Nat.eq_of_testBit_eq fun i => ?_
  rw [Nat.testBit_or, testBit_flags, testBit_flags, testBit_flags, single_append, List.any_append]

theorem isData_iff {option : String} :
    isData option = true ↔ option ∉ neutral ++ flagBits.map Prod.fst := by
  rw [isData, Bool.and_eq_true, List.mem_append, not_or, Option.isNone_iff_eq_none,
    List.lookup_eq_none_iff, List.mem_map]
  refine and_congr (by simp) ?_
  constructor
  · rintro free ⟨flag, mem, rfl⟩
    simpa using free flag mem
  · intro free flag mem
    exact bne_iff_ne.2 fun same => free ⟨flag, mem, same.symm⟩

theorem bit_of_isData {option : String} (h : isData option = true) : bit option = 0 := by
  simp only [isData, Bool.and_eq_true, Option.isNone_iff_eq_none] at h
  rw [bit, h.2, Option.getD_none]

theorem flags_eq_zero (all : ∀ option ∈ single options, isData option = true) :
    flags options = 0 := by
  refine Nat.eq_of_testBit_eq fun i => ?_
  rw [testBit_flags, Nat.zero_testBit, List.any_eq_false]
  intro option mem
  simp [bit_of_isData (all option mem)]

theorem data?_congr {a b : List String} (same : single a = single b) : data? a = data? b := by
  rw [data?, data?, same]

theorem joined_append {a b : List String} (first : a ≠ []) (second : b ≠ []) :
    joined "," (a ++ b) = joined "," a ++ "," ++ joined "," b := by
  refine String.toList_injective ?_
  simp only [String.toList_append, toList_joined, List.map_append]
  exact intercalate_append (fun empty => first (List.map_eq_nil_iff.1 empty))
    fun empty => second (List.map_eq_nil_iff.1 empty)

theorem data?_of_filter_eq_nil (bare : (single options).filter isData = []) :
    data? options = .none := by
  rw [data?, bare]

theorem data?_of_filter_ne_nil (filled : (single options).filter isData ≠ []) :
    data? options = .some (joined "," ((single options).filter isData)) := by
  unfold data?
  split
  · next bare => exact absurd bare filled
  · rfl

theorem data?_append (a b : List String) :
    data? (a ++ b) = (data? a).merge (fun first second => first ++ "," ++ second) (data? b) := by
  have whole : (single (a ++ b)).filter isData =
      (single a).filter isData ++ (single b).filter isData := by
    rw [single_append, List.filter_append]
  by_cases first : (single a).filter isData = []
  · rw [first, List.nil_append] at whole
    rw [data?_of_filter_eq_nil first, Option.merge_none_left, data?, whole]
    rfl
  by_cases second : (single b).filter isData = []
  · rw [second, List.append_nil] at whole
    rw [data?_of_filter_eq_nil second, Option.merge_none_right, data?, whole]
    rfl
  · have filled : (single (a ++ b)).filter isData ≠ [] := by
      rw [whole]
      exact List.append_ne_nil_of_left_ne_nil first _
    rw [data?_of_filter_ne_nil first, data?_of_filter_ne_nil second, data?_of_filter_ne_nil filled, whole,
      joined_append first second]
    rfl

theorem single_data? (options : List String) :
    single (data? options).toList = (single options).filter isData := by
  by_cases bare : (single options).filter isData = []
  · rw [data?_of_filter_eq_nil bare, bare]
    rfl
  · rw [data?_of_filter_ne_nil bare, Option.toList_some, single_joined bare]
    exact single_of_isSingle fun option mem => isSingle_of_mem_single (List.mem_filter.1 mem).1

end MountOptions

open MountOptions

namespace FilesystemPlan

theorem split_optionsText (plan : FilesystemPlan) :
    flags [plan.optionsText] = flags plan.mountOptions ∧
      data? [plan.optionsText] = data? plan.mountOptions := by
  unfold optionsText
  split
  · next bare =>
    rw [bare]
    decide
  · next filled =>
    have same := single_joined filled
    exact ⟨flags_congr same, data?_congr same⟩

/-- The options in the mount table split as those that the filesystem is mounted with; options that are
put together split into what their parts split into; and the data hold the options that are neither
neutral nor flags, so that they split into themselves. -/
theorem options_split (plan : FilesystemPlan) (spec : String) (root : Path) (a b : List String) :
    ((plan.entryWith spec).options =
        (if plan.mountOptions = [] then "defaults" else joined "," plan.mountOptions) ∧
      flags [(plan.entryWith spec).options] = flags plan.mountOptions ∧
      data? [(plan.entryWith spec).options] = data? plan.mountOptions ∧
      flags [(plan.entryWith spec).options] = (plan.mountRequest root).flags ∧
      data? [(plan.entryWith spec).options] = (plan.mountRequest root).data) ∧
    (flags (a ++ b) = flags a ||| flags b ∧
      data? (a ++ b) = (data? a).merge (fun first second => first ++ "," ++ second) (data? b)) ∧
    flags (data? a).toList = 0 ∧ data? (data? a).toList = data? a ∧
      single (data? a).toList =
        (single a).filter fun option => option ∉ neutral ++ flagBits.map Prod.fst := by
  obtain ⟨sameFlags, sameData⟩ := plan.split_optionsText
  have handed := single_data? a
  refine ⟨⟨rfl, sameFlags, sameData, sameFlags, sameData⟩, ⟨flags_append a b, data?_append a b⟩,
    ?_, ?_, ?_⟩
  · refine flags_eq_zero fun option mem => ?_
    rw [handed] at mem
    exact (List.mem_filter.1 mem).2
  · rw [data?, handed, List.filter_filter]
    simp only [Bool.and_self]
    rfl
  · rw [handed]
    refine List.filter_congr fun option _ => ?_
    rw [Bool.eq_iff_iff, isData_iff, decide_eq_true_iff]

end FilesystemPlan

end NodeStorage
