import NodeStorage.Plan.Validity
import NodeStorage.Proofs.Path.Components
import NodeStorage.Proofs.Target.Entries
import NodeStorage.Proofs.Target.MountOrder

/-! The filesystem of the root in the mount order and in the mount table. The order goes by components: a
mount path without any leads to the root, however many slashes it is written with. The table goes by the
mount path as it is written. -/

namespace NodeStorage

namespace FilesystemPlan

/-- The pass by the place of a filesystem: memory filesystems are not checked, that of the root is checked
first and all others after it. -/
def passByPlace (plan : FilesystemPlan) : Nat :=
  if plan.format = .tmpfs then 0 else if plan.mountDepth = 0 then 1 else 2

variable {plan : FilesystemPlan}

theorem mountDepth_eq_zero_iff : plan.mountDepth = 0 ↔ ∀ c ∈ plan.mountPath.toList, c = '/' := by
  rw [mountDepth, List.length_eq_zero_iff, mountComponents]
  induction plan.mountPath.toList with
  | nil => simp
  | cons c rest ih =>
    rw [List.splitOn_cons_eq_if_modifyHead, List.forall_mem_cons, ← ih]
    by_cases slash : c = '/'
    · simp [slash]
    · obtain ⟨piece, pieces, parts⟩ := List.exists_cons_of_ne_nil (List.splitOn_ne_nil '/' rest)
      simp [slash, parts]

theorem components_mountTarget (shallow : plan.mountDepth = 0) (root : Path) :
    (plan.mountTarget root).components = root.components := by
  have empty : ∀ piece ∈ plan.mountPath.toList.splitOn '/', piece.isEmpty = true := by
    simpa [mountDepth, mountComponents, List.filter_eq_nil_iff] using shallow
  have own : (⟨plan.mountPath⟩ : Path).components = [] := by
    refine List.filter_eq_nil_iff.2 fun piece mem => ?_
    simp [Path.isStay, empty piece mem]
  rw [mountTarget, Path.components_within, own, List.append_nil]

theorem checkPass_cases (plan : FilesystemPlan) :
    (plan.format = .tmpfs ∧ plan.mountPath = "/" ∧ plan.checkPass = 1 ∧ plan.passByPlace = 0) ∨
      (plan.format ≠ .tmpfs ∧ plan.mountDepth = 0 ∧ plan.mountPath ≠ "/" ∧ plan.checkPass = 2 ∧
        plan.passByPlace = 1) ∨
      ((plan.mountPath = "/" ↔ plan.format ≠ .tmpfs ∧ plan.mountDepth = 0) ∧
        plan.checkPass = plan.passByPlace) := by
  unfold checkPass passByPlace
  by_cases written : plan.mountPath = "/"
  · have root : plan.mountDepth = 0 := by
      rw [mountDepth_eq_zero_iff, written]
      exact List.forall_mem_singleton.2 rfl
    by_cases memory : plan.format = .tmpfs
    · simp [written, memory]
    · simp [written, memory, root]
  · by_cases memory : plan.format = .tmpfs
    · simp [written, memory]
    · by_cases shallow : plan.mountDepth = 0
      · simp [written, memory, shallow]
      · simp [written, memory, shallow]

end FilesystemPlan

theorem eq_filter_append_of_pairwise {α : Type} {f : α → Nat} {items : List α}
    (sorted : items.Pairwise fun a b => f a ≤ f b) :
    items = (items.filter fun a => f a = 0) ++ items.filter fun a => 0 < f a := by
  induction items with
  | nil => rfl
  | cons a rest ih =>
    obtain ⟨first, later⟩ := List.pairwise_cons.1 sorted
    rcases Nat.eq_zero_or_pos (f a) with shallow | positive
    · rw [List.filter_cons_of_pos (by simp [shallow]), List.filter_cons_of_neg (by simp [shallow]),
        List.cons_append, ← ih later]
    · -- Nothing behind an item above zero is zero.
      have above : ∀ b ∈ rest, 0 < f b := fun b mem => Nat.lt_of_lt_of_le positive (first b mem)
      have noZeros : (rest.filter fun b => f b = 0) = [] :=
        List.filter_eq_nil_iff.2 fun b mem => by simpa using Nat.ne_of_gt (above b mem)
      have all : (rest.filter fun b => 0 < f b) = rest :=
        List.filter_eq_self.2 fun b mem => decide_eq_true (above b mem)
      rw [List.filter_cons_of_neg (by simpa using Nat.ne_of_gt positive),
        List.filter_cons_of_pos (by simpa using positive), noZeros, all, List.nil_append]

theorem mountOrder_roots_first (plans : List FilesystemPlan) : mountOrder plans =
    (plans.filter fun plan => plan.mountPath ≠ "" ∧ plan.mountDepth = 0) ++
      (mountOrder plans).filter fun plan => 0 < plan.mountDepth := by
  rw [← filter_mountDepth_mountOrder]
  exact eq_filter_append_of_pairwise (pairwise_mountOrder plans)

/-- The plans that lead to the root stand first in the mount order, and the table has them checked first
and memory filesystems not at all: but a root that is not written with one slash is checked as if it lay
below, and a memory filesystem that is planned for the root as if it were one. -/
theorem pass_of_root (plans : List FilesystemPlan) :
    (∃ others, mountOrder plans =
        (plans.filter fun plan => plan.mountPath ≠ "" ∧ plan.mountDepth = 0) ++ others ∧
      ∀ plan ∈ others, 0 < plan.mountDepth) ∧
    ∀ plan ∈ plans,
      (plan.mountDepth = 0 ↔ ∀ c ∈ plan.mountPath.toList, c = '/') ∧
      (plan.mountDepth = 0 → ∀ root, (plan.mountTarget root).components = root.components) ∧
      ∀ m w entry w', plan.tableEntry m w = (.ok entry, w') →
        (entry.pass = plan.passByPlace ↔
          (plan.mountPath = "/" ↔ plan.format ≠ .tmpfs ∧ plan.mountDepth = 0)) ∧
        (entry.pass ≠ plan.passByPlace →
          plan.format = .tmpfs ∧ plan.mountPath = "/" ∧ entry.pass = 1 ∨
            plan.format ≠ .tmpfs ∧ plan.mountDepth = 0 ∧ plan.mountPath ≠ "/" ∧ entry.pass = 2) := by
  refine ⟨⟨_, mountOrder_roots_first plans, fun plan mem => ?_⟩, fun plan _ =>
    ⟨plan.mountDepth_eq_zero_iff, plan.components_mountTarget, fun m w entry w' made => ?_⟩⟩
  · exact of_decide_eq_true (List.mem_filter.1 mem).2
  · obtain ⟨spec, rfl, -⟩ := plan.entryWith_of_tableEntry made
    rw [FilesystemPlan.entryWith]
    rcases plan.checkPass_cases with ⟨memory, written, pass, place⟩ |
      ⟨other, shallow, written, pass, place⟩ | ⟨agree, same⟩
    · simp [memory, written, pass, place]
    · simp [other, shallow, written, pass, place]
    · exact ⟨iff_of_true same agree, fun differs => absurd same differs⟩

def servedTree : List FilesystemPlan :=
  [⟨"/dev/sda3", .ext4, "/srv", "", [], []⟩, ⟨"/dev/sda2", .ext4, "/", "root", [], []⟩]

theorem pass_of_root_servedTree :
    ∀ plan ∈ servedTree, ∃ entry w', plan.tableEntry machineSameUuid emptyWorld = (.ok entry, w') ∧
      entry.pass = plan.passByPlace := by
  have entries : ∀ plan ∈ servedTree, (plan.tableEntry machineSameUuid emptyWorld).1 =
      .ok (plan.entryWith "UUID=0b3d") := by decide
  have slash : ∀ plan ∈ servedTree,
      (plan.mountPath = "/" ↔ plan.format ≠ .tmpfs ∧ plan.mountDepth = 0) := by decide
  intro plan mem
  have made : plan.tableEntry machineSameUuid emptyWorld = (.ok (plan.entryWith "UUID=0b3d"),
      (plan.tableEntry machineSameUuid emptyWorld).2) := Prod.ext (entries plan mem) rfl
  exact ⟨_, _, made, (((pass_of_root servedTree).2 plan mem).2.2 _ _ _ _ made).1.2 (slash plan mem)⟩

def doubledRoot : FilesystemPlan := ⟨"/dev/sda2", .ext4, "//", "root", [], []⟩

def memoryRoot : FilesystemPlan := ⟨"tmpfs", .tmpfs, "/", "", [], []⟩

/-- A filesystem that is mounted on the root is checked as if it lay below, and one in memory as if it were
the root. -/
theorem roots_misjudged :
    Layout.validate { filesystems := [doubledRoot] } = .ok () ∧
      Layout.validate { filesystems := [memoryRoot] } = .ok () ∧
      (∃ entry w', doubledRoot.tableEntry machineSameUuid emptyWorld = (.ok entry, w') ∧
        doubledRoot.mountPath ≠ "" ∧ doubledRoot.format ≠ .tmpfs ∧ doubledRoot.mountDepth = 0 ∧
        doubledRoot.mountTarget ⟨"/target"⟩ = ⟨"/target/"⟩ ∧ entry.pass = 2) ∧
      ∃ entry w', memoryRoot.tableEntry machineSameUuid emptyWorld = (.ok entry, w') ∧
        memoryRoot.mountPath ≠ "" ∧ memoryRoot.format = .tmpfs ∧ entry.pass = 1 :=
  ⟨by decide, by decide +kernel,
    ⟨doubledRoot.entryWith "UUID=0b3d", _, Prod.ext (by decide) rfl, by decide +kernel⟩,
    memoryRoot.entryWith "tmpfs", _, Prod.ext (by decide) rfl, by decide +kernel⟩

end NodeStorage
