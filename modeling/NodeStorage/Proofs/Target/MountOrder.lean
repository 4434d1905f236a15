import Mathlib.Data.List.Count
import NodeStorage.Proofs.Target.MountPass

/-! The order in which planned filesystems are mounted. Paths are compared by their components, so that
repeated slashes and those at the two ends make no difference. A plan whose path leads properly above
that of another one has fewer components; sorting by their number alone puts it first. -/

namespace NodeStorage

namespace FilesystemPlan

end FilesystemPlan

variable {plans ordered : List FilesystemPlan} {a b : FilesystemPlan}

theorem filter_hasMountPath (plans : List FilesystemPlan) :
    plans.filter FilesystemPlan.hasMountPath = plans.filter fun plan => plan.mountPath ≠ "" :=
  List.filter_congr fun _ _ => decide_not.symm

theorem mountOrder_perm (plans : List FilesystemPlan) :
    (mountOrder plans).Perm (plans.filter fun plan => plan.mountPath ≠ "") := by
  rw [← filter_hasMountPath]
  exact List.mergeSort_perm _ _

theorem mountDepth_trans (a b c : FilesystemPlan) (h : decide (a.mountDepth ≤ b.mountDepth) = true)
    (h' : decide (b.mountDepth ≤ c.mountDepth) = true) :
    decide (a.mountDepth ≤ c.mountDepth) = true :=
  decide_eq_true (Nat.le_trans (of_decide_eq_true h) (of_decide_eq_true h'))

theorem mountDepth_total (a b : FilesystemPlan) :
    (decide (a.mountDepth ≤ b.mountDepth) || decide (b.mountDepth ≤ a.mountDepth)) = true := by
  rw [← Bool.decide_or]
  exact decide_eq_true (Nat.le_total _ _)

theorem pairwise_mountOrder (plans : List FilesystemPlan) :
    (mountOrder plans).Pairwise fun a b => a.mountDepth ≤ b.mountDepth :=
  (List.pairwise_mergeSort mountDepth_trans mountDepth_total _).imp fun h => of_decide_eq_true h

theorem filter_mountDepth_mountOrder (plans : List FilesystemPlan) (depth : Nat) :
    (mountOrder plans).filter (fun plan => plan.mountDepth = depth) =
      plans.filter fun plan => plan.mountPath ≠ "" ∧ plan.mountDepth = depth := by
  let level := (plans.filter FilesystemPlan.hasMountPath).filter fun plan => plan.mountDepth = depth
  have all : ∀ plan ∈ level, decide (plan.mountDepth = depth) = true :=
    fun plan mem => (List.mem_filter.1 mem).2
  have flat : level.Pairwise fun a b => decide (a.mountDepth ≤ b.mountDepth) = true := by
    refine List.pairwise_of_forall_mem_list fun a ha b hb => decide_eq_true (Nat.le_of_eq ?_)
    exact (of_decide_eq_true (all a ha)).trans (of_decide_eq_true (all b hb)).symm
  have inside := List.sublist_mergeSort mountDepth_trans mountDepth_total flat List.filter_sublist
  have kept := inside.filter fun plan => decide (plan.mountDepth = depth)
  rw [List.filter_eq_self.2 all] at kept
  have same : (mountOrder plans).filter (fun plan => plan.mountDepth = depth) = level :=
    (kept.eq_of_length ((List.mergeSort_perm _ _).filter _).length_eq.symm).symm
  rw [same]
  refine List.filter_filter.trans (List.filter_congr fun plan _ => ?_)
  rw [Bool.decide_and, Bool.and_comm]
  exact congrArg (· && _) decide_not.symm

end NodeStorage
