import NodeStorage.Proofs.Run.Ensures

/-! Names around a failure. A failure is its root cause in the names of what it happened to, and in no
other way: no root cause has a name of this kind around it, though a failed look at a device keeps a
failure of its own inside. The names stand in front of the text of the root cause, outermost first, and
more of them change neither the root cause nor what succeeded. -/

namespace NodeStorage

namespace Failure

/-- The names of what the failure happened to, outermost first. -/
def targets : Failure → List String
  | target name source => name :: source.targets
  | _ => []

/-- The failure in these names, the first of them outermost. -/
def within (names : List String) (failure : Failure) : Failure := names.foldr target failure

def IsTarget (failure : Failure) : Prop := ∃ name source, failure = target name source

def named (names : List String) (text : String) : String :=
  names.foldr (fun name text => name ++ ": " ++ text) text

variable {failure root : Failure} {names : List String}

theorem not_isTarget_rootCause (failure : Failure) : ¬ failure.rootCause.IsTarget := by
  induction failure with
  | target name source ih => exact ih
  | _ =>
    intro wrapped
    obtain ⟨name, source, same⟩ := wrapped
    cases same

theorem targets_of_not_isTarget (h : ¬ root.IsTarget) : root.targets = [] ∧ root.rootCause = root := by
  cases root with
  | target name source => exact absurd ⟨name, source, rfl⟩ h
  | _ => exact ⟨rfl, rfl⟩

theorem targets_within (names : List String) (failure : Failure) :
    (failure.within names).targets = names ++ failure.targets := by
  induction names with
  | nil => rfl
  | cons name rest ih => exact congrArg (name :: ·) ih

theorem rootCause_within (names : List String) (failure : Failure) :
    (failure.within names).rootCause = failure.rootCause := by
  induction names with
  | nil => rfl
  | cons name rest ih => exact ih

theorem message_within (names : List String) (failure : Failure) :
    (failure.within names).message = named names failure.message := by
  induction names with
  | nil => rfl
  | cons name rest ih => exact congrArg (name ++ ": " ++ ·) ih

theorem within_targets_rootCause (failure : Failure) :
    failure.rootCause.within failure.targets = failure := by
  induction failure with
  | target name source ih => exact congrArg (target name) ih
  | _ => rfl

theorem within_eq_iff (bare : ¬ root.IsTarget) :
    root.within names = failure ↔ names = failure.targets ∧ root = failure.rootCause := by
  constructor
  · rintro rfl
    obtain ⟨unnamed, same⟩ := targets_of_not_isTarget bare
    exact ⟨by rw [targets_within, unnamed, List.append_nil], by rw [rootCause_within, same]⟩
  · rintro ⟨rfl, rfl⟩
    exact failure.within_targets_rootCause

theorem message_eq (failure : Failure) :
    failure.message = named failure.targets failure.rootCause.message := by
  rw [← message_within, within_targets_rootCause]

end Failure

namespace Step

variable {α : Type} {x : Step α} {m : Machine} {w w' : World}

theorem foldr_naming_of_ok {a : α} (ran : x m w = (.ok a, w')) (names : List String) :
    names.foldr naming x m w = (.ok a, w') := by
  induction names with
  | nil => exact ran
  | cons name rest ih =>
    rw [List.foldr_cons, naming, ih]
    rfl

theorem foldr_naming_of_error {failure : Failure} (failed : x m w = (.error failure, w'))
    (names : List String) : names.foldr naming x m w = (.error (failure.within names), w') := by
  induction names with
  | nil => exact failed
  | cons name rest ih =>
    rw [List.foldr_cons, naming, ih]
    rfl

end Step

/-- A failure is its root cause, which has no name around it, in the names that stand in front of the text.
More names around a step leave what it yields as it is, and of a failure the root cause. -/
theorem root_cause_under_names (failure : Failure) :
    ¬ failure.rootCause.IsTarget ∧
      (∀ names root, ¬ root.IsTarget →
        (root.within names = failure ↔ names = failure.targets ∧ root = failure.rootCause)) ∧
      failure.message = Failure.named failure.targets failure.rootCause.message ∧
      ∀ (α : Type) (names : List String) (x : Step α) m w w',
        (∀ a, x m w = (.ok a, w') → names.foldr Step.naming x m w = (.ok a, w')) ∧
        (x m w = (.error failure, w') → ∃ outer, names.foldr Step.naming x m w = (.error outer, w') ∧
          outer.rootCause = failure.rootCause ∧ outer.targets = names ++ failure.targets ∧
          outer.message = Failure.named names failure.message) := by
  refine ⟨failure.not_isTarget_rootCause, fun names root => Failure.within_eq_iff, failure.message_eq,
    fun α names x m w w' => ⟨fun a done => Step.foldr_naming_of_ok done names, fun failed => ?_⟩⟩
  exact ⟨failure.within names, Step.foldr_naming_of_error failed names, failure.rootCause_within names,
    failure.targets_within names, failure.message_within names⟩

def unseenDevice : Failure :=
  .target "fstab entry for /srv"
    (.propertyLookupFailed "/dev/sda2" (.target "first look" (.toolNotFound "blkid")))

theorem root_cause_under_names_unseenDevice :
    ¬ Failure.IsTarget (.propertyLookupFailed "/dev/sda2" (.target "first look" (.toolNotFound "blkid"))) ∧
      unseenDevice.rootCause =
        .propertyLookupFailed "/dev/sda2" (.target "first look" (.toolNotFound "blkid")) ∧
      ∃ outer, ["provisioning", "writing /etc/fstab"].foldr Step.naming
          (Step.fail unseenDevice : Step Unit) (.ofAnswers (fun _ => .ok {}) some) ⟨⟨[], []⟩, [], []⟩ =
          (.error outer, ⟨⟨[], []⟩, [], []⟩) ∧
        outer.rootCause = unseenDevice.rootCause ∧
        outer.message = "provisioning: writing /etc/fstab: fstab entry for /srv: " ++
          "failed to read block properties of /dev/sda2: " ++
          "first look: required tool not found in PATH: blkid" := by
  obtain ⟨bare, decomposed, -, kept⟩ := root_cause_under_names unseenDevice
  obtain ⟨outer, failed, cause, -, text⟩ := (kept Unit _ (Step.fail unseenDevice) _ _ _).2 rfl
  have own := ((decomposed ["fstab entry for /srv"] _ fun wrapped => ?_).1 rfl).2
  · exact ⟨own ▸ bare, own.symm, outer, failed, cause, text.trans (by decide)⟩
  · obtain ⟨name, source, same⟩ := wrapped
    cases same

end NodeStorage
