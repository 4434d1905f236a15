import NodeStorage.Proofs.Files.Places
import NodeStorage.Proofs.Run.Demand
import NodeStorage.Proofs.Target.Mounting

/-! Where steps change the files. A step that is made of others changes what they change; to write a
file changes nothing but places on its way. -/

namespace NodeStorage

open FileTree

theorem Machine.onlyAt_makeDirectories {m : Machine} {changed : Place → Prop} {path : Path}
    {files : FileTree} (before : List Event) (h : AllOnWay changed files.working path.ancestors) :
    OnlyAt changed files (m.makeDirectories before files path).2 := by
  unfold Machine.makeDirectories
  cases m.refuse before path with
  | some fault => exact .refl
  | none => exact FileTree.onlyAt_makeDirectories h

namespace Step

variable {α β : Type} {m : Machine} {changed changed' : Place → Place → Prop} {path : Path}
  {content : String}

/-- The step changes files at these places only, given the working directory. -/
def Touches (x : Step α) (m : Machine) (changed : Place → Place → Prop) : Prop :=
  ∀ w : World, OnlyAt (changed w.files.working) w.files (x m w).2.files

theorem touches_of_quiet {x : Step α} (h : ∀ w, (x m w).2.files = w.files) : x.Touches m changed := by
  intro w
  rw [h]
  exact .refl

theorem Touches.mono {x : Step α} (h : x.Touches m changed)
    (imp : ∀ working place, changed working place → changed' working place) :
    x.Touches m changed' := fun w => (h w).mono (imp _)

theorem Ensures.touching {x : Step α} {w : World}
    {Q : List Event → Except Failure α → World → Prop} (h : x.Ensures m w Q)
    (touches : x.Touches m changed) : x.Ensures m w fun added r w' =>
      Q added r w' ∧ OnlyAt (changed w.files.working) w.files w'.files := by
  obtain ⟨added, events, q⟩ := h
  exact ⟨added, events, q, touches w⟩

theorem touches_bind {x : Step α} {f : α → Step β} (hx : x.Touches m changed)
    (hf : ∀ a, (f a).Touches m changed) : (x >>= f).Touches m changed := by
  intro w
  rw [bind_apply]
  have first := hx w
  rcases done : x m w with ⟨failure | a, w'⟩
  · rw [done] at first
    exact first
  · rw [done] at first
    exact first.trans (first.working_eq ▸ hf a w')

theorem touches_pure (a : α) : (Pure.pure a : Step α).Touches m changed := touches_of_quiet fun _ => rfl

theorem touches_note (notice : Notice) : (note notice).Touches m changed :=
  touches_of_quiet fun _ => rfl

theorem touches_naming {x : Step α} (name : String) (h : x.Touches m changed) :
    (naming name x).Touches m changed := h

theorem touches_forEach {f : α → Step β} (hf : ∀ a, (f a).Touches m changed) (items : List α) :
    (forEach f items).Touches m changed := by
  induction items with
  | nil => exact touches_pure []
  | cons a rest ih =>
    rw [forEach_cons]
    exact touches_bind (hf a) fun _ => touches_bind ih fun _ => touches_pure _

theorem touches_makeDirectories
    (h : ∀ working, AllOnWay (changed working) working path.ancestors) :
    (makeDirectories path).Touches m changed := by
  intro w
  rw [makeDirectories_apply]
  exact m.onlyAt_makeDirectories w.events (h _)

theorem touches_tryWriteText : (tryWriteText path content).Touches m (OnWay path) := by
  intro w
  unfold tryWriteText
  cases m.refuse w.events path with
  | some fault => exact .refl
  | none =>
    cases written : w.files.writeText path content with
    | ok files => exact onlyAt_write written
    | error fault => exact .refl

theorem touches_writeText : (writeText path content).Touches m (OnWay path) := by
  refine touches_bind touches_tryWriteText fun r => ?_
  cases r with
  | ok _ => exact touches_pure ()
  | error fault => exact touches_of_quiet fun _ => rfl

end Step

variable {m : Machine} {changed : Place → Place → Prop}

theorem writeFile_touches (path : Path) (content : String) :
    (writeFile path content).Touches m (OnWay path) := by
  refine Step.touches_naming _ ?_
  cases upper : path.parent? with
  | none => exact Step.touches_writeText
  | some parent =>
    refine Step.touches_bind ?_ fun _ => Step.touches_writeText
    exact Step.touches_makeDirectories fun _ => allOnWay_ancestors_parent? upper

theorem lookUpUuid_touches (device : String) : (lookUpUuid device).Touches m changed := by
  refine Step.touches_of_quiet fun w => ?_
  rw [lookUpUuid_apply]

theorem writeTable_touches (plans : List FilesystemPlan) (path : Path) :
    (writeTable plans path).Touches m (OnWay path) := by
  refine Step.touches_bind (Step.touches_forEach (fun plan => Step.touches_naming _ ?_) plans)
    fun _ => Step.touches_bind (writeFile_touches path _) fun _ =>
      Step.touches_bind (Step.touches_note _) fun _ => Step.touches_pure _
  unfold FilesystemPlan.tableEntry
  split
  · exact Step.touches_pure _
  · exact Step.touches_bind (lookUpUuid_touches plan.device) fun _ => Step.touches_pure _

theorem writeDescriptor_touches (plans : List FilesystemPlan) (path : Path) :
    (writeDescriptor plans path).Touches m (OnWay path) := by
  refine Step.touches_bind (Step.touches_forEach (fun plan => ?_) _)
    fun _ => Step.touches_bind (writeFile_touches path _) fun _ =>
      Step.touches_bind (Step.touches_note _) fun _ => Step.touches_pure _
  exact Step.touches_bind (lookUpUuid_touches plan.device) fun _ => Step.touches_pure _

theorem unmountRecord_touches (record : MountRecord) : (unmountRecord record).Touches m changed := by
  refine Step.touches_bind (Step.touches_of_quiet fun _ => rfl) fun r => ?_
  cases r with
  | ok _ => exact Step.touches_pure ()
  | error failure => exact Step.touches_note _

theorem teardown_touches (s : Mounts) : (Session.whole s teardown).Touches m changed := by
  intro w
  have whole : (Session.whole s teardown m w).2 = (teardown m s w).2.2 := rfl
  rw [whole, teardown_apply]
  exact Step.touches_forEach unmountRecord_touches _ w

end NodeStorage
