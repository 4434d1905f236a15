import NodeStorage.Proofs.Wipe.Choosing
import NodeStorage.Wipe.Erase

/-! The tools that wiping uses, on any machine: it asks nothing but commands of four tools. -/

namespace NodeStorage

variable {α β : Type} {m : Machine} {w : World}

def wipeTools : List Tool := [.blkid, .mkfsExt4, .nvme, .dd]

def Event.IsWiping (event : Event) : Prop :=
  ∃ command, event = .command command ∧ command.tool ∈ wipeTools

namespace Step

def Wipes (x : Step α) (m : Machine) (w : World) : Prop :=
  x.Ensures m w fun added _ _ => ∀ event ∈ added, event.IsWiping

theorem wipes_of_silent {x : Step α} (h : x.Ensures m w fun added _ _ => added = []) :
    x.Wipes m w :=
  h.mono fun _ _ _ _ silent => by simp [silent]

theorem wipes_run {command : Command} (tool : Tool) (own : command.tool = tool)
    (h : tool ∈ wipeTools) : (run command).Wipes m w :=
  ensures_run fun _ mem => ⟨command, List.mem_singleton.1 mem, own ▸ h⟩

theorem wipes_bind {x : Step α} {f : α → Step β} (hx : x.Wipes m w)
    (hf : ∀ a w', (f a).Wipes m w') : (x >>= f).Wipes m w := by
  refine ensures_bind hx (fun _ _ _ _ own => own) fun added a w' _ own => ?_
  exact (hf a w').mono fun more _ _ _ own' => List.forall_mem_append.2 ⟨own, own'⟩

theorem wipes_forEach {f : α → Step β} (hf : ∀ a w', (f a).Wipes m w') (items : List α) :
    (forEach f items).Wipes m w := by
  induction items generalizing w with
  | nil => exact wipes_of_silent (ensures_pure rfl)
  | cons a rest ih =>
    refine wipes_bind (hf a w) fun _ _ => wipes_bind ih fun _ _ => ?_
    exact wipes_of_silent (ensures_pure rfl)

end Step

theorem chooseDisks_wipes (settings : WipeSettings) : (chooseDisks settings).Wipes m w := by
  cases readable : w.files.readText settings.mountTablePath with
  | error fault =>
    obtain ⟨failure, failed⟩ := chooseDisks_of_unreadable (m := m) (.inl ⟨fault, readable⟩)
    exact ⟨[], by simp [failed], by simp⟩
  | ok table =>
    cases listed : w.files.list settings.blockRoot with
    | error fault =>
      obtain ⟨failure, failed⟩ := chooseDisks_of_unreadable (m := m) (.inr ⟨fault, listed⟩)
      exact ⟨[], by simp [failed], by simp⟩
    | ok names =>
      refine (chooseDisks_ensures readable listed).mono ?_
      intro added r w' _ h event mem
      rw [h.1] at mem
      obtain ⟨disk, _, asked⟩ := List.mem_flatMap.1 mem
      unfold BlockDisk.probe at asked
      split at asked
      · cases asked
      · have tool : Tool.blkid ∈ wipeTools := by decide
        exact ⟨_, List.mem_singleton.1 asked, tool⟩

namespace WipeDecision

theorem overwrite_wipes (decision : WipeDecision) (blockSize : Nat) :
    (decision.overwrite blockSize).Wipes m w := by
  refine Step.wipes_bind (Step.ensures_naming (Step.wipes_run .dd rfl (by decide))) fun _ _ => ?_
  refine Step.wipes_bind (Step.ensures_naming (Step.wipes_run .dd rfl (by decide))) fun _ _ => ?_
  exact Step.wipes_of_silent (Step.ensures_pure rfl)

theorem erase_wipes (decision : WipeDecision) (blockSize : Nat) :
    (decision.erase blockSize).Wipes m w := by
  refine Step.wipes_bind (Step.wipes_of_silent (Step.ensures_note rfl)) fun _ _ => ?_
  cases decision.strategy with
  | secureErase =>
    refine Step.wipes_bind (Step.ensures_naming (Step.wipes_run .nvme rfl (by decide))) fun _ _ => ?_
    exact Step.wipes_of_silent (Step.ensures_pure rfl)
  | discard =>
    refine Step.wipes_bind (Step.ensures_attempt (Step.wipes_run .mkfsExt4 rfl (by decide))) fun r _ => ?_
    cases r with
    | ok output => exact Step.wipes_of_silent (Step.ensures_pure rfl)
    | error failure =>
      refine Step.wipes_bind (Step.wipes_of_silent (Step.ensures_note rfl)) fun _ _ => ?_
      refine Step.wipes_bind (Step.wipes_of_silent (Step.ensures_note rfl)) fun _ _ => ?_
      exact decision.overwrite_wipes blockSize

end WipeDecision

theorem wipeDisks_wipes (settings : WipeSettings) : (wipeDisks settings).Wipes m w := by
  refine Step.wipes_bind (chooseDisks_wipes settings) fun choices _ => ?_
  split
  · refine Step.wipes_bind (Step.wipes_of_silent (Step.ensures_note rfl)) fun _ _ => ?_
    exact Step.wipes_of_silent (Step.ensures_pure rfl)
  · refine Step.wipes_bind (Step.wipes_of_silent (Step.ensures_startWorkers fun _ => rfl)) fun _ _ => ?_
    refine Step.wipes_bind (Step.wipes_forEach (fun decision _ => ?_) _) fun results _ => ?_
    · refine Step.wipes_bind (Step.ensures_attempt (decision.erase_wipes _)) fun _ _ => ?_
      exact Step.wipes_of_silent (Step.ensures_pure rfl)
    · refine Step.wipes_bind (Step.wipes_forEach (fun result _ => ?_) _) fun _ _ => ?_
      · exact Step.wipes_of_silent (Step.ensures_note rfl)
      · refine Step.wipes_bind (Step.wipes_of_silent (Step.ensures_note rfl)) fun _ _ => ?_
        exact Step.wipes_of_silent (Step.ensures_pure rfl)

end NodeStorage
