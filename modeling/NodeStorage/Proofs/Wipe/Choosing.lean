import Mathlib.Data.List.Forall2
import NodeStorage.Proofs.Run.Ensures
import NodeStorage.Wipe.Choice

/-! How disks are chosen for wiping. Every disk that the tree of block devices lists gets one choice,
which rests on the disk itself, on the names that something is mounted from and, for a disk that is
not kept before, on the answer to one look at its properties. -/

namespace NodeStorage

def Machine.kernelName (m : Machine) (source : String) : String :=
  NodeStorage.kernelName ((m.canonical source).getD source)

/-- The kernel's names of all that something is mounted from, by the kernel's table of mounts. -/
def Machine.liveNames (m : Machine) (table : String) : List String :=
  (MountSources.ofText table).map m.kernelName

namespace Step

variable {α β : Type} {m : Machine} {w : World}

theorem forEach_eq_map {f : α → Step β} {g : α → β} (h : ∀ a, f a m w = (.ok (g a), w))
    (items : List α) : forEach f items m w = (.ok (items.map g), w) := by
  induction items with
  | nil => rfl
  | cons a rest ih => simp [forEach_cons, bind_apply, map_apply, Except.map, h, ih]

end Step

variable {settings : WipeSettings} {m : Machine} {w : World}

theorem liveNames_of_table {table : String}
    (h : w.files.readText settings.mountTablePath = .ok table) :
    liveNames settings m w = (.ok (m.liveNames table), w) := by
  have each : ∀ source, kernelNameOf source m w = (.ok (m.kernelName source), w) := fun _ => rfl
  simp [liveNames, MountSources.read, Step.naming, Step.lookOrFail, Step.bind_apply, Step.map_apply,
    Except.map, h, Step.forEach_eq_map each, Machine.liveNames]

theorem liveNames_of_fault {fault : IoFault}
    (h : w.files.readText settings.mountTablePath = .error fault) :
    liveNames settings m w =
      (.error (.target ("reading " ++ settings.mountTablePath.text) (.io fault)), w) := by
  simp [liveNames, MountSources.read, Step.naming, Step.lookOrFail, Step.bind_apply, Step.map_apply,
    Except.map, h]

namespace BlockTree

def disksNamed (files : FileTree) (root : Path) (names : List String) : List BlockDisk :=
  (names.mergeSort fun a b => decide (a ≤ b)).map (disk files root)

theorem mem_disksNamed {files : FileTree} {root : Path} {names : List String} {name : String}
    (h : name ∈ names) : disk files root name ∈ disksNamed files root names :=
  List.mem_map_of_mem (List.mem_mergeSort.2 h)

theorem eq_of_device_eq {files : FileTree} {root : Path} {names : List String}
    {a b : BlockDisk} (ha : a ∈ disksNamed files root names) (hb : b ∈ disksNamed files root names)
    (same : a.device = b.device) : a = b := by
  obtain ⟨n, _, rfl⟩ := List.mem_map.1 ha
  obtain ⟨n', _, rfl⟩ := List.mem_map.1 hb
  have names : n = n' := by simpa [BlockDisk.device, disk] using same
  rw [names]

theorem disks_of_list {root : Path} {names : List String} (h : w.files.list root = .ok names) :
    disks root m w = (.ok (disksNamed w.files root names), w) := by
  simp [disks, Step.naming, Step.lookOrFail, Step.look, Step.bind_apply, h,
    disksNamed]

theorem disks_of_fault {root : Path} {fault : IoFault} (h : w.files.list root = .error fault) :
    disks root m w = (.error (.target ("listing " ++ root.text) (.io fault)), w) := by
  simp [disks, Step.naming, Step.lookOrFail, Step.bind_apply, h]

end BlockTree

def showsForeignArray : Except Failure Output → Bool
  | .ok output => (Properties.ofText output.stdout).isForeignArrayMember
  | .error _ => false

namespace BlockDisk

variable {live : List String}

def probe (settings : WipeSettings) (live : List String) (disk : BlockDisk) : List Event :=
  if (disk.reason? settings live).isSome then [] else [.command (Properties.command disk.device)]

def choiceOn (settings : WipeSettings) (live : List String) (answer : Except Failure Output)
    (disk : BlockDisk) : Choice :=
  match disk.reason? settings live with
  | some reason => .keep ⟨disk.device, reason⟩
  | none =>
    if showsForeignArray answer then .keep ⟨disk.device, .foreignArrayMember⟩
    else .wipe disk.decision

theorem keepReason?_of_known {disk : BlockDisk} {reason : KeepReason}
    (known : disk.reason? settings live = some reason) :
    disk.keepReason? settings live m w = (.ok (some reason), w) := by
  simp only [keepReason?, known, Step.pure_apply]

theorem keepReason?_of_unknown {disk : BlockDisk} (known : disk.reason? settings live = none) :
    disk.keepReason? settings live m w =
      (.ok (if showsForeignArray (m.run w.events (Properties.command disk.device)) then
          some .foreignArrayMember else none),
        { w with events := w.events ++ [.command (Properties.command disk.device)] }) := by
  simp only [keepReason?, known, Step.bind_apply, Step.attempt_read_apply]
  cases m.run w.events (Properties.command disk.device) with
  | error failure => rfl
  | ok output => rfl

theorem choose_ensures (disk : BlockDisk) :
    (disk.choose settings live).Ensures m w fun added r w' =>
      added = disk.probe settings live ∧ w'.files = w.files ∧
      r = .ok (disk.choiceOn settings live (m.run w.events (Properties.command disk.device))) := by
  unfold choose Step.Ensures probe choiceOn
  cases known : disk.reason? settings live with
  | some reason =>
    refine ⟨[], ?_⟩
    simp [Step.bind_apply, keepReason?_of_known known, Step.map_apply, Step.note, Except.map]
  | none =>
    refine ⟨[.command (Properties.command disk.device)], ?_⟩
    simp only [Step.bind_apply, keepReason?_of_unknown known]
    cases showsForeignArray (m.run w.events (Properties.command disk.device)) with
    | true => simp [Step.map_apply, Step.note, Except.map]
    | false => simp [Step.pure_apply]

theorem reason?_of_choiceOn_eq_wipe {disk : BlockDisk} {answer : Except Failure Output}
    {decision : WipeDecision} (h : disk.choiceOn settings live answer = .wipe decision) :
    disk.reason? settings live = none ∧ showsForeignArray answer = false ∧
      decision = disk.decision := by
  unfold choiceOn at h
  split at h
  · cases h
  · next known =>
    split at h
    · cases h
    · next own =>
      cases h
      exact ⟨known, Bool.eq_false_iff.2 own, rfl⟩

theorem reason?_eq_none_iff {disk : BlockDisk} :
    disk.reason? settings live = none ↔
      (∀ start ∈ settings.ignoredPrefixes, Text.startsWith start disk.name = false) ∧
        disk.capacity ≠ 0 ∧ ∀ member ∈ disk.members, member ∉ live := by
  unfold reason?
  cases h : settings.ignoredPrefixes.find? (Text.startsWith · disk.name) with
  | some start =>
    have leads := List.find?_some h
    have mem := List.mem_of_find?_eq_some h
    simp only [reduceCtorEq, false_iff, not_and]
    exact fun all => absurd leads (by simp [all start mem])
  | none =>
    have all := List.find?_eq_none.1 h
    simp only [Bool.not_eq_true] at all
    by_cases empty : disk.capacity = 0
    · simp [empty]
    · simp only [empty, if_false, Option.map_eq_none_iff, List.find?_eq_none, ne_eq,
        not_false_eq_true, true_and, List.contains_eq_mem, decide_eq_true_eq]
      exact ⟨fun h => ⟨all, h⟩, fun h => h.2⟩

end BlockDisk

def ChosenFor (settings : WipeSettings) (live : List String) (m : Machine) (w : World)
    (disk : BlockDisk) (choice : Choice) : Prop :=
  ∃ asked, choice = disk.choiceOn settings live
    (m.run (w.events ++ asked) (Properties.command disk.device))

def choicesAfter (settings : WipeSettings) (live : List String) (m : Machine) :
    List Event → List BlockDisk → List Choice
  | _, [] => []
  | history, disk :: rest =>
    disk.choiceOn settings live (m.run history (Properties.command disk.device)) ::
      choicesAfter settings live m (history ++ disk.probe settings live) rest

theorem forall₂_choicesAfter {live : List String} {history asked : List Event}
    (later : history = w.events ++ asked) (disks : List BlockDisk) :
    List.Forall₂ (ChosenFor settings live m w) disks (choicesAfter settings live m history disks) := by
  induction disks generalizing history asked with
  | nil => exact .nil
  | cons disk rest ih =>
    have next : history ++ disk.probe settings live =
        w.events ++ (asked ++ disk.probe settings live) := by rw [later, List.append_assoc]
    exact .cons ⟨asked, by rw [later]⟩ (ih next)

theorem mem_choicesAfter_iff {live : List String} {history : List Event} {disks : List BlockDisk}
    {choice : Choice} :
    choice ∈ choicesAfter settings live m history disks ↔
      ∃ front disk back, disks = front ++ disk :: back ∧ choice = disk.choiceOn settings live
        (m.run (history ++ front.flatMap (BlockDisk.probe settings live))
          (Properties.command disk.device)) := by
  induction disks generalizing history with
  | nil => simp [choicesAfter]
  | cons disk rest ih =>
    rw [choicesAfter, List.mem_cons, ih]
    constructor
    · rintro (rfl | ⟨front, other, back, rfl, rfl⟩)
      · exact ⟨[], disk, rest, rfl, by simp⟩
      · exact ⟨disk :: front, other, back, rfl, by simp⟩
    · rintro ⟨front, other, back, parts, rfl⟩
      rcases List.cons_eq_append_iff.1 parts with ⟨rfl, same⟩ | ⟨later, rfl, rfl⟩
      · obtain ⟨rfl, rfl⟩ := List.cons.inj same
        exact .inl (by simp)
      · exact .inr ⟨later, other, back, rfl, by simp⟩

theorem forEach_choose_ensures {live : List String} (disks : List BlockDisk) :
    (Step.forEach (BlockDisk.choose settings live) disks).Ensures m w fun added r w' =>
      added = disks.flatMap (BlockDisk.probe settings live) ∧ w'.files = w.files ∧
      r = .ok (choicesAfter settings live m w.events disks) := by
  induction disks generalizing w with
  | nil => exact Step.ensures_pure ⟨rfl, rfl, rfl⟩
  | cons disk rest ih =>
    rw [Step.forEach_cons]
    refine Step.ensures_bind disk.choose_ensures ?_ ?_
    · intro added failure w' _ h
      cases h.2.2
    · rintro added choice w' events ⟨rfl, files, chosen⟩
      obtain rfl := Except.ok.inj chosen
      refine Step.ensures_bind (ih (w := w')) ?_ ?_
      · rintro more failure w'' _ ⟨_, _, h⟩
        cases h
      · rintro more choices w'' _ ⟨rfl, files', same⟩
        obtain rfl := Except.ok.inj same
        refine Step.ensures_pure ⟨?_, files'.trans files, ?_⟩
        · rw [List.append_nil, List.flatMap_cons]
        · rw [events, choicesAfter]

section Readable

variable {table : String} {names : List String}
  (readable : w.files.readText settings.mountTablePath = .ok table)
  (listed : w.files.list settings.blockRoot = .ok names)
include readable listed

theorem chooseDisks_ensures_choices :
    (chooseDisks settings).Ensures m w fun added r w' =>
      added = (BlockTree.disksNamed w.files settings.blockRoot names).flatMap
        (BlockDisk.probe settings (m.liveNames table)) ∧ w'.files = w.files ∧
      r = .ok (choicesAfter settings (m.liveNames table) m w.events
        (BlockTree.disksNamed w.files settings.blockRoot names)) := by
  unfold chooseDisks
  refine Step.ensures_bind_of_eq (liveNames_of_table readable) rfl ?_
  refine Step.ensures_bind_of_eq (BlockTree.disks_of_list listed) rfl ?_
  exact forEach_choose_ensures _

/-- If the table of mounts and the tree of block devices can be read, every disk gets its choice, and
nothing is asked but the looks at their properties. -/
theorem chooseDisks_ensures :
    (chooseDisks settings).Ensures m w fun added r w' =>
      added = (BlockTree.disksNamed w.files settings.blockRoot names).flatMap
        (BlockDisk.probe settings (m.liveNames table)) ∧ w'.files = w.files ∧
      ∃ choices, r = .ok choices ∧ List.Forall₂ (ChosenFor settings (m.liveNames table) m w)
        (BlockTree.disksNamed w.files settings.blockRoot names) choices := by
  refine (chooseDisks_ensures_choices readable listed).mono ?_
  rintro added r w' _ ⟨asked, files, succeeds⟩
  exact ⟨asked, files, _, succeeds, forall₂_choicesAfter (List.append_nil _).symm _⟩

end Readable

theorem chooseDisks_of_fault {fault : IoFault}
    (unreadable : w.files.readText settings.mountTablePath = .error fault) :
    chooseDisks settings m w =
      (.error (.target ("reading " ++ settings.mountTablePath.text) (.io fault)), w) := by
  rw [chooseDisks, Step.bind_of_error (liveNames_of_fault unreadable)]

theorem chooseDisks_of_unreadable
    (h : (∃ fault, w.files.readText settings.mountTablePath = .error fault) ∨
      ∃ fault, w.files.list settings.blockRoot = .error fault) :
    ∃ failure, chooseDisks settings m w = (.error failure, w) := by
  cases readable : w.files.readText settings.mountTablePath with
  | error fault => exact ⟨_, chooseDisks_of_fault readable⟩
  | ok table =>
    obtain ⟨fault, listed⟩ := h.resolve_left (by simp [readable])
    refine ⟨.target ("listing " ++ settings.blockRoot.text) (.io fault), ?_⟩
    rw [chooseDisks, Step.bind_of_ok (liveNames_of_table readable),
      Step.bind_of_error (BlockTree.disks_of_fault listed)]

theorem readable_of_chooseDisks_eq_ok {choices : List Choice}
    (h : (chooseDisks settings m w).1 = .ok choices) :
    (∃ table, w.files.readText settings.mountTablePath = .ok table) ∧
      ∃ names, w.files.list settings.blockRoot = .ok names := by
  constructor
  · cases readable : w.files.readText settings.mountTablePath with
    | ok table => exact ⟨table, rfl⟩
    | error fault =>
      obtain ⟨failure, failed⟩ := chooseDisks_of_unreadable (m := m) (.inl ⟨fault, readable⟩)
      simp [failed] at h
  · cases listed : w.files.list settings.blockRoot with
    | ok names => exact ⟨names, rfl⟩
    | error fault =>
      obtain ⟨failure, failed⟩ := chooseDisks_of_unreadable (m := m) (.inr ⟨fault, listed⟩)
      simp [failed] at h

theorem exists_wipe_mem {table : String} {names : List String} {name : String}
    (readable : w.files.readText settings.mountTablePath = .ok table)
    (listed : w.files.list settings.blockRoot = .ok names) (mem : name ∈ names)
    (free : (BlockTree.disk w.files settings.blockRoot name).reason? settings
      (m.liveNames table) = none)
    (own : ∀ history,
      showsForeignArray (m.run history (Properties.command ("/dev/" ++ name))) = false) :
    ∃ choices, (chooseDisks settings m w).1 = .ok choices ∧
      .wipe (BlockTree.disk w.files settings.blockRoot name).decision ∈ choices := by
  obtain ⟨added, _, _, _, choices, succeeds, all⟩ := chooseDisks_ensures (m := m) readable listed
  refine ⟨choices, succeeds, ?_⟩
  have known : BlockTree.disk w.files settings.blockRoot name ∈
      BlockTree.disksNamed w.files settings.blockRoot names := BlockTree.mem_disksNamed mem
  obtain ⟨i, hi, at_i⟩ := List.mem_iff_getElem.1 known
  have hc : i < choices.length := by rw [← all.length_eq]; exact hi
  obtain ⟨asked, choice⟩ := all.get hi hc
  rw [List.get_eq_getElem, List.get_eq_getElem, at_i] at choice
  have own' : showsForeignArray (m.run (w.events ++ asked) (Properties.command
      (BlockTree.disk w.files settings.blockRoot name).device)) = false := own _
  have wipe : choices[i] = .wipe (BlockTree.disk w.files settings.blockRoot name).decision := by
    rw [choice, BlockDisk.choiceOn, free]
    exact if_neg (Bool.eq_false_iff.1 own')
  exact wipe ▸ List.getElem_mem hc

end NodeStorage
