import Mathlib.Data.List.Perm.Basic
import NodeStorage.Proofs.Device.Export
import NodeStorage.Proofs.Wipe.Choosing
import NodeStorage.Proofs.Wipe.Worker

/-! What becomes of each disk when the machine answers a command always in the same way. A disk is
settled by its own properties; the summary has an entry for each listed disk and does not depend on
the order in which results come in. -/

namespace NodeStorage

variable {settings : WipeSettings} {m : Machine} {w : World} {live : List String}
  {answer : Command → Except Failure Output}

namespace BlockDisk

section

variable (settings : WipeSettings) (live : List String) (answer : Command → Except Failure Output)
  (disk : BlockDisk)

def settled : Choice := disk.choiceOn settings live (answer (Properties.command disk.device))

def look : Command := ⟨.blkid, ["-o", "export", disk.device]⟩

/-- What is exported about the disk ends, as far as it tells of a type, with one that says that the disk
is a member of an array of the firmware. -/
def ShowsForeignArray : Prop :=
  ∃ output before line after type, answer disk.look = .ok output ∧
    output.stdout.toList.splitOn '\n' = before ++ line :: after ∧
    Properties.Tells line "TYPE" type ∧ (∀ other ∈ after, ∀ t, ¬ Properties.Tells other "TYPE" t) ∧
    "isw_raid".toList <:+: type.toList

structure Examined : Prop where
  noPrefix : ∀ start ∈ settings.ignoredPrefixes, ¬ start.toList <+: disk.name.toList
  capacity : disk.capacity ≠ 0
  notLive : ∀ member ∈ disk.members, member ∉ live

structure Unprotected : Prop extends disk.Examined settings live where
  noForeignArray : ¬ disk.ShowsForeignArray answer

/-- The reason to keep the disk, the first one that there is. -/
inductive KeptFor : KeepReason → Prop where
  | ignoredPrefix {front back : List String} {start : String}
      (prefixes : settings.ignoredPrefixes = front ++ start :: back)
      (first : ∀ other ∈ front, ¬ other.toList <+: disk.name.toList)
      (leads : start.toList <+: disk.name.toList) : KeptFor (.ignoredPrefix start)
  | noCapacity (noPrefix : ∀ start ∈ settings.ignoredPrefixes, ¬ start.toList <+: disk.name.toList)
      (empty : disk.capacity = 0) : KeptFor .noCapacity
  | backsLiveMount {front back : List String} {member : String}
      (noPrefix : ∀ start ∈ settings.ignoredPrefixes, ¬ start.toList <+: disk.name.toList)
      (capacity : disk.capacity ≠ 0) (members : disk.members = front ++ member :: back)
      (first : ∀ other ∈ front, other ∉ live) (mounted : member ∈ live) :
      KeptFor (.backsLiveMount ("/dev/" ++ member))
  | foreignArrayMember (examined : disk.Examined settings live)
      (shows : disk.ShowsForeignArray answer) : KeptFor .foreignArrayMember

end

variable {disk : BlockDisk} {reason : KeepReason}

theorem examined_iff : disk.Examined settings live ↔ disk.reason? settings live = none := by
  simp only [reason?_eq_none_iff, ← Bool.not_eq_true, Text.startsWith_iff]
  exact ⟨fun h => ⟨h.noPrefix, h.capacity, h.notLive⟩, fun h => ⟨h.1, h.2.1, h.2.2⟩⟩

theorem showsForeignArray_iff :
    showsForeignArray (answer (Properties.command disk.device)) = true ↔
      disk.ShowsForeignArray answer := by
  have look : Properties.command disk.device = disk.look := rfl
  rw [look, ShowsForeignArray]
  cases answer disk.look with
  | error failure => simp [showsForeignArray]
  | ok output =>
    have type : (Properties.ofText output.stdout).type? =
        (Properties.ofText output.stdout).get? "TYPE" := rfl
    rw [showsForeignArray, Properties.isForeignArrayMember, type]
    constructor
    · intro shows
      cases told : (Properties.ofText output.stdout).get? "TYPE" with
      | none => simp [told] at shows
      | some type =>
        obtain ⟨before, line, after, parts, own, last⟩ := Properties.get?_ofText_eq_some_iff.1 told
        rw [told] at shows
        exact ⟨output, before, line, after, type, rfl, parts, own, last, Text.holds_iff.1 shows⟩
    · rintro ⟨_, before, line, after, type, ⟨⟩, parts, own, last, held⟩
      rw [Properties.get?_ofText_eq_some_iff.2 ⟨before, line, after, parts, own, last⟩]
      exact Text.holds_iff.2 held

theorem unprotected_iff : disk.Unprotected settings live answer ↔
    disk.reason? settings live = none ∧
      ¬ showsForeignArray (answer (Properties.command disk.device)) = true := by
  rw [showsForeignArray_iff, ← examined_iff]
  exact ⟨fun h => ⟨h.toExamined, h.noForeignArray⟩, fun h => ⟨h.1, h.2⟩⟩

instance (disk : BlockDisk) : Decidable (disk.Examined settings live) :=
  decidable_of_iff _ examined_iff.symm

instance (disk : BlockDisk) : Decidable (disk.Unprotected settings live answer) :=
  decidable_of_iff _ unprotected_iff.symm

theorem find?_ignoredPrefixes_eq_none_iff :
    settings.ignoredPrefixes.find? (Text.startsWith · disk.name) = none ↔
      ∀ start ∈ settings.ignoredPrefixes, ¬ start.toList <+: disk.name.toList := by
  simp only [List.find?_eq_none, Text.startsWith_iff]

theorem KeptFor.reason?_cases (h : disk.KeptFor settings live answer reason) :
    disk.reason? settings live = some reason ∨ disk.reason? settings live = none ∧
      disk.ShowsForeignArray answer ∧ reason = .foreignArrayMember := by
  cases h with
  | @ignoredPrefix front back start prefixes first leads =>
    have found : settings.ignoredPrefixes.find? (Text.startsWith · disk.name) = some start := by
      refine List.find?_eq_some_iff_append.2 ⟨Text.startsWith_iff.2 leads, _, _, prefixes, ?_⟩
      simpa [← Bool.not_eq_true, Text.startsWith_iff] using first
    exact .inl (by rw [reason?, found])
  | noCapacity noPrefix empty =>
    exact .inl (by rw [reason?, find?_ignoredPrefixes_eq_none_iff.2 noPrefix]; exact if_pos empty)
  | @backsLiveMount front back member noPrefix capacity members first mounted =>
    have found : disk.members.find? live.contains = some member := by
      refine List.find?_eq_some_iff_append.2 ⟨by simpa using mounted, _, _, members, ?_⟩
      simpa using first
    refine .inl ?_
    rw [reason?, find?_ignoredPrefixes_eq_none_iff.2 noPrefix]
    simp only [if_neg capacity, found, Option.map_some]
  | foreignArrayMember examined shows => exact .inr ⟨examined_iff.1 examined, shows, rfl⟩

theorem keptFor_of_reason?_eq_some (known : disk.reason? settings live = some reason) :
    disk.KeptFor settings live answer reason := by
  unfold reason? at known
  split at known
  · next start found =>
    obtain ⟨leads, front, back, prefixes, first⟩ := List.find?_eq_some_iff_append.1 found
    cases known
    refine .ignoredPrefix prefixes ?_ (Text.startsWith_iff.1 leads)
    simpa [← Bool.not_eq_true, Text.startsWith_iff] using first
  · next unled =>
    have noPrefix := find?_ignoredPrefixes_eq_none_iff.1 unled
    split at known
    · next empty =>
      cases known
      exact .noCapacity noPrefix empty
    · next capacity =>
      obtain ⟨member, found, same⟩ := Option.map_eq_some_iff.1 known
      obtain ⟨mounted, front, back, members, first⟩ := List.find?_eq_some_iff_append.1 found
      cases same
      exact .backsLiveMount noPrefix capacity members (by simpa using first) (by simpa using mounted)

theorem keptFor_iff : disk.KeptFor settings live answer reason ↔
    disk.reason? settings live = some reason ∨ disk.reason? settings live = none ∧
      disk.ShowsForeignArray answer ∧ reason = .foreignArrayMember := by
  refine ⟨KeptFor.reason?_cases, ?_⟩
  rintro (known | ⟨unknown, shows, rfl⟩)
  · exact keptFor_of_reason?_eq_some known
  · exact .foreignArrayMember (examined_iff.2 unknown) shows

theorem kept?_settled_eq_some_iff {device : String} :
    (disk.settled settings live answer).kept? = some ⟨device, reason⟩ ↔
      disk.device = device ∧ disk.KeptFor settings live answer reason := by
  rw [keptFor_iff, ← showsForeignArray_iff, settled, choiceOn]
  cases disk.reason? settings live with
  | some known => simp [Choice.kept?]
  | none =>
    cases showsForeignArray (answer (Properties.command disk.device)) with
    | true => simp [Choice.kept?, eq_comm]
    | false => simp [Choice.kept?]

theorem settled_of_unprotected (h : disk.Unprotected settings live answer) :
    disk.settled settings live answer = .wipe disk.decision := by
  obtain ⟨known, own⟩ := unprotected_iff.1 h
  simp [settled, choiceOn, known, own]

theorem exists_settled_eq_keep (h : ¬ disk.Unprotected settings live answer) :
    ∃ reason, disk.settled settings live answer = .keep ⟨disk.device, reason⟩ := by
  rw [unprotected_iff, not_and_not_right] at h
  unfold settled choiceOn
  cases known : disk.reason? settings live with
  | some reason => exact ⟨reason, rfl⟩
  | none => exact ⟨.foreignArrayMember, if_pos (h known)⟩

end BlockDisk

def unprotectedDisks (settings : WipeSettings) (live : List String)
    (answer : Command → Except Failure Output) (disks : List BlockDisk) : List BlockDisk :=
  disks.filter (BlockDisk.Unprotected settings live answer ·)

theorem mem_unprotectedDisks {disks : List BlockDisk} {disk : BlockDisk} :
    disk ∈ unprotectedDisks settings live answer disks ↔
      disk ∈ disks ∧ disk.Unprotected settings live answer := by
  simp [unprotectedDisks]

theorem unprotectedDisks_cons_of_pos {disk : BlockDisk} (h : disk.Unprotected settings live answer)
    (rest : List BlockDisk) : unprotectedDisks settings live answer (disk :: rest) =
      disk :: unprotectedDisks settings live answer rest :=
  List.filter_cons_of_pos (by simpa using h)

theorem unprotectedDisks_cons_of_neg {disk : BlockDisk}
    (h : ¬ disk.Unprotected settings live answer) (rest : List BlockDisk) :
    unprotectedDisks settings live answer (disk :: rest) =
      unprotectedDisks settings live answer rest :=
  List.filter_cons_of_neg (by simpa using h)

theorem decisions_settled (disks : List BlockDisk) :
    decisions (disks.map (BlockDisk.settled settings live answer)) =
      (unprotectedDisks settings live answer disks).map BlockDisk.decision := by
  induction disks with
  | nil => rfl
  | cons disk rest ih =>
    simp only [decisions, List.map_cons] at ih ⊢
    by_cases h : disk.Unprotected settings live answer
    · rw [List.filterMap_cons_some (by rw [BlockDisk.settled_of_unprotected h]; rfl), ih,
        unprotectedDisks_cons_of_pos h, List.map_cons]
    · obtain ⟨reason, keep⟩ := BlockDisk.exists_settled_eq_keep h
      rw [List.filterMap_cons_none (by rw [keep]; rfl), ih, unprotectedDisks_cons_of_neg h]

theorem mem_keptDisks_settled_iff {disks : List BlockDisk} {device : String} {reason : KeepReason} :
    ⟨device, reason⟩ ∈ keptDisks (disks.map (BlockDisk.settled settings live answer)) ↔
      ∃ disk ∈ disks, disk.device = device ∧ disk.KeptFor settings live answer reason := by
  simp only [keptDisks, List.filterMap_map, List.mem_filterMap, Function.comp_apply,
    BlockDisk.kept?_settled_eq_some_iff]

theorem devices_settled (disks : List BlockDisk) :
    (disks.map BlockDisk.device).Perm
      ((unprotectedDisks settings live answer disks).map BlockDisk.device ++
        (keptDisks (disks.map (BlockDisk.settled settings live answer))).map KeptDisk.device) := by
  induction disks with
  | nil => exact .refl _
  | cons disk rest ih =>
    simp only [keptDisks, List.map_cons] at ih ⊢
    by_cases h : disk.Unprotected settings live answer
    · rw [List.filterMap_cons_none (by rw [BlockDisk.settled_of_unprotected h]; rfl),
        unprotectedDisks_cons_of_pos h, List.map_cons, List.cons_append]
      exact ih.cons _
    · obtain ⟨reason, keep⟩ := BlockDisk.exists_settled_eq_keep h
      rw [List.filterMap_cons_some (by rw [keep]; rfl), unprotectedDisks_cons_of_neg h, List.map_cons]
      exact (ih.cons _).trans List.perm_middle.symm

theorem eq_map_settled (steady : m.Steady answer) {disks : List BlockDisk} {choices : List Choice}
    (all : List.Forall₂ (ChosenFor settings live m w) disks choices) :
    choices = disks.map (BlockDisk.settled settings live answer) := by
  induction all with
  | nil => rfl
  | cons chosen _ ih =>
    obtain ⟨asked, h⟩ := chosen
    rw [List.map_cons, h, ih, steady]
    rfl

theorem chooseDisks_ensures_settled (steady : m.Steady answer) {table : String}
    {names : List String} (readable : w.files.readText settings.mountTablePath = .ok table)
    (listed : w.files.list settings.blockRoot = .ok names) :
    (chooseDisks settings).Ensures m w fun added r w' =>
      added = (BlockTree.disksNamed w.files settings.blockRoot names).flatMap
        (BlockDisk.probe settings (m.liveNames table)) ∧ w'.files = w.files ∧
      r = .ok ((BlockTree.disksNamed w.files settings.blockRoot names).map
        (BlockDisk.settled settings (m.liveNames table) answer)) := by
  refine (chooseDisks_ensures readable listed).mono ?_
  rintro added r w' _ ⟨probes, files, choices, rfl, all⟩
  exact ⟨probes, files, congrArg _ (eq_map_settled steady all)⟩

namespace WipeSummary

theorem pairwise_byDevice {α : Type} (entries : List (String × α)) :
    (byDevice entries).Pairwise fun x y => x.1 ≤ y.1 := by
  have transitive : ∀ x y z : String × α, decide (x.1 ≤ y.1) = true → decide (y.1 ≤ z.1) = true →
      decide (x.1 ≤ z.1) = true := fun x y z hxy hyz =>
    decide_eq_true (String.le_trans (of_decide_eq_true hxy) (of_decide_eq_true hyz))
  have total : ∀ x y : String × α, (decide (x.1 ≤ y.1) || decide (y.1 ≤ x.1)) = true :=
    fun x y => by simpa using String.le_total x.1 y.1
  exact (List.pairwise_mergeSort transitive total entries).imp of_decide_eq_true

theorem byDevice_congr {α : Type} {a b : List (String × α)} (h : a.Perm b)
    (same : ∀ x ∈ a, ∀ y ∈ a, x.1 = y.1 → x = y) : byDevice a = byDevice b := by
  refine List.Perm.eq_of_pairwise (fun x y hx hy hxy hyx => ?_) (pairwise_byDevice a)
    (pairwise_byDevice b)
    ((List.mergeSort_perm a _).trans (h.trans (List.mergeSort_perm b _).symm))
  have hx' : x ∈ a := List.mem_mergeSort.1 hx
  have hy' : y ∈ a := h.mem_iff.2 (List.mem_mergeSort.1 hy)
  exact same x hx' y hy' (String.le_antisymm hxy hyx)

theorem byDevice_filterMap_congr {α : Type} {f : WipeResult → Option (String × α)}
    (named : ∀ r entry, f r = some entry → entry.1 = r.decision.device) {a b : List WipeResult}
    (h : a.Perm b) (same : ∀ x ∈ a, ∀ y ∈ a, x.decision.device = y.decision.device → x = y) :
    byDevice (a.filterMap f) = byDevice (b.filterMap f) := by
  refine byDevice_congr (h.filterMap f) fun x hx y hy device => ?_
  obtain ⟨r, hr, rx⟩ := List.mem_filterMap.1 hx
  obtain ⟨s, hs, sy⟩ := List.mem_filterMap.1 hy
  rw [named r x rx, named s y sy] at device
  rw [same r hr s hs device] at rx
  exact Option.some.inj (rx.symm.trans sy)

theorem device_of_wiped? (r : WipeResult) (entry : String × WipeMethod)
    (h : r.wiped? = some entry) : entry.1 = r.decision.device := by
  unfold WipeResult.wiped? at h
  split at h
  · cases h
    rfl
  · cases h

theorem device_of_failed? (r : WipeResult) (entry : String × Failure)
    (h : r.failed? = some entry) : entry.1 = r.decision.device := by
  unfold WipeResult.failed? at h
  split at h
  · cases h
  · cases h
    rfl

theorem ofResults_congr {kept : List KeptDisk} {a b : List WipeResult} (h : a.Perm b)
    (same : ∀ x ∈ a, ∀ y ∈ a, x.decision.device = y.decision.device → x = y) :
    ofResults kept a = ofResults kept b := by
  rw [ofResults, ofResults, byDevice_filterMap_congr device_of_wiped? h same,
    byDevice_filterMap_congr device_of_failed? h same]

theorem mem_wiped_ofResults_iff {kept : List KeptDisk} {results : List WipeResult} {device : String}
    {method : WipeMethod} : (device, method) ∈ (ofResults kept results).wiped ↔
      ∃ r ∈ results, r.decision.device = device ∧ r.outcome = .ok method := by
  simp only [ofResults, byDevice, List.mem_mergeSort, List.mem_filterMap]
  refine exists_congr fun r => and_congr_right fun _ => ?_
  unfold WipeResult.wiped?
  cases r.outcome <;> simp

theorem mem_failed_ofResults_iff {kept : List KeptDisk} {results : List WipeResult} {device : String}
    {failure : Failure} : (device, failure) ∈ (ofResults kept results).failed ↔
      ∃ r ∈ results, r.decision.device = device ∧ r.outcome = .error failure := by
  simp only [ofResults, byDevice, List.mem_mergeSort, List.mem_filterMap]
  refine exists_congr fun r => and_congr_right fun _ => ?_
  unfold WipeResult.failed?
  cases r.outcome <;> simp

theorem devices_ofResults (kept : List KeptDisk) (results : List WipeResult) :
    (results.map (·.decision.device)).Perm
      ((ofResults kept results).wiped.map Prod.fst ++
        (ofResults kept results).failed.map Prod.fst) := by
  have parts : (results.map (·.decision.device)).Perm
      ((results.filterMap WipeResult.wiped?).map Prod.fst ++
        (results.filterMap WipeResult.failed?).map Prod.fst) := by
    induction results with
    | nil => exact .refl _
    | cons r rest ih =>
      obtain ⟨decision, outcome⟩ := r
      cases outcome with
      | ok method => exact ih.cons _
      | error failure => exact (ih.cons _).trans List.perm_middle.symm
  exact parts.trans (((List.mergeSort_perm _ _).map _).append ((List.mergeSort_perm _ _).map _)).symm

end WipeSummary

end NodeStorage
