import NodeStorage.Proofs.Text.Numeral
import NodeStorage.Proofs.Volumes.Resuming

/-! Which allocation a session asks for. The command for a logical volume goes by the number of
physical volumes that is recorded for its group at that moment: striped and mirrored volumes are asked
for only where there are two, and a warning says where a volume becomes linear instead. -/

namespace NodeStorage

open Text VolumeCatalog

def Allocation.typeName : Allocation → String
  | linear => "linear"
  | striped => "striped"
  | mirrored => "raid1"

/-- The command asks for a logical volume with this allocation. -/
def Command.AsksFor (command : Command) (allocation : Allocation) : Prop :=
  command.tool = .lvcreate ∧ ["--type", allocation.typeName] <:+: command.args

instance (command : Command) (allocation : Allocation) : Decidable (command.AsksFor allocation) :=
  inferInstanceAs (Decidable (_ ∧ _))

def Command.AsksForStripes (command : Command) (count : String) : Prop :=
  command.tool = .lvcreate ∧ ["--type", "striped", "--stripes", count] <:+: command.args

theorem decimal_ne_of_mem {n : Nat} {s : String} {c : Char} (mem : c ∈ s.toList)
    (other : isDigit c = false) : decimal n ≠ s := by
  rintro rfl
  rw [decimal, String.toList_ofList] at mem
  exact absurd (isDigit_of_mem_toDigits mem) (Bool.eq_false_iff.1 other)

namespace LogicalVolumePlan

variable (plan : LogicalVolumePlan) (count : Nat)

theorem createCommand_asksFor_iff (allocation asked : Allocation) :
    (plan.createCommand allocation count).AsksFor asked ↔ asked = allocation := by
  have digits : "--type" ≠ decimal count := (decimal_ne_of_mem (c := '-') (by decide) rfl).symm
  have tool : (plan.createCommand allocation count).tool = .lvcreate := rfl
  rw [Command.AsksFor, and_iff_right tool]
  cases size : plan.explicitSize <;> cases allocation <;> cases asked <;>
    simp [createCommand, Draft.build, Draft.start, Draft.addFlags, Draft.operand, sizeFlags, typeFlags,
      size, Allocation.typeName, List.infix_cons_iff, List.cons_prefix_cons, digits]

theorem createCommand_asksForStripes_iff (allocation : Allocation) (stripes : String) :
    (plan.createCommand allocation count).AsksForStripes stripes ↔
      allocation = .striped ∧ stripes = decimal count := by
  have tool : (plan.createCommand allocation count).tool = .lvcreate := rfl
  rw [Command.AsksForStripes, and_iff_right tool]
  cases size : plan.explicitSize <;> cases allocation <;>
    simp [createCommand, Draft.build, Draft.start, Draft.addFlags, Draft.operand, sizeFlags, typeFlags,
      size, List.infix_cons_iff, List.cons_prefix_cons]

theorem isDowngraded_iff :
    plan.isDowngraded count = true ↔ plan.allocation ≠ .linear ∧ count < 2 := by
  rw [isDowngraded, Bool.and_eq_true, decide_eq_true_iff]
  cases plan.allocation <;> simp [Allocation.needsSeveralVolumes]

theorem resolved_eq_linear_iff :
    plan.resolved count = .linear ↔ plan.allocation = .linear ∨ count < 2 := by
  rw [resolved]
  split
  · next down => exact iff_of_true rfl (.inr ((plan.isDowngraded_iff count).1 down).2)
  · next up =>
    rw [plan.isDowngraded_iff, not_and] at up
    exact ⟨.inl, fun h => h.elim id fun few => by_contra fun other => up other few⟩

theorem resolved_eq_iff {allocation : Allocation} (several : allocation ≠ .linear) :
    plan.resolved count = allocation ↔ plan.allocation = allocation ∧ 2 ≤ count := by
  rw [resolved]
  split
  · next down =>
    have few := ((plan.isDowngraded_iff count).1 down).2
    exact iff_of_false several.symm fun h => absurd few (Nat.not_lt.2 h.2)
  · next up =>
    rw [plan.isDowngraded_iff, not_and, Nat.not_lt] at up
    exact ⟨fun same => ⟨same, up (same ▸ several)⟩, And.left⟩

theorem commandFor_asksFor_iff (asked : Allocation) :
    (plan.commandFor count).AsksFor asked ↔ plan.resolved count = asked := by
  rw [commandFor, createCommand_asksFor_iff]
  exact eq_comm

end LogicalVolumePlan

/-- A logical volume that is asked for, with the number of physical volumes that is recorded for its
group at that moment. -/
structure VolumeRequest where
  plan : LogicalVolumePlan
  count : Nat
  command : Command
  deriving DecidableEq, Repr

namespace VolumeRequest

def IsDowngraded (request : VolumeRequest) : Prop := ¬ request.command.AsksFor request.plan.allocation

instance (request : VolumeRequest) : Decidable request.IsDowngraded := inferInstanceAs (Decidable (¬ _))

def warning (request : VolumeRequest) : Notice where
  level := .warning
  text := "volume group " ++ request.plan.group ++ " has " ++ decimal request.count ++
    " physical volume(s); creating " ++ request.plan.name ++ " as linear instead of " ++
    match request.plan.allocation with
    | .linear => "linear"
    | .striped => "striped"
    | .mirrored => "mirrored"

theorem warning_eq_downgraded (request : VolumeRequest) :
    request.warning = request.plan.downgraded request.count := by
  unfold warning LogicalVolumePlan.downgraded
  cases request.plan.allocation <;> rfl

structure Allocated (request : VolumeRequest) : Prop where
  command : ∃ allocation, request.command = request.plan.createCommand allocation request.count
  striped_iff : request.command.AsksFor .striped ↔
    request.plan.allocation = .striped ∧ 2 ≤ request.count
  mirrored_iff : request.command.AsksFor .mirrored ↔
    request.plan.allocation = .mirrored ∧ 2 ≤ request.count
  linear_iff : request.command.AsksFor .linear ↔
    request.plan.allocation = .linear ∨ request.count < 2
  stripes_iff : ∀ stripes, request.command.AsksForStripes stripes ↔
    (request.plan.allocation = .striped ∧ 2 ≤ request.count) ∧ stripes = decimal request.count
  downgraded_iff : request.IsDowngraded ↔ request.plan.allocation ≠ .linear ∧ request.count < 2

section Request

variable {request : VolumeRequest} (h : request.command = request.plan.commandFor request.count)

include h

theorem isDowngraded_iff :
    request.IsDowngraded ↔ request.plan.isDowngraded request.count = true := by
  rw [IsDowngraded, h, LogicalVolumePlan.commandFor_asksFor_iff, LogicalVolumePlan.resolved]
  split
  · next down =>
    have several := ((request.plan.isDowngraded_iff request.count).1 down).1
    exact iff_of_true several.symm down
  · next up => exact iff_of_false (not_not.2 rfl) up

theorem allocated : request.Allocated := by
  have several : ∀ {allocation : Allocation}, allocation ≠ .linear →
      (request.command.AsksFor allocation ↔
        request.plan.allocation = allocation ∧ 2 ≤ request.count) := by
    intro allocation other
    rw [h, LogicalVolumePlan.commandFor_asksFor_iff]
    exact request.plan.resolved_eq_iff request.count other
  refine ⟨⟨_, h⟩, several nofun, several nofun, ?_, fun stripes => ?_, ?_⟩
  · rw [h, LogicalVolumePlan.commandFor_asksFor_iff]
    exact request.plan.resolved_eq_linear_iff request.count
  · rw [h, LogicalVolumePlan.commandFor, LogicalVolumePlan.createCommand_asksForStripes_iff]
    exact and_congr_left' (request.plan.resolved_eq_iff request.count nofun)
  · rw [isDowngraded_iff h]
    exact request.plan.isDowngraded_iff request.count

end Request

end VolumeRequest

def VolumeAct.request? (before : Option VolumeCatalog) : VolumeAct → Option VolumeRequest
  | created (.volume plan) command | refused (.volume plan) command =>
    some ⟨plan, recordedCount before plan.group, command⟩
  | _ => none

def requestsOf : Option VolumeCatalog → List VolumeAct → List VolumeRequest
  | _, [] => []
  | known, act :: rest => (act.request? known).toList ++ requestsOf (act.known known) rest

theorem requestsOf_concat (known : Option VolumeCatalog) (acts : List VolumeAct) (act : VolumeAct) :
    requestsOf known (acts ++ [act]) =
      requestsOf known acts ++ (act.request? (knownAfter known acts)).toList := by
  induction acts generalizing known with
  | nil => exact List.append_nil _
  | cons first rest ih =>
    rw [List.cons_append, requestsOf, ih, requestsOf, List.append_assoc]
    rfl

theorem noticesOf_concat (known : Option VolumeCatalog) (acts : List VolumeAct) (act : VolumeAct) :
    noticesOf known (acts ++ [act]) = noticesOf known acts ++ act.notices (knownAfter known acts) := by
  rw [noticesOf_append, noticesOf, noticesOf, List.append_nil]

def volumeCommands (events : List Event) : List Command :=
  events.filterMap fun
    | .command command => if command.tool = .lvcreate then some command else none
    | _ => none

theorem volumeCommands_append (first second : List Event) :
    volumeCommands (first ++ second) = volumeCommands first ++ volumeCommands second :=
  List.filterMap_append

def warnings (notices : List Notice) : List Notice := notices.filter (·.level = .warning)

theorem warnings_append (first second : List Notice) :
    warnings (first ++ second) = warnings first ++ warnings second :=
  List.filter_append ..

/-- The requests are the commands for logical volumes among the events, and the warnings are about
those that are downgraded. -/
structure RequestsFit (requests : List VolumeRequest) (events : List Event) (notices : List Notice) :
    Prop where
  allocated : ∀ request ∈ requests, request.Allocated
  commands : volumeCommands events = requests.map VolumeRequest.command
  warnings : warnings notices =
    (requests.filter fun request => request.IsDowngraded).map VolumeRequest.warning

namespace RequestsFit

variable {events later : List Event} {notices more : List Notice}

theorem nil (commands : volumeCommands events = []) (silent : NodeStorage.warnings notices = []) :
    RequestsFit [] events notices :=
  ⟨nofun, commands, silent⟩

theorem append {requests others : List VolumeRequest} (h : RequestsFit requests events notices)
    (h' : RequestsFit others later more) :
    RequestsFit (requests ++ others) (events ++ later) (notices ++ more) where
  allocated := List.forall_mem_append.2 ⟨h.allocated, h'.allocated⟩
  commands := by rw [volumeCommands_append, h.commands, h'.commands, List.map_append]
  warnings := by
    rw [warnings_append, h.warnings, h'.warnings, List.filter_append, List.map_append]

theorem single (request : VolumeRequest)
    (h : request.command = request.plan.commandFor request.count) (text : String) :
    RequestsFit [request] [.command request.command]
      ((if request.plan.isDowngraded request.count then [request.plan.downgraded request.count]
        else []) ++ [.info text]) where
  allocated := List.forall_mem_singleton.2 (VolumeRequest.allocated h)
  commands := by
    have tool : request.command.tool = .lvcreate := by rw [h]; rfl
    simp [volumeCommands, tool]
  warnings := by
    have same := VolumeRequest.isDowngraded_iff h
    split
    · next down => simp [NodeStorage.warnings, same.2 down, VolumeRequest.warning_eq_downgraded,
        LogicalVolumePlan.downgraded, Notice.warning, Notice.info]
    · next up => simp [NodeStorage.warnings, mt same.1 up, Notice.info]

end RequestsFit

theorem VolumeAct.Happens.requestsFit {m : Machine} {before : List Event}
    {known : Option VolumeCatalog} {act : VolumeAct} (h : act.Happens m before known) :
    RequestsFit (act.request? known).toList act.events (act.notices known) := by
  cases h with
  | listed | groupsUnlisted | volumesUnlisted => exact .nil rfl rfl
  | @kept _ object => cases object <;> exact .nil rfl rfl
  | @created catalog object | @refused catalog object =>
    cases object with
    | group plan => exact .nil rfl rfl
    | volume plan =>
      exact .single ⟨plan, catalog.volumeCount plan.group, _⟩ rfl _

theorem Course.requestsFit {m : Machine} {before : List Event} {known : Option VolumeCatalog}
    {acts : List VolumeAct} (h : Course m before known acts) :
    RequestsFit (requestsOf known acts) (eventsOf acts) (noticesOf known acts) := by
  induction h with
  | start => exact .nil rfl rfl
  | @next past act _ happens ih =>
    rw [requestsOf_concat, eventsOf_append, noticesOf_concat]
    have last := happens.requestsFit
    rw [← List.flatMap_singleton VolumeAct.events act] at last
    exact ih.append last

theorem VolumeAct.request?_spec {known : Option VolumeCatalog} {act : VolumeAct}
    {request : VolumeRequest} (h : act.request? known = some request) :
    act.object? = some (.volume request.plan) ∧
      request.count = recordedCount known request.plan.group := by
  cases act with
  | listed | unlisted | kept => cases h
  | created object | refused object =>
    cases object with
    | group plan => cases h
    | volume plan =>
      cases h
      exact ⟨rfl, rfl⟩

theorem exists_split_of_mem_requestsOf {known : Option VolumeCatalog} {acts : List VolumeAct}
    {request : VolumeRequest} (h : request ∈ requestsOf known acts) :
    ∃ past act later, acts = past ++ act :: later ∧
      act.request? (knownAfter known past) = some request := by
  induction acts generalizing known with
  | nil => cases h
  | cons act rest ih =>
    rcases List.mem_append.1 h with first | others
    · exact ⟨[], act, rest, rfl, Option.mem_toList.1 first⟩
    · obtain ⟨past, own, later, rfl, asked⟩ := ih others
      exact ⟨act :: past, own, later, rfl, asked⟩

/-- What a session for these plans asks for, and what it says. -/
structure AllocationAccount (m : Machine) (plans : List LogicalVolumePlan) (w w' : World)
    (acts : List VolumeAct) : Prop where
  account : VolumeAccount m w.events acts
  events : w'.events = w.events ++ eventsOf acts
  notices : w'.notices = w.notices ++ noticesOf none acts
  planned : ∀ request ∈ requestsOf none acts, request.plan ∈ plans
  counted : ∀ request ∈ requestsOf none acts, ∃ past act later, acts = past ++ act :: later ∧
    act.request? (knownAfter none past) = some request ∧
      request.count = recordedCount (knownAfter none past) request.plan.group
  requests : RequestsFit (requestsOf none acts) (eventsOf acts) (noticesOf none acts)

theorem Course.allocationAccount {m : Machine} {plans : List LogicalVolumePlan} {w w' : World}
    {acts : List VolumeAct} (course : Course m w.events none acts)
    (events : w'.events = w.events ++ eventsOf acts)
    (notices : w'.notices = w.notices ++ noticesOf none acts)
    (planned : ∀ plan, .volume plan ∈ acts.filterMap VolumeAct.object? → plan ∈ plans) :
    AllocationAccount m plans w w' acts where
  account := course.volumeAccount
  events := events
  notices := notices
  planned request mem := by
    obtain ⟨past, act, later, rfl, asked⟩ := exists_split_of_mem_requestsOf mem
    have inside : act ∈ past ++ act :: later := List.mem_append_right past List.mem_cons_self
    exact planned _ (List.mem_filterMap.2 ⟨act, inside, (VolumeAct.request?_spec asked).1⟩)
  counted request mem := by
    obtain ⟨past, act, later, parts, asked⟩ := exists_split_of_mem_requestsOf mem
    exact ⟨past, act, later, parts, asked, (VolumeAct.request?_spec asked).2⟩
  requests := course.requestsFit

def VolumeCall.volumePlans : VolumeCall → List LogicalVolumePlan
  | groups _ => []
  | volumes plans => plans

theorem VolumeCall.mem_volumePlans {call : VolumeCall} {plan : LogicalVolumePlan}
    (h : .volume plan ∈ call.objects) : plan ∈ call.volumePlans := by
  cases call with
  | groups plans => simp [objects] at h
  | volumes plans => simpa [objects, volumePlans] using h

theorem Recorded.planned {m : Machine} {calls : List VolumeCall} {s : Option VolumeCatalog} {w : World}
    {records : List CallRecord} (h : Recorded m calls s w records) {plan : LogicalVolumePlan}
    (mem : .volume plan ∈ (actsOf records).filterMap VolumeAct.object?) :
    plan ∈ calls.flatMap VolumeCall.volumePlans := by
  obtain ⟨act, inside, own⟩ := List.mem_filterMap.1 mem
  obtain ⟨record, known, inRecord⟩ := List.mem_flatMap.1 inside
  have turn := (h.sound record known).turns.subset (List.mem_filterMap.2 ⟨act, inRecord, own⟩)
  have listed : record.objects ∈ calls.map VolumeCall.objects := by
    rw [← h.objects]
    exact List.mem_map_of_mem known
  obtain ⟨call, called, same⟩ := List.mem_map.1 listed
  rw [← same] at turn
  exact List.mem_flatMap.2 ⟨call, called, VolumeCall.mem_volumePlans turn⟩

/-- Whatever a session is called for and however the machine answers, a logical volume is striped or
mirrored only where that is planned and two physical volumes are recorded for its group, and each one
that becomes linear instead is warned of once. So it is for both phases of a layout. -/
theorem volumes_allocated :
    (∀ m calls w, ∃ records, Recorded m calls none w records ∧
      AllocationAccount m (calls.flatMap VolumeCall.volumePlans) w (performAll m calls none w).2.2
        (actsOf records)) ∧
    ∀ (m : Machine) (layout : Layout) (w : World), ∃ acts,
      AllocationAccount m layout.volumes w (Session.whole none layout.buildVolumes m w).2 acts := by
  refine ⟨fun m calls w => ?_, fun m layout w => ?_⟩
  · obtain ⟨records, recorded, notices⟩ := exists_recorded_notices m calls none w
    exact ⟨records, recorded, recorded.course.allocationAccount recorded.events notices
      fun _ => recorded.planned⟩
  · obtain ⟨_, events, acts, rfl, -, course, attended, notices⟩ :=
      forEach_create_ensures (m := m) layout.plannedObjects none w
    rw [← layout.buildVolumes_eq] at events notices
    refine ⟨acts, course.allocationAccount events notices fun plan mem => ?_⟩
    have planned := attended.sound.turns.subset mem
    simpa [Layout.plannedObjects] using planned

end NodeStorage
