import NodeStorage.Keyed
import NodeStorage.Plan.Layout
import NodeStorage.Run.Step
import NodeStorage.Text.Numeral
import NodeStorage.Text.Search

/-! Creating volume groups and logical volumes that are not there yet. What is there is listed once,
when it is first asked for, and kept up to date with every creation. -/

namespace NodeStorage

open Text

/-- Volume groups with the number of their physical volumes, and logical volumes with their groups
in front. -/
structure VolumeCatalog where
  groups : List (String × Nat) := []
  volumes : List (String × String) := []
  deriving DecidableEq, Repr, Inhabited

namespace VolumeCatalog

/-- The first two columns of a report, cut at tabs and without surrounding blanks; a line with
fewer columns is no row. -/
def row? (line : String) : Option (String × String) :=
  match (trimChars line.toList).splitOn '\t' with
  | first :: second :: _ => some (.ofList (trimChars first), .ofList (trimChars second))
  | _ => none

def rows (report : String) : List (String × String) := (lines report).filterMap row?

def groupRows (report : String) : List (String × Nat) :=
  (rows report).filterMap fun (name, count) =>
    (numeral? (Nat.pow 2 64 - 1) count).map fun n => (name, n)

def addGroup (catalog : VolumeCatalog) (name : String) (count : Nat) : VolumeCatalog :=
  { catalog with groups := Keyed.put name count catalog.groups }

def addVolume (catalog : VolumeCatalog) (group name : String) : VolumeCatalog :=
  { catalog with volumes := catalog.volumes ++ [(group, name)] }

def hasGroup (catalog : VolumeCatalog) (name : String) : Bool :=
  (catalog.groups.lookup name).isSome

def hasVolume (catalog : VolumeCatalog) (group name : String) : Bool :=
  catalog.volumes.contains (group, name)

def volumeCount (catalog : VolumeCatalog) (group : String) : Nat :=
  (catalog.groups.lookup group).getD 0

/-- Of several rows for one group the last holds. -/
def ofReports (groupReport volumeReport : String) : VolumeCatalog :=
  { groups := Keyed.ofPairs (groupRows groupReport)
    volumes := rows volumeReport }

def listCommand (tool : Tool) (columns : String) : Command :=
  ((Draft.start tool).addFlags ["--noheadings", "-o", columns, "--separator", "\t"]).build

def groupsCommand : Command := listCommand .vgs "vg_name,pv_count"

def volumesCommand : Command := listCommand .lvs "vg_name,lv_name"

def list : Step VolumeCatalog := do
  let groups ← Step.naming "listing volume groups" (Step.run groupsCommand)
  let volumes ← Step.naming "listing logical volumes" (Step.run volumesCommand)
  return ofReports groups.stdout volumes.stdout

end VolumeCatalog

/-- A session in which existing volumes are listed at most once; nothing is known before. -/
abbrev VolumeSession := Session (Option VolumeCatalog)

def knownVolumes : VolumeSession VolumeCatalog := do
  match ← Session.state with
  | some catalog => return catalog
  | none => do
    let catalog ← VolumeCatalog.list
    Session.update fun _ => some catalog
    return catalog

def recordedCount (known : Option VolumeCatalog) (group : String) : Nat :=
  match known with
  | some catalog => catalog.volumeCount group
  | none => 0

namespace VolumeGroupPlan

def createCommand (plan : VolumeGroupPlan) : Command :=
  ((Draft.start .vgcreate)
    |>.flag "--yes"
    |>.addFlags (plan.tags.flatMap fun tag => ["--addtag", tag])
    |>.flag plan.name
    |>.addOperands plan.devices).build

def create (plan : VolumeGroupPlan) : VolumeSession Unit := do
  let catalog ← knownVolumes
  if catalog.hasGroup plan.name then
    Step.note (.info ("volume group " ++ plan.name ++ " already exists, skipping"))
  else do
    Step.note (.info ("creating volume group " ++ plan.name ++ " over " ++
      joined ", " plan.devices))
    let _ ← Step.naming ("volume group " ++ plan.name) (Step.run plan.createCommand)
    Session.update fun _ => some (catalog.addGroup plan.name plan.devices.length)

end VolumeGroupPlan

namespace LogicalVolumePlan

def isDowngraded (plan : LogicalVolumePlan) (count : Nat) : Bool :=
  plan.allocation.needsSeveralVolumes && decide (count < 2)

def resolved (plan : LogicalVolumePlan) (count : Nat) : Allocation :=
  if plan.isDowngraded count then .linear else plan.allocation

def downgraded (plan : LogicalVolumePlan) (count : Nat) : Notice :=
  .warning ("volume group " ++ plan.group ++ " has " ++ decimal count ++
    " physical volume(s); creating " ++ plan.name ++ " as linear instead of " ++
    plan.allocation.text)

def resolve (plan : LogicalVolumePlan) (count : Nat) : Step Allocation := do
  if plan.isDowngraded count then
    Step.note (plan.downgraded count)
  return plan.resolved count

def sizeFlags (plan : LogicalVolumePlan) : List String :=
  match plan.explicitSize with
  | some size => ["--size", decimal size ++ "m"]
  | none => ["--extents", "100%FREE"]

def typeFlags (allocation : Allocation) (count : Nat) : List String :=
  match allocation with
  | .linear => ["--type", "linear"]
  | .striped => ["--type", "striped", "--stripes", decimal count]
  | .mirrored => ["--type", "raid1", "--mirrors", "1", "--nosync"]

def createCommand (plan : LogicalVolumePlan) (allocation : Allocation) (count : Nat) : Command :=
  ((Draft.start .lvcreate)
    |>.addFlags ["--yes", "--wipesignatures", "y"]
    |>.addFlags ["--name", plan.name]
    |>.addFlags plan.sizeFlags
    |>.addFlags (typeFlags allocation count)
    |>.operand plan.group).build

def fullName (plan : LogicalVolumePlan) : String := plan.group ++ "/" ++ plan.name

def create (plan : LogicalVolumePlan) : VolumeSession Unit := do
  let catalog ← knownVolumes
  if catalog.hasVolume plan.group plan.name then
    Step.note (.info ("logical volume " ++ plan.fullName ++ " already exists, skipping"))
  else do
    let count := catalog.volumeCount plan.group
    let allocation ← plan.resolve count
    Step.note (.info ("creating " ++ allocation.text ++ " logical volume " ++ plan.fullName))
    let _ ← Step.naming ("logical volume " ++ plan.fullName)
      (Step.run (plan.createCommand allocation count))
    Session.update fun _ => some (catalog.addVolume plan.group plan.name)

end LogicalVolumePlan

def createGroups (plans : List VolumeGroupPlan) : VolumeSession Unit :=
  Session.forEach VolumeGroupPlan.create plans

def createVolumes (plans : List LogicalVolumePlan) : VolumeSession Unit :=
  Session.forEach LogicalVolumePlan.create plans

end NodeStorage
