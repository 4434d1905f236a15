import NodeStorage.Document
import NodeStorage.Json.Reader
import NodeStorage.Plan.Layout
import NodeStorage.Plan.Validity
import NodeStorage.Toml.Reader

/-! Layouts from documents, and from JSON and TOML text. Before a document is read as a layout, the
texts that must name a format, an allocation or a partition type are looked up, so that a name
unknown here is reported as such. -/

namespace NodeStorage

open Document

def greatestWord : Nat := Nat.pow 2 64 - 1

def format? (v : Document) : Option FilesystemFormat := v.text?.bind FilesystemFormat.ofText?

def gptType? (v : Document) : Option GptType := v.text?.bind GptType.ofText?

def allocation? (v : Document) : Option Allocation := v.text?.bind Allocation.ofText?

def PartitionPlan.ofDocument? (v : Document) : Option PartitionPlan := do
  let slots ← v.slots? [["number"], ["label"], ["size_mib"], ["gpt_type"], ["gpt_guid"]]
  match slots with
  | [number, label, size, gptType, guid] =>
    return {
      number := .ofNat (← required (natural? (Nat.pow 2 32 - 1)) number)
      label := ← orElse "" text? label
      sizeMib := (← orElse none (optional? (integer? (-Nat.pow 2 63) (Nat.pow 2 63 - 1))) size).map .ofInt
      gptType := ← required gptType? gptType
      guid := ← orElse none (optional? text?) guid }
  | _ => none

def DiskPlan.ofDocument? (v : Document) : Option DiskPlan := do
  let slots ← v.slots? [["device"], ["wipe_on_reinstall", "Wipeonreinstall"], ["partitions"]]
  match slots with
  | [device, wipe, partitions] =>
    return {
      device := ← required text? device
      wipeOnReinstall := ← orElse false bool? wipe
      partitions := ← orElse [] (listOf? PartitionPlan.ofDocument?) partitions }
  | _ => none

def ArrayPlan.ofDocument? (v : Document) : Option ArrayPlan := do
  let slots ← v.slots? [["name"], ["level"], ["devices"], ["spares"], ["options"]]
  match slots with
  | [name, level, devices, spares, options] =>
    return {
      name := ← required text? name
      level := ← required text? level
      devices := ← required texts? devices
      spares := .ofNat (← orElse 0 (natural? greatestWord) spares)
      options := ← orElse [] texts? options }
  | _ => none

def VolumeGroupPlan.ofDocument? (v : Document) : Option VolumeGroupPlan := do
  let slots ← v.slots? [["name"], ["devices"], ["tags"]]
  match slots with
  | [name, devices, tags] =>
    return {
      name := ← required text? name
      devices := ← required texts? devices
      tags := ← orElse [] texts? tags }
  | _ => none

def LogicalVolumePlan.ofDocument? (v : Document) : Option LogicalVolumePlan := do
  let slots ← v.slots? [["name"], ["volume_group"], ["size_mib"], ["allocation"]]
  match slots with
  | [name, group, size, allocation] =>
    return {
      name := ← required text? name
      group := ← required text? group
      sizeMib := (← orElse none (optional? (natural? greatestWord)) size).map .ofNat
      allocation := ← orElse .linear allocation? allocation }
  | _ => none

def FilesystemPlan.ofDocument? (v : Document) : Option FilesystemPlan := do
  let slots ← v.slots?
    [["device"], ["format"], ["mount_path"], ["label"], ["mount_options"], ["create_options"]]
  match slots with
  | [device, format, mountPath, label, mountOptions, createOptions] =>
    return {
      device := ← required text? device
      format := ← orElse .untouched format? format
      mountPath := ← orElse "" text? mountPath
      label := ← orElse "" text? label
      mountOptions := ← orElse [] texts? mountOptions
      createOptions := ← orElse [] texts? createOptions }
  | _ => none

def DescriptorEntry.ofDocument? (v : Document) : Option DescriptorEntry := do
  let slots ← v.slots? [["label"], ["device"], ["format"], ["uuid"]]
  match slots with
  | [label, device, format, uuid] =>
    return {
      label := ← required text? label
      device := ← required text? device
      format := ← required format? format
      uuid := ← required text? uuid }
  | _ => none

def Layout.ofDocument? (v : Document) : Option Layout := do
  let slots ← v.slots?
    [["disks"], ["raids"], ["volume_groups"], ["logical_volumes"], ["filesystems"]]
  match slots with
  | [disks, arrays, groups, volumes, filesystems] =>
    return {
      disks := ← orElse [] (listOf? DiskPlan.ofDocument?) disks
      arrays := ← orElse [] (listOf? ArrayPlan.ofDocument?) arrays
      groups := ← orElse [] (listOf? VolumeGroupPlan.ofDocument?) groups
      volumes := ← orElse [] (listOf? LogicalVolumePlan.ofDocument?) volumes
      filesystems := ← orElse [] (listOf? FilesystemPlan.ofDocument?) filesystems }
  | _ => none

namespace Document

def entries (key : String) (v : Document) : List Document := ((v.field? key).bind items?).getD []

/-- The text under a key, if a record has one there and `read` makes nothing of it. -/
def unread? (key : String) (read : String → Option α) (v : Document) : Option String :=
  ((v.field? key).bind text?).bind fun s => if (read s).isNone then some s else none

/-- The first name in the document that names nothing: formats first, then allocations, then
partition types. Only fields written by name are looked at. -/
def unsupported? (v : Document) : Option LayoutFault :=
  ((v.entries "filesystems").findSome? (unread? "format" FilesystemFormat.ofText?)).map
      .unsupportedFormat <|>
    ((v.entries "logical_volumes").findSome? (unread? "allocation" Allocation.ofText?)).map
      .unsupportedAllocation <|>
    ((v.entries "disks").findSome? fun disk =>
      (disk.entries "partitions").findSome? (unread? "gpt_type" GptType.ofText?)).map
      .unsupportedGptType

end Document

namespace Layout

def ofDocument (v : Document) : Except LayoutFault Layout :=
  match v.unsupported? with
  | some fault => .error fault
  | none =>
    match ofDocument? v with
    | some layout => .ok layout
    | none => .error (.malformed "the document is not a storage layout")

theorem ofDocument_eq_ok_iff (v : Document) (layout : Layout) :
    ofDocument v = .ok layout ↔ v.unsupported? = none ∧ ofDocument? v = some layout := by
  cases h : v.unsupported? <;> cases d : ofDocument? v <;> simp [ofDocument, h, d]

def ofJson (s : String) : Except LayoutFault Layout :=
  match Json.read? s with
  | some v => ofDocument v
  | none => .error (.malformed "the text is not JSON")

/-- Every number must be readable and every integer have 64 bits, also where the layout does not
look. -/
def ofToml (s : String) : Except LayoutFault Layout :=
  match Toml.read? s with
  | some v =>
    if v.numbersWithin (-Nat.pow 2 63) (Nat.pow 2 64 - 1) then ofDocument v
    else .error (.malformed "a number is too large")
  | none => .error (.malformed "the text is not TOML")

end Layout

end NodeStorage
