import NodeStorage.Json.Text
import NodeStorage.Plan.Layout

/-! Layouts and disk descriptors as documents. Every field is written, in order of declaration;
enumerations have one spelling each, and an absent value is `null`. -/

namespace NodeStorage

namespace Document

def ofTexts (texts : List String) : Document := .list (texts.map .text)

def ofOption (write : α → Document) : Option α → Document
  | none => .null
  | some value => write value

end Document

open Document

def PartitionPlan.document (plan : PartitionPlan) : Document :=
  .record [
    ("number", .integer plan.number.toNat),
    ("label", .text plan.label),
    ("size_mib", ofOption (.integer ·.toInt) plan.sizeMib),
    ("gpt_type", .text plan.gptType.code),
    ("gpt_guid", ofOption .text plan.guid)]

def DiskPlan.document (plan : DiskPlan) : Document :=
  .record [
    ("device", .text plan.device),
    ("wipe_on_reinstall", .bool plan.wipeOnReinstall),
    ("partitions", .list (plan.partitions.map PartitionPlan.document))]

def ArrayPlan.document (plan : ArrayPlan) : Document :=
  .record [
    ("name", .text plan.name),
    ("level", .text plan.level),
    ("devices", ofTexts plan.devices),
    ("spares", .integer plan.spares.toNat),
    ("options", ofTexts plan.options)]

def VolumeGroupPlan.document (plan : VolumeGroupPlan) : Document :=
  .record [
    ("name", .text plan.name),
    ("devices", ofTexts plan.devices),
    ("tags", ofTexts plan.tags)]

def LogicalVolumePlan.document (plan : LogicalVolumePlan) : Document :=
  .record [
    ("name", .text plan.name),
    ("volume_group", .text plan.group),
    ("size_mib", ofOption (fun size => .integer size.toNat) plan.sizeMib),
    ("allocation", .text plan.allocation.text)]

def FilesystemPlan.document (plan : FilesystemPlan) : Document :=
  .record [
    ("device", .text plan.device),
    ("format", .text plan.format.text),
    ("mount_path", .text plan.mountPath),
    ("label", .text plan.label),
    ("mount_options", ofTexts plan.mountOptions),
    ("create_options", ofTexts plan.createOptions)]

def Layout.document (layout : Layout) : Document :=
  .record [
    ("disks", .list (layout.disks.map DiskPlan.document)),
    ("raids", .list (layout.arrays.map ArrayPlan.document)),
    ("volume_groups", .list (layout.groups.map VolumeGroupPlan.document)),
    ("logical_volumes", .list (layout.volumes.map LogicalVolumePlan.document)),
    ("filesystems", .list (layout.filesystems.map FilesystemPlan.document))]

def DescriptorEntry.document (entry : DescriptorEntry) : Document :=
  .record [
    ("label", .text entry.label),
    ("device", .text entry.device),
    ("format", .text entry.format.text),
    ("uuid", .text entry.uuid)]

def Layout.pretty (layout : Layout) : String := Json.pretty layout.document

def descriptorText (entries : List DescriptorEntry) : String :=
  Json.pretty (.list (entries.map DescriptorEntry.document))

end NodeStorage
