import NodeStorage.Device.Properties
import NodeStorage.Plan.Written

/-! The mount table of the installed machine and the disk descriptor beside it. Devices are named by
the identifier of their filesystem. Nothing is written before every identifier is known. -/

namespace NodeStorage

open Text

structure TableEntry where
  spec : String
  mountPath : String
  type : String
  options : String
  dump : Nat := 0
  pass : Nat
  deriving DecidableEq, Repr

namespace TableEntry

def line (entry : TableEntry) : String :=
  joined " " [entry.spec, entry.mountPath, entry.type, entry.options, decimal entry.dump,
    decimal entry.pass]

end TableEntry

def tableHeader : String := "# created by provision-sys 0.1.0"

def tableText (entries : List TableEntry) : String :=
  .ofList ((tableHeader :: entries.map TableEntry.line).flatMap fun line => line.toList ++ ['\n'])

namespace FilesystemPlan

/-- When the filesystem is checked at start: the root first, memory filesystems never, all others
after the root. -/
def checkPass (plan : FilesystemPlan) : Nat :=
  if plan.mountPath = "/" then 1 else if plan.format = .tmpfs then 0 else 2

def optionsText (plan : FilesystemPlan) : String :=
  if plan.mountOptions = [] then "defaults" else joined "," plan.mountOptions

def entryWith (plan : FilesystemPlan) (spec : String) : TableEntry where
  spec := spec
  mountPath := plan.mountPath
  type := plan.format.mountType
  options := plan.optionsText
  pass := plan.checkPass

def tableEntry (plan : FilesystemPlan) : Step TableEntry :=
  if plan.format = .tmpfs then return plan.entryWith plan.format.text
  else return plan.entryWith ("UUID=" ++ (← lookUpUuid plan.device))

def isDescribed (plan : FilesystemPlan) : Bool :=
  DescriptorEntry.isRecordedLabel plan.label && plan.format != .tmpfs &&
    plan.format != .untouched

def descriptorEntry (plan : FilesystemPlan) : Step DescriptorEntry :=
  return ⟨plan.label, plan.device, plan.format, ← lookUpUuid plan.device⟩

end FilesystemPlan

def writeFile (path : Path) (content : String) : Step Unit :=
  Step.naming ("writing " ++ path.text) do
    if let some parent := path.parent? then
      Step.makeDirectories parent
    Step.writeText path content

def writeTable (plans : List FilesystemPlan) (path : Path) : Step (List TableEntry) := do
  let entries ← Step.forEach
    (fun plan => Step.naming ("fstab entry for " ++ plan.mountPath) plan.tableEntry) plans
  writeFile path (tableText entries)
  Step.note (.info ("wrote " ++ decimal entries.length ++ " entries to " ++ path.text))
  return entries

def writeDescriptor (plans : List FilesystemPlan) (path : Path) : Step (List DescriptorEntry) := do
  let entries ← Step.forEach FilesystemPlan.descriptorEntry
    (plans.filter FilesystemPlan.isDescribed)
  writeFile path (descriptorText entries)
  Step.note (.info ("wrote disk descriptor " ++ path.text))
  return entries

end NodeStorage
