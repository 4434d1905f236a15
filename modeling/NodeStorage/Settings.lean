import NodeStorage.Build.Devices
import NodeStorage.Plan.Read
import NodeStorage.Wipe.Choice

/-! Settings of a provisioning run, and reading them and the layout from files. A field that the
settings file does not mention has its default; a layout file is JSON if its name says so and TOML
otherwise. -/

namespace NodeStorage

open Document Text

structure Settings where
  targetRoot : Path := ⟨"/target"⟩
  tablePath : Path := ⟨"etc/fstab"⟩
  descriptorPath : Path := ⟨"etc/provision/disk.json"⟩
  firmwareVariablesPath : Path := ⟨"/sys/firmware/efi/efivars"⟩
  resync : ResyncSettings := {}
  wipe : WipeSettings := {}
  deriving DecidableEq, Repr, Inhabited

def path? (v : Document) : Option Path := v.text?.map Path.mk

def ResyncSettings.ofDocument? (v : Document) : Option ResyncSettings := do
  let slots ← v.leadingSlots? [["speed_limit_min"], ["speed_limit_path"]]
  let default : ResyncSettings := {}
  match slots with
  | [speedLimit, speedLimitPath] =>
    return {
      speedLimit := ← orElse default.speedLimit (natural? greatestWord) speedLimit
      speedLimitPath := ← orElse default.speedLimitPath path? speedLimitPath }
  | _ => none

def WipeSettings.ofDocument? (v : Document) : Option WipeSettings := do
  let slots ← v.leadingSlots?
    [["ignore_prefixes"], ["block_size"], ["sysfs_block_root"], ["mountinfo_path"]]
  let default : WipeSettings := {}
  match slots with
  | [ignoredPrefixes, blockSize, blockRoot, mountTablePath] =>
    return {
      ignoredPrefixes := ← orElse default.ignoredPrefixes texts? ignoredPrefixes
      blockSize := ← orElse default.blockSize (natural? greatestWord) blockSize
      blockRoot := ← orElse default.blockRoot path? blockRoot
      mountTablePath := ← orElse default.mountTablePath path? mountTablePath }
  | _ => none

namespace Settings

def ofDocument? (v : Document) : Option Settings := do
  let slots ← v.leadingSlots?
    [["target_root"], ["fstab_path"], ["disk_descriptor_path"], ["efivars_path"], ["raid"],
      ["wipe"]]
  let default : Settings := {}
  match slots with
  | [targetRoot, tablePath, descriptorPath, firmwareVariablesPath, resync, wipe] =>
    return {
      targetRoot := ← orElse default.targetRoot path? targetRoot
      tablePath := ← orElse default.tablePath path? tablePath
      descriptorPath := ← orElse default.descriptorPath path? descriptorPath
      firmwareVariablesPath := ← orElse default.firmwareVariablesPath path? firmwareVariablesPath
      resync := ← orElse default.resync ResyncSettings.ofDocument? resync
      wipe := ← orElse default.wipe WipeSettings.ofDocument? wipe }
  | _ => none

def ofToml? (s : String) : Option Settings := (Toml.read? s).bind ofDocument?

def inTarget (settings : Settings) (p : Path) : Path := settings.targetRoot.within p

def malformedDetail : String := "TOML parse error: the text is not a table of settings"

def ofText (s : String) : Except SettingsFault Settings :=
  match ofToml? s with
  | none => .error (.malformed malformedDetail)
  | some settings =>
    if settings.wipe.blockSize = 0 then .error .zeroBlockSize else .ok settings

end Settings

def readSettingsFile (path : Path) : Step String := do
  match ← Step.look (·.readText path) with
  | .ok content => return content
  | .error fault => Step.fail (.invalidSettings path (.unreadable fault))

/-- The settings of a file, or the defaults where no file is named. -/
def Settings.load : Option Path → Step Settings
  | none => return {}
  | some path => do
    let text ← readSettingsFile path
    Step.ofExcept ((Settings.ofText text).mapError (.invalidSettings path))

def Path.isJson (path : Path) : Bool :=
  match path.extension? with
  | some extension => extension.toList.map Char.toLower == "json".toList
  | none => false

def Layout.load (path : Path) : Step Layout := do
  let text ← readSettingsFile path
  let layout := if path.isJson then Layout.ofJson text else Layout.ofToml text
  Step.ofExcept (layout.mapError Failure.ofLayoutFault)

end NodeStorage
