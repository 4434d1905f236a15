import NodeStorage.Main
import NodeStorage.Proofs.Preflight
import NodeStorage.Proofs.Command
import NodeStorage.Proofs.Failure
import NodeStorage.Proofs.Plan.Validity
import NodeStorage.Proofs.Plan.RoundTrip
import NodeStorage.Proofs.Plan.UnknownNames
import NodeStorage.Proofs.Wipe.Protection
import NodeStorage.Proofs.Wipe.SideBySide
import NodeStorage.Proofs.Wipe.Overwriting
import NodeStorage.Proofs.Wipe.MountTable
import NodeStorage.Proofs.Wipe.Unrelated
import NodeStorage.Proofs.Build.TableArguments
import NodeStorage.Proofs.Build.ArrayArguments
import NodeStorage.Proofs.Provision.Stages
import NodeStorage.Proofs.Provision.Unmounting
import NodeStorage.Proofs.Provision.Outputs
import NodeStorage.Proofs.Provision.Confinement
import NodeStorage.Proofs.Provision.Hiding
import NodeStorage.Proofs.Target.MountCalls
import NodeStorage.Proofs.Target.TableReadBack
import NodeStorage.Proofs.Target.OptionSplit
import NodeStorage.Proofs.Target.CheckPass
import NodeStorage.Proofs.Target.Identification
import NodeStorage.Proofs.Volumes.Allocation
import NodeStorage.Proofs.Device.Export
