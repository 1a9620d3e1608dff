import ControllerHost.HostInterface
import ControllerHost.Linker.Elf
import ControllerHost.Linker.Samples
import ControllerHost.Main
import ControllerHost.Payload.Encoding
import ControllerHost.Proofs.Host.Basic
import ControllerHost.Proofs.Slot.Exits
import ControllerHost.Proofs.Host.Step
import ControllerHost.Proofs.Host.Machine
import ControllerHost.Proofs.Slot.Events
import ControllerHost.Proofs.Host.Handles
import ControllerHost.Proofs.Slot.Visits
import ControllerHost.Proofs.Host.EffectOrder
import ControllerHost.Proofs.FileSystem.Copies
import ControllerHost.Proofs.Slot.Files
import ControllerHost.Proofs.Host.Custody
import ControllerHost.Proofs.Payload.Encoding
import ControllerHost.Proofs.Payload.Truncation
import ControllerHost.Proofs.Platform.Instances
import ControllerHost.Proofs.Platform.Contents
import ControllerHost.Proofs.Linker.Instances
import ControllerHost.Proofs.Linker.Contents
import ControllerHost.Proofs.Session.Interleaving
import ControllerHost.Proofs.Session.Isolation
import ControllerHost.Proofs.Session.Refusals
import ControllerHost.Proofs.Host.Parallel
import ControllerHost.Proofs.Session.Panics
import ControllerHost.Proofs.HostInterface.Calls
import ControllerHost.Proofs.Session.Dispatch
import ControllerHost.Proofs.CommandLine.Checking
import ControllerHost.Proofs.Host.Transparency
import ControllerHost.Proofs.Log.Capture
import ControllerHost.Proofs.Host.Trail
import ControllerHost.Proofs.Host.Sharing
import ControllerHost.Proofs.Host.SharedState
import ControllerHost.Proofs.FileSystem.CopySteps
import ControllerHost.Proofs.Host.Shutdown
import ControllerHost.Proofs.Catalog.Lending
import ControllerHost.Proofs.Host.BareNames
import ControllerHost.Proofs.Host.Calling
import ControllerHost.Proofs.Host.Warnings
import ControllerHost.Proofs.Session.Capture
import ControllerHost.Proofs.Payload.Content
import ControllerHost.Proofs.Session.Content
import ControllerHost.Proofs.Settings.RoundTrip
import ControllerHost.Proofs.FileSystem.CopyOrigins
import ControllerHost.Proofs.Payload.Reading
