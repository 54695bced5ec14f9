import NomadCsi.Lib.Go

/-!
# The neutral request, response and error types

What the CSI layer hands to a backend and gets back (`internal/driver`). Secrets and
topology requirements are left out: no modelled function reads them.
-/

namespace NomadCsi.Driver

open Lib.Go

/-- The neutral error codes backends classify failures with. -/
inductive Code where
  | unknown
  | invalidArgument
  | notFound
  | alreadyExists
  | failedPrecondition
  | outOfRange
  | resourceExhausted
  | aborted
  | unimplemented
  | internal
  | unavailable
deriving DecidableEq, Repr

/-- A backend error: its code, its message and the text of a wrapped cause. -/
structure Error where
  code : Code
  msg : String
  err : Option String := none
deriving DecidableEq, Repr

def Error.text (e : Error) : String :=
  match e.err with
  | some c => e.msg ++ ": " ++ c
  | none => e.msg

def invalidArgument (msg : String) : Error := ⟨.invalidArgument, msg, none⟩
def notFound (msg : String) : Error := ⟨.notFound, msg, none⟩
def alreadyExists (msg : String) : Error := ⟨.alreadyExists, msg, none⟩
def failedPrecondition (msg : String) : Error := ⟨.failedPrecondition, msg, none⟩
def outOfRange (msg : String) : Error := ⟨.outOfRange, msg, none⟩
def aborted (msg : String) : Error := ⟨.aborted, msg, none⟩
def unimplemented (msg : String) : Error := ⟨.unimplemented, msg, none⟩
def internal (msg : String) : Error := ⟨.internal, msg, none⟩
def unavailable (msg : String) : Error := ⟨.unavailable, msg, none⟩

inductive AccessType where
  | mount
  | block
deriving DecidableEq, Repr

/-- An access type with, for mounts, the filesystem and the mount flags. -/
structure VolumeCapability where
  accessType : AccessType
  fsType : String
  mountFlags : List String
deriving DecidableEq, Repr

/-- The filesystem of a mount volume: `fsType` over the capability's over `ext4`. -/
def chosenFsType (p : StrMap) (caps : List VolumeCapability) : String :=
  if p.get "fsType" ≠ "" then p.get "fsType"
  else match caps with
    | c :: _ => if c.fsType ≠ "" then c.fsType else "ext4"
    | [] => "ext4"

structure CapacityRange where
  requiredBytes : Int
  limitBytes : Int
deriving DecidableEq, Repr

structure ContentSource where
  snapshotID : String
  volumeID : String
deriving DecidableEq, Repr

structure CreateVolumeRequest where
  name : String
  capacityRange : CapacityRange
  volumeCapabilities : List VolumeCapability
  parameters : StrMap
  contentSource : Option ContentSource

/-- What CreateVolume returns; a topology is its list of segments. -/
structure Volume where
  volumeID : String
  capacityBytes : Int
  volumeContext : StrMap
  accessibleTopology : List StrMap
  contentSource : Option ContentSource

structure CreateSnapshotRequest where
  sourceVolumeID : String
  name : String

structure Snapshot where
  snapshotID : String
  sourceVolumeID : String
  sizeBytes : Int
  creationTime : Int
  readyToUse : Bool
deriving DecidableEq, Repr

structure StageRequest where
  volumeID : String
  stagingTargetPath : String
  volumeCapability : VolumeCapability
  volumeContext : StrMap

structure UnstageRequest where
  volumeID : String
  stagingTargetPath : String
deriving DecidableEq, Repr

structure PublishRequest where
  volumeID : String
  stagingTargetPath : String
  targetPath : String
  volumeCapability : VolumeCapability
  volumeContext : StrMap
  readonly : Bool

structure UnpublishRequest where
  volumeID : String
  targetPath : String
deriving DecidableEq, Repr

structure NodeExpandRequest where
  volumeID : String
  volumePath : String
  capacityRange : CapacityRange
  volumeCapability : VolumeCapability

end NomadCsi.Driver
