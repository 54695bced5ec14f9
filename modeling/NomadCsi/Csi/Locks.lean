import NomadCsi.Driver.Types

/-!
# The CSI server's keyed locks

Every mutating controller RPC takes one lock for its whole duration, keyed by a name or
an id of the request, and is refused with Aborted when that key is held. The kind of
the resource only shows in the error text: all RPCs share one set of keys.
-/

namespace NomadCsi.Csi

open Lib.Go Driver

structure KeyedLocker where
  held : Map String Unit

namespace KeyedLocker

def empty : KeyedLocker := ⟨∅⟩

def tryAcquire (k : KeyedLocker) (key : String) : Option KeyedLocker :=
  if key ∈ k.held then none else some ⟨k.held.insert key ()⟩

def release (k : KeyedLocker) (key : String) : KeyedLocker := ⟨k.held.erase key⟩

def acquire (k : KeyedLocker) (kind key : String) : Except Error KeyedLocker :=
  match k.tryAcquire key with
  | none => .error (aborted ("an operation is already in progress for " ++ kind ++ " " ++ quote key))
  | some k => .ok k

end KeyedLocker

inductive Rpc where
  | createVolume (req : CreateVolumeRequest)
  | deleteVolume (volumeID : String)
  | createSnapshot (req : CreateSnapshotRequest)
  | deleteSnapshot (snapshotID : String)
  | expandVolume (volumeID : String) (cr : CapacityRange)

namespace Rpc

def required : Rpc → Except Error Unit
  | createVolume req =>
    if req.name = "" then .error (invalidArgument "CreateVolume: name is required") else .ok ()
  | deleteVolume id =>
    if id = "" then .error (invalidArgument "DeleteVolume: volume_id is required") else .ok ()
  | createSnapshot req =>
    if req.sourceVolumeID = "" ∨ req.name = "" then
      .error (invalidArgument "CreateSnapshot: source_volume_id and name are required")
    else .ok ()
  | deleteSnapshot id =>
    if id = "" then .error (invalidArgument "DeleteSnapshot: snapshot_id is required") else .ok ()
  | expandVolume id _ =>
    if id = "" then .error (invalidArgument "ControllerExpandVolume: volume_id is required")
    else .ok ()

/-- The kind of the resource, as the error text names it. -/
def kind : Rpc → String
  | createVolume _ | deleteVolume _ | expandVolume _ _ => "volume"
  | createSnapshot _ | deleteSnapshot _ => "snapshot"

def key : Rpc → String
  | createVolume req => req.name
  | deleteVolume id | expandVolume id _ => id
  | createSnapshot req => req.name
  | deleteSnapshot id => id

/-- What an RPC goes through before it reaches the backend. -/
def enter (rpc : Rpc) (k : KeyedLocker) : Except Error KeyedLocker := do
  rpc.required
  k.acquire rpc.kind rpc.key

def accept (rpc : Rpc) (k : KeyedLocker) : Option KeyedLocker := (rpc.enter k).toOption

def leave (rpc : Rpc) (k : KeyedLocker) : KeyedLocker := k.release rpc.key

end Rpc

end NomadCsi.Csi
