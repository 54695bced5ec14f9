import NomadCsi.Csi.Locks
import NomadCsi.Lib.Pool

/-!
# The CSI controller's handlers

The five handlers that take a lock, as programs whose calls are what other handlers can
notice: taking a key, starting a backend call, its end, and the deferred release. How a
backend call ends is left open; a panic unwinds through the deferred release to the
interceptor, which turns it into an Internal error.

`Handlers` runs any number of them side by side over one locker.
-/

namespace NomadCsi.Csi

open Lib Lib.Go Driver

/-! ### Conversion of a CreateVolume request -/

/-- The access modes of a CSI capability; an enum value this version does not know is a number. -/
inductive AccessMode where
  | unknown
  | singleNodeWriter
  | singleNodeReaderOnly
  | multiNodeReaderOnly
  | multiNodeSingleWriter
  | multiNodeMultiWriter
  | singleNodeSingleWriter
  | singleNodeMultiWriter
  | other (n : Int)

/-- The access modes are single-node only; backends do not read which one it is. -/
def toAccessMode : AccessMode → Except Error Unit
  | .singleNodeWriter | .singleNodeSingleWriter | .singleNodeMultiWriter => .ok ()
  | .singleNodeReaderOnly => .ok ()
  | .multiNodeReaderOnly | .multiNodeSingleWriter | .multiNodeMultiWriter =>
    .error (invalidArgument "multi-node access modes are not supported (single-node only)")
  | .unknown => .error (invalidArgument "unknown access mode UNKNOWN")
  | .other n => .error (invalidArgument ("unknown access mode " ++ itoa n))

/-- The access type of a CSI capability, which may be unset. -/
inductive AccessKind where
  | block
  | mount (fsType : String) (mountFlags : List String)
  | unset

structure CapabilityMessage where
  accessMode : AccessMode
  accessType : AccessKind

def toVolumeCapability : Option CapabilityMessage → Except Error VolumeCapability
  | none => .error (invalidArgument "volume capability is nil")
  | some c => do
    toAccessMode c.accessMode
    match c.accessType with
    | .block => .ok ⟨.block, "", []⟩
    | .mount fsType flags => .ok ⟨.mount, fsType, flags⟩
    | .unset =>
      .error (invalidArgument "volume capability must specify mount or block access type")

def toVolumeCapabilities (caps : List (Option CapabilityMessage)) :
    Except Error (List VolumeCapability) :=
  if caps = [] then .error (invalidArgument "volume capabilities are required")
  else caps.mapM toVolumeCapability

def toCapacityRange (r : Option CapacityRange) : CapacityRange := r.getD ⟨0, 0⟩

/-- The volume a new one starts as a copy of, if the message says. -/
inductive SourceMessage where
  | snapshot (snapshotID : String)
  | volume (volumeID : String)
  | unset

def toContentSource : Option SourceMessage → Option ContentSource
  | some (.snapshot id) => some ⟨id, ""⟩
  | some (.volume id) => some ⟨"", id⟩
  | some .unset => none
  | none => none

structure CreateVolumeMessage where
  name : String
  capacityRange : Option CapacityRange
  volumeCapabilities : List (Option CapabilityMessage)
  parameters : StrMap
  volumeContentSource : Option SourceMessage

def CreateVolumeMessage.request (req : CreateVolumeMessage) (caps : List VolumeCapability) :
    CreateVolumeRequest where
  name := req.name
  capacityRange := toCapacityRange req.capacityRange
  volumeCapabilities := caps
  parameters := req.parameters
  contentSource := toContentSource req.volumeContentSource

/-! ### The handlers -/

inductive Answer where
  | volume (v : Volume)
  | snapshot (s : Snapshot)
  | expanded (capacityBytes : Int) (nodeExpansionRequired : Bool)
  | done

inductive Ending where
  | returned (a : Answer)
  | failed (e : Error)
  | panicked (what : String)

/-- What a handler does that other handlers can notice. -/
inductive HandlerCall where
  | acquire (kind key : String)
  | invoke (rpc : Rpc)
  | await (rpc : Rpc)
  | release (key : String)

def HandlerCall.Reply : HandlerCall → Type
  | acquire _ _ => Except Error Unit
  | invoke _ => Unit
  | await _ => Ending
  | release _ => Unit

/-- The locker answers at once, under its mutex; a backend call ends in any way. -/
def handlerAct (k : KeyedLocker) : (c : HandlerCall) → Ending → c.Reply × KeyedLocker
  | .acquire kind key, _ =>
    match k.acquire kind key with
    | .error e => (.error e, k)
    | .ok k => (.ok (), k)
  | .invoke _, _ => ((), k)
  | .await _, ending => (ending, k)
  | .release key, _ => ((), k.release key)

abbrev Handler := ExceptT Error (Prog HandlerCall HandlerCall.Reply)

structure Capabilities where
  createDelete : Bool
  expand : Bool
  snapshot : Bool

structure ControllerServer where
  backendName : String
  caps : Capabilities

def acquire (kind key : String) : Handler Unit := ExceptT.mk (Prog.lift (HandlerCall.acquire kind key))

/-- The backend call of a handler, unless the request cannot be converted. -/
def callBackend : Except Error Rpc → Handler Ending
  | .error e => pure (.failed e)
  | .ok rpc => do
    let _ ← perform (HandlerCall.invoke rpc)
    perform (HandlerCall.await rpc)

/-- The end of an RPC as the interceptor reports it. -/
def unaryInterceptor (method : String) : Ending → Except Error Answer
  | .returned a => .ok a
  | .failed e => .error e
  | .panicked what => .error (internal ("panic recovered in " ++ method ++ ": " ++ what))

namespace ControllerServer

/-- The pattern of the handlers: refuse what the backend does not support, check the required
fields, take the key, and give it back however the backend call ends. -/
def locked (s : ControllerServer) (supported : Bool) (method : String) (rpc : Rpc)
    (prepared : Except Error Rpc) : Handler Answer := do
  decided (if supported then .ok () else .error (unimplemented
    (method ++ " is not supported by the " ++ s.backendName ++ " backend")))
  decided rpc.required
  acquire rpc.kind rpc.key
  let ending ← callBackend prepared
  let _ ← perform (HandlerCall.release rpc.key)
  decided (unaryInterceptor method ending)

def createVolume (s : ControllerServer) (req : CreateVolumeMessage) : Handler Answer :=
  s.locked s.caps.createDelete "CreateVolume" (.createVolume (req.request []))
    -- The capabilities are converted with the key already held.
    ((toVolumeCapabilities req.volumeCapabilities).map fun caps => .createVolume (req.request caps))

def deleteVolume (s : ControllerServer) (volumeID : String) : Handler Answer :=
  s.locked s.caps.createDelete "DeleteVolume" (.deleteVolume volumeID)
    (.ok (.deleteVolume volumeID))

def createSnapshot (s : ControllerServer) (req : CreateSnapshotRequest) : Handler Answer :=
  s.locked s.caps.snapshot "CreateSnapshot" (.createSnapshot req) (.ok (.createSnapshot req))

def deleteSnapshot (s : ControllerServer) (snapshotID : String) : Handler Answer :=
  s.locked s.caps.snapshot "DeleteSnapshot" (.deleteSnapshot snapshotID)
    (.ok (.deleteSnapshot snapshotID))

def controllerExpandVolume (s : ControllerServer) (volumeID : String)
    (cr : Option CapacityRange) : Handler Answer :=
  s.locked s.caps.expand "ControllerExpandVolume" (.expandVolume volumeID (toCapacityRange cr))
    (.ok (.expandVolume volumeID (toCapacityRange cr)))

end ControllerServer

/-- The controller RPCs that take a lock, as they arrive. -/
inductive Incoming where
  | createVolume (req : CreateVolumeMessage)
  | deleteVolume (volumeID : String)
  | createSnapshot (req : CreateSnapshotRequest)
  | deleteSnapshot (snapshotID : String)
  | controllerExpandVolume (volumeID : String) (cr : Option CapacityRange)

namespace Incoming

def rpc : Incoming → Rpc
  | createVolume req => .createVolume (req.request [])
  | deleteVolume id => .deleteVolume id
  | createSnapshot req => .createSnapshot req
  | deleteSnapshot id => .deleteSnapshot id
  | controllerExpandVolume id cr => .expandVolume id (toCapacityRange cr)

def kind (req : Incoming) : String := req.rpc.kind

def key (req : Incoming) : String := req.rpc.key

end Incoming

def ControllerServer.handle (s : ControllerServer) : Incoming → Handler Answer
  | .createVolume req => s.createVolume req
  | .deleteVolume id => s.deleteVolume id
  | .createSnapshot req => s.createSnapshot req
  | .deleteSnapshot id => s.deleteSnapshot id
  | .controllerExpandVolume id cr => s.controllerExpandVolume id cr

theorem ControllerServer.handle_eq (s : ControllerServer) (req : Incoming) :
    ∃ supported method prepared, s.handle req = s.locked supported method req.rpc prepared := by
  cases req with
  | createVolume | deleteVolume | createSnapshot | deleteSnapshot | controllerExpandVolume =>
    exact ⟨_, _, _, rfl⟩

/-! ### Handlers side by side -/

abbrev Handling := Thread HandlerCall HandlerCall.Reply Incoming (Except Error Answer)
abbrev Handlers :=
  Pool HandlerCall HandlerCall.Reply KeyedLocker Incoming Unit (Except Error Answer)
abbrev HandlerMove :=
  Move HandlerCall HandlerCall.Reply KeyedLocker Ending Incoming (Except Error Answer)

def Handlers.start : Handlers := ⟨.empty, (), []⟩

/-- One action of the server: a request arrives, a handler goes on, or it is gone. -/
def Handlers.next (s : ControllerServer) (p : Handlers) (a : Action Incoming Ending) :
    Option (List HandlerMove × Handlers) :=
  Pool.next handlerAct (fun req => (s.handle req).run) (fun _ _ => some ()) (fun _ _ => ()) p a

abbrev Handled (s : ControllerServer) : List HandlerMove → Handlers → Prop :=
  Reach handlerAct (fun req => (s.handle req).run) (fun _ _ => some ()) (fun _ _ => ()) (fun _ _ => True)
    Handlers.start

end NomadCsi.Csi
