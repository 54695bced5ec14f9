import NomadCsi.Qnap.Node

/-!
# The session reconciler

A sweep reads the session list and the mount table, decides for every target of this
plugin whether one of its devices is in use (`deviceMounted`), and logs out a target that
has been idle since a sweep at least `grace` ago. `orphanSince` is the only state it keeps
between sweeps. A sweep also returns what it found, which the source keeps in local
variables.
-/

namespace NomadCsi.Qnap

open Lib Lib.Go Node

structure Reconciler where
  useMultipath : Bool
  ours : List String
  grace : Int

def newReconciler (n : NodePlugin) (grace : Int) : Reconciler :=
  ⟨n.useMultipath, ourPortals n.cfg, grace⟩

/-- IQN to the first sweep at which it looked orphaned. -/
abbrev Timers := Map String Int

/-- What a sweep found out about one session: the answer of multipathd, if it was asked, and
whether the device backs a mount. -/
structure Finding where
  session : Session
  answer : Option (Except String String)
  mounted : Bool

/-- The answer of `MapWWID`, if multipath is on. -/
def askMultipath (r : Reconciler) (device : String) :
    Prog Cmd Cmd.Reply (Option (Except String String)) := do
  if r.useMultipath then
    let answer ← (mapWWID device).run
    return some answer
  else return none

/-- The names under which a device may be mounted. A failed query adds none. -/
def candidates (device : String) : Option (Except String String) → List String
  | some (.ok wwid) => if wwid = "" then [device] else [device, mapperPath wwid]
  | _ => [device]

/-- A candidate is a mount source, as it is or resolved. -/
def anyMounted (mounted : List String) : List String → Prog Cmd Cmd.Reply Bool
  | [] => return false
  | cand :: rest => do
    if cand ∈ mounted then return true
    else
      let real ← Prog.lift (Cmd.evalSymlinks cand)
      if real.any (· ∈ mounted) then return true else anyMounted mounted rest

def deviceMounted (r : Reconciler) (device : String) (mounted : List String) :
    Prog Cmd Cmd.Reply (Option (Except String String) × Bool) := do
  if device = "" then return (none, false)
  else
    let answer ← askMultipath r device
    let found ← anyMounted mounted (candidates device answer)
    return (answer, found)

def findings (r : Reconciler) (mounted : List String) :
    List Session → Prog Cmd Cmd.Reply (List Finding)
  | [] => return []
  | s :: rest => do
    if portalOwned s.portal r.ours then
      let found ← deviceMounted r s.device mounted
      let fs ← findings r mounted rest
      return ⟨s, found.1, found.2⟩ :: fs
    else findings r mounted rest

structure TState where
  portals : List String
  live : Bool

def noteSession (cached : List String) (targets : Map String TState) (f : Finding) :
    Map String TState :=
  let t := (targets.lookup f.session.iqn).getD ⟨[], false⟩
  targets.insert f.session.iqn
    ⟨t.portals.insert (normalizePortal f.session.portal),
      t.live || f.session.iqn ∈ cached || f.mounted⟩

/-- The targets by IQN: live if staged in this process or mounted on any path. -/
def targetsOf (cached : List String) (fs : List Finding) : Map String TState :=
  fs.foldl (noteSession cached) ∅

/-- Log a target out at each portal; errors are logged. -/
def logoutPortals (iqn : String) : List String → Prog Cmd Cmd.Reply Unit
  | [] => return ()
  | p :: ps => do
    let _ ← (logout p iqn).run
    logoutPortals iqn ps

/-- Decide on one target and update its timer. -/
def settleTarget (r : Reconciler) (now : Int) (iqn : String) (t : TState) (timers : Timers) :
    Prog Cmd Cmd.Reply Timers := do
  if t.live then return timers.erase iqn
  else match timers.lookup iqn with
    | none => return timers.insert iqn now
    | some first =>
      if timeSub now first < r.grace then return timers
      else
        let portals ← Prog.lift (Cmd.range t.portals)
        logoutPortals iqn portals
        return timers.erase iqn

def settleIqn (r : Reconciler) (now : Int) (targets : Map String TState) (iqn : String)
    (timers : Timers) : Prog Cmd Cmd.Reply Timers :=
  match targets.lookup iqn with
  | some t => settleTarget r now iqn t timers
  | none => return timers

def settle (r : Reconciler) (now : Int) (targets : Map String TState) :
    List String → Timers → Prog Cmd Cmd.Reply Timers
  | [], timers => return timers
  | iqn :: rest, timers => do
    let timers ← settleIqn r now targets iqn timers
    settle r now targets rest timers

/-- Forget the timers of targets that are gone. -/
def forget (targets : Map String TState) (timers : Timers) : Timers :=
  timers.keys.foldl (fun m iqn => if iqn ∈ targets then m else m.erase iqn) timers

/-- A sweep whose enumerations succeeded. -/
structure Swept where
  findings : List Finding
  now : Int

/-- The part of a sweep after its two enumerations. -/
def sweepTables (r : Reconciler) (timers : Timers) (sessions : List Session)
    (mounts : List Mount) : Prog Cmd Cmd.Reply (Timers × Option Swept) := do
  let cached ← Prog.lift Cmd.metaIqns
  let fs ← findings r (mounts.map (·.source)) sessions
  let now ← Prog.lift Cmd.now
  let targets := targetsOf cached fs
  let order ← Prog.lift (Cmd.range targets.keys)
  let timers ← settle r now targets order timers
  return (forget targets timers, some ⟨fs, now⟩)

def sweep (r : Reconciler) (timers : Timers) : Prog Cmd Cmd.Reply (Timers × Option Swept) := do
  match ← listSessions.run with
  | .error _ => return (timers, none)
  | .ok sessions =>
    match ← listMounts.run with
    | .error _ => return (timers, none)
    | .ok mounts => sweepTables r timers sessions mounts

end NomadCsi.Qnap
