import NomadCsi.Driver.Exec
import NomadCsi.Lib.Go

/-!
# The host of a node plugin

The node code runs host commands (`iscsiadm`, `multipathd`, `findmnt`, `mount`, ...),
follows symlinks, and keeps the stage cache in its own memory. A `Host` holds the tables
these commands read and write; `hostAct` answers one of them. Any command may fail, and then
has no effect. A failed command exits 255: the exit codes the driver reads (15 and 21 of
`iscsiadm`, 1 of `findmnt` and `zpool`, 2 of `blkid`) follow from the tables. Only a failed
listing of the mounts may also exit 1, as `findmnt` does on any error.
-/

namespace NomadCsi.Node

open Lib Lib.Go Driver

/-- A line of the session list: one LUN of a target reached over one portal. -/
structure Session where
  iqn : String
  portal : String
  lun : Int
  /-- Empty if not yet attached. -/
  device : String
deriving DecidableEq, Repr

structure Mount where
  target : String
  source : String
deriving DecidableEq, Repr

/-- What a stage records for the teardown. -/
structure StageMeta where
  portals : List String := []
  portal : String := ""
  iqn : String := ""
  lunNumber : Int := 0
  wwid : String := ""
deriving DecidableEq, Repr

/-- An established session with the LUNs it exposes and their devices. -/
structure Login where
  portal : String
  iqn : String
  luns : List (Int × String)
deriving DecidableEq, Repr

structure Host where
  logins : List Login
  /-- `multipathd show paths`: path device and the WWID of its map. -/
  paths : List (String × String)
  /-- In the order of mounting: the last mount at a path is the one seen there. -/
  mounts : List Mount
  /-- `filepath.EvalSymlinks`. -/
  link : String → Option String
  /-- The portal address `iscsiadm` reaches under a name. -/
  address : String → String
  /-- The filesystem on a device. -/
  fs : Map String String
  /-- The device is opened or stacked upon. -/
  held : String → Bool
  /-- The health of the pools imported here. -/
  pools : String → Option String
  /-- The stage cache of the plugin. -/
  stages : Map String StageMeta
  now : Int

inductive Cmd where
  | discover (portal : String)
  | login (portal iqn : String)
  | logout (portal iqn : String)
  | rescan (portal iqn : String)
  | sessionList
  | showPaths
  | flush (wwid : String)
  | findmnt
  | findmntTarget (path : String)
  | findmntSource (path : String)
  | mkdir (path : String)
  | mount (fsType : String) (flags : List String) (device target : String)
  | bind (source target : String)
  | remountReadonly (target : String)
  | umount (target : String)
  | blkid (device : String)
  | mkfs (fsType device : String)
  | resize2fs (device : String)
  | xfsGrowfs (mountpoint : String)
  | poolHealth (pool : String)
  | evalSymlinks (path : String)
  /-- Wait for a path or glob to resolve. -/
  | waitForPath (path : String)
  /-- Wait for the device of a LUN: the by-path glob of its IQN and LUN number. -/
  | waitForDevice (iqn : String) (lun : Int)
  /-- Sleep between two polls; the reply is whether the caller gave up. -/
  | pause
  | holders (device : String)
  | metaSave (volumeID : String) (m : StageMeta)
  | metaLoad (volumeID : String)
  | metaDelete (volumeID : String)
  | metaIqns
  /-- The target IQN that the SAN has for an index pair and LUN name. -/
  | resolveIQN (lunIndex targetIndex : Int) (lunName : String)
  | now
  /-- The order in which a map with these keys is iterated. -/
  | range (keys : List String)
deriving DecidableEq, Repr

@[reducible] def Cmd.Reply : Cmd → Type
  | sessionList => Except ExecError (List Session)
  | showPaths => Except ExecError (List (String × String))
  | findmnt => Except ExecError (List Mount)
  | findmntTarget _ | findmntSource _ | blkid _ | poolHealth _ | waitForPath _ | waitForDevice _ _ =>
    Except ExecError String
  | evalSymlinks _ | resolveIQN _ _ _ => Option String
  | pause | holders _ => Bool
  | metaLoad _ => Option StageMeta
  | metaIqns | range _ => List String
  | now => Int
  | metaSave _ _ | metaDelete _ => Unit
  | discover _ | login _ _ | logout _ _ | rescan _ _ | flush _ | mkdir _ | mount _ _ _ _ | bind _ _
  | remountReadonly _ | umount _ | mkfs _ _ | resize2fs _ | xfsGrowfs _ => Except ExecError Unit

/-- The open part of an answer. -/
structure CmdChoice where
  /-- The command fails, with this text. -/
  fail : Option String := none
  /-- A failed listing of the mounts exits 1, as one of an empty table does. -/
  blind : Bool := false
  /-- The LUNs that a new session exposes. -/
  luns : List (Int × String) := []
  /-- The device found by a wait. -/
  device : String := ""
  /-- The paths multipath claims during a pause. -/
  claimed : List (String × String) := []
  /-- What an awaited path comes to resolve to. -/
  appears : Option String := none
  /-- How the mount table writes a new mount's source. -/
  written : Option String := none
  /-- The caller's context is done. -/
  cancelled : Bool := false
  /-- The IQN the SAN names. -/
  iqn : Option String := none
  /-- The time that passes. -/
  tick : Nat := 0
  picks : List Nat := []

namespace Host

/-- The session list as `iscsiadm` prints it. -/
def sessions (h : Host) : List Session :=
  h.logins.flatMap fun l => l.luns.map fun d => ⟨l.iqn, l.portal, d.1, d.2⟩

def LoggedIn (h : Host) (portal iqn : String) : Prop :=
  ∃ l ∈ h.logins, l.portal = h.address portal ∧ l.iqn = iqn

instance (h : Host) (portal iqn : String) : Decidable (h.LoggedIn portal iqn) :=
  inferInstanceAs (Decidable (∃ l ∈ h.logins, _))

/-- The target IQNs of the volumes staged by this process. -/
def stagedIqns (h : Host) : List String := (h.stages.entries.map (·.2.iqn)).filter (· ≠ "")

/-- The path as the kernel knows it. -/
def real (h : Host) (path : String) : String := (h.link path).getD path

/-- A path lies at or below a mount target. -/
def below (target path : String) : Bool :=
  path = target || target = "/" || hasPrefix path (target ++ "/")

/-- The mount that serves a path: the deepest one, the last of several. -/
def mountOf (h : Host) (path : String) : Option Mount :=
  h.mounts.foldl (fun best m =>
    if below m.target (h.real path) then
      match best with
      | none => some m
      | some b => if b.target.length ≤ m.target.length then some m else some b
    else best) none

def unmountAt (h : Host) (path : String) : Host :=
  { h with mounts := (h.mounts.reverse.eraseP (·.target = h.real path)).reverse }

/-- The source a mount of `device` is listed with: the path given, or another name of it. -/
def sourceAs (h : Host) (device : String) (written : Option String) : String :=
  match written with
  | none => device
  | some s => if h.real s = h.real device then s else device

/-- A host with these tables and nothing else. -/
def of (logins : List Login) (paths : List (String × String)) (mounts : List Mount) (now : Int) :
    Host where
  logins := logins
  paths := paths
  mounts := mounts
  link _ := none
  address p := p
  fs := ∅
  held _ := false
  pools _ := none
  stages := ∅
  now := now

end Host

def mapperPath (wwid : String) : String := "/dev/mapper/" ++ wwid

/-- A command with an effect: the effect or the failure. -/
def effect (h : Host) (ch : CmdChoice) (ok : Except ExecError Unit × Host) :
    Except ExecError Unit × Host :=
  match ch.fail with
  | some text => (.error ⟨255, text⟩, h)
  | none => ok

def reading {α : Type} (h : Host) (ch : CmdChoice) (r : Except ExecError α) :
    Except ExecError α × Host :=
  match ch.fail with
  | some text => (.error ⟨255, text⟩, h)
  | none => (r, h)

/-- Answer a call, the clock standing still. -/
def hostAnswer (h : Host) (c : Cmd) (ch : CmdChoice) : c.Reply × Host :=
  match c with
  | .discover _ => effect h ch (.ok (), h)
  | .login portal iqn =>
    if h.LoggedIn portal iqn then (.error ⟨15, "session exists"⟩, h)
    else effect h ch
      (.ok (), { h with logins := h.logins ++ [⟨h.address portal, iqn, ch.luns⟩] })
  | .logout portal iqn =>
    if h.LoggedIn portal iqn then
      effect h ch (.ok (), { h with
        logins := h.logins.filter fun l => ¬ (l.portal = h.address portal ∧ l.iqn = iqn) })
    else (.error ⟨21, "no matching sessions"⟩, h)
  | .rescan portal iqn =>
    if h.LoggedIn portal iqn then effect h ch (.ok (), h)
    else (.error ⟨21, "no matching sessions"⟩, h)
  | .sessionList =>
    reading h ch (if h.logins.isEmpty then .error ⟨21, "no active sessions"⟩ else .ok h.sessions)
  | .showPaths => reading h ch (.ok h.paths)
  | .flush wwid =>
    if h.mounts.any (fun m => h.real m.source = h.real (mapperPath wwid)) then
      (.error ⟨1, "map in use"⟩, h)
    else effect h ch (.ok (), { h with paths := h.paths.filter (·.2 ≠ wwid) })
  | .findmnt =>
    match ch.fail with
    | some text => (.error ⟨if ch.blind then 1 else 255, text⟩, h)
    | none => (if h.mounts.isEmpty then .error ⟨1, ""⟩ else .ok h.mounts, h)
  | .findmntTarget path =>
    reading h ch (match h.mountOf path with
      | some m => .ok m.target
      | none => .error ⟨1, ""⟩)
  | .findmntSource path =>
    reading h ch (match h.mountOf path with
      | some m => .ok m.source
      | none => .error ⟨1, ""⟩)
  | .mkdir _ => effect h ch (.ok (), h)
  | .mount _ _ device target =>
    effect h ch (.ok (), { h with
      mounts := h.mounts ++ [⟨h.real target, h.sourceAs device ch.written⟩] })
  | .bind source target =>
    effect h ch (.ok (), { h with
      mounts := h.mounts ++ [⟨h.real target, h.sourceAs source ch.written⟩] })
  | .remountReadonly _ => effect h ch (.ok (), h)
  | .umount target =>
    if h.mounts.any (·.target = h.real target) then effect h ch (.ok (), h.unmountAt target)
    else (.error ⟨32, "not mounted"⟩, h)
  | .blkid device =>
    reading h ch (match h.fs.lookup (h.real device) with
      | some t => .ok t
      | none => .error ⟨2, ""⟩)
  | .mkfs fsType device =>
    effect h ch (.ok (), { h with fs := h.fs.insert (h.real device) fsType })
  | .resize2fs _ => effect h ch (.ok (), h)
  | .xfsGrowfs _ => effect h ch (.ok (), h)
  | .poolHealth pool =>
    reading h ch (match h.pools pool with
      | some health => .ok health
      | none => .error ⟨1, "no such pool"⟩)
  | .evalSymlinks path => (h.link path, h)
  | .waitForPath path =>
    match ch.fail, h.link path, ch.appears with
    | some text, _, _ => (.error ⟨255, text⟩, h)
    | none, some real, _ => (.ok real, h)
    | none, none, some real => (.ok real,
        { h with link := fun p => if p = path then some real else h.link p })
    | none, none, none => (.error ⟨255, "context deadline exceeded"⟩, h)
  | .waitForDevice iqn lun =>
    reading h ch (if ∃ s ∈ h.sessions, s.iqn = iqn ∧ s.lun = lun ∧ s.device = ch.device
      then .ok ch.device else .error ⟨255, "context deadline exceeded"⟩)
  | .pause => (ch.cancelled, { h with paths := h.paths ++ ch.claimed })
  | .holders device => (h.held (h.real device), h)
  | .metaSave volumeID m => ((), { h with stages := h.stages.insert volumeID m })
  | .metaLoad volumeID => (h.stages.lookup volumeID, h)
  | .metaDelete volumeID => ((), { h with stages := h.stages.erase volumeID })
  | .metaIqns => (h.stagedIqns, h)
  | .resolveIQN _ _ _ => (ch.iqn, h)
  | .now => (h.now, h)
  | .range keys => (shuffle ch.picks keys, h)

def hostAct (h : Host) (c : Cmd) (ch : CmdChoice) : c.Reply × Host :=
  let (r, h) := hostAnswer h c ch
  (r, { h with now := h.now + ch.tick })

end NomadCsi.Node
