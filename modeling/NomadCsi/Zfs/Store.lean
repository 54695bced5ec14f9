import NomadCsi.Driver.Exec
import NomadCsi.Lib.Lines

/-!
# The ZFS state of a node

What the `zfs` and `zpool` commands of the local backend read and change: pools, zvols
and snapshots. A command is all or nothing, and any command may fail with any exit code.
Creating or receiving a zvol charges its full size to the available bytes of its pool
(thick provisioning); destroying it gives them back. Filesystem datasets are not tracked.
-/

namespace NomadCsi.Zfs

open Lib Lib.Go Driver

/-- The pool of a dataset: its first segment. -/
def poolOf (dataset : String) : String := String.ofList (dataset.toList.takeWhile (· ≠ '/'))

structure Pool where
  imported : Bool
  health : String
  available : Int
  size : Int
  free : Int
deriving DecidableEq, Repr

structure Zvol where
  volsize : Int
  volblocksize : String
  /-- User properties. -/
  props : StrMap
  /-- What it holds: equal numbers stand for equal contents. -/
  data : Nat

structure Snap where
  volsize : Int
  volblocksize : String
  /-- In Unix seconds; a received snapshot keeps it. -/
  creation : Int
  data : Nat

structure Store where
  pools : Map String Pool
  vols : Map String Zvol
  /-- By dataset and snapshot name. -/
  snaps : Map (String × String) Snap
  /-- What a new snapshot is stamped with. -/
  clock : Int := 0

/-- A row of a snapshot listing; the name is `<dataset>@<snapshot>`. -/
structure SnapshotEntry where
  name : String
  volsizeBytes : Int
  creationUnix : Int
deriving DecidableEq, Repr

inductive Cmd where
  /-- `zpool list -o health`. -/
  | poolHealth (pool : String)
  | poolFree (pool : String)
  | poolSize (pool : String)
  /-- `zfs get available` of the pool's root dataset. -/
  | available (pool : String)
  /-- `zfs list` of one dataset. -/
  | list (dataset : String)
  /-- `zfs list` of one snapshot. -/
  | listSnapshot (dataset name : String)
  /-- `zfs list -t volume -r`. -/
  | listVolumes (parent : String)
  /-- `zfs list -t snapshot -r`. -/
  | listSnapshots (target : String)
  | getVolsize (dataset : String)
  | getVolblocksize (dataset : String)
  /-- `zfs get creation` of a snapshot. -/
  | getCreation (dataset name : String)
  | getProp (dataset prop : String)
  | create (dataset : String) (size : Int) (volblocksize : String)
  /-- `zfs destroy` of a zvol, not recursive. -/
  | destroy (dataset : String)
  | setVolsize (dataset : String) (size : Int)
  | setProp (dataset prop value : String)
  | snapshot (dataset name : String)
  | destroySnapshot (dataset name : String)
  /-- `zfs send` of a snapshot into `zfs recv` of a dataset. -/
  | sendRecv (source snap dest : String)
deriving DecidableEq, Repr

@[reducible] def Cmd.Out : Cmd → Type
  | poolHealth _ | getProp _ _ | listVolumes _ | listSnapshots _ => String
  | poolFree _ | poolSize _ | available _ | getVolsize _ | getVolblocksize _ | getCreation _ _ => Int
  | list _ | listSnapshot _ _ | create _ _ _ | destroy _ | setVolsize _ _ | setProp _ _ _
  | snapshot _ _ | destroySnapshot _ _ | sendRecv _ _ _ => Unit

@[reducible] def Cmd.Reply (c : Cmd) : Type := Except ExecError c.Out

namespace Store

/-- The pool, if it is imported. -/
def pool? (s : Store) (pool : String) : Option Pool := (s.pools.lookup pool).filter (·.imported)

/-- The zvol, if its pool is imported. -/
def zvol? (s : Store) (dataset : String) : Option Zvol :=
  if (s.pool? (poolOf dataset)).isSome then s.vols.lookup dataset else none

/-- Take `n` bytes from a pool's available ones. -/
def charge (s : Store) (pool : String) (n : Int) : Store :=
  match s.pools.lookup pool with
  | some p => { s with pools := s.pools.insert pool { p with available := p.available - n } }
  | none => s

def putVol (s : Store) (dataset : String) (v : Zvol) : Store :=
  { s with vols := s.vols.insert dataset v }

/-- A dataset at or under another. -/
def under (parent dataset : String) : Bool := dataset = parent || hasPrefix dataset (parent ++ "/")

/-- The zvols at or under a dataset, with their sizes. -/
def volumesUnder (s : Store) (parent : String) : List (String × Int) :=
  (s.vols.entries.filter fun e => under parent e.1).map fun e => (e.1, e.2.volsize)

def snapshotsUnder (s : Store) (target : String) : List SnapshotEntry :=
  (s.snaps.entries.filter fun e => under target e.1.1).map fun e =>
    ⟨e.1.1 ++ "@" ++ e.1.2, e.2.volsize, e.2.creation⟩

/-- A line of `zfs list -Hp -o name,volsize`. -/
def volumeLine (r : String × Int) : String := r.1 ++ "\t" ++ itoa r.2

/-- A line of `zfs list -Hp -o name,volsize,creation`. -/
def snapshotLine (e : SnapshotEntry) : String :=
  e.name ++ "\t" ++ itoa e.volsizeBytes ++ "\t" ++ itoa e.creationUnix

def hasSnapshots (s : Store) (dataset : String) : Bool :=
  s.snaps.entries.any fun e => e.1.1 = dataset

end Store

/-- The bytes of a block size as `zfs create -b` takes it: a number with a binary unit; 16K when
it is not given. -/
def blockBytes (volblocksize : String) : Int :=
  if volblocksize = "" then 2 ^ 14
  else
    let n := ((digits (volblocksize.toList.takeWhile Char.isDigit)).map Int.ofNat).getD 0
    match volblocksize.toList.dropWhile Char.isDigit with
    | 'K' :: _ | 'k' :: _ => n * 2 ^ 10
    | 'M' :: _ | 'm' :: _ => n * 2 ^ 20
    | _ => n

/-- What `zfs` says when it refuses. -/
def refused {α : Type} (text : String) : Except ExecError α := .error ⟨1, text⟩

/-- What the names of ZFS are made of. -/
def zfsChar (c : Char) : Bool :=
  ('A' ≤ c && c ≤ 'Z') || ('a' ≤ c && c ≤ 'z') || ('0' ≤ c && c ≤ '9') || c = '_' || c = '-' ||
    c = '.' || c = ':' || c = ' '

/-- Every segment of the name is non-empty, and it is not that of a snapshot. -/
def wellNamed (dataset : String) : Bool :=
  (split dataset '/').all (· ≠ "") && dataset.toList.all fun c => c = '/' || zfsChar c

/-- A name after the `@`. -/
def snapNamed (name : String) : Bool := name ≠ "" && name.toList.all zfsChar

/-- Room for a new zvol of this size under this name. -/
def Store.room (s : Store) (dataset : String) (size : Int) : Bool :=
  wellNamed dataset && (s.vols.lookup dataset).isNone && 0 < size &&
    (s.pool? (poolOf dataset)).any (size ≤ ·.available)

def serve (s : Store) (c : Cmd) : c.Reply × Store :=
  match c with
  | .poolHealth pool => (match s.pool? pool with
      | some p => .ok p.health
      | none => refused "no such pool", s)
  | .poolFree pool => (match s.pool? pool with
      | some p => .ok p.free
      | none => refused "no such pool", s)
  | .poolSize pool => (match s.pool? pool with
      | some p => .ok p.size
      | none => refused "no such pool", s)
  | .available pool => (match s.pool? pool with
      | some p => .ok p.available
      | none => refused "dataset does not exist", s)
  | .list dataset => (match s.zvol? dataset with
      | some _ => .ok ()
      | none => refused "dataset does not exist", s)
  | .listSnapshot dataset name => (match s.zvol? dataset, s.snaps.lookup (dataset, name) with
      | some _, some _ => .ok ()
      | _, _ => refused "dataset does not exist", s)
  | .listVolumes parent => (if (s.pool? (poolOf parent)).isSome then
        .ok (unlines ((s.volumesUnder parent).map Store.volumeLine))
      else refused "dataset does not exist", s)
  | .listSnapshots target => (if (s.pool? (poolOf target)).isSome then
        .ok (unlines ((s.snapshotsUnder target).map Store.snapshotLine))
      else refused "dataset does not exist", s)
  | .getVolsize dataset => (match s.zvol? dataset with
      | some v => .ok v.volsize
      | none => refused "dataset does not exist", s)
  | .getVolblocksize dataset => (match s.zvol? dataset with
      | some v => .ok (blockBytes v.volblocksize)
      | none => refused "dataset does not exist", s)
  | .getCreation dataset name => (match s.zvol? dataset, s.snaps.lookup (dataset, name) with
      | some _, some sn => .ok sn.creation
      | _, _ => refused "dataset does not exist", s)
  | .getProp dataset prop => (match s.zvol? dataset with
      | some v => .ok ((v.props.lookup prop).getD "-")
      | none => refused "dataset does not exist", s)
  | .create dataset size volblocksize =>
    if s.room dataset size then
      (.ok (), (s.charge (poolOf dataset) size).putVol dataset ⟨size, volblocksize, ∅, 0⟩)
    else (refused "cannot create", s)
  | .destroy dataset =>
    match s.zvol? dataset with
    | some v =>
      if s.hasSnapshots dataset then (refused "volume has children", s)
      else
        let s' := s.charge (poolOf dataset) (-v.volsize)
        (.ok (), { s' with vols := s'.vols.erase dataset })
    | none => (refused "dataset does not exist", s)
  | .setVolsize dataset size =>
    match s.zvol? dataset, s.pool? (poolOf dataset) with
    | some v, some p =>
      if 0 < size ∧ size - v.volsize ≤ p.available then
        (.ok (), (s.charge (poolOf dataset) (size - v.volsize)).putVol dataset
          { v with volsize := size })
      else (refused "out of space", s)
    | _, _ => (refused "dataset does not exist", s)
  | .setProp dataset prop value =>
    match s.zvol? dataset with
    | some v => (.ok (), s.putVol dataset { v with props := v.props.insert prop value })
    | none => (refused "dataset does not exist", s)
  | .snapshot dataset name =>
    match s.zvol? dataset, s.snaps.lookup (dataset, name) with
    | some v, none =>
      if snapNamed name then (.ok (), { s with
        snaps := s.snaps.insert (dataset, name) ⟨v.volsize, v.volblocksize, s.clock, v.data⟩ })
      else (refused "invalid snapshot name", s)
    | some _, some _ => (refused "dataset already exists", s)
    | none, _ => (refused "dataset does not exist", s)
  | .destroySnapshot dataset name =>
    match s.zvol? dataset, s.snaps.lookup (dataset, name) with
    | some _, some _ => (.ok (), { s with snaps := s.snaps.erase (dataset, name) })
    | _, _ => (refused "could not find any snapshots to destroy", s)
  | .sendRecv source snap dest =>
    match s.zvol? source, s.snaps.lookup (source, snap) with
    | some _, some sn =>
      if s.room dest sn.volsize then
        let s' := (s.charge (poolOf dest) sn.volsize).putVol dest ⟨sn.volsize, sn.volblocksize, ∅, sn.data⟩
        (.ok (), { s' with snaps := s'.snaps.insert (dest, snap) sn })
      else (refused "cannot receive", s)
    | _, _ => (refused "dataset does not exist", s)

/-- The open part of an answer: the command fails. -/
structure Fault where
  fail : Option ExecError := none
deriving DecidableEq

def zfsAct (s : Store) (c : Cmd) (ch : Fault) : c.Reply × Store :=
  match ch.fail with
  | some e => (.error e, s)
  | none => serve s c

end NomadCsi.Zfs
