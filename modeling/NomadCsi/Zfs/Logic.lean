import NomadCsi.Lib.Hoare
import NomadCsi.Zfs.Tools

/-!
# What the ZFS commands do

Rules for programs over ZFS in which any command may fail: if an operation succeeds, its
commands did what `serve` says.
-/

namespace NomadCsi.Zfs

open Lib Lib.Go Driver

abbrev ZfsEv := Event Cmd Cmd.Reply Store Fault

def Store.Ready (s : Store) (pool : String) : Prop :=
  ∃ p, s.pool? pool = some p ∧ trimSpace p.health = "ONLINE"

variable {s s' : Store} {c : Cmd}

theorem serve_error {e : ExecError} (h : serve s c = (.error e, s')) : s' = s := by
  unfold serve refused at h
  cases c <;> dsimp only at h <;> (repeat' split at h) <;> cases h <;> rfl

/-- A command fails or refuses and changes nothing, or is carried out. -/
theorem zfsAct_elim {Q : c.Reply × Store → Prop} (ch : Fault) (herr : ∀ e, Q (.error e, s))
    (hok : ∀ out s', serve s c = (.ok out, s') → Q (.ok out, s')) : Q (zfsAct s c ch) := by
  unfold zfsAct
  split
  · exact herr _
  · rcases hs : serve s c with ⟨e | out, s'⟩
    · rw [serve_error hs]
      exact herr e
    · exact hok out s' hs

/-! ### Commands that only read -/

def Cmd.reads : Cmd → Bool
  | .poolHealth _ | .poolFree _ | .poolSize _ | .available _ | .list _ | .listSnapshot _ _
  | .listVolumes _ | .listSnapshots _ | .getVolsize _ | .getVolblocksize _ | .getCreation _ _
  | .getProp _ _ => true
  | _ => false

theorem zfsAct_reads {ch : Fault} (h : c.reads = true) : (zfsAct s c ch).2 = s := by
  unfold zfsAct
  split
  · rfl
  · cases c <;> first | rfl | cases h

/-- What a command that succeeds has found, and how it leaves the store. -/
inductive Served (s : Store) : Cmd → Store → Prop where
  | read {c : Cmd} (h : c.reads = true) : Served s c s
  | create {ds block : String} {size : Int} (hroom : s.room ds size = true) :
      Served s (.create ds size block) ((s.charge (poolOf ds) size).putVol ds ⟨size, block, ∅, 0⟩)
  | destroy {ds : String} {v : Zvol} (hv : s.zvol? ds = some v) (hno : s.hasSnapshots ds = false) :
      Served s (.destroy ds) { s.charge (poolOf ds) (-v.volsize) with
        vols := (s.charge (poolOf ds) (-v.volsize)).vols.erase ds }
  | setVolsize {ds : String} {size : Int} {v : Zvol} {p : Pool} (hv : s.zvol? ds = some v)
      (hp : s.pool? (poolOf ds) = some p) (hfits : 0 < size ∧ size - v.volsize ≤ p.available) :
      Served s (.setVolsize ds size)
        ((s.charge (poolOf ds) (size - v.volsize)).putVol ds { v with volsize := size })
  | setProp {ds prop value : String} {v : Zvol} (hv : s.zvol? ds = some v) :
      Served s (.setProp ds prop value) (s.putVol ds { v with props := v.props.insert prop value })
  | snapshot {ds name : String} {v : Zvol} (hv : s.zvol? ds = some v)
      (hnew : s.snaps.lookup (ds, name) = none) (hname : snapNamed name = true) :
      Served s (.snapshot ds name) { s with
        snaps := s.snaps.insert (ds, name) ⟨v.volsize, v.volblocksize, s.clock, v.data⟩ }
  | destroySnapshot {ds name : String} {v : Zvol} {sn : Snap} (hv : s.zvol? ds = some v)
      (hsn : s.snaps.lookup (ds, name) = some sn) :
      Served s (.destroySnapshot ds name) { s with snaps := s.snaps.erase (ds, name) }
  | sendRecv {source snap ds : String} {v : Zvol} {sn : Snap} (hv : s.zvol? source = some v)
      (hsn : s.snaps.lookup (source, snap) = some sn) (hroom : s.room ds sn.volsize = true) :
      Served s (.sendRecv source snap ds)
        { (s.charge (poolOf ds) sn.volsize).putVol ds ⟨sn.volsize, sn.volblocksize, ∅, sn.data⟩ with
          snaps := (s.charge (poolOf ds) sn.volsize).snaps.insert (ds, snap) sn }

variable {out : c.Out}

theorem served (h : serve s c = (.ok out, s')) : Served s c s' := by
  unfold serve refused at h
  cases c with
  | create ds size block =>
    dsimp only at h
    split at h
    · next hroom => exact (Prod.mk.inj h).2 ▸ .create hroom
    · cases (Prod.mk.inj h).1
  | destroy ds =>
    dsimp only at h
    split at h
    · next v hv =>
      split at h
      · cases (Prod.mk.inj h).1
      · next hno => exact (Prod.mk.inj h).2 ▸ .destroy hv (Bool.eq_false_iff.2 hno)
    · cases (Prod.mk.inj h).1
  | setVolsize ds size =>
    dsimp only at h
    split at h
    · next v p hv hp =>
      split at h
      · next hfits => exact (Prod.mk.inj h).2 ▸ .setVolsize hv hp hfits
      · cases (Prod.mk.inj h).1
    · cases (Prod.mk.inj h).1
  | setProp ds prop value =>
    dsimp only at h
    split at h
    · next v hv => exact (Prod.mk.inj h).2 ▸ .setProp hv
    · cases (Prod.mk.inj h).1
  | snapshot ds name =>
    dsimp only at h
    split at h
    · next v hv hnew =>
      split at h
      · next hname => exact (Prod.mk.inj h).2 ▸ .snapshot hv hnew hname
      · cases (Prod.mk.inj h).1
    · cases (Prod.mk.inj h).1
    · cases (Prod.mk.inj h).1
  | destroySnapshot ds name =>
    dsimp only at h
    split at h
    · next v sn hv hsn => exact (Prod.mk.inj h).2 ▸ .destroySnapshot hv hsn
    · cases (Prod.mk.inj h).1
  | sendRecv source snap ds =>
    dsimp only at h
    split at h
    · next v sn hv hsn =>
      split at h
      · next hroom => exact (Prod.mk.inj h).2 ▸ .sendRecv hv hsn hroom
      · cases (Prod.mk.inj h).1
    · cases (Prod.mk.inj h).1
  | _ => exact (Prod.mk.inj h).2 ▸ .read rfl

theorem ends_of_reads {ε α : Type} {x : Script ε α} {Q : α → Store → Prop}
    (hx : x.run.Calls fun c => c.reads = true) (h : Yields zfsAct x s Q) :
    Ends zfsAct (fun _ => True) x s (fun a s' => s' = s ∧ Q a s') fun _ s' => s' = s := by
  have hsame := Ends.unchanged h hx fun _ _ _ hc => zfsAct_reads hc
  exact hsame.weaken fun _ _ h => h.1

variable {K : Cmd → Prop}

theorem calls_command (msg : String) (hc : K c) :
    (perform c >>= fun r => outcome msg r : Tool c.Out).run.Calls K :=
  calls_run_bind (calls_perform hc) fun r => calls_outcome msg r

variable {pool : String}

theorem calls_poolStatus (h : K (.poolHealth pool)) : (poolStatus pool).run.Calls K :=
  calls_reply (calls_perform h) (fun _ => trivial) fun _ => calls_ite_throw _ _

variable {ds : String}

theorem calls_datasetExists (h : K (.list ds)) : (datasetExists ds).run.Calls K :=
  calls_reply (calls_perform h) (fun _ => trivial) fun _ => calls_ite_throw _ _

variable {name : String}

theorem calls_snapshotExists (h : K (.listSnapshot ds name)) :
    (snapshotExists ds name).run.Calls K :=
  calls_reply (calls_perform h) (fun _ => trivial) fun _ => calls_ite_throw _ _

theorem calls_listing {α : Type} {cmd : Cmd} {what : String} {parse : cmd.Out → List α}
    (h : K cmd) : (listing cmd what parse).run.Calls K :=
  calls_reply (calls_perform h) (fun _ => trivial) fun _ => calls_ite_throw _ _

theorem calls_listZvols {parent : String} (h : K (.listVolumes parent)) :
    (listZvols parent).run.Calls K :=
  calls_listing h

theorem calls_listSnapshots {target : String} (h : K (.listSnapshots target)) :
    (listSnapshots target).run.Calls K :=
  calls_listing h

/-! ### The store -/

theorem mem_volumesUnder {parent : String} {e : String × Int} (h : e ∈ s.volumesUnder parent) :
    Store.under parent e.1 = true ∧ ∃ v, s.vols.lookup e.1 = some v := by
  obtain ⟨⟨ds, v⟩, hmem, rfl⟩ := List.mem_map.1 h
  obtain ⟨hentry, hunder⟩ := List.mem_filter.1 hmem
  exact ⟨hunder, v, AList.mem_lookup_iff.2 hentry⟩

theorem mem_snapshotsUnder {target : String} {e : SnapshotEntry} (h : e ∈ s.snapshotsUnder target) :
    ∃ ds name sn, e.name = ds ++ "@" ++ name ∧
      Store.under target ds = true ∧ s.snaps.lookup (ds, name) = some sn := by
  obtain ⟨⟨⟨ds, name⟩, sn⟩, hmem, rfl⟩ := List.mem_map.1 h
  obtain ⟨hentry, hunder⟩ := List.mem_filter.1 hmem
  exact ⟨ds, name, sn, rfl, hunder, AList.mem_lookup_iff.2 hentry⟩

theorem poolOf_eq (hbare : '/' ∉ pool.toList) (hds : ∃ rest, ds.toList = pool.toList ++ '/' :: rest) :
    poolOf ds = pool := by
  obtain ⟨rest, hds⟩ := hds
  have hall : ∀ ch ∈ pool.toList, decide (ch ≠ '/') = true := by
    intro ch hch
    exact decide_eq_true fun hs => hbare (hs ▸ hch)
  unfold poolOf
  rw [hds, List.takeWhile_append_of_pos hall]
  simp

/-- The same pools are imported, in the same health. -/
def SamePools (s s' : Store) : Prop :=
  ∀ pool, (s'.pool? pool).map (·.health) = (s.pool? pool).map (·.health)

namespace SamePools

variable {s s' s'' : Store}

theorem refl (s : Store) : SamePools s s := fun _ => rfl

theorem trans (h : SamePools s s') (h' : SamePools s' s'') : SamePools s s'' :=
  fun pool => (h' pool).trans (h pool)

theorem isSome (h : SamePools s s') (pool : String) :
    (s'.pool? pool).isSome = (s.pool? pool).isSome := by
  have := congrArg Option.isSome (h pool)
  simpa using this

theorem ready (h : SamePools s s') (hr : s.Ready pool) : s'.Ready pool := by
  obtain ⟨p, hp, honline⟩ := hr
  have hmap := h pool
  rw [hp] at hmap
  obtain ⟨p', hp', hh⟩ := Option.map_eq_some_iff.1 hmap
  exact ⟨p', hp', hh ▸ honline⟩

end SamePools

theorem samePools_charge (s : Store) (q : String) (n : Int) : SamePools s (s.charge q n) := by
  intro pool
  unfold Store.charge Store.pool?
  split
  · next p hp =>
    by_cases hq : pool = q
    · subst hq
      rw [AList.lookup_insert, hp]
      by_cases hi : p.imported = true
      · simp [Option.filter, hi]
      · simp [Option.filter, hi]
    · rw [AList.lookup_insert_ne hq]
  · rfl

theorem vols_charge (s : Store) (q : String) (n : Int) : (s.charge q n).vols = s.vols := by
  unfold Store.charge
  split <;> rfl

theorem snaps_charge (s : Store) (q : String) (n : Int) : (s.charge q n).snaps = s.snaps := by
  unfold Store.charge
  split <;> rfl

theorem zvol?_putVol (hs : SamePools s s') (v : Zvol) (hp : (s.pool? (poolOf ds)).isSome = true) :
    (s'.putVol ds v).zvol? ds = some v := by
  have hp' : ((s'.putVol ds v).pool? (poolOf ds)).isSome = true := (hs.isSome _).trans hp
  unfold Store.zvol?
  rw [if_pos hp']
  exact AList.lookup_insert _

@[simp] theorem Store.zvol?_snaps (s : Store) (snaps : Map (String × String) Snap) (ds : String) :
    ({ s with snaps := snaps } : Store).zvol? ds = s.zvol? ds := rfl

theorem Store.pool?_snaps (s : Store) (snaps : Map (String × String) Snap) (pool : String) :
    ({ s with snaps := snaps } : Store).pool? pool = s.pool? pool := rfl

theorem Store.charge_snaps (s : Store) (snaps : Map (String × String) Snap) (pool : String) (n : Int) :
    ({ s with snaps := snaps } : Store).charge pool n = { s.charge pool n with snaps := snaps } := by
  unfold Store.charge
  dsimp only
  split
  · rfl
  · rfl

theorem isSome_of_zvol? {v : Zvol} (h : s.zvol? ds = some v) :
    (s.pool? (poolOf ds)).isSome = true := by
  unfold Store.zvol? at h
  split at h
  · next hp => exact hp
  · cases h

variable {size : Int}

theorem of_room (h : s.room ds size = true) :
    s.zvol? ds = none ∧ (s.pool? (poolOf ds)).isSome = true := by
  unfold Store.room at h
  simp only [Bool.and_eq_true] at h
  obtain ⟨⟨⟨-, hnone⟩, -⟩, hpool⟩ := h
  refine ⟨?_, ?_⟩
  · unfold Store.zvol?
    rw [Option.isNone_iff_eq_none.1 hnone]
    split <;> rfl
  · cases hp : s.pool? (poolOf ds) with
    | some p => rfl
    | none =>
      rw [hp] at hpool
      cases hpool

/-! ### Names -/

/-- The names in the store are such as ZFS accepts. -/
structure Store.Named (s : Store) : Prop where
  vols : ∀ ds v, s.vols.lookup ds = some v → wellNamed ds = true
  snaps : ∀ ds name sn, s.snaps.lookup (ds, name) = some sn →
    wellNamed ds = true ∧ snapNamed name = true

theorem lookup_of_zvol? {v : Zvol} (h : s.zvol? ds = some v) : s.vols.lookup ds = some v := by
  unfold Store.zvol? at h
  split at h
  · exact h
  · cases h

namespace Store.Named

variable {s : Store} {ds : String}

theorem of_zvol? (h : s.Named) {v : Zvol} (hv : s.zvol? ds = some v) : wellNamed ds = true :=
  h.vols ds v (lookup_of_zvol? hv)

theorem charge (h : s.Named) (pool : String) (n : Int) : (s.charge pool n).Named := by
  refine ⟨?_, ?_⟩
  · rw [vols_charge]
    exact h.vols
  · rw [snaps_charge]
    exact h.snaps

theorem putVol (h : s.Named) (v : Zvol) (hds : wellNamed ds = true) : (s.putVol ds v).Named := by
  refine ⟨fun d v' hv' => ?_, h.snaps⟩
  by_cases hd : d = ds
  · rw [hd]
    exact hds
  · exact h.vols d v' ((AList.lookup_insert_ne hd).symm.trans hv')

theorem dropVol (h : s.Named) : ({ s with vols := s.vols.erase ds } : Store).Named := by
  refine ⟨fun d v hv => ?_, h.snaps⟩
  by_cases hd : d = ds
  · rw [hd] at hv
    cases (AList.lookup_erase ds s.vols).symm.trans hv
  · exact h.vols d v ((AList.lookup_erase_ne hd).symm.trans hv)

theorem putSnap (h : s.Named) (sn : Snap) (hds : wellNamed ds = true)
    (hname : snapNamed name = true) :
    ({ s with snaps := s.snaps.insert (ds, name) sn } : Store).Named := by
  refine ⟨h.vols, fun d n sn' hsn' => ?_⟩
  by_cases hd : (d, n) = (ds, name)
  · obtain ⟨rfl, rfl⟩ := Prod.mk.inj hd
    exact ⟨hds, hname⟩
  · exact h.snaps d n sn' ((AList.lookup_insert_ne hd).symm.trans hsn')

theorem dropSnap (h : s.Named) : ({ s with snaps := s.snaps.erase (ds, name) } : Store).Named := by
  refine ⟨h.vols, fun d n sn hsn => ?_⟩
  by_cases hd : (d, n) = (ds, name)
  · rw [hd] at hsn
    cases (AList.lookup_erase (ds, name) s.snaps).symm.trans hsn
  · exact h.snaps d n sn ((AList.lookup_erase_ne hd).symm.trans hsn)

theorem of_room (h : s.room ds size = true) : wellNamed ds = true := by
  unfold Store.room at h
  simp only [Bool.and_eq_true] at h
  exact h.1.1.1

theorem serve (h : s.Named) (c : Cmd) : (Zfs.serve s c).2.Named := by
  rcases hserve : Zfs.serve s c with ⟨e | out, s'⟩
  · rw [serve_error hserve]
    exact h
  · have hserved := served hserve
    cases hserved with
    | read => exact h
    | create hroom => exact (h.charge _ _).putVol _ (of_room hroom)
    | destroy => exact (h.charge _ _).dropVol
    | setVolsize hv => exact (h.charge _ _).putVol _ (h.of_zvol? hv)
    | setProp hv => exact h.putVol _ (h.of_zvol? hv)
    | snapshot hv _ hname => exact h.putSnap _ (h.of_zvol? hv) hname
    | destroySnapshot => exact h.dropSnap
    | sendRecv hv hsn hroom =>
      exact ((h.charge _ _).putVol _ (of_room hroom)).putSnap _ (of_room hroom) (h.snaps _ _ _ hsn).2

theorem act (h : s.Named) (c : Cmd) (ch : Fault) : (zfsAct s c ch).2.Named := by
  unfold zfsAct
  split
  · exact h
  · exact h.serve c

end Store.Named

/-! ### Listings -/

section

variable {s : Store}

theorem fields_volumeLine (r : String × Int) :
    fields (Store.volumeLine r) = fields r.1 ++ [itoa r.2] :=
  fields_tab_itoa r.1 r.2

theorem fields_snapshotLine (e : SnapshotEntry) : fields (Store.snapshotLine e) =
    fields e.name ++ [itoa e.volsizeBytes, itoa e.creationUnix] := by
  unfold Store.snapshotLine
  rw [fields_tab_itoa, fields_tab_itoa, List.append_assoc]
  rfl

theorem oneLine_of_wellNamed {ds : String} (h : wellNamed ds = true) : '\n' ∉ ds.toList := by
  intro hmem
  cases List.all_eq_true.1 (Bool.and_eq_true_iff.1 h).2 '\n' hmem

/-- The rows of a printed listing, line by line. -/
theorem Store.Named.rows_volumes (h : s.Named) (parent : String) :
    rows zvolRow (unlines ((s.volumesUnder parent).map volumeLine)) =
      (s.volumesUnder parent).filterMap fun r => zvolRow (fields r.1 ++ [itoa r.2]) := by
  rw [rows_unlines rfl, List.filterMap_map]
  · simp only [Function.comp_def, fields_volumeLine]
  · intro l hl
    obtain ⟨r, hr, rfl⟩ := List.mem_map.1 hl
    obtain ⟨-, v, hv⟩ := mem_volumesUnder hr
    exact line_itoa (oneLine_of_wellNamed (h.vols _ _ hv)) _

theorem Store.Named.rows_snapshots (h : s.Named) (target : String) :
    rows snapshotRow (unlines ((s.snapshotsUnder target).map snapshotLine)) =
      (s.snapshotsUnder target).filterMap fun e =>
        snapshotRow (fields e.name ++ [itoa e.volsizeBytes, itoa e.creationUnix]) := by
  rw [rows_unlines rfl, List.filterMap_map]
  · simp only [Function.comp_def, fields_snapshotLine]
  · intro l hl
    obtain ⟨e, he, rfl⟩ := List.mem_map.1 hl
    obtain ⟨ds, name, sn, hname, -, hsn⟩ := mem_snapshotsUnder he
    obtain ⟨hwell, hsnap⟩ := h.snaps _ _ _ hsn
    have honeLine : '\n' ∉ name.toList := fun hmem => by
      cases List.all_eq_true.1 (Bool.and_eq_true_iff.1 hsnap).2 '\n' hmem
    refine line_itoa ?_ _
    simp [hname, oneLine_of_wellNamed hwell, honeLine, (solid_itoa _).oneLine]

end

/-! ### The zvols -/

def Cmd.touches : Cmd → Bool
  | .create _ _ _ | .destroy _ | .setVolsize _ _ | .setProp _ _ _ | .sendRecv _ _ _ => true
  | _ => false

/-- What a command that succeeds does to the table of zvols. -/
inductive VolEffect (m : Map String Zvol) : Cmd → Map String Zvol → Prop where
  | create {ds block : String} {size : Int} : m.lookup ds = none →
      VolEffect m (.create ds size block) (m.insert ds ⟨size, block, ∅, 0⟩)
  | recv {source snap ds block : String} {size : Int} {data : Nat} : m.lookup ds = none →
      VolEffect m (.sendRecv source snap ds) (m.insert ds ⟨size, block, ∅, data⟩)
  | resize {ds : String} {size : Int} {v : Zvol} : m.lookup ds = some v →
      VolEffect m (.setVolsize ds size) (m.insert ds { v with volsize := size })
  | setProp {ds prop value : String} {v : Zvol} : m.lookup ds = some v →
      VolEffect m (.setProp ds prop value) (m.insert ds { v with props := v.props.insert prop value })
  | destroy {ds : String} : VolEffect m (.destroy ds) (m.erase ds)
  | other {c : Cmd} : c.touches = false → VolEffect m c m

theorem absent_of_room (h : s.room ds size = true) : s.vols.lookup ds = none := by
  unfold Store.room at h
  simp only [Bool.and_eq_true] at h
  exact Option.isNone_iff_eq_none.1 h.1.1.2

theorem serve_vols (h : serve s c = (.ok out, s')) : VolEffect s.vols c s'.vols := by
  have hserved := served h
  cases hserved with
  | read hc =>
    refine .other ?_
    cases c <;> first | rfl | cases hc
  | create hroom =>
    rw [Store.putVol, vols_charge]
    exact .create (absent_of_room hroom)
  | destroy =>
    rw [vols_charge]
    exact .destroy
  | setVolsize hv =>
    rw [Store.putVol, vols_charge]
    exact .resize (lookup_of_zvol? hv)
  | setProp hv => exact .setProp (lookup_of_zvol? hv)
  | snapshot | destroySnapshot => exact .other rfl
  | sendRecv _ _ hroom =>
    rw [Store.putVol, vols_charge]
    exact .recv (absent_of_room hroom)

theorem vols_of_untouched (hc : c.touches = false) (h : serve s c = (.ok out, s')) :
    s'.vols = s.vols := by
  have heffect := serve_vols h
  generalize s'.vols = m at heffect
  cases heffect with
  | other => rfl
  | _ => cases hc

/-! ### The snapshots -/

def Cmd.touchesSnaps : Cmd → Bool
  | .snapshot _ _ | .destroySnapshot _ _ | .sendRecv _ _ _ => true
  | _ => false

/-- What a command that succeeds does to the table of snapshots. -/
inductive SnapEffect (m : Map (String × String) Snap) : Cmd → Map (String × String) Snap → Prop where
  | snapshot {ds name : String} {sn : Snap} : m.lookup (ds, name) = none →
      SnapEffect m (.snapshot ds name) (m.insert (ds, name) sn)
  | recv {source snap ds : String} {sn : Snap} : m.lookup (source, snap) = some sn →
      SnapEffect m (.sendRecv source snap ds) (m.insert (ds, snap) sn)
  | destroy {ds name : String} : SnapEffect m (.destroySnapshot ds name) (m.erase (ds, name))
  | other {c : Cmd} : c.touchesSnaps = false → SnapEffect m c m

theorem serve_snaps (h : serve s c = (.ok out, s')) : SnapEffect s.snaps c s'.snaps := by
  have hserved := served h
  cases hserved with
  | read hc =>
    refine .other ?_
    cases c <;> first | rfl | cases hc
  | create | destroy | setVolsize => exact snaps_charge s _ _ ▸ .other rfl
  | setProp => exact .other rfl
  | snapshot _ hnew => exact .snapshot hnew
  | destroySnapshot => exact .destroy
  | sendRecv _ hsn =>
    rw [snaps_charge]
    exact .recv hsn

/-! ### What a command did, when it succeeded -/

variable {u : Unit} {out : Int}

section

variable {s s' : Store} {ds : String}

theorem serve_create {block : String} (h : serve s (.create ds size block) = (.ok u, s')) :
    s.zvol? ds = none ∧ SamePools s s' ∧ s'.zvol? ds = some ⟨size, block, ∅, 0⟩ := by
  cases served h with
  | read hc => cases hc
  | create hroom =>
    obtain ⟨hnone, hpool⟩ := of_room hroom
    have hs := samePools_charge s (poolOf ds) size
    exact ⟨hnone, hs, zvol?_putVol hs _ hpool⟩

theorem serve_setProp {prop value : String} (h : serve s (.setProp ds prop value) = (.ok u, s')) :
    ∃ v, s.zvol? ds = some v ∧
      SamePools s s' ∧ s'.zvol? ds = some { v with props := v.props.insert prop value } := by
  cases served h with
  | read hc => cases hc
  | setProp hv => exact ⟨_, hv, .refl s, zvol?_putVol (.refl s) _ (isSome_of_zvol? hv)⟩

theorem serve_setVolsize (h : serve s (.setVolsize ds size) = (.ok u, s')) :
    ∃ v, s.zvol? ds = some v ∧
      SamePools s s' ∧ s'.zvol? ds = some { v with volsize := size } := by
  cases served h with
  | read hc => cases hc
  | setVolsize hv =>
    have hs := samePools_charge s (poolOf ds)
    exact ⟨_, hv, hs _, zvol?_putVol (hs _) _ (isSome_of_zvol? hv)⟩

/-- The copy of a snapshot has arrived at `ds`, where nothing was. -/
structure Arrived (s s' : Store) (source snap ds : String) (sn : Snap) : Prop where
  found : s.snaps.lookup (source, snap) = some sn
  absent : s.zvol? ds = none
  pools : SamePools s s'
  copy : s'.zvol? ds = some ⟨sn.volsize, sn.volblocksize, ∅, sn.data⟩

theorem serve_sendRecv {source snap : String} (h : serve s (.sendRecv source snap ds) = (.ok u, s')) :
    ∃ sn, Arrived s s' source snap ds sn := by
  cases served h with
  | read hc => cases hc
  | sendRecv _ hsn hroom =>
    obtain ⟨hnone, hpool⟩ := of_room hroom
    have hs := samePools_charge s (poolOf ds)
    exact ⟨_, hsn, hnone, hs _, zvol?_putVol (hs _) _ hpool⟩

theorem serve_snapshot (h : serve s (.snapshot ds name) = (.ok u, s')) : ∃ v, s.zvol? ds = some v ∧
      SamePools s s' ∧ (∀ d, s'.zvol? d = s.zvol? d) ∧
      s'.snaps.lookup (ds, name) = some ⟨v.volsize, v.volblocksize, s.clock, v.data⟩ ∧
      snapNamed name = true := by
  cases served h with
  | read hc => cases hc
  | snapshot hv _ hname =>
    exact ⟨_, hv, .refl s, fun _ => rfl, AList.lookup_insert _, hname⟩

theorem serve_destroySnapshot (h : serve s (.destroySnapshot ds name) = (.ok u, s')) :
    SamePools s s' ∧ ∀ d, s'.zvol? d = s.zvol? d := by
  cases served h with
  | read hc => cases hc
  | destroySnapshot => exact ⟨.refl s, fun _ => rfl⟩

/-- What a reading that succeeds has found. -/
def Cmd.Found (s : Store) : (c : Cmd) → c.Out → Prop
  | .getVolsize ds, out => ∃ v, s.zvol? ds = some v ∧ v.volsize = out
  | .getVolblocksize ds, out => ∃ v, s.zvol? ds = some v ∧ blockBytes v.volblocksize = out
  | .getProp ds prop, out => ∃ v, s.zvol? ds = some v ∧ (v.props.lookup prop).getD "-" = out
  | .available pool, out => ∃ p, s.pool? pool = some p ∧ p.available = out
  | .poolSize pool, out => ∃ p, s.pool? pool = some p ∧ p.size = out
  | .poolHealth pool, out => ∃ p, s.pool? pool = some p ∧ p.health = out
  | _, _ => True

theorem serve_found {out : c.Out} (hc : c.reads = true) (h : serve s c = (.ok out, s')) :
    s' = s ∧ c.Found s out := by
  cases c with
  | getVolsize | getVolblocksize | getProp | available | poolSize | poolHealth =>
    unfold serve refused at h
    obtain ⟨hr, rfl⟩ := Prod.mk.inj h
    split at hr
    · next x hx => exact ⟨rfl, x, hx, Except.ok.inj hr⟩
    · cases hr
  | poolFree | list | listSnapshot | listVolumes | listSnapshots | getCreation =>
    exact ⟨(Prod.mk.inj h).2.symm, trivial⟩
  | _ => cases hc

theorem hasSnapshots_of_lookup {sn : Snap} (h : s.snaps.lookup (ds, name) = some sn) :
    s.hasSnapshots ds = true := by
  refine List.any_eq_true.2 ⟨⟨(ds, name), sn⟩, AList.mem_lookup_iff.1 h, ?_⟩
  simp

theorem hasSnapshots_of_destroy (h : serve s (.destroy ds) = (.ok u, s')) :
    s.hasSnapshots ds = false := by
  cases served h with
  | read hc => cases hc
  | destroy _ hno => exact hno

end

/-! ### Rules -/

section

variable {ε : Type} {s : Store}

theorem ends_perform {Q : c.Reply → Store → Prop} {X : ε → Store → Prop}
    (herr : ∀ e, Q (.error e) s) (hok : ∀ out s', serve s c = (.ok out, s') → Q (.ok out) s') :
    Ends zfsAct (fun _ => True) (perform c : Script ε c.Reply) s Q X := by
  exact Ends.perform fun ch => ⟨trivial, zfsAct_elim (Q := fun x => Q x.1 x.2) ch herr hok⟩

theorem ends_outcome {msg : String} {Q : c.Out → Store → Prop} {X : String → Store → Prop}
    (herr : ∀ e, X e s) (hok : ∀ out s', serve s c = (.ok out, s') → Q out s') :
    Ends zfsAct (fun _ => True)
      (perform c >>= fun r => outcome msg r : Tool c.Out) s Q X := by
  refine Ends.bind (ends_perform (Q := Outcome Q fun _ s' => s' = s) (fun _ => rfl) hok) ?_
  rintro (e | out) s' hr
  · obtain rfl : s' = s := hr
    exact Ends.throw (herr _)
  · exact Ends.pure hr

def Unfailing (tr : List ZfsEv) : Prop :=
  ∀ e ∈ tr, e.reply.isOk = true

theorem not_unfailing_of_error {ch : Fault} {e : ExecError}
    {tr : List ZfsEv} (h : ⟨s, c, ch, .error e⟩ ∈ tr) :
    ¬ Unfailing tr := fun hall => Bool.false_ne_true (hall _ h)

theorem wp_served {α : Type} {msg : String} {g : String → ε}
    {f : c.Out → Script ε α}
    {Q : List ZfsEv → Except ε α → Store → Prop}
    (herr : ∀ ch e, Q [⟨s, c, ch, .error e⟩] (.error (g (msg ++ ": " ++ e.text))) s) (hok : ∀ ch out
      s', serve s c = (.ok out, s') → wp zfsAct (f out).run s' fun tr => Q (⟨s, c, ch, .ok out⟩ ::
      tr)) :
    wp zfsAct (onError g (perform c >>= fun r => outcome msg r : Tool c.Out) >>= f).run s Q := by
  intro ch
  exact zfsAct_elim (c := c) (Q := fun x => wp zfsAct (onError g (outcome msg x.1) >>= f).run x.2
    fun tr => Q (⟨s, c, ch, x.1⟩ :: tr)) ch (herr ch) (hok ch)

/-- The value of a user property as it is read. -/
def Zvol.read (v : Zvol) (prop : String) : String :=
  let out := trimSpace ((v.props.lookup prop).getD "-")
  if out = "-" then "" else out

theorem yields_poolStatus (pool : String) : Yields zfsAct (poolStatus pool) s fun st s' =>
    s' = s ∧ ((st.1 && st.2) = true → s.Ready pool) := by
  refine Ends.bind (ends_perform (Q := fun r s' => s' = s ∧
    ∀ out, r = .ok out → ∃ p, s.pool? pool = some p ∧ p.health = out) ?_ ?_) ?_
  · exact fun e => ⟨rfl, fun _ h => nomatch h⟩
  · intro out s' h
    obtain ⟨rfl, hp⟩ := serve_found rfl h
    refine ⟨rfl, ?_⟩
    rintro _ ⟨⟩
    exact hp
  · rintro (e | health) s' ⟨rfl, hp⟩
    · change Ends zfsAct _ (if _ then _ else _) s' _ _
      split
      · exact Ends.pure ⟨rfl, fun h => nomatch h⟩
      · exact Ends.throw trivial
    · obtain ⟨p, hpool, hh⟩ := hp health rfl
      refine Ends.pure ⟨rfl, fun hon => ⟨p, hpool, ?_⟩⟩
      rw [hh]
      simpa using hon

theorem yields_datasetExists (ds : String) :
    Yields zfsAct (datasetExists ds) s fun _ s' => s' = s := by
  refine Ends.bind (ends_perform (Q := fun _ s' => s' = s) (fun _ => rfl) ?_) ?_
  · intro out s' h
    exact (Prod.mk.inj h).2.symm
  · rintro (e | u) s' rfl
    · change Ends zfsAct _ (if _ then _ else _) s' _ _
      split
      · exact Ends.pure rfl
      · exact Ends.throw trivial
    · exact Ends.pure rfl

theorem yields_getVolsize (ds : String) : Yields zfsAct (getVolsize ds) s fun out s' =>
    s' = s ∧ ∃ v, s.zvol? ds = some v ∧ v.volsize = out :=
  ends_outcome (fun _ => trivial) fun _ _ h => serve_found rfl h

theorem yields_getUserProp (ds prop : String) :
    Yields zfsAct (getUserProp ds prop) s fun out s' =>
      s' = s ∧ ∃ v, s.zvol? ds = some v ∧ v.read prop = out := by
  refine Ends.bind (ends_perform (Q := Outcome (fun out s' => s' = s ∧ ∃ v, s.zvol? ds = some v ∧
    (v.props.lookup prop).getD "-" = out) fun _ _ => True) (fun _ => trivial) ?_) ?_
  · exact fun _ _ h => serve_found rfl h
  · rintro (e | out) s' hr
    · exact Ends.throw trivial
    · obtain ⟨rfl, v, hv, rfl⟩ := hr
      exact Ends.pure ⟨rfl, v, hv, rfl⟩

theorem yields_poolAvailable (pool : String) :
    Yields zfsAct (poolAvailable pool) s fun _ s' => s' = s :=
  ends_outcome (fun _ => trivial) fun _ _ h => (Prod.mk.inj h).2.symm

theorem yields_listing {α : Type} {cmd : Cmd} {what : String} {parse : cmd.Out → List α}
    (hcmd : cmd.reads = true) : Yields zfsAct (listing cmd what parse) s fun l s' =>
      s' = s ∧ ∀ e ∈ l, ∃ out, serve s cmd = (.ok out, s) ∧ e ∈ parse out := by
  refine Ends.bind (ends_perform (Q := Outcome (fun out s' => s' = s ∧ serve s cmd = (.ok out, s))
    fun _ s' => s' = s) (fun _ => rfl) ?_) ?_
  · intro out s' h
    obtain rfl := (serve_found hcmd h).1
    exact ⟨rfl, h⟩
  · rintro (e | out) s' hr
    · obtain rfl : s' = s := hr
      change Ends zfsAct _ (if _ then _ else _) s' _ _
      split
      · exact Ends.pure ⟨rfl, by simp⟩
      · exact Ends.throw trivial
    · obtain ⟨rfl, hserve⟩ := hr
      exact Ends.pure ⟨rfl, fun e he => ⟨out, hserve, he⟩⟩

theorem yields_listZvols (parent : String) : Yields zfsAct (listZvols parent) s fun l s' =>
    s' = s ∧ ∀ e ∈ l, e ∈ rows zvolRow (unlines ((s.volumesUnder parent).map Store.volumeLine)) := by
  refine Ends.mono (yields_listing rfl) ?_ fun _ _ _ => trivial
  rintro l _ ⟨rfl, hl⟩
  refine ⟨rfl, fun e he => ?_⟩
  obtain ⟨out, hserve, hmem⟩ := hl e he
  obtain ⟨hr, -⟩ := Prod.mk.inj hserve
  split at hr
  · exact Except.ok.inj hr ▸ hmem
  · cases hr

theorem ends_destroySnapshot : Ends zfsAct (fun _ => True)
    (destroySnapshot ds name) s (fun _ s' => SamePools s s' ∧ ∀ d, s'.zvol? d = s.zvol? d)
    fun _ s' => SamePools s s' ∧ ∀ d, s'.zvol? d = s.zvol? d :=
  ends_outcome (fun _ => ⟨.refl s, fun _ => rfl⟩) fun _ _ h => serve_destroySnapshot h

end

end NomadCsi.Zfs
