import NomadCsi.Local.Misroute

/-!
# What a reported removal says

`localDelete` and `localDeleteSnapshot` ask `zfs list` first and take its exit status 1 for
"not there". It is also what a listing says of a pool that is not imported, and what a
listing that failed for another reason may say.
-/

namespace NomadCsi.Local

open Lib Lib.Go Driver Zfs

/-- The command failed, by a fault, with exit status 1. -/
def Misled (ev : ZfsEv) : Prop := ∃ err, ev.choice.fail = some err ∧ isExit err 1 = true

/-! ### Probes -/

variable {ds : String}

section

variable {s s' : Store} {tr : List ZfsEv} {b : Bool}

theorem runs_probe (msg : ExecError → String) {c : Cmd} {k : c.Reply → Tool Bool}
    (hread : c.reads = true) (hok : ∀ v, k (.ok v) = pure true)
    (herr : ∀ e, k (.error e) = if isExit e 1 then pure false else throw (msg e))
    (h : Runs zfsAct (perform c >>= k).run s tr (.ok b) s') :
    s' = s ∧ ∃ ev, tr = [ev] ∧ ev.call = c ∧
      (b = true ∧ ev.choice.fail = none ∧ (serve s c).1.isOk = true ∨
        b = false ∧ (Misled ev ∨ (serve s c).1.isOk = false)) := by
  obtain ⟨ch, t, rfl, hk⟩ := runs_call.1 h
  rw [zfsAct_reads hread] at hk
  change Runs zfsAct (k (zfsAct s c ch).1).run s t (.ok b) s' at hk
  -- an answer needs no further command
  have hend : ∀ e, (zfsAct s c ch).1 = .error e → b = false ∧ isExit e 1 = true ∧ t = [] ∧ s' = s := by
    intro e he
    rw [he, herr] at hk
    by_cases hexit : isExit e 1 = true
    · rw [if_pos hexit] at hk
      obtain ⟨ht, hb, hs⟩ := runs_ret.1 hk
      exact ⟨(Except.ok.inj hb), hexit, ht, hs⟩
    · rw [if_neg hexit] at hk
      obtain ⟨-, hb, -⟩ := runs_ret.1 hk
      cases hb
  cases hr : (zfsAct s c ch).1 with
  | ok v =>
    rw [hr, hok] at hk
    obtain ⟨rfl, hb, rfl⟩ := runs_ret.1 hk
    refine ⟨rfl, _, rfl, rfl, .inl ⟨Except.ok.inj hb, ?_⟩⟩
    unfold zfsAct at hr
    split at hr
    · cases hr
    · next hnone => exact ⟨hnone, by rw [hr]; rfl⟩
  | error e =>
    obtain ⟨hb, hexit, rfl, hs⟩ := hend e hr
    refine ⟨hs, _, rfl, rfl, .inr ⟨hb, ?_⟩⟩
    unfold zfsAct at hr
    split at hr
    · next hfail =>
      cases hr
      exact .inl ⟨e, hfail, hexit⟩
    · exact .inr (by rw [hr]; rfl)

theorem runs_datasetExists (h : Runs zfsAct (datasetExists ds).run s tr (.ok b) s') :
    s' = s ∧ ∃ ev, tr = [ev] ∧
      ev.call = .list ds ∧ (b = true ∧ ev.choice.fail = none ∧ (s.zvol? ds).isSome = true ∨
        b = false ∧ (Misled ev ∨ s.zvol? ds = none)) := by
  have hserve : (serve s (.list ds)).1.isOk = (s.zvol? ds).isSome := by
    cases hv : s.zvol? ds with
    | none => simp [serve, hv, refused, Except.isOk, Except.toBool]
    | some v => simp [serve, hv, Except.isOk, Except.toBool]
  have hprobe := runs_probe (fun e => "zfs list " ++ ds ++ ": " ++ e.text) rfl (fun _ => rfl)
    (fun _ => rfl) h
  rw [hserve, Option.isSome_eq_false_iff, Option.isNone_iff_eq_none] at hprobe
  exact hprobe

theorem runs_snapshotExists {name : String}
    (h : Runs zfsAct (snapshotExists ds name).run s tr (.ok b) s') : s' = s ∧ ∃ ev, tr = [ev] ∧
      ev.call = .listSnapshot ds name ∧
      (b = true ∧ ev.choice.fail = none ∧ (s.zvol? ds).isSome = true ∨
        b = false ∧ (Misled ev ∨ s.zvol? ds = none ∨ s.snaps.lookup (ds, name) = none)) := by
  obtain ⟨hs, ev, htr, hcall, hcase⟩ := runs_probe
    (fun e => "zfs list " ++ ds ++ "@" ++ name ++ ": " ++ e.text) rfl (fun _ => rfl)
    (fun _ => rfl) h
  refine ⟨hs, ev, htr, hcall, hcase.imp (fun h => ⟨h.1, h.2.1, ?_⟩) fun h => ⟨h.1, h.2.imp id ?_⟩⟩
  · have hok := h.2.2
    cases hv : s.zvol? ds with
    | some v => rfl
    | none => simp [serve, hv, refused, Except.isOk, Except.toBool] at hok
  · intro hbad
    cases hv : s.zvol? ds with
    | none => exact .inl rfl
    | some v =>
      cases hsn : s.snaps.lookup (ds, name) with
      | none => exact .inr rfl
      | some sn => simp [serve, hv, hsn, Except.isOk, Except.toBool] at hbad

end

/-! ### Removals -/

inductive Removal where
  | volume (volumeID : String)
  | snapshot (snapshotID : String)
deriving DecidableEq, Repr

namespace Removal

def op (c : Controller) : Removal → LocalOp Unit
  | volume id => localDelete c id
  | snapshot id => localDeleteSnapshot id

/-- What the id names is there, on a pool that is imported or not. -/
def Present (s : Store) : Removal → Prop
  | volume id => ∃ e, parseExternalID id = .ok e ∧ (s.vols.lookup e.dataset).isSome = true
  | snapshot id =>
    ∃ sid, parseSnapshotID id = .ok sid ∧ (s.snaps.lookup (sid.dataset, sid.snapName)).isSome = true

/-- The zvol that the id names, or whose snapshot it names, is on an imported pool. -/
def Imported (s : Store) : Removal → Prop
  | volume id => ∃ e, parseExternalID id = .ok e ∧ (s.zvol? e.dataset).isSome = true
  | snapshot id => ∃ sid, parseSnapshotID id = .ok sid ∧ (s.zvol? sid.dataset).isSome = true

def Looks (cmd : Cmd) : Removal → Prop
  | volume id => ∃ e, parseExternalID id = .ok e ∧ cmd = .list e.dataset
  | snapshot id => ∃ sid, parseSnapshotID id = .ok sid ∧ cmd = .listSnapshot sid.dataset sid.snapName

end Removal

section

variable {c : Controller} {s s' : Store} {tr : List ZfsEv}

/-- A probe, and what is run if it finds something: it has left nothing behind exactly if nothing
was there, or if it was to be seen and the probe was not misled. -/
theorem done_iff_of_probe {x : LocalOp Bool} {y : LocalOp Unit} {P : Store → Prop} {V : Prop}
    {L : Cmd → Prop}
    (hx : ∀ t b s1, Runs zfsAct x.run s t (.ok b) s1 → s1 = s ∧ ∃ ev, t = [ev] ∧ L ev.call ∧
      (b = true ∧ ev.choice.fail = none ∧ V ∨ b = false ∧ (Misled ev ∨ (V → ¬ P s))))
    (hy : Yields zfsAct y s fun _ s1 => ¬ P s1) (hcalls : y.run.Calls fun cmd => ¬ L cmd)
    (h : Runs zfsAct (x >>= fun b => if b then y else pure ()).run s tr (.ok ()) s') :
    ¬ P s' ↔ ¬ P s ∨ V ∧ ∀ ev ∈ tr, L ev.call → ¬ Misled ev := by
  obtain ⟨t1, b, s1, t2, rfl, hprobe, hrest⟩ := runs_run_bind_ok.1 h
  obtain ⟨rfl, ev, rfl, hlooks, ⟨rfl, hfail, hV⟩ | ⟨rfl, hmiss⟩⟩ := hx _ _ _ hprobe
  · have hgone : ¬ P s' := (Ends.runs hy hrest).2
    refine iff_of_true hgone (.inr ⟨hV, fun ev' hev' hlooks' => ?_⟩)
    rcases List.mem_cons.1 hev' with rfl | hev'
    · rintro ⟨err, herr, -⟩
      rw [hfail] at herr
      cases herr
    · exact absurd hlooks' (hrest.calls hcalls ev' hev')
  · obtain ⟨rfl, -, rfl⟩ := runs_ret.1 hrest
    constructor
    · exact .inl
    · rintro (hnot | ⟨hV, htrue⟩)
      · exact hnot
      · exact (hmiss.resolve_left (htrue ev (.head _) hlooks)) hV

theorem gone_of_destroyZvol : Yields zfsAct (destroyZvol ds) s fun _ s1 =>
    s1.vols.lookup ds = none := by
  refine ends_outcome (fun _ => trivial) fun u s1 hserve => ?_
  simp only [serve] at hserve
  split at hserve
  · split at hserve
    · cases hserve
    · cases hserve
      exact AList.lookup_erase _ _
  · cases hserve

theorem gone_of_destroySnapshot {name : String} :
    Yields zfsAct (destroySnapshot ds name) s fun _ s1 => s1.snaps.lookup (ds, name) = none := by
  refine ends_outcome (fun _ => trivial) fun u s1 hserve => ?_
  simp only [serve] at hserve
  split at hserve
  · cases hserve
    exact AList.lookup_erase _ _
  · cases hserve

def Removal.Done (r : Removal) (s : Store) (tr : List ZfsEv) (s' : Store) : Prop :=
  ¬ r.Present s' ↔ ¬ r.Present s ∨ r.Imported s ∧ ∀ ev ∈ tr, r.Looks ev.call → ¬ Misled ev

theorem localDelete_done {volID : String}
    (h : Runs zfsAct (localDelete c volID).run s tr (.ok ()) s') :
    (Removal.volume volID).Done s tr s' := by
  unfold localDelete at h
  cases hid : parseExternalID volID with
  | error e =>
    rw [hid] at h
    obtain ⟨-, he, -⟩ := runs_ret.1 h
    cases he
  | ok e =>
    rw [hid, decided_ok_bind] at h
    split at h
    · obtain ⟨-, he, -⟩ := runs_ret.1 h
      cases he
    · have hdone := done_iff_of_probe (P := fun s => (s.vols.lookup e.dataset).isSome = true)
        (V := (s.zvol? e.dataset).isSome = true) (L := fun cmd => cmd = .list e.dataset) ?_ ?_ ?_ h
      · simpa [Removal.Done, Removal.Present, Removal.Imported, Removal.Looks, hid] using hdone
      · intro t b s1 hprobe
        obtain ⟨hs, ev, ht, hcall, hcase⟩ := runs_datasetExists (runs_onError_ok hprobe)
        refine ⟨hs, ev, ht, hcall, hcase.imp id fun h => ⟨h.1, h.2.imp id fun hnone hV => ?_⟩⟩
        rw [hnone] at hV
        cases hV
      · refine Ends.bind (Ends.onError (yields_true _ _)) fun snaps s1 _ => ?_
        split
        · exact Ends.throw trivial
        · exact Ends.onError (gone_of_destroyZvol.mono (fun _ _ hnone => by simp [hnone])
            fun _ _ _ => trivial)
      · refine calls_run_bind (calls_onError (calls_listSnapshots (by simp))) fun snaps => ?_
        split
        · trivial
        · exact calls_onError (calls_command _ (by simp))

theorem localDeleteSnapshot_done {snapID : String}
    (h : Runs zfsAct (localDeleteSnapshot snapID).run s tr (.ok ()) s') :
    (Removal.snapshot snapID).Done s tr s' := by
  unfold localDeleteSnapshot at h
  cases hid : parseSnapshotID snapID with
  | error e =>
    rw [hid] at h
    obtain ⟨-, he, -⟩ := runs_ret.1 h
    cases he
  | ok sid =>
    rw [hid, decided_ok_bind] at h
    have hdone := done_iff_of_probe
      (P := fun s => (s.snaps.lookup (sid.dataset, sid.snapName)).isSome = true)
      (V := (s.zvol? sid.dataset).isSome = true)
      (L := fun cmd => cmd = .listSnapshot sid.dataset sid.snapName) ?_ ?_ ?_ h
    · simpa [Removal.Done, Removal.Present, Removal.Imported, Removal.Looks, hid] using hdone
    · intro t b s1 hprobe
      obtain ⟨hs, ev, ht, hcall, hcase⟩ := runs_snapshotExists (runs_onError_ok hprobe)
      refine ⟨hs, ev, ht, hcall, hcase.imp id fun h => ⟨h.1, h.2.imp id ?_⟩⟩
      rintro (hnone | hnone) hV
      · rw [hnone] at hV
        cases hV
      · simp [hnone]
    · refine Ends.onError (gone_of_destroySnapshot.mono (fun _ _ hnone => by simp [hnone])
        fun _ _ _ => trivial)
    · exact calls_onError (calls_command _ (by simp))

/-- A removal that returned without an error has left nothing behind exactly if there was nothing,
or if the zvol was on an imported pool and the listing did not fail with exit status 1. -/
theorem removal_done_iff (r : Removal) (h : Runs zfsAct (r.op c).run s tr (.ok ()) s') :
    ¬ r.Present s' ↔
      ¬ r.Present s ∨ r.Imported s ∧ ∀ ev ∈ tr, r.Looks ev.call → ¬ Misled ev := by
  cases r with
  | volume id => exact localDelete_done h
  | snapshot id => exact localDeleteSnapshot_done h

end

/-- The pool `tank` with the volume `vol` and its snapshot `daily`, not imported. -/
def tankExported : Store :=
  { tankSnapshot with
    pools := AList.insert "tank" ⟨false, "ONLINE", 90000, 2 ^ 20, 90000⟩ ∅ }

theorem removal_done_tank : ∃ tr s', Runs zfsAct
    ((Removal.snapshot "locals/v1/a/tank/csi/vol/daily").op (tankController "a")).run tankSnapshot tr
      (.ok ()) s' ∧ ¬ (Removal.snapshot "locals/v1/a/tank/csi/vol/daily").Present s' := by
  obtain ⟨tr, u, s', hrun, hnone⟩ := runs_ok_of_exec zfsAct
    ((Removal.snapshot "locals/v1/a/tank/csi/vol/daily").op (tankController "a")).run tankSnapshot
    [{}, {}] (fun x => ∀ ev ∈ x.1, ev.choice.fail = none) (by decide)
  refine ⟨tr, s', hrun, (removal_done_iff _ hrun).2 (.inr ⟨⟨_, rfl, rfl⟩, ?_⟩)⟩
  rintro ev hev - ⟨err, herr, -⟩
  rw [hnone ev hev] at herr
  cases herr

/-- The pool is not imported: the delete returns nil, and the volume is there when the pool is
back. -/
theorem removal_claimed_not_done : ¬ ∀ (c : Controller) (r : Removal) (s s' : Store)
    (tr : List ZfsEv), Runs zfsAct (r.op c).run s tr (.ok ()) s' → ¬ r.Present s' := by
  intro h
  obtain ⟨tr, u, s', hrun, hthere⟩ := runs_ok_of_exec zfsAct
    ((Removal.volume "local/v1/a/tank/csi/vol").op (tankController "a")).run tankExported [{}]
    (fun x => (x.2.2.vols.lookup "tank/csi/vol").isSome = true) (by decide)
  exact h _ _ _ _ _ hrun ⟨⟨"a", "tank/csi/vol"⟩, rfl, hthere⟩

end NomadCsi.Local
