import NomadCsi.Local.Ids
import NomadCsi.Local.Retry

/-!
# Retrying a snapshot

`localSnapshot` takes the snapshot first and reads its size and its creation time after.
Nothing looks whether the snapshot is there already, so once the first command of a call
was carried out, `zfs snapshot` refuses every later call of that name.
-/

namespace NomadCsi.Local

open Lib Lib.Go Driver Zfs

theorem snapNamed_sanitizeName (name : String) :
    snapNamed (sanitizeName name) = true ↔ sanitizeName name ≠ "" := by
  have hall : (sanitizeName name).toList.all zfsChar = true := by
    unfold sanitizeName
    rw [String.toList_ofList, List.all_eq_true]
    intro ch hmem
    obtain ⟨x, -, rfl⟩ := List.mem_map.1 (List.mem_of_mem_take hmem)
    split
    · next hch => exact Bool.or_eq_true_iff.2 (.inl hch)
    · rfl
  simp only [snapNamed, hall, Bool.and_true, decide_eq_true_eq]

/-! ### One node -/

variable {ds name : String}

section

variable {c : Controller} {a : SnapshotArgs} {e : ExternalID} {v : Zvol} {s : Store}

def Store.snapped (s : Store) (ds name : String) (v : Zvol) : Store :=
  { s with snaps := s.snaps.insert (ds, name) ⟨v.volsize, v.volblocksize, s.clock, v.data⟩ }

theorem serve_snapshot_new (hv : s.zvol? ds = some v) (hnew : s.snaps.lookup (ds, name) = none)
    (hname : snapNamed name = true) :
    serve s (.snapshot ds name) = (.ok (), Store.snapped s ds name v) := by
  simp [serve, hv, hnew, hname, Store.snapped]

theorem serve_snapshot_unnamed (hv : s.zvol? ds = some v) (hnew : s.snaps.lookup (ds, name) = none)
    (hname : snapNamed name = false) :
    serve s (.snapshot ds name) = (.error ⟨1, "invalid snapshot name"⟩, s) := by
  simp [serve, hv, hnew, hname, refused]

theorem serve_snapshot_there {sn : Snap} (hv : s.zvol? ds = some v)
    (hold : s.snaps.lookup (ds, name) = some sn) :
    serve s (.snapshot ds name) = (.error ⟨1, "dataset already exists"⟩, s) := by
  simp [serve, hv, hold, refused]

theorem zvol?_snapped (s : Store) (ds name d : String) (v : Zvol) :
    (Store.snapped s ds name v).zvol? d = s.zvol? d := rfl

theorem lookup_snapped (s : Store) (ds name : String) (v : Zvol) :
    (Store.snapped s ds name v).snaps.lookup (ds, name) =
      some ⟨v.volsize, v.volblocksize, s.clock, v.data⟩ := AList.lookup_insert _

theorem serve_snapshot_again (s : Store) (ds name : String) :
    (serve (serve s (.snapshot ds name)).2 (.snapshot ds name)).2 =
      (serve s (.snapshot ds name)).2 := by
  rcases hserve : serve s (.snapshot ds name) with ⟨err | u, s'⟩
  · obtain rfl := serve_error hserve
    dsimp only
    rw [hserve]
  · simp only [serve] at hserve
    split at hserve
    · next v hv hnew =>
      split at hserve
      · cases hserve
        have hthere := serve_snapshot_there (s := Store.snapped s ds name v) hv
          (lookup_snapped s ds name v)
        change (serve (Store.snapped s ds name v) (.snapshot ds name)).2 = Store.snapped s ds name v
        rw [hthere]
      · cases hserve
    · cases hserve
    · cases hserve

theorem eval_localSnapshot (hid : parseExternalID a.sourceVolumeID = .ok e)
    (hv : s.zvol? e.dataset = some v)
    (hnew : s.snaps.lookup (e.dataset, sanitizeName a.name) = none)
    (hname : snapNamed (sanitizeName a.name) = true) :
    eval zfsAct {} (localSnapshot c a).run s =
      (.ok ⟨SnapshotID.toString ⟨c.localNode, e.dataset, sanitizeName a.name⟩, v.volsize, s.clock,
        true⟩, Store.snapped s e.dataset (sanitizeName a.name) v) := by
  have hsize : serve (Store.snapped s e.dataset (sanitizeName a.name) v) (.getVolsize e.dataset) =
      (.ok v.volsize, Store.snapped s e.dataset (sanitizeName a.name) v) := by
    simp [serve, zvol?_snapped, hv]
  have hcreated : serve (Store.snapped s e.dataset (sanitizeName a.name) v)
      (.getCreation e.dataset (sanitizeName a.name)) =
      (.ok s.clock, Store.snapped s e.dataset (sanitizeName a.name) v) := by
    simp [serve, zvol?_snapped, hv, lookup_snapped]
  unfold localSnapshot
  dsimp only
  rw [hid, decided_ok_bind, Zfs.snapshot, eval_served (serve_snapshot_new hv hnew hname),
    getVolsize, eval_served hsize, getCreation, eval_served hcreated]
  rfl

theorem eval_localSnapshot_refused (hid : parseExternalID a.sourceVolumeID = .ok e)
    {err : ExecError} (h : serve s (.snapshot e.dataset (sanitizeName a.name)) = (.error err, s)) :
    ∃ x, eval zfsAct {} (localSnapshot c a).run s = (.error x, s) := by
  unfold localSnapshot
  dsimp only
  rw [hid, decided_ok_bind, Zfs.snapshot, eval_refused h]
  exact ⟨_, rfl⟩

end

/-! ### The first call -/

section

variable {c : Controller} {req : CreateSnapshotRequest} {e : ExternalID} {w w1 : Cluster}
  {tr : List ClusterEv} {r : Except Error Snapshot}

def takes (req : CreateSnapshotRequest) (e : ExternalID) : Call :=
  .zfs e.node (.snapshot e.dataset (sanitizeName req.name))

theorem calls_createSnapshot (hid : parseExternalID req.sourceVolumeID = .ok e) :
    (createSnapshot c req).run.Calls fun call => call.reads ∨ call = takes req e := by
  unfold createSnapshot
  rw [hid, decided_ok_bind]
  refine calls_run_bind (calls_runOn (K := fun cmd => cmd.reads = true ∨
    cmd = .snapshot e.dataset (sanitizeName req.name)) ?_ (.inl trivial) (.inl trivial)
    (.inl trivial) fun c => ?_) fun _ => trivial
  · rintro cmd (h | rfl)
    · exact .inl h
    · exact .inr rfl
  · unfold localSnapshot
    dsimp only
    rw [hid, decided_ok_bind]
    exact calls_run_bind (calls_onError (calls_command _ (.inr rfl))) fun _ =>
      calls_run_bind (calls_onError (calls_command _ (.inl rfl))) fun _ =>
      calls_run_bind (calls_onError (calls_command _ (.inl rfl))) fun _ => trivial

theorem clusterAct_takes_fault {ch : Fault} (h : ch.fail ≠ none) :
    (clusterAct w (takes req e) ch).2 = w := by
  obtain ⟨err, herr⟩ := Option.ne_none_iff_exists'.1 h
  unfold clusterAct takes zfsAct
  rw [herr]
  exact (share_zfs e.node).put_get w

/-- The cluster once the snapshot was asked for. -/
def asked (req : CreateSnapshotRequest) (e : ExternalID) (w : Cluster) : Cluster :=
  w.put e.node (serve (w.zfs e.node) (.snapshot e.dataset (sanitizeName req.name))).2

theorem clusterAct_takes {ch : Fault} (h : ch.fail = none) :
    (clusterAct w (takes req e) ch).2 = asked req e w := by
  obtain rfl : ch = {} := congrArg Fault.mk h
  rfl

theorem zfs_asked : (asked req e w).zfs e.node =
    (serve (w.zfs e.node) (.snapshot e.dataset (sanitizeName req.name))).2 :=
  (share_zfs e.node).get_put _ _

/-- Once the snapshot was asked for, no call of the operation changes the cluster. -/
theorem clusterAct_asked {call : Call} (hcall : call.reads ∨ call = takes req e) (ch : Fault) :
    (clusterAct (asked req e w) call ch).2 = asked req e w := by
  rcases hcall with hread | rfl
  · exact clusterAct_reads hread
  · cases hch : ch.fail with
    | some err => exact clusterAct_takes_fault (by simp [hch])
    | none =>
      have hsame : (serve ((asked req e w).zfs e.node)
          (.snapshot e.dataset (sanitizeName req.name))).2 = (asked req e w).zfs e.node := by
        rw [zfs_asked, serve_snapshot_again]
      rw [clusterAct_takes hch]
      change (asked req e w).put e.node _ = _
      rw [hsame]
      exact (share_zfs e.node).put_get _

theorem unchanged_of_not_took (hid : parseExternalID req.sourceVolumeID = .ok e)
    (h : Runs clusterAct (createSnapshot c req).run w tr r w1)
    (hnot : ∀ ev ∈ tr, ev.call = takes req e → ev.choice.fail ≠ none) : w1 = w := by
  have hcalls := h.calls (calls_createSnapshot hid)
  refine (Runs.chain (T := fun w w' => w' = w) (fun _ => rfl) (fun _ _ _ h h' => h'.trans h) h
    fun ev hev => ?_).1
  rcases hcalls ev hev with hread | htake
  · exact clusterAct_reads hread
  · have hfail := hnot ev hev htake
    rw [htake]
    exact clusterAct_takes_fault hfail

theorem asked_of_took (hid : parseExternalID req.sourceVolumeID = .ok e)
    (h : Runs clusterAct (createSnapshot c req).run w tr r w1)
    {ev : ClusterEv} (hev : ev ∈ tr) (htake : ev.call = takes req e)
    (hfail : ev.choice.fail = none) : w1 = asked req e w := by
  have hcalls := h.calls (calls_createSnapshot hid)
  have hstates := (h.invariant (I := fun w' => w' = w ∨ w' = asked req e w)
    (fun w' call ch hcall hw' => ?_) (calls_createSnapshot hid) (.inl rfl)).1 ev hev
  · have hafter : (clusterAct ev.pre ev.call ev.choice).2 = asked req e w := by
      rw [htake]
      rcases hstates with hpre | hpre
      · rw [hpre, clusterAct_takes hfail]
      · rw [hpre, clusterAct_asked (.inr rfl)]
    have hchain := Runs.chain (T := fun w2 w3 => w2 = asked req e w → w3 = asked req e w)
      (fun _ h => h) (fun _ _ _ h h' hw => h' (h hw)) h fun ev' hev' hpre => by
        rw [hpre]
        exact clusterAct_asked (hcalls ev' hev') _
    exact (hchain.2.1 ev hev).2 hafter
  · rcases hw' with rfl | rfl
    · rcases hcall with hread | rfl
      · exact .inl (clusterAct_reads hread)
      · cases hch : ch.fail with
        | none => exact .inr (clusterAct_takes hch)
        | some err => exact .inl (clusterAct_takes_fault (by simp [hch]))
    · exact .inr (clusterAct_asked hcall ch)

/-! ### The second call -/

/-- The cluster when the clock of `node` has come to `t`. -/
def Cluster.clockAt (w : Cluster) (node : String) (t : Int) : Cluster :=
  w.put node { w.zfs node with clock := t }

/-- A call without a fault from `w` succeeds and describes the snapshot that is then there. -/
def Described (c : Controller) (req : CreateSnapshotRequest) (e : ExternalID) (w : Cluster) :
    Prop :=
  ∃ sn w', (w'.zfs e.node).snaps.lookup (e.dataset, sanitizeName req.name) = some sn ∧
    eval clusterAct {} (createSnapshot c req).run w =
      (.ok ⟨SnapshotID.toString ⟨e.node, e.dataset, sanitizeName req.name⟩, req.sourceVolumeID,
        sn.volsize, creationTime sn.creation, true⟩, w')

theorem described_of_new (hid : parseExternalID req.sourceVolumeID = .ok e)
    (hnode : e.node = c.localNode ∨ e.node ∈ w.roster) {v : Zvol}
    (hv : (w.zfs e.node).zvol? e.dataset = some v)
    (hnew : (w.zfs e.node).snaps.lookup (e.dataset, sanitizeName req.name) = none)
    (hname : snapNamed (sanitizeName req.name) = true) : Described c req e w := by
  have hlocal := eval_localSnapshot (c := { c with localNode := e.node })
    (a := ⟨req.sourceVolumeID, req.name⟩) hid hv hnew hname
  have hrun := eval_runOn (x := fun c => localSnapshot c ⟨req.sourceVolumeID, req.name⟩) hnode hlocal
  refine ⟨⟨v.volsize, v.volblocksize, (w.zfs e.node).clock, v.data⟩,
    w.put e.node (Store.snapped (w.zfs e.node) e.dataset (sanitizeName req.name) v), ?_, ?_⟩
  · have hput : (w.put e.node (Store.snapped (w.zfs e.node) e.dataset (sanitizeName req.name)
        v)).zfs e.node = Store.snapped (w.zfs e.node) e.dataset (sanitizeName req.name) v :=
      (share_zfs e.node).get_put _ _
    rw [hput]
    exact lookup_snapped _ _ _ _
  · unfold createSnapshot
    rw [hid, decided_ok_bind, eval_run_bind, hrun]
    rfl

theorem not_described_of_refused (hid : parseExternalID req.sourceVolumeID = .ok e)
    (hnode : e.node = c.localNode ∨ e.node ∈ w.roster)
    (h : ∃ err, serve (w.zfs e.node) (.snapshot e.dataset (sanitizeName req.name)) =
      (.error err, w.zfs e.node)) : ¬ Described c req e w := by
  obtain ⟨err, h⟩ := h
  obtain ⟨x, hlocal⟩ := eval_localSnapshot_refused (c := { c with localNode := e.node })
    (a := ⟨req.sourceVolumeID, req.name⟩) hid h
  obtain ⟨x', hrun⟩ := eval_runOn_error
    (x := fun c => localSnapshot c ⟨req.sourceVolumeID, req.name⟩) hnode hlocal
  rintro ⟨sn, w', -, heval⟩
  unfold createSnapshot at heval
  rw [hid, decided_ok_bind, eval_run_bind, hrun] at heval
  cases heval

/-- A second call succeeds and describes the snapshot exactly if the name is not empty and the
first one did not come to take it. -/
theorem createSnapshot_retry_iff (hid : parseExternalID req.sourceVolumeID = .ok e)
    (hnode : e.node = c.localNode ∨ e.node ∈ w.roster)
    (hsource : ((w.zfs e.node).zvol? e.dataset).isSome = true)
    (hnew : (w.zfs e.node).snaps.lookup (e.dataset, sanitizeName req.name) = none)
    (h1 : Runs clusterAct (createSnapshot c req).run w tr r w1) (later : Int) :
    Described c req e (w1.clockAt e.node later) ↔
      sanitizeName req.name ≠ "" ∧ ∀ ev ∈ tr, ev.call = takes req e → ev.choice.fail ≠ none := by
  obtain ⟨v, hv⟩ := Option.isSome_iff_exists.1 hsource
  have hclock : (w1.clockAt e.node later).zfs e.node = { w1.zfs e.node with clock := later } :=
    (share_zfs e.node).get_put _ _
  by_cases hnot : ∀ ev ∈ tr, ev.call = takes req e → ev.choice.fail ≠ none
  · obtain rfl := unchanged_of_not_took hid h1 hnot
    by_cases hname : snapNamed (sanitizeName req.name) = true
    · refine iff_of_true (described_of_new (v := v) hid hnode ?_ ?_ hname)
        ⟨(snapNamed_sanitizeName _).1 hname, hnot⟩
      · rw [hclock]
        exact hv
      · rw [hclock]
        exact hnew
    · refine iff_of_false (not_described_of_refused hid hnode ?_)
        fun h => hname ((snapNamed_sanitizeName _).2 h.1)
      rw [hclock]
      exact ⟨_, serve_snapshot_unnamed hv hnew (by simpa using hname)⟩
  · push Not at hnot
    obtain ⟨ev, hev, htake, hfail⟩ := hnot
    refine iff_of_false ?_ fun h => h.2 ev hev htake hfail
    obtain rfl := asked_of_took hid h1 hev htake hfail
    rw [zfs_asked] at hclock
    by_cases hname : snapNamed (sanitizeName req.name) = true
    · rw [serve_snapshot_new hv hnew hname] at hclock
      refine not_described_of_refused hid hnode ?_
      rw [hclock]
      exact ⟨_, serve_snapshot_there (v := v) hv (lookup_snapped _ _ _ _)⟩
    · rw [serve_snapshot_unnamed hv hnew (by simpa using hname)] at hclock
      refine not_described_of_refused hid hnode ?_
      rw [hclock]
      exact ⟨_, serve_snapshot_unnamed hv hnew (by simpa using hname)⟩

end

def tankSnapshotRequest : CreateSnapshotRequest := ⟨"local/v1/a/tank/csi/src", "s1"⟩

def tankSources : Cluster := ⟨["a", "b"], fun _ => tankSource⟩

/-- The snapshot command itself failed: the retry makes the snapshot. -/
theorem createSnapshot_retried : ∃ tr r w1,
    Runs clusterAct (createSnapshot (tankController "b") tankSnapshotRequest).run tankSources tr r
      w1 ∧ Described (tankController "b") tankSnapshotRequest ⟨"a", "tank/csi/src"⟩
        (w1.clockAt "a" 7) := by
  obtain ⟨tr, r, w1, hrun, hfail⟩ := runs_of_exec clusterAct
    (createSnapshot (tankController "b") tankSnapshotRequest).run tankSources [{}, {}, ioError, {}]
    (fun x => ∀ ev ∈ x.1, ev.call = takes tankSnapshotRequest ⟨"a", "tank/csi/src"⟩ →
      ev.choice.fail ≠ none) (by decide)
  exact ⟨tr, r, w1, hrun, (createSnapshot_retry_iff (e := ⟨"a", "tank/csi/src"⟩) (by decide)
    (.inr (by decide)) (by decide) (by decide) hrun 7).2 ⟨by decide, hfail⟩⟩

/-- Reading the creation time failed after the snapshot was taken: the retry is refused. -/
theorem createSnapshot_not_retried : ¬ ∀ (c : Controller) (req : CreateSnapshotRequest)
    (e : ExternalID) (w w1 : Cluster) (tr : List ClusterEv)
    (r : Except Error Snapshot), parseExternalID req.sourceVolumeID = .ok e →
      (e.node = c.localNode ∨ e.node ∈ w.roster) →
      ((w.zfs e.node).zvol? e.dataset).isSome = true →
      (w.zfs e.node).snaps.lookup (e.dataset, sanitizeName req.name) = none →
      sanitizeName req.name ≠ "" →
      Runs clusterAct (createSnapshot c req).run w tr r w1 →
      (tr.filter fun ev => ev.choice.fail.isSome).length ≤ 1 →
      Described c req e w1 := by
  intro h
  obtain ⟨tr, r, w1, hrun, hone, hbad⟩ := runs_of_exec clusterAct
    (createSnapshot (tankController "a") tankSnapshotRequest).run tankSources [{}, {}, ioError]
    (fun x => (x.1.filter fun ev => ev.choice.fail.isSome).length ≤ 1 ∧
      (eval clusterAct {} (createSnapshot (tankController "a") tankSnapshotRequest).run
        x.2.2).1.isOk = false) (by decide)
  obtain ⟨sn, w', -, heval⟩ := h _ _ ⟨"a", "tank/csi/src"⟩ _ _ _ _ (by decide) (.inl rfl) (by decide)
    (by decide) (by decide) hrun hone
  rw [heval] at hbad
  cases hbad

end NomadCsi.Local
