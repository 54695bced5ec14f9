import NomadCsi.Local.Provenance
import NomadCsi.Local.Reserve
import NomadCsi.Local.Snapshot
import NomadCsi.Zfs.Names

/-!
# What the operations do to the names

Without faults an operation of a node either does what it is for to the names in the store,
or fails and leaves them: a create adds its dataset, a delete drops it, and the snapshots
through which a copy goes are gone again when it ends. On the way of a copy nothing can be
refused once it has arrived: the guard has left room for growing it (`cleanly_finish`).
-/

namespace NomadCsi.Local

open Lib Lib.Go Driver Zfs

section

variable {c : Controller} {a : CreateArgs} {ds : String} {s t : Store} {ε α : Type}

/-! ### In general -/

theorem cleanly_sound (hs : s.Sound) (x : Script ε α) :
    Cleanly x s (fun _ s' => s'.Sound) fun _ s' => s'.Sound :=
  Evals.invariant (K := fun _ => True) (Prog.calls_true _) (fun _ _ ch _ h => h.act ch) hs

theorem cleanly_pools (s : Store) (x : Script ε α) :
    Cleanly x s (fun _ s' => SamePools s s') fun _ s' => SamePools s s' :=
  Evals.invariant (K := fun _ => True) (Prog.calls_true _)
    (fun _ _ ch _ h => h.trans (samePools_act ch)) (.refl s)

theorem cleanly_names {x : Script ε α}
    (hx : x.run.Calls fun cmd => ∀ n : Names, n.after cmd = n) :
    Cleanly x s (fun _ s' => s'.names = s.names) fun _ s' => s'.names = s.names :=
  Evals.invariant hx (fun _ _ ch hc h => (names_act hc ch).trans h) rfl

/-! ### Creating -/

theorem reserveBytes_range (pct : Int) {total : Int} (h : 0 ≤ total ∧ total < 2 ^ 63) :
    0 ≤ reserveBytes total pct ∧ reserveBytes total pct < 2 ^ 63 := by
  unfold reserveBytes
  split
  · exact ⟨le_rfl, by decide⟩
  · split
    · exact h
    · next hpos hpct =>
      have hpos' := Int.not_le.1 hpos
      have hlt : pct < 100 := Int.not_le.1 hpct
      have hdiv : 0 ≤ total.tdiv 100 := Int.tdiv_nonneg h.1 (by decide)
      have hle : total.tdiv 100 * 100 ≤ total := by
        rw [Int.tdiv_eq_ediv_of_nonneg h.1]
        exact Int.ediv_mul_le _ (by decide)
      have hmul : total.tdiv 100 * pct ≤ total.tdiv 100 * 100 :=
        Int.mul_le_mul_of_nonneg_left hlt.le hdiv
      have hnonneg : 0 ≤ total.tdiv 100 * pct := Int.mul_nonneg hdiv hpos'.le
      rw [wrap64_eq ⟨by omega, by omega⟩]
      exact ⟨hnonneg, by omega⟩

theorem overReserve_le {cfg : Config} {pool : String} {avail total : Int} (havail : 0 ≤ avail)
    (htotal : 0 ≤ total ∧ total < 2 ^ 63) : overReserve cfg pool avail total ≤ avail := by
  have hrange := reserveBytes_range (cfg.reserveFor pool) htotal
  unfold overReserve wrap64
  omega

theorem guard_le (hs : s.Sound) (h : Guarded c a s) :
    ∃ p, s.pool? a.pool = some p ∧ a.sizeBytes ≤ p.available := by
  obtain ⟨p, hp, hle⟩ := h
  obtain ⟨havail, htotal⟩ := hs.figures a.pool p (Option.filter_eq_some_iff.1 hp).1
  exact ⟨p, hp, hle.trans (overReserve_le havail htotal)⟩

theorem cleanly_guard : Cleanly (checkCapacity c a.pool a.sizeBytes) s
    (fun _ s' => s' = s ∧ Guarded c a s) fun _ s' => s' = s :=
  ((Evals.of_ends yields_guard).and (.of_ends (ends_checkCapacity _ _))).mono (fun _ _ h => h.1)
    fun _ _ h => h.2

theorem yields_receive (hs : s.Sound) (source snap : String) :
    Yields zfsAct (cloneIndependent source snap ds) s fun _ s' => s'.names = s.names.addVol ds := by
  unfold cloneIndependent
  rw [← bind_assoc]
  refine Ends.bind (ends_outcome (Q := fun _ s1 => serve s (.sendRecv source snap ds) =
    (.ok (), s1)) (fun _ => trivial) fun _ _ h => h) ?_
  intro _ s1 hrecv
  refine Ends.onError (ends_outcome (fun _ => trivial) fun _ s2 hdrop => ?_)
  obtain ⟨sn, -, htaken⟩ := taken_sendRecv hrecv
  have hfresh : (ds, snap) ∉ (s.names.addVol ds).snaps := by
    intro hmem
    obtain ⟨v, hv⟩ := Store.mem_names_vols.1 (hs.owned ds snap hmem)
    cases htaken.new.symm.trans hv
  rw [names_serve hdrop, names_serve hrecv]
  exact Names.dropSnap_addSnap hfresh

theorem cleanly_receive (hs : s.Sound) (source snap : String) :
    Cleanly (cloneIndependent source snap ds) s
      (fun _ s' => s'.names = s.names.addVol ds ∧ ∃ n, Taken s s' ds n) fun _ s' => s' = s := by
  refine (((Evals.of_ends (yields_receive hs source snap)).and (.of_ends
    (yields_cloneIndependent source snap))).and (cleanly_cloneIndependent source snap)).mono ?_
    fun _ _ h => h.2
  rintro _ s' ⟨⟨hnames, sn, -, htaken⟩, -⟩
  exact ⟨hnames, sn.volsize, htaken⟩

/-- With room for the requested size before the copy arrived, growing it is not refused. -/
theorem cleanly_grow (ht : t.Sound) {n want : Int} {p : Zfs.Pool} (htaken : Taken s t ds n)
    (hp : s.pool? (poolOf ds) = some p) (hroom : want ≤ p.available) :
    Cleanly (growIfNeeded ds want) t (fun _ _ => True) fun _ _ => False := by
  obtain ⟨v, hv, hn⟩ := htaken.size
  refine Evals.bind (Q := fun cur t1 => t1 = t ∧ cur = n) (Evals.onError (cleanly_outcome ?_ ?_)) ?_
  · intro e he
    unfold serve at he
    dsimp only at he
    rw [hv] at he
    cases he
  · intro cur t1 hget
    obtain ⟨rfl, v1, hv1, rfl⟩ := serve_found rfl hget
    obtain rfl : v = v1 := Option.some.inj (hv.symm.trans hv1)
    exact ⟨rfl, hn⟩
  rintro _ t1 ⟨rfl, rfl⟩
  split
  · trivial
  · next hsmall =>
    refine Evals.onError (cleanly_outcome ?_ fun _ _ _ => trivial)
    intro e he
    have hleft := htaken.left
    unfold available at hleft
    rw [hp] at hleft
    obtain ⟨p1, hp1, havail⟩ := Option.map_eq_some_iff.1 hleft
    have hsize := ht.sizes ds v (lookup_of_zvol? hv)
    dsimp only at havail
    obtain ⟨s', hok⟩ := serve_setVolsize_ok want hv hp1 (by omega) (by omega)
    rw [hok] at he
    cases he

theorem cleanly_finish (ht : t.Sound) {n want : Int} {src : String} {p : Zfs.Pool}
    (htaken : Taken s t ds n) (hp : s.pool? (poolOf ds) = some p) (hroom : want ≤ p.available) :
    Cleanly (finishCopy ds src want) t
      (fun _ s' => s'.names = t.names) fun _ _ => False := by
  have hnames : Cleanly (finishCopy ds src want) t
      (fun _ s' => s'.names = t.names) fun _ s' => s'.names = t.names :=
    cleanly_names (calls_finishCopy (fun _ => rfl) (fun _ => rfl) fun _ => rfl)
  have hdone : Cleanly (finishCopy ds src want) t
      (fun _ _ => True) fun _ _ => False := by
    refine Evals.bind (Q := fun _ t1 => Taken s t1 ds n ∧ t1.Sound)
      (Evals.onError (cleanly_outcome ?_ ?_)) ?_
    · intro e he
      obtain ⟨v, hv, -⟩ := htaken.size
      obtain ⟨s', hok⟩ := serve_setProp_ok hv sourceProp src
      rw [hok] at he
      cases he
    · exact fun _ t1 hset => ⟨htaken.setProp hset, ht.serve hset⟩
    · exact fun _ t1 h => cleanly_grow h.2 h.1 hp hroom
  exact (hnames.and hdone).mono (fun _ _ h => h.1) fun _ _ h => h.2

/-- A copy after the guard, from a step that gets it here or fails without a trace. -/
theorem cleanly_copied {x : LocalOp Unit} {src : String} (hs : s.Sound) (hguard : Guarded c a s)
    (hpool : poolOf ds = a.pool) (hx : Cleanly x t (fun _ s' => s'.Sound ∧
      s'.names = s.names.addVol ds ∧ ∃ n, Taken s s' ds n) fun _ s' => s'.names = s.names) :
    Cleanly (x >>= fun _ => finishCopy ds src a.sizeBytes) t
      (fun _ s' => s'.names = s.names.addVol ds) fun _ s' => s'.names = s.names := by
  refine Evals.bind hx ?_
  rintro _ s1 ⟨hs1, hnames, n, htaken⟩
  obtain ⟨p, hp, hroom⟩ := guard_le hs hguard
  rw [← hpool] at hp
  exact (cleanly_finish hs1 htaken hp hroom).mono (fun _ _ h => h.trans hnames)
    fun _ _ h => h.elim

theorem cleanly_restore (hs : s.Sound) (hpool : poolOf ds = a.pool) :
    Cleanly (restoreFromSnapshot c a ds) s (fun _ s' => s'.names = s.names.addVol ds)
      fun _ s' => s'.names = s.names := by
  unfold restoreFromSnapshot
  cases parseSnapshotID a.contentSnapshotID with
  | error e => exact rfl
  | ok sid =>
    rw [decided_ok_bind]
    split
    · exact rfl
    · refine Evals.bind (cleanly_guard.weaken fun _ _ h => congrArg _ h) ?_
      rintro _ _ ⟨rfl, hguard⟩
      refine cleanly_copied hs hguard hpool (Evals.onError ?_)
      exact ((cleanly_sound hs _).and (cleanly_receive hs _ _)).weaken
        fun _ _ h => congrArg _ h.2

theorem cleanly_transient (hs : s.Sound) {source snap : String} {u : Unit}
    (hsnap : serve s (.snapshot source snap) = (.ok u, t)) :
    Cleanly (copyVolume source snap ds) t (fun _ s' => s'.Sound ∧
      s'.names = s.names.addVol ds ∧ ∃ n, Taken s s' ds n) fun _ s' => s'.names = s.names := by
  have ht := hs.serve hsnap
  obtain ⟨v, hv, -⟩ := serve_snapshot hsnap
  have hsource : source ∈ t.names.vols := by
    rw [names_serve hsnap]
    exact Store.mem_names_vols.2 ⟨v, lookup_of_zvol? hv⟩
  have hthere : (source, snap) ∈ t.names.snaps := by
    rw [names_serve hsnap]
    exact Set.mem_insert _ _
  have hfresh : (source, snap) ∉ s.names.snaps := by
    intro hmem
    obtain ⟨sn, hsn⟩ := Store.mem_names_snaps.1 hmem
    cases (fresh_of_snapshot hsnap).symm.trans hsn
  have hpool : (t.pool? (poolOf source)).isSome = true :=
    ((samePools_serve hsnap).isSome _).trans (isSome_of_zvol? hv)
  refine Evals.bind (Evals.attempt (P := Outcome (fun _ s1 => s1.Sound ∧ SamePools t s1 ∧
    s1.names = t.names.addVol ds ∧ ∃ n, Taken t s1 ds n) fun _ s1 => s1 = t) ?_) ?_
  · exact ((cleanly_sound ht _).and ((cleanly_pools t _).and (cleanly_receive ht _ _))).mono
      (fun _ _ h => h) fun _ _ h => h.2.2
  rintro (e | u') s1 h1
  · obtain rfl : s1 = t := h1
    refine Evals.bind (Q := fun _ s2 => s2.names = s.names) (Evals.attempt (cleanly_outcome ?_ ?_)) ?_
    · intro e he
      obtain ⟨s', hok⟩ := serve_destroySnapshot_ok hpool hsource hthere
      rw [hok] at he
      cases he
    · intro _ s2 hdrop
      rw [names_serve hdrop, names_serve hsnap]
      exact Names.dropSnap_addSnap hfresh
    · exact fun _ _ h => h
  · obtain ⟨hs1, hpools, hnames, n, htaken⟩ := h1
    refine Evals.bind (Q := fun _ s' => s'.Sound ∧ s'.names = s.names.addVol ds ∧
      ∃ n, Taken s s' ds n) (Evals.attempt (cleanly_outcome ?_ ?_)) ?_
    · intro e he
      have hsource1 : source ∈ s1.names.vols := by
        rw [hnames]
        exact Set.mem_insert_of_mem _ hsource
      have hthere1 : (source, snap) ∈ s1.names.snaps := by
        rw [hnames]
        exact hthere
      obtain ⟨s', hok⟩ :=
        serve_destroySnapshot_ok ((hpools.isSome _).trans hpool) hsource1 hthere1
      rw [hok] at he
      cases he
    · intro _ s2 hdrop
      obtain ⟨hpools', hvols'⟩ := same_of_snapshot hsnap
      refine ⟨hs1.serve hdrop, ?_, n, (htaken.destroySnapshot hdrop).of_same hpools' hvols'⟩
      rw [names_serve hdrop, hnames, names_serve hsnap]
      exact Names.dropSnap_addSnap (n := s.names.addVol ds) hfresh
    · exact fun _ _ h => h

theorem cleanly_clone (hs : s.Sound) (hpool : poolOf ds = a.pool) :
    Cleanly (cloneFromVolume c a ds) s (fun _ s' => s'.names = s.names.addVol ds)
      fun _ s' => s'.names = s.names := by
  unfold cloneFromVolume
  cases parseExternalID a.contentVolumeID with
  | error e => exact rfl
  | ok src =>
    rw [decided_ok_bind]
    split
    · exact rfl
    · refine Evals.bind (cleanly_guard.weaken fun _ _ h => congrArg _ h) ?_
      rintro _ _ ⟨rfl, hguard⟩
      refine Evals.bind (Q := fun _ s1 => serve _ (.snapshot src.dataset ("csiclone-" ++ a.name)) =
        (.ok (), s1)) (Evals.onError (cleanly_outcome (fun _ _ _ => rfl) fun _ _ h => h)) ?_
      intro _ s1 hsnap
      exact cleanly_copied hs hguard hpool (cleanly_transient hs hsnap)

theorem cleanly_fresh : Cleanly (createFresh c a ds) s (fun _ s' => s'.names = s.names.addVol ds)
    fun _ s' => s'.names = s.names := by
  refine Evals.bind (cleanly_guard.weaken fun _ _ h => congrArg _ h) ?_
  rintro _ _ ⟨rfl, -⟩
  exact Evals.onError (cleanly_outcome (fun _ _ _ => rfl) fun _ _ h => names_serve h)

theorem cleanly_datasetExists (g : String → Error) : Cleanly (onError g (datasetExists ds)) s
    (fun found s' => s' = s ∧ found = (s.zvol? ds).isSome) fun _ _ => False := by
  unfold Cleanly Evals
  rw [eval_onError, eval_datasetExists]
  exact ⟨rfl, rfl⟩

theorem cleanly_provision_names (hs : s.Sound) (hpool : poolOf ds = a.pool) :
    Cleanly (provision c a ds) s (fun _ s' => s'.names = s.names.addVol ds)
      fun _ s' => s'.names = s.names := by
  unfold provision
  split
  · exact cleanly_restore hs hpool
  · split
    · exact cleanly_clone hs hpool
    · exact cleanly_fresh

/-- A create adds its dataset, or fails and changes nothing that has a name. -/
theorem names_localCreate (hs : s.Sound) (hpool : '/' ∉ a.pool.toList) :
    Cleanly (localCreate c a) s (fun res s' => res = createResult c a (a.dataset c) ∧
        (s.pool? a.pool).isSome = true ∧ s'.names = s.names.addVol (a.dataset c))
      fun _ s' => s'.names = s.names := by
  refine Evals.bind (Q := fun ready s' => s' = s ∧ ready = s.online a.pool) ?_ ?_
  · unfold Evals
    rw [eval_poolReady]
    exact ⟨rfl, rfl⟩
  rintro ready s1 ⟨rfl, rfl⟩
  split
  · next honline =>
    have hready : (s1.pool? a.pool).isSome = true := by
      obtain ⟨p, hp, -⟩ := Store.ready_iff.2 honline
      rw [hp]
      rfl
    refine Evals.bind (Q := fun _ s' => s'.names = s1.names.addVol (a.dataset c))
      (Evals.bind ((cleanly_datasetExists _).weaken fun _ _ h => h.elim) ?_)
      fun _ _ h => ⟨rfl, hready, h⟩
    rintro found s2 ⟨rfl, hfound⟩
    split
    · next hthere =>
      refine (cleanly_names (calls_checkExisting (fun _ => rfl) fun _ => rfl)).mono ?_
        fun _ _ h => h
      intro _ s' h
      rw [hthere] at hfound
      rw [h]
      exact (Names.addVol_of_mem (zvol?_isSome_iff.1 hfound.symm).2).symm
    · exact cleanly_provision_names hs (poolOf_dataset hpool)
  · exact rfl

/-! ### The other operations -/

theorem names_localDelete {volID : String} : Cleanly (localDelete c volID) s
    (fun _ s' => ∃ e, parseExternalID volID = .ok e ∧ ((s.pool? (poolOf e.dataset)).isSome = true →
      s'.names = s.names.dropVol e.dataset))
    fun _ s' => s'.names = s.names := by
  unfold localDelete
  cases hp : parseExternalID volID with
  | error e => exact rfl
  | ok e =>
    rw [decided_ok_bind]
    split
    · exact rfl
    · refine Evals.bind ((cleanly_datasetExists _).weaken fun _ _ h => h.elim) ?_
      rintro found s1 ⟨rfl, hfound⟩
      split
      · refine Evals.bind (Q := fun _ s' => s'.names = s1.names)
          (cleanly_names (calls_onError (calls_listSnapshots fun _ => rfl))) ?_
        intro snaps s2 hs2
        split
        · exact hs2
        · refine Evals.onError (cleanly_outcome (fun _ _ _ => hs2) fun _ s3 hserve => ?_)
          refine ⟨e, rfl, fun _ => ?_⟩
          rw [names_serve hserve, hs2]
          rfl
      · next hnot =>
        refine ⟨e, rfl, fun hpool => (Names.dropVol_of_notMem fun hmem => hnot ?_).symm⟩
        rw [hfound]
        exact zvol?_isSome_iff.2 ⟨hpool, hmem⟩

theorem names_localSnapshot {a : SnapshotArgs} : Cleanly (localSnapshot c a) s
    (fun res s' => ∃ e, parseExternalID a.sourceVolumeID = .ok e ∧
      snapNamed (sanitizeName a.name) = true ∧
      res.snapshotID = SnapshotID.toString ⟨c.localNode, e.dataset, sanitizeName a.name⟩ ∧
      s'.names = s.names.addSnap e.dataset (sanitizeName a.name))
    fun _ s' => s'.names = s.names := by
  cases hp : parseExternalID a.sourceVolumeID with
  | error e =>
    unfold localSnapshot
    rw [hp]
    exact rfl
  | ok e =>
    unfold Cleanly Evals
    rcases hserve : serve s (.snapshot e.dataset (sanitizeName a.name)) with ⟨err | u, s1⟩
    · obtain rfl := serve_error hserve
      obtain ⟨x, hx⟩ := eval_localSnapshot_refused (c := c) hp hserve
      rw [hx]
      exact rfl
    · obtain ⟨v, hv, -, -, -, hname⟩ := serve_snapshot hserve
      have hnew := fresh_of_snapshot hserve
      rw [eval_localSnapshot hp hv hnew hname]
      exact ⟨e, rfl, hname, rfl, names_serve (serve_snapshot_new hv hnew hname)⟩

theorem names_localDeleteSnapshot (hs : s.Sound) {id : String} : Cleanly (localDeleteSnapshot id) s
    (fun _ s' => ∃ sid, parseSnapshotID id = .ok sid ∧
      ((s.pool? (poolOf sid.dataset)).isSome = true →
        s'.names = s.names.dropSnap sid.dataset sid.snapName))
    fun _ s' => s'.names = s.names := by
  unfold localDeleteSnapshot
  cases hp : parseSnapshotID id with
  | error e => exact rfl
  | ok sid =>
    rw [decided_ok_bind]
    refine Evals.bind (Q := fun found s' => s' = s ∧ (found = false →
      (s.pool? (poolOf sid.dataset)).isSome = true →
      (sid.dataset, sid.snapName) ∉ s.names.snaps)) ?_ ?_
    · unfold Evals
      rw [eval_onError, eval_snapshotExists]
      refine ⟨rfl, fun hnot hpool hmem => ?_⟩
      rw [zvol?_isSome_iff.2 ⟨hpool, hs.owned _ _ hmem⟩, Bool.true_and] at hnot
      obtain ⟨sn, hsn⟩ := Store.mem_names_snaps.1 hmem
      rw [hsn] at hnot
      cases hnot
    rintro found s1 ⟨rfl, hfound⟩
    split
    · refine Evals.onError (cleanly_outcome (fun _ _ _ => rfl) fun _ s2 hserve => ?_)
      exact ⟨sid, rfl, fun _ => names_serve hserve⟩
    · next hnot =>
      refine ⟨sid, rfl, fun hpool => (Names.dropSnap_of_notMem ?_).symm⟩
      exact hfound (Bool.eq_false_iff.2 hnot) hpool

end

theorem names_quiet {c : Controller} {r : Request} {s : Store}
    (hr : ∀ cmd, r.Changes c cmd → ∀ n : Names, n.after cmd = n) :
    Cleanly (r.run c) s (fun _ s' => s'.names = s.names) fun _ s' => s'.names = s.names := by
  refine cleanly_names (Prog.Calls.mono (fun cmd hcmd => ?_) (calls_run c r))
  rcases hcmd with hreads | hchange
  · exact after_of_reads hreads
  · exact hr cmd hchange

end NomadCsi.Local
