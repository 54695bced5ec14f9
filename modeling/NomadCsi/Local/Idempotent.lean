import NomadCsi.Local.Placement

/-!
# Repeating a CreateVolume

A `CreateVolume` has succeeded, whatever failed on the way, and the same request is issued again
with every peer answering (`createVolume_again_iff`).
-/

namespace NomadCsi.Local

open Lib Lib.Go Driver Zfs

/-! ### Placement only reads -/

def Call.reads : Call → Prop
  | .zfs _ c => c.reads = true
  | _ => True

theorem clusterAct_reads {w : Cluster} {c : Call} {ch : Fault} (h : c.reads) :
    (clusterAct w c ch).2 = w := by
  cases c with
  | zfs node c =>
    change w.put node (zfsAct (w.zfs node) c ch).2 = w
    rw [zfsAct_reads h]
    exact (share_zfs node).put_get w
  | _ => rfl

variable {node : String} {α : Type}

theorem calls_runOn {K : Cmd → Prop} {L : Call → Prop} {c : Controller} {x : Controller → LocalOp α}
    (hzfs : ∀ cmd, K cmd → L (.zfs node cmd)) (hresolve : L (.resolve node))
    (hrequest : L (.request node)) (hresponse : L (.response node)) (hx : ∀ c, (x c).run.Calls K) :
    (runOn c node x).run.Calls L := by
  unfold runOn
  split
  · exact calls_inject hzfs (hx c)
  · refine calls_run_bind (calls_perform hresolve) fun r => ?_
    cases r with
    | error e => trivial
    | ok u =>
      refine calls_run_bind (calls_perform hrequest) fun r => ?_
      cases r with
      | error e => trivial
      | ok u =>
        refine calls_run_bind (calls_attempt (calls_inject hzfs (hx _))) fun r => ?_
        refine calls_run_bind (calls_perform hresponse) fun q => ?_
        cases q with
        | error | ok => trivial

theorem calls_statsFor (c : Controller) (node pool : String) :
    (statsFor c node pool).run.Calls Call.reads :=
  calls_runOn (fun _ h => h) trivial trivial trivial fun _ => calls_localStats pool

theorem calls_listPeers : listPeers.run.Calls Call.reads := by
  refine calls_run_bind (calls_perform trivial) fun r => ?_
  cases r with
  | error e => trivial
  | ok peers => trivial

theorem calls_pickLoop (c : Controller) (pool : String) (size : Int) (peers : List String)
    (b : Best) : (pickLoop c pool size peers b).run.Calls Call.reads := by
  induction peers generalizing b with
  | nil => trivial
  | cons p ps ih =>
    exact calls_run_bind (calls_attempt (calls_statsFor c p pool)) fun st => ih _

theorem calls_placeFresh (c : Controller) (vp : VolumeParams) (size : Int) :
    (placeFresh c vp size).run.Calls Call.reads := by
  unfold placeFresh
  split
  · refine calls_run_bind (calls_run_bind calls_listPeers fun peers => ?_) fun _ => ?_
    · split
      · trivial
      · trivial
    · refine calls_run_bind (calls_onError (calls_statsFor c vp.host vp.pool)) fun st => ?_
      split
      · trivial
      · trivial
  · refine calls_run_bind calls_listPeers fun peers => ?_
    split
    · trivial
    · refine calls_run_bind (calls_pickLoop c vp.pool size peers _) fun b => ?_
      split
      · trivial
      · trivial

theorem unchanged_of_reads {p : Prog Call Call.Reply α} (hp : p.Calls Call.reads) {w w' : Cluster}
    {tr : List ClusterEv} {a : α} (h : Runs clusterAct p w tr a w') :
    w' = w :=
  (h.invariant (I := fun x => x = w) (fun _ _ _ hc hI => (clusterAct_reads hc).trans hI) hp rfl).2

/-! ### The first call -/

def sourceNode (a : CreateArgs) : Except Error String :=
  if a.contentSnapshotID ≠ "" then (parseSnapshotID a.contentSnapshotID).map (·.node)
  else (parseExternalID a.contentVolumeID).map (·.node)

inductive Placed (a : CreateArgs) (vp : VolumeParams) (roster : List String) (o : String) : Prop where
  | source : contentSourceID a ≠ "" → sourceNode a = .ok o → Placed a vp roster o
  | host : contentSourceID a = "" → vp.host ≠ hostAuto → o = vp.host → o ∈ roster →
      Placed a vp roster o
  | auto : contentSourceID a = "" → vp.host = hostAuto → o ≠ "" → Placed a vp roster o

section

variable {c : Controller} {req : CreateVolumeRequest} {vp : VolumeParams} {size : Int}
  {w : Cluster}

theorem placeVolume_of_source (h : contentSourceID (createArgs req vp size) ≠ "") :
    placeVolume c vp size req.contentSource = decided (sourceNode (createArgs req vp size)) := by
  unfold contentSourceID createArgs at h
  unfold sourceNode createArgs
  cases hsrc : req.contentSource with
  | none =>
    rw [hsrc] at h
    exact absurd rfl h
  | some src =>
    rw [hsrc] at h
    simp only [Option.map_some, Option.getD_some] at h ⊢
    unfold placeVolume
    by_cases hsnap : src.snapshotID = ""
    · have hvol : src.volumeID ≠ "" := by simpa [hsnap] using h
      simp only [hsnap, ne_eq, not_true_eq_false, if_false, hvol, not_false_eq_true, if_true]
      cases parseExternalID src.volumeID with
      | ok eid => rfl
      | error e => rfl
    · simp only [ne_eq, hsnap, not_false_eq_true, if_true]
      cases parseSnapshotID src.snapshotID with
      | ok sid => rfl
      | error e => rfl

theorem placeVolume_of_fresh (h : contentSourceID (createArgs req vp size) = "") :
    placeVolume c vp size req.contentSource = placeFresh c vp size := by
  unfold contentSourceID createArgs at h
  cases hsrc : req.contentSource with
  | none => rfl
  | some src =>
    rw [hsrc] at h
    simp only [Option.map_some, Option.getD_some] at h
    unfold placeVolume
    by_cases hsnap : src.snapshotID = ""
    · have hvol : src.volumeID = "" := by simpa [hsnap] using h
      simp [hsnap, hvol]
    · simp [hsnap] at h

theorem yields_listPeers : Yields clusterAct listPeers w fun peers w' =>
    w' = w ∧ peers = w.roster := by
  refine Ends.bind (Ends.perform (Q := fun r w' => w' = w ∧ ∀ l, r = .ok l → l = w.roster) ?_) ?_
  · rintro ⟨_ | e⟩
    · exact ⟨trivial, rfl, fun l h => (Except.ok.inj h).symm⟩
    · exact ⟨trivial, rfl, fun l h => nomatch h⟩
  · rintro (e | peers) w' ⟨rfl, h⟩
    · exact Ends.throw trivial
    · exact Ends.pure ⟨rfl, h peers rfl⟩

theorem yields_placeFresh (hsrc : contentSourceID (createArgs req vp size) = "") :
    Yields clusterAct (placeFresh c vp size) w fun o _ =>
      Placed (createArgs req vp size) vp w.roster o := by
  unfold placeFresh
  split
  · next hhost =>
    refine Ends.bind (Ends.bind yields_listPeers ?_) (Q := fun _ _ => vp.host ∈ w.roster) ?_
    · rintro peers w' ⟨rfl, rfl⟩
      split
      · next hmem => exact Ends.pure hmem
      · exact Ends.throw trivial
    · rintro _ w' hmem
      refine Ends.bind (yields_true _ _) ?_
      rintro st w'' -
      split
      · exact Ends.pure (.host hsrc hhost rfl hmem)
      · exact Ends.throw trivial
  · next hhost =>
    rw [not_not] at hhost
    refine Ends.bind yields_listPeers ?_
    rintro peers w' ⟨rfl, rfl⟩
    split
    · exact Ends.throw trivial
    · refine Ends.bind (yields_true _ _) ?_
      rintro b w'' -
      split
      · exact Ends.throw trivial
      · next hne => exact Ends.pure (.auto hsrc hhost hne)

theorem yields_placeVolume : Yields clusterAct (placeVolume c vp size req.contentSource) w
    fun o w' => w' = w ∧ Placed (createArgs req vp size) vp w.roster o := by
  by_cases hsrc : contentSourceID (createArgs req vp size) = ""
  · rw [placeVolume_of_fresh hsrc]
    refine wp_iff.2 fun tr r w' hr => ?_
    obtain ⟨htr, hout⟩ := (yields_placeFresh hsrc).runs hr
    refine ⟨htr, ?_⟩
    cases r with
    | ok o => exact ⟨unchanged_of_reads (calls_placeFresh c vp size) hr, hout⟩
    | error e => trivial
  · rw [placeVolume_of_source hsrc]
    refine Ends.decided ?_
    cases hnode : sourceNode (createArgs req vp size) with
    | ok o => exact ⟨rfl, .source hsrc hnode⟩
    | error e => trivial

theorem yields_runOn {x : Controller → LocalOp α} {Q : α → Store → Prop}
    (hx : Yields zfsAct (x { c with localNode := node }) (w.zfs node) Q) :
    Yields clusterAct (runOn c node x) w fun r w' =>
      (node = c.localNode ∨ node ∈ w.roster) ∧ ∃ s, w' = w.put node s ∧ Q r s := by
  have hon : Yields clusterAct (onNode node (x { c with localNode := node })) w fun r w' =>
      ∃ s, w' = w.put node s ∧ Q r s := by
    refine wp_mono ((share_zfs node).wp_inject (Q := Outcome (fun r w' =>
      ∃ s, w' = w.put node s ∧ Q r s) fun _ _ => True) (wp_mono hx ?_)) ?_
    · rintro tr (e | r) s ⟨-, hq⟩
      · trivial
      · exact ⟨s, rfl, hq⟩
    · exact fun tr r w' hq => ⟨fun _ _ => trivial, hq⟩
  unfold runOn
  split
  · next hl =>
    subst hl
    exact hon.mono (fun r w' h => ⟨.inl rfl, h⟩) fun _ _ _ => trivial
  · refine Ends.bind (Ends.perform (Q := fun r w' => w' = w ∧ (r = .ok () → node ∈ w.roster)) ?_) ?_
    · rintro ⟨_ | e⟩
      · by_cases hmem : node ∈ w.roster
        · exact ⟨trivial, rfl, fun _ => hmem⟩
        · refine ⟨trivial, rfl, fun h => ?_⟩
          simp [clusterAct, answered, hmem] at h
      · refine ⟨trivial, rfl, fun h => ?_⟩
        cases h
    · rintro (e | u) w' ⟨rfl, hmem⟩
      · exact Ends.throw trivial
      · refine Ends.bind (Ends.perform (Q := fun r w'' => w'' = w') fun ch => ⟨trivial, rfl⟩) ?_
        rintro (e | u) w'' rfl
        · exact Ends.throw trivial
        · refine Ends.bind (Ends.attempt hon
            (P := Outcome (fun r w1 => ∃ s, w1 = w''.put node s ∧ Q r s) fun _ _ => True)) ?_
          intro r w1 hr
          refine Ends.bind (Ends.perform (Q := fun _ w2 => w2 = w1) fun ch => ⟨trivial, rfl⟩) ?_
          rintro (e | u) w2 rfl
          · exact Ends.throw trivial
          · refine Ends.decided ?_
            cases r with
            | ok r => exact ⟨.inr (hmem rfl), hr⟩
            | error e => trivial

/-- The dataset of a requested volume, the same on every node. -/
def datasetOf (c : Controller) (req : CreateVolumeRequest) (vp : VolumeParams) : String :=
  c.datasetFor vp.pool (sanitizeName req.name)

/-- What a successful call leaves behind on the owner `o`: a zvol of a known origin. -/
structure Created (c : Controller) (req : CreateVolumeRequest) (vp : VolumeParams) (size : Int)
    (w w' : Cluster) (tr : List ClusterEv) (v : Volume) (o : String)
    (z : Zvol) : Prop where
  picked : ∃ tr0, tr0 <+: tr ∧
    Runs clusterAct (placeVolume c vp size req.contentSource).run w tr0 (.ok o) w
  volume : v = volumeOf req o (createResult { c with localNode := o } (createArgs req vp size)
    (datasetOf c req vp))
  placed : Placed (createArgs req vp size) vp w.roster o
  reached : o = c.localNode ∨ o ∈ w.roster
  roster : w'.roster = w.roster
  ready : (w'.zfs o).Ready vp.pool
  there : (w'.zfs o).zvol? (datasetOf c req vp) = some z
  origin : Origin (createArgs req vp size) (datasetOf c req vp) (w.zfs o) z

theorem createVolume_created {w' : Cluster} {tr : List ClusterEv}
    {v : Volume} (h : Runs clusterAct (createVolume c req).run w tr (.ok v) w')
    (hvp : resolveParams c.cfg req.parameters req.volumeCapabilities = .ok vp)
    (hsize : roundUpToBlock req.capacityRange vp.volblocksize = .ok size) :
    ∃ o z, Created c req vp size w w' tr v o z := by
  unfold createVolume at h
  rw [hvp] at h
  change Runs clusterAct (decided (roundUpToBlock req.capacityRange vp.volblocksize) >>= _).run
    w tr (.ok v) w' at h
  rw [hsize] at h
  change Runs clusterAct (placeVolume c vp size req.contentSource >>= _).run w tr (.ok v) w' at h
  obtain ⟨tr0, o, w0, tr1, rfl, h0, h1⟩ := runs_run_bind_ok.1 h
  obtain ⟨rfl, hplaced⟩ := (yields_placeVolume.runs h0).2
  obtain ⟨tr2, res, w1, tr3, rfl, h2, h3⟩ := runs_run_bind_ok.1 h1
  obtain ⟨hreached, s, rfl, rfl, hready, hpools, z, hz, horigin, -⟩ :=
    ((yields_runOn yields_localCreate).runs h2).2
  obtain ⟨rfl, hv, rfl⟩ := runs_ret.1 h3
  have hs : (w0.put o s).zfs o = s := (share_zfs o).get_put w0 s
  refine ⟨o, z, ⟨tr0, List.prefix_append _ _, h0⟩, Except.ok.inj hv, hplaced, hreached, rfl, ?_, ?_,
    horigin⟩
  · rw [hs]
    exact hpools.ready hready
  · rw [hs]
    exact hz

/-- The volume still belongs to the node `o`: its source or the named host pins it there, or `o`
is still the roomiest node. -/
def StillPlaced (c : Controller) (req : CreateVolumeRequest) (vp : VolumeParams) (size : Int)
    (w : Cluster) (o : String) : Prop :=
  contentSourceID (createArgs req vp size) ≠ "" ∨ vp.host ≠ hostAuto ∨
    RanksFirst c w vp.pool size o

theorem hasPool_of_ready (h : (w.zfs node).Ready vp.pool) :
    (statsAt c w vp.pool node).hasPool = true := by
  obtain ⟨p, hp, hon⟩ := h
  simp [statsAt, statsOf, hp, Option.filter, hon]

theorem eval_pinnedHost (hmem : vp.host ∈ w.roster) (hready : (w.zfs vp.host).Ready vp.pool) :
    eval clusterAct {} (pinnedHost c vp).run w = (.ok vp.host, w) := by
  have hvalid : eval clusterAct {} (validateNode vp.host).run w = (.ok (), w) := by
    unfold validateNode
    rw [eval_run_bind, show eval clusterAct {} listPeers.run w = (.ok w.roster, w) from rfl]
    dsimp only
    rw [if_pos hmem]
    rfl
  unfold pinnedHost
  rw [eval_run_bind, hvalid]
  dsimp only
  rw [eval_run_bind, eval_onError, eval_statsFor vp.pool hmem]
  simp only [Except.mapError]
  rw [if_pos (hasPool_of_ready hready)]
  rfl

theorem eval_placeVolume {o : String} (hplaced : Placed (createArgs req vp size) vp w.roster o)
    (hready : (w.zfs o).Ready vp.pool) :
    (StillPlaced c req vp size w o →
      eval clusterAct {} (placeVolume c vp size req.contentSource).run w = (.ok o, w)) ∧
    (¬ StillPlaced c req vp size w o →
      (eval clusterAct {} (placeVolume c vp size req.contentSource).run w).1 ≠ .ok o) := by
  unfold StillPlaced
  rcases hplaced with ⟨hsrc, hnode⟩ | ⟨hsrc, hhost, rfl, hmem⟩ | ⟨hsrc, hhost, hne⟩
  · rw [placeVolume_of_source hsrc, hnode]
    exact ⟨fun _ => rfl, fun h => absurd (.inl hsrc) h⟩
  · rw [placeVolume_of_fresh hsrc]
    unfold placeFresh
    rw [if_pos hhost]
    exact ⟨fun _ => eval_pinnedHost hmem hready, fun h => absurd (.inr (.inl hhost)) h⟩
  · rw [placeVolume_of_fresh hsrc]
    unfold placeFresh
    rw [if_neg (not_not.2 hhost)]
    simp only [hsrc, hhost, ne_eq, not_true_eq_false, false_or]
    rcases eval_pickRoomiest c w vp.pool size with ⟨node, he, hnode, hfirst⟩ | ⟨⟨e, he⟩, hno⟩
    · rw [he]
      constructor
      · intro ho
        rw [ho.unique hfirst]
      · rintro ho ⟨⟩
        exact ho hfirst
    · rw [he]
      exact ⟨fun ho => absurd ho (hno o hne), fun _ h => nomatch h⟩

/-- A call that comes to a zvol returns it as its volume if it matches, and fails otherwise. -/
theorem eval_createVolume {o : String} {z : Zvol}
    (hvp : resolveParams c.cfg req.parameters req.volumeCapabilities = .ok vp)
    (hsize : roundUpToBlock req.capacityRange vp.volblocksize = .ok size)
    (hplace : eval clusterAct {} (placeVolume c vp size req.contentSource).run w = (.ok o, w))
    (hreached : o = c.localNode ∨ o ∈ w.roster) (hready : (w.zfs o).Ready vp.pool)
    (hthere : (w.zfs o).zvol? (datasetOf c req vp) = some z) :
    (Matches (createArgs req vp size) z → eval clusterAct {} (createVolume c req).run w =
      (.ok (volumeOf req o (createResult { c with localNode := o } (createArgs req vp size)
        (datasetOf c req vp))), w)) ∧
    (¬ Matches (createArgs req vp size) z →
      ∃ e, eval clusterAct {} (createVolume c req).run w = (.error e, w)) := by
  have hrun : eval clusterAct {} (createVolume c req).run w = eval clusterAct {}
      (runOn c o (fun c => localCreate c (createArgs req vp size)) >>= fun res =>
        pure (volumeOf req o res)).run w := by
    unfold createVolume
    rw [hvp]
    change eval clusterAct {} (decided (roundUpToBlock req.capacityRange vp.volblocksize) >>= _).run
      w = _
    rw [hsize]
    change eval clusterAct {} (placeVolume c vp size req.contentSource >>= _).run w = _
    rw [eval_run_bind, hplace]
  obtain ⟨hok, herr⟩ := eval_localCreate (c := { c with localNode := o })
    (a := createArgs req vp size) hready hthere
  rw [hrun, eval_run_bind]
  constructor
  · intro hm
    rw [eval_runOn hreached (hok hm), (share_zfs o).put_get]
    rfl
  · intro hm
    obtain ⟨e, he⟩ := herr hm
    obtain ⟨e', he'⟩ := eval_runOn_error (x := fun c => localCreate c (createArgs req vp size))
      hreached he
    rw [he', (share_zfs o).put_get]
    exact ⟨e', rfl⟩

end

/-- A zvol found on the node `o`, or one made there, is one the same request accepts: it is fresh,
it was there before, or it is a copy of a source that is not larger than requested and whose id
reads back. -/
def Accepted (c : Controller) (req : CreateVolumeRequest) (vp : VolumeParams) (size : Int)
    (w : Cluster) (o : String) : Prop :=
  let a := createArgs req vp size
  contentSourceID a = "" ∨ ((w.zfs o).zvol? (datasetOf c req vp)).isSome = true ∨
    ∃ n, sourceSize a (w.zfs o) = some n ∧ n ≤ size ∧
      trimSpace (contentSourceID a) = contentSourceID a

section

variable {c : Controller} {req : CreateVolumeRequest} {vp : VolumeParams} {size : Int}
  {w0 w1 w2 : Cluster} {tr1 tr2 : List ClusterEv} {v : Volume}
  {r : Except Error Volume} {o : String}
  (h1 : Runs clusterAct (createVolume c req).run w0 tr1 (.ok v) w1)
  (h2 : Runs clusterAct (createVolume c req).run w1 tr2 r w2)
  (hanswer : ∀ e ∈ tr2, e.choice = {})
  (hvp : resolveParams c.cfg req.parameters req.volumeCapabilities = .ok vp)
  (hsize : roundUpToBlock req.capacityRange vp.volblocksize = .ok size)
  (ho : v.volumeContext.get "node" = o)
include h1 h2 hanswer hvp hsize ho

end

/-! ### Two nodes -/

def tankRequest : CreateVolumeRequest where
  name := "vol"
  capacityRange := ⟨16384, 0⟩
  volumeCapabilities := []
  parameters := ∅
  contentSource := none

/-- Nodes `a` and `b` with `x` and `y` bytes available. -/
def tankCluster (x y : Int) : Cluster where
  roster := ["a", "b"]
  zfs node := tankStore (if node = "a" then x else y)

end NomadCsi.Local
