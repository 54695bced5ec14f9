import NomadCsi.Local.Ids
import NomadCsi.Qnap.Repeat

/-!
# Names and volumes

A backend identifies a volume by the sanitised image of its CSI name, and CreateVolume
returns whatever already has that image.
-/

namespace NomadCsi.Qnap

open Lib Lib.Go Driver

/-- What CreateVolume looks the name up in is true of the appliance. -/
def Trusted (w : World) (name : String) : Prop :=
  w.cache.isFresh w.now = false ∨ CacheTrue w.san w.cache (sanitizeLUNName name)

def Undeleted (w w' : World) : Prop := ∀ i ∈ w.san.luns, i ∈ w'.san.luns

/-- One name and then the other, with anything but deletions in between: if both calls succeed,
they return different ids. -/
def NeverShare (n n' : String) : Prop :=
  ∀ (c : Controller) (req req' : CreateVolumeRequest) (w w1 w1' w2 : World) (tr tr' : List Ev)
    (v v' : Volume), req.name = n → req'.name = n' → Trusted w n →
    Runs act (createVolume c req).run w tr (.ok v) w1 → Undeleted w1 w1' → Trusted w1' n' →
    Runs act (createVolume c req').run w1' tr' (.ok v') w2 → v.volumeID ≠ v'.volumeID

/-- An appliance with one volume, of the given LUN name. -/
def holding (lunName : String) : World := .of [(7, lunName)] [(3, lunName)] [(7, 3)]

theorem index_holding {lunName : String} {w : World} (hs : w.san = (holding lunName).san)
    (hk : w.cache = .empty) :
    w.index.lookupByName lunName = some ⟨7, lunName, giB⟩ ∧
      w.index.targetForLUN 7 = some ⟨3, lunName, lunName, [7]⟩ := by
  unfold World.index
  rw [hk, hs]
  exact ⟨AList.lookup_insert _, AList.lookup_insert _⟩

theorem createVolume_holding {n : String} {w : World}
    (hs : w.san = (holding (sanitizeLUNName n)).san) (hk : w.cache = .empty) :
    ∃ tr v w', Runs act (createVolume .plain (request n)).run w tr (.ok v) w' ∧ w'.san = w.san ∧
      v.volumeID = ExternalID.toString ⟨7, 3, true, sanitizeLUNName n⟩ := by
  obtain ⟨hl, ht⟩ := index_holding hs hk
  obtain ⟨tr, hdef, hrun⟩ := runs_eval act {} (createVolume .plain (request n)).run w
  obtain ⟨vp, hvp⟩ : ∃ vp, resolveParams Controller.plain.cfg (request n).parameters
      (request n).volumeCapabilities = .ok vp := ⟨_, rfl⟩
  have hsize : sizeGiBExact ⟨giB, 0⟩ = .ok 1 := by decide
  have hcap : absDiff giB (1 * giB) < giB := by decide
  obtain ⟨tr', -, hcalm⟩ := hrun.restrict fun e he => hdef e he ▸ calm_default
  have hends := ((calmly_createVolume hvp hsize hl).runs hcalm).2
  cases hr : (eval act {} (createVolume .plain (request n)).run w).1 with
  | error e =>
    rw [hr] at hends
    rcases hends hcap _ ht with h | h
    · rw [hs] at h
      cases h
    · rw [hs] at h
      cases h
  | ok v =>
    rw [hr] at hrun
    obtain ⟨vp', sizeGB, -, -, hfrom⟩ := yields_createVolume hrun
    rcases hfrom with ⟨⟨l, t, lun, tgt, ch, hl', -, ht', hlun, -, hv⟩, hs'⟩ | ⟨hnone, -⟩
    · obtain rfl := Option.some.inj (hl.symm.trans hl')
      obtain rfl := Option.some.inj (ht.symm.trans ht')
      rw [hs] at hlun
      obtain rfl := San.getLUN_eq (l := ⟨7, sanitizeLUNName n, giB⟩) rfl hlun
      refine ⟨tr, v, _, hrun, hs', ?_⟩
      rw [hv]
      change ExternalID.toString ⟨7, 3, decide (sanitizeLUNName n = sanitizeLUNName n), _⟩ = _
      rw [decide_eq_true rfl]
    · cases hl.symm.trans hnone

theorem neverShare_iff {n n' : String} :
    NeverShare n n' ↔ sanitizeLUNName n ≠ sanitizeLUNName n' := by
  constructor
  · intro h heq
    obtain ⟨tr, v, w1, hrun, hs, hid⟩ := createVolume_holding (n := n)
      (w := holding (sanitizeLUNName n)) rfl rfl
    -- a restarted controller has an empty cache
    obtain ⟨tr', v', w2, hrun', -, hid'⟩ := createVolume_holding (n := n')
      (w := { w1 with cache := .empty }) (heq ▸ hs) rfl
    refine h .plain (request n) (request n') _ _ { w1 with cache := .empty } _ _ _ _ _ rfl rfl
      (.inl rfl) hrun (fun i hi => hi) (.inl rfl) hrun' ?_
    rw [hid, hid', heq]
  · rintro hne c req req' w w1 w1' w2 tr tr' v v' rfl rfl htrust hrun - htrust' hrun' hid
    obtain ⟨e, he, hname, -⟩ := (createVolume_stale_iff hrun).2 htrust
    obtain ⟨e', he', hname', -⟩ := (createVolume_stale_iff hrun').2 htrust'
    obtain rfl := ExternalID.toString_inj (he.symm.trans (hid.trans he'))
    exact hne (hname.symm.trans hname')

end NomadCsi.Qnap

namespace NomadCsi.Local

open Lib Lib.Go Driver Zfs

def Undeleted (w w' : Cluster) : Prop :=
  ∀ node ds, ds ∈ (w.zfs node).vols → ds ∈ (w'.zfs node).vols

/-- One name and then the other, on any two nodes, with anything but deletions in between: if both
calls succeed, they return different ids. -/
def NeverShare (n n' : String) : Prop :=
  ∀ (c : Controller) (node : String) (req req' : CreateVolumeRequest) (w w1 w1' w2 : Cluster)
    (tr tr' : List ClusterEv) (v v' : Volume),
    req.name = n → req'.name = n' →
    Runs clusterAct (createVolume c req).run w tr (.ok v) w1 → Undeleted w1 w1' →
    Runs clusterAct (createVolume { c with localNode := node } req').run w1' tr' (.ok v') w2 →
    v.volumeID ≠ v'.volumeID

theorem volumeID_of_createVolume {c : Controller} {req : CreateVolumeRequest} {w w' : Cluster}
    {tr : List ClusterEv} {v : Volume}
    (hrun : Runs clusterAct (createVolume c req).run w tr (.ok v) w') :
    ∃ pre, v.volumeID = pre ++ "/" ++ sanitizeName req.name := by
  obtain ⟨vp, size, hvp, hsize⟩ := createVolume_params hrun
  obtain ⟨o, z, hc⟩ := createVolume_created hrun hvp hsize
  refine ⟨"local/v1" ++ "/" ++ o ++ "/" ++ c.parentDatasetFor vp.pool, ?_⟩
  rw [hc.volume]
  simp only [volumeOf, createResult, ExternalID.toString, datasetOf, Controller.datasetFor,
    String.append_assoc]

def pinnedRequest (name : String) : CreateVolumeRequest :=
  { tankRequest with name := name, parameters := AList.insert "host" "a" ∅ }

/-- Node `a` with one volume, of the given dataset name. -/
def holding (name : String) : Cluster where
  roster := ["a"]
  zfs _ := (tankStore 90000).putVol ("tank/csi" ++ "/" ++ name) ⟨16384, "16K", ∅, 0⟩

theorem createVolume_holding (n : String) : ∃ tr v,
    Runs clusterAct (createVolume (tankController "a") (pinnedRequest n)).run
      (holding (sanitizeName n)) tr (.ok v) (holding (sanitizeName n)) ∧
    v.volumeID = ExternalID.toString ⟨"a", "tank/csi" ++ "/" ++ sanitizeName n⟩ := by
  let w := holding (sanitizeName n)
  let vp : VolumeParams := ⟨"ext4", false, "16K", "a", "tank"⟩
  have hready : (w.zfs "a").Ready "tank" := ⟨⟨true, "ONLINE", 90000, 2 ^ 20, 90000⟩, rfl, by decide⟩
  have hpool : poolOf ("tank/csi" ++ "/" ++ sanitizeName n) = "tank" := by
    unfold poolOf
    rw [toList_slash]
    rfl
  have hthere : (w.zfs "a").zvol? (datasetOf (tankController "a") (pinnedRequest n) vp) =
      some ⟨16384, "16K", ∅, 0⟩ :=
    zvol?_putVol (.refl _) _ (by rw [hpool]; rfl)
  have hvp : resolveParams (tankController "a").cfg (AList.insert "host" "a" ∅) [] = .ok vp := by
    decide
  have hsize : roundUpToBlock ⟨16384, 0⟩ "16K" = .ok 16384 := by decide
  have hhost : vp.host ≠ hostAuto := by decide
  have hplaced : Placed (createArgs (pinnedRequest n) vp 16384) vp w.roster "a" :=
    .host rfl hhost rfl (.head _)
  have hplace : eval clusterAct {} (placeVolume (tankController "a") vp 16384
      (pinnedRequest n).contentSource).run w = (.ok "a", w) :=
    (eval_placeVolume hplaced hready).1 (.inr (.inl hhost))
  have heval := (eval_createVolume hvp hsize hplace (.inl rfl) hready hthere).1
    ⟨rfl, fun h => absurd rfl h⟩
  obtain ⟨tr, -, hrun⟩ := runs_eval clusterAct {}
    (createVolume (tankController "a") (pinnedRequest n)).run w
  rw [heval] at hrun
  exact ⟨tr, _, hrun, rfl⟩

theorem neverShare_iff {n n' : String} : NeverShare n n' ↔ sanitizeName n ≠ sanitizeName n' := by
  constructor
  · intro h heq
    obtain ⟨tr, v, hrun, hid⟩ := createVolume_holding n
    obtain ⟨tr', v', hrun', hid'⟩ := createVolume_holding n'
    rw [← heq] at hrun' hid'
    exact h (tankController "a") "a" _ _ _ _ _ _ _ _ _ _ rfl rfl hrun (fun _ _ h => h) hrun'
      (hid.trans hid'.symm)
  · rintro hne c node req req' w w1 w1' w2 tr tr' v v' rfl rfl hrun - hrun' hid
    obtain ⟨pre, hpre⟩ := volumeID_of_createVolume hrun
    obtain ⟨pre', hpre'⟩ := volumeID_of_createVolume hrun'
    exact hne (slash_inj_right (slash_notMem_sanitizeName _) (slash_notMem_sanitizeName _)
      (hpre.symm.trans (hid.trans hpre'))).2

end NomadCsi.Local

namespace NomadCsi

open Lib Lib.Go Driver

/-- Two names never come to one volume exactly if the backend's images of them differ. -/
theorem volumes_never_share_iff (n n' : String) :
    (Local.NeverShare n n' ↔ Local.sanitizeName n ≠ Local.sanitizeName n') ∧
      (Qnap.NeverShare n n' ↔ Qnap.sanitizeLUNName n ≠ Qnap.sanitizeLUNName n') :=
  ⟨Local.neverShare_iff, Qnap.neverShare_iff⟩

/-- `a/b` and `a-b` come to one zvol and to one LUN, created for the first and returned for the
second. -/
theorem slash_and_dash_share :
    (∃ tr w1 tr' w2 v v',
      Runs Local.clusterAct (Local.createVolume (Local.tankController "a")
        (Local.pinnedRequest "a/b")).run (Local.tankCluster 90000 90000) tr (.ok v) w1 ∧
      Runs Local.clusterAct (Local.createVolume (Local.tankController "a")
        (Local.pinnedRequest "a-b")).run w1 tr' (.ok v') w2 ∧ v.volumeID = v'.volumeID) ∧
    ∃ tr w1 tr' w2 v v',
      Runs Qnap.act (Qnap.createVolume .plain (Qnap.request "a/b")).run (.of [] [] []) tr (.ok v)
        w1 ∧
      Runs Qnap.act (Qnap.createVolume .plain (Qnap.request "a-b")).run w1 tr' (.ok v') w2 ∧
      v.volumeID = v'.volumeID := by
  constructor
  · obtain ⟨tr, p, w2, hrun, hid⟩ := runs_ok_of_exec Local.clusterAct
      (Local.createVolume (Local.tankController "a") (Local.pinnedRequest "a/b") >>= fun v =>
        Local.createVolume (Local.tankController "a") (Local.pinnedRequest "a-b") >>= fun v' =>
          pure (v, v')).run (Local.tankCluster 90000 90000) (List.replicate 40 {})
      (fun r => r.2.1.1.volumeID = r.2.1.2.volumeID) (by decide)
    obtain ⟨tr1, w1, tr2, h1, h2⟩ := runs_pair hrun
    exact ⟨tr1, w1, tr2, w2, p.1, p.2, h1, h2, hid⟩
  · obtain ⟨tr, p, w2, hrun, hid⟩ := runs_ok_of_exec Qnap.act
      (Qnap.createVolume .plain (Qnap.request "a/b") >>= fun v =>
        Qnap.createVolume .plain (Qnap.request "a-b") >>= fun v' => pure (v, v')).run
      (.of [] [] []) (List.replicate 40 {})
      (fun r => r.2.1.1.volumeID = r.2.1.2.volumeID) (by decide)
    obtain ⟨tr1, w1, tr2, h1, h2⟩ := runs_pair hrun
    exact ⟨tr1, w1, tr2, w2, p.1, p.2, h1, h2, hid⟩

end NomadCsi
