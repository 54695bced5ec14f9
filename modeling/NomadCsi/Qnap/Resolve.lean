import NomadCsi.Node.Logic
import NomadCsi.Qnap.Effect
import NomadCsi.Qnap.Identity
import NomadCsi.Qnap.Node

/-!
# The identity that an attach resolves

`attachIdentity` is what `resolveAttachIdentity` computes, as a function of the volume's
context and the SAN's answer. The SAN checks the LUN's name but takes the target from its
index alone.
-/

namespace NomadCsi.Qnap

open Lib Lib.Go Driver Node

/-- The target IQN: from the context, or as the SAN says. -/
def identityIQN (n : NodePlugin) (volumeID : String) (eid : ExternalID) (iqn : String)
    (said : Option String) : Except Error String :=
  if iqn ≠ "" then .ok iqn
  else if ¬ n.hasSAN then .error (noSAN volumeID)
  else match said with
    | some iqn => .ok iqn
    | none => .error (unresolvedIQN volumeID eid.lunIndex)

/-- The context names everything there is to attach. -/
def Complete (vctx : StrMap) : Prop :=
  splitPortals (vctx.get "portal") ≠ [] ∧ vctx.get "iqn" ≠ "" ∧ trimSpace (vctx.get "lun") ≠ ""

instance (vctx : StrMap) : Decidable (Complete vctx) := inferInstanceAs (Decidable (_ ∧ _))

def attachIdentity (n : NodePlugin) (volumeID : String) (vctx : StrMap) (said : Option String) :
    Except Error (List String × String × Int) :=
  if Complete vctx then do
    let lun ← contextLUN (trimSpace (vctx.get "lun"))
    return (splitPortals (vctx.get "portal"), vctx.get "iqn", lun)
  else do
    let eid ← recoverID volumeID
    let iqn ← identityIQN n volumeID eid (vctx.get "iqn") said
    let portals ← recoverPortals n volumeID (splitPortals (vctx.get "portal"))
    let lun ← recoverLUN volumeID eid (trimSpace (vctx.get "lun"))
    return (portals, iqn, lun)

/-- The SAN is asked at most once, and only for an IQN that the context lacks. -/
def AskedOnce (n : NodePlugin) (volumeID : String) (vctx : StrMap) (tr : List HostEv) : Prop :=
  tr = [] ∨ ∃ e eid, tr = [e] ∧ recoverID volumeID = .ok eid ∧ vctx.get "iqn" = "" ∧
    n.hasSAN = true ∧ e.call = .resolveIQN eid.lunIndex eid.targetIndex eid.lunName

section

variable {n : NodePlugin} {volumeID : String} {vctx : StrMap}

theorem wp_recoverIQN (h : Host) (eid : ExternalID) (iqn : String) :
    wp hostAct (recoverIQN n volumeID eid iqn).run h fun tr r h' => Same h h' ∧
      r = identityIQN n volumeID eid iqn (sanSays tr) ∧
      (tr = [] ∨ ∃ e, tr = [e] ∧ iqn = "" ∧ n.hasSAN = true ∧
        e.call = .resolveIQN eid.lunIndex eid.targetIndex eid.lunName) := by
  unfold recoverIQN identityIQN
  split
  · exact ⟨.refl h, rfl, .inl rfl⟩
  · next hiqn =>
    split
    · exact ⟨.refl h, rfl, .inl rfl⟩
    · next hsan =>
      refine wp_run_bind.2 (wp_perform.2 fun ch => ?_)
      have hact : hostAct h (.resolveIQN eid.lunIndex eid.targetIndex eid.lunName) ch =
          (ch.iqn, h.later ch) := rfl
      rw [hact]
      have hasked : ∀ e : HostEv, e.call = .resolveIQN eid.lunIndex eid.targetIndex eid.lunName →
          e.choice = ch → sanSays [e] = ch.iqn := by
        rintro e hc rfl
        simp [sanSays, hc, Cmd.asksSAN]
      cases hsaid : ch.iqn with
      | some | none =>
        refine ⟨⟨_, rfl⟩, ?_, .inr ⟨_, rfl, not_not.1 hiqn, not_not.1 hsan, rfl⟩⟩
        rw [List.append_nil, hasked _ rfl rfl, hsaid]

attribute [local irreducible] atoi in
theorem wp_resolveAttachIdentity (h : Host) :
    wp hostAct (resolveAttachIdentity n volumeID vctx).run h fun tr r h' => Same h h' ∧
      r = attachIdentity n volumeID vctx (sanSays tr) ∧ AskedOnce n volumeID vctx tr := by
  unfold resolveAttachIdentity
  dsimp only
  split
  · next hc =>
    have hc : Complete vctx := hc
    refine wp_mono (P := fun tr r h' => tr = [] ∧ h' = h ∧
      r = attachIdentity n volumeID vctx none) ?_ ?_
    · rw [attachIdentity, if_pos hc]
      cases contextLUN (trimSpace (vctx.get "lun")) with
      | ok | error => exact ⟨rfl, rfl, rfl⟩
    · rintro tr r h' ⟨rfl, rfl, rfl⟩
      exact ⟨.refl _, rfl, .inl rfl⟩
  · next hc =>
    have hc : ¬ Complete vctx := hc
    cases hid : recoverID volumeID with
    | error e =>
      refine ⟨.refl h, ?_, .inl rfl⟩
      rw [attachIdentity, if_neg hc, hid]
      rfl
    | ok eid =>
      rw [decided_ok_bind]
      refine wp_run_bind.2 (wp_mono (wp_recoverIQN h eid (vctx.get "iqn")) fun tr r h1 hp => ?_)
      obtain ⟨hsame, hr, hasked⟩ := hp
      have hasked' : AskedOnce n volumeID vctx tr := by
        rcases hasked with rfl | ⟨e, rfl, hiqn, hsan, hcall⟩
        · exact .inl rfl
        · exact .inr ⟨e, eid, rfl, hid, hiqn, hsan, hcall⟩
      have hval : attachIdentity n volumeID vctx (sanSays tr) = r >>= fun iqn =>
          recoverPortals n volumeID (splitPortals (vctx.get "portal")) >>= fun portals =>
          recoverLUN volumeID eid (trimSpace (vctx.get "lun")) >>= fun lun =>
          .ok (portals, iqn, lun) := by
        rw [attachIdentity, if_neg hc, hid, hr]
        rfl
      cases r with
      | error e => exact ⟨hsame, hval.symm, hasked'⟩
      | ok iqn =>
        dsimp only
        generalize recoverPortals n volumeID (splitPortals (vctx.get "portal")) = ps at hval ⊢
        generalize recoverLUN volumeID eid (trimSpace (vctx.get "lun")) = l at hval ⊢
        cases ps with
        | error e =>
          refine wp_run_throw.2 ?_
          rw [List.append_nil]
          exact ⟨hsame, hval.symm, hasked'⟩
        | ok ps =>
          rw [decided_ok_bind]
          cases l with
          | error e =>
            refine wp_run_throw.2 ?_
            rw [List.append_nil]
            exact ⟨hsame, hval.symm, hasked'⟩
          | ok l =>
            refine wp_run_pure.2 ?_
            rw [List.append_nil]
            exact ⟨hsame, hval.symm, hasked'⟩

/-- An identity found without an answer of the SAN does not depend on one. -/
theorem attachIdentity_of_none {id : List String × String × Int}
    (h : attachIdentity n volumeID vctx none = .ok id) (said : Option String) :
    attachIdentity n volumeID vctx said = .ok id := by
  unfold attachIdentity at h ⊢
  split
  · next hc => rwa [if_pos hc] at h
  · next hc =>
    rw [if_neg hc] at h
    generalize recoverID volumeID = parsed at h ⊢
    cases parsed with
    | error e => cases h
    | ok eid =>
      by_cases hiqn : vctx.get "iqn" = ""
      · -- without an IQN in the context there would be an error
        have hnone : ∃ e, identityIQN n volumeID eid (vctx.get "iqn") none = .error e := by
          unfold identityIQN
          rw [if_neg (not_not.2 hiqn)]
          split
          · exact ⟨_, rfl⟩
          · exact ⟨_, rfl⟩
        obtain ⟨e, he⟩ := hnone
        change (identityIQN n volumeID eid (vctx.get "iqn") none >>= _) = _ at h
        rw [he] at h
        cases h
      · have hsaid : identityIQN n volumeID eid (vctx.get "iqn") said =
            identityIQN n volumeID eid (vctx.get "iqn") none := by
          unfold identityIQN
          rw [if_pos hiqn, if_pos hiqn]
        change (identityIQN n volumeID eid (vctx.get "iqn") said >>= _) = _
        rw [hsaid]
        exact h

theorem attachIdentity_append {id : List String × String × Int} {tr : List HostEv}
    (hasked : AskedOnce n volumeID vctx tr)
    (h : attachIdentity n volumeID vctx (sanSays tr) = .ok id) (tr' : List HostEv) :
    attachIdentity n volumeID vctx (sanSays (tr ++ tr')) = .ok id := by
  rcases hasked with rfl | ⟨e, eid, rfl, -, -, -, hc⟩
  · exact attachIdentity_of_none h _
  · have hfirst : sanSays ([e] ++ tr') = sanSays [e] := by
      simp [sanSays, hc, Cmd.asksSAN]
    rwa [hfirst]

end

/-! ### The target behind the identity -/

def San.DistinctIqns (s : San) : Prop := ∀ t t' row row', s.targets.lookup t = some row →
  s.targets.lookup t' = some row' → row.iqn = row'.iqn → t = t'

/-- The target `t` has this IQN and maps the LUN that the id names; at this LUN number if the id says
that the target is the volume's own. -/
structure Reached (s : San) (eid : ExternalID) (iqn : String) (lun : Int) (t : Int) : Prop where
  iqn : (s.targets.lookup t).map (·.iqn) = some iqn
  maps : eid.lunIndex ∈ s.lunsOf t
  carries : s.Carries eid.lunIndex eid.lunName
  at_number : eid.ownTarget = true → 0 ≤ lun ∧ (s.lunsOf t)[lun.toNat]? = some eid.lunIndex

theorem iqnFor_build {s : San} {now : Int} {eid : ExternalID} {iqn : String}
    (h : (SanIdentityCache.build s.allTargets s.allLUNs now).iqnFor eid = some iqn) :
    s.Carries eid.lunIndex eid.lunName ∧
      (s.targets.lookup eid.targetIndex).map (·.iqn) = some iqn := by
  unfold SanIdentityCache.iqnFor at h
  split at h
  · next lun tgt hl ht =>
    split at h
    · cases h
    · next hname =>
      obtain rfl := Option.some.inj h
      constructor
      · obtain ⟨hmem, hidx⟩ := mem_of_lookup_foldl hl
        exact San.carries_iff_lun.2 ⟨lun, hidx ▸ San.mem_allLUNs.1 hmem, not_not.1 hname⟩
      · obtain ⟨hmem, hidx⟩ := mem_of_lookup_foldl ht
        obtain ⟨-, hrow, -⟩ := San.target_eq_some.1 (San.mem_allTargets.1 hmem)
        rw [← hidx, hrow]
        rfl
  · cases h

theorem volumeContext_lun (c : Controller) (vp : VolumeParams) (tgt : Target) (lunIdx : Int) :
    (volumeContext c vp tgt lunIdx).get "lun" = "0" := by
  unfold volumeContext
  dsimp only
  split
  · simp [StrMap.get, AList.lookup_insert_ne]
  · simp [StrMap.get, AList.lookup_insert_ne]

/-- From a part of the context that CreateVolume returned, the LUN number is 0. -/
theorem recoverLUN_of_subMap {c : Controller} {vp : VolumeParams} {tgt : Target} {lunIdx lun : Int}
    {vctx : StrMap} {volumeID : String} {eid : ExternalID}
    (hsub : SubMap vctx (volumeContext c vp tgt lunIdx))
    (h : recoverLUN volumeID eid (trimSpace (vctx.get "lun")) = .ok lun) : lun = 0 := by
  rcases hsub.get "lun" with hnone | hzero
  · rw [hnone] at h
    unfold recoverLUN at h
    rw [if_neg (by decide)] at h
    split at h
    · exact (Except.ok.inj h).symm
    · cases h
  · rw [hzero, volumeContext_lun] at h
    exact (Except.ok.inj h).symm

/-- Of the id that a volume was issued with, an attach that takes the IQN from the SAN reaches the
LUN iff the target that has the id's target index now maps that LUN, first of all if it is the
volume's own. -/
theorem attach_identity_iff {n : NodePlugin} {c : Controller} {source : Option ContentSource}
    {vp : VolumeParams} {eid : ExternalID} {sizeGB bytes now : Int} {tgt : Target} {vctx : StrMap}
    {s : San} {h h' : Host} {tr : List HostEv} {portals : List String} {iqn : String} {lun : Int}
    (hsub : SubMap vctx (toVolume c source vp eid.lunIndex eid.targetIndex eid.ownTarget sizeGB
      ⟨eid.lunIndex, eid.lunName, bytes⟩ tgt).volumeContext)
    (hrun : Runs hostAct (resolveAttachIdentity n (toVolume c source vp eid.lunIndex eid.targetIndex
      eid.ownTarget sizeGB ⟨eid.lunIndex, eid.lunName, bytes⟩ tgt).volumeID vctx).run h tr
      (.ok (portals, iqn, lun)) h')
    (hasked : ∃ e ∈ tr, e.call.asksSAN = true)
    (hsan : ∀ e ∈ tr, e.call.asksSAN = true → e.choice.iqn =
      (SanIdentityCache.build s.allTargets s.allLUNs now).iqnFor eid)
    (hdistinct : s.DistinctIqns) :
    (∃ t, Reached s eid iqn lun t) ↔ eid.lunIndex ∈ s.lunsOf eid.targetIndex ∧
      (eid.ownTarget = true → (s.lunsOf eid.targetIndex)[0]? = some eid.lunIndex) := by
  obtain ⟨-, hres, hcalls⟩ := wp_iff.1 (wp_resolveAttachIdentity h) _ _ _ hrun
  rcases hcalls with rfl | ⟨e, eid', rfl, hparse, hiqn, hsome, hcall⟩
  · obtain ⟨e, he, -⟩ := hasked
    cases he
  have hsaid : sanSays [e] = (SanIdentityCache.build s.allTargets s.allLUNs now).iqnFor eid := by
    rw [← hsan e (.head _) (by rw [hcall]; rfl)]
    simp [sanSays, hcall, Cmd.asksSAN]
  have hpart : ¬ Complete vctx := fun hc => hc.2.1 hiqn
  -- the id parses to the one that was issued
  have heid : eid' = eid := by
    unfold recoverID at hparse
    cases hp : parseExternalID _ with
    | error e => rw [hp] at hparse; cases hparse
    | ok e =>
      rw [hp] at hparse
      rw [← Except.ok.inj hparse]
      exact parseExternalID_toString hp
  subst heid
  rw [attachIdentity, if_neg hpart, hparse, hiqn, hsaid] at hres
  obtain ⟨eid'', he, hres⟩ := bind_ok.1 hres.symm
  cases he
  obtain ⟨iqn', hfound, hres⟩ := bind_ok.1 hres
  obtain ⟨ps, -, hres⟩ := bind_ok.1 hres
  obtain ⟨l, hlun, hres⟩ := bind_ok.1 hres
  cases hres
  obtain rfl := recoverLUN_of_subMap hsub hlun
  have hiqnFor : (SanIdentityCache.build s.allTargets s.allLUNs now).iqnFor eid' = some iqn := by
    unfold identityIQN at hfound
    rw [if_neg (by simp), if_neg (by simp [hsome])] at hfound
    cases hk : (SanIdentityCache.build s.allTargets s.allLUNs now).iqnFor eid' with
    | none => rw [hk] at hfound; cases hfound
    | some i =>
      rw [hk] at hfound
      rw [Except.ok.inj hfound]
  obtain ⟨hcarries, htarget⟩ := iqnFor_build hiqnFor
  constructor
  · rintro ⟨t, ht⟩
    obtain ⟨row, hrow, hi⟩ := Option.map_eq_some_iff.1 ht.iqn
    obtain ⟨row', hrow', hi'⟩ := Option.map_eq_some_iff.1 htarget
    obtain rfl := hdistinct t _ row row' hrow hrow' (hi.trans hi'.symm)
    exact ⟨ht.maps, fun hown => (ht.at_number hown).2⟩
  · rintro ⟨hmaps, hfirst⟩
    exact ⟨_, htarget, hmaps, hcarries, fun hown => ⟨Int.le_refl 0, hfirst hown⟩⟩

/-- The id of LUN 1, named `v1`, on target 5 of its own. -/
def idFive : ExternalID := ⟨1, 5, true, "v1"⟩

/-- An appliance with LUNs 1 and 2 and targets 5 and 6; `maps` says which is on which. -/
def twoTargets (maps : List (Int × Int)) : San where
  luns := (AList.insert 1 ⟨"v1", giB⟩ ∅).insert 2 ⟨"v2", giB⟩
  targets := (AList.insert 5 ⟨"iqn.five", "v1"⟩ ∅).insert 6 ⟨"iqn.six", "v2"⟩
  maps := maps
  snaps := []
  pools := ∅

theorem twoTargets_distinct (maps : List (Int × Int)) : (twoTargets maps).DistinctIqns := by
  have hrows : ∀ t row, (twoTargets maps).targets.lookup t = some row →
      (t = 5 ∧ row.iqn = "iqn.five") ∨ t = 6 ∧ row.iqn = "iqn.six" := by
    intro t row h
    change (((AList.insert 5 ⟨"iqn.five", "v1"⟩ ∅ : Map Int TargetRow)).insert 6
      ⟨"iqn.six", "v2"⟩).lookup t = some row at h
    by_cases h6 : t = 6
    · rw [h6, AList.lookup_insert] at h
      cases h
      exact .inr ⟨h6, rfl⟩
    · rw [AList.lookup_insert_ne h6] at h
      by_cases h5 : t = 5
      · rw [h5, AList.lookup_insert] at h
        cases h
        exact .inl ⟨h5, rfl⟩
      · rw [AList.lookup_insert_ne h5] at h
        cases h
  intro t t' row row' h h' heq
  rcases hrows t row h with ⟨rfl, hi⟩ | ⟨rfl, hi⟩
  · rcases hrows t' row' h' with ⟨rfl, -⟩ | ⟨rfl, hi'⟩
    · rfl
    · rw [hi, hi'] at heq
      exact absurd heq (by decide)
  · rcases hrows t' row' h' with ⟨rfl, hi'⟩ | ⟨rfl, -⟩
    · rw [hi, hi'] at heq
      exact absurd heq (by decide)
    · rfl

def volumeFive : Volume :=
  toVolume ⟨⟨"10.0.0.1", [], 1, [], 512⟩, fun _ => 0⟩ none
    { fsType := "ext4", sectorSize := 512, poolID := 1, thin := true } idFive.lunIndex
    idFive.targetIndex idFive.ownTarget 1 ⟨idFive.lunIndex, idFive.lunName, giB⟩
    ⟨5, "iqn.five", "v1", [1]⟩

def sanNode : NodePlugin := { NodePlugin.plain with hasSAN := true }

theorem resolves_volumeFive (maps : List (Int × Int)) : ∃ tr portals h',
    Runs hostAct (resolveAttachIdentity sanNode volumeFive.volumeID ∅).run (.of [] [] [] 0) tr
      (.ok (portals, "iqn.five", 0)) h' ∧ (∃ e ∈ tr, e.call.asksSAN = true) ∧
    ∀ e ∈ tr, e.call.asksSAN = true → e.choice.iqn =
      (SanIdentityCache.build (twoTargets maps).allTargets (twoTargets maps).allLUNs 0).iqnFor
        idFive := by
  obtain ⟨tr, res, h', hrun, hres, hasked, hsaid⟩ := runs_ok_of_exec hostAct
    (resolveAttachIdentity sanNode volumeFive.volumeID ∅).run (.of [] [] [] 0)
    [{ iqn := some "iqn.five" }] (fun x => x.2.1.2 = ("iqn.five", 0) ∧
      (∃ e ∈ x.1, e.call.asksSAN = true) ∧ ∀ e ∈ x.1, e.choice.iqn = some "iqn.five") (by decide)
  obtain ⟨portals, rest⟩ := res
  obtain rfl : rest = ("iqn.five", 0) := hres
  refine ⟨tr, portals, h', hrun, hasked, fun e he _ => ?_⟩
  rw [hsaid e he]
  rfl

theorem attach_identity_volumeFive : ∃ tr portals h',
    Runs hostAct (resolveAttachIdentity sanNode volumeFive.volumeID ∅).run (.of [] [] [] 0) tr
      (.ok (portals, "iqn.five", 0)) h' ∧
    ∃ t, Reached (twoTargets [(1, 5), (2, 6)]) idFive "iqn.five" 0 t := by
  obtain ⟨tr, portals, h', hrun, hasked, hsaid⟩ := resolves_volumeFive [(1, 5), (2, 6)]
  have hsub : SubMap ∅ volumeFive.volumeContext := by
    intro k v h
    cases h
  exact ⟨tr, portals, h', hrun, (attach_identity_iff hsub hrun hasked hsaid
    (twoTargets_distinct _)).2 ⟨by decide, by decide⟩⟩

/-- After target 5 was made anew for LUN 2, the node logs in to it for LUN 1. -/
theorem attach_reaches_other_volume : ¬ ∀ (n : NodePlugin) (c : Controller)
    (source : Option ContentSource) (vp : VolumeParams) (eid : ExternalID) (sizeGB bytes now : Int)
    (tgt : Target) (vctx : StrMap) (s : San) (h h' : Host) (tr : List HostEv)
    (portals : List String) (iqn : String) (lun : Int),
      SubMap vctx (toVolume c source vp eid.lunIndex eid.targetIndex eid.ownTarget sizeGB
        ⟨eid.lunIndex, eid.lunName, bytes⟩ tgt).volumeContext →
      Runs hostAct (resolveAttachIdentity n (toVolume c source vp eid.lunIndex eid.targetIndex
        eid.ownTarget sizeGB ⟨eid.lunIndex, eid.lunName, bytes⟩ tgt).volumeID vctx).run h tr
        (.ok (portals, iqn, lun)) h' →
      (∃ e ∈ tr, e.call.asksSAN = true) →
      (∀ e ∈ tr, e.call.asksSAN = true → e.choice.iqn =
        (SanIdentityCache.build s.allTargets s.allLUNs now).iqnFor eid) →
      s.DistinctIqns → ∃ t, Reached s eid iqn lun t := by
  intro hall
  obtain ⟨tr, portals, h', hrun, hasked, hsaid⟩ := resolves_volumeFive [(2, 5), (1, 6)]
  have hsub : SubMap ∅ volumeFive.volumeContext := by
    intro k v h
    cases h
  obtain ⟨t, ht⟩ := hall _ _ _ _ idFive _ _ _ _ _ _ _ _ _ _ _ _ hsub hrun hasked hsaid
    (twoTargets_distinct _)
  -- the IQN is that of target 5, which maps LUN 2 only
  have h5 : t = 5 := by
    obtain ⟨row, hrow, hi⟩ := Option.map_eq_some_iff.1 ht.iqn
    exact twoTargets_distinct _ t 5 row ⟨"iqn.five", "v1"⟩ hrow rfl hi
  have hmaps := ht.maps
  rw [h5] at hmaps
  revert hmaps
  decide

end NomadCsi.Qnap
