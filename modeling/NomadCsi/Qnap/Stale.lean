import NomadCsi.Qnap.Create

/-!
# CreateVolume over a stale cache

CreateVolume answers a name it finds in the cache from the cached LUN and target
indices, and reads both again without comparing names: an answer comes from the LUN and target
the index knows by the name (`Reused`), or from a new LUN (`Provisioned`).
-/

namespace NomadCsi.Qnap

open Lib Lib.Go Driver

/-- The returned id names a LUN of the requested name, mapped to the target the id names. -/
def Sound (s : San) (name : String) (v : Volume) : Prop :=
  ∃ eid : ExternalID, v.volumeID = eid.toString ∧ eid.lunName = name ∧
    s.Made eid.lunIndex eid.lunName eid.targetIndex

/-- What the cache says about `name` is true of the appliance. -/
def CacheTrue (s : San) (k : LunCache) (name : String) : Prop :=
  ∀ l t, k.lookupByName name = some l → k.targetForLUN l.index = some t →
    s.Made l.index name t.index

/-- What an operation looks names up in: the cache while it is fresh, otherwise the appliance's
own lists. -/
def World.index (w : World) : LunCache :=
  if w.cache.isFresh w.now then w.cache else .install w.san.allLUNs w.san.allTargets w.now

/-- The cache of `w'` is the index of `w`, up to the time it was filled at. -/
structure World.Refreshed (w w' : World) : Prop where
  san : w'.san = w.san
  lookupByName : ∀ name, w'.cache.lookupByName name = w.index.lookupByName name
  targetForLUN : ∀ i, w'.cache.targetForLUN i = w.index.targetForLUN i

theorem refreshed_of_ends {w w' : World} (h : w'.san = w.san ∧
    (w.cache.isFresh w.now = true ∧ w'.cache = w.cache ∨ w.cache.isFresh w.now = false ∧
      ∃ now, w'.cache = .install w.san.allLUNs w.san.allTargets now)) : w.Refreshed w' := by
  obtain ⟨hs, ⟨hfresh, hk⟩ | ⟨hstale, now, hk⟩⟩ := h
  · have hindex : w.index = w.cache := if_pos hfresh
    refine ⟨hs, fun name => ?_, fun i => ?_⟩
    · rw [hk, hindex]
    · rw [hk, hindex]
  · have hindex : w.index = .install w.san.allLUNs w.san.allTargets w.now := by
      unfold World.index
      rw [hstale]
      rfl
    refine ⟨hs, fun name => ?_, fun i => ?_⟩
    · rw [hk, hindex]
      rfl
    · rw [hk, hindex]
      rfl

variable {name : String} {s : San}

theorem cacheTrue_install {now : Int} : CacheTrue s (.install s.allLUNs s.allTargets now) name := by
  intro l t hl ht
  obtain ⟨hmem, hname⟩ := LunCache.lookup_indexByName hl
  obtain ⟨htmem, hmap⟩ := LunCache.lookup_indexTargets ht
  obtain ⟨e, he, rfl⟩ := List.mem_map.1 hmem
  obtain ⟨e', -, rfl⟩ := List.mem_map.1 htmem
  refine ⟨?_, San.mem_lunsOf.1 hmap⟩
  have : s.luns.lookup e.1 = some e.2 := AList.mem_lookup_iff.2 he
  simpa [San.Carries, this] using hname

variable {c : Controller}

theorem sound_reused {vp : VolumeParams} {sizeGB : Int} {k : LunCache} {v : Volume}
    (h : Reused c vp name sizeGB s k v) : Sound s name v ↔ CacheTrue s k name := by
  obtain ⟨l, t, lun, tgt, ch, hl, -, ht, hlun, -, rfl⟩ := h
  constructor
  · rintro ⟨eid, hid, hname, hmade⟩ l' t' hl' ht'
    obtain rfl : l = l' := Option.some.inj (hl.symm.trans hl')
    obtain rfl : t = t' := Option.some.inj (ht.symm.trans ht')
    obtain rfl := ExternalID.toString_inj hid
    exact hname ▸ hmade
  · intro h
    have hmade := h l t hl ht
    have hname : lun.name = name := hmade.1.getLUN hlun
    exact ⟨_, rfl, hname, hname ▸ hmade⟩

/-! ### Where an answer comes from -/

/-- The volume of a LUN that `s` did not have. -/
def Provisioned (c : Controller) (source : Option ContentSource) (vp : VolumeParams) (sizeGB : Int)
    (s s' : San) (v : Volume) : Prop :=
  ∃ i t lun tgt ch, i ∉ s.luns ∧ i ∈ s'.luns ∧ s'.serve (.getLUN i) ch = some (lun, s') ∧
    s'.target t = some tgt ∧ v = toVolume c source vp i t true sizeGB lun tgt

theorem reads_true : Reads (fun _ _ => True) s :=
  ⟨trivial, trivial, fun _ => trivial, fun _ => trivial⟩

/-- No step of CreateVolume removes a LUN, and the provisioned one is new and the requested one. -/
theorem does_provision {k : LunCache} (req : CreateVolumeRequest) (vp : VolumeParams)
    (sizeGB targetIdx : Int) {s0 : San} (hkeep : ∀ i ∈ s0.luns, i ∈ s.luns) :
    Does (fun _ _ => True) (provisionOn c req vp name sizeGB targetIdx true) s k
      (fun v s' _ => Provisioned c req.contentSource vp sizeGB s0 s' v ∧ Sound s' name v)
      fun _ _ _ => True := by
  refine .bind (Q := fun r s _ => ∀ i, r = .ok i → i ∉ s0.luns ∧ s.Made i name targetIdx)
    (.attempt ?_) ?_
  · refine (does_provisionLUN_of req.contentSource vp name sizeGB targetIdx
      (I := fun s => ∀ i ∈ s0.luns, i ∈ s.luns)
      (Q := fun i s => i ∉ s0.luns ∧ s.Made i name targetIdx) hkeep ?_ ?_).mono ?_
      fun _ _ _ _ => nofun
    · intro s i s' hkeep hadd
      have hmade := hadd.made
      obtain ⟨hi, -, row, -, rfl⟩ := hadd
      refine ⟨fun j hj => ?_, fun h => hi (hkeep i h), hmade⟩
      exact (AList.mem_insert _).2 (.inr (hkeep j hj))
    · rintro s i gb v s' ⟨hnew, hmade⟩ he
      exact ⟨hnew, made_of_resize hmade he⟩
    · rintro i s k h _ ⟨⟩
      exact h
  · rintro (e | i) s k h
    · exact .bind (does_rollbackTarget fun _ => trivial) fun _ _ _ _ => .throw trivial
    · refine (does_assembleVolume _ _ _ _ _ _ _ reads_true).mono ?_ fun _ _ _ _ => trivial
      rintro v s k ⟨rfl, lun, tgt, ch, hlun, htgt, rfl⟩
      obtain ⟨hnew, hmade⟩ := h i rfl
      have hname : lun.name = name := hmade.1.getLUN hlun
      exact ⟨⟨i, _, lun, tgt, ch, hnew, hmade.1.mem, hlun, htgt, rfl⟩, _, rfl, hname, hname ▸ hmade⟩

theorem ends_ensureFresh (w : World) :
    Ends act (Issues fun _ _ => True) ensureFresh w (fun _ w' => w.Refreshed w') fun _ _ => True := by
  refine .bind (Q := fun fresh w' => fresh = w.cache.isFresh w.now ∧ w'.san = w.san ∧
    w'.cache = w.cache) (.perform fun ch => ⟨trivial, rfl, rfl, rfl⟩) ?_
  rintro (_ | _) w' ⟨hfresh, hs, hk⟩
  · refine (does_rebuildCache reads_true w' hs hk).mono ?_ fun _ _ _ => trivial
    rintro _ w'' ⟨hs', now, hk'⟩
    exact refreshed_of_ends ⟨hs', .inr ⟨hfresh.symm, now, hk'⟩⟩
  · exact .pure (refreshed_of_ends ⟨hs, .inl ⟨hfresh.symm, hk⟩⟩)

/-- A volume that CreateVolume returned: reused as the index knew it, or provisioned as asked for. -/
def Returned (c : Controller) (req : CreateVolumeRequest) (w w' : World) (v : Volume) : Prop :=
  ∃ vp sizeGB, resolveParams c.cfg req.parameters req.volumeCapabilities = .ok vp ∧
    sizeGiBExact req.capacityRange = .ok sizeGB ∧
    (Reused c vp (sanitizeLUNName req.name) sizeGB w.san w.index v ∧ w'.san = w.san ∨
      w.index.lookupByName (sanitizeLUNName req.name) = none ∧
        Provisioned c req.contentSource vp sizeGB w.san w'.san v ∧
        Sound w'.san (sanitizeLUNName req.name) v)

theorem yields_createVolume {req : CreateVolumeRequest} {w w' : World} {tr : List Ev} {v : Volume}
    (hrun : Runs act (createVolume c req).run w tr (.ok v) w') : Returned c req w w' v := by
  suffices h : Ends act (Issues fun _ _ => True) (createVolume c req) w
      (fun v w' => Returned c req w w' v) fun _ _ => True from (h.runs hrun).2
  unfold createVolume
  cases hvp : resolveParams c.cfg req.parameters req.volumeCapabilities with
  | error e => exact .throw trivial
  | ok vp =>
    rw [check_ok_bind]
    cases hsize : sizeGiBExact req.capacityRange with
    | error e => exact .throw trivial
    | ok sizeGB =>
      rw [check_ok_bind]
      unfold findExistingVolume
      rw [bind_assoc]
      refine .bind (.onError (ends_ensureFresh w)) ?_
      rintro _ w1 href
      refine .bind ((does_existingFromCache c _ sizeGB vp reads_true w1 rfl rfl).weaken
        fun _ _ _ => trivial) ?_
      rintro (_ | v) w2 ⟨hs, hnone, hsome⟩
      · refine .bind (does_resolveTarget (I := fun s => ∀ i ∈ w.san.luns, i ∈ s.luns)
          (resolveParams_targetIndex hvp) ?_ (fun _ _ _ => trivial) ?_ w2 rfl rfl |>.weaken
          fun _ _ _ => trivial) ?_
        · intro i hi
          rw [hs, href.san]
          exact hi
        · intro r s t s' hkeep he
          cases he with
          | read | addTarget => exact hkeep
        · rintro ⟨t, own⟩ w3 ⟨hkeep, rfl⟩
          refine (does_provision req vp sizeGB t hkeep w3 rfl rfl).mono ?_ fun _ _ h => h
          intro v w4 hprov
          exact ⟨vp, sizeGB, hvp, hsize, .inr ⟨(href.lookupByName _).symm.trans (hnone rfl), hprov⟩⟩
      · have hreuse := hsome v rfl
        rw [href.san] at hreuse
        refine .pure ⟨vp, sizeGB, hvp, hsize, .inl ⟨?_, hs.trans href.san⟩⟩
        obtain ⟨l, t, lun, tgt, ch, hl, hcap, ht, hread⟩ := hreuse
        exact ⟨l, t, lun, tgt, ch, (href.lookupByName _).symm.trans hl, hcap,
          (href.targetForLUN _).symm.trans ht, hread⟩

/-- When a volume that CreateVolume returns is the one that was asked for: a refresh of the cache
was due, or what the cache says about the name is true of the appliance. -/
theorem createVolume_stale_iff {c : Controller} {req : CreateVolumeRequest} {w w' : World}
    {tr : List Ev} {v : Volume} (hrun : Runs act (createVolume c req).run w tr (.ok v) w') :
    Sound w'.san (sanitizeLUNName req.name) v ↔
      w.cache.isFresh w.now = false ∨ CacheTrue w.san w.cache (sanitizeLUNName req.name) := by
  have hindex : CacheTrue w.san w.index (sanitizeLUNName req.name) ↔
      w.cache.isFresh w.now = false ∨ CacheTrue w.san w.cache (sanitizeLUNName req.name) := by
    unfold World.index
    cases hfresh : w.cache.isFresh w.now with
    | true => simp
    | false => exact iff_of_true cacheTrue_install (.inl rfl)
  rw [← hindex]
  obtain ⟨vp, sizeGB, -, -, ⟨hreuse, hs⟩ | ⟨hnone, -, hsound⟩⟩ := yields_createVolume hrun
  · rw [hs]
    exact sound_reused hreuse
  · refine iff_of_true hsound fun l t hl => ?_
    rw [hnone] at hl
    cases hl

def request (name : String) : CreateVolumeRequest := ⟨name, ⟨giB, 0⟩, [], ∅, none⟩

theorem createVolume_refreshed : ∃ tr v w',
    Runs act (createVolume .plain (request "vol1")).run
      (.of [(7, "vol1")] [(3, "vol1")] [(7, 3)]) tr (.ok v) w' ∧ Sound w'.san "vol1" v := by
  obtain ⟨tr, v, w', hrun, -⟩ := runs_ok_of_exec act (createVolume .plain (request "vol1")).run
    (.of [(7, "vol1")] [(3, "vol1")] [(7, 3)]) (List.replicate 11 {})
    (fun _ => True) (by decide)
  exact ⟨tr, v, w', hrun, (createVolume_stale_iff hrun).2 (.inl rfl)⟩

/-- The cache still knows `vol1` at LUN 7 and target 3; the appliance has since given both
indices to another volume. -/
def staleWorld : World :=
  { World.of [(7, "other")] [(3, "other")] [(7, 3)] with
    cache := .install [⟨7, "vol1", giB⟩] [⟨3, "vol1", "vol1", [7]⟩] 0 }

/-- A stale cache entry makes CreateVolume hand out another volume's LUN. -/
theorem createVolume_returns_other_volume : ¬ ∀ (c : Controller) (req : CreateVolumeRequest)
    (w w' : World) (tr : List Ev) (v : Volume),
      Runs act (createVolume c req).run w tr (.ok v) w' →
      Sound w'.san (sanitizeLUNName req.name) v := by
  intro h
  obtain ⟨tr, v, w', hrun, hid⟩ := runs_ok_of_exec act (createVolume .plain (request "vol1")).run
    staleWorld (List.replicate 7 {})
    (fun x => x.2.1.volumeID = ExternalID.toString ⟨7, 3, true, "other"⟩) (by decide)
  obtain ⟨eid, hv, hname, -⟩ := h _ _ _ _ _ _ hrun
  obtain rfl := ExternalID.toString_inj (hv.symm.trans hid)
  revert hname
  decide

end NomadCsi.Qnap
