import NomadCsi.Qnap.Expiry
import NomadCsi.Qnap.Repeat

/-!
# Calls one after the other

The only controller serves one call after the other, and the appliance answers every client
call (`Sequence`). What such a call does is then determined up to the appliance's own choices.
-/

namespace NomadCsi.Qnap

open Lib Lib.Go Driver

/-! ### The appliance with one more volume -/

namespace San

def addTarget (s : San) (t : Int) (row : TargetRow) : San :=
  { s with targets := s.targets.insert t row }

def addVolume (s : San) (i t : Int) (iqn : String) (row : LunRow) : San :=
  (s.addTarget t ⟨iqn, row.name⟩).addLUN i row t

/-- Every mapping joins a LUN and a target that are there. -/
def Linked (s : San) : Prop := ∀ m ∈ s.maps, m.1 ∈ s.luns ∧ m.2 ∈ s.targets

variable {s : San} {i t : Int}

theorem Linked.lunsOf_nil (h : s.Linked) (ht : t ∉ s.targets) : s.lunsOf t = [] := by
  refine List.eq_nil_iff_forall_not_mem.2 fun j hj => ht ?_
  exact (h _ (mem_lunsOf.1 hj)).2

theorem Linked.dropTarget_addTarget (h : s.Linked) (ht : t ∉ s.targets) (row : TargetRow) :
    (s.addTarget t row).dropTarget t = s := by
  have hmaps : s.maps.filter (fun m => decide (m.2 ≠ t)) = s.maps := by
    refine List.filter_eq_self.2 fun m hm => decide_eq_true ?_
    rintro rfl
    exact ht (h m hm).2
  unfold dropTarget addTarget
  rw [hmaps, erase_insert (AList.lookup_eq_none.2 ht)]

theorem resize_addLUN (s : San) (i t gb : Int) (row : LunRow) :
    (s.addLUN i row t).resize i row gb = s.addLUN i { row with capacityBytes := gb * giB } t := by
  unfold resize addLUN
  rw [AList.insert_insert]

theorem lun_addLUN (s : San) (i t : Int) (row : LunRow) :
    (s.addLUN i row t).lun i = some ⟨i, row.name, row.capacityBytes⟩ := by
  rw [lun, lookup_addLUN, if_pos rfl]
  rfl

theorem Linked.target_addVolume (h : s.Linked) (ht : t ∉ s.targets) (i : Int) (iqn : String)
    (row : LunRow) : (s.addVolume i t iqn row).target t = some ⟨t, iqn, row.name, [i]⟩ := by
  have hluns : (s.addVolume i t iqn row).lunsOf t = s.lunsOf t ++ [i] := by
    simp [addVolume, addTarget, addLUN, lunsOf, List.filterMap_append]
  have hrow : (s.addVolume i t iqn row).targets.lookup t = some ⟨iqn, row.name⟩ :=
    AList.lookup_insert _
  rw [target, hrow, hluns, h.lunsOf_nil ht]
  rfl

end San

/-! ### Answered calls -/

variable {X : Err → World → Prop}

section

variable {α : Type} {w : World}

theorem answered_call {c : SanCall} {Q : c.Val → World → Prop}
    (hX : ∀ ch e w', w.Later w' → w.san.serve c ch = none → X e w')
    (hQ : ∀ ch v w', w'.cache = w.cache → w.san.serve c ch = some (v, w'.san) → Q v w') :
    Answered (smDo fun s => san s c) w Q X := by
  refine ends_smDo_san (fun _ h => h) fun s w1 hlater hs => ends_san (fun _ h => h) hs ?_ ?_
  · intro ch hch hnone
    rw [hlater.san] at hnone
    exact ⟨hch.error, hX _ _ _ (hlater.trans (w1.later_tick _)) hnone⟩
  · intro ch v s' _ hsome
    rw [hlater.san] at hsome
    exact hQ ch.san v _ hlater.cache hsome

/-- From an honoured session on, no attempt is refused. -/
theorem answered_smDo_honoured {fn : Int → Op α} {Q : α → World → Prop} (hw : w.Honoured) (hfn : ∀ s
      w', w.Later w' → s ∈ w'.accepted → Answered (fn s) w' Q fun e w'' => isAuthError e = false ∧ X
      e w'') : Answered (smDo fn) w Q X := by
  refine answered_smDo_of (answered_smGet_honoured hw) ?_
  rintro s w1 ⟨hlater, hs⟩
  exact hfn s w1 hlater hs

end

/-! ### CreateVolume -/

section

variable {c : Controller} {vp : VolumeParams} {w : World} {i t sizeGB : Int}

theorem live_resize {s : Int} (hs : s ∈ w.accepted) :
    Answered (do
        san s (.resizeLUN i sizeGB)
        let _ ← san s (.waitForResizeComplete i (sizeGB * giB))
        return ()) w
      (fun _ w' => w.Under w' ∧ ∃ row, w.san.luns.lookup i = some row ∧
        w'.san = w.san.resize i row sizeGB)
      fun e w' => isAuthError e = false ∧ w.san.luns.lookup i = none ∧ w'.san = w.san ∧
        w.Under w' := by
  refine Ends.bind (Q := fun _ w' => w.Under w' ∧ ∃ row, w.san.luns.lookup i = some row ∧
    w'.san = w.san.resize i row sizeGB) (answered_live hs ?_ ?_) ?_
  · intro ch w' hnone hs' hunder e hauth
    exact ⟨hauth, Option.map_eq_none_iff.1 hnone, hs', hunder⟩
  · intro ch v w' hsome hunder
    obtain ⟨row, hrow, heq⟩ := Option.map_eq_some_iff.1 hsome
    exact ⟨hunder, row, hrow, (Prod.mk.inj heq).2.symm⟩
  rintro _ w1 ⟨hunder, row, hrow, hs1⟩
  have hgrown : w1.san.lun i = some ⟨i, row.name, sizeGB * giB⟩ := by
    rw [hs1, San.lun, San.lookup_resize, if_pos rfl]
    rfl
  refine Ends.bind (Q := fun _ w' => w'.san = w1.san ∧ w1.Under w')
    (answered_live (hunder.accepted ▸ hs) ?_ ?_) ?_
  · intro ch w' hnone
    simp [San.serve, hgrown] at hnone
  · intro ch v w' hsome hunder'
    simp only [San.serve, hgrown, Option.bind_some, if_pos (Int.le_refl _)] at hsome
    exact ⟨(Prod.mk.inj (Option.some.inj hsome)).2.symm, hunder'⟩
  rintro _ w2 ⟨hs2, hunder'⟩
  exact .pure ⟨hunder.trans hunder', row, hrow, hs2.trans hs1⟩

theorem answered_growToRequested {row : LunRow} (hrow : w.san.luns.lookup i = some row) :
    Answered (growToRequested i sizeGB) w
      (fun _ w' => w'.cache = w.cache ∧ (w'.san = w.san ∨ w'.san = w.san.resize i row sizeGB))
      fun _ _ => False := by
  have hlun : w.san.lun i = some ⟨i, row.name, row.capacityBytes⟩ := by rw [San.lun, hrow]; rfl
  refine Ends.bind (Q := fun _ w' => w'.san = w.san ∧ w'.cache = w.cache)
    (.onError (answered_call ?_ ?_)) ?_
  · intro ch e w' _ hnone
    simp only [San.serve, hlun] at hnone
    cases hnone
  · intro ch v w' hk hsome
    exact ⟨(San.serve_getLUN hsome).1, hk⟩
  rintro lun w1 ⟨hs1, hk1⟩
  split
  · exact .pure ⟨hk1, .inl hs1⟩
  · refine ends_smDo_bind (fun _ h => h) fun s w2 hlater hs => (live_resize hs).mono ?_ ?_
    · rintro _ w3 ⟨hunder, row', hrow', hs3⟩
      rw [hlater.san, hs1] at hrow' hs3
      obtain rfl := Option.some.inj (hrow.symm.trans hrow')
      exact ⟨hunder.cache.trans (hlater.cache.trans hk1), .inr hs3⟩
    · rintro e w3 ⟨-, hnone, -⟩
      rw [hlater.san, hs1, hrow] at hnone
      cases hnone

theorem answered_grown {w0 : World} {name : String} (hk : w.cache = w0.cache)
    (hadds : w0.san.Adds i name t w.san) :
    Answered (do growToRequested i sizeGB; return i) w
      (fun j w' => w'.cache = w0.cache ∧ w0.san.Adds j name t w'.san)
      fun _ w' => w'.san = w0.san ∧ w'.cache = w0.cache := by
  obtain ⟨hi, ht, row, rfl, hs⟩ := hadds
  have hrow : w.san.luns.lookup i = some row := by rw [hs, San.lookup_addLUN, if_pos rfl]
  refine Ends.bind ((answered_growToRequested hrow).weaken fun _ _ h => h.elim) ?_
  rintro _ w' ⟨hk', hsame | hgrown⟩
  · exact .pure ⟨hk'.trans hk, hi, ht, row, rfl, hsame.trans hs⟩
  · rw [hs, San.resize_addLUN] at hgrown
    exact .pure ⟨hk'.trans hk, hi, ht, { row with capacityBytes := sizeGB * giB }, rfl, hgrown⟩

theorem answered_provisionLUN {source : Option ContentSource} {name : String} :
    Answered (provisionLUN source vp name sizeGB t) w
      (fun i w' => w'.cache = w.cache ∧ w.san.Adds i name t w'.san)
      fun _ w' => w'.san = w.san ∧ w'.cache = w.cache := by
  -- the three provisioning calls: rejected, or served with a new LUN
  have hcall : ∀ {call : SanCall} {f : Err → Err} (Q : call.Val → World → Prop),
      (∀ ch v w', w'.cache = w.cache → w.san.serve call ch = some (v, w'.san) → Q v w') →
      Answered (onError f (smDo fun s => san s call)) w Q
        fun _ w' => w'.san = w.san ∧ w'.cache = w.cache := fun _ hQ =>
    .onError (answered_call (fun _ _ _ hlater _ => ⟨hlater.san, hlater.cache⟩) hQ)
  unfold provisionLUN
  dsimp only
  split
  · cases parseSnapshotID (source.getD ⟨"", ""⟩).snapshotID with
    | error e => exact .throw ⟨rfl, rfl⟩
    | ok sid =>
      rw [check_ok_bind]
      refine .bind (hcall (fun i w' => w'.cache = w.cache ∧ w.san.Adds i name t w'.san) ?_) ?_
      · exact fun ch v w' hk hsome => ⟨hk, (San.serve_effect hsome).adds_restore⟩
      · exact fun i w' h => answered_grown h.1 h.2
  · split
    · cases parseExternalID (source.getD ⟨"", ""⟩).volumeID with
      | error e => exact .throw ⟨rfl, rfl⟩
      | ok eid =>
        rw [check_ok_bind]
        refine .bind (hcall (fun i w' => w'.cache = w.cache ∧ w.san.Adds i name t w'.san) ?_) ?_
        · exact fun ch v w' hk hsome => ⟨hk, (San.serve_effect hsome).adds_clone⟩
        · exact fun i w' h => answered_grown h.1 h.2
    · exact hcall _ fun ch v w' hk hsome => ⟨hk, (San.serve_effect hsome).adds_block⟩

theorem answered_rollbackTarget {s : San} (hlinked : s.Linked) (ht : t ∉ s.targets) {row : TargetRow}
    (hs : w.san = s.addTarget t row) :
    Answered (rollbackTarget t true) w (fun _ w' => w'.san = s ∧ w'.cache = w.cache)
      fun _ _ => False := by
  have hmem : t ∈ w.san.targets := by
    rw [hs]
    exact (AList.mem_insert _).2 (.inl rfl)
  refine Ends.bind (Q := fun _ w' => w'.san = s ∧ w'.cache = w.cache)
    (.attempt (answered_call ?_ ?_)) fun _ _ h => .pure h
  · intro ch e w' _ hnone
    simp only [San.serve, if_pos hmem] at hnone
    cases hnone
  · intro ch v w' hk hsome
    simp only [San.serve, if_pos hmem] at hsome
    rw [← (Prod.mk.inj (Option.some.inj hsome)).2, hs, hlinked.dropTarget_addTarget ht]
    exact ⟨rfl, hk⟩

/-- What a successful CreateVolume returns and leaves, where `k` is the cache it looks the name
up in. -/
inductive Created (c : Controller) (req : CreateVolumeRequest) (s : San) (k : LunCache) :
    Volume → San → LunCache → Prop where
  | reused {vp : VolumeParams} {sizeGB : Int} {l lun : LUN} {t tgt : Target} {ch : SanChoice}
      (hl : k.lookupByName (sanitizeLUNName req.name) = some l)
      (ht : k.targetForLUN l.index = some t)
      (hlun : s.serve (.getLUN l.index) ch = some (lun, s)) (htgt : s.target t.index = some tgt) :
      Created c req s k (toVolume c none vp l.index t.index
        (t.aliasName = sanitizeLUNName req.name) sizeGB lun tgt) s (k.addLUN lun tgt)
  | made {vp : VolumeParams} {sizeGB i t cap : Int} {iqn : String}
      (hnone : k.lookupByName (sanitizeLUNName req.name) = none) (hi : i ∉ s.luns)
      (ht : t ∉ s.targets) :
      Created c req s k (toVolume c req.contentSource vp i t true sizeGB
          ⟨i, sanitizeLUNName req.name, cap⟩ ⟨t, iqn, sanitizeLUNName req.name, [i]⟩)
        (s.addVolume i t iqn ⟨sanitizeLUNName req.name, cap⟩)
        (k.addLUN ⟨i, sanitizeLUNName req.name, cap⟩ ⟨t, iqn, sanitizeLUNName req.name, [i]⟩)

theorem answered_provision {req : CreateVolumeRequest} (hlinked : w.san.Linked)
    (hnone : w.cache.lookupByName (sanitizeLUNName req.name) = none)
    (hvp : vp.targetIndex = none) :
    Answered (do
        let (targetIdx, ownTarget) ← resolveTarget c (sanitizeLUNName req.name) vp
        provisionOn c req vp (sanitizeLUNName req.name) sizeGB targetIdx ownTarget) w
      (fun v w' => Created c req w.san w.cache v w'.san w'.cache)
      fun _ w' => w'.san = w.san ∧ w'.cache = w.cache := by
  refine Ends.bind (Q := fun p w' => p.2 = true ∧ p.1 ∉ w.san.targets ∧ w'.cache = w.cache ∧
    ∃ iqn, w'.san = w.san.addTarget p.1 ⟨iqn, sanitizeLUNName req.name⟩) ?_ ?_
  · unfold resolveTarget
    rw [hvp]
    refine Ends.bind (Q := fun t w' => t ∉ w.san.targets ∧ w'.cache = w.cache ∧
      ∃ iqn, w'.san = w.san.addTarget t ⟨iqn, sanitizeLUNName req.name⟩)
      (.onError (answered_call ?_ ?_)) fun t w' h => .pure ⟨rfl, h⟩
    · exact fun ch e w' hlater _ => ⟨hlater.san, hlater.cache⟩
    · intro ch t w' hk hsome
      simp only [San.serve] at hsome
      split at hsome
      · cases hsome
      · next hnew =>
        obtain ⟨rfl, hs⟩ := Prod.mk.inj (Option.some.inj hsome)
        exact ⟨hnew, hk, ch.iqn, hs.symm⟩
  rintro ⟨t, own⟩ w1 ⟨rfl, ht, hk1, iqn, hs1⟩
  refine Ends.bind (Q := fun r w' => w'.cache = w.cache ∧
    Outcome (fun i w' => w1.san.Adds i (sanitizeLUNName req.name) t w'.san)
      (fun _ w' => w'.san = w1.san) r w') (.attempt (answered_provisionLUN.mono ?_ ?_)) ?_
  · exact fun i w' h => ⟨h.1.trans hk1, h.2⟩
  · exact fun e w' h => ⟨h.2.trans hk1, h.1⟩
  rintro (e | i) w2 ⟨hk2, h⟩
  · have hs2 : w2.san = w.san.addTarget t ⟨iqn, sanitizeLUNName req.name⟩ := Eq.trans h hs1
    refine Ends.bind ((answered_rollbackTarget hlinked ht hs2).weaken
      fun _ _ h => h.elim) ?_
    rintro _ w3 ⟨hs3, hk3⟩
    exact .throw ⟨hs3, hk3.trans hk2⟩
  · obtain ⟨hi, -, ⟨name, cap⟩, hname, hs2⟩ : w1.san.Adds i (sanitizeLUNName req.name) t w2.san := h
    obtain rfl : name = sanitizeLUNName req.name := hname
    rw [hs1] at hi hs2
    have hvol : w2.san = w.san.addVolume i t iqn ⟨sanitizeLUNName req.name, cap⟩ := hs2
    have hlun : w2.san.lun i = some ⟨i, sanitizeLUNName req.name, cap⟩ := by
      rw [hvol]
      exact San.lun_addLUN _ _ _ _
    have htgt : w2.san.target t = some ⟨t, iqn, sanitizeLUNName req.name, [i]⟩ := by
      rw [hvol]
      exact hlinked.target_addVolume ht i iqn _
    refine Ends.mono (ends_assembleVolume fun _ h => h) ?_ ?_
    · rintro v w3 ⟨hs3, lun, tgt, ch, -, hlun', htgt', hk3, rfl⟩
      obtain rfl := San.getLUN_eq hlun hlun'
      obtain rfl := Option.some.inj (htgt.symm.trans htgt')
      rw [hs3, hvol, hk3, hk2]
      exact .made hnone hi ht
    · rintro e w3 ⟨-, hmiss | hmiss⟩
      · rw [hlun] at hmiss
        cases hmiss
      · rw [htgt] at hmiss
        cases hmiss

theorem answered_existingFromCache {req : CreateVolumeRequest} :
    Answered (existingFromCache c (sanitizeLUNName req.name) (sizeGB * giB) vp) w
      (fun r w' => (r = none → w.Later w' ∧
          w.cache.lookupByName (sanitizeLUNName req.name) = none) ∧
        ∀ v, r = some v → Created c req w.san w.cache v w'.san w'.cache)
      fun _ w' => w.Later w' := by
  refine Ends.mono (ends_existingFromCache fun _ h => h) ?_ fun _ _ h => h.1
  rintro r w' ⟨hnone, hsome⟩
  refine ⟨hnone, fun v hv => ?_⟩
  obtain ⟨l, t, lun, tgt, ch, -, hl, -, ht, hlun, htgt, hs, hk, rfl⟩ := hsome v hv
  rw [hs, hk]
  exact .reused hl ht hlun htgt

/-- What CreateVolume does: it looks the name up in the cache, refreshed if need be, and reads the
volume there or makes a new one; if it fails, nothing has changed but the cache, by a refresh. -/
theorem answered_createVolume (req : CreateVolumeRequest) (hlinked : w.san.Linked) :
    Answered (createVolume c req) w
      (fun v w' => ∃ w1, w.Refreshed w1 ∧ Created c req w.san w1.cache v w'.san w'.cache)
      fun _ w' => w'.san = w.san ∧ (w' = w ∨ w.Refreshed w') := by
  unfold createVolume
  cases hvp : resolveParams c.cfg req.parameters req.volumeCapabilities with
  | error e => exact .throw ⟨rfl, .inl rfl⟩
  | ok vp =>
    rw [check_ok_bind]
    cases sizeGiBExact req.capacityRange with
    | error e => exact .throw ⟨rfl, .inl rfl⟩
    | ok sizeGB =>
      rw [check_ok_bind]
      unfold findExistingVolume
      rw [bind_assoc]
      refine Ends.bind (.onError ((ends_refresh fun _ h => h).weaken
        fun _ _ h => h.elim)) ?_
      intro _ w1 href
      have hkept : ∀ w', w'.san = w1.san → w'.cache = w1.cache →
          w'.san = w.san ∧ (w' = w ∨ w.Refreshed w') := by
        intro w' hs hk
        refine ⟨hs.trans href.san, .inr ⟨hs.trans href.san, fun name => ?_, fun i => ?_⟩⟩
        · rw [hk, href.lookupByName]
        · rw [hk, href.targetForLUN]
      refine Ends.bind (answered_existingFromCache.weaken fun _ w' h =>
        hkept w' h.san h.cache) ?_
      rintro (_ | v) w2 ⟨hmiss, hfound⟩
      · obtain ⟨hlater, hnone⟩ := hmiss rfl
        have hs2 : w2.san = w.san := hlater.san.trans href.san
        refine (answered_provision (hs2 ▸ hlinked) (hlater.cache ▸ hnone)
          (resolveParams_targetIndex hvp)).mono ?_ ?_
        · intro v w' h
          rw [hs2, hlater.cache] at h
          exact ⟨w1, href, h⟩
        · exact fun e w' h => hkept w' (h.1.trans hlater.san) (h.2.trans hlater.cache)
      · refine .pure ⟨w1, href, ?_⟩
        rw [← href.san]
        exact hfound v rfl

end

/-! ### DeleteVolume and ExpandVolume -/

variable {w' : World}

section

variable {w : World} {id : String} {eid : ExternalID}

/-- What DeleteVolume does: it may be refused, and it drops the LUN index from the cache anyway. -/
theorem answered_delete (hid : parseExternalID id = .ok eid) (hw : w.Honoured) :
    Answered (deleteVolume id) w
      (fun _ w' => Deleted eid w.san w'.san ∧
        ∃ pick, w'.cache = w.cache.removeLUN eid.lunIndex pick)
      fun _ w' => w.san.Refuses eid ∧ w'.san = w.san ∧
        ∃ pick, w'.cache = w.cache.removeLUN eid.lunIndex pick := by
  unfold deleteVolume
  rw [hid, check_ok_bind]
  refine Ends.bind (Q := fun r w' => w'.cache = w.cache ∧
    Outcome (fun _ w' => Deleted eid w.san w'.san)
      (fun _ w' => w.san.Refuses eid ∧ w'.san = w.san) r w')
    (.attempt (answered_smDo_honoured hw fun s w1 hlater hs => (live_deleteUnder hs).mono ?_ ?_)) ?_
  · rintro _ w2 ⟨hdel, hunder⟩
    rw [hlater.san] at hdel
    exact ⟨hunder.cache.trans hlater.cache, hdel⟩
  · rintro e w2 ⟨hauth, hrefuses, hs2, hunder⟩
    rw [hlater.san] at hrefuses hs2
    exact ⟨hauth, hunder.cache.trans hlater.cache, hrefuses, hs2⟩
  rintro r w1 ⟨hk1, hr⟩
  refine Ends.bind (Q := fun _ w' => w'.san = w1.san ∧
    ∃ pick, w'.cache = w.cache.removeLUN eid.lunIndex pick)
    (.perform fun ch => ⟨trivial, rfl, ch.1.pick, ?_⟩) ?_
  · exact congrArg (LunCache.removeLUN · eid.lunIndex ch.1.pick) hk1
  rintro _ w2 ⟨hs2, hk2⟩
  cases r with
  | ok a =>
    have hdel : Deleted eid w.san w1.san := hr
    exact .pure ⟨hs2 ▸ hdel, hk2⟩
  | error e =>
    obtain ⟨hrefuses, hs1⟩ : w.san.Refuses eid ∧ w1.san = w.san := hr
    exact .throw ⟨hrefuses, hs2.trans hs1, hk2⟩

theorem reaches_delete_malformed {e : Error} {r : Except Err Unit}
    (hid : parseExternalID id = .error e) (hrun : Reaches answering (deleteVolume id) w r w') :
    w' = w := by
  unfold deleteVolume at hrun
  rw [hid] at hrun
  exact (reaches_decided.1 hrun).2

theorem answered_expandVolume (cr : CapacityRange) :
    Answered (expandVolume id cr) w
      (fun _ w' => w'.cache = w.cache ∧ ∃ eid gb row, parseExternalID id = .ok eid ∧
        sizeGiBExact cr = .ok gb ∧ w.san.luns.lookup eid.lunIndex = some row ∧
        (eid.lunName = "" ∨ row.name = eid.lunName) ∧
        w'.san = w.san.resize eid.lunIndex row gb)
      fun _ w' => w'.san = w.san ∧ w'.cache = w.cache ∧ ∀ eid gb row,
        parseExternalID id = .ok eid → sizeGiBExact cr = .ok gb →
        w.san.luns.lookup eid.lunIndex = some row → eid.lunName ≠ "" ∧ row.name ≠ eid.lunName := by
  unfold expandVolume
  cases parseExternalID id with
  | error e => exact .throw ⟨rfl, rfl, by simp⟩
  | ok eid =>
    rw [check_ok_bind]
    cases sizeGiBExact cr with
    | error e => exact .throw ⟨rfl, rfl, by simp⟩
    | ok gb =>
      rw [check_ok_bind]
      -- the LUN that is resized passed the check of its name
      refine Ends.bind (Q := fun _ w' => w'.san = w.san ∧ w'.cache = w.cache ∧ ∀ row,
        w.san.luns.lookup eid.lunIndex = some row → eid.lunName = "" ∨ row.name = eid.lunName) ?_ ?_
      · unfold ensureLUNIsOurs
        split
        · next hname => exact .pure ⟨rfl, rfl, fun _ _ => .inl hname⟩
        next hid =>
        -- the name that is read is that of the LUN, if there is one
        refine Ends.bind (Q := fun r w' => w'.san = w.san ∧ w'.cache = w.cache ∧ ∀ row,
          w.san.luns.lookup eid.lunIndex = some row → ∃ lun, r = .ok lun ∧ lun.name = row.name)
          (.attempt (answered_call ?_ ?_)) ?_
        · intro ch e w' hlater hnone
          refine ⟨hlater.san, hlater.cache, fun row hrow => ?_⟩
          simp [San.serve, San.lun, hrow] at hnone
        · intro ch lun w' hk hread
          refine ⟨(San.serve_getLUN hread).1, hk, fun row hrow => ⟨lun, rfl, ?_⟩⟩
          exact San.Carries.getLUN (by rw [San.Carries, hrow]; rfl) hread
        rintro (e | lun) w1 ⟨hs1, hk1, hlun⟩
        · refine .throw ⟨hs1, hk1, ?_⟩
          rintro _ _ row ⟨⟩ - hrow
          obtain ⟨_, he, -⟩ := hlun row hrow
          cases he
        · dsimp only
          split
          · next hname =>
            refine .throw ⟨hs1, hk1, ?_⟩
            rintro _ _ row ⟨⟩ - hrow
            obtain ⟨_, ⟨⟩, heq⟩ := hlun row hrow
            exact ⟨hid, heq ▸ hname⟩
          · next hname =>
            refine .pure ⟨hs1, hk1, fun row hrow => .inr ?_⟩
            obtain ⟨_, ⟨⟩, heq⟩ := hlun row hrow
            exact heq ▸ not_not.1 hname
      rintro _ w1 ⟨hs1, hk1, hname⟩
      refine Ends.bind (Q := fun _ w' => w'.cache = w.cache ∧ ∃ row,
        w.san.luns.lookup eid.lunIndex = some row ∧ w'.san = w.san.resize eid.lunIndex row gb)
        (.onError (ends_smDo_bind (fun _ h => h) fun s w2 hlater2 hs => ?_)) ?_
      · have hs2 : w2.san = w.san := hlater2.san.trans hs1
        have hk2 : w2.cache = w.cache := hlater2.cache.trans hk1
        refine (live_resize hs).mono ?_ ?_
        · rintro _ w3 ⟨hunder, row, hrow, hs3⟩
          rw [hs2] at hrow hs3
          exact ⟨hunder.cache.trans hk2, row, hrow, hs3⟩
        · rintro e w3 ⟨hauth, hnone, hs3, hunder⟩
          refine ⟨hauth, hs3.trans hs2, hunder.cache.trans hk2, ?_⟩
          rintro _ _ row ⟨⟩ - hrow
          rw [hs2, hrow] at hnone
          cases hnone
      · rintro _ w2 ⟨hk, row, hrow, hs2⟩
        exact .pure ⟨hk, eid, gb, row, rfl, rfl, hrow, hname row hrow, hs2⟩

end

/-! ### Listing -/

section

variable {w : World}

/-- The listing of the LUNs that the cache maps to a target. -/
def LunCache.listing (k : LunCache) (luns : List LUN) : List (String × Int) :=
  luns.filterMap fun lun => (k.targetForLUN lun.index).map fun t => (listedID lun t, lun.capacityBytes)

theorem answered_listMapped (luns : List LUN) :
    Answered (listMapped luns) w (fun r w' => w.Later w' ∧ r = w.cache.listing luns)
      fun _ _ => False := by
  induction luns generalizing w with
  | nil => exact .pure ⟨.refl w, rfl⟩
  | cons lun luns ih =>
    refine Ends.bind (ends_cacheRead fun _ => rfl) ?_
    rintro (_ | t) w1 ⟨_, ht, hlater⟩
    · have ht : w.cache.targetForLUN lun.index = none := ht.symm
      refine ih.mono ?_ fun _ _ h => h
      rintro r w2 ⟨hlater2, rfl⟩
      refine ⟨hlater.trans hlater2, ?_⟩
      rw [LunCache.listing, LunCache.listing, List.filterMap_cons, ht, hlater.cache]
      rfl
    · have ht : w.cache.targetForLUN lun.index = some t := ht.symm
      refine Ends.bind ih ?_
      rintro r w2 ⟨hlater2, rfl⟩
      refine .pure ⟨hlater.trans hlater2, ?_⟩
      rw [LunCache.listing, LunCache.listing, List.filterMap_cons, ht, hlater.cache]
      rfl

theorem answered_listVolumes :
    Answered listVolumes w
      (fun r w' => w.Refreshed w' ∧ r = w'.cache.listing w'.cache.all) fun _ _ => False := by
  refine Ends.bind (.onError (ends_refresh fun _ h => h)) ?_
  intro _ w1 href
  refine Ends.bind (ends_cacheRead fun _ => rfl) ?_
  rintro _ w2 ⟨_, rfl, hlater⟩
  refine (answered_listMapped _).mono ?_ fun _ _ h => h
  rintro r w3 ⟨hlater3, rfl⟩
  have hk := (hlater.trans hlater3).cache
  refine ⟨⟨(hlater.trans hlater3).san.trans href.san, fun name => ?_, fun i => ?_⟩, ?_⟩
  · rw [hk, href.lookupByName]
  · rw [hk, href.targetForLUN]
  · rw [hk, hlater.cache]
    rfl

def snapshotInfos (c : Controller) (s : San) (i : Int) (src : String) : List Snapshot :=
  (s.snapsOf i).map fun sn => ⟨SnapshotID.toString ⟨i, sn.id⟩, src, sn.sizeBytes,
    c.parseANSIC sn.createdAt, sn.ready⟩

theorem answered_snapshotsForLUN (c : Controller) (i : Int) (src : String) :
    Answered (snapshotsForLUN c i src) w (fun r w' => r = snapshotInfos c w.san i src ∧
      w'.san = w.san ∧ w'.cache = w.cache) fun _ _ => False := by
  refine Ends.bind (Q := fun snaps w' => snaps = w.san.snapsOf i ∧ w'.san = w.san ∧
    w'.cache = w.cache) (.onError (answered_call ?_ ?_)) ?_
  · intro ch e w' _ hnone
    cases hnone
  · intro ch v w' hk hsome
    obtain ⟨rfl, hs⟩ := Prod.mk.inj (Option.some.inj hsome)
    exact ⟨rfl, hs.symm, hk⟩
  · rintro _ w' ⟨rfl, hs, hk⟩
    exact .pure ⟨rfl, hs, hk⟩

/-- The snapshots of the LUNs that the cache maps to a target. -/
def LunCache.snapshots (c : Controller) (s : San) (k : LunCache) (luns : List LUN) : List Snapshot :=
  luns.flatMap fun lun => ((k.targetForLUN lun.index).map fun t =>
    snapshotInfos c s lun.index (listedID lun t)).getD []

theorem answered_snapshotsOfMapped (c : Controller) (luns : List LUN) :
    Answered (snapshotsOfMapped c luns) w (fun r w' => r = w.cache.snapshots c w.san luns ∧
      w'.san = w.san ∧ w'.cache = w.cache) fun _ _ => False := by
  induction luns generalizing w with
  | nil => exact .pure ⟨rfl, rfl, rfl⟩
  | cons lun luns ih =>
    refine Ends.bind (ends_cacheRead fun _ => rfl) ?_
    rintro (_ | t) w1 ⟨_, ht, hlater⟩
    · have ht : w.cache.targetForLUN lun.index = none := ht.symm
      refine ih.mono ?_ fun _ _ h => h
      rintro _ w2 ⟨rfl, hs, hk⟩
      refine ⟨?_, hs.trans hlater.san, hk.trans hlater.cache⟩
      rw [LunCache.snapshots, LunCache.snapshots, List.flatMap_cons, ht, hlater.san, hlater.cache]
      rfl
    · have ht : w.cache.targetForLUN lun.index = some t := ht.symm
      refine Ends.bind (answered_snapshotsForLUN c _ _) ?_
      rintro _ w2 ⟨rfl, hs2, hk2⟩
      refine Ends.bind ih ?_
      rintro _ w3 ⟨rfl, hs3, hk3⟩
      refine .pure ⟨?_, hs3.trans (hs2.trans hlater.san), hk3.trans (hk2.trans hlater.cache)⟩
      rw [LunCache.snapshots, LunCache.snapshots, List.flatMap_cons, ht, hs2, hk2, hlater.san,
        hlater.cache]
      rfl

theorem answered_listSnapshots (c : Controller) :
    Answered (listSnapshots c "") w (fun r w' => w.Refreshed w' ∧
      r = w'.cache.snapshots c w'.san w'.cache.all) fun _ _ => False := by
  refine Ends.bind (.onError (ends_refresh fun _ h => h)) ?_
  intro _ w1 href
  refine Ends.bind (ends_cacheRead fun _ => rfl) ?_
  rintro _ w2 ⟨_, rfl, hlater⟩
  refine (answered_snapshotsOfMapped c _).mono ?_ fun _ _ h => h
  rintro _ w3 ⟨rfl, hs, hk⟩
  refine ⟨⟨hs.trans (hlater.san.trans href.san), fun name => ?_, fun i => ?_⟩, ?_⟩
  · rw [hk, hlater.cache, href.lookupByName]
  · rw [hk, hlater.cache, href.targetForLUN]
  · rw [hs, hk, hlater.cache]
    rfl

end

/-! ### Operations that leave the volumes alone -/

/-- The call changes no LUN, target or mapping, and it does not write the cache. -/
def Call.passive : Call → Bool
  | .san _ (.createSnapshot _ _) | .san _ (.deleteSnapshot _) => true
  | .san _ c => c.reads
  | .cacheInstall _ _ | .cacheAdd _ _ | .cacheRemove _ => false
  | _ => true

abbrev Passive {α : Type} (x : Op α) : Prop := x.run.Calls fun c => c.passive = true

section

variable {w : World}

theorem act_cache {c : Call} (ch : Choice) (hc : c.passive = true) :
    (act w c ch).2.cache = w.cache := by
  refine act_cache_eq ch ?_
  cases c with
  | cacheInstall | cacheAdd | cacheRemove => cases hc
  | get | reset | san | cacheFresh | cacheLookup | cacheTarget | cacheAll => rfl

theorem act_storage {c : Call} (ch : Choice) (hc : c.passive = true) :
    SameStorage w.san (act w c ch).2.san := by
  rcases act_cases w c ch with ⟨hs, -⟩ | ⟨sess, k, v, rfl, -, hserve⟩
  · rw [hs]
    exact ⟨rfl, rfl, rfl⟩
  · have he := San.serve_effect hserve
    generalize (act w (.san sess k) ch).2.san = s' at he
    cases he with
    | read | addSnap | dropSnap => exact ⟨rfl, rfl, rfl⟩
    | addBlock | addClone | addRestore | dropLUN | unmap | resize | addTarget | dropTarget => cases hc

theorem answered_passive {α : Type} {x : Op α} (hx : Passive x) :
    Answered x w (fun _ w' => SameStorage w.san w'.san ∧ w'.cache = w.cache)
      fun _ w' => SameStorage w.san w'.san ∧ w'.cache = w.cache := by
  refine wp_iff.2 fun tr r w' hrun => ⟨fun _ _ => trivial, ?_⟩
  have hkept : SameStorage w.san w'.san ∧ w'.cache = w.cache := by
    refine (hrun.invariant (I := fun v => SameStorage w.san v.san ∧ v.cache = w.cache) ?_ hx
      ⟨⟨rfl, rfl, rfl⟩, rfl⟩).2
    rintro v c ⟨ch, hch⟩ hc ⟨⟨hluns, htargets, hmaps⟩, hk⟩
    obtain ⟨hluns', htargets', hmaps'⟩ := act_storage (w := v) ch hc
    exact ⟨⟨hluns'.trans hluns, htargets'.trans htargets, hmaps'.trans hmaps⟩,
      (act_cache ch hc).trans hk⟩
  cases r with
  | ok | error => exact hkept

theorem passive_smDo {α : Type} {fn : Int → Op α} (hfn : ∀ s, Passive (fn s)) : Passive (smDo fn) :=
  calls_smDo rfl rfl hfn

theorem passive_createSnapshot (c : Controller) (req : CreateSnapshotRequest) :
    Passive (createSnapshot c req) :=
  calls_createSnapshot (K := fun c => c.passive = true) rfl rfl c req (fun _ _ => rfl) fun _ _ _ => rfl

theorem passive_deleteSnapshot (id : String) : Passive (deleteSnapshot id) :=
  calls_deleteSnapshot (K := fun c => c.passive = true) rfl rfl id (fun _ _ => rfl) fun _ _ _ => rfl

theorem passive_volumeExists (id : String) : Passive (volumeExists id) := by
  refine calls_run_bind (calls_check _) fun eid =>
    calls_run_bind (calls_attempt (passive_smDo fun _ => calls_san rfl)) fun r => ?_
  cases r with
  | error e =>
    dsimp only
    split
    · trivial
    · trivial
  | ok lun =>
    dsimp only
    split
    · trivial
    · split
      · trivial
      · trivial

theorem passive_getCapacity (c : Controller) (params : StrMap) : Passive (getCapacity c params) := by
  refine calls_run_bind (calls_check _) fun pool => ?_
  split
  · trivial
  · exact calls_onError (passive_smDo fun _ => calls_san rfl)

theorem passive_snapshotsForLUN (c : Controller) (i : Int) (src : String) :
    Passive (snapshotsForLUN c i src) :=
  calls_run_bind (calls_onError (passive_smDo fun _ => calls_san rfl)) fun _ => trivial

theorem passive_snapshotsOfMapped (c : Controller) (luns : List LUN) :
    Passive (snapshotsOfMapped c luns) := by
  induction luns with
  | nil => trivial
  | cons lun luns ih =>
    refine calls_run_bind (calls_perform rfl) fun t => ?_
    cases t with
    | none => exact ih
    | some t =>
      exact calls_run_bind (passive_snapshotsForLUN c _ _) fun _ => calls_run_bind ih fun _ => trivial

theorem passive_resolveWith (k : SanIdentityCache) (now later : Int)
    (find : SanIdentityCache → Option String) :
    Passive (do return (← resolveWith k now later find).1) := by
  refine calls_run_bind ?_ fun _ => trivial
  unfold resolveWith
  split
  · trivial
  · refine calls_run_bind (calls_attempt ?_) fun r => ?_
    · refine calls_run_bind ⟨rfl, fun _ => trivial⟩ fun sess => ?_
      exact calls_run_bind (calls_san rfl) fun _ => calls_run_bind (calls_san rfl) fun _ => trivial
    · cases r with
      | error | ok => trivial

end

/-- The operation may change a LUN, a target or a mapping. -/
def SessionOp.changes : SessionOp → Bool
  | createVolume _ _ | deleteVolume _ | expandVolume _ _ => true
  | _ => false

/-- The same volumes, and the same cache unless it was refreshed. -/
def World.Kept (w w' : World) : Prop :=
  SameStorage w.san w'.san ∧ (w'.cache = w.cache ∨ ∃ w1, w.Refreshed w1 ∧ w'.cache = w1.cache)

theorem answered_unchanged (o : SessionOp) (ho : o.changes = false) (w : World) :
    Answered o.op w (fun _ w' => w.Kept w') fun _ w' => w.Kept w' := by
  have hpassive : ∀ {α : Type} {x : Op α}, Passive x →
      Answered x w (fun _ w' => w.Kept w') fun _ w' => w.Kept w' := fun hx =>
    (answered_passive hx).mono (fun _ _ h => ⟨h.1, .inl h.2⟩) fun _ _ h => ⟨h.1, .inl h.2⟩
  cases o with
  | createVolume | deleteVolume | expandVolume => cases ho
  | createSnapshot c req => exact hpassive (passive_createSnapshot c req)
  | deleteSnapshot id => exact hpassive (passive_deleteSnapshot id)
  | volumeExists id => exact hpassive (passive_volumeExists id)
  | getCapacity c params => exact hpassive (passive_getCapacity c params)
  | resolveIQN k now later | resolveExternalID k now later =>
    exact hpassive (passive_resolveWith k now later _)
  | listVolumes =>
    refine answered_listVolumes.mono ?_ fun _ _ h => h.elim
    rintro _ w' ⟨href, -⟩
    refine ⟨?_, .inr ⟨w', href, rfl⟩⟩
    rw [href.san]
    exact ⟨rfl, rfl, rfl⟩
  | listSnapshots c src =>
    change Answered (listSnapshots c src) w _ _
    unfold listSnapshots
    split
    · exact hpassive (calls_run_bind (calls_check _) fun eid => passive_snapshotsForLUN c _ _)
    · refine Ends.bind (.onError ((ends_refresh fun _ h => h).weaken
        fun _ _ h => h.elim)) ?_
      intro _ w1 href
      have hkept : ∀ w', SameStorage w1.san w'.san ∧ w'.cache = w1.cache → w.Kept w' := by
        rintro w' ⟨hs, hk⟩
        rw [href.san] at hs
        exact ⟨hs, .inr ⟨w1, href, hk⟩⟩
      have hrest : Passive (perform Call.cacheAll >>= snapshotsOfMapped c) :=
        calls_run_bind (calls_perform rfl) (passive_snapshotsOfMapped c)
      refine (answered_passive hrest).mono ?_ ?_
      · exact fun _ w' h => hkept w' h
      · exact fun _ w' h => hkept w' h

/-! ### Runs -/

/-- A condition on an operation: the world that it meets and what it returns. -/
abbrev OpCondition := World → (o : SessionOp) → Except Err o.Result → Prop

/-- Operations of the only controller, one after the other, each with `Ok`. The appliance answers,
and time passes. -/
inductive Sequence (Ok : OpCondition) (w : World) : World → Prop where
  | start : Sequence Ok w w
  | idle {w' : World} (n : Nat) (h : Sequence Ok w w') :
      Sequence Ok w { w' with now := w'.now + n }
  | serve {w' w'' : World} {o : SessionOp} {r : Except Err o.Result} (h : Sequence Ok w w')
      (hok : Ok w' o r) (hrun : Reaches answering o.op w' r w'') : Sequence Ok w w''

variable {w : World}

theorem reaches_answering {α : Type} {x : Op α} {r : Except Err α} (h : Reaches answering x w r w')
    (hw : w.Honoured) : w'.Honoured ∧ w.now ≤ w'.now := by
  obtain ⟨tr, hrun⟩ := h
  refine (hrun.invariant (I := fun v => v.Honoured ∧ w.now ≤ v.now) ?_ (Prog.calls_true _)
    ⟨hw, Int.le_refl _⟩).2
  rintro v c ⟨ch, hch⟩ - ⟨hv, hnow⟩
  cases c with
  | get =>
    cases hsess : v.sess with
    | some s =>
      have hact : answering v .get ⟨ch, hch⟩ = (.ok s, { v with now := v.now + ch.tick }) := by
        simp only [restrict, act, answer, getAct, hsess]
      rw [hact]
      refine ⟨hv, ?_⟩
      dsimp only
      omega
    | none =>
      have hact : answering v .get ⟨ch, hch⟩ = (.ok ch.san.index, { v with
          sess := some ch.san.index
          accepted := ch.san.index :: v.accepted
          now := v.now + ch.tick }) := by
        simp [restrict, act, answer, getAct, hsess, hch.fail]
      rw [hact]
      refine ⟨?_, ?_⟩
      · rintro _ ⟨⟩
        exact .head _
      · dsimp only
        omega
  | san sess k =>
    have hsame : (sanAct v sess k ch).2.sess = v.sess ∧
        (sanAct v sess k ch).2.accepted = v.accepted ∧ (sanAct v sess k ch).2.now = v.now := by
      rcases sanAct_cases v sess k ch with ⟨e, hr, -⟩ | ⟨_, s', -, -, r, hr, -⟩
      · rw [hr, afterExpiry_of_answers hch]
        exact ⟨rfl, rfl, rfl⟩
      · rw [hr, afterExpiry_of_answers hch]
        exact ⟨rfl, rfl, rfl⟩
    obtain ⟨hsess, hacc, hnow'⟩ := hsame
    rw [answering, restrict, act_san]
    refine ⟨fun s hs => ?_, ?_⟩
    · dsimp only at hs ⊢
      rw [hacc]
      exact hv s (hsess ▸ hs)
    · dsimp only
      omega
  | reset =>
    refine ⟨?_, ?_⟩
    · rintro s ⟨⟩
    · change w.now ≤ v.now + ch.tick
      omega
  | cacheFresh | cacheInstall | cacheLookup | cacheTarget | cacheAll | cacheAdd | cacheRemove =>
    refine ⟨hv, ?_⟩
    change w.now ≤ v.now + ch.tick
    omega

variable {Ok : OpCondition}

/-- What every operation of a run keeps, and time does not harm, the run keeps. -/
theorem Sequence.invariant {I : World → Prop}
    (hidle : ∀ (w : World) (n : Nat), I w → I { w with now := w.now + n }) (hserve : ∀ (w : World)
      (o : SessionOp) (r : Except Err o.Result) (w' : World), Ok w o r → w.Honoured → I w → w.now ≤
      w'.now → Reaches answering o.op w r w' → I w') (h : Sequence Ok w w') (hw : w.Honoured)
    (hI : I w) : w'.Honoured ∧ I w' := by
  induction h with
  | start => exact ⟨hw, hI⟩
  | idle n h ih => exact ⟨ih.1, hidle _ n ih.2⟩
  | serve h hok hrun ih =>
    obtain ⟨hw', hnow⟩ := reaches_answering hrun ih.1
    exact ⟨hw', hserve _ _ _ _ hok ih.1 ih.2 hnow hrun⟩

theorem Sequence.honoured (h : Sequence Ok w w') (hw : w.Honoured) : w'.Honoured :=
  (h.invariant (I := fun _ => True) (fun _ _ h => h) (fun _ _ _ _ _ _ _ _ _ => trivial) hw
    trivial).1

def World.after (w : World) (o : SessionOp) (chs : List (Subtype Choice.Answers)) : World :=
  ((exec answering o.op.run w chs).map (·.2.2)).getD w

theorem reaches_after (o : SessionOp) (chs : List (Subtype Choice.Answers))
    (P : Except Err o.Result → Prop) [DecidablePred P]
    (hP : ((exec answering o.op.run w chs).any fun y => decide (P y.2.1)) = true) :
    ∃ r, P r ∧ Reaches answering o.op w r (w.after o chs) := by
  unfold World.after
  cases he : exec answering o.op.run w chs with
  | none => simp [he] at hP
  | some y =>
    rw [he] at hP
    exact ⟨_, of_decide_eq_true hP, _, exec_runs answering _ _ _ he⟩

theorem Sequence.after (h : Sequence Ok w w') (o : SessionOp) (chs : List (Subtype Choice.Answers))
    (P : Except Err o.Result → Prop) [DecidablePred P]
    (hP : ((exec answering o.op.run w' chs).any fun y => decide (P y.2.1)) = true)
    (hok : ∀ r, P r → Ok w' o r) : Sequence Ok w (w'.after o chs) := by
  obtain ⟨r, hr, hrun⟩ := reaches_after o chs P hP
  exact .serve h (hok r hr) hrun

/-- As many choices as needed, all of them the default. -/
def plainly : List (Subtype Choice.Answers) := List.replicate 20 ⟨{}, answers_default⟩

end NomadCsi.Qnap
