import NomadCsi.Qnap.Sequence

/-!
# CreateVolume sent twice

Where the appliance answers, a CreateVolume that does not find its name puts one new LUN on
one new target (`answered_makes`). So what the second call must find is told by the states
before the two calls and the request: `createVolume_repeat_iff`.
-/

namespace NomadCsi.Qnap

open Lib Lib.Go Driver

/-- One LUN and one target are new in `s'`, and `v` is their volume. -/
def San.Makes (s s' : San) (v : Volume) : Prop :=
  ∃ i t name, i ∉ s.luns ∧ t ∉ s.targets ∧ (∀ j, j ∈ s'.luns ↔ j = i ∨ j ∈ s.luns) ∧
    (∀ u, u ∈ s'.targets ↔ u = t ∨ u ∈ s.targets) ∧
    v.volumeID = ExternalID.toString ⟨i, t, true, name⟩

/-- When the request is repeated in `w`, the index leads from the name to a LUN of about the
requested size, which is there, and to a target: to those that the index led to in `w0`, before
the first call, or, if the name was not known then, to ones that are new since. -/
def FindsAgain (w0 w : World) (req : CreateVolumeRequest) : Prop :=
  ∃ l t, w.index.lookupByName (sanitizeLUNName req.name) = some l ∧
    absDiff l.capacityBytes (wantBytes req) < giB ∧ w.index.targetForLUN l.index = some t ∧
    l.index ∈ w.san.luns ∧
    ((∃ l0 t0, w0.index.lookupByName (sanitizeLUNName req.name) = some l0 ∧
        w0.index.targetForLUN l0.index = some t0 ∧ l0.index = l.index ∧ t0.index = t.index ∧
        (t0.aliasName = sanitizeLUNName req.name ↔ t.aliasName = sanitizeLUNName req.name)) ∨
      ¬ Known w0 req.name ∧ l.index ∉ w0.san.luns ∧ t.index ∈ w.san.targets ∧
        t.index ∉ w0.san.targets ∧ t.aliasName = sanitizeLUNName req.name)

section

variable {c : Controller} {w : World}

/-- Provisioning on a new target. -/
theorem answered_provision_makes {req : CreateVolumeRequest} {vp : VolumeParams} {sizeGB : Int}
    (hvp : vp.targetIndex = none) :
    Yields answering (do
        let (targetIdx, ownTarget) ← resolveTarget c (sanitizeLUNName req.name) vp
        provisionOn c req vp (sanitizeLUNName req.name) sizeGB targetIdx ownTarget) w
      fun v w' => w.san.Makes w'.san v := by
  refine Ends.bind (Q := fun p w' => p.2 = true ∧ p.1 ∉ w.san.targets ∧
    ∃ row, w'.san = w.san.addTarget p.1 row) ?_ ?_
  · unfold resolveTarget
    rw [hvp]
    refine Ends.bind (Q := fun t w' => t ∉ w.san.targets ∧ ∃ row, w'.san = w.san.addTarget t row)
      (.onError (answered_call (fun _ _ _ _ _ => trivial) ?_)) fun t w' h => .pure ⟨rfl, h⟩
    intro ch t w' _ hsome
    have heffect := San.serve_effect hsome
    generalize w'.san = s' at heffect
    cases heffect with
    | read _ hr => cases hr
    | addTarget _ iqn hnew => exact ⟨hnew, _, rfl⟩
  rintro ⟨t, own⟩ w1 ⟨rfl, ht, row, hs1⟩
  refine Ends.bind (Q := fun r w' => Outcome
    (fun i (w' : World) => w1.san.Adds i (sanitizeLUNName req.name) t w'.san) (fun _ _ => True) r w')
    (.attempt (answered_provisionLUN.mono (fun _ _ h => h.2) fun _ _ _ => trivial)) ?_
  rintro (e | i) w2 h
  · exact Ends.bind (yields_true _ _) fun _ _ _ => .throw trivial
  · obtain ⟨hi, -, lunRow, -, hs2⟩ : w1.san.Adds i (sanitizeLUNName req.name) t w2.san := h
    refine Ends.mono (ends_assembleVolume fun _ h => h) ?_ fun _ _ _ => trivial
    rintro v w3 ⟨hs3, lun, tgt, ch, -, -, -, -, rfl⟩
    rw [hs1] at hi hs2
    rw [hs3, hs2]
    exact ⟨i, t, lun.name, hi, ht, fun j => AList.mem_insert _, fun u => AList.mem_insert _, rfl⟩

/-- A name that the index does not know is provisioned. -/
theorem answered_makes (req : CreateVolumeRequest) :
    Answered (createVolume c req) w (fun v w' => ¬ Known w req.name → w.san.Makes w'.san v)
      fun _ _ => True := by
  unfold createVolume
  cases hvp : resolveParams c.cfg req.parameters req.volumeCapabilities with
  | error e => exact .throw trivial
  | ok vp =>
    rw [check_ok_bind]
    cases sizeGiBExact req.capacityRange with
    | error e => exact .throw trivial
    | ok sizeGB =>
      rw [check_ok_bind]
      unfold findExistingVolume
      rw [bind_assoc]
      refine Ends.bind (.onError ((ends_refresh fun _ h => h).weaken
        fun _ _ h => h.elim)) ?_
      intro _ w1 href
      refine Ends.bind ((ends_existingFromCache fun _ h => h).weaken
        fun _ _ _ => trivial) ?_
      rintro (_ | v) w2 ⟨hmiss, hfound⟩
      · refine (answered_provision_makes (resolveParams_targetIndex hvp)).mono ?_ fun _ _ h => h
        intro v w' h _
        rwa [(hmiss rfl).1.san, href.san] at h
      · obtain ⟨l, -, -, -, -, -, hl, -⟩ := hfound v rfl
        refine .pure fun hunknown => absurd ?_ hunknown
        rw [Known, ← href.lookupByName, hl]
        rfl

end

variable {c : Controller} {req : CreateVolumeRequest} {w0 w1 w1' w2 : World} {tr1 tr2 : List Ev}
  {v : Volume}

theorem San.mem_luns_iff {s : San} {i : Int} : i ∈ s.luns ↔ ∃ lun, s.lun i = some lun := by
  rw [← Option.isSome_iff_exists, San.lun, Option.isSome_map, AList.lookup_isSome]

/-- The first answer was read at what the index knew. -/
theorem leads_iff_of_reused {s : San} {l0 lun0 : LUN} {t0 : Target} {ch : SanChoice}
    (hl0 : w0.index.lookupByName (sanitizeLUNName req.name) = some l0)
    (ht0 : w0.index.targetForLUN l0.index = some t0)
    (hlun0 : w1'.san.serve (.getLUN l0.index) ch = some (lun0, s))
    (hid : v.volumeID = ExternalID.toString ⟨l0.index, t0.index,
      t0.aliasName = sanitizeLUNName req.name, lun0.name⟩) : Leads w1' req v ↔ FindsAgain w0 w1' req := by
  constructor
  · rintro ⟨l, t, lun, hl, hcap, ht, hlun, hid'⟩
    obtain ⟨hi, hti, hown, -⟩ := ExternalID.mk.inj (ExternalID.toString_inj (hid.symm.trans hid'))
    exact ⟨l, t, hl, hcap, ht, San.mem_luns_iff.2 ⟨lun, hlun⟩,
      .inl ⟨l0, t0, hl0, ht0, hi, hti, decide_eq_decide.1 hown⟩⟩
  · rintro ⟨l, t, hl, hcap, ht, hthere, ⟨l0', t0', hl0', ht0', hi, hti, hown⟩ | ⟨hunknown, -⟩⟩
    · obtain rfl := Option.some.inj (hl0.symm.trans hl0')
      obtain rfl := Option.some.inj (ht0.symm.trans ht0')
      obtain ⟨lun, hlun⟩ := San.mem_luns_iff.1 hthere
      obtain rfl : lun = lun0 := San.getLUN_eq (by rw [hi]; exact hlun) hlun0
      refine ⟨l, t, lun, hl, hcap, ht, hlun, ?_⟩
      rw [hid, hi, hti, decide_eq_decide.2 hown]
    · refine absurd ?_ hunknown
      rw [Known, hl0]
      rfl

/-- The first call made the LUN and the target of its answer. -/
theorem leads_iff_of_makes {s : San} {i t0 : Int} {lun0 : LUN} {ch : SanChoice}
    (hunknown : w0.index.lookupByName (sanitizeLUNName req.name) = none)
    (hmakes : w0.san.Makes w1'.san v)
    (hlun0 : w1'.san.serve (.getLUN i) ch = some (lun0, s))
    (hid : v.volumeID = ExternalID.toString ⟨i, t0, true, lun0.name⟩) :
    Leads w1' req v ↔ FindsAgain w0 w1' req := by
  obtain ⟨i', t0', name, hi, ht0, hluns, htargets, hid1⟩ := hmakes
  obtain ⟨rfl, rfl, -, rfl⟩ := ExternalID.mk.inj (ExternalID.toString_inj (hid1.symm.trans hid))
  constructor
  · rintro ⟨l, t, lun, hl, hcap, ht, hlun, hid'⟩
    obtain ⟨rfl, rfl, hown, -⟩ := ExternalID.mk.inj (ExternalID.toString_inj (hid.symm.trans hid'))
    refine ⟨l, t, hl, hcap, ht, San.mem_luns_iff.2 ⟨lun, hlun⟩, .inr ⟨?_, hi,
      (htargets _).2 (.inl rfl), ht0, of_decide_eq_true hown.symm⟩⟩
    rw [Known, hunknown]
    exact Bool.false_ne_true
  · rintro ⟨l, t, hl, hcap, ht, hthere, ⟨l0, -, hl0, -⟩ | ⟨-, hli, htin, htnew, hown⟩⟩
    · rw [hunknown] at hl0
      cases hl0
    · obtain rfl := ((hluns _).1 hthere).resolve_right hli
      obtain rfl := ((htargets _).1 htin).resolve_right htnew
      obtain ⟨lun, hlun⟩ := San.mem_luns_iff.1 hthere
      obtain rfl := San.getLUN_eq hlun hlun0
      refine ⟨l, t, lun, hl, hcap, ht, hlun, ?_⟩
      rw [hid, decide_eq_true hown]

theorem leads_iff_finds (h1 : Runs act (createVolume c req).run w0 tr1 (.ok v) w1)
    (hans : ∀ e ∈ tr1, e.choice.Answers) (hlater : w1.Later w1') :
    Leads w1' req v ↔ FindsAgain w0 w1' req := by
  obtain ⟨vp, sizeGB, -, -, hfrom⟩ := yields_createVolume h1
  rcases hfrom with ⟨⟨l0, t0, lun0, tgt0, ch0, hl0, -, ht0, hlun0, -, hv⟩, hs1⟩ |
    ⟨hnone, ⟨i0, t0, lun0, tgt0, ch0, -, -, hlun0, -, hv⟩, -⟩
  · rw [← hs1, ← hlater.san] at hlun0
    exact leads_iff_of_reused hl0 ht0 hlun0 (by rw [hv]; rfl)
  · obtain ⟨tr, -, hrun⟩ := h1.restrict hans
    have hmakes := ((answered_makes req).runs hrun).2 (by rw [Known, hnone]; exact Bool.false_ne_true)
    rw [← hlater.san] at hlun0 hmakes
    exact leads_iff_of_makes hnone hmakes hlun0 (by rw [hv]; rfl)

/-- A CreateVolume that succeeded, repeated after any time: it returns the same volume and leaves
the appliance alone exactly if the request has no content source or its name was known before the
first call, and the index then leads to what it led to before the first call or to what is new
since. -/
theorem createVolume_repeat_iff {r : Except Err Volume}
    (h1 : Runs act (createVolume c req).run w0 tr1 (.ok v) w1)
    (hans : ∀ e ∈ tr1, e.choice.Answers) (hlater : w1.Later w1')
    (h2 : Runs act (createVolume c req).run w1' tr2 r w2) (hcalm : ∀ e ∈ tr2, e.choice.Calm) :
    (r = .ok v ∧ SameStorage w1.san w2.san) ↔
      (req.contentSource = none ∨ Known w0 req.name) ∧ FindsAgain w0 w1' req := by
  rw [repeat_iff_leads h1 hlater h2 hcalm, leads_iff_finds h1 hans hlater]

theorem createVolume_repeat_fresh : ∃ v tr1 w1 tr2 w2,
    Runs act (createVolume .plain (request "vol1")).run (.of [] [] []) tr1 (.ok v) w1 ∧
    Runs act (createVolume .plain (request "vol1")).run w1 tr2 (.ok v) w2 ∧
    SameStorage w1.san w2.san := by
  obtain ⟨tr1, v, w1, h1, hans, hl, ht, hlun, htgt⟩ := runs_ok_of_exec act
    (createVolume .plain (request "vol1")).run (.of [] [] []) (List.replicate 20 {})
    (fun x => (∀ e ∈ x.1, e.choice.expire = false ∧ e.choice.fail = false ∧ e.choice.lost = false ∧
        isAuthError (.san e.choice.error) = false) ∧
      x.2.2.index.lookupByName "vol1" = some ⟨0, "vol1", giB⟩ ∧
      x.2.2.index.targetForLUN 0 = some ⟨0, "", "vol1", [0]⟩ ∧
      0 ∈ x.2.2.san.luns ∧ 0 ∈ x.2.2.san.targets) (by decide)
  have hfinds : FindsAgain (.of [] [] []) w1 (request "vol1") :=
    ⟨_, _, hl, by decide, ht, hlun, .inr ⟨by unfold Known; decide, by decide, htgt, by decide, rfl⟩⟩
  obtain ⟨tr2, hdef, h2⟩ := runs_eval act {} (createVolume .plain (request "vol1")).run w1
  obtain ⟨hr, hsame⟩ := (createVolume_repeat_iff h1
    (fun e he => ⟨(hans e he).1, (hans e he).2.1, (hans e he).2.2.1, (hans e he).2.2.2⟩) (.refl _) h2
    fun e he => hdef e he ▸ calm_default).2 ⟨.inl rfl, hfinds⟩
  rw [hr] at h2
  exact ⟨v, tr1, w1, tr2, _, h1, h2, hsame⟩

def largeSource : World :=
  let w := World.of [(7, "src")] [(3, "src")] [(7, 3)]
  { w with san := { w.san with luns := w.san.luns.insert 7 ⟨"src", 5 * giB⟩ } }

def copyRequest : CreateVolumeRequest :=
  { request "copy" with contentSource := some ⟨"", ExternalID.toString ⟨7, 3, true, "src"⟩⟩ }

/-- The first call makes a copy as large as its source, the second finds it too large. -/
theorem createVolume_repeat_refused : ¬ ∀ (c : Controller) (req : CreateVolumeRequest)
    (w0 w1 w1' w2 : World) (tr1 tr2 : List Ev) (v : Volume) (r : Except Err Volume),
      Runs act (createVolume c req).run w0 tr1 (.ok v) w1 → (∀ e ∈ tr1, e.choice.Calm) →
      w1.Later w1' → Runs act (createVolume c req).run w1' tr2 r w2 →
      (∀ e ∈ tr2, e.choice.Calm) → r = .ok v ∧ SameStorage w1.san w2.san := by
  intro h
  obtain ⟨tr1, hdef1, h1⟩ := runs_eval act {} (createVolume .plain copyRequest).run largeSource
  have hok : (eval act {} (createVolume .plain copyRequest).run largeSource).1.isOk = true := by
    decide
  have hbad : (eval act {} (createVolume .plain copyRequest).run
      (eval act {} (createVolume .plain copyRequest).run largeSource).2).1.isOk = false := by
    decide
  generalize eval act {} (createVolume .plain copyRequest).run largeSource = first at h1 hok hbad
  obtain ⟨r1, w1⟩ := first
  cases r1 with
  | error e => cases hok
  | ok v =>
    obtain ⟨tr2, hdef2, h2⟩ := runs_eval act {} (createVolume .plain copyRequest).run w1
    have heq := (h _ _ _ _ _ _ _ _ _ _ h1 (fun e he => hdef1 e he ▸ calm_default) (.refl _) h2
      fun e he => hdef2 e he ▸ calm_default).1
    rw [heq] at hbad
    cases hbad

end NomadCsi.Qnap
