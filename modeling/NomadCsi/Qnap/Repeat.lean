import NomadCsi.Lib.Eval
import NomadCsi.Qnap.Calm

/-!
# CreateVolume repeated

A first CreateVolume that succeeds, and the same request again with nothing in between but
time. The first answer may be reused or provisioned, the second can only agree with it if
it is reused, and a reused answer carries no content source (`repeat_iff_leads`).
-/

namespace NomadCsi.Qnap

open Lib Lib.Go Driver

def wantBytes (req : CreateVolumeRequest) : Int :=
  (sizeGiBExact req.capacityRange).toOption.getD 0 * giB

/-- The appliance answers, and with what was set: a removed LUN does not read as an empty row. -/
structure Choice.Calm (ch : Choice) : Prop extends ch.Answers where
  ghost : ch.san.ghost = false

variable {req : CreateVolumeRequest}

/-! ### Calm runs -/

/-- The appliance with calm answers only. -/
abbrev calm : World → (c : Call) → Subtype Choice.Calm → c.Reply × World :=
  restrict act Choice.Calm

/-- Every calm run of `x` from `w` ends in `Q` or `X`. -/
abbrev Calmly {α : Type} (x : Op α) (w : World) (Q : α → World → Prop) (X : Err → World → Prop) :
    Prop :=
  Ends calm (fun _ => True) x w Q X

section

variable {c : Controller} {vp : VolumeParams} {w : World}

theorem serve_getLUN_calm {ch : Choice} (hch : ch.Calm) {s : San} {i : Int} :
    s.serve (.getLUN i) ch.san = (s.lun i).map fun l => (l, s) := by
  simp only [San.serve, hch.ghost]
  cases s.lun i with
  | none => rfl
  | some l => rfl

/-- The LUN would do, but the index leads to one or to a target that is gone. -/
def World.Dangling (w : World) (l : LUN) (sizeGB : Int) : Prop :=
  absDiff l.capacityBytes (sizeGB * giB) < giB → ∀ t, w.index.targetForLUN l.index = some t →
    w.san.lun l.index = none ∨ w.san.target t.index = none

theorem calmly_findExistingVolume {name : String} {sizeGB : Int} {l : LUN}
    (hl : w.index.lookupByName name = some l) :
    Calmly (findExistingVolume c name (sizeGB * giB) vp) w
      (fun r _ => r.isSome = true ∧ absDiff l.capacityBytes (sizeGB * giB) < giB ∧
        (w.san.lun l.index).isSome = true)
      fun _ _ => w.Dangling l sizeGB := by
  refine Ends.bind (.onError ((ends_refresh fun _ h => h.toAnswers).weaken
    fun _ _ h => h.elim)) ?_
  intro _ w1 href
  rw [← href.lookupByName] at hl
  refine Ends.mono (ends_existingFromCache fun _ h => h.toAnswers) ?_ ?_
  · rintro (_ | v) w2 ⟨hnone, hsome⟩
    · cases hl.symm.trans (hnone rfl).2
    · obtain ⟨l', t, lun, tgt, ch, hch, hl', hcap, -, hlun, -⟩ := hsome v rfl
      obtain rfl := Option.some.inj (hl.symm.trans hl')
      rw [serve_getLUN_calm hch, href.san] at hlun
      obtain ⟨x, hx, -⟩ := Option.map_eq_some_iff.1 hlun
      exact ⟨rfl, hcap, by rw [hx]; rfl⟩
  · rintro e w2 ⟨-, hmiss⟩ hcap t ht
    rw [← href.targetForLUN] at ht
    rw [← href.san]
    exact hmiss l t hl hcap ht

/-- CreateVolume fails only where the index leads to nothing. -/
theorem calmly_createVolume {sizeGB : Int}
    (hvp : resolveParams c.cfg req.parameters req.volumeCapabilities = .ok vp)
    (hsize : sizeGiBExact req.capacityRange = .ok sizeGB) {l : LUN}
    (hl : w.index.lookupByName (sanitizeLUNName req.name) = some l) :
    Calmly (createVolume c req) w (fun _ _ => (w.san.lun l.index).isSome = true) fun _ _ =>
      w.Dangling l sizeGB := by
  unfold createVolume
  rw [hvp, check_ok_bind, hsize, check_ok_bind]
  refine Ends.bind (calmly_findExistingVolume hl) ?_
  rintro (_ | v) w2 ⟨hv, -, hthere⟩
  · cases hv
  · exact .pure hthere

end

/-! ### The second call -/

def SameStorage (s s' : San) : Prop :=
  s'.luns = s.luns ∧ s'.targets = s.targets ∧ s'.maps = s.maps

/-- The index of `w` leads from the name to a LUN of about the requested size, which is there, and
to a target, and their id is the id of `v`. -/
def Leads (w : World) (req : CreateVolumeRequest) (v : Volume) : Prop :=
  ∃ l t lun, w.index.lookupByName (sanitizeLUNName req.name) = some l ∧
    absDiff l.capacityBytes (wantBytes req) < giB ∧ w.index.targetForLUN l.index = some t ∧
    w.san.lun l.index = some lun ∧
    v.volumeID = ExternalID.toString
      ⟨l.index, t.index, t.aliasName = sanitizeLUNName req.name, lun.name⟩

theorem createVolume_reads {c : Controller} {w w' : World} {tr : List Ev} {v : Volume}
    (hrun : Runs act (createVolume c req).run w tr (.ok v) w') :
    ∃ vp sizeGB source i t own lun tgt ch,
      resolveParams c.cfg req.parameters req.volumeCapabilities = .ok vp ∧
      sizeGiBExact req.capacityRange = .ok sizeGB ∧
      w'.san.serve (.getLUN i) ch = some (lun, w'.san) ∧ w'.san.target t = some tgt ∧
      v = toVolume c source vp i t own sizeGB lun tgt ∧
      (source = none ↔ req.contentSource = none ∨ Known w req.name) := by
  obtain ⟨vp, sizeGB, hvp, hsize, hfrom⟩ := yields_createVolume hrun
  rcases hfrom with ⟨⟨l, t, lun, tgt, ch, hl, -, -, hlun, htgt, hv⟩, hs⟩ |
    ⟨hnone, ⟨i, t, lun, tgt, ch, -, -, hlun, htgt, hv⟩, -⟩
  · refine ⟨vp, sizeGB, _, _, _, _, lun, tgt, ch, hvp, hsize, hs ▸ hlun, hs ▸ htgt, hv, ?_⟩
    have hknown : Known w req.name := by rw [Known, hl]; rfl
    exact iff_of_true rfl (.inr hknown)
  · refine ⟨vp, sizeGB, _, _, _, _, lun, tgt, ch, hvp, hsize, hlun, htgt, hv, ?_⟩
    have hunknown : ¬ Known w req.name := by
      rw [Known, hnone]
      exact Bool.false_ne_true
    rw [or_iff_left hunknown]

/-- The second call agrees with the first exactly if the first answer carries no content source and
the index still leads to the LUN and the target of that answer. -/
theorem repeat_iff_leads {c : Controller} {req : CreateVolumeRequest}
    {w0 w₁ w1' w₂ : World} {tr1 tr2 : List Ev} {v : Volume} {r : Except Err Volume}
    (h1 : Runs act (createVolume c req).run w0 tr1 (.ok v) w₁) (hlater : w₁.Later w1')
    (h2 : Runs act (createVolume c req).run w1' tr2 r w₂) (hcalm : ∀ e ∈ tr2, e.choice.Calm) :
    (r = .ok v ∧ SameStorage w₁.san w₂.san) ↔
      (req.contentSource = none ∨ Known w0 req.name) ∧ Leads w1' req v := by
  obtain ⟨vp, sizeGB, source, i, t, own, lun, tgt, ch, hvp, hsize, hlun, htgt, hv, hsource⟩ :=
    createVolume_reads h1
  have hwant : wantBytes req = sizeGB * giB := by rw [wantBytes, hsize]; rfl
  have hid : v.volumeID = ExternalID.toString ⟨i, t, own, lun.name⟩ := by rw [hv]; rfl
  constructor
  · rintro ⟨rfl, hsame⟩
    obtain ⟨vp', sizeGB', hvp', hsize', hfrom⟩ := yields_createVolume h2
    obtain rfl : sizeGB = sizeGB' := Except.ok.inj (hsize.symm.trans hsize')
    rcases hfrom with ⟨⟨l, t', lun', tgt', ch', hl, hcap, ht, hlun', -, hv'⟩, -⟩ |
      ⟨-, ⟨j, _, _, _, _, hnew, hthere, -⟩, -⟩
    · have hsrc : source = none := congrArg Volume.contentSource (hv.symm.trans hv')
      obtain ⟨tr, -, hrun⟩ := h2.restrict hcalm
      have hsome : (w1'.san.lun l.index).isSome = true :=
        ((calmly_createVolume hvp hsize hl).runs hrun).2
      obtain ⟨lun'', hlun''⟩ := Option.isSome_iff_exists.1 hsome
      obtain rfl : lun'' = lun' := San.getLUN_eq hlun'' hlun'
      refine ⟨hsource.1 hsrc, l, t', lun'', hl, hwant ▸ hcap, ht, hlun'', ?_⟩
      exact congrArg Volume.volumeID hv'
    · rw [hlater.san, ← hsame.1] at hnew
      exact absurd hthere hnew
  · rintro ⟨hno, l, t', lun', hl, hcap, ht, hthere, hid'⟩
    obtain ⟨rfl, rfl, rfl, hname⟩ := ExternalID.mk.inj
      (ExternalID.toString_inj (hid.symm.trans hid'))
    obtain ⟨tr, -, hrun⟩ := h2.restrict hcalm
    have hends := ((calmly_createVolume hvp hsize hl).runs hrun).2
    cases r with
    | error e =>
      rcases hends (hwant ▸ hcap) t' ht with h | h
      · rw [h] at hthere
        cases hthere
      · rw [hlater.san, htgt] at h
        cases h
    | ok v' =>
      obtain ⟨vp', sizeGB', hvp', hsize', hfrom⟩ := yields_createVolume h2
      obtain rfl : vp = vp' := Except.ok.inj (hvp.symm.trans hvp')
      obtain rfl : sizeGB = sizeGB' := Except.ok.inj (hsize.symm.trans hsize')
      rcases hfrom with ⟨⟨l2, t2, lun2, tgt2, ch2, hl2, -, ht2, hlun2, htgt2, hv2⟩, hs2⟩ | ⟨hnone, -⟩
      · obtain rfl : l = l2 := Option.some.inj (hl.symm.trans hl2)
        obtain rfl : t' = t2 := Option.some.inj (ht.symm.trans ht2)
        obtain rfl : lun' = lun2 := San.getLUN_eq hthere hlun2
        rw [hlater.san] at hthere htgt2 hs2
        obtain rfl : lun' = lun := San.getLUN_eq hthere hlun
        obtain rfl : tgt = tgt2 := Option.some.inj (htgt.symm.trans htgt2)
        rw [hsource.2 hno] at hv
        rw [hv, hv2, hs2]
        exact ⟨rfl, rfl, rfl, rfl⟩
      · rw [hl] at hnone
        cases hnone

theorem calm_default : Choice.Calm {} := ⟨⟨rfl, rfl, rfl, rfl⟩, rfl⟩

/-! ### The same name with another size -/

/-- The index of `w` leads from the name to a LUN of this reported capacity and to a target, and
both are there. -/
def Reports (w : World) (name : String) (capacity : Int) : Prop :=
  ∃ l t, w.index.lookupByName name = some l ∧ l.capacityBytes = capacity ∧
    w.index.targetForLUN l.index = some t ∧ (w.san.lun l.index).isSome = true ∧
    (w.san.target t.index).isSome = true

/-- The size of a LUN of `m` GiB and some overhead passes for `m` GiB, and for one more GiB if there
is an overhead. -/
theorem absDiff_lt_giB_iff {m n capacity : Int} (hm : 0 < m) (hn : 0 < n)
    (hcap : m * giB ≤ capacity ∧ capacity < (m + 1) * giB) (hmax : capacity < 2 ^ 63)
    (hnmax : n * giB < 2 ^ 63) :
    absDiff capacity (n * giB) < giB ↔ m = n ∨ m + 1 = n ∧ m * giB < capacity := by
  unfold absDiff wrap64
  unfold giB at *
  split <;> omega

/-- Over calm runs, the existing LUN is accepted for its own size only, exactly if the request is
not for one GiB more than a LUN with an overhead. -/
theorem size_match_iff {c : Controller} {vp : VolumeParams} {w w' : World} {name : String}
    {m n capacity : Int} {tr : List Ev} {r : Except Err (Option Volume)} (hm : 0 < m) (hn : 0 < n)
    (hcap : m * giB ≤ capacity ∧ capacity < (m + 1) * giB) (hmax : capacity < 2 ^ 63)
    (hnmax : n * giB < 2 ^ 63) (hreports : Reports w name capacity)
    (hrun : Runs act (findExistingVolume c name (n * giB) vp).run w tr r w')
    (hcalm : ∀ e ∈ tr, e.choice.Calm) :
    ((∃ v, r = .ok (some v)) ↔ m = n) ↔ (n = m + 1 → capacity = m * giB) := by
  obtain ⟨l, t, hl, rfl, ht, hlun, htgt⟩ := hreports
  have hdiff := absDiff_lt_giB_iff hm hn hcap hmax hnmax
  obtain ⟨tr', -, hrun'⟩ := hrun.restrict hcalm
  have hends := ((calmly_findExistingVolume hl).runs hrun').2
  have hacc : (∃ v, r = .ok (some v)) ↔ absDiff l.capacityBytes (n * giB) < giB := by
    cases r with
    | ok o =>
      obtain ⟨hsome, hfits, -⟩ := hends
      obtain ⟨v, rfl⟩ := Option.isSome_iff_exists.1 hsome
      exact iff_of_true ⟨v, rfl⟩ hfits
    | error e =>
      refine iff_of_false ?_ fun hfits => ?_
      · rintro ⟨v, hv⟩
        cases hv
      · rcases hends hfits t ht with h | h
        · rw [h] at hlun
          cases hlun
        · rw [h] at htgt
          cases htgt
  rw [hacc, hdiff]
  omega

def volumeOfSize (capacity : Int) : World :=
  let w := World.of [(7, "a")] [(3, "a")] [(7, 3)]
  { w with san := { w.san with luns := w.san.luns.insert 7 ⟨"a", capacity⟩ } }

theorem reports_volumeOfSize : Reports (volumeOfSize (giB + 4096)) "a" (giB + 4096) :=
  ⟨⟨7, "a", giB + 4096⟩, ⟨3, "a", "a", [7]⟩, by decide, rfl, by decide, by decide, by decide⟩

def plainParams : VolumeParams := ⟨"ext4", false, 512, 1, true, none⟩

theorem size_match_same : ∃ tr r w',
    Runs act (findExistingVolume .plain "a" (1 * giB) plainParams).run
      (volumeOfSize (giB + 4096)) tr r w' ∧ ∃ v, r = .ok (some v) := by
  obtain ⟨tr, hdef, hrun⟩ := runs_eval act {}
    (findExistingVolume .plain "a" (1 * giB) plainParams).run (volumeOfSize (giB + 4096))
  exact ⟨tr, _, _, hrun, ((size_match_iff (m := 1) (n := 1) (by decide) (by decide) (by decide)
    (by decide) (by decide) reports_volumeOfSize hrun fun e he => hdef e he ▸ calm_default).2
    fun h => absurd h (by decide)).2 rfl⟩

/-- The same LUN is accepted for a request of 2 GiB. -/
theorem larger_size_accepted : ∃ tr v w', Reports (volumeOfSize (giB + 4096)) "a" (giB + 4096) ∧
    1 * giB ≤ giB + 4096 ∧ giB + 4096 < (1 + 1) * giB ∧
    Runs act (findExistingVolume .plain "a" (2 * giB) plainParams).run
      (volumeOfSize (giB + 4096)) tr (.ok (some v)) w' ∧ ∀ e ∈ tr, e.choice.Calm := by
  obtain ⟨tr, hdef, hrun⟩ := runs_eval act {}
    (findExistingVolume .plain "a" (2 * giB) plainParams).run (volumeOfSize (giB + 4096))
  have hok : (eval act {} (findExistingVolume .plain "a" (2 * giB) plainParams).run
      (volumeOfSize (giB + 4096))).1.toOption.any Option.isSome = true := by decide
  generalize eval act {} (findExistingVolume .plain "a" (2 * giB) plainParams).run
    (volumeOfSize (giB + 4096)) = x at hrun hok
  obtain ⟨_ | _ | v, w'⟩ := x
  · cases hok
  · cases hok
  · exact ⟨tr, v, w', reports_volumeOfSize, by decide, by decide, hrun,
      fun e he => hdef e he ▸ calm_default⟩

end NomadCsi.Qnap
