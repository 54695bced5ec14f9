import NomadCsi.Qnap.Guard
import NomadCsi.Qnap.Sequence

/-!
# What an expansion does to capacities

ExpandVolume hands the requested size to the appliance without a look at the LUN's own:
`expandVolume` resizes the LUN to the required bytes whenever the id passes the name check
and the range passes `sizeGiBExact`.
-/

namespace NomadCsi.Qnap

open Lib Lib.Go Driver

/-- Every LUN of `s` is in `s'`, and no smaller. -/
def San.Grows (s s' : San) : Prop :=
  ∀ i row, s.luns.lookup i = some row →
    ∃ row', s'.luns.lookup i = some row' ∧ row.capacityBytes ≤ row'.capacityBytes

variable {row : LunRow}

namespace San.Grows

variable {s s' s'' : San}

theorem refl (s : San) : s.Grows s := fun _ row h => ⟨row, h, Int.le_refl _⟩

theorem trans (h : s.Grows s') (h' : s'.Grows s'') : s.Grows s'' := by
  intro i row hrow
  obtain ⟨row', hrow', hle⟩ := h i row hrow
  obtain ⟨row'', hrow'', hle'⟩ := h' i row' hrow'
  exact ⟨row'', hrow'', Int.le_trans hle hle'⟩

theorem resize_iff {i gb : Int} (hrow : s.luns.lookup i = some row) :
    s.Grows (s.resize i row gb) ↔ row.capacityBytes ≤ gb * giB := by
  constructor
  · intro h
    obtain ⟨row', hrow', hle⟩ := h i row hrow
    rw [lookup_resize, if_pos rfl] at hrow'
    obtain rfl := Option.some.inj hrow'
    exact hle
  · intro hle j row' hrow'
    rw [lookup_resize]
    split
    · next hj =>
      subst hj
      obtain rfl : row = row' := Option.some.inj (hrow.symm.trans hrow')
      exact ⟨_, rfl, hle⟩
    · exact ⟨row', hrow', Int.le_refl _⟩

end San.Grows

/-! ### The requested size -/

/-- A range that ExpandVolume accepts: a positive whole number of GiB, within a positive limit. -/
structure Acceptable (cr : CapacityRange) : Prop where
  positive : 0 < cr.requiredBytes
  whole : giB ∣ cr.requiredBytes
  limit : 0 < cr.limitBytes → cr.requiredBytes ≤ cr.limitBytes

theorem sizeGiBExact_eq_ok {cr : CapacityRange} {gb : Int} :
    sizeGiBExact cr = .ok gb ↔ Acceptable cr ∧ gb * giB = cr.requiredBytes := by
  have hgiB : giB ≠ 0 := by decide
  unfold sizeGiBExact
  dsimp only
  split_ifs with hpos hmod hlim
  · exact iff_of_false (by simp) fun h => absurd h.1.positive (Int.not_lt.2 hpos)
  · exact iff_of_false (by simp) fun h => hmod (Int.tmod_eq_zero_of_dvd h.1.whole)
  · exact iff_of_false (by simp) fun h => absurd (h.1.limit hlim.1) (Int.not_le.2 hlim.2)
  · have hdvd : giB ∣ cr.requiredBytes := Int.dvd_of_tmod_eq_zero (not_not.1 hmod)
    have hacc : Acceptable cr :=
      ⟨Int.not_le.1 hpos, hdvd, fun h => Int.not_lt.1 fun hlt => hlim ⟨h, hlt⟩⟩
    constructor
    · intro h
      rw [← Except.ok.inj h]
      exact ⟨hacc, Int.tdiv_mul_cancel hdvd⟩
    · rintro ⟨-, h⟩
      rw [← h, Int.mul_tdiv_cancel _ hgiB]

/-! ### Every run -/

def San.Resizable (s : San) (eid : ExternalID) (row : LunRow) : Prop :=
  s.luns.lookup eid.lunIndex = some row ∧ (eid.lunName = "" ∨ row.name = eid.lunName)

section

variable {eid : ExternalID} {s s0 : San} {k : LunCache} {gb : Int}

/-- The state meets the initial one, and the LUN to resize is not above the new size. -/
structure Growing (eid : ExternalID) (gb : Int) (s0 s : San) : Prop where
  grows : s0.Grows s
  below : ∀ row, s.luns.lookup eid.lunIndex = some row → row.capacityBytes ≤ gb * giB

theorem Growing.resize (h : Growing eid gb s0 s) (hrow : s.luns.lookup eid.lunIndex = some row) :
    Growing eid gb s0 (s.resize eid.lunIndex row gb) := by
  refine ⟨h.grows.trans ((San.Grows.resize_iff hrow).2 (h.below row hrow)), fun row' hrow' => ?_⟩
  rw [San.lookup_resize, if_pos rfl] at hrow'
  obtain rfl := Option.some.inj hrow'
  exact Int.le_refl _

theorem does_resize (sess : Int) (h : Growing eid gb s0 s) :
    Does (fun _ s => s0.Grows s) (do
        san sess (.resizeLUN eid.lunIndex gb)
        let _ ← san sess (.waitForResizeComplete eid.lunIndex (gb * giB))
        return ()) s k
      (fun _ s _ => s0.Grows s ∧ ∃ row, s.luns.lookup eid.lunIndex = some row ∧
        row.capacityBytes = gb * giB)
      fun _ s _ => Growing eid gb s0 s ∧ s0.Grows s := by
  refine .bind (Q := fun _ s _ => Growing eid gb s0 s ∧
    ∃ row, s.luns.lookup eid.lunIndex = some row ∧ row.capacityBytes = gb * giB) ?_ ?_
  · refine .san h.grows (fun _ => ⟨h, h.grows⟩) fun ch v s' hserve => ?_
    have heff := San.serve_effect hserve
    cases heff with
    | read v hr => cases hr
    | resize _ _ row hrow =>
      have h' := h.resize hrow
      refine ⟨⟨h', ⟨row.name, gb * giB⟩, ?_, rfl⟩, fun _ => ⟨h', h'.grows⟩⟩
      rw [San.lookup_resize, if_pos rfl]
  · rintro _ s k ⟨h, hrow⟩
    refine .bind (Q := fun _ s' _ => s' = s) (.read rfl h.grows (fun _ => ⟨h, h.grows⟩)
      fun _ _ _ => rfl) ?_
    rintro _ _ k rfl
    exact .pure ⟨h.grows, hrow⟩

theorem does_expandVolume {volumeID : String} {cr : CapacityRange}
    (hfits : ∀ eid row, parseExternalID volumeID = .ok eid → Acceptable cr →
      s.Resizable eid row → row.capacityBytes ≤ cr.requiredBytes) :
    Does (fun _ s' => s.Grows s') (expandVolume volumeID cr) s k
      (fun _ s' _ => s.Grows s' ∧ ∃ eid row, parseExternalID volumeID = .ok eid ∧
        s'.luns.lookup eid.lunIndex = some row ∧ row.capacityBytes = cr.requiredBytes ∧
        Acceptable cr)
      fun _ s' _ => s.Grows s' := by
  unfold expandVolume
  cases hid : parseExternalID volumeID with
  | error e => exact .throw (.refl s)
  | ok eid =>
  cases hsize : sizeGiBExact cr with
  | error e => exact .throw (.refl s)
  | ok gb =>
    obtain ⟨hacc, hbytes⟩ := sizeGiBExact_eq_ok.1 hsize
    rw [check_ok_bind, check_ok_bind]
    refine .bind ((does_nameCheck (.refl s)).mono (fun _ _ _ h => h) ?_) ?_
    · rintro _ _ _ rfl
      exact .refl _
    · rintro _ s0 k ⟨rfl, hname⟩
      refine .bind (.onError (.smDo (fun s _ => Growing eid gb s0 s) ⟨.refl s0, ?_⟩
        (fun sess _ _ h => does_resize sess h) fun _ _ _ h => h.grows)) ?_
      · intro row hrow
        rw [hbytes]
        refine hfits eid row hid hacc ⟨hrow, hname.imp id fun hc => ?_⟩
        unfold San.Carries at hc
        rw [hrow] at hc
        exact Option.some.inj hc
      · rintro _ s _ ⟨hgrows, row, hrow, hcap⟩
        exact .pure ⟨hgrows, eid, row, rfl, hrow, hcap.trans hbytes, hacc⟩

end

/-! ### Grow-only -/

/-- No run of the expansion meets or leaves a LUN smaller than it was, and a successful one leaves
the volume's LUN within the requested range. -/
structure GrowOnly (w : World) (volumeID : String) (cr : CapacityRange) : Prop where
  grows : ∀ tr r w', Runs act (expandVolume volumeID cr).run w tr r w' →
    (∀ e ∈ tr, w.san.Grows e.pre.san) ∧ w.san.Grows w'.san
  within : ∀ tr v w', Runs act (expandVolume volumeID cr).run w tr (.ok v) w' →
    ∃ eid row, parseExternalID volumeID = .ok eid ∧ w'.san.luns.lookup eid.lunIndex = some row ∧
      cr.requiredBytes ≤ row.capacityBytes ∧
      (0 < cr.limitBytes → row.capacityBytes ≤ cr.limitBytes)

/-- An expansion is grow-only exactly if the LUN it would resize is not above the required
bytes. -/
theorem expandVolume_growOnly_iff (w : World) (volumeID : String) (cr : CapacityRange) :
    GrowOnly w volumeID cr ↔ ∀ eid row, parseExternalID volumeID = .ok eid → Acceptable cr →
      w.san.Resizable eid row → row.capacityBytes ≤ cr.requiredBytes := by
  constructor
  · intro h eid row hid hacc hres
    obtain ⟨gb, hgb⟩ := hacc.whole
    have hgb : gb * giB = cr.requiredBytes := (Int.mul_comm _ _).trans hgb.symm
    have hsize : sizeGiBExact cr = .ok gb := sizeGiBExact_eq_ok.2 ⟨hacc, hgb⟩
    -- the run that resizes
    have : Nonempty (Subtype Choice.Answers) := ⟨⟨{}, calm_default.toAnswers⟩⟩
    obtain ⟨tr, r, w', hrun⟩ := exists_runs answering (expandVolume volumeID cr).run w
    have hend := ((answered_expandVolume cr).runs hrun).2
    obtain ⟨tr', -, hrun'⟩ := hrun.of_restrict
    cases r with
    | error e =>
      obtain ⟨hne, hname⟩ := hend.2.2 eid gb row hid hsize hres.1
      exact absurd (hres.2.resolve_left hne) hname
    | ok v =>
      obtain ⟨-, eid', gb', row', hid', hsize', hrow', -, hw'⟩ := hend
      obtain rfl := Except.ok.inj (hid.symm.trans hid')
      obtain rfl := Except.ok.inj (hsize.symm.trans hsize')
      obtain rfl := Option.some.inj (hres.1.symm.trans hrow')
      have hgrows := (h.grows _ _ _ hrun').2
      rwa [hw', San.Grows.resize_iff hres.1, hgb] at hgrows
  · intro hfits
    have hdoes := does_expandVolume (k := w.cache) hfits
    refine ⟨fun tr r w' hrun => ?_, fun tr v w' hrun => ?_⟩
    · obtain ⟨htr, hend⟩ := hdoes.runs hrun
      have hfinal : w.san.Grows w'.san := by
        cases r with
        | error e => exact hend
        | ok v => exact hend.1
      exact ⟨(holds_of_issues hrun htr hfinal).2, hfinal⟩
    · obtain ⟨-, -, eid, row, hid, hrow, hcap, hacc⟩ := hdoes.runs hrun
      exact ⟨eid, row, hid, hrow, Int.le_of_eq hcap.symm, fun hlim => hcap ▸ hacc.limit hlim⟩

def grownVolume : World := { oneVolume with san := oneVolume.san.resize 7 ⟨"vol1", giB⟩ 10 }

/-- A request for 1 GiB takes it back to 1 GiB, and succeeds. -/
theorem expandVolume_shrinks : ¬ ∀ w volumeID cr, GrowOnly w volumeID cr := by
  intro h
  obtain ⟨tr, r, w', hrun, hrow⟩ := runs_of_exec act
    (expandVolume "qnap/v1/7/3/t/vol1" ⟨giB, 0⟩).run grownVolume [{}, {}, {}, {}, {}]
    (fun x => x.2.1 = .ok (giB, true) ∧ x.2.2.san.luns.lookup 7 = some ⟨"vol1", giB⟩) (by decide)
  obtain ⟨row, hrow', hle⟩ := ((h _ _ _).grows _ _ _ hrun).2 7 ⟨"vol1", 10 * giB⟩ (by decide)
  rw [hrow.2] at hrow'
  obtain rfl := Option.some.inj hrow'
  revert hle
  decide

end NomadCsi.Qnap
