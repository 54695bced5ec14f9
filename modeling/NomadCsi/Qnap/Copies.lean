import NomadCsi.Lib.Eval
import NomadCsi.Qnap.Stale

/-!
# Where the data of a volume comes from

Nothing on a LUN says what it was made from, so the record is kept beside the run: for each
index the call that made the LUN there last, and the appliance it met (`noteMaker`).
CreateVolume makes the copy that is asked for, but only for a name the index does not know;
a name it knows is answered from the LUN of that name, whatever the source.
-/

namespace NomadCsi.Qnap

open Lib Lib.Go Driver

/-- The call that made a LUN, and the appliance it met. -/
structure Maker where
  call : SanCall
  met : San

/-- A LUN that a call has made is put down to that call. -/
def noteMaker (made : Int → Option Maker) (e : Ev) : Int → Option Maker := fun i =>
  if i ∉ e.pre.san.luns ∧ i ∈ (act e.pre e.call e.choice).2.san.luns then
    e.call.client.map fun c => ⟨c.2, e.pre.san⟩
  else made i

/-- The volume or the snapshot that the source names is the one at its index: the LUN has the name
of the volume id, the snapshot is one of the LUN of the snapshot id. -/
def SourceThere (source : Option ContentSource) (s : San) : Prop :=
  if (source.getD ⟨"", ""⟩).snapshotID ≠ "" then
    ∀ sid, parseSnapshotID (source.getD ⟨"", ""⟩).snapshotID = .ok sid →
      (s.snaps.find? (·.snap.id = sid.snapshotID)).map (·.lun) = some sid.lunIndex
  else ∀ eid, parseExternalID (source.getD ⟨"", ""⟩).volumeID = .ok eid →
    eid.lunName = "" ∨ s.Carries eid.lunIndex eid.lunName

def Maker.Of (source : Option ContentSource) (m : Maker) : Prop :=
  m.call.Copies source ∧ SourceThere source m.met

def CopyOf (source : Option ContentSource) (v : Volume) (made : Int → Option Maker) : Prop :=
  ∃ eid : ExternalID, v.volumeID = eid.toString ∧ ∃ m, made eid.lunIndex = some m ∧ m.Of source

/-- What a controller has served since the SAN was empty, with the record of it. -/
inductive SinceEmpty (c : Controller) : World → (Int → Option Maker) → Prop where
  | start {w : World} : w.san.luns = ∅ → w.cache = .empty → SinceEmpty c w fun _ => none
  | create {w w' : World} {made : Int → Option Maker} {tr : List Ev} {r : Except Err Volume}
      (req : CreateVolumeRequest) : SinceEmpty c w made →
      Runs act (createVolume c req).run w tr r w' → SinceEmpty c w' (tr.foldl noteMaker made)
  | delete {w w' : World} {made : Int → Option Maker} {tr : List Ev} {r : Except Err Unit}
      (id : String) : SinceEmpty c w made →
      Runs act (deleteVolume id).run w tr r w' → SinceEmpty c w' (tr.foldl noteMaker made)

/-! ### The calls of CreateVolume -/

section

variable {source : Option ContentSource} {s s' : San} {call : SanCall} {v : call.Val}

theorem luns_of_create (h : Effect s call v s') (hc : call.ofCreate = true) {i : Int}
    (hi : i ∈ s.luns) : i ∈ s'.luns := by
  cases h with
  | read | addTarget | dropTarget => exact hi
  | addBlock | addClone | addRestore | resize => exact (AList.mem_insert _).2 (.inr hi)
  | dropLUN | unmap | addSnap | dropSnap => cases hc

theorem luns_of_newLUN (h : Effect s call v s') (hc : call.newLUN = none) {i : Int}
    (hi : i ∈ s'.luns) : i ∈ s.luns := by
  obtain ⟨row, hrow⟩ := San.mem_luns.1 hi
  have hcarries : s'.Carries i row.name := by rw [San.Carries, hrow]; rfl
  exact (h.carries_of_carries hc hcarries).mem

theorem sourceThere_iff (h : Effect s call v s') (hc : call.ofCreate = true)
    (hnew : call.newLUN ≠ none → call.Copies source) :
    SourceThere source s' ↔ SourceThere source s := by
  unfold SourceThere
  split
  · have hsnaps : s'.snaps = s.snaps := by
      cases h with
      | dropLUN | unmap | addSnap | dropSnap => cases hc
      | _ => rfl
    rw [hsnaps]
  · next hsnap =>
    refine forall_congr' fun eid => imp_congr_right fun heid => or_congr_right ⟨?_, ?_⟩
    · intro hcarries
      by_cases hnone : call.newLUN = none
      · exact h.carries_of_carries hnone hcarries
      · have hcopies := hnew hnone
        cases h with
        | addBlock i row _ hi =>
          rw [show source.getD ⟨"", ""⟩ = ⟨"", ""⟩ from hcopies] at heid
          cases heid
        | addRestore i row _ hi => exact absurd hcopies.1 hsnap
        | addClone i row _ hi _ hthere =>
          -- the new LUN is not at the index of the source
          obtain ⟨-, eid', heid', hindex⟩ := hcopies
          obtain rfl := Except.ok.inj (heid.symm.trans heid')
          have hne : eid.lunIndex ≠ i := fun h => hi (h ▸ hindex ▸ hthere)
          simpa [San.Carries, hne] using hcarries
        | read => exact hcarries
        | _ => exact absurd rfl hnone
    · refine h.carries ?_
      rintro rfl
      cases hc

end

/-- A call that CreateVolume makes for this source. -/
def Call.MakesFrom (source : Option ContentSource) : Call → Prop
  | .san _ c => c.ofCreate = true ∧ (c.newLUN ≠ none → c.Copies source)
  | _ => True

theorem calls_makesFrom (c : Controller) (req : CreateVolumeRequest) :
    (createVolume c req).run.Calls (Call.MakesFrom req.contentSource) := by
  refine calls_createVolume (fun {call} h => ?_) (fun h hn => ⟨h, fun hne => absurd hn hne⟩) c req
    fun h hcopies => ⟨h, fun _ => hcopies⟩
  cases call with
  | san => cases h
  | _ => trivial

/-- What a CreateVolume has done so far to the LUNs and the record of `s0`: the LUNs are still
there, and the new ones were made for the source. -/
structure Made (source : Option ContentSource) (s0 : San) (made0 : Int → Option Maker) (s : San)
    (made : Int → Option Maker) : Prop where
  kept : ∀ i ∈ s0.luns, i ∈ s.luns
  old : ∀ i, i ∈ s0.luns ∨ i ∉ s.luns → made i = made0 i
  new : ∀ i, i ∉ s0.luns → i ∈ s.luns → ∃ m, made i = some m ∧ m.call.Copies source ∧
    (SourceThere source m.met ↔ SourceThere source s0)
  there : SourceThere source s ↔ SourceThere source s0

section

variable {source : Option ContentSource} {s0 : San} {made0 made : Int → Option Maker}

theorem Made.step {w : World} {call : Call} (h : Made source s0 made0 w.san made)
    (hcall : call.MakesFrom source) (ch : Choice) : Made source s0 made0 (act w call ch).2.san
      (noteMaker made ⟨w, call, ch, (act w call ch).1⟩) := by
  rcases act_cases w call ch with ⟨hs, -⟩ | ⟨sess, k, v, rfl, -, hserve⟩
  · have hsame : noteMaker made ⟨w, call, ch, (act w call ch).1⟩ = made := by
      funext i
      unfold noteMaker
      rw [hs]
      exact if_neg fun hi => hi.1 hi.2
    rw [hsame, hs]
    exact h
  · have heffect := San.serve_effect hserve
    have hthere := sourceThere_iff heffect hcall.1 hcall.2
    refine ⟨fun i hi => luns_of_create heffect hcall.1 (h.kept i hi), fun i hi => ?_,
      fun i hi0 hi => ?_, hthere.trans h.there⟩
    · have hno : ¬ (i ∉ w.san.luns ∧ i ∈ (act w (.san sess k) ch).2.san.luns) := by
        rintro ⟨hout, hin⟩
        exact hi.elim (fun hi => hout (h.kept i hi)) fun hi => hi hin
      refine (if_neg hno).trans (h.old i (hi.imp id fun hi hin => hi ?_))
      exact luns_of_create heffect hcall.1 hin
    · by_cases hin : i ∈ w.san.luns
      · obtain ⟨m, hm, hmade⟩ := h.new i hi0 hin
        exact ⟨m, (if_neg fun hout => hout.1 hin).trans hm, hmade⟩
      · refine ⟨⟨k, w.san⟩, if_pos ⟨hin, hi⟩, hcall.2 fun hnone => hin ?_, h.there⟩
        exact luns_of_newLUN heffect hnone hi

theorem made_of_runs {c : Controller} {req : CreateVolumeRequest} {w w' : World} {tr : List Ev}
    {r : Except Err Volume} (hrun : Runs act (createVolume c req).run w tr r w') :
    Made req.contentSource w.san made w'.san (tr.foldl noteMaker made) := by
  refine hrun.fold (I := fun w' g => Made req.contentSource w.san made w'.san g)
    (fun _ _ _ ch hcall h => h.step hcall ch) (calls_makesFrom c req) ?_
  exact ⟨fun _ hi => hi, fun _ _ => rfl, fun _ hout hin => absurd hin hout, Iff.rfl⟩

end

/-- The LUN that the index knows by the name, if any, was made from the requested source; without
one, the source is there. -/
def Copyable (made : Int → Option Maker) (w : World) (req : CreateVolumeRequest) : Prop :=
  (∀ l, w.index.lookupByName (sanitizeLUNName req.name) = some l →
    ∃ m, made l.index = some m ∧ m.Of req.contentSource) ∧
  (w.index.lookupByName (sanitizeLUNName req.name) = none → SourceThere req.contentSource w.san)

theorem copyOf_iff {source : Option ContentSource} {v : Volume} {made : Int → Option Maker}
    {eid : ExternalID} (h : v.volumeID = eid.toString) :
    CopyOf source v made ↔ ∃ m, made eid.lunIndex = some m ∧ m.Of source := by
  constructor
  · rintro ⟨eid', h', hmade⟩
    obtain rfl := ExternalID.toString_inj (h.symm.trans h')
    exact hmade
  · exact fun hmade => ⟨eid, h, hmade⟩

/-- In any world, whatever was made before and whichever calls of this CreateVolume fail. -/
theorem createVolume_copies_iff {c : Controller} {req : CreateVolumeRequest} {w w' : World}
    {tr : List Ev} {v : Volume} (made : Int → Option Maker)
    (hrun : Runs act (createVolume c req).run w tr (.ok v) w') :
    CopyOf req.contentSource v (tr.foldl noteMaker made) ↔ Copyable made w req := by
  have hmade : Made req.contentSource w.san made w'.san _ := made_of_runs hrun
  obtain ⟨vp, sizeGB, -, -, ⟨hreused, hs⟩ | ⟨hnone, hprov, -⟩⟩ := yields_createVolume hrun
  · obtain ⟨l, t, lun, tgt, ch, hl, -, -, -, -, rfl⟩ := hreused
    have hold : tr.foldl noteMaker made l.index = made l.index := by
      refine hmade.old l.index ?_
      rw [hs]
      exact em _
    rw [copyOf_iff rfl, Copyable, hl, hold]
    simp
  · obtain ⟨i, t, lun, tgt, ch, hi, hi', -, -, rfl⟩ := hprov
    obtain ⟨m, hm, hcopies, hthere⟩ := hmade.new i hi hi'
    rw [copyOf_iff rfl, Copyable, hnone]
    constructor
    · rintro ⟨m', hm', hof⟩
      obtain rfl := Option.some.inj (hm.symm.trans hm')
      refine ⟨fun l hl => ?_, fun _ => hthere.1 hof.2⟩
      cases hl
    · exact fun h => ⟨m, hm, hcopies, hthere.2 (h.2 rfl)⟩

/-- The SAN once `src` is LUN 0, and once `vol1`, asked for without a source, is LUN 1. -/
def withSource : World :=
  (eval act {} (createVolume .plain (request "src")).run (.of [] [] [])).2

def withBoth : World :=
  (eval act { san := { index := 1 } } (createVolume .plain (request "vol1")).run withSource).2

def sourceCopy : CreateVolumeRequest :=
  { request "vol1" with contentSource := some ⟨"", "qnap/v1/0/0/t/src"⟩ }

/-- The copy of `src` on the SAN that has it. -/
theorem createVolume_copies_fresh : ∃ made tr v w', SinceEmpty .plain withSource made ∧
    Runs act (createVolume .plain sourceCopy).run withSource tr (.ok v) w' ∧
      CopyOf sourceCopy.contentSource v (tr.foldl noteMaker made) := by
  obtain ⟨tr1, -, hsrc⟩ := runs_eval act {} (createVolume .plain (request "src")).run (.of [] [] [])
  have hsince := SinceEmpty.create (request "src") (.start rfl rfl) hsrc
  obtain ⟨tr, v, w', hrun, -⟩ := runs_ok_of_exec act (createVolume .plain sourceCopy).run
    withSource (List.replicate 20 { san := { index := 1 } }) (fun _ => True) (by decide)
  have hnew : withSource.index.lookupByName "vol1" = none := by decide
  have hid : parseExternalID "qnap/v1/0/0/t/src" = .ok ⟨0, 0, true, "src"⟩ := rfl
  refine ⟨_, tr, v, w', hsince, hrun,
    (createVolume_copies_iff _ hrun).2 ⟨fun l hl => ?_, fun _ => ?_⟩⟩
  · cases hnew.symm.trans hl
  · intro eid heid
    obtain rfl := Except.ok.inj (hid.symm.trans heid)
    exact .inr (by decide)

/-- The blank `vol1` is returned for the copy of `src`. -/
theorem createVolume_returns_no_copy : ¬ ∀ (c : Controller) (w w' : World)
    (made : Int → Option Maker) (req : CreateVolumeRequest) (tr : List Ev) (v : Volume),
      SinceEmpty c w made → Runs act (createVolume c req).run w tr (.ok v) w' →
      CopyOf req.contentSource v (tr.foldl noteMaker made) := by
  intro h
  obtain ⟨tr1, -, hsrc⟩ := runs_eval act {} (createVolume .plain (request "src")).run (.of [] [] [])
  obtain ⟨tr2, -, hvol⟩ := runs_eval act { san := { index := 1 } }
    (createVolume .plain (request "vol1")).run withSource
  have hsince := SinceEmpty.create (request "vol1")
    (SinceEmpty.create (request "src") (.start rfl rfl) hsrc) hvol
  obtain ⟨tr, v, w', hrun, hid⟩ := runs_ok_of_exec act (createVolume .plain sourceCopy).run
    withBoth (List.replicate 7 {})
    (fun x => x.2.1.volumeID = ExternalID.toString ⟨1, 1, true, "vol1"⟩) (by decide)
  have hcopy := h _ _ _ _ sourceCopy _ _ hsince hrun
  obtain ⟨m, hm, hof⟩ := (copyOf_iff hid).1 hcopy
  obtain ⟨m', hm', hcopies, -⟩ := (made_of_runs hvol).new 1 (by decide) (by decide)
  rw [(made_of_runs hrun).old 1 (.inl (by decide)), hm', Option.some.injEq] at hm
  subst hm
  obtain ⟨call, met⟩ := m'
  cases call with
  | createBlockLUN =>
    exact absurd (congrArg ContentSource.volumeID (show _ = (⟨"", ""⟩ : ContentSource) from hof.1))
      (by decide)
  | createLUNFromSnapshot => exact hcopies.1 rfl
  | cloneLUN =>
    obtain ⟨-, _, hparse, -⟩ := hcopies
    cases hparse
  | _ => exact hcopies

end NomadCsi.Qnap
