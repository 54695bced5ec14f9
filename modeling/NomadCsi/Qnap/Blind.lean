import NomadCsi.Lib.Sim
import NomadCsi.Qnap.Calm

/-!
# Operations that do not see the session

In runs in which the appliance answers, the session manager comes to an accepted session
whatever it starts with, and runs the closure under it (`live_of_smDo`, `smDo_of_live`).
So an operation whose closures start with a client call and report its error as it is has
the same outcomes whatever the session is (`Blind`).
-/

namespace NomadCsi.Qnap

open Lib Lib.Go Driver

/-- The same but for the sessions. -/
structure World.Like (w w' : World) : Prop where
  san : w'.san = w.san
  cache : w'.cache = w.cache
  now : w'.now = w.now

abbrev answering : World → (c : Call) → Subtype Choice.Answers → c.Reply × World :=
  restrict act Choice.Answers

/-- From worlds that differ in sessions only, the outcomes are the same. -/
abbrev Blind {α : Type} (x : Op α) : Prop := Sim answering World.Like x x

/-- The worlds differ in sessions only, and `s` and `t` are accepted in them. -/
structure Both (s t : Int) (w w' : World) : Prop extends w.Like w' where
  left : s ∈ w.accepted
  right : t ∈ w'.accepted

/-- Under accepted sessions the closure does the same, and it reports no authentication error. -/
structure Steady {α : Type} (fn : Int → Op α) : Prop where
  sim : ∀ s t, Sim answering (Both s t) (fn s) (fn t)
  quiet : ∀ s w, s ∈ w.accepted → Ends answering (fun _ => True) (fn s) w
    (fun _ w' => s ∈ w'.accepted) fun e _ => isAuthError e = false

namespace Steady

variable {α β : Type}

theorem pure (a : α) : Steady fun _ => (Pure.pure a : Op α) :=
  ⟨fun _ _ => .pure a, fun _ _ hs => .pure hs⟩

theorem san (c : SanCall) : Steady fun s => Qnap.san s c := by
  refine ⟨fun s t => ?_, fun s w hs => ?_⟩
  · refine Sim.call (R := Call.Reply) (c := .san s c) (d := .san t c)
      (fun r : Except SanError c.Val => r.mapError Err.san)
      (fun r : Except SanError c.Val => r.mapError Err.san) ?_
    rintro w w' ⟨ch, hch⟩ ⟨⟨hsan, hcache, hnow⟩, hleft, hright⟩
    refine ⟨⟨ch, hch⟩, ?_⟩
    have hact : ∀ (w : World) (s : Int), answering w (Call.san s c) ⟨ch, hch⟩ =
        ((sanAct w s c ch).1,
          { (sanAct w s c ch).2 with now := (sanAct w s c ch).2.now + ch.tick }) := fun _ _ => rfl
    rw [hact, hact, sanAct_live hch hleft, sanAct_live hch hright, hsan]
    cases w.san.serve c ch.san with
    | none => exact ⟨rfl, ⟨hsan, hcache, by rw [hnow]⟩, hleft, hright⟩
    | some p => exact ⟨rfl, ⟨rfl, hcache, by rw [hnow]⟩, hleft, hright⟩
  · exact ends_san (fun _ h => h) hs (fun ch hch _ => hch.error) fun _ _ _ _ _ => hs

theorem bind {fn : Int → Op α} {g : Int → α → Op β} (hfn : Steady fn)
    (hg : ∀ a, Steady fun s => g s a) : Steady fun s => fn s >>= g s :=
  ⟨fun s t => (hfn.sim s t).bind fun a => (hg a).sim s t,
    fun s w hs => (hfn.quiet s w hs).bind fun a w' hs' => (hg a).quiet s w' hs'⟩

end Steady

section

variable {α : Type} {fn : Int → Op α} {w w1 w2 w3 w' : World} {r : Except Err α}

/-- Under an expired session the closure stops with an authentication error, possibly at once. -/
structure Stops (fn : Int → Op α) : Prop where
  refused : ∀ s w, s ∉ w.accepted → Ends answering (fun _ => True) (fn s) w (fun _ _ => False)
    fun e w' => isAuthError e = true ∧ w.Later w'
  atOnce : ∀ s w, s ∉ w.accepted → ∃ e, isAuthError e = true ∧ Reaches answering (fn s) w (.error e) w

theorem answers_default : Choice.Answers {} := ⟨rfl, rfl, rfl, rfl⟩

theorem Stops.san_bind {c : SanCall} {g : Int → c.Val → Op α} :
    Stops fun s => san s c >>= g s := by
  refine ⟨fun s w hs => ends_refused (fun _ h => h) hs, fun s w hs => ?_⟩
  refine ⟨.san ⟨.sessionInvalid, ""⟩, rfl, reaches_bind.2 (.inl ⟨_, rfl, ?_⟩)⟩
  refine (reaches_call (c := Call.san s c)).2 ⟨⟨{}, answers_default⟩, ?_⟩
  simp only [restrict, act, answer, sanAct_expired answers_default hs]
  exact ⟨rfl, by simp⟩

theorem Stops.san {c : SanCall} : Stops fun s => san s c := by
  have h := Stops.san_bind (c := c) (g := fun _ v => pure v)
  simp only [bind_pure] at h
  exact h

/-- Whatever the session is at the start, the closure ran under an accepted one. -/
theorem live_of_smDo (hfn : Steady fn) (hstops : Stops fn) (h : Reaches answering (smDo fn) w r w') :
    ∃ s w0, w.Later w0 ∧ s ∈ w0.accepted ∧ Reaches answering (fn s) w0 r w' := by
  have hends : Ends answering (fun _ => True) (smDo fn) w
      (fun a w' => ∃ s w0, w.Later w0 ∧ s ∈ w0.accepted ∧ Reaches answering (fn s) w0 (.ok a) w')
      (fun e w' => ∃ s w0, w.Later w0 ∧ s ∈ w0.accepted ∧
        Reaches answering (fn s) w0 (.error e) w') := by
    refine ends_smDo (fun _ h => h) hstops.refused fun s w0 hlater hs => ?_
    refine wp_iff.2 fun tr r w' hr => ⟨fun _ _ => trivial, ?_⟩
    have hquiet := ((hfn.quiet s w0 hs).runs hr).2
    cases r with
    | ok a => exact ⟨s, w0, hlater, hs, tr, hr⟩
    | error e => exact ⟨hquiet, s, w0, hlater, hs, tr, hr⟩
  have hout := hends.reaches h
  cases r with
  | ok | error => exact hout

theorem smDo_direct {s : Int} (hget : Reaches answering smGet w (.ok s) w1)
    (hrun : Reaches answering (fn s) w1 r w') (hauth : ∀ e, r = .error e → isAuthError e = false) :
    Reaches answering (smDo fn) w r w' := by
  refine reaches_bind.2 (.inr ⟨s, w1, hget, reaches_bind.2 (.inr ⟨r, w', hrun.attempt, ?_⟩)⟩)
  cases r with
  | ok a => exact reaches_decided.2 ⟨rfl, rfl⟩
  | error e =>
    dsimp only
    rw [hauth e rfl]
    exact reaches_decided.2 ⟨rfl, rfl⟩

theorem smDo_retry {s s' : Int} {e : Err} (hget : Reaches answering smGet w (.ok s) w1)
    (hrun : Reaches answering (fn s) w1 (.error e) w2) (hauth : isAuthError e = true)
    (hget' : Reaches answering smGet { w2 with sess := none } (.ok s') w3)
    (hrun' : Reaches answering (fn s') w3 r w') : Reaches answering (smDo fn) w r w' := by
  refine reaches_bind.2 (.inr ⟨s, w1, hget, reaches_bind.2 (.inr ⟨_, w2, hrun.attempt, ?_⟩)⟩)
  dsimp only
  rw [hauth, if_pos rfl]
  refine reaches_bind.2 (.inr ⟨(), { w2 with sess := none }, ?_, ?_⟩)
  · refine (reaches_call (k := .ok)).2 ⟨⟨{}, answers_default⟩, rfl, ?_⟩
    simp [restrict, act, answer]
  · exact reaches_bind.2 (.inr ⟨s', w3, hget', hrun'⟩)

theorem reaches_smGet (w : World) (n : Nat) : ∃ s w1, Reaches answering smGet w (.ok s) w1 ∧
    w.Later w1 ∧ w1.now = w.now + n ∧ (w.sess = none → s ∈ w1.accepted) := by
  have hch : Choice.Answers { tick := n } := ⟨rfl, rfl, rfl, rfl⟩
  obtain ⟨s, w1, hget, hlater, hlive⟩ := getAct_answers (w := w) hch
  have hnow : w1.now = w.now := by
    have hnow' := congrArg (fun p => p.2.now) hget
    unfold getAct at hnow'
    cases hs : w.sess with
    | some | none => exact (by simpa [hs] using hnow'.symm)
  refine ⟨s, { w1 with now := w1.now + n }, ?_, hlater.trans ⟨rfl, rfl, ?_⟩, ?_, hlive⟩
  · refine (reaches_call (c := Call.get)).2 ⟨⟨_, hch⟩, ?_⟩
    simp only [restrict, act, answer, hget]
    exact ⟨rfl, trivial⟩
  · dsimp only
    omega
  · dsimp only
    rw [hnow]

/-- What the closure does under an accepted session, the session manager comes to from any. -/
theorem smDo_of_live (hfn : Steady fn) (hstops : Stops fn) {s0 : Int} {w0 w0' : World}
    (hlater : w.Later w0) (hs0 : s0 ∈ w0.accepted) (h : Reaches answering (fn s0) w0 r w0') :
    ∃ w', Reaches answering (smDo fn) w r w' ∧ w0'.Like w' := by
  have hnow := hlater.now
  -- the closure under an accepted session at the same time
  have hunder : ∀ s w1, w.Later w1 → w1.now = w0.now → s ∈ w1.accepted →
      ∃ w', Reaches answering (fn s) w1 r w' ∧ w0'.Like w' := by
    intro s w1 hlater1 hnow1 hs
    have hboth : Both s0 s w0 w1 := ⟨⟨hlater1.san.trans hlater.san.symm,
      hlater1.cache.trans hlater.cache.symm, hnow1⟩, hs0, hs⟩
    obtain ⟨w', hrun, hboth'⟩ := hfn.sim s0 s _ _ _ _ hboth h
    exact ⟨w', hrun, hboth'.toLike⟩
  have hquiet : ∀ e, r = .error e → isAuthError e = false := by
    rintro e rfl
    exact (hfn.quiet s0 w0 hs0).reaches h
  obtain ⟨s, w1, hget, hlater1, hnow1, -⟩ := reaches_smGet w (w0.now - w.now).toNat
  by_cases hs : s ∈ w1.accepted
  · obtain ⟨w', hrun, hlike⟩ := hunder s w1 hlater1 (by omega) hs
    exact ⟨w', smDo_direct hget hrun hquiet, hlike⟩
  · obtain ⟨e, hauth, hrefused⟩ := hstops.atOnce s w1 hs
    obtain ⟨s', w3, hget', hlater3, hnow3, hlive⟩ := reaches_smGet { w1 with sess := none } 0
    have hlater3' : w.Later w3 := hlater1.trans ⟨hlater3.san, hlater3.cache, hlater3.now⟩
    have hnow3' : w3.now = w0.now := by
      dsimp only at hnow3
      omega
    obtain ⟨w', hrun, hlike⟩ := hunder s' w3 hlater3' hnow3' (hlive rfl)
    exact ⟨w', smDo_retry hget hrefused hauth hget' hrun, hlike⟩

/-- A closure that stops under an expired session and does the same under every accepted one is run
as if there were no sessions. -/
theorem blind_smDo (hfn : Steady fn) (hstops : Stops fn) : Blind (smDo fn) := by
  intro w w' r w1 hlike h
  obtain ⟨s, w0, hlater, hs, hrun⟩ := live_of_smDo hfn hstops h
  have hlater' : w'.Later w0 := ⟨hlater.san.trans hlike.san.symm,
    hlater.cache.trans hlike.cache.symm, hlike.now ▸ hlater.now⟩
  exact smDo_of_live hfn hstops hlater' hs hrun

theorem blind_smDo_san {c : SanCall} : Blind (smDo fun s => san s c) :=
  blind_smDo (.san c) .san

end

/-! ### The operations -/

variable {t sizeGB : Int}

section

theorem blind_cache {c : Call} (hget : c ≠ .get) (hreset : c ≠ .reset) (hsan : c.client = none) :
    Blind (perform c : Op c.Reply) := by
  refine .perform ?_
  rintro w w' ⟨ch, hch⟩ ⟨hs, hk, hn⟩
  refine ⟨⟨ch, hch⟩, ?_⟩
  cases c with
  | get => exact absurd rfl hget
  | reset => exact absurd rfl hreset
  | san => cases hsan
  | _ => simp only [restrict, act, answer, hs, hk, hn, true_and]; exact ⟨rfl, rfl, rfl⟩

variable {c : Controller} {vp : VolumeParams}

theorem blind_ensureFresh : Blind ensureFresh := by
  refine .bind (blind_cache nofun nofun rfl) fun fresh => ?_
  split
  · exact .pure ()
  · refine .bind (blind_smDo ?_ .san_bind) fun lists => blind_cache nofun nofun rfl
    exact .bind (.san _) fun luns => .bind (.san _) fun targets => .pure _

theorem blind_assembleVolume {source : Option ContentSource} {i : Int} {own : Bool} :
    Blind (assembleVolume c source vp i t own sizeGB) := by
  refine .bind (.onError (blind_smDo ?_ .san_bind)) fun p => ?_
  · exact .bind (.san _) fun lun => .bind (.san _) fun tgt => .pure _
  · exact .bind (blind_cache nofun nofun rfl) fun _ => .pure _

theorem blind_findExistingVolume {name : String} {want : Int} :
    Blind (findExistingVolume c name want vp) := by
  refine .bind (.onError blind_ensureFresh) fun _ =>
    .bind (blind_cache nofun nofun rfl) fun lun => ?_
  cases lun with
  | none => exact .pure _
  | some lun =>
    dsimp only
    split
    · exact .throw _
    · refine .bind (blind_cache nofun nofun rfl) fun tgt => ?_
      cases tgt with
      | none => exact .throw _
      | some tgt => exact .bind blind_assembleVolume fun _ => .pure _

theorem blind_growToRequested {i : Int} : Blind (growToRequested i sizeGB) := by
  refine .bind (.onError blind_smDo_san) fun lun => ?_
  split
  · exact .pure _
  · refine blind_smDo ?_ .san_bind
    exact .bind (.san _) fun _ => .bind (.san _) fun _ => .pure _

theorem blind_provisionLUN {source : Option ContentSource} {name : String} :
    Blind (provisionLUN source vp name sizeGB t) := by
  unfold provisionLUN
  dsimp only
  split
  · exact .bind (.decided _) fun sid => .bind (.onError blind_smDo_san) fun i =>
      .bind blind_growToRequested fun _ => .pure _
  · split
    · exact .bind (.decided _) fun eid => .bind (.onError blind_smDo_san) fun i =>
        .bind blind_growToRequested fun _ => .pure _
    · exact .onError blind_smDo_san

theorem blind_rollbackTarget {own : Bool} : Blind (rollbackTarget t own) := by
  unfold rollbackTarget
  split
  · exact .bind (.attempt blind_smDo_san) fun _ => .pure _
  · exact .pure _

theorem blind_createVolume (c : Controller) (req : CreateVolumeRequest) :
    Blind (createVolume c req) := by
  refine .bind (.decided _) fun vp => .bind (.decided _) fun sizeGB =>
    .bind blind_findExistingVolume fun existing => ?_
  cases existing with
  | some v => exact .pure v
  | none =>
    refine .bind ?_ fun p => ?_
    · unfold resolveTarget
      split
      · exact .pure _
      · exact .bind (.onError blind_smDo_san) fun _ => .pure _
    · refine .bind (.attempt blind_provisionLUN) fun r => ?_
      cases r with
      | ok i => exact blind_assembleVolume
      | error e => exact .bind blind_rollbackTarget fun _ => .throw e

theorem blind_volumeExists (id : String) : Blind (volumeExists id) := by
  refine .bind (.decided _) fun eid => .bind (.attempt blind_smDo_san) fun r => ?_
  cases r with
  | error e =>
    dsimp only
    split
    · exact .throw _
    · exact .pure _
  | ok lun =>
    dsimp only
    split
    · exact .pure _
    · split
      · exact .pure _
      · exact .pure _

theorem blind_getCapacity (c : Controller) (params : StrMap) : Blind (getCapacity c params) := by
  refine .bind (.decided _) fun pool => ?_
  split
  · exact .throw _
  · exact .onError blind_smDo_san

theorem blind_ensureLUNIsOurs (eid : ExternalID) : Blind (ensureLUNIsOurs eid) := by
  unfold ensureLUNIsOurs
  split
  · exact .pure _
  · refine .bind (.attempt blind_smDo_san) fun r => ?_
    cases r with
    | error e => exact .throw _
    | ok lun =>
      dsimp only
      split
      · exact .throw _
      · exact .pure _

theorem blind_expandVolume (id : String) (cr : CapacityRange) : Blind (expandVolume id cr) := by
  refine .bind (.decided _) fun eid => .bind (.decided _) fun sizeGB =>
    .bind (blind_ensureLUNIsOurs eid) fun _ => .bind (.onError (blind_smDo ?_ .san_bind))
      fun _ => .pure _
  exact .bind (.san _) fun _ => .bind (.san _) fun _ => .pure _

theorem blind_createSnapshot (c : Controller) (req : CreateSnapshotRequest) :
    Blind (createSnapshot c req) :=
  .bind (.decided _) fun eid => .bind (blind_ensureLUNIsOurs eid) fun _ =>
    .bind (.onError blind_smDo_san) fun _ => .pure _

theorem blind_snapshotsForLUN (c : Controller) (i : Int) (src : String) :
    Blind (snapshotsForLUN c i src) :=
  .bind (.onError blind_smDo_san) fun _ => .pure _

theorem blind_listMapped (luns : List LUN) : Blind (listMapped luns) := by
  induction luns with
  | nil => exact .pure _
  | cons lun luns ih =>
    refine .bind (blind_cache nofun nofun rfl) fun t => ?_
    cases t with
    | none => exact ih
    | some t => exact .bind ih fun _ => .pure _

theorem blind_listVolumes : Blind listVolumes :=
  .bind (.onError blind_ensureFresh) fun _ => .bind (blind_cache nofun nofun rfl) blind_listMapped

theorem blind_snapshotsOfMapped (c : Controller) (luns : List LUN) :
    Blind (snapshotsOfMapped c luns) := by
  induction luns with
  | nil => exact .pure _
  | cons lun luns ih =>
    refine .bind (blind_cache nofun nofun rfl) fun t => ?_
    cases t with
    | none => exact ih
    | some t => exact .bind (blind_snapshotsForLUN _ _ _) fun _ => .bind ih fun _ => .pure _

theorem blind_listSnapshots (c : Controller) (src : String) : Blind (listSnapshots c src) := by
  unfold listSnapshots
  split
  · exact .bind (.decided _) fun eid => blind_snapshotsForLUN _ _ _
  · exact .bind (.onError blind_ensureFresh) fun _ =>
      .bind (blind_cache nofun nofun rfl) (blind_snapshotsOfMapped c)

end

end NomadCsi.Qnap
