import NomadCsi.Local.Create

/-!
# What an operation leaves alone

`Framed V W s t` says of a state `t` that was reached from `s` that everything is as it was, up to
the zvols `V` and the snapshots `W`; `Framed.serve` is the step: which commands keep it. A create
changes and drops only what it has made itself, so there the order of its commands matters.
-/

namespace NomadCsi.Local

open Lib Lib.Go Driver Zfs

def snapOf (s : Store) (ds name : String) : Option Snap :=
  if (s.vols.lookup ds).isSome then s.snaps.lookup (ds, name) else none

variable {ds : String}

variable {name : String} {s : Store} {sn : Snap}

theorem snapOf_eq_some : snapOf s ds name = some sn ↔
      (s.vols.lookup ds).isSome = true ∧ s.snaps.lookup (ds, name) = some sn := by
  unfold snapOf
  by_cases h : (s.vols.lookup ds).isSome = true
  · rw [if_pos h]
    simp [h]
  · rw [if_neg h]
    simp [h]

/-! ### The relation -/

/-- From `s` to `s'` the zvols outside `V` and the snapshots outside `W` are as they were. -/
structure Framed (V : String → Prop) (W : String → String → Prop) (s s' : Store) : Prop where
  vols : ∀ ds v, ¬ V ds → s.vols.lookup ds = some v → s'.vols.lookup ds = some v
  snaps : ∀ ds name sn, ¬ W ds name → snapOf s ds name = some sn → snapOf s' ds name = some sn

/-- What a command must respect to keep to a frame: it alters only what is outside the frame or
was not there. A zvol with a snapshot inside the frame cannot be destroyed. -/
def Spares (V : String → Prop) (W : String → String → Prop) (s : Store) : Cmd → Prop
  | .setVolsize ds _ | .setProp ds _ _ => V ds ∨ s.vols.lookup ds = none
  | .destroy ds => (∀ name sn, snapOf s ds name = some sn → W ds name) → V ds
  | .destroySnapshot ds name => W ds name ∨ snapOf s ds name = none
  | _ => True

theorem spares_of_reads {V : String → Prop} {W : String → String → Prop} {c : Cmd}
    (h : c.reads = true) : Spares V W s c := by
  cases c <;> trivial

namespace Framed

variable {V : String → Prop} {W : String → String → Prop} {s t t' : Store} {c : Cmd} {out : c.Out}

theorem refl (s : Store) : Framed V W s s := ⟨fun _ _ _ h => h, fun _ _ _ _ h => h⟩

theorem present (hserve : serve t c = (.ok out, t')) (hsn : snapOf t ds name = some sn) :
    (t'.vols.lookup ds).isSome = true := by
  obtain ⟨hds, hlookup⟩ := snapOf_eq_some.1 hsn
  have heffect := serve_vols hserve
  generalize t'.vols = m at heffect
  -- what an insertion leaves
  have hinsert : ∀ d v, ((t.vols.insert d v).lookup ds).isSome = true := by
    intro d v
    by_cases hd : ds = d
    · rw [hd, AList.lookup_insert]
      rfl
    · rw [AList.lookup_insert_ne hd]
      exact hds
  cases heffect with
  | create | recv | resize | setProp => exact hinsert _ _
  | @destroy d =>
    have hd : ds ≠ d := by
      rintro rfl
      cases (hasSnapshots_of_lookup hlookup).symm.trans (hasSnapshots_of_destroy hserve)
    rw [AList.lookup_erase_ne hd]
    exact hds
  | other => exact hds

theorem serve_vols_of (h : Framed V W s t) (hserve : serve t c = (.ok out, t'))
    (hc : Spares V W s c) {v : Zvol} (hV : ¬ V ds) (hv : s.vols.lookup ds = some v) :
    t'.vols.lookup ds = some v := by
  have hvt := h.vols ds v hV hv
  have heffect := serve_vols hserve
  generalize t'.vols = m at heffect
  -- a zvol that is altered is outside the frame, or new
  have hspared : ∀ {d : String} (v' : Zvol), V d ∨ s.vols.lookup d = none →
      (t.vols.insert d v').lookup ds = some v := by
    intro d v' hd
    have hne : ds ≠ d := by
      rintro rfl
      rcases hd with hd | hd
      · exact hV hd
      · rw [hd] at hv
        cases hv
    rw [AList.lookup_insert_ne hne]
    exact hvt
  have hnew : ∀ {d : String} (v' : Zvol), t.vols.lookup d = none →
      (t.vols.insert d v').lookup ds = some v := by
    intro d v' hd
    have hne : ds ≠ d := by
      rintro rfl
      rw [hd] at hvt
      cases hvt
    rw [AList.lookup_insert_ne hne]
    exact hvt
  cases heffect with
  | create hnone | recv hnone => exact hnew _ hnone
  | resize | setProp => exact hspared _ hc
  | @destroy d =>
    have hne : ds ≠ d := by
      rintro rfl
      refine hV (hc fun name sn hsn => ?_)
      -- a snapshot inside the frame would still be there
      by_contra hW
      obtain ⟨-, hlookup⟩ := snapOf_eq_some.1 (h.snaps ds name sn hW hsn)
      cases (hasSnapshots_of_lookup hlookup).symm.trans (hasSnapshots_of_destroy hserve)
    rw [AList.lookup_erase_ne hne]
    exact hvt
  | other => exact hvt

theorem serve_snaps_of (h : Framed V W s t) (hserve : serve t c = (.ok out, t'))
    (hc : Spares V W s c) (hW : ¬ W ds name) (hsn : snapOf s ds name = some sn) :
    snapOf t' ds name = some sn := by
  have hsnt := h.snaps ds name sn hW hsn
  refine snapOf_eq_some.2 ⟨present hserve hsnt, ?_⟩
  obtain ⟨hds, hlookup⟩ := snapOf_eq_some.1 hsnt
  have heffect := serve_snaps hserve
  have hvols := serve_vols hserve
  generalize t'.snaps = m at heffect
  generalize t'.vols = m' at hvols
  cases heffect with
  | @snapshot d n sn' hnone =>
    have hne : (ds, name) ≠ (d, n) := by
      rintro ⟨⟩
      rw [hnone] at hlookup
      cases hlookup
    rw [AList.lookup_insert_ne hne]
    exact hlookup
  | @recv source snap d sn' =>
    -- the dataset that is received was not there
    have hnone : t.vols.lookup d = none := by
      cases hvols with
      | recv hnone => exact hnone
      | other hc => cases hc
    have hne : (ds, name) ≠ (d, snap) := by
      rintro ⟨⟩
      rw [hnone] at hds
      cases hds
    rw [AList.lookup_insert_ne hne]
    exact hlookup
  | @destroy d n =>
    have hne : (ds, name) ≠ (d, n) := by
      rintro ⟨⟩
      rcases hc with hc | hc
      · exact hW hc
      · rw [hc] at hsn
        cases hsn
    rw [AList.lookup_erase_ne hne]
    exact hlookup
  | other => exact hlookup

theorem serve (h : Framed V W s t) (hserve : Zfs.serve t c = (.ok out, t'))
    (hc : Spares V W s c) : Framed V W s t' :=
  ⟨fun _ _ => h.serve_vols_of hserve hc, fun _ _ _ => h.serve_snaps_of hserve hc⟩

theorem act (h : Framed V W s t) (ch : Fault) (hc : Spares V W s c) :
    Framed V W s (zfsAct t c ch).2 :=
  zfsAct_elim (Q := fun x => Framed V W s x.2) ch (fun _ => h) fun _ _ hs => h.serve hs hc

end Framed

/-! ### Creating -/

section

variable {s t : Store} {c : Controller} {a : CreateArgs}

/-- Nothing that was there is altered. -/
abbrev Untouched : Store → Store → Prop := Framed (fun _ => False) fun _ _ => False

/-- A program from `t`, a state that has left `s` untouched, leaves it untouched. -/
def Sparing (s : Store) {ε α : Type} (x : ExceptT ε (Prog Cmd Cmd.Reply) α) (t : Store)
    (Q : α → Store → Prop) : Prop :=
  Ends zfsAct (fun _ => True) x t (fun a t' => Untouched s t' ∧ Q a t') fun _ t' => Untouched s t'

namespace Sparing

variable {ε δ α β : Type} {P Q : α → Store → Prop}

variable {x : Script ε α}

theorem bind {f : α → Script ε β} {P : β → Store → Prop}
    (hx : Sparing s x t Q) (hf : ∀ a t', Untouched s t' → Q a t' → Sparing s (f a) t' P) :
    Sparing s (x >>= f) t P :=
  Ends.bind hx fun a t' h => hf a t' h.1 h.2

theorem onError {f : δ → ε} {x : Script δ α} (hx : Sparing s x t Q) :
    Sparing s (onError f x) t Q :=
  Ends.onError hx

theorem mono (hx : Sparing s x t P) (hQ : ∀ a t', P a t' → Q a t') : Sparing s x t Q :=
  Ends.mono hx (fun a t' h => ⟨h.1, hQ a t' h.2⟩) fun _ _ h => h

theorem pure {a : α} (h : Untouched s t) (hq : Q a t) :
    Sparing s (Pure.pure a : Script ε α) t Q :=
  Ends.pure ⟨h, hq⟩

theorem throw {e : ε} (h : Untouched s t) :
    Sparing s (MonadExcept.throw e : Script ε α) t Q :=
  Ends.throw h

theorem command {cmd : Cmd} {msg : String} (h : Untouched s t)
    (hc : Spares (fun _ => False) (fun _ _ => False) s cmd) :
    Sparing s (perform cmd >>= fun r => outcome msg r : Tool cmd.Out) t fun out t' =>
      serve t cmd = (.ok out, t') :=
  ends_outcome (fun _ => h) fun _ _ hserve => ⟨h.serve hserve hc, hserve⟩

theorem reads (h : Untouched s t) (hx : x.run.Calls fun cmd => cmd.reads = true) :
    Sparing s x t fun _ t' => t' = t := by
  refine Ends.mono (ends_of_reads hx (yields_true x t)) ?_ ?_
  · rintro _ _ ⟨rfl, -⟩
    exact ⟨h, rfl⟩
  · rintro _ _ rfl
    exact h

end Sparing

theorem sparing_cloneIndependent {source snap dest : String} (h : Untouched s t) :
    Sparing s (cloneIndependent source snap dest) t fun _ _ => s.vols.lookup dest = none := by
  unfold cloneIndependent
  rw [← bind_assoc]
  refine Sparing.bind (Sparing.command h trivial) ?_
  intro _ t' h' hserve
  have hnone : s.vols.lookup dest = none := by
    have heffect := serve_vols hserve
    generalize t'.vols = m at heffect
    cases heffect with
    | recv hnone =>
      cases hs : s.vols.lookup dest with
      | none => rfl
      | some v => cases (h.vols dest v id hs).symm.trans hnone
    | other hc => cases hc
  refine Sparing.onError (Sparing.mono (Sparing.command h' (.inr ?_)) fun _ _ _ => hnone)
  unfold snapOf
  rw [hnone]
  rfl

theorem sparing_finishCopy {src : String} {want : Int} (h : Untouched s t)
    (hnone : s.vols.lookup ds = none) :
    Sparing s (finishCopy ds src want) t fun _ _ => True := by
  refine Sparing.bind (Sparing.onError (Sparing.command h (.inr hnone))) fun _ t' h' _ => ?_
  refine Sparing.bind (Sparing.onError (Sparing.command h' trivial)) fun cur t'' h'' _ => ?_
  split
  · exact Sparing.pure h'' trivial
  · exact Sparing.onError (Sparing.mono (Sparing.command h'' (.inr hnone)) fun _ _ _ => trivial)

theorem sparing_checkCapacity {pool : String} {size : Int} (h : Untouched s t) :
    Sparing s (checkCapacity c pool size) t fun _ t' => t' = t :=
  Sparing.reads h (calls_checkCapacity pool size rfl rfl)

theorem sparing_restoreFromSnapshot (h : Untouched s t) :
    Sparing s (restoreFromSnapshot c a ds) t fun _ _ => True := by
  unfold restoreFromSnapshot
  cases parseSnapshotID a.contentSnapshotID with
  | error e => exact Sparing.throw h
  | ok sid =>
    rw [decided_ok_bind]
    split
    · exact Sparing.throw h
    · refine Sparing.bind (sparing_checkCapacity h) fun _ t' h' _ => ?_
      refine Sparing.bind (Sparing.onError (sparing_cloneIndependent h')) fun _ t'' h'' hnone => ?_
      exact sparing_finishCopy h'' hnone

theorem sparing_copyVolume {source snap dest : String} (h : Untouched s t)
    (hsnap : snapOf s source snap = none) :
    Sparing s (copyVolume source snap dest) t fun _ _ => s.vols.lookup dest = none := by
  have hdrop : ∀ {t'}, Untouched s t' →
      Ends zfsAct (fun _ => True) (attempt (destroySnapshot source snap) : LocalOp _) t'
        (fun _ t'' => Untouched s t'') fun _ t'' => Untouched s t'' := fun h' =>
    Ends.attempt (Ends.mono (Sparing.command h' (.inr hsnap)) (fun _ _ h => h.1) fun _ _ h => h)
  unfold copyVolume
  refine Ends.bind (Ends.attempt (P := fun r t' => Untouched s t' ∧
    (r.toOption.isSome → s.vols.lookup dest = none)) (Ends.mono (sparing_cloneIndependent h)
      (fun _ _ h => ⟨h.1, fun _ => h.2⟩) fun _ _ h => ⟨h, fun h => by cases h⟩)) ?_
  rintro (e | u) t' ⟨h', hnone⟩
  · exact Ends.bind (hdrop h') fun _ _ h'' => Ends.throw h''
  · exact Ends.bind (hdrop h') fun _ _ h'' => Ends.pure ⟨h'', hnone rfl⟩

theorem sparing_cloneFromVolume : Sparing s (cloneFromVolume c a ds) s fun _ _ => True := by
  have h : Untouched s s := .refl s
  unfold cloneFromVolume
  cases parseExternalID a.contentVolumeID with
  | error e => exact Sparing.throw h
  | ok src =>
    rw [decided_ok_bind]
    split
    · exact Sparing.throw h
    · refine Sparing.bind (sparing_checkCapacity h) ?_
      rintro _ s - rfl
      refine Sparing.bind (Sparing.onError (Sparing.command (.refl s) trivial))
        fun _ t h hserve => ?_
      have hsnap : snapOf s src.dataset ("csiclone-" ++ a.name) = none := by
        have heffect := serve_snaps hserve
        generalize t.snaps = m at heffect
        unfold snapOf
        cases heffect with
        | snapshot hnone =>
          rw [hnone]
          split <;> rfl
        | other hc => cases hc
      refine Sparing.bind (sparing_copyVolume h hsnap) fun _ t' h' hnone => ?_
      exact sparing_finishCopy h' hnone

theorem sparing_provision : Sparing s (provision c a ds) s fun _ _ => True := by
  unfold provision
  split
  · exact sparing_restoreFromSnapshot (.refl s)
  · split
    · exact sparing_cloneFromVolume
    · refine Sparing.bind (sparing_checkCapacity (.refl s)) fun _ t h _ => ?_
      exact Sparing.onError (Sparing.mono (Sparing.command h trivial) fun _ _ _ => trivial)

theorem sparing_localCreate : Sparing s (localCreate c a) s fun _ _ => True := by
  refine Sparing.bind (Sparing.reads (.refl s) (calls_run_bind (calls_onError (calls_poolStatus rfl))
    fun _ => trivial)) ?_
  rintro ready s - rfl
  split
  · refine Sparing.bind (Sparing.bind (Sparing.reads (.refl s)
      (calls_onError (calls_datasetExists rfl))) ?_) (Q := fun _ _ => True)
      fun _ _ h _ => Sparing.pure h trivial
    rintro found s - rfl
    split
    · exact Sparing.mono (Sparing.reads (.refl s) (calls_checkExisting rfl rfl)) fun _ _ _ => trivial
    · exact sparing_provision
  · exact Sparing.throw (.refl s)

end

/-! ### All operations -/

namespace Request

def target : Request → Option String
  | delete id | expand id _ _ => (parseExternalID id).toOption.map (·.dataset)
  | _ => none

def targetSnapshot : Request → Option (String × String)
  | deleteSnapshot id => (parseSnapshotID id).toOption.map fun sid => (sid.dataset, sid.snapName)
  | _ => none

/-- The zvols that the request may alter: its target, which a delete leaves if it has snapshots. -/
def Alters (r : Request) (s : Store) (ds : String) : Prop :=
  r.target = some ds ∧ ∀ id, r = .delete id → ∀ name, snapOf s ds name = none

def Drops (r : Request) (ds name : String) : Prop := r.targetSnapshot = some (ds, name)

theorem Changes.spares {c : Controller} {r : Request} {cmd : Cmd} (hr : ∀ a, r ≠ .create a)
    (h : r.Changes c cmd) (s : Store) : Spares (r.Alters s) r.Drops s cmd := by
  cases h with
  | delete hp _ =>
    intro hno
    refine ⟨by simp [target, hp, Except.toOption], fun _ _ name => ?_⟩
    cases hsn : snapOf s _ name with
    | none => rfl
    | some sn => cases hno name sn hsn
  | expand hp => exact .inl ⟨by simp [target, hp, Except.toOption], fun _ h => by cases h⟩
  | snapshot hp => trivial
  | deleteSnapshot hp => exact .inl (by simp [Drops, targetSnapshot, hp, Except.toOption])
  | _ => exact absurd rfl (hr _)

theorem framed_run {c : Controller} {r : Request} {s' : Store}
    {tr : List ZfsEv} {res : Except Error r.Result}
    (hrun : Runs zfsAct (r.run c).run s tr res s') : Framed (r.Alters s) r.Drops s s' := by
  by_cases hr : ∃ a, r = .create a
  · obtain ⟨a, rfl⟩ := hr
    have h : Untouched s s' := by
      have houtcome := (Ends.runs sparing_localCreate hrun).2
      cases res with
      | ok _ => exact houtcome.1
      | error _ => exact houtcome
    exact ⟨fun ds v _ => h.vols ds v id, fun ds name sn _ => h.snaps ds name sn id⟩
  · refine (hrun.invariant (K := r.Issues c) (fun t cmd ch hK h => h.act ch ?_) (calls_run c r)
      (.refl s)).2
    rcases hK with hreads | hchanges
    · exact spares_of_reads hreads
    · exact hchanges.spares (fun a ha => hr ⟨a, ha⟩) s

end Request

/-- Whichever commands fail, an operation leaves every zvol and every snapshot but its target as it
was, and a delete leaves a zvol with snapshots. -/
theorem request_frame {c : Controller} {r : Request} {s s' : Store}
    {tr : List ZfsEv} {res : Except Error r.Result}
    (hrun : Runs zfsAct (r.run c).run s tr res s') :
    (∀ ds v, r.target ≠ some ds → s.vols.lookup ds = some v → s'.vols.lookup ds = some v) ∧
    (∀ ds name sn, r.targetSnapshot ≠ some (ds, name) → snapOf s ds name = some sn →
      snapOf s' ds name = some sn) ∧
    (∀ id, r = .delete id → ∀ ds v name sn, snapOf s ds name = some sn →
      s.vols.lookup ds = some v → s'.vols.lookup ds = some v) := by
  have h := Request.framed_run hrun
  refine ⟨fun ds v hne => h.vols ds v fun halters => hne halters.1, h.snaps, ?_⟩
  intro id hr ds v name sn hsn
  refine h.vols ds v fun halters => ?_
  rw [halters.2 id hr name] at hsn
  cases hsn

/-- The pool `tank` with the volumes `vol` and `src`. -/
def tankPair : Store :=
  ((tankStore 90000).putVol "tank/csi/vol" ⟨16384, "16K", ∅, 0⟩).putVol "tank/csi/src"
    ⟨16384, "16K", ∅, 1⟩

theorem request_frame_tank : ∃ tr res s', Runs zfsAct
    ((Request.delete "local/v1/a/tank/csi/vol").run (tankController "a")).run tankPair tr res s' ∧
    s'.vols.lookup "tank/csi/vol" = none ∧
    s'.vols.lookup "tank/csi/src" = some ⟨16384, "16K", ∅, 1⟩ := by
  obtain ⟨tr, res, s', hrun, hgone⟩ := runs_of_exec zfsAct
    ((Request.delete "local/v1/a/tank/csi/vol").run (tankController "a")).run tankPair
    (List.replicate 10 {})
    (fun r => (r.2.2.vols.lookup "tank/csi/vol").isNone = true) (by decide)
  refine ⟨tr, res, s', hrun, Option.isNone_iff_eq_none.1 hgone, ?_⟩
  exact (request_frame hrun).1 "tank/csi/src" _ (by decide) rfl

end NomadCsi.Local
