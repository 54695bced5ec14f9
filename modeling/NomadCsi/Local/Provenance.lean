import NomadCsi.Local.Create

/-!
# Where a local volume comes from

Runs of the operations on one node, without faults, with a record of what made each zvol: the
source id that was asked for and the command (`Made`). The store carries a record of its own, the
source property, and `Recorded` ties the two after every operation. A create that finds its
dataset compares the property when it asks for a copy, and does not look at it when it asks for
a fresh volume.
-/

namespace NomadCsi.Local

open Lib Lib.Go Driver Zfs

/-! ### The record -/

/-- The source id of the request and the command that made a zvol. -/
structure Made where
  source : String
  cmd : Cmd
deriving DecidableEq, Repr

/-- What a command that succeeds adds to the record. -/
def noteCmd (source : String) (g : Map String Made) : Cmd → Map String Made
  | .create ds size block => g.insert ds ⟨source, .create ds size block⟩
  | .sendRecv src snap ds => g.insert ds ⟨source, .sendRecv src snap ds⟩
  | .destroy ds => g.erase ds
  | _ => g

def note (source : String) (g : Map String Made) (e : ZfsEv) :
    Map String Made :=
  if e.reply.isOk then noteCmd source g e.call else g

/-- The command makes `ds` from the source id: from nothing if it is empty, otherwise from the
snapshot it names on `node`, or from a transient snapshot of the volume it names there. -/
inductive MadeFrom (node id ds : String) : Cmd → Prop where
  | fresh (size : Int) (block : String) : id = "" → MadeFrom node id ds (.create ds size block)
  | restored {sid : SnapshotID} : parseSnapshotID id = .ok sid → sid.node = node →
      MadeFrom node id ds (.sendRecv sid.dataset sid.snapName ds)
  | cloned {e : ExternalID} (name : String) : parseExternalID id = .ok e → e.node = node →
      MadeFrom node id ds (.sendRecv e.dataset ("csiclone-" ++ name) ds)

/-- The record says that `ds` was made from the source id. -/
def OfOrigin (node id ds : String) (g : Map String Made) : Prop :=
  ∃ cmd, g.lookup ds = some ⟨id, cmd⟩ ∧ MadeFrom node id ds cmd

variable {a : CreateArgs}

theorem madeFrom_of_copySource {c : Controller} {src snap : String} (h : CopySource c a src snap)
    (ds : String) : MadeFrom c.localNode (contentSourceID a) ds (.sendRecv src snap ds) := by
  cases h with
  | snapshot hsnap hp hnode =>
    rw [show contentSourceID a = a.contentSnapshotID from if_pos hsnap]
    exact .restored hp hnode
  | volume hsnap hvol hp hnode =>
    rw [show contentSourceID a = a.contentVolumeID from if_neg (not_not.2 hsnap)]
    exact .cloned a.name hp hnode

theorem step_note {I : Store → Map String Made → Prop} {s : Store} {g : Map String Made} {c : Cmd}
    {source : String} (ch : Fault) (hI : I s g)
    (hok : ∀ out s', serve s c = (.ok out, s') → I s' (noteCmd source g c)) :
    I (zfsAct s c ch).2 (note source g ⟨s, c, ch, (zfsAct s c ch).1⟩) :=
  zfsAct_elim (Q := fun x => I x.2 (note source g ⟨s, c, ch, x.1⟩)) ch (fun _ => hI) hok

/-! ### What a create leaves -/

/-- Other zvols keep their properties and their record; what is under `ds` was there before, or was
made from the source id. -/
structure Filled (node id ds : String) (s : Store) (g : Map String Made) (s' : Store)
    (g' : Map String Made) : Prop where
  others : ∀ d, d ≠ ds → (s'.vols.lookup d).map (·.props) = (s.vols.lookup d).map (·.props) ∧
    g'.lookup d = g.lookup d
  own : (s'.vols.lookup ds).isSome = (s.vols.lookup ds).isSome ∧ g'.lookup ds = g.lookup ds ∨
    s.vols.lookup ds = none ∧ OfOrigin node id ds g'

variable {v : Zvol}

section

variable {node id ds : String} {s t t' : Store} {g k : Map String Made}

theorem Filled.refl (node id ds : String) (s : Store) (g : Map String Made) :
    Filled node id ds s g s g :=
  ⟨fun _ _ => ⟨rfl, rfl⟩, .inl ⟨rfl, rfl⟩⟩

theorem Filled.make (h : Filled node id ds s g t k) {cmd : Cmd} (hnone : t.vols.lookup ds = none)
    (ht : t'.vols = t.vols.insert ds v) (hcmd : MadeFrom node id ds cmd) :
    Filled node id ds s g t' (k.insert ds ⟨id, cmd⟩) := by
  refine ⟨fun d hd => ?_, .inr ⟨?_, cmd, AList.lookup_insert _, hcmd⟩⟩
  · rw [ht, AList.lookup_insert_ne hd, AList.lookup_insert_ne hd]
    exact h.others d hd
  · rcases h.own with ⟨hsame, -⟩ | ⟨habsent, -⟩
    · rw [hnone] at hsame
      exact Option.not_isSome_iff_eq_none.1 (by rw [← hsame]; simp)
    · exact habsent

theorem Filled.change (h : Filled node id ds s g t k) {d : String} {v' : Zvol}
    (hv : t.vols.lookup d = some v) (ht : t'.vols = t.vols.insert d v')
    (hprops : d ≠ ds → v'.props = v.props) : Filled node id ds s g t' k := by
  refine ⟨fun e he => ?_, ?_⟩
  · refine ⟨?_, (h.others e he).2⟩
    rw [← (h.others e he).1, ht]
    by_cases hd : e = d
    · subst hd
      rw [AList.lookup_insert, hv, Option.map_some, Option.map_some, hprops he]
    · rw [AList.lookup_insert_ne hd]
  · refine h.own.imp (fun hl => ⟨?_, hl.2⟩) fun hr => hr
    rw [← hl.1, ht]
    by_cases hd : ds = d
    · subst hd
      rw [AList.lookup_insert, hv]
      rfl
    · rw [AList.lookup_insert_ne hd]

theorem Filled.keep (h : Filled node id ds s g t k) (ht : t'.vols = t.vols) :
    Filled node id ds s g t' k := by
  refine ⟨fun d hd => ?_, ?_⟩
  · rw [ht]
    exact h.others d hd
  · rw [ht]
    exact h.own

theorem filled_of_runs {c : Controller} {tr : List ZfsEv}
    {r : Except Error CreateResult} (hrun : Runs zfsAct (localCreate c a).run s tr r t)
    (g : Map String Made) : Filled c.localNode (contentSourceID a) (a.dataset c) s g t
      (tr.foldl (note (contentSourceID a)) g) := by
  refine hrun.fold (I := Filled c.localNode (contentSourceID a) (a.dataset c) s g) ?_
    calls_localCreate (.refl ..)
  intro t k cmd ch hK hI
  refine step_note ch hI fun out t' hserve => ?_
  have heffect := serve_vols hserve
  generalize hm : t'.vols = m' at heffect
  rcases hK with hreads | hchanges
  · cases heffect with
    | other => cases cmd <;> first | exact hI.keep hm | cases hreads
    | _ => cases hreads
  · cases hchanges with
    | fresh hsrc =>
      cases heffect with
      | create hnone => exact hI.make hnone hm (.fresh _ _ hsrc)
      | other hc => cases hc
    | copy hsource =>
      cases heffect with
      | recv hnone => exact hI.make hnone hm (madeFrom_of_copySource hsource _)
      | other hc => cases hc
    | record =>
      cases heffect with
      | setProp hv => exact hI.change hv hm fun hne => absurd rfl hne
      | other hc => cases hc
    | grow =>
      cases heffect with
      | resize hv => exact hI.change hv hm fun _ => rfl
      | other hc => cases hc
    | _ =>
      cases heffect with
      | other => exact hI.keep hm

end

/-! ### The source property -/

/-- What a create from the source id leaves in the source property. -/
def recordedAs (id : String) : Option String := if id = "" then none else some id

/-- The zvol under `ds` has the properties it had, or is new with the source recorded. -/
def Settled (id ds : String) (s s' : Store) : Prop :=
  (s'.vols.lookup ds).map (·.props) = (s.vols.lookup ds).map (·.props) ∨
    s.vols.lookup ds = none ∧ ∃ v, s'.vols.lookup ds = some v ∧
      v.props.lookup sourceProp = recordedAs id

section

variable {c : Controller} {a : CreateArgs} {ds : String} {s : Store}

/-- A program without faults on the node's ZFS. -/
abbrev Cleanly {ε α : Type} (x : ExceptT ε (Prog Cmd Cmd.Reply) α) (s : Store)
    (Q : α → Store → Prop) (X : ε → Store → Prop) : Prop :=
  Evals zfsAct {} x s Q X

theorem cleanly_outcome {cmd : Cmd} {msg : String} {Q : cmd.Out → Store → Prop}
    {X : String → Store → Prop} (herr : ∀ e, serve s cmd = (.error e, s) → ∀ t, X t s)
    (hok : ∀ out s', serve s cmd = (.ok out, s') → Q out s') :
    Cleanly (perform cmd >>= fun r => outcome msg r : Tool cmd.Out) s Q X := by
  unfold Cleanly Evals
  rw [eval_outcome]
  cases hs : serve s cmd with
  | mk r s' =>
    cases r with
    | ok out => exact hok out s' hs
    | error e =>
      obtain rfl := serve_error hs
      exact herr e hs _

theorem cleanly_cloneIndependent (source snap : String) :
    Cleanly (cloneIndependent source snap ds) s
      (fun _ s' => s.vols.lookup ds = none ∧ ∃ v, s'.zvol? ds = some v)
      fun _ s' => s' = s := by
  unfold cloneIndependent
  rw [← bind_assoc]
  refine Evals.bind (cleanly_outcome (Q := fun _ s' => serve s (.sendRecv source snap ds) =
    (.ok (), s')) (fun _ _ _ => rfl) fun _ _ h => h) ?_
  intro _ s1 hrecv
  obtain ⟨sn, -, -, -, hv⟩ := serve_sendRecv hrecv
  have habsent : s.vols.lookup ds = none := by
    have heffect := serve_vols hrecv
    generalize s1.vols = m at heffect
    cases heffect with
    | recv hnone => exact hnone
    | other hc => cases hc
  refine Evals.onError (cleanly_outcome ?_ ?_)
  · -- the received snapshot is there
    intro e he
    obtain ⟨sn', hsnap⟩ : ∃ sn', s1.snaps.lookup (ds, snap) = some sn' := by
      have heffect := serve_snaps hrecv
      generalize s1.snaps = m at heffect
      cases heffect with
      | recv => exact ⟨_, AList.lookup_insert _⟩
      | other hc => cases hc
    unfold serve refused at he
    dsimp only at he
    rw [hv, hsnap] at he
    cases (Prod.mk.inj he).1
  · intro _ s2 hdrop
    exact ⟨habsent, _, ((serve_destroySnapshot hdrop).2 ds).trans hv⟩

theorem cleanly_finishCopy {src : String} {want : Int} (hv : s.zvol? ds = some v) :
    Cleanly (finishCopy ds src want) s
      (fun _ s' => ∃ v', s'.vols.lookup ds = some v' ∧ v'.props.lookup sourceProp = some src)
      fun _ s' => ∃ v', s'.vols.lookup ds = some v' ∧ v'.props.lookup sourceProp = some src := by
  refine Evals.bind (Q := fun _ s1 => ∃ v₁, s1.zvol? ds = some v₁ ∧
    v₁.props.lookup sourceProp = some src) (Evals.onError (cleanly_outcome ?_ ?_)) ?_
  · intro e he
    unfold serve at he
    dsimp only at he
    rw [hv] at he
    cases (Prod.mk.inj he).1
  · intro _ s1 hset
    obtain ⟨v₁, -, -, hv1⟩ := serve_setProp hset
    exact ⟨_, hv1, AList.lookup_insert _⟩
  · rintro _ s1 ⟨v₁, hv1, hsrc⟩
    have hkept : ∃ v', s1.vols.lookup ds = some v' ∧ v'.props.lookup sourceProp = some src :=
      ⟨v₁, lookup_of_zvol? hv1, hsrc⟩
    refine Evals.bind (Evals.onError (cleanly_outcome (Q := fun _ s2 => s2 = s1)
      (fun _ _ _ => hkept) fun _ _ h => (serve_found rfl h).1)) ?_
    rintro cur s2 rfl
    split
    · exact hkept
    · refine Evals.onError (cleanly_outcome (fun _ _ _ => hkept) fun _ s3 hgrow => ?_)
      obtain ⟨v2, hv2, -, hv3⟩ := serve_setVolsize hgrow
      obtain rfl : v₁ = v2 := Option.some.inj (hv1.symm.trans hv2)
      exact ⟨_, lookup_of_zvol? hv3, hsrc⟩

theorem Settled.of_vols {id : String} {s' : Store} (h : s'.vols = s.vols) : Settled id ds s s' :=
  .inl (by rw [h])

theorem cleanly_copy {x : LocalOp Unit} {want : Int} (hsrc : contentSourceID a ≠ "")
    (hx : Cleanly x s (fun _ s' => s.vols.lookup ds = none ∧ ∃ v, s'.zvol? ds = some v)
      fun _ s' => s'.vols = s.vols) :
    Cleanly (x >>= fun _ => finishCopy ds (contentSourceID a) want) s
      (fun _ s' => Settled (contentSourceID a) ds s s')
      fun _ s' => Settled (contentSourceID a) ds s s' := by
  refine Evals.bind (hx.weaken fun _ _ h => .of_vols h) ?_
  rintro _ s1 ⟨hnone, v, hv⟩
  have hsettled : ∀ s', (∃ v', s'.vols.lookup ds = some v' ∧
      v'.props.lookup sourceProp = some (contentSourceID a)) →
      Settled (contentSourceID a) ds s s' := by
    rintro s' ⟨v', hv', hprop⟩
    refine .inr ⟨hnone, v', hv', ?_⟩
    rw [hprop, recordedAs, if_neg hsrc]
  exact (cleanly_finishCopy hv).mono (fun _ s' h => hsettled s' h) fun _ s' h => hsettled s' h

theorem cleanly_restoreFromSnapshot (hsnap : a.contentSnapshotID ≠ "") :
    Cleanly (restoreFromSnapshot c a ds) s (fun _ s' => Settled (contentSourceID a) ds s s')
      fun _ s' => Settled (contentSourceID a) ds s s' := by
  have hid : contentSourceID a = a.contentSnapshotID := if_pos hsnap
  unfold restoreFromSnapshot
  cases hp : parseSnapshotID a.contentSnapshotID with
  | error e => exact .of_vols rfl
  | ok sid =>
    rw [decided_ok_bind]
    split
    · exact .of_vols rfl
    · refine Evals.bind (.of_ends ((ends_checkCapacity _ _).weaken ?_)) ?_
      · rintro _ _ rfl
        exact .of_vols rfl
      · rintro _ _ rfl
        rw [← hid]
        refine cleanly_copy (hid ▸ hsnap) (Evals.onError ?_)
        refine (cleanly_cloneIndependent _ _).weaken ?_
        rintro _ _ rfl
        rfl

theorem cleanly_copyVolume (source snap : String) :
    Cleanly (copyVolume source snap ds) s
      (fun _ s' => s.vols.lookup ds = none ∧ ∃ v, s'.zvol? ds = some v)
      fun _ s' => s'.vols = s.vols := by
  refine Evals.bind (Evals.attempt (cleanly_cloneIndependent source snap)
    (P := Outcome (fun _ s' => s.vols.lookup ds = none ∧ ∃ v, s'.zvol? ds = some v)
      fun _ s' => s' = s)) ?_
  rintro (e | u) s1 h1
  · obtain rfl : s1 = s := h1
    refine Evals.bind (Q := fun _ s2 => s2.vols = s1.vols) (Evals.attempt (cleanly_outcome ?_ ?_)) ?_
    · exact fun _ _ _ => rfl
    · intro _ s2 hdrop
      exact vols_of_untouched rfl hdrop
    · exact fun _ _ h => h
  · obtain ⟨hnone, v, hv⟩ := h1
    refine Evals.bind (Q := fun _ s2 => ∃ v, s2.zvol? ds = some v)
      (Evals.attempt (cleanly_outcome ?_ ?_)) ?_
    · exact fun _ _ _ => ⟨v, hv⟩
    · intro _ s2 hdrop
      exact ⟨v, ((serve_destroySnapshot hdrop).2 ds).trans hv⟩
    · exact fun _ _ h => ⟨hnone, h⟩

theorem cleanly_cloneFromVolume (hsnap : a.contentSnapshotID = "") (hvol : a.contentVolumeID ≠ "") :
    Cleanly (cloneFromVolume c a ds) s (fun _ s' => Settled (contentSourceID a) ds s s')
      fun _ s' => Settled (contentSourceID a) ds s s' := by
  have hid : contentSourceID a = a.contentVolumeID := if_neg (not_not.2 hsnap)
  unfold cloneFromVolume
  cases hp : parseExternalID a.contentVolumeID with
  | error e => exact .of_vols rfl
  | ok src =>
    rw [decided_ok_bind]
    split
    · exact .of_vols rfl
    · refine Evals.bind (.of_ends ((ends_checkCapacity _ _).weaken ?_)) ?_
      · rintro _ _ rfl
        exact .of_vols rfl
      · rintro _ s rfl
        refine Evals.bind (Q := fun _ s1 => s1.vols = s.vols)
          (Evals.onError (cleanly_outcome ?_ ?_)) ?_
        · exact fun _ _ _ => .of_vols rfl
        · intro _ s1 htake
          exact vols_of_untouched rfl htake
        · intro _ s1 hs1
          rw [← hid]
          refine (cleanly_copy (hid ▸ hvol) (cleanly_copyVolume _ _)).mono ?_ ?_
          all_goals
            intro _ s' h
            unfold Settled at h ⊢
            rwa [hs1] at h

theorem cleanly_provision : Cleanly (provision c a ds) s
    (fun _ s' => Settled (contentSourceID a) ds s s')
    fun _ s' => Settled (contentSourceID a) ds s s' := by
  unfold provision
  split
  · next hsnap => exact cleanly_restoreFromSnapshot hsnap
  · next hsnap =>
    rw [not_not] at hsnap
    split
    · next hvol => exact cleanly_cloneFromVolume hsnap hvol
    · next hvol =>
      rw [not_not] at hvol
      refine Evals.bind (.of_ends ((ends_checkCapacity _ _).weaken ?_)) ?_
      · rintro _ _ rfl
        exact .of_vols rfl
      · rintro _ _ rfl
        refine Evals.onError (cleanly_outcome (fun _ _ _ => .of_vols rfl) fun _ s' hcreate => ?_)
        have heffect := serve_vols hcreate
        generalize hm : s'.vols = m at heffect
        cases heffect with
        | create hnone =>
          refine .inr ⟨hnone, _, hm ▸ AList.lookup_insert _, ?_⟩
          simp [recordedAs, contentSourceID, hsnap, hvol]
        | other hc => cases hc

/-- Without faults a create leaves its dataset as it was, or new with its source recorded. -/
theorem cleanly_localCreate : Cleanly (localCreate c a) s
    (fun _ s' => Settled (contentSourceID a) (a.dataset c) s s')
    fun _ s' => Settled (contentSourceID a) (a.dataset c) s s' := by
  have hreads : ∀ {α : Type} {x : LocalOp α}, x.run.Calls (fun c => c.reads = true) →
      Cleanly x s (fun _ s' => s' = s) fun _ s' => Settled (contentSourceID a) (a.dataset c) s s' := by
    intro α x hx
    refine .of_ends ((ends_of_reads hx (yields_true _ _)).mono (fun _ _ h => h.1) ?_)
    rintro _ _ rfl
    exact .of_vols rfl
  refine Evals.bind (hreads (calls_run_bind (calls_onError (calls_poolStatus rfl))
    fun _ => trivial)) ?_
  rintro ready s rfl
  split
  · refine Evals.bind (Evals.bind (hreads (calls_onError (calls_datasetExists rfl))) ?_)
      (Q := fun _ s' => Settled (contentSourceID a) (a.dataset c) s s') fun _ _ h => h
    rintro found _ rfl
    split
    · refine (hreads (calls_checkExisting rfl rfl)).mono ?_ fun _ _ h => h
      rintro _ _ rfl
      exact .of_vols rfl
    · exact cleanly_provision
  · exact .of_vols rfl

end

/-! ### Whole runs -/

/-- Every volume has a record, and the source property says the same. -/
def Recorded (c : Controller) (s : Store) (g : Map String Made) : Prop :=
  ∀ pool name v, s.vols.lookup (c.datasetFor pool name) = some v →
    ∃ id, OfOrigin c.localNode id (c.datasetFor pool name) g ∧
      v.props.lookup sourceProp = recordedAs id

def Request.source : Request → String
  | .create a => contentSourceID a
  | _ => ""

/-- What the node has served since `s0`, without faults, with the record of it. -/
inductive History (c : Controller) (s0 : Store) : Store → Map String Made → Prop where
  | start : History c s0 s0 ∅
  | serve {s s' : Store} {g : Map String Made} {tr : List ZfsEv}
      (r : Request) {res : Except Error r.Result} : History c s0 s g →
      Runs zfsAct (r.run c).run s tr res s' → (∀ e ∈ tr, e.choice = {}) →
      History c s0 s' (tr.foldl (note r.source) g)

def NoVolumes (c : Controller) (s : Store) : Prop :=
  ∀ pool name, s.vols.lookup (c.datasetFor pool name) = none

section

variable {c : Controller} {s s' : Store} {g : Map String Made}

theorem Recorded.create (h : Recorded c s g) {g' : Map String Made}
    (hfilled : Filled c.localNode (contentSourceID a) (a.dataset c) s g s' g')
    (hsettled : Settled (contentSourceID a) (a.dataset c) s s') : Recorded c s' g' := by
  intro pool name v hv
  by_cases hds : c.datasetFor pool name = a.dataset c
  · rw [hds] at hv ⊢
    rcases hfilled.own with ⟨hthere, hrec⟩ | ⟨hnone, horigin⟩
    · -- the zvol was there, and has kept its properties
      rcases hsettled with hprops | ⟨hnone, -⟩
      · rw [hv] at hprops
        obtain ⟨v0, hv0, hp⟩ := Option.map_eq_some_iff.1 hprops.symm
        change v0.props = v.props at hp
        obtain ⟨id, ⟨cmd, hg, hmade⟩, hsrc⟩ := h pool name v0 (hds ▸ hv0)
        rw [hds] at hg hmade
        exact ⟨id, ⟨cmd, hrec.trans hg, hmade⟩, hp ▸ hsrc⟩
      · rw [hv, hnone] at hthere
        cases hthere
    · -- the zvol is new
      rcases hsettled with hprops | ⟨-, v', hv', hsrc⟩
      · rw [hv, hnone] at hprops
        cases hprops
      · obtain rfl : v = v' := Option.some.inj (hv.symm.trans hv')
        exact ⟨_, horigin, hsrc⟩
  · obtain ⟨hprops, hrec⟩ := hfilled.others _ hds
    rw [hv] at hprops
    obtain ⟨v0, hv0, hp⟩ := Option.map_eq_some_iff.1 hprops.symm
    change v0.props = v.props at hp
    obtain ⟨id, ⟨cmd, hg, hmade⟩, hsrc⟩ := h pool name v0 hv0
    exact ⟨id, ⟨cmd, hrec.trans hg, hmade⟩, hp ▸ hsrc⟩

theorem Recorded.destroy (h : Recorded c s g) {ds : String} (hs : s'.vols = s.vols.erase ds) :
    Recorded c s' (g.erase ds) := by
  intro pool name v hv
  rw [hs] at hv
  by_cases hd : c.datasetFor pool name = ds
  · rw [hd, AList.lookup_erase] at hv
    cases hv
  · rw [AList.lookup_erase_ne hd] at hv
    obtain ⟨id, ⟨cmd, hg, hmade⟩, hsrc⟩ := h pool name v hv
    exact ⟨id, ⟨cmd, (AList.lookup_erase_ne hd).trans hg, hmade⟩, hsrc⟩

theorem Recorded.resize (h : Recorded c s g) {ds : String} {v0 : Zvol} {size : Int}
    (hv0 : s.vols.lookup ds = some v0) (hs : s'.vols = s.vols.insert ds { v0 with volsize := size }) :
    Recorded c s' g := by
  intro pool name v hv
  rw [hs] at hv
  by_cases hd : c.datasetFor pool name = ds
  · rw [hd, AList.lookup_insert] at hv
    obtain rfl := Option.some.inj hv
    exact h pool name v0 (hd ▸ hv0)
  · rw [AList.lookup_insert_ne hd] at hv
    exact h pool name v hv

theorem Recorded.keep (h : Recorded c s g) (hs : s'.vols = s.vols) : Recorded c s' g := by
  intro pool name v hv
  exact h pool name v (hs ▸ hv)

/-- So does any other operation, whatever fails: it deletes a volume, or keeps its properties. -/
theorem Recorded.other (h : Recorded c s g) {r : Request} (hr : ∀ a, r ≠ .create a)
    {tr : List ZfsEv} {res : Except Error r.Result}
    (hrun : Runs zfsAct (r.run c).run s tr res s') (source : String) :
    Recorded c s' (tr.foldl (note source) g) := by
  refine hrun.fold (I := Recorded c) ?_ (calls_run c r) h
  intro s g cmd ch hK h
  refine step_note ch h fun out s' hserve => ?_
  have heffect := serve_vols hserve
  generalize hm : s'.vols = m at heffect
  rcases hK with hreads | hchanges
  · cases heffect with
    | other => cases cmd <;> first | exact h.keep hm | cases hreads
    | _ => cases hreads
  · cases hchanges with
    | delete =>
      cases heffect with
      | destroy => exact h.destroy hm
      | other hc => cases hc
    | expand =>
      cases heffect with
      | resize hv0 => exact h.resize hv0 hm
      | other hc => cases hc
    | snapshot | deleteSnapshot =>
      cases heffect with
      | other => exact h.keep hm
    | _ => exact absurd rfl (hr _)

theorem History.recorded {s0 : Store} (h : History c s0 s g) (hempty : NoVolumes c s0) :
    Recorded c s g := by
  induction h with
  | start =>
    intro pool name v hv
    rw [hempty pool name] at hv
    cases hv
  | serve r _ hrun hclean ih =>
    cases r with
    | create a => exact ih.create (filled_of_runs hrun _) (cleanly_localCreate.both hrun hclean)
    | _ => exact ih.other (by simp) hrun _

end

/-- For a fresh create it has no recorded source, for a copy its recorded source has no blanks around
it. -/
def Tells (a : CreateArgs) (v : Zvol) : Prop :=
  if contentSourceID a = "" then v.props.lookup sourceProp = none
  else ∀ src, v.props.lookup sourceProp = some src → trimSpace src = src

/-- The zvol under the dataset of a create, if there is one, can be told from one of another
origin. -/
def Telling (c : Controller) (a : CreateArgs) (s : Store) : Prop :=
  ∀ v, s.vols.lookup (a.dataset c) = some v → Tells a v

theorem read_recordedAs {id : String} (h : v.props.lookup sourceProp = recordedAs id) :
    v.read sourceProp = if trimSpace id = "-" then "" else trimSpace id := by
  unfold Zvol.read
  rw [h]
  unfold recordedAs
  by_cases hid : id = ""
  · subst hid
    decide
  · rw [if_neg hid]
    rfl

/-- A volume that is found and accepted is of the origin asked for exactly if it tells its own. -/
theorem origin_eq_iff {id : String} (hv : v.props.lookup sourceProp = recordedAs id)
    (hm : Matches a v) : id = contentSourceID a ↔ Tells a v := by
  unfold Tells
  rw [hv]
  unfold recordedAs
  by_cases hfresh : contentSourceID a = ""
  · rw [if_pos hfresh, hfresh]
    by_cases hid : id = ""
    · simp [hid]
    · simp [hid]
  · have hread := hm.2 hfresh
    rw [read_recordedAs hv] at hread
    -- the property reads as the requested id
    have htrim : trimSpace id = contentSourceID a := by
      split at hread
      · exact absurd hread.symm hfresh
      · exact hread
    have hid : id ≠ "" := by
      rintro rfl
      exact hfresh (htrim.symm.trans (by decide))
    rw [if_neg hfresh, if_neg hid]
    constructor
    · rintro rfl src ⟨⟩
      exact htrim
    · intro h
      exact (h id rfl).symm.trans htrim

/-- After any run from an empty parent dataset, a create that succeeds returns a volume of the
origin it asks for exactly if the zvol it finds, if any, tells its origin. -/
theorem localCreate_origin_iff {c : Controller} {s0 s s' : Store} {g : Map String Made}
    (hempty : NoVolumes c s0) (hrun : History c s0 s g) {a : CreateArgs} {res : CreateResult}
    {tr : List ZfsEv}
    (hcreate : Runs zfsAct (localCreate c a).run s tr (.ok res) s') :
    OfOrigin c.localNode (contentSourceID a) res.dataset (tr.foldl (note (contentSourceID a)) g) ↔
      Telling c a s := by
  obtain ⟨rfl, -, hpools, v', hv', horigin, -⟩ := (yields_localCreate.runs hcreate).2
  change OfOrigin _ _ (a.dataset c) _ ↔ _
  change s'.zvol? (a.dataset c) = some v' at hv'
  change Origin a (a.dataset c) s v' at horigin
  have hfilled := filled_of_runs hcreate g
  cases hv : s.vols.lookup (a.dataset c) with
  | none =>
    -- the zvol is new
    refine iff_of_true ?_ fun v h => by rw [hv] at h; cases h
    rcases hfilled.own with ⟨hthere, -⟩ | ⟨-, h⟩
    · rw [lookup_of_zvol? hv', hv] at hthere
      cases hthere
    · exact h
  | some v =>
    -- the zvol was found, with the record it had
    obtain ⟨id, ⟨cmd, hg, hmade⟩, hsrc⟩ := hrun.recorded hempty a.pool a.name v hv
    have hrec : (tr.foldl (note (contentSourceID a)) g).lookup (a.dataset c) = some ⟨id, cmd⟩ := by
      rcases hfilled.own with ⟨-, hrec⟩ | ⟨hnone, -⟩
      · exact hrec.trans hg
      · rw [hv] at hnone
        cases hnone
    have hzvol : s.zvol? (a.dataset c) = some v := by
      unfold Store.zvol?
      rw [if_pos ((hpools.isSome _).symm.trans (isSome_of_zvol? hv')), hv]
    have hmatch : Matches a v := by
      cases horigin with
      | existing hz hm =>
        obtain rfl : v = v' := Option.some.inj (hzvol.symm.trans hz)
        exact hm
      | fresh _ hnone | copied _ _ hnone => cases hzvol.symm.trans hnone
    have htelling : Telling c a s ↔ Tells a v := by
      unfold Telling
      rw [hv]
      constructor
      · exact fun h => h v rfl
      · rintro h _ ⟨⟩
        exact h
    rw [htelling, ← origin_eq_iff hsrc hmatch]
    constructor
    · rintro ⟨cmd', hg', -⟩
      exact (Made.mk.inj (Option.some.inj (hrec.symm.trans hg'))).1
    · rintro rfl
      exact ⟨cmd, hrec, hmade⟩

/-- The states of a node that makes `src`, then clones it as `vol`. -/
def tankCopies : Store :=
  (eval zfsAct {} (localCreate (tankController "a") tankClone).run
    (eval zfsAct {} (localCreate (tankController "a") { tankArgs with name := "src" }).run
      (tankStore 90000)).2).2

theorem history_tankCopies : ∃ g, History (tankController "a") (tankStore 90000) tankCopies g := by
  obtain ⟨tr1, hclean1, hrun1⟩ := runs_eval zfsAct {}
    (localCreate (tankController "a") { tankArgs with name := "src" }).run (tankStore 90000)
  obtain ⟨tr2, hclean2, hrun2⟩ := runs_eval zfsAct {}
    (localCreate (tankController "a") tankClone).run
    (eval zfsAct {} (localCreate (tankController "a") { tankArgs with name := "src" }).run
      (tankStore 90000)).2
  exact ⟨_, .serve (.create tankClone)
    (.serve (.create { tankArgs with name := "src" }) .start hrun1 hclean1) hrun2 hclean2⟩

/-- The clone, asked for again, is found with its origin. -/
theorem localCreate_origin_tank :
    NoVolumes (tankController "a") (tankStore 90000) ∧
    ∃ g tr res s', History (tankController "a") (tankStore 90000) tankCopies g ∧
      Runs zfsAct (localCreate (tankController "a") tankClone).run tankCopies tr (.ok res) s' ∧
      OfOrigin "a" (contentSourceID tankClone) res.dataset
        (tr.foldl (note (contentSourceID tankClone)) g) := by
  have hempty : NoVolumes (tankController "a") (tankStore 90000) := fun _ _ => rfl
  refine ⟨hempty, ?_⟩
  obtain ⟨g, hist⟩ := history_tankCopies
  obtain ⟨tr, res, s', hrun, -⟩ := runs_ok_of_exec zfsAct
    (localCreate (tankController "a") tankClone).run tankCopies (List.replicate 10 {})
    (fun _ => True) (by decide)
  refine ⟨g, tr, res, s', hist, hrun, (localCreate_origin_iff hempty hist hrun).2 fun v hv => ?_⟩
  have hprop : (tankCopies.vols.lookup "tank/csi/vol").map (·.props.lookup sourceProp) =
      some (some "local/v1/a/tank/csi/src") := by decide
  have hsrc := Option.some.inj ((congrArg (Option.map _) hv).symm.trans hprop)
  rintro src hread
  obtain rfl := Option.some.inj (hread.symm.trans hsrc)
  decide

/-- A fresh create of the same name and size then returns the clone as its volume. -/
theorem fresh_create_returns_clone :
    NoVolumes (tankController "a") (tankStore 90000) ∧ contentSourceID tankArgs = "" ∧
    ∃ s g tr res s', History (tankController "a") (tankStore 90000) s g ∧
      (∀ e ∈ tr, e.choice = {}) ∧
      Runs zfsAct (localCreate (tankController "a") tankArgs).run s tr (.ok res) s' ∧
      ¬ OfOrigin "a" "" res.dataset (tr.foldl (note "") g) := by
  have hempty : NoVolumes (tankController "a") (tankStore 90000) := fun _ _ => rfl
  refine ⟨hempty, rfl, tankCopies, ?_⟩
  obtain ⟨g, hist⟩ := history_tankCopies
  obtain ⟨tr, res, s', hrun, hok, hclean, hsrc⟩ := runs_ok_of_exec zfsAct
    (localCreate (tankController "a") tankArgs).run tankCopies (List.replicate 10 {})
    (fun r => r.2.1.dataset = "tank/csi/vol" ∧
      (∀ e ∈ r.1, e.choice = {}) ∧
      (r.2.2.vols.lookup "tank/csi/vol").map (·.props.lookup sourceProp) =
        some (some "local/v1/a/tank/csi/src")) (by decide)
  have hds : res.dataset = "tank/csi/vol" := hok
  refine ⟨g, tr, res, s', hist, hclean, hrun, ?_⟩
  rw [hds]
  rintro ⟨cmd, hg, -⟩
  obtain ⟨v, hv, hprop⟩ := Option.map_eq_some_iff.1 hsrc
  -- the property says what the record says
  have hafter := (hist.serve (.create tankArgs) hrun hclean).recorded hempty "tank" "vol" v hv
  obtain ⟨id, ⟨cmd', hg', -⟩, hid⟩ := hafter
  obtain rfl : id = "" := congrArg Made.source (Option.some.inj (hg'.symm.trans hg))
  rw [hprop] at hid
  cases hid

end NomadCsi.Local
