import NomadCsi.Csi.Locks
import NomadCsi.Lib.Pool
import NomadCsi.Qnap.Create
import NomadCsi.Qnap.Delete

/-!
# Deleting and snapshotting at the same time

The CSI server runs any number of controller RPCs side by side; each holds the lock of
its own key. A delete is keyed by the volume id and a snapshot by the snapshot name, so
the two may interleave call by call, and each relies on a check it made earlier: a
delete has listed the LUN's snapshots (`clear`), a snapshot has read the LUN's name
(`own`).
-/

namespace NomadCsi.Qnap

open Lib Lib.Go Driver Csi

/-- The backend call of an RPC, its result dropped. -/
def rpcBody (c : Controller) : Rpc → Op Unit
  | .createVolume req => do let _ ← createVolume c req
  | .deleteVolume id => deleteVolume id
  | .createSnapshot req => do let _ ← createSnapshot c req
  | .deleteSnapshot id => deleteSnapshot id
  | .expandVolume id cr => do let _ ← expandVolume id cr

abbrev Server := Pool Call Call.Reply World Rpc KeyedLocker (Except Err Unit)
abbrev Serving := Thread Call Call.Reply Rpc (Except Err Unit)
abbrev RpcMove := Move Call Call.Reply World Choice Rpc (Except Err Unit)

abbrev Heard := (c : Call) × c.Reply

def hearClear (i : Int) (b : Bool) : Heard → Bool
  | ⟨.san _ (.listSnapshots j), r⟩ =>
    if j = i then (match r with | .ok [] => true | _ => false) else b
  | ⟨.san _ (.deleteLUN j), _⟩ => if j = i then false else b
  | _ => b

/-- Between an empty listing of the snapshots of LUN `i` and the `DeleteLUN` it allows. -/
def clear (i : Int) (past : List Heard) : Bool := past.foldl (hearClear i) false

def hearOwn (i : Int) (name : String) (b : Bool) : Heard → Bool
  | ⟨.san _ (.getLUN j), .ok lun⟩ => if j = i then lun.name = name else b
  | _ => b

/-- The last read of LUN `i` returned this name. -/
def own (i : Int) (name : String) (past : List Heard) : Bool :=
  past.foldl (hearOwn i name) false

/-- The name under which a CreateSnapshot has checked LUN `i`. -/
def awaited (t : Serving) (i : Int) : Option String :=
  match t.job with
  | .createSnapshot req =>
    match parseExternalID req.sourceVolumeID with
    | .ok eid =>
      if eid.lunIndex = i ∧ eid.lunName ≠ "" ∧ own i eid.lunName t.past = true then
        some eid.lunName
      else none
    | .error _ => none
  | _ => none

variable {name : String} {t : Serving} {i : Int}

theorem awaited_eq_some : awaited t i = some name ↔ ∃ req eid, t.job = .createSnapshot req ∧
      parseExternalID req.sourceVolumeID = .ok eid ∧ eid.lunIndex = i ∧ eid.lunName = name ∧
      name ≠ "" ∧ own i name t.past = true := by
  constructor
  · intro h
    unfold awaited at h
    split at h
    · next req hjob =>
      split at h
      · next eid hid =>
        obtain ⟨⟨hi, hne, hown⟩, hn⟩ := (Option.ite_none_right_eq_some).1 h
        cases hn
        exact ⟨req, eid, hjob, hid, hi, rfl, hne, hown⟩
      · cases h
    · cases h
  · rintro ⟨req, eid, hjob, hid, hi, rfl, hne, hown⟩
    simp only [awaited, hjob, hid]
    exact if_pos ⟨hi, hne, hown⟩

/-! ### What may step between a check and its use -/

def nextCall (t : Serving) : Option SanCall :=
  match t.rest with
  | .call (.san _ c) _ => some c
  | _ => none

def SanCall.snapshotOf : SanCall → Option Int
  | .createSnapshot i _ => some i
  | _ => none

/-- No delete has found LUN `i` without snapshots and not deleted it yet. -/
def MaySnapshot (p : Server) (i : Int) : Prop := ∀ t ∈ p.threads, clear i t.past = false

/-- No snapshot has checked LUN `i` under another name than this. -/
def MayCreate (p : Server) (i : Int) (name : String) : Prop :=
  ∀ t ∈ p.threads, ∀ n ∈ awaited t i, name = n

/-- The step takes no snapshot of a LUN that is about to be deleted, and creates no LUN under an
index that is about to be snapshotted as another volume. -/
def Careful (p : Server) : Action Rpc Choice → Prop
  | .step k ch => ∀ c ∈ p.threads[k]?.bind nextCall,
      (∀ i ∈ c.snapshotOf, MaySnapshot p i) ∧
      ∀ new ∈ c.newLUN, MayCreate p ch.san.index new.1
  | .spawn _ => True
  | .finish _ => True

instance (p : Server) (i : Int) : Decidable (MaySnapshot p i) :=
  inferInstanceAs (Decidable (∀ t ∈ p.threads, _))

instance (p : Server) (i : Int) (name : String) : Decidable (MayCreate p i name) :=
  inferInstanceAs (Decidable (∀ t ∈ p.threads, ∀ n ∈ awaited t i, _))

instance (p : Server) : (a : Action Rpc Choice) → Decidable (Careful p a)
  | .step k _ => inferInstanceAs (Decidable (∀ c ∈ p.threads[k]?.bind nextCall, _ ∧ _))
  | .spawn _ => .isTrue trivial
  | .finish _ => .isTrue trivial

/-- A `DeleteLUN` meets no snapshot of its LUN, and a `CreateSnapshot` for a volume id with a LUN
name meets no LUN of another name. -/
structure Safe (m : RpcMove) : Prop where
  delete : ∀ sess i, m.event.call = .san sess (.deleteLUN i) → m.event.pre.san.snapsOf i = []
  snapshot : ∀ sess i r req eid, m.event.call = .san sess (.createSnapshot i r) →
    m.thread.job = .createSnapshot req → parseExternalID req.sourceVolumeID = .ok eid →
    eid.lunName ≠ "" → ∀ name, m.event.pre.san.Carries i name → name = eid.lunName

/-! ### The checks an RPC has made -/

@[simp] theorem clear_snoc (i : Int) (past : List Heard) (x : Heard) :
    clear i (past ++ [x]) = hearClear i (clear i past) x := by
  simp [clear]

@[simp] theorem own_snoc (i : Int) (name : String) (past : List Heard) (x : Heard) :
    own i name (past ++ [x]) = hearOwn i name (own i name past) x := by
  simp [own]

theorem clear_cases {b : Bool} {x : Heard} (h : hearClear i b x = true) :
    b = true ∨ ∃ sess, x = ⟨.san sess (.listSnapshots i), .ok []⟩ := by
  unfold hearClear at h
  split at h
  · next sess j r =>
    split at h
    · next hj =>
      subst hj
      split at h
      · exact .inr ⟨sess, rfl⟩
      · cases h
    · exact .inl h
  · split at h
    · cases h
    · exact .inl h
  · exact .inl h

theorem own_cases {b : Bool} {x : Heard} (h : hearOwn i name b x = true) :
    b = true ∨ ∃ sess lun, x = ⟨.san sess (.getLUN i), .ok lun⟩ ∧ lun.name = name := by
  unfold hearOwn at h
  split at h
  · next sess j lun =>
    split at h
    · next hj =>
      subst hj
      exact .inr ⟨sess, lun, rfl, of_decide_eq_true h⟩
    · exact .inl h
  · exact .inl h

/-- What an RPC has checked before it deletes or snapshots. -/
structure Ordered (rpc : Rpc) (past : List Heard) (c : Call) : Prop where
  delete : ∀ sess i, c = .san sess (.deleteLUN i) → clear i past = true
  snapshot : ∀ sess i r req eid, c = .san sess (.createSnapshot i r) →
    rpc = .createSnapshot req → parseExternalID req.sourceVolumeID = .ok eid →
    eid.lunIndex = i ∧ (eid.lunName ≠ "" → own i eid.lunName past = true)

def SanCall.harmless : SanCall → Bool
  | .deleteLUN _ | .createSnapshot _ _ => false
  | _ => true

/-- A call that neither deletes nor snapshots a LUN needs no check. -/
def Harmless : Call → Prop
  | .san _ k => k.harmless = true
  | _ => True

variable {c : Call}

theorem Harmless.ordered (h : Harmless c) (rpc : Rpc) (past : List Heard) :
    Ordered rpc past c := by
  refine ⟨?_, ?_⟩
  · rintro sess i rfl
    cases h
  · rintro sess i r req eid rfl
    cases h

/-- `Does.smDo` over any replies: the closure may run twice. -/
theorem plays_smDo_of {α : Type} {G : List Heard → Call → Prop} {past : List Heard}
    {Q : α → List Heard → Prop} {X : Err → List Heard → Prop} {fn : Int → Op α}
    (I : List Heard → Prop) (hI : I past)
    (hget : ∀ past, I past → G past .get ∧ ∀ r, I (past ++ [⟨.get, r⟩]))
    (hreset : ∀ past, I past → G past .reset ∧ ∀ r, I (past ++ [⟨.reset, r⟩]))
    (hfn : ∀ sess past, I past → Plays G (fn sess) past Q fun e past => I past ∧ X e past)
    (hX : ∀ e past, I past → X (.san e) past) : Plays G (smDo fn) past Q X := by
  have hsm : ∀ past, I past → Plays G smGet past (fun _ => I) X := by
    intro past hI
    refine .call (hget past hI).1 fun r => ?_
    cases r with
    | ok sess => exact (hget past hI).2 _
    | error e => exact hX e _ ((hget past hI).2 _)
  refine .bind (hsm past hI) fun sess past hI => ?_
  refine .bind (Q := Outcome Q fun e past => I past ∧ X e past) (.attempt (hfn sess past hI))
    fun r past hr => ?_
  cases r with
  | ok a => exact .pure hr
  | error e =>
    obtain ⟨hI, hX⟩ := hr
    dsimp only
    split
    · refine .bind (Q := fun _ => I) (.call (hreset past hI).1 fun r => ?_)
        fun _ past hI => .bind (hsm past hI) fun sess past hI => ?_
      · exact (hreset past hI).2 r
      · exact (hfn sess past hI).mono (fun _ _ h => h) fun _ _ h => h.2
    · exact .throw hX

variable {sess : Int}

section

variable {α : Type} {rpc : Rpc} {past : List Heard} {Q : α → List Heard → Prop}
  {X : Err → List Heard → Prop}

theorem plays_of_harmless {x : Op α} (h : x.run.Calls Harmless) :
    Plays (Ordered rpc) x past (fun _ _ => True) fun _ _ => True :=
  .of_calls (h.mono fun _ hc => hc.ordered rpc)

theorem plays_san {c : SanCall} {Q : c.Val → List Heard → Prop}
    (hG : Ordered rpc past (.san sess c)) (hQ : ∀ v, Q v (past ++ [⟨.san sess c, .ok v⟩]))
    (hX : ∀ e, X (.san e) (past ++ [⟨.san sess c, .error e⟩])) :
    Plays (Ordered rpc) (san sess c) past Q X := by
  refine .call hG fun r => ?_
  cases r with
  | ok v => exact hQ v
  | error e => exact hX e

theorem plays_harmless {c : SanCall} {Q : c.Val → List Heard → Prop}
    (h : c.harmless = true) (hQ : ∀ v, Q v (past ++ [⟨.san sess c, .ok v⟩]))
    (hX : ∀ e, X (.san e) (past ++ [⟨.san sess c, .error e⟩])) :
    Plays (Ordered rpc) (san sess c) past Q X :=
  plays_san (Harmless.ordered (c := .san sess c) h _ _) hQ hX

theorem plays_smDo {fn : Int → Op α} (I : List Heard → Prop) (hI : I past)
    (hget : ∀ past r, I past → I (past ++ [⟨.get, r⟩]))
    (hreset : ∀ past r, I past → I (past ++ [⟨.reset, r⟩]))
    (hfn : ∀ sess past, I past → Plays (Ordered rpc) (fn sess) past Q fun e past =>
      I past ∧ X e past)
    (hX : ∀ e past, I past → X (.san e) past) : Plays (Ordered rpc) (smDo fn) past Q X :=
  plays_smDo_of I hI (fun past h => ⟨Harmless.ordered (c := .get) trivial _ _, fun r => hget past r h⟩)
    (fun past h => ⟨Harmless.ordered (c := .reset) trivial _ _, fun r => hreset past r h⟩) hfn hX

theorem plays_destroyLUN (volumeID : String) (eid : ExternalID) (sess : Int) :
    Plays (Ordered rpc) (destroyLUN volumeID eid sess) past (fun _ _ => True)
      fun _ _ => True := by
  refine .bind (Q := fun snaps past => snaps = [] → clear eid.lunIndex past = true)
    (.onError (plays_harmless rfl ?_ fun _ => trivial)) fun snaps past h => ?_
  · rintro _ rfl
    simp [hearClear]
  split
  · exact .throw trivial
  · next hlen =>
    have hclear := h (List.length_eq_zero_iff.1 (Nat.eq_zero_of_not_pos hlen))
    refine .bind (Q := fun _ past => clear eid.lunIndex past = true) (.attempt ?_)
      fun _ past hclear => .seq (.attempt ?_) fun r past => ?_
    · refine plays_harmless rfl (fun _ => ?_) fun _ => ?_
      · simpa [hearClear] using hclear
      · simpa [hearClear] using hclear
    · refine plays_san ⟨?_, nofun⟩ (fun _ => trivial) fun _ => trivial
      rintro _ _ ⟨⟩
      exact hclear
    · exact plays_of_harmless (calls_confirmGone _ _ _ rfl rfl)

theorem plays_deleteVolume (volumeID : String) :
    Plays (Ordered rpc) (deleteVolume volumeID) past (fun _ _ => True) fun _ _ => True := by
  have hrel : ∀ eid sess past, Plays (Ordered rpc) (releaseTarget eid sess) past
      (fun _ _ => True) fun _ _ => True :=
    fun eid sess past => plays_of_harmless (calls_releaseTarget _ _ rfl rfl)
  refine .seq (plays_of_harmless trivial) fun eid past => ?_
  refine .seq (.attempt ?_) fun r past => ?_
  · refine plays_smDo (fun _ => True) trivial (fun _ _ _ => trivial) (fun _ _ _ => trivial)
      (fun sess past _ => ?_) fun _ _ _ => trivial
    refine Plays.mono (P := fun _ _ => True) (Y := fun _ _ => True) ?_ (fun _ _ _ => trivial)
      fun _ _ _ => ⟨trivial, trivial⟩
    refine .seq (.attempt (plays_of_harmless (calls_san rfl))) fun r past => ?_
    cases r with
    | error e => exact hrel eid sess past
    | ok lun =>
      dsimp only
      split
      · exact hrel eid sess past
      · split
        · exact hrel eid sess past
        · exact .bind (plays_destroyLUN _ _ _) fun _ past _ => hrel eid sess past
  · refine plays_of_harmless (calls_run_bind ⟨trivial, fun _ => trivial⟩ fun _ => ?_)
    exact trivial

theorem plays_ensureLUNIsOurs (eid : ExternalID) :
    Plays (Ordered rpc) (ensureLUNIsOurs eid) past
      (fun _ past => eid.lunName ≠ "" → own eid.lunIndex eid.lunName past = true)
      fun _ _ => True := by
  unfold ensureLUNIsOurs
  split
  · next h => exact .pure fun hne => absurd h hne
  · refine .bind (Q := fun r past => ∀ lun, r = .ok lun → own eid.lunIndex lun.name past = true)
      (.attempt ?_) fun r past h => ?_
    · refine plays_smDo (fun _ => True) trivial (fun _ _ _ => trivial) (fun _ _ _ => trivial)
        (fun sess past _ => ?_) fun _ _ _ => nofun
      refine plays_harmless rfl ?_ fun _ => ⟨trivial, nofun⟩
      rintro lun _ ⟨⟩
      simp [hearOwn]
    · cases r with
      | error e => exact .throw trivial
      | ok lun =>
        dsimp only
        split
        · exact .throw trivial
        · next heq => exact .pure fun _ => not_not.1 heq ▸ h lun rfl

theorem plays_createSnapshot (c : Controller) (req : CreateSnapshotRequest) :
    Plays (Ordered (.createSnapshot req)) (createSnapshot c req) past (fun _ _ => True)
      fun _ _ => True := by
  unfold createSnapshot
  cases hid : parseExternalID req.sourceVolumeID with
  | error e => exact .throw trivial
  | ok eid =>
    rw [check_ok_bind]
    refine .bind (plays_ensureLUNIsOurs eid) fun _ past hown => ?_
    refine .seq (.onError ?_) fun _ _ => .pure trivial
    refine plays_smDo (fun past => eid.lunName ≠ "" → own eid.lunIndex eid.lunName past = true)
      hown ?_ ?_ (fun sess past hown => ?_) fun _ _ _ => trivial
    · intro past r h hne
      simpa [hearOwn] using h hne
    · intro past r h hne
      simpa [hearOwn] using h hne
    · refine plays_san ⟨nofun, ?_⟩ (fun _ => trivial) fun _ => ⟨fun hne => ?_, trivial⟩
      · rintro _ _ _ _ eid' ⟨⟩ ⟨⟩ hid'
        rw [hid] at hid'
        cases hid'
        exact ⟨rfl, hown⟩
      · simpa [hearOwn] using hown hne

end

theorem Call.OfCreate.harmless (h : c.OfCreate) : Harmless c := by
  cases c with
  | san sess k =>
    cases k with
    | deleteLUN | createSnapshot => cases h
    | _ => rfl
  | _ => trivial

theorem plays_rpcBody (c : Controller) (rpc : Rpc) :
    Plays (Ordered rpc) (rpcBody c rpc) [] (fun _ _ => True) fun _ _ => True := by
  cases rpc with
  | createVolume req =>
    refine plays_of_harmless (calls_run_bind ?_ fun _ => trivial)
    have hof : (createVolume c req).run.Calls Call.OfCreate := by
      refine calls_createVolume (fun {call} h => ?_) (fun h _ => h) c req fun h _ => h
      cases call with
      | san => cases h
      | _ => trivial
    exact hof.mono fun _ h => h.harmless
  | deleteVolume id => exact plays_deleteVolume id
  | createSnapshot req => exact .bind (plays_createSnapshot c req) fun _ _ _ => .pure trivial
  | deleteSnapshot id =>
    exact plays_of_harmless
      (calls_deleteSnapshot trivial trivial id (fun _ _ => rfl) fun _ _ _ => rfl)
  | expandVolume id cr =>
    refine plays_of_harmless (calls_run_bind (calls_expandVolume trivial trivial id cr ?_ ?_ ?_) ?_)
    · exact fun _ _ => rfl
    · exact fun _ _ _ => rfl
    · exact fun _ _ _ => rfl
    · exact fun _ => trivial

/-! ### The checks stay true -/

section

variable {w : World} {c : Call} {ch : Choice} {i : Int}

/-- A call that takes no snapshot of a LUN leaves it without one. -/
theorem snapsOf_act (hc : ∀ sess r, c ≠ .san sess (.createSnapshot i r))
    (h : w.san.snapsOf i = []) : (act w c ch).2.san.snapsOf i = [] := by
  rcases act_cases w c ch with ⟨hs, -⟩ | ⟨sess, k, v, rfl, -, hv⟩
  · rw [hs]
    exact h
  · refine (San.serve_effect hv).snapsOf_nil (fun r hk => ?_) h
    exact hc sess r (by rw [hk])

/-- A call that creates no LUN of another name under an index leaves no other name there. -/
theorem named_act
    (hc : ∀ sess k new, c = .san sess k → k.newLUN = some new → ch.san.index = i → new.1 = name)
    (h : ∀ n, w.san.Carries i n → n = name) : ∀ n, (act w c ch).2.san.Carries i n → n = name := by
  intro n hn
  rcases act_cases w c ch with ⟨hs, -⟩ | ⟨sess, k, v, rfl, -, hv⟩
  · rw [hs] at hn
    exact h n hn
  · by_cases hold : w.san.Carries i n
    · exact h n hold
    · obtain ⟨hi, t, hnew⟩ := San.carries_of_serve hv hn hold
      exact hc sess k (n, t) rfl hnew hi

theorem snapsOf_of_heard
    (h : (⟨c, (act w c ch).1⟩ : Heard) = ⟨.san sess (.listSnapshots i), .ok []⟩) :
    w.san.snapsOf i = [] := by
  generalize hr : (act w c ch).1 = r at h
  cases h
  obtain ⟨s', hs⟩ := sanAct_ok hr
  exact (San.serve_listSnapshots hs).symm

theorem carries_of_heard {lun : LUN} (hne : lun.name ≠ "")
    (h : (⟨c, (act w c ch).1⟩ : Heard) = ⟨.san sess (.getLUN i), .ok lun⟩) :
    w.san.Carries i lun.name := by
  generalize hr : (act w c ch).1 = r at h
  cases h
  obtain ⟨s', hs⟩ := sanAct_ok hr
  exact San.carries_of_getLUN hs hne

end

/-- Every check an RPC has made and not used yet is still true. -/
structure Coherent (p : Server) : Prop where
  clear : ∀ t ∈ p.threads, ∀ i, clear i t.past = true → p.world.san.snapsOf i = []
  own : ∀ t ∈ p.threads, ∀ i name, awaited t i = some name →
    ∀ n, p.world.san.Carries i n → n = name

theorem Coherent.answer {p : Server} (h : Coherent p) {k : Nat} {ch : Choice}
    {cont : c.Reply → Prog Call Call.Reply (Except Err Unit)} (hok : Careful p (.step k ch))
    (ht : p.threads[k]? = some t) (hrest : t.rest = .call c cont) : Coherent { p with
      world := (act p.world c ch).2
      threads := p.threads.set k (t.answer c (act p.world c ch).1 cont) } := by
  have hmem : t ∈ p.threads := List.mem_of_getElem? ht
  have hcall : ∀ sess sc, c = .san sess sc → (∀ i ∈ sc.snapshotOf, MaySnapshot p i) ∧
      ∀ new ∈ sc.newLUN, MayCreate p ch.san.index new.1 := by
    rintro sess sc rfl
    refine hok sc ?_
    simp [ht, nextCall, hrest]
  have hclear : ∀ t' ∈ p.threads, ∀ i, Qnap.clear i t'.past = true →
      (act p.world c ch).2.san.snapsOf i = [] := by
    intro t' ht' i hi
    refine snapsOf_act (fun sess r hc => ?_) (h.clear t' ht' i hi)
    have := (hcall sess _ hc).1 i rfl t' ht'
    rw [hi] at this
    cases this
  have hown : ∀ t' ∈ p.threads, ∀ i name, awaited t' i = some name →
      ∀ n, (act p.world c ch).2.san.Carries i n → n = name := by
    intro t' ht' i name hi
    refine named_act (fun sess sc new hc hnew hidx => ?_) (h.own t' ht' i name hi)
    subst hidx
    exact (hcall sess sc hc).2 new hnew t' ht' name hi
  refine ⟨fun t' ht' i hi => ?_, fun t' ht' i name hi => ?_⟩
  · rcases List.mem_or_eq_of_mem_set ht' with ht' | rfl
    · exact hclear t' ht' i hi
    · rcases clear_cases ((clear_snoc i t.past _).symm.trans hi) with hi | ⟨sess, hx⟩
      · exact hclear t hmem i hi
      · have hc := (Sigma.mk.inj hx).1
        refine snapsOf_act (fun _ _ hc' => ?_) (snapsOf_of_heard hx)
        rw [hc] at hc'
        cases hc'
  · rcases List.mem_or_eq_of_mem_set ht' with ht' | rfl
    · exact hown t' ht' i name hi
    · obtain ⟨req, eid, hjob, hid, rfl, rfl, hne, ho⟩ := awaited_eq_some.1 hi
      rcases own_cases ((own_snoc _ _ t.past _).symm.trans ho) with ho | ⟨sess, lun, hx, hname⟩
      · exact hown t hmem _ _ (awaited_eq_some.2 ⟨req, eid, hjob, hid, rfl, rfl, hne, ho⟩)
      · have hc := (Sigma.mk.inj hx).1
        refine named_act (fun _ _ new hc' hnew _ => ?_) fun n hn => ?_
        · rw [hc] at hc'
          cases hc'
          cases hnew
        · have hl := carries_of_heard (hname ▸ hne) hx
          exact (Option.some.inj (hn.symm.trans hl)).trans hname

instance : ∀ c : Call, Nonempty c.Reply
  | .get => ⟨.ok 0⟩
  | .san _ _ => ⟨.error ⟨.transport, ""⟩⟩
  | .cacheFresh => ⟨false⟩
  | .cacheLookup _ | .cacheTarget _ => ⟨none⟩
  | .cacheAll => ⟨[]⟩
  | .reset | .cacheInstall _ _ | .cacheAdd _ _ | .cacheRemove _ => ⟨()⟩

/-- The pools that the server reaches through actions that satisfy `Ok`. -/
abbrev Serves (c : Controller) (Ok : Server → Action Rpc Choice → Prop) :
    Server → List RpcMove → Server → Prop :=
  Reach act (fun rpc => (rpcBody c rpc).run) Rpc.accept Rpc.leave Ok

/-- A thread that has checked, in a pool where checks stay true, is safe to go on. -/
theorem Coherent.safe {p : Server} (h : Coherent p) (ht : t ∈ p.threads)
    (hord : Ordered t.job t.past c) (ch : Choice) (r : c.Reply) :
    Safe ⟨t, ⟨p.world, c, ch, r⟩⟩ where
  delete sess i hc := h.clear t ht i (hord.delete sess i hc)
  snapshot sess i req' req eid hc hjob hid hne := by
    obtain ⟨hi, hown⟩ := hord.snapshot sess i req' req eid hc hjob hid
    exact h.own t ht i eid.lunName (awaited_eq_some.2 ⟨req, eid, hjob, hid, hi, rfl, hne, hown hne⟩)

/-- In every interleaving of RPCs under their locks in which no snapshot is taken of a LUN that a
delete has found without snapshots and not deleted yet, and no LUN is created under an index that
a snapshot has checked under another name, no `DeleteLUN` meets a snapshot and no snapshot meets
another volume's LUN. -/
theorem snapshots_survive {c : Controller} {p q : Server} {ms : List RpcMove}
    (hp : p.threads = []) (h : Serves c Careful p ms q) : ∀ m ∈ ms, Safe m := by
  have hstart : Threaded (fun rpc => (rpcBody c rpc).run) p ∧ Coherent p := by
    refine ⟨fun t ht => ?_, fun t ht => ?_, fun t ht => ?_⟩
    all_goals
      rw [hp] at ht
      cases ht
  refine (h.invariant (I := fun p => Threaded (fun rpc => (rpcBody c rpc).run) p ∧ Coherent p)
    hstart ?_).2
  rintro q a ms q' ⟨hthr, hco⟩ hok hnext
  refine ⟨⟨hthr.next hnext, ?_⟩, ?_⟩
  · rcases Pool.next_cases hnext with ⟨job, locks, -, -, -, rfl⟩ |
      ⟨k, ch, t, c, cont, rfl, ht, hrest, -, rfl⟩ | ⟨k, t, x, -, -, -, -, rfl⟩
    · -- a new thread has made no check yet
      refine ⟨fun t ht i hi => ?_, fun t ht i name hi => ?_⟩
      · rcases mem_snoc.1 ht with ht | rfl
        · exact hco.clear t ht i hi
        · cases hi
      · rcases mem_snoc.1 ht with ht | rfl
        · exact hco.own t ht i name hi
        · obtain ⟨_, _, -, -, -, -, -, ho⟩ := awaited_eq_some.1 hi
          cases ho
    · exact hco.answer hok ht hrest
    · exact ⟨fun t ht => hco.clear t (List.mem_of_mem_eraseIdx ht),
        fun t ht => hco.own t (List.mem_of_mem_eraseIdx ht)⟩
  · rcases Pool.next_cases hnext with ⟨job, locks, -, -, rfl, -⟩ |
      ⟨k, ch, t, call, cont, rfl, ht, hrest, rfl, -⟩ | ⟨k, t, x, -, -, -, rfl, -⟩
    · simp
    · intro m hm
      obtain rfl := List.mem_singleton.1 hm
      have hmem := List.mem_of_getElem? ht
      exact hco.safe hmem (hthr.next_call hmem hrest (plays_rpcBody c t.job)) _ _
    · simp

/-- Two volumes, of LUNs 7 and 8, and a server without RPCs. -/
def twoVolumes : Server where
  world := .of [(7, "vol1"), (8, "vol2")] [(3, "vol1"), (4, "vol2")] [(7, 3), (8, 4)]
  locks := .empty
  threads := []

theorem snapshots_survive_twoVolumes : ∃ ms q, Serves .plain Careful twoVolumes ms q ∧
    (∃ m ∈ ms, Ev.Is m.event (.deleteLUN 7)) ∧
    (∃ m ∈ ms, Ev.Is m.event (.createSnapshot 8 ⟨"s1", 0, true⟩)) ∧ ∀ m ∈ ms, Safe m := by
  obtain ⟨ms, q, hreach, hdel, hsnap⟩ := reach_of_run act
    (fun rpc => (rpcBody .plain rpc).run) Rpc.accept Rpc.leave Careful twoVolumes
    [.spawn (.deleteVolume "qnap/v1/7/3/t/vol1"),
      .spawn (.createSnapshot ⟨"qnap/v1/8/4/t/vol2", "s1"⟩), .step 0 {}, .step 0 {}, .step 1 {},
      .step 0 {}, .step 1 {}, .step 1 {}, .step 1 {}, .step 0 {}, .step 0 {}]
    (fun ms _ => (∃ m ∈ ms, Ev.Is m.event (.deleteLUN 7)) ∧
      ∃ m ∈ ms, Ev.Is m.event (.createSnapshot 8 ⟨"s1", 0, true⟩)) (by decide)
  exact ⟨ms, q, hreach, hdel, hsnap, snapshots_survive rfl hreach⟩

def OnlyThree (_ : Server) : Action Rpc Choice → Prop
  | .spawn (.deleteSnapshot _) | .spawn (.expandVolume _ _) => False
  | _ => True

instance (p : Server) : (a : Action Rpc Choice) → Decidable (OnlyThree p a)
  | .spawn (.deleteSnapshot _) | .spawn (.expandVolume _ _) => .isFalse id
  | .spawn (.createVolume _) | .spawn (.deleteVolume _) | .spawn (.createSnapshot _)
  | .step _ _ | .finish _ => .isTrue trivial

/-- A snapshot is taken between a delete's listing and its `DeleteLUN`: the snapshot goes with the
LUN. -/
theorem delete_takes_new_snapshot : ¬ ∀ (c : Controller) (p q : Server) (ms : List RpcMove),
    p.threads = [] → Serves c OnlyThree p ms q → ∀ m ∈ ms, Safe m := by
  intro h
  obtain ⟨ms, q, hreach, m, hm, ⟨sess, hdel⟩, hsnap⟩ := reach_of_run act
    (fun rpc => (rpcBody .plain rpc).run) Rpc.accept Rpc.leave OnlyThree twoVolumes
    [.spawn (.deleteVolume "qnap/v1/7/3/t/vol1"),
      .spawn (.createSnapshot ⟨"qnap/v1/7/3/t/vol1", "s1"⟩), .step 0 {}, .step 0 {}, .step 0 {},
      .step 1 {}, .step 1 {}, .step 1 {}, .step 1 {}, .step 0 {}, .step 0 {}]
    (fun ms _ => ∃ m ∈ ms, Ev.Is m.event (.deleteLUN 7) ∧ m.event.pre.san.snapsOf 7 ≠ [])
    (by decide)
  exact hsnap ((h .plain _ _ _ rfl hreach m hm).delete sess 7 hdel)

end NomadCsi.Qnap
