import NomadCsi.Lib.Observe
import NomadCsi.Qnap.Concurrent
import NomadCsi.Qnap.Stale

/-!
# A refresh among creates and deletes

A refresh of the LUN cache lists the appliance's LUNs, then its targets, and installs both
later; CreateVolume and DeleteVolume patch the cache in between. The server keeps a
`Ledger` of what callers have been told: the volumes whose CreateVolume returned and whose
DeleteVolume has not started, and the LUNs that a DeleteVolume found or left deleted and
whose name nobody has asked for since.
-/

namespace NomadCsi.Qnap

open Lib Lib.Go Driver Csi

/-- The RPCs that write or read the cache: ListVolumes takes no lock. -/
inductive VolumeRpc where
  | locked (rpc : Rpc)
  | listVolumes

namespace VolumeRpc

def accept : VolumeRpc → KeyedLocker → Option KeyedLocker
  | locked rpc, k => rpc.accept k
  | listVolumes, k => some k

def leave : VolumeRpc → KeyedLocker → KeyedLocker
  | locked rpc, k => rpc.leave k
  | listVolumes, k => k

def creates : VolumeRpc → Option String
  | locked (.createVolume req) => some (sanitizeLUNName req.name)
  | _ => none

def deletes : VolumeRpc → Option ExternalID
  | locked (.deleteVolume id) => (parseExternalID id).toOption
  | _ => none

/-- The backend call of an RPC: the volume that CreateVolume returns. -/
def serve (c : Controller) : VolumeRpc → Op (Option Volume)
  | locked (.createVolume req) => do return some (← createVolume c req)
  | locked rpc => do
    rpcBody c rpc
    return none
  | listVolumes => do
    let _ ← Qnap.listVolumes
    return none

end VolumeRpc

abbrev VolumeServer := Pool Call Call.Reply World VolumeRpc KeyedLocker (Except Err (Option Volume))

abbrev VolumeThread := Thread Call Call.Reply VolumeRpc (Except Err (Option Volume))

/-! ### What callers have been told -/

/-- A DeleteVolume for the id takes the LUN for its own. -/
def ExternalID.Accepts (eid : ExternalID) (i : Int) (name : String) : Prop :=
  eid.lunIndex = i ∧ (eid.lunName = "" ∨ eid.lunName = name)

instance (eid : ExternalID) (i : Int) (name : String) : Decidable (eid.Accepts i name) :=
  inferInstanceAs (Decidable (_ ∧ _))

structure Ledger where
  /-- CreateVolume has returned these, and no DeleteVolume of them has started since. -/
  kept : List ExternalID := []
  /-- DeleteVolume has returned for these with the LUN gone, and no CreateVolume of the name has
  started since. -/
  gone : List ExternalID := []

namespace Ledger

def enter (l : Ledger) (job : VolumeRpc) : Ledger where
  kept := l.kept.filter fun e => ∀ eid ∈ job.deletes, ¬ eid.Accepts e.lunIndex e.lunName
  gone := l.gone.filter fun e => job.creates ≠ some e.lunName

/-- Note what a thread has returned, if it has. -/
def leave (l : Ledger) (san : San) (t : VolumeThread) : Ledger :=
  match t.rest with
  | .ret (.ok r) =>
    { kept := l.kept ++ (r.bind fun v => (parseExternalID v.volumeID).toOption).toList
      gone := l.gone ++
        (t.job.deletes.filter fun eid => ¬ san.Carries eid.lunIndex eid.lunName).toList }
  | _ => l

def see (l : Ledger) (a : Action VolumeRpc Choice) (p : VolumeServer) : Ledger :=
  match a with
  | .spawn job => l.enter job
  | .step k _ => (p.threads[k]?).elim l (l.leave p.world.san)
  | .finish _ => l

end Ledger

def LunCache.Knows (k : LunCache) (name : String) (i : Int) : Prop :=
  (k.lookupByName name).map (·.index) = some i

instance (k : LunCache) (name : String) (i : Int) : Decidable (k.Knows name i) :=
  inferInstanceAs (Decidable (_ = _))

/-- The cache has every volume that is kept and leads to no LUN that is gone. -/
structure Ledger.Agrees (l : Ledger) (k : LunCache) : Prop where
  kept : ∀ e ∈ l.kept, k.Knows e.lunName e.lunIndex
  gone : ∀ e ∈ l.gone, ¬ k.Knows e.lunName e.lunIndex

/-- The servers reached through actions that satisfy `Ok`, and their ledgers. -/
abbrev Ledgered (c : Controller) (Ok : VolumeServer → Action VolumeRpc Choice → Prop)
    (p : VolumeServer) : Ledger → VolumeServer → Prop :=
  Observed act (fun job => (VolumeRpc.serve c job).run) VolumeRpc.accept VolumeRpc.leave
    Ledger.see Ok {} p

/-! ### Steps that do not cross -/

def hearFetch (f : Option (List LUN)) : Heard → Option (List LUN)
  | ⟨.san _ .listLUNs, .ok luns⟩ => some luns
  | ⟨.cacheInstall _ _, _⟩ => none
  | _ => f

/-- The LUNs that a refresh has listed and not installed yet. -/
def fetched (past : List Heard) : Option (List LUN) := past.foldl hearFetch none

@[simp] theorem fetched_snoc (past : List Heard) (x : Heard) :
    fetched (past ++ [x]) = hearFetch (fetched past) x := by
  simp [fetched]

/-- No refresh is under way between its listing and its installation. -/
def NoFetch (p : VolumeServer) : Prop := ∀ t ∈ p.threads, t.running = true → fetched t.past = none

instance (p : VolumeServer) : Decidable (NoFetch p) :=
  inferInstanceAs (Decidable (∀ t ∈ p.threads, _))

abbrev Deleting (p : VolumeServer) (i : Int) : Prop :=
  p.Busy fun job => ∃ eid ∈ job.deletes, eid.lunIndex = i

abbrev Creating (p : VolumeServer) (name : String) : Prop := p.Busy fun job => job.creates = some name

def SanCall.movesLUN : SanCall → Bool
  | .deleteLUN _ => true
  | c => c.newLUN.isSome

/-- The call of an RPC that is served next does not cross another one. -/
def OrderlyCall (p : VolumeServer) (job : VolumeRpc) (ch : Choice) : Call → Prop
  -- no refresh is overtaken, and the appliance refuses a name in use
  | .san _ c => (c.movesLUN = true → NoFetch p) ∧
      ∀ new ∈ c.newLUN, ch.fail = true ∨ ∀ l ∈ p.world.san.allLUNs, l.name ≠ new.1
  -- the LUN is still there, and not being deleted
  | .cacheAdd lun _ => p.world.san.Carries lun.index lun.name ∧ ¬ Deleting p lun.index
  | .cacheRemove _ => ∀ eid ∈ job.deletes, ¬ Creating p eid.lunName
  | _ => True

def nextOf (t : VolumeThread) : Option Call :=
  match t.rest with
  | .call c _ => some c
  | .ret _ => none

/-- Nothing crosses, and a DeleteVolume does not start on an index that holds another LUN. -/
def Orderly (p : VolumeServer) : Action VolumeRpc Choice → Prop
  | .spawn job => ∀ eid ∈ job.deletes, ∀ row ∈ p.world.san.luns.lookup eid.lunIndex,
      eid.Accepts eid.lunIndex row.name
  | .step k ch => ∀ t ∈ p.threads[k]?, ∀ c ∈ nextOf t, OrderlyCall p t.job ch c
  | .finish _ => True

instance (p : VolumeServer) (job : VolumeRpc) (ch : Choice) :
    (c : Call) → Decidable (OrderlyCall p job ch c)
  | .san _ c => inferInstanceAs (Decidable ((c.movesLUN = true → NoFetch p) ∧
      ∀ new ∈ c.newLUN, ch.fail = true ∨ ∀ l ∈ p.world.san.allLUNs, l.name ≠ new.1))
  | .cacheAdd lun _ =>
    inferInstanceAs (Decidable (p.world.san.Carries lun.index lun.name ∧ ¬ Deleting p lun.index))
  | .cacheRemove _ => inferInstanceAs (Decidable (∀ eid ∈ job.deletes, ¬ Creating p eid.lunName))
  | .get | .reset | .cacheFresh | .cacheInstall _ _ | .cacheLookup _ | .cacheTarget _ | .cacheAll =>
    .isTrue trivial

instance (p : VolumeServer) : (a : Action VolumeRpc Choice) → Decidable (Orderly p a)
  | .spawn job => inferInstanceAs (Decidable (∀ eid ∈ job.deletes,
      ∀ row ∈ p.world.san.luns.lookup eid.lunIndex, eid.Accepts eid.lunIndex row.name))
  | .step k ch => inferInstanceAs (Decidable (∀ t ∈ p.threads[k]?, ∀ c ∈ nextOf t,
      OrderlyCall p t.job ch c))
  | .finish _ => .isTrue trivial

/-! ### What an RPC may call -/

/-- A refresh installs what it listed, a LUN is created by a CreateVolume of its name, and deleted
and evicted by a DeleteVolume of its index. -/
structure Lawful (job : VolumeRpc) (past : List Heard) (c : Call) : Prop where
  install : ∀ luns targets, c = .cacheInstall luns targets → fetched past = some luns
  create : ∀ sess k new, c = .san sess k → k.newLUN = some new → job.creates = some new.1
  delete : ∀ sess i, c = .san sess (.deleteLUN i) → ∃ eid ∈ job.deletes, eid.lunIndex = i
  evict : ∀ i, c = .cacheRemove i → ∃ eid ∈ job.deletes, eid.lunIndex = i

/-- The call moves no LUN and neither replaces nor evicts anything in the cache. -/
def Inert : Call → Prop
  | .san _ c => c.movesLUN = false
  | .cacheInstall _ _ | .cacheRemove _ => False
  | _ => True

variable {c : Call}

theorem Inert.lawful (h : Inert c) (job : VolumeRpc) (past : List Heard) :
    Lawful job past c := by
  refine ⟨?_, ?_, ?_, ?_⟩
  · rintro luns targets rfl
    cases h
  · rintro sess k new rfl hnew
    cases k with
    | createBlockLUN | cloneLUN | createLUNFromSnapshot => cases h
    | _ => cases hnew
  · rintro sess i rfl
    cases h
  · rintro i rfl
    cases h

/-- The last call evicted the LUN that the RPC deletes. -/
def Evicted (job : VolumeRpc) (past : List Heard) : Prop :=
  ∀ eid ∈ job.deletes, ∃ pre, past = pre ++ [⟨.cacheRemove eid.lunIndex, ()⟩]

/-- The last call put the LUN of this volume into the cache, as it was read before. -/
def Assembled (v : Volume) (past : List Heard) : Prop :=
  ∃ pre sess i lun tgt t own, past = pre ++ [⟨.cacheAdd lun tgt, ()⟩] ∧
    (⟨.san sess (.getLUN i), .ok lun⟩ : Heard) ∈ pre ∧
    v.volumeID = ExternalID.toString ⟨i, t, own, lun.name⟩

variable {luns : List LUN} {eid : ExternalID}

section

variable {job : VolumeRpc} {past : List Heard}

theorem lawful_install {targets : List Target} (h : fetched past = some luns) :
    Lawful job past (.cacheInstall luns targets) := by
  refine ⟨?_, ?_, ?_, ?_⟩
  · rintro _ _ ⟨⟩
    exact h
  · rintro _ _ _ ⟨⟩
  · rintro _ _ ⟨⟩
  · rintro _ ⟨⟩

theorem lawful_evict (he : eid ∈ job.deletes) : Lawful job past (.cacheRemove eid.lunIndex) := by
  refine ⟨?_, ?_, ?_, ?_⟩
  · rintro _ _ ⟨⟩
  · rintro _ _ _ ⟨⟩
  · rintro _ _ ⟨⟩
  · rintro _ ⟨⟩
    exact ⟨eid, he, rfl⟩

theorem lawful_delete (he : eid ∈ job.deletes) {c : SanCall} (hc : c ∈ deleteCalls eid) (sess : Int) :
    Lawful job past (.san sess c) := by
  refine ⟨?_, ?_, ?_, ?_⟩
  · rintro _ _ ⟨⟩
  · rintro _ _ new ⟨⟩ hnew
    have hamong : Among (deleteCalls eid) (.san sess c) := hc
    have hnone : c.newLUN = none := noNewLUN_of_among hamong
    rw [hnone] at hnew
    cases hnew
  · rintro _ i ⟨⟩
    simp only [deleteCalls, List.mem_cons, SanCall.deleteLUN.injEq, reduceCtorEq, List.not_mem_nil,
      or_false, false_or] at hc
    exact ⟨eid, he, hc.symm⟩
  · rintro _ ⟨⟩

theorem plays_inert {α : Type} {x : Op α} (h : x.run.Calls Inert) :
    Plays (Lawful job) x past (fun _ _ => True) fun _ _ => True :=
  .of_calls (h.mono fun _ hc past => hc.lawful job past)

theorem plays_san_inert {sess : Int} {c : SanCall} {Q : c.Val → List Heard → Prop}
    {X : Err → List Heard → Prop} (h : c.movesLUN = false)
    (hQ : ∀ v, Q v (past ++ [⟨.san sess c, .ok v⟩]))
    (hX : ∀ e, X (.san e) (past ++ [⟨.san sess c, .error e⟩])) :
    Plays (Lawful job) (san sess c) past Q X := by
  refine .call (Inert.lawful (c := .san sess c) h _ _) fun r => ?_
  cases r with
  | ok v => exact hQ v
  | error e => exact hX e

theorem plays_smDo_inert {α : Type} {fn : Int → Op α} {Q : α → List Heard → Prop}
    (hfn : ∀ sess past, Plays (Lawful job) (fn sess) past Q fun _ _ => True) :
    Plays (Lawful job) (smDo fn) past Q fun _ _ => True := by
  refine plays_smDo_of (fun _ => True) trivial
    (fun past _ => ⟨Inert.lawful (c := .get) trivial _ _, fun _ => trivial⟩)
    (fun past _ => ⟨Inert.lawful (c := .reset) trivial _ _, fun _ => trivial⟩) (fun sess past _ => ?_)
    fun _ _ _ => trivial
  exact (hfn sess past).mono (fun _ _ h => h) fun _ _ _ => ⟨trivial, trivial⟩

theorem plays_ensureFresh :
    Plays (Lawful job) ensureFresh past (fun _ _ => True) fun _ _ => True := by
  refine .seq (plays_inert (calls_perform trivial)) fun fresh past => ?_
  split
  · exact .pure trivial
  · refine .bind (Q := fun r past => fetched past = some r.1)
      (plays_smDo_inert fun sess past => ?_) fun r past h => ?_
    · -- the listing of the targets leaves the LUNs fetched
      refine .bind (Q := fun luns past => fetched past = some luns)
        (plays_san_inert rfl (fun luns => by simp [hearFetch]) fun _ => trivial) fun luns past h => ?_
      refine .bind (Q := fun _ past => fetched past = some luns)
        (plays_san_inert rfl (fun _ => by simpa [hearFetch] using h) fun _ => trivial) ?_
      exact fun _ _ h => .pure h
    · exact .call (lawful_install h) fun _ => trivial

theorem plays_assembleVolume (c : Controller) (source : Option ContentSource) (vp : VolumeParams)
    (lunIdx targetIdx : Int) (own : Bool) (sizeGB : Int) :
    Plays (Lawful job) (assembleVolume c source vp lunIdx targetIdx own sizeGB) past Assembled
      fun _ _ => True := by
  refine .bind (Q := fun r past => ∃ sess, (⟨.san sess (.getLUN lunIdx), .ok r.1⟩ : Heard) ∈ past)
    (.onError (plays_smDo_inert fun sess past => ?_)) fun r past h => ?_
  · refine .bind (Q := fun lun past => (⟨.san sess (.getLUN lunIdx), .ok lun⟩ : Heard) ∈ past)
      (plays_san_inert rfl (fun lun => by simp) fun _ => trivial) fun lun past h => ?_
    refine .bind (Q := fun _ past => (⟨.san sess (.getLUN lunIdx), .ok lun⟩ : Heard) ∈ past)
      (plays_san_inert rfl (fun _ => List.mem_append_left _ h) fun _ => trivial) ?_
    exact fun _ _ h => .pure ⟨sess, h⟩
  · obtain ⟨sess, h⟩ := h
    refine .bind (Q := fun _ past' => past' = past ++ [⟨.cacheAdd r.1 r.2, ()⟩])
      (.call (Inert.lawful (c := .cacheAdd r.1 r.2) trivial _ _) fun _ => by rfl) ?_
    rintro _ _ rfl
    exact .pure ⟨past, sess, lunIdx, r.1, r.2, targetIdx, own, rfl, h, rfl⟩

theorem plays_findExistingVolume (c : Controller) (lunName : String) (wantBytes : Int)
    (vp : VolumeParams) : Plays (Lawful job) (findExistingVolume c lunName wantBytes vp) past
      (fun r past => ∀ v ∈ r, Assembled v past) fun _ _ => True := by
  refine .seq (.onError plays_ensureFresh) fun _ past => ?_
  refine .seq (plays_inert (calls_perform trivial)) fun lun past => ?_
  cases lun with
  | none => exact .pure nofun
  | some lun =>
    dsimp only
    split
    · exact .throw trivial
    · refine .seq (plays_inert (calls_perform trivial)) fun tgt past => ?_
      cases tgt with
      | none => exact .throw trivial
      | some tgt =>
        refine .bind (plays_assembleVolume _ _ _ _ _ _ _) fun v past h => .pure ?_
        rintro _ ⟨⟩
        exact h

theorem Call.Provisions.lawful {lunName : String} (h : c.Provisions lunName)
    (hjob : job.creates = some lunName) (past : List Heard) : Lawful job past c := by
  refine ⟨?_, ?_, ?_, ?_⟩
  · rintro luns targets rfl
    cases h
  · rintro sess k new rfl hnew
    rw [hjob, h.2 new hnew]
  · rintro sess i rfl
    cases h.1
  · rintro i rfl
    cases h

theorem plays_provisions {α : Type} {x : Op α} {lunName : String} (hjob : job.creates = some lunName)
    (h : x.run.Calls (Call.Provisions lunName)) :
    Plays (Lawful job) x past (fun _ _ => True) fun _ _ => True :=
  .of_calls (h.mono fun _ hc => hc.lawful hjob)

theorem plays_createVolume (c : Controller) (req : CreateVolumeRequest)
    (hjob : job.creates = some (sanitizeLUNName req.name)) :
    Plays (Lawful job) (createVolume c req) past Assembled fun _ _ => True := by
  refine .seq (plays_inert (calls_check _)) fun vp past => ?_
  refine .seq (plays_inert (calls_check _)) fun sizeGB past => ?_
  refine .bind (plays_findExistingVolume _ _ _ _) fun existing past h => ?_
  cases existing with
  | some v => exact .pure (h v rfl)
  | none =>
    refine .bind (plays_provisions hjob (calls_resolveTarget trivial trivial provisions_of_newLUN
      _ _)) fun tgt past _ => ?_
    refine .seq (.attempt (plays_provisions hjob
      (calls_provisionLUN trivial trivial provisions_of_newLUN _ _ _ ?_))) fun r past => ?_
    · intro sess call h hn _
      refine ⟨h, fun new hmem => ?_⟩
      rw [hn] at hmem
      cases hmem
      rfl
    cases r with
    | error e =>
      exact .bind (plays_provisions hjob (calls_rollbackTarget trivial trivial provisions_of_newLUN
        _ _)) fun _ _ _ => .throw trivial
    | ok i => exact plays_assembleVolume _ _ _ _ _ _ _

theorem plays_deleteVolume_evicts (volumeID : String)
    (hjob : job.deletes = (parseExternalID volumeID).toOption) :
    Plays (Lawful job) (deleteVolume volumeID) past (fun _ => Evicted job) fun _ => Evicted job := by
  unfold deleteVolume
  cases hid : parseExternalID volumeID with
  | error e =>
    refine .throw fun eid he => ?_
    rw [hjob, hid] at he
    cases he
  | ok eid =>
    rw [hid] at hjob
    rw [check_ok_bind]
    have he : eid ∈ job.deletes := hjob
    have hall : (smDo fun s => deleteUnder volumeID eid s).run.Calls fun c =>
        ∀ past, Lawful job past c :=
      calls_smDo (fun past => Inert.lawful (c := .get) trivial _ _)
        (fun past => Inert.lawful (c := .reset) trivial _ _)
        fun sess => calls_deleteUnder _ fun c hc past => lawful_delete he hc sess
    refine .seq (.attempt (.of_calls hall)) fun r past => ?_
    refine .bind (Q := fun _ => Evicted job) (.call (lawful_evict he) fun _ => ?_) fun _ past h => ?_
    · intro e he
      rw [hjob] at he
      cases he
      exact ⟨past, rfl⟩
    · cases r with
      | ok _ => exact .pure h
      | error e => exact .throw h

theorem calls_listMapped {K : Call → Prop} (h : ∀ i, K (.cacheTarget i)) (luns : List LUN) :
    (listMapped luns).run.Calls K := by
  induction luns with
  | nil => trivial
  | cons lun luns ih =>
    refine calls_run_bind (calls_perform (h _)) fun t => ?_
    cases t with
    | none => exact ih
    | some t => exact calls_run_bind ih fun _ => trivial

/-- Every RPC is lawful, a CreateVolume that returns has put its LUN into the cache last, and a
DeleteVolume has evicted its index last. -/
theorem plays_serve (c : Controller) (job : VolumeRpc) :
    Plays (Lawful job) (job.serve c) [] (fun r past => (∀ v ∈ r, Assembled v past) ∧ Evicted job past)
      fun _ => Evicted job := by
  have hinert : ∀ {x : Op Unit}, job.deletes = none → x.run.Calls Inert →
      Plays (Lawful job) (do x; return (none : Option Volume)) []
        (fun r past => (∀ v ∈ r, Assembled v past) ∧ Evicted job past) fun _ => Evicted job := by
    intro x hjob hx
    have hev : ∀ past, Evicted job past := by
      intro past eid he
      rw [hjob] at he
      cases he
    exact .seq ((plays_inert hx).mono (fun _ _ h => h) fun _ _ _ => hev _)
      fun _ past => .pure ⟨nofun, hev past⟩
  cases job with
  | listVolumes =>
    refine .seq (Plays.mono (P := fun _ _ => True) (Y := fun _ _ => True) ?_
      (fun _ _ h => h) fun _ _ _ => nofun) fun _ _ => .pure ⟨nofun, nofun⟩
    refine .bind (.onError plays_ensureFresh) fun _ past _ => ?_
    exact plays_inert (calls_run_bind (calls_perform trivial) fun _ =>
      calls_listMapped (fun _ => trivial) _)
  | locked rpc =>
    cases rpc with
    | createVolume req =>
      refine .bind (Q := Assembled) ((plays_createVolume c req rfl).mono (fun _ _ h => h)
        fun _ _ _ => nofun) fun v past h => .pure ⟨?_, nofun⟩
      rintro _ ⟨⟩
      exact h
    | deleteVolume id =>
      exact .bind (plays_deleteVolume_evicts id rfl) fun _ past h => .pure ⟨nofun, h⟩
    | createSnapshot req =>
      refine hinert rfl (calls_run_bind (calls_createSnapshot trivial trivial c req ?_ ?_) ?_)
      · exact fun _ _ => rfl
      · exact fun _ _ _ => rfl
      · exact fun _ => trivial
    | deleteSnapshot id =>
      exact hinert rfl (calls_deleteSnapshot trivial trivial id (fun _ _ => rfl) fun _ _ _ => rfl)
    | expandVolume id cr =>
      refine hinert rfl (calls_run_bind (calls_expandVolume trivial trivial id cr ?_ ?_ ?_) ?_)
      · exact fun _ _ => rfl
      · exact fun _ _ _ => rfl
      · exact fun _ _ _ => rfl
      · exact fun _ => trivial

end

/-! ### What the cache knows -/

namespace LunCache

variable {k : LunCache} {name : String} {i : Int}

theorem knows_iff : k.Knows name i ↔ ∃ l, k.lookupByName name = some l ∧ l.index = i :=
  Option.map_eq_some_iff

theorem knows_addLUN {lun : LUN} {t : Target} :
    (k.addLUN lun t).Knows name i ↔
      name = lun.name ∧ i = lun.index ∨ name ≠ lun.name ∧ k.Knows name i := by
  unfold Knows lookupByName addLUN
  by_cases h : name = lun.name
  · subst h
    simp [eq_comm]
  · simp [h]

/-- If one name at most leads to each index, `removeLUN` leaves no name at its index. -/
theorem knows_removeLUN {j : Int} (hone : ∀ n m, k.Knows n j → k.Knows m j → n = m) (pick : Nat) :
    (k.removeLUN j pick).Knows name i ↔ k.Knows name i ∧ i ≠ j := by
  have hone : ∀ n ∈ k.namesAt j, ∀ m ∈ k.namesAt j, n = m := fun n hn m hm =>
    hone n m (knows_iff.2 (mem_namesAt.1 hn)) (knows_iff.2 (mem_namesAt.1 hm))
  simp only [knows_iff, lookupByName_removeLUN pick hone, Option.filter_eq_some_iff,
    decide_eq_true_eq]
  constructor
  · rintro ⟨l, ⟨hl, hj⟩, rfl⟩
    exact ⟨⟨l, hl, rfl⟩, hj⟩
  · rintro ⟨⟨l, hl, rfl⟩, hj⟩
    exact ⟨l, ⟨hl, hj⟩, rfl⟩

end LunCache

def San.DistinctNames (s : San) : Prop := ∀ i j n, s.Carries i n → s.Carries j n → i = j

/-- The listed LUNs are the appliance's: their indices and names. -/
def Listed (luns : List LUN) (s : San) : Prop :=
  ∀ i n, (∃ l ∈ luns, l.index = i ∧ l.name = n) ↔ s.Carries i n

theorem listed_allLUNs (s : San) : Listed s.allLUNs s := by
  intro i n
  simp only [San.mem_allLUNs, San.carries_iff_lun]
  constructor
  · rintro ⟨l, hl, rfl, rfl⟩
    exact ⟨l, hl, rfl⟩
  · rintro ⟨l, hl, rfl⟩
    have hi : l.index = i := by
      obtain ⟨row, -, rfl⟩ := Option.map_eq_some_iff.1 hl
      rfl
    exact ⟨l, hi ▸ hl, hi, rfl⟩

theorem San.carries_unique {s : San} {i : Int} {n m : String} (h : s.Carries i n)
    (h' : s.Carries i m) : n = m :=
  Option.some.inj (h.symm.trans h')

theorem knows_install {s : San} (h : Listed luns s) (hs : s.DistinctNames) (targets : List Target)
    (now : Int) {name : String} {i : Int} :
    (LunCache.install luns targets now).Knows name i ↔ s.Carries i name := by
  rw [LunCache.knows_iff]
  constructor
  · rintro ⟨l, hl, rfl⟩
    obtain ⟨hmem, hn⟩ := LunCache.lookup_indexByName hl
    exact (h _ _).1 ⟨l, hmem, rfl, hn⟩
  · intro hc
    obtain ⟨l, hl, rfl, rfl⟩ := (h _ _).2 hc
    have hsome : ((LunCache.indexByName luns).lookup l.name).isSome = true := by
      unfold LunCache.indexByName
      exact isSome_lookup_foldl (.inl ⟨l, hl, rfl⟩)
    obtain ⟨l', hl'⟩ := Option.isSome_iff_exists.1 hsome
    obtain ⟨hmem, hn⟩ := LunCache.lookup_indexByName hl'
    exact ⟨l', hl', hs _ _ _ ((h _ _).1 ⟨l', hmem, rfl, hn⟩) hc⟩

section

variable {w : World} {c : Call} {ch : Choice} {i : Int} {n : String}

theorem carries_of_act (h : (act w c ch).2.san.Carries i n) :
    w.san.Carries i n ∨ ∃ sess k t, c = .san sess k ∧ k.newLUN = some (n, t) ∧ ch.fail = false ∧
      ch.san.index = i := by
  rcases act_cases w c ch with ⟨hs, -⟩ | ⟨sess, k, v, rfl, hsv, hv⟩
  · rw [hs] at h
    exact .inl h
  · by_cases hold : w.san.Carries i n
    · exact .inl hold
    · obtain ⟨hi, t, hnew⟩ := San.carries_of_serve hv h hold
      exact .inr ⟨sess, k, t, rfl, hnew, hsv.2, hi⟩

variable (c ch) in
theorem carries_act_of (h : w.san.Carries i n) :
    (act w c ch).2.san.Carries i n ∨ ∃ sess, c = .san sess (.deleteLUN i) := by
  rcases act_cases w c ch with ⟨hs, -⟩ | ⟨sess, k, v, rfl, -, hv⟩
  · rw [hs]
    exact .inl h
  · by_cases hk : k = .deleteLUN i
    · exact .inr ⟨sess, by rw [hk]⟩
    · exact .inl ((San.serve_effect hv).carries hk h)

theorem carries_act_iff (hc : ∀ sess k, c = .san sess k → k.movesLUN = false) :
    (act w c ch).2.san.Carries i n ↔ w.san.Carries i n := by
  constructor
  · intro h
    rcases carries_of_act h with h | ⟨sess, k, t, rfl, hnew, -, -⟩
    · exact h
    · have := hc sess k rfl
      cases k with
      | createBlockLUN | cloneLUN | createLUNFromSnapshot => cases this
      | _ => cases hnew
  · intro h
    rcases carries_act_of c ch h with h | ⟨sess, rfl⟩
    · exact h
    · cases hc sess _ rfl

end

/-! ### The ledger is kept -/

structure Accounted (l : Ledger) (p : VolumeServer) : Prop where
  distinct : p.world.san.DistinctNames
  /-- What a refresh is about to install is still so. -/
  fetched : ∀ t ∈ p.threads, t.running = true → ∀ luns, Qnap.fetched t.past = some luns →
    Listed luns p.world.san
  /-- A cached LUN is there or about to be evicted. -/
  backed : ∀ n i, p.world.cache.Knows n i → p.world.san.Carries i n ∨ Deleting p i
  single : ∀ i n m, p.world.cache.Knows n i → p.world.cache.Knows m i → n = m
  read : ∀ t ∈ p.threads, ∀ sess i lun, (⟨.san sess (.getLUN i), .ok lun⟩ : Heard) ∈ t.past →
    lun.index = i
  kept : ∀ e ∈ l.kept, p.world.cache.Knows e.lunName e.lunIndex ∧
    p.world.san.Carries e.lunIndex e.lunName ∧ ¬ Deleting p e.lunIndex
  gone : ∀ e ∈ l.gone, ¬ p.world.cache.Knows e.lunName e.lunIndex ∧
    ¬ p.world.san.Carries e.lunIndex e.lunName ∧ ¬ Creating p e.lunName

variable {p : VolumeServer} {l : Ledger}

theorem Accounted.agrees (h : Accounted l p) : l.Agrees p.world.cache :=
  ⟨fun e he => (h.kept e he).1, fun e he => (h.gone e he).1⟩

/-- A new RPC ends what was promised about the volume it deletes or the name it asks for. -/
theorem Accounted.spawn (h : Accounted l p) {job : VolumeRpc} (hok : Orderly p (.spawn job))
    (locks : KeyedLocker) (x : Prog Call Call.Reply (Except Err (Option Volume))) :
    Accounted (l.enter job) { p with locks, threads := p.threads ++ [⟨job, [], x⟩] } where
  distinct := h.distinct
  fetched t ht hrun luns hl := by
    rcases mem_snoc.1 ht with ht | rfl
    · exact h.fetched t ht hrun luns hl
    · cases hl
  backed n i hk := (h.backed n i hk).imp id fun hd => hd.spawn x
  single := h.single
  read t ht sess i lun hx := by
    rcases mem_snoc.1 ht with ht | rfl
    · exact h.read t ht sess i lun hx
    · cases hx
  kept e he := by
    obtain ⟨he, hno⟩ := List.mem_filter.1 he
    obtain ⟨hk, hc, hd⟩ := h.kept e he
    refine ⟨hk, hc, fun hd' => ?_⟩
    rcases hd'.of_spawn with hd' | ⟨eid, heid, hi⟩
    · exact hd hd'
    · -- the index holds the kept volume, so a delete that starts on it is a delete of that volume
      obtain ⟨row, hrow, hn⟩ := Option.map_eq_some_iff.1 hc
      have hacc := (hok eid heid row (by rw [hi]; exact hrow)).2
      rw [hn] at hacc
      exact of_decide_eq_true hno eid heid ⟨hi, hacc⟩
  gone e he := by
    obtain ⟨he, hno⟩ := List.mem_filter.1 he
    obtain ⟨hk, hc, hd⟩ := h.gone e he
    refine ⟨hk, hc, fun hd' => ?_⟩
    rcases hd'.of_spawn with hd' | hjob
    · exact hd hd'
    · exact of_decide_eq_true hno hjob

theorem Accounted.finish (h : Accounted l p) {k : Nat} {t : VolumeThread}
    {r : Except Err (Option Volume)} (ht : p.threads[k]? = some t) (hret : t.rest = .ret r)
    (locks : KeyedLocker) : Accounted l { p with locks, threads := p.threads.eraseIdx k } where
  distinct := h.distinct
  fetched t ht := h.fetched t (List.mem_of_mem_eraseIdx ht)
  backed n i hk := (h.backed n i hk).imp id fun hd => hd.finish ht hret
  single := h.single
  read t ht := h.read t (List.mem_of_mem_eraseIdx ht)
  kept e he := (h.kept e he).imp id fun hc => hc.imp id fun hd hd' => hd hd'.of_finish
  gone e he := (h.gone e he).imp id fun hc => hc.imp id fun hd hd' => hd hd'.of_finish

namespace Ledger

variable {l : Ledger} {san : San} {t : VolumeThread} {e : ExternalID}

theorem mem_kept_leave (h : e ∈ (l.leave san t).kept) :
    e ∈ l.kept ∨ ∃ v, t.rest = .ret (.ok (some v)) ∧ parseExternalID v.volumeID = .ok e := by
  unfold leave at h
  split at h
  · next r hret =>
    rcases List.mem_append.1 h with h | h
    · exact .inl h
    · obtain ⟨v, rfl, hv⟩ := Option.bind_eq_some_iff.1 (Option.mem_toList.1 h)
      refine .inr ⟨v, hret, ?_⟩
      cases hp : parseExternalID v.volumeID with
      | error x =>
        rw [hp] at hv
        cases hv
      | ok eid =>
        rw [hp] at hv
        cases hv
        rfl
  · exact .inl h

theorem mem_gone_leave (h : e ∈ (l.leave san t).gone) :
    e ∈ l.gone ∨ t.running = false ∧ e ∈ t.job.deletes ∧ ¬ san.Carries e.lunIndex e.lunName := by
  unfold leave at h
  split at h
  · next r hret =>
    rcases List.mem_append.1 h with h | h
    · exact .inl h
    · obtain ⟨he, hc⟩ := Option.filter_eq_some_iff.1 (Option.mem_toList.1 h)
      exact .inr ⟨Thread.running_of_ret hret, he, of_decide_eq_true hc⟩
  · exact .inl h

end Ledger

theorem fetch_cases {f : Option (List LUN)} {x : Heard} (h : hearFetch f x = some luns) :
    f = some luns ∨ ∃ sess, x = ⟨.san sess .listLUNs, .ok luns⟩ := by
  unfold hearFetch at h
  split at h
  · next sess luns' =>
    cases h
    exact .inr ⟨sess, rfl⟩
  · cases h
  · exact .inl h

theorem listed_of_heard {w : World} {ch : Choice} {sess : Int}
    (h : (⟨c, (act w c ch).1⟩ : Heard) = ⟨.san sess .listLUNs, .ok luns⟩) : Listed luns w.san := by
  generalize hr : (act w c ch).1 = r at h
  cases h
  obtain ⟨s', hs⟩ := sanAct_ok hr
  cases hs
  exact listed_allLUNs _

theorem index_of_heard {w : World} {ch : Choice} {sess i : Int} {lun : LUN}
    (h : (⟨c, (act w c ch).1⟩ : Heard) = ⟨.san sess (.getLUN i), .ok lun⟩) : lun.index = i := by
  generalize hr : (act w c ch).1 = r at h
  cases h
  obtain ⟨s', hs⟩ := sanAct_ok hr
  rcases (San.serve_getLUN hs).2 with hl | ⟨-, rfl⟩
  · obtain ⟨row, -, rfl⟩ := Option.map_eq_some_iff.1 hl
    rfl
  · rfl

theorem Call.cache_cases (c : Call) : (∃ luns targets, c = .cacheInstall luns targets) ∨
    (∃ lun tgt, c = .cacheAdd lun tgt) ∨ (∃ j, c = .cacheRemove j) ∨ c.writesCache = false := by
  cases c with
  | cacheInstall luns targets => exact .inl ⟨luns, targets, rfl⟩
  | cacheAdd lun tgt => exact .inr (.inl ⟨lun, tgt, rfl⟩)
  | cacheRemove j => exact .inr (.inr (.inl ⟨j, rfl⟩))
  | _ => exact .inr (.inr (.inr rfl))

/-- The server after its thread `k`, which is `t`, has made the call `c`. -/
abbrev VolumeServer.after (p : VolumeServer) (k : Nat) (t : VolumeThread) (c : Call) (ch : Choice)
    (cont : c.Reply → Prog Call Call.Reply (Except Err (Option Volume))) : VolumeServer :=
  { p with
    world := (act p.world c ch).2
    threads := p.threads.set k (t.answer c (act p.world c ch).1 cont) }

/-- A call as it is made: allowed, lawful, and the last one only if it is the one the RPC ends in. -/
structure Turn (p : VolumeServer) (k : Nat) (t : VolumeThread) (c : Call) (ch : Choice)
    (cont : c.Reply → Prog Call Call.Reply (Except Err (Option Volume))) : Prop where
  thread : p.threads[k]? = some t
  rest : t.rest = .call c cont
  orderly : OrderlyCall p t.job ch c
  lawful : Lawful t.job t.past c
  evicted : (t.answer c (act p.world c ch).1 cont).running = false →
    Evicted t.job (t.past ++ [⟨c, (act p.world c ch).1⟩])
  assembled : ∀ v, (t.answer c (act p.world c ch).1 cont).rest = .ret (.ok (some v)) →
    Assembled v (t.past ++ [⟨c, (act p.world c ch).1⟩])

namespace Turn

variable {l : Ledger} {p : VolumeServer} {k : Nat} {t : VolumeThread} {c : Call} {ch : Choice}
  {cont : c.Reply → Prog Call Call.Reply (Except Err (Option Volume))} {i : Int} {n : String}
  (h : Turn p k t c ch cont)

include h

theorem mem : t ∈ p.threads := List.mem_of_getElem? h.thread

theorem running : t.running = true := Thread.running_of_call h.rest

theorem evicts (hrun : (t.answer c (act p.world c ch).1 cont).running = false)
    (he : eid ∈ t.job.deletes) : c = .cacheRemove eid.lunIndex := by
  obtain ⟨pre, hpre⟩ := h.evicted hrun eid he
  have hlast := (List.append_inj' hpre rfl).2
  exact (Sigma.mk.inj (List.singleton_inj.1 hlast)).1

theorem adds (hp : Accounted l p) {v : Volume}
    (hret : (t.answer c (act p.world c ch).1 cont).rest = .ret (.ok (some v))) {e : ExternalID}
    (he : parseExternalID v.volumeID = .ok e) :
    ∃ lun tgt, c = .cacheAdd lun tgt ∧ e.lunIndex = lun.index ∧ e.lunName = lun.name := by
  obtain ⟨pre, sess, i, lun, tgt, tn, own, hpast, hread, hid⟩ := h.assembled v hret
  obtain ⟨hpre, hlast⟩ := List.append_inj' hpast rfl
  rw [hid] at he
  rw [parseExternalID_toString he]
  refine ⟨lun, tgt, (Sigma.mk.inj (List.singleton_inj.1 hlast)).1, ?_, rfl⟩
  exact (hp.read t h.mem sess i lun (hpre ▸ hread)).symm

theorem deleting (hd : Deleting p i) :
    Deleting (p.after k t c ch cont) i ∨ c = .cacheRemove i := by
  rcases hd.step (w := (act p.world c ch).2) (k := cont) h.thread (act p.world c ch).1 with
    hd | ⟨hrun, eid, he, rfl⟩
  · exact .inl hd
  · exact .inr (h.evicts hrun he)

theorem deleting_of (hd : Deleting (p.after k t c ch cont) i) : Deleting p i :=
  hd.of_step h.thread h.running

theorem creating_of (hd : Creating (p.after k t c ch cont) n) : Creating p n :=
  hd.of_step h.thread h.running

theorem carries (hc : p.world.san.Carries i n) :
    (act p.world c ch).2.san.Carries i n ∨
      Deleting p i ∧ Deleting (p.after k t c ch cont) i := by
  rcases carries_act_of c ch hc with hc | ⟨sess, rfl⟩
  · exact .inl hc
  · have hd : Deleting p i := ⟨t, h.mem, h.running, h.lawful.delete sess i rfl⟩
    exact .inr ⟨hd, (h.deleting hd).resolve_right nofun⟩

theorem knows (hp : Accounted l p) (hk : (act p.world c ch).2.cache.Knows n i) :
    p.world.cache.Knows n i ∧ c ≠ .cacheRemove i ∧ (∀ luns tgts, c ≠ .cacheInstall luns tgts) ∨
      p.world.san.Carries i n ∧
        ((∃ luns tgts, c = .cacheInstall luns tgts) ∨ ¬ Deleting p i) := by
  rcases c.cache_cases with ⟨luns, tgts, rfl⟩ | ⟨lun, tgt, rfl⟩ | ⟨j, rfl⟩ | hw
  · have hl := hp.fetched t h.mem h.running luns (h.lawful.install _ _ rfl)
    exact .inr ⟨(knows_install hl hp.distinct tgts _).1 hk, .inl ⟨luns, tgts, rfl⟩⟩
  · rcases LunCache.knows_addLUN.1 hk with ⟨rfl, rfl⟩ | ⟨-, hk⟩
    · exact .inr ⟨h.orderly.1, .inr h.orderly.2⟩
    · exact .inl ⟨hk, nofun, nofun⟩
  · obtain ⟨hk, hj⟩ := (LunCache.knows_removeLUN (hp.single j) ch.pick).1 hk
    refine .inl ⟨hk, fun hc => hj ?_, nofun⟩
    cases hc
    rfl
  · rw [act_cache_eq ch hw] at hk
    refine .inl ⟨hk, ?_, ?_⟩
    · rintro rfl
      cases hw
    · rintro _ _ rfl
      cases hw

/-- What the cache knew and the appliance has, the cache knows after the call, unless it is evicted
or about to be. -/
theorem knows_of (hp : Accounted l p) (hk : p.world.cache.Knows n i)
    (hc : p.world.san.Carries i n) (hd : ¬ Deleting p i) :
    (act p.world c ch).2.cache.Knows n i := by
  rcases c.cache_cases with ⟨luns, tgts, rfl⟩ | ⟨lun, tgt, rfl⟩ | ⟨j, rfl⟩ | hw
  · have hl := hp.fetched t h.mem h.running luns (h.lawful.install _ _ rfl)
    exact (knows_install hl hp.distinct tgts _).2 hc
  · refine LunCache.knows_addLUN.2 ?_
    by_cases hn : n = lun.name
    · subst hn
      exact .inl ⟨rfl, hp.distinct _ _ _ hc h.orderly.1⟩
    · exact .inr ⟨hn, hk⟩
  · refine (LunCache.knows_removeLUN (hp.single j) ch.pick).2 ⟨hk, ?_⟩
    rintro rfl
    exact hd ⟨t, h.mem, h.running, h.lawful.evict _ rfl⟩
  · rw [act_cache_eq ch hw]
    exact hk

end Turn

theorem Accounted.step (hp : Accounted l p) {k : Nat} {t : VolumeThread} {ch : Choice}
    {cont : c.Reply → Prog Call Call.Reply (Except Err (Option Volume))} (h : Turn p k t c ch cont) :
    Accounted (l.leave (act p.world c ch).2.san (t.answer c (act p.world c ch).1 cont))
      (p.after k t c ch cont) where
  distinct := by
    have hfree : ∀ {sess k new i}, c = .san sess k → k.newLUN = some new → ch.fail = false →
        ¬ p.world.san.Carries i new.1 := by
      rintro sess k new i rfl hnew hf hc
      rcases h.orderly.2 new hnew with hfail | hfree
      · rw [hf] at hfail
        cases hfail
      · obtain ⟨l, hl, -, hn⟩ := (listed_allLUNs _ _ _).2 hc
        exact hfree l hl hn
    intro i j n hi hj
    rcases carries_of_act hi with hi | ⟨sess, k, tgt, hc, hnew, hf, hi'⟩
    · rcases carries_of_act hj with hj | ⟨sess, k, tgt, hc, hnew, hf, -⟩
      · exact hp.distinct i j n hi hj
      · exact absurd hi (hfree hc hnew hf)
    · rcases carries_of_act hj with hj | ⟨-, -, -, -, -, -, hj'⟩
      · exact absurd hj (hfree hc hnew hf)
      · exact hi'.symm.trans hj'
  fetched t' ht' hrun luns hl := by
    -- a call that moves a LUN finds no refresh under way
    by_cases hm : ∃ sess k, c = .san sess k ∧ k.movesLUN = true
    · obtain ⟨sess, k, rfl, hm⟩ := hm
      have hno := h.orderly.1 hm
      rcases List.mem_or_eq_of_mem_set ht' with ht' | rfl
      · rw [hno t' ht' hrun] at hl
        cases hl
      · rcases fetch_cases ((fetched_snoc t.past _).symm.trans hl) with hl | ⟨sess, hx⟩
        · rw [hno t h.mem h.running] at hl
          cases hl
        · cases (Sigma.mk.inj hx).1
          cases hm
    · have hsame : Listed luns p.world.san → Listed luns (act p.world c ch).2.san := by
        intro hl i n
        rw [hl i n]
        refine (carries_act_iff fun sess k hc => ?_).symm
        exact Bool.eq_false_iff.2 fun hk => hm ⟨sess, k, hc, hk⟩
      rcases List.mem_or_eq_of_mem_set ht' with ht' | rfl
      · exact hsame (hp.fetched t' ht' hrun luns hl)
      · rcases fetch_cases ((fetched_snoc t.past _).symm.trans hl) with hl | ⟨sess, hx⟩
        · exact hsame (hp.fetched t h.mem h.running luns hl)
        · exact hsame (listed_of_heard hx)
  backed n i hk := by
    rcases h.knows hp hk with ⟨hk, hne, -⟩ | ⟨hc, -⟩
    · rcases hp.backed n i hk with hc | hd
      · exact (h.carries hc).imp id And.right
      · exact .inr ((h.deleting hd).resolve_right hne)
    · exact (h.carries hc).imp id And.right
  single i n m hn hm := by
    -- a LUN that is added is not being deleted, so an older entry of its index is its own
    have hmix : ∀ {n m}, p.world.cache.Knows n i → (∀ luns tgts, c ≠ .cacheInstall luns tgts) →
        p.world.san.Carries i m → ((∃ luns tgts, c = .cacheInstall luns tgts) ∨ ¬ Deleting p i) →
        n = m := by
      intro n m hn hni hm hadd
      rcases hadd with ⟨luns, tgts, hc⟩ | hd
      · exact absurd hc (hni luns tgts)
      · exact San.carries_unique ((hp.backed n i hn).resolve_right hd) hm
    rcases h.knows hp hn with ⟨hn, -, hni⟩ | ⟨hcn, hadd⟩
    · rcases h.knows hp hm with ⟨hm, -, -⟩ | ⟨hcm, hadd⟩
      · exact hp.single i n m hn hm
      · exact hmix hn hni hcm hadd
    · rcases h.knows hp hm with ⟨hm, -, hni⟩ | ⟨hcm, -⟩
      · exact (hmix hm hni hcn hadd).symm
      · exact San.carries_unique hcn hcm
  read t' ht' sess i lun hx := by
    rcases List.mem_or_eq_of_mem_set ht' with ht' | rfl
    · exact hp.read t' ht' sess i lun hx
    · rcases mem_snoc.1 hx with hx | hx
      · exact hp.read t h.mem sess i lun hx
      · exact index_of_heard hx.symm
  kept e he := by
    rcases Ledger.mem_kept_leave he with he | ⟨v, hret, hv⟩
    · obtain ⟨hk, hc, hd⟩ := hp.kept e he
      refine ⟨h.knows_of hp hk hc hd, (h.carries hc).resolve_right fun hd' => hd hd'.1, ?_⟩
      exact fun hd' => hd (h.deleting_of hd')
    · obtain ⟨lun, tgt, hcall, hi, hn⟩ := h.adds hp hret hv
      subst hcall
      rw [hi, hn]
      refine ⟨LunCache.knows_addLUN.2 (.inl ⟨rfl, rfl⟩), h.orderly.1, fun hd => ?_⟩
      exact h.orderly.2 (h.deleting_of hd)
  gone e he := by
    rcases Ledger.mem_gone_leave he with he | ⟨hrun, he, hc⟩
    · obtain ⟨hk, hc, hd⟩ := hp.gone e he
      refine ⟨fun hk' => ?_, fun hc' => ?_, fun hd' => hd (h.creating_of hd')⟩
      · rcases h.knows hp hk' with ⟨hk', -, -⟩ | ⟨hc', -⟩
        · exact hk hk'
        · exact hc hc'
      · rcases carries_of_act hc' with hc' | ⟨sess, k, tgt, hcall, hnew, -, -⟩
        · exact hc hc'
        · exact hd ⟨t, h.mem, h.running, h.lawful.create sess k _ hcall hnew⟩
    · have hcall := h.evicts hrun he
      refine ⟨fun hk => ?_, hc, fun hd => ?_⟩
      · rcases h.knows hp hk with ⟨-, hne, -⟩ | ⟨hc', -⟩
        · exact hne hcall
        · subst hcall
          exact hc hc'
      · subst hcall
        exact h.orderly e he (h.creating_of hd)

/-- In every interleaving in which no LUN is created or deleted between the listing and the
installation of a refresh, a LUN that CreateVolume puts into the cache is still there and not being
deleted, no DeleteVolume starts on an index that holds another LUN or returns while a CreateVolume
of its name is running, and the appliance refuses a LUN name in use: the cache has every volume
that CreateVolume has returned, until its DeleteVolume starts, and does not lead from its name to a
LUN that DeleteVolume has deleted, until the name is asked for again. -/
theorem finished_stay {c : Controller} {p q : VolumeServer} {l : Ledger} (hp : p.threads = [])
    (hnames : p.world.san.DistinctNames)
    (hcache : ∀ n i, p.world.cache.Knows n i → p.world.san.Carries i n)
    (h : Ledgered c Orderly p l q) : l.Agrees q.world.cache := by
  have hstart : Threaded (fun job => (VolumeRpc.serve c job).run) p ∧ Accounted {} p := by
    refine ⟨?_, hnames, ?_, fun n i hk => .inl (hcache n i hk), ?_, ?_, nofun, nofun⟩
    · intro t ht
      rw [hp] at ht
      cases ht
    · intro t ht
      rw [hp] at ht
      cases ht
    · exact fun i n m hn hm => San.carries_unique (hcache n i hn) (hcache m i hm)
    · intro t ht
      rw [hp] at ht
      cases ht
  refine (h.invariant (I := fun l q => Threaded (fun job => (VolumeRpc.serve c job).run) q ∧
    Accounted l q) hstart ?_).2.agrees
  rintro l q a ms q' ⟨hthr, hq⟩ hok hnext
  have hthr' := hthr.next hnext
  refine ⟨hthr', ?_⟩
  rcases Pool.next_cases hnext with ⟨job, locks, rfl, -, -, rfl⟩ |
    ⟨k, ch, t, call, cont, rfl, ht, hrest, -, rfl⟩ | ⟨k, t, r, rfl, ht, hret, -, rfl⟩
  · exact hq.spawn hok locks _
  · have hmem := List.mem_of_getElem? ht
    have hlt : k < q.threads.length := (List.getElem?_eq_some_iff.1 ht).1
    have hturn : Turn q k t call ch cont := by
      refine ⟨ht, hrest, ?_, hthr.next_call hmem hrest (plays_serve c t.job), fun hrun => ?_,
        fun v hv => ?_⟩
      · refine hok t ht call ?_
        rw [nextOf, hrest]
        rfl
      · obtain ⟨r, hr⟩ := Thread.returned hrun
        have hout := hthr'.returned (List.mem_set hlt _) hr (plays_serve c t.job)
        cases r with
        | ok r => exact hout.2
        | error e => exact hout
      · exact (hthr'.returned (List.mem_set hlt _) hv (plays_serve c t.job)).1 v rfl
    have hsee : l.see (.step k ch) (VolumeServer.after q k t call ch cont) =
        l.leave (act q.world call ch).2.san (t.answer call (act q.world call ch).1 cont) := by
      simp only [Ledger.see, List.getElem?_set_self hlt, Option.elim_some]
    rw [hsee]
    exact hq.step hturn
  · exact hq.finish ht hret _

def emptyServer : VolumeServer where
  world := .of [] [] []
  locks := .empty
  threads := []

def creation (name : String) : VolumeRpc := .locked (.createVolume (request name))

def deletion (name : String) : VolumeRpc :=
  .locked (.deleteVolume (ExternalID.toString ⟨0, 0, true, name⟩))

/-- Thread `k` makes this many calls; a LUN or target it creates gets this index. -/
def calls (k count : Nat) (index : Int) : List (Action VolumeRpc Choice) :=
  List.replicate count (.step k { san := { index } })

theorem distinctNames_empty : emptyServer.world.san.DistinctNames := by
  intro i j n hi
  cases hi

theorem finished_stay_two : ∃ l q, Ledgered .plain Orderly emptyServer l q ∧
    l.kept.map (·.lunName) = ["b"] ∧ l.gone.map (·.lunName) = ["a"] ∧ l.Agrees q.world.cache := by
  obtain ⟨l, q, hrun, hkept, hgone⟩ := observed_of_watch act
    (fun job => (VolumeRpc.serve .plain job).run) VolumeRpc.accept VolumeRpc.leave Ledger.see
    Orderly {} emptyServer
    ([.spawn (creation "a")] ++ calls 0 6 0 ++ [.spawn (creation "b")] ++ calls 1 2 1 ++ calls 0 8 0 ++
      calls 1 8 1 ++ [.finish 0, .finish 0, .spawn (deletion "a")] ++ calls 0 9 0)
    (fun l _ => l.kept.map (·.lunName) = ["b"] ∧ l.gone.map (·.lunName) = ["a"]) (by decide)
  exact ⟨l, q, hrun, hkept, hgone, finished_stay rfl distinctNames_empty nofun hrun⟩

def OnlyVolumes (_ : VolumeServer) : Action VolumeRpc Choice → Prop
  | .spawn (.locked (.createSnapshot _)) | .spawn (.locked (.deleteSnapshot _))
  | .spawn (.locked (.expandVolume _ _)) => False
  | _ => True

instance (p : VolumeServer) : (a : Action VolumeRpc Choice) → Decidable (OnlyVolumes p a)
  | .spawn (.locked (.createSnapshot _)) | .spawn (.locked (.deleteSnapshot _))
  | .spawn (.locked (.expandVolume _ _)) => .isFalse id
  | .spawn (.locked (.createVolume _)) | .spawn (.locked (.deleteVolume _)) | .spawn .listVolumes
  | .step _ _ | .finish _ => .isTrue trivial

/-- A ListVolumes lists the LUNs, a volume is created, and then the listing is installed: the new
volume is not in the cache. -/
theorem refresh_undoes_create : ¬ ∀ (c : Controller) (p q : VolumeServer) (l : Ledger),
    p.threads = [] → p.world.san.DistinctNames →
    (∀ n i, p.world.cache.Knows n i → p.world.san.Carries i n) →
    Ledgered c OnlyVolumes p l q → l.Agrees q.world.cache := by
  intro h
  obtain ⟨l, q, hrun, hmem, hlost⟩ := observed_of_watch act
    (fun job => (VolumeRpc.serve .plain job).run) VolumeRpc.accept VolumeRpc.leave Ledger.see
    OnlyVolumes {} emptyServer
    ([.spawn .listVolumes] ++ calls 0 4 0 ++ [.spawn (creation "a")] ++ calls 1 14 0 ++ calls 0 1 0)
    (fun l q => (⟨0, 0, true, "a"⟩ : ExternalID) ∈ l.kept ∧ ¬ q.world.cache.Knows "a" 0) (by decide)
  exact hlost ((h .plain _ _ _ rfl distinctNames_empty nofun hrun).kept _ hmem)

end NomadCsi.Qnap
