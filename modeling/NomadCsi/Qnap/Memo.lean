import NomadCsi.Qnap.Agree
import NomadCsi.Stats.Rehydrate

/-!
# The memo of the stats reconciler

A sweep of `qnap/stats_reconcile.go` finds the sessions of the node and gives each an id: the
one it has kept for the target IQN and LUN number, or the one that the identity cache finds,
which it then keeps for good. An IQN is made from a volume's name, so it comes back with the
name, at other indices. `memo_stays_true` says which creations and deletions the memo bears.

The operations of the controller and of the node follow one another; a stage or an unstage may
also have the identity cache filled (`Step.lookup`).
-/

namespace NomadCsi.Qnap

open Lib Lib.Go Driver Node

/-! ### A sweep -/

/-- Ids by `IQN/LUN`. -/
abbrev Memo := Map String String

def memoKey (iqn : String) (lun : Int) : String := iqn ++ "/" ++ itoa lun

/-- The id of one session: kept, or found and then kept. -/
def identify (now later : Int) (e : StagedSession) (resolved : Memo) (ids : SanIdentityCache) :
    Op (Option String × Memo × SanIdentityCache) := do
  match resolved.lookup (memoKey e.iqn e.lun) with
  | some id => return (some id, resolved, ids)
  | none =>
    match ← resolveExternalID ids now later e.iqn e.lun with
    | (none, ids) => return (none, resolved, ids)
    | (some id, ids) => return (some id, resolved.insert (memoKey e.iqn e.lun) id, ids)

/-- The sessions of a sweep with the ids used for them. -/
abbrev Used := List (StagedSession × Option String)

/-- Identifies one session after the other. `clock` has the readings of the lookup of a session. -/
def identifyAll (clock : StagedSession → Int × Int) :
    List StagedSession → Memo → SanIdentityCache → Op (Used × Memo × SanIdentityCache)
  | [], resolved, ids => return ([], resolved, ids)
  | e :: rest, resolved, ids => do
    let (id, resolved, ids) ← identify (clock e).1 (clock e).2 e resolved ids
    let (used, resolved, ids) ← identifyAll clock rest resolved ids
    return ((e, id) :: used, resolved, ids)

/-- What is handed to Reconcile: the volumes to track, and whether others may be evicted. -/
def desired (used : Used) : List Stats.TrackSpec × Bool :=
  (used.filterMap fun u => u.2.map fun id => ⟨id, u.1.stagingPath, u.1.accessType⟩,
    used.all (·.2.isSome))

def statsEvictGraceSweeps : Int := 2

/-- The end of a sweep. -/
def rehydrate (used : Used) : Stats.Op (List String) :=
  Stats.reconcile true (desired used).1 (desired used).2 statsEvictGraceSweeps

/-! ### Runs -/

structure Sys where
  world : World
  /-- The node's session at the appliance. -/
  sess : Option Int
  host : Host
  resolved : Memo
  ids : SanIdentityCache

namespace Sys

/-- What the node's calls to the appliance read and write. -/
def nodeWorld (s : Sys) : World := { s.world with sess := s.sess }

def afterNode (s : Sys) (w : World) : Sys :=
  { s with world := { w with sess := s.world.sess, cache := s.world.cache }, sess := w.sess }

def Started (s : Sys) : Prop := s.resolved = ∅ ∧ s.ids = .empty

end Sys

inductive Label where
  | served (tr : List Ev)
  | node
  | swept (used : Used)

inductive Step (n : NodePlugin) (s : Sys) : Label → Sys → Prop where
  | create {c : Controller} {req : CreateVolumeRequest} {tr : List Ev} {r : Except Err Volume}
      {w : World} (h : Runs act (createVolume c req).run s.world tr r w) :
      Step n s (.served tr) { s with world := w }
  | delete {id : String} {tr : List Ev} {r : Except Err Unit} {w : World}
      (h : Runs act (deleteVolume id).run s.world tr r w) :
      Step n s (.served tr) { s with world := w }
  | stage {req : StageRequest} {tr : List HostEv} {r : Except Error Unit} {h' : Host}
      (h : Runs hostAct (stageVolume n req).run s.host tr r h') :
      Step n s .node { s with host := h' }
  | unstage {req : UnstageRequest} {tr : List HostEv} {r : Except Error Unit} {h' : Host}
      (h : Runs hostAct (unstageVolume n req).run s.host tr r h') :
      Step n s .node { s with host := h' }
  | lookup {eid : ExternalID} {now later : Int} {tr : List Ev} {iqn : Option String}
      {ids : SanIdentityCache} {w : World}
      (h : Runs act (resolveIQN s.ids now later eid).run s.nodeWorld tr (.ok (iqn, ids)) w) :
      Step n s .node { s.afterNode w with ids := ids }
  | sweepFailed {tr : List HostEv} {e : String} {h' : Host}
      (h : Runs hostAct (stagedSessions n).run s.host tr (.error e) h') :
      Step n s .node { s with host := h' }
  | sweep {tr : List HostEv} {entries : List StagedSession} {h' : Host}
      {clock : StagedSession → Int × Int} {tr' : List Ev}
      {used : Used} {resolved : Memo} {ids : SanIdentityCache}
      {w : World} (h : Runs hostAct (stagedSessions n).run s.host tr (.ok entries) h')
      (hids : Runs act (identifyAll clock entries s.resolved s.ids).run s.nodeWorld tr'
        (.ok (used, resolved, ids)) w) :
      Step n s (.swept used) { s.afterNode w with host := h', resolved := resolved, ids := ids }

/-- One step after the other, each with `Ok`. -/
inductive Course (n : NodePlugin) (Ok : Sys → Label → Prop) (s0 : Sys) : Sys → Prop where
  | start : Course n Ok s0 s0
  | step {s s' : Sys} {l : Label} (h : Course n Ok s0 s) (hok : Ok s l) (hs : Step n s l s') :
      Course n Ok s0 s'

def San.freshID (s : San) (iqn : String) (lun : Int) : Option String :=
  (SanIdentityCache.build s.allTargets s.allLUNs 0).idFor iqn lun

theorem answered_freshID {w : World} (hw : w.Honoured) (now later : Int) (iqn : String) (lun : Int) :
    Answered (do return (← resolveExternalID .empty now later iqn lun).1) w
      (fun id _ => id = w.san.freshID iqn lun) fun _ _ => False :=
  answered_resolve hw (fun hwarm => by cases hwarm) fun _ => rfl

/-- Every id used is the one that a lookup would find now. -/
def UsedFresh (s : San) (used : Used) : Prop :=
  ∀ e id, (e, some id) ∈ used → s.freshID e.iqn e.lun = some id

/-! ### What the appliance says of a session -/

def San.idOn (s : San) (t : Int) (aliasName : String) (lun : Int) : Option String :=
  (SanIdentityCache.lunAt ⟨t, "", aliasName, s.lunsOf t⟩ lun).bind fun i =>
    (s.lun i).map fun l => ExternalID.toString ⟨i, t, aliasName = l.name, l.name⟩

/-- The id is that of the session, as long as its target is there with a LUN. -/
def San.Shows (s : San) (iqn : String) (lun : Int) (id : String) : Prop :=
  iqn ≠ "" ∧ ∀ t row, s.targets.lookup t = some row → row.iqn = iqn →
    s.lunsOf t = [] ∨ s.idOn t row.aliasName lun = some id

variable {lun : Int}

theorem lunAt_mem {tgt : Target} {i : Int} (h : SanIdentityCache.lunAt tgt lun = some i) :
    i ∈ tgt.luns := by
  unfold SanIdentityCache.lunAt at h
  split at h
  · next j hj =>
    rw [hj, Option.some.inj h]
    exact .head _
  · split at h
    · exact List.mem_of_getElem? h
    · cases h

variable {t : Int} {s : San} {row : TargetRow}

theorem San.freshID_eq (hd : s.DistinctIqns) (hrow : s.targets.lookup t = some row)
    (hiqn : row.iqn ≠ "") (lun : Int) : s.freshID row.iqn lun = s.idOn t row.aliasName lun := by
  have htarget : s.target t = some ⟨t, row.iqn, row.aliasName, s.lunsOf t⟩ :=
    San.target_eq_some.2 ⟨rfl, hrow, rfl⟩
  have hfound := lookup_byIQN_build hd htarget hiqn 0
  unfold San.freshID SanIdentityCache.idFor San.idOn
  dsimp only at hfound
  rw [hfound, Option.bind_some]
  simp only [lookup_luns_build]
  rfl

variable {id iqn : String}

theorem iqn_ne_of_freshID (h : s.freshID iqn lun = some id) : iqn ≠ "" := by
  unfold San.freshID SanIdentityCache.idFor at h
  obtain ⟨tgt, htgt, -⟩ := Option.bind_eq_some_iff.1 h
  rw [byIQN_build] at htgt
  obtain ⟨hmem, rfl⟩ := mem_of_lookup_foldl htgt
  exact of_decide_eq_true (List.mem_filter.1 hmem).2

theorem San.shows_of_freshID (hd : s.DistinctIqns) (h : s.freshID iqn lun = some id) :
    s.Shows iqn lun id := by
  have hiqn := iqn_ne_of_freshID h
  refine ⟨hiqn, fun t row hrow heq => .inr ?_⟩
  subst heq
  rw [← San.freshID_eq hd hrow hiqn]
  exact h

theorem San.Shows.freshID (h : s.Shows iqn lun id) (hd : s.DistinctIqns)
    (hrow : s.targets.lookup t = some row) (hiqn : row.iqn = iqn) (hluns : s.lunsOf t ≠ []) :
    s.freshID iqn lun = some id := by
  subst hiqn
  rw [San.freshID_eq hd hrow h.1]
  exact (h.2 t row hrow rfl).resolve_left hluns

/-! ### What a client call does to it -/

/-- The target has the same LUNs, under the same names. -/
def San.SameOn (s s' : San) (t : Int) : Prop :=
  s'.lunsOf t = s.lunsOf t ∧
    ∀ i ∈ s.lunsOf t, (s'.luns.lookup i).map (·.name) = (s.luns.lookup i).map (·.name)

theorem San.SameOn.idOn {s' : San} (h : s.SameOn s' t) (aliasName : String) (lun : Int) :
    s'.idOn t aliasName lun = s.idOn t aliasName lun := by
  unfold San.idOn
  rw [h.1]
  cases hi : SanIdentityCache.lunAt ⟨t, "", aliasName, s.lunsOf t⟩ lun with
  | none => rfl
  | some i =>
    have hname := h.2 i (lunAt_mem hi)
    have hid : ∀ x : San, (x.lun i).map (fun l => ExternalID.toString
        ⟨i, t, aliasName = l.name, l.name⟩) = ((x.luns.lookup i).map (·.name)).map fun name =>
          ExternalID.toString ⟨i, t, aliasName = name, name⟩ := by
      intro x
      unfold San.lun
      rw [Option.map_map, Option.map_map]
      rfl
    rw [Option.bind_some, Option.bind_some, hid, hid, hname]

theorem San.lunsOf_filter (s : San) (t : Int) (p : Int × Int → Bool) :
    (s.maps.filter p).filterMap (fun m => if m.2 = t then some m.1 else none) =
      (s.lunsOf t).filter fun i => p (i, t) := by
  unfold San.lunsOf
  induction s.maps with
  | nil => rfl
  | cons m rest ih =>
    obtain ⟨i, t'⟩ := m
    by_cases ht : t' = t
    · subst ht
      by_cases hp : p (i, t') = true
      · simp [hp, ih]
      · simp [hp, ih]
    · by_cases hp : p (i, t') = true
      · simp [hp, ht, ih]
      · simp [hp, ht, ih]

theorem San.lunsOf_addLUN (s : San) (i t t' : Int) (row : LunRow) (ht : t' ≠ t) :
    (s.addLUN i row t).lunsOf t' = s.lunsOf t' := by
  simp [San.addLUN, San.lunsOf, List.filterMap_append, ht.symm]

/-- The call does not touch the target of an IQN, or takes its only LUN or the target itself away. -/
structure Leaves (s : San) (c : SanCall) (ch : SanChoice) (iqn : String) : Prop where
  target : ∀ r, c = .createTarget r → ch.iqn ≠ iqn
  lun : ∀ name t row, c.newLUN = some (name, t) → s.targets.lookup t = some row → row.iqn ≠ iqn
  removed : ∀ i t row, c = .deleteLUN i ∨ c = .unmapLUN i t → (i, t) ∈ s.maps →
    s.targets.lookup t = some row → row.iqn = iqn → s.lunsOf t = [i]

section

variable {s s' : San} {c : SanCall} {ch : SanChoice} {v : c.Val} {iqn : String}

theorem serve_createTarget {r : CreateTargetRequest} {v : Int}
    (h : s.serve (.createTarget r) ch = some (v, s')) :
    ch.index ∉ s.targets ∧ s' = s.addTarget ch.index ⟨ch.iqn, r.aliasName⟩ := by
  simp only [San.serve] at h
  split at h
  · cases h
  · next hfree =>
    obtain ⟨-, rfl⟩ := Prod.mk.inj (Option.some.inj h)
    exact ⟨hfree, rfl⟩

theorem San.Linked.sameOn_addLUN (hlinked : s.Linked) {i t' : Int} {row : LunRow} (hi : i ∉ s.luns)
    (ht : t' ≠ t) : s.SameOn (s.addLUN i row t) t' := by
  refine ⟨s.lunsOf_addLUN i t t' row ht, fun j hj => ?_⟩
  have hne : j ≠ i := by
    rintro rfl
    exact hi (hlinked _ (San.mem_lunsOf.1 hj)).1
  rw [San.lookup_addLUN, if_neg hne]

/-- Mappings taken away: the only one of the target, or none of it. -/
theorem San.filter_lunsOf {i : Int} {p : Int × Int → Bool} (hp : ∀ j, j ≠ i → p (j, t) = true)
    (honly : (i, t) ∈ s.maps → s.lunsOf t = [i]) : (s.lunsOf t).filter (fun j => p (j, t)) = [] ∨
      (s.lunsOf t).filter (fun j => p (j, t)) = s.lunsOf t := by
  by_cases hmem : (i, t) ∈ s.maps
  · rw [honly hmem]
    cases hpi : p (i, t) with
    | false | true => simp [hpi]
  · refine .inr (List.filter_eq_self.2 fun j hj => hp j ?_)
    rintro rfl
    exact hmem (San.mem_lunsOf.1 hj)

/-- A target of the IQN was there before, and its LUNs are gone or as they were. -/
theorem Leaves.kept (h : Leaves s c ch iqn) (hlinked : s.Linked) (hs : s.serve c ch = some (v, s'))
    (hrow : s'.targets.lookup t = some row) (hiqn : row.iqn = iqn) :
    s.targets.lookup t = some row ∧ (s'.lunsOf t = [] ∨ s.SameOn s' t) := by
  have hsame : s.SameOn s t := ⟨rfl, fun _ _ => rfl⟩
  have hnew : ∀ {i t' : Int} {name : String} {r : LunRow}, c.newLUN = some (name, t') → i ∉ s.luns →
      s.targets.lookup t = some row → s.SameOn (s.addLUN i r t') t := by
    intro i t' name r hc hi hrow
    refine hlinked.sameOn_addLUN hi ?_
    rintro rfl
    exact h.lun name t row hc hrow hiqn
  have he := San.serve_effect hs
  cases he with
  | read | addSnap | dropSnap => exact ⟨hrow, .inr hsame⟩
  | addBlock _ _ _ hi | addClone _ _ _ hi | addRestore _ _ _ hi =>
    exact ⟨hrow, .inr (hnew rfl hi hrow)⟩
  | dropLUN i hi =>
    refine ⟨hrow, ?_⟩
    have hluns : (s.dropLUN i).lunsOf t = (s.lunsOf t).filter fun j => decide (j ≠ i) :=
      s.lunsOf_filter t fun m => decide (m.1 ≠ i)
    rcases San.filter_lunsOf (s := s) (t := t) (p := fun m => decide (m.1 ≠ i))
      (fun j hj => decide_eq_true hj) fun hm => h.removed i t row (.inl rfl) hm hrow hiqn with
      hnil | hself
    · exact .inl (hluns.trans hnil)
    · refine .inr ⟨hluns.trans hself, fun j hj => ?_⟩
      rw [← hself] at hj
      have hne : j ≠ i := of_decide_eq_true (List.mem_filter.1 hj).2
      rw [San.lookup_dropLUN, if_neg hne]
  | unmap i t' =>
    refine ⟨hrow, ?_⟩
    have hluns : (s.unmap i t').lunsOf t = (s.lunsOf t).filter fun j => decide ((j, t) ≠ (i, t')) :=
      s.lunsOf_filter t fun m => decide (m ≠ (i, t'))
    by_cases ht : t = t'
    · subst ht
      rcases San.filter_lunsOf (s := s) (t := t) (p := fun m => decide (m ≠ (i, t)))
        (fun j hj => decide_eq_true fun heq => hj (Prod.mk.inj heq).1)
        fun hm => h.removed i t row (.inr rfl) hm hrow hiqn with hnil | hself
      · exact .inl (hluns.trans hnil)
      · exact .inr ⟨hluns.trans hself, fun _ _ => rfl⟩
    · refine .inr ⟨hluns.trans (List.filter_eq_self.2 fun j _ => decide_eq_true ?_), fun _ _ => rfl⟩
      exact fun heq => ht (Prod.mk.inj heq).2
  | resize i gb r hr =>
    refine ⟨hrow, .inr ⟨rfl, fun j _ => ?_⟩⟩
    rw [San.lookup_resize]
    split
    · next hj =>
      rw [hj, hr]
      rfl
    · rfl
  | addTarget t' iqn' hfree =>
    obtain ⟨-, heq⟩ := serve_createTarget hs
    rw [heq] at hrow ⊢
    have hne : t ≠ ch.index := by
      rintro rfl
      rw [San.addTarget, AList.lookup_insert] at hrow
      rw [← Option.some.inj hrow] at hiqn
      exact h.target _ rfl hiqn
    rw [San.addTarget, AList.lookup_insert_ne hne] at hrow
    exact ⟨hrow, .inr hsame⟩
  | dropTarget t' =>
    have hne : t ≠ t' := by
      rintro rfl
      rw [San.dropTarget, AList.lookup_erase] at hrow
      cases hrow
    rw [San.dropTarget, AList.lookup_erase_ne hne] at hrow
    have hluns : (s.dropTarget t').lunsOf t = s.lunsOf t := by
      refine (s.lunsOf_filter t fun m => decide (m.2 ≠ t')).trans (List.filter_eq_self.2 fun _ _ => ?_)
      exact decide_eq_true hne
    exact ⟨hrow, .inr ⟨hluns, fun _ _ => rfl⟩⟩

theorem San.Shows.serve (h : s.Shows iqn lun id) (hlinked : s.Linked) (hleaves : Leaves s c ch iqn)
    (hs : s.serve c ch = some (v, s')) : s'.Shows iqn lun id := by
  refine ⟨h.1, fun t row hrow hiqn => ?_⟩
  obtain ⟨hbefore, hnil | hsame⟩ := hleaves.kept hlinked hs hrow hiqn
  · exact .inl hnil
  · rcases h.2 t row hbefore hiqn with hnil | hid
    · exact .inl (hsame.1.trans hnil)
    · exact .inr ((hsame.idOn _ _).trans hid)

theorem San.Linked.serve (h : s.Linked) (hs : s.serve c ch = some (v, s')) : s'.Linked := by
  have hadd : ∀ {i t : Int} {r : LunRow}, t ∈ s.targets → (s.addLUN i r t).Linked := by
    intro i t r ht m hm
    rcases mem_snoc.1 hm with hm | rfl
    · exact ⟨(AList.mem_insert _).2 (.inr (h m hm).1), (h m hm).2⟩
    · exact ⟨(AList.mem_insert _).2 (.inl rfl), ht⟩
  have he := San.serve_effect hs
  cases he with
  | read | addSnap | dropSnap => exact h
  | addBlock _ _ _ _ ht | addClone _ _ _ _ ht | addRestore _ _ _ _ ht => exact hadd ht
  | dropLUN i _ =>
    intro m hm
    obtain ⟨hm, hne⟩ := List.mem_filter.1 hm
    exact ⟨AList.mem_erase.2 ⟨of_decide_eq_true hne, (h m hm).1⟩, (h m hm).2⟩
  | unmap i t => exact fun m hm => h m (List.mem_filter.1 hm).1
  | resize i gb r hr => exact fun m hm => ⟨(AList.mem_insert _).2 (.inr (h m hm).1), (h m hm).2⟩
  | addTarget t iqn' _ => exact fun m hm => ⟨(h m hm).1, (AList.mem_insert _).2 (.inr (h m hm).2)⟩
  | dropTarget t =>
    intro m hm
    obtain ⟨hm, hne⟩ := List.mem_filter.1 hm
    exact ⟨(h m hm).1, AList.mem_erase.2 ⟨of_decide_eq_true hne, (h m hm).2⟩⟩

theorem San.DistinctIqns.serve (h : s.DistinctIqns) (hs : s.serve c ch = some (v, s'))
    (hnew : ∀ r, c = .createTarget r → ∀ t row, s.targets.lookup t = some row → row.iqn ≠ ch.iqn) :
    s'.DistinctIqns := by
  have he := San.serve_effect hs
  cases he with
  | read | addSnap | dropSnap | addBlock | addClone | addRestore | dropLUN | unmap | resize => exact h
  | addTarget t iqn' _ =>
    obtain ⟨hfree, heq⟩ := serve_createTarget hs
    rw [heq]
    have hrows : ∀ {name : String} t row,
        (s.addTarget ch.index ⟨ch.iqn, name⟩).targets.lookup t = some row →
        t = ch.index ∧ row.iqn = ch.iqn ∨
          s.targets.lookup t = some row ∧ row.iqn ≠ ch.iqn := by
      intro name t row hrow
      rw [San.lookup_targets_addTarget] at hrow
      split at hrow
      · next ht => exact .inl ⟨ht, by rw [← Option.some.inj hrow]⟩
      · exact .inr ⟨hrow, hnew _ rfl t row hrow⟩
    intro t t' row row' hrow hrow' heq
    rcases hrows t row hrow with ⟨rfl, hi⟩ | ⟨ho, hi⟩
    · rcases hrows t' row' hrow' with ⟨rfl, -⟩ | ⟨-, hi'⟩
      · rfl
      · exact absurd (heq.symm.trans hi) hi'
    · rcases hrows t' row' hrow' with ⟨-, hi'⟩ | ⟨ho', -⟩
      · exact absurd (heq.trans hi') hi
      · exact h t t' row row' ho ho' heq
  | dropTarget t =>
    have hrows : ∀ t' row, (s.dropTarget t).targets.lookup t' = some row →
        s.targets.lookup t' = some row := by
      intro t' row hrow
      have hne : t' ≠ t := by
        rintro rfl
        rw [San.dropTarget, AList.lookup_erase] at hrow
        cases hrow
      rwa [San.dropTarget, AList.lookup_erase_ne hne] at hrow
    exact fun t1 t2 row1 row2 h1 h2 => h t1 t2 row1 row2 (hrows _ _ h1) (hrows _ _ h2)

end

/-! ### What the node holds -/

/-- The node would use this id for a session. -/
def Holds (resolved : Memo) (ids : SanIdentityCache) (iqn : String) (lun : Int) (id : String) : Prop :=
  resolved.lookup (memoKey iqn lun) = some id ∨ ids.idFor iqn lun = some id

theorem memoKey_inj {iqn' : String} {lun' : Int} (h : memoKey iqn lun = memoKey iqn' lun') :
    iqn = iqn' ∧ lun = lun' := by
  obtain ⟨hiqn, hlun⟩ := slash_inj_right (slash_notMem_itoa _) (slash_notMem_itoa _) h
  exact ⟨hiqn, itoa_inj hlun⟩

section

variable {s : San} {k : LunCache} {resolved : Memo} {ids : SanIdentityCache}

theorem does_hydrate (later : Int) :
    Does (fun _ _ => True) (hydrate later) s k
      (fun ids s' _ => s' = s ∧ ids = .build s.allTargets s.allLUNs later) fun _ s' _ => s' = s := by
  refine .bind (Q := fun _ s' _ => s' = s) (.smGet (fun _ => rfl) fun _ => rfl) ?_
  rintro sess s _ rfl
  refine .bind (Q := fun tgts s' _ => s' = s ∧ tgts = s.allTargets)
    (.read rfl trivial (fun _ => rfl) fun ch v hv => ⟨rfl, ?_⟩) ?_
  · exact (Prod.mk.inj (Option.some.inj hv)).1.symm
  rintro _ s _ ⟨rfl, rfl⟩
  refine .bind (Q := fun luns s' _ => s' = s ∧ luns = s.allLUNs)
    (.read rfl trivial (fun _ => rfl) fun ch v hv => ⟨rfl, ?_⟩) ?_
  · exact (Prod.mk.inj (Option.some.inj hv)).1.symm
  rintro _ s _ ⟨rfl, rfl⟩
  exact .pure ⟨rfl, rfl⟩

theorem does_resolveWith (now later : Int) (find : SanIdentityCache → Option String) :
    Does (fun _ _ => True) (resolveWith ids now later find) s k
      (fun p s' _ => s' = s ∧ (p.2 = ids ∨ p.2 = .build s.allTargets s.allLUNs later) ∧
        ∀ id, p.1 = some id → find p.2 = some id) fun _ _ _ => False := by
  unfold resolveWith
  split
  · exact .pure ⟨rfl, .inl rfl, fun _ h => h⟩
  · refine .bind (Q := fun r s' _ => s' = s ∧ ∀ ids', r = .ok ids' →
      ids' = .build s.allTargets s.allLUNs later) (.attempt ((does_hydrate later).mono ?_ ?_)) ?_
    · rintro ids' s' _ ⟨hs, rfl⟩
      exact ⟨hs, fun _ h => (Except.ok.inj h).symm⟩
    · exact fun e s' _ hs => ⟨hs, fun _ h => by cases h⟩
    · rintro (e | ids') s' _ ⟨rfl, hids⟩
      · exact .pure ⟨rfl, .inl rfl, fun _ h => by cases h⟩
      · exact .pure ⟨rfl, .inr (hids ids' rfl), fun _ h => h⟩

variable {Q : String → Int → String → Prop}

theorem holds_of_lookup (hfresh : ∀ iqn lun id, s.freshID iqn lun = some id → Q iqn lun id)
    (hQ : ∀ iqn lun id, Holds resolved ids iqn lun id → Q iqn lun id) {ids' : SanIdentityCache}
    {later : Int} (hids : ids' = ids ∨ ids' = .build s.allTargets s.allLUNs later) :
    ∀ iqn lun id, Holds resolved ids' iqn lun id → Q iqn lun id := by
  rcases hids with rfl | rfl
  · exact hQ
  · rintro iqn lun id (h | h)
    · exact hQ iqn lun id (.inl h)
    · exact hfresh iqn lun id h

/-- What is true of every id held and of every id found is true of the ids used and held then. -/
theorem does_identify (hfresh : ∀ iqn lun id, s.freshID iqn lun = some id → Q iqn lun id)
    (hQ : ∀ iqn lun id, Holds resolved ids iqn lun id → Q iqn lun id) (now later : Int)
    (e : StagedSession) :
    Does (fun _ _ => True) (identify now later e resolved ids) s k
      (fun p s' _ => s' = s ∧ (∀ iqn lun id, Holds p.2.1 p.2.2 iqn lun id → Q iqn lun id) ∧
        ∀ id, p.1 = some id → Q e.iqn e.lun id) fun _ _ _ => False := by
  unfold identify
  cases hmemo : resolved.lookup (memoKey e.iqn e.lun) with
  | some id =>
    refine .pure ⟨rfl, hQ, fun id' h => ?_⟩
    rw [← Option.some.inj h]
    exact hQ _ _ _ (.inl hmemo)
  | none =>
    refine .bind (does_resolveWith now later _) ?_
    rintro ⟨found, ids'⟩ s _ ⟨rfl, hids, hfound⟩
    have hnext := holds_of_lookup hfresh hQ hids
    cases found with
    | none => exact .pure ⟨rfl, hnext, fun _ h => by cases h⟩
    | some id =>
      have hid : Q e.iqn e.lun id := hnext _ _ _ (.inr (hfound id rfl))
      refine .pure ⟨rfl, ?_, fun id' h => Option.some.inj h ▸ hid⟩
      rintro iqn lun id' (h | h)
      · by_cases hkey : memoKey iqn lun = memoKey e.iqn e.lun
        · obtain ⟨rfl, rfl⟩ := memoKey_inj hkey
          rw [AList.lookup_insert] at h
          exact Option.some.inj h ▸ hid
        · rw [AList.lookup_insert_ne hkey] at h
          exact hnext _ _ _ (.inl h)
      · exact hnext _ _ _ (.inr h)

theorem does_identifyAll (hfresh : ∀ iqn lun id, s.freshID iqn lun = some id → Q iqn lun id)
    (clock : StagedSession → Int × Int) (entries : List StagedSession)
    (hQ : ∀ iqn lun id, Holds resolved ids iqn lun id → Q iqn lun id) :
    Does (fun _ _ => True) (identifyAll clock entries resolved ids) s k
      (fun p s' _ => s' = s ∧ (∀ iqn lun id, Holds p.2.1 p.2.2 iqn lun id → Q iqn lun id) ∧
        ∀ u ∈ p.1, u.1 ∈ entries ∧ ∀ id, u.2 = some id → Q u.1.iqn u.1.lun id)
      fun _ _ _ => False := by
  induction entries generalizing k resolved ids with
  | nil => exact .pure ⟨rfl, hQ, by simp⟩
  | cons e rest ih =>
    refine .bind (does_identify hfresh hQ _ _ e) ?_
    rintro ⟨found, resolved1, ids1⟩ s1 k1 ⟨hs1, hQ1, hid⟩
    subst hs1
    refine .bind (ih hQ1) ?_
    rintro ⟨used, resolved2, ids2⟩ s2 k2 ⟨hs2, hQ2, hused⟩
    refine .pure ⟨hs2, hQ2, fun u hu => ?_⟩
    rcases List.mem_cons.1 hu with rfl | hu
    · exact ⟨.head _, hid⟩
    · exact ⟨.tail _ (hused u hu).1, (hused u hu).2⟩

end

/-! ### Which runs the memo bears -/

variable {n : NodePlugin}

namespace Sys

/-- The node holds an id for some session of the IQN. -/
def Knows (s : Sys) (iqn : String) : Prop := ∃ lun id, Holds s.resolved s.ids iqn lun id

/-- A call of the controller makes no target under an IQN in use, and leaves alone what the node
knows, or removes it. -/
def Careful (s : Sys) (e : Ev) : Prop :=
  ∀ sess c, e.call = .san sess c →
    (∀ r, c = .createTarget r → ∀ t row, e.pre.san.targets.lookup t = some row →
      row.iqn ≠ e.choice.san.iqn) ∧
    ∀ iqn, s.Knows iqn → Leaves e.pre.san c e.choice.san iqn

/-- The sessions of targets that the node knows are those of targets with a LUN. -/
def StillThere (n : NodePlugin) (s : Sys) : Prop :=
  ∀ x ∈ ownSessions n s.host.sessions, s.Knows x.iqn →
    ∃ t row, s.world.san.targets.lookup t = some row ∧ row.iqn = x.iqn ∧
      s.world.san.lunsOf t ≠ []

def Prudent (n : NodePlugin) (s : Sys) : Label → Prop
  | .served tr => ∀ e ∈ tr, s.Careful e
  | .node => True
  | .swept _ => s.StillThere n

/-- The appliance is in order, and what the node holds is what it shows. -/
structure Faithful (s : Sys) : Prop where
  distinct : s.world.san.DistinctIqns
  linked : s.world.san.Linked
  shows : ∀ iqn lun id, Holds s.resolved s.ids iqn lun id → s.world.san.Shows iqn lun id

theorem Faithful.served {s : Sys} (h : s.Faithful) {α : Type} {x : Op α} {tr : List Ev}
    {r : Except Err α} {w : World} (hrun : Runs act x.run s.world tr r w)
    (hok : ∀ e ∈ tr, s.Careful e) : ({ s with world := w } : Sys).Faithful := by
  have hchain := hrun.chain
    (T := fun v v' => ({ s with world := v } : Sys).Faithful → ({ s with world := v' } : Sys).Faithful)
    (fun _ h => h) (fun _ _ _ h h' hv => h' (h hv)) ?_
  · exact hchain.1 h
  intro e he hv
  rcases act_cases e.pre e.call e.choice with ⟨hsan, -⟩ | ⟨sess, c, v, hc, -, hserve⟩
  · exact ⟨hsan ▸ hv.distinct, hsan ▸ hv.linked, hsan ▸ hv.shows⟩
  · obtain ⟨hnew, hleaves⟩ := hok e he sess c hc
    refine ⟨hv.distinct.serve hserve hnew, hv.linked.serve hserve, fun iqn lun id hh => ?_⟩
    exact (hv.shows iqn lun id hh).serve hv.linked (hleaves iqn ⟨lun, id, hh⟩) hserve

theorem Faithful.step {s s' : Sys} {l : Label} (h : s.Faithful) (hok : s.Prudent n l)
    (hs : Step n s l s') : s'.Faithful ∧ ∀ used, l = .swept used → UsedFresh s.world.san used := by
  have hfresh : ∀ iqn lun id, s.world.san.freshID iqn lun = some id →
      s.world.san.Shows iqn lun id := fun _ _ _ => San.shows_of_freshID h.distinct
  cases hs with
  | create hrun | delete hrun => exact ⟨h.served hrun hok, fun _ h => by cases h⟩
  | stage | unstage | sweepFailed => exact ⟨⟨h.distinct, h.linked, h.shows⟩, fun _ h => by cases h⟩
  | lookup hrun =>
    obtain ⟨-, hsan, hids, -⟩ := Does.runs (does_resolveWith (s := s.nodeWorld.san) _ _ _) hrun
    have hsan : _ = s.world.san := hsan
    exact ⟨⟨hsan ▸ h.distinct, hsan ▸ h.linked, hsan ▸ holds_of_lookup hfresh h.shows hids⟩,
      nofun⟩
  | sweep hlist hrun =>
    -- an id that was held is shown, one that is found now is fresh
    let Q := fun iqn lun id => s.world.san.Shows iqn lun id ∧ s.Knows iqn ∨
      s.world.san.freshID iqn lun = some id
    obtain ⟨-, hsan, hheld, hused⟩ := Does.runs (does_identifyAll (s := s.nodeWorld.san) (Q := Q)
      (fun _ _ _ => .inr) _ _ fun iqn lun id hh => .inl ⟨h.shows iqn lun id hh, lun, id, hh⟩) hrun
    have hsan : _ = s.world.san := hsan
    refine ⟨⟨hsan ▸ h.distinct, hsan ▸ h.linked, fun iqn lun id hh => ?_⟩, ?_⟩
    · rw [show ({ s.afterNode _ with host := _, resolved := _, ids := _ } : Sys).world.san =
        s.world.san from hsan]
      rcases hheld iqn lun id hh with hq | hq
      · exact hq.1
      · exact hfresh _ _ _ hq
    · rintro used ⟨⟩ e id hmem
      obtain ⟨he, hid⟩ := hused _ hmem
      rcases hid id rfl with ⟨hshows, hknows⟩ | hq
      · obtain ⟨-, hunits⟩ := (wp_iff.1 (wp_qnap_stagedSessions n s.host) _ _ _ hlist).2 _ rfl
        have hunit := (hunits (e.iqn, e.lun)).1 (List.mem_map.2 ⟨e, he, rfl⟩)
        obtain ⟨x, hx, hxe⟩ := List.mem_map.1 hunit
        obtain ⟨hiqn, -⟩ := Prod.mk.inj hxe
        obtain ⟨t, row, hrow, hri, hluns⟩ := hok x hx (hiqn ▸ hknows)
        exact hshows.freshID h.distinct hrow (hri.trans hiqn) hluns
      · exact hq

theorem Faithful.course {s0 s : Sys} (hstart : s0.Started)
    (hdistinct : s0.world.san.DistinctIqns) (hlinked : s0.world.san.Linked)
    (hrun : Course n (Prudent n) s0 s) : s.Faithful := by
  induction hrun with
  | start =>
    refine ⟨hdistinct, hlinked, fun iqn lun id hh => ?_⟩
    rw [hstart.1, hstart.2] at hh
    rcases hh with hh | hh
    · cases hh
    · cases hh
  | step _ hok hs ih => exact (ih.step hok hs).1

end Sys

theorem mem_wanted_desired {s : San} {used : Used}
    (h : UsedFresh s used) (v : String) :
    v ∈ Stats.wanted (desired used).1 ↔ ∃ e, (e, some v) ∈ used := by
  have hne : ∀ e id, (e, some id) ∈ used → id ≠ "" := by
    intro e id hu
    obtain ⟨tgt, -, hid⟩ := Option.bind_eq_some_iff.1 (h e id hu)
    obtain ⟨i, -, hid⟩ := Option.bind_eq_some_iff.1 hid
    obtain ⟨lun, -, rfl⟩ := Option.map_eq_some_iff.1 hid
    simp [ExternalID.toString]
  simp only [Stats.wanted, desired, List.mem_filter, List.mem_map, List.mem_filterMap,
    Option.map_eq_some_iff]
  constructor
  · rintro ⟨⟨_, ⟨⟨e, _⟩, hu, id, rfl, rfl⟩, rfl⟩, -⟩
    exact ⟨e, hu⟩
  · rintro ⟨e, hu⟩
    exact ⟨⟨_, ⟨_, hu, v, rfl, rfl⟩, rfl⟩, decide_eq_true (hne e v hu)⟩

/-- The sessions that a sweep has identified are tracked under their fresh ids, and nothing else is
added; while there is one that it has not, nothing is taken out. -/
theorem sweep_rehydrates {s s' : Sys} {used : Used}
    (h : s.Faithful) (hok : s.StillThere n) (hsweep : Step n s (.swept used) s')
    {r r' : Stats.Registry} {tr : List Stats.Ev} {evicted : List String} (hr : r.Measured)
    (hrun : Runs Stats.act (rehydrate used) r tr evicted r') :
    (∀ e id, (e, some id) ∈ used → s.world.san.freshID e.iqn e.lun = some id ∧ id ∈ r'.cache) ∧
    (∀ v ∈ r'.cache, v ∉ r.cache → ∃ e, (e, some v) ∈ used) ∧
    ((∃ e, (e, none) ∈ used) → evicted = [] ∧ ∀ v ∈ r.cache, v ∈ r'.cache) := by
  have hfresh := (h.step (l := .swept used) hok hsweep).2 used rfl
  obtain ⟨hadded, honly, hkept⟩ := wp_iff.1
    (Stats.wp_reconcile_adds hr (desired used).1 (desired used).2 (by decide)) _ _ _ hrun
  refine ⟨fun e id hu => ?_, fun v hv hnew => ?_, ?_⟩
  · exact ⟨hfresh e id hu, hadded id ((mem_wanted_desired hfresh id).2 ⟨e, hu⟩)⟩
  · exact (mem_wanted_desired hfresh v).1 ((honly v hv).resolve_left hnew)
  · rintro ⟨e, hu⟩
    refine hkept (Bool.eq_false_iff.2 fun hall => ?_)
    cases List.all_eq_true.1 hall _ hu

/-! ### Concrete runs -/

/-- A step with the answers of its environment. -/
inductive Move where
  | create (req : CreateVolumeRequest) (chs : List Choice)
  | delete (id : String) (chs : List Choice)
  | stage (req : StageRequest) (chs : List CmdChoice)
  | unstage (req : UnstageRequest) (chs : List CmdChoice)
  | sweep (now : Int) (chs : List CmdChoice) (chs' : List Choice)

namespace Sys

/-- The end of a sweep whose enumeration succeeded. -/
def sweepOver (s : Sys) (now : Int) (chs : List Choice) (h : Host) :
    Except String (List StagedSession) → Option (Label × Sys)
  | .error _ => none
  | .ok entries =>
    (exec act (identifyAll (fun _ => (now, now)) entries s.resolved s.ids).run s.nodeWorld chs).bind
      fun r => r.2.1.toOption.map fun u =>
        (.swept u.1, { s.afterNode r.2.2 with host := h, resolved := u.2.1, ids := u.2.2 })

def move (n : NodePlugin) (s : Sys) : Move → Option (Label × Sys)
  | .create req chs => (exec act (createVolume .plain req).run s.world chs).map fun r =>
      (.served r.1, { s with world := r.2.2 })
  | .delete id chs => (exec act (deleteVolume id).run s.world chs).map fun r =>
      (.served r.1, { s with world := r.2.2 })
  | .stage req chs => (exec hostAct (stageVolume n req).run s.host chs).map fun r =>
      (.node, { s with host := r.2.2 })
  | .unstage req chs => (exec hostAct (unstageVolume n req).run s.host chs).map fun r =>
      (.node, { s with host := r.2.2 })
  | .sweep now chs chs' => (exec hostAct (stagedSessions n).run s.host chs).bind fun r =>
      s.sweepOver now chs' r.2.2 r.2.1

theorem step_of_move {s s' : Sys} {m : Move} {l : Label} (h : s.move n m = some (l, s')) :
    Step n s l s' := by
  cases m with
  | create req chs =>
    obtain ⟨⟨tr, r, w⟩, he, heq⟩ := Option.map_eq_some_iff.1 h
    obtain ⟨rfl, rfl⟩ := Prod.mk.inj heq
    exact .create (exec_runs act _ _ _ he)
  | delete id chs =>
    obtain ⟨⟨tr, r, w⟩, he, heq⟩ := Option.map_eq_some_iff.1 h
    obtain ⟨rfl, rfl⟩ := Prod.mk.inj heq
    exact .delete (exec_runs act _ _ _ he)
  | stage req chs =>
    obtain ⟨⟨tr, r, h'⟩, he, heq⟩ := Option.map_eq_some_iff.1 h
    obtain ⟨rfl, rfl⟩ := Prod.mk.inj heq
    exact .stage (exec_runs hostAct _ _ _ he)
  | unstage req chs =>
    obtain ⟨⟨tr, r, h'⟩, he, heq⟩ := Option.map_eq_some_iff.1 h
    obtain ⟨rfl, rfl⟩ := Prod.mk.inj heq
    exact .unstage (exec_runs hostAct _ _ _ he)
  | sweep now chs chs' =>
    obtain ⟨⟨tr, r, h'⟩, he, hover⟩ := Option.bind_eq_some_iff.1 h
    cases r with
    | error e => cases hover
    | ok entries =>
      obtain ⟨⟨tr', r', w⟩, he', hok⟩ := Option.bind_eq_some_iff.1 hover
      cases r' with
      | error e => cases hok
      | ok u =>
        obtain ⟨rfl, rfl⟩ := Prod.mk.inj (Option.some.inj hok)
        exact .sweep (exec_runs hostAct _ _ _ he) (exec_runs act _ _ _ he')

def play (n : NodePlugin) (ok : Sys → Label → Bool) : Sys → List Move → Option Sys
  | s, [] => some s
  | s, m :: ms => (s.move n m).bind fun r => if ok s r.1 then play n ok r.2 ms else none

theorem course_of_play {ok : Sys → Label → Bool} {Ok : Sys → Label → Prop}
    (hok : ∀ s l, ok s l = true → Ok s l) {s0 s s' : Sys} {ms : List Move} (h : Course n Ok s0 s)
    (hp : s.play n ok ms = some s') : Course n Ok s0 s' := by
  induction ms generalizing s with
  | nil =>
    obtain rfl := Option.some.inj hp
    exact h
  | cons m ms ih =>
    obtain ⟨⟨l, s1⟩, hm, hp⟩ := Option.bind_eq_some_iff.1 hp
    split at hp
    · next hl => exact ih (.step h (hok _ _ hl) (step_of_move hm)) hp
    · cases hp

theorem exists_of_play (n : NodePlugin) {ok : Sys → Label → Bool} {Ok : Sys → Label → Prop}
    (hok : ∀ s l, ok s l = true → Ok s l) (s0 : Sys) (ms : List Move) (m : Move)
    (P : Sys → Label → Bool)
    (h : ((s0.play n ok ms).any fun s => (s.move n m).any fun r => P s r.1) = true) :
    ∃ s l s', Course n Ok s0 s ∧ Step n s l s' ∧ P s l = true := by
  obtain ⟨s, hs, h⟩ := (Option.any_eq_true _ _).1 h
  obtain ⟨⟨l, s'⟩, hm, h⟩ := (Option.any_eq_true _ _).1 h
  exact ⟨s, l, s', course_of_play hok .start hs, step_of_move hm, h⟩

end Sys

/-- The IQN of a target is that of its name. -/
def IqnByName (f : String → String) (_ : Sys) : Label → Prop
  | .served tr => ∀ e ∈ tr, ∀ sess r, e.call = .san sess (.createTarget r) →
      e.choice.san.iqn = f r.name
  | _ => True

def byName (f : String → String) (e : Ev) : Bool :=
  match e.call with
  | .san _ (.createTarget r) => e.choice.san.iqn = f r.name
  | _ => true

def byNames (f : String → String) (_ : Sys) : Label → Bool
  | .served tr => tr.all (byName f)
  | _ => true

theorem iqnByName_of_label {f : String → String} (s : Sys) (l : Label) (h : byNames f s l = true) :
    IqnByName f s l := by
  cases l with
  | served tr =>
    intro e he sess r hc
    have hev := List.all_eq_true.1 h e he
    unfold byName at hev
    rw [hc] at hev
    exact of_decide_eq_true hev
  | node | swept => trivial

def misread (s : Sys) : Label → Bool
  | .swept used => used.any fun u => u.2.any fun id => s.world.san.freshID u.1.iqn u.1.lun ≠ some id
  | _ => false

/-- Answers for a new volume at the given index of LUNs and targets. -/
def placed (index : Int) (iqn : String) : List Choice :=
  List.replicate 20 { san := { index := index, iqn := iqn } }

def stageA (iqn : String) : Move :=
  .stage ⟨"a", "/staging/a", ⟨.block, "", []⟩,
    ((AList.insert "portal" "10.0.0.1:3260" ∅).insert "iqn" iqn).insert "lun" "0"⟩
    (List.replicate 10 { luns := [(0, "sda")], device := "sda" })

def unstageA : Move := .unstage ⟨"a", "/staging/a"⟩ (List.replicate 20 {})

def sweepAt (now : Int) : Move := .sweep now (List.replicate 9 {}) (List.replicate 9 {})

def newNode (w : World) : Sys := ⟨w, some 1, .of [] [] [] 0, ∅, .empty⟩

/-- Volume `a` is staged and seen by a sweep, then unstaged and deleted. Its indices go to `b`, and a
new `a` gets others, and the given IQN. -/
def recreateA (iqn : String) : List Move :=
  [.create (request "a") (placed 0 "iqn.a"), stageA "iqn.a", sweepAt 0, unstageA,
    .delete (ExternalID.toString ⟨0, 0, true, "a"⟩) (List.replicate 20 {}),
    .create (request "b") (placed 0 "iqn.b"), .create (request "a") (placed 1 iqn), stageA iqn]

/-! ### The memo -/

/-- In a run whose steps are prudent every sweep uses fresh ids. -/
theorem memo_stays_true {n : NodePlugin} {s0 s s' : Sys} {used : Used}
    (hstart : s0.Started) (hdistinct : s0.world.san.DistinctIqns) (hlinked : s0.world.san.Linked)
    (hrun : Course n (Sys.Prudent n) s0 s) (hok : s.StillThere n) (hsweep : Step n s (.swept used) s') :
    UsedFresh s.world.san used := by
  have hfaithful := Sys.Faithful.course hstart hdistinct hlinked hrun
  exact (hfaithful.step (l := .swept used) hok hsweep).2 used rfl

/-- Decides more than `Knows`: an IQN that begins a key of the memo counts. -/
def known (s : Sys) (iqn : String) : Bool :=
  s.resolved.keys.any (iqn.toList.isPrefixOf ·.toList) || (s.ids.byIQN.lookup iqn).isSome

theorem known_of_knows {s : Sys} {iqn : String} (h : s.Knows iqn) : known s iqn = true := by
  obtain ⟨lun, id, h | h⟩ := h
  · have hkey : memoKey iqn lun ∈ s.resolved.keys := AList.lookup_isSome.1 (by rw [h]; rfl)
    refine Bool.or_eq_true_iff.2 (.inl (List.any_eq_true.2 ⟨_, hkey, ?_⟩))
    simp [memoKey]
  · obtain ⟨tgt, htgt, -⟩ := Option.bind_eq_some_iff.1 h
    simp [known, htgt]

def careful (s : Sys) (e : Ev) : Bool :=
  match e.call with
  | .san _ (.createTarget _) =>
    !known s e.choice.san.iqn && e.pre.san.targets.entries.all (·.2.iqn ≠ e.choice.san.iqn)
  | .san _ (.deleteLUN i) | .san _ (.unmapLUN i _) =>
    e.pre.san.maps.all fun m => m.1 ≠ i || e.pre.san.lunsOf m.2 = [i]
  | .san _ c => c.newLUN.all fun m => (e.pre.san.targets.lookup m.2).all fun row => !known s row.iqn
  | _ => true

theorem careful_sound {s : Sys} {e : Ev} (h : careful s e = true) : s.Careful e := by
  intro sess c hc
  unfold careful at h
  rw [hc] at h
  refine ⟨?_, fun iqn hknows => ⟨?_, ?_, ?_⟩⟩
  · rintro r rfl t row hrow
    have hall := List.all_eq_true.1 (Bool.and_eq_true_iff.1 h).2 ⟨t, row⟩ (AList.mem_lookup_iff.1 hrow)
    exact of_decide_eq_true hall
  · rintro r rfl rfl
    have hnot := (Bool.and_eq_true_iff.1 h).1
    rw [known_of_knows hknows] at hnot
    cases hnot
  · rintro name t row hnew hrow rfl
    have hnot : (c.newLUN.all fun m => (e.pre.san.targets.lookup m.2).all
        fun row => !known s row.iqn) = true := by
      cases c <;> first | exact h | cases hnew
    rw [hnew, Option.all_some, hrow, Option.all_some, known_of_knows hknows] at hnot
    cases hnot
  · rintro i t row (rfl | rfl) hmem - -
    all_goals simpa using List.all_eq_true.1 h _ hmem

/-- A step that can be seen to be prudent. -/
def tame (n : NodePlugin) (s : Sys) : Label → Bool
  | .served tr => tr.all (careful s)
  | .node => true
  | .swept _ => (ownSessions n s.host.sessions).all fun x => s.world.san.targets.entries.any fun e =>
      e.2.iqn = x.iqn && !(s.world.san.lunsOf e.1).isEmpty

theorem prudent_of_tame (s : Sys) (l : Label) (h : tame n s l = true) : s.Prudent n l := by
  cases l with
  | served tr => exact fun e he => careful_sound (List.all_eq_true.1 h e he)
  | node => trivial
  | swept used =>
    intro x hx _
    obtain ⟨⟨t, row⟩, he, hrow⟩ := List.any_eq_true.1 (List.all_eq_true.1 h x hx)
    obtain ⟨hiqn, hluns⟩ := Bool.and_eq_true_iff.1 hrow
    exact ⟨t, row, AList.mem_lookup_iff.2 he, of_decide_eq_true hiqn, by simpa using hluns⟩

def Label.uses : Label → Bool
  | .swept used => used.any (·.2.isSome)
  | _ => false

/-- A volume is created again under another IQN. -/
theorem restaged_volume_fresh : ∃ s s' used,
    Course .single (Sys.Prudent .single) (newNode (.of [] [] [])) s ∧
      Step .single s (.swept used) s' ∧ (∃ u ∈ used, u.2.isSome = true) ∧
      UsedFresh s.world.san used := by
  obtain ⟨s, l, s', hrun, hstep, hp⟩ := Sys.exists_of_play .single
    (prudent_of_tame (n := .single)) (newNode (.of [] [] [])) (recreateA "iqn.a.2")
    (sweepAt (10 ^ 11)) (fun s l => l.uses && tame .single s l) (by decide +kernel)
  obtain ⟨huses, htame⟩ := Bool.and_eq_true_iff.1 hp
  cases l with
  | served | node => cases huses
  | swept used =>
    refine ⟨s, s', used, hrun, hstep, List.any_eq_true.1 huses, memo_stays_true ⟨rfl, rfl⟩
      (distinctIqns_of_length (by decide)) (fun m hm => ?_) hrun (prudent_of_tame s _ htame) hstep⟩
    cases hm

/-- The new volume goes by the id of the old one, whose indices are another volume's. -/
theorem recreated_volume_misread : ¬ ∀ (n : NodePlugin) (f : String → String) (s0 s s' : Sys)
    (used : Used), s0.Started → s0.world = .of [] [] [] →
    Course n (IqnByName f) s0 s → Step n s (.swept used) s' →
    UsedFresh s.world.san used := by
  intro h
  obtain ⟨s, l, s', hrun, hstep, hmis⟩ := Sys.exists_of_play .single
    (iqnByName_of_label (f := ("iqn." ++ ·))) (newNode (.of [] [] []))
    (recreateA "iqn.a") (sweepAt (10 ^ 11)) misread (by decide +kernel)
  cases l with
  | served | node => cases hmis
  | swept used =>
    obtain ⟨⟨e, id⟩, hu, hid⟩ := List.any_eq_true.1 hmis
    obtain ⟨id, rfl, hne⟩ := (Option.any_eq_true _ _).1 hid
    exact of_decide_eq_true hne (h _ _ _ _ _ used ⟨rfl, rfl⟩ rfl hrun hstep e id hu)

end NomadCsi.Qnap
