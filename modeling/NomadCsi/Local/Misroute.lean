import NomadCsi.Local.Forward
import NomadCsi.Local.Ids
import NomadCsi.Local.Reserve
import NomadCsi.Zfs.Names

/-!
# Requests for another node

A message that carries an id of another node should change nothing on the node that receives it.
Each operation checks the node by itself: a delete does, and so do a restore and a clone; an
expand, a snapshot and the deletion of a snapshot do not, and a restore does not look at the volume
id it may carry as well.
-/

namespace NomadCsi.Local

open Lib Lib.Go Driver Zfs

/-! ### Messages -/

def Request.ids : Request → List String
  | create a => [a.contentSnapshotID, a.contentVolumeID]
  | delete id | expand id _ _ | deleteSnapshot id | volumeExists id => [id]
  | snapshot a => [a.sourceVolumeID]
  | stats _ | list | listSnapshots _ => []

def NamesOther (node id : String) : Prop :=
  (∃ e, parseExternalID id = .ok e ∧ e.node ≠ node) ∨
    ∃ sid, parseSnapshotID id = .ok sid ∧ sid.node ≠ node

variable {α : Type}

namespace Body

variable (body : Body)

/-- The request that a message asks for, if it asks for one of the operations and can be read. -/
def asked (method : String) : Option Request :=
  match Method.ofName method with
  | some .create => body.createArgs.toOption.map .create
  | some .delete => body.idArgs.toOption.map .delete
  | some .expand => body.expandArgs.toOption.map fun a =>
      .expand a.volumeID a.requiredBytes a.limitBytes
  | some .snapshot => body.snapshotArgs.toOption.map .snapshot
  | some .deleteSnapshot => body.idArgs.toOption.map .deleteSnapshot
  | some .stats => body.statsArgs.toOption.map .stats
  | some .list => some .list
  | some .listSnapshots => body.listSnapshotsArgs.toOption.map .listSnapshots
  | some .volumeExists => body.idArgs.toOption.map .volumeExists
  | some .volStats | some .volStatsDump | none => none

def carried (method : String) : List String :=
  match body.asked method with
  | some r => r.ids
  | none => if Method.ofName method = some .volStats then body.idArgs.toOption.toList else []

end Body

section

variable {ρ : Type} (reg : Registry ρ) (c : Controller)

/-- A message is handled as the request it asks for; one that asks for none runs no command. -/
theorem dispatch_cases (method : String) (body : Body) :
    (∃ r, body.asked method = some r ∧
      dispatchForward reg c method body = encodeOrCoded r (r.run c)) ∨
    body.asked method = none ∧ (dispatchForward reg c method body).run.Calls fun _ => False := by
  have harg : ∀ {α : Type} {m : Method} {args : Except String α} {f : α → Request}
      {k : α → Handled (Answer ρ)}, (∀ x, k x = encodeOrCoded (f x) ((f x).run c)) →
      (∃ r, args.toOption.map f = some r ∧ (decoded m args >>= k) = encodeOrCoded r (r.run c)) ∨
      args.toOption.map f = none ∧ (decoded m args >>= k).run.Calls fun _ => False := by
    intro α m args f k hk
    cases args with
    | ok x => exact .inl ⟨f x, rfl, hk x⟩
    | error e => exact .inr ⟨rfl, trivial⟩
  unfold Body.asked dispatchForward
  cases Method.ofName method with
  | none => exact .inr ⟨rfl, trivial⟩
  | some m =>
    cases m with
    | list => exact .inl ⟨_, rfl, rfl⟩
    | volStats =>
      refine .inr ⟨rfl, calls_run_bind (K := fun _ => False) trivial fun id => ?_⟩
      cases reg.get id with
      | some | none => trivial
    | volStatsDump => exact .inr ⟨rfl, trivial⟩
    | _ => exact harg fun _ => rfl

theorem runs_encodeOrCoded {r : Request} {x : LocalOp r.Result} {s s' : Store} {tr : List ZfsEv}
    {out : Except WireError (Answer ρ)} :
    Runs zfsAct (encodeOrCoded r x).run s tr out s' ↔
      ∃ res, Runs zfsAct x.run s tr res s' ∧ out = (res.mapError codedFromErr).map (.result r) := by
  have hrun : (encodeOrCoded r x).run =
      x.run >>= fun res => .ret ((res.mapError codedFromErr).map (Answer.result (ρ := ρ) r)) := by
    unfold encodeOrCoded onError
    simp only [ExceptT.run_bind, ExceptT.run_mk, Prog.bind_assoc, Prog.ret_bind]
    congr 1
    funext res
    cases res with
    | ok v => rfl
    | error e => rfl
  rw [hrun, runs_bind_ret]

end

/-! ### Controllers route by the id -/

/-- Where commands run, this node is the only one. -/
def OnlyOn (node : String) : Call → Prop
  | .zfs n _ => n = node
  | _ => True

section

variable {c : Controller} {id node : String}

theorem only_runOn {x : Controller → LocalOp α} : (runOn c node x).run.Calls (OnlyOn node) :=
  calls_runOn (K := fun _ => True) (fun _ _ => rfl) trivial trivial trivial fun _ =>
    Prog.calls_true _

/-- No controller sends a request astray. -/
theorem routed_by_id :
    (∀ e, parseExternalID id = .ok e → (deleteVolume c id).run.Calls (OnlyOn e.node) ∧
      (volumeExists c id).run.Calls (OnlyOn e.node) ∧
      (∀ cr, (expandVolume c id cr).run.Calls (OnlyOn e.node)) ∧
      ∀ req : CreateSnapshotRequest, req.sourceVolumeID = id →
        (createSnapshot c req).run.Calls (OnlyOn e.node)) ∧
    ∀ sid, parseSnapshotID id = .ok sid → (deleteSnapshot c id).run.Calls (OnlyOn sid.node) := by
  refine ⟨fun e hp => ⟨?_, ?_, fun cr => ?_, ?_⟩, fun sid hp => ?_⟩
  · rw [deleteVolume, hp, decided_ok_bind]
    exact only_runOn
  · rw [volumeExists, hp, decided_ok_bind]
    exact only_runOn
  · rw [expandVolume, hp, decided_ok_bind]
    split
    · trivial
    · exact calls_run_bind only_runOn fun _ => trivial
  · rintro req rfl
    rw [createSnapshot, hp, decided_ok_bind]
    exact calls_run_bind only_runOn fun _ => trivial
  · rw [deleteSnapshot, hp, decided_ok_bind]
    exact only_runOn

end

/-! ### What is left alone -/

def Unaltered (s s' : Store) : Prop :=
  (∀ ds, s'.vols.lookup ds = s.vols.lookup ds) ∧ ∀ key, s'.snaps.lookup key = s.snaps.lookup key

theorem Unaltered.refl (s : Store) : Unaltered s s := ⟨fun _ => rfl, fun _ => rfl⟩

/-! ### What a node may hold -/

/-- A block size of ZFS: from 512 bytes to 16 MiB, doubling. -/
def BlockSize (block : String) : Prop := ∃ k ≤ 15, blockBytes block = 512 * 2 ^ k

theorem BlockSize.le {block : String} (h : BlockSize block) : 512 ≤ blockBytes block := by
  obtain ⟨k, -, hk⟩ := h
  have hpow : (0 : Int) < 2 ^ k := Int.pow_pos (by decide)
  omega

/-- A pool name and figures that a pool can have. -/
def RealPool (name : String) (p : Pool) : Prop :=
  name ≠ "" ∧ '/' ∉ name.toList ∧ 0 ≤ p.available ∧ p.available ≤ p.size ∧ p.size < 2 ^ 63

/-- A store that a node can have: on top of `Store.Sound`, a zvol has a block size of ZFS and at least
one block. -/
structure Holding (s : Store) : Prop where
  sound : s.Sound
  pools : ∀ name p, s.pools.lookup name = some p → RealPool name p
  vols : ∀ ds v, s.vols.lookup ds = some v →
    BlockSize v.volblocksize ∧ blockBytes v.volblocksize ≤ v.volsize
  snaps : ∀ key sn, s.snaps.lookup key = some sn → 512 ≤ sn.volsize

/-- A request that changes what some node of this name and configuration may hold. -/
inductive Harms (c : Controller) : Request → Prop where
  /-- To more than one block of some block size, and not over the limit. -/
  | expand {id block : String} {required limit : Int} {e : ExternalID} :
      parseExternalID id = .ok e → wellNamed e.dataset = true → BlockSize block →
      ¬ (limit > 0 ∧ expandSize required (blockBytes block) > limit) →
      blockBytes block < expandSize required (blockBytes block) → Harms c (.expand id required limit)
  | snapshot {a : SnapshotArgs} {e : ExternalID} :
      parseExternalID a.sourceVolumeID = .ok e → wellNamed e.dataset = true →
      snapNamed (sanitizeName a.name) = true → Harms c (.snapshot a)
  | deleteSnapshot {id : String} {sid : SnapshotID} :
      parseSnapshotID id = .ok sid → wellNamed sid.dataset = true → snapNamed sid.snapName = true →
      Harms c (.deleteSnapshot id)
  /-- Of a snapshot of this node, to another dataset; some pool has the requested bytes left over its
  reserve. -/
  | restore {a : CreateArgs} {sid : SnapshotID} {p : Pool} :
      a.contentSnapshotID ≠ "" → parseSnapshotID a.contentSnapshotID = .ok sid →
      sid.node = c.localNode → wellNamed sid.dataset = true → snapNamed sid.snapName = true →
      wellNamed (a.dataset c) = true → a.dataset c ≠ sid.dataset → RealPool a.pool p →
      512 ≤ p.available → a.sizeBytes ≤ overReserve c.cfg a.pool p.available p.size →
      Harms c (.create a)

/-! ### Other requests change nothing -/

variable {id : String} {ε : Type} {x : Script ε α}

variable {a : CreateArgs} {e : ExternalID} {cmd : Cmd}

section

variable {c : Controller} {s : Store}

/-- Whatever fails, the program leaves the store. -/
def Inert {ε α : Type} (x : ExceptT ε (Prog Cmd Cmd.Reply) α) (s : Store) : Prop :=
  Ends zfsAct (fun _ => True) x s (fun _ s' => s' = s) fun _ s' => s' = s

theorem inert_of_reads (hx : x.run.Calls fun cmd => cmd.reads = true) : Inert x s :=
  Ends.mono (ends_of_reads hx (yields_true x s)) (fun _ _ h => h.1) fun _ _ h => h

theorem inert_refused {msg : String} (h : ∀ out s', serve s cmd ≠ (.ok out, s'))
    {Q : cmd.Out → Store → Prop} :
    Ends zfsAct (fun _ => True) (perform cmd >>= fun r => outcome msg r : Tool cmd.Out) s Q
      fun _ s' => s' = s :=
  ends_outcome (fun _ => rfl) fun out s' hserve => absurd hserve (h out s')

theorem inert_localExpand {required limit : Int} (hs : Holding s)
    (h : ¬ Harms c (.expand id required limit)) : Inert (localExpand id required limit) s := by
  unfold localExpand
  cases hp : parseExternalID id with
  | error e => exact Ends.throw rfl
  | ok e =>
    rw [decided_ok_bind]
    refine Ends.bind (Ends.onError (ends_outcome (fun _ => rfl) fun _ _ h =>
      serve_found rfl h)) ?_
    rintro _ s ⟨rfl, v, hv, rfl⟩
    split
    · exact Ends.throw rfl
    · next hblock =>
      dsimp only
      split
      · exact Ends.throw rfl
      · next hlimit =>
        refine Ends.bind (Ends.onError (ends_outcome (fun _ => rfl) fun _ _ h =>
          serve_found rfl h)) ?_
        rintro _ s ⟨rfl, v', hv', rfl⟩
        obtain rfl : v = v' := Option.some.inj (hv.symm.trans hv')
        split
        · exact Ends.throw rfl
        · next hshrink =>
          split
          · exact Ends.pure rfl
          · next hsame =>
            refine Ends.bind (Ends.onError (inert_refused (Q := fun _ _ => False) ?_))
              fun _ _ h => h.elim
            intro out s' hserve
            cases served hserve with
            | read hc => cases hc
            | setVolsize hv' hpool hroom =>
              obtain rfl := Option.some.inj (hv.symm.trans hv')
              obtain ⟨hsize, hle⟩ := hs.vols _ _ (lookup_of_zvol? hv)
              exact h (.expand hp (hs.sound.named.of_zvol? hv) hsize hlimit (by omega))

theorem inert_localSnapshot {a : SnapshotArgs} (hs : Holding s) (h : ¬ Harms c (.snapshot a)) :
    Inert (localSnapshot c a) s := by
  unfold localSnapshot
  cases hp : parseExternalID a.sourceVolumeID with
  | error e => exact Ends.throw rfl
  | ok e =>
    rw [decided_ok_bind]
    refine Ends.bind (Ends.onError (inert_refused (Q := fun _ _ => False) ?_)) fun _ _ h => h.elim
    intro out s' hserve
    cases served hserve with
    | read hc => cases hc
    | snapshot hv hnone hname => exact h (.snapshot hp (hs.sound.named.of_zvol? hv) hname)

theorem inert_localDeleteSnapshot (hs : Holding s) (h : ¬ Harms c (.deleteSnapshot id)) :
    Inert (localDeleteSnapshot id) s := by
  unfold localDeleteSnapshot
  cases hp : parseSnapshotID id with
  | error e => exact Ends.throw rfl
  | ok sid =>
    rw [decided_ok_bind]
    refine Ends.bind (inert_of_reads (calls_onError (calls_snapshotExists rfl))) ?_
    rintro found s rfl
    split
    · refine Ends.onError (inert_refused ?_)
      intro out s' hserve
      cases served hserve with
      | read hc => cases hc
      | destroySnapshot hv hsn =>
        obtain ⟨hwell, hname⟩ := hs.sound.named.snaps _ _ _ hsn
        exact h (.deleteSnapshot hp hwell hname)
    · exact Ends.pure rfl

theorem inert_restore (hs : Holding s) (h : ¬ Harms c (.create a))
    (hsnap : a.contentSnapshotID ≠ "") : Inert (restoreFromSnapshot c a (a.dataset c)) s := by
  unfold restoreFromSnapshot
  cases hp : parseSnapshotID a.contentSnapshotID with
  | error e => exact Ends.throw rfl
  | ok sid =>
    rw [decided_ok_bind]
    split
    · exact Ends.throw rfl
    · next hnode =>
      rw [not_not] at hnode
      refine Ends.bind (Q := fun _ s' => s' = s ∧ Guarded c a s) ?_ ?_
      · exact Ends.mono (ends_of_reads (calls_checkCapacity _ _ rfl rfl) yields_guard)
          (fun _ _ h => h.2) fun _ _ h => h
      rintro _ s ⟨rfl, hguard⟩
      -- the copy would be the first change
      refine Ends.bind (Ends.onError (Q := fun _ _ => False) ?_) fun _ _ h => h.elim
      unfold cloneIndependent
      rw [← bind_assoc]
      refine Ends.bind (inert_refused (Q := fun _ _ => False) ?_) fun _ _ h => h.elim
      intro out s' hserve
      cases served hserve with
      | read hc => cases hc
      | sendRecv hv hsn hroom =>
        obtain ⟨hwell, hname⟩ := hs.sound.named.snaps _ _ _ hsn
        obtain ⟨p, hpool, hleft⟩ := hguard
        have hpool' := (Option.filter_eq_some_iff.1 hpool).1
        have hreal := hs.pools _ _ hpool'
        obtain ⟨-, q, hq, hle⟩ := Store.room_figures hroom
        rw [poolOf_dataset hreal.2.1, hpool'] at hq
        obtain rfl := Option.some.inj hq
        refine h (.restore hsnap hp hnode hwell hname (Store.Named.of_room hroom) ?_ hreal
          (Int.le_trans (hs.snaps _ _ hsn) hle) hleft)
        intro heq
        have hnone := absent_of_room hroom
        rw [heq, lookup_of_zvol? hv] at hnone
        cases hnone

theorem node_of_namesOther {node : String} (h : NamesOther node id)
    (he : parseExternalID id = .ok e) : e.node ≠ node := by
  rcases h with ⟨e', he', hne⟩ | ⟨sid, hsid, -⟩
  · obtain rfl : e = e' := Except.ok.inj (he.symm.trans he')
    exact hne
  · exact (parsers_disjoint he hsid).elim

theorem not_namesOther_empty {node : String} : ¬ NamesOther node "" := by
  rintro (⟨e, he, -⟩ | ⟨sid, hsid, -⟩)
  · cases he
  · cases hsid

theorem inert_localCreate (hs : Holding s) (h : ¬ Harms c (.create a))
    (hother : ∃ id ∈ (Request.create a).ids, NamesOther c.localNode id) :
    Inert (localCreate c a) s := by
  refine Ends.bind (inert_of_reads (calls_run_bind (calls_onError (calls_poolStatus rfl))
    fun _ => trivial)) ?_
  rintro ready s rfl
  cases ready with
  | false => exact Ends.throw rfl
  | true =>
    refine Ends.bind (Q := fun _ s' => s' = s) (Ends.bind (inert_of_reads
      (calls_onError (calls_datasetExists rfl))) ?_) fun _ _ h => Ends.pure h
    rintro found s rfl
    cases found with
    | true => exact inert_of_reads (calls_checkExisting rfl rfl)
    | false =>
      change Inert (provision c a (a.dataset c)) s
      unfold provision
      split
      · next hsnap => exact inert_restore hs h hsnap
      · next hsnap =>
        rw [not_not] at hsnap
        -- the id of another node is that of the volume
        have hvol : NamesOther c.localNode a.contentVolumeID := by
          obtain ⟨id, hmem, hid⟩ := hother
          rcases List.mem_cons.1 hmem with rfl | hmem
          · rw [hsnap] at hid
            exact absurd hid not_namesOther_empty
          · rw [List.mem_singleton.1 hmem] at hid
            exact hid
        split
        · unfold cloneFromVolume
          cases hp : parseExternalID a.contentVolumeID with
          | error e => exact Ends.throw rfl
          | ok e =>
            rw [decided_ok_bind, if_pos (node_of_namesOther hvol hp)]
            exact Ends.throw rfl
        · next hempty =>
          rw [not_not.1 hempty] at hvol
          exact absurd hvol not_namesOther_empty

theorem inert_run {r : Request} (hs : Holding s)
    (hother : ∃ id ∈ r.ids, NamesOther c.localNode id) (h : ¬ Harms c r) : Inert (r.run c) s := by
  cases r with
  | create a => exact inert_localCreate hs h hother
  | delete id =>
    obtain ⟨id', hmem, hid⟩ := hother
    obtain rfl := List.mem_singleton.1 hmem
    refine inert_of_reads (Prog.Calls.mono ?_ (calls_localDelete (c := c) id'))
    rintro cmd (hreads | hchanges)
    · exact hreads
    · cases hchanges with
      | delete hp hnode => exact absurd hnode (node_of_namesOther hid hp)
  | expand id required limit => exact inert_localExpand hs h
  | snapshot a => exact inert_localSnapshot hs h
  | deleteSnapshot id => exact inert_localDeleteSnapshot hs h
  | stats pool => exact inert_of_reads (calls_localStats pool)
  | list => exact inert_of_reads calls_localList
  | listSnapshots dataset => exact inert_of_reads (calls_localListSnapshots dataset)
  | volumeExists id => exact inert_of_reads (calls_localExists id)

end

/-! ### These do -/

variable {v : Zvol}

section

variable {c : Controller} {s : Store}

theorem eval_then_pure {β : Type} {b : β} :
    (eval zfsAct {} (x >>= fun _ => pure b).run s).2 = (eval zfsAct {} x.run s).2 := by
  rw [eval_run_bind]
  rcases eval zfsAct {} x.run s with ⟨_ | _, s'⟩
  · rfl
  · rfl

theorem eval_first {δ β : Type} {g : δ → ε} {k : cmd.Reply → Script δ α}
    {f : α → Script ε β} :
    eval zfsAct {} (onError g (perform cmd >>= k) >>= f).run s =
      eval zfsAct {} (onError g (k (serve s cmd).1) >>= f).run (serve s cmd).2 := rfl

theorem alters_expand {required limit : Int} {p : Pool} (hp : parseExternalID id = .ok e)
    (hv : s.zvol? e.dataset = some v) (hpool : s.pool? (poolOf e.dataset) = some p)
    (hblock : 0 < blockBytes v.volblocksize)
    (hlimit : ¬ (limit > 0 ∧ expandSize required (blockBytes v.volblocksize) > limit))
    (hgrow : v.volsize < expandSize required (blockBytes v.volblocksize))
    (hpos : 0 < expandSize required (blockBytes v.volblocksize))
    (hroom : expandSize required (blockBytes v.volblocksize) - v.volsize ≤ p.available) :
    ¬ Unaltered s (eval zfsAct {} (localExpand id required limit).run s).2 := by
  generalize hsize : expandSize required (blockBytes v.volblocksize) = size at *
  have hblocks : serve s (.getVolblocksize e.dataset) = (.ok (blockBytes v.volblocksize), s) := by
    simp [serve, hv]
  have hcur : serve s (.getVolsize e.dataset) = (.ok v.volsize, s) := by
    simp [serve, hv]
  have hset : serve s (.setVolsize e.dataset size) = (.ok (),
      (s.charge (poolOf e.dataset) (size - v.volsize)).putVol e.dataset { v with volsize := size }) := by
    simp [serve, hv, hpool, hpos, hroom]
  have heval : (eval zfsAct {} (localExpand id required limit).run s).2 =
      (serve s (.setVolsize e.dataset size)).2 := by
    unfold localExpand
    rw [hp, decided_ok_bind, getVolblocksize, eval_served hblocks, if_neg (by omega)]
    dsimp only
    rw [hsize, if_neg hlimit, getVolsize, eval_served hcur, if_neg (by omega), if_neg (by omega),
      setVolsize, eval_served hset, hset]
    exact eval_reads (calls_onError (calls_command _ rfl))
  rintro ⟨hvols, -⟩
  have hnew := hvols e.dataset
  rw [heval, hset, lookup_of_zvol? hv] at hnew
  have hvol := congrArg Zvol.volsize (Option.some.inj ((AList.lookup_insert _).symm.trans hnew))
  change size = v.volsize at hvol
  omega

theorem alters_snapshot {a : SnapshotArgs} (hp : parseExternalID a.sourceVolumeID = .ok e)
    (hv : s.zvol? e.dataset = some v)
    (hnone : s.snaps.lookup (e.dataset, sanitizeName a.name) = none)
    (hname : snapNamed (sanitizeName a.name) = true) :
    ¬ Unaltered s (eval zfsAct {} (localSnapshot c a).run s).2 := by
  have hserve : serve s (.snapshot e.dataset (sanitizeName a.name)) = (.ok (), { s with
      snaps := s.snaps.insert (e.dataset, sanitizeName a.name)
        ⟨v.volsize, v.volblocksize, s.clock, v.data⟩ }) := by
    simp [serve, hv, hnone, hname]
  have heval : (eval zfsAct {} (localSnapshot c a).run s).2 =
      (serve s (.snapshot e.dataset (sanitizeName a.name))).2 := by
    unfold localSnapshot
    dsimp only
    rw [hp, decided_ok_bind, Zfs.snapshot, eval_served hserve, hserve]
    exact eval_reads (calls_run_bind (calls_onError (calls_command _ rfl)) fun _ =>
      calls_run_bind (calls_onError (calls_command _ rfl)) fun _ => trivial)
  rintro ⟨-, hsnaps⟩
  have hnew := hsnaps (e.dataset, sanitizeName a.name)
  rw [heval, hserve, hnone] at hnew
  cases (AList.lookup_insert s.snaps).symm.trans hnew

theorem alters_deleteSnapshot {sid : SnapshotID} {sn : Snap} (hp : parseSnapshotID id = .ok sid)
    (hv : s.zvol? sid.dataset = some v) (hsn : s.snaps.lookup (sid.dataset, sid.snapName) = some sn) :
    ¬ Unaltered s (eval zfsAct {} (localDeleteSnapshot id).run s).2 := by
  have hfound : eval zfsAct {} (onError (fun e => internal ("checking snapshot: " ++ e))
      (snapshotExists sid.dataset sid.snapName)).run s = (.ok true, s) := by
    rw [eval_onError, snapshotExists, eval_command]
    simp [serve, hv, hsn, Except.mapError]
  have hserve : serve s (.destroySnapshot sid.dataset sid.snapName) = (.ok (), { s with
      snaps := s.snaps.erase (sid.dataset, sid.snapName) }) := by
    simp [serve, hv, hsn]
  have heval : (eval zfsAct {} (localDeleteSnapshot id).run s).2 =
      (serve s (.destroySnapshot sid.dataset sid.snapName)).2 := by
    unfold localDeleteSnapshot
    rw [hp, decided_ok_bind, eval_step hfound, if_pos rfl, eval_onError, destroySnapshot,
      eval_outcome_eq_ok.2 hserve, hserve]
  rintro ⟨-, hsnaps⟩
  have hnew := hsnaps (sid.dataset, sid.snapName)
  rw [heval, hserve, hsn] at hnew
  cases (AList.lookup_erase _ s.snaps).symm.trans hnew

theorem present_of_serve {ds : String} {out : cmd.Out} {s' : Store} (hcmd : ∀ d, cmd ≠ .destroy d)
    (hserve : serve s cmd = (.ok out, s')) (h : s.vols.lookup ds ≠ none) :
    s'.vols.lookup ds ≠ none := by
  have heffect := serve_vols hserve
  generalize s'.vols = m at heffect
  have hinsert : ∀ d v, (s.vols.insert d v).lookup ds ≠ none := by
    intro d v
    by_cases hd : ds = d
    · rw [hd, AList.lookup_insert]
      simp
    · rw [AList.lookup_insert_ne hd]
      exact h
  cases heffect with
  | create | recv | resize | setProp => exact hinsert _ _
  | @destroy d => exact absurd rfl (hcmd d)
  | other => exact h

theorem present_eval {ds : String} (hx : x.run.Calls fun cmd => ∀ d, cmd ≠ .destroy d)
    (h : s.vols.lookup ds ≠ none) : (eval zfsAct {} x.run s).2.vols.lookup ds ≠ none := by
  obtain ⟨tr, -, hrun⟩ := runs_eval zfsAct {} x.run s
  refine (hrun.invariant (I := fun t => t.vols.lookup ds ≠ none) ?_ hx h).2
  intro t cmd ch hcmd ht
  exact zfsAct_elim (Q := fun x => x.2.vols.lookup ds ≠ none) ch (fun _ => ht) fun _ _ hs =>
    present_of_serve hcmd hs ht

theorem alters_restore {sid : SnapshotID} {sn : Snap} (hsnap : a.contentSnapshotID ≠ "")
    (hp : parseSnapshotID a.contentSnapshotID = .ok sid) (hnode : sid.node = c.localNode)
    (hready : s.Ready a.pool) (hguard : Guarded c a s) (hv : s.zvol? sid.dataset = some v)
    (hsn : s.snaps.lookup (sid.dataset, sid.snapName) = some sn)
    (hroom : s.room (a.dataset c) sn.volsize = true) :
    ¬ Unaltered s (eval zfsAct {} (localCreate c a).run s).2 := by
  have hnone := absent_of_room hroom
  have hfound : eval zfsAct {} (onError (fun e => internal ("checking dataset: " ++ e))
      (datasetExists (a.dataset c))).run s = (.ok false, s) := by
    rw [eval_onError, eval_datasetExists, (of_room hroom).1]
    rfl
  have hcapacity : eval zfsAct {} (checkCapacity c a.pool a.sizeBytes).run s = (.ok (), s) := by
    obtain ⟨p, hpool, hleft⟩ := hguard
    unfold checkCapacity
    rw [eval_run_bind, eval_onError, eval_poolAvailable hpool]
    simp only [Except.mapError]
    rw [eval_run_bind, eval_onError, eval_poolSize hpool]
    simp only [Except.mapError]
    rw [if_neg (by omega)]
    rfl
  obtain ⟨s1, hserve, hcopied⟩ : ∃ s1, serve s (.sendRecv sid.dataset sid.snapName (a.dataset c)) =
      (.ok (), s1) ∧ s1.vols.lookup (a.dataset c) ≠ none := by
    simp only [serve, hv, hsn, hroom, if_true]
    refine ⟨_, rfl, ?_⟩
    change ((s.charge _ _).vols.insert (a.dataset c) _).lookup (a.dataset c) ≠ none
    rw [AList.lookup_insert]
    simp
  -- from the copy on, the zvol is there
  have hrest : (eval zfsAct {} (restoreFromSnapshot c a (a.dataset c)).run s).2.vols.lookup
      (a.dataset c) ≠ none := by
    unfold restoreFromSnapshot
    rw [hp, decided_ok_bind, if_neg (not_not.2 hnode), eval_step hcapacity, cloneIndependent,
      eval_first, hserve]
    refine present_eval ?_ hcopied
    refine calls_run_bind (calls_onError (calls_onError (calls_command _ (by simp)))) fun _ => ?_
    exact calls_finishCopy (by simp) (by simp) (by simp)
  have heval : (eval zfsAct {} (localCreate c a).run s).2.vols.lookup (a.dataset c) ≠ none := by
    have hready' := Store.ready_iff.1 hready ▸ eval_poolReady s a.pool
    rw [localCreate, eval_step hready', if_pos rfl, eval_then_pure]
    change (eval zfsAct {} (settleDataset c a (a.dataset c)).run s).2.vols.lookup _ ≠ none
    rw [settleDataset, eval_step hfound, if_neg (by simp), provision, if_pos hsnap]
    exact hrest
  rintro ⟨hvols, -⟩
  exact heval ((hvols (a.dataset c)).trans hnone)

end

/-! ### A store for each -/

def shelf (pools : Map String Pool) (ds : String) (v : Zvol) (snap : Option String) : Store where
  pools := pools
  vols := AList.insert ds v ∅
  snaps := match snap with
    | some name => AList.insert (ds, name) ⟨v.volsize, v.volblocksize, 0, v.data⟩ ∅
    | none => ∅

section

variable {pools : Map String Pool} {ds : String} {snap : Option String}

theorem lookup_single {κ β : Type} [DecidableEq κ] {k k' : κ} {b b' : β}
    (h : (AList.insert k b (∅ : Map κ β)).lookup k' = some b') : k' = k ∧ b' = b := by
  by_cases hk : k' = k
  · subst hk
    exact ⟨rfl, (Option.some.inj ((AList.lookup_insert _).symm.trans h)).symm⟩
  · rw [AList.lookup_insert_ne hk] at h
    cases h

theorem shelf_snap {key : String × String} {sn : Snap}
    (h : (shelf pools ds v snap).snaps.lookup key = some sn) :
    ∃ name, snap = some name ∧ key = (ds, name) ∧ sn.volsize = v.volsize := by
  cases snap with
  | none => cases h
  | some name =>
    obtain ⟨rfl, rfl⟩ := lookup_single h
    exact ⟨name, rfl, rfl, rfl⟩

theorem holding_shelf (hpools : ∀ name p, pools.lookup name = some p → RealPool name p)
    (hds : wellNamed ds = true) (hblock : BlockSize v.volblocksize)
    (hle : blockBytes v.volblocksize ≤ v.volsize) (hsnap : ∀ name ∈ snap, snapNamed name = true) :
    Holding (shelf pools ds v snap) where
  sound := {
    named := {
      vols := fun d u hu => (lookup_single hu).1 ▸ hds
      snaps := fun d name sn hsn => by
        obtain ⟨n, hn, heq, -⟩ := shelf_snap hsn
        obtain ⟨rfl, rfl⟩ := Prod.mk.inj heq
        exact ⟨hds, hsnap _ hn⟩ }
    owned := fun d name hmem => by
      obtain ⟨sn, hsn⟩ := Store.mem_names_snaps.1 hmem
      obtain ⟨n, -, heq, -⟩ := shelf_snap hsn
      obtain ⟨rfl, rfl⟩ := Prod.mk.inj heq
      exact Store.mem_names_vols.2 ⟨v, AList.lookup_insert _⟩
    sizes := fun d u hu => by
      have := hblock.le
      rw [(lookup_single hu).2]
      omega
    figures := fun name p hp => ⟨(hpools name p hp).2.2.1,
      Int.le_trans (hpools name p hp).2.2.1 (hpools name p hp).2.2.2.1, (hpools name p hp).2.2.2.2⟩ }
  pools := hpools
  vols := fun d u hu => (lookup_single hu).2 ▸ ⟨hblock, hle⟩
  snaps := fun key sn hsn => by
    obtain ⟨-, -, -, hsize⟩ := shelf_snap hsn
    have := hblock.le
    omega

theorem zvol?_shelf (hpool : ((shelf pools ds v snap).pool? (poolOf ds)).isSome = true) :
    (shelf pools ds v snap).zvol? ds = some v := by
  unfold Store.zvol?
  rw [if_pos hpool]
  exact AList.lookup_insert _

end

theorem poolOf_bare (ds : String) : '/' ∉ (poolOf ds).toList := by
  intro h
  unfold poolOf at h
  rw [String.toList_ofList] at h
  simpa using List.mem_takeWhile_imp h

theorem poolOf_ne_empty {ds : String} (h : wellNamed ds = true) : poolOf ds ≠ "" := by
  have hslash := (slashes_of_wellNamed h).1
  intro hempty
  unfold poolOf at hempty
  rw [← String.toList_inj, String.toList_ofList] at hempty
  cases hl : ds.toList with
  | nil =>
    rw [String.toList_eq_nil_iff.1 hl] at h
    cases h
  | cons ch l =>
    rw [hl, List.takeWhile_cons] at hempty
    split at hempty
    · cases hempty
    · next hch =>
      obtain rfl : ch = '/' := by simpa using hch
      simp [hasPrefix, hl] at hslash

def online (available size : Int) : Pool := ⟨true, "ONLINE", available, size, 0⟩

theorem real_online {ds : String} {available size : Int} (hds : wellNamed ds = true)
    (h : 0 ≤ available ∧ available ≤ size ∧ size < 2 ^ 63) :
    RealPool (poolOf ds) (online available size) :=
  ⟨poolOf_ne_empty hds, poolOf_bare ds, h⟩

theorem pool?_insert {s : Store} {name : String} {m : Map String Pool} {available size : Int}
    (h : s.pools = AList.insert name (online available size) m) :
    s.pool? name = some (online available size) := by
  unfold Store.pool?
  rw [h, AList.lookup_insert]
  rfl

theorem alters_of_harms {c : Controller} {r : Request} (h : Harms c r) :
    ∃ s, Holding s ∧ ¬ Unaltered s (eval zfsAct {} (r.run c).run s).2 := by
  -- the least block size, for the requests that do not look at it
  have hleast : BlockSize "512" := ⟨0, by decide, rfl⟩
  let v : Zvol := ⟨512, "512", ∅, 0⟩
  have hone : ∀ {ds : String} {available size : Int}, wellNamed ds = true →
      0 ≤ available ∧ available ≤ size ∧ size < 2 ^ 63 → ∀ name p,
      (AList.insert (poolOf ds) (online available size) (∅ : Map String Pool)).lookup name = some p →
      RealPool name p := by
    intro ds available size hds hfig name p hp
    obtain ⟨rfl, rfl⟩ := lookup_single hp
    exact real_online hds hfig
  cases h with
  | @expand id block required limit e hp hds hblock hlimit hgrow =>
    generalize hsize : expandSize required (blockBytes block) = size at *
    have hlt : size < 2 ^ 63 := by
      rw [← hsize]
      unfold expandSize wrap64
      omega
    have hpos := hblock.le
    have hpool := pool?_insert (s := shelf (AList.insert (poolOf e.dataset)
      (online (size - blockBytes block) size) ∅) e.dataset ⟨blockBytes block, block, ∅, 0⟩ none) rfl
    refine ⟨_, holding_shelf (hone hds (by omega)) hds hblock (Int.le_refl _) (by simp),
      alters_expand hp (zvol?_shelf (Option.isSome_of_eq_some hpool)) hpool ?_ ?_ ?_ ?_ ?_⟩
    all_goals
      simp only [hsize, online]
      omega
  | @snapshot a e hp hds hname =>
    let s := shelf (AList.insert (poolOf e.dataset) (online 0 0) ∅) e.dataset v none
    have hpool := pool?_insert (s := s) rfl
    have hs : Holding s := holding_shelf (hone hds (by decide)) hds hleast (by decide) (by simp)
    exact ⟨s, hs, alters_snapshot hp (zvol?_shelf (Option.isSome_of_eq_some hpool)) rfl hname⟩
  | @deleteSnapshot id sid hp hds hname =>
    let s := shelf (AList.insert (poolOf sid.dataset) (online 0 0) ∅) sid.dataset v
      (some sid.snapName)
    have hpool := pool?_insert (s := s) rfl
    have hs : Holding s := holding_shelf (hone hds (by decide)) hds hleast (by decide)
      (by simpa using hname)
    exact ⟨s, hs, alters_deleteSnapshot hp (zvol?_shelf (Option.isSome_of_eq_some hpool))
      (AList.lookup_insert _)⟩
  | @restore a sid p hsnap hp hnode hds hname hdest hne hreal hroom hleft =>
    generalize hm : AList.insert a.pool (online p.available p.size)
      (AList.insert (poolOf sid.dataset) (online 0 0) (∅ : Map String Pool)) = m
    let s := shelf m sid.dataset v (some sid.snapName)
    have hpool := pool?_insert (s := s) hm.symm
    have hreals : ∀ name q, m.lookup name = some q → RealPool name q := by
      intro name q hq
      by_cases heq : name = a.pool
      · rw [heq, ← hm, AList.lookup_insert] at hq
        obtain rfl := Option.some.inj hq
        exact heq ▸ hreal
      · rw [← hm, AList.lookup_insert_ne heq] at hq
        exact hone hds (by decide) name q hq
    have hsource : (s.pool? (poolOf sid.dataset)).isSome = true := by
      by_cases heq : poolOf sid.dataset = a.pool
      · rw [heq, hpool]
        rfl
      · unfold Store.pool?
        rw [show s.pools = m from rfl, ← hm, AList.lookup_insert_ne heq, AList.lookup_insert]
        rfl
    have hnew : s.vols.lookup (a.dataset c) = none := AList.lookup_insert_ne hne
    have hfits : s.room (a.dataset c) 512 = true := by
      unfold Store.room
      rw [hdest, hnew, poolOf_dataset hreal.2.1, hpool]
      simpa [online] using hroom
    have hhealth : trimSpace "ONLINE" = "ONLINE" := by decide
    have hholding : Holding s :=
      holding_shelf hreals hds hleast (by decide) (by simpa using hname)
    have hsn : s.snaps.lookup (sid.dataset, sid.snapName) = some ⟨512, "512", 0, 0⟩ :=
      AList.lookup_insert _
    exact ⟨_, hholding, alters_restore hsnap hp hnode ⟨_, hpool, hhealth⟩ ⟨_, hpool, hleft⟩
      (zvol?_shelf hsource) hsn hfits⟩

/-! ### The law -/

section

variable {ρ : Type} (reg : Registry ρ) {c : Controller} {method : String} {body : Body}

/-- A message that carries an id of another node. Left out is a create under a name with an `@`,
which `zfs recv` would take for the name of a snapshot. -/
structure Misrouted (c : Controller) (method : String) (body : Body) : Prop where
  other : ∃ id ∈ body.carried method, NamesOther c.localNode id
  plain : ∀ a, body.asked method = some (.create a) → '@' ∉ (a.dataset c).toList

/-- A message that carries an id of another node changes nothing on the node that receives it,
whatever the node holds, exactly if it asks for none of the operations that do not look at the
node of an id. -/
theorem misrouted_iff (h : Misrouted c method body) :
    (∀ s, Holding s → ∀ tr out s',
      Runs zfsAct (dispatchForward reg c method body).run s tr out s' → Unaltered s s') ↔
      ∀ r, body.asked method = some r → ¬ Harms c r := by
  rcases dispatch_cases reg c method body with ⟨r, hr, heq⟩ | ⟨hnone, hcalls⟩
  · constructor
    · intro hall r' hr' hharms
      obtain rfl := Option.some.inj (hr.symm.trans hr')
      obtain ⟨s, hs, halters⟩ := alters_of_harms hharms
      obtain ⟨tr, -, hrun⟩ := runs_eval zfsAct {} (r.run c).run s
      have hhandled := (runs_encodeOrCoded (ρ := ρ)).2 ⟨_, hrun, rfl⟩
      rw [← heq] at hhandled
      exact halters (hall s hs tr _ _ hhandled)
    · intro hharmless s hs tr out s' hrun
      rw [heq] at hrun
      obtain ⟨res, hrun, -⟩ := runs_encodeOrCoded.1 hrun
      have hids : ∃ id ∈ r.ids, NamesOther c.localNode id := by
        have hother := h.other
        unfold Body.carried at hother
        rw [hr] at hother
        exact hother
      have hout := (Ends.runs (inert_run hs hids (hharmless r hr)) hrun).2
      cases res with
      | ok | error => exact (show s' = s from hout) ▸ .refl s
  · refine iff_of_true (fun s _ tr out s' hrun => ?_) fun r hr => ?_
    · have hsame := (hrun.invariant (I := fun t => t = s) (fun _ _ _ hK => hK.elim) hcalls rfl).2
      exact hsame ▸ .refl s
    · cases hnone.symm.trans hr

end

/-- The body `{"id": …}`: as arguments of another kind it reads as their zero value. -/
def idBody (id : String) : Body where
  createArgs := .ok ⟨"", "", 0, "", "", false, "", ""⟩
  idArgs := .ok id
  expandArgs := .ok ⟨"", 0, 0⟩
  snapshotArgs := .ok ⟨"", ""⟩
  statsArgs := .ok ""
  listSnapshotsArgs := .ok ""

def noReadings : Registry Unit := ⟨fun _ => none, []⟩

/-- The pool `tank` with a volume and a snapshot of it. -/
def tankSnapshot : Store :=
  { (tankStore 90000).putVol "tank/csi/vol" ⟨16384, "16K", ∅, 0⟩ with
    snaps := AList.insert ("tank/csi/vol", "daily") ⟨16384, "16K", 0, 0⟩ ∅ }

theorem misrouted_delete :
    Misrouted (tankController "a") "delete" (idBody "local/v1/b/tank/csi/vol") ∧
    ∀ s, Holding s → ∀ tr out s', Runs zfsAct (dispatchForward noReadings (tankController "a")
      "delete" (idBody "local/v1/b/tank/csi/vol")).run s tr out s' → Unaltered s s' := by
  have hasked : (idBody "local/v1/b/tank/csi/vol").asked "delete" =
      some (.delete "local/v1/b/tank/csi/vol") := rfl
  have h : Misrouted (tankController "a") "delete" (idBody "local/v1/b/tank/csi/vol") := by
    refine ⟨⟨_, .head _, .inl ⟨⟨"b", "tank/csi/vol"⟩, rfl, by decide⟩⟩, fun a ha => ?_⟩
    cases hasked.symm.trans ha
  refine ⟨h, (misrouted_iff noReadings h).2 fun r hr hharms => ?_⟩
  obtain rfl := Option.some.inj (hasked.symm.trans hr)
  cases hharms

/-- Node `a` drops its own snapshot for a message that names one of node `b`. -/
theorem misrouted_deleteSnapshot :
    Holding tankSnapshot ∧ NamesOther "a" "locals/v1/b/tank/csi/vol/daily" ∧
    ∃ tr out s', Runs zfsAct (dispatchForward noReadings (tankController "a") "deletesnapshot"
        (idBody "locals/v1/b/tank/csi/vol/daily")).run tankSnapshot tr out s' ∧
      ¬ Unaltered tankSnapshot s' := by
  have hp : parseSnapshotID "locals/v1/b/tank/csi/vol/daily" = .ok ⟨"b", "tank/csi/vol", "daily"⟩ :=
    rfl
  have hother : NamesOther "a" "locals/v1/b/tank/csi/vol/daily" := .inr ⟨_, hp, by decide⟩
  let v : Zvol := ⟨16384, "16K", ∅, 0⟩
  have hv : tankSnapshot.zvol? "tank/csi/vol" = some v := rfl
  have hsn : tankSnapshot.snaps.lookup ("tank/csi/vol", "daily") = some ⟨16384, "16K", 0, 0⟩ := rfl
  have hholding : Holding (shelf (tankStore 90000).pools "tank/csi/vol" v (some "daily")) := by
    have hblock : BlockSize "16K" := ⟨5, by decide, rfl⟩
    refine holding_shelf ?_ (by decide) hblock (by decide) (by decide)
    intro name p hpool
    obtain ⟨rfl, rfl⟩ := lookup_single hpool
    exact ⟨by decide, by decide, by decide, by decide, by decide⟩
  refine ⟨hholding, hother, ?_⟩
  obtain ⟨tr, -, hrun⟩ := runs_eval zfsAct {}
    ((Request.deleteSnapshot "locals/v1/b/tank/csi/vol/daily").run (tankController "a")).run
    tankSnapshot
  have hhandled := (runs_encodeOrCoded (ρ := Unit)).2 ⟨_, hrun, rfl⟩
  exact ⟨tr, _, _, hhandled, alters_deleteSnapshot hp hv hsn⟩

end NomadCsi.Local
