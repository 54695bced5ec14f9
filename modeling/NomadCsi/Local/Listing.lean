import NomadCsi.Lib.Ledger
import NomadCsi.Local.Effects

/-!
# The listings against the history

Runs of the operations of a node on ids they returned, without faults, with a log of the
requests and their results (`Logged`). The volumes under the parent datasets of the configured
pools are those of the log, and so are the snapshots (`Current`). The listings show these rows, and
none twice, because two pools have no dataset in common.
-/

namespace NomadCsi.Local

open Lib Lib.Go Driver Zfs

/-! ### The configuration -/

theorem of_checkPools {ps : List PoolConfig} {seen all : List String}
    (h : checkPools seen ps = .ok all) (hseen : seen.Nodup) :
    (∀ p ∈ ps, '/' ∉ p.name.toList ∧ p.name ∉ seen) ∧ (ps.map (·.name)).Nodup := by
  induction ps generalizing seen with
  | nil => exact ⟨by simp, List.nodup_nil⟩
  | cons p ps ih =>
    unfold checkPools at h
    split at h
    · cases h
    · next hbare =>
      split at h
      · cases h
      · next hnew =>
        obtain ⟨hall, hnodup⟩ := ih h (List.nodup_cons.2 ⟨hnew, hseen⟩)
        refine ⟨fun q hq => ?_, ?_⟩
        · rcases List.mem_cons.1 hq with rfl | hq
          · exact ⟨fun hs => hbare (.inr hs), hnew⟩
          · exact ⟨(hall q hq).1, fun hm => (hall q hq).2 (List.mem_cons_of_mem _ hm)⟩
        · rw [List.map_cons, List.nodup_cons]
          refine ⟨fun hmem => ?_, hnodup⟩
          obtain ⟨q, hq, hname⟩ := List.mem_map.1 hmem
          exact (hall q hq).2 (hname ▸ List.mem_cons_self)

theorem of_validatePools {cfg : Config} (h : validatePools cfg = .ok ()) :
    (∀ pool ∈ cfg.poolNames, '/' ∉ pool.toList) ∧ cfg.poolNames.Nodup := by
  unfold validatePools at h
  split at h
  · cases h
  · obtain ⟨seen, hcheck, -⟩ := bind_ok.1 h
    obtain ⟨hall, hnodup⟩ := of_checkPools hcheck List.nodup_nil
    refine ⟨fun pool hpool => ?_, hnodup⟩
    obtain ⟨p, hp, rfl⟩ := List.mem_map.1 hpool
    exact (hall p hp).1

/-! ### Datasets and ids -/

section

variable {c : Controller} {pool ds name : String}

def Controller.volumeID (c : Controller) (ds : String) : String :=
  ExternalID.toString ⟨c.localNode, ds⟩

def Controller.snapshotID (c : Controller) (ds name : String) : String :=
  SnapshotID.toString ⟨c.localNode, ds, name⟩

theorem volumeID_injective (c : Controller) : Function.Injective c.volumeID := by
  intro ds ds' h
  exact (String.append_right_inj _).1 h

theorem snapshotID_inj {ds' name' : String} (hname : '/' ∉ name.toList) (hname' : '/' ∉ name'.toList)
    (h : c.snapshotID ds name = c.snapshotID ds' name') : ds = ds' ∧ name = name' := by
  obtain ⟨hds, heq⟩ := slash_inj_right hname hname' h
  exact ⟨(String.append_right_inj _).1 hds, heq⟩

theorem parse_volumeID (hnode : NodeName c.localNode) {e : ExternalID}
    (h : parseExternalID (c.volumeID ds) = .ok e) : e = ⟨c.localNode, ds⟩ := by
  unfold Controller.volumeID at h
  rw [parseExternalID_toString hnode] at h
  split at h
  · exact (Except.ok.inj h).symm
  · cases h

theorem parse_snapshotID (hnode : NodeName c.localNode) (hname : '/' ∉ name.toList)
    {sid : SnapshotID} (h : parseSnapshotID (c.snapshotID ds name) = .ok sid) :
    sid = ⟨c.localNode, ds, name⟩ := by
  unfold Controller.snapshotID at h
  rw [parseSnapshotID_toString hnode hname] at h
  split at h
  · exact (Except.ok.inj h).symm
  · cases h

/-- A dataset at or under the parent of a configured pool. -/
def Managed (c : Controller) : Set String :=
  {ds | ∃ pool ∈ c.cfg.poolNames, Store.under (c.parentDatasetFor pool) ds = true}

/-- A dataset under one of these parents, without blanks. -/
def Children (c : Controller) : Set String :=
  {ds | Solid ds.toList ∧
    ∃ pool ∈ c.cfg.poolNames, hasPrefix ds (c.parentDatasetFor pool ++ "/") = true}

/-- A snapshot of such a dataset, by a name that ZFS takes. -/
def ManagedSnaps (c : Controller) : Set (String × String) :=
  {k | k.1 ∈ Managed c ∧ '/' ∉ k.2.toList}

/-- One of a child, without blanks. -/
def ChildSnaps (c : Controller) : Set (String × String) :=
  {k | k.1 ∈ Children c ∧ '/' ∉ k.2.toList ∧ Solid k.2.toList}

theorem poolOf_under (hbare : '/' ∉ pool.toList)
    (h : Store.under (c.parentDatasetFor pool) ds = true) : poolOf ds = pool := by
  obtain ⟨rest, hrest⟩ := toList_parentDatasetFor c pool
  rcases Bool.or_eq_true_iff.1 h with h | h
  · rw [of_decide_eq_true h]
    exact poolOf_eq hbare ⟨rest, hrest⟩
  · obtain ⟨tail, htail⟩ := hasPrefix_iff.1 h
    refine poolOf_eq hbare ⟨rest ++ '/' :: tail, ?_⟩
    rw [← htail, String.toList_append, hrest]
    simp

theorem under_datasetFor (pool name : String) :
    hasPrefix (c.datasetFor pool name) (c.parentDatasetFor pool ++ "/") = true := by
  refine hasPrefix_iff.2 ⟨name.toList, ?_⟩
  exact String.toList_append.symm

theorem under_of_hasPrefix {parent : String} (h : hasPrefix ds (parent ++ "/") = true) :
    Store.under parent ds = true := by
  unfold Store.under
  rw [h, Bool.or_true]

theorem managed_of_child (h : ds ∈ Children c) : ds ∈ Managed c := by
  obtain ⟨-, pool, hpool, hprefix⟩ := h
  exact ⟨pool, hpool, under_of_hasPrefix hprefix⟩

theorem managed_of_childSnap {k : String × String} (h : k ∈ ChildSnaps c) : k ∈ ManagedSnaps c :=
  ⟨managed_of_child h.1, h.2.1⟩

theorem snapIDs_injOn (c : Controller) : Set.InjOn
    (fun k : String × String => (c.snapshotID k.1 k.2, c.volumeID k.1)) (ManagedSnaps c) := by
  rintro ⟨ds, name⟩ hk ⟨ds', name'⟩ hk' heq
  obtain ⟨rfl, rfl⟩ := snapshotID_inj hk.2 hk'.2 (Prod.mk.inj heq).1
  rfl

end

/-! ### The log -/

/-- A request that was served, and what came of it. -/
structure Done where
  request : Request
  result : Except Error request.Result

namespace Done

def Made : Done → String → Prop
  | ⟨.create _, .ok res⟩, id => res.volumeID = id
  | _, _ => False

def Gone : Done → String → Prop
  | ⟨.delete id', .ok _⟩, id => id' = id
  | _, _ => False

/-- A snapshot of a volume, by its id and that of its source. -/
def Snapped : Done → String × String → Prop
  | ⟨.snapshot a, .ok res⟩, (id, source) => res.snapshotID = id ∧ a.sourceVolumeID = source
  | _, _ => False

def Dropped : Done → String × String → Prop
  | ⟨.deleteSnapshot id', .ok _⟩, (id, _) => id' = id
  | _, _ => False

end Done

/-- The ids of a request were returned before. -/
def Request.Known (past : List Done) : Request → Prop
  | .create a => (a.contentVolumeID ≠ "" → ∃ d ∈ past, d.Made a.contentVolumeID) ∧
      (a.contentSnapshotID ≠ "" → ∃ d ∈ past, ∃ source, d.Snapped (a.contentSnapshotID, source))
  | .delete id | .expand id _ _ => ∃ d ∈ past, d.Made id
  | .snapshot a => ∃ d ∈ past, d.Made a.sourceVolumeID
  | .deleteSnapshot id => ∃ d ∈ past, ∃ source, d.Snapped (id, source)
  | _ => True

/-- From `s0` the node has served the requests of the log, the latest first, without faults. -/
inductive Logged (c : Controller) (s0 : Store) : Store → List Done → Prop where
  | start : Logged c s0 s0 []
  | serve {s s' : Store} {past : List Done} {r : Request}
      {tr : List ZfsEv} {res : Except Error r.Result} :
      Logged c s0 s past → r.Known past → Runs zfsAct (r.run c).run s tr res s' →
      (∀ e ∈ tr, e.choice = {}) → Logged c s0 s' (⟨r, res⟩ :: past)

/-- A create on a configured pool, of a dataset without blanks. -/
def CreateArgs.OnPool (c : Controller) (a : CreateArgs) : Prop :=
  a.pool ∈ c.cfg.poolNames ∧ Solid (a.dataset c).toList

def OnPools (c : Controller) (past : List Done) : Prop :=
  ∀ d ∈ past, ∀ a, d.request = .create a → a.OnPool c

/-- The id of a volume right under a parent, in a pool that is imported. -/
def Volumes (c : Controller) (s : Store) (id : String) : Prop :=
  ∃ ds ∈ Children c, id = c.volumeID ds ∧ (s.pool? (poolOf ds)).isSome = true

/-- The id of a snapshot of such a volume, with the volume's. -/
def Snapshots (c : Controller) (s : Store) (x : String × String) : Prop :=
  ∃ k ∈ ChildSnaps c, x = (c.snapshotID k.1 k.2, c.volumeID k.1) ∧
    (s.pool? (poolOf k.1)).isSome = true

/-- The names under the parents are those of the log, and so are their ids. -/
structure Current (c : Controller) (s : Store) (past : List Done) : Prop where
  sound : s.Sound
  vols : Reflects Done.Made Done.Gone c.volumeID (Managed c) s.names.vols past
  snaps : Reflects Done.Snapped Done.Dropped
    (fun k : String × String => (c.snapshotID k.1 k.2, c.volumeID k.1)) (ManagedSnaps c)
    s.names.snaps past
  volIDs : ∀ d ∈ past, ∀ id, d.Made id → Volumes c s id
  snapIDs : ∀ d ∈ past, ∀ x, d.Snapped x → Snapshots c s x

variable {id : String} {r : Request}

variable {a : CreateArgs}

namespace Current

variable {c : Controller} {s s' : Store} {past : List Done} {d : Done}

theorem start (hs : s.Sound) (hempty : ∀ ds ∈ Managed c, ds ∉ s.names.vols) : Current c s [] where
  sound := hs
  vols := .nil hempty
  snaps := .nil fun k hk hmem => hempty k.1 hk.1 (hs.owned k.1 k.2 hmem)
  volIDs := by simp
  snapIDs := by simp

section

variable (h : Current c s past) (hs : s'.Sound) (hpools : SamePools s s')

include h hs hpools

theorem extend
    (hvols : Reflects Done.Made Done.Gone c.volumeID (Managed c) s'.names.vols (d :: past))
    (hsnaps : Reflects Done.Snapped Done.Dropped
      (fun k : String × String => (c.snapshotID k.1 k.2, c.volumeID k.1)) (ManagedSnaps c)
      s'.names.snaps (d :: past))
    (hmade : ∀ id, d.Made id → Volumes c s id) (hsnapped : ∀ x, d.Snapped x → Snapshots c s x) :
    Current c s' (d :: past) where
  sound := hs
  vols := hvols
  snaps := hsnaps
  volIDs := by
    intro d' hd' id hid
    obtain ⟨ds, hds, hid, hpool⟩ : Volumes c s id := by
      rcases List.mem_cons.1 hd' with rfl | hd'
      · exact hmade id hid
      · exact h.volIDs d' hd' id hid
    exact ⟨ds, hds, hid, (hpools.isSome _).trans hpool⟩
  snapIDs := by
    intro d' hd' x hx
    obtain ⟨k, hk, hx, hpool⟩ : Snapshots c s x := by
      rcases List.mem_cons.1 hd' with rfl | hd'
      · exact hsnapped x hx
      · exact h.snapIDs d' hd' x hx
    exact ⟨k, hk, hx, (hpools.isSome _).trans hpool⟩

theorem keep (hnames : s'.names = s.names) (hmade : ∀ id, ¬ d.Made id)
    (hgone : ∀ id, ¬ d.Gone id) (hsnapped : ∀ x, ¬ d.Snapped x) (hdropped : ∀ x, ¬ d.Dropped x) :
    Current c s' (d :: past) := by
  refine h.extend hs hpools ?_ ?_ (fun id hid => absurd hid (hmade id))
    fun x hx => absurd hx (hsnapped x)
  · rw [hnames]
    exact h.vols.keep hmade hgone
  · rw [hnames]
    exact h.snaps.keep hsnapped hdropped

theorem failed (hnames : s'.names = s.names) (e : Error) :
    Current c s' (⟨r, .error e⟩ :: past) := by
  refine h.keep hs hpools hnames ?_ ?_ ?_ ?_
  all_goals cases r <;> exact fun _ => not_false

variable {tr : List ZfsEv} (hclean : ∀ e ∈ tr, e.choice = {})

include hclean

theorem serve_create (hbare : ∀ pool ∈ c.cfg.poolNames, '/' ∉ pool.toList) (ha : a.OnPool c)
    {res : Except Error CreateResult} (hrun : Runs zfsAct (localCreate c a).run s tr res s') :
    Current c s' (⟨.create a, res⟩ :: past) := by
  obtain ⟨hpool, hsolid⟩ := ha
  have hout := (names_localCreate h.sound (hbare _ hpool)).runs hrun hclean
  cases res with
  | error e => exact h.failed hs hpools hout e
  | ok res =>
    obtain ⟨rfl, himported, hnames⟩ := hout
    have hchild : a.dataset c ∈ Children c :=
      ⟨hsolid, a.pool, hpool, under_datasetFor a.pool a.name⟩
    refine h.extend hs hpools ?_ ?_ ?_ fun _ hx => hx.elim
    · rw [hnames]
      exact h.vols.add (volumeID_injective c).injOn (managed_of_child hchild) (fun x => eq_comm)
        fun _ => not_false
    · rw [hnames]
      exact h.snaps.keep (fun _ => not_false) fun _ => not_false
    · rintro id rfl
      refine ⟨_, hchild, rfl, ?_⟩
      rw [poolOf_dataset (hbare _ hpool)]
      exact himported

theorem serve_delete (hnode : NodeName c.localNode) (hid : ∃ d ∈ past, d.Made id)
    {res : Except Error Unit} (hrun : Runs zfsAct (localDelete c id).run s tr res s') :
    Current c s' (⟨.delete id, res⟩ :: past) := by
  have hout := names_localDelete.runs hrun hclean
  cases res with
  | error e => exact h.failed hs hpools hout e
  | ok u =>
    obtain ⟨d, hd, hmade⟩ := hid
    obtain ⟨ds, hds, rfl, himported⟩ := h.volIDs d hd id hmade
    obtain ⟨e, hp, hnames⟩ := hout
    obtain rfl := parse_volumeID hnode hp
    replace hnames := hnames himported
    refine h.extend hs hpools ?_ ?_ (fun _ hx => hx.elim) fun _ hx => hx.elim
    · rw [hnames]
      refine h.vols.drop (fun _ => not_false) fun ds' _ => ?_
      exact eq_comm.trans (volumeID_injective c).eq_iff
    · rw [hnames]
      exact h.snaps.keep (fun _ => not_false) fun _ => not_false

theorem serve_snapshot (hnode : NodeName c.localNode) {a : SnapshotArgs}
    (hid : ∃ d ∈ past, d.Made a.sourceVolumeID) {res : Except Error SnapshotResult}
    (hrun : Runs zfsAct (localSnapshot c a).run s tr res s') :
    Current c s' (⟨.snapshot a, res⟩ :: past) := by
  have hout := names_localSnapshot.runs hrun hclean
  cases res with
  | error e => exact h.failed hs hpools hout e
  | ok res =>
    obtain ⟨d, hd, hmade⟩ := hid
    obtain ⟨ds, hds, hsource, himported⟩ := h.volIDs d hd _ hmade
    obtain ⟨e, hp, hname, hsnapID, hnames⟩ := hout
    rw [hsource] at hp
    obtain rfl := parse_volumeID hnode hp
    have hchild : (ds, sanitizeName a.name) ∈ ChildSnaps c :=
      ⟨hds, slash_of_snapNamed hname, solid_sanitizeName a.name⟩
    have hentry : ∀ x, Done.Snapped ⟨.snapshot a, .ok res⟩ x ↔
        x = (c.snapshotID ds (sanitizeName a.name), c.volumeID ds) := by
      rintro ⟨id, source⟩
      change res.snapshotID = id ∧ a.sourceVolumeID = source ↔ _
      rw [hsnapID, hsource, Prod.mk.injEq, eq_comm, eq_comm (a := source)]
      rfl
    refine h.extend hs hpools ?_ ?_ (fun _ hx => hx.elim) ?_
    · rw [hnames]
      exact h.vols.keep (fun _ => not_false) fun _ => not_false
    · rw [hnames]
      exact h.snaps.add (snapIDs_injOn c) (managed_of_childSnap hchild) hentry fun _ => not_false
    · intro x hx
      exact ⟨_, hchild, (hentry x).1 hx, himported⟩

theorem serve_deleteSnapshot (hnode : NodeName c.localNode)
    (hid : ∃ d ∈ past, ∃ source, d.Snapped (id, source)) {res : Except Error Unit}
    (hrun : Runs zfsAct (localDeleteSnapshot id).run s tr res s') :
    Current c s' (⟨.deleteSnapshot id, res⟩ :: past) := by
  have hout := (names_localDeleteSnapshot h.sound).runs hrun hclean
  cases res with
  | error e => exact h.failed hs hpools hout e
  | ok u =>
    obtain ⟨d, hd, source, hsnapped⟩ := hid
    obtain ⟨⟨ds, name⟩, hk, hids, himported⟩ := h.snapIDs d hd _ hsnapped
    obtain ⟨rfl, rfl⟩ := Prod.mk.inj hids
    obtain ⟨sid, hp, hnames⟩ := hout
    obtain rfl := parse_snapshotID hnode hk.2.1 hp
    replace hnames := hnames himported
    refine h.extend hs hpools ?_ ?_ (fun _ hx => hx.elim) fun _ hx => hx.elim
    · rw [hnames]
      exact h.vols.keep (fun _ => not_false) fun _ => not_false
    · rw [hnames]
      refine h.snaps.drop (fun _ => not_false) ?_
      rintro ⟨ds', name'⟩ hk'
      change c.snapshotID ds name = c.snapshotID ds' name' ↔ _
      constructor
      · intro heq
        obtain ⟨rfl, rfl⟩ := snapshotID_inj hk.2.1 hk'.2 heq
        rfl
      · intro heq
        cases heq
        rfl

end

theorem serve {tr : List ZfsEv} (hbare : ∀ pool ∈ c.cfg.poolNames, '/' ∉ pool.toList)
    (hnode : NodeName c.localNode) (h : Current c s past) {res : Except Error r.Result}
    (hknown : r.Known past) (hpool : ∀ a, r = .create a → a.OnPool c)
    (hrun : Runs zfsAct (r.run c).run s tr res s') (hclean : ∀ e ∈ tr, e.choice = {}) :
    Current c s' (⟨r, res⟩ :: past) := by
  have hs := (cleanly_sound h.sound _).both hrun hclean
  have hpools := (cleanly_pools s _).both hrun hclean
  cases r with
  | create a => exact h.serve_create hs hpools hclean hbare (hpool a rfl) hrun
  | delete id => exact h.serve_delete hs hpools hclean hnode hknown hrun
  | snapshot a => exact h.serve_snapshot hs hpools hclean hnode hknown hrun
  | deleteSnapshot id => exact h.serve_deleteSnapshot hs hpools hclean hnode hknown hrun
  | _ =>
    -- the other requests leave the names alone
    refine h.keep hs hpools ((names_quiet fun cmd hcmd => ?_).both hrun hclean) (fun _ => not_false)
      (fun _ => not_false) (fun _ => not_false) fun _ => not_false
    cases hcmd <;> exact fun _ => rfl

theorem of_logged {s0 : Store} (hcfg : validatePools c.cfg = .ok ()) (hnode : NodeName c.localNode)
    (hs : s0.Sound) (hempty : ∀ ds ∈ Managed c, ds ∉ s0.names.vols)
    (hlog : Logged c s0 s past) (hpools : OnPools c past) : Current c s past := by
  induction hlog with
  | start => exact .start hs hempty
  | serve _ hknown hrun hclean ih =>
    refine serve (of_validatePools hcfg).1 hnode (ih fun d hd => hpools d (.tail _ hd)) hknown ?_
      hrun hclean
    exact fun a ha => hpools _ (.head _) a ha

theorem solid (h : Current c s past) :
    (∀ ds ∈ Managed c, ds ∈ s.names.vols → Solid ds.toList) ∧
    ∀ k ∈ ManagedSnaps c, k ∈ s.names.snaps → Solid k.1.toList ∧ Solid k.2.toList := by
  refine ⟨fun ds hds hmem => ?_, fun k hk hmem => ?_⟩
  · obtain ⟨d, hd, hmade⟩ := ((h.vols ds hds).1 hmem).exists_made
    obtain ⟨ds', hchild, hid, -⟩ := h.volIDs d hd _ hmade
    exact volumeID_injective c hid ▸ hchild.1
  · obtain ⟨d, hd, hsnapped⟩ := ((h.snaps k hk).1 hmem).exists_made
    obtain ⟨k', hchild, hid, -⟩ := h.snapIDs d hd _ hsnapped
    obtain rfl := snapIDs_injOn c hk (managed_of_childSnap hchild) hid
    exact ⟨hchild.1.1, hchild.2.2⟩

end Current

/-! ### The rows -/

section

variable {c : Controller} {s : Store} {past : List Done}

theorem eval_gather {α β : Type} {f : α → LocalOp (List β)} {g : α → List β} {xs : List α}
    (hf : ∀ x, eval zfsAct {} (f x).run s = (.ok (g x), s)) :
    eval zfsAct {} (gather f xs).run s = (.ok (xs.flatMap g), s) := by
  induction xs with
  | nil => rfl
  | cons x xs ih =>
    unfold gather
    rw [eval_step (hf x), eval_step ih]
    rfl

def volumeRows (c : Controller) (s : Store) (pool : String) : List VolWire :=
  ((s.listed (c.parentDatasetFor pool)).filter fun v =>
    hasPrefix v.1 (c.parentDatasetFor pool ++ "/")).map fun v => ⟨c.volumeID v.1, v.2⟩

theorem eval_localList (c : Controller) (s : Store) :
    eval zfsAct {} (localList c).run s = (.ok (c.cfg.poolNames.flatMap (volumeRows c s)), s) := by
  refine eval_gather fun pool => ?_
  unfold listPool
  dsimp only
  rw [eval_step (eval_onError_eq_ok.2 (eval_listZvols s _))]
  rfl

theorem listed_eq (hs : s.Named) {parent : String} (hslash : '/' ∈ parent.toList)
    (hsolid : ∀ ds ∈ s.names.vols, Store.under parent ds = true → Solid ds.toList) :
    s.listed parent = if (s.pool? (poolOf parent)).isSome then
      (s.volumesUnder parent).map fun r => (r.1, parseSize (itoa r.2)) else [] := by
  unfold Store.listed
  rw [hs.rows_volumes, ← List.filterMap_eq_map]
  congr 1
  refine List.filterMap_congr fun r hr => ?_
  obtain ⟨hunder, v, hv⟩ := mem_volumesUnder hr
  have hne : r.1 ≠ "" := fun hempty => by
    have hmem := slash_of_under hslash hunder
    simp [hempty] at hmem
  rw [fields_solid hne (hsolid _ (Store.mem_names_vols.2 ⟨v, hv⟩) hunder)]
  rfl

theorem volumeRows_ids (hs : s.Named) {pool : String}
    (hsolid : ∀ ds ∈ s.names.vols, Store.under (c.parentDatasetFor pool) ds = true →
      Solid ds.toList) :
    (volumeRows c s pool).map (·.volumeID) = if (s.pool? (poolOf (c.parentDatasetFor pool))).isSome
      then (s.vols.keys.filter fun ds => hasPrefix ds (c.parentDatasetFor pool ++ "/")).map c.volumeID
      else [] := by
  unfold volumeRows
  obtain ⟨rest, hrest⟩ := toList_parentDatasetFor c pool
  rw [listed_eq hs (by simp [hrest]) hsolid]
  split
  · unfold Store.volumesUnder AList.keys List.keys
    simp only [List.filter_map, List.map_map, List.filter_filter]
    congr 1
    refine List.filter_congr fun e _ => ?_
    simp only [Function.comp]
    cases h : hasPrefix e.1 (c.parentDatasetFor pool ++ "/") with
    | false => rfl
    | true => rw [under_of_hasPrefix h, Bool.and_self]
  · rfl

theorem mem_shown {κ ν β : Type} [DecidableEq κ] {m : Map κ ν} {b : Bool} {p : κ → Bool} {g : κ → β}
    {x : β} : x ∈ (if b then (m.keys.filter p).map g else []) ↔
      b = true ∧ ∃ k ∈ m, p k = true ∧ g k = x := by
  split
  · next hb =>
    rw [and_iff_right hb, List.mem_map]
    constructor
    · rintro ⟨k, hk, hx⟩
      obtain ⟨hmem, hp⟩ := List.mem_filter.1 hk
      exact ⟨k, AList.mem_keys.2 hmem, hp, hx⟩
    · rintro ⟨k, hk, hp, hx⟩
      exact ⟨k, List.mem_filter.2 ⟨AList.mem_keys.1 hk, hp⟩, hx⟩
  · next hb => exact iff_of_false List.not_mem_nil fun h => hb h.1

theorem mem_volumeRows (h : Current c s past) {pool : String} (hpool : pool ∈ c.cfg.poolNames) :
    id ∈ (volumeRows c s pool).map (·.volumeID) ↔
      (s.pool? (poolOf (c.parentDatasetFor pool))).isSome = true ∧ ∃ ds ∈ s.names.vols,
        hasPrefix ds (c.parentDatasetFor pool ++ "/") = true ∧ c.volumeID ds = id := by
  rw [volumeRows_ids h.sound.named fun ds hds hunder => h.solid.1 ds ⟨pool, hpool, hunder⟩ hds]
  exact mem_shown

theorem poolOf_parent {pool : String} (hbare : '/' ∉ pool.toList) :
    poolOf (c.parentDatasetFor pool) = pool :=
  poolOf_eq hbare (toList_parentDatasetFor c pool)

/-- One pool after the other shows nothing twice: what a pool shows is named after it. -/
theorem nodup_flatMap_pools {α β : Type} {f : String → List α} {key : α → β}
    (own : β → String → Prop) {pools : List String} (hpools : pools.Nodup)
    (hf : ∀ pool ∈ pools, ((f pool).map key).Nodup)
    (hown : ∀ pool ∈ pools, ∀ x ∈ (f pool).map key, own x pool)
    (huniq : ∀ x p q, own x p → own x q → p = q) : ((pools.flatMap f).map key).Nodup := by
  rw [List.map_flatMap, List.nodup_flatMap]
  refine ⟨hf, hpools.pairwise_of_forall_ne fun p hp q hq hne => ?_⟩
  intro x hx hx'
  exact hne (huniq x p q (hown p hp x hx) (hown q hq x hx'))

theorem localList_rows (hcfg : validatePools c.cfg = .ok ()) (h : Current c s past) :
    ((c.cfg.poolNames.flatMap (volumeRows c s)).map (·.volumeID)).Nodup ∧
    ∀ id, id ∈ (c.cfg.poolNames.flatMap (volumeRows c s)).map (·.volumeID) ↔
      Live Done.Made Done.Gone id past := by
  obtain ⟨hbare, hnodup⟩ := of_validatePools hcfg
  constructor
  · refine nodup_flatMap_pools (fun id pool => ∃ ds, poolOf ds = pool ∧ c.volumeID ds = id) hnodup
      (fun pool hpool => ?_) (fun pool hpool id hid => ?_) ?_
    · rw [volumeRows_ids h.sound.named fun ds hds hunder => h.solid.1 ds ⟨pool, hpool, hunder⟩ hds]
      split
      · exact (s.vols.keys_nodup.filter _).map (volumeID_injective c)
      · exact List.nodup_nil
    · obtain ⟨-, ds, -, hprefix, hid⟩ := (mem_volumeRows h hpool).1 hid
      exact ⟨ds, poolOf_under (hbare pool hpool) (under_of_hasPrefix hprefix), hid⟩
    · rintro id p q ⟨ds, rfl, hid⟩ ⟨ds', rfl, hid'⟩
      rw [volumeID_injective c (hid.trans hid'.symm)]
  · intro id
    rw [List.map_flatMap, List.mem_flatMap]
    constructor
    · rintro ⟨pool, hpool, hid⟩
      obtain ⟨-, ds, hds, hprefix, rfl⟩ := (mem_volumeRows h hpool).1 hid
      exact (h.vols ds ⟨pool, hpool, under_of_hasPrefix hprefix⟩).1 hds
    · intro hlive
      obtain ⟨d, hd, hmade⟩ := hlive.exists_made
      obtain ⟨ds, hchild, rfl, himported⟩ := h.volIDs d hd id hmade
      obtain ⟨-, pool, hpool, hprefix⟩ := hchild
      refine ⟨pool, hpool, (mem_volumeRows h hpool).2 ⟨?_, ds, ?_, hprefix, rfl⟩⟩
      · rw [poolOf_parent (hbare pool hpool),
          ← poolOf_under (hbare pool hpool) (under_of_hasPrefix hprefix)]
        exact himported
      · exact (h.vols ds ⟨pool, hpool, under_of_hasPrefix hprefix⟩).2 hlive

def snapshotRows (c : Controller) (s : Store) (target : String) : List SnapWire :=
  (s.listedSnapshots target).filterMap (snapWire c.localNode)

theorem eval_localListSnapshots (c : Controller) (s : Store) :
    eval zfsAct {} (localListSnapshots c "").run s =
      (.ok (c.cfg.poolNames.flatMap fun pool => snapshotRows c s (c.parentDatasetFor pool)), s) := by
  have hgather : eval zfsAct {} (gather (listTarget c)
      (c.cfg.poolNames.map c.parentDatasetFor)).run s =
        (.ok ((c.cfg.poolNames.map c.parentDatasetFor).flatMap (snapshotRows c s)), s) := by
    refine eval_gather fun target => ?_
    unfold listTarget
    rw [eval_step (eval_onError_eq_ok.2 (eval_listSnapshots s _))]
    rfl
  rw [List.flatMap_map] at hgather
  exact hgather

/-- The first `@` of a row is the one before the snapshot's name. -/
theorem snapWire_eq (hs : s.Named) {ds name : String} {sn : Snap}
    (hsn : s.snaps.lookup (ds, name) = some sn) (node : String)
    {size created : Int} : snapWire node ⟨ds ++ "@" ++ name, size, created⟩ =
      some ⟨SnapshotID.toString ⟨node, ds, name⟩, ExternalID.toString ⟨node, ds⟩, size, created,
        true⟩ := by
  have hcut : cut (ds ++ "@" ++ name) '@' = some (ds, name) := by
    refine cut_eq ?_ (at_of_wellNamed (hs.snaps ds name sn hsn).1)
    rw [String.toList_append, String.toList_append, show "@".toList = ['@'] by decide,
      List.append_assoc]
    rfl
  unfold snapWire
  rw [hcut]
  rfl

theorem slash_of_mem_snaps (hs : s.Named) {k : String × String} (hk : k ∈ s.names.snaps) :
    '/' ∉ k.2.toList := by
  obtain ⟨sn, hsn⟩ := Store.mem_names_snaps.1 hk
  exact slash_of_snapNamed (hs.snaps k.1 k.2 sn hsn).2

theorem listedSnapshots_eq (hs : s.Named) {target : String}
    (hsolid : ∀ k ∈ s.names.snaps, Store.under target k.1 = true →
      Solid k.1.toList ∧ Solid k.2.toList) :
    s.listedSnapshots target = if (s.pool? (poolOf target)).isSome then
      (s.snapshotsUnder target).map fun e =>
        ⟨e.name, parseSize (itoa e.volsizeBytes), parseSize (itoa e.creationUnix)⟩ else [] := by
  unfold Store.listedSnapshots
  rw [hs.rows_snapshots, ← List.filterMap_eq_map]
  congr 1
  refine List.filterMap_congr fun e he => ?_
  obtain ⟨ds, name, sn, hname, hunder, hsn⟩ := mem_snapshotsUnder he
  obtain ⟨hds, hsnap⟩ := hsolid (ds, name) (Store.mem_names_snaps.2 ⟨sn, hsn⟩) hunder
  have hsolid' : Solid e.name.toList := by
    rw [hname, String.toList_append, String.toList_append]
    intro ch hch
    simp only [List.mem_append] at hch
    rcases hch with (hch | hch) | hch
    · exact hds ch hch
    · rw [List.mem_singleton.1 hch]
      decide
    · exact hsnap ch hch
  rw [fields_solid (by simp [hname]) hsolid']
  rfl

theorem snapshotRows_ids (hs : s.Named) {target : String}
    (hsolid : ∀ k ∈ s.names.snaps, Store.under target k.1 = true →
      Solid k.1.toList ∧ Solid k.2.toList) :
    (snapshotRows c s target).map (fun r => (r.snapshotID, r.sourceVolumeID)) =
      if (s.pool? (poolOf target)).isSome then
        (s.snaps.keys.filter fun k => Store.under target k.1).map fun k =>
          (c.snapshotID k.1 k.2, c.volumeID k.1)
      else [] := by
  unfold snapshotRows
  rw [listedSnapshots_eq hs hsolid]
  split
  · unfold Store.snapshotsUnder AList.keys List.keys
    rw [List.map_map, List.filterMap_map, List.map_filterMap, List.filter_map, List.map_map,
      ← List.filterMap_eq_map]
    refine List.filterMap_congr fun e he => ?_
    obtain ⟨⟨ds, name⟩, sn⟩ := e
    have hsn := AList.mem_lookup_iff.2 (List.mem_filter.1 he).1
    simp only [Function.comp, snapWire_eq hs hsn]
    rfl
  · rfl

theorem Current.shown_solid (h : Current c s past) {pool : String} (hpool : pool ∈ c.cfg.poolNames)
    (k : String × String) (hk : k ∈ s.names.snaps)
    (hunder : Store.under (c.parentDatasetFor pool) k.1 = true) :
    Solid k.1.toList ∧ Solid k.2.toList :=
  h.solid.2 k ⟨⟨pool, hpool, hunder⟩, slash_of_mem_snaps h.sound.named hk⟩ hk

theorem mem_snapshotRows (h : Current c s past) {pool : String} (hpool : pool ∈ c.cfg.poolNames)
    {x : String × String} :
    x ∈ (snapshotRows c s (c.parentDatasetFor pool)).map
        (fun r => (r.snapshotID, r.sourceVolumeID)) ↔
      (s.pool? (poolOf (c.parentDatasetFor pool))).isSome = true ∧ ∃ k ∈ s.names.snaps,
        Store.under (c.parentDatasetFor pool) k.1 = true ∧
          (c.snapshotID k.1 k.2, c.volumeID k.1) = x := by
  rw [snapshotRows_ids h.sound.named (h.shown_solid hpool)]
  exact mem_shown

theorem nodup_snapshotRows (h : Current c s past) {pool : String}
    (hpool : pool ∈ c.cfg.poolNames) :
    ((snapshotRows c s (c.parentDatasetFor pool)).map (·.snapshotID)).Nodup := by
  have hs := h.sound.named
  have hfst : (snapshotRows c s (c.parentDatasetFor pool)).map (·.snapshotID) =
      ((snapshotRows c s (c.parentDatasetFor pool)).map
        fun r => (r.snapshotID, r.sourceVolumeID)).map Prod.fst := by
    rw [List.map_map]
    rfl
  rw [hfst, snapshotRows_ids hs (h.shown_solid hpool)]
  split
  · rw [List.map_map]
    refine List.Nodup.map_on ?_ (s.snaps.keys_nodup.filter _)
    rintro ⟨ds, name⟩ hk ⟨ds', name'⟩ hk' heq
    have hslash := slash_of_mem_snaps hs (AList.mem_keys.2 (List.mem_filter.1 hk).1)
    have hslash' := slash_of_mem_snaps hs (AList.mem_keys.2 (List.mem_filter.1 hk').1)
    obtain ⟨rfl, rfl⟩ := snapshotID_inj hslash hslash' heq
    rfl
  · exact List.nodup_nil

theorem localListSnapshots_rows (hcfg : validatePools c.cfg = .ok ()) (h : Current c s past) :
    ((c.cfg.poolNames.flatMap fun pool => snapshotRows c s (c.parentDatasetFor pool)).map
      (·.snapshotID)).Nodup ∧
    ∀ x, x ∈ (c.cfg.poolNames.flatMap fun pool => snapshotRows c s (c.parentDatasetFor pool)).map
        (fun r => (r.snapshotID, r.sourceVolumeID)) ↔ Live Done.Snapped Done.Dropped x past := by
  obtain ⟨hbare, hnodup⟩ := of_validatePools hcfg
  have hnamed := h.sound.named
  constructor
  · refine nodup_flatMap_pools (fun id pool => ∃ ds name, '/' ∉ name.toList ∧ poolOf ds = pool ∧
      c.snapshotID ds name = id) hnodup (fun pool hpool => nodup_snapshotRows h hpool)
      (fun pool hpool id hid => ?_) ?_
    · obtain ⟨r, hr, rfl⟩ := List.mem_map.1 hid
      obtain ⟨-, ⟨ds, name⟩, hk, hunder, heq⟩ := (mem_snapshotRows h hpool).1
        (List.mem_map_of_mem (f := fun r => (r.snapshotID, r.sourceVolumeID)) hr)
      exact ⟨ds, name, slash_of_mem_snaps hnamed hk, poolOf_under (hbare pool hpool) hunder,
        (Prod.mk.inj heq).1⟩
    · rintro id p q ⟨ds, name, hslash, rfl, hid⟩ ⟨ds', name', hslash', rfl, hid'⟩
      rw [(snapshotID_inj hslash hslash' (hid.trans hid'.symm)).1]
  · intro x
    rw [List.map_flatMap, List.mem_flatMap]
    constructor
    · rintro ⟨pool, hpool, hx⟩
      obtain ⟨-, k, hk, hunder, rfl⟩ := (mem_snapshotRows h hpool).1 hx
      exact (h.snaps k ⟨⟨pool, hpool, hunder⟩, slash_of_mem_snaps hnamed hk⟩).1 hk
    · intro hlive
      obtain ⟨d, hd, hsnapped⟩ := hlive.exists_made
      obtain ⟨k, hk, rfl, himported⟩ := h.snapIDs d hd x hsnapped
      have hmanaged := managed_of_childSnap hk
      obtain ⟨pool, hpool, hunder⟩ := hmanaged.1
      refine ⟨pool, hpool, (mem_snapshotRows h hpool).2 ⟨?_, k, ?_, hunder, rfl⟩⟩
      · rw [poolOf_parent (hbare pool hpool), ← poolOf_under (hbare pool hpool) hunder]
        exact himported
      · exact (h.snaps k hmanaged).2 hlive

end

/-- What the listings of the node show without faults: the live volumes, each once, and the live
snapshots, each once with the id of its source. -/
structure Listed (c : Controller) (s : Store) (past : List Done) : Prop where
  volumes : ∀ tr r s', Runs zfsAct (localList c).run s tr r s' → (∀ e ∈ tr, e.choice = {}) →
    ∃ rows, r = .ok rows ∧ (rows.map (·.volumeID)).Nodup ∧
      ∀ id, id ∈ rows.map (·.volumeID) ↔ Live Done.Made Done.Gone id past
  snapshots : ∀ tr r s', Runs zfsAct (localListSnapshots c "").run s tr r s' →
    (∀ e ∈ tr, e.choice = {}) → ∃ rows, r = .ok rows ∧ (rows.map (·.snapshotID)).Nodup ∧
      ∀ x, x ∈ rows.map (fun r => (r.snapshotID, r.sourceVolumeID)) ↔
        Live Done.Snapped Done.Dropped x past

/-! ### Logs by evaluation -/

section

variable {c : Controller} {s0 s : Store} {past : List Done}

theorem Logged.eval (h : Logged c s0 s past) (hknown : r.Known past) :
    Logged c s0 (Lib.eval zfsAct {} (r.run c).run s).2
      (⟨r, (Lib.eval zfsAct {} (r.run c).run s).1⟩ :: past) := by
  obtain ⟨tr, hclean, hrun⟩ := runs_eval zfsAct {} (r.run c).run s
  exact .serve h hknown hrun hclean

theorem Logged.exists_serve (h : Logged c s0 s past) (hknown : r.Known past)
    (P : Except Error r.Result × Store → Prop) [DecidablePred P]
    (hP : decide (P (Lib.eval zfsAct {} (r.run c).run s)) = true) :
    ∃ res s', Logged c s0 s' (⟨r, res⟩ :: past) ∧ P (res, s') :=
  ⟨_, _, h.eval hknown, of_decide_eq_true hP⟩

theorem known_create (hv : a.contentVolumeID = "") (hs : a.contentSnapshotID = "")
    (past : List Done) : (Request.create a).Known past :=
  ⟨fun h => absurd hv h, fun h => absurd hs h⟩

theorem made_of_id {res : Except Error CreateResult} (h : res.toOption.map (·.volumeID) = some id) :
    Done.Made ⟨.create a, res⟩ id := by
  cases res with
  | error e => cases h
  | ok res => exact Option.some.inj h

theorem snapped_of_id {a : SnapshotArgs} {res : Except Error SnapshotResult}
    (h : res.toOption.map (·.snapshotID) = some id) :
    Done.Snapped ⟨.snapshot a, res⟩ (id, a.sourceVolumeID) := by
  cases res with
  | error e => cases h
  | ok res => exact ⟨Option.some.inj h, rfl⟩

theorem eval_shown {α β : Type} {x : LocalOp (List α)} {f : α → β} {P : List α → Prop}
    {Q : β → Prop} {ids : List β} (h : ∀ tr r s', Runs zfsAct x.run s tr r s' →
      (∀ e ∈ tr, e.choice = {}) → ∃ rows, r = .ok rows ∧ P rows ∧ ∀ k, k ∈ rows.map f ↔ Q k)
    (hids : (eval zfsAct {} x.run s).1.toOption.map (·.map f) = some ids) (k : β) :
    k ∈ ids ↔ Q k := by
  obtain ⟨tr, hclean, hrun⟩ := runs_eval zfsAct {} x.run s
  obtain ⟨rows, hrows, -, hmem⟩ := h _ _ _ hrun hclean
  rw [hrows] at hids
  rw [← Option.some.inj hids]
  exact hmem k

end

def twoPools : Store where
  pools := AList.insert "y" ⟨true, "ONLINE", 90000, 2 ^ 20, 90000⟩
    (AList.insert "tank" ⟨true, "ONLINE", 90000, 2 ^ 20, 90000⟩ ∅)
  vols := ∅
  snaps := ∅

/-- The pool `y` nests its volumes where those of `tank` are, on a node with a slash in its
name. -/
def slashController : Controller where
  cfg := ⟨[{ name := "tank" }, { name := "y", parentDataset := "tank/csi" }], "tank", "", 0⟩
  parentDataset := "csi"
  localNode := "x/y"

theorem sound_twoPools : twoPools.Sound where
  named := ⟨by simp [twoPools], by simp [twoPools]⟩
  owned := by
    intro ds name h
    obtain ⟨sn, hsn⟩ := Store.mem_names_snaps.1 h
    cases hsn
  sizes := by simp [twoPools]
  figures := by
    intro pool p hp
    by_cases hy : pool = "y"
    · subst hy
      cases hp
      decide
    · unfold twoPools at hp
      rw [AList.lookup_insert_ne hy] at hp
      by_cases htank : pool = "tank"
      · subst htank
        cases hp
        decide
      · rw [AList.lookup_insert_ne htank] at hp
        cases hp

theorem notMem_twoPools (ds : String) : ds ∉ twoPools.names.vols := by
  intro h
  cases h

/-! ### The listings and the log -/

/-- On a node whose name has no slash, as long as every create is on a configured pool and of a
dataset without blanks, the listings show what the log says. -/
theorem listings_of_log {c : Controller} {s0 s : Store} {past : List Done}
    (hcfg : validatePools c.cfg = .ok ()) (hs : s0.Sound)
    (hempty : ∀ ds ∈ Managed c, ds ∉ s0.names.vols) (hlog : Logged c s0 s past)
    (hnode : NodeName c.localNode) (hpools : OnPools c past) : Listed c s past := by
  have hcurrent := Current.of_logged hcfg hnode hs hempty hlog hpools
  constructor
  · intro tr r s' hrun hclean
    have heval := hrun.eval hclean
    rw [eval_localList] at heval
    obtain ⟨rfl, -⟩ := Prod.mk.inj heval
    exact ⟨_, rfl, localList_rows hcfg hcurrent⟩
  · intro tr r s' hrun hclean
    have heval := hrun.eval hclean
    rw [eval_localListSnapshots] at heval
    obtain ⟨rfl, -⟩ := Prod.mk.inj heval
    exact ⟨_, rfl, localListSnapshots_rows hcfg hcurrent⟩

theorem listings_of_log_snapshot : ∃ s past, Logged (tankController "a") twoPools s past ∧
    Live Done.Snapped Done.Dropped
      ("locals/v1/a/tank/csi/vol/s1", "local/v1/a/tank/csi/vol") past ∧
    Listed (tankController "a") s past := by
  have hstart : Logged (tankController "a") twoPools twoPools [] := .start
  obtain ⟨res1, s₁, hlog1, hid1, hsnap⟩ := hstart.exists_serve
    (known_create (a := tankArgs) rfl rfl [])
    (fun x => x.1.toOption.map (·.volumeID) = some "local/v1/a/tank/csi/vol" ∧
      (eval zfsAct {} (localSnapshot (tankController "a") ⟨"local/v1/a/tank/csi/vol", "s1"⟩).run
        x.2).1.toOption.map (·.snapshotID) = some "locals/v1/a/tank/csi/vol/s1") (by decide)
  have hlog2 := hlog1.eval (r := .snapshot ⟨"local/v1/a/tank/csi/vol", "s1"⟩)
    ⟨_, List.mem_cons_self, made_of_id hid1⟩
  refine ⟨_, _, hlog2, .inl (snapped_of_id hsnap), listings_of_log (by decide) sound_twoPools
    (fun ds _ => notMem_twoPools ds) hlog2 ⟨by decide, by decide⟩ ?_⟩
  intro d hd a ha
  rcases List.mem_cons.1 hd with rfl | hd
  · cases ha
  · obtain rfl := List.mem_singleton.1 hd
    cases ha
    exact ⟨by decide, solid_of_all (by decide)⟩

/-- A volume on a pool that is imported but not configured is not listed; one with a blank in its
name is listed by a part of it; and with a slash in the node's name, a snapshot is listed under a
source that is not the one of the request. -/
theorem listings_miss :
    validatePools (tankController "a").cfg = .ok () ∧
    (∃ s past, Logged (tankController "a") twoPools s past ∧ ¬ Listed (tankController "a") s past) ∧
    (∃ s past, Logged (tankController "a") twoPools s past ∧
      (∀ d ∈ past, ∀ a, d.request = .create a → a.pool = "tank") ∧
      ¬ Listed (tankController "a") s past) ∧
    ∃ s past, Logged slashController twoPools s past ∧
      validatePools slashController.cfg = .ok () ∧ OnPools slashController past ∧
      ¬ Listed slashController s past := by
  have hstart : Logged (tankController "a") twoPools twoPools [] := .start
  refine ⟨by decide, ?_, ?_, ?_⟩
  · obtain ⟨res, s, hlog, hid, hlist⟩ := hstart.exists_serve
      (known_create (a := { tankArgs with pool := "y" }) rfl rfl [])
      (fun x => x.1.toOption.map (·.volumeID) = some "local/v1/a/y/csi/vol" ∧
        (eval zfsAct {} (localList (tankController "a")).run x.2).1.toOption.map
          (·.map (·.volumeID)) = some []) (by decide)
    refine ⟨s, _, hlog, fun h => ?_⟩
    exact absurd ((eval_shown h.volumes hlist _).2 (.inl (made_of_id hid))) List.not_mem_nil
  · obtain ⟨res, s, hlog, hid, hlist⟩ := hstart.exists_serve
      (known_create (a := { tankArgs with name := "my vol" }) rfl rfl [])
      (fun x => x.1.toOption.map (·.volumeID) = some "local/v1/a/tank/csi/my vol" ∧
        (eval zfsAct {} (localList (tankController "a")).run x.2).1.toOption.map
          (·.map (·.volumeID)) = some ["local/v1/a/tank/csi/my"]) (by decide)
    refine ⟨s, _, hlog, fun d hd a ha => ?_, fun h => ?_⟩
    · obtain rfl := List.mem_singleton.1 hd
      cases ha
      rfl
    · exact absurd ((eval_shown h.volumes hlist _).2 (.inl (made_of_id hid))) (by decide)
  · have hstart : Logged slashController twoPools twoPools [] := .start
    obtain ⟨res1, s₁, hlog1, hid1, hid3, hlist⟩ := hstart.exists_serve
      (known_create (a := tankArgs) rfl rfl [])
      (fun x => x.1.toOption.map (·.volumeID) = some "local/v1/x/y/tank/csi/vol" ∧
        (eval zfsAct {} (localSnapshot slashController ⟨"local/v1/x/y/tank/csi/vol", "s1"⟩).run
          (eval zfsAct {} (localCreate slashController { tankArgs with pool := "y" }).run
            x.2).2).1.toOption.map (·.snapshotID) = some "locals/v1/x/y/y/tank/csi/vol/s1" ∧
        (eval zfsAct {} (localListSnapshots slashController "").run
          (eval zfsAct {} (localSnapshot slashController ⟨"local/v1/x/y/tank/csi/vol", "s1"⟩).run
            (eval zfsAct {} (localCreate slashController { tankArgs with pool := "y" }).run
              x.2).2).2).1.toOption.map (·.map fun r => (r.snapshotID, r.sourceVolumeID)) =
          some [("locals/v1/x/y/y/tank/csi/vol/s1", "local/v1/x/y/y/tank/csi/vol")]) (by decide)
    have hlog2 := hlog1.eval (r := .create { tankArgs with pool := "y" }) (known_create rfl rfl _)
    have hlog3 := hlog2.eval (r := .snapshot ⟨"local/v1/x/y/tank/csi/vol", "s1"⟩)
      ⟨_, List.mem_cons_of_mem _ List.mem_cons_self, made_of_id hid1⟩
    refine ⟨_, _, hlog3, by decide, ?_, fun h => ?_⟩
    · intro d hd a ha
      rcases List.mem_cons.1 hd with rfl | hd
      · cases ha
      · rcases List.mem_cons.1 hd with rfl | hd
        · cases ha
          exact ⟨by decide, solid_of_all (by decide)⟩
        · obtain rfl := List.mem_singleton.1 hd
          cases ha
          exact ⟨by decide, solid_of_all (by decide)⟩
    · have hmem := (eval_shown h.snapshots hlist _).2 (.inl (snapped_of_id hid3))
      exact absurd hmem (by decide)

end NomadCsi.Local
