import NomadCsi.Lib.Distinct
import NomadCsi.Node.Backend
import NomadCsi.Stats.Registry

/-!
# The staged volumes of a node

Both backends count the volumes staged on their node for the gauge (`stagedCount`) and
enumerate them for the statistics (`stagedVolumes` and `stagedSessions`). The two QNAP functions
count targets and LUNs, one by their text and one by the pair. Of the two local ones the first
counts sources of mounts and the second datasets.
-/

namespace NomadCsi.Local

open Lib Lib.Go Driver Node

/-! ### The zvols of a node -/

/-- The parent dataset of a pool: its own, or the default. -/
def parentDatasetForPool (cfg : Config) (pool defaultParent : String) : String :=
  let own := ((cfg.poolByName pool).map (·.parentDataset)).getD ""
  pool ++ "/" ++ (if own ≠ "" then own else defaultParent)

/-- Record a zvol under the name of its symlink and under the device that resolves to. -/
def recordZvol (link : String → Option String) (parent : String) (out : Map String String)
    (name : String) : Map String String :=
  let p := devicePath parent ++ "/" ++ name
  let out := out.insert p (parent ++ "/" ++ name)
  match link p with
  | some real => out.insert real (parent ++ "/" ++ name)
  | none => out

/-- The device names of this plugin's zvols with their datasets, from the directories of its
pools. A directory that is not there is passed over. -/
def osZvolDatasets (cfg : Config) (parentDataset : String) (readDir : String → Option (List String))
    (link : String → Option String) : Map String String :=
  cfg.poolNames.foldl (fun out pool =>
    let parent := parentDatasetForPool cfg pool parentDataset
    ((readDir (devicePath parent)).getD []).foldl (recordZvol link parent) out) ∅

/-! ### Counting and listing -/

/-- The source of a mount is one of the devices, as it is or resolved. -/
def ourSource (ourDevs : Map String String) (source : String) : Prog Cmd Cmd.Reply Bool := do
  if source ∈ ourDevs then return true
  else
    let real ← Prog.lift (Cmd.evalSymlinks source)
    return real.any (· ∈ ourDevs)

def countSources (ourDevs : Map String String) :
    List Mount → List String → Prog Cmd Cmd.Reply (List String)
  | [], seen => return seen
  | m :: rest, seen => do
    if ← ourSource ourDevs m.source then countSources ourDevs rest (seen.insert m.source)
    else countSources ourDevs rest seen

def stagedCount (ourDevs : Map String String) : Tool Nat := do
  let mounts ← listMounts
  let seen ← ExceptT.lift (countSources ourDevs mounts [])
  return seen.length

def sourceDataset (devDatasets : Map String String) (source : String) :
    Prog Cmd Cmd.Reply (Option String) := do
  match devDatasets.lookup source with
  | some ds => return some ds
  | none =>
    let real ← Prog.lift (Cmd.evalSymlinks source)
    return real.bind devDatasets.lookup

/-- One spec for each volume id not seen yet. -/
def collectSpecs (nodeID : String) (devDatasets : Map String String) :
    List Mount → List String → Prog Cmd Cmd.Reply (List Stats.TrackSpec)
  | [], _ => return []
  | m :: rest, seen => do
    match ← sourceDataset devDatasets m.source with
    | none => collectSpecs nodeID devDatasets rest seen
    | some ds =>
      let id := ExternalID.toString ⟨nodeID, ds⟩
      if id ∈ seen then collectSpecs nodeID devDatasets rest seen
      else
        let specs ← collectSpecs nodeID devDatasets rest (id :: seen)
        return ⟨id, m.target, .mount⟩ :: specs

def stagedVolumes (n : NodePlugin) (devDatasets : Map String String) :
    Tool (List Stats.TrackSpec) := do
  let mounts ← listMounts
  ExceptT.lift (collectSpecs n.nodeID devDatasets mounts [])

/-! ### What they return -/

def zvolOf (devs : Map String String) (link : String → Option String) (source : String) :
    Option String :=
  match devs.lookup source with
  | some ds => some ds
  | none => (link source).bind devs.lookup

/-- The mount sources that name a zvol, with its dataset. -/
def zvolMounts (devs : Map String String) (link : String → Option String) (mounts : List Mount) :
    List (String × String) :=
  mounts.filterMap fun m => (zvolOf devs link m.source).map fun ds => (m.source, ds)

theorem mem_zvolMounts {devs : Map String String} {link : String → Option String}
    {mounts : List Mount} {source ds : String} :
    (source, ds) ∈ zvolMounts devs link mounts ↔
      (∃ m ∈ mounts, m.source = source) ∧ zvolOf devs link source = some ds := by
  simp only [zvolMounts, List.mem_filterMap, Option.map_eq_some_iff, Prod.mk.injEq]
  constructor
  · rintro ⟨m, hm, ds', hz, rfl, rfl⟩
    exact ⟨⟨m, hm, rfl⟩, hz⟩
  · rintro ⟨⟨m, hm, rfl⟩, hz⟩
    exact ⟨m, hm, ds, hz, rfl, rfl⟩

section

variable {devs : Map String String}

theorem wp_ourSource (h : Host) (source : String) :
    wp hostAct (ourSource devs source) h fun _ b h' =>
      Same h h' ∧ b = (zvolOf devs h.link source).isSome := by
  unfold ourSource zvolOf
  split
  · next hin =>
    obtain ⟨ds, hds⟩ := Option.isSome_iff_exists.1 (AList.lookup_isSome.2 hin)
    exact ⟨.refl h, by rw [hds]; rfl⟩
  · next hin =>
    intro ch
    refine ⟨⟨_, rfl⟩, ?_⟩
    rw [AList.lookup_eq_none.2 hin]
    change (h.link source).any (· ∈ devs) = _
    cases h.link source with
    | none => rfl
    | some real =>
      rw [Bool.eq_iff_iff]
      simp [AList.lookup_isSome]

theorem wp_sourceDataset (h : Host) (source : String) :
    wp hostAct (sourceDataset devs source) h fun _ ds h' =>
      Same h h' ∧ ds = zvolOf devs h.link source := by
  unfold sourceDataset zvolOf
  split
  · exact ⟨.refl h, rfl⟩
  · exact fun ch => ⟨⟨_, rfl⟩, rfl⟩

theorem wp_countSources (mounts : List Mount) (h : Host) (seen : List String)
    (hseen : seen.Nodup) :
    wp hostAct (countSources devs mounts seen) h fun _ seen' h' =>
      Same h h' ∧ seen'.Nodup ∧
        ∀ x, x ∈ seen' ↔ x ∈ seen ∨ x ∈ (zvolMounts devs h.link mounts).map (·.1) := by
  induction mounts generalizing h seen with
  | nil => exact ⟨.refl h, hseen, by simp [zvolMounts]⟩
  | cons m rest ih =>
    rw [countSources]
    refine wp_bind.2 (wp_mono (wp_ourSource h m.source) ?_)
    rintro tr b h' ⟨⟨t, rfl⟩, rfl⟩
    cases hz : zvolOf devs h.link m.source with
    | none =>
      refine wp_mono (ih _ seen hseen) fun tr' seen' h'' hp => ⟨.trans ⟨t, rfl⟩ hp.1, hp.2.1, ?_⟩
      intro x
      rw [hp.2.2, zvolMounts, zvolMounts, List.filterMap_cons, hz]
      rfl
    | some ds =>
      refine wp_mono (ih _ _ (hseen.insert)) fun tr' seen' h'' hp => ⟨.trans ⟨t, rfl⟩ hp.1, hp.2.1, ?_⟩
      intro x
      rw [hp.2.2, zvolMounts, zvolMounts, List.filterMap_cons, hz]
      simp only [List.mem_insert_iff, Option.map_some, List.map_cons, List.mem_cons]
      rw [or_assoc, or_left_comm]

/-- The ids listed, each once, are those of the zvols that are mounted, less those seen before. -/
theorem wp_collectSpecs (node : String) (mounts : List Mount) (h : Host) (seen : List String) :
    wp hostAct (collectSpecs node devs mounts seen) h fun _ specs h' =>
      Same h h' ∧ (specs.map (·.volumeID)).Nodup ∧
        ∀ id, id ∈ specs.map (·.volumeID) ↔ id ∉ seen ∧
          id ∈ (zvolMounts devs h.link mounts).map fun p => ExternalID.toString ⟨node, p.2⟩ := by
  induction mounts generalizing h seen with
  | nil => exact ⟨.refl h, .nil, by simp [zvolMounts]⟩
  | cons m rest ih =>
    rw [collectSpecs]
    refine wp_bind.2 (wp_mono (wp_sourceDataset h m.source) ?_)
    rintro tr b h' ⟨⟨t, rfl⟩, rfl⟩
    cases hz : zvolOf devs h.link m.source with
    | none =>
      refine wp_mono (ih _ seen) fun tr' specs h'' hp => ⟨.trans ⟨t, rfl⟩ hp.1, hp.2.1, ?_⟩
      intro id
      rw [hp.2.2, zvolMounts, zvolMounts, List.filterMap_cons, hz]
      rfl
    | some ds =>
      have hcons : zvolMounts devs h.link (m :: rest) =
          (m.source, ds) :: zvolMounts devs h.link rest := by
        rw [zvolMounts, List.filterMap_cons, hz]
        rfl
      rw [hcons]
      dsimp only
      split
      · next hdup =>
        refine wp_mono (ih _ seen) fun tr' specs h'' hp => ⟨.trans ⟨t, rfl⟩ hp.1, hp.2.1, ?_⟩
        intro id
        rw [hp.2.2, List.map_cons, List.mem_cons]
        constructor
        · rintro ⟨hns, hin⟩
          exact ⟨hns, .inr hin⟩
        · rintro ⟨hns, rfl | hin⟩
          · exact absurd hdup hns
          · exact ⟨hns, hin⟩
      · next hnew =>
        refine wp_bind.2 (wp_mono (ih _ _) fun tr' specs h'' hp => ⟨.trans ⟨t, rfl⟩ hp.1, ?_, ?_⟩)
        · rw [List.map_cons, List.nodup_cons]
          refine ⟨fun hin => ?_, hp.2.1⟩
          exact ((hp.2.2 _).1 hin).1 (.head _)
        · intro id
          rw [List.map_cons, List.mem_cons, hp.2.2, List.map_cons, List.mem_cons, List.mem_cons]
          constructor
          · rintro (rfl | ⟨hns, hin⟩)
            · exact ⟨hnew, .inl rfl⟩
            · exact ⟨fun hs => hns (.inr hs), .inr hin⟩
          · rintro ⟨hns, heq | hin⟩
            · exact .inl heq
            · by_cases heq : id = ExternalID.toString ⟨node, ds⟩
              · exact .inl heq
              · refine .inr ⟨?_, hin⟩
                rintro (h | h)
                · exact heq h
                · exact hns h

end

end NomadCsi.Local

namespace NomadCsi.Qnap

open Lib Lib.Go Driver Node

/-! ### The sessions of a node -/

def ownSessions (n : NodePlugin) (sessions : List Session) : List Session :=
  sessions.filter fun s => portalOwned s.portal (ourPortals n.cfg)

def stagedCount (n : NodePlugin) : Tool Nat := do
  let sessions ← listSessions
  let seen := (ownSessions n sessions).foldl
    (fun (seen : List String) s => seen.insert (s.iqn ++ "/" ++ itoa s.lun)) []
  return seen.length

structure StagedSession where
  iqn : String
  lun : Int
  /-- Empty for a block volume. -/
  stagingPath : String
  accessType : Stats.AccessType
deriving DecidableEq, Repr

/-- The devices noted for a target and LUN, and the pairs in the order they came up. -/
abbrev Noted := Map (String × Int) (List String) × List (String × Int)

def noteStaged (noted : Noted) (s : Session) : Noted :=
  let k := (s.iqn, s.lun)
  let order := if k ∈ noted.1 then noted.2 else noted.2 ++ [k]
  if s.device ≠ "" then (noted.1.insert k ((noted.1.lookup k).getD [] ++ [s.device]), order)
  else if k ∈ noted.1 then (noted.1, order)
  else (noted.1.insert k [], order)

/-- A device and the map it is a path of, if multipathd names one. -/
def memberCandidates (n : NodePlugin) (dev : String) : Prog Cmd Cmd.Reply (List String) := do
  if n.useMultipath then
    match ← (mapWWID dev).run with
    | .ok wwid => return if wwid ≠ "" then [dev, mapperPath wwid] else [dev]
    | .error _ => return [dev]
  else return [dev]

/-- The first mount whose source is the candidate, as it is or resolved. -/
def mountFrom (cand : String) : List Mount → Prog Cmd Cmd.Reply (Option String)
  | [] => return none
  | m :: rest => do
    if m.source = cand then return some m.target
    else
      let real ← Prog.lift (Cmd.evalSymlinks cand)
      if real = some m.source then return some m.target else mountFrom cand rest

def mountFromAny (mounts : List Mount) : List String → Prog Cmd Cmd.Reply (Option String)
  | [] => return none
  | cand :: rest => do
    match ← mountFrom cand mounts with
    | some target => return some target
    | none => mountFromAny mounts rest

/-- Where one of the devices is mounted. -/
def stagingMountFor (n : NodePlugin) (mounts : List Mount) :
    List String → Prog Cmd Cmd.Reply (Option String)
  | [] => return none
  | dev :: rest => do
    if dev = "" then stagingMountFor n mounts rest
    else
      let candidates ← memberCandidates n dev
      match ← mountFromAny mounts candidates with
      | some target => return some target
      | none => stagingMountFor n mounts rest

/-- The entry of a target and LUN: a mount, or a block volume. -/
def stagedEntry (k : String × Int) : Option String → StagedSession
  | some path => ⟨k.1, k.2, path, .mount⟩
  | none => ⟨k.1, k.2, "", .block⟩

def collectStaged (n : NodePlugin) (mounts : List Mount) (devs : Map (String × Int) (List String)) :
    List (String × Int) → Prog Cmd Cmd.Reply (List StagedSession)
  | [] => return []
  | k :: rest => do
    let path ← stagingMountFor n mounts ((devs.lookup k).getD [])
    let out ← collectStaged n mounts devs rest
    return stagedEntry k path :: out

def stagedSessions (n : NodePlugin) : Tool (List StagedSession) := do
  let sessions ← listSessions
  let mounts ← listMounts
  let noted := (ownSessions n sessions).foldl noteStaged (∅, [])
  ExceptT.lift (collectStaged n mounts noted.1 noted.2)

/-! ### What they return -/

def unitOf (s : Session) : String × Int := (s.iqn, s.lun)

theorem noteStaged_keys (noted : Noted) (s : Session) (k : String × Int) :
    k ∈ (noteStaged noted s).1 ↔ k = unitOf s ∨ k ∈ noted.1 := by
  unfold noteStaged unitOf
  dsimp only
  split
  · exact AList.mem_insert _
  · split
    · next hin =>
      constructor
      · exact .inr
      · rintro (rfl | hk)
        · exact hin
        · exact hk
    · exact AList.mem_insert _

theorem noteStaged_order (noted : Noted) (s : Session) :
    (noteStaged noted s).2 = if unitOf s ∈ noted.1 then noted.2 else noted.2 ++ [unitOf s] := by
  unfold noteStaged unitOf
  dsimp only
  split <;> [rfl; (split <;> rfl)]

def Noted.Ordered (noted : Noted) : Prop := noted.2.Nodup ∧ ∀ k, k ∈ noted.2 ↔ k ∈ noted.1

theorem Noted.Ordered.note {noted : Noted} (h : noted.Ordered) (s : Session) :
    (noteStaged noted s).Ordered := by
  obtain ⟨hnodup, hmem⟩ := h
  unfold Noted.Ordered
  simp only [noteStaged_keys, noteStaged_order]
  split
  · next hin =>
    refine ⟨hnodup, fun k => ?_⟩
    rw [hmem]
    constructor
    · exact .inr
    · rintro (rfl | hk)
      · exact hin
      · exact hk
  · next hnew =>
    refine ⟨?_, fun k => ?_⟩
    · rw [List.nodup_append]
      refine ⟨hnodup, List.nodup_singleton _, fun a ha b hb => ?_⟩
      rw [List.mem_singleton.1 hb]
      rintro rfl
      exact hnew ((hmem _).1 ha)
    · rw [List.mem_append, hmem, List.mem_singleton, or_comm]

theorem Noted.Ordered.foldl {noted : Noted} (h : noted.Ordered) (sessions : List Session) :
    (sessions.foldl noteStaged noted).Ordered ∧
      ∀ k, k ∈ (sessions.foldl noteStaged noted).1 ↔ k ∈ noted.1 ∨ k ∈ sessions.map unitOf := by
  induction sessions generalizing noted with
  | nil => exact ⟨h, by simp⟩
  | cons s rest ih =>
    obtain ⟨hord, hmem⟩ := ih (h.note s)
    refine ⟨hord, fun k => ?_⟩
    rw [List.foldl_cons, hmem, noteStaged_keys, List.map_cons, List.mem_cons, or_assoc,
      or_left_comm]

theorem wp_collectStaged (n : NodePlugin) (mounts : List Mount)
    (devs : Map (String × Int) (List String)) (order : List (String × Int)) (h : Host) :
    wp hostAct (collectStaged n mounts devs order) h fun _ out _ =>
      out.map (fun e => (e.iqn, e.lun)) = order := by
  induction order generalizing h with
  | nil => exact rfl
  | cons k rest ih =>
    refine wp_bind.2 (wp_mono (wp_of_calls (Prog.calls_true _) h) fun tr path h' _ => ?_)
    refine wp_bind.2 (wp_mono (ih h') fun tr' out h'' hout => ?_)
    change List.map _ (_ :: _) = _
    rw [List.map_cons, hout]
    cases path with
    | none => rfl
    | some path => rfl

theorem unit_text_inj {s s' : Session} (h : s.iqn ++ "/" ++ itoa s.lun = s'.iqn ++ "/" ++ itoa s'.lun) :
    unitOf s = unitOf s' := by
  obtain ⟨hiqn, hlun⟩ := slash_inj_right (slash_notMem_itoa _) (slash_notMem_itoa _) h
  exact Prod.ext hiqn (itoa_inj hlun)

end NomadCsi.Qnap

namespace NomadCsi.Node

open Lib Lib.Go Driver

/-- The session list and the mount table were read without a failure. -/
def TablesRead (tr : List HostEv) : Prop :=
  ∀ e ∈ tr, e.call = .sessionList ∨ e.call = .findmnt → e.choice.fail = none

instance (tr : List HostEv) : Decidable (TablesRead tr) :=
  inferInstanceAs (Decidable (∀ e ∈ tr, _))

/-- If both tables could be read, the operation returns something that satisfies `P`. -/
def Returns {β : Type} (P : β → Prop) (tr : List HostEv) (r : Except String β) : Prop :=
  TablesRead tr → ∃ b, r = .ok b ∧ P b

theorem wp_read {α β : Type} {c : Cmd} {a : α} {h : Host} {x : Tool α} {f : α → Tool β}
    {P : β → Prop} (hx : wp hostAct x.run h (Reads c a h))
    (hc : c = .sessionList ∨ c = .findmnt)
    (hf : ∀ h', Same h h' → wp hostAct (f a).run h' fun tr r _ => Returns P tr r) :
    wp hostAct (x >>= f).run h fun tr r _ => Returns P tr r := by
  refine wp_run_bind.2 (wp_mono hx ?_)
  rintro tr res h' ⟨hsame, e, rfl, rfl, hok⟩
  by_cases hfail : e.choice.fail = none
  · rw [hok hfail]
    refine wp_mono (hf h' hsame) fun tr' r h'' hr hread => hr fun e' he' => ?_
    exact hread e' (.tail _ he')
  · -- nothing is said of a run that could not read the table
    cases res with
    | error msg => exact fun hread => absurd (hread e (.head _) hc) hfail
    | ok b => exact wp_iff.2 fun _ _ _ _ hread => absurd (hread e (.head _) hc) hfail

theorem wp_local_stagedCount (devs : Map String String) (h : Host) :
    wp hostAct (Local.stagedCount devs).run h fun tr r _ => Returns
      (· = ((Local.zvolMounts devs h.link h.mounts).map (·.1)).dedup.length) tr r := by
  refine wp_read (reads_listMounts h) (.inr rfl) ?_
  rintro h' ⟨t, rfl⟩
  refine wp_run_bind.2 (wp_run_lift.2 (wp_mono (Local.wp_countSources _ _ [] .nil) ?_))
  rintro tr seen h'' ⟨-, hnodup, hmem⟩
  exact fun _ => ⟨_, rfl, length_eq_dedup hnodup
    fun x => (hmem x).trans (or_iff_right List.not_mem_nil)⟩

theorem wp_local_stagedVolumes (n : Local.NodePlugin) (devs : Map String String) (h : Host) :
    wp hostAct (Local.stagedVolumes n devs).run h fun tr r _ => Returns
      (fun specs => specs.length = ((Local.zvolMounts devs h.link h.mounts).map
        fun p => Local.ExternalID.toString ⟨n.nodeID, p.2⟩).dedup.length) tr r := by
  refine wp_read (reads_listMounts h) (.inr rfl) ?_
  rintro h' ⟨t, rfl⟩
  refine wp_run_lift.2 (wp_mono (Local.wp_collectSpecs n.nodeID _ _ []) ?_)
  rintro tr specs h'' ⟨-, hnodup, hmem⟩
  have hlen := length_eq_dedup hnodup fun x => (hmem x).trans (and_iff_right List.not_mem_nil)
  rw [List.length_map] at hlen
  exact fun _ => ⟨_, rfl, hlen⟩

theorem wp_qnap_stagedCount (n : Qnap.NodePlugin) (h : Host) :
    wp hostAct (Qnap.stagedCount n).run h fun tr r _ => Returns
      (· = ((Qnap.ownSessions n h.sessions).map
        fun s => s.iqn ++ "/" ++ itoa s.lun).dedup.length) tr r := by
  refine wp_read (wp_mono (wp_listSessions h) fun _ _ _ => Listed.reads) (.inl rfl) fun h' _ => ?_
  obtain ⟨hnodup, hmem⟩ := foldl_insert_nodup (fun s : Session => s.iqn ++ "/" ++ itoa s.lun)
    (Qnap.ownSessions n h.sessions) List.nodup_nil
  exact fun _ => ⟨_, rfl, length_eq_dedup hnodup
    fun x => (hmem x).trans (or_iff_right List.not_mem_nil)⟩

/-- The sessions are listed whatever mounts were shown. -/
theorem wp_qnap_stagedSessions (n : Qnap.NodePlugin) (h : Host) :
    wp hostAct (Qnap.stagedSessions n).run h fun tr r _ =>
      (TablesRead tr → ∃ entries, r = .ok entries) ∧ ∀ entries, r = .ok entries →
        (entries.map fun e => (e.iqn, e.lun)).Nodup ∧
        ∀ u, u ∈ entries.map (fun e => (e.iqn, e.lun)) ↔
          u ∈ (Qnap.ownSessions n h.sessions).map Qnap.unitOf := by
  refine wp_run_bind.2 (wp_mono (wp_listSessions h) ?_)
  rintro tr res h1 ⟨⟨t, rfl⟩, e, rfl, hc, ⟨-, rfl⟩ | ⟨hf, msg, rfl⟩⟩
  · refine wp_run_bind.2 (wp_mono (wp_listMounts _) ?_)
    rintro tr res h2 ⟨-, e', rfl, hc', rfl | ⟨hf, msg, rfl⟩⟩
    · have hempty : Qnap.Noted.Ordered (∅, []) := ⟨.nil, by simp⟩
      obtain ⟨⟨hnodup, hmem⟩, hkeys⟩ := hempty.foldl (Qnap.ownSessions n h.sessions)
      refine wp_run_lift.2 (wp_mono (Qnap.wp_collectStaged n _ _ _ h2) ?_)
      rintro tr entries h3 hout
      rw [← hout] at hnodup
      refine ⟨fun _ => ⟨entries, rfl⟩, ?_⟩
      rintro _ ⟨⟩
      refine ⟨hnodup, fun u => ?_⟩
      rw [hout]
      exact ((hmem u).trans (hkeys u)).trans (or_iff_right (AList.notMem_empty u))
    · exact ⟨fun hread => absurd (hread e' (.tail _ (.head _)) (.inr hc')) hf, fun _ h => by cases h⟩
  · exact ⟨fun hread => absurd (hread e (.head _) (.inl hc)) hf, fun _ h => by cases h⟩

/-- No zvol of the plugin is mounted from two different sources. -/
def OneSource (devs : Map String String) (h : Host) : Prop :=
  ∀ m ∈ h.mounts, ∀ m' ∈ h.mounts, ∀ ds, Local.zvolOf devs h.link m.source = some ds →
    Local.zvolOf devs h.link m'.source = some ds → m.source = m'.source

theorem local_counts_iff (n : Local.NodePlugin) (devs : Map String String) (h : Host) :
    ((Local.zvolMounts devs h.link h.mounts).map (·.1)).dedup.length =
        ((Local.zvolMounts devs h.link h.mounts).map
          fun p => Local.ExternalID.toString ⟨n.nodeID, p.2⟩).dedup.length ↔
      OneSource devs h := by
  rw [dedup_length_eq_iff]
  · constructor
    · intro hone m hm m' hm' ds hz hz'
      exact hone (m.source, ds) (Local.mem_zvolMounts.2 ⟨⟨m, hm, rfl⟩, hz⟩) (m'.source, ds)
        (Local.mem_zvolMounts.2 ⟨⟨m', hm', rfl⟩, hz'⟩) rfl
    · rintro hone ⟨a, ds⟩ ha ⟨b, ds'⟩ hb hid
      obtain ⟨⟨m, hm, rfl⟩, hz⟩ := Local.mem_zvolMounts.1 ha
      obtain ⟨⟨m', hm', rfl⟩, hz'⟩ := Local.mem_zvolMounts.1 hb
      obtain rfl : ds = ds' := (String.append_right_inj _).1 hid
      exact hone m hm m' hm' ds hz hz'
  · rintro ⟨a, ds⟩ ha ⟨b, ds'⟩ hb rfl
    have hz := (Local.mem_zvolMounts.1 ha).2
    have hz' := (Local.mem_zvolMounts.1 hb).2
    obtain rfl : ds = ds' := Option.some.inj (hz.symm.trans hz')
    rfl

theorem qnap_counts_eq (n : Qnap.NodePlugin) (sessions : List Session) :
    ((Qnap.ownSessions n sessions).map fun s => s.iqn ++ "/" ++ itoa s.lun).dedup.length =
      ((Qnap.ownSessions n sessions).map Qnap.unitOf).dedup.length := by
  refine (dedup_length_eq_iff fun s _ s' _ => Qnap.unit_text_inj).2 fun s _ s' _ heq => ?_
  obtain ⟨hiqn, hlun⟩ := Prod.mk.inj heq
  rw [hiqn, hlun]

/-- The gauge and the enumeration agree on a QNAP node, and on a local node just if no zvol is
mounted from two different sources. -/
theorem staged_agree_iff (n : Local.NodePlugin) (devs : Map String String) (q : Qnap.NodePlugin)
    (h : Host) :
    (∀ tr r h1 tr' r' h2, Runs hostAct (Local.stagedCount devs).run h tr r h1 → TablesRead tr →
      Runs hostAct (Local.stagedVolumes n devs).run h tr' r' h2 → TablesRead tr' →
      ∃ count specs, r = .ok count ∧ r' = .ok specs ∧
        (count = specs.length ↔ OneSource devs h)) ∧
    ∀ tr r h1 tr' r' h2, Runs hostAct (Qnap.stagedCount q).run h tr r h1 → TablesRead tr →
      Runs hostAct (Qnap.stagedSessions q).run h tr' r' h2 → TablesRead tr' →
      ∃ count entries, r = .ok count ∧ r' = .ok entries ∧ count = entries.length := by
  constructor
  · intro tr r h1 tr' r' h2 hr hread hr' hread'
    obtain ⟨count, rfl, hcount⟩ := wp_iff.1 (wp_local_stagedCount devs h) _ _ _ hr hread
    obtain ⟨specs, rfl, hspecs⟩ := wp_iff.1 (wp_local_stagedVolumes n devs h) _ _ _ hr' hread'
    refine ⟨count, specs, rfl, rfl, ?_⟩
    rw [hcount, hspecs]
    exact local_counts_iff n devs h
  · intro tr r h1 tr' r' h2 hr hread hr' hread'
    obtain ⟨count, rfl, hcount⟩ := wp_iff.1 (wp_qnap_stagedCount q h) _ _ _ hr hread
    obtain ⟨hok', hunits⟩ := wp_iff.1 (wp_qnap_stagedSessions q h) _ _ _ hr'
    obtain ⟨entries, rfl⟩ := hok' hread'
    obtain ⟨hnodup, hmem⟩ := hunits entries rfl
    refine ⟨count, entries, rfl, rfl, ?_⟩
    have hlen := length_eq_dedup hnodup hmem
    rw [List.length_map] at hlen
    rw [hcount, hlen]
    exact qnap_counts_eq q h.sessions

def onePool : Local.Config := ⟨[{ name := "tank", parentDataset := "csi" }], "tank", "16k", 0⟩

def oneEntry (dir : String) : Option (List String) :=
  if dir = "/dev/zvol/tank/csi" then some ["a"] else none

/-- A host with the device of that zvol, these mounts, and sessions to two targets. -/
def linkedHost (mounts : List Mount) : Host :=
  { Host.of [⟨"10.0.0.1:3260", "iqn.a", [(0, "sda")]⟩, ⟨"10.0.0.1:3260", "iqn.a/0", [(0, "sdb")]⟩] []
      mounts 0 with
    link := fun p => if p = "/dev/zvol/tank/csi/a" then some "/dev/zd0" else none }

def zvolDevices : Map String String :=
  Local.osZvolDatasets onePool "" oneEntry (linkedHost []).link

/-- One zvol, staged and bound for a container, from the same source. -/
def boundOnce : Host := linkedHost [⟨"/staging/a", "/dev/zd0"⟩, ⟨"/alloc/a", "/dev/zd0"⟩]

theorem staged_agree_bound_once :
    OneSource zvolDevices boundOnce ∧
    (∃ tr h1 tr' specs h2,
      Runs hostAct (Local.stagedCount zvolDevices).run boundOnce tr (.ok 1) h1 ∧
      Runs hostAct (Local.stagedVolumes ⟨"node1", true⟩ zvolDevices).run boundOnce tr' (.ok specs) h2 ∧
      1 = specs.length) ∧
    ∃ tr h1 tr' entries h2, Runs hostAct (Qnap.stagedCount .plain).run boundOnce tr (.ok 2) h1 ∧
      Runs hostAct (Qnap.stagedSessions .plain).run boundOnce tr' (.ok entries) h2 ∧
      2 = entries.length := by
  have hone : OneSource zvolDevices boundOnce := by
    intro m hm m' hm' ds _ _
    have hall : ∀ m ∈ boundOnce.mounts, m.source = "/dev/zd0" := by decide
    rw [hall m hm, hall m' hm']
  obtain ⟨hlocal, hqnap⟩ := staged_agree_iff ⟨"node1", true⟩ zvolDevices .plain boundOnce
  obtain ⟨tr, r, h1, hr, hread, rfl⟩ := runs_of_exec hostAct (Local.stagedCount zvolDevices).run
    boundOnce [{}] (fun r => TablesRead r.1 ∧ r.2.1 = .ok 1) (by decide)
  obtain ⟨tr', r', h2, hr', hread'⟩ := runs_of_exec hostAct
    (Local.stagedVolumes ⟨"node1", true⟩ zvolDevices).run boundOnce [{}] (fun r => TablesRead r.1)
    (by decide)
  obtain ⟨count, specs, hcount, rfl, hiff⟩ := hlocal _ _ _ _ _ _ hr hread hr' hread'
  obtain rfl := Except.ok.inj hcount
  refine ⟨hone, ⟨tr, h1, tr', specs, h2, hr, hr', hiff.2 hone⟩, ?_⟩
  obtain ⟨tr, r, h1, hr, hread, rfl⟩ := runs_of_exec hostAct (Qnap.stagedCount .plain).run
    boundOnce [{}] (fun r => TablesRead r.1 ∧ r.2.1 = .ok 2) (by decide)
  obtain ⟨tr', r', h2, hr', hread'⟩ := runs_of_exec hostAct (Qnap.stagedSessions .plain).run boundOnce
    (List.replicate 20 {}) (fun r => TablesRead r.1) (by decide)
  obtain ⟨count, entries, hcount, rfl, heq⟩ := hqnap _ _ _ _ _ _ hr hread hr' hread'
  obtain rfl := Except.ok.inj hcount
  exact ⟨tr, h1, tr', entries, h2, hr, hr', heq⟩

/-- One zvol under its symlink and under its device counts as two volumes, but is one. -/
theorem symlink_counted_apart : ∃ h tr h1 tr' specs h2,
    Runs hostAct (Local.stagedCount (Local.osZvolDatasets onePool "" oneEntry h.link)).run h tr
      (.ok 2) h1 ∧ TablesRead tr ∧
    Runs hostAct (Local.stagedVolumes ⟨"node1", true⟩
      (Local.osZvolDatasets onePool "" oneEntry h.link)).run h tr' (.ok specs) h2 ∧ TablesRead tr' ∧
    specs.length = 1 := by
  let h := linkedHost [⟨"/staging/a", "/dev/zvol/tank/csi/a"⟩, ⟨"/alloc/a", "/dev/zd0"⟩]
  obtain ⟨tr, r, h1, hr, hread, rfl⟩ := runs_of_exec hostAct (Local.stagedCount zvolDevices).run h
    [{}] (fun r => TablesRead r.1 ∧ r.2.1 = .ok 2) (by decide)
  obtain ⟨tr', r', h2, hr', hread', rfl⟩ := runs_of_exec hostAct
    (Local.stagedVolumes ⟨"node1", true⟩ zvolDevices).run h [{}]
    (fun r => TablesRead r.1 ∧
      r.2.1 = .ok [⟨"local/v1/node1/tank/csi/a", "/staging/a", .mount⟩]) (by decide)
  exact ⟨h, tr, h1, tr', _, h2, hr, hread, hr', hread', rfl⟩

end NomadCsi.Node
