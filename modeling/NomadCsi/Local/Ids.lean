import NomadCsi.Lib.Segments
import NomadCsi.Local.Idempotent

/-!
# Local ids read back

What the parsers make of an id that was rendered (`parseExternalID_toString`,
`parseSnapshotID_toString`), and which ids the operations hand out. A dataset that ZFS
accepts is one the parsers accept unless it holds `..`; `sanitizeName` keeps the dots of a
CSI name.
-/

namespace NomadCsi.Local

open Lib Lib.Go Driver Zfs

/-! ### The codecs -/

/-- A node name that an id can carry. -/
def NodeName (node : String) : Prop := node ≠ "" ∧ '/' ∉ node.toList

variable {node : String}

theorem idParts_volume (hnode : NodeName node) (ds : String) :
    idParts (ExternalID.toString ⟨node, ds⟩) = some ("local", "v1", node, split ds '/') := by
  unfold idParts ExternalID.toString
  rw [split_slash, split_slash, split_of_notMem hnode.2,
    show split "local/v1" '/' = ["local", "v1"] by decide]
  cases hs : split ds '/' with
  | nil => exact absurd hs (split_ne_nil _ _)
  | cons p3 rest => rfl

variable {snap : String}

theorem idParts_snapshot (hnode : NodeName node) (hsnap : '/' ∉ snap.toList) (ds : String) :
    idParts (SnapshotID.toString ⟨node, ds, snap⟩) =
      some ("locals", "v1", node, split ds '/' ++ [snap]) := by
  unfold idParts SnapshotID.toString
  rw [split_slash, split_slash, split_slash, split_of_notMem hnode.2, split_of_notMem hsnap,
    show split "locals/v1" '/' = ["locals", "v1"] by decide]
  cases hs : split ds '/' with
  | nil => exact absurd hs (split_ne_nil _ _)
  | cons p3 rest => rfl

theorem parseExternalID_toString (hnode : NodeName node) (ds : String) :
    parseExternalID (ExternalID.toString ⟨node, ds⟩) =
      if validDataset ds then .ok ⟨node, ds⟩
      else .error (malformedVolumeID (ExternalID.toString ⟨node, ds⟩)) := by
  unfold parseExternalID
  rw [idParts_volume hnode ds]
  dsimp only
  rw [join_split]
  by_cases hvalid : validDataset ds = true
  · simp [hvalid, hnode.1]
  · simp [hvalid]

theorem parseSnapshotID_toString (hnode : NodeName node) (hsnap : '/' ∉ snap.toList) (ds : String) :
    parseSnapshotID (SnapshotID.toString ⟨node, ds, snap⟩) =
      if snap ≠ "" ∧ validDataset ds = true then .ok ⟨node, ds, snap⟩
      else .error (malformedSnapshotID (SnapshotID.toString ⟨node, ds, snap⟩)) := by
  unfold parseSnapshotID
  rw [idParts_snapshot hnode hsnap ds]
  dsimp only
  rw [List.dropLast_concat, List.getLast?_concat, Option.getD_some, join_split]
  by_cases hvalid : validDataset ds = true
  · by_cases hempty : snap = ""
    · simp [hempty]
    · simp [hvalid, hempty, hnode.1, split_ne_nil]
  · simp [hvalid]

theorem of_parseExternalID {id : String} {e : ExternalID} (h : parseExternalID id = .ok e) :
    NodeName e.node ∧ validDataset e.dataset = true ∧ (split id '/').head? = some "local" := by
  unfold parseExternalID idParts at h
  split at h
  · cases h
  · next p0 p1 node rest hparts =>
    split at hparts
    · next hsplit =>
      obtain ⟨rfl, rfl, rfl, rfl⟩ : _ = p0 ∧ _ = p1 ∧ _ = node ∧ _ = rest := by
        simpa using hparts
      split at h
      · cases h
      · next hcond =>
        obtain rfl := Except.ok.inj h
        simp only [not_or, not_not, Bool.not_eq_true] at hcond
        refine ⟨⟨hcond.2.2.1, ?_⟩, by simpa using hcond.2.2.2, ?_⟩
        · exact notMem_of_mem_split (s := id) (by rw [hsplit]; simp)
        · rw [hsplit, List.head?_cons, hcond.1]
    · cases hparts

theorem head_of_parseSnapshotID {id : String} {sid : SnapshotID}
    (h : parseSnapshotID id = .ok sid) : (split id '/').head? = some "locals" := by
  unfold parseSnapshotID idParts at h
  split at h
  · cases h
  · next p0 p1 node rest hparts =>
    split at hparts
    · next hsplit =>
      obtain ⟨rfl, rfl, rfl, rfl⟩ : _ = p0 ∧ _ = p1 ∧ _ = node ∧ _ = rest := by
        simpa using hparts
      dsimp only at h
      split at h
      · cases h
      · next hcond =>
        simp only [not_or, not_not] at hcond
        rw [hsplit, List.head?_cons, hcond.1]
    · cases hparts

theorem parsers_disjoint {id : String} {e : ExternalID} {sid : SnapshotID}
    (he : parseExternalID id = .ok e) (hs : parseSnapshotID id = .ok sid) : False := by
  have hhead := (of_parseExternalID he).2.2.symm.trans (head_of_parseSnapshotID hs)
  revert hhead
  decide

/-! ### Valid datasets -/

variable {ds : String}

theorem slashes_of_wellNamed (h : wellNamed ds = true) :
    hasPrefix ds "/" = false ∧ hasSuffix ds "/" = false ∧ contains ds "//" = false := by
  have hseg : ∀ x ∈ split ds '/', x ≠ "" := by
    intro x hx
    have hall := List.all_eq_true.1 (Bool.and_eq_true_iff.1 h).1 x hx
    simpa using hall
  have hno : ∀ {a b : List Char}, ds.toList = a ++ '/' :: b → [] ∉ a.splitOn '/' ++ b.splitOn '/' := by
    intro a b hab hmem
    apply hseg ""
    · unfold split
      rw [hab, List.splitOn_append_cons_self]
      exact List.mem_map.2 ⟨[], hmem, rfl⟩
    · rfl
  refine ⟨?_, ?_, ?_⟩
  · rw [Bool.eq_false_iff]
    intro hp
    obtain ⟨t, ht⟩ := hasPrefix_iff.1 hp
    exact hno (a := []) ht.symm (by simp)
  · rw [Bool.eq_false_iff]
    intro hp
    obtain ⟨t, ht⟩ := hasSuffix_iff.1 hp
    exact hno (b := []) ht.symm (by simp)
  · rw [show "//" = String.ofList ['/', '/'] by decide, contains_pair,
      List.isChain_iff_forall_rel_of_append_cons_cons]
    rintro x y a b hab ⟨rfl, rfl⟩
    apply hno hab
    simp [List.splitOn_cons_eq_if_modifyHead]

theorem at_of_wellNamed (h : wellNamed ds = true) : '@' ∉ ds.toList := by
  intro hmem
  cases List.all_eq_true.1 (Bool.and_eq_true_iff.1 h).2 '@' hmem

theorem notMem_sanitizeName {ch : Char} (hch : nameChar ch = false) (hdash : ch ≠ '-')
    (name : String) : ch ∉ (sanitizeName name).toList := by
  unfold sanitizeName
  rw [String.toList_ofList]
  intro h
  obtain ⟨x, -, hx⟩ := List.mem_map.1 (List.mem_of_mem_take h)
  split at hx
  · next hname =>
    rw [hx, hch] at hname
    cases hname
  · exact hdash hx.symm

theorem slash_notMem_sanitizeName (name : String) : '/' ∉ (sanitizeName name).toList :=
  notMem_sanitizeName (by decide) (by decide) name

theorem isSpace_of_nameChar {ch : Char} (h : nameChar ch = true) : isSpace ch = false := by
  unfold nameChar at h
  simp only [Bool.or_eq_true, Bool.and_eq_true, decide_eq_true_eq] at h
  have hrange : ∀ {lo hi : Char}, 33 ≤ lo.toNat → hi.toNat ≤ 126 → lo ≤ ch ∧ ch ≤ hi →
      isSpace ch = false :=
    fun hlo hhi h => isSpace_of_range (Nat.le_trans hlo h.1) (Nat.le_trans h.2 hhi)
  rcases h with (((((h | h) | h) | rfl) | rfl) | rfl) | rfl
  · exact hrange (by decide) (by decide) h
  · exact hrange (by decide) (by decide) h
  · exact hrange (by decide) (by decide) h
  all_goals decide

theorem solid_sanitizeName (name : String) : Solid (sanitizeName name).toList := by
  intro ch hch
  by_cases hname : nameChar ch = true
  · exact isSpace_of_nameChar hname
  · by_cases hdash : ch = '-'
    · rw [hdash]
      decide
    · exact absurd hch (notMem_sanitizeName (Bool.not_eq_true _ ▸ hname) hdash name)

/-! ### Ids that were handed out -/

theorem slash_of_snapNamed (h : snapNamed snap = true) : '/' ∉ snap.toList := by
  intro hmem
  cases List.all_eq_true.1 (Bool.and_eq_true_iff.1 h).2 '/' hmem

/-- Node names without slashes, valid parent datasets, and stores that ZFS filled. -/
structure WellFormed (c : Controller) (w : Cluster) : Prop where
  localNode : NodeName c.localNode
  roster : ∀ node ∈ w.roster, NodeName node
  parents : ∀ pool ∈ c.cfg.poolNames, validDataset (c.parentDatasetFor pool) = true
  named : ∀ node, (w.zfs node).Named

variable {s : Store} {α : Type}

section

variable {c : Controller} {w w' : Cluster} {tr : List ClusterEv}

theorem WellFormed.reached (h : WellFormed c w) (hn : node = c.localNode ∨ node ∈ w.roster) :
    NodeName node := by
  rcases hn with rfl | hn
  · exact h.localNode
  · exact h.roster node hn

theorem createVolume_params {req : CreateVolumeRequest} {v : Volume}
    (hrun : Runs clusterAct (createVolume c req).run w tr (.ok v) w') :
    ∃ vp size, resolveParams c.cfg req.parameters req.volumeCapabilities = .ok vp ∧
      roundUpToBlock req.capacityRange vp.volblocksize = .ok size := by
  unfold createVolume at hrun
  cases hvp : resolveParams c.cfg req.parameters req.volumeCapabilities with
  | error e =>
    rw [hvp] at hrun
    cases (runs_ret.1 hrun).2.1
  | ok vp =>
    rw [hvp] at hrun
    cases hsize : roundUpToBlock req.capacityRange vp.volblocksize with
    | error e =>
      change Runs clusterAct (decided (roundUpToBlock req.capacityRange vp.volblocksize) >>= _).run
        w tr (.ok v) w' at hrun
      rw [hsize] at hrun
      cases (runs_ret.1 hrun).2.1
    | ok size => exact ⟨vp, size, rfl, hsize⟩

theorem slash_of_under {parent : String} (hslash : '/' ∈ parent.toList)
    (h : Store.under parent ds = true) : '/' ∈ ds.toList := by
  unfold Store.under at h
  rcases Bool.or_eq_true_iff.1 h with h | h
  · rw [of_decide_eq_true h]
    exact hslash
  · obtain ⟨t, ht⟩ := hasPrefix_iff.1 h
    rw [← ht]
    simp

end

/-! ### Two nodes -/

end NomadCsi.Local
