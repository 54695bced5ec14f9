import Mathlib.Data.List.Induction
import NomadCsi.Cluster.Resolver
import NomadCsi.Stats.Workers

/-!
# The aggregate of the controller

`qnap/stats_source.go`: a round asks every node of the roster for its readings and builds a
new aggregate from the answers; a round whose discovery fails leaves the aggregate alone. The
goroutines of a round share only the new map, which each of them fills under the lock: a round
is given by its replies in the order in which they are merged. The decoder of a reply is a
parameter.
-/

namespace NomadCsi.Qnap

open Lib Lib.Go Cluster Stats

/-! ### Rounds -/

/-- What the forward call to a node returned. -/
structure DumpReply where
  node : NodeInfo
  body : Except String String

/-- A round: the roster, if it was found, and one reply for each node of it. -/
structure Fanout where
  roster : Except String (List NodeInfo)
  replies : List DumpReply
  asked : ∀ nodes, roster = .ok nodes → (replies.map (·.node)).Perm nodes

abbrev Aggregate := Map String Entry

section

variable (decode : String → Option (List Entry))

/-- The readings a reply carries; none if the call failed or its body does not decode. -/
def DumpReply.items (r : DumpReply) : Option (List Entry) :=
  match r.body with
  | .error _ => none
  | .ok body => decode body

/-- The last writer wins. -/
def store (agg : Aggregate) (items : List Entry) : Aggregate :=
  items.foldl (fun agg it => agg.insert it.volumeID it) agg

def mergeReply (agg : Aggregate) (r : DumpReply) : Aggregate :=
  match r.items decode with
  | none => agg
  | some items => store agg items

def collectOnce (cache : Aggregate) (f : Fanout) : Aggregate :=
  match f.roster with
  | .error _ => cache
  | .ok _ => f.replies.foldl (mergeReply decode) ∅

def aggregate (rounds : List Fanout) : Aggregate := rounds.foldl (collectOnce decode) ∅

end

/-! ### Queries -/

structure PublicVolumeStats where
  id : String
  ns : String
  node : String
  accessType : AccessType
  reading : Reading
deriving DecidableEq, Repr

def toPublic (cs : Entry) (nomadID ns : String) : PublicVolumeStats :=
  ⟨nomadID, ns, cs.node, cs.accessType, cs.reading⟩

inductive StatsError where
  | mapper (text : String)
  | notMounted (text : String)
deriving DecidableEq, Repr

def notMounted (nomadID : String) : StatsError :=
  .notMounted ("volume is not mounted on any node: volume " ++ quote nomadID ++
    " is not mounted on any node — usage stats appear once a workload stages it")

/-- The reading of one volume. `mapped` is what the mapper says of the Nomad id. -/
def stats (mapped : Except String (Option String)) (cache : Aggregate) (nomadID ns : String) :
    Except StatsError (Option PublicVolumeStats) :=
  match mapped with
  | .error e => .error (.mapper e)
  | .ok none => .ok none
  | .ok (some extID) =>
    match cache.lookup extID with
    | none => .error (notMounted nomadID)
    | some cs => .ok (some (toPublic cs nomadID ns))

/-! ### Dumps -/

structure Dump where
  node : String
  items : List Entry

def Dump.Carries (d : Dump) (id : String) : Prop := ∃ it ∈ d.items, it.volumeID = id

section

variable (decode : String → Option (List Entry))

def DumpReply.dump (r : DumpReply) : Option Dump :=
  (r.items decode).map fun items => ⟨r.node.node, items⟩

/-- The successful dumps of a round, in the order in which they were merged. -/
def Fanout.dumps (f : Fanout) : List Dump :=
  match f.roster with
  | .error _ => []
  | .ok _ => f.replies.filterMap (DumpReply.dump decode)

def dumps (rounds : List Fanout) : List Dump := rounds.flatMap (Fanout.dumps decode)

end

def lastFound (rounds : List Fanout) : Option (Fanout × List NodeInfo) :=
  rounds.reverse.findSome? fun f => f.roster.toOption.map fun nodes => (f, nodes)

/-- The last successful dump of a node, with those after it. -/
def LastDump (decode : String → Option (List Entry)) (rounds : List Fanout) (d : Dump)
    (later : List Dump) : Prop :=
  ∃ before, dumps decode rounds = before ++ d :: later ∧ ∀ d' ∈ later, d'.node ≠ d.node

/-- A reading of the last successful dump of a node of the roster, of a volume that no later dump
carries. -/
structure Awaited (decode : String → Option (List Entry)) (rounds : List Fanout) (d : Dump)
    (it : Entry) : Prop where
  rostered : ∃ f nodes, lastFound rounds = some (f, nodes) ∧ d.node ∈ nodes.map (·.node)
  last : ∃ later, LastDump decode rounds d later ∧ ∀ d' ∈ later, ¬ d'.Carries it.volumeID
  mem : it ∈ d.items

/-- Every such reading is in the aggregate, and a query for its volume finds one. -/
def Ages (decode : String → Option (List Entry)) (rounds : List Fanout) : Prop :=
  ∀ d it, Awaited decode rounds d it →
    (aggregate decode rounds).lookup it.volumeID = some it ∧
      ∀ nomadID ns, stats (.ok (some it.volumeID)) (aggregate decode rounds) nomadID ns ≠
        .error (notMounted nomadID)

/-- The node answered the last round that found a roster. -/
def AnsweredLast (decode : String → Option (List Entry)) (rounds : List Fanout) (node : String) :
    Prop :=
  ∃ f nodes, lastFound rounds = some (f, nodes) ∧ ∃ d ∈ f.dumps decode, d.node = node

/-! ### The aggregate is that of the last round -/

section

variable {decode : String → Option (List Entry)}

theorem store_store (agg : Aggregate) (items items' : List Entry) :
    store (store agg items) items' = store agg (items ++ items') :=
  (List.foldl_append ..).symm

theorem foldl_mergeReply (replies : List DumpReply) (agg : Aggregate) :
    replies.foldl (mergeReply decode) agg =
      store agg ((replies.filterMap (DumpReply.dump decode)).flatMap (·.items)) := by
  induction replies generalizing agg with
  | nil => rfl
  | cons r rest ih =>
    rw [List.foldl_cons, ih, List.filterMap_cons]
    unfold mergeReply DumpReply.dump
    cases r.items decode with
    | none => rfl
    | some items => exact store_store _ _ _

variable (decode) in
/-- What the rounds come to is what the last one that found a roster made. -/
theorem of_lastFound {rounds : List Fanout} {f : Fanout} {nodes : List NodeInfo}
    (h : lastFound rounds = some (f, nodes)) :
    ∃ earlier, dumps decode rounds = earlier ++ f.dumps decode ∧
      aggregate decode rounds = store ∅ ((f.dumps decode).flatMap (·.items)) := by
  induction rounds using List.reverseRecOn with
  | nil => cases h
  | append_singleton rounds g ih =>
    have hlast : lastFound (rounds ++ [g]) =
        (g.roster.toOption.map fun nodes => (g, nodes)).or (lastFound rounds) := by
      unfold lastFound
      rw [List.reverse_append, List.reverse_singleton, List.singleton_append, List.findSome?_cons]
      cases g.roster.toOption <;> rfl
    have hdumps : dumps decode (rounds ++ [g]) = dumps decode rounds ++ g.dumps decode := by
      simp [dumps]
    have hagg : aggregate decode (rounds ++ [g]) = collectOnce decode (aggregate decode rounds) g := by
      simp [aggregate]
    rw [hlast] at h
    rw [hdumps, hagg]
    cases hr : g.roster with
    | ok nodes' =>
      rw [hr] at h
      cases h
      refine ⟨dumps decode rounds, rfl, ?_⟩
      rw [collectOnce, hr, Fanout.dumps, hr]
      exact foldl_mergeReply _ _
    | error e =>
      rw [hr] at h
      have hnone : g.dumps decode = [] := by rw [Fanout.dumps, hr]
      have hcollect : ∀ agg, collectOnce decode agg g = agg := by
        intro agg
        rw [collectOnce, hr]
      rw [hnone, List.append_nil, hcollect]
      exact ih h

/-! ### When the readings are kept -/

theorem lookup_store_append {agg : Aggregate} {l l' : List Entry} {it : Entry}
    (h : ∀ x ∈ l', x.volumeID ≠ it.volumeID) :
    (store agg (l ++ it :: l')).lookup it.volumeID = some it := by
  rw [← store_store]
  change (store ((store agg l).insert it.volumeID it) l').lookup _ = _
  generalize hm : (store agg l).insert it.volumeID it = m
  have hin : m.lookup it.volumeID = some it := hm ▸ AList.lookup_insert _
  clear hm
  induction l' generalizing m with
  | nil => exact hin
  | cons x rest ih =>
    refine ih (fun y hy => h y (.tail _ hy)) (m.insert x.volumeID x) ?_
    rw [AList.lookup_insert_ne (h x (.head _)).symm]
    exact hin

theorem exists_last {l : List Entry} {id : String} (h : ∃ it ∈ l, it.volumeID = id) :
    ∃ pre it post, l = pre ++ it :: post ∧ it.volumeID = id ∧ ∀ x ∈ post, x.volumeID ≠ id := by
  induction l with
  | nil => simp at h
  | cons a rest ih =>
    by_cases hr : ∃ it ∈ rest, it.volumeID = id
    · obtain ⟨pre, it, post, rfl, hid, hpost⟩ := ih hr
      exact ⟨a :: pre, it, post, rfl, hid, hpost⟩
    · obtain ⟨it, hit, hid⟩ := h
      rcases List.mem_cons.1 hit with rfl | hit
      · exact ⟨[], it, rest, rfl, hid, fun x hx hxid => hr ⟨x, hx, hxid⟩⟩
      · exact absurd ⟨it, hit, hid⟩ hr

theorem split_last {earlier now before later : List Dump} {d : Dump}
    (heq : earlier ++ now = before ++ d :: later) (hlater : ∀ d' ∈ later, d'.node ≠ d.node) :
    (∃ before', now = before' ++ d :: later) ∨
      (∀ d' ∈ now, d' ∈ later) ∧ ∀ d' ∈ now, d'.node ≠ d.node := by
  rcases List.append_eq_append_iff.1 heq with ⟨mid, -, hnow⟩ | ⟨mid, -, hd⟩
  · exact .inl ⟨mid, hnow⟩
  · cases mid with
    | nil => exact .inl ⟨[], hd.symm⟩
    | cons x mid =>
      obtain ⟨rfl, hl⟩ := List.cons.inj hd
      have hsub : ∀ d' ∈ now, d' ∈ later := by
        intro d' hd'
        rw [hl]
        exact List.mem_append_right _ hd'
      exact .inr ⟨hsub, fun d' hd' => hlater d' (hsub d' hd')⟩

/-- The readings of silent nodes are kept just if there are none to keep: every node of the roster
whose last dump has a reading of its own answered the last round, with one reading of the
volume. -/
theorem ages_iff (decode : String → Option (List Entry)) (rounds : List Fanout) :
    Ages decode rounds ↔ ∀ d it, Awaited decode rounds d it →
      AnsweredLast decode rounds d.node ∧
        ∀ it' ∈ d.items, it'.volumeID = it.volumeID → it' = it := by
  constructor
  · intro hages d it hw
    have hlook := (hages d it hw).1
    obtain ⟨f, nodes, hf, -⟩ := hw.rostered
    obtain ⟨later, ⟨before, hdumps, hother⟩, hlater⟩ := hw.last
    refine ⟨⟨f, nodes, hf, ?_⟩, fun it' hit' hid => ?_⟩
    · obtain ⟨earlier, hd, hagg⟩ := of_lastFound decode hf
      rw [hd] at hdumps
      rcases split_last hdumps hother with ⟨before', hnow⟩ | ⟨hsub, -⟩
      · exact ⟨d, by simp [hnow], rfl⟩
      · -- all dumps of the round come later, so the reading found is one of theirs
        rw [hagg] at hlook
        have hmem := (mem_of_lookup_foldl hlook).1
        obtain ⟨d', hd', hit⟩ := List.mem_flatMap.1 hmem
        exact absurd ⟨it, hit, rfl⟩ (hlater d' (hsub d' hd'))
    · have hw' : Awaited decode rounds d it' := by
        refine ⟨hw.rostered, ⟨later, ⟨before, hdumps, hother⟩, ?_⟩, hit'⟩
        rw [hid]
        exact hlater
      have hlook' := (hages d it' hw').1
      rw [hid] at hlook'
      exact Option.some.inj (hlook'.symm.trans hlook)
  · intro hcond d it hw
    obtain ⟨⟨f, nodes, hf, d', hd', hnode⟩, hone⟩ := hcond d it hw
    obtain ⟨later, ⟨before, hdumps, hother⟩, hlater⟩ := hw.last
    have hlook : (aggregate decode rounds).lookup it.volumeID = some it := by
      obtain ⟨earlier, hd, hagg⟩ := of_lastFound decode hf
      rw [hd] at hdumps
      rcases split_last hdumps hother with ⟨before', hnow⟩ | ⟨-, hne⟩
      · obtain ⟨pre, x, post, hitems, hid, hpost⟩ := exists_last ⟨it, hw.mem, rfl⟩
        obtain rfl := hone x (by simp [hitems]) hid
        rw [hagg, hnow, List.flatMap_append, List.flatMap_cons, hitems, List.append_assoc,
          ← List.append_assoc, List.cons_append]
        refine lookup_store_append fun y hy => ?_
        rcases List.mem_append.1 hy with hy | hy
        · exact hpost y hy
        · obtain ⟨e, he, hye⟩ := List.mem_flatMap.1 hy
          exact fun hyid => hlater e he ⟨y, hye, hyid⟩
      · exact absurd hnode (hne d' hd')
    refine ⟨hlook, fun nomadID ns => ?_⟩
    simp [stats, hlook]

end

def Fanout.of (replies : List DumpReply) : Fanout where
  roster := .ok (replies.map (·.node))
  replies := replies
  asked := by
    intro nodes h
    rw [Except.ok.inj h]

def peerA : NodeInfo := ⟨"a", "10.0.0.1:9612"⟩

def readingV : Entry := { volumeID := "v", node := "a", accessType := .mount }

/-- The JSON of a dump with one mounted volume, whose strings have no escapes. -/
def readDump (body : String) : Option (List Entry) :=
  match split body '"' with
  | ["[\x7b", "volume_id", ":", id, ",", "node", ":", node, ",", "access_type", ":", "mount", "\x7d]"] =>
    if '\\' ∈ body.toList then none else some [{ volumeID := id, node := node, accessType := .mount }]
  | _ => none

def dumpV : String :=
  "[\x7b\"volume_id\":\"v\",\"node\":\"a\",\"access_type\":\"mount\"\x7d]"

/-- The one node of the cluster answers a round with its one volume and misses the next. -/
theorem silent_node_vanishes :
    ¬ ∀ decode rounds, Ages decode rounds := by
  intro hall
  have hages := hall readDump
    [.of [⟨peerA, .ok dumpV⟩], .of [⟨peerA, .error "connection refused"⟩]]
  have hread : readDump dumpV = some [readingV] := by decide
  have hlast : LastDump readDump [.of [⟨peerA, .ok dumpV⟩], .of [⟨peerA, .error "connection refused"⟩]]
      ⟨"a", [readingV]⟩ [] := by
    refine ⟨[], ?_, by simp⟩
    simp [dumps, Fanout.dumps, Fanout.of, DumpReply.dump, DumpReply.items, hread, peerA]
  have hlook := (hages ⟨"a", [readingV]⟩ readingV ⟨⟨_, _, rfl, by decide⟩,
    ⟨[], hlast, by simp⟩, .head _⟩).1
  cases hlook

end NomadCsi.Qnap
