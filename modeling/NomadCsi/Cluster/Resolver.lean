import NomadCsi.Lib.Fetched

/-!
# The peer resolver

`cluster/nomad_resolver.go`: the peers of a node, from Nomad's list of nodes, through a
cache (`Lib.Fetched`, with one key). The task API is the environment: any reply, at any time.
-/

namespace NomadCsi.Cluster

open Lib Lib.Go Lib.Fetched

/-- The fields of a list entry that are read. -/
structure NodeStub where
  name : String
  address : String
  status : String
  datacenter : String
deriving DecidableEq, Repr

structure NodeInfo where
  node : String
  addr : String
deriving DecidableEq, Repr

/-- The settings; an empty datacenter means any. -/
structure NomadResolver where
  datacenter : String
  forwardPort : Int
  ttl : Int

namespace NomadResolver

/-- Same datacenter, ready, with an address. -/
def usable (r : NomadResolver) (s : NodeStub) : Bool :=
  (r.datacenter = "" || s.datacenter = r.datacenter) && s.status = "ready" && s.address ≠ ""

def forwardAddr (r : NomadResolver) (s : NodeStub) : String :=
  joinHostPort s.address (itoa r.forwardPort)

def roster (r : NomadResolver) (stubs : List NodeStub) : List NodeInfo :=
  (stubs.filter r.usable).map fun s => ⟨s.name, r.forwardAddr s⟩

abbrev Op := Fetched.Op Unit (List NodeStub) (List NodeInfo) String
abbrev Ev := Fetched.Ev Unit (List NodeStub) (List NodeInfo) String
abbrev Cache := Fetched.State Unit (List NodeInfo)

def refresh (r : NomadResolver) : Op (Except String (List NodeInfo)) := Fetched.refresh r.roster ()

def list (r : NomadResolver) : Op (Except String (List NodeInfo)) :=
  Fetched.get r.roster r.ttl () false

end NomadResolver

def findPeer (peers : List NodeInfo) (node : String) : Option String :=
  (peers.find? (·.node = node)).map (·.addr)

namespace NomadResolver

def notInRoster (r : NomadResolver) (node : String) : String :=
  "cluster: node " ++ quote node ++ " not in datacenter " ++ quote r.datacenter ++ " roster"

/-- The answer from a roster that was just fetched. -/
def answer (r : NomadResolver) (node : String) (peers : Except String (List NodeInfo)) :
    Except String String := do
  match findPeer (← peers) node with
  | some addr => return addr
  | none => throw (r.notInRoster node)

/-- The second attempt, for a node that may have just joined. -/
def resolveMiss (r : NomadResolver) (node : String) : Op (Except String String) := do
  let peers ← r.refresh
  return r.answer node peers

def resolveIn (r : NomadResolver) (node : String) :
    Except String (List NodeInfo) → Op (Except String String)
  | .error e => .ret (.error e)
  | .ok peers =>
    match findPeer peers node with
    | some addr => .ret (.ok addr)
    | none => r.resolveMiss node

def resolve (r : NomadResolver) (node : String) : Op (Except String String) := do
  let peers ← r.list
  r.resolveIn node peers

end NomadResolver

/-! ### What a list of nodes says -/

/-- The forward address of the first entry of a node that is ready, of the datacenter and addressed. -/
def listed (r : NomadResolver) (stubs : List NodeStub) (node : String) : Option String :=
  (stubs.find? fun s => r.usable s && s.name = node).map r.forwardAddr

theorem findPeer_roster (r : NomadResolver) (stubs : List NodeStub) (node : String) :
    findPeer (r.roster stubs) node = listed r stubs node := by
  unfold findPeer listed NomadResolver.roster
  rw [List.find?_map, List.find?_filter, Option.map_map]
  congr 2
  funext s
  simp

/-! ### Histories -/

variable {r : NomadResolver} {node : String} {s s' : NomadResolver.Cache}
  {past tr : List NomadResolver.Ev}

/-- The cache after a row of calls, one after the other, and what they fetched. -/
inductive History (r : NomadResolver) : NomadResolver.Cache → List NomadResolver.Ev → Prop where
  | start : History r (fun _ => none) []
  | list {s s' : NomadResolver.Cache} {past tr : List NomadResolver.Ev}
      {x : Except String (List NodeInfo)} :
      History r s past → Runs act r.list s tr x s' → History r s' (past ++ tr)
  | resolve {s s' : NomadResolver.Cache} {past tr : List NomadResolver.Ev} {node : String}
      {x : Except String String} :
      History r s past → Runs act (r.resolve node) s tr x s' → History r s' (past ++ tr)

theorem resolve_cases {x : Except String String} (h : Runs act (r.resolve node) s tr x s') :
    (∃ e, Runs act r.list s tr (.error e) s' ∧ x = .error e) ∨
    (∃ peers addr, Runs act r.list s tr (.ok peers) s' ∧ findPeer peers node = some addr ∧
      x = .ok addr) ∨
    ∃ peers tr1 s1 tr2 peers', tr = tr1 ++ tr2 ∧ Runs act r.list s tr1 (.ok peers) s1 ∧
      Runs act r.refresh s1 tr2 peers' s' ∧ x = r.answer node peers' := by
  obtain ⟨tr1, peers, s1, tr2, rfl, hlist, hin⟩ := runs_bind.1 h
  cases peers with
  | error e =>
    obtain ⟨rfl, rfl, rfl⟩ := runs_ret.1 hin
    rw [List.append_nil]
    exact .inl ⟨e, hlist, rfl⟩
  | ok peers =>
    unfold NomadResolver.resolveIn at hin
    cases hfind : findPeer peers node with
    | some addr =>
      simp only [hfind] at hin
      obtain ⟨rfl, rfl, rfl⟩ := runs_ret.1 hin
      rw [List.append_nil]
      exact .inr (.inl ⟨peers, addr, hlist, hfind, rfl⟩)
    | none =>
      simp only [hfind] at hin
      obtain ⟨peers', hrefresh, rfl⟩ := runs_bind_ret.1 hin
      exact .inr (.inr ⟨peers, tr1, s1, tr2, peers', rfl, hlist, hrefresh, rfl⟩)

/-- The cache always holds the roster of the last successful fetch. -/
theorem History.kept (h : History r s past) : Kept r.roster past s := by
  induction h with
  | start => exact kept_empty _
  | list _ hrun ih => exact ih.after_get hrun
  | resolve _ hrun ih =>
    rcases resolve_cases hrun with ⟨e, hlist, -⟩ | ⟨peers, addr, hlist, -⟩ |
      ⟨peers, tr1, s1, tr2, peers', rfl, hlist, hrefresh, -⟩
    · exact ih.after_get hlist
    · exact ih.after_get hlist
    · rw [← List.append_assoc]
      exact (ih.after_get hlist).after_refresh hrefresh

theorem answer_ok {peers : List NodeInfo} {addr : String}
    (h : r.answer node (.ok peers) = .ok addr) : findPeer peers node = some addr := by
  unfold NomadResolver.answer at h
  simp only [bind, Except.bind] at h
  split at h
  · next a ha =>
    obtain rfl := Except.ok.inj h
    exact ha
  · cases h

theorem answer_error {peers : List NodeInfo} {e : String}
    (h : r.answer node (.ok peers) = .error e) : findPeer peers node = none := by
  unfold NomadResolver.answer at h
  simp only [bind, Except.bind] at h
  split at h
  · cases h
  · next hnone => exact hnone

/-- After any calls before it, with any replies and at any times, Resolve returns only the address
that the last successful fetch lists for the node, and fails only if a fetch of its own failed or
its own last fetch succeeded and lists no address for the node. -/
theorem resolve_current (h : History r s past) {x : Except String String}
    (hrun : Runs act (r.resolve node) s tr x s') :
    (∀ addr, x = .ok addr → ∃ stubs, latest (fetches () (past ++ tr)) = some stubs ∧
      listed r stubs node = some addr) ∧
    ∀ e, x = .error e → (∃ e', .error e' ∈ fetches () tr) ∨
      ∃ stubs, (fetches () tr).getLast? = some (.ok stubs) ∧ listed r stubs node = none := by
  have hkept := h.kept
  rcases resolve_cases hrun with ⟨e, hlist, rfl⟩ | ⟨peers, addr, hlist, hfind, rfl⟩ |
    ⟨peers, tr1, s1, tr2, peers', rfl, hlist, hrefresh, rfl⟩
  · refine ⟨by simp, fun _ _ => .inl ?_⟩
    rcases get_cases hlist with ⟨_, _, _, _, _, _, hr⟩ | ⟨_, _, hr⟩ | ⟨e', he, _⟩
    · cases hr
    · cases hr
    · exact ⟨e', by simp [he.own]⟩
  · refine ⟨fun addr' haddr => ?_, by simp⟩
    obtain rfl := Except.ok.inj haddr
    obtain ⟨stubs, hlatest, rfl⟩ := hkept.of_get_ok hlist
    exact ⟨stubs, hlatest, (findPeer_roster r stubs node).symm.trans hfind⟩
  · rcases refresh_cases hrefresh with ⟨stubs, hx, rfl⟩ | ⟨e, he, rfl⟩
    · refine ⟨fun addr haddr => ⟨stubs, ?_, ?_⟩, fun e he => .inr ⟨stubs, ?_, ?_⟩⟩
      · rw [← List.append_assoc, fetches_append, hx.own, latest_snoc]
        rfl
      · exact (findPeer_roster r stubs node).symm.trans (answer_ok haddr)
      · rw [fetches_append, hx.own, List.getLast?_concat]
      · exact (findPeer_roster r stubs node).symm.trans (answer_error he)
    · refine ⟨fun addr haddr => ?_, fun _ _ => .inl ⟨e, by simp [he.own]⟩⟩
      cases haddr

def dc1 : NomadResolver := ⟨"dc1", 7000, 5⟩

def stubOf (name address : String) : NodeStub := ⟨name, address, "ready", "dc1"⟩

/-- A List has cached a roster without `b`, which has joined since. -/
theorem resolve_current_first : ∃ s past tr s', History dc1 s past ∧
    Runs act (dc1.resolve "b") s tr (.ok "10.0.0.2:7000") s' ∧
    fetches () (past ++ tr) = [.ok [stubOf "a" "10.0.0.1"], .ok [stubOf "b" "10.0.0.2"]] ∧
    ∃ stubs, latest (fetches () (past ++ tr)) = some stubs ∧
      listed dc1 stubs "b" = some "10.0.0.2:7000" := by
  obtain ⟨tr, x, s', hrun, hfetches, rfl⟩ := runs_of_exec act
    (dc1.list >>= fun _ => dc1.resolve "b") (fun _ => none)
    (List.replicate 3 ⟨0, .ok [stubOf "a" "10.0.0.1"]⟩ ++
      List.replicate 4 ⟨1, .ok [stubOf "b" "10.0.0.2"]⟩)
    (fun r => fetches () r.1 = [.ok [stubOf "a" "10.0.0.1"], .ok [stubOf "b" "10.0.0.2"]] ∧
      r.2.1 = .ok "10.0.0.2:7000") (by decide)
  obtain ⟨past, _, s, tr, rfl, hlist, hresolve⟩ := runs_bind.1 hrun
  have hist : History dc1 s past := .list .start hlist
  exact ⟨s, past, tr, s', hist, hresolve, hfetches, (resolve_current hist hresolve).1 _ rfl⟩

end NomadCsi.Cluster
