import NomadCsi.Lib.Fetched

/-!
# The names of Nomad's volumes

`cluster/nomad_volumes.go`: the driver's id of a Nomad volume, from Nomad's list of the volumes
of a namespace, through a cache with an entry for each namespace (`Lib.Fetched`). A forced
fetch that fails hands back the map that has just missed. The task API is the environment.
-/

namespace NomadCsi.Cluster

open Lib Lib.Go Lib.Fetched

structure VolStub where
  id : String
  externalID : String
deriving DecidableEq, Repr

/-- The names of a namespace: Nomad id to external id, and back. -/
structure NsVolCache where
  fwd : Map String String
  rev : Map String String

namespace NsVolCache

/-- An entry without an id or an external id is skipped. -/
def add (c : NsVolCache) (s : VolStub) : NsVolCache :=
  if s.id = "" ∨ s.externalID = "" then c
  else ⟨c.fwd.insert s.id s.externalID, c.rev.insert s.externalID s.id⟩

def build (stubs : List VolStub) : NsVolCache := stubs.foldl add ⟨∅, ∅⟩

end NsVolCache

structure NomadVolumes where
  ttl : Int

namespace NomadVolumes

abbrev Op := Fetched.Op String (List VolStub) NsVolCache String
abbrev Ev := Fetched.Ev String (List VolStub) NsVolCache String
abbrev Cache := Fetched.State String NsVolCache

def get (v : NomadVolumes) (ns : String) (force : Bool) : Op (Except String NsVolCache) :=
  Fetched.get NsVolCache.build v.ttl ns force

def externalIDMiss (v : NomadVolumes) (ns id : String) : Op (Except String (Option String)) := do
  let c ← v.get ns true
  return c.map (·.fwd.lookup id)

def externalIDIn (v : NomadVolumes) (ns id : String) :
    Except String NsVolCache → Op (Except String (Option String))
  | .error e => .ret (.error e)
  | .ok c =>
    match c.fwd.lookup id with
    | some ext => .ret (.ok (some ext))
    | none => v.externalIDMiss ns id

/-- The external id of a volume, `none` for one that is not found. -/
def externalID (v : NomadVolumes) (ns id : String) : Op (Except String (Option String)) := do
  let c ← v.get ns false
  v.externalIDIn ns id c

def reverse (v : NomadVolumes) (ns : String) : Op (Except String (Map String String)) := do
  let c ← v.get ns false
  return c.map (·.rev)

/-- The cache after a row of calls, one after the other, and what they fetched. -/
inductive History (v : NomadVolumes) : Cache → List Ev → Prop where
  | start : History v (fun _ => none) []
  | externalID {s s' : Cache} {past tr : List Ev} {ns id : String}
      {x : Except String (Option String)} :
      History v s past → Runs act (v.externalID ns id) s tr x s' → History v s' (past ++ tr)
  | reverse {s s' : Cache} {past tr : List Ev} {ns : String}
      {x : Except String (Map String String)} :
      History v s past → Runs act (v.reverse ns) s tr x s' → History v s' (past ++ tr)

end NomadVolumes

/-! ### What a list says -/

/-- No entry with this id and an external id. -/
def NoEntry (stubs : List VolStub) (id : String) : Prop := ∀ s ∈ stubs, s.id = id → s.externalID = ""

theorem mem_foldl_add {id : String} (stubs : List VolStub) (c : NsVolCache) :
    id ∈ (stubs.foldl NsVolCache.add c).fwd ↔ id ∈ c.fwd ∨ id ≠ "" ∧ ¬ NoEntry stubs id := by
  induction stubs generalizing c with
  | nil => simp [NoEntry]
  | cons s rest ih =>
    rw [List.foldl_cons, ih]
    unfold NsVolCache.add
    split
    · next hskip =>
      -- an entry that is skipped is none of a volume with an id
      have hsame : id ≠ "" → (NoEntry (s :: rest) id ↔ NoEntry rest id) := by
        intro hid
        unfold NoEntry
        rw [List.forall_mem_cons]
        refine and_iff_right fun heq => ?_
        exact hskip.resolve_left (heq ▸ hid)
      exact or_congr_right (and_congr_right fun hid => not_congr (hsame hid).symm)
    · next hkeep =>
      obtain ⟨hs, hext⟩ := not_or.1 hkeep
      unfold NoEntry
      rw [AList.mem_insert, List.forall_mem_cons]
      by_cases heq : s.id = id
      · subst heq
        simp [hs, hext]
      · simp [heq, Ne.symm heq]

theorem lookup_build_eq_none {stubs : List VolStub} {id : String} :
    (NsVolCache.build stubs).fwd.lookup id = none ↔ id = "" ∨ NoEntry stubs id := by
  rw [AList.lookup_eq_none, NsVolCache.build, mem_foldl_add]
  simp [or_iff_not_imp_left]

/-! ### Not found -/

namespace NomadVolumes

variable {v : NomadVolumes} {ns id : String} {s s' : Cache} {tr : List Ev}
  {x : Except String (Option String)}

theorem externalID_cases (h : Runs act (v.externalID ns id) s tr x s') :
    (∃ e, Runs act (v.get ns false) s tr (.error e) s' ∧ x = .error e) ∨
    (∃ c ext, Runs act (v.get ns false) s tr (.ok c) s' ∧ c.fwd.lookup id = some ext ∧
      x = .ok (some ext)) ∨
    ∃ c tr1 s1 tr2 r, tr = tr1 ++ tr2 ∧ Runs act (v.get ns false) s tr1 (.ok c) s1 ∧
      c.fwd.lookup id = none ∧ Runs act (v.get ns true) s1 tr2 r s' ∧
      x = r.map (·.fwd.lookup id) := by
  obtain ⟨tr1, r1, s1, tr2, rfl, hget, hin⟩ := runs_bind.1 h
  cases r1 with
  | error e =>
    obtain ⟨rfl, rfl, rfl⟩ := runs_ret.1 hin
    rw [List.append_nil]
    exact .inl ⟨e, hget, rfl⟩
  | ok c =>
    unfold externalIDIn at hin
    cases hfind : c.fwd.lookup id with
    | some ext =>
      simp only [hfind] at hin
      obtain ⟨rfl, rfl, rfl⟩ := runs_ret.1 hin
      rw [List.append_nil]
      exact .inr (.inl ⟨c, ext, hget, hfind, rfl⟩)
    | none =>
      simp only [hfind] at hin
      obtain ⟨r, hforced, rfl⟩ := runs_bind_ret.1 hin
      exact .inr (.inr ⟨c, tr1, s1, tr2, r, rfl, hget, hfind, hforced, rfl⟩)

/-- Not found, without an error, only if a list that was fetched in the call has no such volume. -/
def Honest (ns id : String) (tr : List Ev) (x : Except String (Option String)) : Prop :=
  x = .ok none → ∃ stubs, .ok stubs ∈ fetches ns tr ∧ NoEntry stubs id

/-- A fetch succeeds in the call, with no entry without an id if that is what is asked for; or
none does, and nothing is kept for the namespace or what is kept has the volume. -/
def Informed (ns id : String) (s : Cache) (tr : List Ev) : Prop :=
  (∃ stubs, .ok stubs ∈ fetches ns tr ∧ (id = "" → NoEntry stubs "")) ∨
    (∀ stubs, .ok stubs ∉ fetches ns tr) ∧ ∀ c since, s ns = some (c, since) → id ∈ c.fwd

/-- From every state of the cache, whatever the fetches of the call return and however old the
entries are. -/
theorem externalID_honest_iff (hrun : Runs act (v.externalID ns id) s tr x s') :
    Honest ns id tr x ↔ Informed ns id s tr := by
  -- a list that has the volume was asked for an id
  have hnamed : ∀ {stubs : List VolStub} {ext : String},
      (NsVolCache.build stubs).fwd.lookup id = some ext → id = "" → NoEntry stubs "" := by
    intro stubs ext hext hid
    rw [lookup_build_eq_none.2 (.inl hid)] at hext
    cases hext
  rcases externalID_cases hrun with ⟨e, hget, rfl⟩ | ⟨c, ext, hget, hfind, rfl⟩ |
    ⟨c, tr1, s1, tr2, r, rfl, hget, hmiss, hforced, rfl⟩
  · obtain ⟨hnone, hno⟩ := get_error hget
    refine iff_of_true (fun h => by cases h) (.inr ⟨hno, fun c since hc => ?_⟩)
    rw [hnone] at hc
    cases hc
  · refine iff_of_true (fun h => by cases h) ?_
    rcases (get_ok hget).2 with ⟨stubs, hown, rfl⟩ | ⟨hno, since, hc⟩
    · exact .inl ⟨stubs, by simp [hown], hnamed hfind⟩
    · refine .inr ⟨hno, fun c' since' hc' => ?_⟩
      obtain ⟨rfl, -⟩ := Prod.mk.inj (Option.some.inj (hc.symm.trans hc'))
      exact AList.lookup_isSome.1 (by rw [hfind]; rfl)
  · obtain ⟨⟨since1, hs1⟩, hfirst⟩ := get_ok hget
    cases r with
    | error e =>
      rw [(get_error hforced).1] at hs1
      cases hs1
    | ok c2 =>
      have hsecond := (get_ok hforced).2
      rw [Honest, Informed, fetches_append]
      cases hfind : c2.fwd.lookup id with
      | some ext =>
        -- the kept map has missed, so the volume is in the list of the forced fetch
        have hfound : ∃ stubs, .ok stubs ∈ fetches ns tr2 ∧ (id = "" → NoEntry stubs "") := by
          rcases hsecond with ⟨stubs, hown, rfl⟩ | ⟨-, since, hc⟩
          · exact ⟨stubs, by simp [hown], hnamed hfind⟩
          · obtain ⟨rfl, -⟩ := Prod.mk.inj (Option.some.inj (hs1.symm.trans hc))
            rw [hmiss] at hfind
            cases hfind
        obtain ⟨stubs, hmem, hid⟩ := hfound
        refine iff_of_true (fun h => ?_) (.inl ⟨stubs, List.mem_append_right _ hmem, hid⟩)
        rw [Except.map, hfind] at h
        cases h
      | none =>
        -- every list of the call misses the volume
        have hlists : ∀ stubs, .ok stubs ∈ fetches ns tr1 ++ fetches ns tr2 →
            id = "" ∨ NoEntry stubs id := by
          intro stubs hmem
          rw [← lookup_build_eq_none]
          rcases List.mem_append.1 hmem with hmem | hmem
          · rcases hfirst with ⟨stubs', hown, rfl⟩ | ⟨hno, -⟩
            · rw [hown, List.mem_singleton] at hmem
              obtain rfl := Except.ok.inj hmem
              exact hmiss
            · exact absurd hmem (hno stubs)
          · rcases hsecond with ⟨stubs', hown, rfl⟩ | ⟨hno, -⟩
            · rw [hown, List.mem_singleton] at hmem
              obtain rfl := Except.ok.inj hmem
              exact hfind
            · exact absurd hmem (hno stubs)
        rw [Except.map, hfind]
        constructor
        · intro h
          obtain ⟨stubs, hmem, hstubs⟩ := h rfl
          exact .inl ⟨stubs, hmem, fun hid => hid ▸ hstubs⟩
        · rintro (⟨stubs, hmem, hid⟩ | ⟨hno, hkept⟩) -
          · refine ⟨stubs, hmem, ?_⟩
            rcases hlists stubs hmem with rfl | hstubs
            · exact hid rfl
            · exact hstubs
          · rcases hfirst with ⟨stubs, hown, -⟩ | ⟨-, since, hc⟩
            · exact absurd (List.mem_append_left _ (by simp [hown])) (hno stubs)
            · exact absurd (hkept c since hc) (AList.lookup_eq_none.1 hmiss)

/-- The first fetch succeeds and the forced one fails. -/
theorem first_list_honest : ∃ tr s', Runs act ((⟨5⟩ : NomadVolumes).externalID "default" "a")
    (fun _ => none) tr (.ok none) s' ∧ Honest "default" "a" tr (.ok none) := by
  obtain ⟨tr, x, s', hrun, rfl, hmem⟩ := runs_of_exec act
    ((⟨5⟩ : NomadVolumes).externalID "default" "a") (fun _ => none)
    [⟨0, .error "down"⟩, ⟨0, .ok [⟨"b", "local/v1/b"⟩]⟩, ⟨0, .error "down"⟩, ⟨0, .error "down"⟩,
      ⟨0, .error "down"⟩]
    (fun r => r.2.1 = .ok none ∧ .ok [⟨"b", "local/v1/b"⟩] ∈ fetches "default" r.1) (by decide)
  exact ⟨tr, s', hrun, (externalID_honest_iff hrun).2 (.inl ⟨_, hmem, fun h => absurd h (by decide)⟩)⟩

/-- The map is young, the volume is new, and the forced fetch fails: not found. -/
theorem stale_map_not_found : ¬ ∀ (v : NomadVolumes) (s s' : Cache) (past tr : List Ev)
    (ns id : String), History v s past → Runs act (v.externalID ns id) s tr (.ok none) s' →
    ∃ stubs, .ok stubs ∈ fetches ns tr ∧ NoEntry stubs id := by
  intro h
  have hlist := exec_runs act ((⟨5⟩ : NomadVolumes).reverse "default") (fun _ => none)
    [⟨0, .error "down"⟩, ⟨0, .ok []⟩, ⟨0, .error "down"⟩] rfl
  have hask := exec_runs act ((⟨5⟩ : NomadVolumes).externalID "default" "a")
    (fun ns => if ns = "default" then some (NsVolCache.build [], 0) else none)
    [⟨1, .error "down"⟩, ⟨1, .error "down"⟩, ⟨1, .error "down"⟩, ⟨1, .error "down"⟩] rfl
  obtain ⟨stubs, hmem, -⟩ := h _ _ _ _ _ "default" "a" (.reverse .start hlist) hask
  simp [fetches, fetched, act] at hmem

end NomadVolumes

end NomadCsi.Cluster
