import NomadCsi.Stats.Registry
import NomadCsi.Stats.Walk

/-!
# The workers of the registry

`stats/registry.go` with its goroutines: callers of `Track`, `Untrack` and `Close`, one
supervisor for each worker, and the statfs calls, watchdogs and walks that the supervisors
dispatch. They form a crew over the registry: each step is one section under a mutex, one
atomic flag, one channel operation or one answer of the environment (the clock, statfs, the
walk). `Untrack` takes the worker off under the mutex and cancels it after that; nothing it
started is waited for.

`Reconcile` makes its changes through `Track` and `Untrack`, so its runs are among these.
-/

namespace NomadCsi.Stats

open Lib Lib.Go

/-- The resolved configuration: what the workers read of it. -/
structure Config where
  enabled : Bool
  interval : Int
  walkEnabled : Bool
  walkInterval : Int
  maxFailureBackoff : Int
  /-- The timeout of the watchdog, as it is printed. -/
  statfsTimeout : String
deriving DecidableEq, Repr

/-! ### Readings -/

structure FSStats where
  totalBytes : Int := 0
  usedBytes : Int := 0
  availableBytes : Int := 0
  totalInodes : Int := 0
  usedInodes : Int := 0
  freeInodes : Int := 0
deriving DecidableEq, Repr

abbrev StatfsResult := Except String FSStats

/-- The measured part of a `CSIVolumeStats`; `none` is the zero time. -/
structure Reading where
  fs : FSStats := {}
  statfsAt : Option Int := none
  fileCount : Int := 0
  dirCount : Int := 0
  otherCount : Int := 0
  walkAt : Option Int := none
  walkDuration : Int := 0
  walkComplete : Bool := false
  lastError : String := ""
deriving DecidableEq, Repr

namespace Reading

/-- An error keeps the last good measurements. -/
def statfs (now : Int) (res : StatfsResult) (r : Reading) : Reading :=
  match res with
  | .error e => { r with lastError := e }
  | .ok u => { r with fs := u, statfsAt := some now, lastError := "" }

def walk (now duration : Int) (res : WalkResult) (r : Reading) : Reading :=
  match res.err with
  | some e => { r with lastError := e }
  | none =>
    { r with
      fileCount := res.files
      dirCount := res.dirs
      otherCount := res.other
      walkAt := some now
      walkDuration := duration
      walkComplete := true
      lastError := "" }

end Reading

structure Entry extends CSIVolumeStats where
  reading : Reading := {}
deriving DecidableEq, Repr

/-! ### Schedules -/

def doubled (max : Int) : Nat → Int → Int
  | 0, d => d
  | n + 1, d => if d < max then doubled max n (wrap64 (d * 2)) else d

/-- `base * 2 ^ (fails - 1)`, at most `max`. -/
def backoff (base max : Int) (fails : Nat) : Int :=
  let d := doubled max (fails - 1) base
  if d > max then max else d

def fnv64a (bytes : List UInt8) : Nat :=
  bytes.foldl (fun h b => (h ^^^ b.toNat) * 1099511628211 % 18446744073709551616)
    14695981039346656037

def jitterFor (key : String) (d : Int) : Int :=
  if d ≤ 0 then 0 else (fnv64a key.toUTF8.data.toList : Int) % d

/-! ### What the goroutines share -/

structure Worker where
  id : String
  path : String
  cancelled : Bool := false
  statfsFails : Nat := 0
  walkFails : Nat := 0
  nextStatfs : Int := 0
  nextWalk : Int := 0
  statfsInFlight : Bool := false
  walkInFlight : Bool := false
  statfsOK : Bool := false
deriving DecidableEq, Repr

namespace Worker

def scheduled (cfg : Config) (now : Int) (wk : Worker) : Worker :=
  { wk with
    nextStatfs := now + jitterFor (wk.id ++ "s") cfg.interval
    nextWalk := now + jitterFor (wk.id ++ "w") cfg.walkInterval }

/-- The next statfs, after one that failed or not. -/
def statted (cfg : Config) (now : Int) (ok : Bool) (wk : Worker) : Worker :=
  if ok then { wk with statfsFails := 0, nextStatfs := now + cfg.interval }
  else
    { wk with
      statfsFails := wk.statfsFails + 1
      nextStatfs := now + backoff cfg.interval cfg.maxFailureBackoff (wk.statfsFails + 1) }

def strolled (cfg : Config) (now : Int) (ok : Bool) (wk : Worker) : Worker :=
  if ok then { wk with walkFails := 0, nextWalk := now + cfg.walkInterval }
  else
    { wk with
      walkFails := wk.walkFails + 1
      nextWalk := now + backoff cfg.walkInterval cfg.maxFailureBackoff (wk.walkFails + 1) }

end Worker

/-- The registry; a worker is known by its place in the order they were started. -/
structure Fleet where
  node : String
  vols : Map String Nat := ∅
  cache : Map String Entry := ∅
  workers : List Worker := []
  /-- The channels of the statfs calls. -/
  chans : List (Option StatfsResult) := []
  closed : Bool := false

namespace Fleet

def modify (s : Fleet) (w : Nat) (f : Worker → Worker) : Fleet :=
  { s with workers := s.workers.modify w f }

def done (s : Fleet) (wk : Worker) : Bool := wk.cancelled || s.closed

/-- Apply `f` to the reading of a volume that is still cached. -/
def update (s : Fleet) (id : String) (f : Reading → Reading) : Fleet :=
  match s.cache.lookup id with
  | none => s
  | some e => { s with cache := s.cache.insert id { e with reading := f e.reading } }

/-- The entry that a Track leaves; a new one has an empty reading. -/
def entered (s : Fleet) (d : TrackSpec) : Entry where
  volumeID := d.volumeID
  node := s.node
  accessType := d.accessType
  reading := ((s.cache.lookup d.volumeID).map (·.reading)).getD {}

def present (s : Fleet) (d : TrackSpec) : Fleet :=
  { s with cache := s.cache.insert d.volumeID (s.entered d) }

end Fleet

/-! ### Goroutines -/

/-- Where a goroutine stands. `w` is its worker. -/
inductive Task where
  -- callers
  | track (d : TrackSpec)
  | untrack (id : String)
  | cancel (w : Nat)
  | close
  -- the supervisor
  | boot (w : Nat)
  | idle (w : Nat)
  | due (w : Nat) (statfs walk : Bool)
  | fire (w : Nat) (walk : Bool)
  | claim (w : Nat)
  | fireWalk (w : Nat)
  -- the statfs call
  | stat (w : Nat) (path : String) (ch : Nat)
  | clear (w : Nat) (ch : Nat) (res : StatfsResult)
  | send (ch : Nat) (res : StatfsResult)
  -- the watchdog
  | watch (w : Nat) (ch : Nat)
  | heard (w : Nat) (res : StatfsResult)
  | noted (w : Nat) (now : Int) (res : StatfsResult)
  | report (w : Nat) (now : Int) (res : StatfsResult)
  -- the walk
  | stroll (w : Nat) (path : String)
  | walking (w : Nat) (path : String) (start : Int)
  | walked (w : Nat) (start : Int) (res : WalkResult)
  | reportWalk (w : Nat) (now duration : Int) (res : WalkResult)
  | release (w : Nat)
  | done
deriving DecidableEq, Repr

/-- What the environment gives to a step. -/
inductive Input where
  | none
  | clock (now : Int)
  | stat (res : StatfsResult)
  | walk (res : WalkResult)
  | timeout
  | cancelled
deriving DecidableEq, Repr

/-- The section of a Track, and the supervisor it starts. -/
def trackStep (cfg : Config) (s : Fleet) (d : TrackSpec) : Fleet × List Task :=
  if cfg.enabled = false ∨ d.volumeID = "" then (s, [])
  else
    match s.vols.lookup d.volumeID with
    | some w => (s.modify w fun wk => { wk with path := d.stagingPath }, [])
    | none =>
      match d.accessType with
      | .block => (s.present d, [])
      | .mount =>
        ({ s.present d with
            vols := s.vols.insert d.volumeID s.workers.length
            workers := s.workers ++ [{ id := d.volumeID, path := d.stagingPath }] },
          [.boot s.workers.length])

def taskStep (cfg : Config) (s : Fleet) : Task → Input → Option (Fleet × Task × List Task)
  | .track d, .none => some ((trackStep cfg s d).1, .done, (trackStep cfg s d).2)
  | .untrack id, .none =>
    some ({ s with vols := s.vols.erase id, cache := s.cache.erase id },
      ((s.vols.lookup id).map Task.cancel).getD .done, [])
  | .cancel w, .none => some (s.modify w fun wk => { wk with cancelled := true }, .done, [])
  | .close, .none => some ({ s with closed := true }, .done, [])
  | .boot w, .clock now =>
    some (s.modify w (·.scheduled cfg now), .idle w, [])
  | .idle w, .cancelled => do
    let wk ← s.workers[w]?
    if s.done wk then some (s, .done, []) else none
  | .idle w, .clock now => do
    let wk ← s.workers[w]?
    some (s, .due w (decide (wk.nextStatfs ≤ now))
      (cfg.walkEnabled && decide (wk.nextWalk ≤ now)), [])
  | .due w true walk, .none => do
    let wk ← s.workers[w]?
    if wk.statfsInFlight then some (s, .due w false walk, [])
    else some (s.modify w fun wk => { wk with statfsInFlight := true }, .fire w walk, [])
  | .fire w walk, .none => do
    let wk ← s.workers[w]?
    some ({ s with chans := s.chans ++ [none] }, .due w false walk,
      [.stat w wk.path s.chans.length, .watch w s.chans.length])
  | .due w false true, .none => do
    let wk ← s.workers[w]?
    if wk.statfsOK then some (s, .claim w, []) else some (s, .idle w, [])
  | .due w false false, .none => some (s, .idle w, [])
  | .claim w, .none => do
    let wk ← s.workers[w]?
    if wk.walkInFlight then some (s, .idle w, [])
    else some (s.modify w fun wk => { wk with walkInFlight := true }, .fireWalk w, [])
  | .fireWalk w, .none => do
    let wk ← s.workers[w]?
    some (s, .idle w, [.stroll w wk.path])
  | .stat w _ ch, .stat res => some (s, .clear w ch res, [])
  | .clear w ch res, .none =>
    some (s.modify w fun wk => { wk with statfsInFlight := false }, .send ch res, [])
  | .send ch res, .none => some ({ s with chans := s.chans.set ch (some res) }, .done, [])
  | .watch w ch, .none => do
    let res ← s.chans[ch]?
    let res ← res
    some ({ s with chans := s.chans.set ch none }, .heard w res, [])
  | .watch w _, .timeout =>
    some (s, .heard w (.error ("statfs timed out after " ++ cfg.statfsTimeout)), [])
  | .watch w _, .cancelled => do
    let wk ← s.workers[w]?
    if s.done wk then some (s, .done, []) else none
  | .heard w res, .clock now =>
    some (s.modify w (·.statted cfg now res.toOption.isSome), .noted w now res, [])
  | .noted w now res, .none =>
    some (s.modify w fun wk => { wk with statfsOK := res.toOption.isSome }, .report w now res, [])
  | .report w now res, .none => do
    let wk ← s.workers[w]?
    some (s.update wk.id (·.statfs now res), .done, [])
  | .stroll w path, .clock start => some (s, .walking w path start, [])
  | .walking w _ start, .walk res => some (s, .walked w start res, [])
  | .walked w start res, .clock now =>
    some (s.modify w (·.strolled cfg now res.err.isNone),
      .reportWalk w now (timeSub now start) res, [])
  | .reportWalk w now duration res, .none => do
    let wk ← s.workers[w]?
    some (s.update wk.id (·.walk now duration res), .release w, [])
  | .release w, .none => some (s.modify w fun wk => { wk with walkInFlight := false }, .done, [])
  | _, _ => none

abbrev FleetCrew := Crew Fleet Task

def newFleet (node : String) : FleetCrew := ⟨{ node }, []⟩

def Task.called : Task → Bool
  | track _ | untrack _ | close => true
  | _ => false

/-! ### Who may write -/

/-- The worker for which a goroutine may yet write a reading. -/
def Task.writer : Task → Option Nat
  | boot w | idle w | due w _ _ | fire w _ | claim w | fireWalk w | watch w _ | heard w _
  | noted w _ _ | report w _ _ | stroll w _ | walking w _ _ | walked w _ _ | reportWalk w _ _ _ =>
    some w
  | _ => none

/-- The update that a goroutine makes next, and its worker. -/
def Task.writes : Task → Option (Nat × (Reading → Reading))
  | report w now res => some (w, (·.statfs now res))
  | reportWalk w now duration res => some (w, (·.walk now duration res))
  | _ => none

theorem Task.writer_of_writes {t : Task} {w : Nat} {f : Reading → Reading}
    (h : t.writes = some (w, f)) : t.writer = some w := by
  cases t with
  | report | reportWalk =>
    cases h
    rfl
  | _ => cases h

/-! ### What a step can do -/

/-- A call that enters a volume or takes it out. -/
def Task.edits : Task → Bool
  | track _ | untrack _ => true
  | _ => false

def Fleet.ids (s : Fleet) : List String := s.workers.map (·.id)

def Fleet.paths (s : Fleet) : List String := s.workers.map (·.path)

/-- A step that leaves the maps and the ids and paths of the workers alone, and starts only
goroutines of its own worker. -/
structure Aside (s : Fleet) (t : Task) (s' : Fleet) (t' : Task) (new : List Task) : Prop where
  edits : t.edits = false
  vols : s'.vols = s.vols
  cache : s'.cache = s.cache
  ids : s'.ids = s.ids
  paths : s'.paths = s.paths
  writer : ∀ u, u = t' ∨ u ∈ new → ∀ w, u.writer = some w → t.writer = some w

section

variable {cfg : Config} {s s' : Fleet} {t t' : Task} {new : List Task}

theorem map_modify {α β : Type} {l : List α} {i : Nat} {f : α → α} {g : α → β}
    (h : ∀ x, g (f x) = g x) : (l.modify i f).map g = l.map g := by
  apply List.ext_getElem?
  intro j
  simp only [List.getElem?_map, List.getElem?_modify]
  by_cases hij : i = j
  · cases l[j]? with
    | none => simp
    | some x => simp [hij, h]
  · simp [hij]

theorem Aside.alone (hedits : t.edits = false) (hvols : s'.vols = s.vols)
    (hcache : s'.cache = s.cache) (hids : s'.ids = s.ids) (hpaths : s'.paths = s.paths)
    (h : ∀ w, t'.writer = some w → t.writer = some w) : Aside s t s' t' [] := by
  refine ⟨hedits, hvols, hcache, hids, hpaths, fun u hu => ?_⟩
  rcases hu with rfl | hu
  · exact h
  · cases hu

/-- The moves of the goroutines, by what they do to the maps. -/
inductive TaskMove (cfg : Config) (s : Fleet) : Task → Fleet → Task → List Task → Prop where
  | track (d : TrackSpec) :
      TaskMove cfg s (.track d) (trackStep cfg s d).1 .done (trackStep cfg s d).2
  | untrack (id : String) {t' : Task} : t'.writer = none →
      TaskMove cfg s (.untrack id) { s with vols := s.vols.erase id, cache := s.cache.erase id } t' []
  | write {t t' : Task} {w : Nat} {f : Reading → Reading} {wk : Worker} :
      t.writes = some (w, f) → s.workers[w]? = some wk → t'.writer = none →
      TaskMove cfg s t (s.update wk.id f) t' []
  | aside {t t' : Task} {s' : Fleet} {new : List Task} : Aside s t s' t' new →
      TaskMove cfg s t s' t' new

theorem TaskMove.same (hedits : t.edits = false)
    (h : ∀ w, t'.writer = some w → t.writer = some w) : TaskMove cfg s t s t' [] :=
  .aside (.alone hedits rfl rfl rfl rfl h)

theorem TaskMove.modify (hedits : t.edits = false) {w : Nat} {f : Worker → Worker}
    (hf : ∀ wk, (f wk).id = wk.id ∧ (f wk).path = wk.path)
    (h : ∀ w, t'.writer = some w → t.writer = some w) : TaskMove cfg s t (s.modify w f) t' [] :=
  .aside (.alone hedits rfl rfl (map_modify fun wk => (hf wk).1) (map_modify fun wk => (hf wk).2) h)

theorem statted_keeps (cfg : Config) (now : Int) (ok : Bool) (wk : Worker) :
    (wk.statted cfg now ok).id = wk.id ∧ (wk.statted cfg now ok).path = wk.path := by
  unfold Worker.statted
  split <;> exact ⟨rfl, rfl⟩

theorem strolled_keeps (cfg : Config) (now : Int) (ok : Bool) (wk : Worker) :
    (wk.strolled cfg now ok).id = wk.id ∧ (wk.strolled cfg now ok).path = wk.path := by
  unfold Worker.strolled
  split <;> exact ⟨rfl, rfl⟩

theorem taskMove_of_taskStep {x : Input} (h : taskStep cfg s t x = some (s', t', new)) :
    TaskMove cfg s t s' t' new := by
  cases t with
  | track d =>
    cases x <;> cases h
    exact .track d
  | untrack id =>
    cases x with
    | none =>
      cases h
      refine .untrack id ?_
      cases s.vols.lookup id with
      | none => rfl
      | some w => rfl
    | _ => cases h
  | cancel | clear | noted | release | boot =>
    -- one input at most fits
    cases x <;> cases h
    exact .modify rfl (fun _ => ⟨rfl, rfl⟩) fun _ h => h
  | stat | stroll | walking =>
    cases x <;> cases h
    exact .same rfl fun _ h => h
  | close | send =>
    cases x <;> cases h
    exact .aside (.alone rfl rfl rfl rfl rfl fun _ h => h)
  | idle w =>
    cases x with
    | cancelled =>
      obtain ⟨wk, hwk, h⟩ := Option.bind_eq_some_iff.1 h
      split at h
      · cases h
        exact .same rfl fun _ h => by cases h
      · cases h
    | clock now =>
      obtain ⟨wk, hwk, h⟩ := Option.bind_eq_some_iff.1 h
      cases h
      exact .same rfl fun _ h => h
    | _ => cases h
  | due w statfs walk =>
    cases x with
    | none =>
      cases statfs with
      | true =>
        obtain ⟨wk, hwk, h⟩ := Option.bind_eq_some_iff.1 h
        split at h
        · cases h
          exact .same rfl fun _ h => h
        · cases h
          exact .modify rfl (fun _ => ⟨rfl, rfl⟩) fun _ h => h
      | false =>
        cases walk with
        | true =>
          obtain ⟨wk, hwk, h⟩ := Option.bind_eq_some_iff.1 h
          split at h
          · cases h
            exact .same rfl fun _ h => h
          · cases h
            exact .same rfl fun _ h => h
        | false =>
          cases h
          exact .same rfl fun _ h => h
    | _ => cases statfs <;> cases walk <;> cases h
  | fire w walk =>
    cases x with
    | none =>
      obtain ⟨wk, hwk, h⟩ := Option.bind_eq_some_iff.1 h
      cases h
      refine .aside ⟨rfl, rfl, rfl, rfl, rfl, fun u hu v hv => ?_⟩
      rcases hu with rfl | hu
      · exact hv
      · rcases List.mem_cons.1 hu with rfl | hu
        · cases hv
        · obtain rfl := List.mem_singleton.1 hu
          exact hv
    | _ => cases h
  | claim w =>
    cases x with
    | none =>
      obtain ⟨wk, hwk, h⟩ := Option.bind_eq_some_iff.1 h
      split at h
      · cases h
        exact .same rfl fun _ h => h
      · cases h
        exact .modify rfl (fun _ => ⟨rfl, rfl⟩) fun _ h => h
    | _ => cases h
  | fireWalk w =>
    cases x with
    | none =>
      obtain ⟨wk, hwk, h⟩ := Option.bind_eq_some_iff.1 h
      cases h
      refine .aside ⟨rfl, rfl, rfl, rfl, rfl, fun u hu v hv => ?_⟩
      rcases hu with rfl | hu
      · exact hv
      · obtain rfl := List.mem_singleton.1 hu
        exact hv
    | _ => cases h
  | watch w ch =>
    cases x with
    | none =>
      obtain ⟨o, ho, h⟩ := Option.bind_eq_some_iff.1 h
      obtain ⟨res, hres, h⟩ := Option.bind_eq_some_iff.1 h
      cases h
      exact .aside (.alone rfl rfl rfl rfl rfl fun _ h => h)
    | timeout =>
      cases h
      exact .same rfl fun _ h => h
    | cancelled =>
      obtain ⟨wk, hwk, h⟩ := Option.bind_eq_some_iff.1 h
      split at h
      · cases h
        exact .same rfl fun _ h => by cases h
      · cases h
    | _ => cases h
  | heard =>
    cases x <;> cases h
    exact .modify rfl (statted_keeps cfg _ _) fun _ h => h
  | report w now res | reportWalk w now duration res =>
    cases x with
    | none =>
      obtain ⟨wk, hwk, h⟩ := Option.bind_eq_some_iff.1 h
      cases h
      exact .write rfl hwk rfl
    | _ => cases h
  | walked =>
    cases x <;> cases h
    exact .modify rfl (strolled_keeps cfg _ _) fun _ h => h
  | done => cases x <;> cases h

end

end NomadCsi.Stats
