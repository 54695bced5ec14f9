import NomadCsi.Stats.Workers

/-!
# The lives of a cached volume

A volume is in the cache from the Track that entered it to the next Untrack. `Births` records,
beside the runs, the worker that this Track started, if any. A worker writes by volume id only,
and what it has started outlives it, so a reading of an earlier life may arrive in a later one.
-/

namespace NomadCsi.Stats

open Lib Lib.Go

/-! ### Lives -/

/-- For each volume that was entered, the worker that its Track started. -/
abbrev Births := Map String (Option Nat)

def Enters (cfg : Config) (s : Fleet) (d : TrackSpec) : Prop :=
  cfg.enabled = true ∧ d.volumeID ≠ "" ∧ d.volumeID ∉ s.vols ∧ d.volumeID ∉ s.cache

instance (cfg : Config) (s : Fleet) (d : TrackSpec) : Decidable (Enters cfg s d) :=
  inferInstanceAs (Decidable (_ ∧ _))

/-- The worker that a Track starts for a volume it enters. -/
def TrackSpec.starts (s : Fleet) (d : TrackSpec) : Option Nat :=
  match d.accessType with
  | .block => none
  | .mount => some s.workers.length

/-- The record of births after the next step of a goroutine. -/
def Births.after (cfg : Config) (s : Fleet) (b : Births) : Task → Births
  | .track d => if Enters cfg s d then b.insert d.volumeID (d.starts s) else b
  | .untrack id => b.erase id
  | _ => b

def recordBirth (cfg : Config) (c : FleetCrew) (a : Crew.Act Task Input) (b : Births) : Births :=
  match a with
  | .start _ => b
  | .go i _ => ((c.tasks[i]?).map (b.after cfg c.shared)).getD b

/-- Calls may come in at any time; goroutines move in any order. -/
def FleetOk (_ : FleetCrew) : Crew.Act Task Input → Prop
  | .start t => t.called = true
  | .go _ _ => True

instance (c : FleetCrew) : (a : Crew.Act Task Input) → Decidable (FleetOk c a)
  | .start t => inferInstanceAs (Decidable (t.called = true))
  | .go _ _ => isTrue trivial

/-- A Track that does not mix two lives of a volume: it only renews the path of a worker, or it
enters the volume when no goroutine of an earlier worker of it may still write, or the volume
is cached as a block volume and tracked as one. -/
def Settled (c : FleetCrew) (d : TrackSpec) : Prop :=
  d.volumeID ∈ c.shared.vols ∨
  (d.volumeID ∉ c.shared.cache ∧
    ∀ t ∈ c.tasks, t.writer.bind (c.shared.ids[·]?) ≠ some d.volumeID) ∨
  (d.volumeID ∈ c.shared.cache ∧ d.accessType = .block)

instance (c : FleetCrew) (d : TrackSpec) : Decidable (Settled c d) :=
  inferInstanceAs (Decidable (_ ∨ _))

def Task.tracks : Task → Option TrackSpec
  | track d => some d
  | _ => none

/-- The same, where a Track takes its section only when it mixes no lives. -/
def OrderlyOk (c : FleetCrew) : Crew.Act Task Input → Prop
  | .start t => t.called = true
  | .go i _ => ∀ d ∈ (c.tasks[i]?).bind Task.tracks, Settled c d

instance (c : FleetCrew) : (a : Crew.Act Task Input) → Decidable (OrderlyOk c a)
  | .start t => inferInstanceAs (Decidable (t.called = true))
  | .go i _ => inferInstanceAs (Decidable (∀ d ∈ (c.tasks[i]?).bind Task.tracks, Settled c d))

/-- In this step worker `w` writes into the cached record of `v`. -/
def Writes (c : FleetCrew) (a : Crew.Act Task Input) (v : String) (w : Nat) : Prop :=
  ∃ i x t f wk, a = .go i x ∧ c.tasks[i]? = some t ∧ t.writes = some (w, f) ∧
    c.shared.workers[w]? = some wk ∧ wk.id = v ∧ v ∈ c.shared.cache

/-- Every write into a cached record is by the worker of this life, nothing else changes a
reading, and what another worker reports is dropped. -/
structure OwnReadings (cfg : Config) (c : FleetCrew) (b : Births) : Prop where
  own : ∀ a v w, Writes c a v w → b.lookup v = some (some w)
  only : ∀ a c' v e e', c.next (taskStep cfg) a = some c' → c.shared.cache.lookup v = some e →
    c'.shared.cache.lookup v = some e' → e'.reading ≠ e.reading → ∃ w, Writes c a v w
  dropped : ∀ i x c' t w f wk, c.next (taskStep cfg) (.go i x) = some c' →
    c.tasks[i]? = some t → t.writes = some (w, f) → c.shared.workers[w]? = some wk →
    b.lookup wk.id ≠ some (some w) → c'.shared.cache = c.shared.cache

/-- A goroutine that may write belongs to the life of its volume, if the volume is cached. -/
structure Lives (c : FleetCrew) (b : Births) : Prop where
  cached : ∀ v ∈ c.shared.vols, v ∈ c.shared.cache
  writer : ∀ t ∈ c.tasks, ∀ w, t.writer = some w → ∃ v, c.shared.ids[w]? = some v ∧
    (v ∈ c.shared.cache → b.lookup v = some (some w))

variable {s : Fleet} {v : String}

section

variable {cfg : Config} {c : FleetCrew} {b : Births} {s' : Fleet} {t t' : Task} {new : List Task}
  {i : Nat}

theorem Births.after_of_edits (h : t.edits = false) (s : Fleet) : b.after cfg s t = b := by
  cases t with
  | track | untrack => cases h
  | _ => rfl

theorem Births.after_track (b : Births) (s : Fleet) (d : TrackSpec) : b.after cfg s (.track d) =
    if Enters cfg s d then b.insert d.volumeID (d.starts s) else b := rfl

/-- Steps that enter no volume: the goroutines keep their workers, and the volumes that stay
cached keep their births. -/
theorem Lives.keep (h : Lives c b) {b' : Births} (hids : s'.ids = c.shared.ids)
    (hvols : ∀ v ∈ s'.vols, v ∈ s'.cache) (hcache : ∀ v ∈ s'.cache, v ∈ c.shared.cache)
    (hb : ∀ v ∈ s'.cache, b'.lookup v = b.lookup v) (ht : c.tasks[i]? = some t)
    (hw : ∀ u, u = t' ∨ u ∈ new → ∀ w, u.writer = some w → t.writer = some w) :
    Lives ⟨s', c.tasks.set i t' ++ new⟩ b' where
  cached := hvols
  writer := by
    intro u hu w hwriter
    obtain ⟨v, hv, hborn⟩ : ∃ v, c.shared.ids[w]? = some v ∧
        (v ∈ c.shared.cache → b.lookup v = some (some w)) := by
      rcases Crew.mem_tasks hu with hu | hu | hu
      · exact h.writer t (List.mem_of_getElem? ht) w (hw u (.inl hu) w hwriter)
      · exact h.writer t (List.mem_of_getElem? ht) w (hw u (.inr hu) w hwriter)
      · exact h.writer u hu w hwriter
    refine ⟨v, ?_, fun hin => ?_⟩
    · dsimp only
      rw [hids, hv]
    · rw [hb v hin]
      exact hborn (hcache v hin)

theorem cache_update (s : Fleet) (id : String) (f : Reading → Reading) (v : String) :
    v ∈ (s.update id f).cache ↔ v ∈ s.cache := by
  unfold Fleet.update
  split
  · rfl
  · next e he =>
    rw [AList.mem_insert]
    constructor
    · intro hv
      rcases hv with rfl | hv
      · exact AList.lookup_isSome.1 (by rw [he]; rfl)
      · exact hv
    · exact .inr

/-- A step that enters `v`, of which no goroutine may write. -/
theorem Lives.enter (h : Lives c b) {x : Option Nat}
    (hvols : ∀ u ∈ s'.vols, u = v ∨ u ∈ c.shared.vols)
    (hcache : ∀ u, u ∈ s'.cache ↔ u = v ∨ u ∈ c.shared.cache)
    (hids : ∀ (w : Nat) u, c.shared.ids[w]? = some u → s'.ids[w]? = some u)
    (hidle : ∀ t ∈ c.tasks, t.writer.bind (c.shared.ids[·]?) ≠ some v)
    (hnew : ∀ u ∈ new, ∀ w, u.writer = some w → s'.ids[w]? = some v ∧ x = some w) :
    Lives ⟨s', c.tasks.set i .done ++ new⟩ (b.insert v x) where
  cached := by
    intro u hu
    exact (hcache u).2 ((hvols u hu).imp_right (h.cached u))
  writer := by
    intro u hu w hwriter
    rcases Crew.mem_tasks hu with rfl | hu | hu
    · cases hwriter
    · obtain ⟨hid, rfl⟩ := hnew u hu w hwriter
      exact ⟨v, hid, fun _ => AList.lookup_insert _⟩
    · obtain ⟨v', hv', hborn⟩ := h.writer u hu w hwriter
      have hne : v' ≠ v := by
        intro heq
        apply hidle u hu
        rw [hwriter, Option.bind_some, hv', heq]
      refine ⟨v', hids w v' hv', fun hin => ?_⟩
      rw [AList.lookup_insert_ne hne]
      exact hborn (((hcache v').1 hin).resolve_left hne)

theorem mem_present (s : Fleet) (d : TrackSpec) (v : String) :
    v ∈ (s.present d).cache ↔ v = d.volumeID ∨ v ∈ s.cache := AList.mem_insert _

theorem Lives.track (h : Lives c b) {d : TrackSpec} (ht : c.tasks[i]? = some (.track d))
    (hok : Settled c d) :
    Lives ⟨(trackStep cfg c.shared d).1, c.tasks.set i .done ++ (trackStep cfg c.shared d).2⟩
      (b.after cfg c.shared (.track d)) := by
  have hdone : ∀ u, u = Task.done ∨ u ∈ ([] : List Task) → ∀ w, u.writer = some w →
      (Task.track d).writer = some w := by
    intro u hu w hw
    rcases hu with rfl | hu
    · cases hw
    · cases hu
  rw [Births.after_track]
  unfold trackStep
  split
  · next hoff =>
    have hnot : ¬ Enters cfg c.shared d := by
      intro hin
      rcases hoff with hoff | hoff
      · exact absurd hin.1 (by simp [hoff])
      · exact hin.2.1 hoff
    rw [if_neg hnot]
    exact h.keep rfl h.cached (fun _ hv => hv) (fun _ _ => rfl) ht hdone
  · next hon =>
    split
    · next w hw =>
      have hnot : ¬ Enters cfg c.shared d := fun hin =>
        hin.2.2.1 (AList.lookup_isSome.1 (by rw [hw]; rfl))
      rw [if_neg hnot]
      exact h.keep (map_modify fun _ => rfl) h.cached (fun _ hv => hv) (fun _ _ => rfl) ht hdone
    · next hnone =>
      have hvol : d.volumeID ∉ c.shared.vols := AList.lookup_eq_none.1 hnone
      have henters : d.volumeID ∉ c.shared.cache → Enters cfg c.shared d := by
        intro hcache
        simp only [not_or, Bool.not_eq_false] at hon
        exact ⟨hon.1, hon.2, hvol, hcache⟩
      rcases hok with hok | ⟨hcache, hidle⟩ | ⟨hcache, hblock⟩
      · exact absurd hok hvol
      · rw [if_pos (henters hcache)]
        cases haccess : d.accessType with
        | block =>
          refine h.enter (fun _ hv => .inr hv) (mem_present _ _) (fun _ _ hid => hid) hidle ?_
          simp
        | mount =>
          refine h.enter (fun _ hv => ?_) (mem_present _ _) (fun w u hid => ?_) hidle ?_
          · exact (AList.mem_insert _).1 hv
          · unfold Fleet.ids at hid ⊢
            rw [List.map_append, List.getElem?_append_left (List.getElem?_eq_some_iff.1 hid).1, hid]
          · intro u hu w hw
            obtain rfl := List.mem_singleton.1 hu
            cases hw
            unfold TrackSpec.starts Fleet.ids
            rw [haccess]
            simp
      · have hnot : ¬ Enters cfg c.shared d := fun hin => hin.2.2.2 hcache
        rw [if_neg hnot, hblock]
        refine h.keep rfl ?_ ?_ (fun _ _ => rfl) ht hdone
        · intro v hv
          exact (mem_present _ _ v).2 (.inr (h.cached v hv))
        · intro v hv
          rcases (mem_present _ _ v).1 hv with rfl | hv
          · exact hcache
          · exact hv

theorem Lives.move (h : Lives c b) (ht : c.tasks[i]? = some t) (hok : ∀ d ∈ t.tracks, Settled c d)
    (hmove : TaskMove cfg c.shared t s' t' new) :
    Lives ⟨s', c.tasks.set i t' ++ new⟩ (b.after cfg c.shared t) := by
  cases hmove with
  | track d => exact h.track ht (hok d rfl)
  | untrack id hnone =>
    refine h.keep rfl ?_ ?_ ?_ ht ?_
    · intro v hv
      rw [AList.mem_erase] at hv ⊢
      exact ⟨hv.1, h.cached v hv.2⟩
    · intro v hv
      exact (AList.mem_erase.1 hv).2
    · intro v hv
      exact AList.lookup_erase_ne (AList.mem_erase.1 hv).1
    · intro u hu w hwriter
      rcases hu with rfl | hu
      · rw [hnone] at hwriter
        cases hwriter
      · cases hu
  | @write _ _ w f wk hwrites hwk hnone =>
    have hedits : t.edits = false := by
      cases t with
      | track | untrack => cases hwrites
      | _ => rfl
    rw [Births.after_of_edits hedits]
    refine h.keep ?_ ?_ (fun v hv => (cache_update _ _ _ v).1 hv) (fun _ _ => rfl) ht ?_
    · unfold Fleet.ids Fleet.update
      split <;> rfl
    · intro v hv
      refine (cache_update _ _ _ v).2 (h.cached v ?_)
      unfold Fleet.update at hv
      split at hv
      · exact hv
      · exact hv
    · intro u hu w' hwriter
      rcases hu with rfl | hu
      · rw [hnone] at hwriter
        cases hwriter
      · cases hu
  | aside haside =>
    rw [Births.after_of_edits haside.edits]
    refine h.keep haside.ids ?_ ?_ (fun _ _ => rfl) ht haside.writer
    · rw [haside.vols, haside.cache]
      exact h.cached
    · rw [haside.cache]
      exact fun _ hv => hv

theorem Lives.start (h : Lives c b) (ht : t.called = true) :
    Lives ⟨c.shared, c.tasks ++ [t]⟩ b where
  cached := h.cached
  writer := by
    intro u hu w hwriter
    rcases mem_snoc.1 hu with hu | rfl
    · exact h.writer u hu w hwriter
    · cases u with
      | track | untrack | close => cases hwriter
      | _ => cases ht

theorem Lives.reach {node : String} (h : Crew.Reach (taskStep cfg) (recordBirth cfg) OrderlyOk
    (newFleet node) ∅ c b) : Lives c b := by
  refine h.invariant ⟨?_, ?_⟩ ?_
  · intro v hv
    cases hv
  · intro t ht
    cases ht
  · intro c c' b a hlives hok hnext
    obtain ⟨t, rfl, rfl⟩ | ⟨i, x, t, s', t', new, rfl, ht, hstep, rfl⟩ := Crew.next_cases hnext
    · exact hlives.start hok
    · have hafter : recordBirth cfg c (.go i x) b = b.after cfg c.shared t := by
        change ((c.tasks[i]?).map (b.after cfg c.shared)).getD b = _
        rw [ht]
        rfl
      rw [hafter]
      refine hlives.move ht (fun d hd => hok d ?_) (taskMove_of_taskStep hstep)
      rw [ht]
      exact hd

/-! ### Readings -/

theorem lookup_ids {w : Nat} {wk : Worker} (h : s.workers[w]? = some wk) :
    s.ids[w]? = some wk.id := by
  unfold Fleet.ids
  rw [List.getElem?_map, h]
  rfl

theorem Lives.own (h : Lives c b) {w : Nat} {f : Reading → Reading} {wk : Worker}
    (ht : c.tasks[i]? = some t) (hwrites : t.writes = some (w, f))
    (hwk : c.shared.workers[w]? = some wk) (hcached : wk.id ∈ c.shared.cache) :
    b.lookup wk.id = some (some w) := by
  obtain ⟨v, hv, hborn⟩ := h.writer t (List.mem_of_getElem? ht) w (Task.writer_of_writes hwrites)
  cases (lookup_ids hwk).symm.trans hv
  exact hborn hcached

theorem update_of_notMem {id : String} (h : id ∉ s.cache) (f : Reading → Reading) :
    s.update id f = s := by
  unfold Fleet.update
  rw [AList.lookup_eq_none.2 h]

theorem lookup_update_ne {id : String} (h : v ≠ id) (f : Reading → Reading) :
    (s.update id f).cache.lookup v = s.cache.lookup v := by
  unfold Fleet.update
  split
  · rfl
  · exact AList.lookup_insert_ne h

theorem reading_track {d : TrackSpec} {e e' : Entry} (h : s.cache.lookup v = some e)
    (h' : (trackStep cfg s d).1.cache.lookup v = some e') : e'.reading = e.reading := by
  have hpresent : ∀ e', (s.present d).cache.lookup v = some e' → e'.reading = e.reading := by
    intro e' h'
    by_cases hv : v = d.volumeID
    · subst hv
      cases (AList.lookup_insert _).symm.trans h'
      unfold Fleet.entered
      rw [h]
      rfl
    · cases h.symm.trans ((AList.lookup_insert_ne hv).symm.trans h')
      rfl
  have hsame : ∀ e', s.cache.lookup v = some e' → e'.reading = e.reading := by
    intro e' h'
    cases h.symm.trans h'
    rfl
  unfold trackStep at h'
  split at h'
  · exact hsame e' h'
  · split at h'
    · exact hsame e' h'
    · split at h'
      · exact hpresent e' h'
      · exact hpresent e' h'

theorem TaskMove.reading (h : TaskMove cfg s t s' t' new) {e e' : Entry}
    (he : s.cache.lookup v = some e) (he' : s'.cache.lookup v = some e')
    (hne : e'.reading ≠ e.reading) :
    ∃ w f wk, t.writes = some (w, f) ∧ s.workers[w]? = some wk ∧ wk.id = v := by
  cases h with
  | track d => exact absurd (reading_track he he') hne
  | untrack id _ =>
    have hv : v ≠ id := by
      rintro rfl
      rw [AList.lookup_erase] at he'
      cases he'
    rw [AList.lookup_erase_ne hv] at he'
    cases he.symm.trans he'
    exact absurd rfl hne
  | @write _ _ w f wk hwrites hwk _ =>
    by_cases hv : wk.id = v
    · exact ⟨w, f, wk, hwrites, hwk, hv⟩
    · rw [lookup_update_ne (Ne.symm hv)] at he'
      cases he.symm.trans he'
      exact absurd rfl hne
  | aside haside =>
    rw [haside.cache] at he'
    cases he.symm.trans he'
    exact absurd rfl hne

theorem TaskMove.dropped (h : TaskMove cfg s t s' t' new) {w : Nat} {f : Reading → Reading}
    {wk : Worker} (hwrites : t.writes = some (w, f)) (hwk : s.workers[w]? = some wk)
    (hnone : wk.id ∉ s.cache) : s'.cache = s.cache := by
  cases h with
  | track | untrack => cases hwrites
  | write hwrites' hwk' _ =>
    cases hwrites.symm.trans hwrites'
    cases hwk.symm.trans hwk'
    rw [update_of_notMem hnone]
  | aside haside => exact haside.cache

end

/-- In every run in which no Track mixes two lives of a volume, every reading of a cached volume
is of the worker that the Track which entered it has started. -/
theorem readings_of_own_worker {cfg : Config} {node : String} {c : FleetCrew} {b : Births}
    (h : Crew.Reach (taskStep cfg) (recordBirth cfg) OrderlyOk (newFleet node) ∅ c b) :
    OwnReadings cfg c b := by
  have hlives := Lives.reach h
  refine ⟨?_, ?_, ?_⟩
  · rintro a v w ⟨i, x, t, f, wk, rfl, ht, hwrites, hwk, rfl, hcached⟩
    exact hlives.own ht hwrites hwk hcached
  · intro a c' v e e' hnext he he' hne
    obtain ⟨t, rfl, rfl⟩ | ⟨i, x, t, s', t', new, rfl, ht, hstep, rfl⟩ := Crew.next_cases hnext
    · cases he.symm.trans he'
      exact absurd rfl hne
    · obtain ⟨w, f, wk, hwrites, hwk, rfl⟩ := (taskMove_of_taskStep hstep).reading he he' hne
      have hcached : wk.id ∈ c.shared.cache := AList.lookup_isSome.1 (by rw [he]; rfl)
      exact ⟨w, i, x, t, f, wk, rfl, ht, hwrites, hwk, rfl, hcached⟩
  · intro i x c' t w f wk hnext ht hwrites hwk hforeign
    obtain ⟨_, hstart, -⟩ | ⟨j, y, u, s', t', new, hgo, hu, hstep, rfl⟩ := Crew.next_cases hnext
    · cases hstart
    · cases hgo
      cases ht.symm.trans hu
      refine (taskMove_of_taskStep hstep).dropped hwrites hwk fun hcached => ?_
      exact hforeign (hlives.own ht hwrites hwk hcached)

/-- Every minute a statfs, every five a walk, in seconds. -/
def minutely : Config := ⟨true, 60, true, 300, 1800, "30s"⟩

def mountV : TrackSpec := ⟨"v", "/staging/v", .mount⟩

def sevenBytes : StatfsResult := .ok { totalBytes := 7 }

/-- The worker of task `i` measures its volume, up to the update; its statfs call and its
watchdog are the tasks `j` and `k`. -/
def measure (i j k : Nat) : List (Crew.Act Task Input) :=
  [.go i (.clock 0), .go i (.clock 1000), .go i .none, .go i .none, .go j (.stat sevenBytes),
    .go j .none, .go j .none, .go k .none, .go k (.clock 1001), .go k .none]

/-- The first life ends with an Untrack while a walk is under way, whose report is dropped; then
`v` is tracked again. -/
theorem readings_of_own_worker_first : ∃ c b, Crew.Reach (taskStep minutely) (recordBirth minutely)
    OrderlyOk (newFleet "n") ∅ c b ∧ Writes c (.go 9 .none) "v" 1 ∧ OwnReadings minutely c b := by
  obtain ⟨c, b, hreach, htask, hworker, hcached⟩ := Crew.reach_of_play (taskStep minutely)
    (recordBirth minutely) OrderlyOk (newFleet "n") ∅
    (.start (.track mountV) :: .go 0 .none :: measure 1 2 3 ++
      [.go 3 .none, .go 1 .none, .go 1 .none, .go 1 .none, .start (.untrack "v"), .go 5 .none,
        .go 5 .none, .go 1 .cancelled, .go 4 (.clock 1002), .go 4 (.walk ⟨3, 1, 0, none⟩),
        .go 4 (.clock 1003), .go 4 .none, .start (.track mountV), .go 6 .none] ++ measure 7 8 9)
    (fun x => x.1.tasks[9]? = some (.report 1 1001 sevenBytes) ∧
      (x.1.shared.workers[1]?).map (·.id) = some "v" ∧ "v" ∈ x.1.shared.cache) (by decide)
  obtain ⟨wk, hwk, hid⟩ := Option.map_eq_some_iff.1 hworker
  exact ⟨c, b, hreach, ⟨9, .none, _, _, wk, rfl, htask, rfl, hwk, hid, hcached⟩,
    readings_of_own_worker hreach⟩

def blockV : TrackSpec := ⟨"v", "/staging/v", .block⟩

/-- A measurement that is about to be reported when the volume is untracked and tracked again
arrives in the new record; and a volume tracked as a block volume first and then as a mount gets
the readings of a worker that the first Track has not started. -/
theorem stale_reading_written :
    (∃ c b, Crew.Reach (taskStep minutely) (recordBirth minutely) FleetOk (newFleet "n") ∅ c b ∧
      Writes c (.go 3 .none) "v" 0 ∧ b.lookup "v" = some (some 1) ∧ ¬ OwnReadings minutely c b) ∧
    ∃ c b, Crew.Reach (taskStep minutely) (recordBirth minutely) FleetOk (newFleet "n") ∅ c b ∧
      Writes c (.go 4 .none) "v" 0 ∧ b.lookup "v" = some none ∧ ¬ OwnReadings minutely c b := by
  constructor
  · obtain ⟨c, b, hreach, htask, hworker, hcached, hborn⟩ := Crew.reach_of_play (taskStep minutely)
      (recordBirth minutely) FleetOk (newFleet "n") ∅
      (.start (.track mountV) :: .go 0 .none :: measure 1 2 3 ++
        [.start (.untrack "v"), .go 4 .none, .start (.track mountV), .go 5 .none])
      (fun x => x.1.tasks[3]? = some (.report 0 1001 sevenBytes) ∧
        (x.1.shared.workers[0]?).map (·.id) = some "v" ∧ "v" ∈ x.1.shared.cache ∧
        x.2.lookup "v" = some (some 1)) (by decide)
    obtain ⟨wk, hwk, hid⟩ := Option.map_eq_some_iff.1 hworker
    have hwrites : Writes c (.go 3 .none) "v" 0 :=
      ⟨3, .none, _, _, wk, rfl, htask, rfl, hwk, hid, hcached⟩
    refine ⟨c, b, hreach, hwrites, hborn, fun h => ?_⟩
    cases hborn.symm.trans (h.own _ _ _ hwrites)
  · obtain ⟨c, b, hreach, htask, hworker, hcached, hborn⟩ := Crew.reach_of_play (taskStep minutely)
      (recordBirth minutely) FleetOk (newFleet "n") ∅
      (.start (.track blockV) :: .go 0 .none :: .start (.track mountV) :: .go 1 .none ::
        measure 2 3 4)
      (fun x => x.1.tasks[4]? = some (.report 0 1001 sevenBytes) ∧
        (x.1.shared.workers[0]?).map (·.id) = some "v" ∧ "v" ∈ x.1.shared.cache ∧
        x.2.lookup "v" = some none) (by decide)
    obtain ⟨wk, hwk, hid⟩ := Option.map_eq_some_iff.1 hworker
    have hwrites : Writes c (.go 4 .none) "v" 0 :=
      ⟨4, .none, _, _, wk, rfl, htask, rfl, hwk, hid, hcached⟩
    refine ⟨c, b, hreach, hwrites, hborn, fun h => ?_⟩
    cases hborn.symm.trans (h.own _ _ _ hwrites)

end NomadCsi.Stats
