import NomadCsi.Stats.Registry

/-!
# The eviction grace

A Reconcile evicts a volume when the volume's counter has reached the grace. The counter
stands for the sweeps in a row that missed the volume, but it is only started over by an
evicting Reconcile that lists the volume: Track leaves it, an add-only Reconcile leaves it,
and between a counting section and the evictions it decided on anything may happen.
`streak` reads the number that the grace is about off the history; `Considerate` excludes
the steps after which counter and streak part.
-/

namespace NomadCsi.Stats

open Lib Lib.Go

/-! ### The grace a volume has had -/

def note (v : String) (n : Nat) : Section → Nat
  | .called desired => if v ∈ wanted desired then 0 else n + 1
  | .track d => if d.volumeID = v then 0 else n
  | _ => n

/-- The number of the most recent consecutive Reconcile calls that miss `v`, all of them made since
`v` was last passed to Track. -/
def streak (v : String) (h : List Section) : Nat := h.foldl (note v) 0

@[simp] theorem streak_snoc (v : String) (h : List Section) (c : Section) :
    streak v (h ++ [c]) = note v (streak v h) c := by
  simp [streak]

def sections (ms : List Moved) : List Section := ms.map fun m => m.event.call

@[simp] theorem sections_snoc (ms : List Moved) (m : Moved) :
    sections (ms ++ [m]) = sections ms ++ [m.event.call] := by
  simp [sections]

/-- A Reconcile removes the volume `v`. -/
def Evicts (m : Moved) (desired : List TrackSpec) (grace : Int) (v : String) : Prop :=
  m.thread.job = .reconcile desired true grace ∧ m.event.call = .untrack v ∧
    v ∈ m.event.pre.cache

instance (m : Moved) (desired : List TrackSpec) (grace : Int) (v : String) :
    Decidable (Evicts m desired grace v) :=
  inferInstanceAs (Decidable (_ ∧ _ ∧ _))

def Graceful (ms : List Moved) : Prop :=
  ∀ past m, past ++ [m] <+: ms → ∀ desired grace v, Evicts m desired grace v →
    v ∉ wanted desired ∧ max 1 grace ≤ streak v (sections past)

theorem graceful_nil : Graceful [] := by
  intro past m hpre
  simp at hpre

theorem graceful_snoc {ms : List Moved} {m : Moved} (h : Graceful ms)
    (hm : ∀ desired grace v, Evicts m desired grace v →
      v ∉ wanted desired ∧ max 1 grace ≤ streak v (sections ms)) : Graceful (ms ++ [m]) := by
  intro past m' hpre
  rcases List.prefix_concat_iff.1 hpre with heq | hpre
  · obtain ⟨rfl, rfl⟩ := List.append_singleton_inj.1 heq
    exact hm
  · exact h past m' hpre

/-! ### Steps that leave the counters right -/

def Job.reconciles : Job → Bool
  | .reconcile _ _ _ => true
  | _ => false

def Job.tracked : Job → Option String
  | .track d => some d.volumeID
  | _ => none

def Job.listed : Job → List String
  | .reconcile desired false _ => wanted desired
  | _ => []

def Section.counts : Section → Bool
  | .count _ _ => true
  | _ => false

/-- A Reconcile that was called and has not counted. -/
def undecided (t : Running) : Bool := !t.past.isEmpty && t.past.all fun x => !x.1.counts

/-- The volumes an evicting Reconcile lists. -/
def Job.spared : Job → Option (List String)
  | .reconcile desired true _ => some (wanted desired)
  | _ => none

/-- An evicting Reconcile that was called, does not list `v` and has not counted. -/
def Overlooks (v : String) (t : Running) : Prop :=
  undecided t = true ∧ t.job.spared.any (v ∉ ·) = true

/-- Reconcile calls do not overlap; a volume that is passed to Track, or that an add-only Reconcile
lists, has no grace counter; and no evicting Reconcile that does not list it is about to count when
a volume is passed to Track. -/
def Considerate (p : System) : Action Job (List String) → Prop
  | .spawn job => job.reconciles = true → ∀ t ∈ p.threads, t.job.reconciles = false
  | .step i _ => ∀ t ∈ p.threads[i]?,
      (∀ v ∈ t.job.tracked, v ∉ p.world.absent ∧ ∀ t' ∈ p.threads, ¬ Overlooks v t') ∧
      (t.past = [] → ∀ v ∈ t.job.listed, v ∉ p.world.absent)
  | .finish _ => True

instance (v : String) (t : Running) : Decidable (Overlooks v t) :=
  inferInstanceAs (Decidable (_ ∧ _))

instance (p : System) : (a : Action Job (List String)) → Decidable (Considerate p a)
  | .spawn _ => inferInstanceAs (Decidable (_ → _))
  | .step i _ => inferInstanceAs (Decidable (∀ t ∈ p.threads[i]?, _ ∧ _))
  | .finish _ => .isTrue trivial

/-! ### Where a Reconcile stands -/

inductive Phase where
  | start
  | tracking (left : List TrackSpec)
  | evicting (left all : List String)
  | forgetting (id : String) (left all : List String)
  | done (res : List String)

namespace Phase

variable (enabled : Bool) (desired : List TrackSpec) (evict : Bool) (grace : Int)

def rest : Phase → Op (List String)
  | start => reconcile enabled desired evict grace
  | tracking left => do
    trackAll true left
    if evict then sweep (wanted desired) grace else return []
  | evicting left all => do
    evictAll left
    return all
  | forgetting id left all => .call (.forget id) fun _ => do
    evictAll left
    return all
  | done res => .ret res

/-- The volumes it is about to evict have had their grace, and the counters are not ahead of what
its own counting section may add. -/
def Fits (absent : Map String Int64) (σ : String → Nat) : Phase → Prop
  | start => True
  | tracking left => wanted left ⊆ wanted desired ∧
      (evict = true → ∀ v, v ∉ wanted desired → missed absent v + 1 ≤ σ v) ∧
      (evict = false → ∀ v ∈ wanted desired, v ∉ absent)
  | evicting left _ => left.Nodup ∧
      ∀ v ∈ left, v ∉ wanted desired ∧ max 1 grace ≤ σ v ∧ v ∈ absent
  | forgetting id left _ => (id :: left).Nodup ∧
      ∀ v ∈ left, v ∉ wanted desired ∧ max 1 grace ≤ σ v ∧ v ∈ absent
  | done _ => True

/-- The thread's own record agrees with the phase. -/
def Recorded (past : Past Section Section.Reply) : Phase → Prop
  | start => past = []
  | tracking _ => past ≠ [] ∧ ∀ x ∈ past, x.1.counts = false
  | _ => evict = true → ∃ x ∈ past, x.1.counts = true

inductive Next : Phase → (c : Section) → c.Reply → Phase → Prop where
  | called : Next .start (.called desired) () (.tracking desired)
  | track {left ds : List TrackSpec} {d : TrackSpec} (hd : d.volumeID ∈ wanted left)
      (hds : wanted ds ⊆ wanted left) : Next (.tracking left) (.track d) () (.tracking ds)
  | count {left : List TrackSpec} (hevict : evict = true) (l : List String) :
      Next (.tracking left) (.count (wanted desired) (if grace < 1 then 1 else grace)) l
        (.evicting l l)
  | evict {id : String} {left all : List String} :
      Next (.evicting (id :: left) all) (.untrack id) () (.forgetting id left all)
  | forget {id : String} {left all : List String} :
      Next (.forgetting id left all) (.forget id) () (.evicting left all)

end Phase

theorem wanted_cons_of_ne {d : TrackSpec} (h : d.volumeID ≠ "") (ds : List TrackSpec) :
    wanted (d :: ds) = d.volumeID :: wanted ds := by
  simp [wanted, h]

theorem wanted_cons_of_eq {d : TrackSpec} (h : d.volumeID = "") (ds : List TrackSpec) :
    wanted (d :: ds) = wanted ds := by
  simp [wanted, h]

theorem trackAll_cases (left : List TrackSpec) : trackAll true left = .ret () ∨
    ∃ d ds, d.volumeID ∈ wanted left ∧ wanted ds ⊆ wanted left ∧
      trackAll true left = .call (.track d) fun _ => trackAll true ds := by
  induction left with
  | nil => exact .inl rfl
  | cons d ds ih =>
    by_cases hd : d.volumeID = ""
    · have hskip : trackAll true (d :: ds) = trackAll true ds := by simp [trackAll, hd]
      rw [hskip, wanted_cons_of_eq hd]
      exact ih
    · refine .inr ⟨d, ds, ?_, ?_, ?_⟩
      · rw [wanted_cons_of_ne hd]
        exact .head _
      · rw [wanted_cons_of_ne hd]
        exact List.subset_cons_self _ _
      · simp [trackAll, track, hd]

variable {absent : Map String Int64}

section

variable {enabled : Bool} {desired : List TrackSpec} {evict : Bool} {grace : Int} {ph ph' : Phase}
  {c : Section} {k : c.Reply → Op (List String)}

/-- The next section of a Reconcile, and where it stands then. -/
theorem Phase.next_of_rest (h : ph.rest enabled desired evict grace = .call c k) (r : c.Reply) :
    ∃ ph', Phase.Next desired evict grace ph c r ph' ∧
      k r = ph'.rest enabled desired evict grace := by
  cases ph with
  | start =>
    cases enabled with
    | false => cases h
    | true =>
      cases h
      exact ⟨_, .called, rfl⟩
  | tracking left =>
    rcases trackAll_cases left with hnone | ⟨d, ds, hd, hds, hsome⟩
    · cases evict with
      | false =>
        simp only [rest, hnone] at h
        cases h
      | true =>
        simp only [rest, hnone] at h
        cases h
        exact ⟨_, .count rfl r, rfl⟩
    · simp only [rest, hsome] at h
      cases h
      exact ⟨_, .track hd hds, rfl⟩
  | evicting left all =>
    cases left with
    | nil => cases h
    | cons id left =>
      cases h
      exact ⟨_, .evict, rfl⟩
  | forgetting id left all =>
    cases h
    exact ⟨_, .forget, rfl⟩
  | done res => cases h

variable {w : Registry} {σ : String → Nat} {order : List String} {r : c.Reply}

@[simp] theorem absent_track (w : Registry) (d : TrackSpec) : (w.track d).absent = w.absent := by
  unfold Registry.track
  split
  · rfl
  · dsimp only
    cases d.accessType with
    | mount => rfl
    | block => rfl

theorem missed_of_notMem {v : String} (h : v ∉ absent) : missed absent v = 0 := by
  unfold missed
  rw [AList.lookup_eq_none.2 h]
  rfl

theorem missed_erase (absent : Map String Int64) (id v : String) :
    missed (absent.erase id) v = if v = id then 0 else missed absent v := by
  unfold missed
  split
  · next hv =>
    rw [hv, AList.lookup_erase]
    rfl
  · next hv => rw [AList.lookup_erase_ne hv]

theorem missed_count (w : Registry) (want : List String) (g : Int) (order : List String) (v : String) :
    (missed (w.count want g order).2.absent v ≤ missed w.absent v + 1 ∨
      missed (w.count want g order).2.absent v = 0) ∧
      (v ∈ want → missed (w.count want g order).2.absent v = 0) := by
  have hle := bumped_le w.absent v
  unfold missed at *
  rw [lookup_count]
  by_cases hv : v ∈ w.cache ∧ v ∉ want
  · rw [if_pos hv]
    exact ⟨.inl hle, fun h => absurd h hv.2⟩
  · rw [if_neg hv]
    exact ⟨.inr rfl, fun _ => rfl⟩

theorem Phase.Next.fits (hnext : Phase.Next desired evict grace ph c r ph')
    (hr : r = (act w c order).1) (hfits : ph.Fits desired evict grace w.absent σ)
    (hstart : ph = .start → (∀ v, missed w.absent v ≤ σ v) ∧
      (evict = false → ∀ v ∈ wanted desired, v ∉ w.absent)) :
    ph'.Fits desired evict grace (act w c order).2.absent fun v => note v (σ v) c := by
  cases hnext with
  | called =>
    obtain ⟨hcount, hadd⟩ := hstart rfl
    refine ⟨List.Subset.refl _, fun _ v hv => ?_, hadd⟩
    have hle := hcount v
    simp only [act, note, if_neg hv]
    omega
  | @track left ds d hd hds =>
    obtain ⟨hleft, hevict, hadd⟩ := hfits
    refine ⟨fun x hx => hleft (hds hx), fun he v hv => ?_, fun he v hv => ?_⟩
    · have hne : d.volumeID ≠ v := by
        rintro rfl
        exact hv (hleft hd)
      simp only [act, absent_track, note, if_neg hne]
      exact hevict he v hv
    · simp only [act, absent_track]
      exact hadd he v hv
  | count hevict =>
    obtain ⟨-, hcount, -⟩ := hfits
    subst hr
    refine ⟨nodup_count, fun v hv => ?_⟩
    obtain ⟨hcached, hwant, hgrace⟩ := mem_count.1 hv
    have hle := hcount hevict v hwant
    refine ⟨hwant, ?_, ?_⟩
    · have hbump := bumped_le w.absent v
      simp only [note]
      split at hgrace
      · omega
      · omega
    · refine AList.lookup_isSome.1 ?_
      simp only [act]
      rw [lookup_count, if_pos ⟨hcached, hwant⟩]
      rfl
  | evict =>
    obtain ⟨hnodup, hleft⟩ := hfits
    exact ⟨hnodup, fun v hv => hleft v (.tail _ hv)⟩
  | @forget id left all =>
    obtain ⟨hnodup, hleft⟩ := hfits
    obtain ⟨hid, hnodup⟩ := List.nodup_cons.1 hnodup
    refine ⟨hnodup, fun v hv => ?_⟩
    obtain ⟨hwant, hgrace, habsent⟩ := hleft v hv
    refine ⟨hwant, hgrace, AList.mem_erase.2 ⟨?_, habsent⟩⟩
    rintro rfl
    exact hid hv

/-- The counters after a section of a Reconcile, but for the volumes it is about to start over. -/
theorem Phase.Next.counted (hnext : Phase.Next desired evict grace ph c r ph')
    (hfits : ph.Fits desired evict grace w.absent σ)
    (hstart : ph = .start → evict = false → ∀ v ∈ wanted desired, v ∉ w.absent) {v : String}
    (hv : missed w.absent v ≤ σ v ∨
      ∃ left, ph = .tracking left ∧ evict = true ∧ v ∈ wanted desired) :
    missed (act w c order).2.absent v ≤ note v (σ v) c ∨
      ∃ left, ph' = .tracking left ∧ evict = true ∧ v ∈ wanted desired := by
  cases hnext with
  | called =>
    by_cases hwant : v ∈ wanted desired
    · cases evict with
      | true => exact .inr ⟨_, rfl, rfl, hwant⟩
      | false =>
        refine .inl ?_
        simp only [act]
        rw [missed_of_notMem (hstart rfl rfl v hwant)]
        omega
    · rcases hv with hle | ⟨_, hph, -⟩
      · refine .inl ?_
        simp only [act, note, if_neg hwant]
        omega
      · cases hph
  | @track left ds d hd hds =>
    obtain ⟨hleft, -, hadd⟩ := hfits
    by_cases hd' : d.volumeID = v
    · subst hd'
      have hwant := hleft hd
      cases evict with
      | true => exact .inr ⟨_, rfl, rfl, hwant⟩
      | false =>
        refine .inl ?_
        simp only [act, absent_track]
        rw [missed_of_notMem (hadd rfl _ hwant)]
        omega
    · rcases hv with hle | ⟨_, -, he, hwant⟩
      · refine .inl ?_
        simp only [act, absent_track, note, if_neg hd']
        exact hle
      · exact .inr ⟨_, rfl, he, hwant⟩
  | count hevict =>
    obtain ⟨-, hcount, -⟩ := hfits
    obtain ⟨hone, hzero⟩ := missed_count w (wanted desired) (if grace < 1 then 1 else grace) order v
    refine .inl ?_
    simp only [act, note]
    by_cases hwant : v ∈ wanted desired
    · rw [hzero hwant]
      omega
    · have hle := hcount hevict v hwant
      omega
  | evict =>
    rcases hv with hle | ⟨_, hph, -⟩
    · exact .inl hle
    · cases hph
  | forget =>
    rcases hv with hle | ⟨_, hph, -⟩
    · refine .inl ?_
      simp only [act, Registry.forget, missed_erase, note]
      split <;> omega
    · cases hph

/-- A Reconcile evicts only volumes that have had their grace. -/
theorem Phase.Next.evicted {id : String} {r : Unit}
    (hnext : Phase.Next desired evict grace ph (.untrack id) r ph')
    (hfits : ph.Fits desired evict grace w.absent σ) :
    id ∉ wanted desired ∧ max 1 grace ≤ σ id := by
  cases hnext with
  | evict =>
    obtain ⟨hwant, hgrace, -⟩ := hfits.2 id (.head _)
    exact ⟨hwant, hgrace⟩

theorem Phase.Next.recorded {past : Past Section Section.Reply}
    (hnext : Phase.Next desired evict grace ph c r ph') (hrec : ph.Recorded evict past) :
    ph'.Recorded evict (past ++ [⟨c, r⟩]) := by
  cases hnext with
  | called =>
    obtain rfl := hrec
    simp [Recorded, Section.counts]
  | track =>
    refine ⟨by simp, fun x hx => ?_⟩
    rcases mem_snoc.1 hx with hx | rfl
    · exact hrec.2 x hx
    · rfl
  | count => exact fun _ => ⟨_, List.mem_append_right _ (.head _), rfl⟩
  | evict | forget =>
    intro he
    obtain ⟨x, hx, hcount⟩ := hrec he
    exact ⟨x, List.mem_append_left _ hx, hcount⟩

end

/-! ### Every run -/

/-- A thread that is not a Reconcile has its one section before it or behind it. -/
def Plain (enabled : Bool) (t : Running) : Prop :=
  t.job.reconciles = false → t.rest = t.job.body enabled ∨ ∃ res, t.rest = .ret res

/-- A Reconcile stands where it may rely on what its phase asks for. -/
def Stands (enabled : Bool) (absent : Map String Int64) (σ : String → Nat) (t : Running) : Prop :=
  ∀ desired evict grace, t.job = .reconcile desired evict grace →
    ∃ ph : Phase, t.rest = ph.rest enabled desired evict grace ∧
      ph.Fits desired evict grace absent σ ∧ ph.Recorded evict t.past

/-- An evicting Reconcile that was called, lists `v` and has not counted. -/
def Relists (v : String) (t : Running) : Prop :=
  ∃ desired grace, t.job = .reconcile desired true grace ∧ undecided t = true ∧ v ∈ wanted desired

def Apart (j j' : Job) : Prop := j.reconciles = true → j'.reconciles = false

structure Accounted (enabled : Bool) (ms : List Moved) (p : System) : Prop where
  graceful : Graceful ms
  apart : (p.threads.map Thread.job).Pairwise Apart
  plain : ∀ t ∈ p.threads, Plain enabled t
  stands : ∀ t ∈ p.threads, Stands enabled p.world.absent (fun v => streak v (sections ms)) t
  counted : ∀ v, missed p.world.absent v ≤ streak v (sections ms) ∨
    ∃ t ∈ p.threads, Relists v t

variable {t : Running}

variable {evict : Bool} {i : Nat}

section

variable {enabled : Bool} {ms : List Moved} {p : System}

theorem accounted_start (node : String) : Accounted enabled [] ⟨.empty node, (), []⟩ where
  graceful := graceful_nil
  apart := .nil
  plain := by simp
  stands := by simp
  counted v := .inl (Int.le_of_eq (missed_of_notMem (AList.notMem_empty v)))

theorem undecided_of_tracking {left : List TrackSpec}
    (h : (Phase.tracking left).Recorded evict t.past) : undecided t = true := by
  obtain ⟨hne, hnot⟩ := h
  simp only [undecided, Bool.and_eq_true, Bool.not_eq_true', List.isEmpty_eq_false_iff,
    List.all_eq_true]
  exact ⟨hne, hnot⟩

/-- An evicting Reconcile that was called and has not counted is at its tracking. -/
theorem tracking_of_undecided {ph : Phase} (h : ph.Recorded true t.past) (hund : undecided t = true) :
    ∃ left, ph = .tracking left := by
  simp only [undecided, Bool.and_eq_true, Bool.not_eq_true', List.isEmpty_eq_false_iff,
    List.all_eq_true] at hund
  obtain ⟨hne, hnot⟩ := hund
  have hcounted : ¬ ∃ x ∈ t.past, x.1.counts = true := by
    rintro ⟨x, hx, hcount⟩
    rw [hnot x hx] at hcount
    cases hcount
  cases ph with
  | start => exact absurd h hne
  | tracking left => exact ⟨left, rfl⟩
  | evicting | forgetting | done => exact absurd (h rfl) hcounted

theorem Accounted.spawn (h : Accounted enabled ms p) {job : Job}
    (hok : job.reconciles = true → ∀ t ∈ p.threads, t.job.reconciles = false) :
    Accounted enabled ms { p with threads := p.threads ++ [⟨job, [], job.body enabled⟩] } where
  graceful := h.graceful
  apart := by
    rw [List.map_append, List.pairwise_append]
    refine ⟨h.apart, List.pairwise_singleton _ _, ?_⟩
    intro j hj j' hj' hrec
    obtain ⟨t, ht, rfl⟩ := List.mem_map.1 hj
    obtain rfl := List.mem_singleton.1 hj'
    by_contra hjob
    rw [hok (by simpa using hjob) t ht] at hrec
    cases hrec
  plain t ht := by
    rcases mem_snoc.1 ht with ht | rfl
    · exact h.plain t ht
    · exact fun _ => .inl rfl
  stands t ht := by
    rcases mem_snoc.1 ht with ht | rfl
    · exact h.stands t ht
    · rintro desired evict grace rfl
      exact ⟨.start, rfl, trivial, rfl⟩
  counted v := (h.counted v).imp_right fun ⟨t, ht, hre⟩ => ⟨t, List.mem_append_left _ ht, hre⟩

theorem not_relists_of_ret {σ : String → Nat} (hstands : Stands enabled absent σ t)
    {res : List String} (hret : t.rest = .ret res) (v : String) : ¬ Relists v t := by
  rintro ⟨desired, grace, hjob, hund, -⟩
  obtain ⟨ph, hrest, -, hrec⟩ := hstands _ _ _ hjob
  obtain ⟨left, rfl⟩ := tracking_of_undecided hrec hund
  rw [hret] at hrest
  rcases trackAll_cases left with hnone | ⟨d, ds, -, -, hsome⟩
  · simp only [Phase.rest, hnone] at hrest
    cases hrest
  · simp only [Phase.rest, hsome] at hrest
    cases hrest

theorem Accounted.finish (h : Accounted enabled ms p) (ht : p.threads[i]? = some t)
    {res : List String} (hret : t.rest = .ret res) :
    Accounted enabled ms { p with threads := p.threads.eraseIdx i } where
  graceful := h.graceful
  apart := h.apart.sublist ((List.eraseIdx_sublist _ _).map _)
  plain t' ht' := h.plain t' (List.mem_of_mem_eraseIdx ht')
  stands t' ht' := h.stands t' (List.mem_of_mem_eraseIdx ht')
  counted v := by
    refine (h.counted v).imp_right fun ⟨t', ht', hre⟩ => ⟨t', ?_, hre⟩
    obtain ⟨j, hj⟩ := List.mem_iff_getElem?.1 ht'
    refine List.mem_eraseIdx_iff_getElem?.2 ⟨j, ?_, hj⟩
    rintro rfl
    obtain rfl : t' = t := Option.some.inj (hj.symm.trans ht)
    exact not_relists_of_ret (h.stands t' ht') hret v hre

/-- Two threads at different places are not both a Reconcile. -/
theorem Accounted.other (h : Accounted enabled ms p) {j : Nat} {t' : Running} (hij : j ≠ i)
    (ht : p.threads[i]? = some t) (ht' : p.threads[j]? = some t') (hrec : t.job.reconciles = true) :
    t'.job.reconciles = false := by
  have hi : (p.threads.map Thread.job)[i]? = some t.job := by simp [ht]
  have hj : (p.threads.map Thread.job)[j]? = some t'.job := by simp [ht']
  obtain ⟨hil, hi⟩ := List.getElem?_eq_some_iff.1 hi
  obtain ⟨hjl, hj⟩ := List.getElem?_eq_some_iff.1 hj
  have hapart := List.pairwise_iff_getElem.1 h.apart
  rcases Nat.lt_or_gt_of_ne hij with hlt | hlt
  · have hji := hapart j i hjl hil hlt
    rw [hi, hj] at hji
    by_contra hrec'
    rw [hji (by simpa using hrec')] at hrec
    cases hrec
  · have hijs := hapart i j hil hjl hlt
    rw [hi, hj] at hijs
    exact hijs hrec

theorem map_job_set {t' : Running} (ht : p.threads[i]? = some t) (hjob : t'.job = t.job) :
    (p.threads.set i t').map Thread.job = p.threads.map Thread.job := by
  rw [List.map_set, hjob]
  refine List.ext_getElem? fun j => ?_
  by_cases hj : i = j
  · subst hj
    simp [List.getElem?_set_self', ht]
  · rw [List.getElem?_set_ne hj]

variable {i : Nat} {t : Running} {c : Section} {k : c.Reply → Op (List String)}
  {order : List String}

/-- The run after thread `i` was answered. -/
def answered (p : System) (i : Nat) (t : Running) (c : Section) (order : List String)
    (k : c.Reply → Op (List String)) : System :=
  { p with
    world := (act p.world c order).2
    threads := p.threads.set i (t.answer c (act p.world c order).1 k) }

def moved (p : System) (t : Running) (c : Section) (order : List String) : Moved :=
  ⟨t, ⟨p.world, c, order, (act p.world c order).1⟩⟩

theorem Accounted.apart_answered (h : Accounted enabled ms p) (ht : p.threads[i]? = some t) :
    ((answered p i t c order k).threads.map Thread.job).Pairwise Apart := by
  have hjobs : (p.threads.set i (t.answer c (act p.world c order).1 k)).map Thread.job =
      p.threads.map Thread.job := map_job_set ht rfl
  change (List.map Thread.job (p.threads.set i _)).Pairwise Apart
  rw [hjobs]
  exact h.apart

theorem Accounted.sweep (h : Accounted enabled ms p) (ht : p.threads[i]? = some t)
    (hrest : t.rest = .call c k) {desired : List TrackSpec} {grace : Int}
    (hjob : t.job = .reconcile desired evict grace)
    (hok : t.past = [] → ∀ v ∈ t.job.listed, v ∉ p.world.absent) :
    Accounted enabled (ms ++ [moved p t c order]) (answered p i t c order k) := by
  have hmem := List.mem_of_getElem? ht
  have hrec : t.job.reconciles = true := by rw [hjob]; rfl
  obtain ⟨ph, hph, hfits, hrecd⟩ := h.stands t hmem desired evict grace hjob
  rw [hph] at hrest
  obtain ⟨ph', hnext, hk⟩ := Phase.next_of_rest hrest (act p.world c order).1
  -- the other threads are no Reconcile
  have hothers : ∀ t' ∈ (answered p i t c order k).threads,
      t' = t.answer c (act p.world c order).1 k ∨ t' ∈ p.threads ∧ t'.job.reconciles = false := by
    intro t' ht'
    rcases mem_set_cases ht' with rfl | ⟨j, hji, hj⟩
    · exact .inl rfl
    · exact .inr ⟨List.mem_of_getElem? hj, h.other hji ht hj hrec⟩
  have hlisted : ph = .start → evict = false → ∀ v ∈ wanted desired, v ∉ p.world.absent := by
    rintro rfl rfl v hv
    refine hok hrecd v ?_
    rw [hjob]
    exact hv
  have hcounted : ∀ v, missed p.world.absent v ≤ streak v (sections ms) ∨
      ∃ left, ph = .tracking left ∧ evict = true ∧ v ∈ wanted desired := by
    intro v
    refine (h.counted v).imp_right ?_
    rintro ⟨t', ht', desired', grace', hjob', hund, hv⟩
    obtain ⟨j, hj⟩ := List.mem_iff_getElem?.1 ht'
    obtain rfl : j = i := by
      by_contra hji
      have hnot := h.other hji ht hj hrec
      rw [hjob'] at hnot
      cases hnot
    obtain rfl : t = t' := Option.some.inj (ht.symm.trans hj)
    rw [hjob] at hjob'
    cases hjob'
    obtain ⟨left, rfl⟩ := tracking_of_undecided hrecd hund
    exact ⟨left, rfl, rfl, hv⟩
  have hstart : ph = .start → ∀ v, missed p.world.absent v ≤ streak v (sections ms) := by
    rintro rfl v
    rcases hcounted v with hle | ⟨left, hleft, -⟩
    · exact hle
    · cases hleft
  have hfits' := hnext.fits rfl hfits fun hph => ⟨hstart hph, hlisted hph⟩
  refine ⟨graceful_snoc h.graceful ?_, ?_, ?_, ?_, ?_⟩
  · rintro desired' grace' v ⟨hjob', hcall, -⟩
    obtain rfl : c = .untrack v := hcall
    cases hjob.symm.trans hjob'
    exact hnext.evicted hfits
  · exact h.apart_answered ht
  · intro t' ht'
    rcases hothers t' ht' with rfl | ⟨ht', -⟩
    · intro hnot
      cases hrec.symm.trans hnot
    · exact h.plain t' ht'
  · intro t' ht'
    rcases hothers t' ht' with rfl | ⟨-, hnot⟩
    · intro desired' evict' grace' hjob'
      cases hjob.symm.trans hjob'
      refine ⟨ph', hk, ?_, hnext.recorded hrecd⟩
      simp only [sections_snoc, streak_snoc]
      exact hfits'
    · intro desired' evict' grace' hjob'
      rw [hjob'] at hnot
      cases hnot
  · intro v
    simp only [sections_snoc, streak_snoc]
    refine (hnext.counted hfits hlisted (hcounted v)).imp_right ?_
    rintro ⟨left, rfl, rfl, hv⟩
    refine ⟨t.answer c (act p.world c order).1 k, ?_, desired, grace, hjob, ?_, hv⟩
    · exact List.mem_iff_getElem?.2 ⟨i, by simp [answered, List.getElem?_set_self', ht]⟩
    · exact undecided_of_tracking (hnext.recorded hrecd)

theorem body_cases {job : Job} (hjob : job.reconciles = false)
    (h : job.body enabled = .call c k) :
    ((∃ d, job = .track d ∧ c = .track d) ∨ ∃ id, job = .untrack id ∧ c = .untrack id) ∧
      ∀ r, ∃ res, k r = .ret res := by
  cases job with
  | track d =>
    by_cases hskip : enabled = false ∨ d.volumeID = ""
    · simp only [Job.body, track, if_pos hskip] at h
      cases h
    · simp only [Job.body, track, if_neg hskip] at h
      cases h
      exact ⟨.inl ⟨d, rfl, rfl⟩, fun _ => ⟨[], rfl⟩⟩
  | untrack id =>
    cases h
    exact ⟨.inr ⟨id, rfl, rfl⟩, fun _ => ⟨[], rfl⟩⟩
  | reconcile => cases hjob

/-- A Reconcile does not mind that the streak of a volume ends that has no counter and that it
does not overlook. -/
theorem Phase.Fits.aside {desired : List TrackSpec} {grace : Int} {ph : Phase} {σ τ : String → Nat}
    (h : ph.Fits desired evict grace absent σ) (hσ : ∀ v, τ v = σ v ∨ v ∉ absent ∧ ∀ left, ph =
      .tracking left → evict = true → v ∈ wanted desired) :
    ph.Fits desired evict grace absent τ := by
  have hleft : ∀ left : List String,
      (∀ v ∈ left, v ∉ wanted desired ∧ max 1 grace ≤ σ v ∧ v ∈ absent) →
      ∀ v ∈ left, v ∉ wanted desired ∧ max 1 grace ≤ τ v ∧ v ∈ absent := by
    intro left hall v hv
    obtain ⟨hwant, hgrace, hin⟩ := hall v hv
    rcases hσ v with heq | ⟨hnot, -⟩
    · rw [heq]
      exact ⟨hwant, hgrace, hin⟩
    · exact absurd hin hnot
  cases ph with
  | start | done => trivial
  | tracking left =>
    refine ⟨h.1, fun he v hv => ?_, h.2.2⟩
    rcases hσ v with heq | ⟨-, hwant⟩
    · rw [heq]
      exact h.2.1 he v hv
    · exact absurd (hwant left rfl he) hv
  | evicting left | forgetting _ left => exact ⟨h.1, hleft left h.2⟩

/-- A section of another job: it leaves the counters, and the streaks but for that of a volume
that may be tracked. -/
theorem Accounted.aside (h : Accounted enabled ms p) (ht : p.threads[i]? = some t)
    (hjob : t.job.reconciles = false) (hret : ∀ r, ∃ res, k r = .ret res)
    (habsent : (act p.world c order).2.absent = p.world.absent)
    (hstreak : ∀ v, note v (streak v (sections ms)) c = streak v (sections ms) ∨
      v ∉ p.world.absent ∧ ∀ t' ∈ p.threads, ¬ Overlooks v t') :
    Accounted enabled (ms ++ [moved p t c order]) (answered p i t c order k) := by
  have hothers : ∀ t' ∈ (answered p i t c order k).threads,
      t' = t.answer c (act p.world c order).1 k ∨ t' ∈ p.threads := by
    intro t' ht'
    rcases mem_set_cases ht' with rfl | ⟨j, -, hj⟩
    · exact .inl rfl
    · exact .inr (List.mem_of_getElem? hj)
  refine ⟨graceful_snoc h.graceful ?_, h.apart_answered ht, ?_, ?_, ?_⟩
  · rintro desired grace v ⟨hjob', -, -⟩
    have hjob' : t.job = .reconcile desired true grace := hjob'
    rw [hjob'] at hjob
    cases hjob
  · intro t' ht'
    rcases hothers t' ht' with rfl | ht'
    · exact fun _ => .inr (hret _)
    · exact h.plain t' ht'
  · intro t' ht'
    rcases hothers t' ht' with rfl | ht'
    · intro desired evict grace hjob'
      have hjob' : t.job = .reconcile desired evict grace := hjob'
      rw [hjob'] at hjob
      cases hjob
    · intro desired evict grace hjob'
      obtain ⟨ph, hrest, hfits, hrec⟩ := h.stands t' ht' desired evict grace hjob'
      refine ⟨ph, hrest, ?_, hrec⟩
      simp only [sections_snoc, streak_snoc]
      change ph.Fits desired evict grace (act p.world c order).2.absent _
      rw [habsent]
      refine hfits.aside fun v => (hstreak v).imp_right fun hv => ⟨hv.1, ?_⟩
      rintro left rfl rfl
      by_contra hwant
      refine hv.2 t' ht' ⟨undecided_of_tracking hrec, ?_⟩
      rw [hjob']
      simpa [Job.spared] using hwant
  · intro v
    simp only [sections_snoc, streak_snoc]
    change missed (act p.world c order).2.absent v ≤ note v _ c ∨ _
    rw [habsent]
    rcases hstreak v with heq | ⟨hnot, -⟩
    · rw [heq]
      refine (h.counted v).imp_right ?_
      rintro ⟨t', ht', hre⟩
      obtain ⟨j, hj⟩ := List.mem_iff_getElem?.1 ht'
      have hji : i ≠ j := by
        rintro rfl
        obtain rfl : t = t' := Option.some.inj (ht.symm.trans hj)
        obtain ⟨desired, grace, hjob', -⟩ := hre
        rw [hjob'] at hjob
        cases hjob
      refine ⟨t', List.mem_iff_getElem?.2 ⟨j, ?_⟩, hre⟩
      change (p.threads.set i _)[j]? = some t'
      rw [List.getElem?_set_ne hji, hj]
    · rw [missed_of_notMem hnot]
      exact .inl (by omega)

theorem Accounted.step (h : Accounted enabled ms p) (ht : p.threads[i]? = some t)
    (hrest : t.rest = .call c k)
    (htrack : ∀ v ∈ t.job.tracked, v ∉ p.world.absent ∧ ∀ t' ∈ p.threads, ¬ Overlooks v t')
    (hlist : t.past = [] → ∀ v ∈ t.job.listed, v ∉ p.world.absent) :
    Accounted enabled (ms ++ [moved p t c order]) (answered p i t c order k) := by
  cases hjob : t.job.reconciles with
  | true =>
    unfold Job.reconciles at hjob
    split at hjob
    · next desired evict grace heq => exact h.sweep ht hrest heq hlist
    · cases hjob
  | false =>
    rcases h.plain t (List.mem_of_getElem? ht) hjob with hbody | ⟨res, hres⟩
    · obtain ⟨⟨d, hd, rfl⟩ | ⟨id, hid, rfl⟩, hret⟩ := body_cases hjob (hbody.symm.trans hrest)
      · refine h.aside ht hjob hret (absent_track _ _) fun v => ?_
        by_cases hv : d.volumeID = v
        · subst hv
          exact .inr (htrack _ (by rw [hd]; rfl))
        · exact .inl (if_neg hv)
      · exact h.aside ht hjob hret rfl fun v => .inl rfl
    · rw [hrest] at hres
      cases hres

end

/-- In a considerate run, a Reconcile removes a volume only if it does not list the volume and the
volume has had its grace: at least that many Reconcile calls in a row, this one included, have
missed it since it was last passed to Track. -/
theorem eviction_grace {enabled : Bool} {node : String} {ms : List Moved} {q : System}
    (h : Run enabled Considerate (.empty node) ms q) : Graceful ms := by
  refine (h.history (I := Accounted enabled) (accounted_start node) ?_).graceful
  intro ms q a ms' q' hq hok hnext
  rcases Pool.next_cases hnext with ⟨job, locks, rfl, -, rfl, rfl⟩ |
    ⟨i, order, t, c, k, rfl, ht, hrest, rfl, rfl⟩ | ⟨i, t, res, rfl, ht, hret, rfl, rfl⟩
  · rw [List.append_nil]
    exact hq.spawn hok
  · obtain ⟨htrack, hlist⟩ := hok t ht
    exact hq.step ht hrest htrack hlist
  · rw [List.append_nil]
    exact hq.finish ht hret

def specV : TrackSpec := ⟨"v", "/staging/v", .mount⟩

/-- Track `v`, then two sweeps that do not list it, one after the other. -/
def twoSweeps : List (Action Job (List String)) :=
  [.spawn (.track specV), .step 0 [], .finish 0,
    .spawn (.reconcile [] true 2), .step 0 [], .step 0 [], .finish 0,
    .spawn (.reconcile [] true 2), .step 0 [], .step 0 [], .step 0 [], .step 0 [], .finish 0]

theorem eviction_grace_two : ∃ ms q, Run true Considerate (.empty "n") ms q ∧
    (∃ m ∈ ms, Evicts m [] 2 "v") ∧ Graceful ms := by
  obtain ⟨ms, q, hrun, hevicts⟩ := reach_of_run act (Job.body true) (fun _ _ => some ())
    (fun _ _ => ()) Considerate ⟨.empty "n", (), []⟩ twoSweeps
    (fun ms _ => ∃ m ∈ ms, Evicts m [] 2 "v") (by decide)
  exact ⟨ms, q, hrun, hevicts, eviction_grace hrun⟩

/-- The volume is staged again between the two sweeps: one sweep has missed it since, and it is
evicted with a grace of two. -/
theorem evicted_before_grace : ¬ ∀ enabled node ms q,
    Run enabled (fun _ _ => True) (.empty node) ms q → Graceful ms := by
  intro h
  obtain ⟨ms, q, hrun, m, hm, hevicts, hstreak⟩ := reach_of_run act (Job.body true)
    (fun _ _ => some ()) (fun _ _ => ()) (fun _ _ => True) ⟨.empty "n", (), []⟩
    [.spawn (.track specV), .step 0 [], .finish 0,
      .spawn (.reconcile [] true 2), .step 0 [], .step 0 [], .finish 0,
      .spawn (.track specV), .step 0 [], .finish 0,
      .spawn (.reconcile [] true 2), .step 0 [], .step 0 [], .step 0 []]
    (fun ms _ => ∃ m ∈ ms[6]?, Evicts m [] 2 "v" ∧ streak "v" (sections (ms.take 6)) = 1)
    (by decide)
  have hpre : ms.take 6 ++ [m] <+: ms := by
    have htake : ms.take 7 = ms.take 6 ++ [m] := by
      rw [List.take_add_one, Option.mem_def.1 hm]
      rfl
    exact htake ▸ List.take_prefix 7 ms
  have hgrace := (h true "n" ms q hrun _ m hpre [] 2 "v" hevicts).2
  rw [hstreak] at hgrace
  revert hgrace
  decide

end NomadCsi.Stats
