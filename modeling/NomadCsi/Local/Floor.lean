import NomadCsi.Csi.Locks
import NomadCsi.Lib.Pool
import NomadCsi.Local.Reserve

/-!
# The reserve under concurrent creates

`localCreate` reads the available bytes of the pool and creates the zvol by a later command.
The locks of the CSI server are by name, and a request that another node forwards takes none,
so any number of creates run side by side on one pool.
-/

namespace NomadCsi.Local

open Lib Lib.Go Driver Zfs Csi

/-- A localCreate: for a CreateVolume RPC of this node, or for a request from another node. -/
inductive CreateJob where
  | rpc (req : CreateVolumeRequest) (a : CreateArgs)
  | forwarded (a : CreateArgs)

namespace CreateJob

def args : CreateJob → CreateArgs
  | rpc _ a => a
  | forwarded a => a

/-- Only an RPC goes through the locks. -/
def accept : CreateJob → KeyedLocker → Option KeyedLocker
  | rpc req _, k => (Rpc.createVolume req).accept k
  | forwarded _, k => some k

def leave : CreateJob → KeyedLocker → KeyedLocker
  | rpc req _, k => (Rpc.createVolume req).leave k
  | forwarded _, k => k

/-- A create of an empty volume on this pool. -/
def Fresh (pool : String) (job : CreateJob) : Prop :=
  job.args.pool = pool ∧ contentSourceID job.args = ""

instance (pool : String) (job : CreateJob) : Decidable (job.Fresh pool) :=
  inferInstanceAs (Decidable (_ ∧ _))

end CreateJob

abbrev Creating := Thread Cmd Cmd.Reply CreateJob (Except Error CreateResult)
abbrev Creates := Lib.Pool Cmd Cmd.Reply Store CreateJob KeyedLocker (Except Error CreateResult)
abbrev CreateMove := Move Cmd Cmd.Reply Store Fault CreateJob (Except Error CreateResult)

/-- Creates side by side, interleaved command by command. -/
abbrev CreateRun (c : Controller) (Ok : Creates → Action CreateJob Fault → Prop) (s : Store)
    (ms : List CreateMove) (q : Creates) : Prop :=
  Reach zfsAct (fun job => (localCreate c job.args).run) CreateJob.accept CreateJob.leave Ok
    ⟨s, .empty, []⟩ ms q

def isAvailable : Cmd → Bool
  | .available _ => true
  | _ => false

def isCreate : Cmd → Bool
  | .create _ _ _ => true
  | _ => false

/-- Has read the available bytes, and neither created its zvol nor ended. -/
def pending (t : Creating) : Bool :=
  match t.rest with
  | .ret _ => false
  | .call _ _ => t.past.any (isAvailable ·.1) && t.past.all (!isCreate ·.1)

def creates (t : Creating) : Bool :=
  match t.rest with
  | .ret _ => false
  | .call c _ => isCreate c

/-- Fresh creates on one pool; none creates its zvol while another one is between its read of the
available bytes and its zvol. -/
def Alone (pool : String) (p : Creates) : Action CreateJob Fault → Prop
  | .spawn job => job.Fresh pool
  | .step i _ => p.threads[i]?.any creates = true → ∀ t ∈ p.threads.eraseIdx i, pending t = false
  | .finish _ => True

instance (pool : String) (p : Creates) : (a : Action CreateJob Fault) → Decidable (Alone pool p a)
  | .spawn _ => inferInstanceAs (Decidable (CreateJob.Fresh _ _))
  | .step _ _ => inferInstanceAs (Decidable (_ → _))
  | .finish _ => .isTrue trivial

/-! ### What a create has read -/

/-- A command of a fresh create: it reads, or it creates a zvol for which the bytes read suffice. -/
def Checked (c : Controller) (a : CreateArgs) (past : Past Cmd Cmd.Reply) (cmd : Cmd) : Prop :=
  cmd.reads = true ∨ (∃ block, cmd = .create (a.dataset c) a.sizeBytes block) ∧
    (∀ x ∈ past, x.1.reads = true) ∧ ∃ avail total, ⟨.available a.pool, .ok avail⟩ ∈ past ∧
      ⟨.poolSize a.pool, .ok total⟩ ∈ past ∧ a.sizeBytes ≤ overReserve c.cfg a.pool avail total

variable {cmd : Cmd}

section

variable {c : Controller} {a : CreateArgs} {past : Past Cmd Cmd.Reply}

theorem plays_reads {ε α : Type} {x : Script ε α}
    (hx : x.run.Calls (·.reads = true)) (hpast : ∀ x ∈ past, x.1.reads = true) :
    Plays (Checked c a) x past (fun _ past' => ∀ x ∈ past', x.1.reads = true)
      fun _ _ => True := by
  refine (Plays.of_calls_heard hx fun _ hc _ => .inl hc).mono (fun _ past' h x hx => ?_)
    fun _ _ _ => trivial
  exact (h.2 x hx).elim (hpast x) id

theorem plays_command {msg : String} {Q : cmd.Out → Past Cmd Cmd.Reply → Prop}
    (hG : Checked c a past cmd) (hQ : ∀ v, Q v (past ++ [⟨cmd, .ok v⟩])) :
    Plays (Checked c a) (perform cmd >>= fun r => outcome msg r : Tool cmd.Out) past Q
      fun _ _ => True := by
  refine .bind (Q := fun r past' => past' = past ++ [(⟨cmd, r⟩ : (c : Cmd) × c.Reply)])
    (Plays.call (f := Except.ok) hG fun _ => rfl) ?_
  rintro (e | v) _ rfl
  · exact .throw trivial
  · exact .pure (hQ v)

theorem plays_createFresh (hpast : ∀ x ∈ past, x.1.reads = true) :
    Plays (Checked c a) (createFresh c a (a.dataset c)) past (fun _ _ => True)
      fun _ _ => True := by
  unfold createFresh checkCapacity
  refine .bind (Q := fun _ past' => (∀ x ∈ past', x.1.reads = true) ∧ ∃ avail total,
    ⟨.available a.pool, .ok avail⟩ ∈ past' ∧ ⟨.poolSize a.pool, .ok total⟩ ∈ past' ∧
      a.sizeBytes ≤ overReserve c.cfg a.pool avail total) ?_ fun _ past' h => ?_
  · refine .bind (Q := fun avail past' => past' = past ++ [⟨.available a.pool, .ok avail⟩])
      (.onError (plays_command (.inl rfl) fun _ => rfl)) ?_
    rintro avail _ rfl
    refine .bind (Q := fun total past' => past' =
      past ++ [⟨.available a.pool, .ok avail⟩] ++ [⟨.poolSize a.pool, .ok total⟩])
      (.onError (plays_command (.inl rfl) fun _ => rfl)) ?_
    rintro total _ rfl
    dsimp only
    split
    · exact .throw trivial
    · next hleft =>
      refine .pure ⟨fun x hx => ?_, avail, total, by simp, by simp, Int.not_lt.1 hleft⟩
      simp only [List.mem_append, List.mem_singleton] at hx
      rcases hx with (hx | rfl) | rfl
      · exact hpast x hx
      · rfl
      · rfl
  · exact .onError (plays_command (.inr ⟨⟨_, rfl⟩, h⟩) fun _ => trivial)

theorem plays_localCreate (ha : contentSourceID a = "") :
    Plays (Checked c a) (localCreate c a) [] (fun _ _ => True) fun _ _ => True := by
  have hsettle : ∀ past : Past Cmd Cmd.Reply, (∀ x ∈ past, x.1.reads = true) →
      Plays (Checked c a) (settleDataset c a (a.dataset c)) past (fun _ _ => True)
        fun _ _ => True := by
    intro past hpast
    refine .bind (plays_reads (calls_onError (calls_datasetExists rfl)) hpast)
      fun found past hpast => ?_
    cases found with
    | true =>
      exact (plays_reads (calls_checkExisting rfl rfl) hpast).mono (fun _ _ _ => trivial)
        fun _ _ _ => trivial
    | false =>
      have hfresh : provision c a (a.dataset c) = createFresh c a (a.dataset c) := by
        obtain ⟨hsnap, hvol⟩ := contentSourceID_eq_empty.1 ha
        unfold provision
        rw [if_neg (not_not.2 hsnap), if_neg (not_not.2 hvol)]
      change Plays (Checked c a) (provision c a (a.dataset c)) past _ _
      rw [hfresh]
      exact plays_createFresh hpast
  refine .bind (plays_reads (x := poolReady a.pool) ?_ (by simp)) fun ready past hpast => ?_
  · exact calls_run_bind (calls_onError (calls_poolStatus rfl)) fun _ => trivial
  cases ready with
  | true => exact .bind (hsettle past hpast) fun _ _ _ => .pure trivial
  | false => exact .throw trivial

end

/-! ### What each create knows -/

section

variable (c : Controller) (pool : String) (p : Zfs.Pool)

/-- The pool has `n` bytes available, over the reserve. -/
def Over (s : Store) (n : Int) : Prop :=
  ∃ p', s.pool? pool = some p' ∧ p'.size = p.size ∧ p'.available = n ∧ floor c pool p ≤ n

/-- What the create has read of the pool was over the reserve, and as long as it is to create its
zvol no less than what it has read is available. -/
structure Informed (n : Int) (t : Creating) : Prop where
  fresh : t.job.Fresh pool
  size : ∀ k, ⟨.poolSize pool, .ok k⟩ ∈ t.past → k = p.size
  above : ∀ k, ⟨.available pool, .ok k⟩ ∈ t.past → floor c pool p ≤ k
  left : ∀ k, ⟨.available pool, .ok k⟩ ∈ t.past → pending t = true → k ≤ n

structure Watched (q : Creates) : Prop where
  threaded : Threaded (fun job => (localCreate c job.args).run) q
  informed : ∃ n, Over c pool p q.world n ∧ ∀ t ∈ q.threads, Informed c pool p n t

end

variable {k : cmd.Reply → Prog Cmd Cmd.Reply (Except Error CreateResult)}

section

variable {c : Controller} {pool : String} {p : Zfs.Pool} {n : Int} {t : Creating} {s : Store}

theorem heard_cases {cmd' : Cmd} {ch : Fault} {out : cmd'.Out} {past : Past Cmd Cmd.Reply}
    (h : ⟨cmd', .ok out⟩ ∈ past ++ [(⟨cmd, (zfsAct s cmd ch).1⟩ : (c : Cmd) × c.Reply)]) :
    ⟨cmd', .ok out⟩ ∈ past ∨ cmd = cmd' ∧ ∃ s', serve s cmd' = (.ok out, s') := by
  refine (List.mem_append.1 h).imp_right fun h => ?_
  injection List.mem_singleton.1 h with hc hr
  subst hc
  refine ⟨rfl, zfsAct_elim (Q := fun x => .ok out = x.1 → ∃ s', serve s cmd' = (.ok out, s')) ch
    ?_ ?_ (eq_of_heq hr)⟩
  · intro e he
    cases he
  · intro out' s' hs he
    cases he
    exact ⟨s', hs⟩

theorem pending_of_answer {r : cmd.Reply} (hrest : t.rest = .call cmd k)
    (h : pending (t.answer cmd r k) = true) :
    isCreate cmd = false ∧ (t.past.any (isAvailable ·.1) = true → pending t = true) := by
  have hall : (t.past ++ [(⟨cmd, r⟩ : (c : Cmd) × c.Reply)]).all (!isCreate ·.1) = true := by
    unfold pending at h
    split at h
    · cases h
    · exact (Bool.and_eq_true_iff.1 h).2
  rw [List.all_append, Bool.and_eq_true_iff] at hall
  refine ⟨by simpa using hall.2, fun hany => ?_⟩
  unfold pending
  rw [hrest]
  exact Bool.and_eq_true_iff.2 ⟨hany, hall.1⟩

/-- A create knows as much after its next command, also of a pool that it has created on. -/
theorem Informed.answer {n' : Int} (h : Informed c pool p n t) (hover : Over c pool p s n)
    {ch : Fault} (hrest : t.rest = .call cmd k) (hn : isCreate cmd = false → n' = n) :
    Informed c pool p n' (t.answer cmd (zfsAct s cmd ch).1 k) := by
  obtain ⟨p', hp', hsize, rfl, hfloor⟩ := hover
  have hread : ∀ m {s'}, serve s (.available pool) = (.ok m, s') → m = p'.available := by
    intro m s' hserve
    obtain ⟨-, p1, hp1, rfl⟩ := serve_found rfl hserve
    rw [Option.some.inj (hp'.symm.trans hp1)]
  refine ⟨h.fresh, fun m hm => ?_, fun m hm => ?_, fun m hm hpend => ?_⟩
  · rcases heard_cases hm with hm | ⟨-, s', hserve⟩
    · exact h.size m hm
    · obtain ⟨-, p1, hp1, rfl⟩ := serve_found rfl hserve
      rw [← hsize, Option.some.inj (hp'.symm.trans hp1)]
  · rcases heard_cases hm with hm | ⟨-, s', hserve⟩
    · exact h.above m hm
    · rwa [hread m hserve]
  · obtain ⟨hcreate, hbefore⟩ := pending_of_answer hrest hpend
    rw [hn hcreate]
    rcases heard_cases hm with hm | ⟨-, s', hserve⟩
    · exact h.left m hm (hbefore (List.any_eq_true.2 ⟨_, hm, rfl⟩))
    · exact Int.le_of_eq (hread m hserve)

theorem Informed.idle {n' : Int} (h : Informed c pool p n t) (ht : pending t = false) :
    Informed c pool p n' t :=
  ⟨h.fresh, h.size, h.above, fun _ _ hpend => absurd hpend (by simp [ht])⟩

/-- What a create takes leaves the reserve: it has read no more than there is. -/
theorem Over.create (hslash : '/' ∉ pool.toList) (hover : Over c pool p s n)
    (h : Informed c pool p n t) (ch : Fault) (hrest : t.rest = .call cmd k)
    (hchecked : Checked c t.job.args t.past cmd) :
    ∃ n', Over c pool p (zfsAct s cmd ch).2 n' ∧ (isCreate cmd = false → n' = n) := by
  rcases hchecked with hreads | ⟨⟨block, rfl⟩, hpast, avail, total, havail, htotal, hfits⟩
  · rw [zfsAct_reads hreads]
    exact ⟨n, hover, fun _ => rfl⟩
  obtain ⟨hpool, hfresh⟩ := h.fresh
  rw [hpool] at havail htotal hfits
  have hpend : pending t = true := by
    unfold pending
    rw [hrest]
    refine Bool.and_eq_true_iff.2 ⟨List.any_eq_true.2 ⟨_, havail, rfl⟩, ?_⟩
    refine List.all_eq_true.2 fun x hx => ?_
    have hr := hpast x hx
    cases hc : x.1 <;> first | rfl | (rw [hc] at hr; cases hr)
  obtain rfl := h.size total htotal
  have hleft := h.left avail havail hpend
  have hfloor := floor_le_of_guard (h.above avail havail) hfits
  refine zfsAct_elim (Q := fun x => ∃ n', Over c pool p x.2 n' ∧ (_ → n' = n)) ch
    (fun _ => ⟨n, hover, fun _ => rfl⟩) fun _ s' hs => ?_
  obtain ⟨p', hp', hsize, rfl, -⟩ := hover
  have hcharged := pool?_create hs
  rw [poolOf_dataset (hpool ▸ hslash), hpool, hp'] at hcharged
  refine ⟨_, ⟨_, hcharged, hsize, rfl, ?_⟩, fun hno => by cases hno⟩
  dsimp only
  omega

instance (cmd : Cmd) : Nonempty cmd.Reply := ⟨.error ⟨1, ""⟩⟩

theorem Watched.next (hslash : '/' ∉ pool.toList) {q q' : Creates} {a : Action CreateJob Fault}
    {ms : List CreateMove} (h : Watched c pool p q) (hok : Alone pool q a)
    (hnext : q.next zfsAct (fun job => (localCreate c job.args).run) CreateJob.accept
      CreateJob.leave a = some (ms, q')) : Watched c pool p q' := by
  refine ⟨h.threaded.next hnext, ?_⟩
  obtain ⟨n, hover, hinf⟩ := h.informed
  rcases Pool.next_cases hnext with ⟨job, locks, rfl, -, -, rfl⟩ |
    ⟨i, ch, t, cmd, k, rfl, ht, hrest, -, rfl⟩ | ⟨i, t, x, -, -, -, -, rfl⟩
  · refine ⟨n, hover, fun t ht => ?_⟩
    rcases mem_snoc.1 ht with ht | rfl
    · exact hinf t ht
    · exact ⟨hok, by simp, by simp, by simp⟩
  · have hmem := List.mem_of_getElem? ht
    have hchecked := h.threaded.next_call hmem hrest (plays_localCreate (hinf t hmem).fresh.2)
    obtain ⟨n', hover', hsame⟩ := hover.create hslash (hinf t hmem) ch hrest hchecked
    refine ⟨n', hover', fun t' ht' => ?_⟩
    rcases mem_set_cases ht' with rfl | ⟨j, hj, ht'⟩
    · exact (hinf t hmem).answer hover hrest hsame
    · -- another create: it is not pending while this one creates
      by_cases hcreate : isCreate cmd = true
      · refine (hinf t' (List.mem_of_getElem? ht')).idle (hok ?_ t' ?_)
        · simpa [ht, creates, hrest] using hcreate
        · exact List.mem_eraseIdx_iff_getElem?.2 ⟨j, hj, ht'⟩
      · rw [hsame (Bool.eq_false_iff.2 hcreate)]
        exact hinf t' (List.mem_of_getElem? ht')
  · exact ⟨n, hover, fun t ht => hinf t (List.mem_of_mem_eraseIdx ht)⟩

/-- Fresh creates that meet `Alone` leave the pool over its reserve, whatever fails and however
their commands interleave. -/
theorem reserve_kept {ms : List CreateMove} {q : Creates} (hslash : '/' ∉ pool.toList)
    (hpool : s.pool? pool = some p) (hfloor : floor c pool p ≤ p.available)
    (hrun : CreateRun c (Alone pool) s ms q) :
    ∃ p', q.world.pool? pool = some p' ∧ floor c pool p' ≤ p'.available := by
  have hwatched : Watched c pool p q := by
    refine (hrun.invariant (I := Watched c pool p) (E := fun _ => True)
      ⟨by simp [Threaded], _, ⟨p, hpool, rfl, rfl, hfloor⟩, by simp⟩ ?_).1
    exact fun q a ms q' h hok hnext => ⟨h.next hslash hok hnext, fun _ _ => trivial⟩
  obtain ⟨n, ⟨p', hp', hsize, rfl, hover⟩, -⟩ := hwatched.informed
  refine ⟨p', hp', ?_⟩
  unfold floor at hover ⊢
  rwa [hsize]

end

/-- A CreateVolume of this node, and a create that another node asks for. -/
def twoCreates : List (Action CreateJob Fault) :=
  [.spawn (.rpc ⟨"v1", ⟨16384, 0⟩, [], ∅, none⟩ { tankArgs with name := "v1" }),
    .spawn (.forwarded { tankArgs with name := "v2" })]

/-- The two creates one after the other: the second one is refused. -/
theorem reserve_kept_one_by_one : ∃ ms q p',
    CreateRun halfReserved (Alone "tank") (tankStore 550000) ms q ∧
    available q.world "tank" = some 533616 ∧ q.world.pool? "tank" = some p' ∧
    floor halfReserved "tank" p' ≤ p'.available := by
  obtain ⟨ms, q, hrun, hleft⟩ := reach_of_run zfsAct
    (fun job => (localCreate halfReserved job.args).run) CreateJob.accept CreateJob.leave
    (Alone "tank") ⟨tankStore 550000, .empty, []⟩
    (twoCreates ++ List.replicate 5 (.step 0 {}) ++ List.replicate 4 (.step 1 {}))
    (fun _ q => available q.world "tank" = some 533616) (by decide)
  obtain ⟨p', hp', hover⟩ := reserve_kept (by decide)
    (p := ⟨true, "ONLINE", 550000, 2 ^ 20, 550000⟩) rfl (by decide) hrun
  exact ⟨ms, q, p', hrun, hleft, hp', hover⟩

/-- Fresh creates of pairwise different names, and no command fails. A create that has ended stays
in the list, so that no later one has its name. -/
def Distinct (pool : String) (p : Creates) : Action CreateJob Fault → Prop
  | .spawn job => job.Fresh pool ∧ ∀ t ∈ p.threads, t.job.args.name ≠ job.args.name
  | .step _ ch => ch.fail = none
  | .finish _ => False

instance (pool : String) (p : Creates) :
    (a : Action CreateJob Fault) → Decidable (Distinct pool p a)
  | .spawn _ => inferInstanceAs (Decidable (_ ∧ _))
  | .step _ ch => inferInstanceAs (Decidable (ch.fail = none))
  | .finish _ => .isFalse id

/-- Both creates read the available bytes before either has created its zvol. -/
theorem reserve_lost : ¬ ∀ (c : Controller) (pool : String) (s : Store) (p : Zfs.Pool)
    (ms : List CreateMove) (q : Creates), '/' ∉ pool.toList → s.pool? pool = some p →
      floor c pool p ≤ p.available → CreateRun c (Distinct pool) s ms q →
      ∃ p', q.world.pool? pool = some p' ∧ floor c pool p' ≤ p'.available := by
  intro h
  obtain ⟨ms, q, hrun, hleft⟩ := reach_of_run zfsAct
    (fun job => (localCreate halfReserved job.args).run) CreateJob.accept CreateJob.leave
    (Distinct "tank") ⟨tankStore 550000, .empty, []⟩
    (twoCreates ++ List.replicate 4 (.step 0 {}) ++ List.replicate 4 (.step 1 {}) ++
      [.step 0 {}, .step 1 {}])
    (fun _ q => ∀ p' ∈ q.world.pool? "tank", ¬ floor halfReserved "tank" p' ≤ p'.available)
    (by decide)
  obtain ⟨p', hp', hover⟩ := h halfReserved "tank" _ ⟨true, "ONLINE", 550000, 2 ^ 20, 550000⟩ ms q
    (by decide) rfl (by decide) hrun
  exact hleft p' hp' hover

end NomadCsi.Local
