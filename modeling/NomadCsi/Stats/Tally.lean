import Mathlib.Algebra.Group.Prod
import NomadCsi.Stats.Outstanding

/-!
# What a walk counts

What the tree below a directory holds, as a relation on finite trees (`Holds`). As long as the
context of a job has not ended and no directory has failed, what the job has counted and what
its outstanding items have left make up the tree below the root (`Complete`).
-/

namespace NomadCsi.Stats

open Lib

/-! ### Trees -/

abbrev Tally := ℤ × ℤ × ℤ

def Kind.one : Kind → Tally
  | file => (1, 0, 0)
  | dir => (0, 1, 0)
  | other => (0, 0, 1)

/-- An entry with what is below it, by its name. -/
def DirEntry.tally (below : String → Tally) (de : DirEntry) : Tally :=
  de.kind.one + if de.kind = .dir then below de.name else 0

/-- The tree below a directory is finite and holds so much, the directory itself not counted. -/
inductive Holds (fs : FileSystem) : String → Tally → Prop where
  | intro {dir : String} (below : String → Tally) :
      (∀ de ∈ fs.contents dir, de.kind = .dir →
        Holds fs (fs.join dir de.name) (below de.name)) →
      Holds fs dir ((fs.contents dir).map (·.tally below)).sum

theorem sum_tally_congr {l : List DirEntry} {below below' : String → Tally}
    (h : ∀ de ∈ l, de.kind = .dir → below de.name = below' de.name) :
    (l.map (·.tally below)).sum = (l.map (·.tally below')).sum := by
  refine congrArg List.sum (List.map_congr_left fun de hde => ?_)
  unfold DirEntry.tally
  split
  · next hdir => rw [h de hde hdir]
  · rfl

namespace FileSystem

variable {fs : FileSystem} {dir : String} {n m : Tally}

theorem holds_unique (h : Holds fs dir n) (h' : Holds fs dir m) : n = m := by
  induction h generalizing m with
  | intro below _ ih =>
    cases h' with
    | intro below' hbelow' =>
      exact sum_tally_congr fun de hde hdir => ih de hde hdir (hbelow' de hde hdir)

/-- What the tree below a directory holds, if it is finite. -/
noncomputable def total (fs : FileSystem) (dir : String) : Tally := Classical.epsilon (Holds fs dir)

def Finite (fs : FileSystem) (dir : String) : Prop := ∃ n, Holds fs dir n

theorem total_eq (h : Holds fs dir n) : fs.total dir = n :=
  holds_unique (Classical.epsilon_spec ⟨n, h⟩) h

/-- An entry of a directory with the tree below it. -/
noncomputable def entry (fs : FileSystem) (dir : String) (de : DirEntry) : Tally :=
  de.tally fun name => fs.total (fs.join dir name)

theorem Finite.total (h : fs.Finite dir) :
    fs.total dir = ((fs.contents dir).map (fs.entry dir)).sum := by
  obtain ⟨n, hn⟩ := h
  rw [total_eq hn]
  cases hn with
  | intro below hbelow =>
    exact sum_tally_congr fun de hde hdir => (total_eq (hbelow de hde hdir)).symm

theorem Finite.child (h : fs.Finite dir) {de : DirEntry} (hde : de ∈ fs.contents dir)
    (hdir : de.kind = .dir) : fs.Finite (fs.join dir de.name) := by
  obtain ⟨n, hn⟩ := h
  cases hn with
  | intro below hbelow => exact ⟨_, hbelow de hde hdir⟩

/-- The types of entries are as readdir says, or as `Info` says where readdir does not know. -/
def Typed (fs : FileSystem) : Prop :=
  ∀ dir, ∀ de ∈ fs.contents dir, de.dtype = some de.kind ∨ de.dtype = none ∧ de.info = .ok de.kind

theorem Typed.classify (h : fs.Typed) {de : DirEntry} (hde : de ∈ fs.contents dir) :
    classify de = de.kind := by
  unfold Stats.classify
  rcases h dir de hde with hd | ⟨hd, hinfo⟩
  · rw [hd]
  · rw [hd, hinfo]

theorem of_readDir {entries : List DirEntry} (h : fs.readDir dir = .ok entries) :
    entries = fs.contents dir := by
  unfold readDir at h
  split at h
  · cases h
  · exact (Except.ok.inj h).symm

end FileSystem

/-! ### Counted and left to count -/

variable {roots : List String} {job job' : WalkJob} {root : String}

variable {i k : Nat}

section

variable {fs : FileSystem} {p p' : WalkPool} {t t' : WalkTask} {c c' : WalkCrew} {j : Nat}

/-- The context has not ended and no directory has failed. -/
def WalkJob.Clean (job : WalkJob) : Prop := job.ctxErr = none ∧ job.errs.total = 0

def WalkJob.tally (job : WalkJob) : Tally := (job.files, job.dirs, job.other)

theorem tally_count (job : WalkJob) (kind : Kind) : (job.count kind).tally = job.tally + kind.one := by
  cases kind with
  | other | file | dir => simp [WalkJob.count, WalkJob.tally, Kind.one]

theorem ctxErr_count (job : WalkJob) (kind : Kind) : (job.count kind).ctxErr = job.ctxErr := by
  cases kind with
  | other | file | dir => rfl

theorem errs_count (job : WalkJob) (kind : Kind) : (job.count kind).errs = job.errs := by
  cases kind with
  | other | file | dir => rfl

theorem clean_count {kind : Kind} : (job.count kind).Clean ↔ job.Clean := by
  unfold WalkJob.Clean
  rw [ctxErr_count, errs_count]

/-- What the queue has left to count for a job. -/
noncomputable def WalkPool.left (fs : FileSystem) (p : WalkPool) (j : Nat) : Tally :=
  (p.queue.map fun it => if it.job = j then fs.total it.dir else 0).sum

/-- What a goroutine has left to count for a job; an item to be given back is not counted. -/
noncomputable def WalkTask.left (fs : FileSystem) (j : Nat) : WalkTask → Tally
  | submitRoot k root => if k = j then fs.total root else 0
  | enter it | read it => if it.job = j then fs.total it.dir else 0
  | scan it entries | balance it entries =>
    if it.job = j then (entries.map (fs.entry it.dir)).sum else 0
  | count it de entries =>
    if it.job = j then ((de :: entries).map (fs.entry it.dir)).sum else 0
  | add it child entries | submit it child entries =>
    if it.job = j then fs.total child + (entries.map (fs.entry it.dir)).sum else 0
  | _ => 0

/-- A directory of the tree that its job walks. -/
def Under (fs : FileSystem) (roots : List String) (it : WalkItem) : Prop :=
  ∃ root, roots[it.job]? = some root ∧ (fs.Finite root → fs.Finite it.dir)

/-- What is known of a goroutine, the roots of the jobs given: it works on directories of the
tree and on entries of them, and what it has read or returned is the whole tree. -/
def Good (fs : FileSystem) (roots : List String) (p : WalkPool) : WalkTask → Prop
  | .submitRoot j root | .balanceRoot j root | .wait j root | .load j root => roots[j]? = some root
  | .judge j root files dirs other => roots[j]? = some root ∧ ∀ job, p.jobs[j]? = some job →
      job.Clean → fs.Finite root → (files, dirs, other) = fs.total root
  | .returned _ root res => res.err = none → fs.Finite root →
      (res.files, res.dirs, res.other) = fs.total root
  | .enter it | .read it => Under fs roots it
  | .scan it entries | .balance it entries =>
    Under fs roots it ∧ ∀ de ∈ entries, de ∈ fs.contents it.dir
  | .count it de entries => Under fs roots it ∧ ∀ e ∈ de :: entries, e ∈ fs.contents it.dir
  | .add it child entries | .submit it child entries => Under fs roots it ∧
      Under fs roots ⟨child, it.job⟩ ∧ ∀ de ∈ entries, de ∈ fs.contents it.dir
  | _ => True

theorem left_push (it : WalkItem) : WalkPool.left fs { p with queue := p.queue ++ [it] } j =
    p.left fs j + if it.job = j then fs.total it.dir else 0 := by
  unfold WalkPool.left
  rw [List.map_append, List.sum_append, List.map_singleton, List.sum_singleton]

theorem left_pop {it : WalkItem} {queue : List WalkItem} (h : p.queue = it :: queue) :
    p.left fs j =
      (if it.job = j then fs.total it.dir else 0) + WalkPool.left fs { p with queue } j := by
  unfold WalkPool.left
  rw [h, List.map_cons, List.sum_cons]

/-- Once the pool is closed, its context has ended and so have those of all jobs. -/
structure Shut (p : WalkPool) : Prop where
  cancelled : p.closed = true → p.cancelled = true
  jobs : p.cancelled = true → ∀ (j : Nat) (job : WalkJob), p.jobs[j]? = some job →
    job.ctxErr.isSome = true

theorem WalkJob.Clean.ctx (h : job.Clean) : ¬ job.ctxErr.isSome = true := by
  rw [h.1]
  exact Bool.false_ne_true

theorem Shut.not_closed (h : Shut p) (hjob : p.jobs[j]? = some job) (hclean : job.Clean) :
    ¬ p.closed = true :=
  fun hclosed => hclean.ctx (h.jobs (h.cancelled hclosed) j job hjob)

theorem of_update {f : WalkJob → WalkJob} (h : (p.update k f).jobs[j]? = some job') :
    ∃ job, p.jobs[j]? = some job ∧ job' = if k = j then f job else job := by
  rw [WalkPool.job_update] at h
  split at h
  · next hk =>
    obtain ⟨job, hjob, rfl⟩ := Option.map_eq_some_iff.1 h
    exact ⟨job, hjob, (if_pos hk).symm⟩
  · next hk => exact ⟨job', h, (if_neg hk).symm⟩

theorem of_wgAdd {n : Int} (h : (p.wgAdd k n).jobs[j]? = some job') (hclean : job'.Clean) :
    ∃ job, p.jobs[j]? = some job ∧ job.Clean ∧ job'.tally = job.tally := by
  obtain ⟨job, hjob, rfl⟩ := of_update h
  split at hclean
  · next hk =>
    rw [if_pos hk]
    exact ⟨job, hjob, hclean, rfl⟩
  · next hk =>
    rw [if_neg hk]
    exact ⟨job, hjob, hclean, rfl⟩

theorem of_count {kind : Kind} (h : (p.update k (·.count kind)).jobs[j]? = some job')
    (hclean : job'.Clean) : ∃ job, p.jobs[j]? = some job ∧ job.Clean ∧
      job'.tally = job.tally + if k = j then kind.one else 0 := by
  obtain ⟨job, hjob, rfl⟩ := of_update h
  split at hclean
  · next hk =>
    rw [if_pos hk, if_pos hk]
    exact ⟨job, hjob, clean_count.1 hclean, tally_count job kind⟩
  · next hk =>
    rw [if_neg hk, if_neg hk]
    exact ⟨job, hjob, hclean, (add_zero _).symm⟩

/-- While a job is clean, a step moves directories and entries between what is counted and what
is left to count. -/
theorem WalkMove.counts (h : WalkMove fs p t p' t') (htyped : fs.Typed) (hshut : Shut p)
    (hgood : Good fs roots p t) (hroot : roots[j]? = some root) (hfinite : fs.Finite root)
    (hj : j < p.jobs.length) (hjob' : p'.jobs[j]? = some job') (hclean : job'.Clean) :
    ∃ job, p.jobs[j]? = some job ∧ job.Clean ∧
      job'.tally + (p'.left fs j + t'.left fs j) = job.tally + (p.left fs j + t.left fs j) := by
  have hunder : ∀ it, Under fs roots it → it.job = j → fs.Finite it.dir := by
    rintro it ⟨root', hroot', himp⟩ rfl
    cases hroot.symm.trans hroot'
    exact himp hfinite
  cases h with
  | walk =>
    rw [WalkPool.job_newJob, if_neg (Nat.ne_of_gt hj)] at hjob'
    refine ⟨job', hjob', hclean, ?_⟩
    simp only [WalkTask.left, if_neg (Nat.ne_of_gt hj)]
    rfl
  | submitRoot _ =>
    refine ⟨job', hjob', hclean, ?_⟩
    rw [left_push]
    simp only [WalkTask.left]
    abel
  | submit _ =>
    refine ⟨job', hjob', hclean, ?_⟩
    rw [left_push]
    simp only [WalkTask.left]
    split
    · abel
    · abel
  | refuseRoot hclosed | refuse hclosed | stop hclosed =>
    have hjob : p.jobs[j]? = some job' := hjob'
    exact absurd hclosed (hshut.not_closed hjob hclean)
  | balanceRoot | drain | add | balance | finish =>
    obtain ⟨job, hjob, hc, htally⟩ := of_wgAdd hjob' hclean
    refine ⟨job, hjob, hc, ?_⟩
    rw [htally]
    rfl
  | cancelJob =>
    obtain ⟨job, hjob, rfl⟩ := of_update hjob'
    split at hclean
    · exact absurd (by simp) hclean.ctx
    · next hk =>
      rw [if_neg hk]
      exact ⟨job, hjob, hclean, rfl⟩
  | cancel =>
    rw [WalkPool.job_cancel] at hjob'
    obtain ⟨job, hjob, rfl⟩ := Option.map_eq_some_iff.1 hjob'
    exact absurd (by simp) hclean.ctx
  | take _ hqueue =>
    refine ⟨job', hjob', hclean, ?_⟩
    rw [left_pop hqueue]
    simp only [WalkTask.left]
    abel
  | @drop it _ hjob hctx | @abandon it _ _ _ hjob hctx =>
    refine ⟨job', hjob', hclean, ?_⟩
    have hne : ¬ it.job = j := by
      rintro rfl
      cases hjob.symm.trans hjob'
      exact hclean.ctx hctx
    simp only [WalkTask.left, if_neg hne]
  | failed _ =>
    obtain ⟨job, hjob, rfl⟩ := of_update hjob'
    split at hclean
    · exact absurd hclean.2 (Nat.succ_ne_zero _)
    · next hk =>
      rw [if_neg hk]
      refine ⟨job, hjob, hclean, ?_⟩
      simp only [WalkTask.left, if_neg hk]
      rfl
  | read hread =>
    refine ⟨job', hjob', hclean, ?_⟩
    obtain rfl := FileSystem.of_readDir hread
    simp only [WalkTask.left]
    split
    · next hk => rw [(hunder _ hgood hk).total]
    · rfl
  | scanned =>
    refine ⟨job', hjob', hclean, ?_⟩
    simp only [WalkTask.left, List.map_nil, List.sum_nil, ite_self]
  | @countDir it de entries hkind =>
    obtain ⟨job, hjob, hc, htally⟩ := of_count hjob' hclean
    refine ⟨job, hjob, hc, ?_⟩
    have hdir := (htyped.classify (hgood.2 de List.mem_cons_self)).symm.trans hkind
    have hentry : fs.entry it.dir de = Kind.dir.one + fs.total (fs.join it.dir de.name) := by
      unfold FileSystem.entry DirEntry.tally
      rw [hdir, if_pos rfl]
    change _ + (p.left fs j + _) = _
    simp only [WalkTask.left, List.map_cons, List.sum_cons, hentry]
    rw [htally]
    split
    · abel
    · abel
  | @count it de entries hkind =>
    obtain ⟨job, hjob, hc, htally⟩ := of_count hjob' hclean
    refine ⟨job, hjob, hc, ?_⟩
    have hsame := htyped.classify (hgood.2 de List.mem_cons_self)
    have hentry : fs.entry it.dir de = (classify de).one := by
      unfold FileSystem.entry DirEntry.tally
      rw [hsame, if_neg (hsame ▸ hkind), add_zero]
    change _ + (p.left fs j + _) = _
    simp only [WalkTask.left, List.map_cons, List.sum_cons, hentry]
    rw [htally]
    split
    · abel
    · abel
  | wait _ _ | load _ | judge _ | close _ | drained | enter | scan =>
    exact ⟨job', hjob', hclean, rfl⟩

theorem WalkTask.left_of_called (h : t.called = true) : t.left fs j = 0 := by
  cases t with
  | walk | cancelJob | cancel => rfl
  | _ => cases h

/-- What is left to count for a job, by the queue and all goroutines. -/
noncomputable def leftOf (fs : FileSystem) (c : WalkCrew) (j : Nat) : Tally :=
  c.weight (·.left fs j) (WalkTask.left fs j)

theorem left_of_held (h : t.held j = 0) : t.left fs j = 0 := by
  cases t with
  | submitRoot k root => exact if_neg fun hk => by simp [WalkTask.held, hk] at h
  | enter it | read it | scan it | count it | add it | submit it | balance it =>
    exact if_neg fun hk => by simp [WalkTask.held, hk] at h
  | _ => rfl

theorem left_of_outstanding (h : outstanding c j = 0) : leftOf fs c j = 0 := by
  obtain ⟨hqueued, hheld⟩ := Nat.add_eq_zero_iff.1 h
  have hpool : c.shared.left fs j = 0 := by
    refine List.sum_eq_zero fun x hx => ?_
    obtain ⟨it, hit, rfl⟩ := List.mem_map.1 hx
    exact if_neg fun hk => by simpa [hk] using List.countP_eq_zero.1 hqueued it hit
  have htasks : (c.tasks.map (WalkTask.left fs j)).sum = 0 := by
    refine List.sum_eq_zero fun x hx => ?_
    obtain ⟨t, ht, rfl⟩ := List.mem_map.1 hx
    exact left_of_held (List.sum_eq_zero_iff.1 hheld _ (List.mem_map_of_mem ht))
  unfold leftOf Crew.weight
  dsimp only
  rw [hpool, htasks, add_zero]

/-! ### The whole tree -/

theorem WalkMove.opens (h : WalkMove fs p t p' t') : t.opens = [] ∨
    ∃ root, t = .walk root ∧ p' = p.newJob ∧ t' = .submitRoot p.jobs.length root := by
  cases h with
  | walk => exact .inr ⟨_, rfl, rfl, rfl⟩
  | _ => exact .inl rfl

theorem Under.mono {roots' : List String}
    (h : ∀ (j : Nat) root, roots[j]? = some root → roots'[j]? = some root) {it : WalkItem}
    (hit : Under fs roots it) : Under fs roots' it := by
  obtain ⟨root, hroot, himp⟩ := hit
  exact ⟨root, h _ _ hroot, himp⟩

/-- What is known of a goroutine stays known while others move: only clean jobs count. -/
theorem Good.mono {roots' : List String}
    (hroots : ∀ (j : Nat) root, roots[j]? = some root → roots'[j]? = some root) (hjobs : ∀ j root
      job', t.waited = some j → roots[j]? = some root → fs.Finite root → p'.jobs[j]? = some job' →
      job'.Clean → ∃ job, p.jobs[j]? = some job ∧ job.Clean) (h : Good fs roots p t) :
    Good fs roots' p' t := by
  cases t with
  | submitRoot | balanceRoot | wait | load => exact hroots _ _ h
  | judge j root files dirs other =>
    refine ⟨hroots _ _ h.1, fun job' hjob' hclean hfinite => ?_⟩
    obtain ⟨job, hjob, hc⟩ := hjobs j root job' rfl h.1 hfinite hjob' hclean
    exact h.2 job hjob hc hfinite
  | enter | read => exact Under.mono hroots h
  | scan | balance | count => exact ⟨h.1.mono hroots, h.2⟩
  | add | submit => exact ⟨h.1.mono hroots, h.2.1.mono hroots, h.2.2⟩
  | _ => exact h

theorem err_eq_none {a : ErrAgg} (h : a.err = none) : a.total = 0 := by
  unfold ErrAgg.err at h
  split at h
  · next hzero => exact hzero
  · split at h
    · cases h
    · cases h

/-- What is known of the goroutine that moved, unless it opened a job. -/
theorem WalkMove.good (h : WalkMove fs p t p' t') (hopens : t.opens = []) (htyped : fs.Typed)
    (hqueue : ∀ it ∈ p.queue, Under fs roots it) (hcounted : ∀ j root job, t = .load j root →
      roots[j]? = some root → p.jobs[j]? = some job → job.Clean → fs.Finite root → job.tally =
      fs.total root) (hgood : Good fs roots p t) : Good fs roots p' t' := by
  cases h with
  | walk => cases hopens
  | load hjob =>
    refine ⟨hgood, fun job' hjob' hclean hfinite => ?_⟩
    cases hjob.symm.trans hjob'
    exact hcounted _ _ _ rfl hgood hjob hclean hfinite
  | judge hjob =>
    intro hnone hfinite
    obtain ⟨hctx, herrs⟩ := (Option.orElse_eq_none _ _).1 hnone
    exact hgood.2 _ hjob ⟨hctx, err_eq_none herrs⟩ hfinite
  | take _ hq => exact hqueue _ (hq ▸ List.mem_cons_self)
  | read hread =>
    obtain rfl := FileSystem.of_readDir hread
    exact ⟨hgood, fun _ hde => hde⟩
  | @countDir it de entries hkind =>
    obtain ⟨hunder, hmem⟩ := hgood
    have hde := hmem de List.mem_cons_self
    have hdir := (htyped.classify hde).symm.trans hkind
    refine ⟨hunder, ?_, fun e he => hmem e (List.mem_cons_of_mem _ he)⟩
    obtain ⟨root, hroot, himp⟩ := hunder
    exact ⟨root, hroot, fun hfinite => (himp hfinite).child hde hdir⟩
  | count _ => exact ⟨hgood.1, fun e he => hgood.2 e (List.mem_cons_of_mem _ he)⟩
  | submit _ | refuse _ => exact ⟨hgood.1, hgood.2.2⟩
  | submitRoot _ | refuseRoot _ | balanceRoot | wait _ _ | enter | scan | add | balance => exact hgood
  | cancelJob | cancel | close _ | stop _ | drained | drain | drop _ _ | failed _ | scanned
  | abandon _ _ | finish => trivial

/-- What the jobs, the queue and the goroutines have to do with the trees of the roots. -/
structure Complete (fs : FileSystem) (c : WalkCrew) (roots : List String) : Prop where
  length : roots.length = c.shared.jobs.length
  shut : Shut c.shared
  queue : ∀ it ∈ c.shared.queue, Under fs roots it
  tasks : ∀ t ∈ c.tasks, Good fs roots c.shared t
  counts : ∀ j root job, roots[j]? = some root → c.shared.jobs[j]? = some job → job.Clean →
    fs.Finite root → job.tally + leftOf fs c j = fs.total root

theorem Shut.update {f : WalkJob → WalkJob} (h : Shut p)
    (hf : ∀ job : WalkJob, job.ctxErr.isSome = true → (f job).ctxErr.isSome = true) :
    Shut (p.update k f) where
  cancelled := h.cancelled
  jobs := by
    intro hcancelled j job' hjob'
    obtain ⟨job, hjob, rfl⟩ := of_update hjob'
    have hctx := h.jobs hcancelled j job hjob
    split
    · exact hf job hctx
    · exact hctx

theorem Shut.newJob (h : Shut p) : Shut p.newJob where
  cancelled := h.cancelled
  jobs := by
    intro hcancelled j job hjob
    rw [WalkPool.job_newJob] at hjob
    split at hjob
    · obtain rfl := Option.some.inj hjob
      rw [show p.cancelled = true from hcancelled]
      rfl
    · exact h.jobs hcancelled j job hjob

theorem WalkPool.shut_cancel (p : WalkPool) : Shut p.cancel where
  cancelled _ := rfl
  jobs := by
    intro _ j job' hjob'
    rw [WalkPool.job_cancel] at hjob'
    obtain ⟨job, -, rfl⟩ := Option.map_eq_some_iff.1 hjob'
    simp

theorem WalkMove.shut (h : WalkMove fs p t p' t') (hp : Shut p) : Shut p' := by
  cases h with
  | walk => exact hp.newJob
  | cancelJob => exact hp.update fun job hctx => by simp
  | cancel => exact p.shut_cancel
  | close hcancelled => exact ⟨fun _ => hcancelled, hp.jobs⟩
  | countDir _ | count _ =>
    refine hp.update fun job hctx => ?_
    rw [ctxErr_count]
    exact hctx
  | balanceRoot | drain | failed _ | add | balance | finish => exact hp.update fun _ hctx => hctx
  | _ => exact ⟨hp.cancelled, hp.jobs⟩

theorem WalkMove.queue (h : WalkMove fs p t p' t') (hqueue : ∀ it ∈ p.queue, Under fs roots it)
    (hgood : Good fs roots p t) : ∀ it ∈ p'.queue, Under fs roots it := by
  intro it hit
  cases h with
  | submitRoot _ =>
    rcases mem_snoc.1 hit with hit | rfl
    · exact hqueue it hit
    · exact ⟨_, hgood, fun h => h⟩
  | submit _ =>
    rcases mem_snoc.1 hit with hit | rfl
    · exact hqueue it hit
    · exact hgood.2.1
  | stop _ => cases hit
  | take _ hq => exact hqueue it (hq ▸ List.mem_cons_of_mem _ hit)
  | _ => exact hqueue it hit

namespace Complete

variable {roots : List String}

theorem new (workers : Int) : Complete fs (newWalkPool workers) [] where
  length := rfl
  shut := ⟨fun h => h, fun _ _ _ h => by cases h⟩
  queue := by simp [newWalkPool]
  tasks := by
    intro t ht
    rcases mem_newWalkPool ht with rfl | rfl
    · trivial
    · trivial
  counts := by simp

theorem call (h : Complete fs c roots) (ht : t.called = true) :
    Complete fs ⟨c.shared, c.tasks ++ [t]⟩ roots where
  length := h.length
  shut := h.shut
  queue := h.queue
  tasks := by
    intro u hu
    rcases mem_snoc.1 hu with hu | rfl
    · exact h.tasks u hu
    · cases u with
      | walk | cancelJob | cancel => trivial
      | _ => cases ht
  counts := by
    intro j root job hroot hjob hclean hfinite
    rw [leftOf, Crew.weight_start _ _ (WalkTask.left_of_called ht)]
    exact h.counts j root job hroot hjob hclean hfinite

theorem tally_of_waited (h : Complete fs c roots) (hwaited : Waited c) (ht : t ∈ c.tasks)
    (hj : t.waited = some j) (hroot : roots[j]? = some root) (hjob : c.shared.jobs[j]? = some job)
    (hclean : job.Clean) (hfinite : fs.Finite root) : job.tally = fs.total root := by
  have hcounts := h.counts j root job hroot hjob hclean hfinite
  rwa [left_of_outstanding (hwaited t ht j hj).2, add_zero] at hcounts

theorem counts_old (h : Complete fs c roots) (htyped : fs.Typed) (ht : c.tasks[i]? = some t)
    (hmove : WalkMove fs c.shared t p' t') (hroot : roots[j]? = some root)
    (hjob' : p'.jobs[j]? = some job') (hclean : job'.Clean) (hfinite : fs.Finite root) :
    (∃ job, c.shared.jobs[j]? = some job ∧ job.Clean) ∧
      job'.tally + leftOf fs ⟨p', c.tasks.set i t'⟩ j = fs.total root := by
  have hlt : j < c.shared.jobs.length := h.length ▸ (List.getElem?_eq_some_iff.1 hroot).1
  obtain ⟨job, hjob, hc, hstep⟩ := hmove.counts htyped h.shut
    (h.tasks t (List.mem_of_getElem? ht)) hroot hfinite hlt hjob' hclean
  refine ⟨⟨job, hjob, hc⟩, ?_⟩
  have hleft : leftOf fs ⟨p', c.tasks.set i t'⟩ j + _ = leftOf fs c j + _ :=
    Crew.weight_set (·.left fs j) (WalkTask.left fs j) ht p' t'
  rw [← h.counts j root job hroot hjob hc hfinite]
  refine add_right_cancel (b := c.shared.left fs j + t.left fs j) ?_
  calc job'.tally + leftOf fs ⟨p', c.tasks.set i t'⟩ j + (c.shared.left fs j + t.left fs j)
      = job'.tally + (leftOf fs c j + (p'.left fs j + t'.left fs j)) := by rw [add_assoc, hleft]
    _ = job'.tally + (p'.left fs j + t'.left fs j) + leftOf fs c j := by abel
    _ = job.tally + leftOf fs c j + (c.shared.left fs j + t.left fs j) := by
      rw [hstep]
      abel

theorem counts_new (h : Complete fs c roots) (hbalanced : Balanced c)
    (ht : c.tasks[i]? = some (.walk root)) (hjob' : c.shared.newJob.jobs[roots.length]? = some job') :
    job'.tally + leftOf fs ⟨c.shared.newJob,
      c.tasks.set i (.submitRoot c.shared.jobs.length root)⟩ roots.length = fs.total root := by
  rw [WalkPool.job_newJob, if_pos h.length.symm] at hjob'
  obtain rfl := Option.some.inj hjob'
  -- no job, so nothing outstanding
  have hnone : outstanding c roots.length = 0 := by
    have hwg := hbalanced roots.length
    unfold WalkPool.wg at hwg
    rw [List.getElem?_eq_none (Nat.le_of_eq h.length.symm), Option.map_none] at hwg
    exact Int.natCast_eq_zero.1 hwg.symm
  have hleft : leftOf fs ⟨c.shared.newJob, _⟩ roots.length + _ = leftOf fs c roots.length + _ :=
    Crew.weight_set (·.left fs roots.length) (WalkTask.left fs roots.length) ht c.shared.newJob
      (.submitRoot c.shared.jobs.length root)
  rw [left_of_outstanding hnone, zero_add] at hleft
  have hopened : WalkTask.left fs roots.length (.submitRoot c.shared.jobs.length root) =
      fs.total root := if_pos h.length.symm
  rw [hopened] at hleft
  -- the queue is that of before, and the call had nothing to count
  change _ + (c.shared.left fs roots.length + 0) = c.shared.left fs roots.length + _ at hleft
  rw [add_zero, add_comm] at hleft
  exact (zero_add _).trans (add_left_cancel hleft)

theorem move (h : Complete fs c roots) (htyped : fs.Typed) (hbalanced : Balanced c)
    (hwaited : Waited c) (ht : c.tasks[i]? = some t) (hmove : WalkMove fs c.shared t p' t') :
    Complete fs ⟨p', c.tasks.set i t'⟩ (roots ++ t.opens) := by
  have hgood := h.tasks t (List.mem_of_getElem? ht)
  have hroots : ∀ (j : Nat) root, roots[j]? = some root → (roots ++ t.opens)[j]? = some root := by
    intro j root hroot
    rw [List.getElem?_append_left (List.getElem?_eq_some_iff.1 hroot).1, hroot]
  refine ⟨?_, hmove.shut h.shut, ?_, ?_, ?_⟩
  · rw [List.length_append, h.length, hmove.length_eq]
  · exact fun it hit => (hmove.queue h.queue hgood it hit).mono hroots
  · intro u hu
    rcases mem_set_cases hu with rfl | ⟨k, -, hk⟩
    · rcases hmove.opens with hopens | ⟨root, rfl, rfl, rfl⟩
      · rw [hopens, List.append_nil]
        refine hmove.good hopens htyped h.queue ?_ hgood
        rintro j root job rfl hroot hjob hclean hfinite
        exact h.tally_of_waited hwaited (List.mem_of_getElem? ht) rfl hroot hjob hclean hfinite
      · change (roots ++ [root])[c.shared.jobs.length]? = some root
        rw [← h.length]
        simp
    · refine Good.mono hroots ?_ (h.tasks u (List.mem_of_getElem? hk))
      intro j root job' _ hroot hfinite hjob' hclean
      exact (h.counts_old htyped ht hmove hroot hjob' hclean hfinite).1
  · intro j root job' hroot hjob' hclean hfinite
    by_cases hj : j < roots.length
    · rw [List.getElem?_append_left hj] at hroot
      exact (h.counts_old htyped ht hmove hroot hjob' hclean hfinite).2
    · rw [List.getElem?_append_right (Nat.le_of_not_lt hj)] at hroot
      rcases hmove.opens with hopens | ⟨root', rfl, rfl, rfl⟩
      · rw [hopens] at hroot
        cases hroot
      · have hlt : j - roots.length < 1 := (List.getElem?_eq_some_iff.1 hroot).1
        obtain rfl : j = roots.length := by omega
        rw [Nat.sub_self] at hroot
        cases hroot
        exact h.counts_new hbalanced ht hjob'

end Complete

end

/-! ### The walk -/

/-- What is true of the jobs of a pool: the wait group of each counts its outstanding items; a
walk has returned only when that is zero; and without an error it has counted the tree. -/
structure Exact (fs : FileSystem) (c : WalkCrew) : Prop where
  counter : ∀ (j : Nat) (job : WalkJob), c.shared.jobs[j]? = some job →
    job.wg = (outstanding c j : Int)
  returned : ∀ j root res, .returned j root res ∈ c.tasks →
    ∃ job : WalkJob, c.shared.jobs[j]? = some job ∧ job.wg = 0 ∧ outstanding c j = 0
  counts : ∀ j root res n, .returned j root res ∈ c.tasks → Holds fs root n → res.err = none →
    (res.files, res.dirs, res.other) = n

theorem walk_exact {fs : FileSystem} {workers : Int} {c : WalkCrew} (htyped : fs.Typed)
    (h : WalkReach fs workers c) : Exact fs c := by
  obtain ⟨hbalanced, hwaited, roots, hcomplete⟩ :
      Balanced c ∧ Waited c ∧ ∃ roots, Complete fs c roots := by
    refine WalkReach.invariant (I := fun c => Balanced c ∧ Waited c ∧ ∃ roots, Complete fs c roots)
      h ⟨.new workers, .new workers, [], .new workers⟩ ?_ ?_
    · rintro c t ⟨hb, hw, roots, hc⟩ ht
      exact ⟨hb.call ht, hw.call ht, roots, hc.call ht⟩
    · rintro c i t p' t' ⟨hb, hw, roots, hc⟩ ht hmove
      exact ⟨hb.step ht hmove, hw.step hb ht hmove, _, hc.move htyped hb hw ht hmove⟩
  have hcounter : ∀ (j : Nat) (job : WalkJob), c.shared.jobs[j]? = some job →
      job.wg = (outstanding c j : Int) := by
    intro j job hjob
    have hwg := hbalanced j
    unfold WalkPool.wg at hwg
    rwa [hjob] at hwg
  refine ⟨hcounter, ?_, ?_⟩
  · intro j root res hmem
    obtain ⟨hlt, hnone⟩ := hwaited _ hmem j rfl
    have hjob := List.getElem?_eq_getElem hlt
    refine ⟨_, hjob, ?_, hnone⟩
    rw [hcounter j _ hjob, hnone]
    rfl
  · intro j root res n hmem hholds hnil
    have hgood : Good fs roots c.shared (.returned j root res) := hcomplete.tasks _ hmem
    rw [hgood hnil ⟨n, hholds⟩, FileSystem.total_eq hholds]

/-- A file, and a directory of unknown type with a link in it. -/
def linkTree : FileSystem where
  contents dir :=
    if dir = "r" then [⟨"f", .file, some .file, .ok .file⟩, ⟨"d", .dir, none, .ok .dir⟩]
    else if dir = "r/d" then [⟨"l", .other, some .other, .ok .other⟩]
    else []
  fails _ := none
  join dir name := dir ++ "/" ++ name

theorem holds_linkTree : Holds linkTree "r" (1, 1, 1) := by
  have hlink : Holds linkTree "r/d" (0, 0, 1) := by
    change Holds linkTree "r/d" ((linkTree.contents "r/d").map (·.tally fun _ => 0)).sum
    refine .intro (fun _ => 0) fun de hde hdir => ?_
    obtain rfl := List.mem_singleton.1 hde
    cases hdir
  change Holds linkTree "r" ((linkTree.contents "r").map (·.tally fun _ => (0, 0, 1))).sum
  refine .intro (fun _ => (0, 0, 1)) fun de hde hdir => ?_
  rcases List.mem_cons.1 hde with rfl | hde
  · cases hdir
  · obtain rfl := List.mem_singleton.1 hde
    exact hlink

theorem walk_exact_link : ∃ c, WalkReach linkTree 1 c ∧ Exact linkTree c ∧
    .returned 0 "r" ⟨1, 1, 1, none⟩ ∈ c.tasks ∧ Holds linkTree "r" (1, 1, 1) := by
  have htyped : linkTree.Typed := by
    intro dir de hde
    unfold linkTree at hde
    dsimp only at hde
    split at hde
    · rcases List.mem_cons.1 hde with rfl | hde
      · exact .inl rfl
      · obtain rfl := List.mem_singleton.1 hde
        exact .inr ⟨rfl, rfl⟩
    · split at hde
      · obtain rfl := List.mem_singleton.1 hde
        exact .inl rfl
      · cases hde
  obtain ⟨c, _, hreach, hres⟩ := Crew.reach_of_play (walkStep linkTree) (fun _ _ => id) WalkOk
    (newWalkPool 1) ()
    (.start (.walk "r") :: .go 2 () :: .go 2 () :: List.replicate 18 (.go 1 ()) ++
      List.replicate 3 (.go 2 ()))
    (fun x => x.1.tasks[2]? = some (.returned 0 "r" ⟨1, 1, 1, none⟩)) (by decide)
  exact ⟨c, hreach, walk_exact htyped hreach, List.mem_of_getElem? hres, holds_linkTree⟩

end NomadCsi.Stats
