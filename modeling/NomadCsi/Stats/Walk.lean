import NomadCsi.Lib.Crew
import NomadCsi.Lib.Go

/-!
# The walk pool

`stats/walk.go`: a fixed number of workers traverse the directories of all volumes through one
queue. A crew of goroutines: the workers, the one that closes the pool, and the callers of
`walk`. Each step is one operation on what they share: a section under the mutex of the pool,
an atomic counter, the wait group of a job, a look at its context, a directory read.

A worker that waits for work takes no step until there is some; when the condition variable
wakes it is left open. The pool's context ends all contexts of walks with it, as `fireWalk`
arranges.
-/

namespace NomadCsi.Stats

open Lib Lib.Go

/-! ### Directories -/

inductive Kind where
  | other
  | file
  | dir
deriving DecidableEq, Repr

structure DirEntry where
  name : String
  kind : Kind
  /-- The type from readdir, unless that is `DT_UNKNOWN`. -/
  dtype : Option Kind
  /-- What `Info` answers. -/
  info : Except String Kind
deriving DecidableEq, Repr

def classify (de : DirEntry) : Kind :=
  match de.dtype with
  | some k => k
  | none =>
    match de.info with
    | .ok k => k
    | .error _ => .other

/-- The directories by their paths, and those whose read fails. -/
structure FileSystem where
  contents : String → List DirEntry
  fails : String → Option String
  /-- `filepath.Join`. -/
  join : String → String → String

def FileSystem.readDir (fs : FileSystem) (dir : String) : Except String (List DirEntry) :=
  match fs.fails dir with
  | some e => .error e
  | none => .ok (fs.contents dir)

/-! ### Errors -/

def maxRetainedWalkErrors : Nat := 16

structure ErrAgg where
  errs : List String := []
  total : Nat := 0
deriving DecidableEq, Repr

namespace ErrAgg

def add (a : ErrAgg) (err : String) : ErrAgg where
  errs := if a.errs.length < maxRetainedWalkErrors then a.errs ++ [err] else a.errs
  total := a.total + 1

def err (a : ErrAgg) : Option String :=
  if a.total = 0 then none
  else if a.total = 1 then some (a.errs.headD "")
  else some (itoa a.total ++ " walk errors: " ++ Go.join a.errs "; " ++
    if a.total > a.errs.length then " (+" ++ itoa (a.total - a.errs.length) ++ " more)" else "")

end ErrAgg

/-! ### Jobs -/

structure WalkItem where
  dir : String
  job : Nat
deriving DecidableEq, Repr

structure WalkResult where
  files : Int
  dirs : Int
  other : Int
  err : Option String
deriving DecidableEq, Repr

structure WalkJob where
  /-- `ctx.Err()`. -/
  ctxErr : Option String := none
  files : Int := 0
  dirs : Int := 0
  other : Int := 0
  /-- The counter of the wait group. -/
  wg : Int := 0
  errs : ErrAgg := {}
deriving DecidableEq, Repr

def WalkJob.count (j : WalkJob) : Kind → WalkJob
  | .dir => { j with dirs := j.dirs + 1 }
  | .file => { j with files := j.files + 1 }
  | .other => { j with other := j.other + 1 }

/-- What all goroutines share: the pool and the jobs. -/
structure WalkPool where
  queue : List WalkItem := []
  closed : Bool := false
  /-- The context of the pool has been cancelled. -/
  cancelled : Bool := false
  jobs : List WalkJob := []
deriving DecidableEq, Repr

namespace WalkPool

def canceled : String := "context canceled"

def update (p : WalkPool) (j : Nat) (f : WalkJob → WalkJob) : WalkPool :=
  { p with jobs := p.jobs.modify j f }

def wgAdd (p : WalkPool) (j : Nat) (n : Int) : WalkPool :=
  p.update j fun job => { job with wg := job.wg + n }

/-- A context that has ended keeps its error. -/
def cancelJob (p : WalkPool) (j : Nat) (err : String) : WalkPool :=
  p.update j fun job => { job with ctxErr := job.ctxErr <|> some err }

def cancel (p : WalkPool) : WalkPool :=
  { p with
    cancelled := true
    jobs := p.jobs.map fun job => { job with ctxErr := job.ctxErr <|> some canceled } }

/-- A job under a context that has ended if the pool's has. -/
def newJob (p : WalkPool) : WalkPool :=
  { p with jobs := p.jobs ++ [{ ctxErr := if p.cancelled then some canceled else none, wg := 1 }] }

end WalkPool

/-! ### Goroutines -/

inductive WalkTask where
  -- a caller of walk
  | walk (root : String)
  | submitRoot (j : Nat) (root : String)
  /-- The pool was closed: give back the count of the root. -/
  | balanceRoot (j : Nat) (root : String)
  | wait (j : Nat) (root : String)
  | load (j : Nat) (root : String)
  | judge (j : Nat) (root : String) (files dirs other : Int)
  | returned (j : Nat) (root : String) (res : WalkResult)
  -- the contexts
  | cancelJob (j : Nat) (err : String)
  | cancel
  | closer
  -- a worker of the pool
  | take
  | drain (rest : List WalkItem)
  | enter (it : WalkItem)
  | read (it : WalkItem)
  | scan (it : WalkItem) (entries : List DirEntry)
  | count (it : WalkItem) (de : DirEntry) (entries : List DirEntry)
  | add (it : WalkItem) (child : String) (entries : List DirEntry)
  | submit (it : WalkItem) (child : String) (entries : List DirEntry)
  | balance (it : WalkItem) (entries : List DirEntry)
  | finish (it : WalkItem)
  | done
deriving DecidableEq, Repr

def walkStep (fs : FileSystem) (p : WalkPool) :
    WalkTask → Unit → Option (WalkPool × WalkTask × List WalkTask)
  | .walk root, _ => some (p.newJob, .submitRoot p.jobs.length root, [])
  | .submitRoot j root, _ =>
    if p.closed then some (p, .balanceRoot j root, [])
    else some ({ p with queue := p.queue ++ [⟨root, j⟩] }, .wait j root, [])
  | .balanceRoot j root, _ => some (p.wgAdd j (-1), .wait j root, [])
  | .wait j root, _ => do
    let job ← p.jobs[j]?
    if job.wg = 0 then some (p, .load j root, []) else none
  | .load j root, _ => do
    let job ← p.jobs[j]?
    some (p, .judge j root job.files job.dirs job.other, [])
  | .judge j root files dirs other, _ => do
    let job ← p.jobs[j]?
    some (p, .returned j root ⟨files, dirs, other, job.ctxErr <|> job.errs.err⟩, [])
  | .cancelJob j err, _ => some (p.cancelJob j err, .done, [])
  | .cancel, _ => some (p.cancel, .done, [])
  | .closer, _ => if p.cancelled then some ({ p with closed := true }, .done, []) else none
  | .take, _ =>
    if p.closed then some ({ p with queue := [] }, .drain p.queue, [])
    else
      match p.queue with
      | [] => none
      | it :: queue => some ({ p with queue }, .enter it, [])
  | .drain [], _ => some (p, .done, [])
  | .drain (it :: rest), _ => some (p.wgAdd it.job (-1), .drain rest, [])
  | .enter it, _ => do
    let job ← p.jobs[it.job]?
    if job.ctxErr.isSome then some (p, .finish it, []) else some (p, .read it, [])
  | .read it, _ =>
    match fs.readDir it.dir with
    | .error e => some (p.update it.job fun job => { job with errs := job.errs.add e }, .finish it, [])
    | .ok entries => some (p, .scan it entries, [])
  | .scan it [], _ => some (p, .finish it, [])
  | .scan it (de :: entries), _ => do
    let job ← p.jobs[it.job]?
    if job.ctxErr.isSome then some (p, .finish it, []) else some (p, .count it de entries, [])
  | .count it de entries, _ =>
    some (p.update it.job (·.count (classify de)),
      if classify de = .dir then .add it (fs.join it.dir de.name) entries else .scan it entries, [])
  | .add it child entries, _ => some (p.wgAdd it.job 1, .submit it child entries, [])
  | .submit it child entries, _ =>
    if p.closed then some (p, .balance it entries, [])
    else some ({ p with queue := p.queue ++ [⟨child, it.job⟩] }, .scan it entries, [])
  | .balance it entries, _ => some (p.wgAdd it.job (-1), .scan it entries, [])
  | .finish it, _ => some (p.wgAdd it.job (-1), .take, [])
  | .returned _ _ _, _ => none
  | .done, _ => none

abbrev WalkCrew := Crew WalkPool WalkTask

def defaultWalkWorkers : Nat := 4

/-- A new pool: its workers, and the goroutine that waits for the context to end. -/
def newWalkPool (workers : Int) : WalkCrew :=
  ⟨{}, .closer :: List.replicate (if workers ≤ 0 then defaultWalkWorkers else workers.toNat) .take⟩

/-- Anyone may start a walk, end the context of one, or end that of the pool. -/
def WalkTask.called : WalkTask → Bool
  | walk _ | cancelJob _ _ | cancel => true
  | _ => false

def WalkOk (_ : WalkCrew) : Crew.Act WalkTask Unit → Prop
  | .start t => t.called = true
  | .go _ _ => True

instance (c : WalkCrew) : (a : Crew.Act WalkTask Unit) → Decidable (WalkOk c a)
  | .start t => inferInstanceAs (Decidable (t.called = true))
  | .go _ _ => isTrue trivial

/-- The pools that are reached, with nothing recorded beside them. -/
abbrev WalkReach (fs : FileSystem) (workers : Int) (c : WalkCrew) : Prop :=
  Crew.Reach (walkStep fs) (fun _ _ => id) WalkOk (newWalkPool workers) () c ()

/-! ### What a step can do -/

/-- The steps of `walkStep`, one constructor for each outcome. -/
inductive WalkMove (fs : FileSystem) (p : WalkPool) : WalkTask → WalkPool → WalkTask → Prop where
  | walk {root : String} : WalkMove fs p (.walk root) p.newJob (.submitRoot p.jobs.length root)
  | submitRoot {j : Nat} {root : String} : p.closed = false →
      WalkMove fs p (.submitRoot j root) { p with queue := p.queue ++ [⟨root, j⟩] } (.wait j root)
  | refuseRoot {j : Nat} {root : String} : p.closed = true →
      WalkMove fs p (.submitRoot j root) p (.balanceRoot j root)
  | balanceRoot {j : Nat} {root : String} :
      WalkMove fs p (.balanceRoot j root) (p.wgAdd j (-1)) (.wait j root)
  | wait {j : Nat} {root : String} {job : WalkJob} : p.jobs[j]? = some job → job.wg = 0 →
      WalkMove fs p (.wait j root) p (.load j root)
  | load {j : Nat} {root : String} {job : WalkJob} : p.jobs[j]? = some job →
      WalkMove fs p (.load j root) p (.judge j root job.files job.dirs job.other)
  | judge {j : Nat} {root : String} {files dirs other : Int} {job : WalkJob} :
      p.jobs[j]? = some job → WalkMove fs p (.judge j root files dirs other) p
        (.returned j root ⟨files, dirs, other, job.ctxErr <|> job.errs.err⟩)
  | cancelJob {j : Nat} {err : String} : WalkMove fs p (.cancelJob j err) (p.cancelJob j err) .done
  | cancel : WalkMove fs p .cancel p.cancel .done
  | close : p.cancelled = true → WalkMove fs p .closer { p with closed := true } .done
  | stop : p.closed = true → WalkMove fs p .take { p with queue := [] } (.drain p.queue)
  | take {it : WalkItem} {queue : List WalkItem} : p.closed = false → p.queue = it :: queue →
      WalkMove fs p .take { p with queue } (.enter it)
  | drained : WalkMove fs p (.drain []) p .done
  | drain {it : WalkItem} {rest : List WalkItem} :
      WalkMove fs p (.drain (it :: rest)) (p.wgAdd it.job (-1)) (.drain rest)
  | drop {it : WalkItem} {job : WalkJob} : p.jobs[it.job]? = some job → job.ctxErr.isSome = true →
      WalkMove fs p (.enter it) p (.finish it)
  | enter {it : WalkItem} : WalkMove fs p (.enter it) p (.read it)
  | failed {it : WalkItem} {e : String} : fs.readDir it.dir = .error e →
      WalkMove fs p (.read it)
        (p.update it.job fun job => { job with errs := job.errs.add e }) (.finish it)
  | read {it : WalkItem} {entries : List DirEntry} : fs.readDir it.dir = .ok entries →
      WalkMove fs p (.read it) p (.scan it entries)
  | scanned {it : WalkItem} : WalkMove fs p (.scan it []) p (.finish it)
  | abandon {it : WalkItem} {de : DirEntry} {entries : List DirEntry} {job : WalkJob} :
      p.jobs[it.job]? = some job → job.ctxErr.isSome = true →
      WalkMove fs p (.scan it (de :: entries)) p (.finish it)
  | scan {it : WalkItem} {de : DirEntry} {entries : List DirEntry} :
      WalkMove fs p (.scan it (de :: entries)) p (.count it de entries)
  | countDir {it : WalkItem} {de : DirEntry} {entries : List DirEntry} : classify de = .dir →
      WalkMove fs p (.count it de entries) (p.update it.job (·.count .dir))
        (.add it (fs.join it.dir de.name) entries)
  | count {it : WalkItem} {de : DirEntry} {entries : List DirEntry} : classify de ≠ .dir →
      WalkMove fs p (.count it de entries) (p.update it.job (·.count (classify de)))
        (.scan it entries)
  | add {it : WalkItem} {child : String} {entries : List DirEntry} :
      WalkMove fs p (.add it child entries) (p.wgAdd it.job 1) (.submit it child entries)
  | submit {it : WalkItem} {child : String} {entries : List DirEntry} : p.closed = false →
      WalkMove fs p (.submit it child entries) { p with queue := p.queue ++ [⟨child, it.job⟩] }
        (.scan it entries)
  | refuse {it : WalkItem} {child : String} {entries : List DirEntry} : p.closed = true →
      WalkMove fs p (.submit it child entries) p (.balance it entries)
  | balance {it : WalkItem} {entries : List DirEntry} :
      WalkMove fs p (.balance it entries) (p.wgAdd it.job (-1)) (.scan it entries)
  | finish {it : WalkItem} : WalkMove fs p (.finish it) (p.wgAdd it.job (-1)) .take

section

variable {fs : FileSystem} {p p' : WalkPool} {t t' : WalkTask} {new : List WalkTask}

theorem walkMove_of_walkStep (h : walkStep fs p t () = some (p', t', new)) :
    new = [] ∧ WalkMove fs p t p' t' := by
  cases t with
  | walk | balanceRoot | cancelJob | cancel | add | balance | finish =>
    cases h
    exact ⟨rfl, by constructor⟩
  | submitRoot j root =>
    simp only [walkStep] at h
    split at h
    · next hclosed =>
      cases h
      exact ⟨rfl, .refuseRoot hclosed⟩
    · next hclosed =>
      cases h
      exact ⟨rfl, .submitRoot (Bool.eq_false_iff.2 hclosed)⟩
  | wait j root =>
    obtain ⟨job, hjob, h⟩ := Option.bind_eq_some_iff.1 h
    split at h
    · next hwg =>
      cases h
      exact ⟨rfl, .wait hjob hwg⟩
    · cases h
  | load | judge =>
    obtain ⟨job, hjob, h⟩ := Option.bind_eq_some_iff.1 h
    cases h
    exact ⟨rfl, by constructor; exact hjob⟩
  | closer =>
    simp only [walkStep] at h
    split at h
    · next hcancelled =>
      cases h
      exact ⟨rfl, .close hcancelled⟩
    · cases h
  | take =>
    simp only [walkStep] at h
    split at h
    · next hclosed =>
      cases h
      exact ⟨rfl, .stop hclosed⟩
    · next hclosed =>
      split at h
      · cases h
      · next hqueue =>
        cases h
        exact ⟨rfl, .take (Bool.eq_false_iff.2 hclosed) hqueue⟩
  | drain rest =>
    cases rest with
    | nil =>
      cases h
      exact ⟨rfl, .drained⟩
    | cons it rest =>
      cases h
      exact ⟨rfl, .drain⟩
  | enter it =>
    obtain ⟨job, hjob, h⟩ := Option.bind_eq_some_iff.1 h
    split at h
    · next hctx =>
      cases h
      exact ⟨rfl, .drop hjob hctx⟩
    · cases h
      exact ⟨rfl, .enter⟩
  | read it =>
    simp only [walkStep] at h
    split at h
    · next hread =>
      cases h
      exact ⟨rfl, .failed hread⟩
    · next hread =>
      cases h
      exact ⟨rfl, .read hread⟩
  | scan it entries =>
    cases entries with
    | nil =>
      cases h
      exact ⟨rfl, .scanned⟩
    | cons de entries =>
      obtain ⟨job, hjob, h⟩ := Option.bind_eq_some_iff.1 h
      split at h
      · next hctx =>
        cases h
        exact ⟨rfl, .abandon hjob hctx⟩
      · cases h
        exact ⟨rfl, .scan⟩
  | count it de entries =>
    simp only [walkStep, Option.some.injEq, Prod.mk.injEq] at h
    obtain ⟨rfl, rfl, rfl⟩ := h
    split
    · next hkind =>
      rw [hkind]
      exact ⟨rfl, .countDir hkind⟩
    · next hkind => exact ⟨rfl, .count hkind⟩
  | submit it child entries =>
    simp only [walkStep] at h
    split at h
    · next hclosed =>
      cases h
      exact ⟨rfl, .refuse hclosed⟩
    · next hclosed =>
      cases h
      exact ⟨rfl, .submit (Bool.eq_false_iff.2 hclosed)⟩
  | returned | done => cases h

/-- What holds of a new pool and is kept by calls and by moves holds in every run. -/
theorem WalkReach.invariant {I : WalkCrew → Prop} {workers : Int} {c : WalkCrew}
    (h : WalkReach fs workers c) (hnew : I (newWalkPool workers))
    (hcall : ∀ (c : WalkCrew) (t : WalkTask), I c → t.called = true →
      I ⟨c.shared, c.tasks ++ [t]⟩)
    (hmove : ∀ (c : WalkCrew) i t p' t', I c → c.tasks[i]? = some t →
      WalkMove fs c.shared t p' t' → I ⟨p', c.tasks.set i t'⟩) : I c := by
  refine Crew.Reach.invariant (I := fun c _ => I c) h hnew ?_
  intro c c' _ a hc hok hnext
  obtain ⟨t, rfl, rfl⟩ | ⟨i, x, t, p', t', new, rfl, ht, hstep, rfl⟩ := Crew.next_cases hnext
  · exact hcall c t hc hok
  · obtain ⟨rfl, hm⟩ := walkMove_of_walkStep hstep
    rw [List.append_nil]
    exact hmove c i t p' t' hc ht hm

theorem mem_newWalkPool {workers : Int} (h : t ∈ (newWalkPool workers).tasks) :
    t = .closer ∨ t = .take := by
  rcases List.mem_cons.1 h with h | h
  · exact .inl h
  · exact .inr (List.eq_of_mem_replicate h)

end

end NomadCsi.Stats
