import NomadCsi.Lib.Eval
import NomadCsi.Zfs.Logic

/-!
# ZFS without faults

What the ZFS wrapper answers when no command fails: each tool is a function of the store.
-/

namespace NomadCsi.Zfs

open Lib Lib.Go Driver

def Store.online (s : Store) (pool : String) : Bool :=
  (s.pool? pool).any fun p => trimSpace p.health = "ONLINE"

theorem Store.ready_iff {s : Store} {pool : String} : s.Ready pool ↔ s.online pool = true := by
  unfold Store.Ready Store.online
  cases s.pool? pool with
  | none => simp
  | some p => simp

/-- The volumes in a listing as they are read. -/
def Store.listed (s : Store) (parent : String) : List (String × Int) :=
  if (s.pool? (poolOf parent)).isSome then
    rows zvolRow (unlines ((s.volumesUnder parent).map volumeLine))
  else []

def Store.listedSnapshots (s : Store) (target : String) : List SnapshotEntry :=
  if (s.pool? (poolOf target)).isSome then
    rows snapshotRow (unlines ((s.snapshotsUnder target).map snapshotLine))
  else []

variable (s : Store)

variable {α ε : Type}

theorem eval_command (c : Cmd) (f : c.Reply → Script ε α) :
    eval zfsAct {} (perform c >>= f).run s = eval zfsAct {} (f (serve s c).1).run (serve s c).2 :=
  rfl

theorem eval_outcome (c : Cmd) (msg : String) :
    eval zfsAct {} (perform c >>= fun r => outcome msg r : Tool c.Out).run s =
      ((serve s c).1.mapError fun e => msg ++ ": " ++ e.text, (serve s c).2) := by
  rw [eval_command]
  cases (serve s c).1 with
  | ok out => rfl
  | error e => rfl

variable {s} in
theorem eval_outcome_eq_ok {c : Cmd} {msg : String} {out : c.Out} {s' : Store} :
    eval zfsAct {} (perform c >>= fun r => outcome msg r : Tool c.Out).run s = (.ok out, s') ↔
      serve s c = (.ok out, s') := by
  rw [eval_outcome]
  rcases serve s c with ⟨e | v, s1⟩
  · simp [Except.mapError]
  · simp [Except.mapError]

theorem eval_poolStatus (pool : String) : eval zfsAct {} (poolStatus pool).run s =
    (.ok ((s.pool? pool).isSome, s.online pool), s) := by
  unfold poolStatus Store.online
  rw [eval_command]
  cases hp : s.pool? pool with
  | none => simp [serve, hp, refused, isExit]
  | some p => simp [serve, hp]

theorem eval_datasetExists (ds : String) : eval zfsAct {} (datasetExists ds).run s =
    (.ok (s.zvol? ds).isSome, s) := by
  unfold datasetExists
  rw [eval_command]
  cases hv : s.zvol? ds with
  | none => simp [serve, hv, refused, isExit]
  | some v => simp [serve, hv]

theorem eval_snapshotExists (ds name : String) : eval zfsAct {} (snapshotExists ds name).run s =
    (.ok ((s.zvol? ds).isSome && (s.snaps.lookup (ds, name)).isSome), s) := by
  unfold snapshotExists
  rw [eval_command]
  cases hv : s.zvol? ds with
  | none => simp [serve, hv, refused, isExit]
  | some v =>
    cases hsn : s.snaps.lookup (ds, name) with
    | none => simp [serve, hv, hsn, refused, isExit]
    | some sn => simp [serve, hv, hsn]

theorem eval_listZvols (parent : String) : eval zfsAct {} (listZvols parent).run s =
    (.ok (s.listed parent), s) := by
  unfold listZvols listing Store.listed
  rw [eval_command]
  by_cases hp : (s.pool? (poolOf parent)).isSome = true
  · simp [serve, hp]
  · simp [serve, hp, refused, isExit]

theorem eval_listSnapshots (target : String) : eval zfsAct {} (listSnapshots target).run s =
    (.ok (s.listedSnapshots target), s) := by
  unfold listSnapshots listing Store.listedSnapshots
  rw [eval_command]
  by_cases hp : (s.pool? (poolOf target)).isSome = true
  · simp [serve, hp]
  · simp [serve, hp, refused, isExit]

variable {s}

variable {s1 : Store}

theorem eval_step {β : Type} {x : Script ε α}
    {f : α → Script ε β} {a : α} (h : eval zfsAct {} x.run s = (.ok a, s1)) :
    eval zfsAct {} (x >>= f).run s = eval zfsAct {} (f a).run s1 := by
  rw [eval_run_bind, h]

theorem eval_served {cmd : Cmd} {msg : String} {out : cmd.Out} {g : String → ε}
    {f : cmd.Out → Script ε α} (h : serve s cmd = (.ok out, s1)) :
    eval zfsAct {} ((onError g (perform cmd >>= fun r => outcome msg r : Tool cmd.Out)) >>= f).run s =
      eval zfsAct {} (f out).run s1 :=
  eval_step (eval_onError_eq_ok.2 (eval_outcome_eq_ok.2 h))

theorem eval_refused {cmd : Cmd} {msg : String} {e : ExecError} {g : String → ε}
    {f : cmd.Out → Script ε α} (h : serve s cmd = (.error e, s1)) :
    eval zfsAct {} ((onError g (perform cmd >>= fun r => outcome msg r : Tool cmd.Out)) >>= f).run s =
      (.error (g (msg ++ ": " ++ e.text)), s1) := by
  rw [eval_run_bind, eval_onError, eval_outcome, h]
  rfl

theorem eval_reads {x : Script ε α}
    (hx : x.run.Calls fun cmd => cmd.reads = true) : (eval zfsAct {} x.run s).2 = s := by
  obtain ⟨tr, -, hrun⟩ := runs_eval zfsAct {} x.run s
  exact (hrun.invariant (I := fun s1 => s1 = s) (fun _ _ _ hcmd hs => (zfsAct_reads hcmd).trans hs)
    hx rfl).2

theorem eval_getVolsize {ds : String} {v : Zvol} (hv : s.zvol? ds = some v) :
    eval zfsAct {} (getVolsize ds).run s = (.ok v.volsize, s) := by
  unfold getVolsize
  rw [eval_outcome]
  unfold serve
  dsimp only
  rw [hv]
  rfl

theorem eval_getUserProp {ds : String} {v : Zvol} (hv : s.zvol? ds = some v) (prop : String) :
    eval zfsAct {} (getUserProp ds prop).run s = (.ok (v.read prop), s) := by
  have hout : serve s (.getProp ds prop) = (.ok ((v.props.lookup prop).getD "-"), s) := by
    unfold serve
    dsimp only
    rw [hv]
  unfold getUserProp
  rw [eval_command, hout]
  rfl

section

variable {pool : String} {p : Pool} (hp : s.pool? pool = some p)
include hp

theorem eval_poolFree : eval zfsAct {} (poolFree pool).run s = (.ok p.free, s) := by
  unfold poolFree
  rw [eval_outcome]
  unfold serve
  dsimp only
  rw [hp]
  rfl

theorem eval_poolAvailable : eval zfsAct {} (poolAvailable pool).run s = (.ok p.available, s) := by
  unfold poolAvailable
  rw [eval_outcome]
  unfold serve
  dsimp only
  rw [hp]
  rfl

theorem eval_poolSize : eval zfsAct {} (poolSize pool).run s = (.ok p.size, s) := by
  unfold poolSize
  rw [eval_outcome]
  unfold serve
  dsimp only
  rw [hp]
  rfl

end

end NomadCsi.Zfs
