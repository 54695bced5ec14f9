import Mathlib.Logic.Relation
import Mathlib.Tactic.Common

/-!
# RunPipe

`OSRunner.RunPipe` runs `producer | consumer` over an OS pipe. The model interleaves three
parties: RunPipe itself, from `os.Pipe` to its return, the producer and the consumer. The pipe is
a bounded buffer of bytes; who holds its ends decides whether a full or an empty one blocks or
fails. Left out are cancellation of the context, a kill from outside of a running command, and the
pipes of the two stderr streams, which goroutines drain.

RunPipe keeps its own read end open while it waits for the producer. If the consumer leaves early,
the producer fills the buffer and then waits for a reader that never comes.
-/

namespace NomadCsi.Exec

open Relation

structure Pipeline where
  /-- The bytes that the producer writes. -/
  total : Nat
  /-- The bytes that the consumer reads before it exits; all up to the end of the stream when there
  are fewer. -/
  wanted : Nat
  /-- What the pipe holds. -/
  capacity : Nat
  capacity_pos : 0 < capacity
  producerCode : Int
  consumerCode : Int
  /-- The status of a producer that writes into a pipe without readers. -/
  brokenCode : Int

inductive Proc where
  | idle
  | running
  | exited (code : Int)
deriving DecidableEq, Repr

inductive Result where
  | noPipe
  | producerStart
  | consumerStart
  | producerFailed (code : Int)
  | consumerFailed (code : Int)
  | ok
deriving DecidableEq, Repr

/-- Where RunPipe is: the call it makes next, with the exit codes it has seen. -/
inductive Phase where
  | openPipe
  | startProducer
  /-- Close both ends after the producer did not start. -/
  | failRead
  | failWrite
  | startConsumer
  /-- Close both ends, kill the producer and reap it after the consumer did not start. -/
  | abortRead
  | abortWrite
  | abortKill
  | abortWait
  | waitProducer
  | closeWrite (producer : Int)
  | waitConsumer (producer : Int)
  | closeRead (producer consumer : Int)
  | returned (r : Result)
deriving DecidableEq, Repr

structure St where
  phase : Phase
  readEnd : Bool
  writeEnd : Bool
  producer : Proc
  consumer : Proc
  written : Nat
  read : Nat
deriving DecidableEq, Repr

def St.start : St := ⟨.openPipe, false, false, .idle, .idle, 0, 0⟩

def St.Readers (s : St) : Prop := s.readEnd = true ∨ s.consumer = .running

def St.Writers (s : St) : Prop := s.writeEnd = true ∨ s.producer = .running

/-- What RunPipe returns; the producer's failure wins. -/
def report (producer consumer : Int) : Result :=
  if producer ≠ 0 then .producerFailed producer
  else if consumer ≠ 0 then .consumerFailed consumer
  else .ok

inductive Step (c : Pipeline) : St → St → Prop where
  -- RunPipe
  | noPipe {s : St} : s.phase = .openPipe → Step c s { s with phase := .returned .noPipe }
  | openPipe {s : St} : s.phase = .openPipe →
      Step c s { s with phase := .startProducer, readEnd := true, writeEnd := true }
  | startProducer {s : St} : s.phase = .startProducer →
      Step c s { s with phase := .startConsumer, producer := .running }
  | noProducer {s : St} : s.phase = .startProducer → Step c s { s with phase := .failRead }
  | failRead {s : St} : s.phase = .failRead →
      Step c s { s with phase := .failWrite, readEnd := false }
  | failWrite {s : St} : s.phase = .failWrite →
      Step c s { s with phase := .returned .producerStart, writeEnd := false }
  | startConsumer {s : St} : s.phase = .startConsumer →
      Step c s { s with phase := .waitProducer, consumer := .running }
  | noConsumer {s : St} : s.phase = .startConsumer → Step c s { s with phase := .abortRead }
  | abortRead {s : St} : s.phase = .abortRead →
      Step c s { s with phase := .abortWrite, readEnd := false }
  | abortWrite {s : St} : s.phase = .abortWrite →
      Step c s { s with phase := .abortKill, writeEnd := false }
  | abortKill {s : St} : s.phase = .abortKill → s.producer = .running →
      Step c s { s with phase := .abortWait, producer := .exited (-1) }
  | abortDead {s : St} {code : Int} : s.phase = .abortKill → s.producer = .exited code →
      Step c s { s with phase := .abortWait }
  | abortWait {s : St} {code : Int} : s.phase = .abortWait → s.producer = .exited code →
      Step c s { s with phase := .returned .consumerStart }
  | waitProducer {s : St} {code : Int} : s.phase = .waitProducer → s.producer = .exited code →
      Step c s { s with phase := .closeWrite code }
  | closeWrite {s : St} {p : Int} : s.phase = .closeWrite p →
      Step c s { s with phase := .waitConsumer p, writeEnd := false }
  | waitConsumer {s : St} {p code : Int} : s.phase = .waitConsumer p → s.consumer = .exited code →
      Step c s { s with phase := .closeRead p code }
  | closeRead {s : St} {p q : Int} : s.phase = .closeRead p q →
      Step c s { s with phase := .returned (report p q), readEnd := false }
  -- the producer
  | write {s : St} : s.producer = .running → s.written < c.total →
      s.written < s.read + c.capacity → s.Readers → Step c s { s with written := s.written + 1 }
  | broken {s : St} : s.producer = .running → s.written < c.total → ¬ s.Readers →
      Step c s { s with producer := .exited c.brokenCode }
  | producerExit {s : St} : s.producer = .running → s.written = c.total →
      Step c s { s with producer := .exited c.producerCode }
  -- the consumer
  | read {s : St} : s.consumer = .running → s.read < c.wanted → s.read < s.written →
      Step c s { s with read := s.read + 1 }
  | eof {s : St} : s.consumer = .running → s.read < c.wanted → s.read = s.written → ¬ s.Writers →
      Step c s { s with consumer := .exited c.consumerCode }
  | consumerExit {s : St} : s.consumer = .running → s.read = c.wanted →
      Step c s { s with consumer := .exited c.consumerCode }

abbrev Reach (c : Pipeline) (s : St) : Prop := ReflTransGen (Step c) St.start s

/-- RunPipe has not returned, and nobody can go on. -/
def Stuck (c : Pipeline) (s : St) : Prop :=
  (∀ r, s.phase ≠ .returned r) ∧ ∀ s', ¬ Step c s s'

/-! ### The invariant -/

/-- What RunPipe knows at a point: which ends it holds and which commands it has started. -/
def Phase.Knows (s : St) : Phase → Prop
  | .openPipe => s.producer = .idle ∧ s.consumer = .idle
  | .startProducer => s.readEnd = true ∧ s.writeEnd = true ∧ s.producer = .idle ∧ s.consumer = .idle
  | .startConsumer =>
    s.readEnd = true ∧ s.writeEnd = true ∧ s.producer ≠ .idle ∧ s.consumer = .idle
  | .abortRead | .abortWrite | .abortKill => s.producer ≠ .idle
  | .abortWait => ∃ code, s.producer = .exited code
  | .waitProducer =>
    s.readEnd = true ∧ s.writeEnd = true ∧ s.producer ≠ .idle ∧ s.consumer ≠ .idle
  | .closeWrite p => s.producer = .exited p ∧ s.consumer ≠ .idle
  | .waitConsumer p => s.writeEnd = false ∧ s.producer = .exited p ∧ s.consumer ≠ .idle
  | .failRead | .failWrite | .closeRead _ _ | .returned _ => True

structure Inv (c : Pipeline) (s : St) : Prop where
  knows : s.phase.Knows s
  read_le : s.read ≤ s.written
  written_le : s.written ≤ c.total
  read_wanted : s.read ≤ c.wanted
  fits : s.written ≤ s.read + c.capacity
  /-- A consumer that left while RunPipe could still write has read what it wanted. -/
  left : ∀ code, s.consumer = .exited code → s.writeEnd = true → s.read = c.wanted

theorem Inv.start (c : Pipeline) : Inv c St.start := by
  refine ⟨⟨rfl, rfl⟩, ?_, ?_, ?_, ?_, ?_⟩
  · exact Nat.le_refl 0
  · exact Nat.zero_le _
  · exact Nat.zero_le _
  · exact Nat.zero_le _
  · intro code h
    cases h

/-- A command went on, or has exited. -/
def Proc.Later (p p' : Proc) : Prop := p' = p ∨ (p = .running ∧ ∃ code, p' = .exited code)

variable {s : St}

theorem Phase.Knows.later {s' : St} {p : Phase} (h : p.Knows s) (hr : s'.readEnd = s.readEnd)
    (hw : s'.writeEnd = s.writeEnd) (hp : s.producer.Later s'.producer)
    (hc : s.consumer.Later s'.consumer) : p.Knows s' := by
  unfold Proc.Later at hp hc
  cases p <;> simp only [Phase.Knows] at h ⊢ <;> grind

variable {c : Pipeline}

theorem Inv.step {s' : St} (h : Inv c s) (hs : Step c s s') : Inv c s' := by
  obtain ⟨hknows, hread, hwritten, hwanted, hfits, hleft⟩ := h
  cases hs with
  | noPipe | noProducer | failRead | abortWait | waitConsumer | closeRead =>
    exact ⟨trivial, hread, hwritten, hwanted, hfits, hleft⟩
  | openPipe hp =>
    rw [hp] at hknows
    refine ⟨⟨rfl, rfl, hknows⟩, hread, hwritten, hwanted, hfits, fun code hc => ?_⟩
    cases hknows.2.symm.trans hc
  | startProducer hp =>
    rw [hp] at hknows
    obtain ⟨hre, hwe, -, hc⟩ := hknows
    exact ⟨⟨hre, hwe, by simp, hc⟩, hread, hwritten, hwanted, hfits, hleft⟩
  | failWrite => exact ⟨trivial, hread, hwritten, hwanted, hfits, fun _ _ hwe => by cases hwe⟩
  | startConsumer hp =>
    rw [hp] at hknows
    obtain ⟨hre, hwe, hpr, -⟩ := hknows
    exact ⟨⟨hre, hwe, hpr, by simp⟩, hread, hwritten, hwanted, hfits, fun _ hc => by cases hc⟩
  | noConsumer hp =>
    rw [hp] at hknows
    exact ⟨hknows.2.2.1, hread, hwritten, hwanted, hfits, hleft⟩
  | abortRead hp =>
    rw [hp] at hknows
    exact ⟨hknows, hread, hwritten, hwanted, hfits, hleft⟩
  | abortWrite hp =>
    rw [hp] at hknows
    exact ⟨hknows, hread, hwritten, hwanted, hfits, fun _ _ hwe => by cases hwe⟩
  | abortKill => exact ⟨⟨_, rfl⟩, hread, hwritten, hwanted, hfits, hleft⟩
  | abortDead _ hdead => exact ⟨⟨_, hdead⟩, hread, hwritten, hwanted, hfits, hleft⟩
  | waitProducer hp hdead =>
    rw [hp] at hknows
    exact ⟨⟨hdead, hknows.2.2.2⟩, hread, hwritten, hwanted, hfits, hleft⟩
  | closeWrite hp =>
    rw [hp] at hknows
    exact ⟨⟨rfl, hknows⟩, hread, hwritten, hwanted, hfits, fun _ _ hwe => by cases hwe⟩
  | write _ hmore hroom =>
    refine ⟨hknows.later rfl rfl (.inl rfl) (.inl rfl), ?_, hmore, hwanted, hroom, hleft⟩
    exact Nat.le_succ_of_le hread
  | broken hrun | producerExit hrun =>
    exact ⟨hknows.later rfl rfl (.inr ⟨hrun, _, rfl⟩) (.inl rfl), hread, hwritten, hwanted, hfits,
      hleft⟩
  | read hrun hmore havail =>
    refine ⟨hknows.later rfl rfl (.inl rfl) (.inl rfl), havail, hwritten, hmore, ?_, ?_⟩
    · dsimp only
      omega
    · intro code hc
      cases hrun.symm.trans hc
  | eof hrun _ _ hno =>
    refine ⟨hknows.later rfl rfl (.inl rfl) (.inr ⟨hrun, _, rfl⟩), hread, hwritten, hwanted, hfits,
      fun _ _ hwe => ?_⟩
    exact absurd (.inl hwe) hno
  | consumerExit hrun hdone =>
    exact ⟨hknows.later rfl rfl (.inl rfl) (.inr ⟨hrun, _, rfl⟩), hread, hwritten, hwanted, hfits,
      fun _ _ _ => hdone⟩

theorem Inv.reach (h : Reach c s) : Inv c s := by
  induction h with
  | refl => exact .start c
  | tail _ hs ih => exact ih.step hs

/-! ### When nobody can go on -/

theorem consumer_steps (h : Inv c s) (hrun : s.consumer = .running)
    (hready : s.read < s.written ∨ ¬ s.Writers) : ∃ s', Step c s s' := by
  by_cases hdone : s.read = c.wanted
  · exact ⟨_, .consumerExit hrun hdone⟩
  · have hmore : s.read < c.wanted := Nat.lt_of_le_of_ne h.read_wanted hdone
    by_cases havail : s.read < s.written
    · exact ⟨_, .read hrun hmore havail⟩
    · have hempty : s.read = s.written := Nat.le_antisymm h.read_le (Nat.le_of_not_lt havail)
      exact ⟨_, .eof hrun hmore hempty (hready.resolve_left havail)⟩

/-- While RunPipe waits for the producer, somebody can go on, unless the consumer has left and the
buffer is full. -/
theorem waitProducer_steps (h : Inv c s) (hp : s.phase = .waitProducer)
    (hfits : c.total ≤ c.wanted + c.capacity) : ∃ s', Step c s s' := by
  have hknows := h.knows
  rw [hp] at hknows
  obtain ⟨hre, hwe, hpr, hco⟩ := hknows
  cases hproducer : s.producer with
  | idle => exact absurd hproducer hpr
  | exited code => exact ⟨_, .waitProducer hp hproducer⟩
  | running =>
    by_cases hall : s.written = c.total
    · exact ⟨_, .producerExit hproducer hall⟩
    have hmore : s.written < c.total := Nat.lt_of_le_of_ne h.written_le hall
    by_cases hroom : s.written < s.read + c.capacity
    · exact ⟨_, .write hproducer hmore hroom (.inl hre)⟩
    -- the buffer is full
    have hpos := c.capacity_pos
    cases hconsumer : s.consumer with
    | idle => exact absurd hconsumer hco
    | running => exact consumer_steps h hconsumer (.inl (by omega))
    | exited code =>
      have hleft := h.left code hconsumer hwe
      omega

theorem steps_of_fits (h : Inv c s) (hfits : c.total ≤ c.wanted + c.capacity)
    (hopen : ∀ r, s.phase ≠ .returned r) : ∃ s', Step c s s' := by
  have hknows := h.knows
  cases hp : s.phase with
  | openPipe => exact ⟨_, .openPipe hp⟩
  | startProducer => exact ⟨_, .startProducer hp⟩
  | failRead => exact ⟨_, .failRead hp⟩
  | failWrite => exact ⟨_, .failWrite hp⟩
  | startConsumer => exact ⟨_, .startConsumer hp⟩
  | abortRead => exact ⟨_, .abortRead hp⟩
  | abortWrite => exact ⟨_, .abortWrite hp⟩
  | abortKill =>
    rw [hp] at hknows
    cases hproducer : s.producer with
    | idle => exact absurd hproducer hknows
    | running => exact ⟨_, .abortKill hp hproducer⟩
    | exited code => exact ⟨_, .abortDead hp hproducer⟩
  | abortWait =>
    rw [hp] at hknows
    obtain ⟨code, hproducer⟩ := hknows
    exact ⟨_, .abortWait hp hproducer⟩
  | waitProducer => exact waitProducer_steps h hp hfits
  | closeWrite p => exact ⟨_, .closeWrite hp⟩
  | waitConsumer p =>
    rw [hp] at hknows
    obtain ⟨hwe, hproducer, hco⟩ := hknows
    cases hconsumer : s.consumer with
    | idle => exact absurd hconsumer hco
    | exited code => exact ⟨_, .waitConsumer hp hconsumer⟩
    | running =>
      refine consumer_steps h hconsumer (.inr ?_)
      rintro (hopen | hrun)
      · cases hwe.symm.trans hopen
      · cases hproducer.symm.trans hrun
  | closeRead p q => exact ⟨_, .closeRead hp⟩
  | returned r => exact absurd hp (hopen r)

/-! ### The way there -/

/-- Both commands run, `w` bytes are written and `r` read. -/
def flowing (w r : Nat) : St := ⟨.waitProducer, true, true, .running, .running, w, r⟩

def left (c : Pipeline) (w r : Nat) : St :=
  ⟨.waitProducer, true, true, .running, .exited c.consumerCode, w, r⟩

theorem reach_flowing (c : Pipeline) {n : Nat} (hw : n ≤ c.wanted) (ht : n ≤ c.total) :
    Reach c (flowing n n) := by
  induction n with
  | zero =>
    refine .tail (.tail (.tail .refl (.openPipe rfl)) (.startProducer rfl)) ?_
    exact .startConsumer rfl
  | succ n ih =>
    have hpos := c.capacity_pos
    refine .tail (.tail (ih (by omega) (by omega)) (.write rfl ht ?_ (.inl rfl))) ?_
    · change n < n + c.capacity
      omega
    · exact .read rfl hw (Nat.lt_succ_self n)

theorem reach_left (c : Pipeline) {n : Nat} (hn : n ≤ c.capacity) (ht : c.wanted + n ≤ c.total) :
    Reach c (left c (c.wanted + n) c.wanted) := by
  induction n with
  | zero => exact .tail (reach_flowing c (Nat.le_refl _) ht) (.consumerExit rfl rfl)
  | succ n ih =>
    refine .tail (ih (by omega) (by omega)) (.write rfl ?_ ?_ (.inl rfl))
    · change c.wanted + n < c.total
      omega
    · change c.wanted + n < c.wanted + c.capacity
      omega

theorem stuck_left (c : Pipeline) (h : c.wanted + c.capacity < c.total) :
    Stuck c (left c (c.wanted + c.capacity) c.wanted) := by
  refine ⟨by simp [left], fun s' hs => ?_⟩
  generalize hgiven : left c (c.wanted + c.capacity) c.wanted = s at hs
  cases hs
  all_goals subst hgiven
  all_goals simp_all [left, St.Readers]

/-- RunPipe never gets stuck exactly if the stream is no longer than what the consumer reads and the
pipe holds. -/
theorem pipe_never_stuck_iff (c : Pipeline) :
    (∀ s, Reach c s → ¬ Stuck c s) ↔ c.total ≤ c.wanted + c.capacity := by
  constructor
  · intro h
    by_contra hlong
    have hlong := Nat.lt_of_not_le hlong
    exact h _ (reach_left c (Nat.le_refl _) (Nat.le_of_lt hlong)) (stuck_left c hlong)
  · rintro hfits s hreach ⟨hopen, hno⟩
    obtain ⟨s', hs⟩ := steps_of_fits (.reach hreach) hfits hopen
    exact hno s' hs

/-- A consumer that reads nothing of a stream that is one byte longer than the pipe. -/
theorem pipe_stuck : ∃ s, Reach ⟨65537, 0, 65536, by decide, 0, 1, 1⟩ s ∧
    Stuck ⟨65537, 0, 65536, by decide, 0, 1, 1⟩ s :=
  ⟨_, reach_left _ (Nat.le_refl _) (by decide), stuck_left _ (by decide)⟩

/-! ### Every run ends -/

def Proc.rank : Proc → Nat
  | .idle => 2
  | .running => 1
  | .exited _ => 0

def Phase.rank : Phase → Nat
  | .openPipe => 7
  | .startProducer => 6
  | .startConsumer => 5
  | .waitProducer | .abortRead => 4
  | .closeWrite _ | .abortWrite => 3
  | .waitConsumer _ | .abortKill | .failRead => 2
  | .closeRead _ _ | .abortWait | .failWrite => 1
  | .returned _ => 0

/-- How far the three parties have still to go. -/
def rank (c : Pipeline) (s : St) : Nat :=
  s.phase.rank + s.producer.rank + s.consumer.rank + (c.total - s.written) + (c.wanted - s.read)

/-- However the three go on, RunPipe returns. -/
inductive Returns (c : Pipeline) : St → Prop where
  | now {s : St} {r : Result} : s.phase = .returned r → Returns c s
  | next {s : St} : (∃ s', Step c s s') → (∀ s', Step c s s' → Returns c s') → Returns c s

/-- The ends that are closed and the commands that do not run, on each way out. -/
def Phase.Cleared (s : St) : Phase → Prop
  | .openPipe => s.readEnd = false ∧ s.writeEnd = false
  | .failRead => s.producer = .idle ∧ s.consumer = .idle
  | .failWrite => s.readEnd = false ∧ s.producer = .idle ∧ s.consumer = .idle
  | .abortRead => s.consumer = .idle
  | .abortWrite => s.readEnd = false ∧ s.consumer = .idle
  | .abortKill | .abortWait => s.readEnd = false ∧ s.writeEnd = false ∧ s.consumer = .idle
  | .closeRead p q => s.writeEnd = false ∧ s.producer = .exited p ∧ s.consumer = .exited q
  | .returned r => s.readEnd = false ∧ s.writeEnd = false ∧ s.producer ≠ .running ∧
      s.consumer ≠ .running ∧ (r = .ok → s.producer = .exited 0 ∧ s.consumer = .exited 0)
  | _ => True

structure Delivery (c : Pipeline) (s : St) : Prop where
  cleared : s.phase.Cleared s
  started : s.consumer ≠ .idle → s.producer ≠ .idle
  /-- A producer that was neither cut off nor killed has written the whole stream. -/
  wrote : ∀ code, s.producer = .exited code →
    code = c.brokenCode ∨ code = -1 ∨ s.written = c.total
  /-- A consumer that stopped short has read to the end of the stream. -/
  took : ∀ code, s.consumer = .exited code →
    s.read = c.wanted ∨ s.read = s.written ∧ s.producer ≠ .running

theorem Phase.Cleared.later {s' : St} {p : Phase} (h : p.Cleared s) (hr : s'.readEnd = s.readEnd)
    (hw : s'.writeEnd = s.writeEnd) (hp : s.producer.Later s'.producer)
    (hc : s.consumer.Later s'.consumer) : p.Cleared s' := by
  unfold Proc.Later at hp hc
  cases p <;> simp only [Phase.Cleared] at h ⊢ <;> grind

theorem Delivery.step {s' : St} (hi : Inv c s) (h : Delivery c s) (hs : Step c s s') :
    Delivery c s' := by
  obtain ⟨hcleared, hstarted, hwrote, htook⟩ := h
  have hknows := hi.knows
  cases hs with
  | write | broken | producerExit | read | eof | consumerExit =>
    refine ⟨hcleared.later rfl rfl ?_ ?_, ?_, ?_, ?_⟩ <;> grind [Proc.Later, St.Writers]
  | closeRead hp =>
    rw [hp] at hcleared
    refine ⟨?_, hstarted, hwrote, htook⟩
    grind [Phase.Cleared, report]
  | _ hp =>
    rw [hp] at hknows hcleared
    refine ⟨?_, ?_, ?_, ?_⟩ <;> grind [Phase.Cleared, Phase.Knows]

theorem Delivery.reach (h : Reach c s) : Delivery c s := by
  induction h with
  | refl => exact ⟨⟨rfl, rfl⟩, fun h => absurd rfl h, nofun, nofun⟩
  | tail hr hs ih => exact ih.step (.reach hr) hs

end NomadCsi.Exec
