import NomadCsi.Lib.Observe
import NomadCsi.Qnap.Sweep
import NomadCsi.Qnap.Cold

/-!
# Sweeps beside stages

The reconciler sweeps while the CSI server serves StageVolume and UnstageVolume, each under
the lock of its volume id, and a sweep acts on what it has read before. `Timely` says that
StageVolume saves its metadata only while no sweep is under way that has read the stage cache
without the IQN: what a sweep has read is then still so when it logs out.
-/

namespace NomadCsi.Qnap

open Lib Lib.Go Driver Node

/-- The reconciler's loop, `k` sweeps at most: sweep, then wait for the tick. -/
def Reconciler.run (r : Reconciler) : Nat → Timers → Prog Cmd Cmd.Reply (Except Error Unit)
  | 0, _ => return .ok ()
  | k + 1, timers => do
    let (timers, _) ← sweep r timers
    if ← Prog.lift Cmd.pause then return .ok () else r.run k timers

inductive NodeJob where
  | reconcile (sweeps : Nat)
  | stage (req : StageRequest)
  | unstage (req : UnstageRequest)

namespace NodeJob

def volume : NodeJob → Option String
  | reconcile _ => none
  | stage req => some req.volumeID
  | unstage req => some req.volumeID

def serve (n : NodePlugin) (grace : Int) : NodeJob → NodeOp Unit
  | reconcile k => ExceptT.mk ((newReconciler n grace).run k ∅)
  | stage req => stageVolume n req
  | unstage req => unstageVolume n req

end NodeJob

abbrev NodeServer := Pool Cmd Cmd.Reply Host NodeJob Unit (Except Error Unit)

abbrev NodeThread := Thread Cmd Cmd.Reply NodeJob (Except Error Unit)

/-! ### The log -/

def saves : (c : Cmd) × c.Reply → Option (String × String)
  | ⟨.metaSave v m, _⟩ => some (v, m.iqn)
  | _ => none

def loggedOut : (c : Cmd) × c.Reply → Option String
  | ⟨.logout _ iqn, .ok _⟩ => some iqn
  | _ => none

structure StageLog where
  /-- Volumes with their IQNs whose StageVolume has returned and whose UnstageVolume has not
  started. -/
  staged : List (String × String)
  cut : List (String × String)

namespace StageLog

def hear (l : StageLog) (t : NodeThread) : StageLog :=
  match t.job, t.rest with
  | .stage _, .ret (.ok _) => { l with staged := t.past.filterMap saves ++ l.staged }
  | .reconcile _, _ =>
    { l with cut := l.cut ++ l.staged.filter fun x => t.past.getLast?.bind loggedOut = some x.2 }
  | _, _ => l

def see (l : StageLog) : Action NodeJob CmdChoice → NodeServer → StageLog
  | .spawn (.unstage req), _ => { l with staged := l.staged.filter (·.1 ≠ req.volumeID) }
  | .step i _, p => p.threads[i]?.elim l l.hear
  | _, _ => l

end StageLog

/-- The node as it is reached through actions that satisfy `Ok`, and its log. -/
abbrev Logged (n : NodePlugin) (grace : Int) (Ok : NodeServer → Action NodeJob CmdChoice → Prop)
    (p : NodeServer) (l : StageLog) (q : NodeServer) : Prop :=
  Observed hostAct (fun job => (job.serve n grace).run) (fun _ => some) (fun _ => id) StageLog.see Ok
    ⟨[], []⟩ p l q

/-- The calls under way hold the locks of different volume ids. -/
def Locked (p : NodeServer) : Prop := (p.threads.filterMap (·.job.volume)).Nodup

/-! ### What a sweep has read -/

def hearCache (read : Option (List String)) : (c : Cmd) × c.Reply → Option (List String)
  | ⟨.metaIqns, iqns⟩ => some iqns
  | ⟨.pause, _⟩ => none
  | _ => read

/-- The IQNs that a sweep under way has read from the stage cache. -/
def readCache (past : Past Cmd Cmd.Reply) : Option (List String) := past.foldl hearCache none

@[simp] theorem readCache_snoc (past : Past Cmd Cmd.Reply) (x : (c : Cmd) × c.Reply) :
    readCache (past ++ [x]) = hearCache (readCache past) x := by
  simp [readCache]

/-- The metadata may be saved: they name an IQN, the same one if they are saved already, and no
sweep under way has read the cache without it. -/
def MaySave (p : NodeServer) (v : String) (m : StageMeta) : Prop :=
  m.iqn ≠ "" ∧ (∀ m0 ∈ p.world.stages.lookup v, m0.iqn = m.iqn) ∧
    ∀ t ∈ p.threads, ∀ iqns ∈ readCache t.past, m.iqn ∈ iqns

def saving (p : NodeServer) : Action NodeJob CmdChoice → Option (String × StageMeta)
  | .step i _ =>
    match p.threads[i]? with
    | some ⟨_, _, .call (.metaSave v m) _⟩ => some (v, m)
    | _ => none
  | _ => none

def Timely (p : NodeServer) (a : Action NodeJob CmdChoice) : Prop :=
  Locked p ∧ ∀ x ∈ saving p a, MaySave p x.1 x.2

instance (p : NodeServer) : Decidable (Locked p) := inferInstanceAs (Decidable (List.Nodup _))

instance (p : NodeServer) (v : String) (m : StageMeta) : Decidable (MaySave p v m) :=
  inferInstanceAs (Decidable (_ ∧ _ ∧ _))

instance (p : NodeServer) (a : Action NodeJob CmdChoice) : Decidable (Timely p a) :=
  inferInstanceAs (Decidable (_ ∧ ∀ x ∈ saving p a, _))

/-! ### The calls of a job -/

/-- A sweep logs out no IQN that it has read, and the metadata of a volume are written by the calls
for this volume. -/
structure Proper (job : NodeJob) (read : Option (List String)) (c : Cmd) : Prop where
  logout : ∀ k, job = .reconcile k → ∀ p iqn, c = .logout p iqn → ∃ iqns ∈ read, iqn ∉ iqns
  save : ∀ v m, c = .metaSave v m → ∃ req, job = .stage req ∧ req.volumeID = v
  delete : ∀ v, c = .metaDelete v → ∃ req, job = .unstage req ∧ req.volumeID = v

theorem UncachedCmd.proper {c : Cmd} (h : UncachedCmd c) {job : NodeJob} {read : Option (List String)}
    (hlogout : ∀ k, job = .reconcile k → ∀ p iqn, c = .logout p iqn → ∃ iqns ∈ read, iqn ∉ iqns) :
    Proper job read c :=
  ⟨hlogout, fun v m hc => absurd hc (h.1 v m), fun v hc => absurd hc (h.2 v)⟩

/-- Whatever the program is answered after it has read the cache, its calls are proper. -/
def Heeds {α : Type} (job : NodeJob) : Option (List String) → Prog Cmd Cmd.Reply α → Prop
  | _, .ret _ => True
  | read, .call c k => Proper job read c ∧ ∀ r, Heeds job (hearCache read ⟨c, r⟩) (k r)

section

variable {job : NodeJob} {read : Option (List String)} {k : Nat} {α β : Type}
  {p : Prog Cmd Cmd.Reply α}

theorem Heeds.bind {f : α → Prog Cmd Cmd.Reply β} (hp : Heeds job read p)
    (hf : ∀ a read, Heeds job read (f a)) : Heeds job read (p >>= f) := by
  induction p generalizing read with
  | ret a => exact hf a read
  | call c k ih => exact ⟨hp.1, fun r => ih r (hp.2 r)⟩

theorem heeds_of_calls (h : p.Calls fun c => ∀ read, Proper job read c) : Heeds job read p := by
  induction p generalizing read with
  | ret a => trivial
  | call c k ih => exact ⟨h.1 read, fun r => ih r (h.2 r)⟩

theorem heeds_afterRead {cached : List String} (h : p.Calls (AfterRead cached)) :
    Heeds (.reconcile k) (some cached) p := by
  induction p with
  | ret a => trivial
  | call c k ih =>
    obtain ⟨hc, hk⟩ := h
    refine ⟨⟨?_, ?_, ?_⟩, fun r => ?_⟩
    · rintro _ - q iqn rfl
      exact ⟨cached, rfl, hc⟩
    · rintro v m rfl
      cases hc
    · rintro v rfl
      cases hc
    · cases c with
      | metaIqns | pause => cases hc
      | _ => exact ih r (hk r)

theorem heeds_sweep (r : Reconciler) (tm : Timers) : Heeds (.reconcile k) read (sweep r tm) := by
  refine .bind (heeds_of_calls (calls_listSessions.mono ?_)) fun sessions read => ?_
  · rintro c rfl read
    exact ⟨by simp, by simp, by simp⟩
  cases sessions with
  | error e => trivial
  | ok sessions =>
    refine .bind (heeds_of_calls (calls_listMounts.mono ?_)) fun mounts read => ?_
    · rintro c rfl read
      exact ⟨by simp, by simp, by simp⟩
    cases mounts with
    | error e => trivial
    | ok mounts =>
      obtain ⟨rest, heq, hrest⟩ := sweepTables_eq r tm sessions mounts
      change Heeds _ _ (sweepTables r tm sessions mounts)
      rw [heq]
      exact ⟨⟨by simp, by simp, by simp⟩, fun _ => heeds_afterRead (hrest _)⟩

theorem heeds_run (r : Reconciler) (tm : Timers) (j : Nat) :
    Heeds (.reconcile k) read (r.run j tm) := by
  induction j generalizing tm read with
  | zero => trivial
  | succ j ih =>
    refine .bind (heeds_sweep r tm) fun out read => ⟨?_, fun stop => ?_⟩
    · exact ⟨by simp, by simp, by simp⟩
    · change Heeds _ _ (if stop = true then _ else _)
      split
      · trivial
      · exact ih _

end

theorem heeds_serve (n : NodePlugin) (grace : Int) (job : NodeJob) :
    Heeds job none (job.serve n grace).run := by
  cases job with
  | reconcile k => exact heeds_run _ _ _
  | stage req =>
    have hproper : ∀ {c : Cmd}, UncachedCmd c → ∀ read, Proper (.stage req) read c :=
      fun h read => h.proper nofun
    refine heeds_of_calls (calls_run_bind ((uncached_attach n _ _).mono fun c => hproper) fun r =>
      calls_run_bind (calls_perform fun read => ⟨nofun, ?_, nofun⟩) fun _ => ?_)
    · rintro v m ⟨⟩
      exact ⟨req, rfl, rfl⟩
    · exact (calm_stageDevice req r.1).mono fun c hc => hproper hc.2
  | unstage req =>
    refine heeds_of_calls ((unstages_unstageVolume n req).mono fun c hc read => ⟨nofun, ?_, ?_⟩)
    · rintro v m rfl
      cases hc.1
    · exact fun v h => ⟨req, rfl, (hc.2 v h).symm⟩

/-! ### What is staged stays known -/

/-- The volume is saved under its IQN, and no sweep under way has read the cache without it. -/
structure OnFile (p : NodeServer) (x : String × String) : Prop where
  iqn : x.2 ≠ ""
  saved : ∃ m, p.world.stages.lookup x.1 = some m ∧ m.iqn = x.2
  read : ∀ t ∈ p.threads, ∀ iqns ∈ readCache t.past, x.2 ∈ iqns

structure StageLog.Holds (l : StageLog) (p : NodeServer) : Prop where
  heeds : ∀ t ∈ p.threads, Heeds t.job (readCache t.past) t.rest
  saver : ∀ t ∈ p.threads, ∀ x ∈ t.past.filterMap saves, ∃ req, t.job = .stage req ∧ req.volumeID = x.1
  known : ∀ x, (x ∈ l.staged ∨ ∃ t ∈ p.threads, x ∈ t.past.filterMap saves) → OnFile p x
  unended : ∀ x ∈ l.staged, ∀ t ∈ p.threads, ∀ req, t.job = .unstage req → req.volumeID ≠ x.1
  cut : l.cut = []

theorem mem_stagedIqns {h : Host} {v : String} {m : StageMeta} (hm : h.stages.lookup v = some m)
    (hne : m.iqn ≠ "") : m.iqn ∈ h.stagedIqns :=
  List.mem_filter.2 ⟨List.mem_map.2 ⟨⟨v, m⟩, AList.mem_lookup_iff.1 hm, rfl⟩, by simpa using hne⟩

/-- The node after its thread `i`, which is `t`, has made the call `c`. -/
abbrev NodeServer.after (p : NodeServer) (i : Nat) (t : NodeThread) (c : Cmd) (ch : CmdChoice)
    (k : c.Reply → Prog Cmd Cmd.Reply (Except Error Unit)) : NodeServer :=
  { p with
    world := (hostAct p.world c ch).2
    threads := p.threads.set i (t.answer c (hostAct p.world c ch).1 k) }

section

variable {l : StageLog} {p : NodeServer} {x : String × String}
  {i : Nat} {t : NodeThread} {c : Cmd} {ch : CmdChoice}
  {k : c.Reply → Prog Cmd Cmd.Reply (Except Error Unit)}

theorem OnFile.step (h : OnFile p x) (ht : t ∈ p.threads) (hdel : c ≠ .metaDelete x.1)
    (hsave : ∀ m, c = .metaSave x.1 m → m.iqn = x.2) : OnFile (NodeServer.after p i t c ch k) x := by
  obtain ⟨m, hm, hi⟩ := h.saved
  refine ⟨h.iqn, ?_, fun t' ht' iqns hr => ?_⟩
  · by_cases hs : ∃ v m', c = .metaSave v m'
    · obtain ⟨v, m', rfl⟩ := hs
      by_cases hv : v = x.1
      · exact ⟨m', hv ▸ AList.lookup_insert _, hsave m' (hv ▸ rfl)⟩
      · exact ⟨m, (AList.lookup_insert_ne (Ne.symm hv)).trans hm, hi⟩
    by_cases hd : ∃ v, c = .metaDelete v
    · obtain ⟨v, rfl⟩ := hd
      have hv : x.1 ≠ v := fun heq => hdel (heq ▸ rfl)
      exact ⟨m, (AList.lookup_erase_ne hv).trans hm, hi⟩
    · have hsame := hostAct_stages p.world ch (fun v m h => hs ⟨v, m, h⟩) fun v h => hd ⟨v, h⟩
      exact ⟨m, hsame ▸ hm, hi⟩
  · rcases List.mem_or_eq_of_mem_set ht' with ht' | rfl
    · exact h.read t' ht' iqns hr
    · have hr : hearCache (readCache t.past) ⟨c, _⟩ = some iqns := (readCache_snoc _ _).symm.trans hr
      cases c with
      | metaIqns =>
        obtain rfl := Option.some.inj hr
        exact hi ▸ mem_stagedIqns hm (hi ▸ h.iqn)
      | pause => cases hr
      | _ => exact h.read t ht iqns hr

theorem MaySave.known {v : String} {m : StageMeta}
    {k : (Cmd.metaSave v m).Reply → Prog Cmd Cmd.Reply (Except Error Unit)} (h : MaySave p v m)
    (ht : t ∈ p.threads) : OnFile (NodeServer.after p i t (.metaSave v m) ch k) (v, m.iqn) := by
  refine ⟨h.1, ⟨m, AList.lookup_insert _, rfl⟩, fun t' ht' iqns hr => ?_⟩
  rcases List.mem_or_eq_of_mem_set ht' with ht' | rfl
  · exact h.2.2 t' ht' iqns hr
  · exact h.2.2 t ht iqns ((readCache_snoc _ _).symm.trans hr)

theorem saves_answer {r : c.Reply} (hx : x ∈ (t.answer c r k).past.filterMap saves) :
    x ∈ t.past.filterMap saves ∨ ∃ m, c = .metaSave x.1 m ∧ m.iqn = x.2 := by
  obtain ⟨y, hy, hsave⟩ := List.mem_filterMap.1 hx
  rcases mem_snoc.1 hy with hy | rfl
  · exact .inl (List.mem_filterMap.2 ⟨y, hy, hsave⟩)
  · cases c with
    | metaSave v m =>
      obtain rfl := Option.some.inj hsave
      exact .inr ⟨m, rfl, rfl⟩
    | _ => cases hsave

/-- No UnstageVolume is under way for what another call has staged. -/
theorem Locked.stage_ne (h : Locked p) {t t' : NodeThread} {v : String} {req : StageRequest}
    {req' : UnstageRequest} (ht : t ∈ p.threads) (ht' : t' ∈ p.threads) (hjob : t.job = .stage req)
    (hv : req.volumeID = v) (hjob' : t'.job = .unstage req') : req'.volumeID ≠ v := by
  intro hv'
  obtain ⟨i, hi⟩ := List.mem_iff_getElem?.1 ht
  obtain ⟨j, hj⟩ := List.mem_iff_getElem?.1 ht'
  have hone : p.threads.countP (·.job.volume == some v) ≤ 1 :=
    List.count_filterMap.symm.trans_le (List.nodup_iff_count_le_one.1 h v)
  obtain rfl := eq_of_countP_le_one hone hi hj (by simp [hjob, hv, NodeJob.volume])
    (by simp [hjob', hv', NodeJob.volume])
  obtain rfl := Option.some.inj (hi.symm.trans hj)
  cases hjob.symm.trans hjob'

theorem loggedOut_eq {r : c.Reply} {iqn : String} (h : loggedOut ⟨c, r⟩ = some iqn) :
    ∃ q, c = .logout q iqn := by
  cases c with
  | logout q iqn' =>
    cases r with
    | ok => exact ⟨q, congrArg _ (Option.some.inj h)⟩
    | error => cases h
  | _ => cases h

namespace StageLog

theorem mem_hear (hx : x ∈ (l.hear t).staged) : x ∈ l.staged ∨ x ∈ t.past.filterMap saves := by
  unfold hear at hx
  split at hx
  · exact (List.mem_append.1 hx).symm
  · exact .inl hx
  · exact .inl hx

theorem Holds.step (h : l.Holds p) (ht : p.threads[i]? = some t) (hrest : t.rest = .call c k)
    (hlocked : Locked p) (hok : ∀ v m, c = .metaSave v m → MaySave p v m) :
    (l.hear (t.answer c (hostAct p.world c ch).1 k)).Holds (NodeServer.after p i t c ch k) := by
  have hmem := List.mem_of_getElem? ht
  have hlt : i < p.threads.length := (List.getElem?_eq_some_iff.1 ht).1
  obtain ⟨hproper, hnext⟩ : Heeds t.job (readCache t.past) (.call c k) := hrest ▸ h.heeds t hmem
  have hsaver : ∀ t' ∈ (NodeServer.after p i t c ch k).threads, ∀ x ∈ t'.past.filterMap saves,
      ∃ req, t'.job = .stage req ∧ req.volumeID = x.1 := by
    intro t' ht' x hx
    rcases List.mem_or_eq_of_mem_set ht' with ht' | rfl
    · exact h.saver t' ht' x hx
    · rcases saves_answer hx with hx | ⟨m, hc, -⟩
      · exact h.saver t hmem x hx
      · exact hproper.save _ m hc
  have hknown : ∀ x, (x ∈ l.staged ∨ ∃ t' ∈ (NodeServer.after p i t c ch k).threads,
      x ∈ t'.past.filterMap saves) → OnFile (NodeServer.after p i t c ch k) x := by
    intro x hx
    have hx : (x ∈ l.staged ∨ ∃ t' ∈ p.threads, x ∈ t'.past.filterMap saves) ∨
        ∃ m, c = .metaSave x.1 m ∧ m.iqn = x.2 := by
      rcases hx with hx | ⟨t', ht', hx⟩
      · exact .inl (.inl hx)
      · rcases List.mem_or_eq_of_mem_set ht' with ht' | rfl
        · exact .inl (.inr ⟨t', ht', hx⟩)
        · exact (saves_answer hx).imp (fun hx => .inr ⟨t, hmem, hx⟩) id
    rcases hx with hx | ⟨m, rfl, hm⟩
    · have hold := h.known x hx
      refine hold.step hmem ?_ fun m hc => ?_
      · -- only an UnstageVolume of the volume deletes its metadata
        intro hc
        obtain ⟨req, hjob, hv⟩ := hproper.delete _ hc
        rcases hx with hx | ⟨t', ht', hx⟩
        · exact h.unended x hx t hmem req hjob hv
        · obtain ⟨req', hjob', hv'⟩ := h.saver t' ht' x hx
          exact hlocked.stage_ne ht' hmem hjob' hv' hjob hv
      · obtain ⟨m0, hm0, hi⟩ := hold.saved
        exact ((hok _ m hc).2.1 m0 hm0).symm.trans hi
    · have hnew : OnFile (NodeServer.after p i t _ ch k) (x.1, m.iqn) := (hok _ m rfl).known hmem
      rwa [hm] at hnew
  refine ⟨fun t' ht' => ?_, hsaver, fun x hx => hknown x ?_, fun x hx t' ht' req hjob => ?_, ?_⟩
  · rcases List.mem_or_eq_of_mem_set ht' with ht' | rfl
    · exact h.heeds t' ht'
    · exact (readCache_snoc _ _).symm ▸ hnext _
  · rcases hx with hx | hx
    · exact (mem_hear hx).imp id fun hx => ⟨_, List.mem_set hlt _, hx⟩
    · exact .inr hx
  · rcases mem_hear hx with hx | hx
    · rcases List.mem_or_eq_of_mem_set ht' with ht' | rfl
      · exact h.unended x hx t' ht' req hjob
      · exact h.unended x hx t hmem req hjob
    · obtain ⟨req', hjob', hv'⟩ := hsaver _ (List.mem_set hlt _) x hx
      rcases List.mem_or_eq_of_mem_set ht' with ht' | rfl
      · exact hlocked.stage_ne hmem ht' hjob' hv' hjob
      · cases hjob'.symm.trans hjob
  · unfold hear
    split
    · exact h.cut
    · next k' hjob =>
      rw [h.cut, List.nil_append, List.filter_eq_nil_iff]
      intro x hx hlast
      obtain ⟨q, rfl⟩ : ∃ q, c = .logout q x.2 := loggedOut_eq (by simpa [Thread.answer] using hlast)
      obtain ⟨iqns, hr, hout⟩ := hproper.logout k' hjob q x.2 rfl
      exact hout ((h.known x (.inl hx)).read t hmem iqns hr)
    · exact h.cut

/-- A new call: what is staged stays, but for the volume that it unstages. -/
theorem Holds.spawn (h : l.Holds p) (n : NodePlugin) (grace : Int) (job : NodeJob) (q : NodeServer)
    (hq : q = { p with threads := p.threads ++ [⟨job, [], (job.serve n grace).run⟩] }) :
    (l.see (.spawn job) q).Holds q := by
  subst hq
  have hsub : ∀ q x, x ∈ (l.see (.spawn job) q).staged → x ∈ l.staged := by
    intro q x hx
    cases job with
    | unstage req => exact (List.mem_filter.1 hx).1
    | _ => exact hx
  refine ⟨?_, ?_, ?_, ?_, ?_⟩
  · intro t ht
    rcases mem_snoc.1 ht with ht | rfl
    · exact h.heeds t ht
    · exact heeds_serve n grace job
  · intro t ht x hx
    rcases mem_snoc.1 ht with ht | rfl
    · exact h.saver t ht x hx
    · cases hx
  · intro x hx
    have hold := h.known x (hx.imp (hsub _ x) ?_)
    · refine ⟨hold.iqn, hold.saved, fun t ht iqns hr => ?_⟩
      rcases mem_snoc.1 ht with ht | rfl
      · exact hold.read t ht iqns hr
      · cases hr
    · rintro ⟨t, ht, hx⟩
      rcases mem_snoc.1 ht with ht | rfl
      · exact ⟨t, ht, hx⟩
      · cases hx
  · intro x hx t ht req hjob
    rcases mem_snoc.1 ht with ht | rfl
    · exact h.unended x (hsub _ x hx) t ht req hjob
    · obtain rfl : job = .unstage req := hjob
      exact fun heq => of_decide_eq_true (List.mem_filter.1 hx).2 heq.symm
  · cases job with
    | unstage req => exact h.cut
    | _ => exact h.cut

theorem Holds.finish (h : l.Holds p) (i : Nat) :
    l.Holds { p with threads := p.threads.eraseIdx i } where
  heeds t' ht' := h.heeds t' (List.mem_of_mem_eraseIdx ht')
  saver t' ht' := h.saver t' (List.mem_of_mem_eraseIdx ht')
  known x hx := by
    have hold := h.known x (hx.imp_right ?_)
    · exact ⟨hold.iqn, hold.saved, fun t' ht' => hold.read t' (List.mem_of_mem_eraseIdx ht')⟩
    · rintro ⟨t', ht', hx⟩
      exact ⟨t', List.mem_of_mem_eraseIdx ht', hx⟩
  unended x hx t' ht' := h.unended x hx t' (List.mem_of_mem_eraseIdx ht')
  cut := h.cut

end StageLog

end

/-- In every interleaving in which StageVolume saves its metadata only while no sweep is under way
that has read the cache without the IQN, no sweep logs out the IQN of a volume that is staged. -/
theorem staged_not_cut {n : NodePlugin} {grace : Int} {p q : NodeServer} {l : StageLog}
    (hp : p.threads = []) (hrun : Logged n grace Timely p l q) : l.cut = [] := by
  suffices h : l.Holds q from h.cut
  refine hrun.invariant (I := fun l q => l.Holds q) ?_ ?_
  · refine ⟨?_, ?_, ?_, ?_, rfl⟩
    all_goals simp [hp]
  · intro l q a ms q' hq hok hnext
    rcases Pool.next_cases hnext with ⟨job, locks, rfl, hacc, -, rfl⟩ |
      ⟨i, ch, t, c, k, rfl, ht, hrest, -, rfl⟩ | ⟨i, t, x, rfl, ht, -, -, rfl⟩
    · exact hq.spawn n grace job _ rfl
    · have hlt : i < q.threads.length := (List.getElem?_eq_some_iff.1 ht).1
      have hsee : l.see (.step i ch) (NodeServer.after q i t c ch k) =
          l.hear (t.answer c (hostAct q.world c ch).1 k) := by
        simp only [StageLog.see, List.getElem?_set_self hlt, Option.elim_some]
      rw [hsee]
      refine hq.step ht hrest hok.1 ?_
      rintro v m rfl
      refine hok.2 (v, m) ?_
      cases t
      cases hrest
      simp only [saving, ht, Option.mem_def]
    · exact hq.finish i

def leakedSession : NodeServer :=
  ⟨.of [⟨"10.0.0.1:3260", "iqn.a", [(0, "/dev/sdb")]⟩] [] [] 0, (), []⟩

/-- Thread `i` makes this many calls, of a minute each. -/
def turns (i count : Nat) : List (Action NodeJob CmdChoice) :=
  List.replicate count (.step i { device := "/dev/sdb", tick := 60 })

/-- A volume is staged over the session, and then the reconciler sweeps. -/
theorem staged_not_cut_before : ∃ l q, Logged .single 300 Timely leakedSession l q ∧
    l.staged = [("qnap/v1/1/5/s/v1", "iqn.a")] ∧ l.cut = [] := by
  obtain ⟨l, q, hrun, hstaged⟩ := observed_of_watch hostAct
    (fun job => (NodeJob.serve .single 300 job).run) (fun _ => some) (fun _ => id) StageLog.see Timely
    ⟨[], []⟩ leakedSession
    ([.spawn (.stage sharedStage)] ++ turns 0 4 ++ [.spawn (.reconcile 2)] ++ turns 1 13)
    (fun l _ => l.staged = [("qnap/v1/1/5/s/v1", "iqn.a")]) (by decide)
  exact ⟨l, q, hrun, hstaged, staged_not_cut rfl hrun⟩

/-- The second sweep reads the cache, StageVolume reuses the session, saves its metadata and
returns, and the sweep logs out. -/
theorem sweep_cuts_staged : ¬ ∀ (n : NodePlugin) (grace : Int) (p q : NodeServer) (l : StageLog),
    p.threads = [] → Logged n grace (fun p _ => Locked p) p l q → l.cut = [] := by
  intro h
  obtain ⟨l, q, hrun, hcut⟩ := observed_of_watch hostAct
    (fun job => (NodeJob.serve .single 300 job).run) (fun _ => some) (fun _ => id) StageLog.see
    (fun p _ => Locked p) ⟨[], []⟩ leakedSession
    ([.spawn (.reconcile 2)] ++ turns 0 10 ++ [.spawn (.stage sharedStage)] ++ turns 1 4 ++ turns 0 5)
    (fun l _ => l.cut = [("qnap/v1/1/5/s/v1", "iqn.a")]) (by decide)
  cases hcut.symm.trans (h _ _ _ _ _ rfl hrun)

end NomadCsi.Qnap
