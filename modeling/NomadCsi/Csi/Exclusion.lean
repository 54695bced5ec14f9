import NomadCsi.Csi.Handlers

/-!
# What the keyed locks exclude

A handler that took its key is in progress until it returns, and giving the key back is
the last thing it does (`Releases`). `Counted` says that the locker holds a key exactly
when one handler in progress has it: every action of the server keeps that. The kind of the
resource is not part of the key (`aborted_iff`).
-/

namespace NomadCsi.Csi

open Lib Lib.Go Driver

/-! ### The shape of a handler -/

/-- What is left of a handler with the key: backend calls, then the release, then nothing. -/
inductive Releases (key : String) {α : Type} : Prog HandlerCall HandlerCall.Reply α → Prop where
  | invoke {rpc : Rpc} {k : Unit → Prog HandlerCall HandlerCall.Reply α}
      (h : ∀ r, Releases key (k r)) : Releases key (.call (.invoke rpc) k)
  | await {rpc : Rpc} {k : Ending → Prog HandlerCall HandlerCall.Reply α}
      (h : ∀ r, Releases key (k r)) : Releases key (.call (.await rpc) k)
  | release {k : Unit → Prog HandlerCall HandlerCall.Reply α} {a : α} (h : k () = .ret a) :
      Releases key (.call (.release key) k)

/-- What is left of a handler without the key: nothing, or it takes it first. -/
inductive Asks (kind key : String) {α : Type} : Prog HandlerCall HandlerCall.Reply α → Prop where
  | ret (a : α) : Asks kind key (.ret a)
  | acquire {k : Except Error Unit → Prog HandlerCall HandlerCall.Reply α} {a : Error → α}
      (herr : ∀ e, k (.error e) = .ret (a e)) (hok : Releases key (k (.ok ()))) :
      Asks kind key (.call (.acquire kind key) k)

variable {key kind : String}

theorem Asks.of_eq_ret {α : Type} {x : Prog HandlerCall HandlerCall.Reply α} {a : α}
    (h : x = .ret a) : Asks kind key x := by
  subst h
  exact .ret a

theorem asks_locked (s : ControllerServer) (supported : Bool) (method : String) (rpc : Rpc)
    (prepared : Except Error Rpc) :
    Asks rpc.kind rpc.key (s.locked supported method rpc prepared).run := by
  unfold ControllerServer.locked
  cases supported with
  | false => exact .ret _
  | true =>
    cases rpc.required with
    | error e => exact .ret _
    | ok _ =>
      refine .acquire (a := .error) (fun _ => rfl) ?_
      cases prepared with
      | error e => exact .release rfl
      | ok rpc => exact .invoke fun _ => .await fun _ => .release rfl

theorem asks_handle (s : ControllerServer) (req : Incoming) :
    Asks req.kind req.key (s.handle req).run := by
  obtain ⟨supported, method, prepared, h⟩ := s.handle_eq req
  rw [h]
  exact asks_locked s supported method req.rpc prepared

/-! ### Handlers in progress -/

def gotKey : (c : HandlerCall) × c.Reply → Bool
  | ⟨.acquire _ _, .ok _⟩ => true
  | _ => false

def Handling.admitted (t : Handling) : Bool := t.past.any gotKey

/-- The handler is between acquiring its key and returning. -/
def Handling.inProgress (t : Handling) : Bool := t.admitted && t.running

def Handling.inBackend (t : Handling) : Bool :=
  match t.rest with
  | .call (.await _) _ => true
  | _ => false

def Handling.holds (key : String) (t : Handling) : Bool := t.inProgress && t.job.key == key

structure Handling.Placed (t : Handling) : Prop where
  asks : t.admitted = false → Asks t.job.kind t.job.key t.rest
  releases : t.inProgress = true → Releases t.job.key t.rest

/-- The locker holds a key just when a handler in progress has it, and then one has it. -/
def Handlers.Counted (q : Handlers) : Prop :=
  ∀ key, q.threads.countP (Handling.holds key) = (decide (key ∈ q.world.held)).toNat

variable {t : Handling}

theorem Handling.holds_iff : t.holds key = true ↔ t.inProgress = true ∧ t.job.key = key := by
  rw [holds, Bool.and_eq_true, beq_iff_eq]

theorem Handling.admitted_answer (t : Handling) (c : HandlerCall) (r : c.Reply)
    (k : c.Reply → Prog HandlerCall HandlerCall.Reply (Except Error Answer)) :
    Handling.admitted (t.answer c r k) = (t.admitted || gotKey ⟨c, r⟩) := by
  simp [admitted, Thread.answer]

theorem Releases.running (h : Releases key t.rest) : t.running = true := by
  generalize hrest : t.rest = x at h
  cases h <;> exact Thread.running_of_call hrest

/-- What the step of a handler can be: `w` and `t` before it, `w'` and `t'` after it. -/
inductive Stepped (w w' : KeyedLocker) (t t' : Handling) : Bool → Prop where
  | refused (hbusy : t.job.key ∈ w.held) (hw : w'.held = w.held) (ht : t.inProgress = false)
      (ht' : t'.inProgress = false) : Stepped w w' t t' true
  | entered (hfree : t.job.key ∉ w.held) (hw : w'.held = w.held.insert t.job.key ())
      (ht : t.inProgress = false) (ht' : t'.inProgress = true) : Stepped w w' t t' false
  | worked (hw : w'.held = w.held) (ht : t.inProgress = true) (ht' : t'.inProgress = true) :
      Stepped w w' t t' false
  | left (hw : w'.held = w.held.erase t.job.key) (ht : t.inProgress = true)
      (ht' : t'.running = false) : Stepped w w' t t' false

def refusedCall : (c : HandlerCall) × c.Reply → Bool
  | ⟨.acquire _ _, .error e⟩ => e.code == .aborted
  | _ => false

variable {w : KeyedLocker}

theorem handlerAct_acquire_busy (h : key ∈ w.held) (ch : Ending) :
    handlerAct w (.acquire kind key) ch =
      (.error (aborted ("an operation is already in progress for " ++ kind ++ " " ++ quote key)),
        w) := by
  simp only [handlerAct, KeyedLocker.acquire, KeyedLocker.tryAcquire, if_pos h]

theorem handlerAct_acquire_free (h : key ∉ w.held) (ch : Ending) :
    handlerAct w (.acquire kind key) ch = (.ok (), ⟨w.held.insert key ()⟩) := by
  simp only [handlerAct, KeyedLocker.acquire, KeyedLocker.tryAcquire, if_neg h]

theorem Handling.inProgress_of_not_admitted (h : t.admitted = false) : t.inProgress = false := by
  rw [inProgress, h, Bool.false_and]

theorem Handling.inProgress_of_releases (h : t.admitted = true) (hr : Releases key t.rest) :
    t.inProgress = true := by
  rw [inProgress, h, hr.running, Bool.true_and]

theorem Handling.Placed.of_asks (h : t.admitted = false) (ha : Asks t.job.kind t.job.key t.rest) :
    t.Placed := by
  refine ⟨fun _ => ha, fun hprog => ?_⟩
  rw [inProgress_of_not_admitted h] at hprog
  cases hprog

theorem Handling.Placed.of_releases (h : t.admitted = true)
    (hr : t.running = true → Releases t.job.key t.rest) : t.Placed := by
  refine ⟨fun hno => ?_, fun hprog => hr (Bool.and_eq_true_iff.1 hprog).2⟩
  rw [h] at hno
  cases hno

theorem Handling.step_acquire
    {k : Except Error Unit → Prog HandlerCall HandlerCall.Reply (Except Error Answer)}
    {a : Error → Except Error Answer} (hkey : t.job.key = key) (hadm : t.admitted = false)
    (herr : ∀ e, k (.error e) = .ret (a e)) (hok : Releases key (k (.ok ()))) (w : KeyedLocker)
    (ch : Ending) :
    Handling.Placed (t.answer (.acquire kind key) (handlerAct w (.acquire kind key) ch).1 k) ∧
      Stepped w (handlerAct w (.acquire kind key) ch).2 t
        (t.answer (.acquire kind key) (handlerAct w (.acquire kind key) ch).1 k)
        (refusedCall ⟨.acquire kind key, (handlerAct w (.acquire kind key) ch).1⟩) := by
  subst hkey
  have hidle := inProgress_of_not_admitted hadm
  by_cases hbusy : t.job.key ∈ w.held
  · rw [handlerAct_acquire_busy hbusy]
    have hadm' e := (admitted_answer t (.acquire kind t.job.key) (.error e) k).trans
      (Bool.or_eq_false_iff.2 ⟨hadm, rfl⟩)
    exact ⟨.of_asks (hadm' _) (.of_eq_ret (herr _)),
      .refused hbusy rfl hidle (inProgress_of_not_admitted (hadm' _))⟩
  · rw [handlerAct_acquire_free hbusy]
    have hadm' := (admitted_answer t (.acquire kind t.job.key) (.ok ()) k).trans
      (Bool.or_eq_true_iff.2 (.inr rfl))
    exact ⟨.of_releases hadm' fun _ => hok,
      .entered hbusy rfl hidle (inProgress_of_releases hadm' hok)⟩

variable {c : HandlerCall} {k : c.Reply → Prog HandlerCall HandlerCall.Reply (Except Error Answer)}

theorem Handling.step_admitted (hadm : t.admitted = true) (hrest : t.rest = .call c k)
    (hrel : Releases t.job.key (.call c k)) (w : KeyedLocker) (ch : Ending) :
    Handling.Placed (t.answer c (handlerAct w c ch).1 k) ∧
      Stepped w (handlerAct w c ch).2 t (t.answer c (handlerAct w c ch).1 k)
        (refusedCall ⟨c, (handlerAct w c ch).1⟩) := by
  have hprog : t.inProgress = true := inProgress_of_releases hadm (hrest ▸ hrel)
  have hadm' := (admitted_answer t c (handlerAct w c ch).1 k).trans (by rw [hadm, Bool.true_or])
  cases hrel with
  | invoke h | await h =>
    exact ⟨.of_releases hadm' fun _ => h _, .worked rfl hprog (inProgress_of_releases hadm' (h _))⟩
  | release h =>
    have hstop := Thread.running_of_ret (t := t.answer (.release t.job.key) () _) h
    refine ⟨.of_releases hadm' fun hrun => ?_, .left rfl hprog hstop⟩
    exact absurd (hstop.symm.trans hrun) Bool.false_ne_true

theorem Handling.Placed.step (hp : t.Placed) (hrest : t.rest = .call c k) (w : KeyedLocker)
    (ch : Ending) : Handling.Placed (t.answer c (handlerAct w c ch).1 k) ∧
      Stepped w (handlerAct w c ch).2 t (t.answer c (handlerAct w c ch).1 k)
        (refusedCall ⟨c, (handlerAct w c ch).1⟩) := by
  cases hadm : t.admitted with
  | false =>
    have hasks := hp.asks hadm
    rw [hrest] at hasks
    cases hasks with
    | acquire herr hok => exact step_acquire rfl hadm herr hok w ch
  | true =>
    have hrun : t.running = true := Thread.running_of_call hrest
    have hrel := hp.releases (by rw [inProgress, hadm, hrun, Bool.true_and])
    exact step_admitted hadm hrest (hrest ▸ hrel) w ch

/-! ### The invariant of the server -/

theorem KeyedLocker.mem_insert {x : String} :
    x ∈ w.held.insert key () ↔ x = key ∨ x ∈ w.held := AList.mem_insert w.held

theorem Stepped.counted {w' : KeyedLocker} {t' : Handling} {b : Bool} (h : Stepped w w' t t' b)
    (hjob : t'.job = t.job) {n n' : Nat} (hn : n = (decide (key ∈ w.held)).toNat)
    (hset : n' + (t.holds key).toNat = n + (t'.holds key).toNat) :
    n' = (decide (key ∈ w'.held)).toNat := by
  subst hn
  have hholds : ∀ x : Handling, x.holds key = (x.inProgress && x.job.key == key) := fun _ => rfl
  rw [hholds, hholds, hjob] at hset
  cases h with
  | refused _ hw ht ht' | worked hw ht ht' =>
    rw [hw]
    simpa [ht, ht'] using hset
  | entered hfree hw ht ht' =>
    rw [hw]
    by_cases hkey : t.job.key = key
    · subst hkey
      simpa [ht, ht', hfree, KeyedLocker.mem_insert] using hset
    · simpa [ht, ht', beq_false_of_ne hkey, KeyedLocker.mem_insert, Ne.symm hkey] using hset
  | left hw ht ht' =>
    rw [hw]
    have hidle : t'.inProgress = false := by rw [Handling.inProgress, ht', Bool.and_false]
    by_cases hkey : t.job.key = key
    · subst hkey
      have hle := Bool.toNat_le (decide (t.job.key ∈ w.held))
      simp only [ht, hidle, beq_self_eq_true, Bool.and_self, Bool.false_and, Bool.toNat_true,
        Bool.toNat_false] at hset
      simp only [AList.mem_erase, ne_eq, not_true_eq_false, false_and, decide_false,
        Bool.toNat_false]
      omega
    · simpa [ht, hidle, beq_false_of_ne hkey, AList.mem_erase, Ne.symm hkey] using hset

structure Handlers.Exclusive (q : Handlers) : Prop where
  placed : ∀ t ∈ q.threads, Handling.Placed t
  counted : q.Counted

def Handlers.Returns (q q' : Handlers) (a : Action Incoming Ending) (t : Handling) : Prop :=
  t.inProgress = true ∧ ∃ i ch t', a = .step i ch ∧ q.threads[i]? = some t ∧
    q'.threads[i]? = some t' ∧ t'.running = false

variable {q : Handlers}

theorem Handlers.Exclusive.spawn (h : q.Exclusive) (s : ControllerServer) (req : Incoming)
    (l : Unit) : Handlers.Exclusive
      { q with locks := l, threads := q.threads ++ [⟨req, [], (s.handle req).run⟩] } := by
  refine ⟨fun t ht => ?_, fun key => ?_⟩
  · rcases mem_snoc.1 ht with ht | rfl
    · exact h.placed t ht
    · exact .of_asks rfl (asks_handle s req)
  · have hnew : Handling.holds key ⟨req, [], (s.handle req).run⟩ = false := rfl
    rw [List.countP_append, List.countP_singleton, hnew]
    exact h.counted key

variable {i : Nat}

theorem Handlers.Exclusive.step (h : q.Exclusive) (ht : q.threads[i]? = some t)
    (hrest : t.rest = .call c k) (ch : Ending) : Handlers.Exclusive { q with
      world := (handlerAct q.world c ch).2
      threads := q.threads.set i (t.answer c (handlerAct q.world c ch).1 k) } := by
  obtain ⟨hplaced, hstep⟩ := (h.placed t (List.mem_of_getElem? ht)).step hrest q.world ch
  refine ⟨fun t' ht' => ?_, fun key => ?_⟩
  · rcases List.mem_or_eq_of_mem_set ht' with ht' | rfl
    · exact h.placed t' ht'
    · exact hplaced
  · exact hstep.counted rfl (h.counted key) (countP_set_of_getElem? (Handling.holds key) ht)

theorem Handlers.Exclusive.finish (h : q.Exclusive) {x : Except Error Answer}
    (ht : q.threads[i]? = some t) (hret : t.rest = .ret x) (l : Unit) :
    Handlers.Exclusive { q with locks := l, threads := q.threads.eraseIdx i } := by
  refine ⟨fun t' ht' => h.placed t' (List.mem_of_mem_eraseIdx ht'), fun key => ?_⟩
  have hidle : t.holds key = false := by
    rw [Handling.holds, Handling.inProgress, Thread.running_of_ret hret, Bool.and_false,
      Bool.false_and]
  have hcount := countP_eraseIdx_of_getElem? (Handling.holds key) ht
  rw [hidle] at hcount
  exact hcount.trans (h.counted key)

variable {s : ControllerServer} {ms : List HandlerMove}

theorem Handled.exclusive (h : Handled s ms q) : q.Exclusive := by
  refine (h.invariant (I := Handlers.Exclusive) (E := fun _ => True) ?_ ?_).1
  · exact ⟨fun t ht => absurd ht (List.not_mem_nil), fun key => rfl⟩
  · intro q a ms q' hq _ hn
    refine ⟨?_, fun _ _ => trivial⟩
    rcases Pool.next_cases hn with ⟨req, l, -, -, -, rfl⟩ | ⟨i, ch, t, c, k, -, ht, hrest, -, rfl⟩ |
      ⟨i, t, x, -, ht, hret, -, rfl⟩
    · exact hq.spawn s req l
    · exact hq.step ht hrest ch
    · exact hq.finish ht hret _

/-! ### Exclusion -/

theorem Handlers.Exclusive.mem_held (h : q.Exclusive) (key : String) :
    key ∈ q.world.held ↔ ∃ t ∈ q.threads, Handling.inProgress t = true ∧ t.job.key = key := by
  have hcount := h.counted key
  constructor
  · intro hmem
    rw [decide_eq_true hmem] at hcount
    have hpos : 0 < q.threads.countP (Handling.holds key) := by
      rw [hcount]
      exact Nat.one_pos
    obtain ⟨t, ht, hholds⟩ := List.countP_pos_iff.1 hpos
    exact ⟨t, ht, Handling.holds_iff.1 hholds⟩
  · rintro ⟨t, ht, hprog, hkey⟩
    by_contra hmem
    rw [decide_eq_false hmem] at hcount
    exact List.countP_eq_zero.1 hcount t ht (Handling.holds_iff.2 ⟨hprog, hkey⟩)

theorem Handling.Placed.inProgress_of_inBackend (hp : t.Placed) (h : t.inBackend = true) :
    t.inProgress = true := by
  unfold inBackend at h
  split at h
  · next hrest =>
    have hrun : t.running = true := Thread.running_of_call hrest
    cases hadm : t.admitted with
    | false =>
      have hasks := hp.asks hadm
      rw [hrest] at hasks
      cases hasks
    | true => rw [inProgress, hadm, hrun, Bool.true_and]
  · cases h

theorem Handlers.Exclusive.backend_le_one (h : q.Exclusive) (key : String) :
    q.threads.countP (fun t => Handling.inBackend t && t.job.key == key) ≤ 1 := by
  calc q.threads.countP (fun t => Handling.inBackend t && t.job.key == key)
      ≤ q.threads.countP (Handling.holds key) := by
        refine List.countP_mono_left fun t ht hb => ?_
        obtain ⟨hb, hkey⟩ := Bool.and_eq_true_iff.1 hb
        exact Handling.holds_iff.2 ⟨(h.placed t ht).inProgress_of_inBackend hb, beq_iff_eq.1 hkey⟩
    _ = (decide (key ∈ q.world.held)).toNat := h.counted key
    _ ≤ 1 := Bool.toNat_le _

variable {q' : Handlers}

/-- An RPC that returns gives back its own key, which it held; nothing else gives a key back. -/
theorem Handlers.Exclusive.next_held {a : Action Incoming Ending} (h : q.Exclusive)
    (hn : q.next s a = some (ms, q')) : (∀ t, q.Returns q' a t → t.job.key ∈ q.world.held ∧
      q'.world.held = q.world.held.erase t.job.key) ∧
    ((∀ t, ¬ q.Returns q' a t) → ∀ key ∈ q.world.held, key ∈ q'.world.held) := by
  rcases Pool.next_cases hn with ⟨req, l, rfl, -, -, rfl⟩ |
    ⟨i, ch, t, c, k, rfl, ht, hrest, -, rfl⟩ | ⟨i, t, x, rfl, -, -, -, rfl⟩
  · refine ⟨?_, fun _ key hkey => hkey⟩
    rintro t ⟨-, i, ch, t', ha, -⟩
    cases ha
  · obtain ⟨-, hstep⟩ := (h.placed t (List.mem_of_getElem? ht)).step hrest q.world ch
    generalize refusedCall _ = b at hstep
    have hlt : i < q.threads.length := (List.getElem?_eq_some_iff.1 ht).1
    have ht' := List.getElem?_set_self (a := t.answer c (handlerAct q.world c ch).1 k) hlt
    constructor
    · rintro u ⟨hprog, j, ch', u', ha, hu, hu', hstop⟩
      cases ha
      obtain rfl := Option.some.inj (ht.symm.trans hu)
      obtain rfl := Option.some.inj (ht'.symm.trans hu')
      have hmem : t.job.key ∈ q.world.held :=
        (h.mem_held _).2 ⟨t, List.mem_of_getElem? ht, hprog, rfl⟩
      cases hstep with
      | refused _ _ hno | entered _ _ hno => exact absurd (hno.symm.trans hprog) Bool.false_ne_true
      | worked _ _ hgo =>
        exact absurd (hstop.symm.trans (Bool.and_eq_true_iff.1 hgo).2) Bool.false_ne_true
      | left hw => exact ⟨hmem, hw⟩
    · intro hno key hkey
      cases hstep with
      | refused _ hw | worked hw => exact hw.symm ▸ hkey
      | entered _ hw => exact hw.symm ▸ KeyedLocker.mem_insert.2 (.inr hkey)
      | left _ hprog hstop => exact absurd ⟨hprog, i, ch, _, rfl, ht, ht', hstop⟩ (hno t)
  · refine ⟨?_, fun _ key hkey => hkey⟩
    rintro t ⟨-, i, ch, t', ha, -⟩
    cases ha

/-- At every moment at most one backend call per key is in progress, the keys held are those of
the RPCs in progress, and an RPC that returns gives back its own key and no other. -/
theorem rpcs_exclude {s : ControllerServer} {ms : List HandlerMove} {q : Handlers}
    (h : Handled s ms q) :
    (∀ key, q.threads.countP (fun t => Handling.inBackend t && t.job.key == key) ≤ 1) ∧
    (∀ key, key ∈ q.world.held ↔
      ∃ t ∈ q.threads, Handling.inProgress t = true ∧ t.job.key = key) ∧
    ∀ a ms' q', q.next s a = some (ms', q') →
      (∀ t, q.Returns q' a t → t.job.key ∈ q.world.held ∧
        q'.world.held = q.world.held.erase t.job.key) ∧
      ((∀ t, ¬ q.Returns q' a t) → ∀ key ∈ q.world.held, key ∈ q'.world.held) :=
  ⟨h.exclusive.backend_le_one, h.exclusive.mem_held, fun _ _ _ hn => h.exclusive.next_held hn⟩

def fullServer : ControllerServer := ⟨"qnap", ⟨true, true, true⟩⟩

def createMessage (name : String) : CreateVolumeMessage :=
  ⟨name, some ⟨1073741824, 0⟩, [some ⟨.singleNodeWriter, .mount "ext4" []⟩], ∅, none⟩

theorem handled_of_run (as : List (Action Incoming Ending)) (P : Handlers → Prop)
    (h : ∃ x ∈ Handlers.start.run handlerAct (fun req => (fullServer.handle req).run)
      (fun _ _ => some ()) (fun _ _ => ()) (fun _ _ => True) as, P x.2) :
    ∃ ms q, Handled fullServer ms q ∧ P q :=
  reach_of_run _ _ _ _ _ _ as (fun _ => P) h

/-- A create is with the backend while a delete with its key has been refused. -/
theorem rpcs_exclude_create_delete : ∃ ms q, Handled fullServer ms q ∧
    q.threads.countP (fun t => Handling.inBackend t && t.job.key == "a") = 1 ∧
    q.threads.length = 2 ∧
    (∀ key, q.threads.countP (fun t => Handling.inBackend t && t.job.key == key) ≤ 1) ∧
    ∀ key, key ∈ q.world.held ↔
      ∃ t ∈ q.threads, Handling.inProgress t = true ∧ t.job.key = key := by
  obtain ⟨ms, q, hq, hone, htwo⟩ := handled_of_run
    [.spawn (.createVolume (createMessage "a")), .spawn (.deleteVolume "a"),
      .step 0 (.returned .done), .step 1 (.returned .done), .step 0 (.returned .done)]
    (fun q => q.threads.countP (fun t => Handling.inBackend t && t.job.key == "a") = 1 ∧
      q.threads.length = 2) (by decide)
  obtain ⟨hle, hheld, -⟩ := rpcs_exclude hq
  exact ⟨ms, q, hq, hone, htwo, hle, hheld⟩

/-! ### Contention -/

/-- The call was a request for a key, refused with Aborted. -/
def HandlerMove.aborted (m : HandlerMove) : Bool := refusedCall ⟨m.event.call, m.event.reply⟩

/-- A handler other than the one at `i` is in progress with this key. -/
def Handlers.Contends (q : Handlers) (i : Nat) (key : String) (t : Handling) : Prop :=
  ∃ j, j ≠ i ∧ q.threads[j]? = some t ∧ t.inProgress = true ∧ t.job.key = key

theorem Handlers.Exclusive.contends_unique (h : q.Exclusive) {t' : Handling}
    (ht : q.Contends i key t) (ht' : q.Contends i key t') : t = t' := by
  obtain ⟨j, -, hj, hprog, hkey⟩ := ht
  obtain ⟨j', -, hj', hprog', hkey'⟩ := ht'
  have hle : q.threads.countP (Handling.holds key) ≤ 1 := (h.counted key).trans_le (Bool.toNat_le _)
  obtain rfl := eq_of_countP_le_one hle hj hj' (Handling.holds_iff.2 ⟨hprog, hkey⟩)
    (Handling.holds_iff.2 ⟨hprog', hkey'⟩)
  exact Option.some.inj (hj.symm.trans hj')

theorem Handlers.Exclusive.aborted_iff_contends (h : q.Exclusive) {ch : Ending} {m : HandlerMove}
    (hn : q.next s (.step i ch) = some ([m], q')) :
    m.aborted = true ↔ ∃ t, q.Contends i m.thread.job.key t := by
  rcases Pool.next_cases hn with ⟨_, _, ha, _⟩ | ⟨i, ch, t, c, k, ha, ht, hrest, hm, -⟩ |
    ⟨_, _, _, ha, _⟩
  · cases ha
  · cases ha
    cases hm
    obtain ⟨-, hstep⟩ := (h.placed t (List.mem_of_getElem? ht)).step hrest q.world ch
    change refusedCall ⟨c, (handlerAct q.world c ch).1⟩ = true ↔ _
    generalize refusedCall _ = b at hstep ⊢
    have hmem : ∀ u, q.Contends i t.job.key u → t.job.key ∈ q.world.held := by
      rintro u ⟨j, -, hj, hprog, hkey⟩
      exact (h.mem_held _).2 ⟨u, List.mem_of_getElem? hj, hprog, hkey⟩
    have hown : Handling.inProgress t = true → ∀ u, ¬ q.Contends i t.job.key u := by
      rintro hprog u ⟨j, hne, hj, hprog', hkey⟩
      have hle := (h.counted t.job.key).trans_le (Bool.toNat_le _)
      exact hne (eq_of_countP_le_one hle hj ht (Handling.holds_iff.2 ⟨hprog', hkey⟩)
        (Handling.holds_iff.2 ⟨hprog, rfl⟩))
    cases hstep with
    | refused hbusy _ hidle =>
      refine ⟨fun _ => ?_, fun _ => rfl⟩
      obtain ⟨u, hu, hprog, hkey⟩ := (h.mem_held _).1 hbusy
      obtain ⟨j, hj⟩ := List.mem_iff_getElem?.1 hu
      refine ⟨u, j, ?_, hj, hprog, hkey⟩
      rintro rfl
      obtain rfl := Option.some.inj (ht.symm.trans hj)
      exact absurd (hidle.symm.trans hprog) Bool.false_ne_true
    | entered hfree =>
      exact iff_of_false Bool.false_ne_true (not_exists.2 fun u hu => hfree (hmem u hu))
    | worked _ hprog | left _ hprog =>
      exact iff_of_false Bool.false_ne_true (not_exists.2 (hown hprog))
  · cases ha

/-- A handler refused with Aborted meets one of its own kind in progress with its key, exactly
when no handler of the other kind is in progress with that key. -/
theorem aborted_iff {s : ControllerServer} {ms : List HandlerMove} {q q' : Handlers}
    (h : Handled s ms q) {i : Nat} {ch : Ending} {m : HandlerMove}
    (hn : q.next s (.step i ch) = some ([m], q')) :
    (m.aborted = true →
      ∃ t, q.Contends i m.thread.job.key t ∧ t.job.kind = m.thread.job.kind) ↔
    ∀ t, q.Contends i m.thread.job.key t → t.job.kind = m.thread.job.kind := by
  have hiff := h.exclusive.aborted_iff_contends hn
  constructor
  · intro hsame t ht
    obtain ⟨u, hu, hkind⟩ := hsame (hiff.2 ⟨t, ht⟩)
    rwa [h.exclusive.contends_unique ht hu]
  · intro hall hab
    obtain ⟨t, ht⟩ := hiff.1 hab
    exact ⟨t, ht, hall t ht⟩

theorem Handlers.next_step {ch : Ending} (h : q.next s (.step i ch) = some (ms, q')) :
    ∃ m, ms = [m] := by
  rcases Pool.next_cases h with ⟨_, _, ha, _⟩ | ⟨_, _, _, _, _, _, _, _, hm, _⟩ | ⟨_, _, _, ha, _⟩
  · cases ha
  · exact ⟨_, hm⟩
  · cases ha

theorem aborted_iff_volumes : ∃ ms q i ch m q', Handled fullServer ms q ∧
    q.next fullServer (.step i ch) = some ([m], q') ∧ m.aborted = true ∧
    ∃ t, q.Contends i m.thread.job.key t ∧ t.job.kind = m.thread.job.kind := by
  obtain ⟨ms, q, hq, ⟨⟨ms', q'⟩, hn, hm⟩, hkind⟩ := handled_of_run
    [.spawn (.createVolume (createMessage "a")), .spawn (.deleteVolume "a"),
      .step 0 (.returned .done)]
    (fun q => (∃ x ∈ Handlers.next fullServer q (.step 1 (.returned .done)),
      ∀ m ∈ x.1, HandlerMove.aborted m = true ∧ m.thread.job.kind = "volume") ∧
      ∀ t ∈ q.threads, t.job.kind = "volume") (by decide)
  obtain ⟨m, rfl⟩ := Handlers.next_step hn
  obtain ⟨hab, hvol⟩ := hm m (List.mem_singleton_self m)
  refine ⟨ms, q, 1, _, m, q', hq, hn, hab, (aborted_iff hq hn).2 ?_ hab⟩
  rintro t ⟨j, -, hj, -⟩
  exact (hkind t (List.mem_of_getElem? hj)).trans hvol.symm

/-- A snapshot is refused for the creation of a volume of that name, and for nothing else. -/
theorem snapshot_aborted_by_volume : ∃ ms q i ch m q', Handled fullServer ms q ∧
    q.next fullServer (.step i ch) = some ([m], q') ∧ m.aborted = true ∧
    ¬ ∃ t, q.Contends i m.thread.job.key t ∧ t.job.kind = m.thread.job.kind := by
  obtain ⟨ms, q, hq, ⟨⟨ms', q'⟩, hn, hm⟩, hkind⟩ := handled_of_run
    [.spawn (.createVolume (createMessage "a")), .spawn (.createSnapshot ⟨"b", "a"⟩),
      .step 0 (.returned .done)]
    (fun q => (∃ x ∈ Handlers.next fullServer q (.step 1 (.returned .done)),
      ∀ m ∈ x.1, HandlerMove.aborted m = true ∧ m.thread.job.kind = "snapshot") ∧
      ∀ t ∈ q.threads, Handling.inProgress t = true → t.job.kind = "volume") (by decide)
  obtain ⟨m, rfl⟩ := Handlers.next_step hn
  obtain ⟨hab, hsnap⟩ := hm m (List.mem_singleton_self m)
  refine ⟨ms, q, 1, _, m, q', hq, hn, hab, ?_⟩
  rintro ⟨t, ⟨j, -, hj, hprog, -⟩, hsame⟩
  have hvol := hkind t (List.mem_of_getElem? hj) hprog
  rw [hvol, hsnap] at hsame
  exact absurd hsame (by decide)

end NomadCsi.Csi
