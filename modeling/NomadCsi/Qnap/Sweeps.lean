import NomadCsi.Qnap.Sweep

/-!
# Sequences of sweeps

Over any number of sweeps, with any host in front of each, a timer stands for an unbroken
past (`Sweeps.held`). That is the grace period: `logout_after_grace`.
-/

namespace NomadCsi.Qnap

open Lib Lib.Go Node

/-- A sweep: the host it found, what it ran, and what it saw. -/
structure Record where
  host : Host
  trace : List HostEv
  out : Option Swept

/-- Any number of sweeps of one reconciler, each in front of any host. -/
inductive Sweeps (r : Reconciler) : List Record → Timers → Prop where
  | nil : Sweeps r [] ∅
  | snoc {rs : List Record} {tm tm' : Timers} {h h' : Host} {tr : List HostEv}
      {out : Option Swept} : Sweeps r rs tm → Runs hostAct (sweep r tm) h tr (tm', out) h' →
      Sweeps r (rs ++ [⟨h, tr, out⟩]) tm'

/-- The sweep found the target on a portal of ours and classified it as not live. -/
structure Record.NotLive (r : Reconciler) (rec : Record) (iqn : String) : Prop where
  present : ∃ x ∈ rec.host.sessions, portalOwned x.portal r.ours = true ∧ x.iqn = iqn
  notStaged : iqn ∉ rec.host.stagedIqns
  notMounted : ∃ s, rec.out = some s ∧
    s.findings.map (·.session) = rec.host.sessions.filter (portalOwned ·.portal r.ours) ∧
    ∀ f ∈ s.findings, f.session.iqn = iqn → f.mounted = false

/-- Since the sweep at time `t`, the target has not been live in any sweep that could tell, and
has not been logged out. -/
def HeldSince (r : Reconciler) (rs : List Record) (iqn : String) (t : Int) : Prop :=
  ∃ (j : Nat) (rj : Record) (sj : Swept), rs[j]? = some rj ∧ rj.out = some sj ∧ sj.now = t ∧
    ∀ (i : Nat) (ri : Record), j ≤ i → rs[i]? = some ri →
      (Enumerated ri.trace → ri.NotLive r iqn) ∧ ¬ Logs ri.trace iqn

variable {tm' : Timers} {tr : List HostEv}

variable {h : Host} {s : Swept} {mounts : List Mount}

section

variable {r : Reconciler} {rs : List Record} {tm : Timers} {iqn : String}

theorem Sweep.mem_sessions (hs : Sweep r h mounts tm tr s tm') {f : Finding} (hf : f ∈ s.findings) :
    f.session ∈ h.sessions ∧ portalOwned f.session.portal r.ours = true := by
  have hmem : f.session ∈ s.findings.map (·.session) := List.mem_map_of_mem hf
  rw [hs.sessions] at hmem
  exact List.mem_filter.1 hmem

theorem Sweep.notLive (hs : Sweep r h mounts tm tr s tm') (hidle : s.Idle h iqn) :
    Record.NotLive r ⟨h, tr, some s⟩ iqn := by
  obtain ⟨f, hf, hi⟩ := hidle.present
  obtain ⟨hmem, hown⟩ := hs.mem_sessions hf
  exact ⟨⟨f.session, hmem, hown, hi⟩, hidle.notStaged, s, rfl, hs.sessions, hidle.notMounted⟩

theorem HeldSince.snoc {t : Int} {rec : Record} (h : HeldSince r rs iqn t)
    (hlive : Enumerated rec.trace → rec.NotLive r iqn) (hlogs : ¬ Logs rec.trace iqn) :
    HeldSince r (rs ++ [rec]) iqn t := by
  obtain ⟨j, rj, sj, hj, hout, hnow, hall⟩ := h
  have hjlt : j < rs.length := (List.getElem?_eq_some_iff.1 hj).1
  refine ⟨j, rj, sj, by rw [List.getElem?_append_left hjlt, hj], hout, hnow, ?_⟩
  intro i ri hji hi
  by_cases hlt : i < rs.length
  · rw [List.getElem?_append_left hlt] at hi
    exact hall i ri hji hi
  · rw [List.getElem?_append_right (by omega)] at hi
    obtain ⟨-, rfl⟩ := List.getElem?_eq_some_iff.1 hi
    simp only [List.getElem_singleton]
    exact ⟨hlive, hlogs⟩

/-- A timer stands for an unbroken past. -/
theorem Sweeps.held (hrun : Sweeps r rs tm) {t : Int} (ht : tm.lookup iqn = some t) :
    HeldSince r rs iqn t := by
  induction hrun generalizing t with
  | nil => cases ht
  | @snoc rs tm tm' h h' tr out _ hsweep ih =>
    rcases sweep_spec hsweep with ⟨rfl, rfl, hquiet, hfail⟩ | ⟨s, rfl, hs⟩
    · refine (ih ht).snoc (fun henum => absurd henum hfail) ?_
      rintro ⟨e, he, p, hc⟩
      exact hquiet e he p iqn hc
    · obtain ⟨hidle, hlogs, hold | ⟨-, rfl⟩⟩ := hs.timers iqn t ht
      · exact (ih hold).snoc (fun _ => hs.notLive hidle) hlogs
      · -- the timer starts with this sweep
        refine ⟨rs.length, ⟨h, tr, some s⟩, s, by simp, rfl, rfl, fun i ri hi hri => ?_⟩
        have hlt := (List.getElem?_eq_some_iff.1 hri).1
        rw [List.length_append, List.length_singleton] at hlt
        obtain rfl : i = rs.length := by omega
        obtain rfl : ⟨h, tr, some s⟩ = ri := by simpa using hri
        exact ⟨fun _ => hs.notLive hidle, hlogs⟩

theorem Sweeps.split (hrun : Sweeps r rs tm) {k : Nat} {rk : Record} (hk : rs[k]? = some rk) :
    ∃ tmk tmk' h', Sweeps r (rs.take k) tmk ∧
      Runs hostAct (sweep r tmk) rk.host rk.trace (tmk', rk.out) h' := by
  induction hrun with
  | nil => cases hk
  | @snoc rs tm tm' h h' tr out hprev hsweep ih =>
    by_cases hlt : k < rs.length
    · rw [List.getElem?_append_left hlt] at hk
      obtain ⟨tmk, tmk', h'', hs, hr⟩ := ih hk
      rw [List.take_append_of_le_length (by omega)]
      exact ⟨tmk, tmk', h'', hs, hr⟩
    · have hlen := (List.getElem?_eq_some_iff.1 hk).1
      rw [List.length_append, List.length_singleton] at hlen
      obtain rfl : k = rs.length := by omega
      obtain rfl : ⟨h, tr, out⟩ = rk := by simpa using hk
      rw [List.take_left' rfl]
      exact ⟨tm, tm', h', hprev, hsweep⟩

theorem Sweeps.sweep_of_logout (hrun : Sweeps r rs tm) {k : Nat} {rk : Record}
    (hk : rs[k]? = some rk) {e : HostEv} (he : e ∈ rk.trace) {p : String}
    (hc : e.call = .logout p iqn) :
    ∃ tmk tmk' s, Sweeps r (rs.take k) tmk ∧ rk.out = some s ∧
      Sweep r rk.host (rk.host.seen rk.trace).mounts tmk rk.trace s tmk' := by
  obtain ⟨tmk, tmk', h', hprev, hsweep⟩ := hrun.split hk
  rcases sweep_spec hsweep with ⟨-, -, hquiet, -⟩ | ⟨s, hout, hs⟩
  · exact absurd hc (hquiet e he p iqn)
  · exact ⟨tmk, tmk', s, hprev, hout, hs⟩

end

def pairs (tm : Timers) : List (String × Int) := tm.entries.map fun t => (t.1, t.2)

theorem pairs_inj {tm : Timers} (h : pairs tm = pairs tm') : tm = tm' := by
  apply AList.ext
  refine List.map_injective_iff.2 ?_ h
  rintro ⟨a, b⟩ ⟨a', b'⟩ heq
  obtain ⟨rfl, rfl⟩ := Prod.mk.inj heq
  rfl

/-- A host with one session, to a LUN whose device is a path of the map `w1`. -/
def oneSession (mounts : List Mount) (now : Int) : Host :=
  .of [⟨"10.0.0.1:3260", "iqn.a", [(0, "/dev/sdb")]⟩] [("sdb", "w1")] mounts now

/-- Two sweeps on lists of choices: the first finds the session idle, the second logs it out. -/
theorem Sweeps.pair (r : Reconciler) (mounts : List Mount) (chs1 chs2 : List CmdChoice)
    (hfirst : ((exec hostAct (sweep r ∅) (oneSession mounts 0) chs1).any fun x =>
      decide (pairs x.2.1.1 = pairs (AList.insert "iqn.a" 0 ∅))) = true)
    (hsecond : ((exec hostAct (sweep r (AList.insert "iqn.a" 0 ∅)) (oneSession mounts 90) chs2).any
      fun x => decide (∃ e ∈ x.1, e.call = .logout "10.0.0.1:3260" "iqn.a")) = true) :
    ∃ r1 r2 tm, Sweeps r [r1, r2] tm ∧ r2.host = oneSession mounts 90 ∧
      ∃ e ∈ r2.trace, e.call = .logout "10.0.0.1:3260" "iqn.a" := by
  obtain ⟨tr1, ⟨tm1, out1⟩, h1, hrun1, htm⟩ := runs_of_exec hostAct _ _ chs1 _ hfirst
  obtain rfl := pairs_inj htm
  obtain ⟨tr2, ⟨tm2, out2⟩, h2, hrun2, hlogout⟩ := runs_of_exec hostAct _ _ chs2 _ hsecond
  exact ⟨_, _, tm2, .snoc (.snoc .nil hrun1) hrun2, rfl, hlogout⟩

/-! ### The grace period -/

theorem normalizePortal_ne_empty {p : String} (h : trimSpace p ≠ "") : normalizePortal p ≠ "" := by
  unfold normalizePortal
  simp only [h, if_false]
  split
  · intro hj
    have := congrArg String.toList hj
    unfold joinHostPort at this
    split at this
    · simp at this
    · simp at this
  · exact h

theorem ourPortals_ne_nil {cfg : Config} (h : cfg.portalList ≠ []) : ourPortals cfg ≠ [] := by
  obtain ⟨p, hp⟩ := List.exists_mem_of_ne_nil _ h
  have hne : normalizePortal p ≠ "" := by
    apply normalizePortal_ne_empty
    unfold Config.portalList at hp
    obtain ⟨hmem, hpne⟩ := List.mem_filter.1 hp
    obtain ⟨q, -, rfl⟩ := List.mem_map.1 hmem
    exact trimSpace_trimSpace_ne_empty (by simpa using hpne)
  have hmem : normalizePortal p ∈ ourPortals cfg :=
    List.mem_filter.2 ⟨List.mem_map_of_mem hp, by simpa using hne⟩
  exact List.ne_nil_of_mem hmem

/-- A logout is preceded, by the grace period, by a sweep since which the target has not been live
in any sweep that could tell, and has not been logged out. With portals configured, it goes to one
of them. -/
theorem logout_after_grace {n : NodePlugin} {grace : Int} {rs : List Record} {tm : Timers}
    {k : Nat} {rk : Record} {e : HostEv} {p iqn : String}
    (hrun : Sweeps (newReconciler n grace) rs tm) (hk : rs[k]? = some rk) (he : e ∈ rk.trace)
    (hc : e.call = .logout p iqn) :
    (∃ (j : Nat) (rj : Record) (sj sk : Swept), j < k ∧ rs[j]? = some rj ∧ rj.out = some sj ∧
      rk.out = some sk ∧ grace ≤ timeSub sk.now sj.now ∧
      (∀ (i : Nat) (ri : Record), j ≤ i → i ≤ k → rs[i]? = some ri → Enumerated ri.trace →
        ri.NotLive (newReconciler n grace) iqn) ∧
      ∀ (i : Nat) (ri : Record), j ≤ i → i < k → rs[i]? = some ri → ¬ Logs ri.trace iqn) ∧
    (n.cfg.portalList ≠ [] → p ∈ n.cfg.portalList.map normalizePortal) := by
  obtain ⟨tmk, tmk', sk, hprev, hout, hs⟩ := hrun.sweep_of_logout hk he hc
  obtain ⟨hidle, ⟨first, hfirst, hgrace⟩, f, hf, hfp⟩ := hs.logouts e he p iqn hc
  obtain ⟨j, rj, sj, hj, hjout, hjnow, hall⟩ := hprev.held hfirst
  have hklt : k < rs.length := (List.getElem?_eq_some_iff.1 hk).1
  have hjlt : j < k := by
    have := (List.getElem?_eq_some_iff.1 hj).1
    rw [List.length_take] at this
    omega
  have htake : ∀ i, i < k → (rs.take k)[i]? = rs[i]? := fun i hi => by
    rw [List.getElem?_take, if_pos hi]
  refine ⟨⟨j, rj, sj, sk, hjlt, htake j hjlt ▸ hj, hjout, hout, ?_, ?_, ?_⟩, fun hcfg => ?_⟩
  · rw [hjnow]
    exact hgrace
  · intro i ri hji hik hi henum
    by_cases hlt : i < k
    · exact (hall i ri hji (htake i hlt ▸ hi)).1 henum
    · obtain rfl : i = k := by omega
      obtain rfl : rk = ri := Option.some.inj (hk.symm.trans hi)
      have hnot := hs.notLive hidle
      rw [← hout] at hnot
      exact hnot
  · intro i ri hji hik hi
    exact (hall i ri hji (htake i hik ▸ hi)).2
  · obtain ⟨-, hown⟩ := hs.mem_sessions hf
    have hne : (newReconciler n grace).ours ≠ [] := ourPortals_ne_nil hcfg
    rw [portalOwned, Bool.or_eq_true, List.isEmpty_iff] at hown
    have hmem := of_decide_eq_true (hown.resolve_left hne)
    rw [hfp] at hmem
    exact (List.mem_filter.1 hmem).1

theorem logout_after_grace_twoSweeps : ∃ (r1 r2 : Record) (tm : Timers),
    Sweeps (newReconciler .plain 60) [r1, r2] tm ∧
    ∃ (j : Nat) (rj : Record) (sj sk : Swept), j < 1 ∧ [r1, r2][j]? = some rj ∧
      rj.out = some sj ∧ r2.out = some sk ∧ 60 ≤ timeSub sk.now sj.now := by
  obtain ⟨r1, r2, tm, hrun, -, e, he, hc⟩ := Sweeps.pair (newReconciler .plain 60) []
    (List.replicate 8 {}) (List.replicate 10 {}) (by decide) (by decide)
  obtain ⟨⟨j, rj, sj, sk, hjk, hj, hout, hk, hgrace, -⟩, -⟩ :=
    logout_after_grace (k := 1) hrun rfl he hc
  exact ⟨r1, r2, tm, hrun, j, rj, sj, sk, hjk, hj, hout, hk, hgrace⟩

/-! ### Mounted devices -/

/-- The map a device belongs to is mounted, by its mapper path or the node that resolves to. -/
def MapMounted (h : Host) (device : String) : Prop :=
  device ≠ "" ∧ wwidOf h.paths device ≠ "" ∧
    MountedAs h.link (h.mounts.map (·.source)) (mapperPath (wwidOf h.paths device))

/-- A device backs a mount, directly or through its multipath map. -/
def Backs (h : Host) (device : String) : Prop :=
  device ≠ "" ∧ MountedAs h.link (h.mounts.map (·.source)) device ∨ MapMounted h device

/-- A device that multipathd answered for, or whose map is not mounted, was judged rightly. -/
theorem Finding.Right.backs_iff {f : Finding} (hf : f.Right h (h.mounts.map (·.source)))
    (hmap : MapMounted h f.session.device → ∃ wwid, f.answer = some (.ok wwid)) :
    f.mounted = true ↔ Backs h f.session.device := by
  rw [hf.verdict]
  constructor
  · rintro ⟨hne, c, hc, hm⟩
    have hanswer := hf.answer
    unfold candidates at hc
    split at hc
    · next wwid hans =>
      rw [hans] at hanswer
      obtain rfl : wwid = wwidOf h.paths f.session.device := hanswer
      split at hc
      · exact .inl ⟨hne, List.mem_singleton.1 hc ▸ hm⟩
      · next hw =>
        rcases List.mem_pair.1 hc with rfl | rfl
        · exact .inl ⟨hne, hm⟩
        · exact .inr ⟨hne, hw, hm⟩
    · exact .inl ⟨hne, List.mem_singleton.1 hc ▸ hm⟩
  · rintro (⟨hne, hm⟩ | hmapped)
    · refine ⟨hne, f.session.device, ?_, hm⟩
      unfold candidates
      split
      · split <;> simp
      · simp
    · obtain ⟨wwid, hans⟩ := hmap hmapped
      have hanswer := hf.answer
      rw [hans] at hanswer
      obtain rfl : wwid = wwidOf h.paths f.session.device := hanswer
      obtain ⟨hne, hw, hm⟩ := hmapped
      exact ⟨hne, _, by simp [candidates, hans, hw], hm⟩

/-- The questions put to multipathd in a sweep, with the sessions they are about: one for each
session of this plugin that has a device, in the order of the session list. -/
def Record.questions (r : Reconciler) (rec : Record) : List (Session × HostEv) :=
  (rec.host.sessions.filter fun x => (r.useMultipath && x.device ≠ "") &&
    portalOwned x.portal r.ours).zip (queries rec.trace)

theorem Sweep.answered {r : Reconciler} {tm : Timers} {out : Option Swept}
    (hs : Sweep r h mounts tm tr s tm') {x : Session} {e : HostEv}
    (hq : (x, e) ∈ Record.questions r ⟨h, tr, out⟩) (hok : e.choice.fail = none) :
    ∃ f ∈ s.findings, f.session = x ∧ ∃ wwid, f.answer = some (.ok wwid) := by
  have hsessions : h.sessions.filter (fun x => (r.useMultipath && x.device ≠ "") &&
      portalOwned x.portal r.ours) =
      (s.findings.filter fun f => r.useMultipath && f.session.device ≠ "").map (·.session) := by
    rw [← List.filter_filter, ← hs.sessions, List.filter_map]
    rfl
  have hall : List.Forall₂ (fun f e => f.answered = e.choice.fail.isNone)
      (s.findings.filter fun f => r.useMultipath && f.session.device ≠ "") (queries tr) := by
    have heq := hs.asked
    unfold Asked at heq
    rw [← List.forall₂_eq_eq_eq, List.forall₂_map_left_iff, List.forall₂_map_right_iff] at heq
    exact heq
  rw [Record.questions, hsessions, List.zip_map_left] at hq
  obtain ⟨⟨f, e'⟩, hzip, heq⟩ := List.mem_map.1 hq
  obtain ⟨hfx, he⟩ := Prod.mk.inj heq
  obtain rfl : e' = e := he
  have hanswered : f.answered = true := by
    rw [(List.forall₂_iff_zip.1 hall).2 hzip, hok]
    rfl
  refine ⟨f, (List.mem_filter.1 (List.of_mem_zip hzip).1).1, hfx, ?_⟩
  unfold Finding.answered at hanswered
  split at hanswered
  · next wwid h => exact ⟨wwid, h⟩
  · cases hanswered

/-- The sweep can tell whether the device of a session is in use: its listing of the mounts did not
fail, and if the device's map is mounted, multipathd was asked about the device and did not fail. -/
structure Record.Tells (r : Reconciler) (rec : Record) (x : Session) : Prop where
  listed : ∀ e ∈ rec.trace, e.call = .findmnt → e.choice.fail = none
  mapped : MapMounted rec.host x.device → ∃ q, (x, q) ∈ rec.questions r ∧ q.choice.fail = none

/-- When a target that is logged out has no mounted device: exactly if the sweep can tell for each
of its devices that backs a mount. -/
theorem logout_unmounted_iff {r : Reconciler} {rs : List Record} {tm : Timers} {k : Nat}
    {rk : Record} {e : HostEv} {p iqn : String} (hrun : Sweeps r rs tm) (hk : rs[k]? = some rk)
    (he : e ∈ rk.trace) (hc : e.call = .logout p iqn) :
    (∀ x ∈ rk.host.sessions, portalOwned x.portal r.ours = true → x.iqn = iqn →
        ¬ Backs rk.host x.device) ↔
      ∀ x ∈ rk.host.sessions, portalOwned x.portal r.ours = true → x.iqn = iqn →
        Backs rk.host x.device → rk.Tells r x := by
  obtain ⟨tmk, tmk', s, -, hout, hs⟩ := hrun.sweep_of_logout hk he hc
  obtain ⟨hidle, -, -⟩ := hs.logouts e he p iqn hc
  constructor
  · intro hnot x hx hown hi hbacks
    exact absurd hbacks (hnot x hx hown hi)
  · intro htells x hx hown hi hbacks
    obtain ⟨hlisted, hmapped⟩ := htells x hx hown hi hbacks
    have hseen : rk.host.seen rk.trace = rk.host := if_pos hlisted
    rw [hseen] at hs
    have hfound : ∃ f ∈ s.findings, f.session = x ∧
        (MapMounted rk.host x.device → ∃ wwid, f.answer = some (.ok wwid)) := by
      by_cases hmap : MapMounted rk.host x.device
      · obtain ⟨q, hq, hok⟩ := hmapped hmap
        obtain ⟨f, hf, hfx, hans⟩ := hs.answered hq hok
        exact ⟨f, hf, hfx, fun _ => hans⟩
      · have hmem : x ∈ s.findings.map (·.session) := by
          rw [hs.sessions]
          exact List.mem_filter.2 ⟨hx, hown⟩
        obtain ⟨f, hf, hfx⟩ := List.mem_map.1 hmem
        exact ⟨f, hf, hfx, fun h => absurd h hmap⟩
    obtain ⟨f, hf, rfl, hans⟩ := hfound
    have hmounted := ((hs.right f hf).backs_iff hans).2 hbacks
    rw [hidle.notMounted f hf hi] at hmounted
    cases hmounted

theorem logout_unmounted_otherMap : ∃ (r1 r2 : Record) (tm : Timers),
    Sweeps ⟨true, [], 60⟩ [r1, r2] tm ∧ Logs r2.trace "iqn.a" ∧
    ∀ x ∈ r2.host.sessions, portalOwned x.portal [] = true → x.iqn = "iqn.a" →
      ¬ Backs r2.host x.device := by
  obtain ⟨r1, r2, tm, hrun, hhost, e, he, hc⟩ := Sweeps.pair ⟨true, [], 60⟩
    [⟨"/data", "/dev/mapper/w2"⟩] (List.replicate 8 {}) (List.replicate 10 {}) (by decide) (by decide)
  refine ⟨r1, r2, tm, hrun, ⟨e, he, _, hc⟩, (logout_unmounted_iff (k := 1) hrun rfl he hc).2 ?_⟩
  rw [hhost]
  intro x hx _ _ hbacks
  obtain rfl : x = ⟨"iqn.a", "10.0.0.1:3260", 0, "/dev/sdb"⟩ := List.mem_singleton.1 hx
  obtain ⟨-, hm | ⟨real, hreal, -⟩⟩ | ⟨-, -, hm | ⟨real, hreal, -⟩⟩ := hbacks
  · exact absurd hm (by decide)
  · cases hreal
  · exact absurd hm (by decide)
  · cases hreal

/-- While multipathd does not answer, a target whose map is mounted is logged out. -/
theorem logout_of_mounted : ¬ ∀ (r : Reconciler) (rs : List Record) (tm : Timers) (k : Nat)
    (rk : Record) (e : HostEv) (p iqn : String), Sweeps r rs tm → rs[k]? = some rk →
      e ∈ rk.trace → e.call = .logout p iqn → ∀ x ∈ rk.host.sessions,
      portalOwned x.portal r.ours = true → x.iqn = iqn → ¬ Backs rk.host x.device := by
  intro h
  obtain ⟨r1, r2, tm, hrun, hhost, e, he, hc⟩ := Sweeps.pair ⟨true, [], 60⟩
    [⟨"/data", "/dev/mapper/w1"⟩] [{}, {}, {}, { fail := some "timeout" }, {}, {}, {}]
    [{}, {}, {}, { fail := some "timeout" }, {}, {}, {}, {}, {}] (by decide) (by decide)
  have hnot := h _ _ _ 1 _ _ _ _ hrun rfl he hc ⟨"iqn.a", "10.0.0.1:3260", 0, "/dev/sdb"⟩
  rw [hhost] at hnot
  exact hnot (by decide) rfl rfl (.inr ⟨by decide, by decide, .inl (by decide)⟩)

end NomadCsi.Qnap
