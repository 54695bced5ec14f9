import NomadCsi.Node.Logic
import NomadCsi.Qnap.Reconciler

/-!
# What a sweep does

`Sweep` says what one sweep reads, decides and does to the timers, and `sweep_spec` that
every run of `sweep` is one, unless an enumeration fails.
-/

namespace NomadCsi.Qnap

open Lib Lib.Go Node

/-- A path is the source of a mount, as it is or resolved. -/
def MountedAs (link : String → Option String) (mounted : List String) (path : String) : Prop :=
  path ∈ mounted ∨ ∃ real, link path = some real ∧ real ∈ mounted

/-! ### The findings -/

def queries (tr : List HostEv) : List HostEv := tr.filter (·.call = .showPaths)

theorem queries_append (tr tr' : List HostEv) :
    queries (tr ++ tr') = queries tr ++ queries tr' := List.filter_append ..

variable {tr : List HostEv}

theorem queries_eq_nil (h : ∀ e ∈ tr, e.call ≠ .showPaths) : queries tr = [] := by
  rw [queries, List.filter_eq_nil_iff]
  intro e he
  simpa using h e he

def Finding.answered (f : Finding) : Bool :=
  match f.answer with
  | some (.ok _) => true
  | _ => false

/-- With multipath on, multipathd is asked once for every finding that has a device, in order. -/
def Asked (r : Reconciler) (fs : List Finding) (tr : List HostEv) : Prop :=
  (fs.filter fun f => r.useMultipath && f.session.device ≠ "").map (·.answered) =
    (queries tr).map (·.choice.fail.isNone)

variable {r : Reconciler}

theorem Asked.append {fs gs : List Finding} {tr' : List HostEv} (h : Asked r fs tr)
    (h' : Asked r gs tr') : Asked r (fs ++ gs) (tr ++ tr') := by
  unfold Asked at *
  rw [List.filter_append, List.map_append, h, h', queries_append, List.map_append]

theorem calls_anyMounted (mounted cands : List String) :
    (anyMounted mounted cands).Calls fun c => ∃ p, c = .evalSymlinks p := by
  induction cands with
  | nil => trivial
  | cons cand rest ih =>
    rw [anyMounted]
    split
    · trivial
    · refine ⟨⟨cand, rfl⟩, fun real => ?_⟩
      change Prog.Calls _ (if _ then _ else _)
      split
      · trivial
      · exact ih

section

variable {r : Reconciler} {h : Host} {mounted : List String}

theorem wp_anyMounted (cands : List String) :
    wp hostAct (anyMounted mounted cands) h fun _ found h' =>
      Same h h' ∧ (found = true ↔ ∃ c ∈ cands, MountedAs h.link mounted c) := by
  induction cands generalizing h with
  | nil => exact ⟨.refl h, by simp⟩
  | cons cand rest ih =>
    rw [anyMounted]
    split
    · next hc => exact ⟨.refl h, iff_of_true rfl ⟨cand, .head _, .inl hc⟩⟩
    · next hc =>
      intro ch
      have hnext : Same h (hostAct h (.evalSymlinks cand) ch).2 := ⟨_, rfl⟩
      have hany : (h.link cand).any (· ∈ mounted) = true ↔
          ∃ real, h.link cand = some real ∧ real ∈ mounted := by
        cases h.link cand with
        | none | some => simp
      change wp hostAct (if (h.link cand).any (· ∈ mounted) then _ else _) _ _
      split
      · next hr => exact ⟨hnext, iff_of_true rfl ⟨cand, .head _, .inr (hany.1 hr)⟩⟩
      · next hr =>
        have hno : ¬ MountedAs h.link mounted cand := by
          rintro (hm | hm)
          · exact hc hm
          · exact hr (hany.2 hm)
        refine wp_mono ih fun tr found h' hp => ⟨hnext.trans hp.1, ?_⟩
        simp only [hp.2, List.mem_cons, exists_eq_or_imp, hno, false_or]
        exact Iff.rfl

/-- What multipathd answers is the map of the device, if it answers. -/
def AnswerOf (paths : List (String × String)) (device : String) :
    Option (Except String String) → Prop
  | some (.ok wwid) => wwid = wwidOf paths device
  | _ => True

/-- A finding is right: its answer is the device's map, and its verdict says whether a candidate
is mounted. -/
structure Finding.Right (h : Host) (mounted : List String) (f : Finding) : Prop where
  answer : AnswerOf h.paths f.session.device f.answer
  verdict : f.mounted = true ↔ f.session.device ≠ "" ∧
    ∃ c ∈ candidates f.session.device f.answer, MountedAs h.link mounted c

theorem wp_deviceMounted (s : Session) :
    wp hostAct (deviceMounted r s.device mounted) h fun tr found h' =>
      Same h h' ∧ Finding.Right h mounted ⟨s, found.1, found.2⟩ ∧
        Asked r [⟨s, found.1, found.2⟩] tr := by
  unfold deviceMounted
  split
  · next hd => exact ⟨.refl h, ⟨trivial, by simp [hd]⟩, by simp [Asked, hd, queries]⟩
  · next hd =>
    have hask : wp hostAct (askMultipath r s.device) h fun tr answer h' =>
        Same h h' ∧ AnswerOf h.paths s.device answer ∧
          ∀ found, Asked r [⟨s, answer, found⟩] tr := by
      unfold askMultipath
      split
      · next hm =>
        refine wp_bind.2 (wp_mono (wp_mapWWID h s.device) fun tr answer h' hp => ?_)
        obtain ⟨hsame, e, rfl, hc, ⟨hf, rfl⟩ | ⟨hf, msg, rfl⟩⟩ := hp
        · refine ⟨hsame, rfl, fun found => ?_⟩
          simp [Asked, queries, hm, hd, hc, hf, Finding.answered]
        · refine ⟨hsame, trivial, fun found => ?_⟩
          obtain ⟨text, hf⟩ := Option.ne_none_iff_exists'.1 hf
          simp [Asked, queries, hm, hd, hc, hf, Finding.answered]
      · next hm => exact ⟨.refl h, trivial, fun found => by simp [Asked, hm, queries]⟩
    refine wp_bind.2 (wp_mono hask fun tr answer h' hp => ?_)
    obtain ⟨⟨t, rfl⟩, hanswer, hasked⟩ := hp
    refine wp_bind.2 (wp_mono (wp_and (wp_anyMounted _) (wp_of_calls (calls_anyMounted _ _) _)) ?_)
    intro tr' found h'' hp
    obtain ⟨⟨hsame, hfound⟩, hcalls⟩ := hp
    refine ⟨Same.trans ⟨t, rfl⟩ hsame, ⟨hanswer, ?_⟩, ?_⟩
    · simp only [hfound, ne_eq, hd, not_false_eq_true, true_and]
    · have hnil : queries (tr' ++ []) = [] := by
        rw [List.append_nil]
        refine queries_eq_nil fun e he hc => ?_
        obtain ⟨p, hp⟩ := hcalls e he
        simp [hp] at hc
      have hrest : Asked r [] (tr' ++ []) := by
        rw [Asked, hnil]
        rfl
      exact (hasked found).append hrest

theorem wp_findings (sessions : List Session) :
    wp hostAct (findings r mounted sessions) h fun tr fs h' =>
      Same h h' ∧ fs.map (·.session) = sessions.filter (portalOwned ·.portal r.ours) ∧
        (∀ f ∈ fs, f.Right h mounted) ∧ Asked r fs tr := by
  induction sessions generalizing h with
  | nil => exact ⟨.refl h, rfl, by simp, by simp [Asked, queries]⟩
  | cons s rest ih =>
    rw [findings]
    split
    · next hown =>
      refine wp_bind.2 (wp_mono (wp_deviceMounted s) fun tr found h' hp => ?_)
      obtain ⟨⟨t, rfl⟩, hfound, hasked⟩ := hp
      refine wp_bind.2 (wp_mono ih fun tr' fs h'' hp => ?_)
      obtain ⟨hsame, hmap, hright, hrest⟩ := hp
      refine ⟨Same.trans ⟨t, rfl⟩ hsame, ?_, ?_, ?_⟩
      · simp [hmap, hown]
      · intro f hf
        rcases List.mem_cons.1 hf with rfl | hf
        · exact hfound
        · exact ⟨(hright f hf).answer, (hright f hf).verdict⟩
      · rw [List.append_nil]
        exact hasked.append hrest
    · next hown =>
      refine wp_mono ih fun tr fs h' hp => ⟨hp.1, ?_, hp.2.2⟩
      simp [hp.2.1, hown]

end

/-! ### The targets and their timers -/

def Describes (cached : List String) (fs : List Finding) (iqn : String) : Option TState → Prop
  | none => ∀ f ∈ fs, f.session.iqn ≠ iqn
  | some t => (∃ f ∈ fs, f.session.iqn = iqn) ∧
    (t.live = true ↔ iqn ∈ cached ∨ ∃ f ∈ fs, f.session.iqn = iqn ∧ f.mounted = true) ∧
    ∀ p, p ∈ t.portals ↔ ∃ f ∈ fs, f.session.iqn = iqn ∧ normalizePortal f.session.portal = p

theorem targetsOf_describes (cached : List String) (fs : List Finding) (iqn : String) :
    Describes cached fs iqn ((targetsOf cached fs).lookup iqn) := by
  induction fs using List.reverseRecOn with
  | nil => simp [targetsOf, Describes]
  | append_singleton fs f ih =>
    have hstep : targetsOf cached (fs ++ [f]) = noteSession cached (targetsOf cached fs) f := by
      simp [targetsOf]
    rw [hstep, noteSession]
    by_cases hiqn : iqn = f.session.iqn
    · subst hiqn
      rw [AList.lookup_insert]
      cases hl : (targetsOf cached fs).lookup f.session.iqn with
      | none =>
        rw [hl] at ih
        have hfs : ∀ g ∈ fs, ¬ g.session.iqn = f.session.iqn := ih
        refine ⟨⟨f, by simp⟩, ?_, fun p => ?_⟩
        · simp only [Option.getD_none, Bool.false_or, Bool.or_eq_true, decide_eq_true_eq,
            List.mem_append, List.mem_singleton]
          grind
        · simp only [Option.getD_none, List.mem_insert_iff, List.not_mem_nil, or_false,
            List.mem_append, List.mem_singleton]
          grind
      | some t =>
        rw [hl] at ih
        obtain ⟨-, hlive, hportals⟩ := ih
        refine ⟨⟨f, by simp⟩, ?_, fun p => ?_⟩
        · simp only [Option.getD_some, Bool.or_eq_true, decide_eq_true_eq, hlive, List.mem_append,
            List.mem_singleton]
          grind
        · simp only [Option.getD_some, List.mem_insert_iff, hportals, List.mem_append,
            List.mem_singleton]
          grind
    · rw [AList.lookup_insert_ne hiqn]
      have hf : ¬ f.session.iqn = iqn := fun e => hiqn e.symm
      cases hl : (targetsOf cached fs).lookup iqn with
      | none =>
        rw [hl] at ih
        intro g hg
        rcases mem_snoc.1 hg with hg | rfl
        · exact ih g hg
        · exact hf
      | some t =>
        rw [hl] at ih
        obtain ⟨⟨g, hg, hgi⟩, hlive, hportals⟩ := ih
        refine ⟨⟨g, List.mem_append_left _ hg, hgi⟩, ?_, fun p => ?_⟩
        · simp only [hlive, List.mem_append, List.mem_singleton]
          grind
        · simp only [hportals, List.mem_append, List.mem_singleton]
          grind

section

variable {r : Reconciler} {now : Int} {h : Host} {tm : Timers}

def timerAfter (r : Reconciler) (now : Int) (t : TState) (timer : Option Int) : Option Int :=
  if t.live then none
  else match timer with
    | none => some now
    | some first => if timeSub now first < r.grace then some first else none

/-- A target is logged out: not live, and its timer has run for the grace period. -/
def Due (r : Reconciler) (now : Int) (t : TState) (timer : Option Int) : Prop :=
  t.live = false ∧ ∃ first, timer = some first ∧ r.grace ≤ timeSub now first

theorem timerAfter_of_due {t : TState} {timer : Option Int} (hd : Due r now t timer) :
    timerAfter r now t timer = none := by
  obtain ⟨hlive, first, rfl, hg⟩ := hd
  have : ¬ timeSub now first < r.grace := by omega
  simp [timerAfter, hlive, this]

theorem timerAfter_eq_some {t : TState} {timer : Option Int} {x : Int}
    (hx : timerAfter r now t timer = some x) :
    t.live = false ∧ (timer = some x ∨ timer = none ∧ x = now) := by
  unfold timerAfter at hx
  split at hx
  · cases hx
  · next hlive =>
    refine ⟨by simpa using hlive, ?_⟩
    split at hx
    · exact .inr ⟨rfl, (Option.some.inj hx).symm⟩
    · split at hx
      · exact .inl hx
      · cases hx

theorem calls_logoutPortals (iqn : String) (ps : List String) :
    (logoutPortals iqn ps).Calls fun c => ∃ p ∈ ps, c = .logout p iqn := by
  induction ps with
  | nil => trivial
  | cons p ps ih =>
    have hlogout := (calls_logout p iqn).mono
      fun c hc => (⟨p, .head _, hc⟩ : ∃ q ∈ p :: ps, c = .logout q iqn)
    refine hlogout.bind fun _ => ih.mono ?_
    rintro c ⟨q, hq, rfl⟩
    exact ⟨q, .tail _ hq, rfl⟩

theorem wp_settleTarget (iqn : String) (t : TState) :
    wp hostAct (settleTarget r now iqn t tm) h fun tr tm' _ =>
      (∀ i, tm'.lookup i =
        if i = iqn then timerAfter r now t (tm.lookup iqn) else tm.lookup i) ∧
      ∀ e ∈ tr, ∀ p i, e.call = .logout p i → i = iqn ∧ Due r now t (tm.lookup iqn) ∧
        p ∈ t.portals := by
  have herase : ∀ i, (tm.erase iqn).lookup i = if i = iqn then none else tm.lookup i := by
    intro i
    split
    · next hi => rw [hi, AList.lookup_erase]
    · next hi => rw [AList.lookup_erase_ne hi]
  unfold settleTarget
  split
  · next hlive => exact ⟨fun i => by simp [herase, timerAfter, hlive], by simp⟩
  · next hlive =>
    split
    · next hl =>
      refine ⟨fun i => ?_, by simp⟩
      split
      · next hi =>
        rw [hi, AList.lookup_insert, hl]
        simp [timerAfter, hlive]
      · next hi => rw [AList.lookup_insert_ne hi]
    · next first hl =>
      split
      · next hg =>
        refine ⟨fun i => ?_, by simp⟩
        split
        · next hi =>
          rw [hi, hl]
          simp [timerAfter, hlive, hg]
        · rfl
      · next hg =>
        have hdue : Due r now t (tm.lookup iqn) :=
          ⟨by simpa using hlive, first, hl, by omega⟩
        refine wp_lift_bind.2 fun ch => ?_
        have hperm : (hostAct h (.range t.portals) ch).1.Perm t.portals := shuffle_perm _ _
        refine wp_bind.2 (wp_mono (wp_of_calls (calls_logoutPortals iqn _) _) ?_)
        intro tr _ h' hc
        rw [hl] at hdue
        refine ⟨fun i => by rw [herase, hl, timerAfter_of_due hdue], fun e he p i hcall => ?_⟩
        rw [List.append_nil] at he
        rcases List.mem_cons.1 he with rfl | he
        · cases hcall
        · obtain ⟨q, hq, hce⟩ := hc e he
          rw [hce] at hcall
          cases hcall
          exact ⟨rfl, hl ▸ hdue, hperm.mem_iff.1 hq⟩

/-- The timer of an IQN after all targets were settled. -/
def settled (r : Reconciler) (now : Int) (targets : Map String TState) (timers : Timers)
    (iqn : String) : Option Int :=
  match targets.lookup iqn with
  | some t => timerAfter r now t (timers.lookup iqn)
  | none => timers.lookup iqn

theorem wp_settleIqn (targets : Map String TState) (iqn : String) :
    wp hostAct (settleIqn r now targets iqn tm) h fun tr tm' _ =>
      (∀ i, tm'.lookup i = if i = iqn then settled r now targets tm iqn else tm.lookup i) ∧
      ∀ e ∈ tr, ∀ p i, e.call = .logout p i → i = iqn ∧ ∃ t, targets.lookup i = some t ∧
        Due r now t (tm.lookup i) ∧ p ∈ t.portals := by
  unfold settleIqn
  split
  · next t hl =>
    refine wp_mono (wp_settleTarget iqn t) fun tr tm' h' hp => ⟨?_, fun e he p i hc => ?_⟩
    · simpa only [settled, hl] using hp.1
    · obtain ⟨rfl, hdue, hmem⟩ := hp.2 e he p i hc
      exact ⟨rfl, t, hl, hdue, hmem⟩
  · next hl =>
    refine ⟨fun i => ?_, by simp⟩
    split
    · next hi =>
      subst hi
      simp only [settled, hl]
    · rfl

theorem wp_settle (targets : Map String TState) {order : List String} (hnodup : order.Nodup) :
    wp hostAct (settle r now targets order tm) h fun tr tm' _ =>
      (∀ i, tm'.lookup i = if i ∈ order then settled r now targets tm i else tm.lookup i) ∧
      ∀ e ∈ tr, ∀ p i, e.call = .logout p i → i ∈ order ∧ ∃ t, targets.lookup i = some t ∧
        Due r now t (tm.lookup i) ∧ p ∈ t.portals := by
  induction order generalizing tm h with
  | nil => exact ⟨by simp, by simp⟩
  | cons iqn rest ih =>
    obtain ⟨hnot, hrest⟩ := List.nodup_cons.1 hnodup
    refine wp_bind.2 (wp_mono (wp_settleIqn targets iqn) fun tr tm1 h1 hp => ?_)
    obtain ⟨htm1, hlog1⟩ := hp
    refine wp_mono (ih hrest) fun tr' tm' h' hp => ?_
    obtain ⟨htm', hlog'⟩ := hp
    -- a target further down the order still has the timer it had at the start
    have hkeep : ∀ i, i ≠ iqn → tm1.lookup i = tm.lookup i := fun i hi => by rw [htm1, if_neg hi]
    refine ⟨fun i => ?_, fun e he p i hc => ?_⟩
    · rw [htm']
      by_cases hi : i = iqn
      · subst hi
        simp only [hnot, if_false, List.mem_cons, true_or, if_true, htm1]
      · simp only [List.mem_cons, hi, false_or, settled, hkeep i hi]
    · rcases List.mem_append.1 he with he | he
      · obtain ⟨rfl, hdue⟩ := hlog1 e he p i hc
        exact ⟨.head _, hdue⟩
      · obtain ⟨hi, t, hl, hdue, hmem⟩ := hlog' e he p i hc
        have hne : i ≠ iqn := fun heq => hnot (heq ▸ hi)
        exact ⟨.tail _ hi, t, hl, hkeep i hne ▸ hdue, hmem⟩

end

theorem lookup_forget (targets : Map String TState) (tm : Timers) (iqn : String) :
    (forget targets tm).lookup iqn = if iqn ∈ targets then tm.lookup iqn else none := by
  have hfold : ∀ (l : List String) (m : Timers), (l.foldl (fun m i =>
      if i ∈ targets then m else m.erase i) m).lookup iqn =
        if iqn ∈ l ∧ iqn ∉ targets then none else m.lookup iqn := by
    intro l
    induction l with
    | nil => simp
    | cons i l ih =>
      intro m
      rw [List.foldl_cons, ih]
      by_cases hin : iqn ∈ targets
      · simp only [hin, not_true_eq_false, and_false, if_false]
        split
        · rfl
        · next hi => rw [AList.lookup_erase_ne (by rintro rfl; exact hi hin)]
      · by_cases hi : iqn = i
        · subst hi
          simp [hin]
        · simp only [List.mem_cons, hi, false_or]
          split
          · rfl
          · split
            · rfl
            · rw [AList.lookup_erase_ne hi]
  rw [forget, hfold]
  by_cases hin : iqn ∈ targets
  · simp [hin]
  · simp only [hin, not_false_eq_true, and_true, if_false]
    split
    · rfl
    · next hk => exact AList.lookup_eq_none.2 hk

/-! ### One sweep -/

/-- A sweep found the target idle: a session of it on one of our portals, not staged by this
process, and no path of it mounted. -/
structure Swept.Idle (s : Swept) (h : Host) (iqn : String) : Prop where
  present : ∃ f ∈ s.findings, f.session.iqn = iqn
  notStaged : iqn ∉ h.stagedIqns
  notMounted : ∀ f ∈ s.findings, f.session.iqn = iqn → f.mounted = false

def Logs (tr : List HostEv) (iqn : String) : Prop := ∃ e ∈ tr, ∃ p, e.call = .logout p iqn

def Quiet (tr : List HostEv) : Prop := ∀ e ∈ tr, ∀ p iqn, e.call ≠ .logout p iqn

def Enumerated (tr : List HostEv) : Prop :=
  ∀ e ∈ tr, e.call = .sessionList ∨ e.call = .findmnt → e.choice.fail = none

/-- What a sweep that got through its enumerations, and has read these mounts, did. -/
structure Sweep (r : Reconciler) (h : Host) (mounts : List Mount) (tm : Timers)
    (tr : List HostEv) (s : Swept) (tm' : Timers) : Prop where
  sessions : s.findings.map (·.session) = h.sessions.filter (portalOwned ·.portal r.ours)
  right : ∀ f ∈ s.findings, f.Right h (mounts.map (·.source))
  asked : Asked r s.findings tr
  timers : ∀ iqn t, tm'.lookup iqn = some t → s.Idle h iqn ∧ ¬ Logs tr iqn ∧
    (tm.lookup iqn = some t ∨ tm.lookup iqn = none ∧ t = s.now)
  logouts : ∀ e ∈ tr, ∀ p iqn, e.call = .logout p iqn → s.Idle h iqn ∧
    (∃ first, tm.lookup iqn = some first ∧ r.grace ≤ timeSub s.now first) ∧
    ∃ f ∈ s.findings, normalizePortal f.session.portal = p

theorem calls_findings (r : Reconciler) (mounted : List String) (sessions : List Session) :
    (findings r mounted sessions).Calls fun c => c = .showPaths ∨ ∃ p, c = .evalSymlinks p := by
  have hany : ∀ cands, (anyMounted mounted cands).Calls
      fun c => c = .showPaths ∨ ∃ p, c = .evalSymlinks p :=
    fun cands => (calls_anyMounted mounted cands).mono fun c hc => .inr hc
  have hmap : ∀ device, (mapWWID device).run.Calls
      fun c => c = .showPaths ∨ ∃ p, c = .evalSymlinks p :=
    fun device => (calls_mapWWID device).mono fun c hc => .inl hc
  induction sessions with
  | nil => trivial
  | cons s rest ih =>
    rw [findings]
    split
    · refine Prog.Calls.bind ?_ fun found => Prog.Calls.bind ih fun fs => trivial
      unfold deviceMounted askMultipath
      split
      · trivial
      · split
        · exact Prog.Calls.bind (Prog.Calls.bind (hmap _) fun _ => trivial)
            fun answer => Prog.Calls.bind (hany _) fun _ => trivial
        · exact Prog.Calls.bind trivial fun answer => Prog.Calls.bind (hany _) fun _ => trivial
    · exact ih

theorem calls_settle (r : Reconciler) (now : Int) (targets : Map String TState)
    (order : List String) (tm : Timers) : (settle r now targets order tm).Calls fun c =>
      (∃ ks, c = .range ks) ∨
        ∃ p iqn t, c = .logout p iqn ∧ targets.lookup iqn = some t ∧ t.live = false := by
  induction order generalizing tm with
  | nil => trivial
  | cons iqn rest ih =>
    refine Prog.Calls.bind ?_ ih
    unfold settleIqn settleTarget
    split
    · next t ht =>
      split
      · trivial
      · next hlive =>
        split
        · trivial
        · split
          · trivial
          · refine Prog.calls_lift_bind (.inl ⟨_, rfl⟩) fun portals =>
              Prog.Calls.bind ?_ fun _ => trivial
            refine (calls_logoutPortals iqn portals).mono ?_
            rintro c ⟨p, -, rfl⟩
            exact .inr ⟨p, iqn, t, rfl, ht, eq_false_of_ne_true hlive⟩
    · trivial

theorem idle_of_describes {h : Host} {s : Swept} {iqn : String} {t : TState}
    (hd : Describes h.stagedIqns s.findings iqn (some t)) (hlive : t.live = false) :
    s.Idle h iqn := by
  obtain ⟨hpresent, hiff, -⟩ := hd
  rw [hlive] at hiff
  have hnot := mt hiff.2 (by simp)
  rw [not_or] at hnot
  refine ⟨hpresent, hnot.1, fun f hf hi => ?_⟩
  cases hm : f.mounted with
  | false => rfl
  | true => exact absurd ⟨f, hf, hi, hm⟩ hnot.2

theorem wp_sweepTables (r : Reconciler) (tm : Timers) (h : Host) (mounts : List Mount) :
    wp hostAct (sweepTables r tm h.sessions mounts) h fun tr out _ =>
      ∃ s, out.2 = some s ∧ Sweep r h mounts tm tr s out.1 := by
  refine wp_lift_bind.2 fun ch1 => ?_
  refine wp_bind.2 (wp_mono (wp_and (wp_findings _) (wp_of_calls (calls_findings _ _ _) _)) ?_)
  intro tr1 fs h1 hp
  obtain ⟨⟨-, hsessions, hright, hasked⟩, hcalls⟩ := hp
  refine wp_lift_bind.2 fun ch2 => wp_lift_bind.2 fun ch3 => ?_
  generalize hnow : (hostAct h1 .now ch2).1 = now
  have hstaged : (hostAct h .metaIqns ch1).1 = h.stagedIqns := rfl
  rw [hstaged]
  generalize htargets : targetsOf h.stagedIqns fs = targets
  have hdesc : ∀ iqn, Describes h.stagedIqns fs iqn (targets.lookup iqn) := fun iqn =>
    htargets ▸ targetsOf_describes h.stagedIqns fs iqn
  have hperm : (hostAct (hostAct h1 .now ch2).2 (.range targets.keys) ch3).1.Perm targets.keys :=
    shuffle_perm _ _
  have hnodup := hperm.nodup_iff.2 targets.keys_nodup
  refine wp_bind.2 (wp_mono (wp_and (wp_settle targets hnodup)
    (wp_of_calls (calls_settle _ _ _ _ _) _)) fun tr2 tm2 h2 hp => ?_)
  obtain ⟨⟨htm2, hlogs⟩, hsettle⟩ := hp
  -- the only logouts of a sweep are those of its last loop
  have hlast : ∀ {e1 e2 e3 e : HostEv} {p iqn : String}, e1.call = .metaIqns → e2.call = .now →
      e3.call = .range targets.keys → e.call = .logout p iqn →
      e ∈ e1 :: (tr1 ++ e2 :: e3 :: (tr2 ++ [])) → e ∈ tr2 := by
    intro e1 e2 e3 e p iqn h1 h2 h3 hc he
    simp only [List.mem_cons, List.mem_append, List.append_nil] at he
    rcases he with rfl | he | rfl | rfl | he
    · simp [h1] at hc
    · rcases hcalls e he with hc' | ⟨q, hc'⟩
      · simp [hc'] at hc
      · simp [hc'] at hc
    · simp [h2] at hc
    · simp [h3] at hc
    · exact he
  have hlog : ∀ e p iqn, e.call = .logout p iqn → e ∈ tr2 → ∃ t, targets.lookup iqn = some t ∧
      Due r now t (tm.lookup iqn) ∧ p ∈ t.portals := by
    intro e p iqn hc he
    exact (hlogs e he p iqn hc).2
  have hnone : queries tr2 = [] := by
    refine queries_eq_nil fun e he hc => ?_
    rcases hsettle e he with ⟨ks, hks⟩ | ⟨p, iqn, t, hlogout, -⟩
    · simp [hks] at hc
    · simp [hlogout] at hc
  refine ⟨⟨fs, now⟩, rfl, hsessions, fun f hf => ⟨(hright f hf).answer, (hright f hf).verdict⟩,
    ?_, ?_, ?_⟩
  · have hqueries : ∀ {e1 e2 e3 : HostEv}, e1.call = .metaIqns → e2.call = .now →
        e3.call = .range targets.keys →
        queries (e1 :: (tr1 ++ e2 :: e3 :: (tr2 ++ []))) = queries tr1 := by
      intro e1 e2 e3 h1 h2 h3
      have hrest : queries (e2 :: e3 :: tr2) = [] := by
        simpa [queries, h2, h3] using hnone
      rw [List.append_nil, ← List.singleton_append, queries_append, queries_append, hrest]
      simp [queries, h1]
    rw [Asked, hqueries rfl rfl rfl]
    exact hasked
  · intro iqn t ht
    have hin : iqn ∈ targets := by
      by_contra hin
      rw [lookup_forget, if_neg hin] at ht
      cases ht
    obtain ⟨st, hst⟩ := Option.isSome_iff_exists.1 (AList.lookup_isSome.2 hin)
    rw [lookup_forget, if_pos hin, htm2, if_pos (hperm.mem_iff.2 hin)] at ht
    simp only [settled, hst] at ht
    obtain ⟨hlive, htimer⟩ := timerAfter_eq_some ht
    have hd := hdesc iqn
    rw [hst] at hd
    refine ⟨idle_of_describes hd hlive, ?_, htimer⟩
    rintro ⟨e, he, p, hc⟩
    obtain ⟨st', hst', hdue, -⟩ := hlog e p iqn hc (hlast rfl rfl rfl hc he)
    rw [hst] at hst'
    cases hst'
    rw [timerAfter_of_due hdue] at ht
    cases ht
  · intro e he p iqn hc
    obtain ⟨st, hst, ⟨hlive, hfirst⟩, hp⟩ := hlog e p iqn hc (hlast rfl rfl rfl hc he)
    have hd := hdesc iqn
    rw [hst] at hd
    obtain ⟨f, hf, -, hfp⟩ := (hd.2.2 p).1 hp
    exact ⟨idle_of_describes hd hlive, hfirst, f, hf, hfp⟩

/-- A command of a sweep that has read these IQNs from the stage cache. -/
def AfterRead (cached : List String) : Cmd → Prop
  | .showPaths | .evalSymlinks _ | .now | .range _ => True
  | .logout _ iqn => iqn ∉ cached
  | _ => False

/-- After the cache is read, the sweep logs out no IQN that was in it. -/
theorem sweepTables_eq (r : Reconciler) (tm : Timers) (sessions : List Session)
    (mounts : List Mount) : ∃ rest,
      sweepTables r tm sessions mounts = Prog.lift Cmd.metaIqns >>= rest ∧
        ∀ cached, (rest cached).Calls (AfterRead cached) := by
  refine ⟨_, rfl, fun cached => Prog.Calls.bind ((calls_findings _ _ _).mono ?_) fun fs => ?_⟩
  · rintro c (rfl | ⟨p, rfl⟩)
    · trivial
    · trivial
  · refine Prog.calls_lift_bind trivial fun now => Prog.calls_lift_bind trivial fun order =>
      Prog.Calls.bind ((calls_settle _ _ _ _ _).mono ?_) fun _ => trivial
    rintro c (⟨ks, rfl⟩ | ⟨p, iqn, t, rfl, ht, hlive⟩)
    · trivial
    · have hdesc := targetsOf_describes cached fs iqn
      rw [ht] at hdesc
      intro hin
      rw [hdesc.2.1.2 (.inl hin)] at hlive
      cases hlive

theorem calls_sweepTables (r : Reconciler) (tm : Timers) (sessions : List Session)
    (mounts : List Mount) : (sweepTables r tm sessions mounts).Calls
      fun c => c ≠ .sessionList ∧ c ≠ .findmnt := by
  obtain ⟨rest, heq, hrest⟩ := sweepTables_eq r tm sessions mounts
  rw [heq]
  refine Prog.calls_lift_bind (by simp) fun cached => (hrest cached).mono fun c hc => ⟨?_, ?_⟩
  all_goals
    rintro rfl
    cases hc

/-- Commands before the sweep that log nothing out, and another time, make no difference. -/
theorem Sweep.after {h : Host} {mounts : List Mount} {t : Int} {tm tm' : Timers}
    {pre : List HostEv} {s : Swept} (hs : Sweep r { h with now := t } mounts tm tr s tm')
    (hq : Quiet pre) (hnone : queries pre = []) : Sweep r h mounts tm (pre ++ tr) s tm' where
  sessions := hs.sessions
  asked := by
    rw [Asked, queries_append, hnone]
    exact hs.asked
  right f hf := ⟨(hs.right f hf).answer, (hs.right f hf).verdict⟩
  timers iqn x hx := by
    obtain ⟨hidle, hlogs, htimer⟩ := hs.timers iqn x hx
    refine ⟨⟨hidle.present, hidle.notStaged, hidle.notMounted⟩, ?_, htimer⟩
    rintro ⟨e, he, p, hc⟩
    rcases List.mem_append.1 he with he | he
    · exact hq e he p iqn hc
    · exact hlogs ⟨e, he, p, hc⟩
  logouts e he p iqn hc := by
    rcases List.mem_append.1 he with he | he
    · exact absurd hc (hq e he p iqn)
    · obtain ⟨hidle, hfirst, hportal⟩ := hs.logouts e he p iqn hc
      exact ⟨⟨hidle.present, hidle.notStaged, hidle.notMounted⟩, hfirst, hportal⟩

/-- Every sweep fails an enumeration and changes nothing, or is a `Sweep` over the mounts it has
been shown. -/
theorem sweep_spec {tm tm' : Timers} {h h' : Host} {out : Option Swept}
    (hrun : Runs hostAct (sweep r tm) h tr (tm', out) h') :
    (out = none ∧ tm' = tm ∧ Quiet tr ∧ ¬ Enumerated tr) ∨
      ∃ s, out = some s ∧ Sweep r h (h.seen tr).mounts tm tr s tm' := by
  suffices hwp : wp hostAct (sweep r tm) h fun tr res _ =>
      (res.2 = none ∧ res.1 = tm ∧ Quiet tr ∧ ¬ Enumerated tr) ∨
        ∃ s, res.2 = some s ∧ Sweep r h (h.seen tr).mounts tm tr s res.1 from
    wp_iff.1 hwp tr (tm', out) h' hrun
  refine wp_bind.2 (wp_mono (wp_listSessions h) fun tr1 res1 h1 hp => ?_)
  obtain ⟨⟨t1, rfl⟩, e1, rfl, hc1, ⟨hf1, rfl⟩ | ⟨hf1, msg, rfl⟩⟩ := hp
  · refine wp_bind.2 (wp_mono (wp_listMounts _) fun tr2 res2 h2 hp => ?_)
    obtain ⟨⟨t2, rfl⟩, e2, rfl, hc2, hres⟩ := hp
    have hquiet : Quiet ([e1] ++ [e2]) := by
      intro e he p iqn hc
      simp only [List.cons_append, List.nil_append, List.mem_cons, List.not_mem_nil,
        or_false] at he
      rcases he with rfl | rfl
      · simp [hc1] at hc
      · simp [hc2] at hc
    rcases hres with rfl | ⟨hf2, msg, rfl⟩
    · refine wp_mono (wp_and (wp_sweepTables r tm { h with now := t2 } _)
        (wp_of_calls (calls_sweepTables r tm _ _) _)) fun tr3 out h3 hp => .inr ?_
      obtain ⟨⟨s, hout, hsweep⟩, hcalls⟩ := hp
      have hseen : (h.seen ([e1] ++ [e2] ++ tr3)).mounts =
          (Host.seen { h with now := t1 } [e2]).mounts := by
        rw [h.seen_append fun e he => (hcalls e he).2]
        simp only [Host.seen, List.cons_append, List.nil_append, List.forall_mem_cons, hc1,
          reduceCtorEq, false_implies, true_and, apply_ite Host.mounts]
      refine ⟨s, hout, ?_⟩
      rw [← List.append_assoc, hseen]
      exact hsweep.after hquiet (by simp [queries, hc1, hc2])
    · exact .inl ⟨rfl, rfl, hquiet, fun henum => hf2 (henum e2 (by simp) (.inr hc2))⟩
  · refine .inl ⟨rfl, rfl, ?_, fun henum => hf1 (henum e1 (by simp) (.inl hc1))⟩
    intro e he p iqn hc
    rw [List.append_nil, List.mem_singleton] at he
    simp [he, hc1] at hc

end NomadCsi.Qnap
