import NomadCsi.Local.Idempotent

/-!
# Auto placement

`pickRoomiest` asks every peer for its stats and skips those that fail to answer. A run of
it is a walk over the answers (`runs_pickLoop`).
-/

namespace NomadCsi.Local

open Lib Lib.Go Driver Zfs

/-- The answers that the peers gave in a run, one after the other. -/
def AnsweredBy (c : Controller) (pool : String) (w : Cluster) :
    Answers → List ClusterEv → Prop
  | [], tr => tr = []
  | a :: as, tr => ∃ tr1 tr2, tr = tr1 ++ tr2 ∧
      Runs clusterAct (statsFor c a.1 pool).run w tr1 a.2 w ∧ AnsweredBy c pool w as tr2

variable {tr : List ClusterEv}

section

variable {c : Controller} {pool : String} {size : Int} {w w' : Cluster}

theorem runs_pickLoop {peers : List String} {b : Best} {r : Except Error Best}
    (h : Runs clusterAct (pickLoop c pool size peers b).run w tr r w') :
    ∃ answers : Answers, answers.map Prod.fst = peers ∧ AnsweredBy c pool w answers tr ∧
      r = .ok (pick size answers b) := by
  induction peers generalizing b tr with
  | nil =>
    obtain ⟨rfl, rfl, -⟩ := runs_ret.1 h
    exact ⟨[], rfl, rfl, rfl⟩
  | cons p ps ih =>
    obtain ⟨e, -, herr⟩ | ⟨tr1, a, w1, tr2, rfl, h1, h2⟩ := runs_run_bind.1 h
    · obtain ⟨_, he, -⟩ := runs_attempt.1 herr
      cases he
    · obtain ⟨_, ha, h1⟩ := runs_attempt.1 h1
      cases ha
      obtain rfl := unchanged_of_reads (calls_statsFor c p pool) h1
      obtain ⟨answers, rfl, hans, hr⟩ := ih h2
      exact ⟨(p, a) :: answers, rfl, ⟨tr1, tr2, rfl, h1, hans⟩, hr⟩

theorem AnsweredBy.mem {answers : Answers} (h : AnsweredBy c pool w answers tr)
    {a : String × Except Error StatsResult} (ha : a ∈ answers) :
    ∃ tr', Runs clusterAct (statsFor c a.1 pool).run w tr' a.2 w := by
  induction answers generalizing tr with
  | nil => cases ha
  | cons x xs ih =>
    obtain ⟨tr1, tr2, -, hx, hxs⟩ := h
    rcases List.mem_cons.1 ha with rfl | ha
    · exact ⟨tr1, hx⟩
    · exact ih hxs ha

theorem yields_localStats {s : Store} : Yields zfsAct (localStats c pool) s fun st s' =>
    s' = s ∧ (st.hasPool = true → ∃ p, s.pool? pool = some p ∧
      st.availBytes = max (overReserve c.cfg pool p.available p.size) 0) := by
  refine Ends.bind (yields_poolReady pool) ?_
  rintro (_ | _) s' ⟨rfl, -⟩
  · exact Ends.pure ⟨rfl, fun h => absurd h Bool.false_ne_true⟩
  · refine Ends.bind (Ends.onError (yields_listZvols _)) ?_
    rintro vols s ⟨rfl, -⟩
    refine Ends.bind (Q := fun _ s' => s' = s) (Ends.onError (ends_outcome (fun _ => trivial)
      fun _ _ h => (Prod.mk.inj h).2.symm)) ?_
    rintro free s rfl
    refine Ends.bind (Ends.onError (ends_outcome (fun _ => trivial) fun _ _ h =>
      serve_found rfl h)) ?_
    rintro _ s ⟨rfl, p, hp, rfl⟩
    refine Ends.bind (Ends.onError (ends_outcome (fun _ => trivial) fun _ _ h =>
      serve_found rfl h)) ?_
    rintro _ s ⟨rfl, p', hp', rfl⟩
    obtain rfl : p = p' := Option.some.inj (hp.symm.trans hp')
    exact Ends.pure ⟨rfl, fun _ => ⟨p, hp, rfl⟩⟩

theorem reported_of_runs {node : String} {st : StatsResult}
    (h : Runs clusterAct (statsFor c node pool).run w tr (.ok st) w') (hpool : st.hasPool = true) :
    ∃ p, (w.zfs node).pool? pool = some p ∧
      st.availBytes = max (overReserve c.cfg pool p.available p.size) 0 := by
  obtain ⟨-, s, -, -, hst⟩ := ((yields_runOn yields_localStats).runs h).2
  exact hst hpool

theorem wp_checkCapacity {s : Store} {p : Zfs.Pool} (hp : s.pool? pool = some p)
    (hroom : size ≤ overReserve c.cfg pool p.available p.size) :
    wp zfsAct (checkCapacity c pool size).run s fun tr r _ => Unfailing tr → r = .ok () := by
  unfold checkCapacity
  refine wp_served (fun _ _ h => absurd h (not_unfailing_of_error (.head _))) ?_
  intro _ _ s1 hserve
  obtain ⟨rfl, p', hp', rfl⟩ := serve_found rfl hserve
  obtain rfl : p = p' := Option.some.inj (hp.symm.trans hp')
  refine wp_served (fun _ _ h => absurd h (not_unfailing_of_error (.tail _ (.head _)))) ?_
  intro _ _ s2 hserve
  obtain ⟨rfl, p', hp', rfl⟩ := serve_found rfl hserve
  obtain rfl : p = p' := Option.some.inj (hp.symm.trans hp')
  dsimp only
  rw [if_neg (Int.not_lt.2 hroom)]
  exact fun _ => rfl

/-- What a peer reports is clamped at zero and its capacity check is not: for a positive size
they agree. -/
theorem passes_of_reported {s : Store} {p : Zfs.Pool} (hsize : 0 < size)
    (hp : s.pool? pool = some p)
    (hroom : size ≤ max (overReserve c.cfg pool p.available p.size) 0)
    {tr : List ZfsEv} {r : Except Error Unit} {s' : Store}
    (h : Runs zfsAct (checkCapacity c pool size).run s tr r s') (hok : Unfailing tr) :
    r = .ok () :=
  wp_iff.1 (wp_checkCapacity hp (by omega)) tr r s' h hok

theorem wp_listPeers : wp clusterAct listPeers.run w fun tr r w' =>
    (∀ e ∈ tr, e.call = .peers → e.choice.fail = none) →
      r = .ok w.roster ∧ w' = w ∧ ∃ e, tr = [e] := by
  rintro ⟨_ | e⟩
  · exact fun _ => ⟨rfl, rfl, _, rfl⟩
  · exact fun hpeers => absurd (hpeers _ List.mem_cons_self rfl) (Option.some_ne_none e)

theorem runs_pickRoomiest {r : Except Error String}
    (hpeers : ∀ e ∈ tr, e.call = .peers → e.choice.fail = none)
    (hrun : Runs clusterAct (pickRoomiest c pool size).run w tr r w') :
    ∃ answers : Answers, answers.map Prod.fst = w.roster ∧
      (∃ e tr', tr = e :: tr' ∧ AnsweredBy c pool w answers tr') ∧
      ((pick size answers .start).node ≠ "" ∧ r = .ok (pick size answers .start).node ∨
        (pick size answers .start).node = "" ∧ ∃ e, r = .error e ∧ e.code = .unavailable) := by
  obtain ⟨e, rfl, herr⟩ | ⟨tr1, peers, w1, tr2, rfl, hlist, h⟩ := runs_run_bind.1 hrun
  · cases (wp_iff.1 wp_listPeers _ _ _ herr hpeers).1
  obtain ⟨hr, hw, e, rfl⟩ := wp_iff.1 wp_listPeers _ _ _ hlist fun e he =>
    hpeers e (List.mem_append_left _ he)
  cases hr
  subst hw
  by_cases hnil : w1.roster = []
  · rw [if_pos hnil] at h
    obtain ⟨rfl, rfl, rfl⟩ := runs_ret.1 h
    exact ⟨[], hnil.symm, ⟨e, [], rfl, rfl⟩, .inr ⟨rfl, _, rfl, rfl⟩⟩
  rw [if_neg hnil] at h
  obtain ⟨e', rfl, herr⟩ | ⟨tr1, best, w2, tr3, rfl, hloop, h⟩ := runs_run_bind.1 h
  · obtain ⟨answers, -, -, hr⟩ := runs_pickLoop herr
    cases hr
  obtain ⟨answers, hroster, hans, hr⟩ := runs_pickLoop hloop
  cases hr
  by_cases hempty : (pick size answers .start).node = ""
  · rw [if_pos hempty] at h
    obtain ⟨rfl, rfl, rfl⟩ := runs_ret.1 h
    exact ⟨answers, hroster, ⟨e, _, rfl, (List.append_nil tr1).symm ▸ hans⟩,
      .inr ⟨hempty, _, rfl, rfl⟩⟩
  · rw [if_neg hempty] at h
    obtain ⟨rfl, rfl, rfl⟩ := runs_ret.1 h
    exact ⟨answers, hroster, ⟨e, _, rfl, (List.append_nil tr1).symm ▸ hans⟩,
      .inl ⟨hempty, rfl⟩⟩

end

/-- Auto placement returns the first of the peers that answered, have the pool and have room, in
whatever order the peers were asked, and Unavailable exactly if there is none; the peer it
returns passes its own capacity check, under the same configuration, while its pool is as it was. -/
theorem pickRoomiest_first {c : Controller} {pool : String} {size : Int} {w w' : Cluster}
    {tr : List ClusterEv} {r : Except Error String} (hsize : 0 < size)
    (hnames : "" ∉ w.roster) (hpeers : ∀ e ∈ tr, e.call = .peers → e.choice.fail = none)
    (hrun : Runs clusterAct (pickRoomiest c pool size).run w tr r w') :
    ∃ answers : Answers, answers.map Prod.fst = w.roster ∧
      (∃ e tr', tr = e :: tr' ∧ AnsweredBy c pool w answers tr') ∧
      ((∃ node, r = .ok node ∧ First size answers node ∧
          (∀ answers' : Answers, answers'.Perm answers → ∀ m, First size answers' m → m = node) ∧
          ∀ s, s.pool? pool = (w.zfs node).pool? pool → ∀ tr' r' s',
            Runs zfsAct (checkCapacity { c with localNode := node } pool size).run s tr' r' s' →
            Unfailing tr' → r' = .ok ()) ∨
        (∃ e, r = .error e ∧ e.code = .unavailable) ∧ candidates size answers = []) := by
  obtain ⟨answers, hroster, ⟨e, tr', htr, hans⟩, hpick⟩ := runs_pickRoomiest hpeers hrun
  refine ⟨answers, hroster, ⟨e, tr', htr, hans⟩, ?_⟩
  have hbeats : ∀ x ∈ candidates size answers, -1 < x.avail := by
    intro x hx
    obtain ⟨st, -, -, hroom, hx⟩ := mem_candidates.1 hx
    have havail : x.avail = st.availBytes := congrArg Best.avail hx
    omega
  rcases pick_cases hbeats with ⟨hnone, hstart⟩ | ⟨hmem, hbest⟩
  · refine .inr ⟨?_, hnone⟩
    rcases hpick with ⟨hne, -⟩ | ⟨-, herr⟩
    · exact absurd (congrArg Best.node hstart) hne
    · exact herr
  · obtain ⟨st, hst, hpool, hroom, -⟩ := mem_candidates.1 hmem
    have hnode : (pick size answers .start).node ∈ w.roster :=
      hroster ▸ List.mem_map_of_mem (f := Prod.fst) hst
    rcases hpick with ⟨-, rfl⟩ | ⟨hempty, -⟩
    · have hfirst : First size answers (pick size answers .start).node :=
        ⟨_, hmem, rfl, hbest⟩
      refine .inl ⟨_, rfl, hfirst, fun answers' hperm m hm => hfirst.unique hperm hm, ?_⟩
      intro s hs tr' r' s' hcheck hok
      obtain ⟨_, hstats⟩ := hans.mem hst
      obtain ⟨p, hp, havail⟩ := reported_of_runs hstats hpool
      exact passes_of_reported hsize (hs.trans hp) (havail ▸ hroom) hcheck hok
    · exact absurd (hempty ▸ hnode) hnames

theorem pickRoomiest_first_tank :
    "" ∉ (tankCluster 90000 30000).roster ∧
    ∃ answers : Answers, answers.map Prod.fst = ["a", "b"] ∧ First 16384 answers "a" := by
  have hnames : "" ∉ (tankCluster 90000 30000).roster := by decide
  refine ⟨hnames, ?_⟩
  obtain ⟨tr, hall, hrun⟩ := runs_eval clusterAct {}
    (pickRoomiest (tankController "b") "tank" 16384).run (tankCluster 90000 30000)
  have hres : (eval clusterAct {} (pickRoomiest (tankController "b") "tank" 16384).run
      (tankCluster 90000 30000)).1 = .ok "a" := by decide
  rw [hres] at hrun
  obtain ⟨answers, hroster, -, ⟨node, hnode, hfirst, -⟩ | ⟨⟨e, he, -⟩, -⟩⟩ :=
    pickRoomiest_first (by decide) hnames (fun e he _ => congrArg Fault.fail (hall e he)) hrun
  · cases hnode
    exact ⟨answers, hroster, hfirst⟩
  · cases he

end NomadCsi.Local
