import NomadCsi.Qnap.Logic

/-!
# Deleting a volume

DeleteVolume issues no call that creates a LUN, so over any of its runs the LUN it was
given is still there at the end exactly if it was there at the start and no `DeleteLUN`
reached the appliance (`carries_iff_of_runs`). It answers every failed `GetLUN` as
"already gone", and it releases a target of its own on the strength of the alias alone: what
else the target maps is never looked at.
-/

namespace NomadCsi.Qnap

open Lib Lib.Go Driver

namespace Ev

def Is (e : Ev) (c : SanCall) : Prop := ∃ sess, e.call = .san sess c

def Reached (e : Ev) : Prop := ∃ sess c, e.call = .san sess c ∧ Served e.pre sess e.choice

instance (e : Ev) (c : SanCall) : Decidable (e.Is c) :=
  decidable_of_iff (e.call.client.map (·.2) = some c) (by
    unfold Is
    cases e.call <;> simp [Call.client])

instance (e : Ev) : Decidable e.Reached :=
  decidable_of_iff (∃ p ∈ e.call.client, Served e.pre p.1 e.choice) (by
    unfold Reached
    cases e.call <;> simp [Call.client])

def answered : Ev → Bool
  | ⟨_, .san _ _, _, .ok _⟩ => true
  | _ => false

end Ev

def NoNewLUN : Call → Prop
  | .san _ c => c.newLUN = none
  | _ => True

variable {i : Int} {w : World}

/-- One call that creates no LUN: a name is there afterwards if it was there and the call
was not a `DeleteLUN` that got through. -/
theorem carries_act {c : Call} {ch : Choice} {name : String} (hc : NoNewLUN c) :
    (act w c ch).2.san.Carries i name ↔
      w.san.Carries i name ∧ ¬ ∃ sess, c = .san sess (.deleteLUN i) ∧ Served w sess ch := by
  rcases act_cases w c ch with ⟨hs, hn⟩ | ⟨sess, k, v, rfl, hsv, hv⟩
  · rw [hs]
    refine ⟨fun h => ⟨h, ?_⟩, And.left⟩
    rintro ⟨sess, rfl, hsv⟩
    have hn := hn sess _ rfl hsv
    simp [San.serve, h.mem] at hn
  · have he := San.serve_effect hv
    constructor
    · intro h
      refine ⟨he.carries_of_carries hc h, ?_⟩
      rintro ⟨_, hk, -⟩
      cases hk
      generalize (act w _ ch).2.san = s' at he h
      cases he with
      | read _ hr => cases hr
      | dropLUN _ _ => simp [San.Carries] at h
    · rintro ⟨h, hd⟩
      refine he.carries (fun hk => hd ⟨sess, by rw [hk], hsv⟩) h

variable {tr : List Ev}

theorem carries_iff_of_runs {α : Type} {p : Prog Call Call.Reply α} {w' : World} {a : α}
    {name : String} (h : Runs act p w tr a w') (hp : p.Calls NoNewLUN) : w'.san.Carries i name ↔
      w.san.Carries i name ∧ ∀ e ∈ tr, ¬ (e.Is (.deleteLUN i) ∧ e.Reached) := by
  induction p generalizing w tr with
  | ret x =>
    obtain ⟨rfl, -, rfl⟩ := runs_ret.1 h
    simp
  | call c k ih =>
    obtain ⟨ch, t, rfl, hk⟩ := runs_call.1 h
    rw [ih _ hk (hp.2 _), carries_act hp.1, List.forall_mem_cons, and_assoc]
    refine and_congr_right fun _ => and_congr_left fun _ => not_congr ?_
    constructor
    · rintro ⟨sess, rfl, hs⟩
      exact ⟨⟨sess, rfl⟩, sess, _, rfl, hs⟩
    · rintro ⟨⟨sess, rfl⟩, _, _, ⟨⟩, hs⟩
      exact ⟨sess, rfl, hs⟩

/-! ## What DeleteVolume issues -/

def deleteCalls (eid : ExternalID) : List SanCall :=
  [.getLUN eid.lunIndex, .listSnapshots eid.lunIndex, .unmapLUN eid.lunIndex eid.targetIndex,
    .deleteLUN eid.lunIndex, .waitForLUNGone eid.lunIndex, .getTarget eid.targetIndex,
    .deleteTarget eid.targetIndex]

/-- The calls of a run whose client calls are among `l`. -/
def Among (l : List SanCall) : Call → Prop
  | .san _ c => c ∈ l
  | _ => True

variable {K : Call → Prop}

theorem calls_targetIsOurs (sess t : Int) (name : String) (h : K (.san sess (.getTarget t))) :
    (targetIsOurs sess t name).run.Calls K := by
  unfold targetIsOurs
  split
  · trivial
  · refine calls_run_bind (calls_attempt (calls_san h)) fun r => ?_
    cases r <;> trivial

theorem calls_releaseTarget (eid : ExternalID) (sess : Int)
    (hget : K (.san sess (.getTarget eid.targetIndex)))
    (hdel : K (.san sess (.deleteTarget eid.targetIndex))) :
    (releaseTarget eid sess).run.Calls K := by
  unfold releaseTarget
  split
  · refine calls_run_bind (calls_targetIsOurs _ _ _ hget) fun ours => ?_
    split
    · exact calls_run_bind (calls_attempt (calls_san hdel)) fun _ => trivial
    · trivial
  · trivial

theorem calls_lunGone (sess i : Int) (h : K (.san sess (.getLUN i))) :
    (lunGone sess i).run.Calls K := by
  refine calls_run_bind (calls_attempt (calls_san h)) fun r => ?_
  cases r <;> trivial

theorem calls_confirmGone (sess i : Int) (r : Except Err Unit) (hget : K (.san sess (.getLUN i)))
    (hwait : K (.san sess (.waitForLUNGone i))) : (confirmGone sess i r).run.Calls K := by
  cases r with
  | error e =>
    refine calls_run_bind (calls_lunGone _ _ hget) fun gone => ?_
    split <;> trivial
  | ok _ => exact calls_onError (calls_san hwait)

section

variable {K : Call → Prop} {eid : ExternalID} {sess : Int}

theorem calls_destroyLUN (volumeID : String) (h : ∀ c ∈ deleteCalls eid, K (.san sess c)) :
    (destroyLUN volumeID eid sess).run.Calls K := by
  have among : ∀ c ∈ deleteCalls eid, (san sess c).run.Calls K := fun c hc => calls_san (h c hc)
  refine calls_run_bind (calls_onError (among _ (by simp [deleteCalls]))) fun snaps => ?_
  split
  · trivial
  · refine calls_run_bind (calls_attempt (among _ (by simp [deleteCalls]))) fun _ => ?_
    refine calls_run_bind (calls_attempt (among _ (by simp [deleteCalls]))) fun r => ?_
    exact calls_confirmGone _ _ _ (h _ (by simp [deleteCalls])) (h _ (by simp [deleteCalls]))

theorem calls_deleteUnder (volumeID : String) (h : ∀ c ∈ deleteCalls eid, K (.san sess c)) :
    (deleteUnder volumeID eid sess).run.Calls K := by
  have hrel : (releaseTarget eid sess).run.Calls K :=
    calls_releaseTarget _ _ (h _ (by simp [deleteCalls])) (h _ (by simp [deleteCalls]))
  refine calls_run_bind (calls_attempt (calls_san (h _ (by simp [deleteCalls])))) fun r => ?_
  cases r with
  | error e => exact hrel
  | ok lun =>
    dsimp only
    split
    · exact hrel
    · split
      · exact hrel
      · exact calls_run_bind (calls_destroyLUN _ h) fun _ => hrel

end

variable {eid : ExternalID} {volumeID : String}

theorem calls_deleteVolume (hid : parseExternalID volumeID = .ok eid) :
    (deleteVolume volumeID).run.Calls (Among (deleteCalls eid)) := by
  unfold deleteVolume
  rw [hid, check_ok_bind]
  refine calls_run_bind (calls_attempt (calls_smDo trivial trivial fun sess => ?_)) fun r => ?_
  · exact calls_deleteUnder _ fun _ hc => hc
  · exact calls_run_bind ⟨trivial, fun _ => trivial⟩ fun _ => trivial

theorem noNewLUN_of_among {c : Call} (h : Among (deleteCalls eid) c) : NoNewLUN c := by
  cases c with
  | san sess c =>
    simp only [Among, deleteCalls, List.mem_cons, List.not_mem_nil, or_false] at h
    rcases h with rfl | rfl | rfl | rfl | rfl | rfl | rfl <;> rfl
  | _ => trivial

variable {s : San}

/-- DeleteVolume as a whole, from its two parts: what destroying the LUN, once `GetLUN` has
returned the id's name, and releasing the target do and keep. -/
theorem does_deleteVolume_by {E : SanCall → San → Prop} {I : San → Prop} {k : LunCache}
    (hid : parseExternalID volumeID = .ok eid) (hI : I s)
    (hget : ∀ s, I s → E (.getLUN eid.lunIndex) s) (hdestroy : ∀ sess s k, I s → (eid.lunName ≠ "" →
      s.Carries eid.lunIndex eid.lunName) → Does E (destroyLUN volumeID eid sess) s k (fun _ s _ =>
      I s) fun _ s _ => I s) (hrelease : ∀ sess s k, I s → Does E (releaseTarget eid sess) s k (fun
      _ _ _ => True) fun _ s _ => I s) :
    Does E (deleteVolume volumeID) s k (fun _ _ _ => True) fun _ _ _ => True := by
  unfold deleteVolume
  rw [hid, check_ok_bind]
  refine .bind (Q := fun _ _ _ => True) (.attempt ?_) fun r _ _ _ => ?_
  · refine .smDo (fun s _ => I s) hI (fun sess s k hI => ?_) fun _ _ _ _ => trivial
    refine .mono (P := fun _ _ _ => True) (Y := fun _ s _ => I s) ?_ (fun _ _ _ h => h)
      fun _ _ _ h => ⟨h, trivial⟩
    refine .bind (Q := fun r s' _ => s' = s ∧ ∀ lun, r = .ok lun → lun.name ≠ "" →
      s.Carries eid.lunIndex lun.name) (.attempt ?_) ?_
    · refine .read rfl (hget s hI) (fun _ => ⟨rfl, nofun⟩) fun ch lun hs => ⟨rfl, ?_⟩
      rintro _ ⟨⟩ hne
      exact San.carries_of_getLUN hs hne
    · rintro (e | lun) s k ⟨rfl, hlun⟩
      · exact hrelease sess s k hI
      · dsimp only
        split
        · exact hrelease sess s k hI
        · next hne =>
          split
          · exact hrelease sess s k hI
          · next hsame =>
            refine .bind (hdestroy sess s k hI fun hname => ?_) fun _ s k h => hrelease sess s k h
            have heq : lun.name = eid.lunName := not_not.1 fun h => hsame ⟨hname, h⟩
            exact heq ▸ hlun lun rfl hne
  · refine .bind (Q := fun _ _ _ => True) (.cacheRemove fun _ => trivial) fun _ _ _ _ => ?_
    cases r with
    | ok _ => exact .pure trivial
    | error e => exact .throw trivial

/-! ## A nil result -/

def Never (i : Int) (tr : List Ev) : Prop := ∀ e ∈ tr, ¬ e.Is (.deleteLUN i)

def Once (i : Int) (tr : List Ev) : Prop :=
  ∃ d ∈ tr, d.Is (.deleteLUN i) ∧ ∀ e ∈ tr, e.Is (.deleteLUN i) → e = d

variable {tr' : List Ev}

theorem Never.append (h : Never i tr) (h' : Never i tr') : Never i (tr ++ tr') := by
  intro e he
  rcases List.mem_append.1 he with he | he
  · exact h e he
  · exact h' e he

theorem Once.after (h' : Once i tr') (h : Never i tr) : Once i (tr ++ tr') := by
  obtain ⟨d, hd, hdel, huniq⟩ := h'
  refine ⟨d, List.mem_append_right _ hd, hdel, fun e he hc => ?_⟩
  rcases List.mem_append.1 he with he | he
  · exact absurd hc (h e he)
  · exact huniq e he hc

theorem Once.before (h : Once i tr) (h' : Never i tr') : Once i (tr ++ tr') := by
  obtain ⟨d, hd, hdel, huniq⟩ := h
  refine ⟨d, List.mem_append_left _ hd, hdel, fun e he hc => ?_⟩
  rcases List.mem_append.1 he with he | he
  · exact huniq e he hc
  · exact absurd hc (h' e he)

def NotDelete (i : Int) (c : Call) : Prop := ∀ sess, c ≠ .san sess (.deleteLUN i)

theorem never_of_notDelete (h : ∀ e ∈ tr, NotDelete i e.call) : Never i tr := by
  rintro e he ⟨sess, hc⟩
  exact h e he sess hc

variable {c : SanCall}

theorem never_sanEv {sess : Int} {ch : Choice} (hc : c ≠ .deleteLUN i) :
    Never i [sanEv w sess c ch] := by
  rintro e he ⟨sess', h⟩
  rw [List.mem_singleton.1 he] at h
  cases h
  exact hc rfl

theorem releaseTarget_ok (eid : ExternalID) (sess : Int) (w : World) :
    wp act (releaseTarget eid sess).run w fun _ r _ => r = .ok () := by
  have hatt : ∀ (c : SanCall) (w : World) {P : List Ev → Except Err (Except Err c.Val) → World → Prop},
      (∀ tr r w', P tr (.ok r) w') → wp act (attempt (san sess c)).run w P :=
    fun c w P h => wp_attempt.2 (wp_san.2 fun ch => h _ _ _)
  unfold releaseTarget targetIsOurs
  split
  · refine wp_run_bind.2 ?_
    split
    · rfl
    · refine wp_run_bind.2 (hatt _ _ fun tr r w' => ?_)
      cases r with
      | error e => rfl
      | ok tgt =>
        change wp act (if _ then _ else _ : Op Unit).run w' _
        split
        · exact wp_run_bind.2 (hatt _ _ fun _ _ _ => rfl)
        · rfl
  · rfl

theorem wp_releaseTarget (eid : ExternalID) (sess : Int) (w : World) :
    wp act (releaseTarget eid sess).run w fun (tr : List Ev) r _ => r = .ok () ∧
      Never eid.lunIndex tr ∧ ∀ e ∈ tr, ¬ e.Is (.getLUN eid.lunIndex) := by
  have hcalls : (releaseTarget eid sess).run.Calls fun c =>
      NotDelete eid.lunIndex c ∧ ∀ sess, c ≠ .san sess (.getLUN eid.lunIndex) :=
    calls_releaseTarget _ _ ⟨nofun, nofun⟩ ⟨nofun, nofun⟩
  refine wp_mono (wp_and (releaseTarget_ok eid sess w) (wp_of_calls hcalls w)) ?_
  rintro tr r w' ⟨hr, h⟩
  refine ⟨hr, never_of_notDelete fun e he => (h e he).1, ?_⟩
  rintro e he ⟨sess, hc⟩
  exact (h e he).2 sess hc

theorem isAuthError_confirmGone (sess i : Int) (r : Except Err Unit) (w : World) :
    wp act (confirmGone sess i r).run w fun _ r _ => ∀ e, r = .error e → isAuthError e = false := by
  cases r with
  | error e =>
    refine wp_run_bind.2 (wp_run_bind.2 (wp_attempt.2 (wp_san.2 fun ch => ?_)))
    have hgone : ∀ b : Bool, wp act
        (if b then pure () else throw (mapQNAPError "DeleteLUN" e) : Op Unit).run
        (sanNext w sess (.getLUN i) ch)
        fun _ r _ => ∀ e, r = .error e → isAuthError e = false := by
      rintro (_ | _)
      · rintro _ ⟨⟩
        simp
      · exact nofun
    cases (sanAct w sess (.getLUN i) ch).1 with
    | error e' => exact hgone true
    | ok lun => exact hgone _
  | ok _ =>
    refine wp_onError.2 (wp_san.2 fun ch => ?_)
    cases (sanAct w sess (.waitForLUNGone i) ch).1 with
    | error e =>
      rintro _ ⟨⟩
      simp
    | ok _ => exact nofun

theorem wp_destroyLUN (volumeID : String) (eid : ExternalID) (sess : Int) (w : World) :
    wp act (destroyLUN volumeID eid sess).run w fun tr r _ =>
      (∀ e, r = .error e → isAuthError e = false) ∧
        (Never eid.lunIndex tr ∧ r ≠ .ok () ∨ Once eid.lunIndex tr) := by
  refine wp_run_bind.2 (wp_onError.2 (wp_san.2 fun ch1 => ?_))
  have h1 : Never eid.lunIndex [sanEv w sess (.listSnapshots eid.lunIndex) ch1] :=
    never_sanEv nofun
  cases (sanAct w sess (.listSnapshots eid.lunIndex) ch1).1 with
  | error e => exact ⟨by rintro _ ⟨⟩; simp, .inl ⟨h1, nofun⟩⟩
  | ok snaps =>
    dsimp only [Except.mapError]
    split
    · exact ⟨by rintro _ ⟨⟩; rfl, .inl ⟨h1, nofun⟩⟩
    · refine wp_run_bind.2 (wp_attempt.2 (wp_san.2 fun ch2 => ?_))
      refine wp_run_bind.2 (wp_attempt.2 (wp_san.2 fun ch3 => ?_))
      have hcalls : ∀ r, (confirmGone sess eid.lunIndex r).run.Calls (NotDelete eid.lunIndex) :=
        fun r => calls_confirmGone _ _ r nofun nofun
      refine wp_mono (wp_and (isAuthError_confirmGone ..) (wp_of_calls (hcalls _) _)) ?_
      rintro tr r w' ⟨hauth, hnever⟩
      refine ⟨hauth, .inr ?_⟩
      have h2 : Never eid.lunIndex [sanEv (sanNext w sess (.listSnapshots eid.lunIndex) ch1) sess
          (.unmapLUN eid.lunIndex eid.targetIndex) ch2] := never_sanEv nofun
      have honce : Once eid.lunIndex [sanEv (sanNext (sanNext w sess
          (.listSnapshots eid.lunIndex) ch1) sess (.unmapLUN eid.lunIndex eid.targetIndex) ch2)
          sess (.deleteLUN eid.lunIndex) ch3] :=
        ⟨_, List.mem_singleton_self _, ⟨sess, rfl⟩, fun e he _ => List.mem_singleton.1 he⟩
      exact ((honce.before (never_of_notDelete hnever)).after h2).after h1

/-- How far DeleteVolume got: it never issued a `DeleteLUN`, and then a nil result over a LUN
that was there means that no `GetLUN` was answered; or it issued one, after an answer. -/
def Shape (eid : ExternalID) (s : San) (tr : List Ev) (r : Except Err Unit) : Prop :=
  Never eid.lunIndex tr ∧ (r = .ok () → s.Carries eid.lunIndex eid.lunName →
      ∀ e ∈ tr, e.Is (.getLUN eid.lunIndex) → e.answered = false) ∨
    Once eid.lunIndex tr ∧ ∃ e ∈ tr, e.Is (.getLUN eid.lunIndex) ∧ e.answered = true

theorem Shape.around {tr'' : List Ev} {r : Except Err Unit} (h : Shape eid s tr' r)
    (hn : Never eid.lunIndex tr) (hn' : Never eid.lunIndex tr'')
    (hg : ∀ e ∈ tr ++ tr'', ¬ e.Is (.getLUN eid.lunIndex)) :
    Shape eid s (tr ++ (tr' ++ tr'')) r := by
  rcases h with ⟨hnever, himp⟩ | ⟨honce, e, he, hget⟩
  · refine .inl ⟨hn.append (hnever.append hn'), fun hr hc e he hget => ?_⟩
    rcases List.mem_append.1 he with he | he
    · exact absurd hget (hg e (List.mem_append_left _ he))
    · rcases List.mem_append.1 he with he | he
      · exact himp hr hc e he hget
      · exact absurd hget (hg e (List.mem_append_right _ he))
  · exact .inr ⟨(honce.before hn').after hn, e, by simp [he], hget⟩

theorem answered_sanEv (w : World) (sess : Int) (c : SanCall) (ch : Choice) :
    (sanEv w sess c ch).answered = (sanAct w sess c ch).1.isOk := by
  unfold sanEv Ev.answered
  cases (sanAct w sess c ch).1 <;> rfl

theorem wp_destroy_release {sess : Int} {first : Ev} (h1 : Never eid.lunIndex [first])
    (hget : first.Is (.getLUN eid.lunIndex)) (hans : first.answered = true) :
    wp act (destroyLUN volumeID eid sess >>= fun _ => releaseTarget eid sess).run w fun tr r _ =>
      (∀ e, r = .error e → isAuthError e = false) ∧ Shape eid s ([first] ++ tr) r := by
  refine wp_run_bind.2 (wp_mono (wp_destroyLUN volumeID eid sess w) ?_)
  rintro tr (e | _) w' ⟨hauth, ⟨hnever, hne⟩ | honce⟩
  · exact ⟨hauth, .inl ⟨h1.append hnever, nofun⟩⟩
  · exact ⟨hauth, .inr ⟨honce.after h1, first, .head _, hget, hans⟩⟩
  · exact absurd rfl hne
  · refine wp_mono (wp_releaseTarget eid sess w') ?_
    rintro tr' r w'' ⟨rfl, hnever, -⟩
    exact ⟨nofun, .inr ⟨(honce.before hnever).after h1, first, .head _, hget, hans⟩⟩

theorem wp_deleteUnder (volumeID : String) (hname : eid.lunName ≠ "") (sess : Int) (w : World) :
    wp act (deleteUnder volumeID eid sess).run w fun tr r _ =>
      (∀ e, r = .error e → isAuthError e = false) ∧ Shape eid w.san tr r := by
  refine wp_run_bind.2 (wp_attempt.2 (wp_san.2 fun ch => ?_))
  have h1 : Never eid.lunIndex [sanEv w sess (.getLUN eid.lunIndex) ch] := never_sanEv nofun
  have hans := answered_sanEv w sess (.getLUN eid.lunIndex) ch
  -- the branches that leave the LUN alone: only the first `GetLUN` can have been answered
  have hskip : (∀ lun, (sanAct w sess (.getLUN eid.lunIndex) ch).1 = .ok lun →
      lun.name ≠ eid.lunName) → ∀ w', wp act (releaseTarget eid sess).run w' fun tr r _ =>
        (∀ e, r = .error e → isAuthError e = false) ∧
          Shape eid w.san ([sanEv w sess (.getLUN eid.lunIndex) ch] ++ tr) r := by
    intro hother w'
    refine wp_mono (wp_releaseTarget eid sess w') ?_
    rintro tr r w'' ⟨rfl, hnever, hget⟩
    refine ⟨nofun, .inl ⟨h1.append hnever, fun _ hc e he hg => ?_⟩⟩
    rcases List.mem_append.1 he with he | he
    · rw [List.mem_singleton.1 he, hans]
      cases hr : (sanAct w sess (.getLUN eid.lunIndex) ch).1 with
      | error e => rfl
      | ok lun =>
        obtain ⟨s', hs⟩ := sanAct_ok hr
        exact absurd (hc.getLUN hs) (hother lun hr)
    · exact absurd hg (hget e he)
  cases hr : (sanAct w sess (.getLUN eid.lunIndex) ch).1 with
  | error e => exact hskip (by rw [hr]; exact nofun) _
  | ok lun =>
    rw [hr] at hskip
    dsimp only [Except.mapError]
    split
    · next hempty =>
      refine hskip ?_ _
      rintro _ ⟨⟩ h
      exact hname (h ▸ hempty)
    · split
      · next hne =>
        refine hskip ?_ _
        rintro _ ⟨⟩
        exact hne.2
      · refine wp_destroy_release h1 ⟨sess, rfl⟩ ?_
        rw [hans, hr]
        rfl

theorem wp_deleteVolume (hid : parseExternalID volumeID = .ok eid) (hname : eid.lunName ≠ "")
    (w : World) : wp act (deleteVolume volumeID).run w fun tr r _ => Shape eid w.san tr r := by
  unfold deleteVolume
  rw [hid, check_ok_bind]
  refine wp_run_bind.2 (wp_attempt.2 (wp_smDo ?_ ?_))
  · intro ch e w' _ _ ch'
    refine .inl ⟨?_, nofun⟩
    rintro e he ⟨sess, hc⟩
    simp only [List.cons_append, List.nil_append, List.mem_cons, List.not_mem_nil, or_false] at he
    rcases he with rfl | rfl <;> cases hc
  · intro ch sess w' hs _
    refine wp_mono (wp_deleteUnder volumeID hname sess w') ?_
    rintro tr r w'' ⟨hauth, hshape⟩
    refine ⟨hauth, fun ch' => ?_⟩
    rw [hs] at hshape
    have hev : ∀ e ∈ ([⟨w, .get, ch, .ok sess⟩] ++ [⟨w'', .cacheRemove eid.lunIndex, ch', ()⟩] :
        List Ev), ∀ sess c, e.call ≠ .san sess c := by
      intro e he
      simp only [List.cons_append, List.nil_append, List.mem_cons, List.not_mem_nil, or_false] at he
      rcases he with rfl | rfl <;> exact nofun
    refine hshape.around (?_ : Never _ [_]) (?_ : Never _ [_]) ?_
    · rintro e he ⟨sess, hc⟩
      exact hev e (List.mem_append_left _ he) _ _ hc
    · rintro e he ⟨sess, hc⟩
      exact hev e (List.mem_append_right _ he) _ _ hc
    · rintro e he ⟨sess, hc⟩
      exact hev e he _ _ hc

/-- When a nil result of DeleteVolume means that the volume is gone: the LUN was not there to
begin with, or the failures let the `GetLUN` that looks for it be answered and the `DeleteLUN`
reach the appliance. -/
theorem deleteVolume_gone_iff {volumeID : String} {eid : ExternalID} {w w' : World} {tr : List Ev}
    (hid : parseExternalID volumeID = .ok eid) (hname : eid.lunName ≠ "")
    (hrun : Runs act (deleteVolume volumeID).run w tr (.ok ()) w') :
    ¬ w'.san.Carries eid.lunIndex eid.lunName ↔
      ¬ w.san.Carries eid.lunIndex eid.lunName ∨
        (∃ e ∈ tr, e.Is (.getLUN eid.lunIndex) ∧ e.answered = true) ∧
          ∀ e ∈ tr, e.Is (.deleteLUN eid.lunIndex) → e.Reached := by
  have hcalls := (calls_deleteVolume hid).mono fun _ => noNewLUN_of_among
  rw [carries_iff_of_runs hrun hcalls]
  rcases wp_iff.1 (wp_deleteVolume hid hname w) tr _ w' hrun with
    ⟨hnever, himp⟩ | ⟨⟨d, hd, hdel, huniq⟩, hget⟩
  · by_cases hc : w.san.Carries eid.lunIndex eid.lunName
    · have hno : ¬ ∃ e ∈ tr, e.Is (.getLUN eid.lunIndex) ∧ e.answered = true := by
        rintro ⟨e, he, hg, ha⟩
        simp [himp rfl hc e he hg] at ha
      have hkeep : ∀ e ∈ tr, ¬ (e.Is (.deleteLUN eid.lunIndex) ∧ e.Reached) :=
        fun e he h => hnever e he h.1
      exact ⟨fun h => absurd ⟨hc, hkeep⟩ h, fun h => absurd (h.resolve_left (not_not.2 hc)).1 hno⟩
    · simp [hc]
  · by_cases hreach : d.Reached
    · have hall : ∀ e ∈ tr, e.Is (.deleteLUN eid.lunIndex) → e.Reached :=
        fun e he h => huniq e he h ▸ hreach
      have hsome : ¬ ∀ e ∈ tr, ¬ (e.Is (.deleteLUN eid.lunIndex) ∧ e.Reached) :=
        fun h => h d hd ⟨hdel, hreach⟩
      exact ⟨fun _ => .inr ⟨hget, hall⟩, fun _ h => hsome h.2⟩
    · have hnone : ∀ e ∈ tr, ¬ (e.Is (.deleteLUN eid.lunIndex) ∧ e.Reached) :=
        fun e he h => hreach (huniq e he h.1 ▸ h.2)
      have hnot : ¬ ∀ e ∈ tr, e.Is (.deleteLUN eid.lunIndex) → e.Reached :=
        fun h => hreach (h d hd hdel)
      constructor
      · intro h
        exact .inl fun hc => h ⟨hc, hnone⟩
      · rintro (hc | ⟨-, h⟩)
        · exact fun h => hc h.1
        · exact absurd h hnot

def oneVolume : World := .of [(7, "vol1")] [(3, "vol1")] [(7, 3)]

theorem deleteVolume_gone_oneVolume : ∃ tr w',
    Runs act (deleteVolume "qnap/v1/7/3/t/vol1").run oneVolume tr (.ok ()) w' ∧
      ¬ w'.san.Carries 7 "vol1" := by
  obtain ⟨tr, r, w', hrun, rfl, hcond⟩ := runs_of_exec act
    (deleteVolume "qnap/v1/7/3/t/vol1").run oneVolume (List.replicate 9 {})
    (fun x => x.2.1 = .ok () ∧ (∃ e ∈ x.1, Ev.Is e (.getLUN 7) ∧ Ev.answered e = true) ∧
      ∀ e ∈ x.1, Ev.Is e (.deleteLUN 7) → Ev.Reached e) (by decide)
  have hid : parseExternalID "qnap/v1/7/3/t/vol1" = .ok ⟨7, 3, true, "vol1"⟩ := by decide
  exact ⟨tr, w', hrun, (deleteVolume_gone_iff hid (by decide) hrun).2 (.inr hcond)⟩

/-- One lost `GetLUN` reply, and DeleteVolume reports success over a volume that is still
there. -/
theorem deleteVolume_nil_over_live_volume : ¬ ∀ (volumeID : String) (eid : ExternalID)
    (w w' : World) (tr : List Ev), parseExternalID volumeID = .ok eid → eid.lunName ≠ "" →
      Runs act (deleteVolume volumeID).run w tr (.ok ()) w' →
      ¬ w'.san.Carries eid.lunIndex eid.lunName := by
  intro h
  obtain ⟨tr, r, w', hrun, rfl, hthere⟩ := runs_of_exec act
    (deleteVolume "qnap/v1/7/3/t/vol1").run oneVolume [{}, { fail := true }, { fail := true }, {}]
    (fun x => x.2.1 = .ok () ∧ x.2.2.san.Carries 7 "vol1") (by decide)
  exact h _ ⟨7, 3, true, "vol1"⟩ _ _ _ (by decide) (by decide) hrun hthere

/-! ## The target -/

/-- Target `t` maps no LUN but the one the id names. -/
def OnlyMaps (s : San) (t : Int) (eid : ExternalID) : Prop :=
  ∀ l, (l, t) ∈ s.maps → l = eid.lunIndex ∧ s.Carries l eid.lunName

instance (s : San) (t : Int) (eid : ExternalID) : Decidable (OnlyMaps s t eid) :=
  decidable_of_iff (∀ m ∈ s.maps, m.2 = t → m.1 = eid.lunIndex ∧ s.Carries m.1 eid.lunName) (by
    constructor
    · intro h l hl
      exact h _ hl rfl
    · rintro h ⟨l, t'⟩ hm rfl
      exact h l hm)

theorem OnlyMaps.effect {s' : San} {v : c.Val} {t : Int} (h : OnlyMaps s t eid)
    (he : Effect s c v s') (hc : c.newLUN = none) : OnlyMaps s' t eid := by
  intro l hl
  obtain ⟨hli, hcar⟩ := h l (he.maps_subset hc hl)
  refine ⟨hli, he.carries ?_ hcar⟩
  -- a deleted LUN is mapped nowhere
  rintro rfl
  cases he with
  | read _ hr => cases hr
  | dropLUN _ _ => simp [San.dropLUN] at hl

/-- The appliance shows target `t` under the alias `name`. -/
def San.Aliased (s : San) (t : Int) (name : String) : Prop :=
  (s.targets.lookup t).map TargetRow.aliasName = some name

/-- The appliance still accepts the session the driver holds, if it holds one. -/
def World.Admitted (w : World) : Prop := ∀ sess ∈ w.sess, sess ∈ w.accepted

instance : Nonempty Choice := ⟨{}⟩

instance (w : World) : Decidable w.Admitted := inferInstanceAs (Decidable (∀ sess ∈ w.sess, _))

/-- The guards of the target's removal pass in `s` only over the id's own LUN. -/
def Releasable (eid : ExternalID) (s : San) : Prop :=
  eid.ownTarget = true → eid.lunName ≠ "" → s.Aliased eid.targetIndex eid.lunName →
    OnlyMaps s eid.targetIndex eid

theorem San.aliased_of_getTarget {t : Int} {x : Target} (h : s.target t = some x) :
    s.Aliased t x.aliasName := by
  unfold San.Aliased
  rw [(San.target_eq_some.1 h).2.1]
  rfl

theorem San.Aliased.target {t : Int} {name : String} (h : s.Aliased t name) :
    ∃ x, s.target t = some x ∧ x.aliasName = name := by
  obtain ⟨row, hrow, halias⟩ := Option.map_eq_some_iff.1 h
  refine ⟨⟨t, row.iqn, row.aliasName, s.lunsOf t⟩, ?_, halias⟩
  unfold San.target
  rw [hrow]
  rfl

section

variable {eid : ExternalID} {s : San} {k : LunCache} {w : World}

theorem Releasable.effect {s' : San} {v : c.Val} {i t : Int} (h : Releasable eid s)
    (he : Effect s c v s') (hc : c = .unmapLUN i t ∨ c = .deleteLUN i) : Releasable eid s' := by
  have hmaps : ∀ t, OnlyMaps s t eid → OnlyMaps s' t eid := fun t h' =>
    h'.effect he (by rcases hc with rfl | rfl <;> rfl)
  have htargets : s'.targets = s.targets := by
    rcases hc with rfl | rfl
    · cases he with
      | read _ hr => cases hr
      | unmap => rfl
    · cases he with
      | read _ hr => cases hr
      | dropLUN => rfl
  intro hown hname halias
  unfold San.Aliased at halias
  rw [htargets] at halias
  exact hmaps _ (h hown hname halias)

def AtRelease (eid : ExternalID) (c : SanCall) (s : San) : Prop :=
  ∀ t, c = .deleteTarget t → OnlyMaps s t eid

theorem does_releaseTarget (sess : Int) (h : Releasable eid s) :
    Does (AtRelease eid) (releaseTarget eid sess) s k (fun _ _ _ => True) fun _ _ _ => False := by
  unfold releaseTarget
  split
  · next hown =>
    refine .bind (Q := fun ours s _ => ours = true → OnlyMaps s eid.targetIndex eid) ?_ ?_
    · unfold targetIsOurs
      split
      · exact .pure nofun
      · next hname =>
        refine .bind (Q := fun r s' _ => s' = s ∧ ∀ x, r = .ok x → s.target eid.targetIndex = some x)
          (.attempt (.read rfl nofun (fun _ => ⟨rfl, nofun⟩) ?_)) ?_
        · intro ch v hs
          obtain ⟨x, hx, heq⟩ := Option.map_eq_some_iff.1 hs
          cases heq
          refine ⟨rfl, ?_⟩
          rintro _ ⟨⟩
          exact hx
        · rintro (e | tgt) s k ⟨rfl, hx⟩
          · exact .pure nofun
          · refine .pure fun hours => h hown hname ?_
            exact of_decide_eq_true hours ▸ San.aliased_of_getTarget (hx tgt rfl)
    · rintro (_ | _) s k h
      · exact .pure trivial
      · refine .bind (Q := fun _ _ _ => True) (.attempt (.san ?_ (fun _ => trivial) ?_)) ?_
        · rintro _ ⟨⟩
          exact h rfl
        · exact fun _ _ _ _ => ⟨trivial, fun _ => trivial⟩
        · exact fun _ _ _ _ => .pure trivial
  · exact .pure trivial

theorem does_confirmGone (sess : Int) (r : Except Err Unit) (h : Releasable eid s) :
    Does (AtRelease eid) (confirmGone sess eid.lunIndex r) s k
      (fun _ s _ => Releasable eid s) fun _ s _ => Releasable eid s := by
  cases r with
  | error e =>
    refine .bind (Q := fun _ s _ => Releasable eid s) ?_ fun gone s k h => ?_
    · refine .bind (Q := fun _ s _ => Releasable eid s)
        (.attempt (.read rfl nofun (fun _ => h) fun _ _ _ => h)) ?_
      rintro (e | lun) s k h
      · exact .pure h
      · exact .pure h
    · split
      · exact .pure h
      · exact .throw h
  | ok _ => exact .onError (.read rfl nofun (fun _ => h) fun _ _ _ => h)

theorem does_destroyLUN (volumeID : String) (sess : Int) (h : Releasable eid s) :
    Does (AtRelease eid) (destroyLUN volumeID eid sess) s k
      (fun _ s _ => Releasable eid s) fun _ s _ => Releasable eid s := by
  refine .bind (Q := fun _ s' _ => s' = s)
    (.onError (.read rfl nofun (fun _ => h) fun _ _ _ => rfl)) ?_
  rintro snaps _ k rfl
  split
  · exact .fail h
  · refine .bind (Q := fun _ s _ => Releasable eid s) (.attempt ?_) fun _ s k h => ?_
    · refine .san nofun (fun _ => h) fun ch v s' hs => ?_
      have h' := h.effect (San.serve_effect hs) (.inl rfl)
      exact ⟨h', fun _ => h'⟩
    · refine .bind (Q := fun _ s _ => Releasable eid s) (.attempt ?_) fun r s k h =>
        does_confirmGone sess r h
      refine .san nofun (fun _ => h) fun ch v s' hs => ?_
      have h' := h.effect (t := 0) (San.serve_effect hs) (.inr rfl)
      exact ⟨h', fun _ => h'⟩

theorem does_deleteVolume (hid : parseExternalID volumeID = .ok eid) (h : Releasable eid s) :
    Does (AtRelease eid) (deleteVolume volumeID) s k (fun _ _ _ => True) fun _ _ _ => True :=
  does_deleteVolume_by hid h (fun _ _ => nofun)
    (fun sess _ _ h _ => does_destroyLUN volumeID sess h)
    fun sess _ _ h => (does_releaseTarget sess h).mono (fun _ _ _ h => h) fun _ _ _ h => h.elim

theorem wp_refused {sess : Int} {Q : List Ev → Except Err c.Val → World → Prop}
    (hs : sess ∉ w.accepted) (h : ∀ ch e w', sess ∉ w'.accepted →
      Q [⟨w, .san sess c, ch, .error e⟩] (.error (.san e)) w') :
    wp act (san sess c).run w Q := by
  intro ch
  have hexp : sess ∉ (afterExpiry w ch).accepted := by
    unfold afterExpiry
    dsimp only
    split
    · exact List.not_mem_nil
    · exact hs
  have hact : act w (.san sess c) ch = (.error ⟨.sessionInvalid, ch.error.text⟩,
      { afterExpiry w ch with now := (afterExpiry w ch).now + ch.tick }) := by
    simp only [act, answer, sanAct, if_pos hexp]
  rw [hact]
  exact h ch _ _ hexp

theorem wp_releaseTarget_refused {sess : Int} (hs : sess ∉ w.accepted) :
    wp act (releaseTarget eid sess).run w fun tr r _ =>
      r = .ok () ∧ ∀ e ∈ tr, ∀ t, ¬ Ev.Is e (.deleteTarget t) := by
  unfold releaseTarget
  split
  · have hours : wp act (targetIsOurs sess eid.targetIndex eid.lunName).run w fun tr r _ =>
        r = .ok false ∧ ∀ e ∈ tr, ∀ t, ¬ Ev.Is e (.deleteTarget t) := by
      unfold targetIsOurs
      split
      · exact ⟨rfl, fun _ he => absurd he List.not_mem_nil⟩
      · refine wp_run_bind.2 (wp_attempt.2 (wp_refused hs fun ch e w' _ => ?_))
        refine ⟨rfl, ?_⟩
        simp [Ev.Is]
    refine wp_run_bind.2 (wp_mono hours ?_)
    rintro tr _ w' ⟨rfl, h⟩
    exact ⟨rfl, by rwa [List.append_nil]⟩
  · exact ⟨rfl, fun _ he => absurd he List.not_mem_nil⟩

/-- Under a session that the appliance refuses, `GetLUN` and `GetTarget` fail and nothing is
deleted. -/
theorem wp_deleteVolume_refused (hid : parseExternalID volumeID = .ok eid) (hw : ¬ w.Admitted) :
    wp act (deleteVolume volumeID).run w fun tr _ _ =>
      ∀ e ∈ tr, ∀ t, ¬ Ev.Is e (.deleteTarget t) := by
  obtain ⟨sess, hsess, hs⟩ : ∃ sess, w.sess = some sess ∧ sess ∉ w.accepted := by
    simpa [World.Admitted] using hw
  unfold deleteVolume
  rw [hid, check_ok_bind]
  refine wp_run_bind.2 (wp_attempt.2 (wp_run_bind.2 fun ch => ?_))
  have hact : act w .get ch = (.ok sess, { w with now := w.now + ch.tick }) := by
    simp only [act, answer, getAct, hsess]
  rw [hact]
  refine wp_run_bind.2 (wp_attempt.2 (wp_run_bind.2 (wp_attempt.2 (wp_refused hs ?_))))
  intro ch' e w' hs'
  refine wp_mono (wp_releaseTarget_refused hs') ?_
  rintro tr _ w'' ⟨rfl, h⟩
  refine wp_run_bind.2 fun ch'' => ?_
  change ∀ e ∈ _, _
  simpa [Ev.Is, or_imp, forall_and] using h

theorem runs_smGet (hlive : w.Admitted) : ∃ tr sess w', Runs act smGet.run w tr (.ok sess) w' ∧
    w'.san = w.san ∧ sess ∈ w'.accepted := by
  cases hsess : w.sess with
  | some sess =>
    have hact : act w .get {} = (.ok sess, w) := by
      simp only [act, answer, getAct, hsess]
      simp [← hsess]
    exact ⟨_, sess, w, runs_answer hact, rfl, hlive sess hsess⟩
  | none =>
    have hact : act w .get {} = (.ok 0, { w with sess := some 0, accepted := 0 :: w.accepted }) := by
      simp [act, answer, getAct, hsess]
    exact ⟨_, 0, _, runs_answer hact, rfl, List.mem_cons_self⟩

/-- A call may fail and leave everything as it was. -/
theorem runs_san_fails {sess : Int} (hs : sess ∈ w.accepted) :
    ∃ tr e, Runs act (san sess c).run w tr (.error e) w := by
  have hact : act w (.san sess c) { fail := true } = (.error ⟨.transport, ""⟩, w) := by
    simp [act, answer, sanAct, afterExpiry, hs]
  exact ⟨_, _, runs_answer hact⟩

theorem runs_targetIsOurs {sess t : Int} {name : String} (hs : sess ∈ w.accepted)
    (hname : name ≠ "") (halias : w.san.Aliased t name) :
    ∃ tr, Runs act (targetIsOurs sess t name).run w tr (.ok true) w := by
  obtain ⟨x, hx, hxname⟩ := halias.target
  have hact : act w (.san sess (.getTarget t)) {} = (.ok x, w) := by
    simp [act, answer, sanAct, afterExpiry, hs, San.serve, hx]
  unfold targetIsOurs
  rw [if_neg hname]
  refine ⟨_, runs_run_bind.2 (.inr ⟨_, _, _, [], rfl,
    runs_attempt.2 ⟨.ok x, rfl, runs_answer hact⟩, ?_⟩)⟩
  exact runs_ret.2 ⟨rfl, congrArg Except.ok (decide_eq_true hxname).symm, rfl⟩

/-- A run that takes the LUN for gone after a failed `GetLUN` meets the target as the call found
it. -/
theorem onlyMaps_of_safe (hid : parseExternalID volumeID = .ok eid) (hlive : w.Admitted)
    (hown : eid.ownTarget = true) (hname : eid.lunName ≠ "")
    (halias : w.san.Aliased eid.targetIndex eid.lunName)
    (hsafe : wp act (deleteVolume volumeID).run w fun tr _ _ =>
      ∀ e ∈ tr, ∀ t, Ev.Is e (.deleteTarget t) → OnlyMaps e.pre.san t eid) :
    OnlyMaps w.san eid.targetIndex eid := by
  unfold deleteVolume at hsafe
  rw [hid, check_ok_bind] at hsafe
  have hdo := wp_attempt.1 (wp_always_left hsafe)
  unfold smDo at hdo
  obtain ⟨_, sess, w1, hget, hsan, hs⟩ := runs_smGet hlive
  have hunder := wp_always_right hdo hget
  replace hunder := wp_attempt.1 (wp_always_left hunder)
  unfold deleteUnder at hunder
  obtain ⟨_, e, hfail⟩ := runs_san_fails (c := .getLUN eid.lunIndex) hs
  have hrelease := wp_always_right hunder (runs_attempt.2 ⟨.error e, rfl, hfail⟩)
  unfold releaseTarget at hrelease
  rw [if_pos hown] at hrelease
  obtain ⟨_, hours⟩ := runs_targetIsOurs hs hname (hsan ▸ halias)
  have hdelete := wp_always_right hrelease hours
  replace hdelete := wp_attempt.1 (wp_always_left hdelete)
  exact hsan ▸ hdelete {} _ List.mem_cons_self _ ⟨sess, rfl⟩

end

/-- When deleting a volume takes down no other volume's target: every target that any run of
DeleteVolume deletes maps nothing but the id's own LUN exactly if the id does not own its target,
has no name, names a target of another alias, the driver's session is refused, or the target maps
nothing else before the call. -/
theorem deleteVolume_target_safe_iff {volumeID : String} {eid : ExternalID} {w : World}
    (hid : parseExternalID volumeID = .ok eid) :
    (∀ tr r w', Runs act (deleteVolume volumeID).run w tr r w' →
      ∀ e ∈ tr, ∀ t, Ev.Is e (.deleteTarget t) → OnlyMaps e.pre.san t eid) ↔
    (w.Admitted → Releasable eid w.san) := by
  constructor
  · intro h hlive hown hname halias
    exact onlyMaps_of_safe hid hlive hown hname halias (wp_iff.2 h)
  · intro h tr r w' hrun e he t hdel
    by_cases hlive : w.Admitted
    · obtain ⟨sess, hc⟩ := hdel
      have := ((does_deleteVolume (k := w.cache) hid (h hlive)).runs hrun).1 e he
      unfold Issues at this
      rw [hc] at this
      exact this t rfl
    · exact absurd hdel (wp_iff.1 (wp_deleteVolume_refused hid hlive) tr r w' hrun e he t)

theorem deleteVolume_target_safe_oneVolume : ∃ tr r w',
    Runs act (deleteVolume "qnap/v1/7/3/t/vol1").run oneVolume tr r w' ∧
      ∃ e ∈ tr, Ev.Is e (.deleteTarget 3) ∧ OnlyMaps e.pre.san 3 ⟨7, 3, true, "vol1"⟩ := by
  obtain ⟨tr, r, w', hrun, e, he, hdel⟩ := runs_of_exec act
    (deleteVolume "qnap/v1/7/3/t/vol1").run oneVolume (List.replicate 9 {})
    (fun x => ∃ e ∈ x.1, Ev.Is e (.deleteTarget 3)) (by decide)
  have hid : parseExternalID "qnap/v1/7/3/t/vol1" = .ok ⟨7, 3, true, "vol1"⟩ := by decide
  have hcond : Releasable ⟨7, 3, true, "vol1"⟩ oneVolume.san := fun _ _ _ => by decide
  exact ⟨tr, r, w', hrun, e, he, hdel,
    (deleteVolume_target_safe_iff hid).2 (fun _ => hcond) tr r w' hrun e he 3 hdel⟩

/-- The id of a deleted volume, its LUN index gone and its target index and name in use again:
DeleteVolume deletes the target that maps the new volume's LUN. -/
theorem deleteVolume_takes_down_reused_target : ¬ ∀ (volumeID : String) (eid : ExternalID)
    (w w' : World) (tr : List Ev) (r : Except Err Unit) (e : Ev) (t : Int),
      parseExternalID volumeID = .ok eid → Runs act (deleteVolume volumeID).run w tr r w' →
      e ∈ tr → e.Is (.deleteTarget t) → OnlyMaps e.pre.san t eid := by
  intro h
  obtain ⟨tr, r, w', hrun, e, he, hdel, hbad⟩ := runs_of_exec act
    (deleteVolume "qnap/v1/7/3/t/vol1").run (.of [(8, "vol1")] [(3, "vol1")] [(8, 3)])
    [{}, {}, {}, {}, {}] (fun x => ∃ e ∈ x.1, Ev.Is e (.deleteTarget 3) ∧
      ¬ OnlyMaps e.pre.san 3 ⟨7, 3, true, "vol1"⟩) (by decide)
  exact hbad (h _ ⟨7, 3, true, "vol1"⟩ _ _ _ _ e 3 (by decide) hrun he hdel)

end NomadCsi.Qnap
