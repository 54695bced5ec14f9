import NomadCsi.Lib.Hoare
import NomadCsi.Qnap.Controller
import NomadCsi.Qnap.Effect

/-!
# A logic for controller operations

`Does E x s k Q X`: with the appliance in state `s` and the cache in state `k`, every
client call that a run of `x` issues satisfies `E` in the state it meets, and the run
ends in `Q` or `X` of the states it leaves. Sessions, faults and the clock are
quantified away by the rules; `Does.smDo` asks for an invariant that the closure keeps when it
fails, since it may run twice.
-/

namespace NomadCsi.Qnap

open Lib Lib.Go Driver

abbrev Ev := Event Call Call.Reply World Choice

/-- `E` of the client call of an event, in the appliance state it met. -/
def Issues (E : SanCall → San → Prop) (e : Ev) : Prop :=
  match e.call with
  | .san _ c => E c e.pre.san
  | _ => True

def Does {α : Type} (E : SanCall → San → Prop) (x : Op α) (s : San) (k : LunCache)
    (Q : α → San → LunCache → Prop) (X : Err → San → LunCache → Prop) : Prop :=
  ∀ w : World, w.san = s → w.cache = k →
    Ends act (Issues E) x w (fun a w' => Q a w'.san w'.cache) fun e w' => X e w'.san w'.cache

/-- What an answer to a client call can be: an error without effect, or the effect of the
call with its value or with an error. -/
theorem sanAct_cases (w : World) (sess : Int) (c : SanCall) (ch : Choice) :
    (∃ e, sanAct w sess c ch = (.error e, afterExpiry w ch) ∧
      (Served w sess ch → w.san.serve c ch.san = none)) ∨
    ∃ v s', Served w sess ch ∧ w.san.serve c ch.san = some (v, s') ∧
      ∃ r, sanAct w sess c ch = (r, { afterExpiry w ch with san := s' }) ∧
        (r = .ok v ∨ ∃ e, r = .error e) := by
  unfold sanAct
  split
  · next h => exact .inl ⟨_, rfl, fun hs => absurd hs.1 h⟩
  · next hacc =>
    split
    · next h => exact .inl ⟨_, rfl, fun hs => absurd h (by simp [hs.2])⟩
    · next hfail =>
      split
      · next h => exact .inl ⟨_, rfl, fun _ => h⟩
      · next v s' h =>
        refine .inr ⟨v, s', ⟨not_not.1 hacc, by simpa using hfail⟩, h, _, rfl, ?_⟩
        split
        · exact .inr ⟨_, rfl⟩
        · exact .inl rfl

variable {c : SanCall} {w : World} {sess : Int}

theorem sanAct_ok {ch : Choice} {v : c.Val} (h : (sanAct w sess c ch).1 = .ok v) :
    ∃ s', w.san.serve c ch.san = some (v, s') := by
  rcases sanAct_cases w sess c ch with ⟨e, hr, -⟩ | ⟨v', s', -, hv, r, hr, rfl | ⟨e, rfl⟩⟩
  · rw [hr] at h
    cases h
  · rw [hr] at h
    cases h
    exact ⟨s', hv⟩
  · rw [hr] at h
    cases h

theorem getAct_cases (w : World) (ch : Choice) :
    ∃ r w', getAct w ch = (r, w') ∧ w'.san = w.san ∧ w'.cache = w.cache := by
  unfold getAct
  split
  · exact ⟨_, _, rfl, rfl, rfl⟩
  · split
    · exact ⟨_, _, rfl, rfl, rfl⟩
    · exact ⟨_, _, rfl, rfl, rfl⟩

/-- A call of the controller leaves the volumes alone or is a served client call. -/
theorem act_cases (w : World) (c : Call) (ch : Choice) :
    (act w c ch).2.san = w.san ∧
      (∀ sess k, c = .san sess k → Served w sess ch → w.san.serve k ch.san = none) ∨
    ∃ sess k v, c = .san sess k ∧ Served w sess ch ∧
      w.san.serve k ch.san = some (v, (act w c ch).2.san) := by
  cases c with
  | get =>
    obtain ⟨r, w', hr, hs, -⟩ := getAct_cases w ch
    refine .inl ⟨?_, nofun⟩
    simp only [act, answer, hr, hs]
  | reset | cacheFresh | cacheInstall | cacheLookup | cacheTarget | cacheAll | cacheAdd
  | cacheRemove => exact .inl ⟨rfl, nofun⟩
  | san sess k =>
    rcases sanAct_cases w sess k ch with ⟨e, hr, hn⟩ | ⟨v, s', hsv, hv, r, hr, -⟩
    · refine .inl ⟨?_, ?_⟩
      · simp only [act, answer, hr, afterExpiry]
      · rintro _ _ ⟨⟩
        exact hn
    · refine .inr ⟨sess, k, v, rfl, hsv, ?_⟩
      simp only [act, answer, hr, hv]

def Call.writesCache : Call → Bool
  | .cacheInstall _ _ | .cacheAdd _ _ | .cacheRemove _ => true
  | _ => false

theorem act_cache_eq {c : Call} (ch : Choice) (hc : c.writesCache = false) :
    (act w c ch).2.cache = w.cache := by
  cases c with
  | get =>
    obtain ⟨r, w', hr, -, hk⟩ := getAct_cases w ch
    simp only [act, answer, hr, hk]
  | san sess k =>
    rcases sanAct_cases w sess k ch with ⟨e, hr, -⟩ | ⟨v, s', -, -, r, hr, -⟩
    · simp only [act, answer, hr, afterExpiry]
    · simp only [act, answer, hr, afterExpiry]
  | cacheInstall | cacheAdd | cacheRemove => cases hc
  | reset | cacheFresh | cacheLookup | cacheTarget | cacheAll => rfl

def sanEv (w : World) (sess : Int) (c : SanCall) (ch : Choice) : Ev :=
  ⟨w, .san sess c, ch, (sanAct w sess c ch).1⟩

def sanNext (w : World) (sess : Int) (c : SanCall) (ch : Choice) : World :=
  (act w (.san sess c) ch).2

theorem wp_san {Q : List Ev → Except Err c.Val → World → Prop} :
    wp act (san sess c).run w Q ↔ ∀ ch, Q [sanEv w sess c ch]
      ((sanAct w sess c ch).1.mapError .san) (sanNext w sess c ch) := Iff.rfl

variable {α : Type}

theorem wp_smDo {fn : Int → Op α} {Q : List Ev → Except Err α → World → Prop} (hget : ∀ ch e w',
      w'.san = w.san → w'.cache = w.cache → Q [⟨w, .get, ch, .error e⟩] (.error (.san e)) w') (hfn :
      ∀ ch sess w', w'.san = w.san → w'.cache = w.cache → wp act (fn sess).run w' fun tr r w'' => (∀
      e, r = .error e → isAuthError e = false) ∧ Q (⟨w, .get, ch, .ok sess⟩ :: tr) r w'') :
    wp act (smDo fn).run w Q := by
  refine wp_run_bind.2 ?_
  change ∀ ch, _
  intro ch
  obtain ⟨r, w', hr, hs, hk⟩ := getAct_cases w ch
  have hact : act w .get ch = (r, { w' with now := w'.now + ch.tick }) := by
    simp only [act, answer, hr]
  rw [hact]
  cases r with
  | error e => exact hget ch e _ hs hk
  | ok sess =>
    refine wp_run_bind.2 (wp_attempt.2 (wp_mono (hfn ch sess _ hs hk) ?_))
    rintro tr (e | a) w'' ⟨hauth, hq⟩
    · dsimp only
      rw [if_neg (by simp [hauth e rfl])]
      change Q (_ :: (tr ++ [])) _ _
      rw [List.append_nil]
      exact hq
    · change Q (_ :: (tr ++ [])) _ _
      rw [List.append_nil]
      exact hq

variable {K : Call → Prop}

theorem calls_smDo {fn : Int → Op α} (hget : K .get) (hreset : K .reset)
    (hfn : ∀ sess, (fn sess).run.Calls K) : (smDo fn).run.Calls K := by
  have hg : smGet.run.Calls K := ⟨hget, fun _ => trivial⟩
  refine calls_run_bind hg fun sess => calls_run_bind (calls_attempt (hfn sess)) fun r => ?_
  cases r with
  | ok a => trivial
  | error e =>
    dsimp only
    split
    · exact calls_run_bind ⟨hreset, fun _ => trivial⟩ fun _ => calls_run_bind hg hfn
    · trivial

theorem calls_san (h : K (.san sess c)) : (san sess c).run.Calls K :=
  ⟨h, fun _ => trivial⟩

theorem calls_check (r : Except Error α) : (check r).run.Calls K := trivial

section

variable {K : Call → Prop} (hget : K .get) (hreset : K .reset)

include hget hreset

theorem calls_ensureLUNIsOurs (eid : ExternalID)
    (hlun : ∀ sess, K (.san sess (.getLUN eid.lunIndex))) : (ensureLUNIsOurs eid).run.Calls K := by
  unfold ensureLUNIsOurs
  split
  · trivial
  · refine calls_run_bind (calls_attempt (calls_smDo hget hreset fun s => calls_san (hlun s)))
      fun r => ?_
    cases r with
    | error e => trivial
    | ok lun =>
      dsimp only
      split
      · trivial
      · trivial

theorem calls_expandVolume (volumeID : String) (cr : CapacityRange)
    (hlun : ∀ sess i, K (.san sess (.getLUN i)))
    (hresize : ∀ sess i gb, K (.san sess (.resizeLUN i gb)))
    (hwait : ∀ sess i b, K (.san sess (.waitForResizeComplete i b))) :
    (expandVolume volumeID cr).run.Calls K := by
  refine calls_run_bind (calls_check _) fun eid => calls_run_bind (calls_check _) fun gb => ?_
  refine calls_run_bind (calls_ensureLUNIsOurs hget hreset eid fun s => hlun s _) fun _ => ?_
  refine calls_run_bind (calls_onError (calls_smDo hget hreset fun s => ?_)) fun _ => trivial
  refine calls_run_bind (calls_san (hresize s _ _)) fun _ => ?_
  exact calls_run_bind (calls_san (hwait s _ _)) fun _ => trivial

theorem calls_createSnapshot (c : Controller) (req : CreateSnapshotRequest)
    (hlun : ∀ sess i, K (.san sess (.getLUN i)))
    (hsnap : ∀ sess i r, K (.san sess (.createSnapshot i r))) :
    (createSnapshot c req).run.Calls K := by
  refine calls_run_bind (calls_check _) fun eid => ?_
  refine calls_run_bind (calls_ensureLUNIsOurs hget hreset eid fun s => hlun s _) fun _ => ?_
  refine calls_run_bind (calls_onError (calls_smDo hget hreset fun s => ?_)) fun _ => trivial
  exact calls_san (hsnap s _ _)

theorem calls_deleteSnapshot (id : String)
    (hdelete : ∀ sess i, K (.san sess (.deleteSnapshot i)))
    (hwait : ∀ sess i j, K (.san sess (.waitForSnapshotGone i j))) :
    (deleteSnapshot id).run.Calls K := by
  refine calls_run_bind (calls_check _) fun sid => calls_smDo hget hreset fun s => ?_
  exact calls_run_bind (calls_onError (calls_san (hdelete s _))) fun _ =>
    calls_onError (calls_san (hwait s _ _))

end

/-- What the client calls of a run meet and its end leaves holds of the appliance all along: the
other calls do not change it. -/
theorem holds_of_issues {I : San → Prop} {p : Prog Call Call.Reply α} {w' : World} {tr : List Ev}
    {a : α} (h : Runs act p w tr a w') (htr : ∀ e ∈ tr, Issues (fun _ => I) e) (hend : I w'.san) :
    I w.san ∧ ∀ e ∈ tr, I e.pre.san := by
  induction p generalizing w tr with
  | ret x =>
    obtain ⟨rfl, -, rfl⟩ := runs_ret.1 h
    exact ⟨hend, by simp⟩
  | call c k ih =>
    obtain ⟨ch, t, rfl, hk⟩ := runs_call.1 h
    obtain ⟨hnext, ht⟩ := ih _ hk fun e he => htr e (.tail _ he)
    have hw : I w.san := by
      rcases act_cases w c ch with ⟨hsan, -⟩ | ⟨sess, call, v, rfl, -, -⟩
      · rwa [hsan] at hnext
      · exact htr _ (.head _)
    refine ⟨hw, fun e he => ?_⟩
    rcases List.mem_cons.1 he with rfl | he
    · exact hw
    · exact ht e he

namespace Does

variable {α β : Type} {E : SanCall → San → Prop} {s : San} {k : LunCache}
  {P Q : α → San → LunCache → Prop} {X Y : Err → San → LunCache → Prop}

variable {x : Op α}

theorem runs (h : Does E x w.san w.cache Q X) {tr : List Ev} {r : Except Err α} {w' : World}
    (hr : Runs act x.run w tr r w') : (∀ e ∈ tr, Issues E e) ∧
      Outcome (fun a w' => Q a w'.san w'.cache) (fun e w' => X e w'.san w'.cache) r w' :=
  (h w rfl rfl).runs hr

theorem mono (h : Does E x s k P Y) (hQ : ∀ a s k, P a s k → Q a s k)
    (hX : ∀ e s k, Y e s k → X e s k) : Does E x s k Q X :=
  fun w hs hk => (h w hs hk).mono (fun a _ => hQ a _ _) fun e _ => hX e _ _

theorem pure {a : α} (h : Q a s k) : Does E (Pure.pure a : Op α) s k Q X := by
  rintro w rfl rfl
  exact .pure h

theorem throw {e : Err} (h : X e s k) : Does E (MonadExcept.throw e : Op α) s k Q X := by
  rintro w rfl rfl
  exact .throw h

theorem fail {e : Error} (h : X (.driver e) s k) : Does E (Qnap.fail e : Op α) s k Q X :=
  .throw h

theorem check {r : Except Error α} (hok : ∀ a, r = .ok a → Q a s k)
    (herr : ∀ e, r = .error e → X (.driver e) s k) : Does E (Qnap.check r) s k Q X := by
  cases r with
  | ok a => exact .pure (hok a rfl)
  | error e => exact .throw (herr e rfl)

theorem bind {f : α → Op β} {P : β → San → LunCache → Prop} (hx : Does E x s k Q X)
    (hf : ∀ a s k, Q a s k → Does E (f a) s k P X) : Does E (x >>= f) s k P X := by
  intro w hs hk
  exact (hx w hs hk).bind fun a w' hq => hf a _ _ hq w' rfl rfl

theorem attempt {P : Except Err α → San → LunCache → Prop}
    (h : Does E x s k (fun a => P (.ok a)) fun e => P (.error e)) :
    Does E (Lib.attempt x) s k P X :=
  fun w hs hk => (h w hs hk).attempt

theorem onError {f : Err → Err} (h : Does E x s k Q fun e => X (f e)) :
    Does E (Lib.onError f x) s k Q X :=
  fun w hs hk => (h w hs hk).onError

theorem san {Q : c.Val → San → LunCache → Prop} (hE : E c s) (hX : ∀ e, X (.san e) s k)
    (hQ : ∀ ch v s', s.serve c ch = some (v, s') → Q v s' k ∧ ∀ e, X (.san e) s' k) :
    Does E (Qnap.san sess c) s k Q X := by
  rintro w rfl rfl
  change wp act (.call (.san sess c) _) w _
  intro ch
  have hact : act w (.san sess c) ch = ((sanAct w sess c ch).1,
      { (sanAct w sess c ch).2 with now := (sanAct w sess c ch).2.now + ch.tick }) := rfl
  rw [hact]
  refine ⟨?_, ?_⟩
  · intro e he
    obtain rfl := List.mem_singleton.1 he
    exact hE
  · rcases sanAct_cases w sess c ch with ⟨e, hr, -⟩ | ⟨v, s', -, hv, r, hr, rfl | ⟨e, rfl⟩⟩
    · rw [hr]
      exact hX e
    · rw [hr]
      exact (hQ _ v s' hv).1
    · rw [hr]
      exact (hQ _ v s' hv).2 e

theorem read {Q : c.Val → San → LunCache → Prop} (hr : c.reads = true) (hE : E c s)
    (hX : ∀ e, X (.san e) s k) (hQ : ∀ ch v, s.serve c ch = some (v, s) → Q v s k) :
    Does E (Qnap.san sess c) s k Q X := by
  refine .san hE hX fun ch v s' hs => ?_
  have he := San.serve_effect hs
  cases he with
  | read => exact ⟨hQ ch v hs, hX⟩
  | _ => cases hr

theorem cacheFresh {Q : Bool → San → LunCache → Prop} (h : ∀ b, Q b s k) :
    Does E (perform Call.cacheFresh) s k Q X := by
  rintro w rfl rfl
  exact .perform fun ch => ⟨trivial, h _⟩

theorem cacheInstall {luns : List LUN} {targets : List Target}
    {Q : Unit → San → LunCache → Prop} (h : ∀ now, Q () s (.install luns targets now)) :
    Does E (perform (Call.cacheInstall luns targets)) s k Q X := by
  rintro w rfl rfl
  exact .perform fun ch => ⟨trivial, h _⟩

theorem cacheLookup {name : String} {Q : Option LUN → San → LunCache → Prop}
    (h : Q (k.lookupByName name) s k) : Does E (perform (Call.cacheLookup name)) s k Q X := by
  rintro w rfl rfl
  exact .perform fun ch => ⟨trivial, h⟩

theorem cacheTarget {i : Int} {Q : Option Target → San → LunCache → Prop}
    (h : Q (k.targetForLUN i) s k) : Does E (perform (Call.cacheTarget i)) s k Q X := by
  rintro w rfl rfl
  exact .perform fun ch => ⟨trivial, h⟩

theorem cacheAdd {lun : LUN} {target : Target} {Q : Unit → San → LunCache → Prop}
    (h : Q () s (k.addLUN lun target)) : Does E (perform (Call.cacheAdd lun target)) s k Q X := by
  rintro w rfl rfl
  exact .perform fun ch => ⟨trivial, h⟩

theorem cacheRemove {i : Int} {Q : Unit → San → LunCache → Prop}
    (h : ∀ pick, Q () s (k.removeLUN i pick)) : Does E (perform (Call.cacheRemove i)) s k Q X := by
  rintro w rfl rfl
  exact .perform fun ch => ⟨trivial, h _⟩

theorem smGet {Q : Int → San → LunCache → Prop} (hX : ∀ e, X (.san e) s k)
    (hQ : ∀ sess, Q sess s k) : Does E Qnap.smGet s k Q X := by
  rintro w rfl rfl
  change wp act (.call .get _) w _
  intro ch
  refine ⟨by simp [Issues], ?_⟩
  obtain ⟨r, w', hr, hs, hk⟩ := getAct_cases w ch
  have hact : act w .get ch = (r, { w' with now := w'.now + ch.tick }) := by
    simp only [act, answer, hr]
  rw [hact]
  cases r with
  | error e =>
    simp only [Except.mapError, Outcome, hs, hk]
    exact hX e
  | ok sess =>
    simp only [Except.mapError, Outcome, hs, hk]
    exact hQ sess

/-- The closure may run twice: what it leaves behind when it fails must allow a second run. -/
theorem smDo {fn : Int → Op α} (I : San → LunCache → Prop) (hI : I s k)
    (hfn : ∀ sess s k, I s k → Does E (fn sess) s k Q fun e s k => I s k ∧ X e s k)
    (hcont : ∀ e s k, I s k → X (.san e) s k) : Does E (Qnap.smDo fn) s k Q X := by
  refine .bind (Q := fun _ => I) (.smGet (fun e => hcont e s k hI) fun _ => hI) ?_
  intro sess s k hI
  refine .bind (Q := fun r s k => Outcome (fun a _ => Q a s k) (fun e _ => I s k ∧ X e s k) r ())
    (.attempt (hfn sess s k hI)) ?_
  rintro (e | a) s k hr
  · obtain ⟨hI, hX⟩ := hr
    dsimp only
    split
    · refine .bind (Q := fun _ => I) ?_ ?_
      · rintro w rfl rfl
        exact .perform fun ch => ⟨trivial, hI⟩
      · intro _ s k hI
        refine .bind (Q := fun _ => I) (.smGet (fun e => hcont e s k hI) fun _ => hI) ?_
        intro sess s k hI
        exact (hfn sess s k hI).mono (fun _ _ _ h => h) fun _ _ _ h => h.2
    · exact .throw hX
  · exact .pure hr

theorem smDo_read (hr : c.reads = true) (hE : E c s) :
    Does E (Qnap.smDo fun sess => Qnap.san sess c) s k
      (fun v s' k' => s' = s ∧ k' = k ∧ ∃ ch, s.serve c ch = some (v, s))
      fun _ s' k' => s' = s ∧ k' = k := by
  refine .smDo (fun s' k' => s' = s ∧ k' = k) ⟨rfl, rfl⟩ ?_ fun _ _ _ h => h
  rintro sess _ _ ⟨rfl, rfl⟩
  exact .read hr hE (fun _ => ⟨⟨rfl, rfl⟩, rfl, rfl⟩) fun ch v hs => ⟨rfl, rfl, ch, hs⟩

theorem of_calls (h : x.run.Calls fun c => ∀ sess sc, c = .san sess sc → ∀ s, E sc s) :
    Does E x s k (fun _ _ _ => True) fun _ _ _ => True := by
  intro w _ _
  refine wp_mono (wp_of_calls h w) fun tr r w' hc => ⟨fun e he => ?_, ?_⟩
  · have := hc e he
    unfold Issues
    split
    · next sess c heq => exact this sess c heq _
    · trivial
  · cases r <;> trivial

end Does

end NomadCsi.Qnap
