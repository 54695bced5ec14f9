import NomadCsi.Node.Backend

/-!
# What StageVolume leaves on the host

Both backends hand the device of a volume to `FormatIfEmpty` and `Mount`. The first runs mkfs
only on a device that `blkid` finds empty; the second mounts nothing where something is shown as
mounted, whatever it is.
-/

namespace NomadCsi.Node

open Lib Lib.Go Driver

/-! ### Formatting -/

/-- Every filesystem has a type that `blkid` can print. -/
def Host.Typed (h : Host) : Prop := ∀ device t, h.fs.lookup device = some t → trimSpace t ≠ ""

/-- A device that carries a filesystem goes on carrying it. -/
def KeepsFs (h h' : Host) : Prop :=
  ∀ device t, h.fs.lookup device = some t → h'.fs.lookup device = some t

/-- If the command formats a device, the device is empty. -/
def Harmless (e : HostEv) : Prop :=
  ∀ fsType device, e.call = .mkfs fsType device → e.pre.fs.lookup (e.pre.real device) = none

theorem KeepsFs.refl (h : Host) : KeepsFs h h := fun _ _ ht => ht

variable {h h' : Host}

theorem KeepsFs.trans {h'' : Host} (h1 : KeepsFs h h') (h2 : KeepsFs h' h'') : KeepsFs h h'' :=
  fun d t ht => h2 d t (h1 d t ht)

theorem KeepsFs.of_eq (heq : h'.fs = h.fs) : KeepsFs h h' := by
  intro d t ht
  rw [heq]
  exact ht

theorem keepsFs_act {c : Cmd} {ch : CmdChoice} {r : c.Reply} (hharm : Harmless ⟨h, c, ch, r⟩) :
    KeepsFs h (hostAct h c ch).2 := by
  cases hc : c.formats with
  | false => exact .of_eq (hostAct_fs h ch hc)
  | true =>
    cases c with
    | mkfs fsType device =>
      have hempty : h.fs.lookup (h.real device) = none := hharm fsType device rfl
      cases hf : ch.fail with
      | some text =>
        refine .of_eq ?_
        simp [hostAct, hostAnswer, effect, hf]
      | none =>
        have hfs : (hostAct h (.mkfs fsType device) ch).2.fs =
            h.fs.insert (h.real device) fsType := by
          simp [hostAct, hostAnswer, effect, hf]
        intro d t ht
        rw [hfs]
        have hne : d ≠ h.real device := by
          rintro rfl
          rw [hempty] at ht
          cases ht
        rw [AList.lookup_insert_ne hne]
        exact ht
    | _ => cases hc

/-- From a host with typed filesystems, `x` runs harmless commands and leaves typed filesystems. -/
def Gentle {ε α : Type} (x : ExceptT ε (Prog Cmd Cmd.Reply) α) : Prop :=
  ∀ h, h.Typed → Ends hostAct Harmless x h (fun _ h' => h'.Typed) fun _ h' => h'.Typed

namespace Gentle

variable {ε δ α β : Type}

theorem of_calls {x : ExceptT ε (Prog Cmd Cmd.Reply) α} (hx : x.run.Calls (·.formats = false)) :
    Gentle x := by
  refine fun h ht => wp_iff.2 fun tr r h' hrun => ⟨fun e he fsType device hc => ?_, ?_⟩
  · have hno := hrun.calls hx e he
    rw [hc] at hno
    cases hno
  · have hstep : ∀ s c ch, Cmd.formats c = false → s.fs = h.fs → (hostAct s c ch).2.fs = h.fs :=
      fun s c ch hc hs => (hostAct_fs s ch hc).trans hs
    have hfs : h'.fs = h.fs := (hrun.invariant hstep hx rfl).2
    have ht' : h'.Typed := by
      unfold Host.Typed
      rw [hfs]
      exact ht
    cases r with
    | ok | error => exact ht'

theorem bind {x : ExceptT ε (Prog Cmd Cmd.Reply) α} {f : α → ExceptT ε (Prog Cmd Cmd.Reply) β}
    (hx : Gentle x) (hf : ∀ a, Gentle (f a)) : Gentle (x >>= f) :=
  fun h ht => (hx h ht).bind fun a h' ht' => hf a h' ht'

theorem onError {f : δ → ε} {x : ExceptT δ (Prog Cmd Cmd.Reply) α} (hx : Gentle x) :
    Gentle (Lib.onError f x) :=
  fun h ht => .onError (hx h ht)

end Gentle

theorem wp_detectFilesystem (ht : h.Typed) (device : String) :
    wp hostAct (detectFilesystem device).run h fun tr r h' => Same h h' ∧
      (∀ e ∈ tr, e.call = .blkid device) ∧
      (r = .ok "" → h.fs.lookup (h.real device) = none) := by
  have hl : wp hostAct (detectFilesystem device).run h (Listed (.blkid device)
      (trimSpace ((h.fs.lookup (h.real device)).getD "")) h) := by
    refine wp_reading id _ (fun _ => rfl) ?_ fun _ => ⟨_, rfl⟩
    cases h.fs.lookup (h.real device) with
    | none => rfl
    | some t => rfl
  refine wp_mono hl fun tr r h' hl => ⟨hl.1, ?_, fun hok => ?_⟩
  · obtain ⟨-, e, rfl, hc, -⟩ := hl
    simpa using hc
  · rw [hok] at hl
    have hblank := hl.eq_of_ok
    cases hm : h.fs.lookup (h.real device) with
    | none => rfl
    | some t =>
      rw [hm] at hblank
      exact absurd hblank.symm (ht _ t hm)

theorem gentle_formatIfEmpty (device fsType : String) : Gentle (formatIfEmpty device fsType) := by
  intro h ht
  have hdetect : Ends hostAct Harmless (detectFilesystem device) h
      (fun existing h' => h'.Typed ∧ (existing = "" → h'.fs.lookup (h'.real device) = none))
      fun _ h' => h'.Typed := by
    refine wp_mono (wp_detectFilesystem ht device) fun tr r h' hp => ?_
    obtain ⟨⟨t, rfl⟩, hcalls, hempty⟩ := hp
    refine ⟨fun e he fsType device hc => ?_, ?_⟩
    · rw [hcalls e he] at hc
      cases hc
    · cases r with
      | ok existing => exact ⟨ht, fun h => hempty (congrArg _ h)⟩
      | error msg => exact ht
  refine hdetect.bind fun existing h₁ hp => ?_
  obtain ⟨ht1, hempty⟩ := hp
  split
  · split
    · exact .pure ht1
    · exact .throw ht1
  · next hblank =>
    unfold format
    split
    · next hsup =>
      refine Ends.bind (Ends.perform (Q := fun _ h' => h'.Typed) fun ch => ?_) fun reply h₂ ht2 => ?_
      · refine ⟨fun t d hc => ?_, ?_⟩
        · cases hc
          exact hempty (not_not.1 hblank)
        · cases hf : ch.fail with
          | some text =>
            have hact : hostAct h₁ (.mkfs fsType device) ch = (.error ⟨255, text⟩, h₁.later ch) := by
              simp [hostAct, hostAnswer, effect, hf, Host.later]
            rw [hact]
            exact ht1
          | none =>
            have hact : hostAct h₁ (.mkfs fsType device) ch = (.ok (), Host.later
                { h₁ with fs := h₁.fs.insert (h₁.real device) fsType } ch) := by
              simp [hostAct, hostAnswer, effect, hf, Host.later]
            rw [hact]
            intro d t hd
            change (h₁.fs.insert (h₁.real device) fsType).lookup d = some t at hd
            by_cases heq : d = h₁.real device
            · rw [heq, AList.lookup_insert] at hd
              cases hd
              rcases hsup with rfl | rfl
              · decide
              · decide
            · rw [AList.lookup_insert_ne heq] at hd
              exact ht1 d t hd
      · refine Ends.bind (Q := fun _ h' => h'.Typed) ?_ fun _ h3 ht3 => .pure ht3
        cases reply with
        | ok _ => exact .pure ht2
        | error e => exact .throw ht2
    · exact .throw ht1

def formatAndMount (dev target fsType : String) (flags : List String) : BackendOp Unit := do
  let _ ← onError (fun e => internal ("format: " ++ e)) (formatIfEmpty dev fsType)
  onError (fun e => internal ("mount: " ++ e)) (mount dev target fsType flags)

theorem gentle_formatAndMount (dev target fsType : String) (flags : List String) :
    Gentle (formatAndMount dev target fsType flags) :=
  .bind (.onError (gentle_formatIfEmpty dev fsType)) fun _ =>
    .onError (.of_calls (calls_mount dev target fsType flags))

theorem gentle_stageVolume (b : Backend) (req : StageRequest) : Gentle (b.stageVolume req) := by
  cases b with
  | qnap n =>
    refine .bind (.of_calls ((tame_attach n _ _).mono fun c hc => hc.1)) fun dm => ?_
    refine .bind (.of_calls (calls_perform rfl)) fun _ => ?_
    unfold Qnap.stageDevice
    split
    · exact .of_calls trivial
    · exact gentle_formatAndMount _ _ _ _
  | zvol n =>
    refine .bind (.of_calls ((tame_locate n req).mono fun c hc => hc.1)) fun dev => ?_
    unfold Local.stageDevice
    split
    · exact .of_calls trivial
    · refine .bind (.of_calls ((calls_stageFsType req dev).mono fun c hc => ?_))
        fun fsType => gentle_formatAndMount _ _ _ _
      rw [hc]
      rfl

theorem gentle_serve (b : Backend) (req : NodeRequest) : Gentle (b.serve req) := by
  cases req with
  | stage req => exact gentle_stageVolume b req
  | unstage req => exact .of_calls (calls_unstageVolume b req)
  | publish req => exact .of_calls (calls_publishVolume b req)
  | unpublish req =>
    refine .of_calls ?_
    cases b with
    | qnap | zvol => exact calls_onError (calls_unmount_formats _)
  | expand req => exact .of_calls (calls_run_bind (calls_expandVolume b req) fun _ => trivial)

/-- Requests to either backend, one after the other. In between anything may happen to the host but
to its filesystems. -/
inductive History (h : Host) : List HostEv → Host → Prop where
  | refl : History h [] h
  | serve {h₁ h₂ : Host} {evs tr : List HostEv} {r : Except Error Unit} (b : Backend)
      (req : NodeRequest) : History h evs h₁ → Runs hostAct (b.serve req).run h₁ tr r h₂ →
      History h (evs ++ tr) h₂
  | between {h₁ h₂ : Host} {evs : List HostEv} : History h evs h₁ → h₂.fs = h₁.fs →
      History h evs h₂

def post (e : HostEv) : Host := (hostAct e.pre e.call e.choice).2

theorem History.harmless {evs : List HostEv} (hh : History h evs h') (ht : h.Typed) :
    h'.Typed ∧ ∀ e ∈ evs, Harmless e := by
  induction hh with
  | refl => exact ⟨ht, by simp⟩
  | @serve h₁ h₂ evs tr r b req _ hrun ih =>
    obtain ⟨ht1, hevs⟩ := ih
    obtain ⟨htr, hout⟩ := (gentle_serve b req h₁ ht1).runs hrun
    refine ⟨?_, List.forall_mem_append.2 ⟨hevs, htr⟩⟩
    cases r with
    | ok | error => exact hout
  | between _ hfs ih =>
    refine ⟨?_, ih.2⟩
    unfold Host.Typed
    rw [hfs]
    exact ih.1

/-- A history of harmless commands keeps every filesystem, from each of its states on. -/
theorem History.chain {evs : List HostEv} (hh : History h evs h') (hharm : ∀ e ∈ evs, Harmless e) :
    KeepsFs h h' ∧
      (∀ e ∈ evs, KeepsFs h e.pre ∧ KeepsFs (post e) h') ∧
      evs.Pairwise fun e e' => KeepsFs (post e) e'.pre := by
  induction hh with
  | refl => exact ⟨.refl h, by simp, .nil⟩
  | serve b req _ hrun ih =>
    obtain ⟨hevs, htr⟩ := List.forall_mem_append.1 hharm
    obtain ⟨hend, hall, hpair⟩ := ih hevs
    obtain ⟨hend', hall', hpair'⟩ :=
      hrun.chain KeepsFs.refl (fun _ _ _ => KeepsFs.trans) fun e he => keepsFs_act (htr e he)
    refine ⟨hend.trans hend', List.forall_mem_append.2 ⟨fun e he => ?_, fun e he => ?_⟩,
      List.pairwise_append.2 ⟨hpair, hpair', fun e he e' he' => ?_⟩⟩
    · exact ⟨(hall e he).1, (hall e he).2.trans hend'⟩
    · exact ⟨hend.trans (hall' e he).1, (hall' e he).2⟩
    · exact (hall e he).2.trans (hall' e' he').1
  | between _ hfs ih =>
    obtain ⟨hend, hall, hpair⟩ := ih hharm
    have hkeep := KeepsFs.of_eq hfs
    exact ⟨hend.trans hkeep, fun e he => ⟨(hall e he).1, (hall e he).2.trans hkeep⟩, hpair⟩

/-- Over any history, mkfs is run on a device only while it carries no filesystem; a device that
carries one carries it in every later state; and no device is formatted a second time. -/
theorem format_once {h h' : Host} {evs : List HostEv} (hh : History h evs h') (ht : h.Typed) :
    (∀ e ∈ evs, ∀ fsType device, e.call = .mkfs fsType device →
      e.pre.fs.lookup (e.pre.real device) = none) ∧
    (h :: (evs.map (·.pre) ++ [h'])).Pairwise KeepsFs ∧
    evs.Pairwise fun e e' => ∀ fsType device fsType' device', e.call = .mkfs fsType device →
      e.choice.fail = none → e'.call = .mkfs fsType' device' →
      e'.pre.real device' ≠ e.pre.real device := by
  obtain ⟨-, hharm⟩ := hh.harmless ht
  obtain ⟨hend, hall, hpair⟩ := hh.chain hharm
  refine ⟨hharm, .cons ?_ (List.pairwise_append.2 ⟨?_, List.pairwise_singleton _ _, ?_⟩), ?_⟩
  · rintro s hs
    rcases mem_snoc.1 hs with hs | rfl
    · obtain ⟨e, he, rfl⟩ := List.mem_map.1 hs
      exact (hall e he).1
    · exact hend
  · refine List.pairwise_map.2 (hpair.imp_of_mem fun he _ hkeep => ?_)
    exact (keepsFs_act (hharm _ he)).trans hkeep
  · rintro s hs s' hs'
    obtain ⟨e, he, rfl⟩ := List.mem_map.1 hs
    rw [List.mem_singleton.1 hs']
    exact (keepsFs_act (hharm e he)).trans (hall e he).2
  · refine hpair.imp_of_mem fun {e e'} _ he' hkeep fsType device fsType' device' hc hf hc' heq => ?_
    -- the first mkfs leaves a filesystem, which the second would have to find missing
    have hmade : (post e).fs.lookup (e.pre.real device) = some fsType := by
      unfold post
      rw [hc]
      simp [hostAct, hostAnswer, effect, hf]
    have hthere := hkeep _ _ hmade
    rw [← heq, hharm e' he' fsType' device' hc'] at hthere
    cases hthere

/-- A node that owns the zvol `tank/vols/v1`, with these mounts. -/
def zvolHost (mounts : List Mount) : Host :=
  { Host.of [] [] mounts 0 with
    link := fun p => if p = "/dev/zvol/tank/vols/v1" then some "/dev/zd0" else none
    pools := fun p => if p = "tank" then some "ONLINE" else none }

def zvolStage : StageRequest :=
  ⟨"local/v1/node1/tank/vols/v1", "/stage", ⟨.mount, "ext4", []⟩, ∅⟩

theorem format_once_zvol : ∃ evs h', History (zvolHost []) evs h' ∧ (zvolHost []).Typed ∧
    (∃ e ∈ evs, e.call = .mkfs "ext4" "/dev/zd0") ∧
    (∀ e ∈ evs, ∀ fsType device, e.call = .mkfs fsType device →
      e.pre.fs.lookup (e.pre.real device) = none) ∧
    (zvolHost [] :: (evs.map (·.pre) ++ [h'])).Pairwise KeepsFs := by
  obtain ⟨tr, r, h', hrun, hmkfs⟩ := runs_of_exec hostAct
    ((Backend.zvol ⟨"node1", true⟩).serve (.stage zvolStage)).run (zvolHost [])
    (List.replicate 7 {}) (fun x => ∃ e ∈ x.1, e.call = .mkfs "ext4" "/dev/zd0") (by decide)
  have hh : History (zvolHost []) ([] ++ tr) h' := .serve _ _ .refl hrun
  have ht : (zvolHost []).Typed := by
    intro d t hd
    cases hd
  exact ⟨tr, h', hh, ht, hmkfs, (format_once hh ht).1, (format_once hh ht).2.1⟩

/-! ### Mounting -/

structure SameMounts (h h' : Host) : Prop where
  mounts : h'.mounts = h.mounts
  link : h'.link = h.link

variable {tr : List HostEv}

namespace SameMounts

variable {h h' h'' : Host}

theorem refl (h : Host) : SameMounts h h := ⟨rfl, rfl⟩

theorem trans (h1 : SameMounts h h') (h2 : SameMounts h' h'') : SameMounts h h'' :=
  ⟨h2.mounts.trans h1.mounts, h2.link.trans h1.link⟩

theorem real (hs : SameMounts h h') (path : String) : h'.real path = h.real path := by
  unfold Host.real
  rw [hs.link]

theorem showsMounted (hs : SameMounts h h') (path : String) :
    h'.showsMounted path = h.showsMounted path := by
  unfold Host.showsMounted Host.mountOf
  rw [hs.mounts, hs.real]

theorem of_runs {α : Type} {x : Prog Cmd Cmd.Reply α} {a : α} (hr : Runs hostAct x h tr a h')
    (hx : x.Calls fun c => c.mounts = false ∧ ∀ p, c ≠ .waitForPath p) : SameMounts h h' := by
  have hlink : ∀ (s : Host) (c : Cmd) (ch : CmdChoice), (∀ p, c ≠ .waitForPath p) →
      (hostAct s c ch).2.link = s.link := by
    intro s c ch hc
    unfold hostAct hostAnswer effect reading
    cases c with
    | waitForPath p => exact absurd rfl (hc p)
    | _ => first | rfl | (dsimp only; (repeat' split) <;> rfl)
  exact (hr.invariant (fun s c ch hc hs => hs.trans ⟨hostAct_mounts s ch hc.1, hlink s c ch hc.2⟩)
    hx (refl h)).2

end SameMounts

end NomadCsi.Node
