import NomadCsi.Local.Node
import NomadCsi.Node.Mounts
import NomadCsi.Qnap.Unstage

/-!
# The node half of a backend

`driver.NodeBackend` over its two implementations, and the commands that their operations
run. Finding the device of a volume neither formats nor mounts (`calls_device`); of all the
operations only StageVolume formats.
-/

namespace NomadCsi.Node

open Lib Lib.Go Driver

inductive Backend where
  | qnap (n : Qnap.NodePlugin)
  | zvol (n : Local.NodePlugin)

abbrev BackendOp := ExceptT Error (Prog Cmd Cmd.Reply)

namespace Backend

def stageVolume : Backend → StageRequest → BackendOp Unit
  | .qnap n, req => Qnap.stageVolume n req
  | .zvol n, req => Local.stageVolume n req

def unstageVolume : Backend → UnstageRequest → BackendOp Unit
  | .qnap n, req => Qnap.unstageVolume n req
  | .zvol _, req => Local.unstageVolume req

def publishVolume : Backend → PublishRequest → BackendOp Unit
  | .qnap n, req => Qnap.publishVolume n req
  | .zvol _, req => Local.publishVolume req

def unpublishVolume : Backend → UnpublishRequest → BackendOp Unit
  | .qnap _, req => Qnap.unpublishVolume req
  | .zvol _, req => Local.unpublishVolume req

def expandVolume : Backend → NodeExpandRequest → BackendOp Int
  | .qnap _, req => Qnap.nodeExpandVolume req
  | .zvol _, req => Local.nodeExpandVolume req

def device : Backend → StageRequest → BackendOp String
  | .qnap n, req => do return (← Qnap.attach n req.volumeID req.volumeContext).1
  | .zvol n, req => Local.locate n req

end Backend

/-- What the CSI layer asks of the node half. -/
inductive NodeRequest where
  | stage (req : StageRequest)
  | unstage (req : UnstageRequest)
  | publish (req : PublishRequest)
  | unpublish (req : UnpublishRequest)
  | expand (req : NodeExpandRequest)

def Backend.serve (b : Backend) : NodeRequest → BackendOp Unit
  | .stage req => b.stageVolume req
  | .unstage req => b.unstageVolume req
  | .publish req => b.publishVolume req
  | .unpublish req => b.unpublishVolume req
  | .expand req => do let _ ← b.expandVolume req

/-! ### Commands -/

def Cmd.formats : Cmd → Bool
  | .mkfs _ _ => true
  | _ => false

def Cmd.mounts : Cmd → Bool
  | .mount _ _ _ _ | .bind _ _ | .umount _ => true
  | _ => false

def Cmd.places : Cmd → Bool
  | .mkdir _ | .findmntTarget _ | .mount _ _ _ _ | .bind _ _ | .remountReadonly _ | .umount _ => true
  | _ => false

/-- A command of a teardown: it looks, or takes something away. -/
def Cmd.detaches : Cmd → Bool
  | .flush _ | .logout _ _ | .umount _ | .metaDelete _ => true
  | c => c.looks

variable {c : Cmd}

theorem Cmd.detaches_of_looks (hc : c.looks = true) : c.detaches = true := by
  cases c with
  | flush | logout | umount | metaDelete => rfl
  | _ => exact hc

/-- A command of the teardown of this volume: it forgets no other one. -/
def Cmd.Unstages (volumeID : String) (c : Cmd) : Prop :=
  c.detaches = true ∧ ∀ v, c = .metaDelete v → v = volumeID

theorem Cmd.unstages_of_looks {v : String} (hc : c.looks = true) : c.Unstages v := by
  refine ⟨Cmd.detaches_of_looks hc, ?_⟩
  rintro v rfl
  cases hc

def Cmd.Tame (c : Cmd) : Prop := c.formats = false ∧ c.mounts = false

theorem hostAct_fs (h : Host) (ch : CmdChoice) (hc : c.formats = false) :
    (hostAct h c ch).2.fs = h.fs := by
  unfold hostAct hostAnswer effect reading
  cases c with
  | mkfs fsType device => cases hc
  | _ => first | rfl | (dsimp only; (repeat' split) <;> rfl)

theorem hostAct_mounts (h : Host) (ch : CmdChoice) (hc : c.mounts = false) :
    (hostAct h c ch).2.mounts = h.mounts := by
  unfold hostAct hostAnswer effect reading
  cases c with
  | mount | bind | umount => cases hc
  | _ => first | rfl | (dsimp only; (repeat' split) <;> rfl)

theorem tame_of_attaches (hc : c.attaches = true) : c.Tame := by
  cases c with
  | mkfs | mount | bind | umount => cases hc
  | _ => exact ⟨rfl, rfl⟩

theorem tame_of {α : Type} {x : Prog Cmd Cmd.Reply α} (hx : x.Calls (· = c)) (hc : c.Tame) :
    x.Calls Cmd.Tame :=
  hx.mono fun _ h => h ▸ hc

theorem calls_discover (p : String) : (discover p).run.Calls (· = .discover p) :=
  calls_run_bind (calls_perform rfl) fun _ => calls_outcome _ _

theorem calls_login (p iqn : String) : (login p iqn).run.Calls (· = .login p iqn) :=
  calls_reply (calls_perform rfl) (fun _ => trivial) fun _ => calls_ite_throw _ _

theorem calls_rescan (p iqn : String) : (rescan p iqn).run.Calls (· = .rescan p iqn) :=
  calls_run_bind (calls_perform rfl) fun _ => calls_outcome _ _

theorem calls_poolStatus (pool : String) : (poolStatus pool).run.Calls (· = .poolHealth pool) :=
  calls_reply (calls_perform rfl) (fun _ => trivial) fun _ => calls_ite_throw _ _

theorem calls_detectFilesystem (device : String) :
    (detectFilesystem device).run.Calls (· = .blkid device) :=
  calls_reply (calls_perform rfl) (fun _ => trivial) fun _ => calls_ite_throw _ _

theorem calls_formatIfEmpty (dev fsType : String) : (formatIfEmpty dev fsType).run.Calls
    fun c => c = .blkid dev ∨ c = .mkfs fsType dev := by
  refine calls_run_bind ((calls_detectFilesystem dev).mono fun c hc => .inl hc) fun existing => ?_
  split
  · split <;> trivial
  · unfold format
    split
    · exact calls_run_bind (calls_perform (.inr rfl)) fun _ =>
        calls_run_bind (calls_outcome _ _) fun _ => trivial
    · trivial

theorem places_isMounted (target : String) :
    (isMounted target).run.Calls (·.places = true) :=
  (calls_isMounted target).mono fun _ hc => hc ▸ rfl

theorem places_mount (device target fsType : String) (flags : List String) :
    (mount device target fsType flags).run.Calls (·.places = true) := by
  refine calls_run_bind (calls_perform rfl) fun _ => calls_run_bind (calls_outcome _ _) fun _ => ?_
  refine calls_run_bind (places_isMounted target) fun mounted => ?_
  cases mounted with
  | true => trivial
  | false => exact calls_run_bind (calls_perform rfl) fun _ => calls_outcome _ _

theorem places_bindMount (source target : String) (isDir readonly : Bool) :
    (bindMount source target isDir readonly).run.Calls (·.places = true) := by
  refine calls_run_bind (calls_perform rfl) fun _ => calls_run_bind (calls_outcome _ _) fun _ => ?_
  refine calls_run_bind (calls_run_bind (places_isMounted target) fun mounted => ?_) fun _ => ?_
  · cases mounted with
    | true => trivial
    | false => exact calls_run_bind (calls_perform rfl) fun _ => calls_outcome _ _
  · unfold remountReadonly
    split
    · exact calls_run_bind (calls_perform rfl) fun _ => calls_outcome _ _
    · trivial

theorem formats_of_places (hc : c.places = true) : c.formats = false := by
  cases c with
  | mkfs fsType device => cases hc
  | _ => rfl

theorem calls_mount (device target fsType : String) (flags : List String) :
    (mount device target fsType flags).run.Calls (·.formats = false) :=
  (places_mount device target fsType flags).mono fun _ => formats_of_places

theorem calls_bindMount (source target : String) (isDir readonly : Bool) :
    (bindMount source target isDir readonly).run.Calls (·.formats = false) :=
  (places_bindMount source target isDir readonly).mono fun _ => formats_of_places

theorem calls_resize (device mountpoint fsType : String) :
    (resize device mountpoint fsType).run.Calls (·.formats = false) := by
  unfold resize
  split
  · exact calls_run_bind (calls_perform rfl) fun _ => calls_outcome _ _
  · split
    · exact calls_run_bind (calls_perform rfl) fun _ => calls_outcome _ _
    · trivial

/-! ### Finding the device -/

section

open Qnap

theorem attaches_loginEach (iqn : String) (ps : List String) :
    (loginEach iqn ps).run.Calls (·.attaches = true) := by
  induction ps with
  | nil => trivial
  | cons p ps ih =>
    refine calls_run_bind ?_ fun up => calls_run_bind ih fun _ => trivial
    refine calls_run_bind (calls_attempt (attaches_of (calls_discover p) rfl)) fun found => ?_
    cases found with
    | error e => trivial
    | ok _ =>
      refine calls_run_bind (calls_attempt (attaches_of (calls_login p iqn) rfl)) fun up => ?_
      cases up with
      | error | ok => trivial

theorem attaches_attach (n : Qnap.NodePlugin) (volumeID : String) (vctx : StrMap) :
    (attach n volumeID vctx).run.Calls (·.attaches = true) := by
  refine calls_run_bind ((waits_resolveAttachIdentity n volumeID vctx).mono
    fun _ => Cmd.attaches_of_waits) fun id => ?_
  refine calls_run_bind (calls_run_bind (attaches_loginEach _ _) fun active => ?_) fun active => ?_
  · split <;> trivial
  · refine calls_run_bind (calls_attempt ((waits_attachDevice n _ _).mono
      fun _ => Cmd.attaches_of_waits)) fun res => ?_
    rcases res with ⟨wwid, e⟩ | ⟨dev, wwid⟩
    · refine calls_run_bind (calls_run_bind (attaches_of (Qnap.calls_flushMap n wwid) rfl) fun _ => ?_)
        fun _ => trivial
      refine (Qnap.calls_logoutEach _ _).mono fun c hc => ?_
      obtain ⟨p, rfl⟩ := hc
      rfl
    · trivial

theorem tame_attach (n : Qnap.NodePlugin) (volumeID : String) (vctx : StrMap) :
    (attach n volumeID vctx).run.Calls Cmd.Tame :=
  (attaches_attach n volumeID vctx).mono fun _ => tame_of_attaches

end

theorem tame_waitForZvol (dataset : String) : (Local.waitForZvol dataset).run.Calls Cmd.Tame := by
  refine calls_run_bind (calls_perform ⟨rfl, rfl⟩) fun reply => ?_
  cases reply with
  | ok dev => trivial
  | error e => trivial

theorem tame_locate (n : Local.NodePlugin) (req : StageRequest) :
    (Local.locate n req).run.Calls Cmd.Tame := by
  refine calls_run_bind trivial fun id => ?_
  change Prog.Calls _ (ExceptT.run (if _ then _ else _))
  split
  · trivial
  · refine calls_run_bind ?_ fun _ => tame_waitForZvol id.1
    unfold Local.checkPool
    split
    · refine calls_run_bind (calls_onError (tame_of (calls_poolStatus _) ⟨rfl, rfl⟩)) fun st => ?_
      change Prog.Calls _ (ExceptT.run (if _ then _ else _))
      split <;> trivial
    · trivial

theorem calls_stageFsType (req : StageRequest) (dev : String) :
    (Local.stageFsType req dev).run.Calls (· = .blkid dev) := by
  unfold Local.stageFsType
  dsimp only
  generalize (if req.volumeContext.get "fsType" = "" then req.volumeCapability.fsType
    else req.volumeContext.get "fsType") = declared
  split
  · refine calls_run_bind (calls_attempt (calls_detectFilesystem dev)) fun found => ?_
    cases found with
    | ok | error => trivial
  · trivial

theorem calls_unmount_formats (target : String) :
    (unmount target).run.Calls (·.formats = false) := by
  refine (calls_unmount target).mono fun c hc => ?_
  rcases hc with rfl | rfl
  · rfl
  · rfl

theorem unstages_unstageVolume (n : Qnap.NodePlugin) (req : UnstageRequest) :
    (Qnap.unstageVolume n req).run.Calls (·.Unstages req.volumeID) := by
  refine calls_run_bind ((Qnap.looks_resolveTeardown req).mono fun _ => Cmd.unstages_of_looks)
    fun id => ?_
  refine calls_run_bind ?_ fun _ => calls_run_bind (calls_onError ?_) fun _ => ?_
  · cases id with
    | none => trivial
    | some id =>
      refine calls_run_bind (calls_attempt ((Qnap.looks_deviceInUse req id).mono
        fun _ => Cmd.unstages_of_looks)) fun used => ?_
      rcases used with _ | (_ | _)
      all_goals trivial
  · refine (calls_unmount req.stagingTargetPath).mono fun c hc => ?_
    rcases hc with rfl | rfl
    · exact Cmd.unstages_of_looks rfl
    · exact ⟨rfl, nofun⟩
  · cases id with
    | none => trivial
    | some id =>
      refine calls_run_bind ?_ fun _ => calls_run_bind ?_ fun _ => calls_perform ⟨rfl, ?_⟩
      · exact (Qnap.calls_flushMap n id.wwid).mono fun _ hc => hc ▸ ⟨rfl, nofun⟩
      · unfold Qnap.logoutTarget
        split
        · trivial
        · refine calls_run_bind ((Qnap.looks_lastLUNOnTarget _ _).mono
            fun _ => Cmd.unstages_of_looks) fun last => ?_
          cases last with
          | false => trivial
          | true =>
            refine (Qnap.calls_logoutEach id.iqn (Qnap.portalList id)).mono fun c hc => ?_
            obtain ⟨p, rfl⟩ := hc
            exact ⟨rfl, nofun⟩
      · rintro v ⟨⟩
        rfl

theorem calls_unstageVolume (b : Backend) (req : UnstageRequest) :
    (b.unstageVolume req).run.Calls (·.formats = false) := by
  cases b with
  | qnap n =>
    refine (unstages_unstageVolume n req).mono fun c hc => ?_
    cases c with
    | mkfs fsType device => cases hc.1
    | _ => rfl
  | zvol n => exact calls_onError (calls_unmount_formats _)

theorem calls_publishVolume (b : Backend) (req : PublishRequest) :
    (b.publishVolume req).run.Calls (·.formats = false) := by
  cases b with
  | qnap n =>
    change (Qnap.publishVolume n req).run.Calls _
    unfold Qnap.publishVolume
    split
    · refine calls_run_bind ((tame_attach n _ _).mono fun c hc => hc.1) fun _ => ?_
      exact calls_onError (calls_bindMount _ _ _ _)
    · exact calls_onError (calls_bindMount _ _ _ _)
  | zvol n =>
    change (Local.publishVolume req).run.Calls _
    unfold Local.publishVolume
    split
    · refine calls_run_bind trivial fun id => ?_
      refine calls_run_bind ((tame_waitForZvol id.1).mono fun c hc => hc.1) fun dev => ?_
      exact calls_onError (calls_bindMount _ _ _ _)
    · exact calls_onError (calls_bindMount _ _ _ _)

theorem calls_grow (volumePath : String) (fsType : String) (bytes : Int) :
    (do
      let dev ← onError (fun e => internal ("locating device for expand: " ++ e))
        (sourceDevice volumePath)
      onError (fun e => internal ("resize filesystem: " ++ e)) (resize dev volumePath fsType)
      return bytes : BackendOp Int).run.Calls (·.formats = false) := by
  refine calls_run_bind (calls_onError ((calls_sourceDevice _).mono fun c hc => by rw [hc]; rfl))
    fun dev => ?_
  exact calls_run_bind (calls_onError (calls_resize _ _ _)) fun _ => trivial

theorem calls_expandVolume (b : Backend) (req : NodeExpandRequest) :
    (b.expandVolume req).run.Calls (·.formats = false) := by
  cases b with
  | qnap n =>
    have hrescan : ∀ iqn ps, (Qnap.rescanEach iqn ps).run.Calls (·.formats = false) := by
      intro iqn ps
      induction ps with
      | nil => trivial
      | cons p ps ih =>
        refine calls_run_bind (calls_attempt ((calls_rescan p iqn).mono fun c hc => ?_)) fun _ => ih
        rw [hc]
        rfl
    refine calls_run_bind (calls_run_bind (calls_perform rfl) fun found => ?_) fun _ => ?_
    · cases found with
      | none => trivial
      | some m =>
        change Prog.Calls _ (ExceptT.run (if _ then _ else _))
        split
        · exact hrescan _ _
        · trivial
    · split
      · trivial
      · exact calls_grow _ _ _
  | zvol n =>
    change (Local.nodeExpandVolume req).run.Calls _
    unfold Local.nodeExpandVolume
    split
    · trivial
    · exact calls_grow _ _ _

end NomadCsi.Node
