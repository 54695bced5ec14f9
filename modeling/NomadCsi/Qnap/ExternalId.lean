import NomadCsi.Lib.Segments
import NomadCsi.Qnap.Params

/-!
# QNAP volume and snapshot ids

The routing identity a volume id carries (`qnap/externalid.go`):
`qnap/v1/<lunIndex>/<targetIndex>/<t|s>/<lunName>`. The name is the last field, so an
id determines its four parts whatever the name holds (`ExternalID.toString_inj`).
-/

namespace NomadCsi.Qnap

open Lib.Go Driver

structure ExternalID where
  lunIndex : Int
  targetIndex : Int
  ownTarget : Bool
  lunName : String
deriving DecidableEq, Repr

/-- `t`: the target was made for this LUN; `s`: it is shared. -/
def ownLetter (own : Bool) : String := if own then "t" else "s"

def ExternalID.toString (e : ExternalID) : String :=
  "qnap/v1" ++ "/" ++ itoa e.lunIndex ++ "/" ++ itoa e.targetIndex ++ "/" ++
    ownLetter e.ownTarget ++ "/" ++ e.lunName

def parseExternalID (volumeID : String) : Except Error ExternalID :=
  match split volumeID '/' with
  | [p0, p1, p2, p3, p4, p5] =>
    if p0 ≠ "qnap" ∨ p1 ≠ "v1" then
      .error (invalidArgument ("malformed qnap volume id " ++ quote volumeID))
    else match atoi p2 with
      | none => .error (invalidArgument ("malformed lun index in volume id " ++ quote volumeID))
      | some lun => match atoi p3 with
        | none =>
          .error (invalidArgument ("malformed target index in volume id " ++ quote volumeID))
        | some tgt => .ok ⟨lun, tgt, p4 = "t", p5⟩
  | _ => .error (invalidArgument ("malformed qnap volume id " ++ quote volumeID))

structure SnapshotID where
  lunIndex : Int
  snapshotID : Int
deriving DecidableEq, Repr

def SnapshotID.toString (s : SnapshotID) : String :=
  "qnaps/v1" ++ "/" ++ itoa s.lunIndex ++ "/" ++ itoa s.snapshotID

def parseSnapshotID (id : String) : Except Error SnapshotID :=
  match split id '/' with
  | [p0, p1, p2, p3] =>
    if p0 ≠ "qnaps" ∨ p1 ≠ "v1" then
      .error (invalidArgument ("malformed qnap snapshot id " ++ quote id))
    else match atoi p2 with
      | none => .error (invalidArgument ("malformed lun index in snapshot id " ++ quote id))
      | some lun => match atoi p3 with
        | none => .error (invalidArgument ("malformed snapshot id in " ++ quote id))
        | some snap => .ok ⟨lun, snap⟩
  | _ => .error (invalidArgument ("malformed qnap snapshot id " ++ quote id))

theorem slash_notMem_ownLetter (own : Bool) : '/' ∉ (ownLetter own).toList := by
  revert own
  decide

theorem ownLetter_inj : ∀ {own own' : Bool}, ownLetter own = ownLetter own' → own = own' := by
  decide

theorem ExternalID.toString_inj {e e' : ExternalID} (h : e.toString = e'.toString) : e = e' := by
  obtain ⟨i, t, o, n⟩ := e
  obtain ⟨i', t', o', n'⟩ := e'
  simp only [ExternalID.toString, String.append_assoc, String.append_right_inj] at h
  obtain ⟨hi, h⟩ := slash_inj (slash_notMem_itoa _) (slash_notMem_itoa _) h
  obtain ⟨ht, h⟩ := slash_inj (slash_notMem_itoa _) (slash_notMem_itoa _) h
  obtain ⟨ho, hn⟩ := slash_inj (slash_notMem_ownLetter _) (slash_notMem_ownLetter _) h
  rw [itoa_inj hi, itoa_inj ht, ownLetter_inj ho, hn]

/-- The segments of an id; the last one is cut up if the name has slashes. -/
theorem ExternalID.split_toString (e : ExternalID) : split e.toString '/' =
    ["qnap", "v1", itoa e.lunIndex, itoa e.targetIndex, ownLetter e.ownTarget] ++
      split e.lunName '/' := by
  rw [ExternalID.toString, split_slash, split_slash, split_slash, split_slash,
    split_of_notMem (slash_notMem_itoa _), split_of_notMem (slash_notMem_itoa _),
    split_of_notMem (slash_notMem_ownLetter _), show split "qnap/v1" '/' = ["qnap", "v1"] by decide]
  rfl

theorem SnapshotID.split_toString (s : SnapshotID) :
    split s.toString '/' = ["qnaps", "v1", itoa s.lunIndex, itoa s.snapshotID] := by
  rw [SnapshotID.toString, split_slash, split_slash, split_of_notMem (slash_notMem_itoa _),
    split_of_notMem (slash_notMem_itoa _), show split "qnaps/v1" '/' = ["qnaps", "v1"] by decide]
  rfl

theorem ownLetter_eq_t (own : Bool) : decide (ownLetter own = "t") = own := by
  revert own
  decide

theorem parseExternalID_toString {eid e : ExternalID} (h : parseExternalID eid.toString = .ok e) :
    e = eid := by
  unfold parseExternalID at h
  rw [eid.split_toString] at h
  cases hs : split eid.lunName '/' with
  | nil => exact absurd hs (split_ne_nil _ _)
  | cons name rest =>
    rw [hs] at h
    cases rest with
    | cons x rest => cases h
    | nil =>
      have hname : name = eid.lunName := by
        have hj := join_split eid.lunName
        rw [hs] at hj
        exact hj
      simp only [List.cons_append, List.nil_append, ne_eq, not_true_eq_false, or_self, if_false,
        atoi_itoa] at h
      split at h
      · cases h
      · next lun hl =>
        split at h
        · cases h
        · next tgt ht =>
          split_ifs at hl ht
          cases hl
          cases ht
          rw [← Except.ok.inj h, ownLetter_eq_t, hname]

end NomadCsi.Qnap
