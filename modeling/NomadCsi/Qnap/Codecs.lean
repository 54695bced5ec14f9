import NomadCsi.Lib.Decimal
import NomadCsi.Local.Ids
import NomadCsi.Qnap.ExternalId

/-!
# The id codecs

Every QNAP volume and snapshot id reads back, and the four parsers of the two backends
accept disjoint sets of texts. The converse, that an accepted text is the id that is
written for its value, fails for other spellings of a number, and for any other text in the
place of the letter, which means a shared target.
-/

namespace NomadCsi.Qnap

open Lib.Go Driver

def Fits64 (n : Int) : Prop := -2 ^ 63 ≤ n ∧ n < 2 ^ 63

instance (n : Int) : Decidable (Fits64 n) := inferInstanceAs (Decidable (_ ∧ _))

theorem atoi_of_fits {n : Int} (h : Fits64 n) : atoi (itoa n) = some n :=
  (atoi_itoa n).trans (if_pos h)

/-- The numbers of a volume id are canonical, and its fifth field is one of the two letters. -/
def CanonicalVolume (id : String) : Prop :=
  ∀ lun tgt own name, split id '/' = ["qnap", "v1", lun, tgt, own, name] →
    Canonical lun ∧ Canonical tgt ∧ (own = "t" ∨ own = "s")

def CanonicalSnapshot (id : String) : Prop :=
  ∀ lun snap, split id '/' = ["qnaps", "v1", lun, snap] → Canonical lun ∧ Canonical snap

variable {e : ExternalID} {s : SnapshotID}

section

variable {id : String}

theorem of_parseExternalID (h : parseExternalID id = .ok e) :
    ∃ lun tgt own, split id '/' = ["qnap", "v1", lun, tgt, own, e.lunName] ∧
      atoi lun = some e.lunIndex ∧ atoi tgt = some e.targetIndex ∧
      e.ownTarget = decide (own = "t") := by
  unfold parseExternalID at h
  split at h
  · next p0 p1 lun tgt own name hsplit =>
    split at h
    · cases h
    · next hhead =>
      simp only [ne_eq, not_or, not_not] at hhead
      obtain ⟨rfl, rfl⟩ := hhead
      split at h
      · cases h
      · next l hl =>
        split at h
        · cases h
        · next t ht =>
          obtain rfl := Except.ok.inj h
          exact ⟨lun, tgt, own, hsplit, hl, ht, rfl⟩
  · cases h

theorem of_parseSnapshotID (h : parseSnapshotID id = .ok s) :
    ∃ lun snap, split id '/' = ["qnaps", "v1", lun, snap] ∧ atoi lun = some s.lunIndex ∧
      atoi snap = some s.snapshotID := by
  unfold parseSnapshotID at h
  split at h
  · next p0 p1 lun snap hsplit =>
    split at h
    · cases h
    · next hhead =>
      simp only [ne_eq, not_or, not_not] at hhead
      obtain ⟨rfl, rfl⟩ := hhead
      split at h
      · cases h
      · next l hl =>
        split at h
        · cases h
        · next n hn =>
          obtain rfl := Except.ok.inj h
          exact ⟨lun, snap, hsplit, hl, hn⟩
  · cases h

theorem parseExternalID_of_fits (hlun : Fits64 e.lunIndex) (htgt : Fits64 e.targetIndex)
    (hname : '/' ∉ e.lunName.toList) : parseExternalID e.toString = .ok e := by
  unfold parseExternalID
  rw [e.split_toString, split_of_notMem hname]
  simp only [List.cons_append, List.nil_append, atoi_of_fits hlun, atoi_of_fits htgt,
    ownLetter_eq_t]
  simp

theorem parseSnapshotID_of_fits (hlun : Fits64 s.lunIndex) (hsnap : Fits64 s.snapshotID) :
    parseSnapshotID s.toString = .ok s := by
  unfold parseSnapshotID
  rw [s.split_toString]
  simp only [atoi_of_fits hlun, atoi_of_fits hsnap]
  simp

theorem ownLetter_of_parsed (own : String) :
    ownLetter (decide (own = "t")) = own ↔ own = "t" ∨ own = "s" := by
  unfold ownLetter
  by_cases ht : own = "t"
  · simp [ht]
  · simp [ht, eq_comm]

theorem eq_iff_split {s t : String} : s = t ↔ split s '/' = split t '/' := by
  refine ⟨congrArg (split · '/'), fun h => ?_⟩
  rw [← join_split s, h, join_split t]

/-- An accepted volume id is the id of its value exactly if it is spelled as one. -/
theorem toString_of_parseExternalID (h : parseExternalID id = .ok e) :
    e.toString = id ↔ CanonicalVolume id := by
  obtain ⟨lun, tgt, own, hsplit, hlun, htgt, hown⟩ := of_parseExternalID h
  have hname : '/' ∉ e.lunName.toList := notMem_of_mem_split (s := id) (by rw [hsplit]; simp)
  have hparts : e.toString = id ↔ Canonical lun ∧ Canonical tgt ∧ (own = "t" ∨ own = "s") := by
    rw [← itoa_of_atoi_iff hlun, ← itoa_of_atoi_iff htgt, ← ownLetter_of_parsed, ← hown]
    rw [eq_iff_split, hsplit, e.split_toString, split_of_notMem hname]
    simp
  rw [hparts]
  constructor
  · intro hcanon lun' tgt' own' name' hsplit'
    rw [hsplit] at hsplit'
    simp only [List.cons.injEq, true_and, and_true] at hsplit'
    obtain ⟨rfl, rfl, rfl, -⟩ := hsplit'
    exact hcanon
  · intro hcanon
    exact hcanon lun tgt own e.lunName hsplit

theorem toString_of_parseSnapshotID (h : parseSnapshotID id = .ok s) :
    s.toString = id ↔ CanonicalSnapshot id := by
  obtain ⟨lun, snap, hsplit, hlun, hsnap⟩ := of_parseSnapshotID h
  have hparts : s.toString = id ↔ Canonical lun ∧ Canonical snap := by
    rw [← itoa_of_atoi_iff hlun, ← itoa_of_atoi_iff hsnap]
    rw [eq_iff_split, hsplit, s.split_toString]
    simp
  rw [hparts]
  constructor
  · intro hcanon lun' snap' hsplit'
    rw [hsplit] at hsplit'
    simp only [List.cons.injEq, true_and, and_true] at hsplit'
    obtain ⟨rfl, rfl⟩ := hsplit'
    exact hcanon
  · intro hcanon
    exact hcanon lun snap hsplit

/-- The first segment of a text that one of the parsers of the two backends accepts. -/
inductive Accepted (id : String) : String → Prop where
  | volume {e : ExternalID} : parseExternalID id = .ok e → Accepted id "qnap"
  | snapshot {s : SnapshotID} : parseSnapshotID id = .ok s → Accepted id "qnaps"
  | localVolume {e : Local.ExternalID} : Local.parseExternalID id = .ok e → Accepted id "local"
  | localSnapshot {s : Local.SnapshotID} : Local.parseSnapshotID id = .ok s → Accepted id "locals"

theorem Accepted.head {first : String} (h : Accepted id first) :
    (split id '/').head? = some first := by
  cases h with
  | volume h =>
    obtain ⟨lun, tgt, own, hsplit, -⟩ := of_parseExternalID h
    rw [hsplit]
    rfl
  | snapshot h =>
    obtain ⟨lun, snap, hsplit, -⟩ := of_parseSnapshotID h
    rw [hsplit]
    rfl
  | localVolume h => exact (Local.of_parseExternalID h).2.2
  | localSnapshot h => exact Local.head_of_parseSnapshotID h

theorem Accepted.unique {first first' : String} (h : Accepted id first) (h' : Accepted id first') :
    first = first' :=
  Option.some.inj (h.head.symm.trans h'.head)

end

/-- Ids read back; an accepted text is the id of its value exactly if its numbers are canonical and
its fifth field is one of the two letters; and a text that a QNAP parser accepts is accepted by no
other parser of the two backends. -/
theorem codecs_exact (id : String) (e : ExternalID) (s : SnapshotID) :
    (Fits64 e.lunIndex → Fits64 e.targetIndex → '/' ∉ e.lunName.toList →
      parseExternalID e.toString = .ok e) ∧
    (Fits64 s.lunIndex → Fits64 s.snapshotID → parseSnapshotID s.toString = .ok s) ∧
    (parseExternalID id = .ok e → (e.toString = id ↔ CanonicalVolume id)) ∧
    (parseSnapshotID id = .ok s → (s.toString = id ↔ CanonicalSnapshot id)) ∧
    ¬ (parseExternalID id = .ok e ∧ parseSnapshotID id = .ok s) ∧
    (∀ e' s', (Local.parseExternalID id = .ok e' ∨ Local.parseSnapshotID id = .ok s') →
      parseExternalID id ≠ .ok e ∧ parseSnapshotID id ≠ .ok s) := by
  refine ⟨parseExternalID_of_fits, parseSnapshotID_of_fits, toString_of_parseExternalID,
    toString_of_parseSnapshotID, ?_, ?_⟩
  · rintro ⟨he, hs⟩
    have hsame := (Accepted.volume he).unique (.snapshot hs)
    revert hsame
    decide
  · rintro e' s' (hlocal | hlocal)
    · refine ⟨fun he => ?_, fun hs => ?_⟩
      · have hsame := (Accepted.volume he).unique (.localVolume hlocal)
        revert hsame
        decide
      · have hsame := (Accepted.snapshot hs).unique (.localVolume hlocal)
        revert hsame
        decide
    · refine ⟨fun he => ?_, fun hs => ?_⟩
      · have hsame := (Accepted.volume he).unique (.localSnapshot hlocal)
        revert hsame
        decide
      · have hsame := (Accepted.snapshot hs).unique (.localSnapshot hlocal)
        revert hsame
        decide

theorem codecs_exact_volume :
    parseExternalID (ExternalID.toString ⟨3, -4, true, "pvc-1"⟩) = .ok ⟨3, -4, true, "pvc-1"⟩ ∧
      CanonicalVolume (ExternalID.toString ⟨3, -4, true, "pvc-1"⟩) := by
  have h := codecs_exact (ExternalID.toString ⟨3, -4, true, "pvc-1"⟩) ⟨3, -4, true, "pvc-1"⟩ ⟨3, 7⟩
  have hread := h.1 (by decide) (by decide) (by decide)
  exact ⟨hread, (h.2.2.1 hread).1 rfl⟩

/-- A leading zero, and a third letter: both texts are accepted, and neither is the id of its
value. -/
theorem other_spellings_accepted : ¬ (∀ id e, parseExternalID id = .ok e → e.toString = id) ∧
    ¬ ∀ id s, parseSnapshotID id = .ok s → s.toString = id := by
  constructor
  · intro h
    have hx := h "qnap/v1/3/+4/x/pvc-1" ⟨3, 4, false, "pvc-1"⟩ (by decide)
    revert hx
    decide
  · intro h
    have hx := h "qnaps/v1/03/7" ⟨3, 7⟩ (by decide)
    revert hx
    decide

end NomadCsi.Qnap
