import NomadCsi.Lib.Eval
import NomadCsi.Lib.Round
import NomadCsi.Local.Ops
import NomadCsi.Zfs.Logic

/-!
# Sizes in whole blocks

CreateVolume and ExpandVolume round a requested size up to whole blocks in `int64`
arithmetic. Two things can wrap: the parsed number times its unit, which may come out as
zero or negative, and the sum of the rounding. `denotedSize` is what a size string says
without any bound. Expansion reads the block from the zvol.
-/

namespace NomadCsi.Local

open Lib Lib.Go Driver Zfs

/-! ### The block of a create request -/

def denotedSize (s : String) : Option Int :=
  let cs := (trimSpace s).toList
  match cs.getLast? with
  | none => none
  | some last =>
    let num := if unitOf last ≠ 1 then cs.dropLast else cs
    match atoi (trimSpace (String.ofList num)) with
    | some n => if n ≤ 0 then none else some (n * unitOf last)
    | none => none

theorem parseSizeBytes_eq (s : String) : parseSizeBytes s = (denotedSize s).map wrap64 := by
  unfold parseSizeBytes denotedSize
  dsimp only
  cases (trimSpace s).toList.getLast? with
  | none => rfl
  | some last =>
    dsimp only
    generalize atoi _ = number
    cases number with
    | none => rfl
    | some n =>
      by_cases hn : n ≤ 0
      · simp only [if_pos hn, Option.map_none]
      · simp only [if_neg hn, Option.map_some]

theorem unitOf_pos (c : Char) : 0 < unitOf c := by
  unfold unitOf
  split_ifs <;> decide

theorem denotedSize_pos {s : String} {block : Int} (h : denotedSize s = some block) :
    0 < block := by
  unfold denotedSize at h
  dsimp only at h
  split at h
  · cases h
  · split at h
    · split at h
      · cases h
      · next hn =>
        cases h
        exact Int.mul_pos (Int.not_le.1 hn) (unitOf_pos _)
    · cases h

theorem resolveParams_denotedSize {cfg : Config} {p : StrMap} {caps : List VolumeCapability}
    {vp : VolumeParams} (h : resolveParams cfg p caps = .ok vp) :
    ∃ block, denotedSize vp.volblocksize = some block := by
  simp only [resolveParams, bind_ok] at h
  obtain ⟨_, -, v, hv, _, -, h⟩ := h
  rw [← Except.ok.inj h]
  unfold resolveVolblocksize at hv
  generalize strParam p "volblocksize" _ = v' at hv
  dsimp only at hv
  rw [parseSizeBytes_eq] at hv
  cases hd : denotedSize v' with
  | none =>
    rw [hd] at hv
    cases hv
  | some block =>
    rw [hd] at hv
    cases hv
    exact ⟨block, hd⟩

/-- The size in whole blocks: at least what is required, and less than a block more. -/
def IsSize (required block size : Int) : Prop :=
  required ≤ size ∧ block ∣ size ∧ size - required < block

theorem isSize_iff {required block size : Int} (hb : 0 < block) :
    IsSize required block size ↔ size = roundUp block required := by
  constructor
  · rintro ⟨hle, hd, hlt⟩
    exact eq_roundUp hb hle hd (by omega)
  · rintro rfl
    have hle := roundUp_le_add hb.ne' required
    exact ⟨le_roundUp hb required, dvd_roundUp block required, by omega⟩

/-- What a request for blocks of this size is to come to. -/
structure Exact (cr : CapacityRange) (block : Int) (r : Except Error Int) : Prop where
  panics : r ≠ .error dividePanic
  size : ∀ n, r = .ok n → IsSize cr.requiredBytes block n ∧ (0 < cr.limitBytes → n ≤ cr.limitBytes)
  error : ∀ e, r = .error e → cr.requiredBytes ≤ 0 ∨ ∃ n, IsSize cr.requiredBytes block n ∧
    (0 < cr.limitBytes ∧ cr.limitBytes < n ∨ 2 ^ 63 ≤ n)

section

variable {cr : CapacityRange} {s : String} {block : Int}

theorem roundUpToBlock_zero (hreq : 0 < cr.requiredBytes) (hs : denotedSize s = some block)
    (hb : wrap64 block = 0) : roundUpToBlock cr s = .error dividePanic := by
  unfold roundUpToBlock
  rw [if_neg (Int.not_le.2 hreq), parseSizeBytes_eq, hs, Option.map_some, hb]
  rfl

theorem roundUpToBlock_eq (hreq : 0 < cr.requiredBytes) (hs : denotedSize s = some block)
    (hb : wrap64 block ≠ 0) :
    (0 < cr.limitBytes ∧ cr.limitBytes < roundUp64 (wrap64 block) cr.requiredBytes ∧
      ∃ msg, roundUpToBlock cr s = .error (outOfRange msg)) ∨
    ((0 < cr.limitBytes → roundUp64 (wrap64 block) cr.requiredBytes ≤ cr.limitBytes) ∧
      roundUpToBlock cr s = .ok (roundUp64 (wrap64 block) cr.requiredBytes)) := by
  unfold roundUpToBlock
  rw [if_neg (Int.not_le.2 hreq), parseSizeBytes_eq, hs, Option.map_some]
  simp only [quot64, if_neg hb]
  split
  · next h => exact .inl ⟨h.1, h.2, _, rfl⟩
  · next h => exact .inr ⟨fun h0 => Int.not_lt.1 fun h1 => h ⟨h0, h1⟩, rfl⟩

theorem exact_of_fits (hreq : 0 < cr.requiredBytes) (hs : denotedSize s = some block)
    (hfits : cr.requiredBytes + block ≤ 2 ^ 63) : Exact cr block (roundUpToBlock cr s) := by
  have hpos := denotedSize_pos hs
  have hwrap : wrap64 block = block := wrap64_eq (by omega)
  have hround : roundUp64 block cr.requiredBytes = roundUp block cr.requiredBytes :=
    roundUp64_eq (by omega) (by omega)
  have hsize := (isSize_iff hpos).2 hround
  rcases roundUpToBlock_eq hreq hs (by omega) with ⟨h0, hlt, msg, hr⟩ | ⟨hle, hr⟩
  · rw [hwrap] at hlt
    rw [hr]
    refine ⟨fun h => ?_, fun n h => ?_, fun e _ => .inr ⟨_, hsize, .inl ⟨h0, hlt⟩⟩⟩
    · cases h
    · cases h
  · rw [hwrap] at hle hr
    rw [hr]
    refine ⟨fun h => ?_, fun n h => ?_, fun e h => ?_⟩
    · cases h
    · cases h
      exact ⟨hsize, hle⟩
    · cases h

theorem not_exact_of_overflow (hreq : 0 < cr.requiredBytes ∧ cr.requiredBytes < 2 ^ 63)
    (hs : denotedSize s = some block) (hsmall : block < 2 ^ 63)
    (hover : 2 ^ 63 < cr.requiredBytes + block) : ¬ Exact cr block (roundUpToBlock cr s) := by
  have hpos := denotedSize_pos hs
  have hwrap : wrap64 block = block := wrap64_eq (by omega)
  have hiff {n : Int} (h0 : 0 ≤ n) := lt_roundUp64_iff (b := block) h0 hreq (by omega)
  intro h
  rcases roundUpToBlock_eq hreq.1 hs (by omega) with ⟨h0, hlt, -⟩ | ⟨-, hr⟩
  · rw [hwrap] at hlt
    exact absurd ((hiff h0.le).1 hlt).1 (Int.not_le.2 hover)
  · rw [hwrap] at hr
    have hpositive : 0 < roundUp64 block cr.requiredBytes := hreq.1.trans_le (h.size _ hr).1.1
    exact absurd ((hiff le_rfl).1 hpositive).1 (Int.not_le.2 hover)

/-- A block of `2^63` bytes or more fits nowhere: only an error is right. -/
theorem exact_iff_error (hreq : 0 < cr.requiredBytes) (hs : denotedSize s = some block)
    (hbig : 2 ^ 63 ≤ block) : Exact cr block (roundUpToBlock cr s) ↔
      ∃ e, e ≠ dividePanic ∧ roundUpToBlock cr s = .error e := by
  have hpos := denotedSize_pos hs
  have hleast : ∀ n, IsSize cr.requiredBytes block n → 2 ^ 63 ≤ n := by
    rintro n ⟨hle, hd, -⟩
    exact hbig.trans (Int.le_of_dvd (by omega) hd)
  constructor
  · intro h
    cases hr : roundUpToBlock cr s with
    | error e =>
      rw [hr] at h
      exact ⟨e, fun he => h.panics (congrArg _ he), rfl⟩
    | ok n =>
      have hge := hleast n (h.size n hr).1
      have hlt : n < 2 ^ 63 := by
        by_cases hb : wrap64 block = 0
        · rw [roundUpToBlock_zero hreq hs hb] at hr
          cases hr
        · rcases roundUpToBlock_eq hreq hs hb with ⟨-, -, msg, hr'⟩ | ⟨-, hr'⟩
          · rw [hr'] at hr
            cases hr
          · rw [hr'] at hr
            cases hr
            exact roundUp64_lt _ _
      omega
  · rintro ⟨e, he, hr⟩
    rw [hr]
    refine ⟨fun h => he (Except.error.inj h), fun n h => ?_, fun _ _ => .inr ?_⟩
    · cases h
    · have hsize := (isSize_iff hpos).2 (Eq.refl (roundUp block cr.requiredBytes))
      exact ⟨_, hsize, .inr (hleast _ hsize)⟩

/-- With a block that wraps, there is an error exactly if the wrapped rounding passes the limit. -/
theorem error_iff_of_wraps (hreq : 0 < cr.requiredBytes ∧ cr.requiredBytes < 2 ^ 63)
    (hs : denotedSize s = some block) :
    (∃ e, e ≠ dividePanic ∧ roundUpToBlock cr s = .error e) ↔
      wrap64 block ≠ 0 ∧ cr.requiredBytes + wrap64 block ≤ 2 ^ 63 ∧ 0 < cr.limitBytes ∧
        cr.limitBytes < roundUp (wrap64 block) cr.requiredBytes := by
  have hrange : -2 ^ 63 ≤ wrap64 block ∧ wrap64 block < 2 ^ 63 := by
    unfold wrap64
    omega
  by_cases hb : wrap64 block = 0
  · rw [roundUpToBlock_zero hreq.1 hs hb]
    refine iff_of_false ?_ fun h => h.1 hb
    rintro ⟨e, he, h⟩
    exact he (Except.error.inj h).symm
  · have hiff (h0 : 0 < cr.limitBytes) := lt_roundUp64_iff h0.le hreq ⟨hb, hrange⟩
    rcases roundUpToBlock_eq hreq.1 hs hb with ⟨h0, hlt, msg, hr⟩ | ⟨hle, hr⟩
    · refine iff_of_true ⟨_, ?_, hr⟩ ⟨hb, ((hiff h0).1 hlt).1, h0, ((hiff h0).1 hlt).2⟩
      intro he
      cases he
    · rw [hr]
      refine iff_of_false ?_ ?_
      · rintro ⟨e, -, h⟩
        cases h
      · rintro ⟨-, hsum, h0, hlt⟩
        exact absurd ((hiff h0).2 ⟨hsum, hlt⟩) (Int.not_lt.2 (hle h0))

end

/-- CreateVolume computes the size of a request exactly if the rounding does not overflow with the
block that the accepted string denotes, or there is an error anyway: nothing is required, or the
block does not fit in 64 bits and the size for what is left of it passes the limit. -/
theorem roundUpToBlock_exact_iff {cfg : Config} {p : StrMap} {caps : List VolumeCapability}
    {vp : VolumeParams} {cr : CapacityRange} (hvp : resolveParams cfg p caps = .ok vp)
    (hreq : cr.requiredBytes < 2 ^ 63) : ∃ block, denotedSize vp.volblocksize = some block ∧
      (Exact cr block (roundUpToBlock cr vp.volblocksize) ↔
        cr.requiredBytes ≤ 0 ∨ cr.requiredBytes + block ≤ 2 ^ 63 ∨
        2 ^ 63 ≤ block ∧ wrap64 block ≠ 0 ∧ cr.requiredBytes + wrap64 block ≤ 2 ^ 63 ∧
          0 < cr.limitBytes ∧ cr.limitBytes < roundUp (wrap64 block) cr.requiredBytes) := by
  obtain ⟨block, hs⟩ := resolveParams_denotedSize hvp
  refine ⟨block, hs, ?_⟩
  have hpos := denotedSize_pos hs
  by_cases hnone : cr.requiredBytes ≤ 0
  · refine iff_of_true ?_ (.inl hnone)
    have hr : roundUpToBlock cr vp.volblocksize =
        .error (invalidArgument "capacity required_bytes must be > 0") := if_pos hnone
    rw [hr]
    refine ⟨fun h => ?_, fun n h => ?_, fun _ _ => .inl hnone⟩
    · cases h
    · cases h
  · have hreq0 : 0 < cr.requiredBytes := Int.not_le.1 hnone
    by_cases hfits : cr.requiredBytes + block ≤ 2 ^ 63
    · exact iff_of_true (exact_of_fits hreq0 hs hfits) (.inr (.inl hfits))
    · rw [or_iff_right hnone, or_iff_right hfits]
      by_cases hbig : 2 ^ 63 ≤ block
      · rw [exact_iff_error hreq0 hs hbig, error_iff_of_wraps ⟨hreq0, hreq⟩ hs]
        exact (and_iff_right hbig).symm
      · exact iff_of_false (not_exact_of_overflow ⟨hreq0, hreq⟩ hs (Int.not_le.1 hbig)
          (Int.not_le.1 hfits)) fun h => hbig h.1

def tankBlocks (volblocksize : String) : Config := ⟨[{ name := "tank" }], "tank", volblocksize, 0⟩

def tankParams (volblocksize : String) : VolumeParams := ⟨"ext4", false, volblocksize, "auto", "tank"⟩

theorem roundUpToBlock_exact_16K :
    Exact ⟨1000000, 0⟩ 16384 (roundUpToBlock ⟨1000000, 0⟩ "16K") := by
  have hvp : resolveParams (tankBlocks "16K") ∅ [] = .ok (tankParams "16K") := by decide
  have hs : denotedSize "16K" = some 16384 := by decide
  obtain ⟨block, hblock, hiff⟩ := roundUpToBlock_exact_iff hvp
    (show (⟨1000000, 0⟩ : CapacityRange).requiredBytes < 2 ^ 63 by decide)
  obtain rfl : 16384 = block := Option.some.inj (hs.symm.trans hblock)
  exact hiff.2 (.inr (.inl (by decide)))

/-- An accepted block size of `2^54` KiB wraps to zero, and the rounding divides by it; with blocks
of 16 KiB a size close to `2^63` comes out negative. -/
theorem roundUpToBlock_wraps :
    resolveParams (tankBlocks "18014398509481984K") ∅ [] =
      .ok (tankParams "18014398509481984K") ∧
    roundUpToBlock ⟨1, 0⟩ "18014398509481984K" = .error dividePanic ∧
    resolveParams (tankBlocks "16K") ∅ [] = .ok (tankParams "16K") ∧
    roundUpToBlock ⟨9223372036854775807, 0⟩ "16K" = .ok (-9223372036854759424) := by
  decide

/-! ### Expanding -/

/-- A zvol in whole blocks of this size, with 64-bit figures. -/
structure InBlocks (s : Store) (ds : String) (v : Zvol) (block : Int) : Prop where
  zvol : s.zvol? ds = some v
  reads : blockBytes v.volblocksize = block
  pos : 0 < block ∧ block < 2 ^ 63
  size : 0 < v.volsize ∧ v.volsize < 2 ^ 63
  whole : block ∣ v.volsize

/-- The rounding does not overflow, the size is no smaller than the current one and within the
limit. -/
def Grows (cur block required limit : Int) : Prop :=
  required + block ≤ 2 ^ 63 ∧ cur ≤ roundUp block required ∧
    (0 < limit → roundUp block required ≤ limit)

section

variable {cur block required limit : Int}

theorem expandSize_eq (hb : 0 < block) (hreq : 0 < required) (h : required + block ≤ 2 ^ 63) :
    expandSize required block = roundUp block required :=
  roundUp64_eq (by omega) (by omega)

/-- What the code compares decides it: a size that overflowed is not positive. -/
theorem grows_iff (hcur : 0 < cur) (hb : 0 < block ∧ block < 2 ^ 63)
    (hreq : 0 < required ∧ required < 2 ^ 63) : Grows cur block required limit ↔
      cur ≤ expandSize required block ∧ (0 < limit → expandSize required block ≤ limit) := by
  constructor
  · rintro ⟨hfits, hle, hlimit⟩
    rw [expandSize_eq hb.1 hreq.1 hfits]
    exact ⟨hle, hlimit⟩
  · rintro ⟨hle, hlimit⟩
    have hpos : 0 < expandSize required block := hcur.trans_le hle
    obtain ⟨hfits, -⟩ := (lt_roundUp64_iff le_rfl hreq (by omega)).1 hpos
    rw [expandSize_eq hb.1 hreq.1 hfits] at hle hlimit
    exact ⟨hfits, hle, hlimit⟩

variable {s : Store} {id : String} {eid : ExternalID} {v : Zvol}

structure Expanded (s : Store) (ds : String) (v : Zvol) (block required limit : Int)
    (tr : List ZfsEv) (r : Except Error Int) (s' : Store) : Prop where
  ok : ∀ n, r = .ok n → Grows v.volsize block required limit ∧ n = roundUp block required ∧
    s'.zvol? ds = some { v with volsize := n } ∧ (n = v.volsize → s' = s)
  error : ∀ e, r = .error e → s' = s ∧ ¬ Grows v.volsize block required limit ∨ ¬ Unfailing tr

theorem Expanded.of_error {ds : String} {tr : List ZfsEv} {s' : Store}
    {e : Error} (h : s' = s ∧ ¬ Grows v.volsize block required limit ∨ ¬ Unfailing tr) :
    Expanded s ds v block required limit tr (.error e) s' := by
  refine ⟨fun n hn => ?_, fun _ _ => h⟩
  cases hn

theorem Expanded.of_ok {ds : String} {tr : List ZfsEv} {s' : Store}
    {n : Int} (hg : Grows v.volsize block required limit) (hn : n = roundUp block required)
    (hv : s'.zvol? ds = some { v with volsize := n }) (hs : n = v.volsize → s' = s) :
    Expanded s ds v block required limit tr (.ok n) s' := by
  refine ⟨fun m hm => ?_, fun e he => ?_⟩
  · cases hm
    exact ⟨hg, hn, hv, hs⟩
  · cases he

theorem wp_localExpand (hid : parseExternalID id = .ok eid) (hv : InBlocks s eid.dataset v block)
    (hreq : 0 < required ∧ required < 2 ^ 63) :
    wp zfsAct (localExpand id required limit).run s
      (Expanded s eid.dataset v block required limit) := by
  have hgrows : Grows v.volsize block required limit ↔ _ := grows_iff hv.size.1 hv.pos hreq
  unfold localExpand
  rw [hid, decided_ok_bind]
  refine wp_served (fun _ _ => .of_error (.inr (not_unfailing_of_error (.head _)))) ?_
  intro _ _ s1 hserve
  obtain ⟨rfl, v', hv', rfl⟩ := serve_found rfl hserve
  obtain rfl : v = v' := Option.some.inj (hv.zvol.symm.trans hv')
  rw [hv.reads, if_neg (Int.not_le.2 hv.pos.1)]
  dsimp only
  split
  · next hlimit =>
    exact .of_error (.inl ⟨rfl, fun h => Int.not_le.2 hlimit.2 ((hgrows.1 h).2 hlimit.1)⟩)
  next hlimit =>
  refine wp_served (fun _ _ => .of_error (.inr (not_unfailing_of_error (.tail _ (.head _))))) ?_
  intro _ _ s2 hserve
  obtain ⟨rfl, v', hv', rfl⟩ := serve_found rfl hserve
  obtain rfl : v = v' := Option.some.inj (hv.zvol.symm.trans hv')
  split
  · next hshrink => exact .of_error (.inl ⟨rfl, fun h => Int.not_le.2 hshrink (hgrows.1 h).1⟩)
  next hshrink =>
  have hg : Grows v.volsize block required limit := hgrows.2 ⟨Int.not_lt.1 hshrink,
    fun h0 => Int.not_lt.1 fun hlt => hlimit ⟨h0, hlt⟩⟩
  have hsize := expandSize_eq hv.pos.1 hreq.1 hg.1
  split
  · next hsame => exact .of_ok hg (hsame.symm.trans hsize) hv.zvol fun _ => rfl
  next hgrow =>
  refine wp_served (fun _ _ => .of_error (.inr (not_unfailing_of_error
    (.tail _ (.tail _ (.head _)))))) ?_
  intro _ _ s3 hserve
  obtain ⟨v', hv', -, hset⟩ := serve_setVolsize hserve
  obtain rfl : v = v' := Option.some.inj (hv.zvol.symm.trans hv')
  rw [← bind_pure (onError _ (getVolsize eid.dataset))]
  refine wp_served (fun _ _ => .of_error (.inr (not_unfailing_of_error
    (.tail _ (.tail _ (.tail _ (.head _))))))) ?_
  intro _ _ s4 hserve
  obtain ⟨rfl, v', hv', rfl⟩ := serve_found rfl hserve
  obtain rfl := Option.some.inj (hset.symm.trans hv')
  exact .of_ok hg hsize hset fun h => absurd h hgrow

theorem InBlocks.grown {ds : String} {s' : Store} {n : Int} (h : InBlocks s ds v block)
    (hg : Grows v.volsize block required limit) (hn : n = roundUp block required)
    (hv : s'.zvol? ds = some { v with volsize := n }) :
    InBlocks s' ds { v with volsize := n } block := by
  have hle := roundUp_le_add h.pos.1.ne' required
  obtain ⟨hpos, -⟩ := h.size
  obtain ⟨hfits, hcur, -⟩ := hg
  subst hn
  exact ⟨hv, h.reads, h.pos, ⟨hpos.trans_le hcur, by dsimp only; omega⟩, dvd_roundUp block required⟩

end

/-- Expansion only grows, to the least multiple of the block that is not below the required size,
and a call that succeeded changes nothing when it is repeated. With no failing command it
succeeds exactly if the rounding does not overflow, the size is no smaller than the current one
and it is within the limit; blocks that divide `2^63` do not overflow before the size does. -/
theorem localExpand_exact {s s' : Store} {id : String} {eid : ExternalID} {v : Zvol}
    {block required limit size : Int} {tr : List ZfsEv}
    {r : Except Error Int} (hid : parseExternalID id = .ok eid)
    (hv : InBlocks s eid.dataset v block) (hreq : 0 < required ∧ required < 2 ^ 63)
    (hsize : IsLeast {m : Int | block ∣ m ∧ required ≤ m} size)
    (hrun : Runs zfsAct (localExpand id required limit).run s tr r s') :
    (∀ n, r = .ok n → n = size ∧ s'.zvol? eid.dataset = some { v with volsize := size } ∧
      v.volsize ≤ size ∧ (0 < limit → size ≤ limit)) ∧
    (Unfailing tr → (∀ e, r = .error e → s' = s) ∧
      (r.isOk = true ↔
        required + block ≤ 2 ^ 63 ∧ v.volsize ≤ size ∧ (0 < limit → size ≤ limit))) ∧
    (∀ n, r = .ok n → ∀ tr' r' s'', Runs zfsAct (localExpand id required limit).run s' tr' r' s'' →
      Unfailing tr' → r' = .ok n ∧ s'' = s') ∧
    (block ∣ 2 ^ 63 → (required + block ≤ 2 ^ 63 ↔ size < 2 ^ 63)) := by
  obtain rfl : size = roundUp block required := hsize.unique (isLeast_roundUp hv.pos.1 required)
  have hends := wp_iff.1 (wp_localExpand hid hv hreq) _ _ _ hrun
  refine ⟨?_, fun hall => ⟨?_, ?_⟩, ?_, fun hd => add_le_iff_roundUp_lt hv.pos.1 hd⟩
  · intro n hn
    obtain ⟨hg, rfl, hv', -⟩ := hends.ok n hn
    exact ⟨rfl, hv', hg.2⟩
  · intro e he
    rcases hends.error e he with h | h
    · exact h.1
    · exact absurd hall h
  · cases r with
    | ok n => exact iff_of_true rfl (hends.ok n rfl).1
    | error e =>
      rcases hends.error e rfl with h | h
      · exact iff_of_false Bool.false_ne_true h.2
      · exact absurd hall h
  · intro n hn tr' r' s'' hrun' hall
    obtain ⟨hg, rfl, hv', -⟩ := hends.ok n hn
    have hends' := wp_iff.1 (wp_localExpand hid (hv.grown hg rfl hv') hreq)
      _ _ _ hrun'
    cases r' with
    | ok m =>
      obtain ⟨-, rfl, -, hsame⟩ := hends'.ok m rfl
      exact ⟨rfl, hsame rfl⟩
    | error e =>
      rcases hends'.error e rfl with h | h
      · exact absurd ⟨hg.1, le_rfl, hg.2.2⟩ h.2
      · exact absurd hall h

def oneZvol (volsize : Int) (volblocksize : String) : Store where
  pools := AList.insert "tank" ⟨true, "ONLINE", 2 ^ 20, 2 ^ 20, 2 ^ 20⟩ ∅
  vols := AList.insert "tank/csi/a" ⟨volsize, volblocksize, ∅, 0⟩ ∅
  snaps := ∅

theorem localExpand_16K : ∃ tr s',
    Runs zfsAct (localExpand "local/v1/n/tank/csi/a" 20000 0).run (oneZvol 16384 "16K") tr
      (.ok 32768) s' ∧
    s'.zvol? "tank/csi/a" = some ⟨32768, "16K", ∅, 0⟩ := by
  obtain ⟨tr, r, s', hrun, hr⟩ := runs_of_exec zfsAct
    (localExpand "local/v1/n/tank/csi/a" 20000 0).run (oneZvol 16384 "16K") (List.replicate 4 {})
    (fun x => x.2.1 = .ok 32768) (by decide)
  obtain rfl : r = .ok 32768 := hr
  have hv : InBlocks (oneZvol 16384 "16K") "tank/csi/a" ⟨16384, "16K", ∅, 0⟩ 16384 :=
    ⟨rfl, by decide, by decide, by decide, by decide⟩
  have hsize : IsLeast {m : Int | (16384 : Int) ∣ m ∧ 20000 ≤ m} 32768 :=
    isLeast_roundUp (by decide) 20000
  have hid : parseExternalID "local/v1/n/tank/csi/a" = .ok ⟨"n", "tank/csi/a"⟩ := by decide
  have hok := (localExpand_exact hid hv (by decide) hsize hrun).1
  exact ⟨tr, s', hrun, (hok 32768 rfl).2.1⟩

/-- Blocks of 5 bytes: the size fits in 64 bits, the sum of the rounding does not, and the call
fails although no command does. -/
theorem localExpand_overflows :
    InBlocks (oneZvol 5 "5") "tank/csi/a" ⟨5, "5", ∅, 0⟩ 5 ∧
    IsLeast {m : Int | (5 : Int) ∣ m ∧ 9223372036854775805 ≤ m} 9223372036854775805 ∧
    (9223372036854775805 : Int) < 2 ^ 63 ∧
    ∃ tr e s', Unfailing tr ∧ Runs zfsAct
      (localExpand "local/v1/n/tank/csi/a" 9223372036854775805 0).run (oneZvol 5 "5") tr
      (.error e) s' := by
  refine ⟨⟨rfl, by decide, by decide, by decide, by decide⟩, isLeast_roundUp (by decide) _,
    by decide, ?_⟩
  obtain ⟨tr, r, s', hrun, hall, hr⟩ := runs_of_exec zfsAct
    (localExpand "local/v1/n/tank/csi/a" 9223372036854775805 0).run (oneZvol 5 "5")
    (List.replicate 4 {}) (fun x => (∀ e ∈ x.1, e.reply.isOk = true) ∧ x.2.1.isOk = false)
    (by decide)
  cases r with
  | ok n => cases hr
  | error e => exact ⟨tr, e, s', hall, hrun⟩

end NomadCsi.Local
