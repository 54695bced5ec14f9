import Mathlib.Order.BooleanAlgebra.Set
import NomadCsi.Zfs.Eval

/-!
# The names in a store

What a store holds, by name: which zvols, and which snapshots of them. A command that
succeeds changes the names as `Names.after` says (`names_serve`), and one that fails changes
nothing. `Store.Sound` is what ZFS guarantees of its state: no command breaks it
(`Store.Sound.serve`).
-/

namespace NomadCsi.Zfs

open Lib Lib.Go Driver

/-- The zvols of a node and the snapshots of each. -/
@[ext] structure Names where
  vols : Set String
  snaps : Set (String × String)

namespace Names

def addVol (n : Names) (ds : String) : Names := { n with vols := insert ds n.vols }

def dropVol (n : Names) (ds : String) : Names := { n with vols := n.vols \ {ds} }

def addSnap (n : Names) (ds name : String) : Names := { n with snaps := insert (ds, name) n.snaps }

def dropSnap (n : Names) (ds name : String) : Names := { n with snaps := n.snaps \ {(ds, name)} }

/-- What a command that succeeds makes of them. -/
def after (n : Names) : Cmd → Names
  | .create ds _ _ => n.addVol ds
  | .destroy ds => n.dropVol ds
  | .snapshot ds name => n.addSnap ds name
  | .destroySnapshot ds name => n.dropSnap ds name
  | .sendRecv _ snap dest => (n.addVol dest).addSnap dest snap
  | _ => n

variable {n : Names} {ds name : String}

theorem addVol_of_mem (h : ds ∈ n.vols) : n.addVol ds = n :=
  Names.ext (Set.insert_eq_of_mem h) rfl

theorem dropVol_of_notMem (h : ds ∉ n.vols) : n.dropVol ds = n :=
  Names.ext (Set.sdiff_singleton_eq_self h) rfl

theorem dropSnap_of_notMem (h : (ds, name) ∉ n.snaps) : n.dropSnap ds name = n :=
  Names.ext rfl (Set.sdiff_singleton_eq_self h)

theorem dropSnap_addSnap (h : (ds, name) ∉ n.snaps) : (n.addSnap ds name).dropSnap ds name = n :=
  Names.ext rfl (Set.insert_sdiff_self_of_notMem h)

end Names

namespace Store

def names (s : Store) : Names := ⟨{ds | ds ∈ s.vols}, {k | k ∈ s.snaps}⟩

variable {s s' : Store} {ds name : String}

theorem mem_names_vols : ds ∈ s.names.vols ↔ ∃ v, s.vols.lookup ds = some v := by
  change ds ∈ s.vols ↔ _
  rw [← AList.lookup_isSome, Option.isSome_iff_exists]

theorem mem_names_snaps : (ds, name) ∈ s.names.snaps ↔ ∃ sn, s.snaps.lookup (ds, name) = some sn := by
  change (ds, name) ∈ s.snaps ↔ _
  rw [← AList.lookup_isSome, Option.isSome_iff_exists]

theorem mem_insert_of_lookup {m : Map String Zvol} {v v' : Zvol} (hv : m.lookup ds = some v)
    (d : String) : d ∈ m.insert ds v' ↔ d ∈ m := by
  rw [AList.mem_insert, or_iff_right_iff_imp]
  rintro rfl
  exact AList.lookup_isSome.1 (Option.isSome_of_eq_some hv)

end Store

section

variable {s s' : Store} {c : Cmd} {out : c.Out}

theorem vols_serve (h : serve s c = (.ok out, s')) : s'.names.vols = (s.names.after c).vols := by
  have heffect := serve_vols h
  unfold Store.names
  generalize s'.vols = m at heffect
  ext d
  cases heffect with
  | create => simp [Names.after, Names.addVol]
  | recv => simp [Names.after, Names.addVol, Names.addSnap]
  | resize hv | setProp hv => exact Store.mem_insert_of_lookup hv d
  | destroy => simp [Names.after, Names.dropVol, and_comm]
  | other hc => cases c <;> first | rfl | cases hc

theorem snaps_serve (h : serve s c = (.ok out, s')) : s'.names.snaps = (s.names.after c).snaps := by
  have heffect := serve_snaps h
  unfold Store.names
  generalize s'.snaps = m at heffect
  ext d
  cases heffect with
  | snapshot => simp [Names.after, Names.addSnap]
  | recv => simp [Names.after, Names.addVol, Names.addSnap]
  | destroy => simp [Names.after, Names.dropSnap, and_comm]
  | other hc => cases c <;> first | rfl | cases hc

theorem names_serve (h : serve s c = (.ok out, s')) : s'.names = s.names.after c :=
  Names.ext (vols_serve h) (snaps_serve h)

theorem after_of_reads (hc : c.reads = true) (n : Names) : n.after c = n := by
  cases c <;> first | rfl | cases hc

theorem fresh_of_snapshot {ds name : String} {u : Unit}
    (h : serve s (.snapshot ds name) = (.ok u, s')) : s.snaps.lookup (ds, name) = none := by
  have heffect := serve_snaps h
  generalize s'.snaps = m at heffect
  cases heffect with
  | snapshot hnone => exact hnone
  | other hc => cases hc

/-- A command that does not speak of names leaves them, whatever becomes of it. -/
theorem names_act (hc : ∀ n : Names, n.after c = n) (ch : Fault) :
    (zfsAct s c ch).2.names = s.names := by
  refine zfsAct_elim (Q := fun x => x.2.names = s.names) ch (fun _ => rfl) fun out s' h => ?_
  exact (names_serve h).trans (hc _)

end

theorem zvol?_isSome_iff {s : Store} {ds : String} : (s.zvol? ds).isSome = true ↔
    (s.pool? (poolOf ds)).isSome = true ∧ ds ∈ s.names.vols := by
  unfold Store.zvol?
  split
  · next hp => rw [and_iff_right hp, Store.mem_names_vols, Option.isSome_iff_exists]
  · next hp => exact iff_of_false (by simp) fun h => hp h.1

theorem samePools_serve {s s' : Store} {c : Cmd} {out : c.Out} (h : serve s c = (.ok out, s')) :
    SamePools s s' := by
  have hserved := served h
  cases hserved with
  | create | setVolsize | sendRecv | destroy => exact samePools_charge s _ _
  | read | setProp | snapshot | destroySnapshot => exact .refl s

theorem samePools_act {s : Store} {c : Cmd} (ch : Fault) : SamePools s (zfsAct s c ch).2 :=
  zfsAct_elim (Q := fun x => SamePools s x.2) ch (fun _ => .refl s) fun _ _ h => samePools_serve h

/-! ### Commands that are carried out -/

section

variable {s : Store} {ds : String} {v : Zvol}

theorem serve_setProp_ok (hv : s.zvol? ds = some v) (prop value : String) :
    ∃ s', serve s (.setProp ds prop value) = (.ok (), s') := by
  unfold serve
  dsimp only
  rw [hv]
  exact ⟨_, rfl⟩

theorem serve_setVolsize_ok {p : Pool} (size : Int) (hv : s.zvol? ds = some v)
    (hp : s.pool? (poolOf ds) = some p) (hpos : 0 < size)
    (hroom : size - v.volsize ≤ p.available) :
    ∃ s', serve s (.setVolsize ds size) = (.ok (), s') := by
  unfold serve
  dsimp only
  rw [hv, hp]
  dsimp only
  rw [if_pos ⟨hpos, hroom⟩]
  exact ⟨_, rfl⟩

theorem serve_destroySnapshot_ok {name : String} (hpool : (s.pool? (poolOf ds)).isSome = true)
    (hds : ds ∈ s.names.vols) (hname : (ds, name) ∈ s.names.snaps) :
    ∃ s', serve s (.destroySnapshot ds name) = (.ok (), s') := by
  obtain ⟨v, hv⟩ := Option.isSome_iff_exists.1 (zvol?_isSome_iff.2 ⟨hpool, hds⟩)
  obtain ⟨sn, hsn⟩ := Store.mem_names_snaps.1 hname
  unfold serve
  dsimp only
  rw [hv, hsn]
  exact ⟨_, rfl⟩

end

/-! ### What ZFS guarantees -/

namespace Store

/-- No figure of a pool is negative, and `zpool size` is one of 64 bits. -/
def Figures (s : Store) : Prop :=
  ∀ pool p, s.pools.lookup pool = some p → 0 ≤ p.available ∧ 0 ≤ p.size ∧ p.size < 2 ^ 63

/-- The names are such as ZFS accepts, every snapshot is one of a zvol, and no figure is
negative. -/
structure Sound (s : Store) : Prop where
  named : s.Named
  owned : ∀ ds name, (ds, name) ∈ s.names.snaps → ds ∈ s.names.vols
  sizes : ∀ ds v, s.vols.lookup ds = some v → 0 ≤ v.volsize
  figures : s.Figures

variable {s s' : Store} {ds : String}

theorem room_figures {size : Int} (h : s.room ds size = true) : 0 < size ∧
    ∃ p, s.pools.lookup (poolOf ds) = some p ∧ size ≤ p.available := by
  unfold room at h
  simp only [Bool.and_eq_true, decide_eq_true_eq] at h
  obtain ⟨⟨-, hpos⟩, hpool⟩ := h
  obtain ⟨p, hp, hle⟩ := (Option.any_eq_true _ _).1 hpool
  exact ⟨hpos, p, (Option.filter_eq_some_iff.1 hp).1, of_decide_eq_true hle⟩

theorem Figures.charge (h : s.Figures) {pool : String} {n : Int}
    (hn : ∀ p, s.pools.lookup pool = some p → n ≤ p.available) : (s.charge pool n).Figures := by
  intro q p hp
  unfold Store.charge at hp
  split at hp
  · next p' hp' =>
    by_cases hq : q = pool
    · subst hq
      rw [AList.lookup_insert] at hp
      cases hp
      have hle := hn p' hp'
      obtain ⟨-, hsize⟩ := h q p' hp'
      exact ⟨by dsimp only; omega, hsize⟩
    · rw [AList.lookup_insert_ne hq] at hp
      exact h q p hp
  · exact h q p hp

theorem Figures.charge_of_room (h : s.Figures) {size : Int} (hroom : s.room ds size = true) :
    (s.charge (poolOf ds) size).Figures := by
  refine h.charge fun p hp => ?_
  obtain ⟨-, p', hp', hle⟩ := room_figures hroom
  cases hp.symm.trans hp'
  exact hle

theorem sizes_putVol (h : ∀ ds v, s.vols.lookup ds = some v → 0 ≤ v.volsize) {z : Zvol}
    (hz : 0 ≤ z.volsize) (d : String) (v : Zvol) (hv : (s.putVol ds z).vols.lookup d = some v) :
    0 ≤ v.volsize := by
  unfold putVol at hv
  by_cases hd : d = ds
  · subst hd
    rw [AList.lookup_insert] at hv
    cases hv
    exact hz
  · rw [AList.lookup_insert_ne hd] at hv
    exact h d v hv

theorem sizes_charge (h : ∀ ds v, s.vols.lookup ds = some v → 0 ≤ v.volsize) (pool : String)
    (n : Int) (d : String) (v : Zvol) (hv : (s.charge pool n).vols.lookup d = some v) :
    0 ≤ v.volsize := by
  rw [vols_charge] at hv
  exact h d v hv

namespace Sound

variable {c : Cmd} {out : c.Out}

theorem owned_serve (h : s.Sound) (hserve : Zfs.serve s c = (.ok out, s')) (ds name : String)
    (hmem : (ds, name) ∈ s'.names.snaps) : ds ∈ s'.names.vols := by
  rw [names_serve hserve] at hmem ⊢
  cases c with
  | create d size block => exact .inr (h.owned ds name hmem)
  | destroy d =>
    refine ⟨h.owned ds name hmem, ?_⟩
    rintro rfl
    obtain ⟨sn, hsn⟩ := mem_names_snaps.1 hmem
    have hsome := hasSnapshots_of_lookup hsn
    rw [hasSnapshots_of_destroy hserve] at hsome
    cases hsome
  | snapshot d name' =>
    rcases hmem with heq | hmem
    · obtain ⟨v, hv, -⟩ := serve_snapshot hserve
      rw [(Prod.mk.inj heq).1]
      exact mem_names_vols.2 ⟨v, lookup_of_zvol? hv⟩
    · exact h.owned ds name hmem
  | destroySnapshot d name' => exact h.owned ds name hmem.1
  | sendRecv source snap dest =>
    rcases hmem with heq | hmem
    · exact .inl (Prod.mk.inj heq).1
    · exact .inr (h.owned ds name hmem)
  | _ => exact h.owned ds name hmem

theorem amounts_serve (h : s.Sound) (hserve : Zfs.serve s c = (.ok out, s')) :
    (∀ ds v, s'.vols.lookup ds = some v → 0 ≤ v.volsize) ∧ s'.Figures := by
  have hserved := served hserve
  cases hserved with
  | read | snapshot | destroySnapshot => exact ⟨h.sizes, h.figures⟩
  | create hroom | sendRecv _ _ hroom =>
    exact ⟨sizes_putVol (sizes_charge h.sizes _ _) (room_figures hroom).1.le,
      h.figures.charge_of_room hroom⟩
  | @destroy d z hz =>
    refine ⟨fun ds v hv => ?_, h.figures.charge fun p hp => ?_⟩
    · dsimp only at hv
      rw [vols_charge] at hv
      by_cases hd : ds = d
      · rw [hd, AList.lookup_erase] at hv
        cases hv
      · rw [AList.lookup_erase_ne hd] at hv
        exact h.sizes ds v hv
    · have hsize := h.sizes d z (lookup_of_zvol? hz)
      have havail := (h.figures _ p hp).1
      omega
  | setVolsize _ hp hfits =>
    refine ⟨sizes_putVol (sizes_charge h.sizes _ _) hfits.1.le, h.figures.charge fun p' hp' => ?_⟩
    cases hp'.symm.trans (Option.filter_eq_some_iff.1 hp).1
    exact hfits.2
  | @setProp d _ _ z hz =>
    exact ⟨sizes_putVol h.sizes (h.sizes d z (lookup_of_zvol? hz)), h.figures⟩

theorem serve (h : s.Sound) (hserve : Zfs.serve s c = (.ok out, s')) : s'.Sound := by
  have hnamed := h.named.serve c
  rw [hserve] at hnamed
  obtain ⟨hsizes, hfigures⟩ := h.amounts_serve hserve
  exact ⟨hnamed, h.owned_serve hserve, hsizes, hfigures⟩

theorem act (h : s.Sound) (ch : Fault) : (zfsAct s c ch).2.Sound :=
  zfsAct_elim (Q := fun x => x.2.Sound) ch (fun _ => h) fun _ _ hserve => h.serve hserve

end Sound

end Store

end NomadCsi.Zfs
