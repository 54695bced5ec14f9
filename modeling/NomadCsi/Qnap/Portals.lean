import NomadCsi.Lib.HostPort
import NomadCsi.Lib.Trim
import NomadCsi.Qnap.Controller
import NomadCsi.Qnap.Node

/-!
# How portals are written

The controller writes the configured portals into every volume's context; the node
compares the portals of its sessions with the configured ones. Both supply the default
port, by different means: the controller reads from the end for a colon (`hasPort`), the
node asks `net.SplitHostPort`. They agree on the spellings in `Regular`. A bare IPv6
address is not among them, since the controller takes its last group for a port, nor is
a bracketed one without a port, which the node puts into a second pair of brackets.
-/

namespace NomadCsi.Qnap

open Lib Lib.Go Driver

/-- The form in which the controller writes a portal. -/
def withPort (p : String) : String := if hasPort p then p else p ++ ":3260"

theorem portals_eq (c : Controller) : portals c = c.cfg.portalList.map withPort := rfl

/-- The host a portal without a port stands for: a name or an IPv4 address, or an IPv6 address, in
brackets or not. -/
inductive HostOnly : List Char → List Char → Prop where
  | name {host : List Char} : ':' ∉ host → Bare host → HostOnly host host
  | ipv6 {host : List Char} : 2 ≤ host.count ':' → Bare host → HostOnly host host
  | bracketed {host : List Char} : Bare host → HostOnly ('[' :: host ++ [']']) host

/-- The controller and the node write the portal alike, the node's form is a fixed point of its own
rewriting, and it names the host of a portal without a port, at port 3260. -/
structure WrittenAlike (c : Controller) (p : String) : Prop where
  alike : ∀ i : Nat, c.cfg.portalList[i]? = some p → (portals c)[i]? = some (normalizePortal p)
  again : normalizePortal (normalizePortal p) = normalizePortal p
  denotes : ∀ host, HostOnly p.toList host →
    splitHostPort (normalizePortal p).toList = some (host, "3260".toList)

/-- A host without a colon, in brackets or not, without a port; or an address with a port, where a
host with a colon is in brackets. -/
inductive Regular : List Char → Prop where
  | name {host : List Char} : ':' ∉ host → Bare host → Regular host
  | bracketed {host : List Char} : ':' ∉ host → Bare host → Regular ('[' :: host ++ [']'])
  | port {s host port : List Char} : Address s host port → Regular s

variable {host port : List Char}

variable {s : List Char}

section

variable {p : String}

theorem mem_portalList {cfg : Config} (h : p ∈ cfg.portalList) :
    p ≠ "" ∧ trimSpace p = p := by
  unfold Config.portalList at h
  obtain ⟨hmem, hne⟩ := List.mem_filter.1 h
  obtain ⟨q, -, rfl⟩ := List.mem_map.1 hmem
  exact ⟨by simpa using hne, trimSpace_trimSpace q⟩

theorem hasPort_of_notMem (h : ':' ∉ p.toList) : hasPort p = false := by
  unfold hasPort
  rw [decide_eq_false_iff_not]
  intro hfind
  exact h (List.mem_reverse.1 (List.mem_of_find?_eq_some hfind))

theorem hasPort_of_address (h : Address p.toList host port) : hasPort p = true := by
  have hlast : ∃ front, p.toList = front ++ ':' :: port ∧ ':' ∉ port ∧ ']' ∉ port := by
    generalize p.toList = s at h
    cases h with
    | plain _ _ hcolon hbare => exact ⟨_, rfl, hcolon, hbare.2⟩
    | @bracketed host port _ hcolon hbare =>
      exact ⟨'[' :: host ++ [']'], by simp, hcolon, hbare.2⟩
  obtain ⟨front, heq, hcolon, hclose⟩ := hlast
  have hnone : port.reverse.find? (fun ch => ch = ':' || ch = ']') = none := by
    rw [List.find?_eq_none]
    intro ch hch hor
    rw [List.mem_reverse] at hch
    simp only [Bool.or_eq_true, decide_eq_true_eq] at hor
    rcases hor with rfl | rfl
    · exact hcolon hch
    · exact hclose hch
  unfold hasPort
  rw [heq, decide_eq_true_eq]
  simp [hnone]

/-! ### The node's form -/

theorem normalizePortal_of_address (hp : trimSpace p = p) (h : Address p.toList host port) :
    normalizePortal p = p := by
  unfold normalizePortal
  simp only [hp, splitHostPort_of_address h]
  split
  · next hnil => exact hnil.symm
  · rfl

theorem normalizePortal_of_none (hne : p ≠ "") (hp : trimSpace p = p)
    (h : ∀ host port, ¬ Address p.toList host port) :
    normalizePortal p = joinHostPort p "3260" := by
  have hnone : splitHostPort p.toList = none := by
    rw [Option.eq_none_iff_forall_not_mem]
    rintro ⟨host, port⟩ hmem
    exact h host port (splitHostPort_iff.1 hmem)
  unfold normalizePortal
  simp only [hp, hnone, if_neg hne]
  rfl

theorem toList_joinHostPort (h : ':' ∉ p.toList) :
    (joinHostPort p "3260").toList = p.toList ++ ':' :: "3260".toList := by
  unfold joinHostPort
  rw [if_neg h, String.toList_append, String.toList_append, List.append_assoc]
  rfl

theorem toList_joinHostPort_colon (h : ':' ∈ p.toList) :
    (joinHostPort p "3260").toList = '[' :: p.toList ++ ']' :: ':' :: "3260".toList := by
  unfold joinHostPort
  rw [if_pos h]
  simp only [String.toList_append]
  simp

theorem joinHostPort_ends (p : String) :
    ∃ front, (joinHostPort p "3260").toList = front ++ ':' :: "3260".toList := by
  by_cases hcolon : ':' ∈ p.toList
  · refine ⟨'[' :: p.toList ++ [']'], ?_⟩
    rw [toList_joinHostPort_colon hcolon, List.append_assoc]
    rfl
  · exact ⟨p.toList, toList_joinHostPort hcolon⟩

theorem trimSpace_joinHostPort (hne : p ≠ "") (hp : trimSpace p = p) :
    trimSpace (joinHostPort p "3260") = joinHostPort p "3260" := by
  rw [trimSpace_eq_self_iff] at hp ⊢
  constructor
  · intro c hc
    by_cases hcolon : ':' ∈ p.toList
    · rw [toList_joinHostPort_colon hcolon] at hc
      obtain rfl : '[' = c := by simpa using hc
      decide
    · rw [toList_joinHostPort hcolon] at hc
      apply hp.head c
      cases hl : p.toList with
      | nil => exact absurd (String.toList_inj.1 (hl.trans rfl)) hne
      | cons d ds =>
        rw [hl] at hc
        exact hc
  · intro c hc
    obtain ⟨front, hfront⟩ := joinHostPort_ends p
    rw [hfront, show ':' :: "3260".toList = [':', '3', '2', '6'] ++ ['0'] from rfl,
      ← List.append_assoc, List.getLast?_concat] at hc
    obtain rfl := Option.some.inj hc
    decide

/-- The node's form of a portal without a port is a fixed point exactly if it is an address. -/
theorem normalizePortal_again (hne : p ≠ "") (hp : trimSpace p = p) :
    normalizePortal (joinHostPort p "3260") = joinHostPort p "3260" ↔
      ∃ host port, Address (joinHostPort p "3260").toList host port := by
  have htrim := trimSpace_joinHostPort hne hp
  obtain ⟨front, hfront⟩ := joinHostPort_ends p
  constructor
  · intro hagain
    by_contra hno
    have hjoin : joinHostPort p "3260" ≠ "" := by
      intro hnil
      rw [hnil] at hfront
      simp at hfront
    have hcolon : ':' ∈ (joinHostPort p "3260").toList := by
      rw [hfront]
      simp
    rw [normalizePortal_of_none hjoin htrim fun host port ha => hno ⟨host, port, ha⟩] at hagain
    have hlen := congrArg (fun s => s.toList.length) hagain
    simp only [toList_joinHostPort_colon hcolon, List.length_append, List.length_cons] at hlen
    omega
  · rintro ⟨host, port, ha⟩
    exact normalizePortal_of_address htrim ha

/-- The default port after a host without a colon is an address exactly if there are no brackets,
or one pair around the host. -/
theorem address_default (hs : ':' ∉ s) : Address (s ++ ':' :: "3260".toList) host port ↔
      port = "3260".toList ∧ Bare host ∧ (s = host ∨ s = '[' :: host ++ [']']) := by
  constructor
  · intro h
    generalize hw : s ++ ':' :: "3260".toList = w at h
    cases h with
    | plain hcolon hbare hport _ =>
      obtain ⟨rfl, rfl⟩ := last_colon_inj (by decide) hport hw
      exact ⟨rfl, hbare, .inl rfl⟩
    | @bracketed host port hbare hport _ =>
      have hend : s ++ ':' :: "3260".toList = ('[' :: host ++ [']']) ++ ':' :: port := by
        rw [hw, List.append_assoc]
        rfl
      obtain ⟨rfl, rfl⟩ := last_colon_inj (by decide) hport hend
      exact ⟨rfl, hbare, .inr rfl⟩
  · rintro ⟨rfl, hbare, rfl | rfl⟩
    · exact .plain hs hbare (by decide) (by decide)
    · have h : Address ('[' :: host ++ ']' :: ':' :: "3260".toList) host "3260".toList :=
        .bracketed hbare (by decide) (by decide)
      rw [List.append_assoc]
      exact h

theorem hostOnly_of_notMem (hs : ':' ∉ s) :
    HostOnly s host ↔ Bare host ∧ (s = host ∨ s = '[' :: host ++ [']']) := by
  constructor
  · intro h
    cases h with
    | name _ hbare => exact ⟨hbare, .inl rfl⟩
    | ipv6 hcount _ =>
      rw [List.count_eq_zero.2 hs] at hcount
      omega
    | bracketed hbare => exact ⟨hbare, .inr rfl⟩
  · rintro ⟨hbare, rfl | rfl⟩
    · exact .name hs hbare
    · exact .bracketed hbare

theorem not_hostOnly_of_address {host' : List Char} (h : Address s host port) :
    ¬ HostOnly s host' := by
  intro hh
  cases hh with
  | name hcolon _ => exact hcolon h.colon
  | ipv6 hcount hbare =>
    cases h with
    | @plain host port hhost _ hport _ =>
      rw [List.count_append, List.count_cons_self, List.count_eq_zero.2 hhost,
        List.count_eq_zero.2 hport] at hcount
      omega
    | bracketed _ _ _ => exact hbare.1 (.head _)
  | bracketed hbare =>
    generalize hw : '[' :: host' ++ [']'] = w at h
    cases h with
    | plain _ hhost _ hport =>
      have hclose : ']' ∈ host ++ ':' :: port := hw ▸ List.mem_append_right _ (.head _)
      simp [hhost.2, hport.2] at hclose
    | @bracketed host port _ _ hport =>
      -- the text ends in a bracket, and its port does not
      have hend := congrArg List.getLast? hw
      rw [List.getLast?_concat, show '[' :: host ++ ']' :: ':' :: port =
        ('[' :: host ++ [']']) ++ (':' :: port) by simp, List.getLast?_append_cons] at hend
      have hclose := List.mem_of_getLast? hend.symm
      simp [hport.2] at hclose

end

/-! ### Both forms -/

variable {c : Controller} {p : String}

theorem writtenAlike_of_regular (hne : p ≠ "") (hp : trimSpace p = p) (h : Regular p.toList) :
    WrittenAlike c p := by
  have halike : withPort p = normalizePortal p →
      ∀ i : Nat, c.cfg.portalList[i]? = some p → (portals c)[i]? = some (normalizePortal p) := by
    intro heq i hi
    rw [portals_eq, List.getElem?_map, hi, ← heq]
    rfl
  -- a host without a colon, in brackets or not
  have hhost : ∀ host, ':' ∉ p.toList → Bare host →
      (p.toList = host ∨ p.toList = '[' :: host ++ [']']) → WrittenAlike c p := by
    intro host hcolon hbare hform
    have hnorm : normalizePortal p = joinHostPort p "3260" :=
      normalizePortal_of_none hne hp fun _ _ ha => hcolon ha.colon
    have haddress : ∀ host', Bare host' → (p.toList = host' ∨ p.toList = '[' :: host' ++ [']']) →
        Address (joinHostPort p "3260").toList host' "3260".toList := by
      intro host' hbare' hform'
      rw [toList_joinHostPort hcolon]
      exact (address_default hcolon).2 ⟨rfl, hbare', hform'⟩
    refine ⟨halike ?_, ?_, fun host' hh => ?_⟩
    · rw [withPort, hasPort_of_notMem hcolon, hnorm]
      unfold joinHostPort
      rw [if_neg hcolon, String.append_assoc]
      rfl
    · rw [hnorm]
      exact (normalizePortal_again hne hp).2 ⟨_, _, haddress host hbare hform⟩
    · obtain ⟨hbare', hform'⟩ := (hostOnly_of_notMem hcolon).1 hh
      rw [hnorm]
      exact splitHostPort_of_address (haddress host' hbare' hform')
  generalize hs : p.toList = s at h
  cases h with
  | name hcolon hbare => exact hhost s (hs ▸ hcolon) hbare (.inl hs)
  | bracketed hcolon hbare => exact hhost _ (by rw [hs]; simp [hcolon]) hbare (.inr hs)
  | port ha =>
    rw [← hs] at ha
    have hnorm := normalizePortal_of_address hp ha
    refine ⟨halike ?_, ?_, fun host' hh => not_hostOnly_of_address ha hh |>.elim⟩
    · rw [withPort, hasPort_of_address ha, hnorm]
      rfl
    · rw [hnorm, hnorm]

theorem regular_of_writtenAlike (hmem : p ∈ c.cfg.portalList) (h : WrittenAlike c p) :
    Regular p.toList := by
  obtain ⟨hne, hp⟩ := mem_portalList hmem
  obtain ⟨i, hi⟩ := List.mem_iff_getElem?.1 hmem
  have halike : withPort p = normalizePortal p := by
    have hi' := h.alike i hi
    rw [portals_eq, List.getElem?_map, hi] at hi'
    exact Option.some.inj hi'
  by_cases ha : ∃ host port, Address p.toList host port
  · obtain ⟨host, port, ha⟩ := ha
    exact .port ha
  · have hno : ∀ host port, ¬ Address p.toList host port := fun host port ha' => ha ⟨host, port, ha'⟩
    have hnorm := normalizePortal_of_none hne hp hno
    by_cases hcolon : ':' ∈ p.toList
    · -- the node adds seven characters, the controller none or five
      have hlen := congrArg (fun s => s.toList.length) (halike.trans hnorm)
      simp only [toList_joinHostPort_colon hcolon, List.length_append, List.length_cons] at hlen
      unfold withPort at hlen
      split at hlen
      · omega
      · rw [String.toList_append, List.length_append] at hlen
        simp at hlen
    · obtain ⟨host, port, haddress⟩ := (normalizePortal_again hne hp).1 (hnorm ▸ h.again)
      rw [toList_joinHostPort hcolon] at haddress
      obtain ⟨-, hbare, hform | hform⟩ := (address_default hcolon).1 haddress
      · rw [hform] at hcolon ⊢
        exact .name hcolon hbare
      · rw [hform] at hcolon ⊢
        exact .bracketed (fun hin => hcolon (by simp [hin])) hbare

/-- The controller and the node write a configured portal alike exactly if it is a host without a
colon, or an address with a port whose host is in brackets if it has a colon. -/
theorem portals_alike_iff (hmem : p ∈ c.cfg.portalList) :
    WrittenAlike c p ↔ Regular p.toList := by
  obtain ⟨hne, hp⟩ := mem_portalList hmem
  exact ⟨regular_of_writtenAlike hmem, writtenAlike_of_regular hne hp⟩

def portalOnly (p : String) : Controller := ⟨⟨p, [], 1, [], 512⟩, fun _ => 0⟩

theorem portals_alike_ipv6 : "[fe80::1]:3260" ∈ (portalOnly "[fe80::1]:3260").cfg.portalList ∧
    WrittenAlike (portalOnly "[fe80::1]:3260") "[fe80::1]:3260" := by
  have hmem : "[fe80::1]:3260" ∈ (portalOnly "[fe80::1]:3260").cfg.portalList := by decide
  have haddress : Address "[fe80::1]:3260".toList "fe80::1".toList "3260".toList :=
    splitHostPort_iff.1 (by decide)
  exact ⟨hmem, (portals_alike_iff hmem).2 (.port haddress)⟩

/-- A bare IPv6 address: the controller takes its last group for a port and adds none. -/
theorem bare_ipv6_unlike : ¬ ∀ c p, p ∈ Config.portalList (Controller.cfg c) → WrittenAlike c p := by
  intro h
  have hmem : "fe80::1" ∈ (portalOnly "fe80::1").cfg.portalList := by decide
  have halike := (h _ _ hmem).alike 0 (by decide)
  revert halike
  decide

end NomadCsi.Qnap
