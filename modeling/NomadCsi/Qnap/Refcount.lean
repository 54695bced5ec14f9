import NomadCsi.Qnap.Teardown

/-!
# The last volume of a shared target

A target may carry several volumes, and UnstageVolume logs it out with the last of them. It
counts the LUNs that the session list shows, and a session shows every LUN the SAN maps to
the target, staged here or not.
-/

namespace NomadCsi.Qnap

open Lib Lib.Go Driver Node

namespace Layout

variable (san : Layout)

end Layout

variable {r : Except Error Unit} {req : UnstageRequest}

section

variable {n : NodePlugin} {san : Layout} {h h' : Host} {tr : List HostEv}

def LogsOut (iqn : String) (tr : List HostEv) : Prop := ∃ e ∈ tr, ∃ p, e.call = .logout p iqn

theorem logsOut_logoutEach {iqn : String} {ps : List String} (hps : ps ≠ [])
    (hrun : Runs hostAct (logoutEach iqn ps).run h tr r h') : LogsOut iqn tr := by
  cases ps with
  | nil => exact absurd rfl hps
  | cons p ps =>
    obtain ⟨ch, tr', rfl, -⟩ := runs_call.1 hrun
    exact ⟨_, .head _, p, rfl⟩

theorem logsOut_logoutTarget_iff {m : StageMeta} (hok : Listings tr)
    (hrun : Runs hostAct (logoutTarget m).run h tr r h') :
    LogsOut m.iqn tr ↔ m.iqn ≠ "" ∧ portalList m ≠ [] ∧ OnlyLUN h m.iqn m.lunNumber := by
  unfold logoutTarget at hrun
  split at hrun
  · next hiqn =>
    obtain ⟨rfl, -⟩ := runs_ret.1 hrun
    exact iff_of_false (fun h => by obtain ⟨e, he, -⟩ := h; cases he) fun h => h.1 hiqn
  next hiqn =>
  rcases runs_run_bind.1 hrun with ⟨e, -, hfail⟩ | ⟨tr1, last, h1, tr2, rfl, hlast, hrest⟩
  · obtain ⟨-, -, last, hres, -⟩ := wp_iff.1 (wp_lastLUNOnTarget h _ _) _ _ _ hfail
    cases hres
  obtain ⟨-, hcalls, last', hres, honly, hnot⟩ := wp_iff.1 (wp_lastLUNOnTarget h _ _) _ _ _ hlast
  obtain rfl := Except.ok.inj hres
  have hskip : ∀ {p}, ∀ e ∈ tr1, e.call ≠ .logout p m.iqn := by
    intro p e he hc
    rw [hcalls e he] at hc
    cases hc
  cases last with
  | true =>
    constructor
    · rintro ⟨e, he, p, hc⟩
      refine ⟨hiqn, fun hnil => ?_, hnot hok.append.1 rfl⟩
      rw [hnil] at hrest
      obtain ⟨rfl, -⟩ := runs_ret.1 hrest
      exact hskip e (by simpa using he) hc
    · rintro ⟨-, hps, -⟩
      obtain ⟨e, he, hc⟩ := logsOut_logoutEach hps hrest
      exact ⟨e, List.mem_append_right _ he, hc⟩
  | false =>
    refine iff_of_false ?_ fun h => Bool.noConfusion (honly h.2.2)
    obtain ⟨rfl, -⟩ := runs_ret.1 hrest
    rintro ⟨e, he, p, hc⟩
    exact hskip e (by simpa using he) hc

end

end NomadCsi.Qnap
