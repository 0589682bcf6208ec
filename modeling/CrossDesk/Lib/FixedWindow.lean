import Mathlib

/-!
# Counting in fixed windows

A limiter that counts in *fixed windows* opens a window of a given length at the first request it
sees, grants at most `n` requests until the window ends, and opens the next one at the first request
after that. It never looks back further than the current window.

`Ledger` is its invariant. A grant is a pair of the time it was given and the end of the window it
was given from; the ledger relates all grants so far to the current window, if there is one. The
lemmas are what can happen: time passes, an ended window is forgotten, a window opens, a grant is
given. `Ledger.interval_le` is the price of not looking back: an interval as long as a window meets
at most two windows, so it sees at most `2 * n` grants.
-/

/-- A granted request: when, and the end of the window that granted it. -/
structure Grant where
  time : Nat
  windowEnd : Nat

/-- The grants given from the window that ends at `e`. -/
def grantsOf (grants : List Grant) (e : Nat) : Nat := grants.countP (fun g => g.windowEnd == e)

/-- The current window: how much of it is used up, and its end. -/
structure OpenWindow where
  used : Nat
  windowEnd : Nat

/-- All grants so far, against the current window. `length` is the length of a window and `n` what
one window grants. -/
structure Ledger (length n : Nat) (grants : List Grant) (clock : Nat) (current : Option OpenWindow) :
    Prop where
  inside : ∀ g ∈ grants, g.time < g.windowEnd ∧ g.windowEnd ≤ g.time + length
  apart : ∀ g ∈ grants, ∀ g' ∈ grants,
    g.windowEnd = g'.windowEnd ∨ g.windowEnd + length ≤ g'.windowEnd ∨
      g'.windowEnd + length ≤ g.windowEnd
  bounded : ∀ e, grantsOf grants e ≤ n
  /-- Without a current window, every window that granted something is over. -/
  ended : current = none → ∀ g ∈ grants, g.windowEnd ≤ clock
  used : ∀ w ∈ current, w.used = grantsOf grants w.windowEnd
  last : ∀ w ∈ current, w.windowEnd ≤ clock + length ∧
    ∀ g ∈ grants, g.windowEnd = w.windowEnd ∨ g.windowEnd + length ≤ w.windowEnd

/-- What passes one of two tests is counted by one of them. -/
theorem countP_or_le {α : Type} (l : List α) (p q : α → Bool) :
    l.countP (fun x => p x || q x) ≤ l.countP p + l.countP q := by
  induction l with
  | nil => exact Nat.zero_le _
  | cons x l ih =>
    simp only [List.countP_cons]
    cases p x <;> cases q x <;> simp <;> omega

namespace Ledger

variable {length n clock : Nat} {grants : List Grant} {current : Option OpenWindow} {w : OpenWindow}

theorem start (length n clock : Nat) : Ledger length n [] clock none where
  inside := nofun
  apart := nofun
  bounded := fun _ => Nat.zero_le n
  ended := fun _ => nofun
  used := nofun
  last := nofun

theorem later (h : Ledger length n grants clock current) {clock' : Nat} (hle : clock ≤ clock') :
    Ledger length n grants clock' current := by
  refine { h with ended := ?_, last := ?_ }
  · intro hnone g hg
    exact (h.ended hnone g hg).trans hle
  · intro w hw
    have hlast := h.last w hw
    exact ⟨by omega, hlast.2⟩

/-- A window that has ended can be forgotten. -/
theorem forget (h : Ledger length n grants clock (some w)) (hended : w.windowEnd ≤ clock) :
    Ledger length n grants clock none := by
  refine { h with ended := ?_, used := nofun, last := nofun }
  intro _ g hg
  have hlast := (h.last w rfl).2 g hg
  omega

/-- A window opens now. -/
theorem opened (h : Ledger length n grants clock none) (hlength : 0 < length) :
    Ledger length n grants clock (some ⟨0, clock + length⟩) := by
  have hover := h.ended rfl
  refine { h with ended := nofun, used := ?_, last := ?_ }
  · rintro w ⟨⟩
    apply Eq.symm
    apply List.countP_eq_zero.mpr
    intro g hg
    have hend := hover g hg
    simp only [beq_iff_eq]
    omega
  · rintro w ⟨⟩
    refine ⟨le_rfl, fun g hg => .inr ?_⟩
    have hend := hover g hg
    show g.windowEnd + length ≤ clock + length
    omega

theorem grantsOf_append (grants : List Grant) (g : Grant) (e : Nat) :
    grantsOf (grants ++ [g]) e = grantsOf grants e + if g.windowEnd = e then 1 else 0 := by
  simp [grantsOf, List.countP_append, List.countP_singleton]

/-- A window that is not used up grants a request. -/
theorem granted (h : Ledger length n grants clock (some w)) (hlive : clock < w.windowEnd)
    (hroom : w.used < n) :
    Ledger length n (grants ++ [⟨clock, w.windowEnd⟩]) clock
      (some { w with used := w.used + 1 }) := by
  have hused := h.used w rfl
  have hlast := h.last w rfl
  refine ⟨?_, ?_, ?_, nofun, ?_, ?_⟩
  · intro g hg
    -- hg <;>|The new grant lies in the current window, and older windows end before it begins.
    rcases List.mem_append.mp hg with hg | hg
    · exact h.inside g hg
    · cases List.mem_singleton.mp hg
      exact ⟨hlive, hlast.1⟩
  · intro g hg g' hg'
    rcases List.mem_append.mp hg with hg | hg <;> rcases List.mem_append.mp hg' with hg' | hg'
    · exact h.apart g hg g' hg'
    · cases List.mem_singleton.mp hg'
      have hle := hlast.2 g hg
      show g.windowEnd = w.windowEnd ∨ g.windowEnd + length ≤ w.windowEnd ∨
        w.windowEnd + length ≤ g.windowEnd
      omega
    · cases List.mem_singleton.mp hg
      have hle := hlast.2 g' hg'
      show w.windowEnd = g'.windowEnd ∨ w.windowEnd + length ≤ g'.windowEnd ∨
        g'.windowEnd + length ≤ w.windowEnd
      omega
    · cases List.mem_singleton.mp hg
      cases List.mem_singleton.mp hg'
      exact .inl rfl
  · intro e
    have hbounded := h.bounded e
    rw [grantsOf_append]
    split
    · rename_i he
      subst he
      show grantsOf grants w.windowEnd + 1 ≤ n
      omega
    · exact hbounded
  · rintro w' ⟨⟩
    rw [grantsOf_append, if_pos rfl, ← hused]
  · rintro w' ⟨⟩
    refine ⟨hlast.1, fun g hg => ?_⟩
    rcases List.mem_append.mp hg with hg | hg
    · exact hlast.2 g hg
    · cases List.mem_singleton.mp hg
      exact .inl rfl

/-- **An interval as long as a window sees at most two windows' worth of grants.** -/
theorem interval_le (h : Ledger length n grants clock current) (t₀ : Nat) :
    grants.countP (fun g => decide (t₀ ≤ g.time ∧ g.time ≤ t₀ + length)) ≤ 2 * n := by
  -- the ends of the windows met by the interval lie within two lengths
  have hmet : ∀ g ∈ grants, t₀ ≤ g.time ∧ g.time ≤ t₀ + length →
      t₀ < g.windowEnd ∧ g.windowEnd ≤ t₀ + length + length := by
    intro g hg hin
    have hinside := h.inside g hg
    omega
  by_cases hsome : ∃ g ∈ grants, t₀ ≤ g.time ∧ g.time ≤ t₀ + length
  · obtain ⟨g, hg, hin⟩ := hsome
    by_cases hother : ∃ g' ∈ grants, (t₀ ≤ g'.time ∧ g'.time ≤ t₀ + length) ∧
        g'.windowEnd ≠ g.windowEnd
    · obtain ⟨g', hg', hin', hne⟩ := hother
      have htwo : ∀ x ∈ grants, t₀ ≤ x.time ∧ x.time ≤ t₀ + length →
          x.windowEnd = g.windowEnd ∨ x.windowEnd = g'.windowEnd := by
        intro x hx hinx
        have hx' := hmet x hx hinx
        have hg₁ := hmet g hg hin
        have hg₂ := hmet g' hg' hin'
        have hapart := h.apart g hg g' hg'
        have hapart₁ := h.apart x hx g hg
        have hapart₂ := h.apart x hx g' hg'
        omega
      calc grants.countP (fun g => decide (t₀ ≤ g.time ∧ g.time ≤ t₀ + length))
          ≤ grants.countP (fun x => x.windowEnd == g.windowEnd || x.windowEnd == g'.windowEnd) := by
            apply List.countP_mono_left
            intro x hx hinx
            simpa using htwo x hx (of_decide_eq_true hinx)
        _ ≤ grantsOf grants g.windowEnd + grantsOf grants g'.windowEnd := by
            exact countP_or_le grants _ _
        _ ≤ 2 * n := by
            have hb := h.bounded g.windowEnd
            have hb' := h.bounded g'.windowEnd
            omega
    · have hone : ∀ x ∈ grants, t₀ ≤ x.time ∧ x.time ≤ t₀ + length →
          x.windowEnd = g.windowEnd := by
        intro x hx hinx
        by_contra hne
        exact hother ⟨x, hx, hinx, hne⟩
      calc grants.countP (fun g => decide (t₀ ≤ g.time ∧ g.time ≤ t₀ + length))
          ≤ grantsOf grants g.windowEnd := by
            apply List.countP_mono_left
            intro x hx hinx
            simpa using hone x hx (of_decide_eq_true hinx)
        _ ≤ 2 * n := by
            have hb := h.bounded g.windowEnd
            omega
  · have hzero : grants.countP (fun g => decide (t₀ ≤ g.time ∧ g.time ≤ t₀ + length)) = 0 := by
      apply List.countP_eq_zero.mpr
      intro g hg hin
      exact hsome ⟨g, hg, of_decide_eq_true hin⟩
    omega

end Ledger
