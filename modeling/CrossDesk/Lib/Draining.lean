import Mathlib

/-!
# Draining a backlog

A job handles a backlog in batches, and each call reports whether there may be more. When a call that
reports more takes something off a measure, a sequence of calls comes to one that does not report
more, after at most as many calls as the measure of the state they began with (`exists_rest`). What
ends a batch job is that a batch which was not filled held all there was (`take_of_not_filled`).
-/

variable {σ α : Type}

namespace Draining

/-- The state after the first `n` calls of a sequence. -/
def after (call : Nat → σ → σ) (s : σ) : Nat → σ
  | 0 => s
  | n + 1 => call n (after call s n)

/-- Each of the calls so far has taken something off the measure. -/
theorem measure_after_add_le {call : Nat → σ → σ} {more : Nat → σ → Prop} {measure : σ → Nat}
    (hprogress : ∀ n s, more n s → measure (call n s) < measure s) {s : σ} {n : Nat}
    (hmore : ∀ m < n, more m (after call s m)) : measure (after call s n) + n ≤ measure s := by
  induction n with
  | zero => exact le_refl _
  | succ n ih =>
    have hbefore := ih (fun m hm => hmore m (by omega))
    have hstep := hprogress n (after call s n) (hmore n (by omega))
    show measure (call n (after call s n)) + (n + 1) ≤ measure s
    omega

/-- **The backlog is drained.** -/
theorem exists_rest {call : Nat → σ → σ} {more : Nat → σ → Prop} {measure : σ → Nat}
    (hprogress : ∀ n s, more n s → measure (call n s) < measure s) (s : σ) :
    ∃ n ≤ measure s, ¬ more n (after call s n) := by
  by_contra hnone
  push Not at hnone
  have hall := measure_after_add_le hprogress
    (fun m (hm : m < measure s + 1) => hnone m (by omega))
  omega

/-- A batch that was not filled held all there was. -/
theorem take_of_not_filled {l : List α} {size : Nat} (h : (l.take size).length ≠ size) :
    l.take size = l := by
  apply List.take_of_length_le
  rw [List.length_take] at h
  omega

end Draining
