import Mathlib

/-!
# Versions

A store that hands out versions promises two things to a client that comes back later: a version it
sees again means the content it saw, and a version that has passed never returns. Both follow from
one relation between an earlier and a later state (`Later`): the version is higher, or it is the
same and so is the content. The relation composes, so it is enough to know it of a single step.

`version` may be any order, and `content` any view of the state: the whole of it, or one entry.
-/

variable {σ ℓ α β : Type}

/-- `s'` has a higher version than `s`, or the same version and the same content. -/
def Later [LT α] (version : σ → α) (content : σ → β) (s s' : σ) : Prop :=
  version s < version s' ∨ version s = version s' ∧ content s = content s'

namespace Later

variable [Preorder α] {version : σ → α} {content : σ → β} {s s' s'' : σ}

theorem refl (s : σ) : Later version content s s := .inr ⟨rfl, rfl⟩

theorem trans (h : Later version content s s') (h' : Later version content s' s'') :
    Later version content s s'' := by
  rcases h with h | ⟨hv, hc⟩ <;> rcases h' with h' | ⟨hv', hc'⟩
  · exact .inl (h.trans h')
  · exact .inl (hv' ▸ h)
  · exact .inl (hv ▸ h')
  · exact .inr ⟨hv.trans hv', hc.trans hc'⟩

theorem version_le (h : Later version content s s') : version s ≤ version s' := by
  rcases h with h | ⟨h, _⟩
  · exact h.le
  · exact h.le

/-- A version that is seen again means the content that was seen. -/
theorem content_eq (h : Later version content s s') (hv : version s = version s') :
    content s = content s' := by
  rcases h with h | ⟨_, hc⟩
  · exact absurd h (hv ▸ lt_irrefl _)
  · exact hc

/-- Steps that keep an invariant and lead to later states lead to later states one after the
other. -/
theorem foldl {I : σ → Prop} {step : σ → ℓ → σ} (hinv : ∀ s l, I s → I (step s l))
    (hstep : ∀ s l, I s → Later version content s (step s l)) (ls : List ℓ) {s : σ} (hs : I s) :
    Later version content s (ls.foldl step s) := by
  induction ls generalizing s with
  | nil => exact refl s
  | cons l ls ih => exact (hstep s l hs).trans (ih (hinv s l hs))

/-- Of the states that a sequence of steps goes through, each is later than those before it. -/
theorem pairwise_scanl {I : σ → Prop} {step : σ → ℓ → σ} (hinv : ∀ s l, I s → I (step s l))
    (hstep : ∀ s l, I s → Later version content s (step s l)) (ls : List ℓ) {s : σ} (hs : I s) :
    (ls.scanl step s).Pairwise (Later version content) := by
  induction ls generalizing s with
  | nil => simp
  | cons l ls ih =>
    rw [List.scanl_cons, List.pairwise_cons]
    refine ⟨?_, ih (hinv s l hs)⟩
    intro s' hs'
    -- every state after the first step is later than the state it led to
    have hnext : Later version content (step s l) s' := by
      have htail := ih (hinv s l hs)
      cases ls with
      | nil =>
        rw [List.scanl_nil, List.mem_singleton] at hs'
        exact hs' ▸ refl _
      | cons l' ls =>
        rw [List.scanl_cons, List.pairwise_cons] at htail
        rw [List.scanl_cons, List.mem_cons] at hs'
        rcases hs' with rfl | hs'
        · exact refl _
        · exact htail.1 s' hs'
    exact (hstep s l hs).trans hnext

end Later
