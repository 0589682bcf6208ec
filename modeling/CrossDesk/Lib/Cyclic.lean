import Mathlib

/-!
# Going round a circle

The elements of a linear order, gone through upwards and from the largest to the smallest again.
`Sooner a t b` says that one who leaves `a` and goes round meets `t` before `b`; from `a` round to
`a` itself one meets everything else.

A scan that starts behind `a` and stops at `b` has not passed `t` when `¬ Sooner a t b`. Scans that
never pass `t` and never stop at it do not come full circle (`Sooner.extend`).
-/

variable {α : Type} [LinearOrder α]

/-- Going round from `a`, `t` comes before `b`. -/
def Sooner (a t b : α) : Prop := (a < t ∧ t < b) ∨ (b ≤ a ∧ (a < t ∨ t < b))

namespace Sooner

/-- Nothing comes before itself. -/
theorem ne {a t b : α} (h : Sooner a b t) : b ≠ t := by
  rintro rfl
  rcases h with h | h
  · exact lt_irrefl _ h.2
  · rcases h.2 with hb | hb
    · exact absurd h.1 (not_le.mpr hb)
    · exact lt_irrefl _ hb

/-- One who leaves `a` does not meet `a` before anything else. -/
theorem ne_start {a t b : α} (hne : a ≠ t) (h : Sooner a b t) : b ≠ a := by
  rintro rfl
  rcases h with h | h
  · exact lt_irrefl _ h.1
  · rcases h.2 with hb | hb
    · exact lt_irrefl _ hb
    · exact absurd h.1 (not_le.mpr hb)

/-- The first stop of one who leaves `a` and does not pass `t`. -/
theorem first {a t b : α} (hne : a ≠ t) (hbt : b ≠ t) (h : ¬ Sooner a t b) : Sooner a b t := by
  unfold Sooner at h ⊢
  rcases lt_trichotomy a t with hat | hat | hat
  · rcases lt_trichotomy b t with hb | hb | hb
    · rcases lt_or_ge a b with hab | hab
      · exact .inl ⟨hab, hb⟩
      · exact absurd (.inr ⟨hab, .inl hat⟩) h
    · exact absurd hb hbt
    · exact absurd (.inl ⟨hat, hb⟩) h
  · exact absurd hat hne
  · right
    refine ⟨hat.le, ?_⟩
    rcases lt_trichotomy b t with hb | hb | hb
    · exact .inr hb
    · exact absurd hb hbt
    · left
      by_contra hab
      exact h (.inr ⟨not_lt.mp hab, .inr hb⟩)

/-- One who has not met `t` since `a` and goes on without passing it. -/
theorem extend {a t b c : α} (hb : Sooner a b t) (hct : c ≠ t) (h : ¬ Sooner b t c) :
    Sooner a c t := by
  unfold Sooner at hb h ⊢
  grind

end Sooner

/-! ## Scanning a set of stops

`next` is the first stop after `k`, or none. -/

/-- A scan that has not passed `t` and does not stop there has not passed it at the next stop. -/
theorem not_sooner_next {a t k k' : α} (hkt : k ≠ t) (h : ¬ Sooner a t k) (hkk' : k < k')
    (hnext : k < t → k' ≤ t) : ¬ Sooner a t k' := by
  unfold Sooner at h ⊢
  grind

/-- A scan that has not passed `t` at the largest stop has to start again from the smallest. -/
theorem le_of_not_sooner_last {a t k : α} (hkt : k ≠ t) (h : ¬ Sooner a t k) (hlast : t ≤ k) :
    t ≤ a := by
  unfold Sooner at h
  grind

/-- The first stop of a scan. -/
theorem not_sooner_first {a t k : α} (hak : a < k) (hnext : a < t → k ≤ t) : ¬ Sooner a t k := by
  unfold Sooner
  grind

/-- The smallest stop. -/
theorem not_sooner_wrapped {a t k : α} (hta : t ≤ a) (hfirst : k ≤ t) : ¬ Sooner a t k := by
  unfold Sooner
  grind

/-! ## How many stops are ahead

A scan that looks at every stop once counts down what is ahead of it. `wrapped` says that it has
started again from the smallest stop. -/

/-- The stop `k` is still to come in a scan from behind `last` that is about to look at `next`. -/
def ahead (last : α) (wrapped : Bool) (next : Option α) (k : α) : Bool :=
  if wrapped then next.any (fun n => decide (n ≤ k)) && decide (k ≤ last)
  else next.any (fun n => decide (n ≤ k)) || decide (k ≤ last)

section Ahead

variable {stops : List α} {last : α} {wrapped : Bool} {next : Option α} {k : α}

/-- `next` is the smallest stop above `k`, if there is one. -/
def NextStop (stops : List α) (k : α) (next : Option α) : Prop :=
  ∀ t ∈ stops, next.any (fun n => decide (n ≤ t)) = decide (k < t)

/-- At its start a scan has all stops ahead. -/
theorem countP_ahead_start (hnext : NextStop stops last next) :
    stops.countP (ahead last false next) = stops.length := by
  rw [List.countP_eq_length]
  intro t ht
  unfold ahead
  rw [if_neg Bool.false_ne_true, hnext t ht]
  rcases lt_or_ge last t with h | h
  · simp [h]
  · simp [h]

/-- Leaving out one of the stops counted takes one away. -/
theorem countP_without {p : α → Bool} (hnodup : stops.Nodup) (hk : k ∈ stops) (hp : p k = true) :
    stops.countP p = stops.countP (fun t => p t && decide (t ≠ k)) + 1 := by
  induction stops with
  | nil => cases hk
  | cons t stops ih =>
    obtain ⟨hnew, hnodup⟩ := List.nodup_cons.mp hnodup
    rw [List.countP_cons, List.countP_cons]
    rcases List.mem_cons.mp hk with rfl | hk
    · have hsame : stops.countP (fun t => p t && decide (t ≠ k)) = stops.countP p := by
        refine List.countP_congr fun t ht => ?_
        have hne : t ≠ k := fun heq => hnew (heq ▸ ht)
        simp [hne]
      simpa [hp] using hsame.symm
    · have hne : t ≠ k := fun heq => hnew (heq ▸ hk)
      rw [ih hnodup hk]
      simp only [hne, ne_eq, not_false_eq_true, decide_true, Bool.and_true]
      omega

/-- A scan that goes on from a stop has that one less ahead. -/
theorem ahead_next (hnext : NextStop stops k next) (hahead : wrapped = false → last < k)
    (hwrapped : wrapped = true → k ≤ last) {t : α} (ht : t ∈ stops) :
    ahead last wrapped next t = (ahead last wrapped (some k) t && decide (t ≠ k)) := by
  unfold ahead
  rw [hnext t ht, Option.any_some]
  cases wrapped with
  | true =>
    have hlast := hwrapped rfl
    rcases lt_trichotomy k t with h | h | h
    · simp [h, h.le, h.ne']
    · simp [h]
    · simp [h.not_ge, h.not_gt]
  | false =>
    have hlast := hahead rfl
    rcases lt_trichotomy k t with h | h | h
    · simp [h, h.le, h.ne']
    · subst h
      simp [hlast.not_ge]
    · simp [h.not_ge, h.not_gt, h.ne]

theorem countP_ahead_next (hnodup : stops.Nodup) (hk : k ∈ stops) (hnext : NextStop stops k next)
    (hahead : wrapped = false → last < k) (hwrapped : wrapped = true → k ≤ last) :
    stops.countP (ahead last wrapped (some k)) = stops.countP (ahead last wrapped next) + 1 := by
  have hself : ahead last wrapped (some k) k = true := by
    unfold ahead
    cases wrapped with
    | true => simp [hwrapped rfl]
    | false => simp
  rw [countP_without hnodup hk hself]
  refine congrArg (· + 1) (List.countP_congr fun t ht => ?_)
  rw [ahead_next hnext hahead hwrapped ht]

/-- A scan that has come to the largest stop starts again with the smallest one. -/
theorem ahead_wrap {first : Option α} (hfirst : ∀ t ∈ stops, first.any (fun n => decide (n ≤ t)) = true)
    {t : α} (ht : t ∈ stops) : ahead last true first t = ahead last false none t := by
  simp [ahead, hfirst t ht]

end Ahead
