import CrossDesk.DeviceAuthLimiter.Basic

/-!
# The work limiter

`CredentialWorkLimiter` bounds the expensive requests of one source, whatever comes of them: at most
`sourceLimit` in a window of a minute, which opens with the first request after the last window. The
table of windows is swept at most once a minute, inside whichever call comes next, and a new source
is refused while the table is full.

`Admit` reads three things: whether the sweep is due, whether there is room, and the live window of
its source. `admitSource_cases` states its outcome in those terms, with `live` for the window that counts
now; everything else is proved from it.
-/

namespace CrossDesk

namespace CredentialWorkLimiter

/-- The window of a source. -/
structure Window where
  count : Nat := 0
  expires : TimePoint := 0
  deriving DecidableEq, Repr

end CredentialWorkLimiter

open CredentialWorkLimiter

/-- The limiter. The constructor throws on a limit of zero. -/
structure CredentialWorkLimiter where
  sourceLimit : Nat := 60
  sources : OrdMap String Window := ∅
  nextCleanup : TimePoint := 0

namespace CredentialWorkLimiter

open DeviceAuthLimiter (kMaxEntries)

/-- The length of a window: a minute. -/
def window : Nat := seconds 60

/-- A request without a source counts against a source of its own. -/
def keyOf (source : String) : String := if source = "" then "unknown" else source

/-- The sweep: windows that have ended are dropped. -/
def sweep (now : TimePoint) (sources : OrdMap String Window) : OrdMap String Window :=
  sources.filter (fun _ value => !decide (value.expires ≤ now))

/-- `Admit`: 0, or the seconds to wait. -/
def admitSource (now : TimePoint) (source : String) (s : CredentialWorkLimiter) :
    Nat × CredentialWorkLimiter :=
  let s := if now ≥ s.nextCleanup then
      { s with sources := sweep now s.sources, nextCleanup := now + window }
    else s
  let key := keyOf source
  if !s.sources.contains key && decide (s.sources.size ≥ kMaxEntries) then (60, s)
  else
    let own := (s.sources[key]?).getD ⟨0, now + window⟩
    let own := if own.expires ≤ now then ⟨0, now + window⟩ else own
    let delay := if own.count < s.sourceLimit then 0 else ceilSeconds (own.expires - now)
    if delay > 0 then (delay, { s with sources := s.sources.insert key own })
    else (0, { s with sources := s.sources.insert key { own with count := own.count + 1 } })

/-! ## The window that counts -/

/-- The window of a source, unless it has ended. -/
def live (now : TimePoint) (s : CredentialWorkLimiter) (key : String) : Option Window :=
  (s.sources[key]?).filter (fun value => !decide (value.expires ≤ now))

/-- The table after the sweep, if one is due. -/
def swept (now : TimePoint) (s : CredentialWorkLimiter) : OrdMap String Window :=
  if now ≥ s.nextCleanup then sweep now s.sources else s.sources

/-- There is no place for a window of `key`. -/
def Crowded (now : TimePoint) (s : CredentialWorkLimiter) (key : String) : Prop :=
  (swept now s)[key]? = none ∧ kMaxEntries ≤ (swept now s).size

instance (now : TimePoint) (s : CredentialWorkLimiter) (key : String) :
    Decidable (Crowded now s key) :=
  inferInstanceAs (Decidable (_ ∧ _))

theorem live_eq_some {now : TimePoint} {s : CredentialWorkLimiter} {key : String} {w : Window} :
    live now s key = some w ↔ s.sources[key]? = some w ∧ now < w.expires := by
  simp [live, Option.filter_eq_some_iff]

/-- The sweep keeps a window exactly when it is live; without it, ended windows may stay. -/
theorem getElem?_swept (now : TimePoint) (s : CredentialWorkLimiter) (key : String) :
    (swept now s)[key]? = live now s key ∨ (swept now s)[key]? = s.sources[key]? := by
  unfold swept live
  split
  · refine .inl ?_
    unfold sweep
    grind
  · exact .inr rfl

/-- The sweep takes no live window away. -/
theorem live_swept (now : TimePoint) (s : CredentialWorkLimiter) (key : String) :
    ((swept now s)[key]?).filter (fun value => !decide (value.expires ≤ now)) =
      live now s key := by
  rcases getElem?_swept now s key with h | h
  · rw [h, live, Option.filter_filter]
    simp
  · rw [h]
    rfl

/-- What the sweep leaves was there before. -/
theorem swept_eq_some {now : TimePoint} {s : CredentialWorkLimiter} {key : String} {w : Window}
    (h : (swept now s)[key]? = some w) : s.sources[key]? = some w := by
  rcases getElem?_swept now s key with hkey | hkey
  · rw [hkey] at h
    exact (live_eq_some.mp h).1
  · rwa [hkey] at h

/-- The sweep does not make the table larger. -/
theorem size_swept_le (now : TimePoint) (s : CredentialWorkLimiter) :
    (swept now s).size ≤ s.sources.size := by
  unfold swept
  split
  · exact Std.ExtTreeMap.size_filter_le_size
  · exact le_rfl

/-- The window that a call of `key` draws from: the live one, or a fresh one. -/
def current (now : TimePoint) (s : CredentialWorkLimiter) (key : String) : Window :=
  (live now s key).getD ⟨0, now + window⟩

theorem current_live (now : TimePoint) (s : CredentialWorkLimiter) (key : String) :
    now < (current now s key).expires := by
  unfold current
  cases h : live now s key with
  | none =>
    show now < now + window
    exact Nat.lt_add_of_pos_right (by decide)
  | some w => exact (live_eq_some.mp h).2

/-- Looking the window up and refreshing it gives the current one. -/
theorem refreshed_eq_current (now : TimePoint) (s : CredentialWorkLimiter) (key : String) :
    (if (((swept now s)[key]?).getD ⟨0, now + window⟩).expires ≤ now then ⟨0, now + window⟩
      else ((swept now s)[key]?).getD ⟨0, now + window⟩) = current now s key := by
  unfold current
  rw [← live_swept]
  cases (swept now s)[key]? with
  | none => simp
  | some w =>
    by_cases hended : w.expires ≤ now
    · simp [Option.filter, hended]
    · simp [Option.filter, hended]

/-- What a call can come to, by the answer and the table it leaves: a new source is refused while the
table is full; otherwise the current window of the source grants the request or says how long it
still lasts. -/
inductive Outcome (now : TimePoint) (key : String) (s : CredentialWorkLimiter) :
    Nat → OrdMap String Window → Prop where
  | crowded (hfull : Crowded now s key) : Outcome now key s 60 (swept now s)
  | granted (hplace : ¬ Crowded now s key) (hroom : (current now s key).count < s.sourceLimit) :
      Outcome now key s 0 ((swept now s).insert key
        { current now s key with count := (current now s key).count + 1 })
  | exhausted (hplace : ¬ Crowded now s key) (hused : s.sourceLimit ≤ (current now s key).count) :
      Outcome now key s (ceilSeconds ((current now s key).expires - now))
        ((swept now s).insert key (current now s key))

/-- **What `Admit` does.** -/
theorem admitSource_cases (now : TimePoint) (source : String) (s : CredentialWorkLimiter) :
    (admitSource now source s).2.sourceLimit = s.sourceLimit ∧
      Outcome now (keyOf source) s (admitSource now source s).1 (admitSource now source s).2.sources := by
  -- the limiter after the sweep that was due, if one was
  obtain ⟨s₁, hs₁, hlimit, hsources⟩ : ∃ s₁ : CredentialWorkLimiter,
      s₁ = (if now ≥ s.nextCleanup then
        { s with sources := sweep now s.sources, nextCleanup := now + window } else s) ∧
      s₁.sourceLimit = s.sourceLimit ∧ s₁.sources = swept now s := by
    refine ⟨_, rfl, ?_, ?_⟩
    · split <;> rfl
    · unfold swept
      split <;> rfl
  have hcrowded : (!s₁.sources.contains (keyOf source) &&
      decide (s₁.sources.size ≥ kMaxEntries)) = true ↔ Crowded now s (keyOf source) := by
    unfold Crowded
    rw [hsources, Std.ExtTreeMap.contains_eq_isSome_getElem?, Bool.and_eq_true,
      Bool.not_eq_true', Option.isSome_eq_false_iff, Option.isNone_iff_eq_none,
      decide_eq_true_eq]
  have hown := refreshed_eq_current now s (keyOf source)
  have hlive := current_live now s (keyOf source)
  unfold admitSource
  dsimp only
  rw [← hs₁]
  by_cases hfull : Crowded now s (keyOf source)
  · rw [if_pos (hcrowded.mpr hfull)]
    refine ⟨hlimit, ?_⟩
    show Outcome now (keyOf source) s 60 s₁.sources
    rw [hsources]
    exact .crowded hfull
  · rw [if_neg (fun h => hfull (hcrowded.mp h)), hsources, hown, hlimit]
    by_cases hroom : (current now s (keyOf source)).count < s.sourceLimit
    · rw [if_pos hroom, if_neg (Nat.lt_irrefl 0)]
      exact ⟨rfl, .granted hfull hroom⟩
    · have hdelay : 0 < ceilSeconds ((current now s (keyOf source)).expires - now) :=
        ceilSeconds_pos.mpr (Nat.sub_pos_of_lt hlive)
      rw [if_neg hroom, if_pos hdelay]
      exact ⟨rfl, .exhausted hfull (Nat.le_of_not_lt hroom)⟩

end CredentialWorkLimiter

end CrossDesk
