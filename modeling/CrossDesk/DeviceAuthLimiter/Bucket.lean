import CrossDesk.DeviceAuthLimiter.Basic

/-!
# The life of one bucket

Whatever the limiter does, a single bucket only ever sees a few things: it is created, held, given
back, refreshed when its window ran out, charged with a failure, cleared, erased. This module follows
one bucket through them, together with a log of what counts for guessing: a `reset` forgives its
failures, `recorded` charges one, `cooldown` starts a lockout.

`Fits` is the invariant. It relates the bucket to the number of verifications that hold it and to its
log since the last reset; each lemma below is one thing that can happen to the bucket.
-/

namespace CrossDesk.DeviceAuthLimiter

/-- What happens to a bucket, as far as guessing is concerned. -/
inductive BucketEvent where
  | reset
  | recorded
  | cooldown
  deriving DecidableEq, Repr

/-- The events after the last reset. -/
def sinceReset (log : List BucketEvent) : List BucketEvent :=
  (log.reverse.takeWhile (· ≠ .reset)).reverse

/-- The failures recorded before the first cooldown. -/
def failuresBeforeCooldown (log : List BucketEvent) : Nat :=
  (log.takeWhile (· ≠ .cooldown)).count .recorded

@[simp] theorem sinceReset_reset (log : List BucketEvent) : sinceReset (log ++ [.reset]) = [] := by
  simp [sinceReset]

@[simp] theorem sinceReset_recorded (log : List BucketEvent) :
    sinceReset (log ++ [.recorded]) = sinceReset log ++ [.recorded] := by
  simp [sinceReset]

@[simp] theorem sinceReset_cooldown (log : List BucketEvent) :
    sinceReset (log ++ [.cooldown]) = sinceReset log ++ [.cooldown] := by
  simp [sinceReset]

/-- Before any cooldown every failure is one before the first. -/
theorem failuresBeforeCooldown_of_not_mem {log : List BucketEvent} (h : .cooldown ∉ log) :
    failuresBeforeCooldown log = log.count .recorded := by
  unfold failuresBeforeCooldown
  rw [List.takeWhile_eq_self_iff.mpr]
  intro e he
  have hne : e ≠ .cooldown := by
    intro heq
    subst heq
    exact h he
  simpa using hne

/-- The first cooldown closes the count. -/
theorem failuresBeforeCooldown_cooldown {log : List BucketEvent} (h : .cooldown ∉ log) :
    failuresBeforeCooldown (log ++ [.cooldown]) = log.count .recorded := by
  rw [← failuresBeforeCooldown_of_not_mem h]
  unfold failuresBeforeCooldown
  induction log with
  | nil => simp
  | cons e log ih =>
    simp only [List.mem_cons, not_or] at h
    have hne : e ≠ .cooldown := fun heq => h.1 heq.symm
    simpa [hne, List.count_cons] using ih h.2

/-- What follows a cooldown is not before the first one. -/
theorem failuresBeforeCooldown_append {log : List BucketEvent} (h : .cooldown ∈ log)
    (more : List BucketEvent) :
    failuresBeforeCooldown (log ++ more) = failuresBeforeCooldown log := by
  unfold failuresBeforeCooldown
  induction log with
  | nil => simp at h
  | cons e log ih =>
    by_cases he : e = .cooldown
    · simp [he]
    · have hlog : BucketEvent.cooldown ∈ log := by
        rcases List.mem_cons.mp h with heq | hmem
        · exact absurd heq.symm he
        · exact hmem
      simpa [he, List.count_cons] using ih hlog

/-! ## Events of the bucket functions -/

/-- Refreshing resets a bucket whose window ran out. -/
def refreshEvents (f : Failures) (now : TimePoint) : List BucketEvent :=
  if f.expires > now then [] else [.reset]

/-- Recording charges a failure, and locks the bucket at the limit. -/
def recordEvents (limit : Nat) (f : Failures) : List BucketEvent :=
  if f.count + 1 < limit then [.recorded] else [.recorded, .cooldown]

/-! ## The bucket functions -/

theorem resetExpired_pending (f : Failures) (now : TimePoint) :
    (resetExpired f now).pending = f.pending := by
  unfold resetExpired
  split <;> rfl

/-- Refreshing does not look at the reservations. -/
theorem resetExpired_with_pending (f : Failures) (p : Nat) (now : TimePoint) :
    resetExpired { f with pending := p } now = { resetExpired f now with pending := p } := by
  unfold resetExpired
  split <;> rfl

theorem resetExpired_generation (f : Failures) (now : TimePoint) :
    (resetExpired f now).generation = f.generation := by
  unfold resetExpired
  split <;> rfl

theorem record_pending (policy : Policy) (f : Failures) (limit : Nat) (now : TimePoint)
    (operation : Operation) : (record policy f limit now operation).pending = f.pending := by
  unfold record
  grind

/-- A record below the limit only counts. -/
theorem record_of_lt {policy : Policy} {f : Failures} {limit : Nat} {now : TimePoint}
    {operation : Operation} (h : f.count + 1 < limit) :
    record policy f limit now operation =
      { f with count := f.count + 1, operations := f.operations ||| operation.toNat } := by
  unfold record
  grind

/-- A record at the limit leaves the bucket full. -/
theorem record_count_of_le (policy : Policy) {f : Failures} {limit : Nat} (now : TimePoint)
    (operation : Operation) (hle : f.count ≤ limit) (h : limit ≤ f.count + 1) :
    (record policy f limit now operation).count = limit := by
  unfold record
  grind

/-! ## The invariant -/

/-- A bucket, held by `held` verifications, at time `clock`, with the log of what happened to it. -/
structure Fits (limit : Nat) (clock : TimePoint) (bucket : Option Failures) (held : Nat)
    (log : List BucketEvent) : Prop where
  /-- Pending counts the verifications; without a bucket there are none. -/
  pending : (bucket.map Failures.pending).getD 0 = held
  /-- Failures and reservations stay within the limit; a full bucket is held at most once. -/
  budget : ∀ f : Failures, bucket = some f →
    f.count + f.pending ≤ limit ∨ f.count = limit ∧ f.pending ≤ 1
  /-- Nobody holds a bucket that is cooling down. -/
  cooling : ∀ f : Failures, bucket = some f → f.blockedUntil > clock → f.pending = 0
  /-- Before the first cooldown the count is the number of failures recorded. -/
  counted : .cooldown ∉ sinceReset log →
    (bucket.map Failures.count).getD 0 = (sinceReset log).count .recorded ∧
      (bucket.map Failures.count).getD 0 < limit
  /-- After it the bucket stays full. -/
  full : .cooldown ∈ sinceReset log → ∃ f : Failures, bucket = some f ∧ f.count = limit
  bounded : failuresBeforeCooldown (sinceReset log) ≤ limit

/-- There is room to record one more failure. -/
def Room (limit : Nat) (f : Failures) : Prop :=
  f.count + f.pending + 1 ≤ limit ∨ f.count = limit ∧ f.pending = 0

namespace Fits

variable {limit : Nat} {clock now : TimePoint} {bucket : Option Failures} {f : Failures}
  {held : Nat} {log : List BucketEvent}

/-- A bucket that does not exist and of which nothing is recorded. -/
theorem fresh (hlimit : 1 ≤ limit) : Fits limit clock none 0 [] where
  pending := rfl
  budget := nofun
  cooling := nofun
  counted := by intro _; exact ⟨by simp [sinceReset], hlimit⟩
  full := by intro h; simp [sinceReset] at h
  bounded := by simp [sinceReset, failuresBeforeCooldown]

/-- After a reset nothing is recorded, whatever was before. -/
theorem reset (hlimit : 1 ≤ limit) (hpending : (bucket.map Failures.pending).getD 0 = held)
    (hbudget : ∀ f : Failures, bucket = some f →
      f.count = 0 ∧ f.blockedUntil = 0 ∧ f.pending ≤ limit) :
    Fits limit clock bucket held (log ++ [.reset]) where
  pending := hpending
  budget := by
    intro f hf
    obtain ⟨hcount, _, hle⟩ := hbudget f hf
    exact .inl (by omega)
  cooling := by
    intro f hf hblocked
    obtain ⟨_, hunblocked, _⟩ := hbudget f hf
    rw [hunblocked] at hblocked
    exact absurd hblocked (Nat.not_lt_zero clock)
  counted := by
    intro _
    rw [sinceReset_reset]
    cases bucket with
    | none => exact ⟨rfl, hlimit⟩
    | some f =>
      have hcount := (hbudget f rfl).1
      simp only [Option.map_some, Option.getD_some, List.count_nil]
      omega
  full := by simp
  bounded := by simp [failuresBeforeCooldown]

/-- Time passes. -/
theorem later (h : Fits limit clock bucket held log) (hnow : clock ≤ now) :
    Fits limit now bucket held log where
  pending := h.pending
  budget := h.budget
  cooling := fun f hf hblocked => h.cooling f hf (Nat.lt_of_le_of_lt hnow hblocked)
  counted := h.counted
  full := h.full
  bounded := h.bounded

/-- Cleanup drops a bucket nobody holds. -/
theorem pruned (hlimit : 1 ≤ limit) (h : Fits limit clock (some f) held log)
    (hfree : f.pending = 0) : Fits limit clock none held (log ++ [.reset]) := by
  have hheld : held = 0 := by
    have hpending := h.pending
    simp only [Option.map_some, Option.getD_some] at hpending
    omega
  subst hheld
  exact reset hlimit rfl nofun

/-- No more than the limit are ever pending. -/
theorem pending_le (hlimit : 1 ≤ limit) (h : Fits limit clock (some f) held log) :
    f.pending ≤ limit := by
  rcases h.budget f rfl with hsum | ⟨_, hone⟩
  · omega
  · omega

theorem refreshed (hlimit : 1 ≤ limit) (h : Fits limit clock (some f) held log)
    (now : TimePoint) :
    Fits limit clock (some (resetExpired f now)) held (log ++ refreshEvents f now) := by
  have hpending := h.pending
  simp only [Option.map_some, Option.getD_some] at hpending
  by_cases hlive : f.expires > now
  · simpa [resetExpired, refreshEvents, hlive] using h
  · have hle := h.pending_le hlimit
    have hevents : refreshEvents f now = [.reset] := by simp [refreshEvents, hlive]
    rw [hevents]
    refine reset hlimit (by simp [resetExpired_pending, hpending]) ?_
    intro f' hf'
    cases hf'
    simp [resetExpired, hlive, hle]

/-- `ClearMatching` forgives a bucket that is held. -/
theorem cleared (hlimit : 1 ≤ limit) (h : Fits limit clock (some f) held log) :
    Fits limit clock
      (some (resetExpired { f with generation := f.generation + 1, expires := now } now)) held
      (log ++ [.reset]) := by
  have hpending := h.pending
  simp only [Option.map_some, Option.getD_some] at hpending
  have hle := h.pending_le hlimit
  refine reset hlimit (by simp [resetExpired_pending, hpending]) ?_
  intro f' hf'
  cases hf'
  simp [resetExpired, hle]

/-- An admitted verification takes a place. -/
theorem taken (hlimit : 1 ≤ limit) (h : Fits limit clock bucket held log)
    (hready : ∀ f : Failures, bucket = some f → f.blockedUntil ≤ clock ∧
      f.pending < (if f.count < limit then limit - f.count else 1)) (fresh : Failures)
    (hfresh : fresh.count = 0 ∧ fresh.pending = 0 ∧ fresh.blockedUntil = 0) :
    Fits limit clock
      (some { bucket.getD fresh with pending := (bucket.getD fresh).pending + 1 }) (held + 1)
      log := by
  have hpending := h.pending
  cases bucket with
  | none =>
    obtain ⟨hcount, hfree, hunblocked⟩ := hfresh
    simp only [Option.map_none, Option.getD_none] at hpending ⊢
    refine ⟨by simp [hfree, ← hpending], ?_, ?_, ?_, ?_, h.bounded⟩
    · intro f' hf'
      cases hf'
      exact .inl (by simp only [hcount, hfree]; omega)
    · intro f' hf' hblocked
      cases hf'
      simp [hunblocked] at hblocked
    · intro hnone
      have hcounted := h.counted hnone
      simpa [hcount] using hcounted
    -- There is no bucket that a cooldown could have filled.
    · intro hcooled
      obtain ⟨f', hf', _⟩ := h.full hcooled
      cases hf'
  | some f =>
    obtain ⟨hunblocked, hroom⟩ := hready f rfl
    simp only [Option.map_some, Option.getD_some] at hpending ⊢
    refine ⟨by simp [hpending], ?_, ?_, ?_, ?_, h.bounded⟩
    · intro f' hf'
      cases hf'
      have hbudget := h.budget f rfl
      -- Room below the limit, or for the one retry of a full bucket.
      split at hroom
      · exact .inl (by dsimp only; omega)
      · exact .inr (by dsimp only; omega)
    · intro f' hf' hblocked
      cases hf'
      exact absurd hblocked (Nat.not_lt.mpr hunblocked)
    · intro hnone
      exact h.counted hnone
    · intro hcooled
      obtain ⟨f', hf', hcount⟩ := h.full hcooled
      cases hf'
      exact ⟨_, rfl, hcount⟩

/-- A verification gives its place back, which leaves room for one failure. -/
theorem released (h : Fits limit clock (some f) held log) (hheld : 1 ≤ held) :
    Fits limit clock (some { f with pending := f.pending - 1 }) (held - 1) log ∧
      Room limit { f with pending := f.pending - 1 } := by
  have hpending := h.pending
  simp only [Option.map_some, Option.getD_some] at hpending
  have hbudget := h.budget f rfl
  refine ⟨⟨by simp [hpending], ?_, ?_, h.counted, ?_, h.bounded⟩, ?_⟩
  · intro f' hf'
    cases hf'
    dsimp only
    omega
  · intro f' hf' hblocked
    cases hf'
    have hcooling := h.cooling f rfl hblocked
    dsimp only
    omega
  · intro hcooled
    obtain ⟨f', hf', hcount⟩ := h.full hcooled
    cases hf'
    exact ⟨_, rfl, hcount⟩
  · unfold Room
    dsimp only
    omega

theorem room_refreshed (hlimit : 1 ≤ limit) (h : Room limit f) (now : TimePoint) :
    Room limit (resetExpired f now) := by
  unfold Room resetExpired at *
  split
  · exact h
  · dsimp only
    omega

/-- A failure is charged: below the limit it is counted, at the limit it starts a cooldown, and then
nobody else holds the bucket. -/
theorem charged (h : Fits limit clock (some f) held log) (hroom : Room limit f) (policy : Policy)
    (operation : Operation) :
    Fits limit clock (some (record policy f limit now operation)) held
      (log ++ recordEvents limit f) := by
  have hpending := h.pending
  have hbudget := h.budget f rfl
  have hcounted := h.counted
  have hbounded := h.bounded
  simp only [Option.map_some, Option.getD_some] at hpending hcounted
  by_cases hlow : f.count + 1 < limit
  · -- the bucket is not full, so there was no cooldown since the reset
    have hnone : BucketEvent.cooldown ∉ sinceReset log := by
      intro hcooled
      obtain ⟨f', hf', hcount⟩ := h.full hcooled
      cases hf'
      omega
    have hevents : recordEvents limit f = [.recorded] := by simp [recordEvents, hlow]
    have hnone' : BucketEvent.cooldown ∉ sinceReset log ++ [.recorded] := by simp [hnone]
    rw [hevents, record_of_lt hlow]
    refine ⟨by simpa using hpending, ?_, ?_, ?_, ?_, ?_⟩
    · intro f' hf'
      cases hf'
      unfold Room at hroom
      exact .inl (by dsimp only; omega)
    · intro f' hf' hblocked
      cases hf'
      exact h.cooling f rfl hblocked
    · intro _
      have hold := hcounted hnone
      rw [sinceReset_recorded, List.count_append]
      simp only [Option.map_some, Option.getD_some, List.count_singleton, beq_self_eq_true, if_true]
      omega
    · intro hcooled
      rw [sinceReset_recorded] at hcooled
      exact absurd hcooled hnone'
    · have hold := hcounted hnone
      rw [sinceReset_recorded, failuresBeforeCooldown_of_not_mem hnone', List.count_append]
      simp only [List.count_singleton, beq_self_eq_true, if_true]
      omega
  · have hle : f.count ≤ limit := by omega
    -- This failure fills the bucket: from here on the cooldown rules.
    have hfull := record_count_of_le policy now operation hle (by omega)
    have hfree : f.pending = 0 := by unfold Room at hroom; omega
    have hevents : recordEvents limit f = [.recorded] ++ [.cooldown] := by
      simp [recordEvents, hlow]
    rw [hevents, ← List.append_assoc]
    refine ⟨by simp [record_pending, hpending], ?_, ?_, ?_, ?_, ?_⟩
    · intro f' hf'
      cases hf'
      exact .inr ⟨hfull, by rw [record_pending]; omega⟩
    · intro f' hf' _
      cases hf'
      rw [record_pending, hfree]
    · intro hnone
      rw [sinceReset_cooldown] at hnone
      simp at hnone
    · intro _
      exact ⟨_, rfl, hfull⟩
    · rw [sinceReset_cooldown, sinceReset_recorded]
      by_cases hcooled : BucketEvent.cooldown ∈ sinceReset log
      · rw [List.append_assoc, failuresBeforeCooldown_append hcooled]
        exact hbounded
      · -- the failure that reaches the limit is the last one before the cooldown
        have hold := hcounted hcooled
        rw [failuresBeforeCooldown_cooldown (by simp [hcooled]), List.count_append]
        simp only [List.count_singleton, beq_self_eq_true, if_true]
        omega

/-- A bucket without failures that nobody holds is dropped. -/
theorem dropped (hlimit : 1 ≤ limit) (h : Fits limit clock (some f) held log)
    (hempty : f.count = 0 ∧ f.pending = 0) : Fits limit clock none held log := by
  have hpending := h.pending
  simp only [Option.map_some, Option.getD_some] at hpending
  refine ⟨by simp [← hpending, hempty.2], nofun, nofun, ?_, ?_, h.bounded⟩
  · intro hnone
    have hcounted := h.counted hnone
    simpa [hempty.1] using hcounted
  · intro hcooled
    obtain ⟨f', hf', hcount⟩ := h.full hcooled
    cases hf'
    omega

/-- What is left of a bucket after a verification finished. -/
theorem kept (hlimit : 1 ≤ limit) (h : Fits limit clock (some f) held log) :
    Fits limit clock ((some f).filter (fun f => !(f.count == 0 && f.pending == 0))) held log := by
  by_cases hempty : f.count = 0 ∧ f.pending = 0
  · simpa [Option.filter, hempty] using h.dropped hlimit hempty
  · have hkept : (!(f.count == 0 && f.pending == 0)) = true := by
      simp only [Bool.not_eq_true', Bool.and_eq_false_iff, beq_eq_false_iff_ne]
      tauto
    simpa [Option.filter, hkept] using h

end Fits

end CrossDesk.DeviceAuthLimiter
