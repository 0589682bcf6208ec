import CrossDesk.DeviceAuthLimiter.Runs

/-!
# What a step does to a bucket

Every step of the limiter acts on each bucket by itself. `Effect` lists the ways, with the events
they log: a bucket is left alone, opened, refreshed, charged, cleared or dropped. `Steps.effect` is
the inversion lemma: it holds of every step in a run, and what is said about buckets over time is
proved by cases on it.
-/

namespace CrossDesk.DeviceAuthLimiter

/-- The same bucket with other reservations. -/
def Failures.setPending (f : Failures) (p : Nat) : Failures := { f with pending := p }

section SetPending

variable (f : Failures) (p : Nat)

@[simp] theorem setPending_count : (f.setPending p).count = f.count := rfl
@[simp] theorem setPending_pending : (f.setPending p).pending = p := rfl
@[simp] theorem setPending_expires : (f.setPending p).expires = f.expires := rfl
@[simp] theorem setPending_blockedUntil : (f.setPending p).blockedUntil = f.blockedUntil := rfl
@[simp] theorem setPending_backoff : (f.setPending p).backoff = f.backoff := rfl
@[simp] theorem setPending_generation : (f.setPending p).generation = f.generation := rfl
@[simp] theorem setPending_operations : (f.setPending p).operations = f.operations := rfl

/-- Neither refreshing nor recording looks at the reservations. -/
theorem resetExpired_setPending (now : TimePoint) :
    resetExpired (f.setPending p) now = (resetExpired f now).setPending p := by
  unfold resetExpired
  split
  · rename_i hlive
    exact (if_pos hlive).symm ▸ rfl
  · rename_i hexpired
    exact (if_neg hexpired).symm ▸ rfl

theorem record_setPending (policy : Policy) (limit : Nat) (now : TimePoint)
    (operation : Operation) :
    record policy (f.setPending p) limit now operation =
      (record policy f limit now operation).setPending p := by
  unfold record Failures.setPending
  grind

end SetPending

/-- A recorded failure counts. -/
theorem record_count_pos (policy : Policy) (f : Failures) {limit : Nat} (now : TimePoint)
    (operation : Operation) (hlimit : 1 ≤ limit) :
    0 < (record policy f limit now operation).count := by
  unfold record
  grind

/-- What a verification leaves of its bucket, in terms of the bucket before it. -/
theorem settle_eq (policy : Policy) (authenticated : Bool) (operation : Operation)
    (finished : TimePoint) (limit generation : Nat) (f : Failures) :
    settle policy authenticated operation finished limit generation f =
      (if !authenticated && f.generation == generation then
        record policy (resetExpired f finished) limit finished operation
      else resetExpired f finished).setPending (f.pending - 1) := by
  have hrefreshed := resetExpired_setPending f (f.pending - 1) finished
  have hgeneration := resetExpired_generation f finished
  unfold settle
  show (if !authenticated && (resetExpired (f.setPending (f.pending - 1)) finished).generation ==
      generation then record policy (resetExpired (f.setPending (f.pending - 1)) finished) limit
        finished operation
    else resetExpired (f.setPending (f.pending - 1)) finished) = _
  rw [hrefreshed, setPending_generation, hgeneration, record_setPending]
  split <;> rfl

/-- A bucket that comes into being. -/
def opened (now : TimePoint) : Failures := { expires := now + seconds kWindow, pending := 1 }

/-- What a step at time `now` does to a bucket, and what it logs. `clearing` says that the step is a
`ClearMatching` that matches the bucket. -/
inductive Effect (limit : Nat) (policy : Policy) (clearing : Prop) (now : TimePoint) :
    Option Failures → List BucketEvent → Option Failures → Prop where
  | idle (b : Option Failures) : Effect limit policy clearing now b [] b
  /-- Cleanup takes an expired bucket away. -/
  | pruned {f : Failures} (hexpired : f.expires ≤ now) (hfree : f.pending = 0) :
      Effect limit policy clearing now (some f) [.reset] none
  /-- The same, and a verification opens it again. -/
  | reopened {f : Failures} (hexpired : f.expires ≤ now) (hfree : f.pending = 0) :
      Effect limit policy clearing now (some f) [.reset] (some (opened now))
  | opened : Effect limit policy clearing now none [] (some (opened now))
  /-- A place is taken, asked for or given back, after the window was renewed if it had run out. -/
  | refreshed {f : Failures} (p : Nat) :
      Effect limit policy clearing now (some f) (refreshEvents f now)
        (some ((resetExpired f now).setPending p))
  /-- The last place is given back and no failures are left. -/
  | released {f : Failures} (hempty : (resetExpired f now).count = 0) (hlast : f.pending ≤ 1) :
      Effect limit policy clearing now (some f) (refreshEvents f now) none
  /-- A verification fails, which it can only do in an open bucket. -/
  | charged {f : Failures} (p : Nat) (operation : Operation) (hopen : f.blockedUntil ≤ now) :
      Effect limit policy clearing now (some f)
        (refreshEvents f now ++ recordEvents limit (resetExpired f now))
        (some ((record policy (resetExpired f now) limit now operation).setPending p))
  | cleared {f : Failures} (hclear : clearing) :
      Effect limit policy clearing now (some f) [.reset]
        (some (resetExpired { f with generation := f.generation + 1, expires := now } now))
  | erased {f : Failures} (hclear : clearing) :
      Effect limit policy clearing now (some f) [.reset] none

/-- The step is a `ClearMatching` of the bucket. -/
def Step.clears (d : Dimension) (key : String) : Step → Prop
  | .clear matchesKey _ _ => matchesKey d.isSource key = true
  | _ => False

/-- The time at which a step acts on a bucket. -/
def Step.actsAt (d : Dimension) (key : String) : Step → TimePoint
  | .reserve now _ _ _ => now
  | .finish _ _ finished => finished
  | .clear _ now _ => now d.isSource key

/-! ## The steps, bucket by bucket -/

/-- A bucket after the cleanup, if it was due. -/
def prunedBucket (due : Prop) [Decidable due] (now : TimePoint) (b : Option Failures) :
    Option Failures :=
  if due then b.filter (fun f => !(decide (f.expires ≤ now) && f.pending == 0)) else b

/-- The bucket that a request asked, after the refusal or the admission. -/
def askedBucket (now : TimePoint) (admitted : Bool) (b : Option Failures) : Option Failures :=
  if admitted then
    some { (b.map (fun f => resetExpired f now)).getD { expires := now + seconds kWindow } with
      pending := ((b.map (fun f => resetExpired f now)).getD
        { expires := now + seconds kWindow }).pending + 1 }
  else b.map (fun f => resetExpired f now)

theorem getElem?_cleaned (now : TimePoint) (s : DeviceAuthLimiter) (d : Dimension) (key : String) :
    (cleaned now s d)[key]? = prunedBucket (now ≥ s.nextCleanup) now (s.buckets d)[key]? := by
  unfold cleaned prunedBucket
  split
  · rw [getElem?_prune]
  · rfl

theorem getElem?_reservedBuckets (now : TimePoint) (source target : String) (s : DeviceAuthLimiter)
    (admitted : Bool) (d : Dimension) (key : String) :
    (reservedBuckets now source target s admitted d)[key]? =
      if key = keyOf source target d then
        askedBucket now admitted (prunedBucket (now ≥ s.nextCleanup) now (s.buckets d)[key]?)
      else prunedBucket (now ≥ s.nextCleanup) now (s.buckets d)[key]? := by
  unfold reservedBuckets askedBucket
  dsimp only
  cases admitted with
  | false =>
    rw [if_neg Bool.false_ne_true, if_neg Bool.false_ne_true, getElem?_retry, getElem?_cleaned]
  | true =>
    rw [if_pos rfl, if_pos rfl, getElem?_hold, getElem?_retry, getElem?_cleaned]
    split <;> rfl

/-- Cleanup drops a bucket, which resets it, or leaves it. -/
theorem prunedBucket_cases (due : Prop) [Decidable due] (now : TimePoint) (f : Failures) :
    (due ∧ f.expires ≤ now ∧ f.pending = 0) ∧ prunedBucket due now (some f) = none ∨
      ¬ (due ∧ f.expires ≤ now ∧ f.pending = 0) ∧ prunedBucket due now (some f) = some f := by
  by_cases h : due ∧ f.expires ≤ now ∧ f.pending = 0
  · refine .inl ⟨h, ?_⟩
    unfold prunedBucket
    rw [if_pos h.1]
    simp [h.2]
  · refine .inr ⟨h, ?_⟩
    unfold prunedBucket
    split
    · rename_i hdue
      have hkept : ¬ (f.expires ≤ now ∧ f.pending = 0) := fun hgone => h ⟨hdue, hgone⟩
      simp only [Option.filter_some_eq_some, Bool.not_eq_true', Bool.and_eq_false_iff,
        decide_eq_false_iff_not, beq_eq_false_iff_ne]
      exact not_and_or.mp hkept
    · rfl

theorem prunedBucket_none (due : Prop) [Decidable due] (now : TimePoint) :
    prunedBucket due now none = none := by
  unfold prunedBucket
  split <;> rfl

theorem askedBucket_some (now : TimePoint) (admitted : Bool) (f : Failures) :
    askedBucket now admitted (some f) =
      some ((resetExpired f now).setPending (f.pending + if admitted then 1 else 0)) := by
  have hpending := resetExpired_pending f now
  unfold askedBucket
  cases admitted with
  | false =>
    rw [if_neg Bool.false_ne_true, if_neg Bool.false_ne_true, Nat.add_zero, ← hpending]
    rfl
  | true =>
    rw [if_pos rfl, if_pos rfl, ← hpending]
    rfl

section Reserve

variable {s : Monitored} {now : TimePoint} {source target : String} {operation : Operation}

/-- What a request does to a bucket. -/
theorem reserve_effect (limit : Nat) (policy : Policy) (admitted : Bool) (d : Dimension)
    (key : String) :
    Effect limit policy False now (s.bucket d key)
      (s.happens (.reserve now source target operation) d key)
      (reservedBuckets now source target s.limiter admitted d)[key]? := by
  rw [getElem?_reservedBuckets]
  show Effect limit policy False now (s.bucket d key) _ (if key = keyOf source target d then
    askedBucket now admitted (prunedBucket (now ≥ s.limiter.nextCleanup) now (s.bucket d key))
    else prunedBucket (now ≥ s.limiter.nextCleanup) now (s.bucket d key))
  unfold Monitored.happens
  cases s.bucket d key with
  | none =>
    rw [prunedBucket_none]
    cases admitted with
    | false => simpa [askedBucket] using Effect.idle none
    | true =>
      by_cases hkey : key = keyOf source target d
      · rw [if_pos hkey]
        exact .opened
      · rw [if_neg hkey]
        exact .idle none
  | some f =>
    dsimp only
    rcases prunedBucket_cases (now ≥ s.limiter.nextCleanup) now f with ⟨hgone, hpruned⟩ |
      ⟨hkept, hpruned⟩
    · rw [if_pos hgone, hpruned]
      cases admitted with
      | false => simpa [askedBucket] using Effect.pruned hgone.2.1 hgone.2.2
      | true =>
        by_cases hkey : key = keyOf source target d
        · rw [if_pos hkey]
          exact .reopened hgone.2.1 hgone.2.2
        · rw [if_neg hkey]
          exact .pruned hgone.2.1 hgone.2.2
    · rw [if_neg hkept, hpruned]
      by_cases hkey : key = keyOf source target d
      · rw [if_pos hkey, if_pos hkey, askedBucket_some]
        exact .refreshed _
      · rw [if_neg hkey, if_neg hkey]
        exact .idle _

end Reserve

/-- A bucket is kept after a verification unless nothing is left in it. -/
theorem filter_some_bucket (f : Failures) :
    (some f).filter (fun f => !(f.count == 0 && f.pending == 0)) =
      if f.count = 0 ∧ f.pending = 0 then none else some f := by
  rw [Option.filter_some]
  simp only [Bool.not_eq_true', Bool.and_eq_false_iff, beq_eq_false_iff_ne, ← not_and_or, ite_not]

/-- What the end of a verification does to its bucket. -/
theorem settle_effect {f : Failures} {finished : TimePoint} (limit : Nat) (policy : Policy)
    (authenticated : Bool) (operation : Operation) (generation : Nat) (hlimit : 1 ≤ limit)
    (hopen : f.blockedUntil ≤ finished) :
    Effect limit policy False finished (some f)
      (refreshEvents f finished ++ if !authenticated && f.generation == generation then
        recordEvents limit (resetExpired f finished) else [])
      ((some (settle policy authenticated operation finished limit generation f)).filter
        (fun f => !(f.count == 0 && f.pending == 0))) := by
  rw [settle_eq, filter_some_bucket, setPending_count, setPending_pending]
  by_cases hfails : (!authenticated && f.generation == generation) = true
  · rw [if_pos hfails, if_pos hfails]
    -- a failure that was just recorded keeps the bucket
    have hcount := record_count_pos policy (resetExpired f finished) finished operation hlimit
    rw [if_neg (fun hempty => Nat.ne_of_gt hcount hempty.1)]
    exact .charged _ operation hopen
  · rw [if_neg hfails, if_neg hfails, List.append_nil]
    by_cases hempty : (resetExpired f finished).count = 0 ∧ f.pending - 1 = 0
    · rw [if_pos hempty]
      exact .released hempty.1 (by omega)
    · rw [if_neg hempty]
      exact .refreshed _

/-- **What one step does to one bucket.** -/
theorem Monitored.Steps.effect {s s' : Monitored} {step : Step} (hs : Monitored.system.Reachable s)
    (h : Monitored.Steps s step s') (d : Dimension) (key : String) :
    Effect (s.limiter.limit d) s.limiter.policy (step.clears d key) (step.actsAt d key)
      (s.bucket d key) (s.happens step d key) (s'.bucket d key) := by
  cases h with
  | @refuse now source target operation delay limiter hclock hrefused =>
    rcases reserve_cases now source target operation s.limiter with
      ⟨_, _, hbuckets⟩ | ⟨r, hadmitted, _⟩
    · rw [hrefused] at hbuckets
      show Effect _ _ False now _ _ (limiter.buckets d)[key]?
      rw [(hbuckets d).2]
      exact reserve_effect _ _ false d key
    · rw [hrefused] at hadmitted
      cases hadmitted
  | @accept now source target operation r limiter hclock hadmitted =>
    rcases reserve_cases now source target operation s.limiter with
      ⟨_, hrefused, _⟩ | ⟨r', _, hbuckets⟩
    · rw [hadmitted] at hrefused
      cases hrefused
    · rw [hadmitted] at hbuckets
      show Effect _ _ False now _ _ (limiter.buckets d)[key]?
      rw [(hbuckets d).2.1]
      exact reserve_effect _ _ true d key
  | @finish r authenticated finished limiter hclock hflying hfinished =>
    obtain ⟨_, f, hf, hlookup⟩ := finish_cases hfinished d
    show Effect _ _ False finished _ _ (limiter.buckets d)[key]?
    rw [hlookup]
    unfold Monitored.happens
    by_cases hkey : key = r.key d
    · subst hkey
      have hbucket : s.bucket d (r.key d) = some f := hf
      -- A bucket that a verification holds has a window that began before now.
      obtain ⟨f', hf', hopen⟩ := (guesses_bounded hs).open_in_flight r hflying d
      rw [hbucket] at hf'
      cases hf'
      rw [hbucket]
      dsimp only
      rw [if_pos rfl, if_pos rfl]
      exact settle_effect _ _ _ _ _ ((Safe.reachable hs).limit_pos d) (hopen.trans hclock)
    · rw [if_neg hkey]
      show Effect _ _ False finished (s.bucket d key) _ (s.bucket d key)
      cases s.bucket d key with
      | none => exact .idle none
      | some f' =>
        dsimp only
        rw [if_neg hkey]
        exact .idle _
  | @clear matchesKey now done hclock hnow =>
    show Effect _ _ (matchesKey d.isSource key = true) (now d.isSource key) _ _
      ((clearMatching matchesKey now s.limiter).buckets d)[key]?
    rw [getElem?_clearMatching]
    show Effect _ _ _ _ _ _ ((s.bucket d key).bind _)
    unfold Monitored.happens
    cases s.bucket d key with
    | none => exact .idle none
    | some f =>
      dsimp only [Option.bind_some]
      by_cases hmatch : matchesKey d.isSource key = true
      · rw [if_pos hmatch, if_neg (by simp [hmatch])]
        -- A cleared bucket stays only while a verification holds it.
        split
        · exact .erased hmatch
        · exact .cleared hmatch
      · rw [if_neg hmatch, if_pos (by simp [hmatch])]
        exact .idle _

/-- A request takes no bucket away that has not expired. -/
theorem reserve_keeps {s : Monitored} {now : TimePoint} (source target : String) (admitted : Bool)
    {d : Dimension} {key : String} {f : Failures} (hbucket : s.bucket d key = some f)
    (hlive : now < f.expires) :
    (reservedBuckets now source target s.limiter admitted d)[key]? ≠ none := by
  have hkept : prunedBucket (now ≥ s.limiter.nextCleanup) now (s.limiter.buckets d)[key]? = some f := by
    rw [show (s.limiter.buckets d)[key]? = some f from hbucket]
    rcases prunedBucket_cases (now ≥ s.limiter.nextCleanup) now f with ⟨hgone, -⟩ | ⟨-, hkept⟩
    · exact absurd hlive (Nat.not_lt.mpr hgone.2.1)
    · exact hkept
  rw [getElem?_reservedBuckets, hkept, askedBucket_some]
  split
  · exact Option.some_ne_none _
  · exact Option.some_ne_none _

/-- A bucket that has not expired is cleared, or is taken away by a verification that holds it. -/
theorem Monitored.Steps.releases {s s' : Monitored} {step : Step} (h : Monitored.Steps s step s')
    {d : Dimension} {key : String} {f : Failures} (hbucket : s.bucket d key = some f)
    (hclear : ¬ step.clears d key) (hlive : step.actsAt d key < f.expires)
    (hgone : s'.bucket d key = none) : ∃ r authenticated finished,
      step = .finish r authenticated finished ∧ r ∈ s.inFlight ∧ r.key d = key := by
  cases h with
  | @refuse now source target operation delay limiter hclock hrefused =>
    rcases reserve_cases now source target operation s.limiter with
      ⟨_, _, hbuckets⟩ | ⟨r, hadmitted, _⟩
    · rw [hrefused] at hbuckets
      have hlookup : (limiter.buckets d)[key]? = none := hgone
      rw [(hbuckets d).2] at hlookup
      exact absurd hlookup (reserve_keeps source target false hbucket hlive)
    · rw [hrefused] at hadmitted
      cases hadmitted
  | @accept now source target operation r limiter hclock hadmitted =>
    rcases reserve_cases now source target operation s.limiter with
      ⟨_, hrefused, _⟩ | ⟨r', _, hbuckets⟩
    · rw [hadmitted] at hrefused
      cases hrefused
    · rw [hadmitted] at hbuckets
      have hlookup : (limiter.buckets d)[key]? = none := hgone
      rw [(hbuckets d).2.1] at hlookup
      exact absurd hlookup (reserve_keeps source target true hbucket hlive)
  | @finish r authenticated finished limiter hclock hflying hfinished =>
    refine ⟨r, authenticated, finished, rfl, hflying, ?_⟩
    by_contra hkey
    obtain ⟨_, _, _, hlookup⟩ := finish_cases hfinished d
    have hsame : (limiter.buckets d)[key]? = none := hgone
    rw [hlookup, if_neg (Ne.symm hkey)] at hsame
    cases hsame.symm.trans hbucket
  | @clear matchesKey now done hclock hnow =>
    -- the other buckets stay
    have hother : ¬ matchesKey d.isSource key = true := hclear
    have hlookup : ((clearMatching matchesKey now s.limiter).buckets d)[key]? = none := hgone
    rw [getElem?_clearMatching, show (s.limiter.buckets d)[key]? = some f from hbucket,
      Option.bind_some, if_pos (by simp [hother])] at hlookup
    cases hlookup

theorem recorded_not_mem_refreshEvents (f : Failures) (now : TimePoint) :
    BucketEvent.recorded ∉ refreshEvents f now := by
  unfold refreshEvents
  split <;> simp

/-- Only a failing verification records a failure. -/
theorem recorded_of_happens {s : Monitored} {step : Step} {d : Dimension} {key : String}
    (h : .recorded ∈ s.happens step d key) : ∃ r finished, step = .finish r false finished := by
  unfold Monitored.happens at h
  cases hbucket : s.bucket d key with
  | none =>
    rw [hbucket] at h
    cases h
  | some f =>
    rw [hbucket] at h
    cases step with
    | reserve now source target operation =>
      dsimp only at h
      split at h
      · simp at h
      · split at h
        · exact absurd h (recorded_not_mem_refreshEvents _ _)
        · cases h
    | finish r authenticated finished =>
      cases authenticated with
      | false => exact ⟨r, finished, rfl⟩
      | true =>
        dsimp only at h
        split at h
        · simp only [Bool.not_true, Bool.false_and, Bool.false_eq_true, if_false,
            List.append_nil] at h
          exact absurd h (recorded_not_mem_refreshEvents _ _)
        · cases h
    | clear matchesKey now done =>
      dsimp only at h
      split at h
      · simp at h
      · cases h

theorem reserve_policy (now : TimePoint) (source target : String) (operation : Operation)
    (s : DeviceAuthLimiter) : (reserve now source target operation s).2.policy = s.policy := by
  unfold reserve
  grind

theorem finish_policy {r : Reservation} {authenticated : Bool} {finished : TimePoint}
    {s s' : DeviceAuthLimiter} (h : finish r authenticated finished s = some s') :
    s'.policy = s.policy := by
  unfold finish at h
  obtain ⟨sources, _, h⟩ := Option.bind_eq_some_iff.mp h
  obtain ⟨targets, _, rfl⟩ := Option.map_eq_some_iff.mp h
  rfl

/-- Neither the limits nor the policy ever change. -/
theorem Monitored.Steps.config {s s' : Monitored} {step : Step} (h : Monitored.Steps s step s') :
    s'.limiter.policy = s.limiter.policy ∧ ∀ d, s'.limiter.limit d = s.limiter.limit d := by
  cases h with
  | @refuse now source target operation delay limiter hclock hrefused =>
    have hpolicy := reserve_policy now source target operation s.limiter
    have hcases := reserve_cases now source target operation s.limiter
    rw [hrefused] at hpolicy hcases
    refine ⟨hpolicy, fun d => ?_⟩
    rcases hcases with ⟨_, _, hbuckets⟩ | ⟨r, _, hbuckets⟩
    · exact (hbuckets d).1
    · exact (hbuckets d).1
  | @accept now source target operation r limiter hclock hadmitted =>
    have hpolicy := reserve_policy now source target operation s.limiter
    have hcases := reserve_cases now source target operation s.limiter
    rw [hadmitted] at hpolicy hcases
    refine ⟨hpolicy, fun d => ?_⟩
    rcases hcases with ⟨_, _, hbuckets⟩ | ⟨r, _, hbuckets⟩
    · exact (hbuckets d).1
    · exact (hbuckets d).1
  | finish hclock hflying hfinished =>
    exact ⟨finish_policy hfinished, fun d => (finish_cases hfinished d).1⟩
  | clear hclock hnow =>
    refine ⟨rfl, fun d => ?_⟩
    cases d <;> rfl

/-! ## The answer to a request -/

/-- `retry` adds no bucket. -/
theorem size_retry (now : TimePoint) (buckets : Buckets) (key : String) (limit : Nat) :
    (retry now buckets key limit).2.size = buckets.size := by
  unfold retry
  cases hf : buckets[key]? with
  | none => rfl
  | some f =>
    have hmem : buckets.contains key = true := OrdMap.contains_iff.mpr ⟨f, hf⟩
    dsimp only
    split <;> rw [Std.ExtTreeMap.size_insert, if_pos hmem]

/-- Cleanup adds none either. -/
theorem size_cleaned_le (now : TimePoint) (s : DeviceAuthLimiter) (d : Dimension) :
    (cleaned now s d).size ≤ (s.buckets d).size := by
  unfold cleaned
  split
  · exact Std.ExtTreeMap.size_filter_le_size
  · exact le_rfl

/-- A request finds a place while neither dimension is full. -/
theorem atCapacity_eq_false {now : TimePoint} {source target : String} {s : DeviceAuthLimiter}
    (hroom : ∀ d, (s.buckets d).size < kMaxEntries) :
    (reserveState now source target s false).atCapacity (keyOf source target .source) target =
      false := by
  have hsize : ∀ d, (reservedBuckets now source target s false d).size < kMaxEntries := by
    intro d
    unfold reservedBuckets
    dsimp only
    rw [if_neg Bool.false_ne_true, size_retry]
    exact (size_cleaned_le now s d).trans_lt (hroom d)
  have hsource : (reserveState now source target s false).sources.size < kMaxEntries :=
    hsize .source
  have htarget : (reserveState now source target s false).targets.size < kMaxEntries :=
    hsize .target
  unfold atCapacity
  rw [decide_eq_false (Nat.not_le.mpr hsource), decide_eq_false (Nat.not_le.mpr htarget)]
  simp

/-- **The answer**: the wait, or admission while neither dimension is full. -/
theorem reserve_answer (now : TimePoint) (source target : String) (operation : Operation)
    (s : DeviceAuthLimiter) :
    (0 < waitFor now source target s → (reserve now source target operation s).1 =
        .retryAfter (waitFor now source target s)) ∧
      (waitFor now source target s = 0 → (∀ d, (s.buckets d).size < kMaxEntries) →
        ∃ r, (reserve now source target operation s).1 = .reserved r) := by
  rw [reserve_eq]
  refine ⟨fun hpos => ?_, fun hzero hroom => ?_⟩
  · rw [if_pos hpos]
  · rw [if_neg (by omega), atCapacity_eq_false hroom, if_neg Bool.false_ne_true]
    exact ⟨_, rfl⟩

/-- The cooldown of a bucket, seen from outside. -/
def cooldownOf (now : TimePoint) (b : Option Failures) : Nat :=
  match b with
  | none => 0
  | some f => remainingSeconds f.blockedUntil now

theorem cooldownRemaining_eq (now : TimePoint) (source target : String) (s : DeviceAuthLimiter) :
    cooldownRemaining now source target s =
      max (cooldownOf now (s.buckets .source)[keyOf source target .source]?)
        (cooldownOf now (s.buckets .target)[keyOf source target .target]?) := rfl

/-- A cooldown that lasts is seen by the next request. -/
theorem cooldownOf_le_retry {now : TimePoint} {s : DeviceAuthLimiter} {d : Dimension} {key : String}
    (hexpires : ∀ f : Failures, (s.buckets d)[key]? = some f → f.blockedUntil ≤ f.expires)
    (limit : Nat) :
    cooldownOf now (s.buckets d)[key]? ≤ (retry now (cleaned now s d) key limit).1 := by
  unfold cooldownOf
  cases hf : (s.buckets d)[key]? with
  | none => exact Nat.zero_le _
  | some f =>
    dsimp only
    by_cases hblocked : now < f.blockedUntil
    · have hlive : now < f.expires := Nat.lt_of_lt_of_le hblocked (hexpires f hf)
      have hkept : (cleaned now s d)[key]? = some f := by
        rw [getElem?_cleaned, hf]
        rcases prunedBucket_cases (now ≥ s.nextCleanup) now f with ⟨hgone, _⟩ | ⟨_, hsame⟩
        · exact absurd hlive (Nat.not_lt.mpr hgone.2.1)
        · exact hsame
      have hpos : 0 < remainingSeconds f.blockedUntil now := by
        unfold remainingSeconds
        rw [if_pos hblocked]
        exact ceilSeconds_pos.mpr (Nat.sub_pos_of_lt hblocked)
      have hsame : resetExpired f now = f := if_pos hlive
      unfold retry
      rw [hkept]
      dsimp only
      rw [hsame, if_pos hpos]
    · have hzero : remainingSeconds f.blockedUntil now = 0 := if_neg hblocked
      rw [hzero]
      exact Nat.zero_le _

end CrossDesk.DeviceAuthLimiter
