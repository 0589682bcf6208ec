import CrossDesk.Lib.System
import CrossDesk.DeviceAuthLimiter.Bucket

/-!
# Overlapping verifications

Any number of `Verify` calls run at once. Each takes two steps, and between them every other step may
happen: more reservations (with their cleanup), settlements, clears. The clock never goes back.

The limiter acts on each bucket of each dimension separately, so the proof follows one bucket
through every step (`Fits`), and the theorem at the end says what that means for guessing.
-/

namespace CrossDesk.DeviceAuthLimiter

/-- The limiter with the verifications that are between their two halves, the last clock reading,
and what has happened to each bucket so far. -/
structure Monitored where
  limiter : DeviceAuthLimiter
  inFlight : List Reservation := []
  clock : TimePoint := 0
  log : Dimension → String → List BucketEvent := fun _ _ => []

/-- A step of some call. -/
inductive Step where
  | reserve (now : TimePoint) (source target : String) (operation : Operation)
  | finish (reservation : Reservation) (authenticated : Bool) (finished : TimePoint)
  | clear (matchesKey : Bool → String → Bool) (now : Bool → String → TimePoint)
      (done : TimePoint)

/-- The keys of a verification: a missing source is a source of its own. -/
def keyOf (source target : String) : Dimension → String
  | .source => if source = "" then "unknown" else source
  | .target => target

def Dimension.isSource : Dimension → Bool
  | .source => true
  | .target => false

namespace Monitored

/-- The number of verifications that hold a bucket. -/
def holders (s : Monitored) (d : Dimension) (key : String) : Nat :=
  s.inFlight.countP (fun r => r.key d == key)

/-- The bucket of a key, if there is one. -/
def bucket (s : Monitored) (d : Dimension) (key : String) : Option Failures :=
  (s.limiter.buckets d)[key]?

/-- What a step does to a bucket, read off the state before it. -/
def happens (s : Monitored) (step : Step) (d : Dimension) (key : String) : List BucketEvent :=
  match s.bucket d key with
  | none => []
  | some f =>
    match step with
    | .reserve now source target _ =>
      if now ≥ s.limiter.nextCleanup ∧ f.expires ≤ now ∧ f.pending = 0 then [.reset]
      else if key = keyOf source target d then refreshEvents f now else []
    | .finish r authenticated finished =>
      if key = r.key d then
        refreshEvents f finished ++
          if !authenticated && f.generation == r.generation d then
            recordEvents (s.limiter.limit d) (resetExpired f finished)
          else []
      else []
    | .clear matchesKey _ _ => if matchesKey d.isSource key then [.reset] else []

/-- The log after a step. -/
def logged (s : Monitored) (step : Step) (d : Dimension) (key : String) : List BucketEvent :=
  s.log d key ++ s.happens step d key

/-- The steps. A verification that is refused is not in flight; one that finishes was. -/
inductive Steps (s : Monitored) : Step → Monitored → Prop where
  | refuse {now : TimePoint} {source target : String} {operation : Operation} {delay : Nat}
      {limiter : DeviceAuthLimiter} (hclock : s.clock ≤ now)
      (hrefused : reserve now source target operation s.limiter = (.retryAfter delay, limiter)) :
      Steps s (.reserve now source target operation)
        { s with limiter, clock := now, log := s.logged (.reserve now source target operation) }
  | accept {now : TimePoint} {source target : String} {operation : Operation} {r : Reservation}
      {limiter : DeviceAuthLimiter} (hclock : s.clock ≤ now)
      (hadmitted : reserve now source target operation s.limiter = (.reserved r, limiter)) :
      Steps s (.reserve now source target operation)
        { limiter
          inFlight := r :: s.inFlight
          clock := now
          log := s.logged (.reserve now source target operation) }
  | finish {r : Reservation} {authenticated : Bool} {finished : TimePoint}
      {limiter : DeviceAuthLimiter} (hclock : s.clock ≤ finished) (hflying : r ∈ s.inFlight)
      (hfinished : finish r authenticated finished s.limiter = some limiter) :
      Steps s (.finish r authenticated finished)
        { limiter
          inFlight := s.inFlight.erase r
          clock := finished
          log := s.logged (.finish r authenticated finished) }
  | clear {matchesKey : Bool → String → Bool} {now : Bool → String → TimePoint}
      {done : TimePoint} (hclock : s.clock ≤ done)
      (hnow : ∀ isSource key, s.clock ≤ now isSource key ∧ now isSource key ≤ done) :
      Steps s (.clear matchesKey now done)
        { s with
          limiter := clearMatching matchesKey now s.limiter
          clock := done
          log := s.logged (.clear matchesKey now done) }

/-- A limiter under overlapping calls. The constructor refuses a limit of zero. -/
def system : System Monitored Step where
  start s := ∃ sourceLimit targetLimit : Nat, ∃ policy : Policy,
    1 ≤ sourceLimit ∧ 1 ≤ targetLimit ∧
      s = { limiter :=
              { sourceFailureLimit := sourceLimit, targetFailureLimit := targetLimit, policy } }
  step := Steps

end Monitored

/-! ## The halves of a verification, bucket by bucket -/

theorem getElem?_prune (buckets : Buckets) (now : TimePoint) (key : String) :
    (prune buckets now)[key]? = (buckets[key]?).filter
      (fun f => !(decide (f.expires ≤ now) && f.pending == 0)) := by
  unfold prune
  grind

/-- `retry` refreshes the bucket of its key. -/
theorem getElem?_retry (now : TimePoint) (buckets : Buckets) (key : String) (limit : Nat)
    (k : String) :
    (retry now buckets key limit).2[k]? =
      if k = key then (buckets[k]?).map (fun f => resetExpired f now) else buckets[k]? := by
  unfold retry
  split
  · grind
  · dsimp only
    split <;> grind

/-- `retry` lets a verification pass only when its bucket is open and has a place left. -/
theorem retry_eq_zero {now : TimePoint} {buckets : Buckets} {key : String} {limit : Nat}
    (h : (retry now buckets key limit).1 = 0) {f : Failures}
    (hf : (retry now buckets key limit).2[key]? = some f) :
    f.blockedUntil ≤ now ∧
      f.pending < (if f.count < limit then limit - f.count else 1) := by
  rw [getElem?_retry, if_pos rfl] at hf
  obtain ⟨f₀, hf₀, rfl⟩ := Option.map_eq_some_iff.mp hf
  unfold retry at h
  rw [hf₀] at h
  dsimp only at h
  split at h
  · omega
  · rename_i hopen
    unfold remainingSeconds at hopen
    refine ⟨?_, ?_⟩
    · by_contra hblocked
      have hlater : (resetExpired f₀ now).blockedUntil > now := Nat.lt_of_not_le hblocked
      rw [if_pos hlater] at hopen
      exact hopen (ceilSeconds_pos.mpr (Nat.sub_pos_of_lt hlater))
    · by_contra hfull
      dsimp only at h
      rw [if_pos (Nat.le_of_not_lt hfull)] at h
      cases h

theorem getElem?_hold (now : TimePoint) (buckets : Buckets) (key k : String) :
    (hold now buckets key)[k]? =
      if k = key then
        some { (buckets[k]?).getD { expires := now + seconds kWindow } with
          pending := ((buckets[k]?).getD { expires := now + seconds kWindow }).pending + 1 }
      else buckets[k]? := by
  unfold hold
  grind

/-- The buckets after the cleanup that is due. -/
def cleaned (now : TimePoint) (s : DeviceAuthLimiter) (d : Dimension) : Buckets :=
  if now ≥ s.nextCleanup then prune (s.buckets d) now else s.buckets d

/-- What the first half leaves in a dimension: cleanup and `retry`, and one more place held when
the verification was admitted. -/
def reservedBuckets (now : TimePoint) (source target : String) (s : DeviceAuthLimiter)
    (admitted : Bool) (d : Dimension) : Buckets :=
  let refreshed := (retry now (cleaned now s d) (keyOf source target d) (s.limit d)).2
  if admitted then hold now refreshed (keyOf source target d) else refreshed

/-- The limiter after the first half. -/
def reserveState (now : TimePoint) (source target : String) (s : DeviceAuthLimiter)
    (admitted : Bool) : DeviceAuthLimiter :=
  { s with
    sources := reservedBuckets now source target s admitted .source
    targets := reservedBuckets now source target s admitted .target
    nextCleanup := if now ≥ s.nextCleanup then now + seconds 60 else s.nextCleanup }

/-- The wait that a request meets, over both dimensions. -/
def waitFor (now : TimePoint) (source target : String) (s : DeviceAuthLimiter) : Nat :=
  max (retry now (cleaned now s .source) (keyOf source target .source) (s.limit .source)).1
    (retry now (cleaned now s .target) (keyOf source target .target) (s.limit .target)).1

/-- **The first half, in one piece**: wait, find no place, or take one in both dimensions. -/
theorem reserve_eq (now : TimePoint) (source target : String) (operation : Operation)
    (s : DeviceAuthLimiter) :
    reserve now source target operation s =
      if 0 < waitFor now source target s then
        (.retryAfter (waitFor now source target s), reserveState now source target s false)
      else if (reserveState now source target s false).atCapacity
          (keyOf source target .source) target then
        (.retryAfter kWindow, reserveState now source target s false)
      else
        (.reserved
          { sourceKey := keyOf source target .source
            target
            sourceGeneration := generationAt (reserveState now source target s true).sources
              (keyOf source target .source)
            targetGeneration := generationAt (reserveState now source target s true).targets target
            operation }, reserveState now source target s true) := by
  unfold reserve reserveState waitFor reservedBuckets cleaned
  by_cases hdue : now ≥ s.nextCleanup
  · simp only [if_pos hdue]
    rfl
  · simp only [if_neg hdue]
    rfl

theorem reserveState_limit (now : TimePoint) (source target : String) (s : DeviceAuthLimiter)
    (admitted : Bool) (d : Dimension) :
    (reserveState now source target s admitted).limit d = s.limit d := by
  cases d <;> rfl

theorem reserveState_buckets (now : TimePoint) (source target : String) (s : DeviceAuthLimiter)
    (admitted : Bool) (d : Dimension) :
    (reserveState now source target s admitted).buckets d =
      reservedBuckets now source target s admitted d := by
  cases d <;> rfl

/-- The first half refuses, or admits a verification that both dimensions let pass. -/
theorem reserve_cases (now : TimePoint) (source target : String) (operation : Operation)
    (s : DeviceAuthLimiter) :
    (∃ delay, (reserve now source target operation s).1 = .retryAfter delay ∧
        ∀ d, (reserve now source target operation s).2.limit d = s.limit d ∧
          (reserve now source target operation s).2.buckets d =
            reservedBuckets now source target s false d) ∨
      ∃ r, (reserve now source target operation s).1 = .reserved r ∧
        ∀ d, (reserve now source target operation s).2.limit d = s.limit d ∧
          (reserve now source target operation s).2.buckets d =
            reservedBuckets now source target s true d ∧
          r.key d = keyOf source target d ∧
          (retry now (cleaned now s d) (keyOf source target d) (s.limit d)).1 = 0 := by
  rw [reserve_eq]
  by_cases hwait : 0 < waitFor now source target s
  · rw [if_pos hwait]
    exact .inl ⟨_, rfl, fun d => ⟨reserveState_limit .., reserveState_buckets ..⟩⟩
  · rw [if_neg hwait]
    cases hfull : (reserveState now source target s false).atCapacity
        (keyOf source target .source) target with
    | true =>
      rw [if_pos rfl]
      exact .inl ⟨_, rfl, fun d => ⟨reserveState_limit .., reserveState_buckets ..⟩⟩
    | false =>
      rw [if_neg Bool.false_ne_true]
      refine .inr ⟨_, rfl, fun d => ⟨reserveState_limit .., reserveState_buckets .., ?_, ?_⟩⟩
      · cases d <;> rfl
      · unfold waitFor at hwait
        cases d <;> omega

theorem finishBucket_none {policy : Policy} {authenticated : Bool} {operation : Operation}
    {finished : TimePoint} {buckets : Buckets} {key : String} {limit generation : Nat} :
    finishBucket policy authenticated operation finished buckets key limit generation = none ↔
      buckets[key]? = none := by
  unfold finishBucket
  cases buckets[key]? with
  | none => simp
  | some f =>
    dsimp only
    split <;> simp

/-- Finishing settles the bucket of the key and drops it when nothing is left in it. -/
theorem finishBucket_some {policy : Policy} {authenticated : Bool} {operation : Operation}
    {finished : TimePoint} {buckets buckets' : Buckets} {key : String} {limit generation : Nat}
    (h : finishBucket policy authenticated operation finished buckets key limit generation =
      some buckets') :
    ∃ f : Failures, buckets[key]? = some f ∧ ∀ k : String, buckets'[k]? =
      if k = key then
        (some (settle policy authenticated operation finished limit generation f)).filter
          (fun f => !(f.count == 0 && f.pending == 0))
      else buckets[k]? := by
  unfold finishBucket at h
  cases hf : buckets[key]? with
  | none => simp [hf] at h
  | some f =>
    rw [hf] at h
    refine ⟨f, rfl, ?_⟩
    intro k
    dsimp only at h
    generalize settle policy authenticated operation finished limit generation f = f' at h ⊢
    split at h
    · cases h
      grind
    · cases h
      grind

/-- A verification finishes exactly when both of its buckets are there. -/
theorem finish_isSome {r : Reservation} {authenticated : Bool} {finished : TimePoint}
    {s : DeviceAuthLimiter} (h : ∀ d, (s.buckets d)[r.key d]? ≠ none) :
    ∃ s', finish r authenticated finished s = some s' := by
  have hsource : finishBucket s.policy authenticated r.operation finished s.sources r.sourceKey
      s.sourceFailureLimit r.sourceGeneration ≠ none := mt finishBucket_none.mp (h .source)
  have htarget : finishBucket s.policy authenticated r.operation finished s.targets r.target
      s.targetFailureLimit r.targetGeneration ≠ none := mt finishBucket_none.mp (h .target)
  obtain ⟨sources, hsources⟩ := Option.ne_none_iff_exists'.mp hsource
  obtain ⟨targets, htargets⟩ := Option.ne_none_iff_exists'.mp htarget
  exact ⟨_, by rw [finish, hsources, htargets]; rfl⟩

/-- A finished verification settled one bucket in each dimension. -/
theorem finish_cases {r : Reservation} {authenticated : Bool} {finished : TimePoint}
    {s s' : DeviceAuthLimiter} (h : finish r authenticated finished s = some s') (d : Dimension) :
    s'.limit d = s.limit d ∧ ∃ f : Failures, (s.buckets d)[r.key d]? = some f ∧
      ∀ k : String, (s'.buckets d)[k]? =
        if k = r.key d then
          (some (settle s.policy authenticated r.operation finished (s.limit d) (r.generation d)
            f)).filter (fun f => !(f.count == 0 && f.pending == 0))
        else (s.buckets d)[k]? := by
  unfold finish at h
  obtain ⟨sources, hsources, h⟩ := Option.bind_eq_some_iff.mp h
  obtain ⟨targets, htargets, rfl⟩ := Option.map_eq_some_iff.mp h
  cases d with
  | source => exact ⟨rfl, finishBucket_some hsources⟩
  | target => exact ⟨rfl, finishBucket_some htargets⟩

theorem getElem?_clearMatching (matchesKey : Bool → String → Bool)
    (now : Bool → String → TimePoint) (s : DeviceAuthLimiter) (d : Dimension) (key : String) :
    ((clearMatching matchesKey now s).buckets d)[key]? =
      ((s.buckets d)[key]?).bind (fun f =>
        if !matchesKey d.isSource key then some f
        else if f.pending = 0 then none
        else some (resetExpired
          { f with generation := f.generation + 1, expires := now d.isSource key }
          (now d.isSource key))) := by
  cases d with
  | source =>
    show (s.sources.filterMap _)[key]? = _
    rw [Std.ExtTreeMap.getElem?_filterMap']
    rfl
  | target =>
    show (s.targets.filterMap _)[key]? = _
    rw [Std.ExtTreeMap.getElem?_filterMap']
    rfl

/-! ## The invariant of a run -/

/-- Every bucket of both dimensions fits its log and the verifications that hold it. -/
structure Safe (s : Monitored) : Prop where
  limit_pos : ∀ d, 1 ≤ s.limiter.limit d
  fits : ∀ d key, Fits (s.limiter.limit d) s.clock (s.bucket d key) (s.holders d key) (s.log d key)

namespace Safe

variable {s : Monitored}

theorem start (h : Monitored.system.start s) : Safe s := by
  obtain ⟨sourceLimit, targetLimit, policy, hsource, htarget, rfl⟩ := h
  have hlimit : ∀ d, 1 ≤ DeviceAuthLimiter.limit
      { sourceFailureLimit := sourceLimit, targetFailureLimit := targetLimit, policy } d := by
    intro d
    cases d with
    | source => exact hsource
    | target => exact htarget
  refine ⟨hlimit, ?_⟩
  intro d key
  have hnone : Monitored.bucket { limiter :=
      { sourceFailureLimit := sourceLimit, targetFailureLimit := targetLimit, policy } } d key =
      none := by
    cases d <;> rfl
  rw [hnone]
  exact Fits.fresh (hlimit d)

/-- A verification in flight holds a bucket in each dimension. -/
theorem held (hs : Safe s) {r : Reservation} (hr : r ∈ s.inFlight) (d : Dimension) :
    ∃ f : Failures, s.bucket d (r.key d) = some f ∧ 1 ≤ f.pending := by
  have hpos : 0 < s.holders d (r.key d) := List.countP_pos_iff.mpr ⟨r, hr, by simp⟩
  have hpending := (hs.fits d (r.key d)).pending
  cases hbucket : s.bucket d (r.key d) with
  | none =>
    rw [hbucket] at hpending
    simp only [Option.map_none, Option.getD_none] at hpending
    omega
  | some f =>
    rw [hbucket] at hpending
    simp only [Option.map_some, Option.getD_some] at hpending
    exact ⟨f, rfl, by omega⟩

/-- **The lookup after verification never fails.** -/
theorem finishes (hs : Safe s) {r : Reservation} (hr : r ∈ s.inFlight) (authenticated : Bool)
    (finished : TimePoint) : ∃ limiter, finish r authenticated finished s.limiter = some limiter := by
  refine finish_isSome (fun d => ?_)
  obtain ⟨f, hf, _⟩ := hs.held hr d
  show s.bucket d (r.key d) ≠ none
  rw [hf]
  exact Option.some_ne_none f

/-- Cleanup and `retry` keep a bucket fitting. -/
theorem refreshed (hs : Safe s) {now : TimePoint} (hclock : s.clock ≤ now)
    (source target : String) (operation : Operation) (d : Dimension) (key : String) :
    Fits (s.limiter.limit d) now (reservedBuckets now source target s.limiter false d)[key]?
      (s.holders d key) (s.logged (.reserve now source target operation) d key) := by
  have hfits := (hs.fits d key).later hclock
  unfold reservedBuckets
  dsimp only
  rw [if_neg Bool.false_ne_true, getElem?_retry]
  unfold Monitored.logged Monitored.happens
  cases hbucket : s.bucket d key with
  | none =>
    have hclean : (cleaned now s.limiter d)[key]? = none := by
      unfold cleaned
      unfold Monitored.bucket at hbucket
      split
      · rw [getElem?_prune, hbucket]
        rfl
      · exact hbucket
    rw [hbucket] at hfits
    simpa [hclean] using hfits
  | some f =>
    rw [hbucket] at hfits
    unfold Monitored.bucket at hbucket
    dsimp only
    -- The cleanup drops the bucket, or leaves it as it is for `retry`.
    by_cases hprune : now ≥ s.limiter.nextCleanup ∧ f.expires ≤ now ∧ f.pending = 0
    · have hclean : (cleaned now s.limiter d)[key]? = none := by
        unfold cleaned
        rw [if_pos hprune.1, getElem?_prune, hbucket]
        simp [hprune.2]
      rw [if_pos hprune]
      simpa [hclean] using hfits.pruned (hs.limit_pos d) hprune.2.2
    · have hclean : (cleaned now s.limiter d)[key]? = some f := by
        unfold cleaned
        by_cases hdue : now ≥ s.limiter.nextCleanup
        · rw [if_pos hdue, getElem?_prune, hbucket]
          simp only [Option.filter_some_eq_some, Bool.not_eq_true', Bool.and_eq_false_iff,
            decide_eq_false_iff_not, beq_eq_false_iff_ne]
          tauto
        · rw [if_neg hdue, hbucket]
      rw [if_neg hprune, hclean]
      by_cases hkey : key = keyOf source target d
      · rw [if_pos hkey, if_pos hkey]
        exact hfits.refreshed (hs.limit_pos d) now
      · rw [if_neg hkey, if_neg hkey]
        simpa using hfits

/-- An admitted verification keeps every bucket fitting. -/
theorem admitted (hs : Safe s) {now : TimePoint} (hclock : s.clock ≤ now)
    (source target : String) (operation : Operation) (d : Dimension) (key : String)
    (hready : (retry now (cleaned now s.limiter d) (keyOf source target d)
      (s.limiter.limit d)).1 = 0) :
    Fits (s.limiter.limit d) now (reservedBuckets now source target s.limiter true d)[key]?
      (s.holders d key + if keyOf source target d = key then 1 else 0)
      (s.logged (.reserve now source target operation) d key) := by
  have hfits := hs.refreshed hclock source target operation d key
  unfold reservedBuckets at hfits ⊢
  dsimp only at hfits ⊢
  rw [if_neg Bool.false_ne_true] at hfits
  rw [if_pos rfl, getElem?_hold]
  by_cases hkey : key = keyOf source target d
  · subst hkey
    rw [if_pos rfl, if_pos rfl]
    refine hfits.taken (hs.limit_pos d) ?_ _ ⟨rfl, rfl, rfl⟩
    intro f hf
    exact retry_eq_zero hready hf
  · rw [if_neg hkey, if_neg (fun h => hkey h.symm)]
    exact hfits

/-- A finished verification keeps every bucket fitting. -/
theorem finished (hs : Safe s) {r : Reservation} {authenticated : Bool} {finished : TimePoint}
    {limiter : DeviceAuthLimiter} (hclock : s.clock ≤ finished) (hr : r ∈ s.inFlight)
    (hfinish : finish r authenticated finished s.limiter = some limiter) (d : Dimension)
    (key : String) :
    Fits (s.limiter.limit d) finished (limiter.buckets d)[key]?
      ((s.inFlight.erase r).countP (fun r => r.key d == key))
      (s.logged (.finish r authenticated finished) d key) := by
  obtain ⟨_, f, hf, hlookup⟩ := finish_cases hfinish d
  have hfits := (hs.fits d key).later hclock
  rw [hlookup key]
  unfold Monitored.logged Monitored.happens
  by_cases hkey : key = r.key d
  · subst hkey
    have hbucket : s.bucket d (r.key d) = some f := hf
    have hpos : 1 ≤ s.holders d (r.key d) := List.countP_pos_iff.mpr ⟨r, hr, by simp⟩
    have hheld : (s.inFlight.erase r).countP (fun r' => r'.key d == r.key d) =
        s.holders d (r.key d) - 1 := by
      rw [List.countP_erase, if_pos ⟨hr, by simp⟩]
      rfl
    rw [hbucket] at hfits
    rw [if_pos rfl, hbucket, hheld]
    dsimp only
    rw [if_pos rfl]
    have hlimit := hs.limit_pos d
    obtain ⟨hreleased, hroom⟩ := hfits.released hpos
    -- the place is given back, then the window may have run out, then the failure counts
    have hfresh := hreleased.refreshed hlimit finished
    have hfreshRoom := Fits.room_refreshed hlimit hroom finished
    have hevents : recordEvents (s.limiter.limit d) (resetExpired f finished) =
        recordEvents (s.limiter.limit d)
          (resetExpired { f with pending := f.pending - 1 } finished) := by
      rw [resetExpired_with_pending f (f.pending - 1)]
      rfl
    refine Fits.kept hlimit ?_
    unfold settle
    dsimp only
    rw [resetExpired_generation, hevents, ← List.append_assoc]
    split
    · exact hfresh.charged hfreshRoom s.limiter.policy r.operation
    · rw [List.append_nil]
      exact hfresh
  · have hheld : (s.inFlight.erase r).countP (fun r' => r'.key d == key) = s.holders d key := by
      rw [List.countP_erase, if_neg (fun h => hkey (beq_iff_eq.mp h.2).symm)]
      rfl
    rw [if_neg hkey, hheld]
    show Fits _ _ (s.bucket d key) _ _
    cases hbucket : s.bucket d key with
    | none =>
      rw [hbucket] at hfits
      simpa using hfits
    | some f' =>
      rw [hbucket] at hfits
      simpa [hkey] using hfits

/-- Clearing keeps every bucket fitting. -/
theorem cleared (hs : Safe s) (matchesKey : Bool → String → Bool)
    (now : Bool → String → TimePoint) {done : TimePoint} (hclock : s.clock ≤ done) (d : Dimension)
    (key : String) :
    Fits (s.limiter.limit d) done ((clearMatching matchesKey now s.limiter).buckets d)[key]?
      (s.holders d key) (s.logged (.clear matchesKey now done) d key) := by
  have hfits := (hs.fits d key).later hclock
  rw [getElem?_clearMatching]
  show Fits _ _ ((s.bucket d key).bind _) _ _
  unfold Monitored.logged Monitored.happens
  cases hbucket : s.bucket d key with
  | none =>
    rw [hbucket] at hfits
    simpa using hfits
  | some f =>
    rw [hbucket] at hfits
    dsimp only [Option.bind_some]
    cases hmatch : matchesKey d.isSource key with
    | false => simpa using hfits
    | true =>
      by_cases hfree : f.pending = 0
      · simpa [hfree] using hfits.pruned (hs.limit_pos d) hfree
      · simpa [hfree] using hfits.cleared (hs.limit_pos d)

/-- Every step keeps the invariant. -/
theorem step (hs : Safe s) {step : Step} {s' : Monitored} (h : Monitored.Steps s step s') :
    Safe s' := by
  cases h with
  | @refuse now source target operation delay limiter hclock hrefused =>
    rcases reserve_cases now source target operation s.limiter with
      ⟨_, _, hbuckets⟩ | ⟨r, hadmitted, _⟩
    · rw [hrefused] at hbuckets
      refine ⟨fun d => (hbuckets d).1 ▸ hs.limit_pos d, fun d key => ?_⟩
      show Fits (limiter.limit d) now (limiter.buckets d)[key]? _ _
      rw [(hbuckets d).1, (hbuckets d).2]
      exact hs.refreshed hclock source target operation d key
    · rw [hrefused] at hadmitted
      cases hadmitted
  | @accept now source target operation r limiter hclock hadmitted =>
    rcases reserve_cases now source target operation s.limiter with
      ⟨_, hrefused, _⟩ | ⟨r', hr', hbuckets⟩
    · rw [hadmitted] at hrefused
      cases hrefused
    · rw [hadmitted] at hr' hbuckets
      cases hr'
      refine ⟨fun d => (hbuckets d).1 ▸ hs.limit_pos d, fun d key => ?_⟩
      obtain ⟨hlimit, hafter, hkey, hready⟩ := hbuckets d
      show Fits (limiter.limit d) now (limiter.buckets d)[key]? _ _
      have hheld : Monitored.holders
          { s with limiter, inFlight := r :: s.inFlight } d key =
          s.holders d key + if keyOf source target d = key then 1 else 0 := by
        unfold Monitored.holders
        rw [List.countP_cons, hkey]
        simp
      rw [hlimit, hafter]
      have hfits := hs.admitted hclock source target operation d key hready
      rw [← hheld] at hfits
      exact hfits
  | @finish r authenticated finished limiter hclock hflying hfinished =>
    have hlimit := fun d => (finish_cases hfinished d).1
    refine ⟨fun d => hlimit d ▸ hs.limit_pos d, fun d key => ?_⟩
    show Fits (limiter.limit d) finished (limiter.buckets d)[key]? _ _
    rw [hlimit]
    exact hs.finished hclock hflying hfinished d key
  | @clear matchesKey now done hclock hnow =>
    have hlimit : ∀ d, (clearMatching matchesKey now s.limiter).limit d = s.limiter.limit d := by
      intro d
      cases d <;> rfl
    refine ⟨fun d => hlimit d ▸ hs.limit_pos d, fun d key => ?_⟩
    show Fits ((clearMatching matchesKey now s.limiter).limit d) done _ _ _
    rw [hlimit]
    exact hs.cleared matchesKey now hclock d key

theorem reachable (h : Monitored.system.Reachable s) : Safe s :=
  h.invariant (I := Safe) (fun _ hs => Safe.start hs) (fun _ _ _ hs hstep => hs.step hstep)

end Safe

/-! ## What it means for guessing -/

/-- The limiter bounds guesses. A reset closes the window `sinceReset` of the state before it, so the
last two fields speak about everything between two resets. -/
structure GuessesBounded (s : Monitored) : Prop where
  /-- Pending is the number of verifications that hold the bucket. -/
  pending_eq : ∀ d key, ((s.bucket d key).map Failures.pending).getD 0 = s.holders d key
  /-- Hence every verification finds its buckets when it finishes. -/
  lookup : ∀ r ∈ s.inFlight, ∀ (authenticated : Bool) (finished : TimePoint),
    ∃ limiter, finish r authenticated finished s.limiter = some limiter
  budget : ∀ d key f, s.bucket d key = some f →
    f.count + f.pending ≤ s.limiter.limit d ∨ f.count = s.limiter.limit d ∧ f.pending ≤ 1
  /-- Nobody verifies against a bucket that cools down, now or later. -/
  cooling : ∀ d key f, s.bucket d key = some f →
    ∀ now : TimePoint, s.clock ≤ now → f.blockedUntil > now → f.pending = 0
  /-- While a verification is in flight, and so when its callback starts, neither of its buckets is
  in cooldown. -/
  open_in_flight : ∀ r ∈ s.inFlight, ∀ d, ∃ f : Failures,
    s.bucket d (r.key d) = some f ∧ f.blockedUntil ≤ s.clock
  /-- At most the limit of failures is recorded before the first cooldown of a window. -/
  failures_le : ∀ d key, failuresBeforeCooldown (sinceReset (s.log d key)) ≤ s.limiter.limit d
  /-- After a cooldown of the window at most one verification is in flight. -/
  one_probe : ∀ d key, .cooldown ∈ sinceReset (s.log d key) → s.holders d key ≤ 1

/-- **Password guesses are bounded under any concurrency.** -/
theorem guesses_bounded {s : Monitored} (h : Monitored.system.Reachable s) : GuessesBounded s := by
  have hs := Safe.reachable h
  refine ⟨fun d key => (hs.fits d key).pending, fun r hr => hs.finishes hr, ?_, ?_, ?_,
    fun d key => (hs.fits d key).bounded, ?_⟩
  · intro d key f hf
    exact (hs.fits d key).budget f hf
  · intro d key f hf now hnow hblocked
    exact ((hs.fits d key).later hnow).cooling f hf hblocked
  · intro r hr d
    obtain ⟨f, hf, hpending⟩ := hs.held hr d
    refine ⟨f, hf, ?_⟩
    by_contra hblocked
    have hfree := (hs.fits d (r.key d)).cooling f hf (Nat.lt_of_not_le hblocked)
    omega
  · intro d key hcooled
    obtain ⟨f, hf, hfull⟩ := (hs.fits d key).full hcooled
    have hpending := (hs.fits d key).pending
    have hbudget := (hs.fits d key).budget f hf
    have hlimit := hs.limit_pos d
    rw [hf] at hpending
    simp only [Option.map_some, Option.getD_some] at hpending
    omega

/-- Two verifications of one target overlap. -/
theorem guesses_bounded_overlapping : ∃ s : Monitored, s.holders .target "pair" = 2 ∧
    GuessesBounded s := by
  have hstart : Monitored.system.start { limiter := {} } :=
    ⟨kSourceFailures, kTargetFailures, .fixed, by decide, by decide, rfl⟩
  have hfirst := System.Run.start hstart
  have hsecond := hfirst.step
    (@Monitored.Steps.accept _ 5 "10.0.0.1" "pair" .deviceLogin _ _ (by decide) rfl)
  have hthird := hsecond.step
    (@Monitored.Steps.accept _ 6 "10.0.0.2" "pair" .remoteConnection _ _ (by decide) rfl)
  exact ⟨_, by decide, guesses_bounded ⟨_, hthird⟩⟩

end CrossDesk.DeviceAuthLimiter
