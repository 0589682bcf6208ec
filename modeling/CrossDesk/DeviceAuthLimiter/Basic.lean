import CrossDesk.Lib.OrdMap
import CrossDesk.Clock

/-!
# The failure limiter

`DeviceAuthLimiter` bounds password guesses in two dimensions: by source (an initiator or an IP) and
by target (an initiator/credential pair). `Verify` reserves a place in one bucket of each dimension
under the lock, drops the lock while the password is hashed, and takes it again to settle the
outcome. Between the two halves anything may happen to both maps: other verifications, cleanup, or
`ClearMatching`.

So `Verify` is two functions here. `reserve` returns a `Reservation` that remembers what the second
half uses: the two keys and the generations of their buckets. `finish` returns `none` where
`buckets.at(key)` would throw. A verification that throws is settled as a failed one and then
rethrown, so for the limiter it is one that did not authenticate.
-/

namespace CrossDesk

namespace DeviceAuthLimiter

def kSourceFailures : Nat := 20
def kTargetFailures : Nat := 5
def kMaxEntries : Nat := 16384
def kWindow : Nat := 900
def kInitialBackoff : Nat := 60
def kMaxBackoff : Nat := 4 * 60 * 60
def kBackoffRecovery : Nat := 30 * 60

inductive Policy where
  | fixed
  | exponential
  deriving DecidableEq, Repr

/-- The flags of `DeviceAuthLimiter::Operation`. -/
inductive Operation where
  | unspecified
  | deviceLogin
  | remoteConnection
  | memberQuery
  | deviceKeyBinding
  deriving DecidableEq, Repr

def Operation.toNat : Operation → Nat
  | unspecified => 0
  | deviceLogin => 1
  | remoteConnection => 2
  | memberQuery => 4
  | deviceKeyBinding => 8

/-- A bucket. `backoff` is in seconds, as in the source. -/
structure Failures where
  count : Nat := 0
  pending : Nat := 0
  expires : TimePoint
  blockedUntil : TimePoint := 0
  backoff : Nat := 0
  generation : Nat := 0
  operations : Nat := 0
  deriving DecidableEq, Repr

abbrev Buckets := OrdMap String Failures

/-- The two kinds of budget. -/
inductive Dimension where
  | source
  | target
  deriving DecidableEq, Repr

/-- What the second half of `Verify` remembers of the first. -/
structure Reservation where
  sourceKey : String
  target : String
  sourceGeneration : Nat
  targetGeneration : Nat
  operation : Operation
  deriving DecidableEq, Repr

/-- A line of `Snapshot`. -/
structure Entry where
  source : Bool
  target : String
  failures : Nat
  threshold : Nat
  pending : Nat
  retryAfter : Nat
  resetAfter : Nat
  operations : Nat
  deriving DecidableEq, Repr

/-- The outcome of the first half: retry after so many seconds, or go and verify. -/
inductive Admission where
  | retryAfter (delay : Nat)
  | reserved (reservation : Reservation)
  deriving DecidableEq, Repr

end DeviceAuthLimiter

open DeviceAuthLimiter

/-- The limiter. The constructor throws on a limit of zero. -/
structure DeviceAuthLimiter where
  sourceFailureLimit : Nat := kSourceFailures
  targetFailureLimit : Nat := kTargetFailures
  policy : Policy := .fixed
  sources : Buckets := ∅
  targets : Buckets := ∅
  nextCleanup : TimePoint := 0

namespace DeviceAuthLimiter

def remainingSeconds (deadline now : TimePoint) : Nat :=
  if deadline > now then ceilSeconds (deadline - now) else 0

/-- Drop the buckets that expired and that no verification holds. -/
def prune (buckets : Buckets) (now : TimePoint) : Buckets :=
  buckets.filter (fun _ failures => !(decide (failures.expires ≤ now) && failures.pending == 0))

def resetExpired (failures : Failures) (now : TimePoint) : Failures :=
  if failures.expires > now then failures
  else
    { failures with
      count := 0
      expires := now + seconds kWindow
      blockedUntil := 0
      backoff := 0
      operations := 0 }

/-- `Record`: count a failed verification; at the limit, start or prolong the cooldown. -/
def record (policy : Policy) (failures : Failures) (limit : Nat) (now : TimePoint)
    (operation : Operation) : Failures :=
  let failures := { failures with operations := failures.operations ||| operation.toNat }
  let failures :=
    if failures.count < limit then { failures with count := failures.count + 1 } else failures
  if failures.count < limit then failures
  else
    let backoff := match policy with
      | .exponential =>
        if failures.backoff = 0 then kInitialBackoff else min (failures.backoff * 2) kMaxBackoff
      | .fixed => kWindow
    let recovery := match policy with
      | .exponential => kBackoffRecovery
      | .fixed => 0
    { failures with
      backoff
      blockedUntil := now + seconds backoff
      expires := now + seconds backoff + seconds recovery }

/-- `CooldownRemaining`: the cooldown of either bucket, without reserving anything. -/
def cooldownRemaining (now : TimePoint) (source target : String) (s : DeviceAuthLimiter) : Nat :=
  let remaining (buckets : Buckets) (key : String) : Nat :=
    match buckets[key]? with
    | none => 0
    | some failures => remainingSeconds failures.blockedUntil now
  max (remaining s.sources (if source = "" then "unknown" else source))
    (remaining s.targets target)

/-- The line of a bucket, if it has failures that have not expired. -/
def entryOf (now : TimePoint) (source : Bool) (threshold : Nat) (target : String)
    (bucket : Failures) : Option Entry :=
  if bucket.count = 0 ∨ bucket.expires ≤ now then none
  else
    some
      { source
        target
        failures := bucket.count
        threshold
        pending := bucket.pending
        retryAfter := remainingSeconds bucket.blockedUntil now
        resetAfter := remainingSeconds bucket.expires now
        operations := bucket.operations }

/-- `Snapshot`. -/
def snapshot (now : TimePoint) (s : DeviceAuthLimiter) : List Entry :=
  s.targets.toList.filterMap (fun e => entryOf now false s.targetFailureLimit e.1 e.2) ++
    s.sources.toList.filterMap (fun e => entryOf now true s.sourceFailureLimit e.1 e.2)

/-- `ClearMatching`, with `now b key` the clock reading for a matching bucket that is held. -/
def clearMatching (matchesKey : Bool → String → Bool) (now : Bool → String → TimePoint)
    (s : DeviceAuthLimiter) : DeviceAuthLimiter :=
  let clear (isSource : Bool) (buckets : Buckets) : Buckets :=
    buckets.filterMap (fun key failures =>
      if !matchesKey isSource key then some failures
      else if failures.pending = 0 then none
      else
        let failures := { failures with
          generation := failures.generation + 1
          expires := now isSource key }
        some (resetExpired failures failures.expires))
  { s with sources := clear true s.sources, targets := clear false s.targets }

/-- `Clear`: one bucket. -/
def clear (source : Bool) (target : String) (now : Bool → String → TimePoint) :
    DeviceAuthLimiter → DeviceAuthLimiter :=
  clearMatching (fun isSource key => isSource == source && key == target) now

/-- The `retry` step of `Verify`: refresh an existing bucket and say how long to wait for it. -/
def retry (now : TimePoint) (buckets : Buckets) (key : String) (limit : Nat) : Nat × Buckets :=
  match buckets[key]? with
  | none => (0, buckets)
  | some bucket =>
    let bucket := resetExpired bucket now
    let buckets := buckets.insert key bucket
    let delay := remainingSeconds bucket.blockedUntil now
    if delay > 0 then (delay, buckets)
    else
      let available := if bucket.count < limit then limit - bucket.count else 1
      (if bucket.pending ≥ available then 1 else 0, buckets)

/-- Reserve a place in a bucket, which comes into being if need be. -/
def hold (now : TimePoint) (buckets : Buckets) (key : String) : Buckets :=
  let bucket := (buckets[key]?).getD { expires := now + seconds kWindow }
  buckets.insert key { bucket with pending := bucket.pending + 1 }

/-- The generation of a bucket that is known to exist (`buckets.at(key).generation`). -/
def generationAt (buckets : Buckets) (key : String) : Nat :=
  ((buckets[key]?).map Failures.generation).getD 0

/-- Live failures are never evicted: a new key is refused while its dimension is full. -/
def atCapacity (sourceKey target : String) (s : DeviceAuthLimiter) : Bool :=
  !s.sources.contains sourceKey && decide (s.sources.size ≥ kMaxEntries) ||
    !s.targets.contains target && decide (s.targets.size ≥ kMaxEntries)

/-- The first half of `Verify`: reserve both budgets or refuse. -/
def reserve (now : TimePoint) (source target : String) (operation : Operation)
    (s : DeviceAuthLimiter) : Admission × DeviceAuthLimiter :=
  let s := if now ≥ s.nextCleanup then
      { s with
        sources := prune s.sources now
        targets := prune s.targets now
        nextCleanup := now + seconds 60 }
    else s
  let sourceKey := if source = "" then "unknown" else source
  let sourceRetry := retry now s.sources sourceKey s.sourceFailureLimit
  let targetRetry := retry now s.targets target s.targetFailureLimit
  let s := { s with sources := sourceRetry.2, targets := targetRetry.2 }
  let retryAfter := max sourceRetry.1 targetRetry.1
  if retryAfter > 0 then (.retryAfter retryAfter, s)
  else if s.atCapacity sourceKey target then (.retryAfter kWindow, s)
  else
    let s := { s with sources := hold now s.sources sourceKey, targets := hold now s.targets target }
    (.reserved
      { sourceKey
        target
        sourceGeneration := generationAt s.sources sourceKey
        targetGeneration := generationAt s.targets target
        operation }, s)

/-- The bucket after a verification gave its place back. A failure counts only if the bucket was not
cleared in the meantime. -/
def settle (policy : Policy) (authenticated : Bool) (operation : Operation) (finished : TimePoint)
    (limit generation : Nat) (bucket : Failures) : Failures :=
  let bucket := resetExpired { bucket with pending := bucket.pending - 1 } finished
  if !authenticated && bucket.generation == generation then
    record policy bucket limit finished operation
  else bucket

/-- The `finish` step of `Verify` for one bucket. -/
def finishBucket (policy : Policy) (authenticated : Bool) (operation : Operation)
    (finished : TimePoint) (buckets : Buckets) (key : String) (limit generation : Nat) :
    Option Buckets :=
  match buckets[key]? with
  | none => none
  | some bucket =>
    let bucket := settle policy authenticated operation finished limit generation bucket
    if bucket.count = 0 ∧ bucket.pending = 0 then some (buckets.erase key)
    else some (buckets.insert key bucket)

/-- The second half of `Verify`: give both places back and record a failure. -/
def finish (reservation : Reservation) (authenticated : Bool) (finished : TimePoint)
    (s : DeviceAuthLimiter) : Option DeviceAuthLimiter :=
  (finishBucket s.policy authenticated reservation.operation finished s.sources
    reservation.sourceKey s.sourceFailureLimit reservation.sourceGeneration).bind (fun sources =>
      (finishBucket s.policy authenticated reservation.operation finished s.targets
        reservation.target s.targetFailureLimit reservation.targetGeneration).map (fun targets =>
          { s with sources, targets }))

/-! ## Reading both dimensions alike -/

def buckets (s : DeviceAuthLimiter) : Dimension → Buckets
  | .source => s.sources
  | .target => s.targets

def limit (s : DeviceAuthLimiter) : Dimension → Nat
  | .source => s.sourceFailureLimit
  | .target => s.targetFailureLimit

/-- The key under which a verification holds its place. -/
def Reservation.key (reservation : Reservation) : Dimension → String
  | .source => reservation.sourceKey
  | .target => reservation.target

def Reservation.generation (reservation : Reservation) : Dimension → Nat
  | .source => reservation.sourceGeneration
  | .target => reservation.targetGeneration

end DeviceAuthLimiter

end CrossDesk
