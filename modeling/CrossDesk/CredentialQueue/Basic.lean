import CrossDesk.Lib.OrdMap
import CrossDesk.Clock

/-!
# The credential queue

`CredentialQueue` keeps password work that waits for one of a few hashing workers. Waiting jobs are
queued per source; an `unordered_set` of connection ids, a counter for each source, the worker slots
and the statistics all repeat what the queues say.

`Enqueue`, `Cancel` and `Complete` are functions. `Pump` calls back in four places — `alive`,
`expire`, `admit` and `start` — and an `expire` callback may come back with more work, so `Pump` is
a program with a program point (`PumpPoint`) and the steps between its callbacks; `Runs` puts it
together with its environment.

A job's callbacks are closures. `serial` numbers the accepted jobs and stands for the closures of
one of them, so that two jobs of one connection can be told apart.
-/

namespace CrossDesk

namespace CredentialQueue

/-- A job, apart from its callbacks. -/
structure Job where
  id : Nat
  source : String
  deadline : TimePoint
  queuedAt : TimePoint := 0
  serial : Nat := 0
  deriving DecidableEq, Repr

structure Stats where
  accepted : Nat := 0
  started : Nat := 0
  completed : Nat := 0
  canceled : Nat := 0
  full : Nat := 0
  sourceFull : Nat := 0
  expired : Nat := 0
  sourceWaits : Nat := 0
  maxWaitMs : Nat := 0
  maxExecutionMs : Nat := 0
  deriving DecidableEq, Repr

structure Source where
  waiting : List Job := []
  outstanding : Nat := 0
  notBefore : TimePoint := 0
  deriving DecidableEq, Repr

structure Running where
  id : Nat
  source : String
  startedAt : TimePoint
  serial : Nat
  deriving DecidableEq, Repr

/-- A duration in whole milliseconds. -/
def millis (d : Nat) : Nat := d / 1000000

end CredentialQueue

open CredentialQueue

/-- The queue. The constructor throws when a limit is zero. -/
structure CredentialQueue where
  capacity : Nat
  sourceCapacity : Nat
  sources : OrdMap String Source := ∅
  ids : Finset Nat := ∅
  running : List (Option Running)
  lastSource : String := ""
  stats : Stats := {}
  pumping : Bool := false

namespace CredentialQueue

/-- The constructor. -/
def create (workers capacity sourceCapacity : Nat) : Option CredentialQueue :=
  if workers = 0 ∨ capacity = 0 ∨ sourceCapacity = 0 then none
  else some { capacity, sourceCapacity, running := List.replicate workers none }

/-- `Enqueue`: accept a job unless the queue, the connection or the source has its share. -/
def enqueue (now : TimePoint) (job : Job) (q : CredentialQueue) : Bool × CredentialQueue :=
  if q.ids.card ≥ q.capacity then
    (false, { q with stats := { q.stats with full := q.stats.full + 1 } })
  else if job.id ∈ q.ids then (false, q)
  else
    let job := if job.source = "" then { job with source := "unknown" } else job
    if (q.sources[job.source]?).any (fun source => source.outstanding ≥ q.sourceCapacity) then
      (false, { q with stats := { q.stats with sourceFull := q.stats.sourceFull + 1 } })
    else
      let job := { job with queuedAt := now, serial := q.stats.accepted }
      let source := (q.sources[job.source]?).getD {}
      let source := { source with
        outstanding := source.outstanding + 1
        waiting := source.waiting ++ [job] }
      (true, { q with
        ids := insert job.id q.ids
        sources := q.sources.insert job.source source
        stats := { q.stats with accepted := q.stats.accepted + 1 } })

/-- The source with its share given back: it is dropped when nothing is outstanding. -/
def putSource (key : String) (source : Source) (sources : OrdMap String Source) :
    OrdMap String Source :=
  if source.outstanding = 0 then sources.erase key else sources.insert key source

/-- The first waiting job of a connection, with its source, in key order. -/
def findWaiting (id : Nat) (q : CredentialQueue) : Option (String × Source × Job) :=
  q.sources.toList.findSome? (fun entry =>
    (entry.2.waiting.find? (fun job => job.id = id)).map (fun job => (entry.1, entry.2, job)))

/-- `Cancel`: drop the waiting job of a connection. A running one is left alone. -/
def cancel (id : Nat) (q : CredentialQueue) : CredentialQueue :=
  match q.findWaiting id with
  | none => q
  | some (key, source, job) =>
    let source := { source with
      waiting := source.waiting.erase job
      outstanding := source.outstanding - 1 }
    { q with
      ids := q.ids.erase id
      stats := { q.stats with canceled := q.stats.canceled + 1 }
      sources := putSource key source q.sources }

/-- `Complete`: a hashing worker is done. `none` where the source throws (no such worker, or it
completed twice) or would read past the end of the map. -/
def complete (now : TimePoint) (worker : Nat) (q : CredentialQueue) : Option CredentialQueue :=
  match q.running[worker]? with
  | none => none
  | some none => none
  | some (some active) =>
    match q.sources[active.source]? with
    | none => none
    | some source =>
      let source := { source with outstanding := source.outstanding - 1 }
      some { q with
        ids := q.ids.erase active.id
        sources := putSource active.source source q.sources
        running := q.running.set worker none
        stats := { q.stats with
          maxExecutionMs := max q.stats.maxExecutionMs (millis (now - active.startedAt))
          completed := q.stats.completed + 1 } }

/-- The jobs on a worker. -/
def active (q : CredentialQueue) : Nat := q.running.countP Option.isSome

/-- `Waiting()`. -/
def waitingCount (q : CredentialQueue) : Nat := q.ids.card - q.active

/-! ## The pieces of `Pump` -/

/-- Drop the `index`-th waiting job of a source, which is not alive or has expired. -/
def dropJob (key : String) (source : Source) (index : Nat) (job : Job) (expired : Bool)
    (q : CredentialQueue) : CredentialQueue :=
  { q with
    ids := q.ids.erase job.id
    sources := q.sources.insert key { source with
      outstanding := source.outstanding - 1
      waiting := source.waiting.eraseIdx index }
    stats := if expired then { q.stats with expired := q.stats.expired + 1 }
      else { q.stats with canceled := q.stats.canceled + 1 } }

/-- The source has to wait for a token. -/
def delaySource (now : TimePoint) (key : String) (source : Source) (delay : Nat)
    (q : CredentialQueue) : CredentialQueue :=
  { q with
    sources := q.sources.insert key { source with notBefore := now + seconds delay }
    stats := { q.stats with sourceWaits := q.stats.sourceWaits + 1 } }

/-- The first waiting job of a source moves to a worker. -/
def startJob (now : TimePoint) (worker : Nat) (key : String) (source : Source) (job : Job)
    (q : CredentialQueue) : CredentialQueue :=
  { q with
    sources := q.sources.insert key { source with waiting := source.waiting.tail }
    lastSource := key
    running := q.running.set worker
      (some { id := job.id, source := job.source, startedAt := now, serial := job.serial })
    stats := { q.stats with
      maxWaitMs := max q.stats.maxWaitMs (millis (now - job.queuedAt))
      started := q.stats.started + 1 } }

/-- Where `Pump` stands. `now` is the clock reading it started with; `expired` are the jobs whose
`expire` callback it still has to call. -/
inductive PumpPoint where
  /-- At the top of the loop over the sources, before the source of the given key. -/
  | sources (now : TimePoint) (expired : List Job) (next : Option String)
  /-- At the top of the loop over the waiting jobs of a source; `alive` is called next unless the
  index is past the end. -/
  | jobs (now : TimePoint) (expired : List Job) (key : String) (index : Nat)
  /-- At the top of the loop over the expired jobs; the first one's callback is called next. -/
  | callbacks (now : TimePoint) (expired : List Job)
  /-- Inside an `expire` callback. -/
  | inCallback (now : TimePoint) (expired : List Job)
  /-- At the top of the loop over the workers. -/
  | workers (now : TimePoint) (worker : Nat)
  /-- At the top of the loop over the sources for an idle worker. -/
  | attempts (now : TimePoint) (worker : Nat) (key : Option String) (left : Nat)
  /-- At the call of `admit` for the first job of a source. -/
  | asking (now : TimePoint) (worker : Nat) (key : String) (left : Nat)
  /-- At the call of `start` for a job that was admitted. -/
  | starting (now : TimePoint) (worker : Nat) (job : Job)
  deriving DecidableEq, Repr

end CredentialQueue

end CrossDesk
