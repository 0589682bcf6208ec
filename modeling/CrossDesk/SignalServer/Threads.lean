import CrossDesk.Json
import CrossDesk.BoundedExecutor.Basic
import CrossDesk.CredentialQueue.Runs

/-!
# The threads of the server

Three kinds of threads share the work. The network thread owns the connections: it accepts and closes
them, and hands their messages to the application worker. The application worker runs one job after
another (`BoundedExecutor`): messages, the cleanup after a connection, and the end of password
computations, which hashing threads carry out. It alone uses the credential queue.

A connection may have one request in the credential queue. Its later messages are deferred until the
request is over, and then handled before anything else, in `FinishCredentialRequest`. Handling them
may put the next request into the queue, and the queue may call back about other connections
meanwhile, so the worker has a stack of what it is in the middle of (`Frame`).

Between two steps any other thread may run. A step of the worker reads the flag `alive` at most once.
What a handler does with a message, apart from its request, is the subject of `Application`. Only
the destructor stops the executors, so they are not stopped here.

A job that ends in an exception is not modelled. `ProcessMessage` and the end of a computation catch the
exceptions of the JSON library themselves; any other one, a failed allocation for example, leaves its job
half done, with the counters as they are, and `WorkerFailed` stops the server.
-/

namespace CrossDesk.SignalServer

/-- What the threads share of a connection: `ConnectionState`. It outlives the connection. -/
structure ConnectionState where
  opened : Bool := false
  alive : Bool := true
  pendingMessages : Nat := 0
  credentialPending : Bool := false
  deferredMessages : List Json := []

/-- The jobs of the application worker. -/
inductive ApplicationJob where
  /-- `DispatchMessage`. -/
  | message (id : Nat) (message : Json)
  /-- The cleanup after a connection: `QueueSessionCleanup`. -/
  | cleanup (id : Nat)
  /-- The end of a password computation: `StartCredentialWork`. -/
  | complete (id worker : Nat)
  /-- `ScheduleRecoveredSessionCleanup`. -/
  | prune
  /-- The last heartbeat: `Stop`. -/
  | heartbeat
  /-- `ScheduleCredentialPump`. -/
  | pump
  /-- The runtime heartbeat, the retention cleanup and the requests of the administrator. -/
  | ordinary

/-- The jobs that are submitted with the flag. -/
def ApplicationJob.isLifecycle : ApplicationJob → Bool
  | cleanup _ | complete _ _ | prune | heartbeat => true
  | message _ _ | pump | ordinary => false

/-- What the application worker is in the middle of. -/
inductive Frame where
  /-- `ProcessMessage`, called by `DispatchMessage`. -/
  | processing (id : Nat)
  /-- The loop of `FinishCredentialRequest` over the deferred messages. -/
  | draining (id : Nat)
  /-- The `expire` callback of a request, before `FinishCredentialRequest`. -/
  | expiring (id : Nat)
  /-- The `expire` callback, after `FinishCredentialRequest`. -/
  | expired
  /-- The end of a password computation, before `Complete`. -/
  | completing (id worker : Nat)
  /-- The end of a password computation, after `FinishCredentialRequest`. -/
  | completed
  deriving DecidableEq

/-- A hashing thread. Its jobs are the ids of the connections whose passwords it computes. -/
structure CredentialWorker where
  executor : BoundedExecutor Nat := { capacity := 1, reserve := 0 }
  running : Option Nat := none

/-- What other threads asked the network thread to do. -/
inductive Post where
  /-- A cleanup is over. -/
  | cleanupDone
  /-- `Stop`. -/
  | shutdown
  /-- `RequestBackpressureClose`. -/
  | closeOverloaded
  deriving DecidableEq

/-- What becomes of a message. -/
inductive Event where
  | accepted (id : Nat) (message : Json)
  /-- It was handed to `ProcessMessage`. -/
  | processed (id : Nat) (message : Json)
  /-- It was dropped because its connection was dead, or the server was stopping. -/
  | dropped (id : Nat) (message : Json)
  /-- It was dropped because too many messages were deferred. -/
  | overflowed (id : Nat) (message : Json)
  /-- `RequestBackpressureClose` was called. -/
  | closeRequested (id : Nat)

/-- The threads, with what they share. -/
structure Threads where
  -- the network thread
  maxConnections : Nat
  connections : Finset Nat := ∅
  nextConnectionId : Nat := 1
  acceptPending : Bool := false
  pendingCleanup : Nat := 0
  /-- A message that was counted, with the count before it, and is submitted next. -/
  arriving : Option (Nat × Json × Nat) := none
  pruneSubmitted : Bool := false
  -- the application worker
  frames : List Frame := []
  queue : CredentialQueue.Machine
  deferredMessageCount : Nat := 0
  -- what the threads share
  state : Nat → ConnectionState := fun _ => {}
  application : BoundedExecutor ApplicationJob
  workers : List CredentialWorker
  stopping : Bool := false
  posted : List Post := []
  backpressureConnections : Finset Nat := ∅
  backpressurePosted : Bool := false

namespace Threads

/-- Change what is shared of a connection. -/
@[simps]
def withState (id : Nat) (f : ConnectionState → ConnectionState) (s : Threads) : Threads :=
  { s with state := Function.update s.state id (f (s.state id)) }

/-- `--pending_messages`. -/
@[simps!]
def release (id : Nat) (s : Threads) : Threads :=
  s.withState id (fun c => { c with pendingMessages := c.pendingMessages - 1 })

@[simps]
def push (frame : Frame) (s : Threads) : Threads := { s with frames := frame :: s.frames }

@[simps]
def post (p : Post) (s : Threads) : Threads := { s with posted := s.posted ++ [p] }

/-! ## The network thread -/

/-- `QueueSessionCleanup`. `none` where it throws: the lifecycle reserve is exhausted. -/
def queueSessionCleanup (id : Nat) (s : Threads) : Option Threads :=
  let dead := s.withState id (fun c => { c with alive := false })
  if !(s.state id).alive || !(s.state id).opened then some dead
  else
    match s.application.submit (.cleanup id) true with
    | (true, application) =>
      some { dead with pendingCleanup := s.pendingCleanup + 1, application }
    | (false, _) => none

/-- `CloseConnection`. -/
def closeConnection (s : Threads) (id : Nat) : Option Threads :=
  if id ∈ s.connections ∧ (s.state id).alive = true then s.queueSessionCleanup id else some s

/-- Close connections one after the other. -/
def closeAll (ids : Finset Nat) (s : Threads) : Option Threads :=
  (ids.sort (· ≤ ·)).foldlM closeConnection s

/-- A function that was posted runs. -/
def runPost (p : Post) (s : Threads) : Option Threads :=
  match p with
  | .cleanupDone => some { s with pendingCleanup := s.pendingCleanup - 1 }
  | .shutdown =>
    -- whether the last heartbeat was accepted is not looked at
    let s := { s with application := (s.application.submit ApplicationJob.heartbeat true).2 }
    s.closeAll s.connections
  | .closeOverloaded =>
    let affected := s.backpressureConnections
    { s with backpressureConnections := ∅, backpressurePosted := false }.closeAll affected

/-- `RequestBackpressureClose`. -/
def requestBackpressureClose (id : Nat) (s : Threads) : Threads :=
  let s := if s.backpressureConnections.card < s.maxConnections then
    { s with backpressureConnections := insert id s.backpressureConnections } else s
  if s.backpressurePosted then s
  else { s.post .closeOverloaded with backpressurePosted := true }

/-! ## The application worker -/

/-- `DispatchMessage`, up to the call of `ProcessMessage`. -/
def dispatchMessage (id : Nat) (message : Json) (s : Threads) : Threads × List Event :=
  if (s.state id).alive && !s.stopping then
    if (s.state id).credentialPending then
      if 1024 ≤ s.deferredMessageCount then
        ((s.release id).requestBackpressureClose id, [.overflowed id message, .closeRequested id])
      else
        ({ s.withState id (fun c => { c with deferredMessages := c.deferredMessages ++ [message] })
            with deferredMessageCount := s.deferredMessageCount + 1 }, [])
    else (s.push (.processing id), [.processed id message])
  else (s.release id, [.dropped id message])

/-- `FinishCredentialRequest`, up to its loop. -/
def finishCredentialRequest (id : Nat) (s : Threads) : Threads :=
  (s.withState id (fun c => { c with credentialPending := false })).push (.draining id)

/-- The first deferred message leaves the queue of its connection. -/
def undefer (id : Nat) (s : Threads) : Threads :=
  { s.withState id (fun c => { c with deferredMessages := c.deferredMessages.tail }) with
    deferredMessageCount := s.deferredMessageCount - 1 }

/-- The cleanup job, without the credential queue. -/
def cleanup (id : Nat) (s : Threads) : Threads × List Event :=
  let deferred := (s.state id).deferredMessages
  let s := s.withState id (fun c =>
    { c with pendingMessages := c.pendingMessages - deferred.length, deferredMessages := [] })
  ({ s.post .cleanupDone with deferredMessageCount := s.deferredMessageCount - deferred.length },
    deferred.map (.dropped id))

/-- What the queue may be told inside `Pump`: the connection of a job is alive while its socket is, and
the server is not stopping. -/
def Answers (s : Threads) : CredentialQueue.Label → Prop
  | .silent | .asked _ => True
  | .alive answer => ∀ (now : TimePoint) (due : List CredentialQueue.Job) (key : String) (index : Nat)
      (source : CredentialQueue.Source) (job : CredentialQueue.Job),
      s.queue.point = some (.jobs now due key index) → s.queue.queue.sources[key]? = some source →
      source.waiting[index]? = some job → answer = ((s.state job.id).alive && !s.stopping)
  | _ => False

/-- The application worker is between two jobs. -/
def Idle (s : Threads) : Prop := s.frames = [] ∧ s.queue.point = none

/-! ## Steps -/

/-- The steps of the network thread. -/
inductive NetworkSteps (s : Threads) : List Event → Threads → Prop where
  /-- `AcceptNext`. It may also wait for file descriptors or for open handshakes. -/
  | acceptNext (harriving : s.arriving = none) (hrunning : s.stopping = false)
      (hnone : s.acceptPending = false)
      (hroom : s.connections.card + s.pendingCleanup < s.maxConnections) :
      NetworkSteps s [] { s with acceptPending := true }
  /-- A connection was accepted. -/
  | accepted (harriving : s.arriving = none) (hrunning : s.stopping = false)
      (hpending : s.acceptPending = true) :
      NetworkSteps s []
        { s with
          acceptPending := false
          nextConnectionId := s.nextConnectionId + 1
          connections := insert s.nextConnectionId s.connections
          state := Function.update s.state s.nextConnectionId {} }
  /-- Accepting failed, or the server is stopping. -/
  | acceptFailed (harriving : s.arriving = none) (hpending : s.acceptPending = true) :
      NetworkSteps s [] { s with acceptPending := false }
  /-- `OnOpen`. -/
  | opened {id : Nat} (harriving : s.arriving = none) (hid : id ∈ s.connections) :
      NetworkSteps s [] (s.withState id (fun c => { c with opened := true }))
  /-- `CloseConnection`, for one of its reasons, or a connection that closed already. -/
  | closed {id : Nat} {s' : Threads} (harriving : s.arriving = none) (hid : id ∈ s.connections)
      (hclose : s.closeConnection id = some s') : NetworkSteps s [] s'
  /-- `FinishConnection`. -/
  | finished {id : Nat} {s' : Threads} (harriving : s.arriving = none) (hid : id ∈ s.connections)
      (hcleanup : s.queueSessionCleanup id = some s') :
      NetworkSteps s [] { s' with connections := s'.connections.erase id }
  /-- `OnMessage`, up to the count. -/
  | arrives {id : Nat} {message : Json} (harriving : s.arriving = none) (hid : id ∈ s.connections)
      (halive : (s.state id).alive = true) :
      NetworkSteps s []
        { s.withState id (fun c => { c with pendingMessages := c.pendingMessages + 1 }) with
          arriving := some (id, message, (s.state id).pendingMessages) }
  /-- The message is accepted. -/
  | submits {id count : Nat} {message : Json} {application : BoundedExecutor ApplicationJob}
      (harriving : s.arriving = some (id, message, count)) (hcount : count < 128)
      (hsubmit : s.application.submit (.message id message) false = (true, application)) :
      NetworkSteps s [.accepted id message] { s with arriving := none, application }
  /-- The connection has too many messages, or the worker has. -/
  | refuses {id count : Nat} {message : Json} {s' : Threads}
      (harriving : s.arriving = some (id, message, count))
      (hrefused : 128 ≤ count ∨ (s.application.submit (.message id message) false).1 = false)
      (hclose : ({ s.release id with arriving := none } : Threads).closeConnection id = some s') :
      NetworkSteps s [] s'
  /-- `ScheduleCredentialPump`, `ScheduleRuntimeHeartbeat`, `ScheduleRetentionCleanup` and `OnHttp`. -/
  | ordinary {job : ApplicationJob} (harriving : s.arriving = none)
      (hjob : job = .pump ∨ job = .ordinary) :
      NetworkSteps s [] { s with application := (s.application.submit job false).2 }
  /-- `ScheduleRecoveredSessionCleanup`: its timer is set once, when the server starts. -/
  | prunes {application : BoundedExecutor ApplicationJob} (harriving : s.arriving = none)
      (hrunning : s.stopping = false) (hfirst : s.pruneSubmitted = false)
      (hsubmit : s.application.submit .prune true = (true, application)) :
      NetworkSteps s [] { s with pruneSubmitted := true, application }
  | runsPost {p : Post} {posted : List Post} {s' : Threads} (harriving : s.arriving = none)
      (hposted : s.posted = p :: posted)
      (hrun : ({ s with posted } : Threads).runPost p = some s') : NetworkSteps s [] s'

/-- The steps of the application worker. -/
inductive WorkerSteps (s : Threads) : List Event → Threads → Prop where
  -- the next job
  | message {id : Nat} {message : Json} {application : BoundedExecutor ApplicationJob}
      (hidle : s.Idle) (htake : s.application.take = some (.message id message, application)) :
      WorkerSteps s ({ s with application }.dispatchMessage id message).2
        ({ s with application }.dispatchMessage id message).1
  | cleanup {id : Nat} {application : BoundedExecutor ApplicationJob}
      {queue : CredentialQueue.Machine}
      (hidle : s.Idle) (htake : s.application.take = some (.cleanup id, application))
      (hqueue : s.queue.Steps (.cancel id) queue) :
      WorkerSteps s ({ s with application, queue }.cleanup id).2
        ({ s with application, queue }.cleanup id).1
  | complete {id worker : Nat} {application : BoundedExecutor ApplicationJob}
      (hidle : s.Idle) (htake : s.application.take = some (.complete id worker, application)) :
      WorkerSteps s [] ({ s with application }.push (.completing id worker))
  | pumps {application : BoundedExecutor ApplicationJob} {queue : CredentialQueue.Machine}
      {now : TimePoint}
      (hidle : s.Idle) (htake : s.application.take = some (.pump, application))
      (hrunning : s.stopping = false) (hqueue : s.queue.Steps (.pump now) queue) :
      WorkerSteps s [] { s with application, queue }
  /-- The other jobs leave all this alone, and so does `Pump` when the server is stopping. -/
  | other {job : ApplicationJob} {application : BoundedExecutor ApplicationJob}
      (hidle : s.Idle) (htake : s.application.take = some (job, application))
      (hjob : job = .prune ∨ job = .heartbeat ∨ job = .ordinary ∨ job = .pump ∧ s.stopping = true) :
      WorkerSteps s [] { s with application }
  -- inside `ProcessMessage`
  /-- `SubmitCredentialWork`: the request is accepted. -/
  | submits {id : Nat} {frames : List Frame} {now now' : TimePoint} {job : CredentialQueue.Job}
      {accepted queue : CredentialQueue.Machine} {enqueued : CredentialQueue}
      (hframes : s.frames = .processing id :: frames) (hrunning : s.stopping = false)
      (halive : (s.state id).alive = true) (hfree : (s.state id).credentialPending = false)
      (hjob : job.id = id) (hcaller : s.queue.CallerRuns)
      (henqueue : s.queue.queue.enqueue now job = (true, enqueued))
      (haccept : s.queue.Steps (.enqueue now job) accepted)
      (hpump : accepted.Steps (.pump now') queue) :
      WorkerSteps s []
        { s.withState id (fun c => { c with credentialPending := true }) with queue }
  /-- `SubmitCredentialWork`: the queue has no room for it. -/
  | rejected {id : Nat} {frames : List Frame} {now : TimePoint} {job : CredentialQueue.Job}
      {queue : CredentialQueue.Machine} {enqueued : CredentialQueue}
      (hframes : s.frames = .processing id :: frames) (hrunning : s.stopping = false)
      (halive : (s.state id).alive = true) (hfree : (s.state id).credentialPending = false)
      (hjob : job.id = id) (hcaller : s.queue.CallerRuns)
      (henqueue : s.queue.queue.enqueue now job = (false, enqueued))
      (hreject : s.queue.Steps (.enqueue now job) queue) :
      WorkerSteps s [] { s with queue }
  /-- `ProcessMessage` returns. -/
  | processed {id : Nat} {frames : List Frame} (hframes : s.frames = .processing id :: frames)
      (hcaller : s.queue.CallerRuns) :
      WorkerSteps s [] ({ s with frames }.release id)
  -- inside `Pump`
  | queue {l : CredentialQueue.Label} {queue : CredentialQueue.Machine} (hanswers : s.Answers l)
      (hqueue : s.queue.Steps l queue) : WorkerSteps s [] { s with queue }
  /-- `StartCredentialWork`. -/
  | starts {now : TimePoint} {worker : Nat} {job : CredentialQueue.Job}
      {queue : CredentialQueue.Machine} {credentialWorker : CredentialWorker}
      {executor : BoundedExecutor Nat}
      (hpoint : s.queue.point = some (.starting now worker job))
      (hworker : s.workers[worker]? = some credentialWorker)
      (hsubmit : credentialWorker.executor.submit job.id false = (true, executor))
      (hqueue : s.queue.Steps .startReturns queue) :
      WorkerSteps s []
        { s with
          queue
          workers := s.workers.set worker { credentialWorker with executor } }
  | expires {now : TimePoint} {job : CredentialQueue.Job} {due : List CredentialQueue.Job}
      {queue : CredentialQueue.Machine}
      (hpoint : s.queue.point = some (.callbacks now (job :: due)))
      (hqueue : s.queue.Steps .expire queue) :
      WorkerSteps s [] ({ s with queue }.push (.expiring job.id))
  -- the end of a request
  | expiring {id : Nat} {frames : List Frame} (hframes : s.frames = .expiring id :: frames)
      (hcaller : s.queue.CallerRuns) :
      WorkerSteps s [] (({ s with frames }.push .expired).finishCredentialRequest id)
  | expired {frames : List Frame} {queue : CredentialQueue.Machine}
      (hframes : s.frames = .expired :: frames) (hqueue : s.queue.Steps .expireReturns queue) :
      WorkerSteps s [] { s with frames, queue }
  | completing {id worker : Nat} {frames : List Frame} {now : TimePoint}
      {queue : CredentialQueue.Machine}
      (hframes : s.frames = .completing id worker :: frames)
      (hqueue : s.queue.Steps (.complete now worker) queue) :
      WorkerSteps s [] (({ s with frames, queue }.push .completed).finishCredentialRequest id)
  | drains {id : Nat} {frames : List Frame} {message : Json} {messages : List Json}
      (hframes : s.frames = .draining id :: frames) (hcaller : s.queue.CallerRuns)
      (hfree : (s.state id).credentialPending = false)
      (hdeferred : (s.state id).deferredMessages = message :: messages) :
      WorkerSteps s ((s.undefer id).dispatchMessage id message).2
        ((s.undefer id).dispatchMessage id message).1
  | drained {id : Nat} {frames : List Frame} (hframes : s.frames = .draining id :: frames)
      (hcaller : s.queue.CallerRuns)
      (hdone : (s.state id).credentialPending = true ∨ (s.state id).deferredMessages = []) :
      WorkerSteps s [] { s with frames }
  | completed {frames : List Frame} {queue : CredentialQueue.Machine} {now : TimePoint}
      (hframes : s.frames = .completed :: frames) (hcaller : s.queue.CallerRuns)
      (hqueue : if s.stopping then queue = s.queue else s.queue.Steps (.pump now) queue) :
      WorkerSteps s [] { s with frames, queue }

/-- The steps of the hashing threads, and the request to stop, which any thread may make. -/
inductive OtherSteps (s : Threads) : List Event → Threads → Prop where
  | takes {worker id : Nat} {credentialWorker : CredentialWorker} {executor : BoundedExecutor Nat}
      (hworker : s.workers[worker]? = some credentialWorker)
      (hidle : credentialWorker.running = none)
      (htake : credentialWorker.executor.take = some (id, executor)) :
      OtherSteps s []
        { s with workers := s.workers.set worker { executor, running := some id } }
  /-- A computation is over, or was skipped because the connection is dead. -/
  | submits {worker id : Nat} {credentialWorker : CredentialWorker}
      {application : BoundedExecutor ApplicationJob}
      (hworker : s.workers[worker]? = some credentialWorker)
      (hrunning : credentialWorker.running = some id)
      (hsubmit : s.application.submit (.complete id worker) true = (true, application)) :
      OtherSteps s []
        { s with
          application
          workers := s.workers.set worker { credentialWorker with running := none } }
  /-- `Stop`. -/
  | stops (hrunning : s.stopping = false) :
      OtherSteps s [] ({ s with stopping := true }.post .shutdown)

/-- The steps of any thread. -/
inductive Steps (s : Threads) : List Event → Threads → Prop where
  | network {es : List Event} {s' : Threads} (h : NetworkSteps s es s') : Steps s es s'
  | worker {es : List Event} {s' : Threads} (h : WorkerSteps s es s') : Steps s es s'
  | other {es : List Event} {s' : Threads} (h : OtherSteps s es s') : Steps s es s'

/-- How the server is configured. -/
structure Settings where
  maxConnections : Nat
  workers : Nat
  credentialCapacity : Nat
  sourceCapacity : Nat

/-- The server that `Run` starts. The file descriptors of the process may allow less connections than
were configured. -/
def system (settings : Settings) : System Threads (List Event) where
  start s := ∃ (queue : CredentialQueue) (maxConnections : Nat),
    CredentialQueue.create settings.workers settings.credentialCapacity settings.sourceCapacity =
      some queue ∧ maxConnections ≤ settings.maxConnections ∧
    s = {
      maxConnections
      queue := { queue }
      application :=
        { capacity := max 1024 settings.credentialCapacity
          reserve := settings.maxConnections + settings.workers + 4 }
      workers := List.replicate settings.workers {} }
  step := Steps

/-! ## What dispatching a message comes to -/

theorem requestBackpressureClose_eq (id : Nat) (s : Threads) :
    ∃ (posted : List Post) (connections : Finset Nat) (isPosted : Bool),
      s.requestBackpressureClose id = { s with
        posted := s.posted ++ posted
        backpressureConnections := connections
        backpressurePosted := isPosted } ∧ ∀ p ∈ posted, p = .closeOverloaded := by
  unfold requestBackpressureClose
  dsimp only
  split
  · split
    · exact ⟨[], insert id s.backpressureConnections, s.backpressurePosted, by simp, by simp⟩
    · exact ⟨[.closeOverloaded], _, _, rfl, by simp⟩
  · split
    · exact ⟨[], s.backpressureConnections, s.backpressurePosted, by simp, by simp⟩
    · exact ⟨[.closeOverloaded], _, _, rfl, by simp⟩

/-- What `DispatchMessage` does with a message: it is processed, deferred, or dropped for one of two
reasons. -/
theorem dispatchMessage_cases (id : Nat) (message : Json) (s : Threads) :
    ((s.state id).alive = true ∧ s.stopping = false ∧ (s.state id).credentialPending = false ∧
      s.dispatchMessage id message = (s.push (.processing id), [.processed id message])) ∨
    ((s.state id).alive = true ∧ s.stopping = false ∧ (s.state id).credentialPending = true ∧
      s.deferredMessageCount < 1024 ∧
      s.dispatchMessage id message =
        ({ s.withState id (fun c => { c with deferredMessages := c.deferredMessages ++ [message] })
            with deferredMessageCount := s.deferredMessageCount + 1 }, [])) ∨
    ((s.state id).credentialPending = true ∧ 1024 ≤ s.deferredMessageCount ∧
      s.dispatchMessage id message =
        ((s.release id).requestBackpressureClose id,
          [.overflowed id message, .closeRequested id])) ∨
    (((s.state id).alive = false ∨ s.stopping = true) ∧
      s.dispatchMessage id message = (s.release id, [.dropped id message])) := by
  unfold dispatchMessage
  cases halive : (s.state id).alive with
  | false => exact .inr (.inr (.inr ⟨.inl rfl, rfl⟩))
  | true =>
    cases hstopping : s.stopping with
    | true => exact .inr (.inr (.inr ⟨.inr rfl, rfl⟩))
    | false =>
      cases hpending : (s.state id).credentialPending with
      | false => exact .inl ⟨rfl, rfl, rfl, rfl⟩
      | true =>
        by_cases hfull : 1024 ≤ s.deferredMessageCount
        · exact .inr (.inr (.inl ⟨rfl, hfull, by simp [hfull]⟩))
        · exact .inr (.inl ⟨rfl, rfl, rfl, not_le.mp hfull, by simp [hfull]⟩)

end Threads

end CrossDesk.SignalServer
