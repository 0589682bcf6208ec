import CrossDesk.SignalServer.Threads

/-!
# Schedules

A schedule says whose turn it is: the network thread with something that happens on a connection, the
application worker, or a hashing thread. Each choice determines a step (`follow`), with the answer of
the token bucket where `Pump` asks for one. So a list of choices determines a run of the threads
(`steps_of_follow`), and what comes of it can be computed.

Nothing is chosen about refusals, about `Stop` and about posted functions.
-/

namespace CrossDesk.SignalServer

/-- Whose turn it is. -/
inductive Choice where
  -- the network thread
  | acceptNext
  | accepted
  | opened (id : Nat)
  | arrives (id : Nat) (message : Json)
  | submits
  | finished (id : Nat)
  -- the application worker: its next job, and what it is in the middle of
  | takesJob (now : TimePoint)
  | request (now now' : TimePoint) (job : CredentialQueue.Job)
  | pumps (delay : Nat)
  | goesOn (now : TimePoint)
  -- a hashing thread
  | takes (worker : Nat)
  | computed (worker : Nat)

namespace Threads

/-- A step of the network thread. -/
def followNetwork (s : Threads) : Choice → Option (List Event × Threads)
  | .acceptNext =>
    if s.arriving = none ∧ s.stopping = false ∧ s.acceptPending = false ∧
        s.connections.card + s.pendingCleanup < s.maxConnections then
      some ([], { s with acceptPending := true })
    else none
  | .accepted =>
    if s.arriving = none ∧ s.stopping = false ∧ s.acceptPending = true then
      some ([], { s with
        acceptPending := false
        nextConnectionId := s.nextConnectionId + 1
        connections := insert s.nextConnectionId s.connections
        state := Function.update s.state s.nextConnectionId {} })
    else none
  | .opened id =>
    if s.arriving = none ∧ id ∈ s.connections then
      some ([], s.withState id (fun c => { c with opened := true }))
    else none
  | .arrives id message =>
    if s.arriving = none ∧ id ∈ s.connections ∧ (s.state id).alive = true then
      some ([], { s.withState id (fun c => { c with pendingMessages := c.pendingMessages + 1 }) with
        arriving := some (id, message, (s.state id).pendingMessages) })
    else none
  | .submits =>
    match s.arriving with
    | none => none
    | some (id, message, count) =>
      match s.application.submit (.message id message) false with
      | (false, _) => none
      | (true, application) =>
        if count < 128 then some ([.accepted id message], { s with arriving := none, application })
        else none
  | .finished id =>
    if s.arriving = none ∧ id ∈ s.connections then
      (s.queueSessionCleanup id).map (fun s' =>
        ([], { s' with connections := s'.connections.erase id }))
    else none
  | _ => none

/-- The application worker takes its next job. -/
def followJob (s : Threads) (now : TimePoint) : Option (List Event × Threads) :=
  if s.frames = [] ∧ s.queue.point = none then
    match s.application.take with
    | none => none
    | some (.message id message, application) =>
      some (({ s with application }.dispatchMessage id message).2,
        ({ s with application }.dispatchMessage id message).1)
    | some (.cleanup id, application) =>
      (s.queue.follow (.cancel id)).map (fun queue =>
        (({ s with application, queue }.cleanup id).2, ({ s with application, queue }.cleanup id).1))
    | some (.complete id worker, application) =>
      some ([], { s with application }.push (.completing id worker))
    | some (.pump, application) =>
      if s.stopping = false then
        (s.queue.follow (.pump now)).map (fun queue => ([], { s with application, queue }))
      else some ([], { s with application })
    | some (_, application) => some ([], { s with application })
  else none

/-- A request is made while a message is being processed. -/
def followRequest (s : Threads) (now now' : TimePoint) (job : CredentialQueue.Job) :
    Option (List Event × Threads) :=
  match s.frames with
  | .processing id :: _ =>
    if s.stopping = false ∧ (s.state id).alive = true ∧ (s.state id).credentialPending = false ∧
        job.id = id ∧ s.queue.callerRuns = true then
      if (s.queue.queue.enqueue now job).1 = true then
        (s.queue.follow (.enqueue now job)).bind (fun accepted =>
          (accepted.follow (.pump now')).map (fun queue =>
            ([], { s.withState id (fun c => { c with credentialPending := true }) with queue })))
      else (s.queue.follow (.enqueue now job)).map (fun queue => ([], { s with queue }))
    else none
  | _ => none

/-- A step of `Pump` that only concerns the queue. -/
def followQueue (s : Threads) (l : CredentialQueue.Label) : Option (List Event × Threads) :=
  (s.queue.follow l).map (fun queue => ([], { s with queue }))

/-- A step of `Pump`. -/
def followPump (s : Threads) (delay : Nat) : Option (List Event × Threads) :=
  match s.queue.point with
  | none => none
  | some (.callbacks _ (job :: _)) =>
    (s.queue.follow .expire).map (fun queue => ([], { s with queue }.push (.expiring job.id)))
  | some (.starting _ worker job) =>
    match s.workers[worker]? with
    | none => none
    | some credentialWorker =>
      match credentialWorker.executor.submit job.id false with
      | (false, _) => none
      | (true, executor) =>
        (s.queue.follow .startReturns).map (fun queue =>
          ([], { s with
            queue
            workers := s.workers.set worker { credentialWorker with executor } }))
  | some (.jobs _ _ key index) =>
    match s.queue.queue.sources[key]? with
    | none => none
    | some source =>
      match source.waiting[index]? with
      | none => s.followQueue .silent
      | some job => s.followQueue (.alive ((s.state job.id).alive && !s.stopping))
  | some (.asking _ _ _ _) => s.followQueue (.asked delay)
  | some _ => s.followQueue .silent

/-- The application worker goes on with what it is in the middle of. -/
def followFrame (s : Threads) (now : TimePoint) : Option (List Event × Threads) :=
  match s.frames with
  | [] => none
  | .processing id :: frames =>
    if s.queue.callerRuns then some ([], { s with frames }.release id) else none
  | .expiring id :: frames =>
    if s.queue.callerRuns then some ([], ({ s with frames }.push .expired).finishCredentialRequest id)
    else none
  | .expired :: frames =>
    (s.queue.follow .expireReturns).map (fun queue => ([], { s with frames, queue }))
  | .completing id worker :: frames =>
    (s.queue.follow (.complete now worker)).map (fun queue =>
      ([], ({ s with frames, queue }.push .completed).finishCredentialRequest id))
  | .draining id :: frames =>
    if s.queue.callerRuns then
      if (s.state id).credentialPending = true then some ([], { s with frames })
      else
        match (s.state id).deferredMessages with
        | [] => some ([], { s with frames })
        | message :: _ =>
          some (((s.undefer id).dispatchMessage id message).2,
            ((s.undefer id).dispatchMessage id message).1)
    else none
  | .completed :: frames =>
    if s.queue.callerRuns then
      if s.stopping then some ([], { s with frames, queue := s.queue })
      else (s.queue.follow (.pump now)).map (fun queue => ([], { s with frames, queue }))
    else none

/-- A step of a hashing thread. -/
def followWorker (s : Threads) (worker : Nat) (computed : Bool) : Option (List Event × Threads) :=
  match s.workers[worker]? with
  | none => none
  | some credentialWorker =>
    match computed, credentialWorker.running with
    | false, none =>
      (credentialWorker.executor.take).map (fun (id, executor) =>
        ([], { s with workers := s.workers.set worker { executor, running := some id } }))
    | true, some id =>
      match s.application.submit (.complete id worker) true with
      | (false, _) => none
      | (true, application) =>
        some ([], { s with
          application
          workers := s.workers.set worker { credentialWorker with running := none } })
    | _, _ => none

/-- The step of a choice. -/
def follow (s : Threads) (choice : Choice) : Option (List Event × Threads) :=
  match choice with
  | .takesJob now => s.followJob now
  | .request now now' job => s.followRequest now now' job
  | .pumps delay => s.followPump delay
  | .goesOn now => s.followFrame now
  | .takes worker => s.followWorker worker false
  | .computed worker => s.followWorker worker true
  | event => s.followNetwork event

/-! ## What is followed is a step -/

variable {s s' : Threads} {es : List Event} {now : TimePoint}

open CredentialQueue (Machine)
open CredentialQueue.Machine (callerRuns_iff steps_of_follow)

theorem steps_of_followNetwork {choice : Choice} (h : s.followNetwork choice = some (es, s')) :
    NetworkSteps s es s' := by
  cases choice with
  | acceptNext =>
    simp only [followNetwork] at h
    split at h
    case isTrue hready =>
      cases h
      exact .acceptNext hready.1 hready.2.1 hready.2.2.1 hready.2.2.2
    case isFalse => cases h
  | accepted =>
    simp only [followNetwork] at h
    split at h
    case isTrue hready =>
      cases h
      exact .accepted hready.1 hready.2.1 hready.2.2
    case isFalse => cases h
  | opened id =>
    simp only [followNetwork] at h
    split at h
    case isTrue hready =>
      cases h
      exact .opened hready.1 hready.2
    case isFalse => cases h
  | arrives id message =>
    simp only [followNetwork] at h
    split at h
    case isTrue hready =>
      cases h
      exact .arrives hready.1 hready.2.1 hready.2.2
    case isFalse => cases h
  | submits =>
    simp only [followNetwork] at h
    split at h
    case h_1 => cases h
    case h_2 id message count harriving =>
      split at h
      case h_1 => cases h
      case h_2 application hsubmit =>
        split at h
        case isTrue hcount =>
          cases h
          exact .submits harriving hcount hsubmit
        case isFalse => cases h
  | finished id =>
    simp only [followNetwork] at h
    split at h
    case isTrue hready =>
      obtain ⟨s₁, hcleanup, heq⟩ := Option.map_eq_some_iff.mp h
      cases heq
      exact .finished hready.1 hready.2 hcleanup
    case isFalse => cases h
  -- The other choices are not the network's.
  | takesJob => cases h
  | request => cases h
  | pumps => cases h
  | goesOn => cases h
  | takes => cases h
  | computed => cases h

theorem steps_of_followJob (h : s.followJob now = some (es, s')) : WorkerSteps s es s' := by
  unfold followJob at h
  split at h
  case isFalse => cases h
  case isTrue hidle =>
    split at h
    case h_1 => cases h
    case h_2 id message application htake =>
      cases h
      exact .message hidle htake
    case h_3 id application htake =>
      obtain ⟨queue, hfollow, heq⟩ := Option.map_eq_some_iff.mp h
      cases heq
      exact .cleanup hidle htake (steps_of_follow hfollow)
    case h_4 id worker application htake =>
      cases h
      exact .complete hidle htake
    case h_5 application htake =>
      split at h
      case isTrue hrunning =>
        obtain ⟨queue, hfollow, heq⟩ := Option.map_eq_some_iff.mp h
        cases heq
        exact .pumps hidle htake hrunning (steps_of_follow hfollow)
      case isFalse hstopping =>
        cases h
        exact .other hidle htake (.inr (.inr (.inr ⟨rfl, Bool.eq_true_of_not_eq_false hstopping⟩)))
    case h_6 job application hmessage hcleanup hcomplete hpump htake =>
      cases h
      refine .other hidle htake ?_
      cases job with
      | message id message => exact absurd rfl (hmessage id message)
      | cleanup id => exact absurd rfl (hcleanup id)
      | complete id worker => exact absurd rfl (hcomplete id worker)
      | pump => exact absurd rfl hpump
      | prune => exact .inl rfl
      | heartbeat => exact .inr (.inl rfl)
      | ordinary => exact .inr (.inr (.inl rfl))

theorem steps_of_followRequest {now' : TimePoint} {job : CredentialQueue.Job}
    (h : s.followRequest now now' job = some (es, s')) : WorkerSteps s es s' := by
  unfold followRequest at h
  split at h
  case h_2 => cases h
  case h_1 id frames hframes =>
    split at h
    case isFalse => cases h
    case isTrue hready =>
      obtain ⟨hrunning, halive, hfree, hjob, hcaller⟩ := hready
      have hcaller := callerRuns_iff.mp hcaller
      cases henqueue : s.queue.queue.enqueue now job with
      | mk accepted enqueued =>
        rw [henqueue] at h
        cases accepted with
        | true =>
          obtain ⟨accepted, haccept, h⟩ := Option.bind_eq_some_iff.mp h
          obtain ⟨queue, hpump, heq⟩ := Option.map_eq_some_iff.mp h
          cases heq
          exact .submits hframes hrunning halive hfree hjob hcaller henqueue (steps_of_follow haccept)
            (steps_of_follow hpump)
        | false =>
          obtain ⟨queue, hreject, heq⟩ := Option.map_eq_some_iff.mp h
          cases heq
          exact .rejected hframes hrunning halive hfree hjob hcaller henqueue (steps_of_follow hreject)

theorem steps_of_followQueue {l : CredentialQueue.Label} (hanswers : s.Answers l)
    (h : s.followQueue l = some (es, s')) : WorkerSteps s es s' := by
  obtain ⟨queue, hfollow, heq⟩ := Option.map_eq_some_iff.mp h
  cases heq
  exact .queue hanswers (steps_of_follow hfollow)

theorem steps_of_followPump {delay : Nat} (h : s.followPump delay = some (es, s')) :
    WorkerSteps s es s' := by
  unfold followPump at h
  split at h
  case h_1 => cases h
  case h_2 now job due hpoint =>
    obtain ⟨queue, hfollow, heq⟩ := Option.map_eq_some_iff.mp h
    cases heq
    exact .expires hpoint (steps_of_follow hfollow)
  case h_3 now worker job hpoint =>
    split at h
    case h_1 => cases h
    case h_2 credentialWorker hworker =>
      split at h
      case h_1 => cases h
      case h_2 executor hsubmit =>
        obtain ⟨queue, hfollow, heq⟩ := Option.map_eq_some_iff.mp h
        cases heq
        exact .starts hpoint hworker hsubmit (steps_of_follow hfollow)
  case h_4 now due key index hpoint =>
    split at h
    case h_1 => cases h
    case h_2 source hsource =>
      split at h
      case h_1 => exact @steps_of_followQueue _ _ _ .silent trivial h
      case h_2 job hjob =>
        refine steps_of_followQueue ?_ h
        -- the answer is about the job that `Pump` stands at
        intro _ _ _ _ source' job' hpoint' hsource' hjob'
        rw [hpoint] at hpoint'
        cases hpoint'
        rw [hsource] at hsource'
        cases hsource'
        rw [hjob] at hjob'
        cases hjob'
        rfl
  case h_5 => exact @steps_of_followQueue _ _ _ (.asked delay) trivial h
  case h_6 => exact @steps_of_followQueue _ _ _ .silent trivial h

theorem steps_of_followFrame (h : s.followFrame now = some (es, s')) : WorkerSteps s es s' := by
  unfold followFrame at h
  split at h
  case h_1 => cases h
  case h_2 id frames hframes =>
    split at h
    case isTrue hcaller =>
      cases h
      exact .processed hframes (callerRuns_iff.mp hcaller)
    case isFalse => cases h
  case h_3 id frames hframes =>
    split at h
    case isTrue hcaller =>
      cases h
      exact .expiring hframes (callerRuns_iff.mp hcaller)
    case isFalse => cases h
  case h_4 frames hframes =>
    obtain ⟨queue, hfollow, heq⟩ := Option.map_eq_some_iff.mp h
    cases heq
    exact .expired hframes (steps_of_follow hfollow)
  case h_5 id worker frames hframes =>
    obtain ⟨queue, hfollow, heq⟩ := Option.map_eq_some_iff.mp h
    cases heq
    exact .completing hframes (steps_of_follow hfollow)
  case h_6 id frames hframes =>
    split at h
    case isFalse => cases h
    case isTrue hcaller =>
      have hcaller := callerRuns_iff.mp hcaller
      split at h
      case isTrue hpending =>
        cases h
        exact .drained hframes hcaller (.inl hpending)
      case isFalse hfree =>
        split at h
        case h_1 hnone =>
          cases h
          exact .drained hframes hcaller (.inr hnone)
        case h_2 message messages hdeferred =>
          cases h
          exact .drains hframes hcaller (Bool.eq_false_of_not_eq_true hfree) hdeferred
  case h_7 frames hframes =>
    split at h
    case isFalse => cases h
    case isTrue hcaller =>
      have hcaller := callerRuns_iff.mp hcaller
      split at h
      case isTrue hstopping =>
        cases h
        exact @WorkerSteps.completed s frames _ now hframes hcaller (by rw [if_pos hstopping])
      case isFalse hrunning =>
        obtain ⟨queue, hfollow, heq⟩ := Option.map_eq_some_iff.mp h
        cases heq
        refine @WorkerSteps.completed s frames _ now hframes hcaller ?_
        rw [if_neg hrunning]
        exact steps_of_follow hfollow

theorem steps_of_followWorker {worker : Nat} {computed : Bool}
    (h : s.followWorker worker computed = some (es, s')) : OtherSteps s es s' := by
  unfold followWorker at h
  split at h
  case h_1 => cases h
  case h_2 credentialWorker hworker =>
    split at h
    case h_1 hidle =>
      obtain ⟨⟨id, executor⟩, htake, heq⟩ := Option.map_eq_some_iff.mp h
      cases heq
      exact .takes hworker hidle htake
    case h_2 id hrunning =>
      split at h
      case h_1 => cases h
      case h_2 application hsubmit =>
        cases h
        exact .submits hworker hrunning hsubmit
    case h_3 => cases h

/-- **What is followed is a step of the threads.** -/
theorem steps_of_follow (s : Threads) (choice : Choice) (es : List Event) (s' : Threads)
    (h : s.follow choice = some (es, s')) : Steps s es s' := by
  cases choice with
  | takesJob now => exact .worker (steps_of_followJob h)
  | request now now' job => exact .worker (steps_of_followRequest h)
  | pumps delay => exact .worker (steps_of_followPump h)
  | goesOn now => exact .worker (steps_of_followFrame h)
  | takes worker => exact .other (steps_of_followWorker h)
  | computed worker => exact .other (steps_of_followWorker h)
  | acceptNext => exact .network (@steps_of_followNetwork s s' es .acceptNext h)
  | accepted => exact .network (@steps_of_followNetwork s s' es .accepted h)
  | opened id => exact .network (@steps_of_followNetwork s s' es (.opened id) h)
  | arrives id message => exact .network (@steps_of_followNetwork s s' es (.arrives id message) h)
  | submits => exact .network (@steps_of_followNetwork s s' es .submits h)
  | finished id => exact .network (@steps_of_followNetwork s s' es (.finished id) h)

/-- A run follows the choices. -/
theorem run_of_play {settings : Settings} {first : Threads} {choices : List Choice}
    {ts : List (System.Transition Threads (List Event))} (hstart : (system settings).start first)
    (h : System.play follow first choices = some (ts, s)) :
    System.Run (system settings) (ts.map System.Transition.label) s := by
  have hpath : (system settings).Path first ts s := System.path_of_play steps_of_follow h
  exact hpath.run (.start hstart)

/-! ## A request -/

/-- A server with two connections and one hashing thread, as it starts. -/
def started : Threads where
  maxConnections := 2
  queue := { queue := { capacity := 8, sourceCapacity := 8, running := [none] } }
  application := { capacity := 1024, reserve := 7 }
  workers := [{}]

theorem started_start : (system ⟨2, 1, 8, 8⟩).start started := ⟨_, 2, rfl, le_rfl, rfl⟩

/-- A connection opens, and its first message makes a request. `Pump` is about to start it. -/
def requestStarting : List Choice :=
  [.acceptNext, .accepted, .opened 1, .arrives 1 (.int 1), .submits, .takesJob 0,
    .request 0 0 { id := 1, source := "10.0.0.1", deadline := 100 }] ++ List.replicate 8 (.pumps 0)

/-- The second message is deferred, the password is computed, and the third message waits while the
worker hears of it. -/
def requestCompleting : List Choice :=
  [.pumps 0, .pumps 0, .arrives 1 (.int 2), .submits, .goesOn 0, .takesJob 1, .takes 0, .computed 0,
    .arrives 1 (.int 3), .submits, .takesJob 2]

end Threads

end CrossDesk.SignalServer
