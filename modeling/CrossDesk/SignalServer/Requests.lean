import CrossDesk.CredentialQueue.Requests
import CrossDesk.SignalServer.Closing

/-!
# Requests in the credential queue

A connection has at most one request under way, and `credential_pending` is set as long as it has one:
while its job waits or runs, and while it is about to be told that the job expired
(`Requested.places`). A hashing worker works for the queue, and for nobody else: from the moment it is
given a computation until the worker of the application completes it, exactly one of the places where
the computation may be holds it (`Requested.held`).

All this is kept by every step of any thread, whatever the queue decides. The queue itself runs as it
does on its own (`Requested.machine`), so what is proved of its runs holds here.
-/

namespace CrossDesk.SignalServer

open CredentialQueue (Machine)

/-- The connection that a job is about, as long as only its message or its socket is concerned. -/
def ApplicationJob.connection : ApplicationJob → Option Nat
  | message id _ | cleanup id => some id
  | _ => none

/-- The job is the end of the computation of a worker. -/
def ApplicationJob.isCompletion (id worker : Nat) : ApplicationJob → Bool
  | complete id' worker' => id' == id && worker' == worker
  | _ => false

/-- The connection whose messages are handled. -/
def Frame.connection : Frame → Option Nat
  | processing id | draining id => some id
  | _ => none

/-- The worker is about to end a request. -/
def Frame.endsRequest : Frame → Bool
  | expiring _ | completing _ _ => true
  | _ => false

namespace Threads

variable {s s' : Threads} {es : List Event} {id worker : Nat}

/-! ## Ids -/

/-- The ids that are in use were given out. -/
structure Known (s : Threads) : Prop where
  fresh : ∀ id, s.nextConnectionId ≤ id → s.state id = {}
  connections : ∀ id ∈ s.connections, id < s.nextConnectionId
  arriving : ∀ (id : Nat) (message : Json) (count : Nat), s.arriving = some (id, message, count) →
    id < s.nextConnectionId
  jobs : ∀ job ∈ s.application.jobs, ∀ id, job.connection = some id → id < s.nextConnectionId
  frames : ∀ frame ∈ s.frames, ∀ id, frame.connection = some id → id < s.nextConnectionId

theorem Known.closes (h : Known s) (hcloses : Closes s s') : Known s' := by
  obtain ⟨ids, hids, happlication, -, -⟩ := hcloses.cleanups
  have hrest := hcloses.rest
  refine ⟨?_, ?_, ?_, ?_, ?_⟩
  · intro id hid
    rw [hrest] at hid
    have hout : id ∉ s.connections := fun hmem => absurd (h.connections id hmem) (not_lt.mpr hid)
    rw [hcloses.outside id hout]
    exact h.fresh id hid
  · rw [hrest]
    exact h.connections
  · rw [hrest]
    exact h.arriving
  · intro job hjob id hid
    rw [happlication] at hjob
    rw [hrest]
    rcases List.mem_append.mp hjob with hjob | hjob
    · exact h.jobs job hjob id hid
    · obtain ⟨id', hid', rfl⟩ := List.mem_map.mp hjob
      cases hid
      exact h.connections id (hids id hid').1
  · rw [hrest]
    exact h.frames

/-- A change to what is shared of a connection that is known. -/
theorem Known.withState (h : Known s) (hid : id < s.nextConnectionId)
    (f : ConnectionState → ConnectionState) : Known (s.withState id f) where
  fresh id' hid' := by
    have hne : id' ≠ id := by
      rintro rfl
      exact absurd hid (not_lt.mpr hid')
    simp only [withState_state, Function.update_of_ne hne]
    exact h.fresh id' hid'
  connections := h.connections
  arriving := h.arriving
  jobs := h.jobs
  frames := h.frames

/-! ## The network thread leaves the requests alone -/

/-- What the network thread does not touch. -/
structure Leaves (s s' : Threads) : Prop where
  frames : s'.frames = s.frames
  queue : s'.queue = s.queue
  workers : s'.workers = s.workers
  deferredMessageCount : s'.deferredMessageCount = s.deferredMessageCount
  pending : ∀ id, (s'.state id).credentialPending = (s.state id).credentialPending ∧
    (s'.state id).deferredMessages = (s.state id).deferredMessages
  jobs : ∃ added : List ApplicationJob, s'.application.jobs = s.application.jobs ++ added ∧
    ∀ job ∈ added, ∀ id worker, job.isCompletion id worker = false

theorem Closes.leaves (h : Closes s s') : Leaves s s' := by
  obtain ⟨ids, -, happlication, -, -⟩ := h.cleanups
  have hrest := h.rest
  refine ⟨by rw [hrest], by rw [hrest], by rw [hrest], by rw [hrest], fun id => ?_, ?_⟩
  · rw [(h.states id).1]
    exact ⟨rfl, rfl⟩
  · refine ⟨ids.map .cleanup, by rw [happlication], ?_⟩
    intro job hjob
    obtain ⟨id, -, rfl⟩ := List.mem_map.mp hjob
    exact fun _ _ => rfl

theorem Leaves.trans {s'' : Threads} (h : Leaves s s') (h' : Leaves s' s'') : Leaves s s'' := by
  obtain ⟨added, hadded, hkind⟩ := h.jobs
  obtain ⟨added', hadded', hkind'⟩ := h'.jobs
  refine ⟨h'.frames.trans h.frames, h'.queue.trans h.queue, h'.workers.trans h.workers,
    h'.deferredMessageCount.trans h.deferredMessageCount,
    fun id => ⟨(h'.pending id).1.trans (h.pending id).1, (h'.pending id).2.trans (h.pending id).2⟩,
    added ++ added', by rw [hadded', hadded, List.append_assoc], ?_⟩
  intro job hjob
  rcases List.mem_append.mp hjob with hjob | hjob
  · exact hkind job hjob
  · exact hkind' job hjob

/-- A job was submitted. -/
theorem leaves_submit {job : ApplicationJob} {lifecycle : Bool}
    (hkind : ∀ id worker, job.isCompletion id worker = false) :
    Leaves s { s with application := (s.application.submit job lifecycle).2 } := by
  refine ⟨rfl, rfl, rfl, rfl, fun _ => ⟨rfl, rfl⟩, ?_⟩
  rcases hsubmit : s.application.submit job lifecycle with ⟨ok, application⟩
  cases ok with
  | false => exact ⟨[], by rw [BoundedExecutor.submit_false hsubmit]; simp, by simp⟩
  | true =>
    refine ⟨[job], by rw [(BoundedExecutor.submit_true hsubmit).1], ?_⟩
    intro job' hjob'
    rw [List.mem_singleton.mp hjob']
    exact hkind

/-- A change of a connection that its requests do not depend on. -/
theorem leaves_withState {f : ConnectionState → ConnectionState}
    (hf : ∀ c, (f c).credentialPending = c.credentialPending ∧
      (f c).deferredMessages = c.deferredMessages) : Leaves s (s.withState id f) := by
  refine ⟨rfl, rfl, rfl, rfl, fun id' => ?_, [], by simp, by simp⟩
  by_cases hsame : id' = id
  · subst hsame
    simpa using hf _
  · simp [hsame]

/-- The requests are left alone, and known ids stay known. -/
theorem network_step (h : Known s) (hstep : NetworkSteps s es s') : Leaves s s' ∧ Known s' := by
  -- a job that was submitted is about no connection, or about one that is known
  have hsubmitted : ∀ {job : ApplicationJob} {lifecycle : Bool},
      (∀ id, job.connection = some id → id < s.nextConnectionId) →
      Known { s with application := (s.application.submit job lifecycle).2 } := by
    intro job lifecycle hjob
    refine ⟨h.fresh, h.connections, h.arriving, ?_, h.frames⟩
    rcases hsubmit : s.application.submit job lifecycle with ⟨ok, application⟩
    cases ok with
    | false =>
      rw [BoundedExecutor.submit_false hsubmit]
      exact h.jobs
    | true =>
      rw [(BoundedExecutor.submit_true hsubmit).1]
      intro job' hjob'
      rcases List.mem_append.mp hjob' with hjob' | hjob'
      · exact h.jobs job' hjob'
      · rw [List.mem_singleton.mp hjob']
        exact hjob
  cases hstep with
  | acceptNext =>
    exact ⟨⟨rfl, rfl, rfl, rfl, fun _ => ⟨rfl, rfl⟩, [], by simp, by simp⟩,
      ⟨h.fresh, h.connections, h.arriving, h.jobs, h.frames⟩⟩
  | accepted =>
    have hnew : Function.update s.state s.nextConnectionId {} = s.state :=
      Function.update_eq_iff.mpr ⟨(h.fresh _ le_rfl).symm, fun _ _ => rfl⟩
    rw [hnew]
    refine ⟨⟨rfl, rfl, rfl, rfl, fun _ => ⟨rfl, rfl⟩, [], by simp, by simp⟩, ?_⟩
    refine ⟨fun id hid => h.fresh id (Nat.le_of_succ_le hid), fun id hid => ?_,
      fun id message count hid => Nat.lt_succ_of_lt (h.arriving id message count hid),
      fun job hjob id hid => Nat.lt_succ_of_lt (h.jobs job hjob id hid),
      fun frame hframe id hid => Nat.lt_succ_of_lt (h.frames frame hframe id hid)⟩
    rcases Finset.mem_insert.mp hid with rfl | hid
    · exact Nat.lt_succ_self _
    · exact Nat.lt_succ_of_lt (h.connections id hid)
  | acceptFailed =>
    exact ⟨⟨rfl, rfl, rfl, rfl, fun _ => ⟨rfl, rfl⟩, [], by simp, by simp⟩,
      ⟨h.fresh, h.connections, h.arriving, h.jobs, h.frames⟩⟩
  | opened harriving hid =>
    exact ⟨leaves_withState fun _ => ⟨rfl, rfl⟩, h.withState (h.connections _ hid) _⟩
  | closed harriving hid hclose =>
    exact ⟨(closeConnection_closes hclose).leaves, h.closes (closeConnection_closes hclose)⟩
  | finished harriving hid hcleanup =>
    have hcloses := (queueSessionCleanup_closes hid hcleanup).1
    have hleft := hcloses.leaves
    have hknown := h.closes hcloses
    exact ⟨⟨hleft.frames, hleft.queue, hleft.workers, hleft.deferredMessageCount, hleft.pending,
      hleft.jobs⟩, ⟨hknown.fresh, fun id hid => hknown.connections id (Finset.mem_of_mem_erase hid),
      hknown.arriving, hknown.jobs, hknown.frames⟩⟩
  | @arrives id message harriving hid halive =>
    have hleft : Leaves s (s.withState id (fun c => { c with pendingMessages := c.pendingMessages + 1 })) :=
      leaves_withState fun _ => ⟨rfl, rfl⟩
    have hknown := h.withState (h.connections _ hid)
      (fun c => { c with pendingMessages := c.pendingMessages + 1 })
    refine ⟨⟨rfl, rfl, rfl, rfl, hleft.pending, hleft.jobs⟩,
      ⟨hknown.fresh, h.connections, fun id message count heq => ?_, h.jobs, h.frames⟩⟩
    cases heq
    exact h.connections _ hid
  | @submits id count message application harriving hcount hsubmit =>
    obtain rfl := (congrArg Prod.snd hsubmit).symm
    have hleft := @leaves_submit s (.message id message) false (fun _ _ => rfl)
    have hknown := @hsubmitted (.message id message) false
      (fun id' hid' => by cases hid'; exact h.arriving _ _ _ harriving)
    exact ⟨⟨rfl, rfl, rfl, rfl, fun _ => ⟨rfl, rfl⟩, hleft.jobs⟩,
      ⟨h.fresh, h.connections, nofun, hknown.jobs, h.frames⟩⟩
  | @refuses id count message s' harriving hrefused hclose =>
    have hleft : Leaves s ({ s.release id with arriving := none } : Threads) := by
      have hreleased : Leaves s (s.release id) := leaves_withState fun _ => ⟨rfl, rfl⟩
      exact ⟨rfl, rfl, rfl, rfl, hreleased.pending, hreleased.jobs⟩
    have hknown : Known ({ s.release id with arriving := none } : Threads) := by
      have hreleased := h.withState (h.arriving id message count harriving)
        (fun c => { c with pendingMessages := c.pendingMessages - 1 })
      exact ⟨hreleased.fresh, h.connections, nofun, h.jobs, h.frames⟩
    exact ⟨hleft.trans (closeConnection_closes hclose).leaves,
      hknown.closes (closeConnection_closes hclose)⟩
  | ordinary harriving hjob =>
    rcases hjob with rfl | rfl
    · exact ⟨leaves_submit fun _ _ => rfl, hsubmitted fun _ => nofun⟩
    · exact ⟨leaves_submit fun _ _ => rfl, hsubmitted fun _ => nofun⟩
  | prunes harriving hrunning hfirst hsubmit =>
    obtain rfl := (congrArg Prod.snd hsubmit).symm
    have hleft := @leaves_submit s .prune true (fun _ _ => rfl)
    have hknown := @hsubmitted .prune true (fun _ => nofun)
    exact ⟨⟨rfl, rfl, rfl, rfl, fun _ => ⟨rfl, rfl⟩, hleft.jobs⟩,
      ⟨h.fresh, h.connections, h.arriving, hknown.jobs, h.frames⟩⟩
  | @runsPost p posted s' harriving hposted hrun =>
    cases p with
    | cleanupDone =>
      cases hrun
      exact ⟨⟨rfl, rfl, rfl, rfl, fun _ => ⟨rfl, rfl⟩, [], by simp, by simp⟩,
        ⟨h.fresh, h.connections, h.arriving, h.jobs, h.frames⟩⟩
    | shutdown =>
      have hleft := @leaves_submit s .heartbeat true (fun _ _ => rfl)
      have hknown := @hsubmitted .heartbeat true (fun _ => nofun)
      have hfirst : Leaves s
          { s with posted, application := (s.application.submit .heartbeat true).2 } :=
        ⟨rfl, rfl, rfl, rfl, fun _ => ⟨rfl, rfl⟩, hleft.jobs⟩
      have hmid : Known { s with posted, application := (s.application.submit .heartbeat true).2 } :=
        ⟨h.fresh, h.connections, h.arriving, hknown.jobs, h.frames⟩
      have hcloses := closeAll_closes hrun
      exact ⟨hfirst.trans hcloses.leaves, hmid.closes hcloses⟩
    | closeOverloaded =>
      have hfirst : Leaves s
          { s with posted, backpressureConnections := ∅, backpressurePosted := false } :=
        ⟨rfl, rfl, rfl, rfl, fun _ => ⟨rfl, rfl⟩, [], by simp, by simp⟩
      have hmid : Known
          { s with posted, backpressureConnections := ∅, backpressurePosted := false } :=
        ⟨h.fresh, h.connections, h.arriving, h.jobs, h.frames⟩
      have hcloses := closeAll_closes hrun
      exact ⟨hfirst.trans hcloses.leaves, hmid.closes hcloses⟩

/-! ## The invariant -/

/-- The computations of a connection that a hashing thread has. -/
def held (id worker : Nat) (s : Threads) : Nat :=
  ((s.workers[worker]?).elim 0 (fun w =>
    w.executor.jobs.count id + if w.running = some id then 1 else 0)) +
  s.application.jobs.countP (ApplicationJob.isCompletion id worker) +
  s.frames.count (.completing id worker)

/-- The requests of a connection that are under way. -/
def places (id : Nat) (s : Threads) : Nat :=
  s.queue.requests id + s.frames.count (.expiring id)

/-- The invariant. -/
structure Requested (settings : Settings) (s : Threads) : Prop where
  machine : (Machine.system settings.workers settings.credentialCapacity
    settings.sourceCapacity).Reachable s.queue
  started : s.queue.Started
  known : Known s
  places : ∀ id, s.places id ≤ if (s.state id).credentialPending then 1 else 0
  held : ∀ id worker, s.held id worker = if s.queue.owed worker = some id then 1 else 0
  executors : s.workers.length = settings.workers ∧ ∀ w ∈ s.workers,
    w.executor.capacity = 1 ∧ w.executor.reserve = 0 ∧ w.executor.stopping = false

namespace Requested

variable {settings : Settings}

theorem sound (h : Requested settings s) : CredentialQueue.Sound settings.workers
    settings.credentialCapacity settings.sourceCapacity s.queue :=
  CredentialQueue.Sound.reachable h.machine

/-- A connection with a pending request is known. -/
theorem lt_of_pending (h : Requested settings s) (hpending : (s.state id).credentialPending = true) :
    id < s.nextConnectionId := by
  by_contra hnew
  rw [h.known.fresh id (not_lt.mp hnew)] at hpending
  cases hpending

theorem pending_of_places (h : Requested settings s) (hplaces : 0 < s.places id) :
    (s.state id).credentialPending = true := by
  have hle := h.places id
  cases hpending : (s.state id).credentialPending with
  | true => rfl
  | false =>
    rw [hpending] at hle
    simp only [Bool.false_eq_true, if_false] at hle
    omega

/-- Where nothing about requests changes, except that the queue may have dropped some. -/
theorem keep (h : Requested settings s)
    (hmachine : (Machine.system settings.workers settings.credentialCapacity
      settings.sourceCapacity).Reachable s'.queue)
    (hstarted : s'.queue.Started)
    (hrequests : ∀ id, s'.queue.requests id ≤ s.queue.requests id)
    (howed : ∀ worker, s'.queue.owed worker = s.queue.owed worker)
    (hframes : ∀ frame, frame.endsRequest = true → s'.frames.count frame = s.frames.count frame)
    (hjobs : ∀ id worker, s'.application.jobs.countP (ApplicationJob.isCompletion id worker) =
      s.application.jobs.countP (ApplicationJob.isCompletion id worker))
    (hworkers : s'.workers = s.workers)
    (hpending : ∀ id, (s'.state id).credentialPending = (s.state id).credentialPending)
    (hknown : Known s') : Requested settings s' where
  machine := hmachine
  started := hstarted
  known := hknown
  places id := by
    have hle := h.places id
    have hfewer := hrequests id
    unfold Threads.places at hle ⊢
    rw [hpending, hframes _ rfl]
    omega
  held id worker := by
    rw [howed, ← h.held id worker]
    unfold Threads.held
    rw [hworkers, hjobs, hframes _ rfl]
  executors := hworkers ▸ h.executors

/-- Where nothing about requests changes. -/
theorem same (h : Requested settings s) (hqueue : s'.queue = s.queue)
    (hframes : ∀ frame, frame.endsRequest = true → s'.frames.count frame = s.frames.count frame)
    (hjobs : ∀ id worker, s'.application.jobs.countP (ApplicationJob.isCompletion id worker) =
      s.application.jobs.countP (ApplicationJob.isCompletion id worker))
    (hworkers : s'.workers = s.workers)
    (hpending : ∀ id, (s'.state id).credentialPending = (s.state id).credentialPending)
    (hknown : Known s') : Requested settings s' :=
  h.keep (hqueue ▸ h.machine) (hqueue ▸ h.started) (fun _ => (hqueue ▸ rfl : _ = _).le)
    (fun _ => hqueue ▸ rfl) hframes hjobs hworkers hpending hknown

theorem networkStep (h : Requested settings s) (hstep : NetworkSteps s es s') :
    Requested settings s' := by
  obtain ⟨hleaves, hknown⟩ := network_step h.known hstep
  obtain ⟨added, hadded, hkind⟩ := hleaves.jobs
  refine h.same hleaves.queue (fun _ _ => by rw [hleaves.frames]) (fun id worker => ?_)
    hleaves.workers (fun id => (hleaves.pending id).1) hknown
  have hnone : added.countP (ApplicationJob.isCompletion id worker) = 0 :=
    List.countP_eq_zero.mpr fun job hjob => by simp [hkind job hjob id worker]
  rw [hadded, List.countP_append, hnone, Nat.add_zero]

/-! ### Messages -/

/-- `DispatchMessage` leaves the requests alone. -/
theorem dispatch (h : Requested settings s) (hid : id < s.nextConnectionId) (message : Json) :
    Requested settings (s.dispatchMessage id message).1 := by
  have hknown := h.known
  have hreleased : Leaves s (s.release id) := leaves_withState fun _ => ⟨rfl, rfl⟩
  have hknown' : Known (s.release id) := hknown.withState hid _
  rcases dispatchMessage_cases id message s with
    ⟨-, -, -, hcase⟩ | ⟨-, -, -, -, hcase⟩ | ⟨-, -, hcase⟩ | ⟨-, hcase⟩
  · rw [hcase]
    refine h.same rfl (fun frame hframe => ?_) (fun _ _ => rfl) rfl (fun _ => rfl) ?_
    · refine List.count_cons_of_ne ?_
      rintro rfl
      cases hframe
    · refine ⟨hknown.fresh, hknown.connections, hknown.arriving, hknown.jobs, ?_⟩
      intro frame hframe id' hid'
      rcases List.mem_cons.mp hframe with rfl | hframe
      · cases hid'
        exact hid
      · exact hknown.frames frame hframe id' hid'
  · rw [hcase]
    have hknown' := hknown.withState hid
      (fun c => { c with deferredMessages := c.deferredMessages ++ [message] })
    refine h.same rfl (fun _ _ => rfl) (fun _ _ => rfl) rfl (fun id' => ?_)
      ⟨hknown'.fresh, hknown.connections, hknown.arriving, hknown.jobs, hknown.frames⟩
    by_cases hsame : id' = id
    · subst hsame
      simp
    · simp [hsame]
  · obtain ⟨posted, connections, isPosted, hclose, -⟩ :=
      requestBackpressureClose_eq id (s.release id)
    rw [hcase, hclose]
    exact h.same rfl (fun _ _ => rfl) (fun _ _ => rfl) rfl (fun id' => (hreleased.pending id').1)
      ⟨hknown'.fresh, hknown.connections, hknown.arriving, hknown.jobs, hknown.frames⟩
  · rw [hcase]
    exact h.same rfl (fun _ _ => rfl) (fun _ _ => rfl) rfl (fun id' => (hreleased.pending id').1)
      hknown'

/-- The worker took a job that is not the end of a computation. -/
theorem taken (h : Requested settings s) {job : ApplicationJob}
    {application : BoundedExecutor ApplicationJob} (htake : s.application.take = some (job, application))
    (hkind : ∀ id worker, job.isCompletion id worker = false) :
    Requested settings { s with application } := by
  obtain ⟨hjobs, -⟩ := BoundedExecutor.take_some htake
  refine h.same rfl (fun _ _ => rfl) (fun id worker => ?_) rfl (fun _ => rfl) ?_
  · rw [hjobs, List.countP_cons, hkind]
    rfl
  · refine ⟨h.known.fresh, h.known.connections, h.known.arriving, ?_, h.known.frames⟩
    intro job' hjob'
    exact h.known.jobs job' (by rw [hjobs]; exact List.mem_cons_of_mem _ hjob')

/-- A job that was taken is about a connection that is known. -/
theorem taken_lt (h : Requested settings s) {job : ApplicationJob}
    {application : BoundedExecutor ApplicationJob} (htake : s.application.take = some (job, application))
    (hid : job.connection = some id) : id < s.nextConnectionId := by
  obtain ⟨hjobs, -⟩ := BoundedExecutor.take_some htake
  exact h.known.jobs job (by rw [hjobs]; exact List.mem_cons_self) id hid

/-- The worker leaves what it was in the middle of, which was not the end of a request. -/
theorem returned (h : Requested settings s) {frame : Frame} {frames : List Frame}
    (hframes : s.frames = frame :: frames) (hkind : frame.endsRequest = false) :
    Requested settings { s with frames } := by
  refine h.same rfl (fun frame' hframe' => ?_) (fun _ _ => rfl) rfl (fun _ => rfl) ?_
  · rw [hframes, List.count_cons_of_ne]
    rintro rfl
    rw [hkind] at hframe'
    cases hframe'
  · refine ⟨h.known.fresh, h.known.connections, h.known.arriving, h.known.jobs, ?_⟩
    intro frame' hframe'
    exact h.known.frames frame' (by rw [hframes]; exact List.mem_cons_of_mem _ hframe')

/-- What the queue does on its own, or when it is called, without a request that is added or ends. -/
theorem queue (h : Requested settings s) {l : CredentialQueue.Label} {queue : Machine}
    (hstep : s.queue.Steps l queue) (hstarted : queue.Started)
    (hrequests : ∀ id, queue.requests id ≤ s.queue.requests id)
    (howed : ∀ worker, queue.owed worker = s.queue.owed worker) :
    Requested settings { s with queue } :=
  h.keep (h.machine.step hstep) hstarted hrequests howed (fun _ _ => rfl) (fun _ _ => rfl) rfl
    (fun _ => rfl)
    ⟨h.known.fresh, h.known.connections, h.known.arriving, h.known.jobs, h.known.frames⟩

theorem pumps (h : Requested settings s) {now : TimePoint} {queue : Machine}
    (hstep : s.queue.Steps (.pump now) queue) : Requested settings { s with queue } := by
  refine h.queue hstep ?_ (fun id => ?_) (fun worker => ?_)
  · exact (@Machine.requests_pump _ _ _ _ _ 0 now h.sound hstep 0).2.2.2 h.started
  · exact (@Machine.requests_pump _ _ _ _ _ 0 now h.sound hstep id).1.le
  · exact (@Machine.requests_pump _ _ _ _ _ worker now h.sound hstep 0).2.1

/-! ### The ends of requests -/

/-- `FinishCredentialRequest`, where nothing of the request of the connection is left. -/
theorem finish (h : Requested settings s) (hid : id < s.nextConnectionId)
    (hnone : s.places id = 0) : Requested settings (s.finishCredentialRequest id) := by
  have hknown := h.known.withState hid (fun c => { c with credentialPending := false })
  have hframes : ∀ frame, frame.endsRequest = true →
      (s.finishCredentialRequest id).frames.count frame = s.frames.count frame := by
    intro frame hframe
    refine List.count_cons_of_ne ?_
    rintro rfl
    cases hframe
  refine ⟨h.machine, h.started, ?_, fun id' => ?_, fun id' worker => ?_, h.executors⟩
  · refine ⟨hknown.fresh, hknown.connections, hknown.arriving, hknown.jobs, ?_⟩
    intro frame hframe id' hid'
    rcases List.mem_cons.mp hframe with rfl | hframe
    · cases hid'
      exact hid
    · exact hknown.frames frame hframe id' hid'
  · have hsame : (s.finishCredentialRequest id).places id' = s.places id' := by
      unfold Threads.places
      rw [hframes _ rfl]
      rfl
    rw [hsame]
    by_cases hid' : id' = id
    · rw [hid', hnone]
      exact Nat.zero_le _
    · have hle := h.places id'
      simpa [finishCredentialRequest, hid'] using hle
  · refine Eq.trans ?_ (h.held id' worker)
    unfold Threads.held
    rw [hframes _ rfl]
    rfl

/-- The `expire` callback of a request. -/
theorem expiring (h : Requested settings s) {frames : List Frame}
    (hframes : s.frames = .expiring id :: frames) :
    Requested settings (({ s with frames }.push .expired).finishCredentialRequest id) := by
  have hle := h.places id
  -- the frame of the callback is the request itself, and the only one
  have hone : 0 < s.places id := by
    unfold Threads.places
    rw [hframes, List.count_cons_self]
    omega
  have hpending := h.pending_of_places hone
  rw [hpending, if_pos rfl] at hle
  -- the frame below the callback is exchanged for the one behind it
  have hcount : ∀ frame, s.frames.count frame = (Frame.expired :: frames).count frame +
      (if frame = .expiring id then 1 else 0) - (if frame = .expired then 1 else 0) := by
    intro frame
    rw [hframes, List.count_cons, List.count_cons]
    by_cases hexpiring : frame = .expiring id
    · subst hexpiring
      simp
    · by_cases hexpired : frame = .expired
      · subst hexpired
        simp
      · simp [Ne.symm hexpiring, Ne.symm hexpired, hexpiring, hexpired]
  refine finish ?_ (h.lt_of_pending hpending) ?_
  · refine ⟨h.machine, h.started, ?_, fun id' => ?_, fun id' worker => ?_, h.executors⟩
    · refine ⟨h.known.fresh, h.known.connections, h.known.arriving, h.known.jobs, ?_⟩
      intro frame hframe id' hid'
      rcases List.mem_cons.mp hframe with rfl | hframe
      · cases hid'
      · exact h.known.frames frame (by rw [hframes]; exact List.mem_cons_of_mem _ hframe) id' hid'
    · refine le_trans ?_ (h.places id')
      have hfewer := hcount (.expiring id')
      simp only [reduceCtorEq, if_false, Nat.sub_zero] at hfewer
      unfold Threads.places
      rw [hfewer]
      simp only [push_queue, push_frames]
      omega
    · refine Eq.trans ?_ (h.held id' worker)
      unfold Threads.held
      rw [hcount (.completing id' worker)]
      simp
  · have hsame := hcount (.expiring id)
    simp only [reduceCtorEq, if_false, if_true, Nat.sub_zero] at hsame
    unfold Threads.places at hle ⊢
    rw [hsame] at hle
    simp only [push_queue, push_frames]
    omega

/-- The worker that comes back is the one that the queue waits for, with the request of the
connection. -/
theorem owed_of_completing (h : Requested settings s)
    (hmem : 0 < s.frames.count (.completing id worker)) : s.queue.owed worker = some id := by
  have hheld := h.held id worker
  unfold Threads.held at hheld
  split at hheld
  · next howed => exact howed
  · omega

/-- The end of a password computation. -/
theorem completing (h : Requested settings s) {frames : List Frame} {now : TimePoint}
    {queue : Machine} (hframes : s.frames = .completing id worker :: frames)
    (hstep : s.queue.Steps (.complete now worker) queue) :
    Requested settings
      (({ s with frames, queue }.push .completed).finishCredentialRequest id) := by
  have hcaller : s.queue.CallerRuns := by
    cases hstep with
    | complete hcaller => exact hcaller
  have howed := @owed_of_completing _ id worker _ h (by
    rw [hframes, List.count_cons_self]
    omega)
  have hbusy := Machine.owed_of_callerRuns hcaller worker ▸ howed
  obtain ⟨active, hactive, hpoint, hrequests, hslots⟩ := Machine.requests_complete h.sound hstep
  obtain rfl : active = id := by
    rw [hbusy] at hactive
    exact (Option.some.inj hactive).symm
  have hcaller' : queue.CallerRuns := by
    unfold Machine.CallerRuns
    rw [hpoint]
    exact hcaller
  have hone : 0 < s.places active := by
    have hmem := Machine.requests_pos_of_mem (Machine.mem_ids_of_busy h.sound hbusy)
    unfold Threads.places
    omega
  -- the request of the worker is the only one of the connection, so the flag is still set
  have hpending := h.pending_of_places hone
  -- the frame below the completion is exchanged for the one behind it
  have hcount : ∀ frame, s.frames.count frame = (Frame.completed :: frames).count frame +
      (if frame = .completing active worker then 1 else 0) -
        (if frame = .completed then 1 else 0) := by
    intro frame
    rw [hframes, List.count_cons, List.count_cons]
    by_cases hcompleting : frame = .completing active worker
    · subst hcompleting
      simp
    · by_cases hcompleted : frame = .completed
      · subst hcompleted
        simp
      · simp [Ne.symm hcompleting, Ne.symm hcompleted, hcompleting, hcompleted]
  -- with the computation one request leaves the queue, and no callback is added
  have hplaces : ∀ id, ({ s with frames, queue }.push .completed).places id +
      (if id = active then 1 else 0) = s.places id := by
    intro id
    have hfewer := hcount (.expiring id)
    simp only [reduceCtorEq, if_false, Nat.sub_zero, Nat.add_zero] at hfewer
    unfold Threads.places
    rw [hfewer, ← hrequests id]
    simp only [push_queue, push_frames]
    omega
  refine finish ?_ (h.lt_of_pending hpending) ?_
  · refine ⟨h.machine.step hstep, Machine.started_of_callerRuns hcaller', ?_, fun id => ?_,
      fun id worker' => ?_, h.executors⟩
    · refine ⟨h.known.fresh, h.known.connections, h.known.arriving, h.known.jobs, ?_⟩
      intro frame hframe id' hid'
      rcases List.mem_cons.mp hframe with rfl | hframe
      · cases hid'
      · exact h.known.frames frame (by rw [hframes]; exact List.mem_cons_of_mem _ hframe) id' hid'
    · exact le_trans (Nat.le_add_right _ _) ((hplaces id).le.trans (h.places id))
    -- the worker owes nothing any more, and no frame holds its computation
    · have hheld := h.held id worker'
      rw [Machine.owed_of_callerRuns hcaller] at hheld
      have hfewer := hcount (.completing id worker')
      simp only [reduceCtorEq, if_false, Nat.sub_zero, Frame.completing.injEq] at hfewer
      simp only [push_queue, Machine.owed_of_callerRuns hcaller', hslots worker']
      unfold Threads.held at hheld ⊢
      rw [hfewer] at hheld
      simp only [push_workers, push_application, push_frames]
      by_cases hworker : worker' = worker
      · subst hworker
        rw [if_pos rfl, if_neg (by simp)]
        rw [hbusy] at hheld
        by_cases hid : id = active
        · subst hid
          simp only [and_self, if_true] at hheld
          omega
        · simp only [hid, false_and, if_false, Option.some.injEq, Ne.symm hid] at hheld
          omega
      · rw [if_neg hworker]
        simp only [hworker, and_false, if_false, Nat.add_zero] at hheld
        exact hheld
  · have hsame := hplaces active
    have hle := h.places active
    rw [hpending, if_pos rfl] at hle
    rw [if_pos rfl] at hsame
    omega

/-! ### The beginnings of requests -/

/-- `SubmitCredentialWork`. -/
theorem submits (h : Requested settings s) {now now' : TimePoint} {job : CredentialQueue.Job}
    {accepted queue : Machine} {enqueued : CredentialQueue} (hid : id < s.nextConnectionId)
    (hfree : (s.state id).credentialPending = false) (hjob : job.id = id)
    (hcaller : s.queue.CallerRuns)
    (henqueue : s.queue.queue.enqueue now job = (true, enqueued))
    (haccept : s.queue.Steps (.enqueue now job) accepted)
    (hpump : accepted.Steps (.pump now') queue) :
    Requested settings
      { s.withState id (fun c => { c with credentialPending := true }) with queue } := by
  subst hjob
  -- without the flag no request of the connection is anywhere
  have hnone : s.places job.id = 0 := by
    have hle := h.places job.id
    rw [hfree] at hle
    exact Nat.le_zero.mp hle
  have hrequests : ∀ id, accepted.requests id =
      s.queue.requests id + (if id = job.id then 1 else 0) := by
    intro id
    cases haccept with
    | accept _ haccepted => exact (@Machine.requests_accept _ 0 _ _ _ _ haccepted id).1
    | reject _ hrejected =>
      rw [henqueue] at hrejected
      cases hrejected
  have howed : ∀ worker, accepted.owed worker = s.queue.owed worker := by
    intro worker
    cases haccept with
    | accept _ haccepted => exact (@Machine.requests_accept _ worker _ _ _ _ haccepted 0).2
    | reject _ hrejected =>
      rw [henqueue] at hrejected
      cases hrejected
  have hstarted : accepted.Started := by
    cases haccept with
    | accept _ _ => exact Machine.started_of_callerRuns hcaller
    | reject _ _ => exact Machine.started_of_callerRuns hcaller
  have hreachable := h.machine.step haccept
  have hsound := CredentialQueue.Sound.reachable hreachable
  have hpumped := fun worker id => @Machine.requests_pump _ _ _ _ _ worker now' hsound hpump id
  have hknown := h.known.withState hid (fun c => { c with credentialPending := true })
  refine ⟨hreachable.step hpump, (hpumped 0 0).2.2.2 hstarted,
    ⟨hknown.fresh, hknown.connections, hknown.arriving, hknown.jobs, hknown.frames⟩,
    fun id => ?_, fun id worker => ?_, h.executors⟩
  -- the new request is counted, and only here
  · have hplaces : ({ s.withState job.id (fun c => { c with credentialPending := true }) with
        queue } : Threads).places id = s.places id + (if id = job.id then 1 else 0) := by
      unfold Threads.places
      simp only [withState_frames, (hpumped 0 id).1, hrequests id]
      omega
    rw [hplaces]
    by_cases hsame : id = job.id
    · subst hsame
      simp [hnone]
    · simpa [hsame] using h.places id
  · refine Eq.trans (h.held id worker) ?_
    simp only [(hpumped worker 0).2.1, howed]

/-- `StartCredentialWork`: the worker is given the job. -/
theorem starts (h : Requested settings s) {now : TimePoint} {job : CredentialQueue.Job}
    {queue : Machine} {credentialWorker : CredentialWorker} {executor : BoundedExecutor Nat}
    (hpoint : s.queue.point = some (.starting now worker job))
    (hworker : s.workers[worker]? = some credentialWorker)
    (hsubmit : credentialWorker.executor.submit job.id false = (true, executor))
    (hstep : s.queue.Steps .startReturns queue) :
    Requested settings
      { s with queue, workers := s.workers.set worker { credentialWorker with executor } } := by
  obtain ⟨hrequests, hstarted, hnone, howed⟩ := Machine.requests_startReturns hpoint hstep
  obtain ⟨rfl, -⟩ := BoundedExecutor.submit_true hsubmit
  have hbusy := h.started now worker job hpoint
  have hlength : worker < s.workers.length := (List.getElem?_eq_some_iff.mp hworker).1
  refine ⟨h.machine.step hstep, hstarted, ⟨h.known.fresh, h.known.connections, h.known.arriving,
    h.known.jobs, h.known.frames⟩, fun id => ?_, fun id worker' => ?_, ?_, fun w hw => ?_⟩
  · refine le_trans (le_of_eq ?_) (h.places id)
    unfold Threads.places
    rw [hrequests]
  · have hheld := h.held id worker'
    simp only [howed worker', hbusy]
    unfold Threads.held at hheld ⊢
    by_cases hsame : worker' = worker
    · subst hsame
      rw [hnone, hworker] at hheld
      simp only [List.getElem?_set_self hlength, Option.elim_some, List.count_append,
        List.count_singleton, beq_iff_eq, if_true, Option.some.injEq, reduceCtorEq, if_false]
        at hheld ⊢
      omega
    · simpa [hsame, List.getElem?_set_ne (Ne.symm hsame)] using hheld
  · rw [List.length_set]
    exact h.executors.1
  · rcases List.mem_or_eq_of_mem_set hw with hw | rfl
    · exact h.executors.2 w hw
    · exact h.executors.2 credentialWorker (List.mem_of_getElem? hworker)

/-- A connection is told that its request expired. -/
theorem expires (h : Requested settings s) {now : TimePoint} {job : CredentialQueue.Job}
    {due : List CredentialQueue.Job} {queue : Machine}
    (hpoint : s.queue.point = some (.callbacks now (job :: due)))
    (hstep : s.queue.Steps .expire queue) :
    Requested settings ({ s with queue }.push (.expiring job.id)) := by
  obtain ⟨hrequests, howed, hcaller⟩ := Machine.requests_expire hpoint hstep
  refine ⟨h.machine.step hstep, Machine.started_of_callerRuns hcaller, ?_, fun id => ?_,
    fun id worker => ?_, h.executors⟩
  · refine ⟨h.known.fresh, h.known.connections, h.known.arriving, h.known.jobs, ?_⟩
    intro frame hframe id hid
    rcases List.mem_cons.mp hframe with rfl | hframe
    · cases hid
    · exact h.known.frames frame hframe id hid
  · refine le_trans (le_of_eq ?_) (h.places id)
    unfold Threads.places
    rw [← hrequests id]
    simp only [push_queue, push_frames, List.count_cons, beq_iff_eq, Frame.expiring.injEq,
      eq_comm (a := job.id)]
    omega
  · refine Eq.trans ?_ ((h.held id worker).trans ?_)
    · unfold Threads.held
      simp only [push_workers, push_application, push_frames, List.count_cons, beq_iff_eq,
        reduceCtorEq, if_false, Nat.add_zero]
    · simp only [push_queue, howed worker]

/-! ### Hashing threads -/

/-- The end of a computation was submitted, and the worker takes it. -/
theorem comesBack (h : Requested settings s) {application : BoundedExecutor ApplicationJob}
    (htake : s.application.take = some (.complete id worker, application)) :
    Requested settings ({ s with application }.push (.completing id worker)) := by
  obtain ⟨hjobs, -⟩ := BoundedExecutor.take_some htake
  refine ⟨h.machine, h.started, ?_, fun id' => ?_, fun id' worker' => ?_, h.executors⟩
  · refine ⟨h.known.fresh, h.known.connections, h.known.arriving, fun job hjob => ?_, ?_⟩
    · exact h.known.jobs job (by rw [hjobs]; exact List.mem_cons_of_mem _ hjob)
    · intro frame hframe id' hid'
      rcases List.mem_cons.mp hframe with rfl | hframe
      · cases hid'
      · exact h.known.frames frame hframe id' hid'
  · refine le_trans (le_of_eq ?_) (h.places id')
    unfold Threads.places
    simp only [push_queue, push_frames, List.count_cons, beq_iff_eq, reduceCtorEq, if_false,
      Nat.add_zero]
  · refine Eq.trans ?_ (h.held id' worker')
    unfold Threads.held
    rw [hjobs]
    simp only [push_workers, push_application, push_frames, List.count_cons, List.countP_cons,
      ApplicationJob.isCompletion, beq_iff_eq, Frame.completing.injEq, Bool.and_eq_true]
    omega

/-- A change of one worker that holds as much, with the jobs of the application, as before. -/
theorem hashes (h : Requested settings s) {w w' : CredentialWorker}
    {application : BoundedExecutor ApplicationJob} (hworker : s.workers[worker]? = some w)
    (hexecutor : w'.executor.capacity = w.executor.capacity ∧
      w'.executor.reserve = w.executor.reserve ∧ w'.executor.stopping = w.executor.stopping)
    (hsame : ∀ id, w'.executor.jobs.count id + (if w'.running = some id then 1 else 0) +
        application.jobs.countP (ApplicationJob.isCompletion id worker) =
      w.executor.jobs.count id + (if w.running = some id then 1 else 0) +
        s.application.jobs.countP (ApplicationJob.isCompletion id worker))
    (hothers : ∀ id worker', worker' ≠ worker →
      application.jobs.countP (ApplicationJob.isCompletion id worker') =
        s.application.jobs.countP (ApplicationJob.isCompletion id worker'))
    (hknown : ∀ job ∈ application.jobs, ∀ id, job.connection = some id →
      id < s.nextConnectionId) :
    Requested settings { s with application, workers := s.workers.set worker w' } := by
  have hlength : worker < s.workers.length := (List.getElem?_eq_some_iff.mp hworker).1
  refine ⟨h.machine, h.started, ⟨h.known.fresh, h.known.connections, h.known.arriving, hknown,
    h.known.frames⟩, h.places, fun id worker' => ?_, ?_, fun w₁ hw => ?_⟩
  · refine Eq.trans ?_ (h.held id worker')
    unfold Threads.held
    by_cases hworker' : worker' = worker
    · subst hworker'
      have heq := hsame id
      rw [hworker]
      simp only [List.getElem?_set_self hlength, Option.elim_some]
      omega
    · simp only [List.getElem?_set_ne (Ne.symm hworker'), hothers id worker' hworker']
  · rw [List.length_set]
    exact h.executors.1
  · rcases List.mem_or_eq_of_mem_set hw with hw | rfl
    · exact h.executors.2 w₁ hw
    · obtain ⟨hcapacity, hreserve, hstopping⟩ :=
        h.executors.2 w (List.mem_of_getElem? hworker)
      exact ⟨hexecutor.1.trans hcapacity, hexecutor.2.1.trans hreserve,
        hexecutor.2.2.trans hstopping⟩

theorem otherStep (h : Requested settings s) (hstep : OtherSteps s es s') : Requested settings s' := by
  cases hstep with
  | @takes worker id w executor hworker hidle htake =>
    obtain ⟨hjobs, hexecutor⟩ := BoundedExecutor.take_some htake
    refine h.hashes hworker ?_ (fun id' => ?_) (fun _ _ _ => rfl) h.known.jobs
    · rw [hexecutor]
      exact ⟨rfl, rfl, rfl⟩
    · rw [hidle, hjobs, List.count_cons]
      simp only [beq_iff_eq, Option.some.injEq, reduceCtorEq, if_false]
      omega
  | @submits worker id w application hworker hrunning hsubmit =>
    obtain ⟨rfl, -⟩ := BoundedExecutor.submit_true hsubmit
    refine h.hashes hworker ⟨rfl, rfl, rfl⟩ (fun id' => ?_) (fun id' worker' hne => ?_) ?_
    · rw [hrunning]
      simp only [List.countP_append, List.countP_singleton, ApplicationJob.isCompletion,
        reduceCtorEq, if_false, Option.some.injEq, Bool.and_eq_true, beq_iff_eq, and_true]
      omega
    · rw [List.countP_append, List.countP_singleton]
      simp [ApplicationJob.isCompletion, Ne.symm hne]
    · intro job hjob id' hid'
      rcases List.mem_append.mp hjob with hjob | hjob
      · exact h.known.jobs job hjob id' hid'
      · rw [List.mem_singleton.mp hjob] at hid'
        cases hid'
  | stops =>
    exact h.same rfl (fun _ _ => rfl) (fun _ _ => rfl) rfl (fun _ => rfl)
      ⟨h.known.fresh, h.known.connections, h.known.arriving, h.known.jobs, h.known.frames⟩

/-! ### Every step -/

theorem workerStep (h : Requested settings s) (hstep : WorkerSteps s es s') :
    Requested settings s' := by
  cases hstep with
  | message hidle htake =>
    exact (h.taken htake fun _ _ => rfl).dispatch (h.taken_lt htake rfl) _
  -- the cleanup cancels the waiting request and drops what is deferred, which is in no place
  | @cleanup id application queue hidle htake hqueue =>
    have hid := h.taken_lt htake rfl
    have htaken := h.taken htake fun _ _ => rfl
    have hcancelled := fun worker id => @Machine.requests_cancel _ _ worker _ hqueue id
    have hqueued : Requested settings { s with application, queue } := by
      refine htaken.queue hqueue ?_ (fun id => (hcancelled 0 id).1) fun worker => (hcancelled worker 0).2.1
      refine Machine.started_of_callerRuns ?_
      unfold Machine.CallerRuns
      rw [(hcancelled 0 0).2.2]
      exact .inl hidle.2
    have hknown := hqueued.known.withState hid (fun c =>
      { c with
        pendingMessages := c.pendingMessages - (s.state id).deferredMessages.length
        deferredMessages := [] })
    refine hqueued.same rfl (fun _ _ => rfl) (fun _ _ => rfl) rfl (fun id' => ?_)
      ⟨hknown.fresh, hknown.connections, hknown.arriving, hknown.jobs, hknown.frames⟩
    by_cases hsame : id' = id
    · subst hsame
      simp [Threads.cleanup]
    · simp [Threads.cleanup, hsame]
  | complete hidle htake => exact h.comesBack htake
  | pumps hidle htake hrunning hqueue => exact (h.taken htake fun _ _ => rfl).pumps hqueue
  | other hidle htake hjob =>
    rcases hjob with rfl | rfl | rfl | ⟨rfl, -⟩
    · exact h.taken htake fun _ _ => rfl
    · exact h.taken htake fun _ _ => rfl
    · exact h.taken htake fun _ _ => rfl
    · exact h.taken htake fun _ _ => rfl
  -- the connection had no request, so the new one is its only one
  | @submits id frames _ _ job _ _ _ hframes hrunning halive hfree hjob hcaller henqueue haccept
      hpump =>
    have hid := h.known.frames (.processing id) (by rw [hframes]; exact List.mem_cons_self) id rfl
    exact h.submits hid hfree hjob hcaller henqueue haccept hpump
  -- a rejected request changes a counter of the queue
  | rejected hframes hrunning halive hfree hjob hcaller henqueue hreject =>
    refine h.queue hreject ?_ (fun id => ?_) (fun worker => ?_)
    · cases hreject with
      | accept => exact Machine.started_of_callerRuns hcaller
      | reject => exact Machine.started_of_callerRuns hcaller
    · cases hreject with
      | accept _ haccepted =>
        rw [henqueue] at haccepted
        cases haccepted
      | reject _ hrejected =>
        unfold Machine.requests
        rw [(Machine.requests_reject hrejected).1]
    · cases hreject with
      | accept _ haccepted =>
        rw [henqueue] at haccepted
        cases haccepted
      | reject _ hrejected =>
        unfold Machine.owed Machine.busy
        rw [(Machine.requests_reject hrejected).2]
  -- the frame of the message holds no request
  | @processed id frames hframes hcaller =>
    have hid := h.known.frames (.processing id) (by rw [hframes]; exact List.mem_cons_self) id rfl
    have hreturned := h.returned hframes rfl
    have hleaves : Leaves ({ s with frames } : Threads) ({ s with frames }.release id) :=
      leaves_withState fun _ => ⟨rfl, rfl⟩
    exact hreturned.same rfl (fun _ _ => rfl) (fun _ _ => rfl) rfl
      (fun id' => (hleaves.pending id').1) (hreturned.known.withState hid _)
  -- inside `Pump` only steps that lose or start a job without giving it back
  | @queue l queue hanswers hqueue =>
    have hinternal : l.isInternal = true := by
      cases l with
      | silent => rfl
      | alive => rfl
      | asked => rfl
      | _ => exact hanswers.elim
    obtain ⟨hrequests, howed, hstarted⟩ := Machine.requests_internal h.sound hinternal hqueue
    exact h.queue hqueue (hstarted h.started) hrequests howed
  | starts hpoint hworker hsubmit hqueue => exact h.starts hpoint hworker hsubmit hqueue
  | expires hpoint hqueue => exact h.expires hpoint hqueue
  | expiring hframes hcaller => exact h.expiring hframes
  | expired hframes hqueue =>
    obtain ⟨hrequests, howed, hstarted⟩ := Machine.requests_expireReturns hqueue
    exact (h.returned hframes rfl).queue hqueue hstarted (fun id => (hrequests id).le) howed
  | completing hframes hqueue => exact h.completing hframes hqueue
  -- `FinishCredentialRequest` takes the message out and dispatches it
  | @drains id frames message messages hframes hcaller hfree hdeferred =>
    have hid := h.known.frames (.draining id) (by rw [hframes]; exact List.mem_cons_self) id rfl
    have hknown := h.known.withState hid
      (fun c => { c with deferredMessages := c.deferredMessages.tail })
    have hundeferred : Requested settings (s.undefer id) := by
      refine h.same rfl (fun _ _ => rfl) (fun _ _ => rfl) rfl (fun id' => ?_)
        ⟨hknown.fresh, hknown.connections, hknown.arriving, hknown.jobs, hknown.frames⟩
      by_cases hsame : id' = id
      · subst hsame
        simp [undefer]
      · simp [undefer, hsame]
    exact hundeferred.dispatch hid message
  | drained hframes hcaller hdone => exact h.returned hframes rfl
  -- the frames are popped, and `Pump` is called unless the server is stopping
  | @completed frames queue now hframes hcaller hqueue =>
    have hreturned := h.returned hframes rfl
    split at hqueue
    · subst hqueue
      exact hreturned
    · exact hreturned.pumps hqueue

theorem step (h : Requested settings s) (hstep : Steps s es s') : Requested settings s' := by
  cases hstep with
  | network hnetwork => exact h.networkStep hnetwork
  | worker hworker => exact h.workerStep hworker
  | other hother => exact h.otherStep hother

theorem start (hstart : (system settings).start s) : Requested settings s := by
  obtain ⟨queue, maxConnections, hcreate, -, rfl⟩ := hstart
  have hempty : queue.ids = ∅ ∧ queue.running = List.replicate settings.workers none := by
    unfold CredentialQueue.create at hcreate
    split at hcreate
    · cases hcreate
    · cases hcreate
      exact ⟨rfl, rfl⟩
  have hbusy : ∀ worker, Machine.busy worker { queue } = none := by
    intro worker
    unfold Machine.busy
    rw [hempty.2, List.getElem?_replicate]
    split
    · rfl
    · rfl
  refine ⟨⟨[], .start ⟨queue, hcreate, rfl⟩⟩, ?_, ?_, fun id => ?_, fun id worker => ?_, by simp,
    fun w hw => ?_⟩
  · intro _ _ _ hnew
    cases hnew
  · exact ⟨fun _ _ => rfl, by simp, nofun, by simp, by simp⟩
  · unfold Threads.places Machine.requests
    rw [hempty.1]
    simp [CredentialQueue.dueAt]
  · have howed : Machine.owed worker { queue } = none := hbusy worker
    rw [howed]
    unfold Threads.held
    simp only [List.getElem?_replicate]
    split
    · simp
    · simp
  · rw [(List.mem_replicate.mp hw).2]
    exact ⟨rfl, rfl, rfl⟩

theorem reachable (h : (system settings).Reachable s) : Requested settings s :=
  h.invariant (fun _ hstart => start hstart) (fun _ _ _ hs hstep => hs.step hstep)

end Requested

end Threads

end CrossDesk.SignalServer
