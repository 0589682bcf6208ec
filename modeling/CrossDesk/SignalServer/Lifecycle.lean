import CrossDesk.SignalServer.Requests
import CrossDesk.SignalServer.Schedule

/-!
# Lifecycle jobs

The application worker keeps a reserve for the jobs that must not be refused: the cleanup after a
connection, the end of a password computation, the one cleanup of recovered sessions and the last
heartbeat. Nothing counts these jobs when they are submitted. That the reserve is enough rests on
what bounds each of them (`Lifecycle`): a connection is accepted only while alive connections and
pending cleanups leave room for it, a hashing worker has one computation, and the other two happen
once.

So no cleanup and no end of a computation is ever refused, and an idle worker always takes its next
computation. Where the source throws otherwise, it does not get (`lifecycle_never_refused`).
-/

namespace CrossDesk.SignalServer

namespace ApplicationJob

def isCleanup : ApplicationJob → Bool
  | cleanup _ => true
  | _ => false

def isPrune : ApplicationJob → Bool
  | prune => true
  | _ => false

def isHeartbeat : ApplicationJob → Bool
  | heartbeat => true
  | _ => false

/-- The worker whose computation is over. -/
def completes : ApplicationJob → Option Nat
  | complete _ worker => some worker
  | _ => none

/-- The lifecycle jobs are of four kinds. -/
theorem countP_isLifecycle (jobs : List ApplicationJob) :
    jobs.countP isLifecycle = jobs.countP isCleanup + (jobs.filterMap completes).length +
      jobs.countP isPrune + jobs.countP isHeartbeat := by
  induction jobs with
  | nil => rfl
  | cons job jobs ih =>
    cases job with
    | _ =>
      simp only [List.countP_cons, List.filterMap_cons, isLifecycle, isCleanup, isPrune, isHeartbeat,
        completes, List.length_cons, if_true, Bool.false_eq_true, if_false]
      omega

end ApplicationJob

namespace Threads

open ApplicationJob (isLifecycle isCleanup isPrune isHeartbeat completes)

/-- The jobs that need the reserve are bounded. -/
structure Lifecycle (settings : Settings) (s : Threads) : Prop where
  /-- Who is connected, was connected, or is about to be. -/
  admission : s.aliveConnections.card + s.pendingCleanup + (if s.acceptPending then 1 else 0) ≤
    s.maxConnections
  configured : s.maxConnections ≤ settings.maxConnections
  /-- A cleanup is counted until the network thread hears that it is over. -/
  cleanups : s.pendingCleanup = s.application.jobs.countP isCleanup + s.posted.count .cleanupDone
  prunes : s.application.jobs.countP isPrune ≤ if s.pruneSubmitted then 1 else 0
  heartbeats : s.application.jobs.countP isHeartbeat + s.posted.count .shutdown ≤
    if s.stopping then 1 else 0
  unreserved : s.application.Unreserved isLifecycle
  reserve : s.application.reserve = settings.maxConnections + settings.workers + 4
  running : s.application.stopping = false

variable {settings : Settings} {s s' : Threads} {es : List Event} {id worker : Nat}

namespace Lifecycle

/-- Where no job and no connection comes or goes. -/
theorem same (h : Lifecycle settings s) (hconnections : s'.connections = s.connections)
    (halive : ∀ id, (s'.state id).alive = (s.state id).alive)
    (hcleanup : s'.pendingCleanup = s.pendingCleanup) (haccept : s'.acceptPending = s.acceptPending)
    (hmax : s'.maxConnections = s.maxConnections) (happlication : s'.application = s.application)
    (hposted : ∀ p, p ≠ .closeOverloaded → s'.posted.count p = s.posted.count p)
    (hstopping : s'.stopping = s.stopping) (hprune : s'.pruneSubmitted = s.pruneSubmitted) :
    Lifecycle settings s' where
  admission := by
    have hsame : s'.aliveConnections = s.aliveConnections := by
      unfold aliveConnections
      rw [hconnections]
      exact Finset.filter_congr fun id _ => by rw [halive]
    rw [hsame, hcleanup, haccept, hmax]
    exact h.admission
  configured := hmax ▸ h.configured
  cleanups := by
    rw [hcleanup, happlication, hposted .cleanupDone (by simp)]
    exact h.cleanups
  prunes := by
    rw [happlication, hprune]
    exact h.prunes
  heartbeats := by
    rw [happlication, hposted .shutdown (by simp), hstopping]
    exact h.heartbeats
  unreserved := happlication ▸ h.unreserved
  reserve := happlication ▸ h.reserve
  running := happlication ▸ h.running

/-! ## What there is room for -/

/-- A completion that is outstanding belongs to the connection that the worker is owed for. -/
theorem completion_eq (h : Requested settings s) {job : ApplicationJob}
    (hmem : job ∈ s.application.jobs) (hworker : job.completes = some worker) :
    ∃ id, s.queue.owed worker = some id ∧ job.isCompletion id worker = true := by
  cases job with
  | complete id worker' =>
    cases hworker
    refine ⟨id, ?_, by simp [ApplicationJob.isCompletion]⟩
    have hheld := h.held id worker
    have hcount : 0 < s.application.jobs.countP (ApplicationJob.isCompletion id worker) :=
      List.countP_pos_iff.mpr ⟨_, hmem, by simp [ApplicationJob.isCompletion]⟩
    unfold held at hheld
    split at hheld
    · next howed => exact howed
    · omega
  | _ => cases hworker

/-- **Each worker has at most one completion outstanding.** -/
theorem completions_nodup (h : Requested settings s) :
    (s.application.jobs.filterMap completes).Nodup := by
  refine List.nodup_iff_count_le_one.mpr fun worker => ?_
  rw [List.count, List.countP_filterMap]
  cases howed : s.queue.owed worker with
  | none =>
    refine le_trans (le_of_eq (List.countP_eq_zero.mpr fun job hmem hkind => ?_)) (Nat.zero_le 1)
    have hworker : job.completes = some worker := by
      cases hcompletes : job.completes with
      | none => simp [hcompletes] at hkind
      | some worker' => simpa [hcompletes] using hkind
    obtain ⟨id, howed', -⟩ := completion_eq h hmem hworker
    rw [howed] at howed'
    cases howed'
  | some id =>
    have hheld := h.held id worker
    rw [howed, if_pos rfl] at hheld
    unfold held at hheld
    have hle : s.application.jobs.countP (fun job => (job.completes.map (· == worker)).getD false) ≤
        s.application.jobs.countP (ApplicationJob.isCompletion id worker) := by
      refine List.countP_mono_left fun job hmem hkind => ?_
      have hworker : job.completes = some worker := by
        cases hcompletes : job.completes with
        | none => simp [hcompletes] at hkind
        | some worker' => simpa [hcompletes] using hkind
      obtain ⟨id', howed', hcompletion⟩ := completion_eq h hmem hworker
      rw [howed] at howed'
      cases howed'
      exact hcompletion
    refine le_trans hle ?_
    omega

/-- There are not more of them than workers. -/
theorem completions_le (h : Requested settings s) :
    (s.application.jobs.filterMap completes).length ≤ settings.workers := by
  have hworkers : ∀ worker ∈ s.application.jobs.filterMap completes, worker < settings.workers := by
    intro worker hmem
    obtain ⟨job, hjob, hworker⟩ := List.mem_filterMap.mp hmem
    obtain ⟨id, howed, -⟩ := completion_eq h hjob hworker
    have hbusy : s.queue.busy worker = some id := by
      unfold CredentialQueue.Machine.owed at howed
      split at howed
      · cases howed
      · exact howed
    obtain ⟨active, hactive, -⟩ := Option.map_eq_some_iff.mp hbusy
    have hlength := (List.getElem?_eq_some_iff.mp (Option.join_eq_some_iff.mp hactive)).1
    exact h.sound.limits.1 ▸ hlength
  rw [← List.toFinset_card_of_nodup (completions_nodup h)]
  refine le_trans (Finset.card_le_card fun worker hmem => ?_) (Finset.card_range settings.workers).le
  exact Finset.mem_range.mpr (hworkers worker (List.mem_toFinset.mp hmem))

/-- The reserve has room for the cleanups of all connections that are alive, and two more jobs. -/
theorem lifecycle_lt (h : Lifecycle settings s) (hrequested : Requested settings s) :
    s.application.jobs.countP isLifecycle + s.aliveConnections.card + 2 ≤ s.application.reserve := by
  have hadmission := h.admission
  have hconfigured := h.configured
  have hcleanups := h.cleanups
  have hcompletions := completions_le hrequested
  have hprunes : s.application.jobs.countP isPrune ≤ 1 := by
    refine h.prunes.trans ?_
    split
    · exact le_rfl
    · exact Nat.zero_le 1
  have hheartbeats : s.application.jobs.countP isHeartbeat ≤ 1 := by
    refine (Nat.le_add_right _ _).trans (h.heartbeats.trans ?_)
    split
    · exact le_rfl
    · exact Nat.zero_le 1
  rw [h.reserve, ApplicationJob.countP_isLifecycle]
  omega

theorem hasRoom (h : Lifecycle settings s) (hrequested : Requested settings s) : s.HasRoom := by
  have hreserve := h.lifecycle_lt hrequested
  have hordinary := h.unreserved
  have hlength := List.length_eq_countP_add_countP isLifecycle (l := s.application.jobs)
  have hsame : s.application.jobs.countP (fun job => decide ¬ isLifecycle job = true) =
      s.application.jobs.countP (fun job => !isLifecycle job) := by
    refine List.countP_congr fun job _ => ?_
    simp
  unfold BoundedExecutor.Unreserved at hordinary
  refine ⟨h.running, ?_⟩
  omega

/-- A lifecycle job is accepted. -/
theorem accepts (h : Lifecycle settings s) (hrequested : Requested settings s)
    (job : ApplicationJob) : (s.application.submit job true).1 = true := by
  have hreserve := h.lifecycle_lt hrequested
  rw [BoundedExecutor.submit_lifecycle h.unreserved h.running (by omega) job]

/-! ## Each step -/

/-- Closing connections turns them into cleanups. -/
theorem closes (h : Lifecycle settings s) (hcloses : Closes s s') : Lifecycle settings s' := by
  obtain ⟨ids, -, happlication, hpending, halive⟩ := hcloses.cleanups
  have hrest := hcloses.rest
  have hcleanups : (ids.map ApplicationJob.cleanup).countP isCleanup = ids.length := by
    rw [List.countP_map]
    exact List.countP_eq_length.mpr fun _ _ => rfl
  have hnone : ∀ p : ApplicationJob → Bool, (∀ id, p (.cleanup id) = false) →
      (ids.map ApplicationJob.cleanup).countP p = 0 := by
    intro p hp
    rw [List.countP_map]
    exact List.countP_eq_zero.mpr fun id _ => by simp [hp id]
  refine ⟨?_, ?_, ?_, ?_, ?_, ?_, ?_, ?_⟩
  · have hadmission := h.admission
    have hsame : s'.acceptPending = s.acceptPending ∧ s'.maxConnections = s.maxConnections := by
      rw [hrest]
      exact ⟨rfl, rfl⟩
    rw [hpending, hsame.1, hsame.2]
    omega
  · rw [hrest]
    exact h.configured
  · have hold := h.cleanups
    have hposted : s'.posted = s.posted := by rw [hrest]
    rw [hpending, happlication, List.countP_append, hcleanups, hposted]
    omega
  · have hsame : s'.pruneSubmitted = s.pruneSubmitted := by rw [hrest]
    rw [happlication, List.countP_append, hnone _ fun _ => rfl, hsame]
    exact h.prunes
  · have hsame : s'.posted = s.posted ∧ s'.stopping = s.stopping := by
      rw [hrest]
      exact ⟨rfl, rfl⟩
    rw [happlication, List.countP_append, hnone _ fun _ => rfl, hsame.1, hsame.2]
    exact h.heartbeats
  · have hold := h.unreserved
    unfold BoundedExecutor.Unreserved at hold ⊢
    rw [happlication, List.countP_append, hnone _ fun _ => rfl]
    exact hold
  · rw [happlication]
    exact h.reserve
  · rw [happlication]
    exact h.running

/-- A job that is neither a cleanup nor one of those that happen once is submitted. -/
theorem submit (h : Lifecycle settings s) (job : ApplicationJob) (hcleanup : job.isCleanup = false)
    (hprune : job.isPrune = false) (hheartbeat : job.isHeartbeat = false) :
    Lifecycle settings
      { s with application := (s.application.submit job job.isLifecycle).2 } := by
  rcases hsubmit : s.application.submit job job.isLifecycle with ⟨ok, application⟩
  cases ok with
  | false =>
    rw [BoundedExecutor.submit_false hsubmit]
    exact h
  | true =>
    have hunreserved := h.unreserved.submit hsubmit
    obtain ⟨rfl, -⟩ := BoundedExecutor.submit_true hsubmit
    refine ⟨h.admission, h.configured, ?_, ?_, ?_, hunreserved, h.reserve, h.running⟩
    · simpa [List.countP_append, hcleanup] using h.cleanups
    · simpa [List.countP_append, hprune] using h.prunes
    · simpa [List.countP_append, hheartbeat] using h.heartbeats

/-- The worker takes a job that is not a cleanup. -/
theorem take (h : Lifecycle settings s) {job : ApplicationJob}
    {application : BoundedExecutor ApplicationJob} (htake : s.application.take = some (job, application))
    (hcleanup : job.isCleanup = false) : Lifecycle settings { s with application } := by
  obtain ⟨hjobs, happlication⟩ := BoundedExecutor.take_some htake
  have hprunes := h.prunes
  have hheartbeats := h.heartbeats
  have hcleanups := h.cleanups
  rw [hjobs, List.countP_cons] at hprunes hheartbeats hcleanups
  rw [hcleanup] at hcleanups
  refine ⟨h.admission, h.configured, hcleanups, (Nat.le_add_right _ _).trans hprunes, ?_,
    h.unreserved.take htake, ?_, ?_⟩
  · show application.jobs.countP isHeartbeat + s.posted.count .shutdown ≤ if s.stopping then 1 else 0
    omega
  · show application.reserve = _
    rw [happlication]
    exact h.reserve
  · show application.stopping = _
    rw [happlication]
    exact h.running

/-- A connection was accepted: it takes the place that was kept for it. -/
theorem accepted (h : Lifecycle settings s) (hknown : Known s) (hpending : s.acceptPending = true) :
    Lifecycle settings { s with
      acceptPending := false
      nextConnectionId := s.nextConnectionId + 1
      connections := insert s.nextConnectionId s.connections
      state := Function.update s.state s.nextConnectionId {} } := by
  have hnew : Function.update s.state s.nextConnectionId {} = s.state :=
    Function.update_eq_iff.mpr ⟨(hknown.fresh _ le_rfl).symm, fun _ _ => rfl⟩
  refine ⟨?_, h.configured, h.cleanups, h.prunes, h.heartbeats, h.unreserved, h.reserve, h.running⟩
  have hadmission := h.admission
  rw [hpending, if_pos rfl] at hadmission
  rw [hnew]
  have hle : ({ s with
      acceptPending := false
      nextConnectionId := s.nextConnectionId + 1
      connections := insert s.nextConnectionId s.connections } : Threads).aliveConnections.card ≤
      s.aliveConnections.card + 1 := by
    refine le_trans (Finset.card_le_card fun id hid => ?_)
      (Finset.card_insert_le s.nextConnectionId s.aliveConnections)
    obtain ⟨hmem, halive⟩ := Finset.mem_filter.mp hid
    rcases Finset.mem_insert.mp hmem with rfl | hmem
    · exact Finset.mem_insert_self _ _
    · exact Finset.mem_insert_of_mem (Finset.mem_filter.mpr ⟨hmem, halive⟩)
  simp only [Bool.false_eq_true, if_false]
  omega

/-- A change to a connection that leaves it alive or dead. -/
theorem withState (h : Lifecycle settings s) {f : ConnectionState → ConnectionState}
    (halive : (f (s.state id)).alive = (s.state id).alive) :
    Lifecycle settings (s.withState id f) := by
  refine h.same rfl (fun id' => ?_) rfl rfl rfl rfl (fun _ _ => rfl) rfl rfl
  by_cases hsame : id' = id
  · subst hsame
    simpa using halive
  · simp [hsame]

theorem networkStep (h : Lifecycle settings s) (hknown : Known s)
    (hstep : NetworkSteps s es s') : Lifecycle settings s' := by
  cases hstep with
  -- a pending accept takes the place that was left
  | acceptNext harriving hrunning hnone hroom =>
    have halive : s.aliveConnections.card ≤ s.connections.card := Finset.card_filter_le _ _
    refine ⟨?_, h.configured, h.cleanups, h.prunes, h.heartbeats, h.unreserved, h.reserve, h.running⟩
    simp only [if_true]
    show s.aliveConnections.card + s.pendingCleanup + 1 ≤ s.maxConnections
    omega
  | accepted harriving hrunning hpending => exact h.accepted hknown hpending
  | acceptFailed =>
    refine ⟨le_trans ?_ h.admission, h.configured, h.cleanups, h.prunes, h.heartbeats, h.unreserved,
      h.reserve, h.running⟩
    exact Nat.le_add_right _ _
  | opened => exact h.withState rfl
  | closed harriving hid hclose => exact h.closes (closeConnection_closes hclose)
  -- the connection was counted as alive, or its cleanup is pending already
  | @finished id mid harriving hid hcleanup =>
    have hclosed := h.closes (queueSessionCleanup_closes hid hcleanup).1
    have hle : ({ mid with connections := mid.connections.erase id } :
        Threads).aliveConnections.card ≤ mid.aliveConnections.card :=
      Finset.card_le_card (Finset.filter_subset_filter _ (Finset.erase_subset _ _))
    refine ⟨le_trans ?_ hclosed.admission, hclosed.configured, hclosed.cleanups, hclosed.prunes,
      hclosed.heartbeats, hclosed.unreserved, hclosed.reserve, hclosed.running⟩
    exact Nat.add_le_add_right (Nat.add_le_add_right hle _) _
  | @arrives id =>
    have hcounted : Lifecycle settings
        (s.withState id (fun c => { c with pendingMessages := c.pendingMessages + 1 })) :=
      h.withState rfl
    exact hcounted.same rfl (fun _ => rfl) rfl rfl rfl rfl (fun _ _ => rfl) rfl rfl
  -- an ordinary job stays out of the reserve
  | @submits id count m application harriving hcount hsubmit =>
    have hsubmitted := h.submit (.message id m) rfl rfl rfl
    rw [show (ApplicationJob.message id m).isLifecycle = false from rfl, hsubmit] at hsubmitted
    exact hsubmitted.same rfl (fun _ => rfl) rfl rfl rfl rfl (fun _ _ => rfl) rfl rfl
  | @refuses id count m _ harriving hrefused hclose =>
    have hreleased : Lifecycle settings (s.release id) := h.withState rfl
    have hrefused : Lifecycle settings { s.release id with arriving := none } :=
      hreleased.same rfl (fun _ => rfl) rfl rfl rfl rfl (fun _ _ => rfl) rfl rfl
    exact hrefused.closes (closeConnection_closes hclose)
  | ordinary harriving hjob =>
    rcases hjob with rfl | rfl
    · exact h.submit .pump rfl rfl rfl
    · exact h.submit .ordinary rfl rfl rfl
  -- the timer of the recovered sessions fires once, so this is the only such job
  | prunes harriving hrunning hfirst hsubmit =>
    have hunreserved := @BoundedExecutor.Unreserved.submit _ _ _ .prune _ h.unreserved hsubmit
    obtain ⟨rfl, -⟩ := BoundedExecutor.submit_true hsubmit
    have hprunes := h.prunes
    rw [hfirst] at hprunes
    refine ⟨h.admission, h.configured, ?_, ?_, ?_, hunreserved, h.reserve, h.running⟩
    · simpa [List.countP_append, isCleanup] using h.cleanups
    · simpa [List.countP_append, isPrune] using hprunes
    · simpa [List.countP_append, isHeartbeat] using h.heartbeats
  -- what was posted is counted once less in the posted functions
  | @runsPost p posted s' harriving hposted hrun =>
    have hcleanups := h.cleanups
    have hheartbeats := h.heartbeats
    rw [hposted, List.count_cons] at hcleanups hheartbeats
    cases p with
    -- the place of the cleanup is free again
    | cleanupDone =>
      cases hrun
      have hadmission := h.admission
      simp only [beq_iff_eq, reduceCtorEq, if_false, if_true] at hcleanups hheartbeats
      refine ⟨?_, h.configured, ?_, h.prunes, hheartbeats, h.unreserved, h.reserve, h.running⟩
      · show s.aliveConnections.card + (s.pendingCleanup - 1) + (if s.acceptPending then 1 else 0) ≤
          s.maxConnections
        omega
      · show s.pendingCleanup - 1 = s.application.jobs.countP isCleanup + posted.count .cleanupDone
        omega
    -- the last heartbeat is the only one: `stopping` is set once
    | shutdown =>
      simp only [beq_iff_eq, reduceCtorEq, if_false, if_true, Nat.add_zero] at hcleanups hheartbeats
      have hlast : Lifecycle settings
          { s with posted, application := (s.application.submit .heartbeat true).2 } := by
        generalize hsubmit : s.application.submit .heartbeat true = submitted
        obtain ⟨ok, application⟩ := submitted
        cases ok with
        | false =>
          rw [BoundedExecutor.submit_false hsubmit]
          refine ⟨h.admission, h.configured, hcleanups, h.prunes, ?_, h.unreserved, h.reserve,
            h.running⟩
          show s.application.jobs.countP isHeartbeat + posted.count .shutdown ≤
            if s.stopping then 1 else 0
          omega
        | true =>
          have hunreserved :=
            @BoundedExecutor.Unreserved.submit _ _ _ .heartbeat _ h.unreserved hsubmit
          obtain ⟨rfl, -⟩ := BoundedExecutor.submit_true hsubmit
          refine ⟨h.admission, h.configured, ?_, ?_, ?_, hunreserved, h.reserve, h.running⟩
          · simpa [List.countP_append, isCleanup] using hcleanups
          · simpa [List.countP_append, isPrune] using h.prunes
          · show (s.application.jobs ++ [ApplicationJob.heartbeat]).countP isHeartbeat + posted.count .shutdown ≤
              if s.stopping then 1 else 0
            rw [List.countP_append]
            simp only [List.countP_singleton, isHeartbeat, if_true]
            omega
      exact hlast.closes (closeAll_closes hrun)
    | closeOverloaded =>
      simp only [beq_iff_eq, reduceCtorEq, if_false, Nat.add_zero] at hcleanups hheartbeats
      refine closes ?_ (closeAll_closes hrun)
      exact ⟨h.admission, h.configured, hcleanups, h.prunes, hheartbeats, h.unreserved, h.reserve,
        h.running⟩

/-- `DispatchMessage` submits nothing. -/
theorem dispatch (h : Lifecycle settings s) (id : Nat) (m : Json) :
    Lifecycle settings (s.dispatchMessage id m).1 := by
  have hreleased : Lifecycle settings (s.release id) := h.withState rfl
  rcases dispatchMessage_cases id m s with
    ⟨-, -, -, hcase⟩ | ⟨-, -, -, -, hcase⟩ | ⟨-, -, hcase⟩ | ⟨-, hcase⟩
  · rw [hcase]
    exact h.same rfl (fun _ => rfl) rfl rfl rfl rfl (fun _ _ => rfl) rfl rfl
  · rw [hcase]
    have hdeferred : Lifecycle settings
        (s.withState id (fun c => { c with deferredMessages := c.deferredMessages ++ [m] })) :=
      h.withState rfl
    exact hdeferred.same rfl (fun _ => rfl) rfl rfl rfl rfl (fun _ _ => rfl) rfl rfl
  · obtain ⟨posted, connections, isPosted, hclose, hkind⟩ :=
      requestBackpressureClose_eq id (s.release id)
    rw [hcase, hclose]
    refine hreleased.same rfl (fun _ => rfl) rfl rfl rfl rfl (fun p hp => ?_) rfl rfl
    have hnone : posted.count p = 0 := List.count_eq_zero.mpr fun hmem => hp (hkind p hmem)
    show (s.posted ++ posted).count p = s.posted.count p
    rw [List.count_append, hnone, Nat.add_zero]
  · rw [hcase]
    exact hreleased

/-- The cleanup is over as soon as the network thread hears of it. -/
theorem cleanedUp (h : Lifecycle settings s) {application : BoundedExecutor ApplicationJob}
    (htake : s.application.take = some (.cleanup id, application)) (queue : CredentialQueue.Machine) :
    Lifecycle settings ({ s with application, queue }.cleanup id).1 := by
  obtain ⟨hjobs, happlication⟩ := BoundedExecutor.take_some htake
  have hcleanups := h.cleanups
  have hprunes := h.prunes
  have hheartbeats := h.heartbeats
  rw [hjobs, List.countP_cons] at hcleanups hprunes hheartbeats
  have hcleaned : Lifecycle settings (s.withState id (fun c =>
      { c with
        pendingMessages := c.pendingMessages - (s.state id).deferredMessages.length
        deferredMessages := [] })) := h.withState rfl
  refine ⟨hcleaned.admission, h.configured, ?_, ?_, ?_, h.unreserved.take htake, ?_, ?_⟩
  · show s.pendingCleanup = application.jobs.countP isCleanup +
      (s.posted ++ [Post.cleanupDone]).count Post.cleanupDone
    rw [List.count_append, List.count_singleton_self]
    simp only [isCleanup, if_true] at hcleanups
    omega
  · exact (Nat.le_add_right _ _).trans hprunes
  · show application.jobs.countP isHeartbeat + (s.posted ++ [Post.cleanupDone]).count Post.shutdown ≤
      if s.stopping then 1 else 0
    have hnone : [Post.cleanupDone].count Post.shutdown = 0 := rfl
    rw [List.count_append, hnone]
    omega
  · show application.reserve = _
    rw [happlication]
    exact h.reserve
  · show application.stopping = _
    rw [happlication]
    exact h.running

theorem workerStep (h : Lifecycle settings s) (hstep : WorkerSteps s es s') :
    Lifecycle settings s' := by
  cases hstep with
  | message hidle htake => exact (h.take htake rfl).dispatch _ _
  | cleanup hidle htake hqueue => exact h.cleanedUp htake _
  | complete hidle htake =>
    exact (h.take htake rfl).same rfl (fun _ => rfl) rfl rfl rfl rfl (fun _ _ => rfl) rfl rfl
  | pumps hidle htake hrunning hqueue =>
    exact (h.take htake rfl).same rfl (fun _ => rfl) rfl rfl rfl rfl (fun _ _ => rfl) rfl rfl
  | other hidle htake hjob =>
    rcases hjob with rfl | rfl | rfl | ⟨rfl, -⟩
    · exact h.take htake rfl
    · exact h.take htake rfl
    · exact h.take htake rfl
    · exact h.take htake rfl
  | @submits id =>
    have hpending : Lifecycle settings
        (s.withState id (fun c => { c with credentialPending := true })) := h.withState rfl
    exact hpending.same rfl (fun _ => rfl) rfl rfl rfl rfl (fun _ _ => rfl) rfl rfl
  | @processed id frames =>
    have hpopped : Lifecycle settings { s with frames } :=
      h.same rfl (fun _ => rfl) rfl rfl rfl rfl (fun _ _ => rfl) rfl rfl
    exact hpopped.withState rfl
  | @expiring id frames =>
    have hreset : Lifecycle settings
        (s.withState id (fun c => { c with credentialPending := false })) := h.withState rfl
    exact hreset.same rfl (fun _ => rfl) rfl rfl rfl rfl (fun _ _ => rfl) rfl rfl
  | @completing id =>
    have hreset : Lifecycle settings
        (s.withState id (fun c => { c with credentialPending := false })) := h.withState rfl
    exact hreset.same rfl (fun _ => rfl) rfl rfl rfl rfl (fun _ _ => rfl) rfl rfl
  | @drains id frames m messages =>
    have hundeferred : Lifecycle settings (s.undefer id) := by
      have htail : Lifecycle settings
          (s.withState id (fun c => { c with deferredMessages := c.deferredMessages.tail })) :=
        h.withState rfl
      exact htail.same rfl (fun _ => rfl) rfl rfl rfl rfl (fun _ _ => rfl) rfl rfl
    exact hundeferred.dispatch id m
  | _ => exact h.same rfl (fun _ => rfl) rfl rfl rfl rfl (fun _ _ => rfl) rfl rfl

theorem otherStep (h : Lifecycle settings s) (hstep : OtherSteps s es s') :
    Lifecycle settings s' := by
  cases hstep with
  | takes => exact h.same rfl (fun _ => rfl) rfl rfl rfl rfl (fun _ _ => rfl) rfl rfl
  | @submits worker id w application hworker hrunning hsubmit =>
    have hsubmitted := h.submit (.complete id worker) rfl rfl rfl
    rw [show (ApplicationJob.complete id worker).isLifecycle = true from rfl, hsubmit] at hsubmitted
    exact hsubmitted.same rfl (fun _ => rfl) rfl rfl rfl rfl (fun _ _ => rfl) rfl rfl
  | stops hrunning =>
    have hheartbeats := h.heartbeats
    rw [hrunning] at hheartbeats
    refine ⟨h.admission, h.configured, ?_, h.prunes, ?_, h.unreserved, h.reserve, h.running⟩
    · simpa [post] using h.cleanups
    · simp only [post_posted, post_application, post_stopping, List.count_append, if_true,
        List.count_singleton_self, Bool.false_eq_true, if_false] at hheartbeats ⊢
      omega

theorem start (hstart : (system settings).start s) : Lifecycle settings s := by
  obtain ⟨queue, maxConnections, -, hmax, rfl⟩ := hstart
  exact ⟨Nat.zero_le _, hmax, rfl, Nat.zero_le _, Nat.zero_le _, Nat.zero_le _, rfl, rfl⟩

theorem reachable (h : (system settings).Reachable s) : Lifecycle settings s := by
  refine (h.invariant (I := fun s => Requested settings s ∧ Lifecycle settings s)
    (fun _ hstart => ⟨.start hstart, start hstart⟩) ?_).2
  intro s es s' hboth hstep
  refine ⟨hboth.1.step hstep, ?_⟩
  cases hstep with
  | network hnetwork => exact hboth.2.networkStep hboth.1.known hnetwork
  | worker hworker => exact hboth.2.workerStep hworker
  | other hother => exact hboth.2.otherStep hother

end Lifecycle

/-! ## What is never refused -/

/-- An idle worker that is given a computation has room for it. -/
theorem starting_accepted (h : Requested settings s) {now : TimePoint} {job : CredentialQueue.Job}
    (hpoint : s.queue.point = some (.starting now worker job)) :
    ∃ w, s.workers[worker]? = some w ∧ (w.executor.submit job.id false).1 = true := by
  have hbusy := h.started now worker job hpoint
  obtain ⟨active, hactive, -⟩ := Option.map_eq_some_iff.mp hbusy
  have hlength : worker < s.workers.length := by
    rw [h.executors.1, ← h.sound.limits.1]
    exact (List.getElem?_eq_some_iff.mp (Option.join_eq_some_iff.mp hactive)).1
  have hworker : s.workers[worker]? = some s.workers[worker] := List.getElem?_eq_getElem hlength
  obtain ⟨hcapacity, -, hrunning⟩ := h.executors.2 _ (List.getElem_mem hlength)
  -- nothing is owed yet, so the worker holds no computation of any connection
  have howed : s.queue.owed worker = none := by
    unfold CredentialQueue.Machine.owed
    rw [hpoint]
    exact if_pos rfl
  have hnone : s.workers[worker].executor.jobs = [] := by
    refine List.eq_nil_iff_forall_not_mem.mpr fun id hmem => ?_
    have hheld := h.held id worker
    rw [howed] at hheld
    unfold held at hheld
    rw [hworker] at hheld
    have hcount := List.count_pos_iff.mpr hmem
    simp only [Option.elim_some, reduceCtorEq, if_false] at hheld
    omega
  refine ⟨_, hworker, ?_⟩
  unfold BoundedExecutor.submit BoundedExecutor.room
  rw [hnone, hcapacity, hrunning]
  rfl

/-- `Complete` finds the computation that is over. -/
theorem completing_isSome (h : Requested settings s)
    (hcompleting : .completing id worker ∈ s.frames) (hcaller : s.queue.CallerRuns) (now : TimePoint) :
    (s.queue.queue.complete now worker).isSome = true := by
  have howed := h.owed_of_completing (List.count_pos_iff.mpr hcompleting)
  rw [CredentialQueue.Machine.owed_of_callerRuns hcaller] at howed
  obtain ⟨active, hactive, -⟩ := Option.map_eq_some_iff.mp howed
  obtain ⟨place, owner, hbooks⟩ := h.sound.books
  obtain ⟨queue, hcomplete⟩ := hbooks.complete_isSome (Option.join_eq_some_iff.mp hactive) now
  rw [hcomplete]
  rfl

/-- **Lifecycle work is never refused.** In every state that the threads can reach, connections that
are alive and pending cleanups do not exceed the limit, and each worker has at most one completion
outstanding. So the application worker accepts every lifecycle job, connections can be closed, one
or all of them, an idle worker accepts the computation that it is given, and `Complete` knows the
worker that comes back. -/
theorem lifecycle_never_refused (hreachable : (system settings).Reachable s) :
    s.aliveConnections.card + s.pendingCleanup ≤ s.maxConnections ∧
      (s.application.jobs.filterMap completes).Nodup ∧
      (∀ job : ApplicationJob, (s.application.submit job true).1 = true) ∧
      (∀ id, (s.queueSessionCleanup id).isSome = true) ∧
      (∀ ids, (s.closeAll ids).isSome = true) ∧
      (∀ (now : TimePoint) (worker : Nat) (job : CredentialQueue.Job),
        s.queue.point = some (.starting now worker job) →
        ∃ w, s.workers[worker]? = some w ∧ (w.executor.submit job.id false).1 = true) ∧
      ∀ id worker, .completing id worker ∈ s.frames → s.queue.CallerRuns →
        ∀ now, (s.queue.queue.complete now worker).isSome = true := by
  have hrequested := Requested.reachable hreachable
  have h := Lifecycle.reachable hreachable
  have haccepts := h.accepts hrequested
  refine ⟨le_trans (Nat.le_add_right _ _) h.admission, Lifecycle.completions_nodup hrequested, haccepts,
    fun id => queueSessionCleanup_isSome fun _ => haccepts _, fun ids => ?_,
    fun _ _ _ hpoint => starting_accepted hrequested hpoint,
    fun _ _ hcompleting hcaller now => completing_isSome hrequested hcompleting hcaller now⟩
  obtain ⟨closed, hclosed⟩ := (h.hasRoom hrequested).closeAll ids
  rw [hclosed]
  rfl

/-- A computation is about to be given to an idle worker, and accepted there; and when it comes back its
connection can be closed, and `Complete` knows the worker. -/
theorem lifecycle_never_refused_one : ∃ s s' : Threads,
    (system ⟨2, 1, 8, 8⟩).Reachable s ∧ (system ⟨2, 1, 8, 8⟩).Reachable s' ∧
    (∃ w, s.workers[0]? = some w ∧ (w.executor.submit 1 false).1 = true) ∧
    s'.frames = [.completing 1 0] ∧ (s'.state 1).opened = true ∧
    (s'.queueSessionCleanup 1).isSome = true ∧ (s'.closeAll s'.connections).isSome = true ∧
    (s'.queue.queue.complete 2 0).isSome = true := by
  let job : CredentialQueue.Job := { id := 1, source := "10.0.0.1", deadline := 100 }
  have hplay : (System.play follow started requestStarting).any (fun way =>
      decide (way.2.queue.point = some (.starting 0 0 job)) &&
      (System.play follow way.2 requestCompleting).any (fun rest =>
        decide (rest.2.frames = [.completing 1 0]) && (rest.2.state 1).opened &&
        rest.2.queue.callerRuns)) = true := by
    decide +kernel
  obtain ⟨⟨ts, s⟩, hway, htest⟩ := (Option.any_eq_true _ _).mp hplay
  rw [Bool.and_eq_true, decide_eq_true_eq, Option.any_eq_true] at htest
  obtain ⟨hpoint, ⟨ts', s'⟩, hrest, htest⟩ := htest
  simp only [Bool.and_eq_true, decide_eq_true_eq] at htest
  obtain ⟨⟨hframes, hopened⟩, hcaller⟩ := htest
  have hs : (system ⟨2, 1, 8, 8⟩).Reachable s := (run_of_play started_start hway).reachable
  have hpath : (system ⟨2, 1, 8, 8⟩).Path s ts' s' := System.path_of_play steps_of_follow hrest
  have hs' := hpath.reachable hs
  obtain ⟨-, -, -, -, -, hstarts, -⟩ := lifecycle_never_refused hs
  obtain ⟨-, -, -, hcleanup, hcloses, -, hcompletes⟩ := lifecycle_never_refused hs'
  have hcompleting : Frame.completing 1 0 ∈ s'.frames := by
    rw [hframes]
    exact List.mem_singleton.mpr rfl
  exact ⟨s, s', hs, hs', hstarts 0 0 job hpoint, hframes, hopened, hcleanup 1, hcloses _,
    hcompletes 1 0 hcompleting (CredentialQueue.Machine.callerRuns_iff.mp hcaller) 2⟩

end Threads

end CrossDesk.SignalServer
