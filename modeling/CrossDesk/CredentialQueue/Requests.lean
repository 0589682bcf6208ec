import CrossDesk.CredentialQueue.Conservation

/-!
# The queue as its caller sees it

To the server a connection has a request in the queue while its job waits or runs, or is about to be
told that it expired (`requests`), and a worker is owed the end of the computation that it was given
(`owed`). Each step of the queue adds, ends or moves what these two say, whatever it does to the
sources, the counters and the order of the jobs.
-/

namespace CrossDesk.CredentialQueue

/-- The steps of `Pump` between its callbacks, and those in which it learns something. -/
def Label.isInternal : Label → Bool
  | .silent | .alive _ | .asked _ => true
  | _ => false

namespace Machine

/-- The jobs of a connection that are waiting, running, or about to expire. -/
def requests (id : Nat) (m : Machine) : Nat :=
  (if id ∈ m.queue.ids then 1 else 0) + (dueAt m.point).countP (fun job => job.id == id)

/-- The connection whose job occupies a worker. -/
def busy (worker : Nat) (m : Machine) : Option Nat := (m.queue.running[worker]?.join).map Running.id

/-- The worker that is being given a job. -/
def starting : Option PumpPoint → Option Nat
  | some (.starting _ worker _) => some worker
  | _ => none

/-- The connection for which a worker has to come back. -/
def owed (worker : Nat) (m : Machine) : Option Nat :=
  if starting m.point = some worker then none else m.busy worker

variable {workers capacity sourceCapacity : Nat} {m m' : Machine} {id worker : Nat}

/-- Whether a job waits or runs, its connection has a request. -/
theorem requests_pos_of_mem (h : id ∈ m.queue.ids) : 0 < m.requests id := by
  unfold requests
  rw [if_pos h]
  omega

/-- A worker is busy with a job that is in the queue. -/
theorem mem_ids_of_busy (h : Sound workers capacity sourceCapacity m) (hbusy : m.busy worker = some id) :
    id ∈ m.queue.ids := by
  obtain ⟨place, owner, hbooks⟩ := h.books
  obtain ⟨active, hactive, rfl⟩ := Option.map_eq_some_iff.mp hbusy
  exact (hbooks.ids active.id).mpr (.inr ⟨worker, active, Option.join_eq_some_iff.mp hactive, rfl⟩)

/-- The worker of the job at `starting` is occupied by it. -/
def Started (m : Machine) : Prop :=
  ∀ (now : TimePoint) (worker : Nat) (job : Job), m.point = some (.starting now worker job) →
    m.busy worker = some job.id

/-- Where the caller has control no worker is being given a job. -/
theorem owed_of_callerRuns (h : m.CallerRuns) (worker : Nat) : m.owed worker = m.busy worker := by
  unfold owed
  rcases h with hpoint | ⟨now, due, hpoint⟩
  · rw [hpoint]
    rfl
  · rw [hpoint]
    rfl

theorem started_of_callerRuns (h : m.CallerRuns) : Started m := by
  intro now worker job hpoint
  rcases h with hnone | ⟨_, _, hcallback⟩
  · rw [hnone] at hpoint
    cases hpoint
  · rw [hcallback] at hpoint
    cases hpoint

/-! ## The calls -/

/-- A request that was accepted is the only one of its connection. -/
theorem requests_accept {now : TimePoint} {job : Job} {queue : CredentialQueue}
    {log : List (Nat × JobEvent)} (haccepted : m.queue.enqueue now job = (true, queue)) (id : Nat) :
    requests id { m with queue, log } = requests id m + (if id = job.id then 1 else 0) ∧
      owed worker { m with queue, log } = owed worker m := by
  obtain ⟨source, job', hsame, -, -, -, -, hfree, rfl⟩ := Books.enqueue_true haccepted
  refine ⟨?_, rfl⟩
  unfold requests addJob
  rw [hsame]
  by_cases hid : id = job.id
  · subst hid
    simp [hfree]
    omega
  · simp [hid]

/-- A request that was rejected changes a counter. -/
theorem requests_reject {now : TimePoint} {job : Job} {queue : CredentialQueue}
    (hrejected : m.queue.enqueue now job = (false, queue)) :
    queue.ids = m.queue.ids ∧ queue.running = m.queue.running := by
  unfold enqueue at hrejected
  split at hrejected
  · cases hrejected
    exact ⟨rfl, rfl⟩
  · split at hrejected
    · cases hrejected
      exact ⟨rfl, rfl⟩
    · generalize (if job.source = "" then { job with source := "unknown" } else job) = job'
        at hrejected
      dsimp only at hrejected
      split at hrejected
      · cases hrejected
        exact ⟨rfl, rfl⟩
      · cases hrejected

/-- What `Pump` finds when it is entered. -/
theorem requests_pump {now : TimePoint} (h : Sound workers capacity sourceCapacity m)
    (hstep : m.Steps (.pump now) m') (id : Nat) :
    requests id m' = requests id m ∧ owed worker m' = owed worker m ∧
      m'.queue.ids = m.queue.ids ∧ (Started m → Started m') := by
  cases hstep with
  | pumpAgain => exact ⟨rfl, rfl, rfl, fun hstarted => hstarted⟩
  | pump hcaller hidle =>
    have hnone : m.point = none := by
      by_contra hinside
      exact absurd (h.pumping hinside) (by rw [hidle]; nofun)
    refine ⟨?_, ?_, rfl, (by intro _ _ _ _ hnew; cases hnew)⟩
    · unfold requests
      rw [hnone]
      rfl
    · unfold owed
      rw [hnone]
      rfl

/-- `Cancel` ends a request of the connection, if it waits. -/
theorem requests_cancel {id' : Nat} (hstep : m.Steps (.cancel id') m') (id : Nat) :
    requests id m' ≤ requests id m ∧ owed worker m' = owed worker m ∧ m'.point = m.point := by
  cases hstep with
  | cancel hcaller =>
    unfold requests owed busy cancel
    cases hfound : m.queue.findWaiting id' with
    | none => exact ⟨le_rfl, rfl, rfl⟩
    | some found =>
      obtain ⟨key, source, job⟩ := found
      refine ⟨?_, rfl, rfl⟩
      have hsub := Finset.erase_subset id' m.queue.ids
      dsimp only
      split
      · next hmem => rw [if_pos (hsub hmem)]
      · omega

/-- The end of a computation ends the request. -/
theorem requests_complete {now : TimePoint} (h : Sound workers capacity sourceCapacity m)
    (hstep : m.Steps (.complete now worker) m') :
    ∃ active : Nat, m.busy worker = some active ∧ m'.point = m.point ∧
      (∀ id, requests id m' + (if id = active then 1 else 0) = requests id m) ∧
      ∀ worker', m'.busy worker' = if worker' = worker then none else m.busy worker' := by
  obtain ⟨place, owner, hbooks⟩ := h.books
  cases hstep with
  | @complete _ _ active queue hcaller hactive hcompleted =>
    have hbusy : m.busy worker = some active.id := by
      unfold busy
      rw [hactive]
      rfl
    have hmem := mem_ids_of_busy h hbusy
    obtain ⟨_, _, source, hsource⟩ := hbooks.running worker active hactive
    unfold CredentialQueue.complete at hcompleted
    rw [hactive] at hcompleted
    simp only [hsource, Option.some.injEq] at hcompleted
    subst hcompleted
    refine ⟨active.id, hbusy, rfl, fun id => ?_, fun worker' => ?_⟩
    · unfold requests
      by_cases hid : id = active.id
      · subst hid
        simp [hmem]
        omega
      · simp [hid]
    · unfold busy
      rw [List.getElem?_set]
      by_cases hworker : worker' = worker
      · subst hworker
        have hlength : worker' < m.queue.running.length := (List.getElem?_eq_some_iff.mp hactive).1
        simp [hlength]
      · simp [hworker, Ne.symm hworker]

/-- A connection is told that its request expired. -/
theorem requests_expire {now : TimePoint} {job : Job} {due : List Job}
    (hpoint : m.point = some (.callbacks now (job :: due))) (hstep : m.Steps .expire m') :
    (∀ id, requests id m' + (if id = job.id then 1 else 0) = requests id m) ∧
      (∀ worker, owed worker m' = owed worker m) ∧ m'.CallerRuns := by
  cases hstep with
  | callExpire hpoint' =>
    rw [hpoint] at hpoint'
    cases hpoint'
    refine ⟨fun id => ?_, fun worker => ?_, .inr ⟨now, due, rfl⟩⟩
    · unfold requests
      rw [hpoint]
      simp only [dueAt, List.countP_cons, beq_iff_eq, eq_comm (a := job.id)]
      omega
    · unfold owed
      rw [hpoint]
      rfl

theorem requests_expireReturns (hstep : m.Steps .expireReturns m') :
    (∀ id, requests id m' = requests id m) ∧ (∀ worker, owed worker m' = owed worker m) ∧
      Started m' := by
  cases hstep with
  | expireReturns hpoint =>
    refine ⟨fun id => ?_, fun worker => ?_, (by intro _ _ _ hnew; cases hnew)⟩
    · unfold requests
      rw [hpoint]
      rfl
    · unfold owed
      rw [hpoint]
      rfl

/-- A worker was given its job. -/
theorem requests_startReturns {now : TimePoint} {job : Job}
    (hpoint : m.point = some (.starting now worker job)) (hstep : m.Steps .startReturns m') :
    (∀ id, requests id m' = requests id m) ∧ Started m' ∧ owed worker m = none ∧
      ∀ worker', owed worker' m' = if worker' = worker then m.busy worker else owed worker' m := by
  cases hstep with
  | startReturns hpoint' =>
    rw [hpoint] at hpoint'
    cases hpoint'
    refine ⟨fun id => ?_, (by intro _ _ _ hnew; cases hnew), ?_, fun worker' => ?_⟩
    · unfold requests
      rw [hpoint]
      rfl
    · unfold owed
      rw [hpoint]
      exact if_pos rfl
    · unfold owed
      rw [hpoint]
      by_cases hworker : worker' = worker
      · subst hworker
        simp [starting]
        rfl
      · simp [starting, hworker, Ne.symm hworker]
        rfl

/-! ## Inside `Pump` -/

/-- Dropping a job that is in the queue. -/
theorem requests_dropJob {key : String} {source : Source} {index : Nat} {job : Job} {expired : Bool}
    {point point' : Option PumpPoint} {log : List (Nat × JobEvent)}
    (hmem : job.id ∈ m.queue.ids) (hpoint : m.point = point)
    (hdue : dueAt point' = dueAt point ++ if expired then [job] else []) (id : Nat) :
    requests id ⟨m.queue.dropJob key source index job expired, point', log⟩ ≤ requests id m := by
  unfold requests dropJob
  rw [hpoint, hdue]
  dsimp only
  by_cases hid : id = job.id
  · subst hid
    rw [if_neg (Finset.notMem_erase _ _), if_pos hmem, List.countP_append]
    cases expired with
    | true => simp
    | false => simp
  · have hother : (job.id == id) = false := by simpa using Ne.symm hid
    rw [List.countP_append]
    cases expired with
    | true => simp [hid, hother]
    | false => simp [hid]

/-- Inside `Pump` no request is added, and no worker is owed more. -/
theorem requests_internal (h : Sound workers capacity sourceCapacity m) {l : Label}
    (hinternal : l.isInternal = true) (hstep : m.Steps l m') :
    (∀ id, requests id m' ≤ requests id m) ∧ (∀ worker, owed worker m' = owed worker m) ∧
      (Started m → Started m') := by
  obtain ⟨place, owner, hbooks⟩ := h.books
  -- a step that only moves the program point
  have hmove : ∀ {point point' : PumpPoint} {queue : CredentialQueue}, m.point = some point →
      queue.ids = m.queue.ids → queue.running = m.queue.running →
      dueAt (some point') = dueAt (some point) → starting (some point') = none →
      starting (some point) = none →
      (∀ id, requests id ⟨queue, some point', m.log⟩ ≤ requests id m) ∧
      (∀ worker, owed worker ⟨queue, some point', m.log⟩ = owed worker m) ∧
      (Started m → Started ⟨queue, some point', m.log⟩) := by
    intro point point' queue hpoint hids hrunning hdue hnew hold
    refine ⟨fun id => ?_, fun worker => ?_, fun _ now worker job heq => ?_⟩
    · unfold requests
      rw [hpoint, hdue, hids]
    · unfold owed busy
      rw [hpoint, hnew, hold, hrunning]
    · cases heq
      cases hnew
  -- a job that waits is in the queue
  have hwaiting : ∀ {key : String} {source : Source} {index : Nat} {job : Job},
      m.queue.sources[key]? = some source → source.waiting[index]? = some job →
      job.id ∈ m.queue.ids := by
    intro key source index job hsource hjob
    exact (hbooks.ids job.id).mpr
      (.inl ⟨key, job, ⟨source, hsource, List.mem_of_getElem? hjob⟩, rfl⟩)
  cases hstep with
  | accept => cases hinternal
  | reject => cases hinternal
  | cancel => cases hinternal
  | complete => cases hinternal
  | pumpAgain => cases hinternal
  | pump => cases hinternal
  | callExpire => cases hinternal
  | expireReturns => cases hinternal
  | startReturns => cases hinternal
  | enterSource hpoint => exact hmove hpoint rfl rfl rfl rfl rfl
  | leaveSources hpoint => exact hmove hpoint rfl rfl rfl rfl rfl
  | keepJob hpoint => exact hmove hpoint rfl rfl rfl rfl rfl
  | expireJob hpoint hsource hjob =>
    refine ⟨requests_dropJob (hwaiting hsource hjob) hpoint rfl, fun worker => ?_,
      (by intro _ _ _ _ hnew; cases hnew)⟩
    unfold owed
    rw [hpoint]
    rfl
  | dropDead hpoint hsource hjob =>
    refine ⟨requests_dropJob (hwaiting hsource hjob) hpoint (by simp [dueAt]), fun worker => ?_,
      (by intro _ _ _ _ hnew; cases hnew)⟩
    unfold owed
    rw [hpoint]
    rfl
  | leaveSource hpoint => exact hmove hpoint rfl rfl rfl rfl rfl
  | leaveCallbacks hpoint => exact hmove hpoint rfl rfl rfl rfl rfl
  | busyWorker hpoint => exact hmove hpoint rfl rfl rfl rfl rfl
  | idleWorker hpoint => exact hmove hpoint rfl rfl rfl rfl rfl
  | leaveWorkers hpoint =>
    refine ⟨fun id => ?_, fun worker => ?_, (by intro _ _ _ _ hnew; cases hnew)⟩
    · unfold requests
      rw [hpoint]
      rfl
    · unfold owed
      rw [hpoint]
      rfl
  | noAttempts hpoint => exact hmove hpoint rfl rfl rfl rfl rfl
  | wrapAround hpoint => exact hmove hpoint rfl rfl rfl rfl rfl
  | skipSource hpoint => exact hmove hpoint rfl rfl rfl rfl rfl
  | askSource hpoint => exact hmove hpoint rfl rfl rfl rfl rfl
  | delayed hpoint => exact hmove hpoint rfl rfl rfl rfl rfl
  | @start now worker left key source job hpoint hsource hjob =>
    have hidle : m.queue.running[worker]? = some none := h.idle worker (by rw [hpoint]; rfl)
    have hlength : worker < m.queue.running.length := (List.getElem?_eq_some_iff.mp hidle).1
    refine ⟨fun id => ?_, fun worker' => ?_, fun _ now' worker' job' heq => ?_⟩
    · unfold requests
      rw [hpoint]
      rfl
    · unfold owed busy
      rw [hpoint]
      by_cases hworker : worker' = worker
      · subst hworker
        simp [starting, hidle]
      · simp [starting, startJob, Ne.symm hworker]
    · cases heq
      unfold busy startJob
      simp [hlength]

end Machine

end CrossDesk.CredentialQueue
