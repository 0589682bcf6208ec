import CrossDesk.Lib.System
import CrossDesk.CredentialQueue.Basic

/-!
# Runs of the credential queue

The queue under any sequence of calls. `Pump` takes one step for each turn of its loops and for each
callback, and the answers of the callbacks are part of the step. While an `expire` callback runs the
caller may enqueue, cancel, complete and call `Pump` again, which returns at once.

The log records what happens to each accepted job: its acceptance, the `admit` call that returns
zero, its start and completion, the call of its `expire` callback, its silent cancellation.
-/

namespace CrossDesk.CredentialQueue

/-- What happens to a job. -/
inductive JobEvent where
  | accepted
  | admitted
  | started
  | completed
  | expired
  | canceled
  deriving DecidableEq, Repr

/-- The queue, where `Pump` stands if it runs, and what has happened so far. -/
structure Machine where
  queue : CredentialQueue
  point : Option PumpPoint := none
  log : List (Nat × JobEvent) := []

/-- A call, or a step of `Pump` with the answer of its callback. -/
inductive Label where
  | enqueue (now : TimePoint) (job : Job)
  | cancel (id : Nat)
  | complete (now : TimePoint) (worker : Nat)
  | pump (now : TimePoint)
  | silent
  | alive (answer : Bool)
  | expire
  | expireReturns
  | asked (delay : Nat)
  | startReturns

namespace Machine

/-- Where the caller has control: outside `Pump`, or inside an `expire` callback. -/
def CallerRuns (s : Machine) : Prop :=
  s.point = none ∨ ∃ now expired, s.point = some (.inCallback now expired)

/-- What has happened to a job. -/
def history (s : Machine) (serial : Nat) : List JobEvent :=
  (s.log.filter (fun entry => entry.1 == serial)).map Prod.snd

/-- The steps. -/
inductive Steps (s : Machine) : Label → Machine → Prop where
  | accept {now : TimePoint} {job : Job} {queue : CredentialQueue} (hcaller : s.CallerRuns)
      (haccepted : s.queue.enqueue now job = (true, queue)) :
      Steps s (.enqueue now job)
        { s with queue, log := s.log ++ [(s.queue.stats.accepted, .accepted)] }
  | reject {now : TimePoint} {job : Job} {queue : CredentialQueue} (hcaller : s.CallerRuns)
      (hrejected : s.queue.enqueue now job = (false, queue)) :
      Steps s (.enqueue now job) { s with queue }
  | cancel {id : Nat} (hcaller : s.CallerRuns) :
      Steps s (.cancel id)
        { s with
          queue := s.queue.cancel id
          log := s.log ++
            ((s.queue.findWaiting id).toList.map (fun found => (found.2.2.serial, .canceled))) }
  | complete {now : TimePoint} {worker : Nat} {active : Running} {queue : CredentialQueue}
      (hcaller : s.CallerRuns) (hactive : s.queue.running[worker]? = some (some active))
      (hcompleted : s.queue.complete now worker = some queue) :
      Steps s (.complete now worker)
        { s with queue, log := s.log ++ [(active.serial, .completed)] }
  | pumpAgain {now : TimePoint} (hcaller : s.CallerRuns) (hpumping : s.queue.pumping = true) :
      Steps s (.pump now) s
  | pump {now : TimePoint} (hcaller : s.CallerRuns) (hpumping : s.queue.pumping = false) :
      Steps s (.pump now)
        { s with
          queue := { s.queue with pumping := true }
          point := some (.sources now [] (OrdMap.firstKey s.queue.sources)) }
  -- the loop over the sources
  | enterSource {now : TimePoint} {expired : List Job} {key : String}
      (hpoint : s.point = some (.sources now expired (some key))) :
      Steps s .silent { s with point := some (.jobs now expired key 0) }
  | leaveSources {now : TimePoint} {expired : List Job}
      (hpoint : s.point = some (.sources now expired none)) :
      Steps s .silent { s with point := some (.callbacks now expired) }
  -- the loop over the waiting jobs of a source
  | keepJob {now : TimePoint} {expired : List Job} {key : String} {index : Nat} {source : Source}
      {job : Job} (hpoint : s.point = some (.jobs now expired key index))
      (hsource : s.queue.sources[key]? = some source) (hjob : source.waiting[index]? = some job)
      (hlive : now < job.deadline) :
      Steps s (.alive true) { s with point := some (.jobs now expired key (index + 1)) }
  | expireJob {now : TimePoint} {expired : List Job} {key : String} {index : Nat}
      {source : Source} {job : Job} (hpoint : s.point = some (.jobs now expired key index))
      (hsource : s.queue.sources[key]? = some source) (hjob : source.waiting[index]? = some job)
      (hlate : job.deadline ≤ now) :
      Steps s (.alive true)
        { s with
          queue := s.queue.dropJob key source index job true
          point := some (.jobs now (expired ++ [job]) key index) }
  | dropDead {now : TimePoint} {expired : List Job} {key : String} {index : Nat} {source : Source}
      {job : Job} (hpoint : s.point = some (.jobs now expired key index))
      (hsource : s.queue.sources[key]? = some source) (hjob : source.waiting[index]? = some job) :
      Steps s (.alive false)
        { queue := s.queue.dropJob key source index job false
          point := some (.jobs now expired key index)
          log := s.log ++ [(job.serial, .canceled)] }
  | leaveSource {now : TimePoint} {expired : List Job} {key : String} {index : Nat}
      {source : Source} (hpoint : s.point = some (.jobs now expired key index))
      (hsource : s.queue.sources[key]? = some source) (hend : source.waiting[index]? = none) :
      Steps s .silent
        { s with
          queue := { s.queue with sources := putSource key source s.queue.sources }
          point := some (.sources now expired
            (OrdMap.keyAfter (putSource key source s.queue.sources) key)) }
  -- the loop over the expired jobs
  | callExpire {now : TimePoint} {job : Job} {expired : List Job}
      (hpoint : s.point = some (.callbacks now (job :: expired))) :
      Steps s .expire
        { s with
          point := some (.inCallback now expired)
          log := s.log ++ [(job.serial, .expired)] }
  | expireReturns {now : TimePoint} {expired : List Job}
      (hpoint : s.point = some (.inCallback now expired)) :
      Steps s .expireReturns { s with point := some (.callbacks now expired) }
  | leaveCallbacks {now : TimePoint} (hpoint : s.point = some (.callbacks now [])) :
      Steps s .silent { s with point := some (.workers now 0) }
  -- the loop over the workers
  | busyWorker {now : TimePoint} {worker : Nat} {active : Running}
      (hpoint : s.point = some (.workers now worker))
      (hbusy : s.queue.running[worker]? = some (some active)) :
      Steps s .silent { s with point := some (.workers now (worker + 1)) }
  | idleWorker {now : TimePoint} {worker : Nat} (hpoint : s.point = some (.workers now worker))
      (hidle : s.queue.running[worker]? = some none) :
      Steps s .silent
        { s with
          point := some (.attempts now worker
            (OrdMap.keyAfter s.queue.sources s.queue.lastSource) s.queue.sources.size) }
  | leaveWorkers {now : TimePoint} {worker : Nat} (hpoint : s.point = some (.workers now worker))
      (hend : s.queue.running[worker]? = none) :
      Steps s .silent { s with queue := { s.queue with pumping := false }, point := none }
  -- the loop over the sources for one worker
  | noAttempts {now : TimePoint} {worker : Nat} {key : Option String}
      (hpoint : s.point = some (.attempts now worker key 0)) :
      Steps s .silent { s with point := some (.workers now (worker + 1)) }
  | wrapAround {now : TimePoint} {worker left : Nat}
      (hpoint : s.point = some (.attempts now worker none (left + 1))) :
      Steps s .silent
        { s with
          point := some (.attempts now worker (OrdMap.firstKey s.queue.sources) (left + 1)) }
  | skipSource {now : TimePoint} {worker left : Nat} {key : String} {source : Source}
      (hpoint : s.point = some (.attempts now worker (some key) (left + 1)))
      (hsource : s.queue.sources[key]? = some source)
      (hskip : source.waiting = [] ∨ now < source.notBefore) :
      Steps s .silent
        { s with
          point := some (.attempts now worker (OrdMap.keyAfter s.queue.sources key) left) }
  | askSource {now : TimePoint} {worker left : Nat} {key : String} {source : Source}
      (hpoint : s.point = some (.attempts now worker (some key) (left + 1)))
      (hsource : s.queue.sources[key]? = some source)
      (hask : source.waiting ≠ [] ∧ source.notBefore ≤ now) :
      Steps s .silent { s with point := some (.asking now worker key left) }
  | delayed {now : TimePoint} {worker left : Nat} {key : String} {source : Source} {delay : Nat}
      (hpoint : s.point = some (.asking now worker key left))
      (hsource : s.queue.sources[key]? = some source) (hdelay : 0 < delay) :
      Steps s (.asked delay)
        { s with
          queue := s.queue.delaySource now key source delay
          point := some (.attempts now worker
            (OrdMap.keyAfter (s.queue.delaySource now key source delay).sources key) left) }
  | start {now : TimePoint} {worker left : Nat} {key : String} {source : Source} {job : Job}
      (hpoint : s.point = some (.asking now worker key left))
      (hsource : s.queue.sources[key]? = some source)
      (hjob : source.waiting.head? = some job) :
      Steps s (.asked 0)
        { queue := s.queue.startJob now worker key source job
          point := some (.starting now worker job)
          log := s.log ++ [(job.serial, .admitted), (job.serial, .started)] }
  | startReturns {now : TimePoint} {worker : Nat} {job : Job}
      (hpoint : s.point = some (.starting now worker job)) :
      Steps s .startReturns { s with point := some (.workers now (worker + 1)) }

/-- A queue with the given limits under any calls. -/
def system (workers capacity sourceCapacity : Nat) : System Machine Label where
  start s := ∃ queue, create workers capacity sourceCapacity = some queue ∧ s = { queue }
  step := Steps

/-- The states between callbacks: the caller has control, or `Pump` is about to call back. -/
def BetweenCallbacks (s : Machine) : Prop :=
  match s.point with
  | none => True
  | some (.jobs _ _ key index) =>
    ∃ source job, s.queue.sources[key]? = some source ∧ source.waiting[index]? = some job
  | some (.callbacks _ (_ :: _)) => True
  | some (.inCallback _ _) => True
  | some (.asking _ _ _ _) => True
  | some (.starting _ _ _) => True
  | _ => False

/-! ## Following a run

A label determines its step, so a list of labels can be followed from a state. -/

/-- `CallerRuns`, computed. -/
def callerRuns (s : Machine) : Bool :=
  match s.point with
  | none => true
  | some (.inCallback _ _) => true
  | _ => false

theorem callerRuns_iff {s : Machine} : s.callerRuns = true ↔ s.CallerRuns := by
  unfold callerRuns CallerRuns
  split <;> simp_all

/-- The step of `Pump` to its next callback or the next turn of a loop. -/
def silently (s : Machine) : PumpPoint → Option Machine
  | .sources now expired none => some { s with point := some (.callbacks now expired) }
  | .sources now expired (some key) => some { s with point := some (.jobs now expired key 0) }
  | .jobs now expired key index =>
    match s.queue.sources[key]? with
    | none => none
    | some source =>
      if source.waiting[index]? = none then
        some { s with
          queue := { s.queue with sources := putSource key source s.queue.sources }
          point := some (.sources now expired
            (OrdMap.keyAfter (putSource key source s.queue.sources) key)) }
      else none
  | .callbacks now [] => some { s with point := some (.workers now 0) }
  | .workers now worker =>
    match s.queue.running[worker]? with
    | none => some { s with queue := { s.queue with pumping := false }, point := none }
    | some (some _) => some { s with point := some (.workers now (worker + 1)) }
    | some none =>
      some { s with
        point := some (.attempts now worker
          (OrdMap.keyAfter s.queue.sources s.queue.lastSource) s.queue.sources.size) }
  | .attempts now worker _ 0 => some { s with point := some (.workers now (worker + 1)) }
  | .attempts now worker none (left + 1) =>
    some { s with
      point := some (.attempts now worker (OrdMap.firstKey s.queue.sources) (left + 1)) }
  | .attempts now worker (some key) (left + 1) =>
    match s.queue.sources[key]? with
    | none => none
    | some source =>
      if source.waiting = [] ∨ now < source.notBefore then
        some { s with
          point := some (.attempts now worker (OrdMap.keyAfter s.queue.sources key) left) }
      else some { s with point := some (.asking now worker key left) }
  | _ => none

/-- The step after an answer of `alive`. -/
def answered (s : Machine) (answer : Bool) : PumpPoint → Option Machine
  | .jobs now expired key index =>
    match s.queue.sources[key]? with
    | none => none
    | some source =>
      match source.waiting[index]? with
      | none => none
      | some job =>
        if answer = false then
          some
            { queue := s.queue.dropJob key source index job false
              point := some (.jobs now expired key index)
              log := s.log ++ [(job.serial, .canceled)] }
        else if now < job.deadline then
          some { s with point := some (.jobs now expired key (index + 1)) }
        else
          some { s with
            queue := s.queue.dropJob key source index job true
            point := some (.jobs now (expired ++ [job]) key index) }
  | _ => none

/-- The step after an answer of `admit`. -/
def admitted (s : Machine) (delay : Nat) : PumpPoint → Option Machine
  | .asking now worker key left =>
    match s.queue.sources[key]? with
    | none => none
    | some source =>
      if delay = 0 then
        source.waiting.head?.map (fun job =>
          { queue := s.queue.startJob now worker key source job
            point := some (.starting now worker job)
            log := s.log ++ [(job.serial, .admitted), (job.serial, .started)] })
      else
        some { s with
          queue := s.queue.delaySource now key source delay
          point := some (.attempts now worker
            (OrdMap.keyAfter (s.queue.delaySource now key source delay).sources key) left) }
  | _ => none

/-- The step of a call, while the caller has control. -/
def called (s : Machine) : Label → Option Machine
  | .enqueue now job =>
    let (accepted, queue) := s.queue.enqueue now job
    some { s with
      queue
      log := if accepted then s.log ++ [(s.queue.stats.accepted, .accepted)] else s.log }
  | .cancel id =>
    some { s with
      queue := s.queue.cancel id
      log := s.log ++
        ((s.queue.findWaiting id).toList.map (fun found => (found.2.2.serial, .canceled))) }
  | .complete now worker =>
    match s.queue.running[worker]? with
    | some (some active) =>
      (s.queue.complete now worker).map (fun queue =>
        { s with queue, log := s.log ++ [(active.serial, .completed)] })
    | _ => none
  | .pump now =>
    if s.queue.pumping then some s
    else
      some { s with
        queue := { s.queue with pumping := true }
        point := some (.sources now [] (OrdMap.firstKey s.queue.sources)) }
  | _ => none

/-- The step with a label. -/
def follow (s : Machine) (l : Label) : Option Machine :=
  match l with
  | .silent => s.point.bind s.silently
  | .alive answer => s.point.bind (s.answered answer)
  | .asked delay => s.point.bind (s.admitted delay)
  | .expire =>
    match s.point with
    | some (.callbacks now (job :: expired)) =>
      some { s with
        point := some (.inCallback now expired)
        log := s.log ++ [(job.serial, .expired)] }
    | _ => none
  | .expireReturns =>
    match s.point with
    | some (.inCallback now expired) => some { s with point := some (.callbacks now expired) }
    | _ => none
  | .startReturns =>
    match s.point with
    | some (.starting now worker _) => some { s with point := some (.workers now (worker + 1)) }
    | _ => none
  | call => if s.callerRuns then s.called call else none

theorem steps_of_silently {s s' : Machine} {point : PumpPoint} (hpoint : s.point = some point)
    (h : s.silently point = some s') : s.Steps .silent s' := by
  unfold silently at h
  split at h
  case h_1 =>
    cases h
    exact .leaveSources hpoint
  case h_2 =>
    cases h
    exact .enterSource hpoint
  case h_3 =>
    split at h
    case h_1 => cases h
    case h_2 source hsource =>
      split at h
      case isTrue hend =>
        cases h
        exact .leaveSource hpoint hsource hend
      case isFalse => cases h
  case h_4 =>
    cases h
    exact .leaveCallbacks hpoint
  case h_5 =>
    split at h
    case h_1 hend =>
      cases h
      exact .leaveWorkers hpoint hend
    case h_2 hbusy =>
      cases h
      exact .busyWorker hpoint hbusy
    case h_3 hidle =>
      cases h
      exact .idleWorker hpoint hidle
  case h_6 =>
    cases h
    exact .noAttempts hpoint
  case h_7 =>
    cases h
    exact .wrapAround hpoint
  case h_8 =>
    split at h
    case h_1 => cases h
    case h_2 source hsource =>
      split at h
      case isTrue hskip =>
        cases h
        exact .skipSource hpoint hsource hskip
      case isFalse hask =>
        cases h
        rw [not_or, Nat.not_lt] at hask
        exact .askSource hpoint hsource hask
  case h_9 => cases h

theorem steps_of_answered {s s' : Machine} {answer : Bool} {point : PumpPoint}
    (hpoint : s.point = some point) (h : s.answered answer point = some s') :
    s.Steps (.alive answer) s' := by
  unfold answered at h
  split at h
  case h_2 => cases h
  split at h
  case h_1 => cases h
  case h_2 source hsource =>
    split at h
    case h_1 => cases h
    case h_2 job hjob =>
      cases answer with
      | false =>
        cases h
        exact .dropDead hpoint hsource hjob
      | true =>
        rw [if_neg (by decide)] at h
        split at h
        case isTrue hlive =>
          cases h
          exact .keepJob hpoint hsource hjob hlive
        case isFalse hlate =>
          cases h
          exact .expireJob hpoint hsource hjob (Nat.le_of_not_lt hlate)

theorem steps_of_admitted {s s' : Machine} {delay : Nat} {point : PumpPoint}
    (hpoint : s.point = some point) (h : s.admitted delay point = some s') :
    s.Steps (.asked delay) s' := by
  unfold admitted at h
  split at h
  case h_2 => cases h
  split at h
  case h_1 => cases h
  case h_2 source hsource =>
    cases delay with
    | zero =>
      obtain ⟨job, hjob, rfl⟩ := Option.map_eq_some_iff.mp h
      exact .start hpoint hsource hjob
    | succ delay =>
      cases h
      exact .delayed hpoint hsource (Nat.succ_pos delay)

theorem steps_of_called {s s' : Machine} {l : Label} (hcaller : s.CallerRuns)
    (h : s.called l = some s') : s.Steps l s' := by
  cases l with
  | enqueue now job =>
    cases henqueue : s.queue.enqueue now job with
    | mk accepted queue =>
      simp only [called, henqueue] at h
      cases h
      cases accepted with
      | false => exact .reject hcaller henqueue
      | true => exact .accept hcaller henqueue
  | cancel id =>
    cases h
    exact .cancel hcaller
  | complete now worker =>
    simp only [called] at h
    split at h
    case h_1 active hactive =>
      obtain ⟨queue, hcompleted, rfl⟩ := Option.map_eq_some_iff.mp h
      exact .complete hcaller hactive hcompleted
    case h_2 => cases h
  | pump now =>
    simp only [called] at h
    split at h
    case isTrue hpumping =>
      cases h
      exact .pumpAgain hcaller hpumping
    case isFalse hpumping =>
      cases h
      exact .pump hcaller (Bool.eq_false_of_not_eq_true hpumping)
  | silent => cases h
  | alive => cases h
  | expire => cases h
  | expireReturns => cases h
  | asked => cases h
  | startReturns => cases h

theorem steps_of_follow {s s' : Machine} {l : Label} (h : s.follow l = some s') : s.Steps l s' := by
  unfold follow at h
  split at h
  case h_1 =>
    obtain ⟨point, hpoint, h⟩ := Option.bind_eq_some_iff.mp h
    exact steps_of_silently hpoint h
  case h_2 =>
    obtain ⟨point, hpoint, h⟩ := Option.bind_eq_some_iff.mp h
    exact steps_of_answered hpoint h
  case h_3 =>
    obtain ⟨point, hpoint, h⟩ := Option.bind_eq_some_iff.mp h
    exact steps_of_admitted hpoint h
  case h_4 =>
    split at h
    case h_1 hpoint =>
      cases h
      exact .callExpire hpoint
    case h_2 => cases h
  case h_5 =>
    split at h
    case h_1 hpoint =>
      cases h
      exact .expireReturns hpoint
    case h_2 => cases h
  case h_6 =>
    split at h
    case h_1 hpoint =>
      cases h
      exact .startReturns hpoint
    case h_2 => cases h
  case h_7 =>
    split at h
    case isTrue hcaller => exact steps_of_called (callerRuns_iff.mp hcaller) h
    case isFalse => cases h

/-- A step, with its label. -/
def attempt (s : Machine) (l : Label) : Option (Label × Machine) :=
  (s.follow l).map (fun s' => (l, s'))

theorem attempt_steps (s : Machine) (l l' : Label) (s' : Machine)
    (h : s.attempt l = some (l', s')) : s.Steps l' s' := by
  obtain ⟨s'', hfollow, heq⟩ := Option.map_eq_some_iff.mp h
  cases heq
  exact steps_of_follow hfollow

end Machine

end CrossDesk.CredentialQueue
