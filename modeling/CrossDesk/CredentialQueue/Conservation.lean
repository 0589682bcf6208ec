import CrossDesk.CredentialQueue.Books

/-!
# Conservation

Every step of a run keeps the books; `Sound` adds what depends on where `Pump` stands: the worker it
is about to fill is idle, and a source has something outstanding unless `Pump` is just emptying it.
The theorem at the end restates the invariant in terms of the five structures of the queue and of
the histories of its jobs.
-/

namespace CrossDesk.CredentialQueue

/-- The expired jobs whose callback is still to come. -/
def dueAt : Option PumpPoint → List Job
  | some (.sources _ expired _) => expired
  | some (.jobs _ expired _ _) => expired
  | some (.callbacks _ expired) => expired
  | some (.inCallback _ expired) => expired
  | _ => []

/-- The source that `Pump` is emptying. -/
def emptying : Option PumpPoint → Option String
  | some (.jobs _ _ key _) => some key
  | _ => none

/-- The worker that `Pump` is about to fill. -/
def filling : Option PumpPoint → Option Nat
  | some (.attempts _ worker _ _) => some worker
  | some (.asking _ worker _ _) => some worker
  | _ => none

/-- The invariant of a run of a queue with the given limits. -/
structure Sound (workers capacity sourceCapacity : Nat) (s : Machine) : Prop where
  limits : s.queue.running.length = workers ∧ s.queue.capacity = capacity ∧
    s.queue.sourceCapacity = sourceCapacity
  books : ∃ place owner, Books s.queue (dueAt s.point) s.log place owner
  positive : ∀ (key : String) (source : Source), s.queue.sources[key]? = some source →
    emptying s.point ≠ some key → 0 < source.outstanding
  idle : ∀ worker, filling s.point = some worker → s.queue.running[worker]? = some none
  pumping : s.point ≠ none → s.queue.pumping = true

namespace Sound

variable {workers capacity sourceCapacity : Nat} {s : Machine}

theorem start (h : (Machine.system workers capacity sourceCapacity).start s) :
    Sound workers capacity sourceCapacity s := by
  obtain ⟨queue, hcreate, rfl⟩ := h
  unfold create at hcreate
  split at hcreate
  · cases hcreate
  rename_i hpositive
  cases hcreate
  have hnothing : ∀ (key : String) (source : Source),
      (∅ : OrdMap String Source)[key]? ≠ some source := by
    intro key source h
    simp at h
  have hidle : ∀ (worker : Nat) (r : Running),
      (List.replicate workers none)[worker]? ≠ some (some r) := by
    intro worker r h
    rw [List.getElem?_replicate] at h
    split at h <;> cases h
  -- No serial has been used, and whoever asks for a job finds none.
  refine ⟨⟨List.length_replicate, rfl, rfl⟩, ⟨fun _ => .unborn, fun n => n, ?_⟩, ?_, ?_, ?_⟩
  · refine ⟨?placed, ⟨fun n => by simp [historyIn, Place.history]⟩, ?shared, ?counted⟩
    case placed =>
      constructor
      case waiting =>
        intro key job hqueued
        obtain ⟨source, hs, -⟩ := hqueued
        exact absurd hs (hnothing key source)
      case waiting_nodup => exact fun key source hs => absurd hs (hnothing key source)
      case running => exact fun worker r hr => absurd hr (hidle worker r)
      case expiring => simp [dueAt]
      case expiring_nodup => simp [dueAt]
      case found_waiting =>
        intro n key hn
        cases hn
      case found_running =>
        intro n worker hn
        cases hn
      case found_expiring =>
        intro n hn
        cases hn
      case unborn => simp
    case shared =>
      constructor
      case outstanding => exact fun key source hs => absurd hs (hnothing key source)
      case source_capacity => exact fun key source hs => absurd hs (hnothing key source)
      case source_capacity_pos => exact Nat.pos_of_ne_zero (fun h => hpositive (.inr (.inr h)))
    case counted =>
      constructor
      case ids =>
        intro x
        refine ⟨fun h => absurd h (Finset.notMem_empty x), ?_⟩
        rintro (⟨key, job, ⟨source, hs, _⟩, _⟩ | ⟨worker, r, hr, _⟩)
        · exact absurd hs (hnothing key source)
        · exact absurd hr (hidle worker r)
      case capacity => simp
      case accepted_eq => simp
      case started_eq => simp [active, List.countP_replicate]
  · exact fun key source hs => absurd hs (hnothing key source)
  · simp [filling]
  · simp

/-- `Pump` moves on without touching the queue. -/
theorem move (h : Sound workers capacity sourceCapacity s) {point : PumpPoint}
    (hrunning : s.point ≠ none) (hdue : dueAt (some point) = dueAt s.point)
    (hempty : ∀ (key : String) (source : Source), s.queue.sources[key]? = some source →
      emptying (some point) ≠ some key → emptying s.point = some key → 0 < source.outstanding)
    (hidle : ∀ worker, filling (some point) = some worker →
      s.queue.running[worker]? = some none) :
    Sound workers capacity sourceCapacity { s with point := some point } where
  limits := h.limits
  books := by
    obtain ⟨place, owner, hbooks⟩ := h.books
    exact ⟨place, owner, by rw [hdue]; exact hbooks⟩
  positive := by
    intro key source hs hkey
    by_cases hold : emptying s.point = some key
    · exact hempty key source hs hkey hold
    · exact h.positive key source hs hold
  idle := hidle
  pumping := fun _ => h.pumping hrunning

/-- A call by the caller, which has control: the books are kept, and every source it leaves has
something outstanding. -/
theorem call (h : Sound workers capacity sourceCapacity s) (hcaller : s.CallerRuns)
    {queue : CredentialQueue} {log : List (Nat × JobEvent)}
    (hlimits : queue.running.length = s.queue.running.length ∧ queue.capacity = s.queue.capacity ∧
      queue.sourceCapacity = s.queue.sourceCapacity ∧ queue.pumping = s.queue.pumping)
    (hbooks : ∀ place owner, Books s.queue (dueAt s.point) s.log place owner →
      ∃ place' owner', Books queue (dueAt s.point) log place' owner')
    (hpositive : (∀ (key : String) (source : Source), s.queue.sources[key]? = some source →
        0 < source.outstanding) →
      ∀ (key : String) (source : Source), queue.sources[key]? = some source →
        0 < source.outstanding) :
    Sound workers capacity sourceCapacity { s with queue, log } := by
  -- The caller runs before the loop or in a callback, where no source is being emptied or filled.
  have hpoint : emptying s.point = none ∧ filling s.point = none := by
    rcases hcaller with hnone | ⟨now, expired, hcallback⟩
    · rw [hnone]
      exact ⟨rfl, rfl⟩
    · rw [hcallback]
      exact ⟨rfl, rfl⟩
  obtain ⟨hrunning, hcap, hsource, hpump⟩ := hlimits
  constructor
  case limits =>
    dsimp only
    rw [hrunning, hcap, hsource]
    exact h.limits
  case books =>
    obtain ⟨place, owner, hold⟩ := h.books
    exact hbooks place owner hold
  case positive =>
    intro key source hs _
    refine hpositive (fun key source hs => h.positive key source hs ?_) key source hs
    rw [hpoint.1]
    exact nofun
  case idle =>
    intro worker hworker
    dsimp only at hworker
    rw [hpoint.2] at hworker
    cases hworker
  case pumping =>
    intro hp
    dsimp only
    rw [hpump]
    exact h.pumping hp

/-- A source that was put back has something outstanding. -/
theorem putSource_positive {key : String} {source : Source} {sources : OrdMap String Source}
    (hsources : ∀ (k : String) (src : Source), k ≠ key → sources[k]? = some src →
      0 < src.outstanding) (k : String) (src : Source)
    (hs : (putSource key source sources)[k]? = some src) : 0 < src.outstanding := by
  have hold := hsources k src
  unfold putSource at hs
  split at hs
  · grind
  · grind

/-- The job that `Cancel` finds waits at a source. -/
theorem findWaiting_eq_some {q : CredentialQueue} {id : Nat} {key : String} {source : Source}
    {job : Job} (h : q.findWaiting id = some (key, source, job)) :
    q.sources[key]? = some source ∧ job ∈ source.waiting ∧ job.id = id := by
  unfold findWaiting at h
  obtain ⟨entry, hmem, hfound⟩ := List.exists_of_findSome?_eq_some h
  obtain ⟨job', hfind, heq⟩ := Option.map_eq_some_iff.mp hfound
  cases heq
  have hid : job.id = id := by simpa using List.find?_some hfind
  exact ⟨OrdMap.mem_toList.mp hmem, List.mem_of_find?_eq_some hfind, hid⟩

/-- `Cancel` drops one waiting job, and its source when nothing is left. -/
theorem cancel (h : Sound workers capacity sourceCapacity s) (hcaller : s.CallerRuns) (id : Nat) :
    Sound workers capacity sourceCapacity
      { s with
        queue := s.queue.cancel id
        log := s.log ++
          ((s.queue.findWaiting id).toList.map (fun found => (found.2.2.serial, .canceled))) } := by
  unfold CredentialQueue.cancel
  cases hfound : s.queue.findWaiting id with
  | none =>
    simp only [Option.toList_none, List.map_nil, List.append_nil]
    exact h
  | some found =>
    obtain ⟨key, source, job⟩ := found
    obtain ⟨hsource, hmem, hid⟩ := findWaiting_eq_some hfound
    have hindex : source.waiting[source.waiting.idxOf job]? = some job :=
      List.getElem?_idxOf hmem
    have herase : source.waiting.erase job = source.waiting.eraseIdx (source.waiting.idxOf job) :=
      List.erase_eq_eraseIdx_of_idxOf rfl
    simp only [Option.toList_some, List.map_cons, List.map_nil, herase]
    refine h.call hcaller ⟨rfl, rfl, rfl, rfl⟩ ?_ ?_
    · intro place owner hbooks
      have hdrop := hbooks.drop hsource hindex false
      simp only [Bool.false_eq_true, if_false, dropJob, hid] at hdrop
      exact ⟨_, owner, Books.put (q := { s.queue with
        ids := s.queue.ids.erase id
        stats := { s.queue.stats with canceled := s.queue.stats.canceled + 1 } }) hdrop⟩
    · intro hpositive
      exact putSource_positive (fun k src _ hs => hpositive k src hs)

theorem accept (h : Sound workers capacity sourceCapacity s) (hcaller : s.CallerRuns)
    {now : TimePoint} {job : Job} {queue : CredentialQueue}
    (haccepted : s.queue.enqueue now job = (true, queue)) :
    Sound workers capacity sourceCapacity
      { s with queue, log := s.log ++ [(s.queue.stats.accepted, .accepted)] } := by
  obtain ⟨source, job', hid, hserial, -, hsource, hcapacity, hfree, rfl⟩ :=
    Books.enqueue_true haccepted
  refine h.call hcaller ⟨rfl, rfl, rfl, rfl⟩ ?_ ?_
  · intro place owner hbooks
    rw [← hid] at hfree
    have hadd := hbooks.add hserial hsource hfree hcapacity
    rw [hserial] at hadd
    exact ⟨_, _, hadd⟩
  · intro hpositive key src hs
    have hold := hpositive key src
    unfold addJob at hs
    grind

theorem reject (h : Sound workers capacity sourceCapacity s) (hcaller : s.CallerRuns)
    {now : TimePoint} {job : Job} {queue : CredentialQueue}
    (hrejected : s.queue.enqueue now job = (false, queue)) :
    Sound workers capacity sourceCapacity { s with queue } := by
  have hother : queue.sources = s.queue.sources ∧ queue.running = s.queue.running ∧
      queue.ids = s.queue.ids ∧ queue.capacity = s.queue.capacity ∧
      queue.sourceCapacity = s.queue.sourceCapacity ∧ queue.pumping = s.queue.pumping ∧
      queue.stats.accepted = s.queue.stats.accepted ∧
      queue.stats.started = s.queue.stats.started ∧
      queue.stats.completed = s.queue.stats.completed ∧
      queue.stats.canceled = s.queue.stats.canceled ∧
      queue.stats.expired = s.queue.stats.expired := by
    unfold enqueue at hrejected
    split at hrejected
    · cases hrejected
      exact ⟨rfl, rfl, rfl, rfl, rfl, rfl, rfl, rfl, rfl, rfl, rfl⟩
    split at hrejected
    · cases hrejected
      exact ⟨rfl, rfl, rfl, rfl, rfl, rfl, rfl, rfl, rfl, rfl, rfl⟩
    dsimp only at hrejected
    generalize (if job.source = "" then { job with source := "unknown" } else job) = job'
      at hrejected
    split at hrejected
    · cases hrejected
      exact ⟨rfl, rfl, rfl, rfl, rfl, rfl, rfl, rfl, rfl, rfl, rfl⟩
    · cases hrejected
  obtain ⟨hsources, hrunning, hids, hcap, hscap, hpump, hstats⟩ := hother
  refine h.call hcaller ⟨by rw [hrunning], hcap, hscap, hpump⟩ ?_ ?_
  · intro place owner hbooks
    exact ⟨place, owner, hbooks.other hsources hrunning hids ⟨hcap, hscap⟩ hstats⟩
  · intro hpositive key source hs
    rw [hsources] at hs
    exact hpositive key source hs

theorem complete (h : Sound workers capacity sourceCapacity s) (hcaller : s.CallerRuns)
    {now : TimePoint} {worker : Nat} {active : Running} {queue : CredentialQueue}
    (hactive : s.queue.running[worker]? = some (some active))
    (hcompleted : s.queue.complete now worker = some queue) :
    Sound workers capacity sourceCapacity
      { s with queue, log := s.log ++ [(active.serial, .completed)] } := by
  have hqueue : ∃ source, s.queue.sources[active.source]? = some source ∧
      queue.sources = putSource active.source
        { source with outstanding := source.outstanding - 1 } s.queue.sources ∧
      queue.running = s.queue.running.set worker none ∧ queue.capacity = s.queue.capacity ∧
      queue.sourceCapacity = s.queue.sourceCapacity ∧ queue.pumping = s.queue.pumping := by
    unfold CredentialQueue.complete at hcompleted
    rw [hactive] at hcompleted
    cases hsource : s.queue.sources[active.source]? with
    | none => simp [hsource] at hcompleted
    | some source =>
      simp only [hsource, Option.some.injEq] at hcompleted
      subst hcompleted
      exact ⟨source, rfl, rfl, rfl, rfl, rfl, rfl⟩
  obtain ⟨source, _, hsources, hrunning, hcap, hscap, hpump⟩ := hqueue
  refine h.call hcaller ⟨by rw [hrunning, List.length_set], hcap, hscap, hpump⟩ ?_ ?_
  · intro place owner hbooks
    exact ⟨_, owner, hbooks.complete hactive hcompleted⟩
  · intro hpositive
    rw [hsources]
    exact putSource_positive (fun k src _ hs => hpositive k src hs)

/-! ## The steps of `Pump` -/

/-- `Pump` drops a waiting job. -/
theorem drop (h : Sound workers capacity sourceCapacity s) {now : TimePoint} {due : List Job}
    {key : String} {index : Nat} {source : Source} {job : Job}
    (hpoint : s.point = some (.jobs now due key index))
    (hsource : s.queue.sources[key]? = some source) (hjob : source.waiting[index]? = some job)
    (expired : Bool) :
    Sound workers capacity sourceCapacity
      { queue := s.queue.dropJob key source index job expired
        point := some (.jobs now (if expired then due ++ [job] else due) key index)
        log := if expired then s.log else s.log ++ [(job.serial, .canceled)] } := by
  constructor
  case limits => exact h.limits
  case books =>
    obtain ⟨place, owner, hbooks⟩ := h.books
    rw [hpoint] at hbooks
    exact ⟨_, owner, hbooks.drop hsource hjob expired⟩
  case positive =>
    intro k src hs hkey
    have hne : key ≠ k := fun heq => hkey (by rw [← heq]; rfl)
    have hold : s.queue.sources[k]? = some src := by
      have hs' : (s.queue.sources.insert key { source with
          outstanding := source.outstanding - 1
          waiting := source.waiting.eraseIdx index })[k]? = some src := hs
      grind
    refine h.positive k src hold ?_
    rw [hpoint]
    exact hkey
  case idle => exact nofun
  case pumping => exact fun _ => h.pumping (by rw [hpoint]; nofun)

/-- `Pump` is done with a source. -/
theorem leaveSource (h : Sound workers capacity sourceCapacity s) {now : TimePoint}
    {due : List Job} {key : String} {index : Nat} {source : Source} {next : Option String}
    (hpoint : s.point = some (.jobs now due key index))
    (hsource : s.queue.sources[key]? = some source) :
    Sound workers capacity sourceCapacity
      { s with
        queue := { s.queue with sources := putSource key source s.queue.sources }
        point := some (.sources now due next) } := by
  constructor
  case limits => exact h.limits
  case books =>
    obtain ⟨place, owner, hbooks⟩ := h.books
    rw [hpoint] at hbooks
    have hsame : s.queue.sources.insert key source = s.queue.sources :=
      OrdMap.insert_eq_self hsource
    refine ⟨place, owner, Books.put ?_⟩
    rw [hsame]
    exact hbooks
  case positive =>
    intro k src hs _
    refine putSource_positive ?_ k src hs
    intro k src hk hs
    refine h.positive k src hs ?_
    rw [hpoint]
    exact fun heq => hk (Option.some.inj heq).symm
  case idle => exact nofun
  case pumping => exact fun _ => h.pumping (by rw [hpoint]; nofun)

theorem callExpire (h : Sound workers capacity sourceCapacity s) {now : TimePoint} {job : Job}
    {due : List Job} (hpoint : s.point = some (.callbacks now (job :: due))) :
    Sound workers capacity sourceCapacity
      { s with
        point := some (.inCallback now due)
        log := s.log ++ [(job.serial, .expired)] } := by
  constructor
  case limits => exact h.limits
  case books =>
    obtain ⟨place, owner, hbooks⟩ := h.books
    rw [hpoint] at hbooks
    exact ⟨_, owner, Books.expire hbooks⟩
  case positive =>
    intro key source hs _
    refine h.positive key source hs ?_
    rw [hpoint]
    exact nofun
  case idle => exact nofun
  case pumping => exact fun _ => h.pumping (by rw [hpoint]; nofun)

theorem delayed (h : Sound workers capacity sourceCapacity s) {now : TimePoint}
    {worker left delay : Nat} {key : String} {source : Source} {next : Option String}
    (hpoint : s.point = some (.asking now worker key left))
    (hsource : s.queue.sources[key]? = some source) :
    Sound workers capacity sourceCapacity
      { s with
        queue := s.queue.delaySource now key source delay
        point := some (.attempts now worker next left) } := by
  have hemptying : ∀ key : String, emptying s.point ≠ some key := by
    intro key
    rw [hpoint]
    exact nofun
  constructor
  case limits => exact h.limits
  case books =>
    obtain ⟨place, owner, hbooks⟩ := h.books
    rw [hpoint] at hbooks
    exact ⟨place, owner, hbooks.delay hsource delay⟩
  case positive =>
    intro k src hs _
    have hs' : (s.queue.sources.insert key
        { source with notBefore := now + seconds delay })[k]? = some src := hs
    have hpositive := h.positive key source hsource (hemptying key)
    have hold := fun hs => h.positive k src hs (hemptying k)
    grind
  case idle =>
    intro w hw
    refine h.idle w ?_
    rw [hpoint]
    exact hw
  case pumping => exact fun _ => h.pumping (by rw [hpoint]; nofun)

theorem startJob (h : Sound workers capacity sourceCapacity s) {now : TimePoint}
    {worker left : Nat} {key : String} {source : Source} {job : Job}
    (hpoint : s.point = some (.asking now worker key left))
    (hsource : s.queue.sources[key]? = some source) (hjob : source.waiting.head? = some job) :
    Sound workers capacity sourceCapacity
      { queue := s.queue.startJob now worker key source job
        point := some (.starting now worker job)
        log := s.log ++ [(job.serial, .admitted), (job.serial, .started)] } := by
  have hidle : s.queue.running[worker]? = some none := h.idle worker (by rw [hpoint]; rfl)
  have hemptying : ∀ key : String, emptying s.point ≠ some key := by
    intro key
    rw [hpoint]
    exact nofun
  constructor
  case limits =>
    refine ⟨?_, h.limits.2⟩
    rw [← h.limits.1]
    exact List.length_set
  case books =>
    obtain ⟨place, owner, hbooks⟩ := h.books
    rw [hpoint] at hbooks
    exact ⟨_, owner, hbooks.start hsource hjob hidle⟩
  case positive =>
    intro k src hs _
    have hs' : (s.queue.sources.insert key
        { source with waiting := source.waiting.tail })[k]? = some src := hs
    have hpositive := h.positive key source hsource (hemptying key)
    have hold := fun hs => h.positive k src hs (hemptying k)
    grind
  case idle => exact nofun
  case pumping => exact fun _ => h.pumping (by rw [hpoint]; nofun)

/-- Every step keeps the invariant. -/
theorem step (h : Sound workers capacity sourceCapacity s) {l : Label} {s' : Machine}
    (hstep : s.Steps l s') : Sound workers capacity sourceCapacity s' := by
  cases hstep with
  | accept hcaller haccepted => exact h.accept hcaller haccepted
  | reject hcaller hrejected => exact h.reject hcaller hrejected
  | cancel hcaller => exact h.cancel hcaller _
  | complete hcaller hactive hcompleted => exact h.complete hcaller hactive hcompleted
  | pumpAgain => exact h
  | pump hcaller hidle =>
    -- nobody else is inside `Pump`, so the caller is outside it
    have hnone : s.point = none := by
      by_contra hinside
      exact absurd (h.pumping hinside) (by rw [hidle]; nofun)
    obtain ⟨place, owner, hbooks⟩ := h.books
    rw [hnone] at hbooks
    refine ⟨h.limits, ⟨place, owner, ?_⟩, ?_, nofun, fun _ => rfl⟩
    · exact hbooks.other rfl rfl rfl ⟨rfl, rfl⟩ ⟨rfl, rfl, rfl, rfl, rfl⟩
    · intro key source hs _
      exact h.positive key source hs (by rw [hnone]; nofun)
  | enterSource hpoint =>
    exact h.move (by rw [hpoint]; nofun) (by rw [hpoint]; rfl)
      (fun _ _ _ _ hold => by rw [hpoint] at hold; cases hold) nofun
  | leaveSources hpoint =>
    exact h.move (by rw [hpoint]; nofun) (by rw [hpoint]; rfl)
      (fun _ _ _ _ hold => by rw [hpoint] at hold; cases hold) nofun
  | keepJob hpoint hsource hjob hlive =>
    refine h.move (by rw [hpoint]; nofun) (by rw [hpoint]; rfl) ?_ nofun
    intro key source _ hnew hold
    rw [hpoint] at hold
    exact absurd hold hnew
  | expireJob hpoint hsource hjob hlate => exact h.drop hpoint hsource hjob true
  | dropDead hpoint hsource hjob => exact h.drop hpoint hsource hjob false
  | leaveSource hpoint hsource hend => exact h.leaveSource hpoint hsource
  | callExpire hpoint => exact h.callExpire hpoint
  | expireReturns hpoint =>
    exact h.move (by rw [hpoint]; nofun) (by rw [hpoint]; rfl)
      (fun _ _ _ _ hold => by rw [hpoint] at hold; cases hold) nofun
  | leaveCallbacks hpoint =>
    exact h.move (by rw [hpoint]; nofun) (by rw [hpoint]; rfl)
      (fun _ _ _ _ hold => by rw [hpoint] at hold; cases hold) nofun
  | busyWorker hpoint hbusy =>
    exact h.move (by rw [hpoint]; nofun) (by rw [hpoint]; rfl)
      (fun _ _ _ _ hold => by rw [hpoint] at hold; cases hold) nofun
  | idleWorker hpoint hidle =>
    refine h.move (by rw [hpoint]; nofun) (by rw [hpoint]; rfl)
      (fun _ _ _ _ hold => by rw [hpoint] at hold; cases hold) ?_
    intro w hw
    cases hw
    exact hidle
  | leaveWorkers hpoint hend =>
    obtain ⟨place, owner, hbooks⟩ := h.books
    rw [hpoint] at hbooks
    refine ⟨h.limits, ⟨place, owner, ?_⟩, ?_, nofun, fun hinside => absurd rfl hinside⟩
    · exact hbooks.other rfl rfl rfl ⟨rfl, rfl⟩ ⟨rfl, rfl, rfl, rfl, rfl⟩
    · intro key source hs _
      exact h.positive key source hs (by rw [hpoint]; nofun)
  | noAttempts hpoint =>
    exact h.move (by rw [hpoint]; nofun) (by rw [hpoint]; rfl)
      (fun _ _ _ _ hold => by rw [hpoint] at hold; cases hold) nofun
  | wrapAround hpoint =>
    exact h.move (by rw [hpoint]; nofun) (by rw [hpoint]; rfl)
      (fun _ _ _ _ hold => by rw [hpoint] at hold; cases hold)
      (fun w hw => h.idle w (by rw [hpoint]; exact hw))
  | skipSource hpoint hsource hskip =>
    exact h.move (by rw [hpoint]; nofun) (by rw [hpoint]; rfl)
      (fun _ _ _ _ hold => by rw [hpoint] at hold; cases hold)
      (fun w hw => h.idle w (by rw [hpoint]; exact hw))
  | askSource hpoint hsource hask =>
    exact h.move (by rw [hpoint]; nofun) (by rw [hpoint]; rfl)
      (fun _ _ _ _ hold => by rw [hpoint] at hold; cases hold)
      (fun w hw => h.idle w (by rw [hpoint]; exact hw))
  | delayed hpoint hsource hdelay => exact h.delayed hpoint hsource
  | start hpoint hsource hjob => exact h.startJob hpoint hsource hjob
  | startReturns hpoint =>
    exact h.move (by rw [hpoint]; nofun) (by rw [hpoint]; rfl)
      (fun _ _ _ _ hold => by rw [hpoint] at hold; cases hold) nofun

/-- Every reachable state satisfies the invariant. -/
theorem reachable (h : (Machine.system workers capacity sourceCapacity).Reachable s) :
    Sound workers capacity sourceCapacity s :=
  h.invariant (fun _ hstart => start hstart) (fun _ _ _ hs hstep => hs.step hstep)

end Sound

/-! ## The five structures -/

/-- The waiting jobs, source by source. -/
def jobs (q : CredentialQueue) : List Job := q.sources.toList.flatMap (fun entry => entry.2.waiting)

/-- The jobs on a worker. -/
def runningJobs (q : CredentialQueue) : List Running := q.running.reduceOption

/-- The connections whose job waits or runs. -/
def liveIds (q : CredentialQueue) : List Nat :=
  q.jobs.map Job.id ++ q.runningJobs.map Running.id

/-- The waiting jobs of a source, none if it is absent. -/
def waitingOf (q : CredentialQueue) (key : String) : Nat :=
  (q.sources[key]?).elim 0 (fun source => source.waiting.length)

/-- The events that end a job. -/
def JobEvent.isOutcome : JobEvent → Bool
  | completed => true
  | expired => true
  | canceled => true
  | _ => false

/-- **Conservation.** -/
structure Conserved (workers capacity sourceCapacity : Nat) (s : Machine) : Prop where
  ids : s.queue.ids = s.queue.liveIds.toFinset
  ids_nodup : s.queue.liveIds.Nodup
  outstanding : ∀ (key : String) (source : Source), s.queue.sources[key]? = some source →
    source.outstanding = s.queue.waitingOf key + runningOf s.queue key
  present : ∀ key : String,
    key ∈ s.queue.sources ↔ 0 < s.queue.waitingOf key + runningOf s.queue key
  source_capacity : ∀ (key : String) (source : Source), s.queue.sources[key]? = some source →
    source.outstanding ≤ sourceCapacity
  capacity : s.queue.ids.card ≤ capacity
  workers : s.queue.active ≤ workers
  accepted : s.queue.stats.accepted = s.queue.stats.completed + s.queue.stats.canceled +
    s.queue.stats.expired + s.queue.ids.card
  started : s.queue.stats.started = s.queue.stats.completed + s.queue.active
  /-- An accepted job waits, runs, is about to hear that it expired, or has had its one outcome. -/
  outcome : ∀ n : Nat, n < s.queue.stats.accepted →
    (s.queue.jobs.map Job.serial).count n + (s.queue.runningJobs.map Running.serial).count n +
      ((dueAt s.point).map Job.serial).count n + (s.history n).countP JobEvent.isOutcome = 1
  /-- What can have happened to a job, in this order. -/
  history : ∀ n : Nat, n < s.queue.stats.accepted →
    s.history n = [.accepted] ∨ s.history n = [.accepted, .admitted, .started] ∨
      s.history n = [.accepted, .admitted, .started, .completed] ∨
      s.history n = [.accepted, .expired] ∨ s.history n = [.accepted, .canceled]
  runs : ∀ n : Nat, n ∈ s.queue.runningJobs.map Running.serial ↔
    s.history n = [.accepted, .admitted, .started]
  unborn : ∀ n : Nat, s.queue.stats.accepted ≤ n → s.history n = []
  /-- `admit` returned zero once for a job that started and never for another. -/
  admitted : ∀ n : Nat, (s.history n).count .admitted = (s.history n).count .started ∧
    (s.history n).count .admitted ≤ 1

theorem mem_jobs {q : CredentialQueue} {job : Job} :
    job ∈ q.jobs ↔ ∃ key, Queued q key job := by
  unfold jobs Queued
  rw [List.mem_flatMap]
  constructor
  · rintro ⟨⟨key, source⟩, hmem, hjob⟩
    exact ⟨key, source, OrdMap.mem_toList.mp hmem, hjob⟩
  · rintro ⟨key, source, hsource, hjob⟩
    exact ⟨(key, source), OrdMap.mem_toList.mpr hsource, hjob⟩

theorem mem_runningJobs {q : CredentialQueue} {r : Running} :
    r ∈ q.runningJobs ↔ ∃ worker, OnWorker q worker r := by
  unfold runningJobs OnWorker
  rw [List.reduceOption_mem_iff, List.mem_iff_getElem?]

theorem waitingOf_eq {q : CredentialQueue} {key : String} {source : Source}
    (h : q.sources[key]? = some source) : q.waitingOf key = source.waiting.length := by
  simp [waitingOf, h]

namespace Books

variable {q : CredentialQueue} {due : List Job} {log : List (Nat × JobEvent)}
  {place : Nat → Place} {owner : Nat → Nat}

theorem nodup_jobs (h : Books q due log place owner) : q.jobs.Nodup := by
  unfold jobs
  rw [List.nodup_flatMap]
  constructor
  · rintro ⟨key, source⟩ hmem
    exact (h.waiting_nodup key source (OrdMap.mem_toList.mp hmem)).of_map
  · have hkeys : q.sources.toList.Pairwise (fun a b => a.1 ≠ b.1) :=
      Std.ExtTreeMap.distinct_keys_toList.imp (fun hne heq => hne (compare_eq_iff_eq.mpr heq))
    refine hkeys.imp_of_mem ?_
    rintro ⟨key, source⟩ ⟨key', source'⟩ hmem hmem' hne job hjob hjob'
    exact hne (h.waiting_inj ⟨source, OrdMap.mem_toList.mp hmem, hjob⟩
      ⟨source', OrdMap.mem_toList.mp hmem', hjob'⟩ rfl).1

/-- No connection has two waiting jobs. -/
theorem nodup_waiting_ids (h : Books q due log place owner) : (q.jobs.map Job.id).Nodup := by
  refine h.nodup_jobs.map_on ?_
  intro job hjob job' hjob' hid
  obtain ⟨key, hqueued⟩ := mem_jobs.mp hjob
  obtain ⟨key', hqueued'⟩ := mem_jobs.mp hjob'
  exact (h.waiting_id_inj hqueued hqueued' hid).2

theorem nodup_waiting_serials (h : Books q due log place owner) :
    (q.jobs.map Job.serial).Nodup := by
  refine h.nodup_jobs.map_on ?_
  intro job hjob job' hjob' hserial
  obtain ⟨key, hqueued⟩ := mem_jobs.mp hjob
  obtain ⟨key', hqueued'⟩ := mem_jobs.mp hjob'
  exact (h.waiting_inj hqueued hqueued' hserial).2

theorem pairwise_running (h : Books q due log place owner) :
    q.runningJobs.Pairwise (fun r r' => r.id ≠ r'.id ∧ r.serial ≠ r'.serial) := by
  unfold runningJobs List.reduceOption
  rw [List.pairwise_filterMap, List.pairwise_iff_getElem]
  intro i j hi hj hlt r hr r' hr'
  have hslot : OnWorker q i r := List.getElem?_eq_some_iff.mpr ⟨hi, hr⟩
  have hslot' : OnWorker q j r' := List.getElem?_eq_some_iff.mpr ⟨hj, hr'⟩
  obtain ⟨hplace, howner, _⟩ := h.running i r hslot
  obtain ⟨hplace', howner', _⟩ := h.running j r' hslot'
  have hserial : r.serial ≠ r'.serial := by
    intro heq
    rw [heq, hplace'] at hplace
    cases hplace
    exact absurd hlt (lt_irrefl _)
  refine ⟨fun hid => ?_, hserial⟩
  rw [hid, howner'] at howner
  exact hserial howner.symm

theorem nodup_liveIds (h : Books q due log place owner) : q.liveIds.Nodup := by
  unfold liveIds
  rw [List.nodup_append']
  refine ⟨h.nodup_waiting_ids, List.pairwise_map.mpr (h.pairwise_running.imp And.left), ?_⟩
  intro x hx hx'
  obtain ⟨job, hjob, rfl⟩ := List.mem_map.mp hx
  obtain ⟨r, hr, hid⟩ := List.mem_map.mp hx'
  obtain ⟨key, hqueued⟩ := mem_jobs.mp hjob
  obtain ⟨worker, hslot⟩ := mem_runningJobs.mp hr
  exact (h.waiting_ne_running hqueued hslot).1 hid.symm

theorem ids_eq_liveIds (h : Books q due log place owner) : q.ids = q.liveIds.toFinset := by
  ext x
  rw [List.mem_toFinset, h.ids x]
  unfold liveIds
  rw [List.mem_append, List.mem_map, List.mem_map]
  simp only [mem_jobs, mem_runningJobs]
  grind

theorem mem_waiting_serials (h : Books q due log place owner) (n : Nat) :
    n ∈ q.jobs.map Job.serial ↔ ∃ key, place n = .waiting key := by
  constructor
  · intro hn
    obtain ⟨job, hjob, rfl⟩ := List.mem_map.mp hn
    obtain ⟨key, hqueued⟩ := mem_jobs.mp hjob
    exact ⟨key, (h.waiting key job hqueued).2.1⟩
  · rintro ⟨key, hn⟩
    obtain ⟨job, hqueued, rfl⟩ := h.found_waiting n key hn
    exact List.mem_map_of_mem (mem_jobs.mpr ⟨key, hqueued⟩)

theorem mem_running_serials (h : Books q due log place owner) (n : Nat) :
    n ∈ q.runningJobs.map Running.serial ↔ ∃ worker, place n = .running worker := by
  constructor
  · intro hn
    obtain ⟨r, hr, rfl⟩ := List.mem_map.mp hn
    obtain ⟨worker, hslot⟩ := mem_runningJobs.mp hr
    exact ⟨worker, (h.running worker r hslot).1⟩
  · rintro ⟨worker, hn⟩
    obtain ⟨r, hslot, rfl⟩ := h.found_running n worker hn
    exact List.mem_map_of_mem (mem_runningJobs.mpr ⟨worker, hslot⟩)

theorem mem_due_serials (h : Books q due log place owner) (n : Nat) :
    n ∈ due.map Job.serial ↔ place n = .expiring := by
  constructor
  · intro hn
    obtain ⟨job, hjob, rfl⟩ := List.mem_map.mp hn
    exact h.expiring job hjob
  · intro hn
    obtain ⟨job, hjob, rfl⟩ := h.found_expiring n hn
    exact List.mem_map_of_mem hjob

/-- Every accepted job is in exactly one place. -/
theorem outcome (h : Books q due log place owner) {n : Nat} (hn : n < q.stats.accepted) :
    (q.jobs.map Job.serial).count n + (q.runningJobs.map Running.serial).count n +
      (due.map Job.serial).count n + (historyIn log n).countP JobEvent.isOutcome = 1 := by
  have hborn : place n ≠ .unborn := by
    rw [Ne, h.unborn n]
    omega
  have hserials : (q.runningJobs.map Running.serial).Nodup :=
    List.pairwise_map.mpr (h.pairwise_running.imp And.right)
  rw [h.nodup_waiting_serials.count, hserials.count, h.expiring_nodup.count, h.history n]
  have hwaits := h.mem_waiting_serials n
  have hruns := h.mem_running_serials n
  have hdue := h.mem_due_serials n
  cases hplace : place n with
  | unborn => exact absurd hplace hborn
  | waiting key => grind [Place.history, JobEvent.isOutcome]
  | running worker => grind [Place.history, JobEvent.isOutcome]
  | expiring => grind [Place.history, JobEvent.isOutcome]
  | expired => grind [Place.history, JobEvent.isOutcome]
  | canceled => grind [Place.history, JobEvent.isOutcome]
  | completed => grind [Place.history, JobEvent.isOutcome]

end Books

/-- Between callbacks every source that is there has something outstanding. -/
theorem Sound.positive_of_between {workers capacity sourceCapacity : Nat} {s : Machine}
    (h : Sound workers capacity sourceCapacity s) (hbetween : s.BetweenCallbacks) {key : String}
    {source : Source} (hsource : s.queue.sources[key]? = some source) : 0 < source.outstanding := by
  by_cases hkey : emptying s.point = some key
  · obtain ⟨place, owner, hbooks⟩ := h.books
    unfold Machine.BetweenCallbacks at hbetween
    cases hpoint : s.point with
    | none => rw [hpoint] at hkey; cases hkey
    | some point =>
      cases point with
      | jobs now due k index =>
        rw [hpoint] at hkey hbetween
        cases hkey
        obtain ⟨source', job, hsource', hjob⟩ := hbetween
        rw [hsource] at hsource'
        cases hsource'
        -- `Pump` asks about a job of this source, so one waits there
        have hlength := (List.getElem?_eq_some_iff.mp hjob).1
        have hsum := hbooks.outstanding key source hsource
        omega
      | _ => rw [hpoint] at hkey; cases hkey
  · exact h.positive key source hsource hkey

/-- **The credential queue conserves its jobs.** -/
theorem conserved {workers capacity sourceCapacity : Nat} {s : Machine}
    (hreachable : (Machine.system workers capacity sourceCapacity).Reachable s)
    (hbetween : s.BetweenCallbacks) : Conserved workers capacity sourceCapacity s := by
  have hsound := Sound.reachable hreachable
  obtain ⟨hworkers, hcapacity, hsourceCapacity⟩ := hsound.limits
  obtain ⟨place, owner, hbooks⟩ := hsound.books
  -- The books say where each job is, and its history is read off its place.
  have hhistory : ∀ n, s.history n = (place n).history := hbooks.history
  constructor
  case ids => exact hbooks.ids_eq_liveIds
  case ids_nodup => exact hbooks.nodup_liveIds
  case outstanding =>
    intro key source hsource
    rw [waitingOf_eq hsource]
    exact hbooks.outstanding key source hsource
  case present =>
    intro key
    cases hsource : s.queue.sources[key]? with
    | none =>
      have habsent : key ∉ s.queue.sources := by grind
      simp [waitingOf, habsent, hbooks.runningOf_eq_zero hsource]
    | some source =>
      have hmem : key ∈ s.queue.sources := by grind
      rw [waitingOf_eq hsource, ← hbooks.outstanding key source hsource]
      exact iff_of_true hmem (hsound.positive_of_between hbetween hsource)
  case source_capacity =>
    intro key source hsource
    rw [← hsourceCapacity]
    exact hbooks.source_capacity key source hsource
  case capacity =>
    rw [← hcapacity]
    exact hbooks.capacity
  case workers =>
    rw [← hworkers]
    exact List.countP_le_length
  case accepted => exact hbooks.accepted_eq
  case started => exact hbooks.started_eq
  case outcome => exact fun n hn => hbooks.outcome hn
  case history =>
    intro n hn
    have hborn : place n ≠ .unborn := by
      rw [Ne, hbooks.unborn n]
      omega
    rw [hhistory]
    cases hplace : place n <;> simp_all [Place.history]
  case runs =>
    intro n
    rw [hbooks.mem_running_serials, hhistory]
    cases place n <;> simp [Place.history]
  case unborn =>
    intro n hn
    rw [hhistory, (hbooks.unborn n).mpr hn]
    rfl
  case admitted =>
    intro n
    rw [hhistory]
    cases place n <;> simp [Place.history]

/-- A job that is accepted, found alive and started. -/
theorem conserved_started : ∃ s : Machine, s.BetweenCallbacks ∧
    s.history 0 = [.accepted, .admitted, .started] ∧ Conserved 1 2 1 s := by
  let start : Machine := { queue := { capacity := 2, sourceCapacity := 1, running := [none] } }
  let job : Job := { id := 7, source := "a", deadline := 10 }
  let source : Source := { waiting := [job], outstanding := 1 }
  let queue (pumping : Bool) : CredentialQueue :=
    { start.queue with
      sources := (∅ : OrdMap String Source).insert "a" source
      ids := {7}
      stats := { accepted := 1 }
      pumping }
  let pump (point : PumpPoint) : Machine :=
    { queue := queue true, point := some point, log := [(0, .accepted)] }
  let Reached : Machine → Prop := (Machine.system 1 2 1).Reachable
  have next : ∀ {s s' : Machine} {l : Label}, Reached s → s.Steps l s' → Reached s' :=
    fun h hstep => h.step hstep
  have hsource : (queue true).sources["a"]? = some source := rfl
  have hput : putSource "a" source (queue true).sources = (queue true).sources :=
    OrdMap.insert_eq_self hsource
  have created : Reached start := ⟨[], .start ⟨start.queue, rfl, rfl⟩⟩
  have accepted : Reached { queue := queue false, log := [(0, .accepted)] } :=
    next created (@Machine.Steps.accept _ 0 job _ (.inl rfl) rfl)
  have pumped : Reached (pump (.jobs 1 [] "a" 0)) :=
    next (next accepted (@Machine.Steps.pump _ 1 (.inl rfl) rfl)) (.enterSource rfl)
  have left : Reached { pump (.sources 1 [] none) with
      queue := { queue true with sources := putSource "a" source (queue true).sources } } :=
    next (next pumped (.keepJob rfl hsource rfl (by decide))) (.leaveSource rfl hsource rfl)
  rw [hput] at left
  have idle : Reached (pump (.workers 1 0)) :=
    next (next left (.leaveSources rfl)) (.leaveCallbacks rfl)
  have asking : Reached (pump (.asking 1 0 "a" 0)) :=
    next (next idle (.idleWorker rfl rfl)) (.askSource rfl hsource (by decide))
  exact ⟨_, by exact trivial, by rfl, conserved (next asking (.start rfl hsource rfl)) trivial⟩

end CrossDesk.CredentialQueue
