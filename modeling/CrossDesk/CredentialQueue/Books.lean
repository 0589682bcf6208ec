import CrossDesk.CredentialQueue.Runs

/-!
# The books of the credential queue

Where is a job? `Place` answers for every serial number: not accepted yet, waiting at a source, on a
worker, about to be told that it expired, or gone for one of three reasons. `Books` ties that to the
five structures of the queue and to the log: the jobs in the queues and slots are at their places,
the history of a job is the one its place implies, and the id set, the counters and the statistics
agree with the jobs that are there.

`owner` maps a connection id to the serial number of its live job. It is what makes ids unique: two
live jobs with one id would have one serial number, hence one place.
-/

namespace CrossDesk.CredentialQueue

/-- Where a job is. -/
inductive Place where
  | unborn
  | waiting (key : String)
  | running (worker : Nat)
  | expiring
  | expired
  | canceled
  | completed
  deriving DecidableEq, Repr

/-- What has happened to a job that is there. -/
def Place.history : Place → List JobEvent
  | unborn => []
  | waiting _ => [.accepted]
  | running _ => [.accepted, .admitted, .started]
  | expiring => [.accepted]
  | expired => [.accepted, .expired]
  | canceled => [.accepted, .canceled]
  | completed => [.accepted, .admitted, .started, .completed]

/-- The history of a job in a log. -/
def historyIn (log : List (Nat × JobEvent)) (serial : Nat) : List JobEvent :=
  (log.filter (fun entry => entry.1 == serial)).map Prod.snd

theorem historyIn_append (log log' : List (Nat × JobEvent)) (serial : Nat) :
    historyIn (log ++ log') serial = historyIn log serial ++ historyIn log' serial := by
  simp [historyIn]

/-- The jobs of a source that are on a worker. -/
def runningOf (q : CredentialQueue) (key : String) : Nat :=
  q.running.countP (fun slot => slot.any (fun r => r.source == key))

/-- The job waits at the source of the key. -/
def Queued (q : CredentialQueue) (key : String) (job : Job) : Prop :=
  ∃ source : Source, q.sources[key]? = some source ∧ job ∈ source.waiting

/-- The worker computes for the job. -/
def OnWorker (q : CredentialQueue) (worker : Nat) (r : Running) : Prop :=
  q.running[worker]? = some (some r)

/-- The jobs are where their places say, and nowhere else. -/
structure Placed (q : CredentialQueue) (due : List Job) (place : Nat → Place)
    (owner : Nat → Nat) : Prop where
  /-- A waiting job is queued at its source. -/
  waiting : ∀ (key : String) (job : Job), Queued q key job →
    job.source = key ∧ place job.serial = .waiting key ∧ owner job.id = job.serial
  waiting_nodup : ∀ (key : String) (source : Source), q.sources[key]? = some source →
    (source.waiting.map Job.serial).Nodup
  /-- A running job still counts at its source. -/
  running : ∀ (worker : Nat) (r : Running), OnWorker q worker r →
    place r.serial = .running worker ∧ owner r.id = r.serial ∧
      ∃ source : Source, q.sources[r.source]? = some source
  expiring : ∀ job ∈ due, place job.serial = .expiring
  expiring_nodup : (due.map Job.serial).Nodup
  /-- Nobody is lost: a job is where its place says. -/
  found_waiting : ∀ (n : Nat) (key : String), place n = .waiting key →
    ∃ job : Job, Queued q key job ∧ job.serial = n
  found_running : ∀ (n worker : Nat), place n = .running worker →
    ∃ r : Running, OnWorker q worker r ∧ r.serial = n
  found_expiring : ∀ n : Nat, place n = .expiring → ∃ job ∈ due, job.serial = n
  unborn : ∀ n : Nat, place n = .unborn ↔ q.stats.accepted ≤ n

/-- The log tells of every job what its place implies. -/
structure Told (log : List (Nat × JobEvent)) (place : Nat → Place) : Prop where
  history : ∀ n : Nat, historyIn log n = (place n).history

/-- The shares of the sources are what their jobs take. -/
structure Shared (q : CredentialQueue) : Prop where
  outstanding : ∀ (key : String) (source : Source), q.sources[key]? = some source →
    source.outstanding = source.waiting.length + runningOf q key
  source_capacity : ∀ (key : String) (source : Source), q.sources[key]? = some source →
    source.outstanding ≤ q.sourceCapacity
  source_capacity_pos : 0 < q.sourceCapacity

/-- The id set and the statistics count the jobs that are there. -/
structure Counted (q : CredentialQueue) : Prop where
  ids : ∀ x : Nat, x ∈ q.ids ↔
    (∃ (key : String) (job : Job), Queued q key job ∧ job.id = x) ∨
    ∃ (worker : Nat) (r : Running), OnWorker q worker r ∧ r.id = x
  capacity : q.ids.card ≤ q.capacity
  accepted_eq : q.stats.accepted =
    q.stats.completed + q.stats.canceled + q.stats.expired + q.ids.card
  started_eq : q.stats.started = q.stats.completed + q.active

/-- The books agree. `due` are the expired jobs whose callback is still to come. -/
structure Books (q : CredentialQueue) (due : List Job) (log : List (Nat × JobEvent))
    (place : Nat → Place) (owner : Nat → Nat) : Prop extends
    Placed q due place owner, Told log place, Shared q, Counted q

variable {q : CredentialQueue} {due : List Job} {log : List (Nat × JobEvent)}
  {place : Nat → Place} {owner : Nat → Nat}

namespace Placed

/-- Two waiting jobs with one serial number are one job of one source. -/
theorem waiting_inj (h : Placed q due place owner) {key key' : String} {job job' : Job}
    (hjob : Queued q key job) (hjob' : Queued q key' job') (hserial : job.serial = job'.serial) :
    key = key' ∧ job = job' := by
  have hplace := (h.waiting key job hjob).2.1
  have hplace' := (h.waiting key' job' hjob').2.1
  rw [hserial, hplace'] at hplace
  cases hplace
  obtain ⟨source, hsource, hmem⟩ := hjob
  obtain ⟨source', hsource', hmem'⟩ := hjob'
  rw [hsource] at hsource'
  cases hsource'
  exact ⟨rfl, List.inj_on_of_nodup_map (h.waiting_nodup _ source hsource) hmem hmem' hserial⟩

/-- A live job is the only one of its connection. -/
theorem waiting_id_inj (h : Placed q due place owner) {key key' : String} {job job' : Job}
    (hjob : Queued q key job) (hjob' : Queued q key' job') (hid : job.id = job'.id) :
    key = key' ∧ job = job' := by
  have howner := (h.waiting key job hjob).2.2
  have howner' := (h.waiting key' job' hjob').2.2
  rw [hid, howner'] at howner
  exact h.waiting_inj hjob hjob' howner.symm

theorem waiting_ne_running (h : Placed q due place owner) {key : String} {job : Job}
    {worker : Nat} {r : Running} (hjob : Queued q key job) (hr : OnWorker q worker r) :
    job.id ≠ r.id ∧ job.serial ≠ r.serial := by
  obtain ⟨_, hplace, howner⟩ := h.waiting key job hjob
  obtain ⟨hplace', howner', _⟩ := h.running worker r hr
  have hserial : job.serial ≠ r.serial := by
    intro heq
    rw [heq, hplace'] at hplace
    cases hplace
  refine ⟨?_, hserial⟩
  intro heq
  rw [heq, howner'] at howner
  exact hserial howner.symm

theorem running_inj (h : Placed q due place owner) {worker worker' : Nat} {r r' : Running}
    (hr : OnWorker q worker r) (hr' : OnWorker q worker' r') (hid : r.id = r'.id) :
    worker = worker' := by
  obtain ⟨hplace, howner, _⟩ := h.running worker r hr
  obtain ⟨hplace', howner', _⟩ := h.running worker' r' hr'
  rw [hid, howner'] at howner
  rw [← howner, hplace'] at hplace
  cases hplace
  rfl

/-- A source that is not there has nothing running. -/
theorem runningOf_eq_zero (h : Placed q due place owner) {key : String}
    (hnone : q.sources[key]? = none) : runningOf q key = 0 := by
  unfold runningOf
  rw [List.countP_eq_zero]
  intro slot hslot
  obtain ⟨worker, hworker⟩ := List.mem_iff_getElem?.mp hslot
  cases slot with
  | none => simp
  | some r =>
    obtain ⟨_, _, source, hsource⟩ := h.running worker r hworker
    intro heq
    have hkey : r.source = key := by simpa using heq
    rw [hkey, hnone] at hsource
    cases hsource

end Placed

/-- A job moves on, and the log gets the events that make the difference. -/
theorem Told.move (h : Told log place) (n : Nat) (events : List JobEvent) {next : Place}
    (hnext : next.history = (place n).history ++ events) :
    Told (log ++ events.map (fun e => (n, e))) (Function.update place n next) := by
  refine ⟨fun m => ?_⟩
  rw [historyIn_append, h.history m]
  by_cases hm : m = n
  · subst hm
    have hevents : historyIn (events.map (fun e => (m, e))) m = events := by
      simp [historyIn, List.filter_map, Function.comp_def]
    rw [Function.update_self, hnext, hevents]
  · -- the events are about another job
    have hevents : historyIn (events.map (fun e => (n, e))) m = [] := by
      simp [historyIn, List.filter_map, Function.comp_def, Ne.symm hm]
    rw [Function.update_of_ne hm, hevents, List.append_nil]

/-! ## Accepting a job -/

/-- The queue with one more job waiting at a source. -/
def addJob (source : Source) (job : Job) (q : CredentialQueue) : CredentialQueue :=
  { q with
    ids := insert job.id q.ids
    sources := q.sources.insert job.source { source with
      outstanding := source.outstanding + 1
      waiting := source.waiting ++ [job] }
    stats := { q.stats with accepted := q.stats.accepted + 1 } }

/-- The source of a job has room for it; it may have to be made. -/
def HasRoom (q : CredentialQueue) (job : Job) (source : Source) : Prop :=
  q.sources[job.source]? = some source ∧ source.outstanding < q.sourceCapacity ∨
    q.sources[job.source]? = none ∧ source = {}

/-- What `Enqueue` does with a job it accepts. -/
theorem Books.enqueue_true {now : TimePoint} {job : Job} {q' : CredentialQueue}
    (h : q.enqueue now job = (true, q')) :
    ∃ (source : Source) (job' : Job), job'.id = job.id ∧ job'.serial = q.stats.accepted ∧
      job'.deadline = job.deadline ∧ HasRoom q job' source ∧
      q.ids.card < q.capacity ∧ job.id ∉ q.ids ∧ q' = q.addJob source job' := by
  unfold enqueue at h
  split at h
  · cases h
  rename_i hcapacity
  split at h
  · cases h
  rename_i hfree
  have hid : (if job.source = "" then { job with source := "unknown" } else job).id = job.id := by
    split <;> rfl
  have hdeadline : (if job.source = "" then { job with source := "unknown" } else job).deadline =
      job.deadline := by
    split <;> rfl
  generalize (if job.source = "" then { job with source := "unknown" } else job) = job₁ at h hid hdeadline
  dsimp only at h
  split at h
  · cases h
  · rename_i hshare
    cases h
    refine ⟨(q.sources[job₁.source]?).getD {},
      { job₁ with queuedAt := now, serial := q.stats.accepted }, hid, rfl, hdeadline, ?_,
      Nat.lt_of_not_le hcapacity, hfree, rfl⟩
    unfold HasRoom
    cases hsource : q.sources[job₁.source]? with
    | none => exact .inr ⟨rfl, rfl⟩
    | some source =>
      rw [hsource] at hshare
      exact .inl ⟨rfl, by simpa using hshare⟩

theorem queued_addJob {source : Source} {job : Job} (hroom : HasRoom q job source) (key : String)
    (j : Job) : Queued (q.addJob source job) key j ↔
      Queued q key j ∨ key = job.source ∧ j = job := by
  unfold Queued addJob
  dsimp only
  by_cases hkey : key = job.source
  · subst hkey
    rw [Std.ExtTreeMap.getElem?_insert_self]
    rcases hroom with ⟨hs, _⟩ | ⟨hs, hempty⟩
    · simp [hs]
    · simp [hs, hempty]
  · rw [Std.ExtTreeMap.getElem?_insert]
    simp [hkey, Ne.symm hkey]

/-- A number that was not given yet is no job's. -/
theorem Placed.ne_of_unborn (h : Placed q due place owner) {n : Nat} (hnew : place n = .unborn) :
    (∀ (key : String) (j : Job), Queued q key j → j.serial ≠ n) ∧
      (∀ (worker : Nat) (r : Running), OnWorker q worker r → r.serial ≠ n) ∧
      ∀ j ∈ due, j.serial ≠ n := by
  refine ⟨fun key j hj heq => ?_, fun worker r hr heq => ?_, fun j hj heq => ?_⟩
  · have hplace := (h.waiting key j hj).2.1
    rw [heq, hnew] at hplace
    cases hplace
  · have hplace := (h.running worker r hr).1
    rw [heq, hnew] at hplace
    cases hplace
  · have hplace := h.expiring j hj
    rw [heq, hnew] at hplace
    cases hplace

section Add

variable {source : Source} {job : Job} (hserial : job.serial = q.stats.accepted)
  (hroom : HasRoom q job source) (hfree : job.id ∉ q.ids)

include hserial hroom hfree in
theorem Placed.add (h : Placed q due place owner) (hcounted : Counted q) :
    Placed (q.addJob source job) due (Function.update place job.serial (.waiting job.source))
      (Function.update owner job.id job.serial) := by
  have hnew : place job.serial = .unborn := (h.unborn _).mpr (Nat.le_of_eq hserial.symm)
  obtain ⟨hwaiting, hrunning, hdue⟩ := h.ne_of_unborn hnew
  have hwaiting_id : ∀ (key : String) (j : Job), Queued q key j → j.id ≠ job.id :=
    fun key j hj heq => hfree ((hcounted.ids job.id).mpr (.inl ⟨key, j, hj, heq⟩))
  have hrunning_id : ∀ (worker : Nat) (r : Running), OnWorker q worker r → r.id ≠ job.id :=
    fun worker r hr heq => hfree ((hcounted.ids job.id).mpr (.inr ⟨worker, r, hr, heq⟩))
  have hqueued := queued_addJob hroom
  -- Only the place of the new job changes, and no other job has its serial or its id.
  constructor
  case waiting =>
    intro key j hj
    have hold := h.waiting key j
    have hne := hwaiting key j
    have hne' := hwaiting_id key j
    rw [hqueued] at hj
    simp only [Function.update_apply]
    grind
  case waiting_nodup =>
    intro key src hs
    unfold addJob at hs
    rw [Std.ExtTreeMap.getElem?_insert] at hs
    split at hs
    · cases hs
      -- The source is the one that was there, or a new and empty one.
      rcases hroom with ⟨hs, _⟩ | ⟨_, hempty⟩
      · have hfresh : job.serial ∉ source.waiting.map Job.serial := by
          intro hmem
          obtain ⟨j, hj, heq⟩ := List.mem_map.mp hmem
          exact hwaiting _ j ⟨source, hs, hj⟩ heq
        rw [List.map_append, List.map_singleton]
        exact (h.waiting_nodup _ source hs).append (List.nodup_singleton _) (by simpa using hfresh)
      · simp [hempty]
    · exact h.waiting_nodup key src hs
  case running =>
    intro worker r hr
    obtain ⟨hplace, howner, src, hsrc⟩ := h.running worker r hr
    rw [Function.update_of_ne (hrunning worker r hr), Function.update_of_ne (hrunning_id worker r hr)]
    refine ⟨hplace, howner, ?_⟩
    unfold addJob
    grind
  case expiring =>
    intro j hj
    rw [Function.update_of_ne (hdue j hj)]
    exact h.expiring j hj
  case expiring_nodup => exact h.expiring_nodup
  case found_waiting =>
    intro n key hn
    have hold := h.found_waiting n key
    simp only [Function.update_apply] at hn
    simp only [hqueued]
    grind
  case found_running =>
    intro n worker hn
    have hold := h.found_running n worker
    simp only [Function.update_apply] at hn
    show ∃ r, OnWorker q worker r ∧ r.serial = n
    grind
  case found_expiring =>
    intro n hn
    have hold := h.found_expiring n
    simp only [Function.update_apply] at hn
    grind
  case unborn =>
    intro n
    have hold := h.unborn n
    unfold addJob
    simp only [Function.update_apply]
    grind

include hroom in
theorem Shared.add (h : Shared q) (hplaced : Placed q due place owner) :
    Shared (q.addJob source job) := by
  refine ⟨fun key src hs => ?_, fun key src hs => ?_, h.source_capacity_pos⟩
  · show src.outstanding = src.waiting.length + runningOf q key
    unfold addJob at hs
    rw [Std.ExtTreeMap.getElem?_insert] at hs
    split at hs
    · rename_i hkey
      have hkey' : job.source = key := by simpa using hkey
      subst hkey'
      cases hs
      rcases hroom with ⟨hs, _⟩ | ⟨hs, hempty⟩
      · have hsum := h.outstanding _ source hs
        simp only [List.length_append, List.length_singleton]
        omega
      · -- a source that is made has nothing running
        rw [hplaced.runningOf_eq_zero hs]
        subst hempty
        simp
    · exact h.outstanding key src hs
  · have hold := h.source_capacity key
    have hpos := h.source_capacity_pos
    unfold HasRoom at hroom
    unfold addJob at hs ⊢
    grind

include hroom hfree in
theorem Counted.add (h : Counted q) (hcapacity : q.ids.card < q.capacity) :
    Counted (q.addJob source job) := by
  have hcard : (insert job.id q.ids).card = q.ids.card + 1 := Finset.card_insert_of_notMem hfree
  constructor
  case ids =>
    intro x
    simp only [queued_addJob hroom]
    show x ∈ insert job.id q.ids ↔ _ ∨ ∃ worker r, OnWorker q worker r ∧ r.id = x
    rw [Finset.mem_insert, h.ids x]
    grind
  case capacity =>
    show (insert job.id q.ids).card ≤ q.capacity
    omega
  case accepted_eq =>
    have hold := h.accepted_eq
    show q.stats.accepted + 1 =
      q.stats.completed + q.stats.canceled + q.stats.expired + (insert job.id q.ids).card
    omega
  case started_eq => exact h.started_eq

include hserial hroom hfree in
/-- A job is accepted at a source that has room. -/
theorem Books.add (h : Books q due log place owner) (hcapacity : q.ids.card < q.capacity) :
    Books (q.addJob source job) due (log ++ [(job.serial, .accepted)])
      (Function.update place job.serial (.waiting job.source))
      (Function.update owner job.id job.serial) := by
  have hnew : place job.serial = .unborn := (h.unborn _).mpr (Nat.le_of_eq hserial.symm)
  exact ⟨h.toPlaced.add hserial hroom hfree h.toCounted,
    h.toTold.move job.serial [.accepted] (by rw [hnew]; rfl),
    h.toShared.add hroom h.toPlaced, h.toCounted.add hroom hfree hcapacity⟩

end Add

/-! ## Taking a job out of its queue -/

/-- In a list without repetition, erasing a position erases its element and nothing else. -/
theorem Books.mem_eraseIdx_of_nodup {l : List Job} (hnodup : l.Nodup) {i : Nat} {job : Job}
    (hi : l[i]? = some job) (j : Job) : j ∈ l.eraseIdx i ↔ j ∈ l ∧ j ≠ job := by
  rw [List.mem_eraseIdx_iff_getElem?]
  constructor
  · rintro ⟨k, hk, hj⟩
    refine ⟨List.mem_of_getElem? hj, ?_⟩
    intro heq
    subst heq
    have hlt : i < l.length := (List.getElem?_eq_some_iff.mp hi).1
    exact hk ((List.getElem?_inj hlt hnodup).mp (hi.trans hj.symm)).symm
  · rintro ⟨hmem, hne⟩
    obtain ⟨k, hk⟩ := List.mem_iff_getElem?.mp hmem
    refine ⟨k, ?_, hk⟩
    intro heq
    subst heq
    rw [hi] at hk
    exact hne (Option.some.inj hk).symm

/-- A queue in which one job no longer waits. -/
theorem Placed.queued_without (h : Placed q due place owner) {key : String} {source : Source}
    {index : Nat} {job : Job} (hsource : q.sources[key]? = some source)
    (hjob : source.waiting[index]? = some job) (source' : Source)
    (hsource' : source'.waiting = source.waiting.eraseIdx index) (q' : CredentialQueue)
    (hq' : q'.sources = q.sources.insert key source') (k : String) (j : Job) :
    Queued q' k j ↔ Queued q k j ∧ j.serial ≠ job.serial := by
  have hnodup : source.waiting.Nodup := (h.waiting_nodup key source hsource).of_map _
  have hwaits : Queued q key job := ⟨source, hsource, List.mem_of_getElem? hjob⟩
  constructor
  · rintro ⟨src, hsrc, hj⟩
    rw [hq', Std.ExtTreeMap.getElem?_insert] at hsrc
    split at hsrc
    · rename_i hkey
      have hkey' : key = k := by simpa using hkey
      subst hkey'
      cases hsrc
      rw [hsource', Books.mem_eraseIdx_of_nodup hnodup hjob] at hj
      have hqueued : Queued q key j := ⟨source, hsource, hj.1⟩
      exact ⟨hqueued, fun heq => hj.2 (h.waiting_inj hqueued hwaits heq).2⟩
    · rename_i hkey
      have hqueued : Queued q k j := ⟨src, hsrc, hj⟩
      exact ⟨hqueued, fun heq => hkey (by simp [(h.waiting_inj hqueued hwaits heq).1])⟩
  · rintro ⟨hqueued, hne⟩
    obtain ⟨src, hsrc, hj⟩ := hqueued
    by_cases hkey : k = key
    · subst hkey
      rw [hsource] at hsrc
      cases hsrc
      refine ⟨source', by rw [hq', Std.ExtTreeMap.getElem?_insert_self], ?_⟩
      rw [hsource', Books.mem_eraseIdx_of_nodup hnodup hjob]
      exact ⟨hj, fun heq => hne (by rw [heq])⟩
    · refine ⟨src, ?_, hj⟩
      rw [hq', Std.ExtTreeMap.getElem?_insert, if_neg (by simpa using Ne.symm hkey)]
      exact hsrc

/-- Where a job goes that is dropped from its queue. -/
def dropPlace (expired : Bool) : Place := if expired then .expiring else .canceled

section Drop

variable {key : String} {source : Source} {index : Nat} {job : Job}
  (hsource : q.sources[key]? = some source) (hjob : source.waiting[index]? = some job)
  (expired : Bool)

include hsource hjob

theorem queued_dropJob (h : Placed q due place owner) (k : String) (j : Job) :
    Queued (q.dropJob key source index job expired) k j ↔ Queued q k j ∧ j.serial ≠ job.serial :=
  h.queued_without hsource hjob
    { source with
      outstanding := source.outstanding - 1
      waiting := source.waiting.eraseIdx index } rfl _ rfl k j

/-- The jobs whose callback is due are one more, or the same. -/
theorem Placed.due_drop (h : Placed q due place owner) :
    (∀ j ∈ (if expired then due ++ [job] else due),
      Function.update place job.serial (dropPlace expired) j.serial = .expiring) ∧
    ((if expired then due ++ [job] else due).map Job.serial).Nodup ∧
    ∀ n, Function.update place job.serial (dropPlace expired) n = .expiring →
      ∃ j ∈ (if expired then due ++ [job] else due), j.serial = n := by
  have hplace := (h.waiting key job ⟨source, hsource, List.mem_of_getElem? hjob⟩).2.1
  have hother : ∀ j ∈ due, j.serial ≠ job.serial := by
    intro j hj heq
    have hold := h.expiring j hj
    rw [heq, hplace] at hold
    cases hold
  cases expired with
  | false =>
    refine ⟨fun j hj => ?_, h.expiring_nodup, fun n hn => ?_⟩
    · exact (Function.update_of_ne (hother j hj) _ _).trans (h.expiring j hj)
    · by_cases heq : n = job.serial
      · subst heq
        rw [Function.update_self] at hn
        cases hn
      · rw [Function.update_of_ne heq] at hn
        exact h.found_expiring n hn
  | true =>
    refine ⟨fun j hj => ?_, ?_, fun n hn => ?_⟩
    · rcases List.mem_append.mp hj with hj | hj
      · exact (Function.update_of_ne (hother j hj) _ _).trans (h.expiring j hj)
      · rw [List.mem_singleton.mp hj, Function.update_self]
        rfl
    · have hfresh : job.serial ∉ due.map Job.serial := by
        intro hmem
        obtain ⟨j, hj, heq⟩ := List.mem_map.mp hmem
        exact hother j hj heq
      simp only [if_true, List.map_append, List.map_singleton]
      exact h.expiring_nodup.append (List.nodup_singleton _) (by simpa using hfresh)
    · by_cases heq : n = job.serial
      · exact ⟨job, by simp, heq.symm⟩
      · rw [Function.update_of_ne heq] at hn
        obtain ⟨j, hj, hserial⟩ := h.found_expiring n hn
        exact ⟨j, List.mem_append_left _ hj, hserial⟩

theorem Placed.drop (h : Placed q due place owner) :
    Placed (q.dropJob key source index job expired) (if expired then due ++ [job] else due)
      (Function.update place job.serial (dropPlace expired)) owner := by
  have hwaits : Queued q key job := ⟨source, hsource, List.mem_of_getElem? hjob⟩
  have hplace := (h.waiting key job hwaits).2.1
  have hqueued := queued_dropJob hsource hjob expired h
  obtain ⟨hexpiring, hnodup, hfound⟩ := h.due_drop hsource hjob expired
  -- a dropped job neither waits nor runs, and its number was given
  have hdrop : dropPlace expired ≠ .unborn ∧ (∀ key, dropPlace expired ≠ .waiting key) ∧
      ∀ worker, dropPlace expired ≠ .running worker := by
    cases expired <;> simp [dropPlace]
  have hstats : (q.dropJob key source index job expired).stats.accepted = q.stats.accepted := by
    cases expired <;> rfl
  constructor
  case waiting =>
    intro k j hj
    have hold := h.waiting k j
    rw [hqueued] at hj
    rw [Function.update_of_ne hj.2]
    exact hold hj.1
  case waiting_nodup =>
    intro k src hs
    have hold := h.waiting_nodup key source hsource
    simp only [dropJob] at hs
    rw [Std.ExtTreeMap.getElem?_insert] at hs
    split at hs
    · cases hs
      exact hold.sublist ((List.eraseIdx_sublist _ _).map _)
    · exact h.waiting_nodup k src hs
  case running =>
    intro worker r hr
    have hr' : OnWorker q worker r := hr
    obtain ⟨hold, howner', src, hsrc⟩ := h.running worker r hr'
    rw [Function.update_of_ne (h.waiting_ne_running hwaits hr').2.symm]
    refine ⟨hold, howner', ?_⟩
    simp only [dropJob]
    grind
  case expiring => exact hexpiring
  case expiring_nodup => exact hnodup
  case found_waiting =>
    intro n k hn
    have hold := h.found_waiting n k
    simp only [Function.update_apply] at hn
    simp only [hqueued]
    grind
  case found_running =>
    intro n worker hn
    have hold := h.found_running n worker
    simp only [Function.update_apply] at hn
    show ∃ r, OnWorker q worker r ∧ r.serial = n
    grind
  case found_expiring => exact hfound
  case unborn =>
    intro n
    have hold := h.unborn n
    rw [hstats]
    simp only [Function.update_apply]
    grind

theorem Shared.drop (h : Shared q) : Shared (q.dropJob key source index job expired) := by
  refine ⟨fun k src hs => ?_, fun k src hs => ?_, h.source_capacity_pos⟩
  · show src.outstanding = src.waiting.length + runningOf q k
    simp only [dropJob] at hs
    rw [Std.ExtTreeMap.getElem?_insert] at hs
    split at hs
    · rename_i hk
      have hk' : key = k := by simpa using hk
      subst hk'
      cases hs
      have hsum := h.outstanding key source hsource
      have hlt : index < source.waiting.length := (List.getElem?_eq_some_iff.mp hjob).1
      have hlen := List.length_eraseIdx_of_lt hlt
      dsimp only
      omega
    · exact h.outstanding k src hs
  · have hold := h.source_capacity k
    simp only [dropJob] at hs ⊢
    grind

theorem Counted.drop (h : Counted q) (hplaced : Placed q due place owner) :
    Counted (q.dropJob key source index job expired) := by
  have hwaits : Queued q key job := ⟨source, hsource, List.mem_of_getElem? hjob⟩
  have hcard := Finset.card_erase_add_one ((h.ids job.id).mpr (.inl ⟨key, job, hwaits, rfl⟩))
  constructor
  case ids =>
    intro x
    simp only [queued_dropJob hsource hjob expired hplaced]
    show x ∈ q.ids.erase job.id ↔ _ ∨ ∃ worker r, OnWorker q worker r ∧ r.id = x
    -- The id belongs to this job alone, so erasing it takes no other job out.
    rw [Finset.mem_erase, h.ids x]
    constructor
    · rintro ⟨hne, ⟨k, j, hj, hx⟩ | hr⟩
      · refine .inl ⟨k, j, ⟨hj, ?_⟩, hx⟩
        intro heq
        have hsame := (hplaced.waiting_inj hj hwaits heq).2
        exact hne (by rw [← hx, hsame])
      · exact .inr hr
    · rintro (⟨k, j, ⟨hj, hne⟩, hx⟩ | ⟨worker, r, hr, hx⟩)
      · refine ⟨?_, .inl ⟨k, j, hj, hx⟩⟩
        intro heq
        have hsame := (hplaced.waiting_id_inj hj hwaits (hx.trans heq)).2
        exact hne (by rw [hsame])
      · refine ⟨?_, .inr ⟨worker, r, hr, hx⟩⟩
        intro heq
        exact (hplaced.waiting_ne_running hwaits hr).1 (by rw [hx, heq])
  case capacity =>
    have hle := Finset.card_le_card (Finset.erase_subset job.id q.ids)
    exact Nat.le_trans hle h.capacity
  case accepted_eq =>
    have hold := h.accepted_eq
    cases expired with
    | true =>
      show q.stats.accepted = q.stats.completed + q.stats.canceled + (q.stats.expired + 1) +
        (q.ids.erase job.id).card
      omega
    | false =>
      show q.stats.accepted = q.stats.completed + (q.stats.canceled + 1) + q.stats.expired +
        (q.ids.erase job.id).card
      omega
  case started_eq =>
    have hold := h.started_eq
    cases expired with
    | true => exact hold
    | false => exact hold

/-- A waiting job is dropped: it is canceled, or its callback is due. -/
theorem Books.drop (h : Books q due log place owner) :
    Books (q.dropJob key source index job expired) (if expired then due ++ [job] else due)
      (if expired then log else log ++ [(job.serial, .canceled)])
      (Function.update place job.serial (dropPlace expired)) owner := by
  have hplace := (h.waiting key job ⟨source, hsource, List.mem_of_getElem? hjob⟩).2.1
  have htold : Told (if expired then log else log ++ [(job.serial, .canceled)])
      (Function.update place job.serial (dropPlace expired)) := by
    cases expired with
    | true => simpa using h.toTold.move job.serial [] (by rw [hplace]; rfl)
    | false => exact h.toTold.move job.serial [.canceled] (by rw [hplace]; rfl)
  exact ⟨h.toPlaced.drop hsource hjob expired, htold, h.toShared.drop hsource hjob expired,
    h.toCounted.drop hsource hjob expired h.toPlaced⟩

end Drop

/-! ## Changes that move no job -/

section Unmoved

variable {q' : CredentialQueue}
  (hqueued : ∀ (k : String) (j : Job), Queued q' k j ↔ Queued q k j)
  (hsource : ∀ (k : String) (source' : Source), q'.sources[k]? = some source' →
    ∃ source : Source, q.sources[k]? = some source ∧ source'.waiting = source.waiting ∧
      source'.outstanding = source.outstanding)
  (hkept : ∀ (worker : Nat) (r : Running), OnWorker q worker r →
    ∃ source : Source, q'.sources[r.source]? = some source)
  (hrunning : q'.running = q.running) (hids : q'.ids = q.ids)
  (hcapacity : q'.capacity = q.capacity ∧ q'.sourceCapacity = q.sourceCapacity)
  (hstats : q'.stats.accepted = q.stats.accepted ∧ q'.stats.started = q.stats.started ∧
    q'.stats.completed = q.stats.completed ∧ q'.stats.canceled = q.stats.canceled ∧
    q'.stats.expired = q.stats.expired)

include hrunning

theorem onWorker_iff (w : Nat) (r : Running) : OnWorker q' w r ↔ OnWorker q w r := by
  unfold OnWorker
  rw [hrunning]

include hqueued hsource hkept hstats in
theorem Placed.unmoved (h : Placed q due place owner) : Placed q' due place owner := by
  have hslot := onWorker_iff hrunning
  constructor
  case waiting => exact fun k j hj => h.waiting k j ((hqueued k j).mp hj)
  case waiting_nodup =>
    intro k source' hs
    obtain ⟨source, hs', hwaiting, _⟩ := hsource k source' hs
    rw [hwaiting]
    exact h.waiting_nodup k source hs'
  case running =>
    intro w r hr
    have hr' := (hslot w r).mp hr
    exact ⟨(h.running w r hr').1, (h.running w r hr').2.1, hkept w r hr'⟩
  case expiring => exact h.expiring
  case expiring_nodup => exact h.expiring_nodup
  case found_waiting =>
    intro n k hn
    obtain ⟨j, hj, hserial⟩ := h.found_waiting n k hn
    exact ⟨j, (hqueued k j).mpr hj, hserial⟩
  case found_running =>
    intro n w hn
    obtain ⟨r, hr, hserial⟩ := h.found_running n w hn
    exact ⟨r, (hslot w r).mpr hr, hserial⟩
  case found_expiring => exact h.found_expiring
  case unborn =>
    intro n
    rw [hstats.1]
    exact h.unborn n

include hsource hcapacity in
theorem Shared.unmoved (h : Shared q) : Shared q' := by
  constructor
  case outstanding =>
    intro k source' hs
    obtain ⟨source, hs', hwaiting, houtstanding⟩ := hsource k source' hs
    have hsum := h.outstanding k source hs'
    unfold runningOf at hsum ⊢
    rw [hwaiting, houtstanding, hrunning]
    exact hsum
  case source_capacity =>
    intro k source' hs
    obtain ⟨source, hs', _, houtstanding⟩ := hsource k source' hs
    rw [houtstanding, hcapacity.2]
    exact h.source_capacity k source hs'
  case source_capacity_pos =>
    rw [hcapacity.2]
    exact h.source_capacity_pos

include hqueued hids hcapacity hstats in
theorem Counted.unmoved (h : Counted q) : Counted q' := by
  obtain ⟨haccepted, hstarted, hcompleted, hcanceled, hexpired⟩ := hstats
  constructor
  case ids =>
    intro x
    simp only [hqueued, onWorker_iff hrunning, hids]
    exact h.ids x
  case capacity =>
    rw [hids, hcapacity.1]
    exact h.capacity
  case accepted_eq =>
    rw [haccepted, hcompleted, hcanceled, hexpired, hids]
    exact h.accepted_eq
  case started_eq =>
    have hold := h.started_eq
    unfold active at hold ⊢
    rw [hstarted, hcompleted, hrunning]
    exact hold

include hqueued hsource hkept hids hcapacity hstats in
/-- The books only look at the jobs, the counters and the limits. -/
theorem Books.unmoved (h : Books q due log place owner) : Books q' due log place owner :=
  ⟨h.toPlaced.unmoved hqueued hsource hkept hrunning hstats, h.toTold,
    h.toShared.unmoved hsource hrunning hcapacity,
    h.toCounted.unmoved hqueued hrunning hids hcapacity hstats⟩

end Unmoved

namespace Books

/-- A change of the queue's other fields. -/
theorem other (h : Books q due log place owner) {q' : CredentialQueue}
    (hsources : q'.sources = q.sources) (hrunning : q'.running = q.running)
    (hids : q'.ids = q.ids)
    (hcapacity : q'.capacity = q.capacity ∧ q'.sourceCapacity = q.sourceCapacity)
    (hstats : q'.stats.accepted = q.stats.accepted ∧ q'.stats.started = q.stats.started ∧
      q'.stats.completed = q.stats.completed ∧ q'.stats.canceled = q.stats.canceled ∧
      q'.stats.expired = q.stats.expired) :
    Books q' due log place owner := by
  refine h.unmoved ?_ ?_ ?_ hrunning hids hcapacity hstats
  · intro k j
    unfold Queued
    rw [hsources]
  · intro k source' hs
    rw [hsources] at hs
    exact ⟨source', hs, rfl, rfl⟩
  · intro w r hr
    rw [hsources]
    exact (h.running w r hr).2.2

/-- A source that has to wait for a token keeps its jobs. -/
theorem delay (h : Books q due log place owner) {now : TimePoint} {key : String}
    {source : Source} (hsource : q.sources[key]? = some source) (seconds : Nat) :
    Books (q.delaySource now key source seconds) due log place owner := by
  have hlookup : ∀ k : String, (q.delaySource now key source seconds).sources[k]? =
      if key = k then some { source with notBefore := now + CrossDesk.seconds seconds }
      else q.sources[k]? := by
    intro k
    unfold delaySource
    grind
  refine h.unmoved (q := q) ?_ ?_ ?_ rfl rfl ⟨rfl, rfl⟩ ⟨rfl, rfl, rfl, rfl, rfl⟩
  · intro k j
    unfold Queued
    rw [hlookup]
    by_cases hkey : key = k
    · subst hkey
      simp [hsource]
    · simp [hkey]
  · intro k source' hs
    rw [hlookup] at hs
    split at hs
    · rename_i hkey
      subst hkey
      cases hs
      exact ⟨source, hsource, rfl, rfl⟩
    · exact ⟨source', hs, rfl, rfl⟩
  · intro w r hr
    obtain ⟨src, hsrc⟩ := (h.running w r hr).2.2
    rw [hlookup]
    split
    · exact ⟨_, rfl⟩
    · exact ⟨src, hsrc⟩

/-- A source with nothing outstanding can go: it has no waiting and no running job. -/
theorem close (h : Books q due log place owner) {key : String} {source : Source}
    (hsource : q.sources[key]? = some source) (hempty : source.outstanding = 0) :
    Books { q with sources := q.sources.erase key } due log place owner := by
  have hsum := h.outstanding key source hsource
  have hwaiting : source.waiting = [] := List.length_eq_zero_iff.mp (by omega)
  have hrunning : runningOf q key = 0 := by omega
  have hlookup : ∀ k : String, (q.sources.erase key)[k]? =
      if key = k then none else q.sources[k]? := by
    intro k
    grind
  refine h.unmoved (q := q) ?_ ?_ ?_ rfl rfl ⟨rfl, rfl⟩ ⟨rfl, rfl, rfl, rfl, rfl⟩
  · intro k j
    unfold Queued
    dsimp only
    rw [hlookup]
    by_cases hkey : key = k
    · subst hkey
      simp [hsource, hwaiting]
    · simp [hkey]
  · intro k source' hs
    dsimp only at hs
    rw [hlookup] at hs
    split at hs
    · cases hs
    · exact ⟨source', hs, rfl, rfl⟩
  · intro w r hr
    obtain ⟨src, hsrc⟩ := (h.running w r hr).2.2
    -- nothing of this source runs, so the job is another source's
    have hne : r.source ≠ key := by
      intro heq
      unfold runningOf at hrunning
      rw [List.countP_eq_zero] at hrunning
      exact hrunning (some r) (List.mem_of_getElem? hr) (by simp [heq])
    refine ⟨src, ?_⟩
    dsimp only
    rw [hlookup, if_neg (Ne.symm hne)]
    exact hsrc

/-- Putting a source back, or dropping it when nothing is outstanding, is as good as storing it. -/
theorem put {key : String} {source : Source}
    (h : Books { q with sources := q.sources.insert key source } due log place owner) :
    Books { q with sources := putSource key source q.sources } due log place owner := by
  unfold putSource
  split
  · rename_i hempty
    have hclosed := h.close (Std.ExtTreeMap.getElem?_insert_self ..) hempty
    dsimp only at hclosed
    rwa [OrdMap.erase_insert] at hclosed
  · exact h

end Books

/-! ## Callbacks -/

/-- A job whose callback is called is due no longer, and no other job moves. -/
theorem Placed.expire {job : Job} (h : Placed q (job :: due) place owner) :
    Placed q due (Function.update place job.serial .expired) owner := by
  have hplace : place job.serial = .expiring := h.expiring job List.mem_cons_self
  have hnodup := h.expiring_nodup
  rw [List.map_cons, List.nodup_cons] at hnodup
  -- a job that is anywhere else keeps its place
  have hkept : ∀ n : Nat, place n ≠ .expiring →
      Function.update place job.serial .expired n = place n := by
    intro n hn
    refine Function.update_of_ne (fun heq => hn ?_) _ _
    rw [heq, hplace]
  have hback : ∀ (n : Nat) (p : Place), Function.update place job.serial .expired n = p →
      p ≠ .expired → n ≠ job.serial ∧ place n = p := by
    intro n p hn hp
    by_cases heq : n = job.serial
    · subst heq
      rw [Function.update_self] at hn
      exact absurd hn.symm hp
    · rw [Function.update_of_ne heq] at hn
      exact ⟨heq, hn⟩
  constructor
  case waiting =>
    intro k j hj
    obtain ⟨hkey, hwaits, howner⟩ := h.waiting k j hj
    exact ⟨hkey, by rw [hkept _ (by rw [hwaits]; nofun), hwaits], howner⟩
  case waiting_nodup => exact h.waiting_nodup
  case running =>
    intro w r hr
    obtain ⟨hruns, howner, hsource⟩ := h.running w r hr
    exact ⟨by rw [hkept _ (by rw [hruns]; nofun), hruns], howner, hsource⟩
  case expiring =>
    intro j hj
    have hserial : j.serial ≠ job.serial := by
      intro heq
      exact hnodup.1 (heq ▸ List.mem_map_of_mem hj)
    rw [Function.update_of_ne hserial]
    exact h.expiring j (List.mem_cons_of_mem _ hj)
  case expiring_nodup => exact hnodup.2
  case found_waiting => exact fun n k hn => h.found_waiting n k (hback n _ hn nofun).2
  case found_running => exact fun n w hn => h.found_running n w (hback n _ hn nofun).2
  case found_expiring =>
    intro n hn
    obtain ⟨hother, hdue⟩ := hback n _ hn nofun
    obtain ⟨j, hj, hserial⟩ := h.found_expiring n hdue
    rcases List.mem_cons.mp hj with rfl | hj
    · exact absurd hserial.symm hother
    · exact ⟨j, hj, hserial⟩
  case unborn =>
    intro n
    rw [← h.unborn n]
    by_cases heq : n = job.serial
    · subst heq
      simp [hplace]
    · rw [Function.update_of_ne heq]

/-- The callback of the first due job is called. -/
theorem Books.expire {job : Job} (h : Books q (job :: due) log place owner) :
    Books q due (log ++ [(job.serial, .expired)])
      (Function.update place job.serial .expired) owner := by
  have hplace : place job.serial = .expiring := h.expiring job List.mem_cons_self
  exact ⟨h.toPlaced.expire, h.toTold.move job.serial [.expired] (by rw [hplace]; rfl), h.toShared,
    h.toCounted⟩

/-! ## Workers -/

theorem countP_set_of_getElem? (p : Option Running → Bool) {l : List (Option Running)} {i : Nat}
    {old : Option Running} (h : l[i]? = some old) (new : Option Running) :
    (l.set i new).countP p + (if p old then 1 else 0) =
      l.countP p + (if p new then 1 else 0) := by
  obtain ⟨hlt, hget⟩ := List.getElem?_eq_some_iff.mp h
  have hpos : p old = true → 0 < l.countP p := by
    intro hp
    exact List.countP_pos_iff.mpr ⟨old, List.mem_of_getElem? h, hp⟩
  rw [List.countP_set hlt, hget]
  cases hp : p old with
  | true =>
    have := hpos hp
    simp only [if_true]
    omega
  | false => simp

section Start

variable {now : TimePoint} {worker : Nat} {key : String} {source : Source} {job : Job}
  (hsource : q.sources[key]? = some source) (hjob : source.waiting.head? = some job)
  (hidle : q.running[worker]? = some none)

theorem sources_startJob (k : String) : (q.startJob now worker key source job).sources[k]? =
    if key = k then some { source with waiting := source.waiting.tail } else q.sources[k]? := by
  unfold startJob
  grind

include hidle in
theorem onWorker_startJob (w : Nat) (r : Running) :
    OnWorker (q.startJob now worker key source job) w r ↔ OnWorker q w r ∨ w = worker ∧
      r = { id := job.id, source := job.source, startedAt := now, serial := job.serial } := by
  unfold OnWorker startJob
  dsimp only
  have hlt : worker < q.running.length := (List.getElem?_eq_some_iff.mp hidle).1
  rw [List.getElem?_set]
  by_cases hw : worker = w
  · subst hw
    rw [if_pos rfl, if_pos hlt, hidle]
    simp [eq_comm]
  · simp [hw, Ne.symm hw]

include hsource hjob

theorem queued_startJob (h : Placed q due place owner) (k : String) (j : Job) :
    Queued (q.startJob now worker key source job) k j ↔ Queued q k j ∧ j.serial ≠ job.serial := by
  have hfirst : source.waiting[0]? = some job := by rw [← hjob, List.head?_eq_getElem?]
  exact h.queued_without hsource hfirst { source with waiting := source.waiting.tail }
    (by rw [List.eraseIdx_zero]) _ rfl k j

include hidle

theorem Placed.start (h : Placed q due place owner) :
    Placed (q.startJob now worker key source job) due
      (Function.update place job.serial (.running worker)) owner := by
  have hwaits : Queued q key job := ⟨source, hsource, List.mem_of_head? hjob⟩
  obtain ⟨hkey, hplace, howner⟩ := h.waiting key job hwaits
  have hqueued : ∀ (k : String) (j : Job), Queued (q.startJob now worker key source job) k j ↔
      Queued q k j ∧ j.serial ≠ job.serial := queued_startJob hsource hjob h
  have hslot : ∀ (w : Nat) (r : Running), OnWorker (q.startJob now worker key source job) w r ↔
      OnWorker q w r ∨ w = worker ∧
        r = { id := job.id, source := job.source, startedAt := now, serial := job.serial } :=
    onWorker_startJob hidle
  -- The head of the source moves to the worker; every other job stays where it was.
  constructor
  case waiting =>
    intro k j hj
    have hold := h.waiting k j
    rw [hqueued] at hj
    rw [Function.update_of_ne hj.2]
    exact hold hj.1
  case waiting_nodup =>
    intro k src hs
    rw [sources_startJob] at hs
    split at hs
    · cases hs
      exact (h.waiting_nodup key source hsource).sublist ((List.tail_sublist _).map _)
    · exact h.waiting_nodup k src hs
  case running =>
    intro w r hr
    rw [sources_startJob]
    rcases (hslot w r).mp hr with hr | ⟨rfl, rfl⟩
    · obtain ⟨hold, howner', src, hsrc⟩ := h.running w r hr
      rw [Function.update_of_ne (h.waiting_ne_running hwaits hr).2.symm]
      exact ⟨hold, howner', by grind⟩
    · rw [Function.update_self, if_pos hkey.symm]
      exact ⟨rfl, howner, _, rfl⟩
  case expiring =>
    intro j hj
    have hold := h.expiring j hj
    simp only [Function.update_apply]
    grind
  case expiring_nodup => exact h.expiring_nodup
  case found_waiting =>
    intro n k hn
    have hold := h.found_waiting n k
    simp only [Function.update_apply] at hn
    simp only [hqueued]
    grind
  case found_running =>
    intro n w hn
    have hold := h.found_running n w
    simp only [Function.update_apply] at hn
    simp only [hslot]
    grind
  case found_expiring =>
    intro n hn
    have hold := h.found_expiring n
    simp only [Function.update_apply] at hn
    grind
  case unborn =>
    intro n
    have hold := h.unborn n
    show _ ↔ q.stats.accepted ≤ n
    simp only [Function.update_apply]
    grind

theorem Shared.start (h : Shared q) (hkey : job.source = key) :
    Shared (q.startJob now worker key source job) := by
  refine ⟨fun k src hs => ?_, fun k src hs => ?_, h.source_capacity_pos⟩
  · -- what waits less runs more
    have hcount := countP_set_of_getElem? (fun slot => slot.any (fun r => r.source == k)) hidle
      (some { id := job.id, source := job.source, startedAt := now, serial := job.serial })
    have hrunning : runningOf (q.startJob now worker key source job) k =
        runningOf q k + if key = k then 1 else 0 := by
      unfold runningOf startJob
      simpa [hkey] using hcount
    rw [sources_startJob] at hs
    rw [hrunning]
    split at hs
    · rename_i hk
      subst hk
      cases hs
      have hsum := h.outstanding key source hsource
      have hpos : 0 < source.waiting.length :=
        List.length_pos_of_mem (List.mem_of_head? hjob)
      have hlen : source.waiting.tail.length = source.waiting.length - 1 := List.length_tail
      simp only [if_true]
      omega
    · rename_i hk
      rw [if_neg hk]
      exact h.outstanding k src hs
  · rw [sources_startJob] at hs
    show src.outstanding ≤ q.sourceCapacity
    split at hs
    · cases hs
      exact h.source_capacity key source hsource
    · exact h.source_capacity k src hs

theorem Counted.start (h : Counted q) (hplaced : Placed q due place owner) :
    Counted (q.startJob now worker key source job) := by
  have hwaits : Queued q key job := ⟨source, hsource, List.mem_of_head? hjob⟩
  refine ⟨fun x => ?_, h.capacity, h.accepted_eq, ?_⟩
  · simp only [queued_startJob hsource hjob hplaced, onWorker_startJob hidle]
    show x ∈ q.ids ↔ _
    rw [h.ids x]
    constructor
    · rintro (⟨k, j, hj, hx⟩ | ⟨w, r, hr, hx⟩)
      · by_cases hsame : j.serial = job.serial
        · have hjob' := (hplaced.waiting_inj hj hwaits hsame).2
          exact .inr ⟨worker, _, .inr ⟨rfl, rfl⟩, by rw [← hx, hjob']⟩
        · exact .inl ⟨k, j, ⟨hj, hsame⟩, hx⟩
      · exact .inr ⟨w, r, .inl hr, hx⟩
    · rintro (⟨k, j, ⟨hj, _⟩, hx⟩ | ⟨w, r, hr | ⟨_, hr⟩, hx⟩)
      · exact .inl ⟨k, j, hj, hx⟩
      · exact .inr ⟨w, r, hr, hx⟩
      · subst hr
        exact .inl ⟨key, job, hwaits, hx⟩
  · have hold := h.started_eq
    have hcount := countP_set_of_getElem? Option.isSome hidle
      (some { id := job.id, source := job.source, startedAt := now, serial := job.serial })
    show q.stats.started + 1 = q.stats.completed + (q.running.set worker _).countP Option.isSome
    unfold active at hold
    simp only [Option.isSome_none, Option.isSome_some, if_true, Bool.false_eq_true, if_false]
      at hcount
    omega

/-- The first waiting job of a source moves to an idle worker. -/
theorem Books.start (h : Books q due log place owner) :
    Books (q.startJob now worker key source job) due
      (log ++ [(job.serial, .admitted), (job.serial, .started)])
      (Function.update place job.serial (.running worker)) owner := by
  obtain ⟨hkey, hplace, -⟩ := h.waiting key job ⟨source, hsource, List.mem_of_head? hjob⟩
  exact ⟨h.toPlaced.start hsource hjob hidle,
    h.toTold.move job.serial [.admitted, .started] (by rw [hplace]; rfl),
    h.toShared.start hsource hjob hidle hkey, h.toCounted.start hsource hjob hidle h.toPlaced⟩

end Start

/-- The queue when a worker is done. The share of its source is given back, but the source is not
dropped yet. -/
def finishJob (worker : Nat) (active : Running) (source : Source) (maxExecutionMs : Nat)
    (q : CredentialQueue) : CredentialQueue :=
  { q with
    ids := q.ids.erase active.id
    sources := q.sources.insert active.source { source with outstanding := source.outstanding - 1 }
    running := q.running.set worker none
    stats := { q.stats with maxExecutionMs, completed := q.stats.completed + 1 } }

section Finish

variable {worker : Nat} {active : Running} {source : Source} {maxExecutionMs : Nat}
  (hactive : OnWorker q worker active) (hsource : q.sources[active.source]? = some source)

theorem sources_finishJob (k : String) :
    (q.finishJob worker active source maxExecutionMs).sources[k]? =
      if active.source = k then some { source with outstanding := source.outstanding - 1 }
      else q.sources[k]? := by
  unfold finishJob
  grind

theorem onWorker_finishJob (w : Nat) (r : Running) :
    OnWorker (q.finishJob worker active source maxExecutionMs) w r ↔ OnWorker q w r ∧ w ≠ worker := by
  unfold OnWorker finishJob
  dsimp only
  rw [List.getElem?_set]
  by_cases hw : worker = w
  · subst hw
    simp
  · simp [hw, Ne.symm hw]

include hsource in
theorem queued_finishJob (k : String) (j : Job) :
    Queued (q.finishJob worker active source maxExecutionMs) k j ↔ Queued q k j := by
  unfold Queued
  rw [sources_finishJob]
  by_cases hkey : active.source = k
  · subst hkey
    simp [hsource]
  · simp [hkey]

include hactive in
/-- Another worker computes for another job. -/
theorem Placed.ne_of_running (h : Placed q due place owner) {w : Nat} {r : Running}
    (hr : OnWorker q w r) (hw : w ≠ worker) : r.serial ≠ active.serial ∧ r.id ≠ active.id := by
  refine ⟨fun heq => ?_, fun heq => hw (h.running_inj hr hactive heq)⟩
  have hold := (h.running w r hr).1
  rw [heq, (h.running worker active hactive).1] at hold
  cases hold
  exact hw rfl

include hactive hsource

theorem Placed.finish (h : Placed q due place owner) :
    Placed (q.finishJob worker active source maxExecutionMs) due
      (Function.update place active.serial .completed) owner := by
  have hplace := (h.running worker active hactive).1
  have hqueued : ∀ (k : String) (j : Job),
      Queued (q.finishJob worker active source maxExecutionMs) k j ↔ Queued q k j :=
    queued_finishJob hsource
  -- The job leaves its worker, and its place is final.
  constructor
  case waiting =>
    intro k j hj
    have hj' := (hqueued k j).mp hj
    rw [Function.update_of_ne (h.waiting_ne_running hj' hactive).2]
    exact h.waiting k j hj'
  case waiting_nodup =>
    intro k src hs
    rw [sources_finishJob] at hs
    split at hs
    · cases hs
      exact h.waiting_nodup _ source hsource
    · exact h.waiting_nodup k src hs
  case running =>
    intro w r hr
    obtain ⟨hr', hw⟩ := (onWorker_finishJob w r).mp hr
    obtain ⟨hold, howner', src, hsrc⟩ := h.running w r hr'
    rw [Function.update_of_ne (h.ne_of_running hactive hr' hw).1, sources_finishJob]
    exact ⟨hold, howner', by grind⟩
  case expiring =>
    intro j hj
    have hold := h.expiring j hj
    simp only [Function.update_apply]
    grind
  case expiring_nodup => exact h.expiring_nodup
  case found_waiting =>
    intro n k hn
    have hold := h.found_waiting n k
    simp only [Function.update_apply] at hn
    split at hn
    · cases hn
    · obtain ⟨j, hj, hserial⟩ := hold hn
      exact ⟨j, (hqueued k j).mpr hj, hserial⟩
  case found_running =>
    intro n w hn
    simp only [Function.update_apply] at hn
    split at hn
    · cases hn
    · rename_i hne
      obtain ⟨r, hr, hserial⟩ := h.found_running n w hn
      refine ⟨r, (onWorker_finishJob w r).mpr ⟨hr, ?_⟩, hserial⟩
      -- Another job on the same worker would be the one that finishes.
      intro hw
      subst hw
      have hsame : some (some r) = some (some active) := hr.symm.trans hactive
      cases hsame
      exact hne hserial.symm
  case found_expiring =>
    intro n hn
    have hold := h.found_expiring n
    simp only [Function.update_apply] at hn
    grind
  case unborn =>
    intro n
    have hold := h.unborn n
    show _ ↔ q.stats.accepted ≤ n
    simp only [Function.update_apply]
    grind

theorem Shared.finish (h : Shared q) : Shared (q.finishJob worker active source maxExecutionMs) := by
  refine ⟨fun k src hs => ?_, fun k src hs => ?_, h.source_capacity_pos⟩
  · have hcount := countP_set_of_getElem? (fun slot => slot.any (fun r => r.source == k)) hactive none
    have hrunning : runningOf q k = (q.running.set worker none).countP
        (fun slot => slot.any (fun r => r.source == k)) + if active.source = k then 1 else 0 := by
      unfold runningOf
      simpa using hcount.symm
    show src.outstanding = src.waiting.length + (q.running.set worker none).countP _
    rw [sources_finishJob] at hs
    split at hs
    · rename_i hk
      subst hk
      cases hs
      have hsum := h.outstanding _ source hsource
      rw [if_pos rfl] at hrunning
      dsimp only
      omega
    · rename_i hk
      rw [if_neg hk, Nat.add_zero] at hrunning
      rw [← hrunning]
      exact h.outstanding k src hs
  · have hold := h.source_capacity k
    have hold' := h.source_capacity _ source hsource
    show src.outstanding ≤ q.sourceCapacity
    rw [sources_finishJob] at hs
    split at hs
    · cases hs
      dsimp only
      omega
    · exact hold src hs

theorem Counted.finish (h : Counted q) (hplaced : Placed q due place owner) :
    Counted (q.finishJob worker active source maxExecutionMs) := by
  have hmem : active.id ∈ q.ids := (h.ids active.id).mpr (.inr ⟨worker, active, hactive, rfl⟩)
  have hcard := Finset.card_erase_add_one hmem
  constructor
  case ids =>
    intro x
    simp only [queued_finishJob hsource, onWorker_finishJob]
    show x ∈ q.ids.erase active.id ↔ _
    -- As for a dropped job: the id belongs to the job that finishes, and to no other.
    rw [Finset.mem_erase, h.ids x]
    constructor
    · rintro ⟨hne, ⟨k, j, hj, hx⟩ | ⟨w, r, hr, hx⟩⟩
      · exact .inl ⟨k, j, hj, hx⟩
      · refine .inr ⟨w, r, ⟨hr, ?_⟩, hx⟩
        intro hw
        subst hw
        have hsame : some (some r) = some (some active) := hr.symm.trans hactive
        cases hsame
        exact hne hx.symm
    · rintro (⟨k, j, hj, hx⟩ | ⟨w, r, ⟨hr, hw⟩, hx⟩)
      · refine ⟨?_, .inl ⟨k, j, hj, hx⟩⟩
        intro heq
        exact (hplaced.waiting_ne_running hj hactive).1 (by rw [hx, heq])
      · exact ⟨hx ▸ (hplaced.ne_of_running hactive hr hw).2, .inr ⟨w, r, hr, hx⟩⟩
  case capacity =>
    have hle := Finset.card_le_card (Finset.erase_subset active.id q.ids)
    exact Nat.le_trans hle h.capacity
  case accepted_eq =>
    have hold := h.accepted_eq
    show q.stats.accepted = q.stats.completed + 1 + q.stats.canceled + q.stats.expired +
      (q.ids.erase active.id).card
    omega
  case started_eq =>
    have hold := h.started_eq
    have hcount := countP_set_of_getElem? Option.isSome hactive none
    unfold CredentialQueue.active at hold
    show q.stats.started = q.stats.completed + 1 + (q.running.set worker none).countP _
    simp only [Option.isSome_none, Option.isSome_some, if_true, Bool.false_eq_true, if_false]
      at hcount
    omega

/-- A worker is done. -/
theorem Books.finish (h : Books q due log place owner) :
    Books (q.finishJob worker active source maxExecutionMs) due
      (log ++ [(active.serial, .completed)])
      (Function.update place active.serial .completed) owner := by
  have hplace := (h.running worker active hactive).1
  exact ⟨h.toPlaced.finish hactive hsource,
    h.toTold.move active.serial [.completed] (by rw [hplace]; rfl),
    h.toShared.finish hactive hsource, h.toCounted.finish hactive hsource h.toPlaced⟩

end Finish

namespace Books

/-- `Complete` succeeds for a worker that computes, and keeps the books. -/
theorem complete (h : Books q due log place owner) {worker : Nat} {active : Running}
    (hactive : OnWorker q worker active) {now : TimePoint} {q' : CredentialQueue}
    (hcompleted : q.complete now worker = some q') :
    Books q' due (log ++ [(active.serial, .completed)])
      (Function.update place active.serial .completed) owner := by
  obtain ⟨_, _, source, hsource⟩ := h.running worker active hactive
  unfold OnWorker at hactive
  unfold CredentialQueue.complete at hcompleted
  rw [hactive] at hcompleted
  simp only [hsource, Option.some.injEq] at hcompleted
  subst hcompleted
  exact Books.put (q := { q with
      ids := q.ids.erase active.id
      running := q.running.set worker none
      stats := { q.stats with
        maxExecutionMs := max q.stats.maxExecutionMs (millis (now - active.startedAt))
        completed := q.stats.completed + 1 } }) (h.finish hactive hsource)

theorem complete_isSome (h : Books q due log place owner) {worker : Nat} {active : Running}
    (hactive : OnWorker q worker active) (now : TimePoint) :
    ∃ q', q.complete now worker = some q' := by
  obtain ⟨_, _, source, hsource⟩ := h.running worker active hactive
  unfold OnWorker at hactive
  unfold CredentialQueue.complete
  rw [hactive]
  simp only [hsource]
  exact ⟨_, rfl⟩

end Books

end CrossDesk.CredentialQueue
