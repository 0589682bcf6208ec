import CrossDesk.SignalServer.Requests
import CrossDesk.SignalServer.Schedule

/-!
# The messages of a connection

A message that the network thread accepted is queued for the application worker. When its turn comes
it is handed to `ProcessMessage`, or deferred behind a pending request of its connection, or dropped.
Deferred messages are handed over in the loop of `FinishCredentialRequest`, which may put the next
request into the queue, and may be entered for another connection from within.

Whatever happens in between, messages are handled in the order in which they came: what was
processed, then what is deferred, then what is queued is a sublist of what was accepted, and what is
missing was dropped (`Accounted`). `pending_messages` and `deferred_message_count` are the lengths that
they stand for.
-/

namespace CrossDesk.SignalServer

/-- The message of a connection that a job is to dispatch. -/
def ApplicationJob.messageOf (id : Nat) : ApplicationJob → Option Json
  | message id' m => if id' = id then some m else none
  | _ => none

namespace Event

def acceptedOf (id : Nat) : Event → Option Json
  | accepted id' m => if id' = id then some m else none
  | _ => none

def processedOf (id : Nat) : Event → Option Json
  | processed id' m => if id' = id then some m else none
  | _ => none

/-- A message that is not processed any more. -/
def lostOf (id : Nat) : Event → Option Json
  | dropped id' m | overflowed id' m => if id' = id then some m else none
  | _ => none

def requestsClose : Event → Bool
  | closeRequested _ => true
  | _ => false

/-- The connection that an event is about. -/
def connection : Event → Nat
  | accepted id _ | processed id _ | dropped id _ | overflowed id _ | closeRequested id => id

/-- Events of other connections say nothing. -/
theorem filterMap_others {id : Nat} {es : List Event} (h : ∀ e ∈ es, e.connection ≠ id) :
    es.filterMap (acceptedOf id) = [] ∧ es.filterMap (processedOf id) = [] ∧
      es.filterMap (lostOf id) = [] := by
  refine ⟨List.filterMap_eq_nil_iff.mpr fun e he => ?_, List.filterMap_eq_nil_iff.mpr fun e he => ?_,
    List.filterMap_eq_nil_iff.mpr fun e he => ?_⟩
  · have hother := h e he
    cases e with
    | accepted id' m => exact if_neg hother
    | _ => rfl
  · have hother := h e he
    cases e with
    | processed id' m => exact if_neg hother
    | _ => rfl
  · have hother := h e he
    cases e with
    | dropped id' m => exact if_neg hother
    | overflowed id' m => exact if_neg hother
    | _ => rfl

end Event

namespace Threads

/-- The messages of a connection that wait for the worker. -/
def queuedOf (id : Nat) (s : Threads) : List Json :=
  s.application.jobs.filterMap (ApplicationJob.messageOf id)

/-- A message of the connection was counted, and is submitted next. -/
def arrivals (id : Nat) (s : Threads) : Nat :=
  if s.arriving.any (fun arriving => arriving.1 == id) then 1 else 0

/-- How many messages a connection may have: 128, or one more than there were when the last one was
counted. -/
def messageLimit (id : Nat) (s : Threads) : Nat :=
  match s.arriving with
  | some (id', _, count) => if id' = id then count + 1 else 128
  | none => 128

/-- The messages that are deferred. -/
def deferredTotal (s : Threads) : Nat :=
  ∑ id ∈ Finset.range s.nextConnectionId, (s.state id).deferredMessages.length

/-- Deferred messages wait for the end of a request, or are being handled. -/
def Waits (id : Nat) (s : Threads) : Prop :=
  (s.state id).deferredMessages = [] ∨ (s.state id).credentialPending = true ∨
    .draining id ∈ s.frames

/-- What is known of the messages of a connection, after the events `es`. -/
structure AccountedFor (id : Nat) (es : List Event) (s : Threads) : Prop where
  pending : (s.state id).pendingMessages = (s.queuedOf id).length +
    (s.state id).deferredMessages.length + s.frames.count (.processing id) + s.arrivals id
  bounded : (s.state id).pendingMessages ≤ s.messageLimit id
  waits : s.Waits id
  ordered : (es.filterMap (Event.processedOf id) ++ (s.state id).deferredMessages ++
    s.queuedOf id).Sublist (es.filterMap (Event.acceptedOf id))
  fates : (es.filterMap (Event.acceptedOf id)).Perm (es.filterMap (Event.processedOf id) ++
    es.filterMap (Event.lostOf id) ++ (s.state id).deferredMessages ++ s.queuedOf id)
  dropped : ∀ m : Json, .dropped id m ∈ es → (s.state id).alive = false ∨ s.stopping = true
  overflowed : ∀ m : Json, .overflowed id m ∈ es → .closeRequested id ∈ es
  cleanup : .cleanup id ∈ s.application.jobs → (s.state id).alive = false ∨ s.stopping = true

/-- What is known of all messages. -/
structure Accounted (es : List Event) (s : Threads) : Prop where
  each : ∀ id, AccountedFor id es s
  count : ∀ (id : Nat) (m : Json) (count : Nat), s.arriving = some (id, m, count) → count ≤ 128
  total : s.deferredMessageCount = s.deferredTotal
  limit : s.deferredMessageCount ≤ 1024

variable {s s' : Threads} {es es' : List Event} {id : Nat}

/-! ## Messages that are left alone -/

/-- The messages of a connection are where they were. -/
structure Untouched (id : Nat) (s s' : Threads) : Prop where
  queued : s'.queuedOf id = s.queuedOf id
  deferred : (s'.state id).deferredMessages = (s.state id).deferredMessages
  pending : (s'.state id).pendingMessages = (s.state id).pendingMessages
  processing : s'.frames.count (.processing id) = s.frames.count (.processing id)
  arrivals : s'.arrivals id = s.arrivals id
  limit : s'.messageLimit id = s.messageLimit id
  waits : s.Waits id → s'.Waits id
  dead : (s.state id).alive = false ∨ s.stopping = true →
    (s'.state id).alive = false ∨ s'.stopping = true
  cleanup : .cleanup id ∈ s'.application.jobs →
    .cleanup id ∈ s.application.jobs ∨ (s'.state id).alive = false ∨ s'.stopping = true

theorem AccountedFor.untouched {added : List Event} (h : AccountedFor id es s)
    (hsame : Untouched id s s') (hothers : ∀ e ∈ added, e.connection ≠ id) :
    AccountedFor id (es ++ added) s' := by
  obtain ⟨haccepted, hprocessed, hlost⟩ := Event.filterMap_others hothers
  refine ⟨?_, ?_, hsame.waits h.waits, ?_, ?_, fun m hm => ?_, fun m hm => ?_, fun hcleanup => ?_⟩
  · rw [hsame.pending, hsame.queued, hsame.deferred, hsame.processing, hsame.arrivals]
    exact h.pending
  · rw [hsame.pending, hsame.limit]
    exact h.bounded
  · rw [List.filterMap_append, List.filterMap_append, hprocessed, haccepted, List.append_nil,
      List.append_nil, hsame.deferred, hsame.queued]
    exact h.ordered
  · rw [List.filterMap_append, List.filterMap_append, List.filterMap_append, hprocessed, haccepted,
      hlost, List.append_nil, List.append_nil, List.append_nil, hsame.deferred, hsame.queued]
    exact h.fates
  · rcases List.mem_append.mp hm with hm | hm
    · exact hsame.dead (h.dropped m hm)
    · exact absurd rfl (hothers _ hm)
  · rcases List.mem_append.mp hm with hm | hm
    · exact List.mem_append_left _ (h.overflowed m hm)
    · exact absurd rfl (hothers _ hm)
  · rcases hsame.cleanup hcleanup with hcleanup | hdead
    · exact hsame.dead (h.cleanup hcleanup)
    · exact hdead

/-- The messages are where they were. -/
structure Quiet (s s' : Threads) : Prop where
  each : ∀ id, Untouched id s s'
  arriving : s'.arriving = s.arriving
  count : s'.deferredMessageCount = s.deferredMessageCount
  total : s'.deferredTotal = s.deferredTotal

theorem Accounted.quiet (h : Accounted es s) (hquiet : Quiet s s') : Accounted es s' where
  each id := by
    have hid := (h.each id).untouched (hquiet.each id) (List.forall_mem_nil _)
    rwa [List.append_nil] at hid
  count := hquiet.arriving ▸ h.count
  total := by
    rw [hquiet.count, hquiet.total]
    exact h.total
  limit := hquiet.count ▸ h.limit

/-- The total depends on what is deferred only. -/
theorem deferredTotal_congr (hnext : s'.nextConnectionId = s.nextConnectionId)
    (hstate : ∀ id, (s'.state id).deferredMessages = (s.state id).deferredMessages) :
    s'.deferredTotal = s.deferredTotal := by
  unfold deferredTotal
  rw [hnext]
  exact Finset.sum_congr rfl fun id _ => by rw [hstate]

/-- The total when the messages of one connection change. -/
theorem deferredTotal_withState (hid : id < s.nextConnectionId)
    (f : ConnectionState → ConnectionState) :
    (s.withState id f).deferredTotal + (s.state id).deferredMessages.length =
      s.deferredTotal + (f (s.state id)).deferredMessages.length := by
  have hmem : id ∈ Finset.range s.nextConnectionId := Finset.mem_range.mpr hid
  unfold deferredTotal
  simp only [withState_nextConnectionId]
  rw [← Finset.add_sum_erase _ _ hmem, ← Finset.add_sum_erase _ _ hmem]
  have hrest : ∑ x ∈ (Finset.range s.nextConnectionId).erase id,
        ((s.withState id f).state x).deferredMessages.length =
      ∑ x ∈ (Finset.range s.nextConnectionId).erase id, (s.state x).deferredMessages.length :=
    Finset.sum_congr rfl fun x hx => by simp [Finset.ne_of_mem_erase hx]
  rw [hrest]
  simp only [withState_state, Function.update_self]
  omega

/-- Jobs that are no messages may come and go. -/
theorem Quiet.of_jobs {application : BoundedExecutor ApplicationJob}
    (hqueued : ∀ id, application.jobs.filterMap (ApplicationJob.messageOf id) = s.queuedOf id)
    (hcleanup : ∀ id, .cleanup id ∈ application.jobs → .cleanup id ∈ s.application.jobs) :
    Quiet s { s with application } where
  each id := ⟨hqueued id, rfl, rfl, rfl, rfl, rfl, fun h => h, fun h => h,
    fun h => .inl (hcleanup id h)⟩
  arriving := rfl
  count := rfl
  total := rfl

theorem Quiet.trans {s'' : Threads} (h : Quiet s s') (h' : Quiet s' s'') : Quiet s s'' where
  each id := by
    have hid := h.each id
    have hid' := h'.each id
    exact ⟨hid'.queued.trans hid.queued, hid'.deferred.trans hid.deferred,
      hid'.pending.trans hid.pending, hid'.processing.trans hid.processing,
      hid'.arrivals.trans hid.arrivals, hid'.limit.trans hid.limit,
      fun hwaits => hid'.waits (hid.waits hwaits), fun hdead => hid'.dead (hid.dead hdead),
      fun hcleanup => (hid'.cleanup hcleanup).elim
        (fun hcleanup => (hid.cleanup hcleanup).imp_right hid'.dead) .inr⟩
  arriving := h'.arriving.trans h.arriving
  count := h'.count.trans h.count
  total := h'.total.trans h.total

/-- What changes of one connection leaves the messages of the others alone. -/
theorem untouched_withState {id' : Nat} (hne : id' ≠ id) (f : ConnectionState → ConnectionState) :
    Untouched id' s (s.withState id f) := by
  have hsame : (s.withState id f).state id' = s.state id' := by simp [hne]
  refine ⟨rfl, by rw [hsame], by rw [hsame], rfl, rfl, rfl, fun h => ?_, fun h => ?_, .inl⟩
  · unfold Waits at h ⊢
    rwa [hsame]
  · rwa [hsame]

/-- A change of a connection that is not about its messages. -/
theorem Quiet.withState {f : ConnectionState → ConnectionState}
    (hdeferred : (f (s.state id)).deferredMessages = (s.state id).deferredMessages)
    (hpending : (f (s.state id)).pendingMessages = (s.state id).pendingMessages)
    (hwaits : (s.state id).credentialPending = true → (f (s.state id)).credentialPending = true)
    (halive : (s.state id).alive = false → (f (s.state id)).alive = false) :
    Quiet s (s.withState id f) := by
  have hstate : (s.withState id f).state id = f (s.state id) := by simp
  have heach : ∀ id', Untouched id' s (s.withState id f) := by
    intro id'
    by_cases hsame : id' = id
    · subst hsame
      refine ⟨rfl, by rw [hstate, hdeferred], by rw [hstate, hpending], rfl, rfl, rfl, fun h => ?_,
        fun h => ?_, .inl⟩
      · unfold Waits at h ⊢
        rw [hstate, hdeferred]
        exact h.imp_right (Or.imp_left hwaits)
      · rw [hstate]
        exact h.imp_left halive
    · exact untouched_withState hsame f
  exact ⟨heach, rfl, rfl, deferredTotal_congr rfl fun id' => (heach id').deferred⟩

theorem Closes.quiet (h : Closes s s') : Quiet s s' := by
  obtain ⟨ids, hids, happlication, -, -⟩ := h.cleanups
  have hrest := h.rest
  have hqueued : ∀ id, s'.queuedOf id = s.queuedOf id := by
    intro id
    have hnone : ids.filterMap (ApplicationJob.messageOf id ∘ ApplicationJob.cleanup) = [] :=
      List.filterMap_eq_nil_iff.mpr fun _ _ => rfl
    unfold queuedOf
    rw [happlication, List.filterMap_append, List.filterMap_map, hnone, List.append_nil]
  have heach : ∀ id, Untouched id s s' := by
    intro id
    have hstate := (h.states id).1
    have harriving : s'.arriving = s.arriving := by rw [hrest]
    refine ⟨hqueued id, by rw [hstate], by rw [hstate], by rw [hrest], ?_, ?_, fun hwaits => ?_,
      fun hdead => ?_, fun hcleanup => ?_⟩
    · unfold arrivals
      rw [harriving]
    · unfold messageLimit
      rw [harriving]
    · unfold Waits at hwaits ⊢
      rw [hstate, hrest]
      exact hwaits
    · exact hdead.imp h.dead (fun hstopping => by rwa [hrest])
    · rw [happlication] at hcleanup
      rcases List.mem_append.mp hcleanup with hold | hnew
      · exact .inl hold
      · obtain ⟨id', hid', heq⟩ := List.mem_map.mp hnew
        cases heq
        exact .inr (.inl (hids id hid').2)
  exact ⟨heach, by rw [hrest], by rw [hrest],
    deferredTotal_congr (by rw [hrest]) fun id => (heach id).deferred⟩

/-- A job that is no message was submitted. -/
theorem Quiet.submit (job : ApplicationJob) (lifecycle : Bool)
    (hjob : ∀ id, job.messageOf id = none) (hkind : ∀ id, job ≠ .cleanup id) :
    Quiet s { s with application := (s.application.submit job lifecycle).2 } := by
  rcases hsubmit : s.application.submit job lifecycle with ⟨ok, application⟩
  cases ok with
  | false =>
    rw [BoundedExecutor.submit_false hsubmit]
    exact .of_jobs (fun _ => rfl) fun _ h => h
  | true =>
    rw [(BoundedExecutor.submit_true hsubmit).1]
    refine .of_jobs (fun id => by simp [queuedOf, hjob id]) fun id hcleanup => ?_
    rcases List.mem_append.mp hcleanup with hold | hnew
    · exact hold
    · exact absurd (List.mem_singleton.mp hnew).symm (hkind id)

/-- A job that is no message was taken. -/
theorem Quiet.take {job : ApplicationJob} {application : BoundedExecutor ApplicationJob}
    (htake : s.application.take = some (job, application)) (hjob : ∀ id, job.messageOf id = none) :
    Quiet s { s with application } := by
  obtain ⟨hjobs, -⟩ := BoundedExecutor.take_some htake
  refine .of_jobs (fun id => ?_) fun id hcleanup => hjobs ▸ List.mem_cons_of_mem _ hcleanup
  unfold queuedOf
  rw [hjobs]
  exact (List.filterMap_cons_none (hjob id)).symm

/-- Where the state of no connection and no job changes. -/
theorem Quiet.of_rest (hstate : s'.state = s.state) (hjobs : s'.application = s.application)
    (hframes : ∀ id, s'.frames.count (.processing id) = s.frames.count (.processing id))
    (harriving : s'.arriving = s.arriving) (hcount : s'.deferredMessageCount = s.deferredMessageCount)
    (hnext : s'.nextConnectionId = s.nextConnectionId)
    (hwaits : ∀ id, s.Waits id → s'.Waits id) (hstopping : s.stopping = true → s'.stopping = true) :
    Quiet s s' := by
  refine ⟨fun id => ⟨?_, by rw [hstate], by rw [hstate], hframes id, ?_, ?_, hwaits id,
    fun hdead => ?_, fun hcleanup => .inl (hjobs ▸ hcleanup)⟩, harriving, hcount,
    deferredTotal_congr hnext fun _ => by rw [hstate]⟩
  · unfold queuedOf
    rw [hjobs]
  · unfold arrivals
    rw [harriving]
  · unfold messageLimit
    rw [harriving]
  · rw [hstate]
    exact hdead.imp_right hstopping

/-! ## Messages that arrive -/

/-- A step about one connection. -/
theorem Accounted.one {added : List Event} (h : Accounted es s) (id : Nat)
    (hid : AccountedFor id (es ++ added) s') (hadded : ∀ e ∈ added, e.connection = id)
    (hothers : ∀ id', id' ≠ id → Untouched id' s s')
    (hcount : ∀ (id : Nat) (m : Json) (count : Nat), s'.arriving = some (id, m, count) → count ≤ 128)
    (htotal : s'.deferredMessageCount = s'.deferredTotal) (hlimit : s'.deferredMessageCount ≤ 1024) :
    Accounted (es ++ added) s' := by
  refine ⟨fun id' => ?_, hcount, htotal, hlimit⟩
  by_cases hsame : id' = id
  · rw [hsame]
    exact hid
  · exact (h.each id').untouched (hothers id' hsame) fun e he => hadded e he ▸ Ne.symm hsame

/-- A message that was counted is not submitted. -/
theorem Accounted.refused {m : Json} {count : Nat} (h : Accounted es s)
    (harriving : s.arriving = some (id, m, count)) :
    Accounted es { s.release id with arriving := none } := by
  have hold := h.each id
  have hpending := hold.pending
  have hbounded := hold.bounded
  have hcount := h.count id m count harriving
  simp only [arrivals, messageLimit, harriving, Option.any_some, beq_self_eq_true, if_true]
    at hpending hbounded
  -- As for the arrival: only the counter of this connection moves, back to what it was.
  have hothers : ∀ id', id' ≠ id →
      Untouched id' s { s.release id with arriving := none } := by
    intro id' hne
    obtain ⟨hqueued, hdeferred, hpending, hprocessing, -, -, hwaits, hdead, hcleanup⟩ :=
      untouched_withState (s := s) hne (fun c => { c with pendingMessages := c.pendingMessages - 1 })
    have hne' : (id == id') = false := by simpa using Ne.symm hne
    refine ⟨hqueued, hdeferred, hpending, hprocessing, ?_, ?_, hwaits, hdead, hcleanup⟩
    · simp [arrivals, harriving, hne']
    · simp [messageLimit, harriving, Ne.symm hne]
  have hdeferred : ∀ id', (({ s.release id with arriving := none } : Threads).state
      id').deferredMessages = (s.state id').deferredMessages := by
    intro id'
    by_cases hsame : id' = id
    · subst hsame
      simp
    · exact (hothers id' hsame).deferred
  have hid : AccountedFor id (es ++ []) { s.release id with arriving := none } := by
    rw [List.append_nil]
    refine ⟨?_, ?_, ?_, ?_, ?_, ?_, hold.overflowed, ?_⟩
    · rw [hdeferred]
      simp only [release_state, Function.update_self, hpending, arrivals, Option.any_none]
      exact Nat.add_sub_cancel _ 1
    · simp only [messageLimit, release_state, Function.update_self]
      omega
    · simpa [Waits] using hold.waits
    · rw [hdeferred]
      exact hold.ordered
    · rw [hdeferred]
      exact hold.fates
    · simpa using hold.dropped
    · simpa using hold.cleanup
  have htotal : ({ s.release id with arriving := none } : Threads).deferredTotal =
      s.deferredTotal := deferredTotal_congr rfl hdeferred
  have hall := h.one id hid (List.forall_mem_nil _) hothers nofun (h.total.trans htotal.symm) h.limit
  rwa [List.append_nil] at hall

/-- A message is counted. -/
theorem Accounted.arrives {m : Json} (h : Accounted es s) (hnone : s.arriving = none) :
    Accounted es { s.withState id (fun c => { c with pendingMessages := c.pendingMessages + 1 })
      with arriving := some (id, m, (s.state id).pendingMessages) } := by
  have hold := h.each id
  have hpending := hold.pending
  have hbounded := hold.bounded
  simp only [arrivals, messageLimit, hnone, Option.any_none, Bool.false_eq_true, if_false,
    Nat.add_zero] at hpending hbounded
  -- The frame: no other connection sees the counter or the message on its way.
  have hothers : ∀ id', id' ≠ id → Untouched id' s
      { s.withState id (fun c => { c with pendingMessages := c.pendingMessages + 1 })
        with arriving := some (id, m, (s.state id).pendingMessages) } := by
    intro id' hne
    obtain ⟨hqueued, hdeferred, hpending, hprocessing, -, -, hwaits, hdead, hcleanup⟩ :=
      untouched_withState (s := s) hne (fun c => { c with pendingMessages := c.pendingMessages + 1 })
    have hne' : (id == id') = false := by simpa using Ne.symm hne
    refine ⟨hqueued, hdeferred, hpending, hprocessing, ?_, ?_, hwaits, hdead, hcleanup⟩
    · simp [arrivals, hnone, hne']
    · simp [messageLimit, hnone, Ne.symm hne]
  have hdeferred : ∀ id', ((s.withState id
      (fun c => { c with pendingMessages := c.pendingMessages + 1 })).state id').deferredMessages =
      (s.state id').deferredMessages := by
    intro id'
    by_cases hsame : id' = id
    · subst hsame
      simp
    · exact (hothers id' hsame).deferred
  -- The new count is the old one and the message that is now on its way.
  have hid : AccountedFor id (es ++ [])
      { s.withState id (fun c => { c with pendingMessages := c.pendingMessages + 1 })
        with arriving := some (id, m, (s.state id).pendingMessages) } := by
    rw [List.append_nil]
    refine ⟨?_, ?_, ?_, ?_, ?_, ?_, hold.overflowed, ?_⟩
    · rw [hdeferred]
      simp only [withState_state, Function.update_self, hpending, arrivals, Option.any_some,
        beq_self_eq_true, if_true]
      rfl
    · simp [messageLimit]
    · simpa [Waits] using hold.waits
    · rw [hdeferred]
      exact hold.ordered
    · rw [hdeferred]
      exact hold.fates
    · simpa using hold.dropped
    · simpa using hold.cleanup
  have htotal : ({ s.withState id (fun c => { c with pendingMessages := c.pendingMessages + 1 })
      with arriving := some (id, m, (s.state id).pendingMessages) } : Threads).deferredTotal =
      s.deferredTotal := deferredTotal_congr rfl hdeferred
  have hall := h.one id hid (List.forall_mem_nil _) hothers
    (fun _ _ _ heq => by cases heq; exact hbounded) (h.total.trans htotal.symm) h.limit
  rwa [List.append_nil] at hall

/-- A message is accepted. -/
theorem Accounted.submits {m : Json} {count : Nat} {application : BoundedExecutor ApplicationJob}
    (h : Accounted es s) (harriving : s.arriving = some (id, m, count)) (hcount : count < 128)
    (hsubmit : s.application.submit (.message id m) false = (true, application)) :
    Accounted (es ++ [.accepted id m]) { s with arriving := none, application } := by
  obtain ⟨rfl, -⟩ := BoundedExecutor.submit_true hsubmit
  have hold := h.each id
  have hpending := hold.pending
  have hbounded := hold.bounded
  simp only [arrivals, messageLimit, harriving, Option.any_some, beq_self_eq_true, if_true]
    at hpending hbounded
  have haccepted : [Event.accepted id m].filterMap (Event.acceptedOf id) = [m] := by
    simp [Event.acceptedOf]
  have hnone : [Event.accepted id m].filterMap (Event.processedOf id) = [] ∧
      [Event.accepted id m].filterMap (Event.lostOf id) = [] := ⟨rfl, rfl⟩
  have hqueued : ∀ id', ({ s with
      arriving := none
      application := { s.application with jobs := s.application.jobs ++ [.message id m] } } :
        Threads).queuedOf id' = s.queuedOf id' ++ if id = id' then [m] else [] := by
    intro id'
    unfold queuedOf
    rw [List.filterMap_append]
    by_cases hsame : id = id'
    · simp [ApplicationJob.messageOf, hsame]
    · simp [ApplicationJob.messageOf, hsame]
  -- The new job is a message, so it is nobody's cleanup.
  have hkept : ∀ id', .cleanup id' ∈ s.application.jobs ++ [.message id m] →
      .cleanup id' ∈ s.application.jobs := by
    intro id' hcleanup
    simpa using hcleanup
  refine h.one id ⟨?_, ?_, hold.waits, ?_, ?_, fun m' hm' => ?_, fun m' hm' => ?_,
    fun hcleanup => hold.cleanup (hkept id hcleanup)⟩ ?_ (fun id' hne => ⟨?_, rfl, rfl, rfl, ?_, ?_,
    fun h => h, fun h => h, fun hcleanup => .inl (hkept id' hcleanup)⟩) nofun h.total h.limit
  -- It was counted on arrival: it moves from the way into the queue.
  · rw [hqueued, if_pos rfl, List.length_append, hpending]
    simp only [arrivals, Option.any_none, Bool.false_eq_true, if_false, List.length_singleton]
    omega
  · simp only [messageLimit]
    omega
  -- It is accepted last and queued last.
  · rw [hqueued, if_pos rfl, List.filterMap_append, List.filterMap_append, haccepted, hnone.1,
      List.append_nil, ← List.append_assoc]
    exact hold.ordered.append (List.Sublist.refl [m])
  · rw [hqueued, if_pos rfl, List.filterMap_append, List.filterMap_append, List.filterMap_append,
      haccepted, hnone.1, hnone.2, List.append_nil, List.append_nil, ← List.append_assoc]
    exact hold.fates.append_right [m]
  · simp only [List.mem_append, List.mem_singleton, reduceCtorEq, or_false] at hm'
    exact hold.dropped m' hm'
  · simp only [List.mem_append, List.mem_singleton, reduceCtorEq, or_false] at hm' ⊢
    exact hold.overflowed m' hm'
  · intro e he
    rw [List.mem_singleton.mp he]
    rfl
  · rw [hqueued, if_neg (Ne.symm hne), List.append_nil]
  · have hne' : (id == id') = false := by simpa using Ne.symm hne
    simp [arrivals, harriving, hne']
  · simp [messageLimit, harriving, Ne.symm hne]

/-- A connection was accepted: it has no messages. -/
theorem Quiet.accepted (h : Known s) :
    Quiet s { s with
      acceptPending := false
      nextConnectionId := s.nextConnectionId + 1
      connections := insert s.nextConnectionId s.connections
      state := Function.update s.state s.nextConnectionId {} } := by
  have hnew : Function.update s.state s.nextConnectionId {} = s.state :=
    Function.update_eq_iff.mpr ⟨(h.fresh _ le_rfl).symm, fun _ _ => rfl⟩
  rw [hnew]
  refine ⟨fun id => ⟨rfl, rfl, rfl, rfl, rfl, rfl, fun h => h, fun h => h, .inl⟩, rfl, rfl, ?_⟩
  unfold deferredTotal
  rw [Finset.sum_range_succ, h.fresh _ le_rfl]
  rfl

theorem Accounted.networkStep (h : Accounted es s) (hknown : Known s)
    (hstep : NetworkSteps s es' s') : Accounted (es ++ es') s' := by
  -- most steps leave the messages alone
  have hquiet : ∀ {s' : Threads}, Quiet s s' → Accounted (es ++ []) s' := by
    intro s' hquiet
    rw [List.append_nil]
    exact h.quiet hquiet
  cases hstep with
  | acceptNext | acceptFailed =>
    exact hquiet (.of_rest rfl rfl (fun _ => rfl) rfl rfl rfl (fun _ h => h) (fun h => h))
  | accepted => exact hquiet (.accepted hknown)
  | opened => exact hquiet (.withState rfl rfl (fun h => h) (fun h => h))
  | closed harriving hid hclose => exact hquiet (closeConnection_closes hclose).quiet
  | finished harriving hid hcleanup =>
    refine hquiet ((queueSessionCleanup_closes hid hcleanup).1.quiet.trans ?_)
    exact .of_rest rfl rfl (fun _ => rfl) rfl rfl rfl (fun _ h => h) (fun h => h)
  | arrives harriving =>
    rw [List.append_nil]
    exact h.arrives harriving
  | submits harriving hcount hsubmit => exact h.submits harriving hcount hsubmit
  | refuses harriving hrefused hclose =>
    rw [List.append_nil]
    exact (h.refused harriving).quiet (closeConnection_closes hclose).quiet
  | ordinary harriving hjob =>
    rcases hjob with rfl | rfl
    · exact hquiet (.submit _ _ (fun _ => rfl) fun _ => nofun)
    · exact hquiet (.submit _ _ (fun _ => rfl) fun _ => nofun)
  | prunes harriving hrunning hfirst hsubmit =>
    obtain rfl := (congrArg Prod.snd hsubmit).symm
    refine hquiet (Quiet.trans (.submit .prune true (fun _ => rfl) fun _ => nofun) ?_)
    exact .of_rest rfl rfl (fun _ => rfl) rfl rfl rfl (fun _ h => h) (fun h => h)
  | @runsPost p posted s' harriving hposted hrun =>
    have htaken : Quiet s { s with posted } :=
      .of_rest rfl rfl (fun _ => rfl) rfl rfl rfl (fun _ h => h) (fun h => h)
    refine hquiet (htaken.trans ?_)
    cases p with
    | cleanupDone =>
      cases hrun
      exact .of_rest rfl rfl (fun _ => rfl) rfl rfl rfl (fun _ h => h) (fun h => h)
    | shutdown =>
      exact Quiet.trans (.submit .heartbeat true (fun _ => rfl) fun _ => nofun)
        (closeAll_closes hrun).quiet
    | closeOverloaded =>
      refine Quiet.trans ?_ (closeAll_closes hrun).quiet
      exact .of_rest rfl rfl (fun _ => rfl) rfl rfl rfl (fun _ h => h) (fun h => h)

/-! ## A message that is dispatched -/

/-- The worker has taken a message of a connection, from the queue or from those that are deferred.
It came after the messages that are deferred exactly if a request is pending. -/
structure InHand (id : Nat) (m : Json) (es : List Event) (s : Threads) : Prop where
  known : id < s.nextConnectionId
  pending : (s.state id).pendingMessages = (s.queuedOf id).length +
    (s.state id).deferredMessages.length + s.frames.count (.processing id) + s.arrivals id + 1
  bounded : (s.state id).pendingMessages ≤ s.messageLimit id
  waits : s.Waits id
  ordered : (es.filterMap (Event.processedOf id) ++
    (if (s.state id).credentialPending then (s.state id).deferredMessages ++ [m]
      else m :: (s.state id).deferredMessages) ++
    s.queuedOf id).Sublist (es.filterMap (Event.acceptedOf id))
  fates : (es.filterMap (Event.acceptedOf id)).Perm (m :: (es.filterMap (Event.processedOf id) ++
    es.filterMap (Event.lostOf id) ++ (s.state id).deferredMessages ++ s.queuedOf id))
  dropped : ∀ m : Json, .dropped id m ∈ es → (s.state id).alive = false ∨ s.stopping = true
  overflowed : ∀ m : Json, .overflowed id m ∈ es → .closeRequested id ∈ es
  cleanup : .cleanup id ∈ s.application.jobs → (s.state id).alive = false ∨ s.stopping = true
  others : ∀ id', id' ≠ id → AccountedFor id' es s
  count : ∀ (id : Nat) (m : Json) (count : Nat), s.arriving = some (id, m, count) → count ≤ 128
  total : s.deferredMessageCount = s.deferredTotal
  limit : s.deferredMessageCount ≤ 1024

/-- What becomes of the message is of no concern to the other connections. -/
theorem InHand.one {m : Json} {added : List Event} (h : InHand id m es s)
    (hid : AccountedFor id (es ++ added) s') (hadded : ∀ e ∈ added, e.connection = id)
    (hothers : ∀ id', id' ≠ id → Untouched id' s s') (harriving : s'.arriving = s.arriving)
    (htotal : s'.deferredMessageCount = s'.deferredTotal) (hlimit : s'.deferredMessageCount ≤ 1024) :
    Accounted (es ++ added) s' := by
  refine ⟨fun id' => ?_, harriving ▸ h.count, htotal, hlimit⟩
  by_cases hsame : id' = id
  · rw [hsame]
    exact hid
  · exact (h.others id' hsame).untouched (hothers id' hsame) fun e he => hadded e he ▸ Ne.symm hsame

/-- It is handed to `ProcessMessage`. -/
theorem InHand.process {m : Json} (h : InHand id m es s)
    (hfree : (s.state id).credentialPending = false) :
    Accounted (es ++ [.processed id m]) (s.push (.processing id)) := by
  have hordered := h.ordered
  rw [hfree, if_neg Bool.false_ne_true] at hordered
  have hprocessed : [Event.processed id m].filterMap (Event.processedOf id) = [m] := by
    simp [Event.processedOf]
  have hnone : [Event.processed id m].filterMap (Event.acceptedOf id) = [] ∧
      [Event.processed id m].filterMap (Event.lostOf id) = [] := ⟨rfl, rfl⟩
  refine h.one ⟨?_, h.bounded, ?_, ?_, ?_, fun m' hm' => ?_, fun m' hm' => ?_, h.cleanup⟩ ?_
    (fun id' hne => ⟨rfl, rfl, rfl, ?_, rfl, rfl, ?_, fun h => h, .inl⟩) rfl h.total h.limit
  · refine h.pending.trans ?_
    rw [push_frames, List.count_cons_self]
    show _ = (s.queuedOf id).length + (s.state id).deferredMessages.length + _ + s.arrivals id
    omega
  · exact h.waits.imp_right (Or.imp_right (List.mem_cons_of_mem _))
  · rw [List.filterMap_append, List.filterMap_append, hprocessed, hnone.1, List.append_nil,
      List.append_assoc _ [m]]
    exact hordered
  · rw [List.filterMap_append, List.filterMap_append, List.filterMap_append, hprocessed, hnone.1,
      hnone.2, List.append_nil, List.append_nil]
    refine h.fates.trans ?_
    simp only [List.append_assoc]
    exact List.perm_middle.symm
  · simp only [List.mem_append, List.mem_singleton, reduceCtorEq, or_false] at hm'
    exact h.dropped m' hm'
  · simp only [List.mem_append, List.mem_singleton, reduceCtorEq, or_false] at hm' ⊢
    exact h.overflowed m' hm'
  · intro e he
    rw [List.mem_singleton.mp he]
    rfl
  · refine List.count_cons_of_ne ?_
    intro heq
    cases heq
    exact hne rfl
  · exact fun hwaits => hwaits.imp_right (Or.imp_right (List.mem_cons_of_mem _))

/-- It is deferred. -/
theorem InHand.defer {m : Json} (h : InHand id m es s)
    (hpending : (s.state id).credentialPending = true) (hroom : s.deferredMessageCount < 1024) :
    Accounted es
      { s.withState id (fun c => { c with deferredMessages := c.deferredMessages ++ [m] }) with
        deferredMessageCount := s.deferredMessageCount + 1 } := by
  have hordered := h.ordered
  -- While a request is pending the message in hand stands behind the deferred ones.
  rw [hpending, if_pos rfl] at hordered
  have hothers : ∀ id', id' ≠ id → Untouched id' s
      { s.withState id (fun c => { c with deferredMessages := c.deferredMessages ++ [m] }) with
        deferredMessageCount := s.deferredMessageCount + 1 } := by
    intro id' hne
    obtain ⟨hqueued, hdeferred, hpending, hprocessing, harrivals, hlimit, hwaits, hdead, hcleanup⟩ :=
      untouched_withState (s := s) hne
        (fun c => { c with deferredMessages := c.deferredMessages ++ [m] })
    exact ⟨hqueued, hdeferred, hpending, hprocessing, harrivals, hlimit, hwaits, hdead, hcleanup⟩
  have hid : AccountedFor id (es ++ [])
      { s.withState id (fun c => { c with deferredMessages := c.deferredMessages ++ [m] }) with
        deferredMessageCount := s.deferredMessageCount + 1 } := by
    rw [List.append_nil]
    have hstate : (s.withState id
        (fun c => { c with deferredMessages := c.deferredMessages ++ [m] })).state id =
        { s.state id with deferredMessages := (s.state id).deferredMessages ++ [m] } := by simp
    refine ⟨?_, ?_, .inr (.inl ?_), ?_, ?_, fun m' hm' => ?_, h.overflowed, fun hcleanup => ?_⟩
    · rw [hstate, List.length_append, List.length_singleton]
      refine h.pending.trans ?_
      show _ = (s.queuedOf id).length + _ + s.frames.count _ + s.arrivals id
      omega
    · rw [hstate]
      exact h.bounded
    · rw [hstate]
      exact hpending
    · rw [hstate]
      exact hordered
    · rw [hstate]
      refine h.fates.trans ?_
      rw [← List.append_assoc _ _ [m], List.append_assoc _ [m]]
      exact List.perm_middle.symm
    · rw [hstate]
      exact h.dropped m' hm'
    · rw [hstate]
      exact h.cleanup hcleanup
  have htotal := deferredTotal_withState h.known
    (fun c => { c with deferredMessages := c.deferredMessages ++ [m] })
  rw [List.length_append, List.length_singleton] at htotal
  -- The global counter is the sum of the backlogs, and one backlog grew.
  have hone : s.deferredMessageCount + 1 = (s.withState id
      (fun c => { c with deferredMessages := c.deferredMessages ++ [m] })).deferredTotal := by
    have hold := h.total
    omega
  have hall := h.one hid (List.forall_mem_nil _) hothers rfl hone hroom
  rwa [List.append_nil] at hall

/-- It is dropped, for whatever reason: it is not counted any more. -/
theorem InHand.lose {m : Json} {added : List Event} (h : InHand id m es s)
    (hlost : added.filterMap (Event.lostOf id) = [m])
    (hnone : added.filterMap (Event.acceptedOf id) = [] ∧
      added.filterMap (Event.processedOf id) = [])
    (hadded : ∀ e ∈ added, e.connection = id)
    (hdropped : ∀ m : Json, .dropped id m ∈ added →
      (s.state id).alive = false ∨ s.stopping = true)
    (hoverflowed : ∀ m : Json, .overflowed id m ∈ added → .closeRequested id ∈ added) :
    Accounted (es ++ added) (s.release id) := by
  have hquiet : ∀ id', ((s.release id).state id').deferredMessages =
      (s.state id').deferredMessages := by
    intro id'
    by_cases hsame : id' = id
    · subst hsame
      simp
    · simp [hsame]
  have hstate : (s.release id).state id =
      { s.state id with pendingMessages := (s.state id).pendingMessages - 1 } := by simp
  -- Losing the message in hand only makes the list of the surviving ones shorter.
  have hordered : (es.filterMap (Event.processedOf id) ++ (s.state id).deferredMessages ++
      s.queuedOf id).Sublist (es.filterMap (Event.acceptedOf id)) := by
    refine List.Sublist.trans (List.Sublist.append_right ?_ _) h.ordered
    refine List.Sublist.append_left ?_ _
    split
    · exact List.sublist_append_left _ _
    · exact List.sublist_cons_self _ _
  refine h.one ⟨?_, ?_, ?_, ?_, ?_, fun m' hm' => ?_, fun m' hm' => ?_, fun hcleanup => ?_⟩ hadded
    (fun id' hne => untouched_withState hne _) rfl ?_ h.limit
  · rw [hstate]
    refine (congrArg (· - 1) h.pending).trans ?_
    exact Nat.add_sub_cancel _ 1
  · rw [hstate]
    exact (Nat.sub_le _ 1).trans h.bounded
  · have hwaits := h.waits
    unfold Waits at hwaits ⊢
    rw [hstate]
    exact hwaits
  · rw [List.filterMap_append, List.filterMap_append, hnone.1, hnone.2, List.append_nil,
      List.append_nil, hstate]
    exact hordered
  · rw [List.filterMap_append, List.filterMap_append, List.filterMap_append, hnone.1, hnone.2, hlost,
      List.append_nil, List.append_nil, hstate]
    refine h.fates.trans ?_
    simp only [List.append_assoc]
    -- It moves from the front of the waiting ones to the end of the lost ones.
    have hmiddle := @List.perm_middle _ m
      (es.filterMap (Event.processedOf id) ++ es.filterMap (Event.lostOf id))
      ((s.state id).deferredMessages ++ s.queuedOf id)
    simp only [List.append_assoc] at hmiddle
    exact hmiddle.symm
  · rw [hstate]
    rcases List.mem_append.mp hm' with hm' | hm'
    · exact h.dropped m' hm'
    · exact hdropped m' hm'
  · rcases List.mem_append.mp hm' with hm' | hm'
    · exact List.mem_append_left _ (h.overflowed m' hm')
    · exact List.mem_append_right _ (hoverflowed m' hm')
  · rw [hstate]
    exact h.cleanup hcleanup
  · have htotal : (s.release id).deferredTotal = s.deferredTotal := deferredTotal_congr rfl hquiet
    exact h.total.trans htotal.symm

/-- `DispatchMessage`. -/
theorem InHand.dispatch {m : Json} (h : InHand id m es s) :
    Accounted (es ++ (s.dispatchMessage id m).2) (s.dispatchMessage id m).1 := by
  rcases dispatchMessage_cases id m s with
    ⟨-, -, hfree, hcase⟩ | ⟨-, -, hpending, hroom, hcase⟩ | ⟨-, -, hcase⟩ | ⟨hdead, hcase⟩
  · rw [hcase]
    exact h.process hfree
  · rw [hcase, List.append_nil]
    exact h.defer hpending hroom
  · obtain ⟨posted, connections, isPosted, hclose, -⟩ := requestBackpressureClose_eq id (s.release id)
    rw [hcase, hclose]
    have hlost := @InHand.lose _ _ _ _ [.overflowed id m, .closeRequested id] h
      (by simp [Event.lostOf]) ⟨rfl, rfl⟩ (by simp [Event.connection]) (by simp) (by simp)
    exact hlost.quiet
      (.of_rest rfl rfl (fun _ => rfl) rfl rfl rfl (fun _ h => h) (fun h => h))
  · rw [hcase]
    exact h.lose (by simp [Event.lostOf]) ⟨rfl, rfl⟩ (by simp [Event.connection])
      (fun _ _ => hdead) (by simp)

/-! ## The application worker -/

/-- The worker is idle and takes a message from the queue. -/
theorem Accounted.taken {m : Json} {application : BoundedExecutor ApplicationJob}
    (h : Accounted es s) (hid : id < s.nextConnectionId) (hidle : s.frames = [])
    (htake : s.application.take = some (.message id m, application)) :
    InHand id m es { s with application } := by
  obtain ⟨hjobs, -⟩ := BoundedExecutor.take_some htake
  have hold := h.each id
  have hqueued : s.queuedOf id = m :: ({ s with application } : Threads).queuedOf id := by
    unfold queuedOf
    rw [hjobs]
    exact List.filterMap_cons_some (if_pos rfl)
  -- No frame drains an idle worker, so deferred messages wait for a pending request.
  have hwaits : (s.state id).deferredMessages = [] ∨ (s.state id).credentialPending = true := by
    rcases hold.waits with hnone | hpending | hdraining
    · exact .inl hnone
    · exact .inr hpending
    · rw [hidle] at hdraining
      cases hdraining
  have hcleanup : ∀ id', .cleanup id' ∈ application.jobs → .cleanup id' ∈ s.application.jobs :=
    fun id' hmem => hjobs ▸ List.mem_cons_of_mem _ hmem
  refine ⟨hid, ?_, hold.bounded, hold.waits, ?_, ?_, hold.dropped, hold.overflowed,
    fun hmem => hold.cleanup (hcleanup id hmem), fun id' hne => ?_, h.count, h.total, h.limit⟩
  · have hpending := hold.pending
    rw [hqueued, List.length_cons] at hpending
    refine hpending.trans ?_
    show _ = (({ s with application } : Threads).queuedOf id).length +
      (s.state id).deferredMessages.length +
      s.frames.count (.processing id) + s.arrivals id + 1
    omega
  · have hordered := hold.ordered
    rw [hqueued] at hordered
    dsimp only
    -- With a request pending it goes behind the deferred ones; otherwise there are none.
    split
    · rwa [← List.append_assoc, List.append_assoc _ [m]]
    · next hfree =>
      rw [hwaits.resolve_right hfree] at hordered ⊢
      rwa [List.append_nil, ← List.singleton_append, ← List.append_assoc] at hordered
  · refine hold.fates.trans ?_
    rw [hqueued]
    exact List.perm_middle
  · have hsame : Untouched id' s { s with application } := by
      refine ⟨?_, rfl, rfl, rfl, rfl, rfl, fun h => h, fun h => h, fun hmem => .inl (hcleanup id' hmem)⟩
      unfold queuedOf
      rw [hjobs]
      simp [ApplicationJob.messageOf, Ne.symm hne]
    have hother := (h.each id').untouched hsame (List.forall_mem_nil _)
    rwa [List.append_nil] at hother

/-- The first deferred message is next, now that no request is pending. -/
theorem Accounted.undeferred {m : Json} {messages : List Json} (h : Accounted es s)
    (hid : id < s.nextConnectionId) (hfree : (s.state id).credentialPending = false)
    (hdraining : .draining id ∈ s.frames) (hdeferred : (s.state id).deferredMessages = m :: messages) :
    InHand id m es (s.undefer id) := by
  have hold := h.each id
  have hstate : (s.undefer id).state id = { s.state id with deferredMessages := messages } := by
    simp [undefer, hdeferred]
  have htotal := deferredTotal_withState hid
    (fun c => { c with deferredMessages := c.deferredMessages.tail })
  simp only [hdeferred, List.tail_cons, List.length_cons] at htotal
  -- Both the counter and the sum of the backlogs lose one.
  have hcount : (s.undefer id).deferredMessageCount = (s.undefer id).deferredTotal := by
    have hold := h.total
    show s.deferredMessageCount - 1 = (s.withState id
      (fun c => { c with deferredMessages := c.deferredMessages.tail })).deferredTotal
    omega
  have hordered := hold.ordered
  have hfates := hold.fates
  have hpending := hold.pending
  rw [hdeferred] at hordered hfates hpending
  rw [List.length_cons] at hpending
  refine ⟨hid, ?_, ?_, .inr (.inr hdraining), ?_, ?_, fun m' hm' => ?_, hold.overflowed, fun hmem => ?_,
    fun id' hne => ?_, h.count, hcount, (Nat.sub_le _ 1).trans h.limit⟩
  · rw [hstate]
    refine hpending.trans ?_
    show _ = (s.queuedOf id).length + messages.length + s.frames.count _ + s.arrivals id + 1
    omega
  · rw [hstate]
    exact hold.bounded
  · rw [hstate]
    -- The flag is down, so the message in hand stands before the rest.
    dsimp only
    rw [hfree, if_neg Bool.false_ne_true]
    exact hordered
  · rw [hstate]
    refine hfates.trans ?_
    have hmiddle := @List.perm_middle _ m
      (es.filterMap (Event.processedOf id) ++ es.filterMap (Event.lostOf id))
      (messages ++ s.queuedOf id)
    simp only [List.append_assoc, List.cons_append] at hmiddle ⊢
    exact hmiddle
  · rw [hstate]
    exact hold.dropped m' hm'
  · rw [hstate]
    exact hold.cleanup hmem
  · obtain ⟨hqueued, hdeferred, hpending, hprocessing, harrivals, hlimit, hwaits, hdead, hcleanup⟩ :=
      untouched_withState (s := s) hne
        (fun c => { c with deferredMessages := c.deferredMessages.tail })
    have hsame : Untouched id' s (s.undefer id) :=
      ⟨hqueued, hdeferred, hpending, hprocessing, harrivals, hlimit, hwaits, hdead, hcleanup⟩
    have hother := (h.each id').untouched hsame (List.forall_mem_nil _)
    rwa [List.append_nil] at hother

/-- The cleanup drops what is deferred. -/
theorem Accounted.cleanedUp (h : Accounted es s) (hid : id < s.nextConnectionId)
    (hdead : (s.state id).alive = false ∨ s.stopping = true) :
    Accounted (es ++ (s.cleanup id).2) (s.cleanup id).1 := by
  have hold := h.each id
  have hstate : (s.cleanup id).1.state id = { s.state id with
      pendingMessages := (s.state id).pendingMessages - (s.state id).deferredMessages.length
      deferredMessages := [] } := by
    simp [cleanup]
  -- A cleanup only drops: each event is the drop of one deferred message.
  have hevents : ∀ e ∈ (s.cleanup id).2, ∃ m, e = .dropped id m := by
    intro e he
    obtain ⟨m, -, rfl⟩ := List.mem_map.mp he
    exact ⟨m, rfl⟩
  have hnone : ((s.cleanup id).2).filterMap (Event.acceptedOf id) = [] ∧
      ((s.cleanup id).2).filterMap (Event.processedOf id) = [] := by
    refine ⟨List.filterMap_eq_nil_iff.mpr fun e he => ?_,
      List.filterMap_eq_nil_iff.mpr fun e he => ?_⟩
    · obtain ⟨m, rfl⟩ := hevents e he
      rfl
    · obtain ⟨m, rfl⟩ := hevents e he
      rfl
  have hlost : ((s.cleanup id).2).filterMap (Event.lostOf id) = (s.state id).deferredMessages := by
    show ((s.state id).deferredMessages.map (Event.dropped id)).filterMap (Event.lostOf id) = _
    rw [List.filterMap_map]
    refine (List.filterMap_congr fun m _ => ?_).trans List.filterMap_some
    exact if_pos rfl
  have htotal := deferredTotal_withState hid (fun c =>
    { c with
      pendingMessages := c.pendingMessages - (s.state id).deferredMessages.length
      deferredMessages := [] })
  rw [List.length_nil, Nat.add_zero] at htotal
  have hcount : (s.cleanup id).1.deferredMessageCount = (s.cleanup id).1.deferredTotal := by
    have hcounted := h.total
    show s.deferredMessageCount - (s.state id).deferredMessages.length = (s.withState id (fun c =>
      { c with
        pendingMessages := c.pendingMessages - (s.state id).deferredMessages.length
        deferredMessages := [] })).deferredTotal
    omega
  -- What stays counted is queued, being processed or arriving.
  have hdrop : (s.state id).pendingMessages - (s.state id).deferredMessages.length =
      (s.queuedOf id).length + s.frames.count (.processing id) + s.arrivals id := by
    have hpending := hold.pending
    omega
  refine h.one id ⟨?_, ?_, ?_, ?_, ?_, fun m' hm' => ?_, fun m' hm' => ?_, fun hmem => ?_⟩ ?_
    (fun id' hne => ?_) h.count hcount ((Nat.sub_le _ _).trans h.limit)
  · rw [hstate]
    refine hdrop.trans ?_
    show _ = (s.queuedOf id).length + 0 + s.frames.count _ + s.arrivals id
    omega
  · rw [hstate]
    exact (Nat.sub_le _ _).trans hold.bounded
  · refine .inl ?_
    rw [hstate]
  · rw [List.filterMap_append, List.filterMap_append, hnone.1, hnone.2, List.append_nil,
      List.append_nil, hstate, List.append_nil]
    refine List.Sublist.trans ?_ hold.ordered
    exact List.Sublist.append_right (List.sublist_append_left _ _) _
  · rw [List.filterMap_append, List.filterMap_append, List.filterMap_append, hnone.1, hnone.2, hlost,
      List.append_nil, List.append_nil, hstate, List.append_nil]
    refine hold.fates.trans ?_
    rw [← List.append_assoc]
    exact .refl _
  · rw [hstate]
    exact hdead
  -- An overflow is older than the cleanup, and so is the close it asked for.
  · rcases List.mem_append.mp hm' with hm' | hm'
    · exact List.mem_append_left _ (hold.overflowed m' hm')
    · obtain ⟨m, heq⟩ := hevents _ hm'
      cases heq
  · rw [hstate]
    exact hdead
  · intro e he
    obtain ⟨m, rfl⟩ := hevents e he
    rfl
  · obtain ⟨hqueued, hdeferred, hpending, hprocessing, harrivals, hlimit, hwaits, hdead, hcleanup⟩ :=
      untouched_withState (s := s) hne (fun c =>
        { c with
          pendingMessages := c.pendingMessages - (s.state id).deferredMessages.length
          deferredMessages := [] })
    exact ⟨hqueued, hdeferred, hpending, hprocessing, harrivals, hlimit, hwaits, hdead, hcleanup⟩

/-- `ProcessMessage` has returned. -/
theorem Accounted.returned {frames : List Frame} (h : Accounted es s)
    (hframes : s.frames = .processing id :: frames) :
    Accounted es ({ s with frames }.release id) := by
  have hold := h.each id
  -- The frame that ends is the one whose message was still counted.
  have hcount : ∀ id', s.frames.count (.processing id') =
      frames.count (.processing id') + if id' = id then 1 else 0 := by
    intro id'
    rw [hframes, List.count_cons]
    simp only [beq_iff_eq, Frame.processing.injEq, eq_comm (a := id)]
  -- A loop further down the stack goes on.
  have hdraining : ∀ id', .draining id' ∈ s.frames → .draining id' ∈ frames := by
    intro id' hmem
    rw [hframes] at hmem
    simpa using hmem
  have hdeferred : ∀ id', ((({ s with frames } : Threads).release id).state id').deferredMessages =
      (s.state id').deferredMessages := by
    intro id'
    by_cases hsame : id' = id
    · subst hsame
      simp
    · simp [hsame]
  have hstate : (({ s with frames } : Threads).release id).state id =
      { s.state id with pendingMessages := (s.state id).pendingMessages - 1 } := by simp
  have hid : AccountedFor id (es ++ []) (({ s with frames } : Threads).release id) := by
    rw [List.append_nil]
    refine ⟨?_, ?_, ?_, ?_, ?_, fun m' hm' => ?_, hold.overflowed, fun hmem => ?_⟩
    · have hpending := hold.pending
      rw [hcount id, if_pos rfl] at hpending
      rw [hstate]
      show _ - 1 = (s.queuedOf id).length + (s.state id).deferredMessages.length +
        frames.count _ + s.arrivals id
      omega
    · rw [hstate]
      exact (Nat.sub_le _ 1).trans hold.bounded
    · have hwaits := hold.waits
      unfold Waits at hwaits ⊢
      rw [hstate]
      exact hwaits.imp_right (Or.imp_right (hdraining id))
    · rw [hstate]
      exact hold.ordered
    · rw [hstate]
      exact hold.fates
    · rw [hstate]
      exact hold.dropped m' hm'
    · rw [hstate]
      exact hold.cleanup hmem
  have htotal : (({ s with frames } : Threads).release id).deferredTotal = s.deferredTotal :=
    deferredTotal_congr rfl hdeferred
  have hall := h.one id hid (List.forall_mem_nil _) (fun id' hne => ?_) h.count
    (h.total.trans htotal.symm) h.limit
  · rwa [List.append_nil] at hall
  · obtain ⟨hqueued, hdeferred, hpending, -, harrivals, hlimit, hwaits, hdead, hcleanup⟩ :=
      untouched_withState (s := s) hne (fun c => { c with pendingMessages := c.pendingMessages - 1 })
    refine ⟨hqueued, hdeferred, hpending, ?_, harrivals, hlimit, fun hold => ?_, hdead, hcleanup⟩
    · show frames.count _ = _
      rw [hcount id', if_neg hne, Nat.add_zero]
    · exact (hwaits hold).imp_right (Or.imp_right (hdraining id'))

/-- `FinishCredentialRequest`: the flag falls, and the loop begins. -/
theorem Quiet.finish : Quiet s (s.finishCredentialRequest id) := by
  have hdeferred : ∀ id', ((s.finishCredentialRequest id).state id').deferredMessages =
      (s.state id').deferredMessages ∧
      ((s.finishCredentialRequest id).state id').pendingMessages = (s.state id').pendingMessages ∧
      ((s.finishCredentialRequest id).state id').alive = (s.state id').alive := by
    intro id'
    by_cases hsame : id' = id
    · subst hsame
      simp [finishCredentialRequest]
    · simp [finishCredentialRequest, hsame]
  refine ⟨fun id' => ⟨rfl, (hdeferred id').1, (hdeferred id').2.1, ?_, rfl, rfl, fun hwaits => ?_,
    fun hdead => ?_, .inl⟩, rfl, rfl, deferredTotal_congr rfl fun id' => (hdeferred id').1⟩
  · exact List.count_cons_of_ne (by simp)
  · unfold Waits at hwaits ⊢
    rw [(hdeferred id').1]
    by_cases hsame : id' = id
    · subst hsame
      exact .inr (.inr List.mem_cons_self)
    · refine hwaits.imp_right (Or.imp (fun hpending => ?_) (List.mem_cons_of_mem _))
      simpa [finishCredentialRequest, hsame] using hpending
  · rw [(hdeferred id').2.2]
    exact hdead

theorem Accounted.workerStep {settings : Settings} (h : Accounted es s) (hrequested : Requested settings s)
    (hstep : WorkerSteps s es' s') : Accounted (es ++ es') s' := by
  -- most steps leave the messages alone
  have hquiet : ∀ {s' : Threads}, Quiet s s' → Accounted (es ++ []) s' := by
    intro s' hquiet
    rw [List.append_nil]
    exact h.quiet hquiet
  have hknown : ∀ {frame : Frame} {frames : List Frame} {id : Nat}, s.frames = frame :: frames →
      frame.connection = some id → id < s.nextConnectionId := by
    intro frame frames id hframes hid
    exact hrequested.known.frames frame (by rw [hframes]; exact List.mem_cons_self) id hid
  -- what is on the stack matters only where messages are processed or drained
  have hpops : ∀ {frame : Frame} {frames : List Frame} (frames' : List Frame)
      (queue : CredentialQueue.Machine), s.frames = frame :: frames → frame.connection = none →
      (∀ id, frames'.count (.processing id) = frames.count (.processing id)) →
      (∀ id, .draining id ∈ frames → .draining id ∈ frames') →
      Quiet s { s with frames := frames', queue } := by
    intro frame frames frames' queue hframes hnone hprocessing hdraining
    refine .of_rest rfl rfl (fun id => ?_) rfl rfl rfl (fun id hwaits => ?_) (fun h => h)
    · rw [hprocessing, hframes, List.count_cons_of_ne]
      rintro rfl
      cases hnone
    · refine hwaits.imp_right (Or.imp_right fun hmem => hdraining id ?_)
      rw [hframes] at hmem
      rcases List.mem_cons.mp hmem with rfl | hmem
      · cases hnone
      · exact hmem
  cases hstep with
  | message hidle htake => exact (h.taken (hrequested.taken_lt htake rfl) hidle.1 htake).dispatch
  | @cleanup id application queue hidle htake hqueue =>
    obtain ⟨hjobs, -⟩ := BoundedExecutor.take_some htake
    have hdead := (h.each id).cleanup (by rw [hjobs]; exact List.mem_cons_self)
    have htaken : Quiet s { s with application, queue } :=
      Quiet.trans (.take htake fun _ => rfl)
        (.of_rest rfl rfl (fun _ => rfl) rfl rfl rfl (fun _ h => h) (fun h => h))
    exact (h.quiet htaken).cleanedUp (hrequested.taken_lt htake rfl) hdead
  | complete hidle htake =>
    refine hquiet (Quiet.trans (.take htake fun _ => rfl) ?_)
    exact .of_rest rfl rfl (fun _ => List.count_cons_of_ne (by simp)) rfl rfl rfl
      (fun _ hwaits => hwaits.imp_right (Or.imp_right (List.mem_cons_of_mem _))) (fun h => h)
  | pumps hidle htake hrunning hqueue =>
    refine hquiet (Quiet.trans (.take htake fun _ => rfl) ?_)
    exact .of_rest rfl rfl (fun _ => rfl) rfl rfl rfl (fun _ h => h) (fun h => h)
  | other hidle htake hjob =>
    rcases hjob with rfl | rfl | rfl | ⟨rfl, -⟩
    · exact hquiet (.take htake fun _ => rfl)
    · exact hquiet (.take htake fun _ => rfl)
    · exact hquiet (.take htake fun _ => rfl)
    · exact hquiet (.take htake fun _ => rfl)
  | @submits id _ _ _ _ _ _ _ hframes hrunning halive hfree hjob hcaller henqueue haccept hpump =>
    refine hquiet (Quiet.trans (@Quiet.withState _ id (fun c => { c with credentialPending := true })
      rfl rfl (fun _ => rfl) (fun h => h)) ?_)
    exact .of_rest rfl rfl (fun _ => rfl) rfl rfl rfl (fun _ h => h) (fun h => h)
  | rejected | queue | starts =>
    exact hquiet (.of_rest rfl rfl (fun _ => rfl) rfl rfl rfl (fun _ h => h) (fun h => h))
  | processed hframes hcaller =>
    rw [List.append_nil]
    exact h.returned hframes
  | expires hpoint hqueue =>
    exact hquiet (.of_rest rfl rfl (fun _ => List.count_cons_of_ne (by simp)) rfl rfl rfl
      (fun _ hwaits => hwaits.imp_right (Or.imp_right (List.mem_cons_of_mem _))) (fun h => h))
  | @expiring id frames hframes hcaller =>
    refine hquiet (Quiet.trans (hpops (.expired :: frames) s.queue hframes rfl
      (fun _ => ?_) fun _ => List.mem_cons_of_mem _) .finish)
    exact List.count_cons_of_ne (by simp)
  | expired hframes hqueue => exact hquiet (hpops _ _ hframes rfl (fun _ => rfl) fun _ h => h)
  | @completing id worker frames now queue hframes hqueue =>
    refine hquiet (Quiet.trans (hpops (.completed :: frames) queue hframes rfl
      (fun _ => ?_) fun _ => List.mem_cons_of_mem _) .finish)
    exact List.count_cons_of_ne (by simp)
  | drains hframes hcaller hfree hdeferred =>
    exact (h.undeferred (hknown hframes rfl) hfree (by rw [hframes]; exact List.mem_cons_self)
      hdeferred).dispatch
  | @drained id frames hframes hcaller hdone =>
    refine hquiet (.of_rest rfl rfl (fun id' => ?_) rfl rfl rfl (fun id' hwaits => ?_) (fun h => h))
    · rw [hframes]
      exact (List.count_cons_of_ne (by simp)).symm
    · by_cases hsame : id' = id
      · subst hsame
        rcases hdone with hpending | hnone
        · exact .inr (.inl hpending)
        · exact .inl hnone
      · refine hwaits.imp_right (Or.imp_right fun hmem => ?_)
        rw [hframes] at hmem
        rcases List.mem_cons.mp hmem with heq | hmem
        · cases heq
          exact absurd rfl hsame
        · exact hmem
  | completed hframes hcaller hqueue => exact hquiet (hpops _ _ hframes rfl (fun _ => rfl) fun _ h => h)

theorem Accounted.otherStep (h : Accounted es s) (hstep : OtherSteps s es' s') :
    Accounted (es ++ es') s' := by
  cases hstep with
  | takes =>
    rw [List.append_nil]
    exact h.quiet (.of_rest rfl rfl (fun _ => rfl) rfl rfl rfl (fun _ h => h) (fun h => h))
  | @submits worker id w application hworker hrunning hsubmit =>
    obtain rfl := (congrArg Prod.snd hsubmit).symm
    rw [List.append_nil]
    refine h.quiet (Quiet.trans (.submit (.complete id worker) true (fun _ => rfl) fun _ => nofun)
      ?_)
    exact .of_rest rfl rfl (fun _ => rfl) rfl rfl rfl (fun _ h => h) (fun h => h)
  | stops =>
    rw [List.append_nil]
    exact h.quiet (.of_rest rfl rfl (fun _ => rfl) rfl rfl rfl (fun _ h => h) (fun _ => rfl))

/-! ## Every run -/

variable {settings : Settings}

theorem Accounted.step (h : Accounted es s) (hrequested : Requested settings s)
    (hstep : Steps s es' s') : Accounted (es ++ es') s' := by
  cases hstep with
  | network hnetwork => exact h.networkStep hrequested.known hnetwork
  | worker hworker => exact h.workerStep hrequested hworker
  | other hother => exact h.otherStep hother

theorem Accounted.start (hstart : (system settings).start s) : Accounted [] s := by
  obtain ⟨queue, maxConnections, -, -, rfl⟩ := hstart
  refine ⟨fun id => ?_, nofun, ?_, Nat.zero_le _⟩
  · exact ⟨rfl, Nat.zero_le _, .inl rfl, .refl _, .refl _, nofun, nofun, nofun⟩
  · exact (Finset.sum_eq_zero fun _ _ => rfl).symm

theorem accounted_of_run {ls : List (List Event)} (hrun : System.Run (system settings) ls s) :
    Accounted ls.flatten s := by
  refine hrun.history (P := fun ls s => Accounted ls.flatten s) (fun _ => Accounted.start) ?_
  intro ls s es s' hrun h hstep
  rw [List.flatten_append, List.flatten_singleton]
  exact h.step (.reachable hrun.reachable) hstep

/-- **Messages are handled in order, and none gets lost unnoticed.** In every run of the threads, what
was processed of a connection, then what is deferred, then what is queued is a sublist of what was
accepted. The missing messages were dropped with their connection or with the server, or for the
limit on deferred messages, and then closing their connection was requested. As long as nothing of
this happened, no message is missing. -/
theorem messages_in_order {ls : List (List Event)} (hrun : System.Run (system settings) ls s)
    (id : Nat) :
    let accepted := ls.flatten.filterMap (Event.acceptedOf id)
    let processed := ls.flatten.filterMap (Event.processedOf id)
    let lost := ls.flatten.filterMap (Event.lostOf id)
    let kept := processed ++ (s.state id).deferredMessages ++ s.queuedOf id
    kept.Sublist accepted ∧ accepted.Perm (kept ++ lost) ∧
      (∀ m : Json, .dropped id m ∈ ls.flatten → (s.state id).alive = false ∨ s.stopping = true) ∧
      (∀ m : Json, .overflowed id m ∈ ls.flatten → .closeRequested id ∈ ls.flatten) ∧
      ((s.state id).alive = true → s.stopping = false → .closeRequested id ∉ ls.flatten →
        kept = accepted) := by
  have h := (accounted_of_run hrun).each id
  have hfates : (ls.flatten.filterMap (Event.acceptedOf id)).Perm
      (ls.flatten.filterMap (Event.processedOf id) ++ (s.state id).deferredMessages ++
        s.queuedOf id ++ ls.flatten.filterMap (Event.lostOf id)) := by
    refine h.fates.trans ?_
    simp only [List.append_assoc]
    refine List.Perm.append_left _ ?_
    rw [← List.append_assoc (s.state id).deferredMessages]
    exact List.perm_append_comm
  refine ⟨h.ordered, hfates, h.dropped, h.overflowed, fun halive hrunning hopen => ?_⟩
  have hlost : ls.flatten.filterMap (Event.lostOf id) = [] := by
    refine List.filterMap_eq_nil_iff.mpr fun e he => ?_
    cases e with
    | dropped id' m =>
      refine if_neg ?_
      rintro rfl
      rcases h.dropped m he with hdead | hstopping
      · rw [halive] at hdead
        cases hdead
      · rw [hrunning] at hstopping
        cases hstopping
    | overflowed id' m =>
      refine if_neg ?_
      rintro rfl
      exact hopen (h.overflowed m he)
    | _ => rfl
  rw [hlost, List.append_nil] at hfates
  exact h.ordered.eq_of_length hfates.length_eq.symm

/-- The messages are these numbers. -/
def areNumbers : List Json → List Int → Bool
  | [], [] => true
  | .int value :: messages, n :: numbers => value == n && areNumbers messages numbers
  | _, _ => false

theorem eq_of_areNumbers {messages : List Json} {numbers : List Int}
    (h : areNumbers messages numbers = true) : messages = numbers.map Json.int := by
  fun_induction areNumbers messages numbers with
  | case1 => rfl
  | case2 value messages n numbers ih =>
    rw [Bool.and_eq_true, beq_iff_eq] at h
    rw [List.map_cons, ← ih h.2, h.1]
  | case3 => cases h

/-- A run in which the first message of a connection made a request that is just over, while the second
one is deferred and the third one waits. -/
theorem exists_deferred : ∃ (ls : List (List Event)) (s : Threads),
    System.Run (system ⟨2, 1, 8, 8⟩) ls s ∧ (s.state 1).alive = true ∧ s.stopping = false ∧
    .closeRequested 1 ∉ ls.flatten ∧
    ls.flatten.filterMap (Event.acceptedOf 1) = [.int 1, .int 2, .int 3] ∧
    (s.state 1).deferredMessages = [.int 2] ∧ s.queuedOf 1 = [.int 3] ∧
    s.frames = [.completing 1 0] ∧ s.arriving = none := by
  have hplay : (System.play follow started (requestStarting ++ requestCompleting)).any (fun way =>
      (way.2.state 1).alive && !way.2.stopping &&
      (way.1.map System.Transition.label).flatten.all (fun e => !e.requestsClose) &&
      areNumbers ((way.1.map System.Transition.label).flatten.filterMap (Event.acceptedOf 1))
        [1, 2, 3] &&
      areNumbers (way.2.state 1).deferredMessages [2] && areNumbers (way.2.queuedOf 1) [3] &&
      decide (way.2.frames = [.completing 1 0]) && way.2.arriving.isNone) = true := by
    decide +kernel
  obtain ⟨⟨ts, s⟩, hway, htest⟩ := (Option.any_eq_true _ _).mp hplay
  simp only [Bool.and_eq_true, Bool.not_eq_true', List.all_eq_true, decide_eq_true_eq,
    Option.isNone_iff_eq_none] at htest
  obtain ⟨⟨⟨⟨⟨⟨⟨halive, hrunning⟩, hopen⟩, haccepted⟩, hdeferred⟩, hqueued⟩, hframes⟩, hnone⟩ := htest
  refine ⟨_, s, run_of_play started_start hway, halive, hrunning, fun hmem => ?_,
    eq_of_areNumbers haccepted, eq_of_areNumbers hdeferred, eq_of_areNumbers hqueued, hframes, hnone⟩
  exact absurd (hopen _ hmem) (by decide)

/-- One message was processed, one is deferred and one waits, in the order in which they came. -/
theorem messages_in_order_two_messages : ∃ (ls : List (List Event)) (s : Threads),
    System.Run (system ⟨2, 1, 8, 8⟩) ls s ∧ (s.state 1).deferredMessages = [.int 2] ∧
    s.queuedOf 1 = [.int 3] ∧ ls.flatten.filterMap (Event.processedOf 1) = [.int 1] := by
  obtain ⟨ls, s, hrun, halive, hrunning, hopen, haccepted, hdeferred, hqueued, -⟩ := exists_deferred
  have hkept := (messages_in_order hrun 1).2.2.2.2 halive hrunning hopen
  rw [haccepted, hdeferred, hqueued, List.append_assoc] at hkept
  exact ⟨ls, s, hrun, hdeferred, hqueued,
    List.append_cancel_right (hkept.trans (List.singleton_append).symm)⟩

/-- **The counters are exact.** The number of deferred messages is counted, and at most 1024. The number
of messages of a connection that wait, are deferred or are being processed is counted too, and at
most 128, except for one that just came and is about to be refused. -/
theorem message_counters {ls : List (List Event)} (hrun : System.Run (system settings) ls s) :
    s.deferredMessageCount = ∑ id ∈ Finset.range s.nextConnectionId,
        (s.state id).deferredMessages.length ∧
      s.deferredMessageCount ≤ 1024 ∧
      ∀ id, (s.state id).pendingMessages = (s.queuedOf id).length +
          (s.state id).deferredMessages.length + s.frames.count (.processing id) + s.arrivals id ∧
        (s.state id).pendingMessages ≤ 128 + s.arrivals id := by
  have h := accounted_of_run hrun
  refine ⟨h.total, h.limit, fun id => ⟨(h.each id).pending, ?_⟩⟩
  have hbounded := (h.each id).bounded
  unfold messageLimit at hbounded
  unfold arrivals
  rcases harriving : s.arriving with _ | ⟨id', m, count⟩
  · rw [harriving] at hbounded
    exact hbounded
  · have hcount := h.count id' m count harriving
    rw [harriving] at hbounded
    by_cases hid : id' = id
    · subst hid
      simp only [if_true, Option.any_some, beq_self_eq_true] at hbounded ⊢
      omega
    · simp only [hid, if_false] at hbounded
      omega

/-- The message that is deferred and the one that waits are counted. -/
theorem message_counters_two_messages : ∃ (ls : List (List Event)) (s : Threads),
    System.Run (system ⟨2, 1, 8, 8⟩) ls s ∧ (s.state 1).deferredMessages = [.int 2] ∧
    s.queuedOf 1 = [.int 3] ∧ (s.state 1).pendingMessages = 2 := by
  obtain ⟨ls, s, hrun, -, -, -, -, hdeferred, hqueued, hframes, hnone⟩ := exists_deferred
  have hpending := ((message_counters hrun).2.2 1).1
  rw [hdeferred, hqueued, hframes, arrivals, hnone] at hpending
  exact ⟨ls, s, hrun, hdeferred, hqueued, hpending⟩

/-- Of a connection without a request, no computation is under way either. -/
theorem Requested.held_eq_zero (h : Requested settings s) (hnone : s.places id = 0) (worker : Nat) :
    s.held id worker = 0 := by
  rw [h.held id worker]
  refine if_neg fun howed => ?_
  have hbusy : s.queue.busy worker = some id := by
    unfold CredentialQueue.Machine.owed at howed
    split at howed
    · cases howed
    · exact howed
  have hpositive :=
    CredentialQueue.Machine.requests_pos_of_mem (CredentialQueue.Machine.mem_ids_of_busy h.sound hbusy)
  unfold Threads.places at hnone
  omega

/-- What is processed when a message is dispatched is that message, and no request is pending. -/
theorem free_of_processed {m m' : Json} {id' : Nat}
    (hmem : .processed id' m' ∈ (s.dispatchMessage id m).2) :
    id' = id ∧ (s.state id).alive = true ∧ s.stopping = false ∧
      (s.state id).credentialPending = false := by
  rcases dispatchMessage_cases id m s with
    ⟨halive, hrunning, hfree, hcase⟩ | ⟨-, -, -, -, hcase⟩ | ⟨-, -, hcase⟩ | ⟨-, hcase⟩
  · rw [hcase] at hmem
    cases List.mem_singleton.mp hmem
    exact ⟨rfl, halive, hrunning, hfree⟩
  · rw [hcase] at hmem
    cases hmem
  · rw [hcase] at hmem
    simp at hmem
  · rw [hcase] at hmem
    simp at hmem

/-- **A message is processed only while no request of its connection is under way**: none waits in the
credential queue, none is being told that it expired, and no worker holds one of its computations,
wherever that may be. -/
theorem processed_alone (hreachable : (system settings).Reachable s) (hstep : Steps s es s')
    {m : Json} (hmem : .processed id m ∈ es) :
    (s.state id).alive = true ∧ s.stopping = false ∧ (s.state id).credentialPending = false ∧
      s.places id = 0 ∧ ∀ worker, s.held id worker = 0 := by
  have h := Requested.reachable hreachable
  have hfree : (s.state id).alive = true ∧ s.stopping = false ∧
      (s.state id).credentialPending = false := by
    cases hstep with
    | network hnetwork =>
      cases hnetwork with
      | submits => simp at hmem
      | _ => cases hmem
    | other hother =>
      cases hother with
      | _ => cases hmem
    | worker hworker =>
      cases hworker with
      | message =>
        obtain ⟨rfl, hfree⟩ := free_of_processed hmem
        exact hfree
      | cleanup =>
        obtain ⟨m', -, heq⟩ := List.mem_map.mp hmem
        cases heq
      | drains =>
        obtain ⟨rfl, hfree⟩ := free_of_processed hmem
        simpa [undefer] using hfree
      | _ => cases hmem
  have hnone : s.places id = 0 := by
    have hplaces := h.places id
    rw [hfree.2.2] at hplaces
    exact Nat.le_zero.mp hplaces
  exact ⟨hfree.1, hfree.2.1, hfree.2.2, hnone, h.held_eq_zero hnone⟩

/-- The deferred message is processed when the request of the first one is over. -/
theorem processed_alone_two_messages : ∃ (ls : List (List Event)) (s : Threads) (es : List Event)
    (s' : Threads), System.Run (system ⟨2, 1, 8, 8⟩) ls s ∧ Steps s es s' ∧
    ls.flatten.filterMap (Event.processedOf 1) = [.int 1] ∧ .processed 1 (.int 2) ∈ es ∧
    s.places 1 = 0 ∧ s.held 1 0 = 0 := by
  have hplay : (System.play follow started (requestStarting ++ requestCompleting ++ [.goesOn 2])).any
      (fun way =>
        areNumbers ((way.1.map System.Transition.label).flatten.filterMap (Event.processedOf 1)) [1] &&
        (way.2.follow (.goesOn 2)).any (fun next =>
          areNumbers (next.1.filterMap (Event.processedOf 1)) [2])) = true := by
    decide +kernel
  obtain ⟨⟨ts, s⟩, hway, htest⟩ := (Option.any_eq_true _ _).mp hplay
  rw [Bool.and_eq_true, Option.any_eq_true] at htest
  obtain ⟨hfirst, ⟨es, s'⟩, hfollow, hsecond⟩ := htest
  have hrun := run_of_play started_start hway
  have hstep := steps_of_follow s _ es s' hfollow
  have hmem : Event.processed 1 (.int 2) ∈ es := by
    have hprocessed : Json.int 2 ∈ es.filterMap (Event.processedOf 1) := by
      rw [eq_of_areNumbers hsecond]
      exact List.mem_singleton.mpr rfl
    obtain ⟨e, he, hof⟩ := List.mem_filterMap.mp hprocessed
    cases e with
    | processed id m =>
      simp only [Event.processedOf] at hof
      split at hof
      case isTrue hid =>
        cases hof
        rwa [hid] at he
      case isFalse => cases hof
    | _ => cases hof
  obtain ⟨-, -, -, hplaces, hheld⟩ := processed_alone hrun.reachable hstep hmem
  exact ⟨_, s, es, s', hrun, hstep, eq_of_areNumbers hfirst, hmem, hplaces, hheld 0⟩

end Threads

end CrossDesk.SignalServer
