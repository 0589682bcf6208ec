import CrossDesk.SignalServer.Threads

/-!
# Closing connections

Whatever closes connections, one or all of them, does the same to what the threads share: some
connections are not alive any more, and for each of them that was open one cleanup job is submitted
and counted (`Closes`). The number of connections that are alive falls by at least as much as the
count rises.

Closing fails only where a cleanup job is refused. That needs room for one job for each connection
that is alive (`closeAll_isSome`).
-/

namespace CrossDesk.SignalServer.Threads

/-- The connections that are alive. -/
def aliveConnections (s : Threads) : Finset Nat :=
  s.connections.filter (fun id => (s.state id).alive = true)

/-- What closing connections does. -/
structure Closes (s s' : Threads) : Prop where
  rest : s' = { s with
    state := s'.state, application := s'.application, pendingCleanup := s'.pendingCleanup }
  cleanups : ∃ ids : List Nat, (∀ id ∈ ids, id ∈ s.connections ∧ (s'.state id).alive = false) ∧
    s'.application = { s.application with jobs := s.application.jobs ++ ids.map .cleanup } ∧
    s'.pendingCleanup = s.pendingCleanup + ids.length ∧
    s'.aliveConnections.card + ids.length ≤ s.aliveConnections.card
  states : ∀ id, s'.state id = { s.state id with alive := (s'.state id).alive } ∧
    ((s'.state id).alive = true → (s.state id).alive = true)
  outside : ∀ id, id ∉ s.connections → s'.state id = s.state id

variable {s s' s'' : Threads} {id : Nat}

theorem Closes.refl (s : Threads) : Closes s s where
  rest := rfl
  cleanups := ⟨[], by simp, by simp, by simp, by simp⟩
  states id := ⟨rfl, fun h => h⟩
  outside id _ := rfl

theorem Closes.connections (h : Closes s s') : s'.connections = s.connections := by
  rw [h.rest]

/-- A connection that is dead stays dead. -/
theorem Closes.dead (h : Closes s s') (hdead : (s.state id).alive = false) :
    (s'.state id).alive = false := by
  by_contra hlive
  rw [Bool.not_eq_false] at hlive
  rw [(h.states id).2 hlive] at hdead
  cases hdead

theorem Closes.trans (h : Closes s s') (h' : Closes s' s'') : Closes s s'' where
  rest := by
    rw [h'.rest, h.rest]
  cleanups := by
    obtain ⟨ids, hids, happlication, hpending, halive⟩ := h.cleanups
    obtain ⟨ids', hids', happlication', hpending', halive'⟩ := h'.cleanups
    refine ⟨ids ++ ids', ?_, ?_, ?_, ?_⟩
    · intro id hmem
      rcases List.mem_append.mp hmem with hmem | hmem
      · obtain ⟨hid, hdead⟩ := hids id hmem
        exact ⟨hid, h'.dead hdead⟩
      · obtain ⟨hid, hdead⟩ := hids' id hmem
        exact ⟨h.connections ▸ hid, hdead⟩
    · rw [happlication', happlication, List.map_append, List.append_assoc]
    · rw [hpending', hpending, List.length_append, Nat.add_assoc]
    · rw [List.length_append]
      omega
  states id := by
    obtain ⟨hsame, halive⟩ := h.states id
    obtain ⟨hsame', halive'⟩ := h'.states id
    exact ⟨by rw [hsame', hsame], fun h => halive (halive' h)⟩
  outside id hid := (h'.outside id (h.connections ▸ hid)).trans (h.outside id hid)

/-! ## One connection -/

/-- A connection that is marked dead. -/
theorem closes_dead (hid : id ∈ s.connections) :
    Closes s (s.withState id (fun c => { c with alive := false })) where
  rest := rfl
  cleanups := by
    refine ⟨[], by simp, by simp, by simp, ?_⟩
    refine Finset.card_le_card fun id' hid' => ?_
    obtain ⟨hmem, halive⟩ := Finset.mem_filter.mp hid'
    refine Finset.mem_filter.mpr ⟨hmem, ?_⟩
    by_cases hsame : id' = id
    · subst hsame
      simp at halive
    · simpa [hsame] using halive
  states id' := by
    by_cases hsame : id' = id
    · subst hsame
      simp
    · simp [hsame]
  outside id' hid' := by
    have hne : id' ≠ id := fun h => hid' (h ▸ hid)
    simp [hne]

/-- Marking a connection that is alive leaves one less. -/
theorem aliveConnections_dead (hid : id ∈ s.connections) (halive : (s.state id).alive = true) :
    (s.withState id (fun c => { c with alive := false })).aliveConnections =
      s.aliveConnections.erase id := by
  ext id'
  unfold aliveConnections
  by_cases hsame : id' = id
  · subst hsame
    simp
  · simp [hsame]

theorem card_aliveConnections_dead (hid : id ∈ s.connections)
    (halive : (s.state id).alive = true) :
    (s.withState id (fun c => { c with alive := false })).aliveConnections.card + 1 =
      s.aliveConnections.card := by
  rw [aliveConnections_dead hid halive]
  exact Finset.card_erase_add_one (Finset.mem_filter.mpr ⟨hid, halive⟩)

/-- `QueueSessionCleanup`, when it does not throw. -/
theorem queueSessionCleanup_closes (hid : id ∈ s.connections)
    (hcleanup : s.queueSessionCleanup id = some s') :
    Closes s s' ∧ (s'.state id).alive = false := by
  unfold queueSessionCleanup at hcleanup
  dsimp only at hcleanup
  split at hcleanup
  · cases hcleanup
    exact ⟨closes_dead hid, by simp⟩
  · next hlive =>
    simp only [Bool.or_eq_true, Bool.not_eq_true', not_or, Bool.not_eq_false] at hlive
    split at hcleanup
    · next application hsubmit =>
      cases hcleanup
      have hdead := closes_dead hid
      obtain ⟨rfl, -⟩ := BoundedExecutor.submit_true hsubmit
      refine ⟨⟨rfl, ⟨[id], by simpa using hid, rfl, rfl, ?_⟩, hdead.states, hdead.outside⟩, by simp⟩
      exact (card_aliveConnections_dead hid hlive.1).le
    · cases hcleanup

/-- `QueueSessionCleanup` throws only where a cleanup job is refused. -/
theorem queueSessionCleanup_isSome
    (hroom : (s.state id).alive = true → (s.application.submit (.cleanup id) true).1 = true) :
    (s.queueSessionCleanup id).isSome = true := by
  unfold queueSessionCleanup
  dsimp only
  split
  · rfl
  · next hlive =>
    simp only [Bool.or_eq_true, Bool.not_eq_true', not_or, Bool.not_eq_false] at hlive
    have haccepted := hroom hlive.1
    split
    · rfl
    · next hsubmit =>
      rw [hsubmit] at haccepted
      cases haccepted

theorem closeConnection_closes (hclose : s.closeConnection id = some s') : Closes s s' := by
  unfold closeConnection at hclose
  split at hclose
  · next h => exact (queueSessionCleanup_closes h.1 hclose).1
  · cases hclose
    exact .refl s

/-! ## Several connections -/

theorem foldlM_closeConnection_closes {ids : List Nat}
    (hclose : ids.foldlM closeConnection s = some s') : Closes s s' := by
  induction ids generalizing s with
  | nil =>
    cases hclose
    exact .refl _
  | cons id ids ih =>
    obtain ⟨mid, hfirst, hrest⟩ := Option.bind_eq_some_iff.mp hclose
    exact (closeConnection_closes hfirst).trans (ih hrest)

theorem closeAll_closes {ids : Finset Nat} (hclose : s.closeAll ids = some s') : Closes s s' :=
  foldlM_closeConnection_closes hclose

/-- The executor has room for one cleanup job for each connection that is alive. -/
def HasRoom (s : Threads) : Prop :=
  s.application.stopping = false ∧
    s.application.jobs.length + s.aliveConnections.card ≤
      s.application.capacity + s.application.reserve

theorem HasRoom.submit (h : s.HasRoom) (hid : id ∈ s.connections)
    (halive : (s.state id).alive = true) (job : ApplicationJob) :
    (s.application.submit job true).1 = true := by
  obtain ⟨hrunning, hroom⟩ := h
  have hsome : 0 < s.aliveConnections.card :=
    Finset.card_pos.mpr ⟨id, Finset.mem_filter.mpr ⟨hid, halive⟩⟩
  unfold BoundedExecutor.submit BoundedExecutor.room
  rw [if_neg]
  simp only [hrunning, Bool.false_or, if_true, decide_eq_true_eq, not_le]
  omega

/-- Closing connections leaves room for the others. -/
theorem HasRoom.closes (h : s.HasRoom) (hcloses : Closes s s') : s'.HasRoom := by
  obtain ⟨ids, -, happlication, -, halive⟩ := hcloses.cleanups
  obtain ⟨hrunning, hroom⟩ := h
  unfold HasRoom
  rw [happlication]
  refine ⟨hrunning, ?_⟩
  simp only [List.length_append, List.length_map]
  omega

theorem HasRoom.closeConnection (h : s.HasRoom) (id : Nat) :
    ∃ s' : Threads, s.closeConnection id = some s' := by
  unfold Threads.closeConnection
  split
  · next hlive =>
    exact Option.isSome_iff_exists.mp
      (queueSessionCleanup_isSome fun halive => h.submit hlive.1 halive _)
  · exact ⟨s, rfl⟩

/-- With room for all of them, closing connections does not fail. -/
theorem HasRoom.closeAll (h : s.HasRoom) (ids : Finset Nat) :
    ∃ s' : Threads, s.closeAll ids = some s' := by
  unfold Threads.closeAll
  generalize ids.sort (· ≤ ·) = ids
  induction ids generalizing s with
  | nil => exact ⟨_, rfl⟩
  | cons id ids ih =>
    obtain ⟨mid, hfirst⟩ := h.closeConnection id
    obtain ⟨s', hrest⟩ := ih (h.closes (closeConnection_closes hfirst))
    exact ⟨s', Option.bind_eq_some_iff.mpr ⟨mid, hfirst, hrest⟩⟩

end CrossDesk.SignalServer.Threads
