import CrossDesk.Lib.System
import CrossDesk.CredentialQueue.Basic

/-!
# The deadline of a pending credential request

A connection that does not authenticate in time is closed, unless a credential request of it is
waiting: `credential_deadline_ms` holds the close off until the deadline of the request. It is one
atomic that two threads use. The application worker raises it when it has accepted a request
(`SubmitCredentialWork`), with a load and a store; when the request is over
(`FinishCredentialRequest`) it posts a reset, a compare-and-swap that the network thread runs later,
among the checks of the timeout.

Each access to the atomic is a step of its own, and the flag `credential_pending`, which only the
worker uses, is set a step before the load. So the network thread may run between any two of them.

The queue ends an accepted request at most once, which is why `finish` needs a pending one.
-/

namespace CrossDesk.SignalServer

open CredentialQueue (millis)

/-- The timeouts of the server. -/
structure Timeouts where
  credentialTimeoutSeconds : Nat
  authenticationTimeoutMs : Nat

/-- Where the application worker is in the two functions. -/
inductive WorkerPoint where
  | idle
  /-- `credential_pending` is set; `credential_deadline_ms` is loaded next. -/
  | accepted
  /-- The maximum with the value loaded is stored next. -/
  | loaded (value : Nat)
  /-- `credential_pending` is cleared; `credential_deadline_ms` is loaded next. -/
  | finishing
  /-- The reset is posted next. -/
  | posting (value : Nat)
  deriving DecidableEq, Repr

/-- What the two threads know of a connection. `pending` is the flag, with the deadline of the request
that set it; `posted` are the resets that the network thread has still to run, each with the value
that it expects. -/
structure DeadlineState where
  credentialDeadlineMs : Nat := 0
  pending : Option TimePoint := none
  worker : WorkerPoint := .idle
  posted : List Nat := []
  alive : Bool := true
  deriving DecidableEq, Repr

/-- What else the check of the authentication timeout looks at. -/
structure Standing where
  opened : Bool
  authenticated : Bool
  lifetimeMs : Nat

inductive DeadlineLabel where
  | submit (now : TimePoint)
  | load
  | store
  | finish
  | loadExpected
  | post
  | reset
  | check (now : TimePoint) (standing : Standing)

namespace DeadlineState

/-- The condition of the authentication timeout. -/
def timesOut (timeouts : Timeouts) (now : TimePoint) (standing : Standing) (s : DeadlineState) :
    Bool :=
  standing.opened && !standing.authenticated &&
    decide (standing.lifetimeMs > timeouts.authenticationTimeoutMs) &&
    decide (millis now ≥ s.credentialDeadlineMs)

/-- `compare_exchange_strong(expected, 0)`. -/
def compareExchange (expected : Nat) (s : DeadlineState) : Nat :=
  if s.credentialDeadlineMs = expected then 0 else s.credentialDeadlineMs

/-- The steps of the two threads. -/
inductive Steps (timeouts : Timeouts) (s : DeadlineState) : DeadlineLabel → DeadlineState → Prop where
  -- `SubmitCredentialWork`
  | submit {now : TimePoint} (hworker : s.worker = .idle) (halive : s.alive = true)
      (hpending : s.pending = none) :
      Steps timeouts s (.submit now)
        { s with
          pending := some (now + seconds timeouts.credentialTimeoutSeconds)
          worker := .accepted }
  | load (hworker : s.worker = .accepted) :
      Steps timeouts s .load { s with worker := .loaded s.credentialDeadlineMs }
  | store {value : Nat} {deadline : TimePoint} (hworker : s.worker = .loaded value)
      (hpending : s.pending = some deadline) :
      Steps timeouts s .store
        { s with credentialDeadlineMs := max (millis deadline) (value + 1), worker := .idle }
  -- `FinishCredentialRequest`
  | finish {deadline : TimePoint} (hworker : s.worker = .idle) (hpending : s.pending = some deadline) :
      Steps timeouts s .finish { s with pending := none, worker := .finishing }
  | loadExpected (hworker : s.worker = .finishing) :
      Steps timeouts s .loadExpected { s with worker := .posting s.credentialDeadlineMs }
  | post {value : Nat} (hworker : s.worker = .posting value) :
      Steps timeouts s .post { s with posted := s.posted ++ [value], worker := .idle }
  -- the network thread
  | reset {expected : Nat} {posted : List Nat} (hposted : s.posted = expected :: posted) :
      Steps timeouts s .reset
        { s with credentialDeadlineMs := s.compareExchange expected, posted }
  | check {now : TimePoint} {standing : Standing} :
      Steps timeouts s (.check now standing)
        { s with alive := s.alive && !s.timesOut timeouts now standing }

/-- A connection of a server with the given timeouts, from the moment it is accepted. -/
def system (timeouts : Timeouts) : System DeadlineState DeadlineLabel where
  start s := s = {}
  step := Steps timeouts

/-- A request was accepted and its deadline stored, and it is not over. -/
def Waits (s : DeadlineState) (deadline : TimePoint) : Prop :=
  s.pending = some deadline ∧ s.worker = .idle

/-- No request is pending, the worker is in neither function, and all posted resets have run. -/
def Settled (s : DeadlineState) : Prop := s.pending = none ∧ s.worker = .idle ∧ s.posted = []

/-! ## The invariant -/

/-- The last reset that was posted expects the value, and the others less; nothing is posted when the
value is zero. -/
def Resetting (value : Nat) (posted : List Nat) : Prop :=
  (value = 0 ∧ posted = []) ∨
    (0 < value ∧ ∃ earlier, posted = earlier ++ [value] ∧ ∀ expected ∈ earlier, expected < value)

/-- All resets that were posted expect less. -/
def Beyond (value : Nat) (posted : List Nat) : Prop :=
  0 < value ∧ ∀ expected ∈ posted, expected < value

/-- A value that no posted reset expects to be higher is what the worker has to go by. -/
def Sound (s : DeadlineState) : Prop :=
  match s.worker, s.pending with
  | .idle, none => Resetting s.credentialDeadlineMs s.posted
  | .accepted, some _ => Resetting s.credentialDeadlineMs s.posted
  | .loaded value, some _ => ∀ expected ∈ s.posted, expected ≤ value
  | .idle, some deadline =>
    millis deadline ≤ s.credentialDeadlineMs ∧ Beyond s.credentialDeadlineMs s.posted
  | .finishing, none => Beyond s.credentialDeadlineMs s.posted
  | .posting value, none => s.credentialDeadlineMs = value ∧ Beyond value s.posted
  | _, _ => False

theorem Resetting.le {value : Nat} {posted : List Nat} (h : Resetting value posted) :
    ∀ expected ∈ posted, expected ≤ value := by
  rcases h with ⟨-, rfl⟩ | ⟨-, earlier, rfl, hearlier⟩
  · exact nofun
  · intro expected hmem
    rcases List.mem_append.mp hmem with hmem | hmem
    · exact (hearlier expected hmem).le
    · exact (List.mem_singleton.mp hmem).le

/-- The reset of the last request clears the value; an earlier one finds another value there. -/
theorem Resetting.reset {s : DeadlineState} {expected : Nat} {posted : List Nat}
    (h : Resetting s.credentialDeadlineMs (expected :: posted)) :
    Resetting (s.compareExchange expected) posted := by
  unfold compareExchange
  rcases h with ⟨-, hposted⟩ | ⟨hpositive, earlier, hposted, hearlier⟩
  · cases hposted
  · cases earlier with
    | nil =>
      cases hposted
      rw [if_pos rfl]
      exact .inl ⟨rfl, rfl⟩
    | cons first earlier =>
      cases hposted
      obtain ⟨hfirst, hothers⟩ := List.forall_mem_cons.mp hearlier
      rw [if_neg hfirst.ne']
      exact .inr ⟨hpositive, earlier, rfl, hothers⟩

/-- A reset that was posted for an earlier request leaves the value of a later one alone. -/
theorem Beyond.reset {s : DeadlineState} {expected : Nat} {posted : List Nat}
    (h : Beyond s.credentialDeadlineMs (expected :: posted)) :
    s.compareExchange expected = s.credentialDeadlineMs ∧ Beyond s.credentialDeadlineMs posted := by
  obtain ⟨hpositive, hposted⟩ := h
  obtain ⟨hfirst, hothers⟩ := List.forall_mem_cons.mp hposted
  exact ⟨if_neg hfirst.ne', hpositive, hothers⟩

variable {timeouts : Timeouts} {s s' : DeadlineState}

/-- **Each step** of either thread. -/
theorem Sound.step (h : s.Sound) {l : DeadlineLabel} (hstep : Steps timeouts s l s') : s'.Sound := by
  unfold Sound at h ⊢
  cases hstep with
  | submit hworker halive hpending =>
    rw [hworker, hpending] at h
    exact h
  | load hworker =>
    cases hpending : s.pending with
    | none => simp only [hworker, hpending] at h
    | some deadline =>
      simp only [hworker, hpending] at h ⊢
      exact h.le
  | @store value deadline hworker hpending =>
    simp only [hworker, hpending] at h ⊢
    have hlarger : value < max (millis deadline) (value + 1) :=
      (Nat.lt_succ_self value).trans_le (le_max_right _ _)
    -- The value that is stored is above all that were posted.
    refine ⟨le_max_left _ _, (Nat.zero_le value).trans_lt hlarger, fun expected hmem => ?_⟩
    exact (h expected hmem).trans_lt hlarger
  | finish hworker hpending =>
    simp only [hworker, hpending] at h ⊢
    exact h.2
  | loadExpected hworker =>
    cases hpending : s.pending with
    | none =>
      simp only [hworker, hpending] at h ⊢
      exact ⟨trivial, h⟩
    | some deadline => simp only [hworker, hpending] at h
  | post hworker =>
    cases hpending : s.pending with
    | none =>
      simp only [hworker, hpending] at h ⊢
      obtain ⟨hvalue, hpositive, hposted⟩ := h
      rw [hvalue]
      exact .inr ⟨hpositive, s.posted, rfl, hposted⟩
    | some deadline => simp only [hworker, hpending] at h
  | @reset expected posted hposted =>
    rw [hposted] at h
    -- The reset succeeds only on the value it expects, and no later deadline has that value.
    cases hworker : s.worker <;> cases hpending : s.pending <;> simp only [hworker, hpending] at h ⊢
    case idle.none => exact h.reset
    case idle.some deadline =>
      obtain ⟨hdeadline, hbeyond⟩ := h
      obtain ⟨hsame, hrest⟩ := hbeyond.reset
      rw [hsame]
      exact ⟨hdeadline, hrest⟩
    case accepted.some deadline => exact h.reset
    case loaded.some value deadline => exact (List.forall_mem_cons.mp h).2
    case finishing.none =>
      obtain ⟨hsame, hrest⟩ := h.reset
      rw [hsame]
      exact hrest
    case posting.none value =>
      obtain ⟨hvalue, hbeyond⟩ := h
      rw [← hvalue] at hbeyond ⊢
      obtain ⟨hsame, hrest⟩ := hbeyond.reset
      rw [hsame]
      exact ⟨rfl, hrest⟩
  | check => exact h

theorem Sound.reachable (h : (system timeouts).Reachable s) : s.Sound := by
  refine h.invariant ?_ fun _ _ _ hs hstep => hs.step hstep
  rintro _ rfl
  exact .inl ⟨rfl, rfl⟩

/-! ## What the timeout sees -/

/-- **A stored deadline is never cleared by an earlier request.** In every interleaving of the two
threads: while a request waits whose deadline was stored, `credential_deadline_ms` is not below that
deadline in milliseconds, so the timeout does not close the connection before the millisecond of the
deadline; and when everything has settled it is zero. -/
theorem deadline_kept (h : (system timeouts).Reachable s) :
    (∀ deadline, s.Waits deadline → millis deadline ≤ s.credentialDeadlineMs) ∧
    (∀ deadline now standing, s.Waits deadline → s.timesOut timeouts now standing = true →
      millis deadline ≤ millis now ∧ deadline < now + 1000000) ∧
    (s.Settled → s.credentialDeadlineMs = 0) := by
  have hsound := Sound.reachable h
  have hkept : ∀ deadline, s.Waits deadline → millis deadline ≤ s.credentialDeadlineMs := by
    rintro deadline ⟨hpending, hworker⟩
    simp only [Sound, hworker, hpending] at hsound
    exact hsound.1
  refine ⟨hkept, fun deadline now standing hwaits hout => ?_, ?_⟩
  · have hdue : s.credentialDeadlineMs ≤ millis now := by
      simp only [timesOut, Bool.and_eq_true, decide_eq_true_eq] at hout
      exact hout.2
    have hmillis := (hkept deadline hwaits).trans hdue
    refine ⟨hmillis, ?_⟩
    unfold millis at hmillis
    show @LT.lt Nat _ deadline (now + 1000000)
    omega
  · rintro ⟨hpending, hworker, hposted⟩
    simp only [Sound, hworker, hpending] at hsound
    rcases hsound with ⟨hzero, -⟩ | ⟨-, earlier, hearlier, -⟩
    · exact hzero
    · rw [hposted] at hearlier
      exact absurd hearlier (List.append_ne_nil_of_right_ne_nil _ (List.cons_ne_nil _ _)).symm

/-- The timeouts of the server as it is configured by default. -/
def defaultTimeouts : Timeouts := ⟨600, 15000⟩

/-- A request is flagged before its deadline is stored, and the deadline loses its fraction of a
millisecond; and when the request is over, its flag is cleared before its reset is posted. So there is a
pending request with nothing stored, a connection that is closed before the deadline of its request, and
a deadline that is still there though no request is pending and no reset is posted. -/
theorem deadline_kept_early :
    (∃ s deadline, (system defaultTimeouts).Reachable s ∧ s.pending = some deadline ∧
      s.credentialDeadlineMs < millis deadline) ∧
    (∃ s deadline now standing, (system defaultTimeouts).Reachable s ∧ s.Waits deadline ∧
      s.timesOut defaultTimeouts now standing = true ∧ now < deadline) ∧
    ∃ s, (system defaultTimeouts).Reachable s ∧ s.pending = none ∧ s.posted = [] ∧
      s.credentialDeadlineMs ≠ 0 := by
  have created : (system defaultTimeouts).Reachable {} := ⟨[], .start rfl⟩
  have submitted : (system defaultTimeouts).Reachable
      { pending := some 600000999999, worker := .accepted } :=
    created.step (@Steps.submit defaultTimeouts {} 999999 rfl rfl rfl)
  have loaded : (system defaultTimeouts).Reachable
      { pending := some 600000999999, worker := .loaded 0 } := submitted.step (.load rfl)
  have stored : (system defaultTimeouts).Reachable
      { pending := some 600000999999, credentialDeadlineMs := 600000 } :=
    loaded.step (@Steps.store defaultTimeouts _ 0 600000999999 rfl rfl)
  have finishing : (system defaultTimeouts).Reachable
      { credentialDeadlineMs := 600000, worker := .finishing } := stored.step (.finish rfl rfl)
  exact ⟨⟨_, _, submitted, rfl, by decide⟩,
    ⟨_, 600000999999, 600000000000, ⟨true, false, 600000⟩, stored, ⟨rfl, rfl⟩, by decide, by decide⟩,
    ⟨_, finishing, rfl, rfl, by decide⟩⟩

/-- Two requests within one millisecond, with the reset of the first still posted: it finds another
value, and the deadline of the second one stays. -/
theorem deadline_kept_two_requests :
    ∃ s s' : DeadlineState, s.posted = [600000] ∧ Steps defaultTimeouts s .reset s' ∧
      s'.Waits 600000000010 ∧ millis 600000000010 ≤ s'.credentialDeadlineMs := by
  have created : (system defaultTimeouts).Reachable {} := ⟨[], .start rfl⟩
  have first := ((created.step (@Steps.submit defaultTimeouts {} 0 rfl rfl rfl)).step
    (.load rfl)).step (@Steps.store defaultTimeouts _ 0 600000000000 rfl rfl)
  have finished := ((first.step (.finish rfl rfl)).step (.loadExpected rfl)).step
    (@Steps.post defaultTimeouts _ 600000 rfl)
  let between : DeadlineState :=
    { pending := some 600000000010, credentialDeadlineMs := 600001, posted := [600000] }
  have second : (system defaultTimeouts).Reachable between :=
    ((finished.step (@Steps.submit defaultTimeouts _ 10 rfl rfl rfl)).step
      (.load rfl)).step (@Steps.store defaultTimeouts _ 600000 600000000010 rfl rfl)
  have reset := @Steps.reset defaultTimeouts between 600000 [] rfl
  exact ⟨between, _, rfl, reset, ⟨rfl, rfl⟩,
    (deadline_kept (second.step reset)).1 600000000010 ⟨rfl, rfl⟩⟩

end DeadlineState

end CrossDesk.SignalServer
