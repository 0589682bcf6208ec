import Mathlib

/-!
# The bounded executor

`BoundedExecutor` runs jobs one after another on a thread of its own. `Submit` refuses a job when the
queue is full, or when the executor is stopping. Lifecycle jobs may also use the reserve, so an
ordinary job never takes the place of one.

The queue does not remember which of its jobs came with the flag. Where a job can tell
(`isLifecycle`), the ordinary ones never exceed the capacity (`Unreserved`), and a lifecycle job is
refused only when as many of them are waiting as the reserve holds (`submit_lifecycle`).
-/

namespace CrossDesk

variable {J : Type}

/-- The executor, apart from its thread. -/
structure BoundedExecutor (J : Type) where
  capacity : Nat
  reserve : Nat
  jobs : List J := []
  stopping : Bool := false

namespace BoundedExecutor

/-- How many jobs may wait. -/
def room (lifecycle : Bool) (e : BoundedExecutor J) : Nat :=
  e.capacity + if lifecycle then e.reserve else 0

/-- `Submit`. -/
def submit (job : J) (lifecycle : Bool) (e : BoundedExecutor J) : Bool × BoundedExecutor J :=
  if e.stopping || e.room lifecycle ≤ e.jobs.length then (false, e)
  else (true, { e with jobs := e.jobs ++ [job] })

/-- `Stop`, up to the join. -/
def stop (e : BoundedExecutor J) : BoundedExecutor J := { e with stopping := true }

/-- One round of `Run`: the first job is taken. The jobs that are there when the executor stops are
taken too. -/
def take (e : BoundedExecutor J) : Option (J × BoundedExecutor J) :=
  match e.jobs with
  | [] => none
  | job :: jobs => some (job, { e with jobs })

variable {e e' : BoundedExecutor J} {job : J} {lifecycle : Bool}

/-- What a submission that was accepted did. -/
theorem submit_true (h : e.submit job lifecycle = (true, e')) :
    e' = { e with jobs := e.jobs ++ [job] } ∧
      e.jobs.length < e.room lifecycle := by
  unfold submit at h
  split at h
  · cases h
  · next hroom =>
    simp only [Bool.or_eq_true, decide_eq_true_eq, not_or, not_le] at hroom
    cases h
    exact ⟨rfl, hroom.2⟩

/-- A submission that was refused did nothing. -/
theorem submit_false (h : e.submit job lifecycle = (false, e')) : e' = e := by
  unfold submit at h
  split at h
  · cases h
    rfl
  · cases h

theorem take_some (h : e.take = some (job, e')) : e.jobs = job :: e'.jobs ∧
    e' = { e with jobs := e'.jobs } := by
  unfold take at h
  split at h
  · cases h
  · next hjobs =>
    cases h
    exact ⟨hjobs, rfl⟩

/-! ## The reserve -/

variable {isLifecycle : J → Bool}

/-- Ordinary jobs have not used the reserve. -/
def Unreserved (isLifecycle : J → Bool) (e : BoundedExecutor J) : Prop :=
  e.jobs.countP (fun job => !isLifecycle job) ≤ e.capacity

/-- A job is submitted with the flag exactly if it is a lifecycle job. -/
theorem Unreserved.submit (h : e.Unreserved isLifecycle)
    (hsubmit : e.submit job (isLifecycle job) = (true, e')) : e'.Unreserved isLifecycle := by
  obtain ⟨rfl, hroom⟩ := submit_true hsubmit
  unfold Unreserved at h ⊢
  rw [List.countP_append, List.countP_singleton]
  cases hkind : isLifecycle job with
  | true => simpa using h
  | false =>
    have hordinary := List.countP_le_length (p := fun job => !isLifecycle job) (l := e.jobs)
    simp only [room, hkind, Bool.false_eq_true, if_false, Nat.add_zero] at hroom
    simp only [Bool.not_false, if_true]
    omega

theorem Unreserved.take (h : e.Unreserved isLifecycle) (htake : e.take = some (job, e')) :
    e'.Unreserved isLifecycle := by
  obtain ⟨hjobs, he'⟩ := take_some htake
  unfold Unreserved at h ⊢
  rw [hjobs, List.countP_cons] at h
  rw [he']
  exact (Nat.le_add_right _ _).trans h

/-- **Lifecycle jobs are not refused**, as long as fewer of them are waiting than the reserve holds. -/
theorem submit_lifecycle (h : e.Unreserved isLifecycle) (hrunning : e.stopping = false)
    (hreserve : e.jobs.countP isLifecycle < e.reserve) (job : J) :
    e.submit job true = (true, { e with jobs := e.jobs ++ [job] }) := by
  have hlength := List.length_eq_countP_add_countP isLifecycle (l := e.jobs)
  unfold Unreserved at h
  unfold submit room
  rw [hrunning, Bool.false_or, if_neg]
  simp only [if_true, decide_eq_true_eq, not_le]
  have hordinary : e.jobs.countP (fun job => decide ¬ isLifecycle job = true) =
      e.jobs.countP (fun job => !isLifecycle job) := by
    congr 1
    funext job
    cases isLifecycle job <;> rfl
  omega

end BoundedExecutor

end CrossDesk
