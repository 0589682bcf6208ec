import Mathlib

/-!
# Transactions

Work inside a transaction is a `Transaction`: it changes the state it sees, and it may give up at
any point with an error. `atomically` runs such work against a store: it commits the state that the
work ended with, or, if the work gave up, rolls back to the state it began with.

A guarantee of committed work is proved like one of any program that may throw: a run that ends is
taken apart statement by statement (`run_bind`, `run_execute`), and a loop is read by induction on
the list it goes through (`forEach_keeps`).
-/

variable {σ ε α β : Type}

/-- Work on a state that may give up. -/
abbrev Transaction (ε σ α : Type) := StateT σ (Except ε) α

namespace Transaction

/-- One statement: it fails, or it changes the state and returns a value. -/
def execute (fails : Bool) (error : ε) (f : σ → α × σ) : Transaction ε σ α := fun s =>
  if fails then .error error else .ok (f s)

/-- Give up unless the condition holds. -/
def require (condition : Bool) (error : ε) : Transaction ε σ Unit := fun s =>
  if condition then .ok ((), s) else .error error

/-- Work for each element of a list. -/
def forEach (l : List β) (work : β → Transaction ε σ Unit) : Transaction ε σ Unit :=
  match l with
  | [] => pure ()
  | b :: l => do
    work b
    forEach l work

/-- Run the work and commit it, or roll back. -/
def atomically (work : Transaction ε σ α) (s : σ) : Except ε α × σ :=
  match work s with
  | .error error => (.error error, s)
  | .ok (value, s') => (.ok value, s')

/-! ## Committing and rolling back -/

/-- Work that gave up changed nothing. -/
theorem atomically_error {work : Transaction ε σ α} {s : σ} {error : ε}
    (h : (atomically work s).1 = .error error) : (atomically work s).2 = s := by
  unfold atomically at h ⊢
  cases hwork : work s with
  | error e => rfl
  | ok r =>
    rw [hwork] at h
    cases h

/-- Committed work ended in the state that is stored. -/
theorem atomically_ok {work : Transaction ε σ α} {s : σ} {value : α}
    (h : (atomically work s).1 = .ok value) : work s = .ok (value, (atomically work s).2) := by
  unfold atomically at h ⊢
  cases hwork : work s with
  | error e =>
    rw [hwork] at h
    cases h
  | ok r =>
    rw [hwork] at h
    cases h
    rfl

/-! ## Taking a run apart -/

theorem run_bind {m : Transaction ε σ α} {f : α → Transaction ε σ β} {s : σ} {r : β × σ} :
    (m >>= f) s = .ok r ↔ ∃ (a : α) (s' : σ), m s = .ok (a, s') ∧ f a s' = .ok r := by
  show (m s >>= fun p => f p.1 p.2) = .ok r ↔ _
  cases hm : m s with
  | error e =>
    constructor
    · intro h
      cases h
    · rintro ⟨_, _, h, -⟩
      cases h
  | ok p =>
    constructor
    · intro h
      exact ⟨p.1, p.2, rfl, h⟩
    · rintro ⟨_, _, h, hf⟩
      cases h
      exact hf

/-- Work goes on from where its first part ended. -/
theorem bind_ok {m : Transaction ε σ α} {f : α → Transaction ε σ β} {s s' : σ} {a : α}
    (h : m s = .ok (a, s')) : (m >>= f) s = f a s' := by
  show (m s >>= fun p => f p.1 p.2) = _
  rw [h]
  rfl

/-- Work ends where its first part gave up. -/
theorem bind_error {m : Transaction ε σ α} {f : α → Transaction ε σ β} {s : σ} {error : ε}
    (h : m s = .error error) : (m >>= f) s = .error error := by
  show (m s >>= fun p => f p.1 p.2) = _
  rw [h]
  rfl

theorem run_pure {a : α} {s : σ} {r : α × σ} :
    (pure a : Transaction ε σ α) s = .ok r ↔ r = (a, s) := by
  show Except.ok (a, s) = Except.ok r ↔ _
  rw [Except.ok.injEq, eq_comm]

theorem run_execute {fails : Bool} {error : ε} {f : σ → α × σ} {s : σ} {r : α × σ} :
    execute fails error f s = .ok r ↔ fails = false ∧ r = f s := by
  unfold execute
  cases fails with
  | true => simp
  | false => simp [eq_comm]

theorem run_require {condition : Bool} {error : ε} {s : σ} {r : Unit × σ} :
    require condition error s = .ok r ↔ condition = true ∧ r = ((), s) := by
  unfold require
  cases condition with
  | true => simp [eq_comm]
  | false => simp

theorem require_error {condition : Bool} (h : condition = false) (error : ε) (s : σ) :
    require condition error s = .error error := by
  rw [h]
  rfl

/-- What the work for each element keeps, the loop keeps. -/
theorem forEach_keeps {P : σ → Prop} {work : β → Transaction ε σ Unit} {l : List β}
    (hwork : ∀ b ∈ l, ∀ s s', P s → work b s = .ok ((), s') → P s') {s s' : σ} (hs : P s)
    (hrun : forEach l work s = .ok ((), s')) : P s' := by
  induction l generalizing s with
  | nil =>
    have hsame := run_pure.mp hrun
    cases hsame
    exact hs
  | cons b l ih =>
    obtain ⟨_, mid, hfirst, hrest⟩ := run_bind.mp hrun
    have hmid := hwork b (by simp) s mid hs hfirst
    exact ih (fun b' hb' => hwork b' (List.mem_cons_of_mem _ hb')) hmid hrest

/-! ## Work that cannot give up -/

/-- The work ends, whatever the state it starts from. -/
def Succeeds (work : Transaction ε σ α) : Prop := ∀ s : σ, ∃ (a : α) (s' : σ), work s = .ok (a, s')

theorem pure_succeeds (a : α) : Succeeds (pure a : Transaction ε σ α) :=
  fun s => ⟨a, s, rfl⟩

theorem get_succeeds : Succeeds (get : Transaction ε σ σ) := fun s => ⟨s, s, rfl⟩

theorem execute_succeeds {fails : Bool} (h : fails = false) (error : ε) (f : σ → α × σ) :
    Succeeds (execute fails error f) :=
  fun s => ⟨(f s).1, (f s).2, by simp [execute, h]⟩

theorem Succeeds.bind {m : Transaction ε σ α} {f : α → Transaction ε σ β} (hm : Succeeds m)
    (hf : ∀ a, Succeeds (f a)) : Succeeds (m >>= f) := by
  intro s
  obtain ⟨a, s₁, hfirst⟩ := hm s
  obtain ⟨b, s₂, hrest⟩ := hf a s₁
  exact ⟨b, s₂, run_bind.mpr ⟨a, s₁, hfirst, hrest⟩⟩

theorem forEach_succeeds {work : β → Transaction ε σ Unit} (hwork : ∀ b, Succeeds (work b))
    {l : List β} : Succeeds (forEach l work) := by
  induction l with
  | nil => exact pure_succeeds ()
  | cons b l ih => exact (hwork b).bind (fun _ => ih)

end Transaction
