import Mathlib

/-!
# Transition systems and their runs

A program that runs forever is a set of start states and a labelled step relation. A `Run` is a
finite execution from a start state with the labels it took, oldest first; a state is reachable when
some run ends there. The two induction rules are packaged once:

* `Run.invariant` — what holds at the start and is kept by every step holds at the end of every run;
* `Run.history` — the same for a property of the state *and* of the labels that led to it.

A `Path` is an execution between any two states, with everything that is known of each of its steps.
It can be cut at any step, so that what happens between two steps can be talked about.
-/

/-- A labelled transition system. -/
structure System (σ ℓ : Type) where
  start : σ → Prop
  step : σ → ℓ → σ → Prop

namespace System

variable {σ ℓ : Type} {S : System σ ℓ}

/-- An execution from a start state, with the labels it took. -/
inductive Run (S : System σ ℓ) : List ℓ → σ → Prop where
  | start {s : σ} : S.start s → Run S [] s
  | step {ls : List ℓ} {s : σ} {l : ℓ} {s' : σ} : Run S ls s → S.step s l s' → Run S (ls ++ [l]) s'

/-- Some run ends in the state. -/
def Reachable (S : System σ ℓ) (s : σ) : Prop := ∃ ls, Run S ls s

theorem Run.reachable {ls : List ℓ} {s : σ} (h : Run S ls s) : S.Reachable s := ⟨ls, h⟩

/-- **The history rule.** A property of labels and state that holds at the start and is kept by
every step holds of every run. The step may use that its source is reachable. -/
theorem Run.history {P : List ℓ → σ → Prop} (hstart : ∀ s, S.start s → P [] s)
    (hstep : ∀ ls s l s', Run S ls s → P ls s → S.step s l s' → P (ls ++ [l]) s')
    {ls : List ℓ} {s : σ} (h : Run S ls s) : P ls s := by
  induction h with
  | start h => exact hstart _ h
  | step hrun hs ih => exact hstep _ _ _ _ hrun ih hs

/-- **The invariant rule.** -/
theorem Run.invariant {I : σ → Prop} (hstart : ∀ s, S.start s → I s)
    (hstep : ∀ s l s', I s → S.step s l s' → I s') {ls : List ℓ} {s : σ} (h : Run S ls s) : I s :=
  Run.history (P := fun _ s => I s) hstart (fun _ _ _ _ _ hI hs => hstep _ _ _ hI hs) h

theorem Reachable.step {s s' : σ} {l : ℓ} (h : S.Reachable s) (hstep : S.step s l s') :
    S.Reachable s' := by
  obtain ⟨ls, hrun⟩ := h
  exact (hrun.step hstep).reachable

/-- The invariant rule, of reachable states. -/
theorem Reachable.invariant {I : σ → Prop} (hstart : ∀ s, S.start s → I s)
    (hstep : ∀ s l s', I s → S.step s l s' → I s') {s : σ} (h : S.Reachable s) : I s := by
  obtain ⟨ls, hrun⟩ := h
  exact hrun.invariant hstart hstep

/-! ## Paths -/

/-- One step, with the states around it. -/
structure Transition (σ ℓ : Type) where
  before : σ
  label : ℓ
  after : σ

/-- An execution between two states. -/
inductive Path (S : System σ ℓ) : σ → List (Transition σ ℓ) → σ → Prop where
  | nil {s : σ} : Path S s [] s
  | cons {s s' s'' : σ} {l : ℓ} {ts : List (Transition σ ℓ)} :
      S.step s l s' → Path S s' ts s'' → Path S s (⟨s, l, s'⟩ :: ts) s''

theorem Path.append {s s' s'' : σ} {ts ts' : List (Transition σ ℓ)} (h : Path S s ts s')
    (h' : Path S s' ts' s'') : Path S s (ts ++ ts') s'' := by
  induction h with
  | nil => exact h'
  | cons hstep _ ih => exact .cons hstep (ih h')

theorem Path.cut {s s' : σ} {ts ts' : List (Transition σ ℓ)} (h : Path S s (ts ++ ts') s') :
    ∃ mid, Path S s ts mid ∧ Path S mid ts' s' := by
  induction ts generalizing s with
  | nil => exact ⟨s, .nil, h⟩
  | cons t ts ih =>
    cases h with
    | cons hstep hrest =>
      obtain ⟨mid, hfirst, hsecond⟩ := ih hrest
      exact ⟨mid, .cons hstep hfirst, hsecond⟩

/-- A path around one of its steps. -/
theorem Path.around {s s' : σ} {ts ts' : List (Transition σ ℓ)} {t : Transition σ ℓ}
    (h : Path S s (ts ++ t :: ts') s') :
    Path S s ts t.before ∧ S.step t.before t.label t.after ∧ Path S t.after ts' s' := by
  obtain ⟨mid, hfirst, hsecond⟩ := h.cut
  cases hsecond with
  | cons hstep hrest => exact ⟨hfirst, hstep, hrest⟩

/-- The invariant rule, of paths whose steps satisfy `P`. -/
theorem Path.keeps {I : σ → Prop} {P : Transition σ ℓ → Prop}
    (hstep : ∀ t : Transition σ ℓ, I t.before → S.step t.before t.label t.after → P t → I t.after)
    {s s' : σ} {ts : List (Transition σ ℓ)} (h : Path S s ts s') (hs : I s) (hP : ∀ t ∈ ts, P t) :
    I s' := by
  induction h with
  | nil => exact hs
  | cons hfirst _ ih =>
    exact ih (hstep ⟨_, _, _⟩ hs hfirst (hP _ (by simp))) (fun t ht => hP t (by simp [ht]))

/-- **The history rule for paths.** What holds before the first step and is kept by every step, of
the steps so far and the state they led to. -/
theorem Path.history {P : List (Transition σ ℓ) → σ → Prop} {s s' : σ}
    {ts : List (Transition σ ℓ)} (hstart : P [] s)
    (hstep : ∀ (ts : List (Transition σ ℓ)) (t : Transition σ ℓ), Path S s ts t.before →
      P ts t.before → S.step t.before t.label t.after → P (ts ++ [t]) t.after)
    (h : Path S s ts s') : P ts s' := by
  induction ts using List.reverseRecOn generalizing s' with
  | nil =>
    cases h
    exact hstart
  | append_singleton ts t ih =>
    obtain ⟨hfirst, hlast, hrest⟩ := h.around
    cases hrest
    exact hstep ts t hfirst (ih hfirst) hlast

/-- A path goes on where a run ended. -/
theorem Path.run {s s' : σ} {ls : List ℓ} {ts : List (Transition σ ℓ)} (h : Path S s ts s')
    (hs : S.Run ls s) : S.Run (ls ++ ts.map Transition.label) s' := by
  induction h generalizing ls with
  | nil => simpa using hs
  | cons hfirst _ ih => simpa using ih (hs.step hfirst)

/-- A path from a reachable state ends in one. -/
theorem Path.reachable {s s' : σ} {ts : List (Transition σ ℓ)} (h : Path S s ts s')
    (hs : S.Reachable s) : S.Reachable s' := by
  induction h with
  | nil => exact hs
  | cons hfirst _ ih => exact ih (hs.step hfirst)

/-! ## Running a system

Where the steps can be computed, a list of commands determines a path. A command need not say what
comes of it; the label does. -/

section Play

variable {κ : Type} {next : σ → κ → Option (ℓ × σ)}

/-- Carry out the commands in turn, and remember the way. -/
def play (next : σ → κ → Option (ℓ × σ)) : σ → List κ → Option (List (Transition σ ℓ) × σ)
  | s, [] => some ([], s)
  | s, k :: ks =>
    (next s k).bind (fun (l, s') =>
      (play next s' ks).map (fun way => (⟨s, l, s'⟩ :: way.1, way.2)))

theorem path_of_play (hnext : ∀ s k l s', next s k = some (l, s') → S.step s l s') {s s' : σ}
    {ks : List κ} {ts : List (Transition σ ℓ)} (h : play next s ks = some (ts, s')) :
    Path S s ts s' := by
  induction ks generalizing s ts with
  | nil =>
    cases h
    exact .nil
  | cons k ks ih =>
    obtain ⟨⟨l, mid⟩, hmid, h⟩ := Option.bind_eq_some_iff.mp h
    obtain ⟨⟨way, final⟩, hway, heq⟩ := Option.map_eq_some_iff.mp h
    cases heq
    exact .cons (hnext _ _ _ _ hmid) (ih hway)

/-- A way that passes a test is a path that passes it. -/
theorem exists_path_of_play (hnext : ∀ s k l s', next s k = some (l, s') → S.step s l s') {s : σ}
    {ks : List κ} {test : List (Transition σ ℓ) × σ → Bool}
    (h : (play next s ks).any test = true) :
    ∃ ts s', Path S s ts s' ∧ test (ts, s') = true := by
  obtain ⟨⟨ts, s'⟩, hplay, htest⟩ := (Option.any_eq_true _ _).mp h
  exact ⟨ts, s', path_of_play hnext hplay, htest⟩

end Play

end System
