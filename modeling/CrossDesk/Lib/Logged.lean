import Mathlib

/-!
# Changes of a state that leave a log

A `Logged σ ε α` changes a state `σ`, returns an `α` and reports the events `ε` it caused, in order.
It is the pure reading of a procedure that mutates shared data and tells observers about it: two
changes in sequence concatenate their reports, and a loop concatenates those of its rounds.

What such a procedure guarantees is a relation between the state before, the events and the state
after. A relation that allows doing nothing and composes along the concatenation of events
(`Composes`) passes from the parts of a procedure to the whole (`Follows.bind`, `Follows.each`), so
it is enough to know it of the primitive changes.
-/

variable {σ ε α β : Type}

/-- What a change returns: its value, the new state and the events it caused. -/
@[ext]
structure Outcome (σ ε α : Type) where
  value : α
  state : σ
  events : List ε

/-- A change of the state that reports events. -/
abbrev Logged (σ ε α : Type) := σ → Outcome σ ε α

namespace Logged

/-- Return a value, change nothing. -/
def done (v : α) : Logged σ ε α := fun s => ⟨v, s, []⟩

/-- Change the state silently. -/
def update (f : σ → σ) (v : α) : Logged σ ε α := fun s => ⟨v, f s, []⟩

/-- Report events, change nothing. -/
def emit (es : List ε) (v : α) : Logged σ ε α := fun s => ⟨v, s, es⟩

/-- One change after the other. -/
def andThen (m : Logged σ ε α) (f : α → Logged σ ε β) : Logged σ ε β := fun s =>
  let first := m s
  let second := f first.value first.state
  ⟨second.value, second.state, first.events ++ second.events⟩

/-- One round for each element, handing the value on. -/
def each (l : List β) (round : β → α → Logged σ ε α) (v : α) : Logged σ ε α :=
  match l with
  | [] => done v
  | b :: l => andThen (round b v) (each l round)

instance : Monad (Logged σ ε) where
  pure := done
  bind := andThen

/-- A change that is made under a condition. -/
def when (c : Prop) [Decidable c] (m : Logged σ ε Unit) : Logged σ ε Unit := if c then m else done ()

/-- Read the state. -/
def look : Logged σ ε σ := fun s => ⟨s, s, []⟩

@[simp] theorem done_state (v : α) (s : σ) : (done v : Logged σ ε α) s = ⟨v, s, []⟩ := rfl

@[simp] theorem pure_apply (v : α) (s : σ) : (pure v : Logged σ ε α) s = ⟨v, s, []⟩ := rfl

@[simp] theorem look_bind (f : σ → Logged σ ε α) (s : σ) : (look >>= f) s = f s s := rfl

/-- The state after one change and another. -/
theorem bind_state (m : Logged σ ε α) (f : α → Logged σ ε β) (s : σ) :
    ((m >>= f) s).state = (f (m s).value (m s).state).state := rfl

/-- A second change after a first one whose outcome is known. -/
theorem bind_of_eq {m : Logged σ ε α} {s s' : σ} {v : α} {es : List ε} (h : m s = ⟨v, s', es⟩)
    (f : α → Logged σ ε β) :
    (m >>= f) s = ⟨(f v s').value, (f v s').state, es ++ (f v s').events⟩ := by
  show andThen m f s = _
  unfold andThen
  rw [h]

/-! ## Relations that compose -/

/-- A relation between a state, events and a later state that allows standing still and composes. -/
structure Composes (R : σ → List ε → σ → Prop) : Prop where
  refl : ∀ s, R s [] s
  trans : ∀ {s es s' es' s''}, R s es s' → R s' es' s'' → R s (es ++ es') s''

/-- Every run of the change is related. -/
def Follows (R : σ → List ε → σ → Prop) (m : Logged σ ε α) : Prop :=
  ∀ s, R s (m s).events (m s).state

/-- A change that reads the state first. -/
theorem follows_look {R : σ → List ε → σ → Prop} {f : σ → Logged σ ε α}
    (hf : ∀ s, Follows R (f s)) : Follows R (look >>= f) := fun s => hf s s

section Rules
variable {R : σ → List ε → σ → Prop} (hR : Composes R)
include hR

theorem follows_done (v : α) : Follows R (done v) := fun s => hR.refl s

theorem Follows.bind {m : Logged σ ε α} {f : α → Logged σ ε β} (hm : Follows R m)
    (hf : ∀ v, Follows R (f v)) : Follows R (andThen m f) := fun s =>
  hR.trans (hm s) (hf (m s).value (m s).state)

theorem Follows.when {c : Prop} [Decidable c] {m : Logged σ ε Unit} (hm : Follows R m) :
    Follows R (when c m) := by
  unfold Logged.when
  split
  · exact hm
  · exact follows_done hR ()

/-- The loop rule, of rounds for the elements of the list. -/
theorem Follows.each_mem {round : β → α → Logged σ ε α} {l : List β}
    (hround : ∀ b ∈ l, ∀ v, Follows R (round b v)) (v : α) : Follows R (each l round v) := by
  induction l generalizing v with
  | nil => exact follows_done hR v
  | cons b l ih =>
    refine Follows.bind hR (hround b (by simp) v) (fun v' => ih ?_ v')
    exact fun b' hb' => hround b' (List.mem_cons_of_mem _ hb')

/-- The loop rule: every round related, the whole loop related. -/
theorem Follows.each {round : β → α → Logged σ ε α} (hround : ∀ b v, Follows R (round b v))
    (l : List β) (v : α) : Follows R (each l round v) :=
  Follows.each_mem hR (fun b _ => hround b) v

end Rules

section Rules
variable {R : σ → List ε → σ → Prop} (hR : Composes R)
include hR

/-- What one round establishes for its element in a state with the invariant `I`, and every round
keeps, holds for all elements when the loop is over. -/
theorem each_establishes {I : σ → Prop} {Q : β → σ → Prop} {round : β → α → Logged σ ε α}
    (hround : ∀ b v, Follows R (round b v)) (hinv : ∀ s es s', R s es s' → I s → I s')
    (hkeep : ∀ b s es s', R s es s' → Q b s → Q b s') {l : List β}
    (hdone : ∀ b ∈ l, ∀ v s, I s → Q b (round b v s).state) (v : α) {s : σ} (hs : I s) :
    ∀ b ∈ l, Q b (each l round v s).state := by
  induction l generalizing v s with
  | nil => simp
  | cons c l ih =>
    intro b hb
    rcases List.mem_cons.mp hb with rfl | hb
    · have hrest := Follows.each hR hround l (round b v s).value (round b v s).state
      exact hkeep b _ _ _ hrest (hdone b (by simp) v s hs)
    · have hnext : I (round c v s).state := hinv _ _ _ (hround c v s) hs
      exact ih (fun b' hb' => hdone b' (List.mem_cons_of_mem _ hb')) _ hnext b hb

end Rules

/-! ## What a relation of primitive changes generates -/

/-- The relation generated by primitive changes: finitely many of them, one after the other. -/
inductive Generated (prim : σ → List ε → σ → Prop) : σ → List ε → σ → Prop where
  | refl (s : σ) : Generated prim s [] s
  | step {s s' s'' : σ} {es es' : List ε} :
      Generated prim s es s' → prim s' es' s'' → Generated prim s (es ++ es') s''

variable {prim : σ → List ε → σ → Prop}

theorem Generated.single {s s' : σ} {es : List ε} (h : prim s es s') : Generated prim s es s' :=
  .step (.refl s) h

theorem composes_generated (prim : σ → List ε → σ → Prop) : Composes (Generated prim) where
  refl := .refl
  trans := by
    intro s es s' es' s'' h h'
    induction h' with
    | refl => simpa using h
    | step _ hprim ih =>
      rw [← List.append_assoc]
      exact .step ih hprim

/-- A relation that composes and holds of the primitives holds of all they generate. -/
theorem Generated.lift {R : σ → List ε → σ → Prop} (hR : Composes R)
    (hprim : ∀ s es s', prim s es s' → R s es s') {s s' : σ} {es : List ε}
    (h : Generated prim s es s') : R s es s' := by
  induction h with
  | refl => exact hR.refl _
  | step _ hp ih => exact hR.trans ih (hprim _ _ _ hp)

/-- What is generated by one program after another, whose second part may depend on what the first
one returned and left. -/
theorem Generated.bind {m : Logged σ ε α} {f : α → Logged σ ε β} {s : σ}
    (hm : Generated prim s (m s).events (m s).state)
    (hf : Generated prim (m s).state (f (m s).value (m s).state).events
      (f (m s).value (m s).state).state) :
    Generated prim s ((m >>= f) s).events ((m >>= f) s).state :=
  (composes_generated prim).trans hm hf

/-! ## Keeping a property -/

/-- A property of states as a relation: if it held before, it holds after. -/
def Keeping (P : σ → Prop) : σ → List ε → σ → Prop := fun s _ s' => P s → P s'

theorem composes_keeping (P : σ → Prop) : Composes (Keeping P : σ → List ε → σ → Prop) where
  refl := fun _ h => h
  trans := fun h h' hs => h' (h hs)

/-- What every round for an element of the list keeps, the loop keeps. -/
theorem each_keeps {P : σ → Prop} {round : β → α → Logged σ ε α} {l : List β}
    (hround : ∀ b ∈ l, ∀ v s, P s → P (round b v s).state) (v : α) {s : σ} (hs : P s) :
    P (each l round v s).state :=
  Follows.each_mem (composes_keeping P) (fun b hb v s => hround b hb v s) v s hs

end Logged
