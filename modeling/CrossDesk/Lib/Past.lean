import Mathlib

/-!
# What a log tells about the past

A log lists events, oldest first. Two things are said about what led to its end:

* `Throughout good log` — every event of the log was good, given the events before it;
* `Since start keeps log` — at some event something started, and what has happened from then on keeps
  it.

Both are read off one event at a time, when the log grows (`throughout_snoc`, `since_snoc`), so an
invariant that mentions them is carried along a run like any other.
-/

variable {ε : Type}

/-- Every event of the log is good, given the events before it. -/
def Throughout (good : List ε → ε → Prop) (log : List ε) : Prop :=
  ∀ (before : List ε) (e : ε) (after : List ε), log = before ++ e :: after → good before e

/-- Something started with an event of the log, and everything after the event keeps it. -/
def Since (start : List ε → ε → Prop) (keeps : ε → Prop) (log : List ε) : Prop :=
  ∃ (before : List ε) (e : ε) (after : List ε),
    log = before ++ e :: after ∧ start before e ∧ ∀ e' ∈ after, keeps e'

/-- The last event of a list is the event of a split, or comes after it. -/
theorem snoc_eq_split {log before after : List ε} {last e : ε}
    (h : log ++ [last] = before ++ e :: after) :
    (log = before ∧ last = e ∧ after = []) ∨
      ∃ rest : List ε, after = rest ++ [last] ∧ log = before ++ e :: rest := by
  induction after using List.reverseRecOn with
  | nil =>
    obtain ⟨hlog, hlast⟩ := List.append_inj' h rfl
    cases hlast
    exact .inl ⟨hlog, rfl, rfl⟩
  | append_singleton rest x _ =>
    rw [← List.cons_append, ← List.append_assoc] at h
    obtain ⟨hlog, hlast⟩ := List.append_inj' h rfl
    cases hlast
    exact .inr ⟨rest, rfl, hlog⟩

section Throughout

variable {good : List ε → ε → Prop} {log : List ε}

@[simp] theorem throughout_nil : Throughout good [] := by
  intro before e after h
  simp at h

/-- A log that grows: the new event must be good after all the others. -/
@[simp] theorem throughout_snoc {e : ε} :
    Throughout good (log ++ [e]) ↔ Throughout good log ∧ good log e := by
  constructor
  · intro h
    refine ⟨fun before e' after hlog => h before e' (after ++ [e]) ?_, h log e [] rfl⟩
    rw [hlog]
    simp
  · rintro ⟨hlog, he⟩ before e' after hsplit
    rcases snoc_eq_split hsplit with ⟨rfl, rfl, -⟩ | ⟨rest, -, hrest⟩
    · exact he
    · exact hlog before e' rest hrest

/-- Events that are good whatever came before. -/
theorem Throughout.append {es : List ε} (h : Throughout good log)
    (hes : ∀ e ∈ es, ∀ before, good before e) : Throughout good (log ++ es) := by
  induction es using List.reverseRecOn with
  | nil => simpa using h
  | append_singleton es e ih =>
    rw [← List.append_assoc, throughout_snoc]
    exact ⟨ih fun e' he' => hes e' (by simp [he']), hes e (by simp) _⟩

end Throughout

section Since

variable {start : List ε → ε → Prop} {keeps : ε → Prop} {log : List ε}

@[simp] theorem since_nil : ¬ Since start keeps [] := by
  rintro ⟨before, e, after, h, -⟩
  simp at h

/-- A log that grows: it starts now, or it started before and the new event keeps it. -/
@[simp] theorem since_snoc {e : ε} :
    Since start keeps (log ++ [e]) ↔ start log e ∨ Since start keeps log ∧ keeps e := by
  constructor
  · rintro ⟨before, e', after, hsplit, hstart, hkeeps⟩
    rcases snoc_eq_split hsplit with ⟨rfl, rfl, -⟩ | ⟨rest, rfl, hrest⟩
    · exact .inl hstart
    · refine .inr ⟨⟨before, e', rest, hrest, hstart, fun x hx => hkeeps x ?_⟩, hkeeps e (by simp)⟩
      simp [hx]
  · rintro (hstart | ⟨⟨before, e', after, rfl, hstart, hkeeps⟩, he⟩)
    · exact ⟨log, e, [], rfl, hstart, by simp⟩
    · refine ⟨before, e', after ++ [e], by simp, hstart, fun x hx => ?_⟩
      rcases List.mem_append.mp hx with hx | hx
      · exact hkeeps x hx
      · rwa [List.mem_singleton.mp hx]

/-- What started before events that keep it. -/
theorem Since.append {es : List ε} (h : Since start keeps log) (hes : ∀ e ∈ es, keeps e) :
    Since start keeps (log ++ es) := by
  induction es using List.reverseRecOn with
  | nil => simpa using h
  | append_singleton es e ih =>
    rw [← List.append_assoc, since_snoc]
    exact .inr ⟨ih fun e' he' => hes e' (by simp [he']), hes e (by simp)⟩

end Since
