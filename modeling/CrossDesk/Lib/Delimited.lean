import Mathlib

/-!
# Texts that are read back without a separator

A writer `f` puts the text of a value in front of whatever comes next. It can be read back when the
value and the rest are determined by the whole: this is `ReadsBack Q f`, where `Q` says what may come
next. A text that carries its own end reads back before anything (`Q` is `fun _ => True`); the digits
of a number only before something that is not a digit.

A writer with a reader reads back (`ReadsBack.of_reader`), and so does a list of texts up to a mark
that none of them begins with (`ReadsBack.list`).

A text that has a separator behind it, and none in it, is what stands before the first separator of the
whole (`takeWhile_ne_append`).
-/

variable {α β τ : Type}

/-- Before a rest in `Q` the text of a value determines the value and the rest. -/
def ReadsBack (Q : List τ → Prop) (f : α → List τ) : Prop :=
  ∀ (a b : α) (x y : List τ), Q x → Q y → f a ++ x = f b ++ y → a = b ∧ x = y

namespace ReadsBack

/-- A writer with a reader reads back. -/
theorem of_reader {f : α → List τ} {read : List τ → Option (α × List τ)}
    (h : ∀ (a : α) (x : List τ), read (f a ++ x) = some (a, x)) : ReadsBack (fun _ => True) f := by
  intro a b x y _ _ hsame
  have hread := congrArg read hsame
  rw [h, h, Option.some.injEq, Prod.mk.injEq] at hread
  exact hread

/-- A list of texts, each of which reads back, up to a mark that none of them begins with. -/
theorem list {f : α → List τ} (h : ReadsBack (fun _ => True) f) {mark : τ}
    (hmark : ∀ (a : α) (x y : List τ), f a ++ x ≠ mark :: y) :
    ReadsBack (fun _ => True) (fun l : List α => l.flatMap f ++ [mark]) := by
  intro l
  induction l with
  | nil =>
    intro l' x y _ _ hsame
    cases l' with
    | nil => exact ⟨rfl, List.append_cancel_left hsame⟩
    | cons b l' =>
      simp only [List.flatMap_nil, List.nil_append, List.flatMap_cons, List.append_assoc,
        List.cons_append] at hsame
      exact absurd hsame.symm (hmark b _ _)
  | cons a l ih =>
    intro l' x y hx hy hsame
    cases l' with
    | nil =>
      simp only [List.flatMap_nil, List.nil_append, List.flatMap_cons, List.append_assoc,
        List.cons_append] at hsame
      exact absurd hsame (hmark a _ _)
    | cons b l' =>
      simp only [List.flatMap_cons, List.append_assoc] at hsame
      obtain ⟨rfl, hrest⟩ := h a b _ _ trivial trivial hsame
      rw [← List.append_assoc, ← List.append_assoc] at hrest
      obtain ⟨rfl, hxy⟩ := ih l' x y hx hy hrest
      exact ⟨rfl, hxy⟩

end ReadsBack

/-! ## Up to a separator -/

section Separators

variable [DecidableEq τ] {sep : τ}

/-- What stands before the first separator. -/
theorem takeWhile_ne_append {item rest : List τ} (h : sep ∉ item) :
    (item ++ sep :: rest).takeWhile (· ≠ sep) = item := by
  induction item with
  | nil => simp
  | cons a item ih =>
    rw [List.mem_cons, not_or] at h
    rw [List.cons_append, List.takeWhile_cons_of_pos (by simpa using Ne.symm h.1), ih h.2]

theorem dropWhile_ne_append {item rest : List τ} (h : sep ∉ item) :
    (item ++ sep :: rest).dropWhile (· ≠ sep) = sep :: rest := by
  induction item with
  | nil => simp
  | cons a item ih =>
    rw [List.mem_cons, not_or] at h
    rw [List.cons_append, List.dropWhile_cons_of_pos (by simpa using Ne.symm h.1), ih h.2]

/-- A text without the separator is a single piece. -/
theorem takeWhile_ne_of_not_mem {item : List τ} (h : sep ∉ item) :
    item.takeWhile (· ≠ sep) = item := by
  rw [List.takeWhile_eq_self_iff]
  intro a ha
  simpa using fun hsame : a = sep => h (hsame ▸ ha)

theorem dropWhile_ne_of_not_mem {item : List τ} (h : sep ∉ item) :
    item.dropWhile (· ≠ sep) = [] := by
  rw [List.dropWhile_eq_nil_iff]
  intro a ha
  simpa using fun hsame : a = sep => h (hsame ▸ ha)

end Separators

