import Mathlib

/-!
# Loops that may throw

A loop over a list whose body may throw is a `foldlM` in `Except`. What holds before it and is kept by
every turn that does not throw holds behind it, of the turns taken and the state they led to
(`foldlM_history`).

A loop that drops what it has seen keeps the first of equal elements, in their order; that is
`List.eraseDups` of what it has gone through.
-/

variable {α β ε : Type}

theorem foldlM_cons_eq_ok {f : β → α → Except ε β} {b b' : β} {a : α} {l : List α} :
    (a :: l).foldlM f b = .ok b' ↔ ∃ mid, f b a = .ok mid ∧ l.foldlM f mid = .ok b' := by
  rw [List.foldlM_cons]
  cases hstep : f b a with
  | error e =>
    constructor
    · rintro ⟨⟩
    · rintro ⟨mid, ⟨⟩, -⟩
  | ok mid =>
    constructor
    · exact fun h => ⟨mid, rfl, h⟩
    · rintro ⟨_, ⟨⟩, h⟩
      exact h

/-- **The history rule for a loop.** -/
theorem foldlM_history {f : β → α → Except ε β} {P : List α → β → Prop}
    (hstep : ∀ done b a b', P done b → f b a = .ok b' → P (done ++ [a]) b')
    {done l : List α} {b b' : β} (hstart : P done b) (h : l.foldlM f b = .ok b') :
    P (done ++ l) b' := by
  induction l generalizing done b with
  | nil =>
    cases h
    rwa [List.append_nil]
  | cons a l ih =>
    obtain ⟨mid, hmid, hrest⟩ := foldlM_cons_eq_ok.mp h
    have hdone := ih (hstep done b a mid hstart hmid) hrest
    rwa [List.append_assoc] at hdone

/-- A loop that collects what its body returns. -/
theorem forall₂_of_mapM {f : α → Except ε β} {l : List α} {l' : List β} (h : l.mapM f = .ok l') :
    List.Forall₂ (fun a b => f a = .ok b) l l' := by
  induction l generalizing l' with
  | nil =>
    cases h
    exact .nil
  | cons a l ih =>
    rw [List.mapM_cons] at h
    cases hfirst : f a with
    | error e =>
      rw [hfirst] at h
      cases h
    | ok b =>
      cases hrest : l.mapM f with
      | error e =>
        rw [hfirst, hrest] at h
        cases h
      | ok bs =>
        rw [hfirst, hrest] at h
        cases h
        exact .cons hfirst (ih hrest)

section Dups

variable [BEq α] [LawfulBEq α]

theorem nodup_eraseDups (l : List α) : l.eraseDups.Nodup := by
  induction hlength : l.length using Nat.strong_induction_on generalizing l with
  | _ n ih =>
    cases l with
    | nil => exact List.nodup_nil
    | cons a l =>
      rw [List.eraseDups_cons, List.nodup_cons]
      refine ⟨fun hmem => ?_, ih _ ?_ _ rfl⟩
      · rw [List.mem_eraseDups, List.mem_filter] at hmem
        simp at hmem
      · have hle := List.length_filter_le (fun b => !b == a) l
        rw [← hlength, List.length_cons]
        omega

/-- One more element is kept if it is new. -/
theorem eraseDups_concat_of_mem {l : List α} {a : α} (h : a ∈ l) :
    (l ++ [a]).eraseDups = l.eraseDups := by
  rw [List.eraseDups_append]
  simp [List.removeAll, h]

theorem eraseDups_concat_of_not_mem {l : List α} {a : α} (h : a ∉ l) :
    (l ++ [a]).eraseDups = l.eraseDups ++ [a] := by
  rw [List.eraseDups_append]
  simp [List.removeAll, h, List.eraseDups_cons]

/-- A map under which elements stay different keeps the first of equal elements. -/
theorem eraseDups_map [BEq β] [LawfulBEq β] {f : α → β} {l : List α}
    (hf : ∀ a ∈ l, ∀ a' ∈ l, f a = f a' → a = a') : (l.map f).eraseDups = l.eraseDups.map f := by
  induction l using List.reverseRecOn with
  | nil => rfl
  | append_singleton l a ih =>
    have ih := ih fun b hb b' hb' =>
      hf b (List.mem_append_left _ hb) b' (List.mem_append_left _ hb')
    rw [List.map_append, List.map_singleton]
    by_cases hold : a ∈ l
    · rw [eraseDups_concat_of_mem hold, eraseDups_concat_of_mem (List.mem_map_of_mem hold), ih]
    · have hnew : f a ∉ l.map f := by
        intro hmem
        obtain ⟨b, hb, heq⟩ := List.mem_map.mp hmem
        have hsame := hf b (List.mem_append_left _ hb) a
          (List.mem_append_right _ (List.mem_singleton_self a)) heq
        exact hold (hsame ▸ hb)
      rw [eraseDups_concat_of_not_mem hold, eraseDups_concat_of_not_mem hnew, ih, List.map_append,
        List.map_singleton]

end Dups
