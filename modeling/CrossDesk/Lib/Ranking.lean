import Mathlib

/-!
# The first entries of a sorted list

A query that sorts its rows and keeps the first `n` of them selects the rows that fewer than `n`
others come before. This says it without the sort: the rank of an entry is counted in the list as it
came (`mem_take_mergeSort`).
-/

namespace List

variable {α : Type} [DecidableEq α]

/-- How many other entries come before `e`, or are level with it. -/
def rank (le : α → α → Bool) (e : α) (l : List α) : Nat :=
  (l.filter (fun a => decide (a ≠ e) && le a e)).length

theorem rank_perm {le : α → α → Bool} {e : α} {l l' : List α} (h : l.Perm l') :
    rank le e l = rank le e l' :=
  (h.filter _).length_eq

/-- In a sorted list without repetition the rank of an entry is its position. -/
theorem rank_append_cons {le : α → α → Bool} {e : α} {before after : List α}
    (hanti : ∀ a b, le a b = true → le b a = true → a = b)
    (hsorted : (before ++ e :: after).Pairwise (fun a b => le a b = true))
    (hnodup : (before ++ e :: after).Nodup) : rank le e (before ++ e :: after) = before.length := by
  have hbefore : before.filter (fun a => decide (a ≠ e) && le a e) = before := by
    refine List.filter_eq_self.mpr (fun a ha => ?_)
    have hle : le a e = true := (List.pairwise_append.mp hsorted).2.2 a ha e (by simp)
    have hne : a ≠ e := (List.nodup_append.mp hnodup).2.2 a ha e (by simp)
    simp [hle, hne]
  have hafter : (e :: after).filter (fun a => decide (a ≠ e) && le a e) = [] := by
    refine List.filter_eq_nil_iff.mpr (fun b hb => ?_)
    rcases List.mem_cons.mp hb with rfl | hb
    · simp
    · have hle : le e b = true :=
        List.rel_of_pairwise_cons (List.pairwise_append.mp hsorted).2.1 hb
      intro hcomes
      rw [Bool.and_eq_true, decide_eq_true_eq] at hcomes
      exact hcomes.1 (hanti b e hcomes.2 hle)
  rw [rank, List.filter_append, hbefore, hafter, List.append_nil]

/-- **The first `n` entries of the sorted list** are those whose rank is below `n`. -/
theorem mem_take_mergeSort {le : α → α → Bool} {l : List α} (hnodup : l.Nodup)
    (htrans : ∀ a b c, le a b = true → le b c = true → le a c = true)
    (htotal : ∀ a b, (le a b || le b a) = true)
    (hanti : ∀ a b, le a b = true → le b a = true → a = b) {n : Nat} {e : α} :
    e ∈ (l.mergeSort le).take n ↔ e ∈ l ∧ rank le e l < n := by
  have hperm : (l.mergeSort le).Perm l := List.mergeSort_perm l le
  have hsorted : (l.mergeSort le).Pairwise (fun a b => le a b = true) :=
    List.pairwise_mergeSort htrans htotal l
  have hnodup' : (l.mergeSort le).Nodup := hperm.nodup_iff.mpr hnodup
  rw [← hperm.mem_iff, ← rank_perm hperm]
  generalize l.mergeSort le = sorted at hsorted hnodup' ⊢
  have hposition : ∀ before after : List α, sorted = before ++ e :: after →
      rank le e sorted = before.length := by
    rintro before after rfl
    exact rank_append_cons hanti hsorted hnodup'
  constructor
  · intro hmem
    obtain ⟨before, after, hsplit⟩ := List.append_of_mem hmem
    have hrank := hposition before (after ++ sorted.drop n) (by
      rw [← List.cons_append, ← List.append_assoc, ← hsplit, List.take_append_drop])
    refine ⟨List.mem_of_mem_take hmem, ?_⟩
    have hlength := congrArg List.length hsplit
    rw [List.length_take, List.length_append, List.length_cons] at hlength
    omega
  · rintro ⟨hmem, hrank⟩
    obtain ⟨before, after, rfl⟩ := List.append_of_mem hmem
    rw [hposition before after rfl] at hrank
    obtain ⟨k, rfl⟩ : ∃ k, n = before.length + (k + 1) :=
      ⟨n - before.length - 1, by omega⟩
    rw [List.take_length_add_append]
    simp

end List
