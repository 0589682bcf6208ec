import Mathlib

/-!
# Pages of a list

A query that ends in `LIMIT` and `OFFSET` hands out a page of its rows. Both numbers are signed there:
a negative limit is no limit, and a negative offset is none. A caller that counts in unsigned words of
the same size hands a large number over as a negative one, so a page that should begin far behind the
end begins at the start (`limitOffset_wraps`).

Where the elements are different, that page is the right one only if there is nothing to show
(`limitOffset_eq_iff`).
-/

/-- An unsigned 64-bit number where a signed one is expected. -/
def asInt64 (n : Nat) : Int := Int.bmod n (2 ^ 64)

/-- A number that is handed out as a signed 32-bit one. -/
def asInt32 (n : Nat) : Int := Int.bmod n (2 ^ 32)

/-- `LIMIT limit OFFSET offset`. -/
def limitOffset {α : Type} (limit offset : Int) (l : List α) : List α :=
  let rest := l.drop offset.toNat
  if limit < 0 then rest else rest.take limit.toNat

theorem asInt64_of_lt {n : Nat} (h : n < 2 ^ 63) : asInt64 n = n := by
  unfold asInt64
  rw [Int.bmod_eq_of_le]
  · omega
  · omega

theorem asInt64_of_le {n : Nat} (h : 2 ^ 63 ≤ n) (hn : n < 2 ^ 64) : asInt64 n < 0 := by
  unfold asInt64
  rw [Int.bmod_def]
  omega

theorem asInt32_eq_iff {n : Nat} : asInt32 n = n ↔ n < 2 ^ 31 := by
  unfold asInt32
  rw [Int.bmod_def]
  omega

/-- A number that is too large comes out smaller, by far if it is not negative. -/
theorem asInt32_of_le {n : Nat} (h : 2 ^ 31 ≤ n) : asInt32 n < 0 ∨ asInt32 n + 2 ^ 31 < n := by
  unfold asInt32
  rw [Int.bmod_def]
  omega

/-- How many pages begin below a total, which may be negative. -/
theorem exists_pages {size : Nat} (hsize : 0 < size) (total : Int) :
    ∃ n : Nat, ∀ k : Nat, k < n ↔ ((k * size : Nat) : Int) < total := by
  refine ⟨(total.toNat + size - 1) / size, fun k => ?_⟩
  have hdiv := Nat.le_div_iff_mul_le (x := k + 1) (y := total.toNat + size - 1) hsize
  rw [Nat.add_one_le_iff, Nat.succ_mul] at hdiv
  rw [hdiv]
  omega

/-- Consecutive pieces of a list that cover it are the list. -/
theorem flatMap_pieces {α : Type} (l : List α) (size n : Nat) (hcovers : l.length ≤ n * size) :
    (List.range n).flatMap (fun k => (l.drop (k * size)).take size) = l := by
  have hpieces : ∀ n : Nat,
      (List.range n).flatMap (fun k => (l.drop (k * size)).take size) = l.take (n * size) := by
    intro n
    induction n with
    | zero => simp
    | succ n ih => simp [List.range_succ, ih, Nat.succ_mul, List.take_add]
  rw [hpieces n, List.take_of_length_le hcovers]

section Page

variable {α : Type} {l : List α} {limit offset : Nat}

theorem limitOffset_of_lt (hlimit : limit < 2 ^ 63) (hoffset : offset < 2 ^ 63) :
    limitOffset (asInt64 limit) (asInt64 offset) l = (l.drop offset).take limit := by
  unfold limitOffset
  rw [asInt64_of_lt hlimit, asInt64_of_lt hoffset, if_neg (by omega)]
  rfl

/-- The largest number is no limit. -/
theorem limitOffset_unlimited : limitOffset (asInt64 (2 ^ 64 - 1)) (asInt64 0) l = l := by
  unfold limitOffset
  rw [if_pos (by decide)]
  rfl

/-- An offset that becomes negative is none. -/
theorem limitOffset_wraps (hlimit : limit < 2 ^ 63) (hoffset : 2 ^ 63 ≤ offset)
    (hsize : offset < 2 ^ 64) : limitOffset (asInt64 limit) (asInt64 offset) l = l.take limit := by
  have hnegative := asInt64_of_le hoffset hsize
  unfold limitOffset
  rw [asInt64_of_lt hlimit, Int.toNat_of_nonpos hnegative.le, if_neg (by omega)]
  rfl

/-- **When the page is the one that was asked for.** -/
theorem limitOffset_eq_iff (hdistinct : l.Nodup) (hlimit : limit < 2 ^ 63) (hsize : offset < 2 ^ 64) :
    limitOffset (asInt64 limit) (asInt64 offset) l = (l.drop offset).take limit ↔
      offset < 2 ^ 63 ∨ limit = 0 ∨ l = [] := by
  by_cases hoffset : offset < 2 ^ 63
  · exact iff_of_true (limitOffset_of_lt hlimit hoffset) (.inl hoffset)
  · rw [limitOffset_wraps hlimit (Nat.le_of_not_lt hoffset) hsize]
    constructor
    · intro hsame
      right
      by_contra hsome
      rw [not_or] at hsome
      -- the first element would be among those behind the offset
      cases l with
      | nil => exact hsome.2 rfl
      | cons a l =>
        obtain ⟨limit, rfl⟩ := Nat.exists_eq_succ_of_ne_zero hsome.1
        obtain ⟨offset, rfl⟩ := Nat.exists_eq_succ_of_ne_zero (show offset ≠ 0 by omega)
        rw [List.take_succ_cons, List.drop_succ_cons] at hsame
        have hmem : a ∈ (l.drop offset).take (limit + 1) := hsame ▸ List.mem_cons_self
        exact (List.nodup_cons.mp hdistinct).1 (List.mem_of_mem_drop (List.mem_of_mem_take hmem))
    · rintro (hlt | rfl | rfl)
      · exact absurd hlt hoffset
      · rw [List.take_zero, List.take_zero]
      · rw [List.drop_nil]

end Page
