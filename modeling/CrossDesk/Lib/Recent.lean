import CrossDesk.Lib.OrdMap

/-!
# Tables that remember the latest entries

A table of bounded size that makes room by dropping what came first: a finite map, and the list of its
keys in the order in which they came (`Recent`). The list is only there to find the oldest key, so the
two must hold the same keys, each of them once (`Recent.Tabled`). Both operations keep that:

* `Recent.remember` adds an entry with a new key, and drops the oldest ones that are too many;
* `Recent.forget` takes out the entries whose keys pass a test.
-/

/-- A map and the order in which its keys came, oldest first. -/
abbrev Recent (K V : Type) [Ord K] := OrdMap K V × List K

namespace Recent

variable {K V : Type} [Ord K] [Std.TransOrd K]

/-- Take out the entries of some keys. -/
def eraseAll (keys : List K) (m : OrdMap K V) : OrdMap K V := keys.foldl (fun m key => m.erase key) m

/-- Add an entry, and drop the oldest ones that are too many. -/
def remember (capacity : Nat) (key : K) (value : V) (t : Recent K V) : Recent K V :=
  let order := t.2 ++ [key]
  (eraseAll (order.take (order.length - capacity)) (t.1.insert key value),
    order.drop (order.length - capacity))

/-- Take out the entries whose keys pass a test. -/
def forget (p : K → Bool) (t : Recent K V) : Recent K V :=
  (eraseAll (t.2.filter p) t.1, t.2.filter (fun key => !p key))

/-- The map and the list hold the same keys, each of them once, and not too many. -/
structure Tabled (capacity : Nat) (t : Recent K V) : Prop where
  keys : ∀ key : K, key ∈ t.2 ↔ (t.1[key]?).isSome = true
  nodup : t.2.Nodup
  length : t.2.length ≤ capacity

variable {capacity : Nat} {t : Recent K V}

theorem Tabled.empty (capacity : Nat) : Tabled capacity ((∅, []) : Recent K V) where
  keys := fun key => by simp
  nodup := List.nodup_nil
  length := Nat.zero_le _

theorem Tabled.notMem (h : Tabled capacity t) {key : K} (hnew : t.1[key]? = none) : key ∉ t.2 := by
  rw [h.keys, hnew]
  exact Bool.false_ne_true

/-! ## Remembering -/

/-- Below the capacity nothing is dropped. -/
theorem remember_of_lt {key : K} {value : V} (hroom : t.2.length < capacity) :
    remember capacity key value t = (t.1.insert key value, t.2 ++ [key]) := by
  have hzero : (t.2 ++ [key]).length - capacity = 0 := by
    rw [List.length_append, List.length_singleton]
    omega
  simp only [remember, hzero]
  rfl

/-- At the capacity the oldest entry goes. -/
theorem remember_of_full {key oldest : K} {value : V} {rest : List K} (horder : t.2 = oldest :: rest)
    (hfull : t.2.length = capacity) :
    remember capacity key value t = ((t.1.insert key value).erase oldest, rest ++ [key]) := by
  rw [horder] at hfull
  have hone : (oldest :: rest ++ [key]).length - capacity = 1 := by
    rw [List.length_append, List.length_singleton]
    omega
  simp only [remember, horder, hone]
  rfl

/-- A table of some capacity has room, or there is an oldest entry to drop. -/
theorem Tabled.room_or_oldest (h : Tabled capacity t) (hpos : 0 < capacity) :
    t.2.length < capacity ∨ ∃ (oldest : K) (rest : List K),
      t.2 = oldest :: rest ∧ t.2.length = capacity := by
  rcases Nat.lt_or_eq_of_le h.length with hroom | hfull
  · exact .inl hroom
  · right
    cases horder : t.2 with
    | nil =>
      rw [horder, List.length_nil] at hfull
      omega
    | cons oldest rest => exact ⟨oldest, rest, rfl, horder ▸ hfull⟩

variable [Std.LawfulEqOrd K]

/-- An entry with a new key is remembered, and nothing else comes in. -/
theorem Tabled.remember (h : Tabled capacity t) (hpos : 0 < capacity) {key : K} {value : V}
    (hnew : t.1[key]? = none) : Tabled capacity (t.remember capacity key value) := by
  have hnot := h.notMem hnew
  rcases h.room_or_oldest hpos with hroom | ⟨oldest, rest, horder, hfull⟩
  · rw [remember_of_lt hroom]
    refine ⟨fun k => ?_, ?_, ?_⟩
    · have hkeys := h.keys k
      simp only [List.mem_append, List.mem_singleton]
      grind
    · rw [List.nodup_append]
      refine ⟨h.nodup, List.nodup_singleton key, ?_⟩
      rintro k hk k' hk' rfl
      rw [List.mem_singleton] at hk'
      subst hk'
      exact hnot hk
    · rw [List.length_append, List.length_singleton]
      omega
  · rw [remember_of_full horder hfull]
    have hnodup := h.nodup
    rw [horder] at hnot hnodup hfull
    rw [List.mem_cons, not_or] at hnot
    rw [List.nodup_cons] at hnodup
    refine ⟨fun k => ?_, ?_, ?_⟩
    · have hkeys := h.keys k
      rw [horder, List.mem_cons] at hkeys
      simp only [List.mem_append, List.mem_singleton]
      grind
    · rw [List.nodup_append]
      refine ⟨hnodup.2, List.nodup_singleton key, ?_⟩
      rintro k hk k' hk' rfl
      rw [List.mem_singleton] at hk'
      subst hk'
      exact hnot.2 hk
    · rw [List.length_append, List.length_singleton]
      rw [List.length_cons] at hfull
      omega

variable [DecidableEq K]

theorem getElem?_eraseAll (keys : List K) (m : OrdMap K V) (k : K) :
    (eraseAll keys m)[k]? = if k ∈ keys then none else m[k]? := by
  induction keys generalizing m with
  | nil => rw [if_neg List.not_mem_nil]; rfl
  | cons key keys ih =>
    show (eraseAll keys (m.erase key))[k]? = _
    rw [ih]
    by_cases hk : key = k
    · subst hk
      rw [if_pos List.mem_cons_self]
      grind
    · have hmem : k ∈ key :: keys ↔ k ∈ keys := by
        rw [List.mem_cons, or_iff_right (Ne.symm hk)]
      have herase : (m.erase key)[k]? = m[k]? := by grind
      simp only [hmem, herase]

theorem Tabled.forget (h : Tabled capacity t) (p : K → Bool) : Tabled capacity (t.forget p) where
  keys := by
    intro key
    have hkeys := h.keys key
    show key ∈ t.2.filter (fun key => !p key) ↔ ((eraseAll (t.2.filter p) t.1)[key]?).isSome = true
    rw [getElem?_eraseAll]
    by_cases hp : p key = true
    · by_cases hin : key ∈ t.2
      · simp [hp, hin]
      · have hnone : t.1[key]? = none := by grind
        simp [hp, hin, hnone]
    · simp [hp, hkeys]
  nodup := h.nodup.filter _
  length := (List.length_filter_le _ _).trans h.length

/-- Forgetting by one test after the other. -/
def forgetEach {ι : Type} (p : ι → K → Bool) (l : List ι) (t : Recent K V) : Recent K V :=
  l.foldl (fun t i => t.forget (p i)) t

theorem Tabled.forgetEach {ι : Type} (h : Tabled capacity t) (p : ι → K → Bool) (l : List ι) :
    Tabled capacity (t.forgetEach p l) := by
  induction l generalizing t with
  | nil => exact h
  | cons i l ih => exact ih (h.forget (p i))

end Recent
