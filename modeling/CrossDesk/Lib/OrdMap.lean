import Mathlib

/-!
# Ordered finite maps

The maps of an imperative program with an ordered associative container: a finite map that
iterates in the order of its keys. `OrdMap K V` is `Std.ExtTreeMap`, so lookup, insertion and
erasure come with the library's lemmas and its `grind` rules; what is added here is what a program
does by walking the container — searching the *values*, and looking for the first entry that
passes a test — together with keys that are pairs.

Everything is stated through lookup (`m[k]?`). Two maps with the same lookups are equal
(`Std.ExtTreeMap.ext_getElem?`), so no statement ever needs the order of the keys.
-/

/-- A finite map iterated in key order. -/
abbrev OrdMap (K V : Type) [Ord K] := Std.ExtTreeMap K V compare

namespace OrdMap

variable {K V : Type} [Ord K] [Std.TransOrd K] [Std.LawfulEqOrd K]

/-- Membership in the enumeration is lookup. -/
theorem mem_toList {m : OrdMap K V} {k : K} {v : V} : (k, v) ∈ m.toList ↔ m[k]? = some v :=
  Std.ExtTreeMap.mem_toList_iff_getElem?_eq_some

omit [Std.LawfulEqOrd K] in
/-- The keys are listed without repetition. -/
theorem nodup_keys (m : OrdMap K V) : m.keys.Nodup := Std.ExtTreeMap.nodup_keys

omit [Std.LawfulEqOrd K] in
/-- The entries are listed without repetition. -/
theorem nodup_toList (m : OrdMap K V) : m.toList.Nodup := by
  have hkeys : (m.toList.map Prod.fst).Nodup := by
    rw [Std.ExtTreeMap.map_fst_toList_eq_keys]
    exact nodup_keys m
  exact hkeys.of_map Prod.fst

/-- The entries of one key: the one there is, or none. -/
theorem toList_filter_key [DecidableEq K] (m : OrdMap K V) (k : K) :
    m.toList.filter (fun e => decide (e.1 = k)) = ((m[k]?).map (fun v => (k, v))).toList := by
  have hnodup : (m.toList.filter (fun e => decide (e.1 = k))).Nodup := (nodup_toList m).filter _
  have hmem : ∀ e : K × V, e ∈ m.toList.filter (fun e => decide (e.1 = k)) ↔
      e.1 = k ∧ m[k]? = some e.2 := by
    rintro ⟨k', v⟩
    rw [List.mem_filter, decide_eq_true_iff, mem_toList, and_comm]
    exact and_congr_right fun hk => by rw [show k' = k from hk]
  cases hv : m[k]? with
  | none =>
    refine List.eq_nil_iff_forall_not_mem.mpr fun e he => ?_
    have hthere := ((hmem e).mp he).2
    rw [hv] at hthere
    cases hthere
  | some v =>
    have hsingle := List.perm_ext_iff_of_nodup hnodup (List.nodup_singleton (k, v))
    refine List.perm_singleton.mp (hsingle.mpr ?_)
    rintro ⟨k', w⟩
    rw [hmem, hv, List.mem_singleton, Prod.mk.injEq]
    exact and_congr_right fun _ => by rw [Option.some.injEq, eq_comm]

/-- A listed key is one that has a value. -/
theorem mem_keys {m : OrdMap K V} {k : K} : k ∈ m.keys ↔ ∃ v, m[k]? = some v := by
  rw [Std.ExtTreeMap.mem_keys, Std.ExtTreeMap.mem_iff_isSome_getElem?, Option.isSome_iff_exists]

omit [Std.LawfulEqOrd K] in
theorem contains_iff {m : OrdMap K V} {k : K} : m.contains k = true ↔ ∃ v, m[k]? = some v := by
  rw [Std.ExtTreeMap.contains_eq_isSome_getElem?, Option.isSome_iff_exists]

/-- Erasing a key without a value changes nothing. -/
theorem erase_eq_self {m : OrdMap K V} {k : K} (h : m[k]? = none) : m.erase k = m := by
  apply Std.ExtTreeMap.ext_getElem?
  intro k'
  grind

/-- Storing the value a key already has changes nothing. -/
theorem insert_eq_self {m : OrdMap K V} {k : K} {v : V} (h : m[k]? = some v) :
    m.insert k v = m := by
  apply Std.ExtTreeMap.ext_getElem?
  intro k'
  grind

/-- Erasing a key forgets what was stored at it just before. -/
theorem erase_insert (m : OrdMap K V) (k : K) (v : V) : (m.insert k v).erase k = m.erase k := by
  apply Std.ExtTreeMap.ext_getElem?
  intro k'
  grind

/-- The second of two values stored at a key is the one that stays. -/
theorem insert_insert (m : OrdMap K V) (k : K) (v w : V) :
    (m.insert k v).insert k w = m.insert k w := by
  apply Std.ExtTreeMap.ext_getElem?
  intro k'
  grind

omit [Std.LawfulEqOrd K] in
/-- An empty map has no value anywhere. -/
theorem getElem?_of_isEmpty {m : OrdMap K V} (h : m.isEmpty = true) (k : K) : m[k]? = none := by
  rw [Std.ExtTreeMap.isEmpty_iff] at h
  simp [h]

/-! ## Counting -/

omit [Std.LawfulEqOrd K] in
/-- Erasing a key takes one entry away, if it has one. -/
theorem size_erase_add (m : OrdMap K V) (k : K) :
    (m.erase k).size + (if m.contains k then 1 else 0) = m.size := by
  rw [Std.ExtTreeMap.size_erase]
  cases hk : m.contains k with
  | false => simp
  | true =>
    have hsize : m.size ≠ 0 := by
      intro hzero
      rw [Std.ExtTreeMap.eq_empty_iff_size_eq_zero.mpr hzero] at hk
      simp at hk
    simp only [↓reduceIte]
    omega

omit [Std.LawfulEqOrd K] in
/-- The entries that are filtered out, and those that stay. -/
theorem size_filter_add (m : OrdMap K V) (p : K → V → Bool) :
    (m.filter (fun k v => !p k v)).size + (m.toList.filter (fun e => p e.1 e.2)).length = m.size := by
  rw [← Std.ExtTreeMap.length_toList, Std.ExtTreeMap.toList_filter, ← Std.ExtTreeMap.length_toList]
  have hsplit := List.length_eq_length_filter_add (l := m.toList) (fun e => p e.1 e.2)
  omega

/-- A map that has lost entries is not larger. -/
theorem size_le_of_kept {m m' : OrdMap K V}
    (hkept : ∀ (k : K) (v : V), m'[k]? = some v → m[k]? = some v) : m'.size ≤ m.size := by
  rw [← Std.ExtTreeMap.length_keys, ← Std.ExtTreeMap.length_keys]
  apply List.Subperm.length_le
  apply List.subperm_of_subset (nodup_keys m')
  intro k hk
  obtain ⟨v, hv⟩ := mem_keys.mp hk
  exact mem_keys.mpr ⟨v, hkept k v hv⟩

/-- It is smaller if an entry is gone. -/
theorem size_lt_of_gone {m m' : OrdMap K V}
    (hkept : ∀ (k : K) (v : V), m'[k]? = some v → m[k]? = some v) {k : K}
    (hin : m.contains k = true) (hgone : m'[k]? = none) : m'.size < m.size := by
  have hnodup : (k :: m'.keys).Nodup := by
    rw [List.nodup_cons]
    refine ⟨fun hk => ?_, nodup_keys m'⟩
    obtain ⟨v, hv⟩ := mem_keys.mp hk
    rw [hgone] at hv
    cases hv
  have hsubset : k :: m'.keys ⊆ m.keys := by
    intro k' hk'
    rcases List.mem_cons.mp hk' with rfl | hk'
    · exact mem_keys.mpr (contains_iff.mp hin)
    · obtain ⟨v, hv⟩ := mem_keys.mp hk'
      exact mem_keys.mpr ⟨v, hkept k' v hv⟩
  have hlength := (List.subperm_of_subset hnodup hsubset).length_le
  rw [List.length_cons, Std.ExtTreeMap.length_keys, Std.ExtTreeMap.length_keys] at hlength
  exact hlength

/-- A map is rebuilt from its entries, in whatever order they are inserted. -/
theorem foldl_insert_of_perm {m : OrdMap K V} {entries : List (K × V)}
    (h : entries.Perm m.toList) :
    entries.foldl (fun m entry => m.insert entry.1 entry.2) (∅ : OrdMap K V) = m := by
  have hdistinct : entries.Pairwise (fun a b => ¬ compare a.1 b.1 = .eq) := by
    have hkeys : (entries.map Prod.fst).Nodup := by
      rw [(h.map Prod.fst).nodup_iff, Std.ExtTreeMap.map_fst_toList_eq_keys]
      exact nodup_keys m
    refine (List.pairwise_map.mp hkeys).imp fun hne heq => hne ?_
    exact Std.LawfulEqOrd.eq_of_compare heq
  show entries.foldl _ _ = _
  rw [← Std.ExtTreeMap.ofList_eq_foldl]
  refine Std.ExtTreeMap.ext_getElem? fun k => ?_
  cases hk : m[k]? with
  | some v =>
    have hmem : (k, v) ∈ entries := h.mem_iff.mpr (mem_toList.mpr hk)
    exact Std.ExtTreeMap.getElem?_ofList_of_mem Std.ReflOrd.compare_self hdistinct hmem
  | none =>
    classical
    refine Std.ExtTreeMap.getElem?_ofList_of_contains_eq_false ?_
    rw [← Bool.not_eq_true, List.contains_iff_mem, (h.map Prod.fst).mem_iff,
      Std.ExtTreeMap.map_fst_toList_eq_keys, mem_keys]
    rintro ⟨v, hv⟩
    rw [hk] at hv
    cases hv

/-- Erasing keys one after the other. -/
theorem getElem?_foldl_erase [DecidableEq K] (keys : List K) (m : OrdMap K V) (k : K) :
    (keys.foldl (fun m k => m.erase k) m)[k]? = if k ∈ keys then none else m[k]? := by
  induction keys generalizing m with
  | nil => simp
  | cons k' keys ih =>
    rw [List.foldl_cons, ih]
    by_cases hlater : k ∈ keys
    · simp [hlater]
    · by_cases hsame : k = k'
      · subst hsame
        simp [hlater]
      · rw [if_neg hlater, if_neg (by simp [hsame, hlater])]
        grind

/-- Each of the keys takes one entry away. -/
theorem size_foldl_erase {keys : List K} (hnodup : keys.Nodup) {m : OrdMap K V}
    (hin : ∀ k ∈ keys, m.contains k = true) :
    (keys.foldl (fun m k => m.erase k) m).size + keys.length = m.size := by
  induction keys generalizing m with
  | nil => rfl
  | cons k keys ih =>
    obtain ⟨hnew, hnodup⟩ := List.nodup_cons.mp hnodup
    have hrest : ∀ k' ∈ keys, (m.erase k).contains k' = true := by
      intro k' hk'
      have hne : k' ≠ k := fun hsame => hnew (hsame ▸ hk')
      have hthere := hin k' (List.mem_cons_of_mem _ hk')
      rw [contains_iff] at hthere ⊢
      grind
    have hsize := size_erase_add m k
    rw [if_pos (hin k (List.mem_cons_self ..))] at hsize
    have hlater := ih hnodup hrest
    rw [List.foldl_cons, List.length_cons]
    omega

/-! ## Walking the keys -/

/-- The first key after `k`: `upper_bound(k)`, and also the successor of a key. -/
def keyAfter (m : OrdMap K V) (k : K) : Option K := m.keys.find? (fun k' => compare k k' == .lt)

/-- The first key: `begin()`. -/
def firstKey (m : OrdMap K V) : Option K := m.keys.head?

omit [Std.LawfulEqOrd K] in
/-- Keys are listed in their order. -/
theorem keys_split {m : OrdMap K V} {before after : List K} {k : K}
    (h : m.keys = before ++ k :: after) : (∀ k' ∈ before, compare k' k = .lt) ∧
      ∀ k' ∈ after, compare k k' = .lt := by
  have hordered : m.keys.Pairwise (fun a b => compare a b = .lt) := Std.ExtTreeMap.ordered_keys
  rw [h] at hordered
  exact ⟨fun k' hk' => (List.pairwise_append.mp hordered).2.2 k' hk' k (by simp),
    fun k' hk' => List.rel_of_pairwise_cons (List.pairwise_append.mp hordered).2.1 hk'⟩

omit [Std.LawfulEqOrd K] in
/-- The key after `k` is the smallest one that is larger. -/
theorem keyAfter_least {m : OrdMap K V} {k k' : K} (h : m.keyAfter k = some k') :
    compare k k' = .lt ∧ ∀ k'' ∈ m.keys, compare k k'' = .lt → k'' = k' ∨ compare k' k'' = .lt := by
  unfold keyAfter at h
  obtain ⟨hlt, before, after, hkeys, hnot⟩ := List.find?_eq_some_iff_append.mp h
  refine ⟨by simpa using hlt, fun k'' hmem hlt' => ?_⟩
  rw [hkeys] at hmem
  rcases List.mem_append.mp hmem with hmem | hmem
  · have hnot' := hnot k'' hmem
    simp [hlt'] at hnot'
  · rcases List.mem_cons.mp hmem with rfl | hmem
    · exact .inl rfl
    · exact .inr ((keys_split hkeys).2 k'' hmem)

omit [Std.LawfulEqOrd K] in
theorem keyAfter_eq_none {m : OrdMap K V} {k : K} (h : m.keyAfter k = none) :
    ∀ k' ∈ m.keys, compare k k' ≠ .lt := by
  intro k' hmem
  have hnot := List.find?_eq_none.mp h k' hmem
  simpa using hnot

omit [Std.LawfulEqOrd K] in
/-- The first key is the smallest. -/
theorem firstKey_least {m : OrdMap K V} {k : K} (h : m.firstKey = some k) :
    ∀ k' ∈ m.keys, k' = k ∨ compare k k' = .lt := by
  intro k' hmem
  obtain ⟨after, hkeys⟩ := List.head?_eq_some_iff.mp h
  rw [hkeys] at hmem
  rcases List.mem_cons.mp hmem with rfl | hmem
  · exact .inl rfl
  · have hsplit : m.keys = [] ++ k :: after := hkeys
    exact .inr ((keys_split hsplit).2 k' hmem)

/-! ## Searching the values -/

section Search
variable [DecidableEq V]

/-- Some entry has the value `v`. -/
def hasValue (m : OrdMap K V) (v : V) : Bool := m.toList.any (fun p => decide (p.2 = v))

/-- The first key, in key order, whose value is `v`. -/
def firstKeyOf (m : OrdMap K V) (v : V) : Option K :=
  (m.toList.find? (fun p => decide (p.2 = v))).map Prod.fst

theorem hasValue_iff {m : OrdMap K V} {v : V} : m.hasValue v = true ↔ ∃ k : K, m[k]? = some v := by
  unfold hasValue
  rw [List.any_eq_true]
  constructor
  · rintro ⟨⟨k, w⟩, hmem, hw⟩
    have hwv : w = v := by simpa using hw
    subst hwv
    exact ⟨k, mem_toList.mp hmem⟩
  · rintro ⟨k, hk⟩
    exact ⟨(k, v), mem_toList.mpr hk, by simp⟩

theorem firstKeyOf_eq_some {m : OrdMap K V} {v : V} {k : K} (h : m.firstKeyOf v = some k) :
    m[k]? = some v := by
  unfold firstKeyOf at h
  obtain ⟨⟨k', w⟩, hfind, hk⟩ := Option.map_eq_some_iff.mp h
  have hmem : (k', w) ∈ m.toList := List.mem_of_find?_eq_some hfind
  have hw : w = v := by simpa using List.find?_some hfind
  subst hw hk
  exact mem_toList.mp hmem

theorem firstKeyOf_eq_none {m : OrdMap K V} {v : V} (h : m.firstKeyOf v = none) (k : K) :
    m[k]? ≠ some v := by
  intro hk
  unfold firstKeyOf at h
  rw [Option.map_eq_none_iff, List.find?_eq_none] at h
  exact h (k, v) (mem_toList.mpr hk) (by simp)

/-- A key that is erased was not the first one of another value. -/
theorem firstKeyOf_erase {m : OrdMap K V} {k : K} {v : V} (h : m[k]? ≠ some v) :
    firstKeyOf (m.erase k) v = firstKeyOf m v := by
  have herase : m.erase k = m.filter (fun k' _ => compare k k' != .eq) := by
    apply Std.ExtTreeMap.ext_getElem?
    intro k'
    rw [Std.ExtTreeMap.getElem?_erase, Std.ExtTreeMap.getElem?_filter']
    by_cases heq : compare k k' = .eq
    · simp [heq]
    · have hkept : (compare k k' != .eq) = true := by simpa using heq
      rw [if_neg heq, hkept]
      cases m[k']? <;> rfl
  unfold firstKeyOf
  rw [herase, Std.ExtTreeMap.toList_filter, List.find?_filter]
  refine congrArg (Option.map Prod.fst) (List.find?_congr ?_)
  rintro ⟨k', w⟩ hmem
  by_cases hw : w = v
  · have hne : compare k k' ≠ .eq := by
      intro heq
      have hsame := Std.LawfulEqOrd.eq_of_compare heq
      subst hsame hw
      exact h (mem_toList.mp hmem)
    simp [hne]
  · simp [hw]

end Search

end OrdMap

/-! ## Keys that are pairs

`std::pair` is ordered by its first component and then by its second, which is `Prod.Lex`. -/

instance lawfulEqOrdLex {α β : Type} [Ord α] [Ord β] [Std.LawfulEqOrd α] [Std.LawfulEqOrd β] :
    Std.LawfulEqOrd (α ×ₗ β) where
  eq_of_compare {a b} h := by
    have hlex : (compare a.1 b.1).then (compare a.2 b.2) = .eq := h
    rw [Ordering.then_eq_eq] at hlex
    exact Prod.ext (Std.LawfulEqOrd.eq_of_compare hlex.1) (Std.LawfulEqOrd.eq_of_compare hlex.2)
  compare_self {a} := by
    have hlex : (compare a.1 a.1).then (compare a.2 a.2) = .eq := by
      rw [Ordering.then_eq_eq]
      exact ⟨Std.ReflOrd.compare_self, Std.ReflOrd.compare_self⟩
    exact hlex
