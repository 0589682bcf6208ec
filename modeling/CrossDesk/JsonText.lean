import CrossDesk.Lib.Delimited
import CrossDesk.Json

/-!
# The text of a JSON value

`json::dump()`, without indentation. Two values without fractions have the same text only if they
are the same (`dump_inj`), so a digest of the text is one of the value. The fields of an object are
listed as they are stored; the source's objects are stored in the order of their keys, and so are the
ones that are built here to be dumped.

How a number with a fraction is written is left to `floatText`.
-/

namespace CrossDesk.Json

/-! ## Texts -/

/-- A character inside a text: quotes, backslashes and control characters are escaped. -/
def escapeChar (c : Char) : List Char :=
  if c = '\x22' then ['\\', '\x22']
  else if c = '\\' then ['\\', '\\']
  else if c = '\x08' then ['\\', 'b']
  else if c = '\x0c' then ['\\', 'f']
  else if c = '\n' then ['\\', 'n']
  else if c = '\r' then ['\\', 'r']
  else if c = '\t' then ['\\', 't']
  else if c.toNat < 32 then
    ['\\', 'u', '0', '0', (c.toNat / 16).digitChar, (c.toNat % 16).digitChar]
  else [c]

/-- The characters of a text up to its closing quote. -/
def dumpBody (value : List Char) : List Char := value.flatMap escapeChar ++ ['\x22']

def dumpText (value : String) : List Char := '\x22' :: dumpBody value.toList

/-- The value of a hexadecimal digit. -/
def digitValue (c : Char) : Nat := if c.toNat < 58 then c.toNat - 48 else c.toNat - 87

/-- The character that a text begins with, read back. -/
def readChar : List Char → Option (Char × List Char)
  | [] => none
  | c :: rest =>
    if c = '\x22' then none
    else if c = '\\' then
      match rest with
      | 'b' :: rest => some ('\x08', rest)
      | 'f' :: rest => some ('\x0c', rest)
      | 'n' :: rest => some ('\n', rest)
      | 'r' :: rest => some ('\r', rest)
      | 't' :: rest => some ('\t', rest)
      | 'u' :: _ :: _ :: high :: low :: rest =>
        some (Char.ofNat (16 * digitValue high + digitValue low), rest)
      | c :: rest => some (c, rest)
      | [] => none
    else some (c, rest)

theorem digitValue_digitChar : ∀ n < 16, digitValue n.digitChar = n := by decide

theorem readChar_escapeChar (c : Char) (x : List Char) :
    readChar (escapeChar c ++ x) = some (c, x) := by
  unfold escapeChar
  split_ifs with hquote hback h8 h12 h10 h13 h9 hcontrol
  · simp [hquote, readChar]
  · simp [hback, readChar]
  · simp [h8, readChar]
  · simp [h12, readChar]
  · simp [h10, readChar]
  · simp [h13, readChar]
  · simp [h9, readChar]
  · have hhigh := digitValue_digitChar (c.toNat / 16) (by omega)
    have hlow := digitValue_digitChar (c.toNat % 16) (by omega)
    have hsum : 16 * (c.toNat / 16) + c.toNat % 16 = c.toNat := by omega
    simp [readChar, hhigh, hlow, hsum]
  · simp [readChar, hquote, hback]

theorem readsBack_escapeChar : ReadsBack (fun _ => True) escapeChar :=
  .of_reader readChar_escapeChar

/-- The characters of a text read back up to the closing quote. -/
theorem readsBack_dumpBody : ReadsBack (fun _ => True) dumpBody := by
  refine readsBack_escapeChar.list ?_
  intro c x y hsame
  have hread := congrArg readChar hsame
  rw [readChar_escapeChar] at hread
  simp [readChar] at hread

theorem readsBack_dumpText : ReadsBack (fun _ => True) dumpText := by
  intro s t x y hx hy hsame
  obtain ⟨hbody, hrest⟩ := readsBack_dumpBody s.toList t.toList x y hx hy (List.cons.inj hsame).2
  exact ⟨String.toList_inj.mp hbody, hrest⟩

/-! ## Numbers -/

/-- An integer, in decimal. -/
def dumpInt (value : Int) : List Char :=
  if value < 0 then '-' :: Nat.toDigits 10 value.natAbs else Nat.toDigits 10 value.natAbs

/-- What may come after a value: nothing that could belong to a number. -/
def Stops (rest : List Char) : Prop := ∀ c ∈ rest.head?, c.isDigit = false

/-- Digits read back before anything that is not a digit. -/
theorem readsBack_toDigits : ReadsBack Stops (Nat.toDigits 10) := by
  have hdigits : ∀ n : Nat, ∀ c ∈ Nat.toDigits 10 n, c.isDigit = true :=
    fun n c hc => Nat.isDigit_of_mem_toDigits (by decide) (by decide) hc
  have hsplit : ∀ (n : Nat) (x : List Char), Stops x →
      (Nat.toDigits 10 n ++ x).takeWhile Char.isDigit = Nat.toDigits 10 n := by
    intro n x hx
    rw [List.takeWhile_append_of_pos (hdigits n)]
    cases x with
    | nil => simp
    | cons c x =>
      have hc : c.isDigit = false := hx c (by simp)
      simp [hc]
  intro m n x y hx hy hsame
  have hdigits' := congrArg (List.takeWhile Char.isDigit) hsame
  rw [hsplit m x hx, hsplit n y hy] at hdigits'
  rw [hdigits'] at hsame
  have hvalue := congrArg (fun l => Nat.ofDigitChars 10 l 0) hdigits'
  simp only [Nat.ofDigitChars_ten_toDigits] at hvalue
  exact ⟨hvalue, List.append_cancel_left hsame⟩

theorem head_toDigits (n : Nat) : ∃ c rest, Nat.toDigits 10 n = c :: rest ∧ c.isDigit = true := by
  obtain ⟨c, rest, hlist⟩ := List.exists_cons_of_ne_nil (Nat.toDigits_ne_nil (n := n) (b := 10))
  have hc : c ∈ Nat.toDigits 10 n := by
    rw [hlist]
    exact List.mem_cons_self
  exact ⟨c, rest, hlist, Nat.isDigit_of_mem_toDigits (by decide) (by decide) hc⟩

theorem readsBack_dumpInt : ReadsBack Stops dumpInt := by
  have hminus : ∀ (n : Nat) (x y : List Char), Nat.toDigits 10 n ++ x ≠ '-' :: y := by
    intro n x y hsame
    obtain ⟨c, rest, hlist, hc⟩ := head_toDigits n
    rw [hlist] at hsame
    obtain ⟨rfl, -⟩ := List.cons.inj hsame
    exact absurd hc (by decide)
  intro i j x y hx hy hsame
  unfold dumpInt at hsame
  split_ifs at hsame with hi hj hj
  · obtain ⟨habs, hrest⟩ := readsBack_toDigits _ _ x y hx hy (List.cons.inj hsame).2
    exact ⟨by omega, hrest⟩
  · exact absurd hsame.symm (hminus _ _ _)
  · exact absurd hsame (hminus _ _ _)
  · obtain ⟨habs, hrest⟩ := readsBack_toDigits _ _ x y hx hy hsame
    exact ⟨by omega, hrest⟩

/-! ## Values -/

mutual

/-- No number in the value has a fraction. -/
def isWhole : Json → Bool
  | float _ => false
  | arr items => areWhole items
  | obj fields => areWholeFields fields
  | _ => true

def areWhole : List Json → Bool
  | [] => true
  | item :: items => isWhole item && areWhole items

def areWholeFields : List (String × Json) → Bool
  | [] => true
  | (_, value) :: fields => isWhole value && areWholeFields fields

end

section Values
variable (floatText : ℚ → String)

mutual

/-- `json::dump()`. -/
def dumpChars : Json → List Char
  | null => ['n', 'u', 'l', 'l']
  | bool value => if value then ['t', 'r', 'u', 'e'] else ['f', 'a', 'l', 's', 'e']
  | int value => dumpInt value
  | float value => (floatText value).toList
  | str value => dumpText value
  | arr [] => ['[', ']']
  | arr (item :: items) => '[' :: (dumpChars item ++ dumpItems items)
  | obj [] => ['{', '}']
  | obj ((key, value) :: fields) =>
    '{' :: (dumpText key ++ ':' :: (dumpChars value ++ dumpFields fields))

/-- The other items of an array, up to its end. -/
def dumpItems : List Json → List Char
  | [] => [']']
  | item :: items => ',' :: (dumpChars item ++ dumpItems items)

/-- The other fields of an object, up to its end. -/
def dumpFields : List (String × Json) → List Char
  | [] => ['}']
  | (key, value) :: fields => ',' :: (dumpText key ++ ':' :: (dumpChars value ++ dumpFields fields))

end

/-- The text of a value. -/
def dump (j : Json) : String := String.ofList (dumpChars floatText j)

/-- What a value is, read off the first character of its text: `n` for nothing, `t` for a truth
value, a quote, a bracket, a brace, and `0` for a number. -/
def leadOf : Json → Char
  | null => 'n'
  | bool _ => 't'
  | int _ => '0'
  | float _ => '.'
  | str _ => '\x22'
  | arr _ => '['
  | obj _ => '{'

def lead : List Char → Char
  | [] => ' '
  | c :: _ =>
    if c = '-' ∨ c.isDigit = true then '0'
    else if c = 'f' then 't'
    else c

theorem lead_dumpInt (i : Int) (x : List Char) : lead (dumpInt i ++ x) = '0' := by
  unfold dumpInt
  split
  · rfl
  · obtain ⟨c, rest, hlist, hc⟩ := head_toDigits i.natAbs
    rw [hlist]
    simp [lead, hc]

theorem lead_dumpChars {a : Json} (ha : isWhole a = true) (x : List Char) :
    lead (dumpChars floatText a ++ x) = leadOf a := by
  cases a with
  | null => rfl
  | bool value => cases value <;> rfl
  | int value => exact lead_dumpInt value x
  | float value => simp [isWhole] at ha
  | str value => rfl
  | arr items => cases items <;> rfl
  | obj fields =>
    cases fields with
    | nil => rfl
    | cons field fields => rfl

theorem leadOf_ne_bracket (a : Json) : leadOf a ≠ ']' := by
  cases a <;> simp [leadOf]

/-- Values with the same text are of the same kind. -/
theorem leadOf_eq {a b : Json} (ha : isWhole a = true) (hb : isWhole b = true) {x y : List Char}
    (h : dumpChars floatText a ++ x = dumpChars floatText b ++ y) : leadOf a = leadOf b := by
  rw [← lead_dumpChars floatText ha x, h, lead_dumpChars floatText hb y]

theorem stops_cons {c : Char} (hc : c.isDigit = false) (x : List Char) : Stops (c :: x) := by
  intro c' hc'
  obtain rfl : c = c' := by simpa using hc'
  exact hc

theorem stops_dumpItems (items : List Json) (x : List Char) :
    Stops (dumpItems floatText items ++ x) := by
  cases items with
  | nil => exact stops_cons (by decide) _
  | cons item items => exact stops_cons (by decide) _

theorem stops_dumpFields (fields : List (String × Json)) (x : List Char) :
    Stops (dumpFields floatText fields ++ x) := by
  cases fields with
  | nil => exact stops_cons (by decide) _
  | cons field fields => exact stops_cons (by decide) _

mutual

/-- **The text of a value reads back.** -/
theorem readsBack_dumpChars (a b : Json) (ha : isWhole a = true) (hb : isWhole b = true)
    {x y : List Char} (hx : Stops x) (hy : Stops y)
    (h : dumpChars floatText a ++ x = dumpChars floatText b ++ y) : a = b ∧ x = y := by
  have hkind := leadOf_eq floatText ha hb h
  cases a with
  | null =>
    cases b with
    | null => exact ⟨rfl, List.append_cancel_left h⟩
    | _ => simp [leadOf] at hkind
  | bool value =>
    cases b with
    | bool value' =>
      cases value <;> cases value' <;> simp_all [dumpChars]
    | _ => simp [leadOf] at hkind
  | int value =>
    cases b with
    | int value' =>
      obtain ⟨rfl, hrest⟩ := readsBack_dumpInt value value' x y hx hy h
      exact ⟨rfl, hrest⟩
    | _ => simp [leadOf] at hkind
  | float value => simp [isWhole] at ha
  | str value =>
    cases b with
    | str value' =>
      obtain ⟨rfl, hrest⟩ := readsBack_dumpText value value' x y trivial trivial h
      exact ⟨rfl, hrest⟩
    | _ => simp [leadOf] at hkind
  | arr items =>
    cases b with
    | arr items' =>
      cases items with
      | nil =>
        cases items' with
        | nil => exact ⟨rfl, List.append_cancel_left h⟩
        | cons item' items' =>
          -- the text of an item does not begin with the closing bracket
          simp only [isWhole, areWhole, Bool.and_eq_true] at hb
          simp only [dumpChars, List.cons_append, List.append_assoc, List.cons.injEq, true_and] at h
          have hlead := congrArg lead h
          rw [lead_dumpChars floatText hb.1] at hlead
          exact absurd hlead.symm (leadOf_ne_bracket item')
      | cons item items =>
        simp only [isWhole, areWhole, Bool.and_eq_true] at ha
        cases items' with
        | nil =>
          simp only [dumpChars, List.cons_append, List.append_assoc, List.cons.injEq, true_and] at h
          have hlead := congrArg lead h
          rw [lead_dumpChars floatText ha.1] at hlead
          exact absurd hlead (leadOf_ne_bracket item)
        | cons item' items' =>
          simp only [isWhole, areWhole, Bool.and_eq_true] at hb
          simp only [dumpChars, List.cons_append, List.append_assoc, List.cons.injEq, true_and] at h
          obtain ⟨rfl, hrest⟩ := readsBack_dumpChars item item' ha.1 hb.1
            (stops_dumpItems floatText items x) (stops_dumpItems floatText items' y) h
          obtain ⟨rfl, hxy⟩ := readsBack_dumpItems items items' ha.2 hb.2 hrest
          exact ⟨rfl, hxy⟩
    | _ => simp [leadOf] at hkind
  | obj fields =>
    cases b with
    | obj fields' =>
      cases fields with
      | nil =>
        cases fields' with
        | nil => exact ⟨rfl, List.append_cancel_left h⟩
        | cons field' fields' => simp [dumpChars, dumpText] at h
      | cons field fields =>
        cases fields' with
        | nil => simp [dumpChars, dumpText] at h
        | cons field' fields' =>
          obtain ⟨key, value⟩ := field
          obtain ⟨key', value'⟩ := field'
          simp only [isWhole, areWholeFields, Bool.and_eq_true] at ha hb
          simp only [dumpChars, List.cons_append, List.append_assoc, List.cons.injEq, true_and] at h
          obtain ⟨rfl, htext⟩ := readsBack_dumpText key key' _ _ trivial trivial h
          obtain ⟨rfl, hrest⟩ := readsBack_dumpChars value value' ha.1 hb.1
            (stops_dumpFields floatText fields x) (stops_dumpFields floatText fields' y)
            (List.cons.inj htext).2
          obtain ⟨rfl, hxy⟩ := readsBack_dumpFields fields fields' ha.2 hb.2 hrest
          exact ⟨rfl, hxy⟩
    | _ => simp [leadOf] at hkind

theorem readsBack_dumpItems (items items' : List Json) (h : areWhole items = true)
    (h' : areWhole items' = true) {x y : List Char}
    (hsame : dumpItems floatText items ++ x = dumpItems floatText items' ++ y) :
    items = items' ∧ x = y := by
  cases items with
  | nil =>
    cases items' with
    | nil => exact ⟨rfl, List.append_cancel_left hsame⟩
    | cons item' items' => exact absurd (List.cons.inj hsame).1 (by decide)
  | cons item items =>
    cases items' with
    | nil => exact absurd (List.cons.inj hsame).1 (by decide)
    | cons item' items' =>
      simp only [areWhole, Bool.and_eq_true] at h h'
      simp only [dumpItems, List.cons_append, List.append_assoc, List.cons.injEq, true_and] at hsame
      obtain ⟨rfl, hrest⟩ := readsBack_dumpChars item item' h.1 h'.1
        (stops_dumpItems floatText items x) (stops_dumpItems floatText items' y) hsame
      obtain ⟨rfl, hxy⟩ := readsBack_dumpItems items items' h.2 h'.2 hrest
      exact ⟨rfl, hxy⟩

theorem readsBack_dumpFields (fields fields' : List (String × Json))
    (h : areWholeFields fields = true) (h' : areWholeFields fields' = true) {x y : List Char}
    (hsame : dumpFields floatText fields ++ x = dumpFields floatText fields' ++ y) :
    fields = fields' ∧ x = y := by
  cases fields with
  | nil =>
    cases fields' with
    | nil => exact ⟨rfl, List.append_cancel_left hsame⟩
    | cons field' fields' => exact absurd (List.cons.inj hsame).1 (by decide)
  | cons field fields =>
    cases fields' with
    | nil => exact absurd (List.cons.inj hsame).1 (by decide)
    | cons field' fields' =>
      obtain ⟨key, value⟩ := field
      obtain ⟨key', value'⟩ := field'
      simp only [areWholeFields, Bool.and_eq_true] at h h'
      simp only [dumpFields, List.cons_append, List.append_assoc, List.cons.injEq, true_and] at hsame
      obtain ⟨rfl, htext⟩ := readsBack_dumpText key key' _ _ trivial trivial hsame
      obtain ⟨rfl, hrest⟩ := readsBack_dumpChars value value' h.1 h'.1
        (stops_dumpFields floatText fields x) (stops_dumpFields floatText fields' y)
        (List.cons.inj htext).2
      obtain ⟨rfl, hxy⟩ := readsBack_dumpFields fields fields' h.2 h'.2 hrest
      exact ⟨rfl, hxy⟩

end

/-- Whole values with the same text are the same. -/
theorem dump_inj {a b : Json} (ha : isWhole a = true) (hb : isWhole b = true)
    (h : dump floatText a = dump floatText b) : a = b := by
  have hchars : dumpChars floatText a ++ [] = dumpChars floatText b ++ [] := by
    rw [List.append_nil, List.append_nil]
    exact String.ofList_injective h
  have hstops : Stops [] := fun c hc => by simp at hc
  exact (readsBack_dumpChars floatText a b ha hb hstops hstops hchars).1

end Values

end CrossDesk.Json
