import CrossDesk.Lib.Delimited
import CrossDesk.Lib.OrdMap
import CrossDesk.Identity

/-!
# The parameters of a request

The administrator's page writes what it asks for behind the `?` of a path, in the form encoding of the
browser: a list of `key=value` joined by `&`, where letters, digits and `*-._` stand for themselves, a
space is written `+` and every other byte `%XX`. The server takes the text apart at the separators first
and decodes the pieces then.

* **Reading what was written** gives back the map, in whatever order its pairs were joined
  (`parseQueryParams_formText`): no separator is left in an encoded piece, and each byte is decoded by
  itself (`urlDecode_formEncode`).
* **A `%` that begins no escape** is kept, and so is what follows it. The whole text is read as if that
  `%` had been escaped (`parseQueryParams_malformed`).
* **Termination.** Both loops are functions on the rest of the text, which every round shortens.

A `std::string` is a list of bytes here.
-/

namespace CrossDesk

/-- The parameters, before they are looked at. -/
abbrev QueryParams := OrdMap ByteString ByteString

/-! ## Reading -/

/-- `ResourcePath`. -/
def resourcePath (resource : ByteString) : ByteString := resource.takeWhile (· ≠ '?'.toUInt8)

/-- `ResourceQuery`. -/
def resourceQuery (resource : ByteString) : ByteString :=
  match resource.dropWhile (· ≠ '?'.toUInt8) with
  | [] => []
  | _ :: query => query

/-- `HexValue`. -/
def hexValue (ch : UInt8) : Option UInt8 :=
  if '0'.toUInt8 ≤ ch ∧ ch ≤ '9'.toUInt8 then some (ch - '0'.toUInt8)
  else if 'a'.toUInt8 ≤ ch ∧ ch ≤ 'f'.toUInt8 then some (ch - 'a'.toUInt8 + 10)
  else if 'A'.toUInt8 ≤ ch ∧ ch ≤ 'F'.toUInt8 then some (ch - 'A'.toUInt8 + 10)
  else none

/-- The byte that two hexadecimal digits write. -/
def hexByte (high low : UInt8) : Option UInt8 :=
  match hexValue high, hexValue low with
  | some hi, some lo => some (hi <<< 4 ||| lo)
  | _, _ => none

/-- `UrlDecode`. -/
def urlDecode : ByteString → ByteString
  | [] => []
  | ch :: high :: low :: rest =>
    if ch = '+'.toUInt8 then ' '.toUInt8 :: urlDecode (high :: low :: rest)
    else if ch = '%'.toUInt8 then
      match hexByte high low with
      | some byte => byte :: urlDecode rest
      | none => ch :: urlDecode (high :: low :: rest)
    else ch :: urlDecode (high :: low :: rest)
  -- less than two characters follow
  | ch :: rest => (if ch = '+'.toUInt8 then ' '.toUInt8 else ch) :: urlDecode rest

/-- One piece of the text, `key=value` or a key alone. An empty piece says nothing. -/
def readItem (params : QueryParams) (item : ByteString) : QueryParams :=
  if item = [] then params
  else
    let key := urlDecode (item.takeWhile (· ≠ '='.toUInt8))
    let value := match item.dropWhile (· ≠ '='.toUInt8) with
      | [] => []
      | _ :: value => urlDecode value
    params.insert key value

/-- The loop of `ParseQueryParams`, on what follows `start`. -/
def parseQueryParamsFrom (params : QueryParams) (text : ByteString) : QueryParams :=
  let params := readItem params (text.takeWhile (· ≠ '&'.toUInt8))
  match _hrest : text.dropWhile (· ≠ '&'.toUInt8) with
  | [] => params
  | _ :: rest => parseQueryParamsFrom params rest
termination_by text.length
decreasing_by
  have hle := (List.dropWhile_suffix (· ≠ '&'.toUInt8) (l := text)).length_le
  rw [_hrest, List.length_cons] at hle
  omega

/-- `ParseQueryParams`. -/
def parseQueryParams (query : ByteString) : QueryParams := parseQueryParamsFrom ∅ query

/-! ## Writing -/

/-- The bytes that stand for themselves. -/
def isFormLiteral (byte : UInt8) : Bool :=
  decide ('a'.toUInt8 ≤ byte ∧ byte ≤ 'z'.toUInt8) || decide ('A'.toUInt8 ≤ byte ∧ byte ≤ 'Z'.toUInt8) ||
    decide ('0'.toUInt8 ≤ byte ∧ byte ≤ '9'.toUInt8) || byte == '*'.toUInt8 || byte == '-'.toUInt8 ||
    byte == '.'.toUInt8 || byte == '_'.toUInt8

def hexDigit (n : UInt8) : UInt8 := if n < 10 then '0'.toUInt8 + n else 'A'.toUInt8 + (n - 10)

def formEncodeByte (byte : UInt8) : ByteString :=
  if isFormLiteral byte then [byte]
  else if byte = ' '.toUInt8 then ['+'.toUInt8]
  else ['%'.toUInt8, hexDigit (byte / 16), hexDigit (byte % 16)]

/-- The form encoding of a key or a value. -/
def formEncode (text : ByteString) : ByteString := text.flatMap formEncodeByte

def formItem (pair : ByteString × ByteString) : ByteString :=
  formEncode pair.1 ++ '='.toUInt8 :: formEncode pair.2

/-- `URLSearchParams.toString`. -/
def formText (pairs : List (ByteString × ByteString)) : ByteString :=
  ['&'.toUInt8].intercalate (pairs.map formItem)

/-! ## Decoding what was encoded -/

/-- A property of every byte. -/
theorem forall_byte {P : UInt8 → Prop} (h : ∀ n : Fin 256, P (UInt8.ofNat n)) (byte : UInt8) :
    P byte := by
  have hbyte := h ⟨byte.toNat, byte.toNat_lt⟩
  rwa [UInt8.ofNat_toNat] at hbyte

theorem isFormLiteral_ne {byte : UInt8} (h : isFormLiteral byte = true) :
    byte ≠ '+'.toUInt8 ∧ byte ≠ '%'.toUInt8 := by
  revert h
  exact forall_byte (P := fun byte => isFormLiteral byte = true →
    byte ≠ '+'.toUInt8 ∧ byte ≠ '%'.toUInt8) (by decide +kernel) byte

/-- The two digits of a byte write it. -/
theorem hexByte_hexDigit (byte : UInt8) :
    hexByte (hexDigit (byte / 16)) (hexDigit (byte % 16)) = some byte :=
  forall_byte (P := fun byte => hexByte (hexDigit (byte / 16)) (hexDigit (byte % 16)) = some byte)
    (by decide +kernel) byte

/-- No separator stands in an encoded byte. -/
theorem formEncodeByte_ne (byte : UInt8) :
    '&'.toUInt8 ∉ formEncodeByte byte ∧ '='.toUInt8 ∉ formEncodeByte byte :=
  forall_byte (P := fun byte => '&'.toUInt8 ∉ formEncodeByte byte ∧ '='.toUInt8 ∉ formEncodeByte byte)
    (by decide +kernel) byte

/-- A character that is neither `+` nor `%` is kept. -/
theorem urlDecode_cons {ch : UInt8} (hplus : ch ≠ '+'.toUInt8) (hpercent : ch ≠ '%'.toUInt8)
    (rest : ByteString) : urlDecode (ch :: rest) = ch :: urlDecode rest := by
  match rest with
  | [] => simp [urlDecode, hplus]
  | [_] => simp [urlDecode, hplus]
  | _ :: _ :: _ => rw [urlDecode, if_neg hplus, if_neg hpercent]

theorem urlDecode_plus (rest : ByteString) :
    urlDecode ('+'.toUInt8 :: rest) = ' '.toUInt8 :: urlDecode rest := by
  match rest with
  | [] => rfl
  | [_] => rfl
  | _ :: _ :: _ => rw [urlDecode, if_pos rfl]

theorem urlDecode_escape {high low byte : UInt8} (h : hexByte high low = some byte)
    (rest : ByteString) :
    urlDecode ('%'.toUInt8 :: high :: low :: rest) = byte :: urlDecode rest := by
  rw [urlDecode, if_neg (by decide), if_pos rfl, h]

/-- **An encoded byte is decoded by itself**, whatever follows. -/
theorem urlDecode_formEncodeByte (byte : UInt8) (rest : ByteString) :
    urlDecode (formEncodeByte byte ++ rest) = byte :: urlDecode rest := by
  unfold formEncodeByte
  split
  · next hliteral =>
    obtain ⟨hplus, hpercent⟩ := isFormLiteral_ne hliteral
    exact urlDecode_cons hplus hpercent rest
  · split
    · next hspace =>
      rw [hspace]
      exact urlDecode_plus rest
    · exact urlDecode_escape (hexByte_hexDigit byte) rest

theorem urlDecode_formEncode (text : ByteString) : urlDecode (formEncode text) = text := by
  induction text with
  | nil => rfl
  | cons byte text ih =>
    rw [formEncode, List.flatMap_cons, urlDecode_formEncodeByte]
    exact congrArg _ ih

theorem not_mem_formEncode (text : ByteString) :
    '&'.toUInt8 ∉ formEncode text ∧ '='.toUInt8 ∉ formEncode text := by
  constructor
  · intro hmem
    obtain ⟨byte, -, hbyte⟩ := List.mem_flatMap.mp hmem
    exact (formEncodeByte_ne byte).1 hbyte
  · intro hmem
    obtain ⟨byte, -, hbyte⟩ := List.mem_flatMap.mp hmem
    exact (formEncodeByte_ne byte).2 hbyte

/-! ## Taking a text apart -/

theorem readItem_pair {key : ByteString} (h : '='.toUInt8 ∉ key) (params : QueryParams)
    (value : ByteString) :
    readItem params (key ++ '='.toUInt8 :: value) = params.insert (urlDecode key) (urlDecode value) := by
  rw [readItem, if_neg (by simp), takeWhile_ne_append h, dropWhile_ne_append h]

theorem readItem_key {key : ByteString} (h : '='.toUInt8 ∉ key) (hkey : key ≠ [])
    (params : QueryParams) : readItem params key = params.insert (urlDecode key) [] := by
  rw [readItem, if_neg hkey, takeWhile_ne_of_not_mem h, dropWhile_ne_of_not_mem h]

/-- A text up to its first separator. -/
theorem parseQueryParamsFrom_append {item : ByteString} (h : '&'.toUInt8 ∉ item)
    (params : QueryParams) (rest : ByteString) :
    parseQueryParamsFrom params (item ++ '&'.toUInt8 :: rest) =
      parseQueryParamsFrom (readItem params item) rest := by
  rw [parseQueryParamsFrom, takeWhile_ne_append h]
  split
  · next hnil =>
    rw [dropWhile_ne_append h] at hnil
    cases hnil
  · next hcons =>
    rw [dropWhile_ne_append h] at hcons
    cases hcons
    rfl

/-- A text without a separator is one piece. -/
theorem parseQueryParamsFrom_single {item : ByteString} (h : '&'.toUInt8 ∉ item)
    (params : QueryParams) : parseQueryParamsFrom params item = readItem params item := by
  rw [parseQueryParamsFrom, takeWhile_ne_of_not_mem h]
  split
  · rfl
  · next hcons =>
    rw [dropWhile_ne_of_not_mem h] at hcons
    cases hcons

theorem readItem_formItem (params : QueryParams) (pair : ByteString × ByteString) :
    readItem params (formItem pair) = params.insert pair.1 pair.2 := by
  rw [formItem, readItem_pair (not_mem_formEncode pair.1).2, urlDecode_formEncode,
    urlDecode_formEncode]

theorem not_mem_formItem (pair : ByteString × ByteString) : '&'.toUInt8 ∉ formItem pair := by
  rw [formItem, List.mem_append, List.mem_cons, not_or, not_or]
  exact ⟨(not_mem_formEncode pair.1).1, by decide, (not_mem_formEncode pair.2).1⟩

/-- What was joined is read pair by pair. -/
theorem parseQueryParamsFrom_formText (params : QueryParams)
    (pairs : List (ByteString × ByteString)) :
    parseQueryParamsFrom params (formText pairs) =
      pairs.foldl (fun params pair => params.insert pair.1 pair.2) params := by
  induction pairs generalizing params with
  | nil => exact parseQueryParamsFrom_single List.not_mem_nil params
  | cons pair pairs ih =>
    rw [List.foldl_cons, ← readItem_formItem]
    cases pairs with
    | nil =>
      have htext : formText [pair] = formItem pair := by simp [formText]
      rw [htext, parseQueryParamsFrom_single (not_mem_formItem pair)]
      rfl
    | cons next pairs =>
      have htext : formText (pair :: next :: pairs) =
          formItem pair ++ '&'.toUInt8 :: formText (next :: pairs) := by
        simp [formText, List.intercalate_cons_cons]
      rw [htext, parseQueryParamsFrom_append (not_mem_formItem pair), ih]

theorem resourceQuery_append {path : ByteString} (h : resourcePath path = path)
    (query : ByteString) : resourceQuery (path ++ '?'.toUInt8 :: query) = query := by
  have hpath : '?'.toUInt8 ∉ path := by
    intro hmem
    rw [resourcePath, List.takeWhile_eq_self_iff] at h
    simpa using h _ hmem
  rw [resourceQuery, dropWhile_ne_append hpath]

/-- **What the page asks for is what the server reads**, in whatever order the pairs are joined. -/
theorem parseQueryParams_formText {path : ByteString} {params : QueryParams}
    {pairs : List (ByteString × ByteString)} (hpath : resourcePath path = path)
    (hpairs : pairs.Perm params.toList) :
    parseQueryParams (resourceQuery (path ++ '?'.toUInt8 :: formText pairs)) = params := by
  rw [resourceQuery_append hpath, parseQueryParams, parseQueryParamsFrom_formText]
  exact OrdMap.foldl_insert_of_perm hpairs

/-! ## Malformed escapes -/

/-- The text begins with two hexadecimal digits. -/
def completesEscape : ByteString → Bool
  | high :: low :: _ => (hexByte high low).isSome
  | _ => false

/-- A `%` that begins no escape is kept. -/
theorem urlDecode_percent {rest : ByteString} (h : completesEscape rest = false) :
    urlDecode ('%'.toUInt8 :: rest) = '%'.toUInt8 :: urlDecode rest := by
  match rest with
  | [] => rfl
  | [_] => rfl
  | high :: low :: rest =>
    have hnone : hexByte high low = none := Option.isSome_eq_false_iff.mp h |> Option.isNone_iff_eq_none.mp
    rw [urlDecode, if_neg (by decide), if_pos rfl, hnone]

theorem hexByte_percent (ch : UInt8) :
    hexByte '%'.toUInt8 ch = none ∧ hexByte ch '%'.toUInt8 = none :=
  forall_byte (P := fun ch => hexByte '%'.toUInt8 ch = none ∧ hexByte ch '%'.toUInt8 = none)
    (by decide +kernel) ch

/-- A `%` completes no escape. -/
theorem completesEscape_percent (text rest : ByteString) (h : text.length < 2) :
    completesEscape (text ++ '%'.toUInt8 :: rest) = false := by
  match text with
  | [] =>
    cases rest with
    | nil => rfl
    | cons ch rest =>
      rw [List.nil_append, completesEscape, (hexByte_percent ch).1]
      rfl
  | [ch] =>
    rw [List.cons_append, List.nil_append, completesEscape, (hexByte_percent ch).2]
    rfl
  | _ :: _ :: _ =>
    simp only [List.length_cons] at h
    omega

/-- No escape reaches across a `%`. -/
theorem urlDecode_append_percent (text rest : ByteString) :
    urlDecode (text ++ '%'.toUInt8 :: rest) = urlDecode text ++ urlDecode ('%'.toUInt8 :: rest) := by
  fun_induction urlDecode text with
  | case1 => rfl
  | case2 high low text ih =>
    rw [List.cons_append, urlDecode_plus, ih]
    rfl
  | case3 high low text byte hbyte _ ih =>
    rw [List.cons_append, List.cons_append, List.cons_append, urlDecode_escape hbyte, ih]
    rfl
  | case4 high low text hnone _ ih =>
    have hmalformed : completesEscape (high :: low :: text ++ '%'.toUInt8 :: rest) = false := by
      rw [List.cons_append, List.cons_append, completesEscape, hnone]
      rfl
    rw [List.cons_append, urlDecode_percent hmalformed, ih]
    rfl
  | case5 ch high low text hplus hpercent ih =>
    rw [List.cons_append, urlDecode_cons hplus hpercent, ih]
    rfl
  | case6 ch text hshort ih =>
    have hlength : text.length < 2 := by
      match text with
      | [] => simp
      | [_] => simp
      | _ :: _ :: _ => exact absurd rfl (hshort _ _ _)
    rw [List.cons_append, List.cons_append, ← ih]
    by_cases hplus : ch = '+'.toUInt8
    · rw [if_pos hplus, hplus, urlDecode_plus]
    · rw [if_neg hplus]
      by_cases hpercent : ch = '%'.toUInt8
      · rw [hpercent, urlDecode_percent (completesEscape_percent text rest hlength)]
      · rw [urlDecode_cons hplus hpercent]

/-- **A `%` that begins no escape is kept**, and so is all that follows. -/
theorem urlDecode_malformed (text : ByteString) {rest : ByteString}
    (h : completesEscape rest = false) :
    urlDecode (text ++ '%'.toUInt8 :: rest) = urlDecode text ++ '%'.toUInt8 :: urlDecode rest := by
  rw [urlDecode_append_percent, urlDecode_percent h]

/-- `%25`, the escape of `%`. -/
def escapedPercent : ByteString := ['%'.toUInt8, '2'.toUInt8, '5'.toUInt8]

theorem urlDecode_escapedPercent (text rest : ByteString) :
    urlDecode (text ++ escapedPercent ++ rest) = urlDecode text ++ '%'.toUInt8 :: urlDecode rest := by
  rw [List.append_assoc]
  show urlDecode (text ++ '%'.toUInt8 :: '2'.toUInt8 :: '5'.toUInt8 :: rest) = _
  rw [urlDecode_append_percent, @urlDecode_escape _ _ '%'.toUInt8 (by decide)]

theorem completesEscape_of_append {text rest : ByteString}
    (h : completesEscape (text ++ rest) = false) : completesEscape text = false := by
  match text with
  | [] => rfl
  | [_] => rfl
  | _ :: _ :: _ => exact h

/-- In a piece, a `%` that begins no escape is read like its escape. -/
theorem readItem_malformed (params : QueryParams) (text : ByteString) {rest : ByteString}
    (h : completesEscape rest = false) :
    readItem params (text ++ '%'.toUInt8 :: rest) =
      readItem params (text ++ escapedPercent ++ rest) := by
  by_cases htext : '='.toUInt8 ∈ text
  · -- the `%` is in the value
    obtain ⟨key, value, rfl, hkey⟩ := List.eq_append_cons_of_mem htext
    simp only [List.append_assoc, List.cons_append]
    rw [readItem_pair hkey, readItem_pair hkey, urlDecode_malformed value h, ← List.append_assoc,
      urlDecode_escapedPercent]
  · by_cases hrest : '='.toUInt8 ∈ rest
    · -- the `%` is in the key, and a value follows
      obtain ⟨key, value, rfl, hkey⟩ := List.eq_append_cons_of_mem hrest
      have hkeys : '='.toUInt8 ∉ text ++ '%'.toUInt8 :: key ∧
          '='.toUInt8 ∉ text ++ escapedPercent ++ key := by
        simp only [List.mem_append, List.mem_cons, escapedPercent, List.not_mem_nil, htext, hkey]
        decide
      have hitem : text ++ '%'.toUInt8 :: (key ++ '='.toUInt8 :: value) =
          (text ++ '%'.toUInt8 :: key) ++ '='.toUInt8 :: value := by simp
      rw [hitem, ← List.append_assoc, readItem_pair hkeys.1, readItem_pair hkeys.2,
        urlDecode_malformed text (completesEscape_of_append h), urlDecode_escapedPercent]
    · have hkeys : '='.toUInt8 ∉ text ++ '%'.toUInt8 :: rest ∧
          '='.toUInt8 ∉ text ++ escapedPercent ++ rest := by
        simp only [List.mem_append, List.mem_cons, escapedPercent, List.not_mem_nil, htext, hrest]
        decide
      rw [readItem_key hkeys.1 (by simp), readItem_key hkeys.2 (by simp [escapedPercent]),
        urlDecode_malformed text h, urlDecode_escapedPercent]

/-- In a text, a `%` that begins no escape is read like its escape. -/
theorem parseQueryParamsFrom_malformed (params : QueryParams) (text : ByteString)
    {rest : ByteString} (h : completesEscape rest = false) :
    parseQueryParamsFrom params (text ++ '%'.toUInt8 :: rest) =
      parseQueryParamsFrom params (text ++ escapedPercent ++ rest) := by
  induction hlength : text.length using Nat.strong_induction_on generalizing params text with
  | _ n ih =>
    by_cases htext : '&'.toUInt8 ∈ text
    · obtain ⟨item, text, rfl, hitem⟩ := List.eq_append_cons_of_mem htext
      simp only [List.append_assoc, List.cons_append]
      rw [parseQueryParamsFrom_append hitem, parseQueryParamsFrom_append hitem, ← List.append_assoc]
      refine ih text.length ?_ _ _ rfl
      rw [← hlength, List.length_append, List.length_cons]
      omega
    · by_cases hrest : '&'.toUInt8 ∈ rest
      · obtain ⟨item, rest, rfl, hitem⟩ := List.eq_append_cons_of_mem hrest
        have hitems : '&'.toUInt8 ∉ text ++ '%'.toUInt8 :: item ∧
            '&'.toUInt8 ∉ text ++ escapedPercent ++ item := by
          simp only [List.mem_append, List.mem_cons, escapedPercent, List.not_mem_nil, htext, hitem]
          decide
        have htext' : text ++ '%'.toUInt8 :: (item ++ '&'.toUInt8 :: rest) =
            (text ++ '%'.toUInt8 :: item) ++ '&'.toUInt8 :: rest := by simp
        rw [htext', ← List.append_assoc, parseQueryParamsFrom_append hitems.1,
          parseQueryParamsFrom_append hitems.2, readItem_malformed _ _ (completesEscape_of_append h)]
      · have hitems : '&'.toUInt8 ∉ text ++ '%'.toUInt8 :: rest ∧
            '&'.toUInt8 ∉ text ++ escapedPercent ++ rest := by
          simp only [List.mem_append, List.mem_cons, escapedPercent, List.not_mem_nil, htext, hrest]
          decide
        rw [parseQueryParamsFrom_single hitems.1, parseQueryParamsFrom_single hitems.2,
          readItem_malformed _ _ h]

/-! ## Both together -/

/-- **The parameters survive the encoding of the browser**, and a `%` that begins no escape survives
without it. -/
theorem query_params_survive :
    (∀ (path : ByteString) (params : QueryParams) (pairs : List (ByteString × ByteString)),
      resourcePath path = path → pairs.Perm params.toList →
        parseQueryParams (resourceQuery (path ++ '?'.toUInt8 :: formText pairs)) = params) ∧
    ∀ text rest : ByteString, completesEscape rest = false →
      urlDecode (text ++ '%'.toUInt8 :: rest) = urlDecode text ++ '%'.toUInt8 :: urlDecode rest ∧
      parseQueryParams (text ++ '%'.toUInt8 :: rest) =
        parseQueryParams (text ++ escapedPercent ++ rest) := by
  constructor
  · intro path params pairs hpath hpairs
    exact parseQueryParams_formText hpath hpairs
  · intro text rest hmalformed
    exact ⟨urlDecode_malformed text hmalformed, parseQueryParamsFrom_malformed ∅ text hmalformed⟩

/-- An empty pair, and a value with separators in it, joined against the order of the map; and a `%` at
the end of a text. -/
theorem query_params_survive_separators :
    parseQueryParams (resourceQuery (utf8Bytes "/api/admin/overview" ++ '?'.toUInt8 ::
      formText [(utf8Bytes "device_search", utf8Bytes "a&b=c d%"), ([], [])])) =
      ((∅ : QueryParams).insert [] []).insert (utf8Bytes "device_search") (utf8Bytes "a&b=c d%") ∧
    parseQueryParams (utf8Bytes "q=100%") = parseQueryParams (utf8Bytes "q=100%25") :=
  ⟨query_params_survive.1 (utf8Bytes "/api/admin/overview") _ _ (by decide +kernel)
      (by decide +kernel),
    (query_params_survive.2 (utf8Bytes "q=100") [] (by decide)).2⟩

end CrossDesk
