import CrossDesk.AdminController.Overview
import CrossDesk.DeviceDbManager.Listing
import CrossDesk.DeviceDbManager.PresenceTotals

/-!
# Pages of the overview

An offset comes as decimal digits and is refused when it does not fit into a `size_t`
(`parseSize_eq_some_iff`). What is accepted is handed to the database as a signed number. Up to
`2 ^ 63` the page begins where it was asked to; from there on the number is negative, and the page
begins at the start (`paging_drop_take_iff`). The walk over the rooms counts in `size_t` and has no such
limit.
-/

namespace CrossDesk

/-! ## Sizes -/

theorem le_ofDigitChars (l : List Char) (init : Nat) : init ≤ Nat.ofDigitChars 10 l init := by
  rw [Nat.ofDigitChars_eq_ofDigitChars_zero]
  have hpower := Nat.mul_le_mul_right init (Nat.one_le_pow l.length 10 (by decide))
  omega

theorem parseSizeFrom_eq_some_iff {parsed n : Nat} {l : List Char} (hparsed : parsed < 2 ^ 64) :
    parseSizeFrom parsed l = some n ↔
      (∀ c ∈ l, c.isDigit = true) ∧ Nat.ofDigitChars 10 l parsed = n ∧ n < 2 ^ 64 := by
  induction l generalizing parsed with
  | nil =>
    rw [parseSizeFrom, Option.some.injEq, Nat.ofDigitChars_nil]
    constructor
    · rintro rfl
      exact ⟨fun c hc => absurd hc List.not_mem_nil, rfl, hparsed⟩
    · exact fun h => h.2.1
  | cons ch rest ih =>
    rw [parseSizeFrom, Nat.ofDigitChars_cons, List.forall_mem_cons]
    cases hdigit : ch.isDigit with
    | false => simp
    | true =>
      have hnine : ch.toNat - '0'.toNat ≤ 9 := by
        have hrange := Char.isDigit_iff_toNat.mp hdigit
        have hzero : '0'.toNat = 48 := rfl
        have hlast : '9'.toNat = 57 := rfl
        omega
      generalize ch.toNat - '0'.toNat = digit at hnine ⊢
      dsimp only
      rw [if_neg (by decide), Nat.mul_comm 10 parsed]
      by_cases hover : (2 ^ 64 - 1 - digit) / 10 < parsed
      · rw [if_pos hover]
        constructor
        · exact fun h => absurd h (by simp)
        · -- what is read further on only makes the number larger
          rintro ⟨-, hvalue, hn⟩
          have hlarge := le_ofDigitChars rest (parsed * 10 + digit)
          omega
      · rw [if_neg hover, ih (by omega)]
        simp

/-- **What `ParseSize` accepts**: decimal digits, when the number fits. -/
theorem parseSize_eq_some_iff {value : String} {n : Nat} :
    parseSize value = some n ↔ value ≠ "" ∧ (∀ c ∈ value.toList, c.isDigit = true) ∧
      Nat.ofDigitChars 10 value.toList 0 = n ∧ n < 2 ^ 64 := by
  unfold parseSize
  by_cases hempty : value = ""
  · simp [hempty]
  · rw [if_neg hempty, parseSizeFrom_eq_some_iff (by decide)]
    exact (and_iff_right hempty).symm

/-- Every number that fits can be asked for. -/
theorem parseSize_repr {n : Nat} (hn : n < 2 ^ 64) : parseSize (Nat.repr n) = some n := by
  rw [parseSize_eq_some_iff, Nat.repr_eq_ofList_toDigits, String.toList_ofList]
  refine ⟨fun hempty => ?_, ?_, Nat.ofDigitChars_ten_toDigits, hn⟩
  · have hnil := congrArg String.toList hempty
    rw [String.toList_ofList] at hnil
    exact Nat.toDigits_ne_nil hnil
  · exact fun c hc => Nat.isDigit_of_mem_toDigits (by decide) (by decide) hc

/-! ## Orders -/

namespace DeviceDbManager

theorem OrderTerm.transCmp (term : OrderTerm) :
    Std.TransCmp (fun a b => OrderTerm.compare a b term) := by
  have hexpression : ∀ expression : SortExpression,
      Std.TransCmp (fun a b => SortExpression.compare a b expression) := by
    intro expression
    cases expression with
    | online =>
      exact inferInstanceAs (Std.TransCmp
        (compareOn (fun d : OnlineDeviceInfo => d.online.toNat)))
    | updatedAt => exact inferInstanceAs (Std.TransCmp (compareOn OnlineDeviceInfo.updatedAt))
    | deviceId => exact inferInstanceAs (Std.TransCmp (compareOn OnlineDeviceInfo.deviceId))
    | onlineSince => exact inferInstanceAs (Std.TransCmp (compareOn OnlineDeviceInfo.onlineSince))
    | onlineDurationSeconds =>
      exact inferInstanceAs (Std.TransCmp (compareOn OnlineDeviceInfo.onlineDurationSeconds))
    | activeControlCount =>
      exact inferInstanceAs (Std.TransCmp (compareOn OnlineDeviceInfo.activeControlCount))
  have hforward := hexpression term.expression
  unfold OrderTerm.compare
  cases term.ascending with
  | true => exact hforward
  | false =>
    exact @Std.TransCmp.opposite _ (fun a b => SortExpression.compare a b term.expression) hforward

theorem orderBy_transCmp (terms : List OrderTerm) : Std.TransCmp (orderBy terms) := by
  induction terms with
  | nil => exact { eq_swap := rfl, isLE_trans := fun _ _ => rfl }
  | cons term terms ih =>
    have hterm := term.transCmp
    exact inferInstanceAs (Std.TransCmp
      (compareLex (fun a b => OrderTerm.compare a b term) (orderBy terms)))

/-- The devices are sorted. -/
theorem foundDevices_sorted (now : Int)
    (search filter sort order kind platform version : String) (db : DeviceDbManager) :
    (db.foundDevices now search filter sort order kind platform version).Pairwise
      (fun a b => (orderBy (devicePresenceSortClause sort order) a b).isLE = true) := by
  have htrans := orderBy_transCmp (devicePresenceSortClause sort order)
  refine List.pairwise_mergeSort (fun a b c => Std.TransCmp.isLE_trans) (fun a b => ?_) _
  rw [Bool.or_eq_true]
  cases hcompare : orderBy (devicePresenceSortClause sort order) a b with
  | lt => exact .inl rfl
  | eq => exact .inl rfl
  | gt =>
    right
    have hswap : orderBy (devicePresenceSortClause sort order) b a =
        (orderBy (devicePresenceSortClause sort order) a b).swap := Std.OrientedCmp.eq_swap
    rw [hswap, hcompare]
    rfl

/-- The sessions are sorted. -/
theorem foundSessions_sorted (search : String) (db : DeviceDbManager) :
    (db.foundSessions search).Pairwise (fun a b => laterSession a b = true) := by
  refine List.pairwise_mergeSort (fun a b c hab hbc => ?_) (fun a b => ?_) _
  · simp only [laterSession, Bool.or_eq_true, Bool.and_eq_true, decide_eq_true_eq,
      beq_iff_eq] at hab hbc ⊢
    rcases hab with hab | ⟨hab, hab'⟩
    · rcases hbc with hbc | ⟨hbc, -⟩
      · exact .inl (hbc.trans hab)
      · exact .inl (hbc ▸ hab)
    · rcases hbc with hbc | ⟨hbc, hbc'⟩
      · exact .inl (hab.symm ▸ hbc)
      · exact .inr ⟨hab.trans hbc, hab'.trans hbc'⟩
  · simp only [laterSession, Bool.or_eq_true, Bool.and_eq_true, decide_eq_true_eq, beq_iff_eq]
    rcases lt_trichotomy a.startedAt b.startedAt with hlt | heq | hgt
    · exact .inr (.inl hlt)
    · rcases le_total a.transmissionId b.transmissionId with hle | hle
      · exact .inl (.inr ⟨heq, hle⟩)
      · exact .inr (.inr ⟨heq.symm, hle⟩)
    · exact .inl (.inl hgt)

/-- No device is listed twice. -/
theorem foundDevices_nodup (now : Int)
    (search filter sort order kind platform version : String) (db : DeviceDbManager) :
    (db.foundDevices now search filter sort order kind platform version).Nodup := by
  rw [(foundDevices_perm now search filter sort order kind platform version db).nodup_iff]
  refine List.Nodup.map_on (fun p hp p' hp' hsame => ?_) ((OrdMap.nodup_toList _).filter _)
  exact onlineDeviceInfo_inj (mem_presenceWhere.mp hp).2 (mem_presenceWhere.mp hp').2 hsame

theorem foundSessions_perm (search : String) (db : DeviceDbManager) :
    (db.foundSessions search).Perm
      (((db.searched search).map roomOf).dedup.map (groupOf (db.searched search))) :=
  List.mergeSort_perm _ _

/-- No session is listed twice. -/
theorem foundSessions_nodup (search : String) (db : DeviceDbManager) :
    (db.foundSessions search).Nodup := by
  rw [(foundSessions_perm search db).nodup_iff]
  refine (List.nodup_dedup _).map fun group group' hsame => ?_
  exact Prod.ext (congrArg RemoteControlSessionInfo.transmissionId hsame)
    (congrArg RemoteControlSessionInfo.hostId hsame)

theorem foundDevices_eq_nil_iff {now : Int}
    {search filter sort order kind platform version : String} {db : DeviceDbManager} :
    db.foundDevices now search filter sort order kind platform version = [] ↔
      db.presenceWhere (devicePresenceFilterClause filter kind db) search platform version = [] := by
  rw [← List.perm_nil, (foundDevices_perm now search filter sort order kind platform version
    db).congr_left, List.perm_nil, List.map_eq_nil_iff]

theorem foundSessions_eq_nil_iff {search : String} {db : DeviceDbManager} :
    db.foundSessions search = [] ↔ db.searched search = [] := by
  rw [← List.perm_nil, (foundSessions_perm search db).congr_left, List.perm_nil,
    List.map_eq_nil_iff, List.dedup_eq_nil, List.map_eq_nil_iff]

end DeviceDbManager

/-! ## Pages -/

open DeviceDbManager

/-- The page of the devices is cut from the devices that pass the filters, in the order that was asked
for. -/
structure DevicesPaged (limit offset : Nat) (now : Int)
    (search filter sort order kind platform version : String) (db : DeviceDbManager) : Prop where
  filtered : (db.foundDevices now search filter sort order kind platform version).Perm
    ((db.presenceWhere (devicePresenceFilterClause filter kind db) search platform version).map
      (onlineDeviceInfo now db))
  sorted : (db.foundDevices now search filter sort order kind platform version).Pairwise
    (fun a b => (orderBy (devicePresenceSortClause sort order) a b).isLE = true)
  page : db.listDevicePresence now limit offset search filter sort order kind platform version =
    ((db.foundDevices now search filter sort order kind platform version).drop offset).take limit

/-- The page of the sessions is cut from the sessions that are found, the latest first. -/
structure SessionsPaged (limit offset : Nat) (search : String) (db : DeviceDbManager) : Prop where
  filtered : (db.foundSessions search).Perm
    (((db.searched search).map roomOf).dedup.map (groupOf (db.searched search)))
  sorted : (db.foundSessions search).Pairwise (fun a b => laterSession a b = true)
  page : db.listRemoteControlSessions limit offset search =
    ((db.foundSessions search).drop offset).take limit

theorem devicesPaged_iff {limit offset : Nat} (hlimit : limit < 2 ^ 63) (hsize : offset < 2 ^ 64)
    (now : Int) (search filter sort order kind platform version : String) (db : DeviceDbManager) :
    DevicesPaged limit offset now search filter sort order kind platform version db ↔
      offset < 2 ^ 63 ∨ limit = 0 ∨
        db.presenceWhere (devicePresenceFilterClause filter kind db) search platform version = [] := by
  rw [← foundDevices_eq_nil_iff, ← limitOffset_eq_iff
    (foundDevices_nodup now search filter sort order kind platform version db) hlimit hsize]
  constructor
  · exact fun h => h.page
  · intro h
    exact ⟨foundDevices_perm _ _ _ _ _ _ _ _ _, foundDevices_sorted _ _ _ _ _ _ _ _ _, h⟩

theorem sessionsPaged_iff {limit offset : Nat} (hlimit : limit < 2 ^ 63) (hsize : offset < 2 ^ 64)
    (search : String) (db : DeviceDbManager) : SessionsPaged limit offset search db ↔
      offset < 2 ^ 63 ∨ limit = 0 ∨ db.searched search = [] := by
  rw [← foundSessions_eq_nil_iff, ← limitOffset_eq_iff (foundSessions_nodup search db) hlimit hsize]
  constructor
  · exact fun h => h.page
  · exact fun h => ⟨foundSessions_perm _ _, foundSessions_sorted _ _, h⟩

/-- **A page begins at the offset that was asked for** unless the offset is `2 ^ 63` or more and there
is something to show. The rooms are always cut right. -/
theorem paging_drop_take_iff {text : String} {offset limit : Nat}
    (hoffset : parseSize text = some offset) (hlimit : limit ≤ maxPageLimit) (now : Int)
    (search filter sort order kind platform version : String) (db : DeviceDbManager)
    (activeOnly : Bool) (rooms : Routing) :
    (DevicesPaged limit offset now search filter sort order kind platform version db ↔
      offset < 2 ^ 63 ∨ limit = 0 ∨
        db.presenceWhere (devicePresenceFilterClause filter kind db) search platform version = []) ∧
    (SessionsPaged limit offset search db ↔
      offset < 2 ^ 63 ∨ limit = 0 ∨ db.searched search = []) ∧
    (rooms.getTransmissionSnapshots limit offset search activeOnly).1 =
      ((rooms.matchingSnapshots search activeOnly).drop offset).take limit := by
  have hsize := (parseSize_eq_some_iff.mp hoffset).2.2.2
  have hsmall : limit < 2 ^ 63 := lt_of_le_of_lt hlimit (by decide)
  refine ⟨devicesPaged_iff hsmall hsize _ _ _ _ _ _ _ _ _, sessionsPaged_iff hsmall hsize _ _, ?_⟩
  rw [Routing.getTransmissionSnapshots_eq]

/-- A database with one device that is online. -/
def oneDevice : DeviceDbManager where
  devicePresence := (∅ : OrdMap String PresenceRow).insert "123456789" { online := true }

/-- A database with two devices that are online, one that is not, and a session in each of two rooms. -/
def threeDevices : DeviceDbManager where
  devicePresence := ((oneDevice.devicePresence.insert "234567890" { online := true }).insert
    "345678901" { online := false })
  remoteControlSessions :=
    ((∅ : OrdMap SessionKey SessionRow).insert (sessionKey "123456789" "234567890")
      { hostId := "123456789", startedAt := 7 }).insert (sessionKey "234567890" "345678901")
      { hostId := "234567890", startedAt := 5 }

/-- The two rooms. -/
def twoRooms : Routing where
  transmissionHostIdList := ((∅ : OrdMap String String).insert "123456789" "123456789").insert
    "234567890" "234567890"
  transmissionGuestIdList := ((∅ : OrdMap String (List String)).insert "123456789"
    ["234567890"]).insert "234567890" ["345678901"]

/-- The second page of one entry each. -/
theorem paging_drop_take_iff_one_device :
    DevicesPaged 1 1 9 "" "online" "status" "desc" "all" "" "" threeDevices ∧
    (threeDevices.presenceWhere (devicePresenceFilterClause "online" "all" threeDevices) "" "" "").map
      Prod.fst = ["123456789", "234567890"] ∧
    SessionsPaged 1 1 "" threeDevices ∧
    (threeDevices.searched "").map roomOf =
      [("123456789", "123456789"), ("234567890", "234567890")] ∧
    (twoRooms.getTransmissionSnapshots 1 1 "" true).1 =
      ((twoRooms.matchingSnapshots "" true).drop 1).take 1 ∧
    (twoRooms.matchingSnapshots "" true).map TransmissionSnapshot.transmissionId =
      ["123456789", "234567890"] := by
  have hoffset : parseSize "1" = some 1 := parseSize_repr (by decide : 1 < 2 ^ 64)
  obtain ⟨hdevices, hsessions, hrooms⟩ := paging_drop_take_iff hoffset (by decide : 1 ≤ maxPageLimit)
    9 "" "online" "status" "desc" "all" "" "" threeDevices true twoRooms
  exact ⟨hdevices.mpr (.inl (by decide)), by decide +kernel, hsessions.mpr (.inl (by decide)),
    by decide +kernel, hrooms, by decide +kernel⟩

/-- Behind the last page the only device is shown again. -/
theorem devices_page_wraps : parseSize "9223372036854775808" = some (2 ^ 63) ∧
    (oneDevice.listDevicePresence 0 50 (2 ^ 63) "" "online" "status" "desc" "pc" "" "").map
      OnlineDeviceInfo.deviceId = ["123456789"] ∧
    ¬ DevicesPaged 50 (2 ^ 63) 0 "" "online" "status" "desc" "pc" "" "" oneDevice := by
  refine ⟨by decide +kernel, by decide +kernel, ?_⟩
  rw [devicesPaged_iff (by decide) (by decide)]
  decide +kernel

end CrossDesk
