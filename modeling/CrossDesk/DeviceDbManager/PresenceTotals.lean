import CrossDesk.DeviceDbManager.PresenceList

/-!
# Totals and lists of devices

The number of the devices that are listed is counted in two ways, and both clauses are those of the
list. The kinds are told apart by how an id begins, and no id begins in two ways (`like_unique`), so a
device that is listed is of one kind (`exists_unique_kind`).

`COUNT(*)` is read as a 32-bit number where the sums are read as 64-bit ones. That is the only
difference, and it makes one for `2 ^ 31` devices or more.
-/

namespace CrossDesk.DeviceDbManager

/-! ## Clauses -/

/-- An id that begins with one of two heads does not begin with the other one, where neither head
begins with the other. -/
theorem like_unique {text head head' : String} (h : like text head = true)
    (hneither : (asciiLower head).isPrefixOf (asciiLower head') = false)
    (hneither' : (asciiLower head').isPrefixOf (asciiLower head) = false) :
    like text head' = false := by
  rw [Bool.eq_false_iff] at hneither hneither' ⊢
  intro h'
  unfold like at h h'
  rw [ne_eq, List.isPrefixOf_iff_prefix] at hneither hneither'
  rw [List.isPrefixOf_iff_prefix] at h h'
  rcases List.prefix_or_prefix_of_prefix h h' with hp | hp
  · exact hneither hp
  · exact hneither' hp

theorem like_web {text : String} (h : like text "web-" = true) :
    like text "cli-" = false ∧ like text "C-" = false :=
  ⟨like_unique h (by decide) (by decide), like_unique h (by decide) (by decide)⟩

theorem like_cli {text : String} (h : like text "cli-" = true) :
    like text "web-" = false ∧ like text "C-" = false :=
  ⟨like_unique h (by decide) (by decide), like_unique h (by decide) (by decide)⟩

/-! ## Sums of conditions -/

/-- A condition as a number. -/
def indicator (b : Bool) : Int := if b then 1 else 0

/-- The sum of a condition counts where it holds. -/
theorem sum_indicator {α : Type} (f : α → Bool) (l : List α) :
    (l.map (fun a => indicator (f a))).sum = (l.filter f).length := by
  induction l with
  | nil => rfl
  | cons a l ih =>
    rw [List.map_cons, List.sum_cons, ih, List.filter_cons]
    cases f a with
    | true =>
      rw [if_pos rfl, List.length_cons]
      exact Int.add_comm 1 _
    | false => exact Int.zero_add _

/-- A condition that sums up to one holds of one element. -/
theorem exists_unique_of_sum {α : Type} {f : α → Bool} {l : List α}
    (h : (l.map (fun a => indicator (f a))).sum = 1) : ∃! a, a ∈ l ∧ f a = true := by
  rw [sum_indicator] at h
  obtain ⟨a, ha⟩ := List.length_eq_one_iff.mp (show (l.filter f).length = 1 by omega)
  have hmem : ∀ b, b ∈ l ∧ f b = true ↔ b = a := by
    intro b
    rw [← List.mem_filter, ha, List.mem_singleton]
  exact ⟨a, (hmem a).mpr rfl, fun b hb => (hmem b).mp hb⟩

/-! ## Kinds -/

/-- The kinds that devices are told apart by. -/
def deviceKinds : List String := ["pc", "mobile", "web", "cli"]

/-- A device is of one of the four kinds, or of none. -/
theorem kindClause_all (p : Presence) :
    indicator (devicePresenceKindClause "all" p) =
      indicator (devicePresenceKindClause "pc" p) + indicator (devicePresenceKindClause "mobile" p) +
        indicator (devicePresenceKindClause "web" p) +
        indicator (devicePresenceKindClause "cli" p) := by
  have hall : devicePresenceKindClause "all" p = !like p.1 "C-" := rfl
  have hpc : devicePresenceKindClause "pc" p = (!like p.1 "web-" && !like p.1 "cli-" &&
    !like p.1 "C-" && !isMobilePlatform p.2.clientPlatform) := rfl
  have hmobile : devicePresenceKindClause "mobile" p = (!like p.1 "web-" && !like p.1 "cli-" &&
    !like p.1 "C-" && isMobilePlatform p.2.clientPlatform) := rfl
  have hweb : devicePresenceKindClause "web" p = like p.1 "web-" := rfl
  have hcli : devicePresenceKindClause "cli" p = like p.1 "cli-" := rfl
  rw [hall, hpc, hmobile, hweb, hcli]
  cases hisWeb : like p.1 "web-" with
  | true =>
    rw [(like_web hisWeb).1, (like_web hisWeb).2]
    rfl
  | false =>
    cases hisCli : like p.1 "cli-" with
    | true =>
      rw [(like_cli hisCli).2]
      rfl
    | false => cases like p.1 "C-" <;> cases isMobilePlatform p.2.clientPlatform <;> rfl

/-- Whatever the kind, an alias is not listed. -/
theorem not_alias_of_kindClause {kind : String} {p : Presence}
    (h : devicePresenceKindClause kind p = true) : like p.1 "C-" = false := by
  unfold devicePresenceKindClause at h
  dsimp only at h
  split at h
  · exact (like_web h).2
  · split at h
    · exact (like_cli h).2
    · split at h
      · simpa using h
      · split at h
        · simp_all
        · simp_all

theorem not_alias_of_filterClause {filter kind : String} {db : DeviceDbManager} {p : Presence}
    (h : devicePresenceFilterClause filter kind db p = true) : like p.1 "C-" = false := by
  unfold devicePresenceFilterClause at h
  dsimp only at h
  split at h
  · exact (like_web h).2
  · split at h
    · exact (like_cli h).2
    · rw [Bool.and_eq_true] at h
      exact not_alias_of_kindClause h.1

/-- What passes a filter is of one kind. -/
theorem exists_unique_kind {filter kind : String} {db : DeviceDbManager} {p : Presence}
    (h : devicePresenceFilterClause filter kind db p = true) :
    ∃! k, k ∈ deviceKinds ∧ devicePresenceKindClause k p = true := by
  have hone : indicator (devicePresenceKindClause "pc" p) +
      indicator (devicePresenceKindClause "mobile" p) +
      indicator (devicePresenceKindClause "web" p) +
      indicator (devicePresenceKindClause "cli" p) = 1 := by
    rw [← kindClause_all, show devicePresenceKindClause "all" p = !like p.1 "C-" from rfl,
      not_alias_of_filterClause h]
    rfl
  refine exists_unique_of_sum ?_
  rw [← hone]
  simp only [deviceKinds, List.map_cons, List.map_nil, List.sum_cons, List.sum_nil]
  omega

/-! ## Counts -/

/-- A sum over the rows of the clients and of the search counts those that satisfy the clause. -/
theorem sumWhen_presenceWhere (clause : Presence → Bool) (search platform version : String)
    (db : DeviceDbManager) :
    sumWhen clause (db.presenceWhere (fun _ => true) search platform version) =
      (db.presenceWhere clause search platform version).length := by
  have hsum : sumWhen clause (db.presenceWhere (fun _ => true) search platform version) = _ :=
    sum_indicator clause _
  rw [hsum, presenceWhere, presenceWhere, List.filter_filter]
  simp only [Bool.true_and, Bool.and_assoc]

/-- **The counts for all filters** contain the number of rows that pass a filter. -/
theorem countForDeviceFilter_eq (search filter kind platform version : String)
    (db : DeviceDbManager) :
    countForDeviceFilter (db.countDevicePresenceByFilters search kind platform version) filter =
      (db.presenceWhere (devicePresenceFilterClause filter kind db) search platform
        version).length := by
  rw [← sumWhen_presenceWhere]
  unfold countForDeviceFilter devicePresenceFilterClause countDevicePresenceByFilters
  dsimp only
  by_cases honline : toLower filter = "online"
  · simp [honline]
  · by_cases hoffline : toLower filter = "offline"
    · simp [hoffline]
    · by_cases hactive : toLower filter = "active"
      · simp [hactive]
      · by_cases hweb : toLower filter = "web"
        · simp [hweb]
        · by_cases hcli : toLower filter = "cli"
          · simp [hcli]
          · simp [honline, hoffline, hactive, hweb, hcli]

theorem sumWhen_add {clause clause' clause'' : Presence → Bool}
    (h : ∀ p, indicator (clause p) = indicator (clause' p) + indicator (clause'' p))
    (rows : List Presence) : sumWhen clause rows = sumWhen clause' rows + sumWhen clause'' rows := by
  have hsums : (rows.map (fun p => indicator (clause p))).sum = _ :=
    congrArg List.sum (List.map_congr_left fun p _ => h p)
  exact hsums.trans List.sum_map_add

/-- What is online and what is offline is everything. -/
theorem online_add_offline (search kind platform version : String) (db : DeviceDbManager) :
    let counts := db.countDevicePresenceByFilters search kind platform version
    counts.online + counts.offline = counts.all := by
  refine (sumWhen_add (fun p => ?_) _).symm
  cases devicePresenceKindClause kind p <;> cases p.2.online <;> rfl

/-- The kinds add up to all. -/
theorem kinds_add_up (search platform version : String) (db : DeviceDbManager) :
    let all (kind : String) := (db.countDevicePresenceByFilters search kind platform version).all
    all "all" = all "pc" + all "mobile" + all "web" + all "cli" := by
  let rows := db.presenceWhere (fun _ => true) search platform version
  let sum (kind : String) := (rows.map (fun p => indicator (devicePresenceKindClause kind p))).sum
  show sum "all" = sum "pc" + sum "mobile" + sum "web" + sum "cli"
  have hsums : sum "all" = _ := congrArg List.sum (List.map_congr_left fun p _ => kindClause_all p)
  rw [List.sum_map_add, List.sum_map_add, List.sum_map_add] at hsums
  exact hsums

/-! ## The list -/

theorem foundDevices_perm (now : Int) (search filter sort order kind platform version : String)
    (db : DeviceDbManager) :
    (db.foundDevices now search filter sort order kind platform version).Perm
      ((db.presenceWhere (devicePresenceFilterClause filter kind db) search platform version).map
        (onlineDeviceInfo now db)) :=
  List.mergeSort_perm _ _

/-- The list without a limit. -/
theorem listDevicePresence_unlimited (now : Int)
    (search filter sort order kind platform version : String) (db : DeviceDbManager) :
    db.listDevicePresence now (2 ^ 64 - 1) 0 search filter sort order kind platform version =
      db.foundDevices now search filter sort order kind platform version :=
  limitOffset_unlimited

/-- A device is listed if its row passes. -/
theorem mem_foundDevices {now : Int} {search filter sort order kind platform version : String}
    {db : DeviceDbManager} {device : OnlineDeviceInfo} :
    device ∈ db.foundDevices now search filter sort order kind platform version ↔
      ∃ p ∈ db.presenceWhere (devicePresenceFilterClause filter kind db) search platform version,
        onlineDeviceInfo now db p = device := by
  rw [(foundDevices_perm now search filter sort order kind platform version db).mem_iff,
    List.mem_map]

/-- A row that passes a filter passes none of a kind and all filters that it is not of. -/
theorem mem_presenceWhere {clause : Presence → Bool} {search platform version : String}
    {db : DeviceDbManager} {p : Presence} :
    p ∈ db.presenceWhere clause search platform version ↔
      clause p = true ∧ p ∈ db.presenceWhere (fun _ => true) search platform version := by
  unfold presenceWhere
  simp only [List.mem_filter, Bool.and_eq_true, true_and]
  tauto

theorem filterClause_all (kind : String) (db : DeviceDbManager) (p : Presence) :
    devicePresenceFilterClause "all" kind db p = devicePresenceKindClause kind p :=
  Bool.and_true _

/-- The row of a device is told by its id. -/
theorem onlineDeviceInfo_inj {now : Int} {db : DeviceDbManager} {search platform version : String}
    {p p' : Presence} (hp : p ∈ db.presenceWhere (fun _ => true) search platform version)
    (hp' : p' ∈ db.presenceWhere (fun _ => true) search platform version)
    (h : onlineDeviceInfo now db p = onlineDeviceInfo now db p') : p = p' := by
  have hid : p.1 = p'.1 := congrArg OnlineDeviceInfo.deviceId h
  have hrow := OrdMap.mem_toList.mp (List.mem_of_mem_filter hp)
  have hrow' := OrdMap.mem_toList.mp (List.mem_of_mem_filter hp')
  rw [← hid, hrow] at hrow'
  exact Prod.ext hid (Option.some.inj hrow')

/-- A device that is listed is listed under one kind. -/
theorem listed_of_one_kind {now : Int} {search filter sort order kind platform version : String}
    {db : DeviceDbManager} {device : OnlineDeviceInfo}
    (h : device ∈ db.foundDevices now search filter sort order kind platform version) :
    ∃! k, k ∈ deviceKinds ∧
      device ∈ db.foundDevices now search "all" sort order k platform version := by
  obtain ⟨p, hp, rfl⟩ := mem_foundDevices.mp h
  obtain ⟨hclause, hrow⟩ := mem_presenceWhere.mp hp
  have hlisted : ∀ k : String, onlineDeviceInfo now db p ∈
      db.foundDevices now search "all" sort order k platform version ↔
        devicePresenceKindClause k p = true := by
    intro k
    rw [mem_foundDevices]
    constructor
    · rintro ⟨p', hp', hsame⟩
      obtain ⟨hclause', hrow'⟩ := mem_presenceWhere.mp hp'
      rw [onlineDeviceInfo_inj hrow' hrow hsame, filterClause_all] at hclause'
      exact hclause'
    · intro hkind
      exact ⟨p, mem_presenceWhere.mpr ⟨(filterClause_all k db p).trans hkind, hrow⟩, rfl⟩
  simp only [hlisted]
  exact exists_unique_kind hclause

/-! ## Totals -/

/-- The totals say what the list shows. -/
structure TotalsAgree (now : Int) (search filter sort order kind platform version : String)
    (db : DeviceDbManager) : Prop where
  /-- The count for the filter is the one that is counted alone. -/
  counted : countForDeviceFilter
      (db.countDevicePresenceByFilters search kind platform version) filter =
    db.countDevicePresence search filter kind platform version
  /-- And it is the length of the list without a limit. -/
  listed : db.countDevicePresence search filter kind platform version =
    (db.listDevicePresence now (2 ^ 64 - 1) 0 search filter sort order kind platform version).length
  online_offline : (db.countDevicePresenceByFilters search kind platform version).online +
      (db.countDevicePresenceByFilters search kind platform version).offline =
    (db.countDevicePresenceByFilters search kind platform version).all
  kinds : (db.countDevicePresenceByFilters search "all" platform version).all =
    (db.countDevicePresenceByFilters search "pc" platform version).all +
      (db.countDevicePresenceByFilters search "mobile" platform version).all +
      (db.countDevicePresenceByFilters search "web" platform version).all +
      (db.countDevicePresenceByFilters search "cli" platform version).all
  one_kind : ∀ device ∈ db.listDevicePresence now (2 ^ 64 - 1) 0 search filter sort order kind
    platform version, ∃! k, k ∈ deviceKinds ∧ device ∈
      db.listDevicePresence now (2 ^ 64 - 1) 0 search "all" sort order k platform version

theorem totalsAgree_iff (now : Int) (search filter sort order kind platform version : String)
    (db : DeviceDbManager) :
    TotalsAgree now search filter sort order kind platform version db ↔
      (db.presenceWhere (devicePresenceFilterClause filter kind db) search platform
        version).length < 2 ^ 31 := by
  have hlength : (db.listDevicePresence now (2 ^ 64 - 1) 0 search filter sort order kind platform
      version).length =
      (db.presenceWhere (devicePresenceFilterClause filter kind db) search platform
        version).length := by
    rw [listDevicePresence_unlimited, (foundDevices_perm _ _ _ _ _ _ _ _ _).length_eq, List.length_map]
  have hcount : db.countDevicePresence search filter kind platform version = asInt32
      (db.presenceWhere (devicePresenceFilterClause filter kind db) search platform
        version).length := rfl
  rw [← asInt32_eq_iff, ← hcount]
  constructor
  · intro h
    rw [h.listed, hlength]
  · intro h
    refine ⟨?_, ?_, online_add_offline _ _ _ _ _, kinds_add_up _ _ _ _, ?_⟩
    · rw [countForDeviceFilter_eq, h]
    · rw [h, hlength]
    · intro device hdevice
      simp only [listDevicePresence_unlimited] at hdevice ⊢
      exact listed_of_one_kind hdevice

/-- **The totals agree with the lists** unless the devices are too many for an `int`. -/
theorem presence_totals_agree_iff (now : Int)
    (search filter sort order kind platform version : String) (db : DeviceDbManager) :
    TotalsAgree now search filter sort order kind platform version db ↔
      db.devicePresence.toList.countP (fun p => devicePresenceFilterClause filter kind db p &&
        deviceClientFilterClause platform version p &&
        (search == "" || matchesSearch search p.1)) < 2 ^ 31 := by
  rw [totalsAgree_iff, List.countP_eq_length_filter]
  rfl

/-! ## Too many devices

`GenerateDeviceId` draws from nine hundred million numbers, and an identity of the two temporary kinds
is one of these behind its kind. Together they are more than an `int` holds. -/

/-- How the ids of the three families begin. -/
def crowdHead : Nat → String
  | 0 => ""
  | 1 => "web-"
  | _ => "cli-"

def crowdId (i : Nat) : String := crowdHead (i / 900000000) ++ Nat.repr (100000000 + i % 900000000)

/-- A database in which the first `n` of these identities are online. -/
def crowd (n : Nat) : DeviceDbManager where
  devicePresence := Std.ExtTreeMap.ofList
    ((List.range n).map (fun i => (crowdId i, { online := true : PresenceRow }))) compare

theorem isDigit_of_mem_repr {n : Nat} {c : Char} (hc : c ∈ (Nat.repr n).toList) :
    c.isDigit = true := by
  rw [Nat.repr_eq_ofList_toDigits, String.toList_ofList] at hc
  exact Nat.isDigit_of_mem_toDigits (by decide) (by decide) hc

theorem crowdHead_no_digit (k : Nat) : ∀ c ∈ (crowdHead k).toList, c.isDigit = false := by
  have hall : (crowdHead k).toList.all (fun c => !c.isDigit) = true := by
    unfold crowdHead
    split <;> decide
  intro c hc
  simpa using List.all_eq_true.mp hall c hc

/-- An id is a head and a number: what is not a digit, and what is. -/
theorem crowdId_parts (i : Nat) :
    (crowdId i).toList.filter (fun c => !c.isDigit) = (crowdHead (i / 900000000)).toList ∧
      (crowdId i).toList.filter (fun c => c.isDigit) =
        (Nat.repr (100000000 + i % 900000000)).toList := by
  have hhead := crowdHead_no_digit (i / 900000000)
  have hnumber : ∀ c ∈ (Nat.repr (100000000 + i % 900000000)).toList, c.isDigit = true :=
    fun c hc => isDigit_of_mem_repr hc
  unfold crowdId
  rw [String.toList_append, List.filter_append, List.filter_append]
  constructor
  · rw [List.filter_eq_self.mpr (fun c hc => by rw [hhead c hc]; rfl),
      List.filter_eq_nil_iff.mpr (fun c hc => by simp [hnumber c hc]), List.append_nil]
  · rw [List.filter_eq_nil_iff.mpr (fun c hc => by simp [hhead c hc]),
      List.filter_eq_self.mpr (fun c hc => hnumber c hc), List.nil_append]

theorem crowdId_inj {i j : Nat} (hi : i < 2700000000) (hj : j < 2700000000)
    (h : crowdId i = crowdId j) : i = j := by
  have hheads := (crowdId_parts i).1.symm.trans (h ▸ (crowdId_parts j).1)
  have hnumbers := (crowdId_parts i).2.symm.trans (h ▸ (crowdId_parts j).2)
  have hnumber := Nat.repr_injective (String.toList_inj.mp hnumbers)
  have hfamily : i / 900000000 = j / 900000000 := by
    have hfamilies : ∀ a b : Fin 3, (crowdHead a).toList = (crowdHead b).toList → a = b := by decide
    have hsame := hfamilies ⟨i / 900000000, by omega⟩ ⟨j / 900000000, by omega⟩ hheads
    exact congrArg Fin.val hsame
  omega

/-- None of them is an alias. -/
theorem crowdId_not_alias (i : Nat) : like (crowdId i) "C-" = false := by
  have hbegins : ∀ head number : String, like (head ++ number) head = true := by
    intro head number
    unfold like asciiLower
    rw [String.toList_append, List.map_append, List.isPrefixOf_iff_prefix]
    exact List.prefix_append _ _
  unfold crowdId crowdHead
  split
  · rw [Bool.eq_false_iff]
    intro halias
    unfold like at halias
    rw [List.isPrefixOf_iff_prefix] at halias
    have hc : 'c' ∈ asciiLower ("" ++ Nat.repr (100000000 + i % 900000000)) :=
      halias.subset (by decide)
    unfold asciiLower at hc
    rw [String.empty_append] at hc
    obtain ⟨c, hdigit, hlower⟩ := List.mem_map.mp hc
    have hisDigit := isDigit_of_mem_repr hdigit
    split at hlower
    · next hupper =>
      simp only [Char.isDigit, Bool.and_eq_true, decide_eq_true_eq] at hisDigit
      exact absurd (hupper.1.trans (show c ≤ '9' from hisDigit.2)) (by decide)
    · subst hlower
      exact absurd hisDigit (by decide)
  · exact (like_web (hbegins _ _)).2
  · exact (like_cli (hbegins _ _)).2

/-- All of them are devices of the database, and all are listed. -/
theorem crowd_count {n : Nat} (hn : n ≤ 2700000000) :
    (crowd n).devicePresence.toList.countP (fun p =>
      devicePresenceFilterClause "" "all" (crowd n) p && deviceClientFilterClause "" "" p &&
        (("" : String) == "" || matchesSearch "" p.1)) = n := by
  have hdistinct : ((List.range n).map (fun i => (crowdId i, { online := true : PresenceRow }))).Pairwise
      (fun a b => ¬ compare a.1 b.1 = .eq) := by
    rw [List.pairwise_map]
    refine List.Pairwise.imp_of_mem ?_ List.nodup_range
    intro i j hi hj hne hsame
    rw [List.mem_range] at hi hj
    exact hne (crowdId_inj (by omega) (by omega) (Std.LawfulEqOrd.eq_of_compare hsame))
  have hsize : (crowd n).devicePresence.toList.length = n := by
    rw [Std.ExtTreeMap.length_toList, crowd, Std.ExtTreeMap.size_ofList hdistinct, List.length_map,
      List.length_range]
  refine Eq.trans (List.countP_eq_length.mpr ?_) hsize
  rintro ⟨id, row⟩ hp
  have hthere : id ∈ (crowd n).devicePresence := by
    rw [Std.ExtTreeMap.mem_iff_isSome_getElem?, OrdMap.mem_toList.mp hp]
    rfl
  rw [crowd, Std.ExtTreeMap.mem_ofList, List.map_map, List.contains_iff_mem, List.mem_map] at hthere
  obtain ⟨i, hi, hid⟩ := hthere
  have hnot : like id "C-" = false := hid ▸ crowdId_not_alias i
  simp [devicePresenceFilterClause, devicePresenceKindClause, deviceClientFilterClause, toLower,
    asciiLower, hnot]

/-- With `2 ^ 31` devices the count is a negative number. -/
theorem presence_totals_crowd : ¬ TotalsAgree 0 "" "" "" "" "all" "" "" (crowd (2 ^ 31)) := by
  have hmany : ((crowd (2 ^ 31)).presenceWhere (devicePresenceFilterClause "" "all" (crowd (2 ^ 31)))
      "" "" "").length = 2 ^ 31 := by
    rw [presenceWhere, ← List.countP_eq_length_filter]
    exact crowd_count (by decide)
  rw [totalsAgree_iff, hmany]
  decide

end CrossDesk.DeviceDbManager
