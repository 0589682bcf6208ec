import CrossDesk.Application.Presence

/-!
# Who is told about an identity

`NotifyUserDevices` collects everybody who watches the identity and asks the database, in one query, who
of them is online. The query has a parameter for each watcher. A statement with more than 32766
parameters cannot be prepared, and then the answer is the one to an empty list: nobody is online.

* `batchQueryOnline_exact_iff`: the answer has an entry for every id, in order and with the stored flag,
  exactly if there are no more ids than parameters.
* `presence_updates_exact_iff`: every watcher that is online is told once and nobody else is, exactly if
  there are no more watchers than parameters, or nobody to tell.
-/

namespace CrossDesk

open Logged DeviceDbManager

namespace DeviceDbManager

/-- The row that is found for an id is its own. -/
theorem find_row (deviceIds : List String) (db : DeviceDbManager) {id : String}
    (h : id ∈ deviceIds) :
    ((db.devicePresence.toList.filter (fun row => row.1 ∈ deviceIds)).find? (fun row =>
      row.1 == id)).any (fun row => row.2.online) = db.online id := by
  unfold online
  generalize hrows : db.devicePresence.toList.filter (fun row => row.1 ∈ deviceIds) = rows
  have hmem : ∀ row : String × PresenceRow, row ∈ rows → db.devicePresence[row.1]? = some row.2 := by
    intro row hrow
    rw [← hrows] at hrow
    exact OrdMap.mem_toList.mp (List.mem_filter.mp hrow).1
  cases hfound : rows.find? (fun row => row.1 == id) with
  | none =>
    cases hrow : db.devicePresence[id]? with
    | none => rfl
    | some row =>
      have hlisted : (id, row) ∈ rows := by
        rw [← hrows]
        exact List.mem_filter.mpr ⟨OrdMap.mem_toList.mpr hrow, by simpa using h⟩
      have hnot := List.find?_eq_none.mp hfound (id, row) hlisted
      simp at hnot
  | some found =>
    have hsame : found.1 = id := by simpa using List.find?_some hfound
    rw [← hsame, hmem found (List.mem_of_find?_eq_some hfound)]
    rfl

theorem batchQueryOnline_eq {deviceIds : List String} {db : DeviceDbManager}
    (h : deviceIds.length ≤ maxVariableNumber) :
    db.batchQueryOnline deviceIds = deviceIds.map (fun id => (id, db.online id)) := by
  rw [batchQueryOnline, if_neg (by omega)]
  refine List.map_congr_left fun id hid => ?_
  rw [find_row deviceIds db hid]

theorem batchQueryOnline_too_many {deviceIds : List String} {db : DeviceDbManager}
    (h : maxVariableNumber < deviceIds.length) : db.batchQueryOnline deviceIds = [] := by
  rw [batchQueryOnline, if_pos h]

/-- **When `BatchQueryOnline` answers for every id.** -/
theorem batchQueryOnline_exact_iff (deviceIds : List String) (db : DeviceDbManager) :
    db.batchQueryOnline deviceIds = deviceIds.map (fun id => (id, db.online id)) ↔
      deviceIds.length ≤ maxVariableNumber := by
  constructor
  · intro hexact
    by_contra hlong
    rw [not_le] at hlong
    rw [batchQueryOnline_too_many hlong] at hexact
    have hlength := congrArg List.length hexact
    rw [List.length_map, List.length_nil] at hlength
    omega
  · exact batchQueryOnline_eq

end DeviceDbManager

namespace Application

variable {deviceId : String} {s : Application}

/-! ## The watchers -/

theorem mem_watchers {id : String} : id ∈ s.watchers deviceId ↔
    ∃ watched : Finset String, s.presence.associations[id]? = some watched ∧ deviceId ∈ watched := by
  unfold watchers
  rw [List.mem_map]
  constructor
  · rintro ⟨⟨id', watched⟩, hmem, rfl⟩
    obtain ⟨hlisted, hwatches⟩ := List.mem_filter.mp hmem
    exact ⟨watched, OrdMap.mem_toList.mp hlisted, by simpa using hwatches⟩
  · rintro ⟨watched, hlisted, hwatches⟩
    exact ⟨(id, watched), List.mem_filter.mpr ⟨OrdMap.mem_toList.mpr hlisted, by simpa using hwatches⟩,
      rfl⟩

theorem nodup_watchers : (s.watchers deviceId).Nodup := by
  have hkeys := OrdMap.nodup_keys s.presence.associations
  rw [← Std.ExtTreeMap.map_fst_toList_eq_keys] at hkeys
  exact hkeys.sublist (List.filter_sublist.map _)

/-- The identity is to be told: it is another one, it watches, and it is online. -/
structure IsToBeTold (deviceId : String) (s : Application) (id : String) : Prop where
  other : id ≠ deviceId
  watches : ∃ watched : Finset String, s.presence.associations[id]? = some watched ∧
    deviceId ∈ watched
  online : s.store.online id = true

theorem isToBeTold_iff {id : String} : IsToBeTold deviceId s id ↔
    id ∈ (s.watchers deviceId).filter (fun id => id ≠ deviceId && s.store.online id) := by
  rw [List.mem_filter, mem_watchers, Bool.and_eq_true, decide_eq_true_iff]
  exact ⟨fun h => ⟨h.watches, h.other, h.online⟩, fun h => ⟨h.2.1, h.1, h.2.2⟩⟩

theorem presenceTargets_eq (h : (s.watchers deviceId).length ≤ maxVariableNumber) :
    s.presenceTargets deviceId =
      (s.watchers deviceId).filter (fun id => id ≠ deviceId && s.store.online id) := by
  rw [presenceTargets, batchQueryOnline_eq h, List.filter_map, List.map_map]
  exact List.map_id' _

theorem presenceTargets_too_many (h : maxVariableNumber < (s.watchers deviceId).length) :
    s.presenceTargets deviceId = [] := by
  rw [presenceTargets, batchQueryOnline_too_many h]
  rfl

/-! ## The updates -/

/-- A loop that sends one message to each. -/
theorem each_send (hdl : String → Option ConnectionHdl) (message : Json) (ids : List String)
    (s : Application) : each ids (fun id _ => send (hdl id) message) () s =
      ⟨(), s, ids.map (fun id => .sent (hdl id) message)⟩ := by
  induction ids with
  | nil => rfl
  | cons id ids ih =>
    show Outcome.mk (each ids (fun id _ => send (hdl id) message) () s).value
      (each ids (fun id _ => send (hdl id) message) () s).state ([.sent (hdl id) message] ++
        (each ids (fun id _ => send (hdl id) message) () s).events) = _
    rw [ih]
    rfl

theorem notifyUserDevices_eq (deviceId : String) (online : Bool) (s : Application) :
    notifyUserDevices deviceId online s = ⟨(), s, (s.presenceTargets deviceId).map (fun id =>
      .sent (s.manager.getWsHandle id) (presenceUpdate deviceId online))⟩ :=
  each_send s.manager.getWsHandle (presenceUpdate deviceId online) _ s

/-- Those who are to be told are told once each, and nobody else is told. -/
def TellsExactly (deviceId : String) (online : Bool) (s : Application) : Prop :=
  ∃ told : List String, told.Nodup ∧ (∀ id, id ∈ told ↔ IsToBeTold deviceId s id) ∧
    notifyUserDevices deviceId online s = ⟨(), s, told.map (fun id =>
      .sent (s.manager.getWsHandle id) (presenceUpdate deviceId online))⟩

theorem tellsExactly_iff (deviceId : String) (online : Bool) (s : Application) :
    TellsExactly deviceId online s ↔ (s.watchers deviceId).length ≤ maxVariableNumber ∨
      ∀ id, ¬ IsToBeTold deviceId s id := by
  constructor
  · rintro ⟨told, -, htold, hsent⟩
    by_cases hlong : (s.watchers deviceId).length ≤ maxVariableNumber
    · exact .inl hlong
    · right
      rw [notifyUserDevices_eq, presenceTargets_too_many (by omega)] at hsent
      have hnobody : told = [] := List.map_eq_nil_iff.mp (congrArg Outcome.events hsent).symm
      intro id hid
      have hmem := (htold id).mpr hid
      rw [hnobody] at hmem
      exact List.not_mem_nil hmem
  · intro hfits
    refine ⟨(s.watchers deviceId).filter (fun id => id ≠ deviceId && s.store.online id),
      nodup_watchers.filter _, fun id => isToBeTold_iff.symm, ?_⟩
    rw [notifyUserDevices_eq]
    by_cases hlong : (s.watchers deviceId).length ≤ maxVariableNumber
    · rw [presenceTargets_eq hlong]
    · have hnobody : (s.watchers deviceId).filter (fun id => id ≠ deviceId && s.store.online id) =
          [] := by
        refine List.eq_nil_iff_forall_not_mem.mpr fun id hid => ?_
        exact hfits.resolve_left hlong id (isToBeTold_iff.mpr hid)
      rw [presenceTargets_too_many (by omega), hnobody]

/-- **When presence updates reach every watcher that is online, once, and when the answer about a list of
ids is complete**: up to the number of parameters that a statement may have. -/
theorem presence_updates_exact_iff (s : Application) :
    (∀ (deviceId : String) (online : Bool), TellsExactly deviceId online s ↔
      (s.watchers deviceId).length ≤ maxVariableNumber ∨ ∀ id, ¬ IsToBeTold deviceId s id) ∧
    ∀ deviceIds : List String,
      s.store.batchQueryOnline deviceIds = deviceIds.map (fun id => (id, s.store.online id)) ↔
        deviceIds.length ≤ maxVariableNumber :=
  ⟨fun deviceId online => tellsExactly_iff deviceId online s,
    fun deviceIds => batchQueryOnline_exact_iff deviceIds s.store⟩

/-! ## One watcher too many -/

/-- As many identities as given watch the device, and the first of them is online. -/
def crowd (count : Nat) : Application where
  presence := { associations := (List.range count).foldl (fun table n =>
    table.insert (Nat.repr n) {"100000001"}) ∅ }
  store := { devicePresence := (∅ : OrdMap String PresenceRow).insert "0" { online := true } }

theorem crowd_association (count n : Nat) :
    (crowd count).presence.associations[Nat.repr n]? =
      if n < count then some {"100000001"} else none := by
  show ((List.range count).foldl (fun (table : OrdMap String (Finset String)) n =>
    table.insert (Nat.repr n) {"100000001"}) ∅)[Nat.repr n]? = _
  induction count with
  | zero => rfl
  | succ count ih =>
    rw [List.range_succ, List.foldl_concat, Std.ExtTreeMap.getElem?_insert, ih]
    by_cases hlast : n = count
    · subst hlast
      rw [if_pos Std.ReflOrd.compare_self, if_pos (Nat.lt_succ_self n)]
    · have hother : compare (Nat.repr count) (Nat.repr n) ≠ .eq := fun hsame =>
        hlast (Nat.repr_injective (Std.LawfulEqOrd.eq_of_compare hsame)).symm
      rw [if_neg hother]
      by_cases hlt : n < count
      · rw [if_pos hlt, if_pos (by omega)]
      · rw [if_neg hlt, if_neg (by omega)]

theorem crowd_watchers (count : Nat) : count ≤ ((crowd count).watchers "100000001").length := by
  have hnodup : ((List.range count).map Nat.repr).Nodup :=
    List.Nodup.map (fun _ _ h => Nat.repr_injective h) List.nodup_range
  have hsubset : (List.range count).map Nat.repr ⊆ (crowd count).watchers "100000001" := by
    intro id hid
    obtain ⟨n, hn, rfl⟩ := List.mem_map.mp hid
    rw [mem_watchers, crowd_association, if_pos (List.mem_range.mp hn)]
    exact ⟨_, rfl, Finset.mem_singleton_self _⟩
  have hlength := hnodup.length_le_of_subset hsubset
  rwa [List.length_map, List.length_range] at hlength

/-- Of 32767 watchers nobody is told, though one of them is online. -/
theorem presence_updates_exact_refuted :
    IsToBeTold "100000001" (crowd 32767) "0" ∧
      (notifyUserDevices "100000001" true (crowd 32767)).events = [] ∧
      ¬ TellsExactly "100000001" true (crowd 32767) := by
  have hmany := crowd_watchers 32767
  have htold : IsToBeTold "100000001" (crowd 32767) "0" := by
    refine ⟨by decide, ⟨{"100000001"}, ?_, Finset.mem_singleton_self _⟩, by decide +kernel⟩
    have hfirst := crowd_association 32767 0
    rwa [if_pos (by decide)] at hfirst
  have htoomany : maxVariableNumber < ((crowd 32767).watchers "100000001").length := by
    unfold maxVariableNumber
    omega
  refine ⟨htold, ?_, fun hexact => ?_⟩
  · rw [notifyUserDevices_eq, presenceTargets_too_many htoomany]
    rfl
  · rcases (tellsExactly_iff _ _ _).mp hexact with hfew | hnobody
    · omega
    · exact hnobody "0" htold

end Application

end CrossDesk
