import CrossDesk.DeviceDbManager.Retention

/-!
# The rows of an id and its alias

Cleaning up goes by pairs: an id and the alias that claims it. This module says which ids make up a
pair, and what is left of each table after the rows of a pair were deleted.
-/

namespace CrossDesk.DeviceDbManager

/-! ## Pairs -/

theorem ne_clone (id : String) : id ≠ "C-" ++ id := by
  intro hsame
  have hlength := congrArg (fun s : String => s.toList.length) hsame
  simp only [String.toList_append, List.length_append] at hlength
  have hclone : "C-".toList.length = 2 := rfl
  omega

theorem isAlias_append (id : String) : isAlias ("C-" ++ id) = true :=
  startsWith_iff.mpr ⟨id, rfl⟩

theorem normalizeRemoteDeviceId_append (id : String) : normalizeRemoteDeviceId ("C-" ++ id) = id := by
  rw [normalizeRemoteDeviceId, if_pos (isAlias_append id), aliasBase_append]

theorem normalizeRemoteDeviceId_of_not_alias {id : String} (h : isAlias id = false) :
    normalizeRemoteDeviceId id = id := by
  simp [normalizeRemoteDeviceId, h]

/-- An id normalizes to a base that is not an alias exactly if it belongs to the pair. -/
theorem normalizeRemoteDeviceId_eq_iff {id base : String} (h : isAlias base = false) :
    normalizeRemoteDeviceId id = base ↔ id ∈ pair base := by
  simp only [pair, List.mem_cons, List.not_mem_nil, or_false]
  constructor
  · rintro rfl
    cases halias : isAlias id with
    | true =>
      right
      rw [normalizeRemoteDeviceId, if_pos halias]
      exact eq_append_aliasBase halias
    | false => exact .inl (normalizeRemoteDeviceId_of_not_alias halias).symm
  · rintro (rfl | rfl)
    · exact normalizeRemoteDeviceId_of_not_alias h
    · exact normalizeRemoteDeviceId_append base

/-! ## Deleting the rows of a pair -/

/-- A table without the rows of a pair. -/
def erasePair {V : Type} (id : String) (rows : OrdMap String V) : OrdMap String V :=
  (rows.erase id).erase ("C-" ++ id)

theorem getElem?_erasePair {V : Type} (id : String) (rows : OrdMap String V) (k : String) :
    (erasePair id rows)[k]? = if k ∈ pair id then none else rows[k]? := by
  simp only [erasePair, pair, List.mem_cons, List.not_mem_nil, or_false]
  grind

/-- The rows of a pair that are deleted are counted. -/
theorem size_erasePair {V : Type} (id : String) (rows : OrdMap String V) :
    (erasePair id rows).size + ((pair id).filter (fun id => rows.contains id)).length =
      rows.size := by
  have hfirst := OrdMap.size_erase_add rows id
  have hsecond := OrdMap.size_erase_add (rows.erase id) ("C-" ++ id)
  have hclone : (rows.erase id).contains ("C-" ++ id) = rows.contains ("C-" ++ id) := by
    have hne := ne_clone id
    grind
  rw [hclone] at hsecond
  have hcount : ((pair id).filter (fun id => rows.contains id)).length =
      (if rows.contains id then 1 else 0) + (if rows.contains ("C-" ++ id) then 1 else 0) := by
    simp only [pair, List.filter_cons, List.filter_nil]
    split_ifs <;> rfl
  unfold erasePair
  omega

theorem removePresence_count (id : String) (db : DeviceDbManager) :
    (db.removePresence id).2.devicePresence.size + (db.removePresence id).1 =
      db.devicePresence.size :=
  size_erasePair id db.devicePresence

/-! ### Credentials

The reconnect credential of a row goes with it. -/

theorem deleteDevice_devices (deviceId : String) (db : DeviceDbManager) :
    (db.deleteDevice deviceId).devices = db.devices.erase deviceId := by
  unfold deleteDevice
  split
  · rfl
  · next habsent =>
    refine (OrdMap.erase_eq_self ?_).symm
    rw [← Option.not_isSome_iff_eq_none, ← Std.ExtTreeMap.contains_eq_isSome_getElem?]
    exact habsent

theorem deleteDevice_reconnect (deviceId : String) (db : DeviceDbManager) (k : String) :
    (db.deleteDevice deviceId).reconnectCredentials[k]? =
      if k = deviceId ∧ db.devices.contains deviceId = true then none
      else db.reconnectCredentials[k]? := by
  unfold deleteDevice forgetReconnectCredential
  grind

/-- No other table is changed. -/
theorem deleteDevice_kept (deviceId : String) (db : DeviceDbManager) :
    ∃ devices reconnectCredentials,
      db.deleteDevice deviceId = { db with devices, reconnectCredentials } := by
  unfold deleteDevice forgetReconnectCredential
  split
  · exact ⟨_, _, rfl⟩
  · exact ⟨db.devices, db.reconnectCredentials, rfl⟩

theorem removeCredentials_devices (id : String) (db : DeviceDbManager) :
    (db.removeCredentials id).2.devices = erasePair id db.devices := by
  show ((db.deleteDevice id).deleteDevice ("C-" ++ id)).devices = _
  rw [deleteDevice_devices, deleteDevice_devices]
  rfl

theorem removeCredentials_reconnect (id : String) (db : DeviceDbManager) (k : String) :
    (db.removeCredentials id).2.reconnectCredentials[k]? =
      if k ∈ pair id ∧ db.devices.contains k = true then none
      else db.reconnectCredentials[k]? := by
  show ((db.deleteDevice id).deleteDevice ("C-" ++ id)).reconnectCredentials[k]? = _
  have hne := ne_clone id
  rw [deleteDevice_reconnect, deleteDevice_reconnect, deleteDevice_devices]
  simp only [pair, List.mem_cons, List.not_mem_nil, or_false]
  grind

theorem removeCredentials_kept (id : String) (db : DeviceDbManager) :
    ∃ devices reconnectCredentials,
      (db.removeCredentials id).2 = { db with devices, reconnectCredentials } := by
  obtain ⟨_, _, hfirst⟩ := deleteDevice_kept id db
  obtain ⟨devices, reconnectCredentials, hsecond⟩ :=
    deleteDevice_kept ("C-" ++ id) (db.deleteDevice id)
  refine ⟨devices, reconnectCredentials, ?_⟩
  show (db.deleteDevice id).deleteDevice ("C-" ++ id) = _
  rw [hsecond, hfirst]

theorem removeCredentials_devicePresence (id : String) (db : DeviceDbManager) :
    (db.removeCredentials id).2.devicePresence = db.devicePresence := by
  obtain ⟨_, _, hkept⟩ := removeCredentials_kept id db
  rw [hkept]

theorem removeCredentials_count (id : String) (db : DeviceDbManager) :
    (db.removeCredentials id).2.devices.size + (db.removeCredentials id).1 = db.devices.size := by
  rw [removeCredentials_devices]
  exact size_erasePair id db.devices

/-! ### Associations and activity -/

theorem removeAssociations_userDevices (id : String) (db : DeviceDbManager)
    (key : String ×ₗ String) : (db.removeAssociations id).2.userDevices[key]? =
      if (ofLex key).1 ∈ pair id ∨ (ofLex key).2 ∈ pair id then none else db.userDevices[key]? := by
  simp only [removeAssociations]
  grind

theorem removeAssociations_count (id : String) (db : DeviceDbManager) :
    (db.removeAssociations id).2.userDevices.size + (db.removeAssociations id).1 =
      db.userDevices.size :=
  OrdMap.size_filter_add db.userDevices _

theorem removeActivity_activity (id : String) (db : DeviceDbManager) (key : Int ×ₗ String) :
    (db.removeActivity id).2.dailyControllerActivity[key]? =
      if (ofLex key).2 ∈ pair id then none else db.dailyControllerActivity[key]? := by
  simp only [removeActivity]
  grind

theorem removeActivity_count (id : String) (db : DeviceDbManager) :
    (db.removeActivity id).2.dailyControllerActivity.size + (db.removeActivity id).1 =
      db.dailyControllerActivity.size := by
  have hsplit := OrdMap.size_filter_add db.dailyControllerActivity
    (fun key _ => decide ((ofLex key).2 ∈ pair id))
  simpa [removeActivity] using hsplit

end CrossDesk.DeviceDbManager
