import CrossDesk.Lib.Draining
import CrossDesk.DeviceDbManager.RetentionSafety

/-!
# Batches

Both cleanups work in batches. A call picks at most so many ids and says whether there may be more.
The tables it deletes from are those that its choice looks at, so the choice of the next call rests on
what this one has left.

* Nothing that protects an id belongs to the pair of an id that is deleted. So the tests give the same
  answers afterwards, and no id and no association comes up that did not before (`Selection.shrinks`,
  `isOrphan_removed`).
* An id is only ever picked because of a row in its own pair, so a full batch deletes a row
  (`Cleared.deleted_pos`), and a batch that was not full leaves nothing to pick.

`cleanup_drains_and_rests` puts this together for any sequence of calls.
-/

namespace CrossDesk

/-- The rows that a call has counted. -/
def RetentionCleanupResult.deleted (result : RetentionCleanupResult) : Nat :=
  result.devices + result.associations + result.credentials

namespace DeviceDbManager

open Transaction

/-- A call of one of the cleanups: what it answers, and what it leaves behind. -/
abbrev CleanupCall :=
  CleanupEnv → DeviceDbManager →
    Except CleanupError RetentionCleanupResult × DeviceDbManager

/-- The rows of the three tables whose deletions are counted. -/
def storedRows (db : DeviceDbManager) : Nat :=
  db.devices.size + db.devicePresence.size + db.userDevices.size

/-- The associations that are over, and whose owner nothing keeps alive. -/
def orphaned (cutoff : Int) (db : DeviceDbManager) : List (String ×ₗ String) :=
  (db.userDevices.toList.filter (db.isOrphan cutoff)).map Prod.fst

/-- The controllers that are offline, without an alias online and without a session. -/
def idleControllers (db : DeviceDbManager) : List String :=
  db.offlineControllers.filter (fun id =>
    !(pair id).any (fun id => db.online id) && !db.inSession id)

/-- What a sequence of calls comes to. `ids` and `associations` are what a call would delete, if its
batch were large enough. -/
structure DrainsAndRests (ids : DeviceDbManager → List String)
    (associations : DeviceDbManager → List (String ×ₗ String)) (call : CleanupCall) : Prop where
  /-- A call returns, unless a statement fails. -/
  returns : ∀ (env : CleanupEnv) (db : DeviceDbManager),
    (∀ statement : CleanupStatement, env.fails statement = false) →
      ∃ result, (call env db).1 = .ok result
  /-- What a call counts is what is gone. -/
  accounts : ∀ (env : CleanupEnv) (db : DeviceDbManager)
    (result : RetentionCleanupResult), (call env db).1 = .ok result →
      storedRows (call env db).2 + result.deleted = storedRows db
  /-- A call that reports more has deleted a row. -/
  progress : ∀ (env : CleanupEnv) (db : DeviceDbManager)
    (result : RetentionCleanupResult), (call env db).1 = .ok result → result.more = true →
      0 < result.deleted
  /-- Calls that return come to one that does not report more. -/
  ends : ∀ (envs : Nat → CleanupEnv) (db : DeviceDbManager),
    (∀ n : Nat, ∃ result,
      (call (envs n) (Draining.after (fun n db => (call (envs n) db).2) db n)).1 = .ok result) →
    ∃ n ≤ storedRows db, ∃ result : RetentionCleanupResult,
      (call (envs n) (Draining.after (fun n db => (call (envs n) db).2) db n)).1 = .ok result ∧
        result.more = false
  /-- No call makes an id or an association expire. -/
  nothing_new : ∀ (env : CleanupEnv) (db : DeviceDbManager),
    ids (call env db).2 ⊆ ids db ∧ associations (call env db).2 ⊆ associations db
  /-- After a call that does not report more, another one picks and deletes nothing. -/
  rests : ∀ (env env' : CleanupEnv) (db : DeviceDbManager)
    (result : RetentionCleanupResult), (call env db).1 = .ok result → result.more = false →
      (call env' (call env db).2).2 = (call env db).2 ∧
      ∀ result' : RetentionCleanupResult, (call env' (call env db).2).1 = .ok result' →
        result' = {}

/-! ## What the statements for the ids do -/

/-- What the statements for some ids have done. -/
structure Cleared (ids : List String) (s s' : Cleanup) : Prop where
  removed : Removed ids s.db s'.db
  sessions : s'.db.remoteControlSessions = s.db.remoteControlSessions
  associations : ∀ (key : String ×ₗ String) (at_ : Int), s'.db.userDevices[key]? = some at_ →
    s.db.userDevices[key]? = some at_
  accounts : storedRows s'.db + s'.result.deleted = storedRows s.db + s.result.deleted
  deviceIds : s'.result.deviceIds = s.result.deviceIds

theorem Cleared.refl (s : Cleanup) : Cleared [] s s :=
  ⟨.refl _, rfl, fun _ _ h => h, rfl, rfl⟩

theorem Cleared.append {ids ids' : List String} {s s' s'' : Cleanup} (h : Cleared ids s s')
    (h' : Cleared ids' s' s'') : Cleared (ids ++ ids') s s'' where
  removed := h.removed.append h'.removed
  sessions := h'.sessions.trans h.sessions
  associations := fun key at_ hkey => h.associations key at_ (h'.associations key at_ hkey)
  accounts := h'.accounts.trans h.accounts
  deviceIds := h'.deviceIds.trans h.deviceIds

/-- The statements for one id. -/
theorem removeExpired_cleared {fails : CleanupStatement → Bool} {activity : Bool} {e : String}
    {s s' : Cleanup} (h : removeExpired fails activity e s = .ok ((), s')) : Cleared [e] s s' := by
  obtain ⟨hremoved, hids⟩ := removeExpired_removed h
  obtain ⟨_, s₁, h₁, h⟩ := run_bind.mp h
  obtain ⟨_, s₂, h₂, h⟩ := run_bind.mp h
  obtain ⟨_, s₃, h₃, h⟩ := run_bind.mp h
  have hs₁ := run_cleanupStatement h₁
  have hs₂ := run_cleanupStatement h₂
  have hs₃ := run_cleanupStatement h₃
  let cleared := ((s.db.removeAssociations e).2.removePresence e).2
  obtain ⟨devices, reconnectCredentials, hkept⟩ := removeCredentials_kept e cleared
  have hdb : s₃.db = (cleared.removeCredentials e).2 := by
    subst hs₃ hs₂ hs₁
    rfl
  have hsessions : s₃.db.remoteControlSessions = s.db.remoteControlSessions := by
    rw [hdb, hkept]
    rfl
  have huserDevices : s₃.db.userDevices = (s.db.removeAssociations e).2.userDevices := by
    rw [hdb, hkept]
    rfl
  -- Each statement reports as many rows as it deletes.
  have haccounts : storedRows s₃.db + s₃.result.deleted = storedRows s.db + s.result.deleted := by
    have hdeleted : s₃.result.deleted = s.result.deleted + (s.db.removeAssociations e).1 +
        ((s.db.removeAssociations e).2.removePresence e).1 + (cleared.removeCredentials e).1 := by
      subst hs₃ hs₂ hs₁
      simp only [RetentionCleanupResult.deleted, cleared]
      omega
    have hassociations := removeAssociations_count e s.db
    have hpresence : cleared.devicePresence.size +
        ((s.db.removeAssociations e).2.removePresence e).1 = s.db.devicePresence.size :=
      removePresence_count e (s.db.removeAssociations e).2
    have hcredentials : (cleared.removeCredentials e).2.devices.size +
        (cleared.removeCredentials e).1 = s.db.devices.size :=
      removeCredentials_count e cleared
    rw [storedRows, hdeleted, huserDevices, hdb, removeCredentials_devicePresence, storedRows]
    omega
  have hshrinks : ∀ (key : String ×ₗ String) (at_ : Int), s₃.db.userDevices[key]? = some at_ →
      s.db.userDevices[key]? = some at_ := by
    intro key at_ hkey
    rw [huserDevices, removeAssociations_userDevices] at hkey
    split at hkey
    · cases hkey
    · exact hkey
  split at h
  · -- the activity is kept in a table of its own
    have hs₄ := run_cleanupStatement h
    subst hs₄
    exact ⟨hremoved, hsessions, hshrinks, haccounts, hids⟩
  · have hs₄ := run_pure.mp h
    cases hs₄
    exact ⟨hremoved, hsessions, hshrinks, haccounts, hids⟩

/-- The statements for all ids. -/
theorem forEach_cleared {fails : CleanupStatement → Bool} {activity : Bool} {ids : List String}
    {s s' : Cleanup} (h : forEach ids (removeExpired fails activity) s = .ok ((), s')) :
    Cleared ids s s' := by
  induction ids generalizing s with
  | nil =>
    have hsame := run_pure.mp h
    cases hsame
    exact .refl _
  | cons e ids ih =>
    obtain ⟨_, mid, hfirst, hrest⟩ := run_bind.mp h
    exact (removeExpired_cleared hfirst).append (ih hrest)

/-- Rows only go. -/
theorem Gone.kept_of_some {V : Type} {ids : List String} {rows rows' : OrdMap String V}
    (h : Gone ids rows rows') (id : String) (row : V) (hrow : rows'[id]? = some row) :
    rows[id]? = some row := by
  by_cases hpair : ∃ e ∈ ids, id ∈ pair e
  · obtain ⟨e, he, hid⟩ := hpair
    rw [h.gone e he id hid] at hrow
    cases hrow
  · rw [← h.kept id (by grind), hrow]

/-- A row that is stored under one of the ids is deleted. -/
theorem Cleared.deleted_lt {ids : List String} {s s' : Cleanup} (h : Cleared ids s s') {e id : String}
    (he : e ∈ ids) (hid : id ∈ pair e) (hstored : stored id s.db = true) :
    s.result.deleted < s'.result.deleted := by
  have hdevices := OrdMap.size_le_of_kept h.removed.devices.kept_of_some
  have hpresence := OrdMap.size_le_of_kept h.removed.presence.kept_of_some
  have hassociations := OrdMap.size_le_of_kept h.associations
  have hless : storedRows s'.db < storedRows s.db := by
    unfold storedRows
    rcases Bool.or_eq_true_iff.mp hstored with hrow | hrow
    · have hgone := OrdMap.size_lt_of_gone h.removed.devices.kept_of_some hrow
        (h.removed.devices.gone e he id hid)
      omega
    · have hgone := OrdMap.size_lt_of_gone h.removed.presence.kept_of_some hrow
        (h.removed.presence.gone e he id hid)
      omega
  have haccounts := h.accounts
  omega

/-! ## What the tests say afterwards

The tests read the presence rows, the credentials and the sessions. -/

/-- Neither the sessions nor any row that protects an id were touched. -/
structure KeepsProtection (cutoff : Int) (db db' : DeviceDbManager) : Prop where
  live : ∀ id : String, db'.isLive cutoff id = db.isLive cutoff id
  retained : ∀ id : String, db'.isRetained cutoff id = db.isRetained cutoff id
  inSession : ∀ id : String, db'.inSession id = db.inSession id

theorem inSession_of_sessions {db db' : DeviceDbManager}
    (h : db'.remoteControlSessions = db.remoteControlSessions) (id : String) :
    db'.inSession id = db.inSession id := by
  unfold inSession
  rw [h]

/-- Ids that nothing protects take no protection away from others. -/
theorem Removed.keepsProtection {cutoff : Int} {ids : List String} {db db' : DeviceDbManager}
    (h : Removed ids db db') (hsessions : db'.remoteControlSessions = db.remoteControlSessions)
    (hids : ∀ e ∈ ids, Unprotected cutoff e db) : KeepsProtection cutoff db db' := by
  refine ⟨fun id => ?_, fun id => ?_, inSession_of_sessions hsessions⟩
  · by_cases hpair : ∃ e ∈ ids, id ∈ pair e
    · obtain ⟨e, he, hid⟩ := hpair
      have hnot : db.isLive cutoff id = false := by
        cases hrow : db.devicePresence[id]? with
        | none => simp [isLive, hrow]
        | some row =>
          obtain ⟨hoffline, hold⟩ := (hids e he).not_live id hid row hrow
          simp [isLive, hrow, hoffline, hold]
      rw [hnot, isLive, h.presence.gone e he id hid]
      rfl
    · rw [isLive, isLive, h.presence.kept id (by grind)]
  · by_cases hpair : ∃ e ∈ ids, id ∈ pair e
    · obtain ⟨e, he, hid⟩ := hpair
      have hnot : db.isRetained cutoff id = false := by
        cases hrow : db.devices[id]? with
        | none => simp [isRetained, hrow]
        | some row =>
          cases hpresence : db.devicePresence[id]? with
          | none =>
            have hold := (hids e he).not_retained id hid row hrow hpresence
            simp [isRetained, hrow, hold]
          | some presence =>
            have hthere : db.devicePresence.contains id = true :=
              OrdMap.contains_iff.mpr ⟨presence, hpresence⟩
            simp [isRetained, hthere]
      rw [hnot, isRetained, h.devices.gone e he id hid]
      rfl
    · rw [isRetained, isRetained, h.devices.kept id (by grind),
        Std.ExtTreeMap.contains_eq_isSome_getElem?, h.presence.kept id (by grind),
        Std.ExtTreeMap.contains_eq_isSome_getElem?]

theorem KeepsProtection.isProtected {cutoff : Int} {db db' : DeviceDbManager}
    (h : KeepsProtection cutoff db db') (id : String) :
    db'.isProtected cutoff id = db.isProtected cutoff id := by
  simp only [DeviceDbManager.isProtected, h.live, h.retained, h.inSession]

theorem KeepsProtection.isOrphan {cutoff : Int} {db db' : DeviceDbManager}
    (h : KeepsProtection cutoff db db') (row : (String ×ₗ String) × Int) :
    db'.isOrphan cutoff row = db.isOrphan cutoff row := by
  simp only [DeviceDbManager.isOrphan, h.live, h.inSession]

/-! ## Which rows make an id come up -/

/-- A presence row, or credentials without one, that is over. -/
def IsOver (cutoff : Int) (id : String) (db : DeviceDbManager) : Prop :=
  (∃ row : PresenceRow, db.devicePresence[id]? = some row ∧ row.online = false ∧
      row.updatedAt < cutoff) ∨
    ∃ row : DeviceRow, db.devices[id]? = some row ∧ row.retentionStartedAt < cutoff ∧
      db.devicePresence[id]? = none

theorem not_contains_iff {V : Type} {rows : OrdMap String V} {id : String} :
    (!rows.contains id) = true ↔ rows[id]? = none := by
  rw [Std.ExtTreeMap.contains_eq_isSome_getElem?]
  cases rows[id]? <;> simp

/-- An id is over exactly if one of the rows that normalize to it is. -/
theorem mem_expired {cutoff : Int} {e : String} {db : DeviceDbManager} :
    e ∈ (db.expired cutoff).map Prod.fst ↔
      ∃ id : String, normalizeRemoteDeviceId id = e ∧ IsOver cutoff id db := by
  simp only [expired, List.map_append, List.mem_append, List.map_map, List.mem_map,
    List.mem_filter, Bool.and_eq_true, Bool.not_eq_true', decide_eq_true_eq, Function.comp_apply,
    Prod.exists, OrdMap.mem_toList]
  constructor
  · rintro (⟨id, row, ⟨hrow, hoffline, hold⟩, rfl⟩ | ⟨id, row, ⟨hrow, hold, hnone⟩, rfl⟩)
    · exact ⟨id, rfl, .inl ⟨row, hrow, hoffline, hold⟩⟩
    · exact ⟨id, rfl, .inr ⟨row, hrow, hold, not_contains_iff.mp (by simp [hnone])⟩⟩
  · rintro ⟨id, rfl, ⟨row, hrow, hoffline, hold⟩ | ⟨row, hrow, hold, hnone⟩⟩
    · exact .inl ⟨id, row, ⟨hrow, hoffline, hold⟩, rfl⟩
    · exact .inr ⟨id, row, ⟨hrow, hold, by simpa using not_contains_iff.mpr hnone⟩, rfl⟩

theorem mem_offlineControllers {e : String} {db : DeviceDbManager} :
    e ∈ db.offlineControllers ↔ isTemporaryControllerId e = true ∧
      ((∃ row : PresenceRow, db.devicePresence[e]? = some row ∧ row.online = false) ∨
        ((∃ row : DeviceRow, db.devices[e]? = some row) ∧ db.devicePresence[e]? = none)) := by
  simp only [offlineControllers, List.mem_append, List.mem_map, List.mem_filter, Bool.and_eq_true,
    Bool.not_eq_true', Prod.exists, OrdMap.mem_toList, exists_and_right, exists_eq_right]
  constructor
  · rintro (⟨row, hrow, hoffline, hkind⟩ | ⟨hrow, hkind, hnone⟩)
    · exact ⟨hkind, .inl ⟨row, hrow, hoffline⟩⟩
    · exact ⟨hkind, .inr ⟨hrow, not_contains_iff.mp (by simp [hnone])⟩⟩
  · rintro ⟨hkind, ⟨row, hrow, hoffline⟩ | ⟨hrow, hnone⟩⟩
    · exact .inl ⟨row, hrow, hoffline, hkind⟩
    · exact .inr ⟨hrow, hkind, by simpa using not_contains_iff.mpr hnone⟩

/-- A row is in the pair of the id that it normalizes to. -/
theorem mem_pair_normalizeRemoteDeviceId (id : String) : id ∈ pair (normalizeRemoteDeviceId id) := by
  cases halias : isAlias id with
  | true =>
    rw [normalizeRemoteDeviceId, if_pos halias]
    exact List.mem_cons_of_mem _ (List.mem_singleton.mpr (eq_append_aliasBase halias))
  | false =>
    rw [normalizeRemoteDeviceId_of_not_alias halias]
    exact List.mem_cons_self ..

/-! ## Selections -/

/-- How a cleanup picks its ids. -/
structure Selection (ids : DeviceDbManager → List String) : Prop where
  /-- An id is picked because of a row of its pair. -/
  stored : ∀ (db : DeviceDbManager) (e : String), e ∈ ids db → ∃ id ∈ pair e, stored id db = true
  /-- After some of the ids are gone, no others come up. -/
  shrinks : ∀ (db db' : DeviceDbManager) (gone : List String), gone ⊆ ids db → Removed gone db db' →
    db'.remoteControlSessions = db.remoteControlSessions → ids db' ⊆ ids db

/-- When all the ids are gone, there are none left to pick. -/
theorem Selection.drained {ids : DeviceDbManager → List String} (h : Selection ids)
    {db db' : DeviceDbManager} {gone : List String} (hgone : gone ⊆ ids db) (hall : ids db ⊆ gone)
    (hremoved : Removed gone db db')
    (hsessions : db'.remoteControlSessions = db.remoteControlSessions) : ids db' = [] := by
  apply List.eq_nil_iff_forall_not_mem.mpr
  intro e he
  have hpicked : e ∈ gone := hall (h.shrinks db db' gone hgone hremoved hsessions he)
  obtain ⟨id, hid, hstored⟩ := h.stored db' e he
  rw [DeviceDbManager.stored, Std.ExtTreeMap.contains_eq_isSome_getElem?,
    Std.ExtTreeMap.contains_eq_isSome_getElem?, hremoved.devices.gone e hpicked id hid,
    hremoved.presence.gone e hpicked id hid] at hstored
  cases hstored

theorem IsOver.stored {cutoff : Int} {id : String} {db : DeviceDbManager} (h : IsOver cutoff id db) :
    DeviceDbManager.stored id db = true := by
  rw [DeviceDbManager.stored, Bool.or_eq_true, OrdMap.contains_iff, OrdMap.contains_iff]
  rcases h with ⟨row, hrow, -⟩ | ⟨row, hrow, -⟩
  · exact .inr ⟨row, hrow⟩
  · exact .inl ⟨row, hrow⟩

/-- Credentials and presence of an id go together, so none is left without the other. -/
theorem Removed.presence_none {ids : List String} {db db' : DeviceDbManager} (h : Removed ids db db')
    {id : String} {row : DeviceRow} (hrow : db'.devices[id]? = some row)
    (hnone : db'.devicePresence[id]? = none) : db.devicePresence[id]? = none := by
  by_cases hpair : ∃ e ∈ ids, id ∈ pair e
  · obtain ⟨e, he, hid⟩ := hpair
    rw [h.devices.gone e he id hid] at hrow
    cases hrow
  · rw [← h.presence.kept id (by grind), hnone]

theorem IsOver.of_removed {cutoff : Int} {ids : List String} {id : String} {db db' : DeviceDbManager}
    (h : Removed ids db db') (hover : IsOver cutoff id db') : IsOver cutoff id db := by
  rcases hover with ⟨row, hrow, htests⟩ | ⟨row, hrow, hold, hnone⟩
  · exact .inl ⟨row, h.presence.kept_of_some id row hrow, htests⟩
  · exact .inr ⟨row, h.devices.kept_of_some id row hrow, hold, h.presence_none hrow hnone⟩

/-- The ids whose time is over. -/
theorem selection_unprotected (cutoff : Int) : Selection (unprotected cutoff) where
  stored := by
    intro db e he
    have hexpired := (List.mem_filter.mp he).1
    rw [List.mem_dedup, mem_expired] at hexpired
    obtain ⟨id, rfl, hover⟩ := hexpired
    exact ⟨id, mem_pair_normalizeRemoteDeviceId id, hover.stored⟩
  shrinks := by
    intro db db' gone hgone hremoved hsessions e he
    have hkeeps := hremoved.keepsProtection hsessions (fun e he => unprotected_of_mem (hgone he))
    obtain ⟨hexpired, htests⟩ := List.mem_filter.mp he
    rw [List.mem_dedup, mem_expired] at hexpired
    obtain ⟨id, hid, hover⟩ := hexpired
    rw [hkeeps.isProtected] at htests
    refine List.mem_filter.mpr ⟨?_, htests⟩
    rw [List.mem_dedup, mem_expired]
    exact ⟨id, hid, hover.of_removed hremoved⟩

/-- The pairs of idle controllers have no row that is online. -/
theorem Removed.online {ids : List String} {db db' : DeviceDbManager} (h : Removed ids db db')
    (hids : ids ⊆ db.idleControllers) (id : String) : db'.online id = db.online id := by
  by_cases hpair : ∃ e ∈ ids, id ∈ pair e
  · obtain ⟨e, he, hid⟩ := hpair
    have htests := (List.mem_filter.mp (hids he)).2
    rw [Bool.and_eq_true, Bool.not_eq_true', List.any_eq_false] at htests
    have hoffline : db.online id = false := Bool.eq_false_iff.mpr (htests.1 id hid)
    rw [hoffline, DeviceDbManager.online, h.presence.gone e he id hid]
    rfl
  · rw [DeviceDbManager.online, DeviceDbManager.online, h.presence.kept id (by grind)]

/-- The controllers without an id of their own. -/
theorem selection_idleControllers : Selection idleControllers where
  stored := by
    intro db e he
    obtain ⟨-, hrow⟩ := mem_offlineControllers.mp (List.mem_filter.mp he).1
    refine ⟨e, List.mem_cons_self .., ?_⟩
    rw [DeviceDbManager.stored, Bool.or_eq_true, OrdMap.contains_iff, OrdMap.contains_iff]
    rcases hrow with ⟨row, hrow, -⟩ | ⟨hrow, -⟩
    · exact .inr ⟨row, hrow⟩
    · exact .inl hrow
  shrinks := by
    intro db db' gone hgone hremoved hsessions e he
    obtain ⟨hoffline, htests⟩ := List.mem_filter.mp he
    obtain ⟨hkind, hrow⟩ := mem_offlineControllers.mp hoffline
    simp only [hremoved.online hgone, inSession_of_sessions hsessions] at htests
    refine List.mem_filter.mpr ⟨mem_offlineControllers.mpr ⟨hkind, ?_⟩, htests⟩
    rcases hrow with ⟨row, hrow, hoff⟩ | ⟨⟨row, hrow⟩, hnone⟩
    · exact .inl ⟨row, hremoved.presence.kept_of_some e row hrow, hoff⟩
    · exact .inr ⟨⟨row, hremoved.devices.kept_of_some e row hrow⟩, hremoved.presence_none hrow hnone⟩

/-! ## Associations without an owner -/

theorem mem_orphaned {cutoff : Int} {db : DeviceDbManager} {key : String ×ₗ String} :
    key ∈ orphaned cutoff db ↔ ∃ at_ : Int, db.userDevices[key]? = some at_ ∧
      db.isOrphan cutoff (key, at_) = true := by
  simp only [orphaned, List.mem_map, List.mem_filter, Prod.exists, OrdMap.mem_toList,
    exists_and_right, exists_eq_right]

/-- No association becomes an orphan. -/
theorem KeepsProtection.orphaned_subset {cutoff : Int} {db db' : DeviceDbManager}
    (h : KeepsProtection cutoff db db')
    (hshrinks : ∀ (key : String ×ₗ String) (at_ : Int), db'.userDevices[key]? = some at_ →
      db.userDevices[key]? = some at_) : orphaned cutoff db' ⊆ orphaned cutoff db := by
  intro key hkey
  obtain ⟨at_, hrow, horphan⟩ := mem_orphaned.mp hkey
  rw [h.isOrphan] at horphan
  exact mem_orphaned.mpr ⟨at_, hshrinks key at_ hrow, horphan⟩

theorem nodup_orphaned (cutoff : Int) (db : DeviceDbManager) : (orphaned cutoff db).Nodup := by
  have hkeys : (db.userDevices.toList.map Prod.fst).Nodup := by
    rw [Std.ExtTreeMap.map_fst_toList_eq_keys]
    exact OrdMap.nodup_keys db.userDevices
  exact hkeys.sublist (List.filter_sublist.map Prod.fst)

section Orphans

variable (order : ScanOrder ((String ×ₗ String) × Int)) (cutoff : Int) (batchSize : Nat)

/-- The orphans in the order in which they go. -/
theorem orphans_eq_take (db : DeviceDbManager) :
    ∃ sorted : List (String ×ₗ String), sorted.Perm (orphaned cutoff db) ∧
      db.orphans order cutoff batchSize = sorted.take batchSize := by
  refine ⟨((order.scan (db.userDevices.toList.filter (db.isOrphan cutoff))).mergeSort
    (fun a b => decide (a.2 ≤ b.2))).map Prod.fst, ?_, ?_⟩
  · exact ((List.mergeSort_perm _ _).trans (order.perm _)).map Prod.fst
  · rw [orphans, List.map_take]

/-- The orphans that a batch deletes are counted. -/
theorem removeOrphans_accounts (s : Cleanup) :
    storedRows (removeOrphans order cutoff batchSize s).db +
      (removeOrphans order cutoff batchSize s).result.deleted = storedRows s.db + s.result.deleted := by
  obtain ⟨sorted, hperm, htake⟩ := orphans_eq_take order cutoff batchSize s.db
  have hnodup : (s.db.orphans order cutoff batchSize).Nodup := by
    rw [htake]
    exact (hperm.nodup_iff.mpr (nodup_orphaned cutoff s.db)).sublist (List.take_sublist ..)
  have hin : ∀ key ∈ s.db.orphans order cutoff batchSize, s.db.userDevices.contains key = true := by
    intro key hkey
    rw [htake] at hkey
    obtain ⟨at_, hrow, -⟩ := mem_orphaned.mp (hperm.mem_iff.mp (List.mem_of_mem_take hkey))
    exact OrdMap.contains_iff.mpr ⟨at_, hrow⟩
  have hsize := OrdMap.size_foldl_erase hnodup hin
  simp only [removeOrphans, storedRows, RetentionCleanupResult.deleted]
  omega

theorem removeOrphans_shrinks (s : Cleanup) (key : String ×ₗ String) (at_ : Int)
    (h : (removeOrphans order cutoff batchSize s).db.userDevices[key]? = some at_) :
    s.db.userDevices[key]? = some at_ := by
  rw [removeOrphans, OrdMap.getElem?_foldl_erase] at h
  split at h
  · cases h
  · exact h

variable {order cutoff batchSize}

/-- A batch that was not full leaves no orphan. -/
theorem removeOrphans_drained {s : Cleanup}
    (h : (s.db.orphans order cutoff batchSize).length ≠ batchSize) :
    orphaned cutoff (removeOrphans order cutoff batchSize s).db = [] := by
  obtain ⟨sorted, hperm, htake⟩ := orphans_eq_take order cutoff batchSize s.db
  rw [htake] at h
  have hall := Draining.take_of_not_filled h
  apply List.eq_nil_iff_forall_not_mem.mpr
  intro key hkey
  obtain ⟨at_, hrow, horphan⟩ := mem_orphaned.mp hkey
  have hbefore : key ∈ orphaned cutoff s.db :=
    mem_orphaned.mpr ⟨at_, removeOrphans_shrinks order cutoff batchSize s key at_ hrow, horphan⟩
  have hpicked : key ∈ s.db.orphans order cutoff batchSize := by
    rw [htake, hall]
    exact hperm.mem_iff.mpr hbefore
  rw [removeOrphans, OrdMap.getElem?_foldl_erase, if_pos hpicked] at hrow
  cases hrow

theorem orphans_eq_nil {db : DeviceDbManager} (h : orphaned cutoff db = []) :
    db.orphans order cutoff batchSize = [] := by
  obtain ⟨sorted, hperm, htake⟩ := orphans_eq_take order cutoff batchSize db
  rw [h, List.perm_nil] at hperm
  rw [htake, hperm, List.take_nil]

end Orphans

/-! ## One call -/

/-- The work of a call: the statements for the candidates, and then the orphans. -/
theorem run_cleanupExpired {env : CleanupEnv} {cutoff : Int} {batchSize : Nat}
    {db : DeviceDbManager} {s' : Cleanup}
    (h : cleanupExpired env cutoff batchSize { db } = .ok ((), s')) :
    ∃ mid : Cleanup,
      forEach (db.retentionCandidates cutoff batchSize) (removeExpired env.fails true)
        { db, result := { deviceIds := db.retentionCandidates cutoff batchSize } } = .ok ((), mid) ∧
      s' = removeOrphans env.associations cutoff batchSize mid := by
  obtain ⟨_, s₁, h₁, h⟩ := run_bind.mp h
  obtain ⟨_, s₂, h₂, h⟩ := run_bind.mp h
  obtain ⟨s₃, s₄, h₃, h⟩ := run_bind.mp h
  obtain ⟨_, s₅, h₄, h⟩ := run_bind.mp h
  obtain ⟨_, s₆, h₅, h₆⟩ := run_bind.mp h
  have hs₁ := run_cleanupStatement h₁
  have hs₂ := run_cleanupStatement h₂
  have hs₅ := run_cleanupStatement h₅
  have hs₆ := run_cleanupStatement h₆
  cases h₃
  subst hs₁ hs₂
  exact ⟨s₅, h₄, by rw [hs₆, hs₅]; rfl⟩

/-- A call throws and leaves everything as it was, or it does its work. -/
theorem cleanupExpiredDevices_cases (env : CleanupEnv) (now retentionDays : Int)
    (batchSize : Nat) (db : DeviceDbManager) :
    (∃ error, db.cleanupExpiredDevices env now retentionDays batchSize = (.error error, db)) ∨
    (0 < batchSize ∧ ∃ mid : Cleanup,
      forEach (db.retentionCandidates (retentionCutoff now retentionDays) batchSize)
          (removeExpired env.fails true)
          { db, result := { deviceIds :=
            db.retentionCandidates (retentionCutoff now retentionDays) batchSize } } =
        .ok ((), mid) ∧
      db.cleanupExpiredDevices env now retentionDays batchSize =
        (.ok (removeOrphans env.associations (retentionCutoff now retentionDays) batchSize mid).result,
          (removeOrphans env.associations (retentionCutoff now retentionDays) batchSize mid).db)) := by
  unfold cleanupExpiredDevices
  by_cases harguments : retentionDays < 1 ∨ 3650 < retentionDays ∨ batchSize < 1 ∨ 1000 < batchSize
  · rw [if_pos harguments]
    exact .inl ⟨_, rfl⟩
  rw [if_neg harguments]
  cases hwork : cleanupExpired env (retentionCutoff now retentionDays) batchSize { db } with
  | error error =>
    left
    exact ⟨error, by simp [atomically, hwork, Except.map]⟩
  | ok r =>
    right
    have hrun : cleanupExpired env (retentionCutoff now retentionDays) batchSize { db } =
        .ok ((), r.2) := hwork
    obtain ⟨mid, hloop, hend⟩ := run_cleanupExpired hrun
    refine ⟨by omega, mid, hloop, ?_⟩
    rw [← hend]
    simp [atomically, hwork, Except.map]

/-- The same of `CleanupTemporaryControllers`. -/
theorem cleanupTemporaryControllers_cases (env : CleanupEnv) (batchSize : Nat)
    (deviceId : String) (db : DeviceDbManager) :
    (∃ error, db.cleanupTemporaryControllers env batchSize deviceId = (.error error, db)) ∨
    (0 < batchSize ∧ ∃ mid : Cleanup,
      forEach (db.controllerCandidates env.controllers batchSize deviceId) (removeExpired env.fails false)
          { db, result := { deviceIds := db.controllerCandidates env.controllers batchSize deviceId } } =
        .ok ((), mid) ∧
      db.cleanupTemporaryControllers env batchSize deviceId =
        (.ok { mid.result with
            more := deviceId == "" && mid.result.deviceIds.length == batchSize }, mid.db)) := by
  unfold cleanupTemporaryControllers
  by_cases harguments : batchSize < 1 ∨ 1000 < batchSize ∨
      (deviceId ≠ "" ∧ ¬ isTemporaryControllerId deviceId)
  · rw [if_pos harguments]
    exact .inl ⟨_, rfl⟩
  rw [if_neg harguments]
  cases hwork : cleanupControllers env batchSize deviceId { db } with
  | error error =>
    left
    exact ⟨error, by simp [atomically, hwork, Except.map]⟩
  | ok r =>
    right
    refine ⟨by omega, ?_⟩
    have hrun : cleanupControllers env batchSize deviceId { db } = .ok ((), r.2) := hwork
    obtain ⟨_, s₁, h₁, h⟩ := run_bind.mp hrun
    obtain ⟨_, s₂, h₂, h⟩ := run_bind.mp h
    obtain ⟨s₃, s₄, h₃, h⟩ := run_bind.mp h
    obtain ⟨_, s₅, h₄, h₅⟩ := run_bind.mp h
    have hs₁ := run_cleanupStatement h₁
    have hs₂ := run_cleanupStatement h₂
    have hs₅ := run_cleanupStatement h₅
    cases h₃
    subst hs₁ hs₂
    refine ⟨s₅, h₄, ?_⟩
    simp [atomically, hwork, Except.map, hs₅]

/-! ## Sequences of calls -/

/-- The calls of a sequence that all return end with one that does not report more. -/
theorem ends_of_progress {call : CleanupCall}
    (haccounts : ∀ (env : CleanupEnv) (db : DeviceDbManager)
      (result : RetentionCleanupResult), (call env db).1 = .ok result →
        storedRows (call env db).2 + result.deleted = storedRows db)
    (hprogress : ∀ (env : CleanupEnv) (db : DeviceDbManager)
      (result : RetentionCleanupResult), (call env db).1 = .ok result → result.more = true →
        0 < result.deleted)
    (envs : Nat → CleanupEnv) (db : DeviceDbManager)
    (hreturns : ∀ n : Nat, ∃ result,
      (call (envs n) (Draining.after (fun n db => (call (envs n) db).2) db n)).1 = .ok result) :
    ∃ n ≤ storedRows db, ∃ result : RetentionCleanupResult,
      (call (envs n) (Draining.after (fun n db => (call (envs n) db).2) db n)).1 = .ok result ∧
        result.more = false := by
  let more (n : Nat) (db : DeviceDbManager) : Prop :=
    ∃ result, (call (envs n) db).1 = .ok result ∧ result.more = true
  have hless : ∀ n db, more n db → storedRows (call (envs n) db).2 < storedRows db := by
    rintro n db ⟨result, hresult, hmore⟩
    have hrows := haccounts (envs n) db result hresult
    have hdeleted := hprogress (envs n) db result hresult hmore
    omega
  obtain ⟨n, hn, hnot⟩ := Draining.exists_rest hless db
  obtain ⟨result, hresult⟩ := hreturns n
  refine ⟨n, hn, result, hresult, ?_⟩
  cases hmore : result.more with
  | true => exact absurd ⟨result, hresult, hmore⟩ hnot
  | false => rfl

/-! ## Identities that are over -/

/-- The candidates are all the ids, or a full batch of them. -/
theorem retentionCandidates_subset (cutoff : Int) (batchSize : Nat) (db : DeviceDbManager) :
    db.retentionCandidates cutoff batchSize ⊆ db.unprotected cutoff := by
  intro e he
  exact (mem_retentionCandidates.mp he).1

theorem unprotected_subset_candidates {cutoff : Int} {batchSize : Nat} {db : DeviceDbManager}
    (h : (db.retentionCandidates cutoff batchSize).length ≠ batchSize) :
    db.unprotected cutoff ⊆ db.retentionCandidates cutoff batchSize := by
  intro e he
  rw [retentionCandidates, Draining.take_of_not_filled h]
  exact (List.mergeSort_perm _ _).mem_iff.mpr he

/-- A full batch is not empty. -/
theorem exists_mem_of_length {ids : List String} {batchSize : Nat} (h : ids.length = batchSize)
    (hpos : 0 < batchSize) : ∃ e, e ∈ ids :=
  List.length_pos_iff_exists_mem.mp (h ▸ hpos)

section Expired

variable (env : CleanupEnv) (now retentionDays : Int) (batchSize : Nat)
  (db : DeviceDbManager) (result : RetentionCleanupResult)

theorem cleanupExpiredDevices_returns (hdays : 1 ≤ retentionDays ∧ retentionDays ≤ 3650)
    (hbatch : 1 ≤ batchSize ∧ batchSize ≤ 1000)
    (hfails : ∀ statement : CleanupStatement, env.fails statement = false) :
    ∃ result, (db.cleanupExpiredDevices env now retentionDays batchSize).1 = .ok result := by
  obtain ⟨s', hrun⟩ := cleanupExpired_commits env hfails
    (retentionCutoff now retentionDays) batchSize { db }
  have harguments : ¬ (retentionDays < 1 ∨ 3650 < retentionDays ∨ batchSize < 1 ∨ 1000 < batchSize) := by
    omega
  rw [cleanupExpiredDevices, if_neg harguments]
  exact ⟨s'.result, by simp [atomically, hrun, Except.map]⟩

theorem cleanupExpiredDevices_accounts
    (h : (db.cleanupExpiredDevices env now retentionDays batchSize).1 = .ok result) :
    storedRows (db.cleanupExpiredDevices env now retentionDays batchSize).2 + result.deleted =
      storedRows db := by
  rcases cleanupExpiredDevices_cases env now retentionDays batchSize db with
    ⟨error, hcall⟩ | ⟨-, mid, hloop, hcall⟩
  · rw [hcall] at h
    cases h
  · rw [hcall] at h ⊢
    cases h
    rw [removeOrphans_accounts, (forEach_cleared hloop).accounts]
    rfl

theorem cleanupExpiredDevices_progress
    (h : (db.cleanupExpiredDevices env now retentionDays batchSize).1 = .ok result)
    (hmore : result.more = true) : 0 < result.deleted := by
  rcases cleanupExpiredDevices_cases env now retentionDays batchSize db with
    ⟨error, hcall⟩ | ⟨hpos, mid, hloop, hcall⟩
  · rw [hcall] at h
    cases h
  · rw [hcall] at h
    cases h
    have hcleared := forEach_cleared hloop
    have hids : mid.result.deviceIds =
        db.retentionCandidates (retentionCutoff now retentionDays) batchSize := hcleared.deviceIds
    simp only [removeOrphans, hids, Bool.or_eq_true, beq_iff_eq] at hmore
    simp only [removeOrphans, RetentionCleanupResult.deleted]
    rcases hmore with hfull | hfull
    · -- the first of the candidates has a row
      obtain ⟨e, he⟩ := exists_mem_of_length hfull hpos
      obtain ⟨id, hid, hstored⟩ := (selection_unprotected _).stored db e
        (retentionCandidates_subset _ _ db he)
      have hless := hcleared.deleted_lt he hid hstored
      simp only [RetentionCleanupResult.deleted] at hless
      omega
    · omega

theorem cleanupExpiredDevices_nothing_new :
    unprotected (retentionCutoff now retentionDays)
        (db.cleanupExpiredDevices env now retentionDays batchSize).2 ⊆
      unprotected (retentionCutoff now retentionDays) db ∧
    orphaned (retentionCutoff now retentionDays)
        (db.cleanupExpiredDevices env now retentionDays batchSize).2 ⊆
      orphaned (retentionCutoff now retentionDays) db := by
  rcases cleanupExpiredDevices_cases env now retentionDays batchSize db with
    ⟨error, hcall⟩ | ⟨-, mid, hloop, hcall⟩
  · rw [hcall]
    exact ⟨List.Subset.refl _, List.Subset.refl _⟩
  · rw [hcall]
    have hcleared := forEach_cleared hloop
    have hpicked := retentionCandidates_subset (retentionCutoff now retentionDays) batchSize db
    -- the orphans are in a table that the tests do not read
    have hremoved : Removed (db.retentionCandidates (retentionCutoff now retentionDays) batchSize) db
        (removeOrphans env.associations (retentionCutoff now retentionDays) batchSize mid).db :=
      ⟨hcleared.removed.devices, hcleared.removed.presence⟩
    refine ⟨(selection_unprotected _).shrinks db _ _ hpicked hremoved hcleared.sessions, ?_⟩
    have hkeeps := hremoved.keepsProtection hcleared.sessions
      (fun e he => unprotected_of_mem (hpicked he))
    exact hkeeps.orphaned_subset (fun key at_ hkey =>
      hcleared.associations key at_ (removeOrphans_shrinks _ _ batchSize mid key at_ hkey))

/-- Without an id or an association that is over, a call changes nothing. -/
theorem cleanupExpiredDevices_idle
    (hids : unprotected (retentionCutoff now retentionDays) db = [])
    (horphaned : orphaned (retentionCutoff now retentionDays) db = []) :
    (db.cleanupExpiredDevices env now retentionDays batchSize).2 = db ∧
    ((db.cleanupExpiredDevices env now retentionDays batchSize).1 = .ok result → result = {}) := by
  have hcandidates : db.retentionCandidates (retentionCutoff now retentionDays) batchSize = [] :=
    List.subset_nil.mp (hids ▸ retentionCandidates_subset _ batchSize db)
  rcases cleanupExpiredDevices_cases env now retentionDays batchSize db with
    ⟨error, hcall⟩ | ⟨hpos, mid, hloop, hcall⟩
  · rw [hcall]
    exact ⟨rfl, fun h => nomatch h⟩
  · rw [hcandidates] at hloop
    have hmid := run_pure.mp hloop
    cases hmid
    have hempty : (0 == batchSize) = false := beq_eq_false_iff_ne.mpr (by omega)
    rw [hcall]
    simp only [removeOrphans, orphans_eq_nil horphaned, List.foldl_nil, List.length_nil, hempty]
    exact ⟨trivial, fun h => (Except.ok.inj h).symm⟩

theorem cleanupExpiredDevices_rests
    (h : (db.cleanupExpiredDevices env now retentionDays batchSize).1 = .ok result)
    (hmore : result.more = false) :
    unprotected (retentionCutoff now retentionDays)
        (db.cleanupExpiredDevices env now retentionDays batchSize).2 = [] ∧
      orphaned (retentionCutoff now retentionDays)
        (db.cleanupExpiredDevices env now retentionDays batchSize).2 = [] := by
  rcases cleanupExpiredDevices_cases env now retentionDays batchSize db with
    ⟨error, hcall⟩ | ⟨-, mid, hloop, hcall⟩
  · rw [hcall] at h
    cases h
  · rw [hcall] at h ⊢
    cases h
    have hcleared := forEach_cleared hloop
    have hids : mid.result.deviceIds =
        db.retentionCandidates (retentionCutoff now retentionDays) batchSize := hcleared.deviceIds
    simp only [removeOrphans, hids, Bool.or_eq_false_iff, beq_eq_false_iff_ne] at hmore
    have hremoved : Removed (db.retentionCandidates (retentionCutoff now retentionDays) batchSize) db
        (removeOrphans env.associations (retentionCutoff now retentionDays) batchSize mid).db :=
      ⟨hcleared.removed.devices, hcleared.removed.presence⟩
    exact ⟨(selection_unprotected _).drained (retentionCandidates_subset _ batchSize db)
        (unprotected_subset_candidates hmore.1) hremoved hcleared.sessions,
      removeOrphans_drained hmore.2⟩

end Expired

/-! ## Temporary controllers -/

theorem controllerCandidates_eq_take (order : ScanOrder String) (batchSize : Nat)
    (db : DeviceDbManager) :
    db.controllerCandidates order batchSize "" = (order.scan db.idleControllers).take batchSize := rfl

theorem controllerCandidates_subset (order : ScanOrder String) (batchSize : Nat)
    (db : DeviceDbManager) : db.controllerCandidates order batchSize "" ⊆ db.idleControllers := by
  rw [controllerCandidates_eq_take]
  exact List.Subset.trans (List.take_subset ..) (order.perm _).subset

section Controllers

variable (env : CleanupEnv) (batchSize : Nat) (db : DeviceDbManager)
  (result : RetentionCleanupResult)

theorem cleanupTemporaryControllers_returns (hbatch : 1 ≤ batchSize ∧ batchSize ≤ 1000)
    {deviceId : String} (hid : deviceId ≠ "" → isTemporaryControllerId deviceId = true)
    (hfails : ∀ statement : CleanupStatement, env.fails statement = false) :
    ∃ result, (db.cleanupTemporaryControllers env batchSize deviceId).1 = .ok result := by
  obtain ⟨s', hrun⟩ := cleanupControllers_commits env hfails batchSize deviceId { db }
  have harguments : ¬ (batchSize < 1 ∨ 1000 < batchSize ∨
      (deviceId ≠ "" ∧ ¬ isTemporaryControllerId deviceId)) := by
    rintro (hless | hmore | ⟨hne, hnot⟩)
    · omega
    · omega
    · exact hnot (hid hne)
  rw [cleanupTemporaryControllers, if_neg harguments]
  exact ⟨s'.result, by simp [atomically, hrun, Except.map]⟩

theorem cleanupTemporaryControllers_accounts
    (h : (db.cleanupTemporaryControllers env batchSize "").1 = .ok result) :
    storedRows (db.cleanupTemporaryControllers env batchSize "").2 + result.deleted =
      storedRows db := by
  rcases cleanupTemporaryControllers_cases env batchSize "" db with
    ⟨error, hcall⟩ | ⟨-, mid, hloop, hcall⟩
  · rw [hcall] at h
    cases h
  · rw [hcall] at h ⊢
    cases h
    exact (forEach_cleared hloop).accounts

theorem cleanupTemporaryControllers_progress
    (h : (db.cleanupTemporaryControllers env batchSize "").1 = .ok result)
    (hmore : result.more = true) : 0 < result.deleted := by
  rcases cleanupTemporaryControllers_cases env batchSize "" db with
    ⟨error, hcall⟩ | ⟨hpos, mid, hloop, hcall⟩
  · rw [hcall] at h
    cases h
  · rw [hcall] at h
    cases h
    have hcleared := forEach_cleared hloop
    have hids : mid.result.deviceIds = db.controllerCandidates env.controllers batchSize "" :=
      hcleared.deviceIds
    simp only [hids, Bool.and_eq_true, beq_iff_eq] at hmore
    obtain ⟨e, he⟩ := exists_mem_of_length hmore.2 hpos
    obtain ⟨id, hid, hstored⟩ := selection_idleControllers.stored db e
      (controllerCandidates_subset _ batchSize db he)
    exact lt_of_le_of_lt (Nat.zero_le _) (hcleared.deleted_lt he hid hstored)

theorem cleanupTemporaryControllers_nothing_new :
    idleControllers (db.cleanupTemporaryControllers env batchSize "").2 ⊆ idleControllers db := by
  rcases cleanupTemporaryControllers_cases env batchSize "" db with
    ⟨error, hcall⟩ | ⟨-, mid, hloop, hcall⟩
  · rw [hcall]
    exact List.Subset.refl _
  · rw [hcall]
    have hcleared := forEach_cleared hloop
    exact selection_idleControllers.shrinks db mid.db _ (controllerCandidates_subset _ batchSize db)
      hcleared.removed hcleared.sessions

theorem cleanupTemporaryControllers_idle (hids : idleControllers db = []) :
    (db.cleanupTemporaryControllers env batchSize "").2 = db ∧
    ((db.cleanupTemporaryControllers env batchSize "").1 = .ok result → result = {}) := by
  have hcandidates : db.controllerCandidates env.controllers batchSize "" = [] := by
    have hsubset := controllerCandidates_subset env.controllers batchSize db
    rw [hids] at hsubset
    exact List.subset_nil.mp hsubset
  rcases cleanupTemporaryControllers_cases env batchSize "" db with
    ⟨error, hcall⟩ | ⟨hpos, mid, hloop, hcall⟩
  · rw [hcall]
    exact ⟨rfl, fun h => nomatch h⟩
  · rw [hcandidates] at hloop
    have hmid := run_pure.mp hloop
    cases hmid
    have hempty : (0 == batchSize) = false := beq_eq_false_iff_ne.mpr (by omega)
    rw [hcall]
    simp only [List.length_nil, hempty, Bool.and_false]
    exact ⟨trivial, fun h => (Except.ok.inj h).symm⟩

theorem cleanupTemporaryControllers_rests
    (h : (db.cleanupTemporaryControllers env batchSize "").1 = .ok result)
    (hmore : result.more = false) :
    idleControllers (db.cleanupTemporaryControllers env batchSize "").2 = [] := by
  rcases cleanupTemporaryControllers_cases env batchSize "" db with
    ⟨error, hcall⟩ | ⟨-, mid, hloop, hcall⟩
  · rw [hcall] at h
    cases h
  · rw [hcall] at h ⊢
    cases h
    have hcleared := forEach_cleared hloop
    have hids : mid.result.deviceIds = db.controllerCandidates env.controllers batchSize "" :=
      hcleared.deviceIds
    have hnot : ((env.controllers.scan db.idleControllers).take batchSize).length ≠ batchSize := by
      rw [← controllerCandidates_eq_take, ← hids]
      simpa using hmore
    have hall : db.idleControllers ⊆ db.controllerCandidates env.controllers batchSize "" := by
      rw [controllerCandidates_eq_take, Draining.take_of_not_filled hnot]
      exact (env.controllers.perm _).symm.subset
    exact selection_idleControllers.drained (controllerCandidates_subset _ batchSize db) hall
      hcleared.removed hcleared.sessions

end Controllers

/-! ## Both cleanups -/

/-- **Batches drain the backlog, and then the cleanup rests.** -/
theorem cleanup_drains_and_rests (now retentionDays : Int) (batchSize : Nat)
    (hdays : 1 ≤ retentionDays ∧ retentionDays ≤ 3650)
    (hbatch : 1 ≤ batchSize ∧ batchSize ≤ 1000) :
    DrainsAndRests (unprotected (retentionCutoff now retentionDays))
      (orphaned (retentionCutoff now retentionDays))
      (fun env db => db.cleanupExpiredDevices env now retentionDays batchSize) ∧
    DrainsAndRests idleControllers (fun _ => [])
      (fun env db => db.cleanupTemporaryControllers env batchSize "") := by
  constructor
  · have haccounts := fun env db =>
      cleanupExpiredDevices_accounts env now retentionDays batchSize db
    have hprogress := fun env db =>
      cleanupExpiredDevices_progress env now retentionDays batchSize db
    refine ⟨fun env db => cleanupExpiredDevices_returns env now retentionDays batchSize db hdays hbatch,
      haccounts, hprogress, ends_of_progress haccounts hprogress,
      fun env db => cleanupExpiredDevices_nothing_new env now retentionDays batchSize db, ?_⟩
    intro env env' db result h hmore
    obtain ⟨hids, horphaned⟩ :=
      cleanupExpiredDevices_rests env now retentionDays batchSize db result h hmore
    have hidle := fun result' => cleanupExpiredDevices_idle env' now retentionDays batchSize
      (db.cleanupExpiredDevices env now retentionDays batchSize).2 result' hids horphaned
    exact ⟨(hidle {}).1, fun result' => (hidle result').2⟩
  · have haccounts := fun env db => cleanupTemporaryControllers_accounts env batchSize db
    have hprogress := fun env db => cleanupTemporaryControllers_progress env batchSize db
    have hreturns := fun env db => cleanupTemporaryControllers_returns env batchSize db hbatch
      fun hid : "" ≠ "" => (hid rfl).elim
    refine ⟨hreturns, haccounts, hprogress,
      ends_of_progress haccounts hprogress,
      fun env db => ⟨cleanupTemporaryControllers_nothing_new env batchSize db,
        List.Subset.refl _⟩, ?_⟩
    intro env env' db result h hmore
    have hids := cleanupTemporaryControllers_rests env batchSize db result h hmore
    have hidle := fun result' => cleanupTemporaryControllers_idle env' batchSize
      (db.cleanupTemporaryControllers env batchSize "").2 result' hids
    exact ⟨(hidle {}).1, fun result' => (hidle result').2⟩

/-- With batches of two, and thirty days. -/
theorem cleanup_drains_and_rests_in_twos :
    DrainsAndRests (unprotected (retentionCutoff 10000000 30))
      (orphaned (retentionCutoff 10000000 30))
      (fun env db => db.cleanupExpiredDevices env 10000000 30 2) ∧
    DrainsAndRests idleControllers (fun _ => [])
      (fun env db => db.cleanupTemporaryControllers env 2 "") :=
  cleanup_drains_and_rests 10000000 30 2 (by decide) (by decide)

end DeviceDbManager

end CrossDesk
