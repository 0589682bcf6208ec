import CrossDesk.DeviceDbManager.AdminDataSafety
import CrossDesk.DeviceDbManager.RetentionDrain

/-!
# What the calls of the store spare

Two calls say who is online (`SetDeviceOnline`), and one starts sessions. All the others leave the online
flags as they are, add no session, and take the row of a temporary controller only while it is offline
and named by no session (`Spares`): deleting calls look at both first, in the transaction that deletes.
-/

namespace CrossDesk.DeviceDbManager

open Transaction

variable {db db' db'' : DeviceDbManager}

/-- The session has its row, with the same host. -/
def HasSession (key : SessionKey) (hostId : String) (db : DeviceDbManager) : Prop :=
  ∃ row : SessionRow, db.remoteControlSessions[key]? = some row ∧ row.hostId = hostId

/-- What a call leaves. -/
structure Spares (db db' : DeviceDbManager) : Prop where
  online : ∀ id : String, db'.online id = db.online id
  sessions : ∀ (key : SessionKey) (hostId : String), HasSession key hostId db' →
    HasSession key hostId db
  controllers : ∀ u : String, isTemporaryControllerId u = true → db.devices.contains u = true →
    (db.online u = true ∨ ∃ tx hostId : String, HasSession (sessionKey tx u) hostId db') →
    db'.devices.contains u = true

theorem Spares.refl (db : DeviceDbManager) : Spares db db :=
  ⟨fun _ => rfl, fun _ _ h => h, fun _ _ h _ => h⟩

theorem Spares.trans (h : Spares db db') (h' : Spares db' db'') : Spares db db'' where
  online := fun id => (h'.online id).trans (h.online id)
  sessions := fun key hostId hrow => h.sessions key hostId (h'.sessions key hostId hrow)
  controllers := by
    intro u htemporary hdevice hkept
    rcases hkept with honline | ⟨tx, hostId, hrow⟩
    · refine h'.controllers u htemporary (h.controllers u htemporary hdevice (.inl honline)) (.inl ?_)
      rw [h.online]
      exact honline
    · have hmid := h.controllers u htemporary hdevice
        (.inr ⟨tx, hostId, h'.sessions _ _ hrow⟩)
      exact h'.controllers u htemporary hmid (.inr ⟨tx, hostId, hrow⟩)

/-- A call that deletes no device. -/
theorem Spares.of_devices (honline : ∀ id : String, db'.online id = db.online id)
    (hsessions : ∀ (key : SessionKey) (hostId : String), HasSession key hostId db' →
      HasSession key hostId db)
    (hdevices : ∀ u : String, db.devices.contains u = true → db'.devices.contains u = true) :
    Spares db db' :=
  ⟨honline, hsessions, fun u _ hdevice _ => hdevices u hdevice⟩

theorem HasSession.of_sessions {key : SessionKey} {hostId : String}
    (h : db'.remoteControlSessions = db.remoteControlSessions) (hrow : HasSession key hostId db') :
    HasSession key hostId db := by
  unfold HasSession at hrow ⊢
  rwa [h] at hrow

theorem online_of_presence (h : db'.devicePresence = db.devicePresence) (id : String) :
    db'.online id = db.online id := by
  unfold online
  rw [h]

/-- A call about other tables. -/
theorem Spares.of_same (hpresence : db'.devicePresence = db.devicePresence)
    (hsessions : db'.remoteControlSessions = db.remoteControlSessions)
    (hdevices : db'.devices = db.devices) : Spares db db' :=
  .of_devices (online_of_presence hpresence) (fun _ _ => .of_sessions hsessions)
    fun u hdevice => by rwa [hdevices]

/-! ## Presence and activity -/

/-- A row that keeps its flag. -/
theorem online_insert {id : String} {row : PresenceRow}
    (h : row.online = db.online id) (id' : String) :
    online id' { db with devicePresence := db.devicePresence.insert id row } = db.online id' := by
  unfold online
  rw [Std.ExtTreeMap.getElem?_insert]
  by_cases hid : id = id'
  · subst hid
    rw [if_pos Std.ReflOrd.compare_self, Option.any_some, h, online]
  · rw [if_neg fun heq => hid (Std.LawfulEqOrd.eq_of_compare heq)]

theorem setDeviceOnline_online (now : Int) (id id' : String) (isOnline : Bool) :
    (db.setDeviceOnline false now id isOnline).2.online id' =
      if id' = id then isOnline else db.online id' := by
  unfold setDeviceOnline online
  rw [if_neg Bool.false_ne_true]
  dsimp only
  rw [Std.ExtTreeMap.getElem?_insert]
  by_cases hid : id' = id
  · subst hid
    rw [if_pos Std.ReflOrd.compare_self, if_pos rfl]
    rfl
  · rw [if_neg fun heq => hid (Std.LawfulEqOrd.eq_of_compare heq).symm, if_neg hid]

theorem setDeviceOnline_sessions (fails : Bool) (now : Int) (id : String) (isOnline : Bool) :
    (db.setDeviceOnline fails now id isOnline).2.remoteControlSessions =
      db.remoteControlSessions := by
  unfold setDeviceOnline
  split <;> rfl

theorem ensurePresence_online (now : Int) (id id' : String) :
    (ensurePresence now id db).online id' = db.online id' := by
  unfold ensurePresence online
  dsimp only
  rw [Std.ExtTreeMap.getElem?_insertIfNew]
  by_cases hid : compare id id' = .eq ∧ id ∉ db.devicePresence
  · obtain ⟨hsame, hnew⟩ := hid
    obtain rfl := Std.LawfulEqOrd.eq_of_compare hsame
    rw [if_pos ⟨hsame, hnew⟩, Std.ExtTreeMap.getElem?_eq_none hnew]
    rfl
  · rw [if_neg hid]

theorem recordRuntimeHeartbeat_spares (now : Int) : Spares db (db.recordRuntimeHeartbeat now) := by
  refine .of_same ?_ ?_ ?_
  all_goals
    unfold recordRuntimeHeartbeat refreshDailyControllerActivity
    dsimp only
    split <;> rfl

theorem updateDeviceClientInfo_spares (fails : Bool) (now : Int) (id version platform : String) :
    Spares db (db.updateDeviceClientInfo fails now id version platform).2 := by
  unfold updateDeviceClientInfo
  split
  · exact .refl db
  · dsimp only
    generalize (if isMobilePlatform platform then _ else _ : String) = stored
    have hrow : ((db.devicePresence[id]?).getD { online := false, updatedAt := now }).online =
        db.online id := by
      unfold online
      cases db.devicePresence[id]? <;> rfl
    have hmid : Spares db { db with
        devicePresence := db.devicePresence.insert id
          { (db.devicePresence[id]?).getD { online := false, updatedAt := now } with
            clientVersion := version, clientPlatform := stored } } :=
      .of_devices (online_insert hrow) (fun _ _ h => h) fun _ h => h
    refine hmid.trans ?_
    split
    · exact .refl _
    · refine .of_same ?_ ?_ ?_
      all_goals
        unfold updateDailyControllerKind
        dsimp only
        split <;> rfl

/-! ## Sessions -/

theorem hasSession_erase {key key' : SessionKey} {hostId : String} {sessions : OrdMap SessionKey SessionRow}
    (h : ∃ row : SessionRow, (sessions.erase key)[key']? = some row ∧ row.hostId = hostId) :
    key' ≠ key ∧ ∃ row : SessionRow, sessions[key']? = some row ∧ row.hostId = hostId := by
  obtain ⟨row, hrow, hhost⟩ := h
  rw [Std.ExtTreeMap.getElem?_erase] at hrow
  split at hrow
  · cases hrow
  · next hother =>
    refine ⟨?_, row, hrow, hhost⟩
    rintro rfl
    exact hother Std.ReflOrd.compare_self

/-- A session that is left after another one ended. -/
theorem endRemoteControlSession_left {now : Int} {tx g : String} {key : SessionKey} {hostId : String}
    (htx : tx ≠ "") (hg : g ≠ "")
    (h : HasSession key hostId (db.endRemoteControlSession false now tx g).2) :
    key ≠ sessionKey tx g := by
  unfold endRemoteControlSession at h
  rw [if_neg (by simp [htx, hg])] at h
  exact (hasSession_erase h).1

theorem endRemoteControlSession_spares (fails : Bool) (now : Int) (tx g : String) :
    Spares db (db.endRemoteControlSession fails now tx g).2 := by
  unfold endRemoteControlSession
  split
  · exact .refl db
  · dsimp only
    have hrecorded : Spares db (recordDailyControllerActivity now (some (sessionKey tx g)) db) :=
      .of_same rfl rfl rfl
    split
    · exact hrecorded
    · exact hrecorded.trans (.of_devices (fun _ => rfl) (fun _ _ h => (hasSession_erase h).2)
        fun _ h => h)

theorem endRemoteControlTransmission_spares (fails : Bool) (now : Int) (tx : String) :
    Spares db (db.endRemoteControlTransmission fails now tx).2 := by
  unfold endRemoteControlTransmission
  split
  · exact .refl db
  · generalize db.sessionsOf tx = sessions
    suffices h : ∀ r : Bool × DeviceDbManager, Spares r.2 (sessions.foldl (fun r entry =>
        let r' := endRemoteControlSession fails now tx (ofLex entry.1).2 r.2
        (r'.1 && r.1, r'.2)) r).2 from h (true, db)
    intro r
    induction sessions generalizing r with
    | nil => exact .refl r.2
    | cons entry sessions ih =>
      rw [List.foldl_cons]
      refine Spares.trans ?_ (ih _)
      exact endRemoteControlSession_spares fails now tx (ofLex entry.1).2

/-- Starting a session adds its row at most, with the given host unless there was one. -/
theorem startRemoteControlSession_added {fails : Bool} {now : Int} {tx hostId g : String}
    {key : SessionKey} {hostId' : String}
    (h : HasSession key hostId' (db.startRemoteControlSession fails now tx hostId g).2) :
    HasSession key hostId' db ∨
      key = sessionKey tx g ∧ hostId' = hostId ∧ tx ≠ "" ∧ g ≠ "" := by
  unfold startRemoteControlSession at h
  split at h
  · exact .inl h
  · next hnamed =>
    simp only [not_or] at hnamed
    split at h
    · exact .inl h
    · obtain ⟨row, hrow, hhost⟩ := h
      have hstored : (db.remoteControlSessions.insert (sessionKey tx g)
          { (db.remoteControlSessions[sessionKey tx g]?).getD { hostId, startedAt := now } with
            activityConfirmed := true })[key]? = some row := hrow
      rw [Std.ExtTreeMap.getElem?_insert] at hstored
      split at hstored
      · next hkey =>
        obtain rfl := Std.LawfulEqOrd.eq_of_compare hkey
        cases hstored
        cases hold : db.remoteControlSessions[sessionKey tx g]? with
        | none =>
          rw [hold] at hhost
          exact .inr ⟨rfl, hhost.symm, hnamed.1, hnamed.2.2.1⟩
        | some old =>
          rw [hold] at hhost
          exact .inl ⟨old, hold, hhost⟩
      · exact .inl ⟨row, hstored, hhost⟩

theorem startRemoteControlSession_online (fails : Bool) (now : Int) (tx hostId g : String)
    (id : String) :
    (db.startRemoteControlSession fails now tx hostId g).2.online id = db.online id := by
  unfold startRemoteControlSession
  split
  · rfl
  · split
    · rfl
    · show (ensurePresence now (normalizeRemoteDeviceId g)
        (ensurePresence now (normalizeRemoteDeviceId hostId) db)).online id = _
      rw [ensurePresence_online, ensurePresence_online]

/-! ## Deletions -/

/-- A temporary controller is no alias. -/
theorem not_alias_of_temporary {u : String} (h : isTemporaryControllerId u = true) :
    isAlias u = false := by
  rcases (Bool.or_eq_true _ _).mp h with hweb | hcli
  · obtain ⟨t, rfl⟩ := startsWith_iff.mp hweb
    simp [isAlias, startsWith, List.isPrefixOf]
  · obtain ⟨t, rfl⟩ := startsWith_iff.mp hcli
    simp [isAlias, startsWith, List.isPrefixOf]

/-- A temporary controller is in the pair of itself only. -/
theorem eq_of_mem_pair {u e : String} (htemporary : isTemporaryControllerId u = true)
    (h : u ∈ pair e) : e = u := by
  rcases List.mem_cons.mp h with hsame | hclone
  · exact hsame.symm
  · have halias := not_alias_of_temporary htemporary
    rw [List.mem_singleton.mp hclone, isAlias_append] at halias
    cases halias

/-- A session that names a temporary controller as its guest protects it. -/
theorem inSession_of_hasSession {tx u hostId : String} (htemporary : isTemporaryControllerId u = true)
    (h : HasSession (sessionKey tx u) hostId db) : db.inSession u = true := by
  obtain ⟨row, hrow, -⟩ := h
  refine List.any_eq_true.mpr ⟨(sessionKey tx u, row), OrdMap.mem_toList.mpr hrow, ?_⟩
  have hnormalized : normalizedGuestId (sessionKey tx u) = u :=
    normalizeRemoteDeviceId_of_not_alias (not_alias_of_temporary htemporary)
  rw [Bool.or_eq_true, hnormalized]
  exact .inr (beq_self_eq_true u)

/-- The pairs that are deleted are offline, and named by no session. -/
theorem Removed.spares {ids : List String} (h : Removed ids db db')
    (hsessions : db'.remoteControlSessions = db.remoteControlSessions)
    (hoffline : ∀ e ∈ ids, ∀ id ∈ pair e, db.online id = false)
    (hunnamed : ∀ e ∈ ids, db.inSession e = false) : Spares db db' where
  online := by
    intro id
    by_cases hpair : ∃ e ∈ ids, id ∈ pair e
    · obtain ⟨e, he, hid⟩ := hpair
      rw [hoffline e he id hid, DeviceDbManager.online, h.presence.gone e he id hid]
      rfl
    · rw [DeviceDbManager.online, DeviceDbManager.online, h.presence.kept id (by grind)]
  sessions := fun _ _ => .of_sessions hsessions
  controllers := by
    intro u htemporary hdevice hkept
    have hpair : ∀ e ∈ ids, u ∉ pair e := by
      intro e he hu
      obtain rfl := eq_of_mem_pair htemporary hu
      rcases hkept with honline | ⟨tx, hostId, hrow⟩
      · rw [hoffline e he e hu] at honline
        cases honline
      · have hnamed := inSession_of_hasSession htemporary (hrow.of_sessions hsessions)
        rw [hunnamed e he] at hnamed
        cases hnamed
    rw [OrdMap.contains_iff] at hdevice ⊢
    rwa [h.devices.kept u hpair]

theorem cleanupExpiredDevices_spares (env : CleanupEnv) (now retentionDays : Int)
    (batchSize : Nat) : Spares db (db.cleanupExpiredDevices env now retentionDays batchSize).2 := by
  rcases cleanupExpiredDevices_cases env now retentionDays batchSize db with
    ⟨error, hcall⟩ | ⟨-, mid, hloop, hcall⟩
  · rw [hcall]
    exact .refl db
  · rw [hcall]
    have hcleared := forEach_cleared hloop
    have hunprotected : ∀ e ∈ db.retentionCandidates (retentionCutoff now retentionDays) batchSize,
        Unprotected (retentionCutoff now retentionDays) e db :=
      fun e he => unprotected_of_mem (retentionCandidates_subset _ batchSize db he)
    have hmid : Spares db mid.db := by
      refine hcleared.removed.spares hcleared.sessions (fun e he id hid => ?_)
        fun e he => (hunprotected e he).not_in_session
      unfold online
      cases hrow : db.devicePresence[id]? with
      | none => rfl
      | some row => exact ((hunprotected e he).not_live id hid row hrow).1
    exact hmid.trans (.of_same rfl rfl rfl)

theorem cleanupTemporaryControllers_spares (env : CleanupEnv) (batchSize : Nat)
    (deviceId : String) : Spares db (db.cleanupTemporaryControllers env batchSize deviceId).2 := by
  rcases cleanupTemporaryControllers_cases env batchSize deviceId db with
    ⟨error, hcall⟩ | ⟨-, mid, hloop, hcall⟩
  · rw [hcall]
    exact .refl db
  · rw [hcall]
    have hcleared := forEach_cleared hloop
    have htests : ∀ e ∈ db.controllerCandidates env.controllers batchSize deviceId,
        (pair e).any (fun id => db.online id) = false ∧ db.inSession e = false := by
      intro e he
      have hfound := (env.controllers.perm _).subset (List.mem_of_mem_take he)
      have hcandidate := (List.mem_filter.mp hfound).2
      simpa only [Bool.and_eq_true, Bool.not_eq_true'] using hcandidate
    refine hcleared.removed.spares hcleared.sessions (fun e he id hid => ?_)
      fun e he => (htests e he).2
    have hnone := List.any_eq_false.mp (htests e he).1 id hid
    simpa using hnone

theorem removeDevice_spares (fails : Bool) (id : String) : Spares db (db.removeDevice fails id).2 := by
  unfold removeDevice
  split
  · exact cleanupTemporaryControllers_spares _ _ _
  · next hdevice =>
    split
    · exact .refl db
    · obtain ⟨devices, reconnectCredentials, hdeleted⟩ := deleteDevice_kept id db
      refine ⟨fun _ => ?_, fun _ _ h => h.of_sessions ?_, fun u htemporary hkept _ => ?_⟩
      · exact online_of_presence (by rw [hdeleted]) _
      · rw [hdeleted]
      · rw [OrdMap.contains_iff] at hkept ⊢
        have hother : id ≠ u := by
          rintro rfl
          exact hdevice htemporary
        rw [deleteDevice_devices]
        rwa [Std.ExtTreeMap.getElem?_erase,
          if_neg fun heq => hother (Std.LawfulEqOrd.eq_of_compare heq)]

/-- The audit of an administrator's call, and its cleanup of one device. -/
theorem adminDeviceData_spares (env : AdminEnv) (request : AdminRequest) :
    Spares db (db.adminDeviceData env request).2 := by
  rcases adminDeviceData_cases env request db with ⟨error, hcall⟩ | ⟨statement, hcall⟩ |
    ⟨hvalid, reply, db', hwork, hcall⟩
  · rw [hcall]
    exact .refl db
  · rw [hcall]
    exact .refl db
  · rw [hcall]
    obtain ⟨removed, mid, hworked, rfl, -⟩ := run_adminWork hwork
    have hstep := hworked.work
    unfold cleanupStep at hstep
    split at hstep
    · obtain ⟨honline, hsessions, -, hremove⟩ := run_cleanupRelated hstep
      have hid : isAlias request.id = false := by
        simp only [AdminRequest.isValid, Bool.and_eq_true, Bool.not_eq_true'] at hvalid
        tauto
      have hcleaned : Cleaned request.id request.scope env.cleanedAt removed db _ :=
        @cleaned_of_removeRelated _ _ (auditRow env request removed.json) _ _ _ hid honline hsessions
          hremove
      refine ⟨fun id => ?_, fun _ _ h => h.of_sessions hcleaned.sessions, fun u htemporary hdevice hkept => ?_⟩
      · unfold online
        rw [hcleaned.presence]
        split
        · next hpair =>
          cases hrow : db.devicePresence[id]? with
          | none => rfl
          | some row => exact (hcleaned.not_online id hpair row hrow).symm
        · rfl
      · rw [OrdMap.contains_iff] at hdevice ⊢
        rw [hcleaned.devices, if_neg]
        · exact hdevice
        · intro hpair
          -- ⟨tx|A device that is online or in a session would have stopped the cleanup.
          rcases hkept with honline' | ⟨tx, hostId, hrow⟩
          · unfold online at honline'
            obtain ⟨row, hrow, honline'⟩ := (Option.any_eq_true _ _).mp honline'
            rw [hcleaned.not_online u hpair row hrow] at honline'
            cases honline'
          · obtain ⟨row, hrow, -⟩ := hrow.of_sessions hcleaned.sessions
            exact (hcleaned.not_in_session _ row hrow).2 hpair
    · cases run_pure.mp hstep
      exact .of_same rfl rfl rfl

/-! ## Commits -/

/-- A row that is written anew. -/
theorem spares_insert {devices : OrdMap String DeviceRow}
    {reconnectCredentials : OrdMap String ReconnectRow} {id : String} {row : DeviceRow}
    (hdevices : devices = db.devices.insert id row) :
    Spares db { db with devices, reconnectCredentials } := by
  refine .of_devices (fun _ => rfl) (fun _ _ h => h) fun u hdevice => ?_
  show devices.contains u = true
  rw [hdevices, Std.ExtTreeMap.contains_insert, hdevice, Bool.or_true]

theorem commitPassword_spares (fails : Bool) (deviceId : String)
    (expected replacement : DevicePasswordRecord) :
    Spares db (db.commitPassword fails deviceId expected replacement).2 := by
  unfold commitPassword
  split
  · exact .refl db
  · split
    · exact .refl db
    · split
      · exact .refl db
      · split
        · exact .refl db
        · exact spares_insert rfl

theorem bindLoginPublicKey_spares (fails : Bool) (deviceId : String)
    (verified : DevicePasswordRecord) (publicKey : String) :
    Spares db (db.bindLoginPublicKey fails deviceId verified publicKey).2 := by
  unfold bindLoginPublicKey
  split
  · exact .refl db
  · split
    · exact .refl db
    · split
      · exact spares_insert rfl
      · exact .refl db

theorem registerDevice_spares (fails : Bool) (now : Int) (generated kind password : String)
    (record : DevicePasswordRecord) (loginPublicKey : String) :
    Spares db (db.registerDevice fails now generated kind password record loginPublicKey).2 := by
  unfold registerDevice
  split
  · exact .refl db
  · dsimp only
    generalize (if isTemporaryControllerRegistration kind then kind ++ "-" ++ generated
      else generated) = newId
    split
    · exact .refl db
    · exact spares_insert rfl

end CrossDesk.DeviceDbManager
