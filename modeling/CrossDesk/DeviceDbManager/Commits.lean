import CrossDesk.DeviceDbManager.ReconnectRuns

/-!
# What a device logs in with

The `credential` of a device is its password record and its login key. Most calls leave every
credential alone or take it away with its device (`Loses`). Three calls do more, and each compares
what is stored first: `CommitPassword` replaces a record that is still the expected one,
`BindLoginPublicKey` binds a key to a device that has none, and `RegisterDevice` adds a device that is
not there.
-/

namespace CrossDesk

namespace DeviceDbManager

/-- Devices are left alone or deleted. -/
def Loses (db db' : DeviceDbManager) : Prop :=
  ∀ d : String, credential d db' = credential d db ∨ credential d db' = none

theorem Loses.of_same {db db' : DeviceDbManager} (h : db'.devices = db.devices) : Loses db db' := by
  intro d
  rw [credential, credential, h]
  exact .inl rfl

theorem Loses.trans {db db' db'' : DeviceDbManager} (h : Loses db db') (h' : Loses db' db'') :
    Loses db db'' := by
  intro d
  rcases h' d with hsame | hgone
  · rw [hsame]
    exact h d
  · exact .inr hgone

theorem Deletes.loses {db db' : DeviceDbManager} (h : Deletes db db') : Loses db db' := fun d =>
  (h d).imp And.left And.left

/-! ## Calls that leave the devices alone -/

theorem updateDeviceClientInfo_devices (fails : Bool) (now : Int) (id version platform : String)
    (db : DeviceDbManager) :
    (db.updateDeviceClientInfo fails now id version platform).2.devices = db.devices := by
  unfold updateDeviceClientInfo updateDailyControllerKind
  dsimp only
  split_ifs <;> rfl

theorem startRemoteControlSession_devices (fails : Bool) (now : Int)
    (transmissionId hostId guestId : String) (db : DeviceDbManager) :
    (db.startRemoteControlSession fails now transmissionId hostId guestId).2.devices =
      db.devices := by
  unfold startRemoteControlSession
  split
  · rfl
  · split <;> rfl

theorem endRemoteControlSession_devices (fails : Bool) (now : Int) (transmissionId guestId : String)
    (db : DeviceDbManager) :
    (db.endRemoteControlSession fails now transmissionId guestId).2.devices = db.devices := by
  unfold endRemoteControlSession
  split
  · rfl
  · dsimp only
    split <;> rfl

theorem endRemoteControlTransmission_devices (fails : Bool) (now : Int) (transmissionId : String)
    (db : DeviceDbManager) :
    (db.endRemoteControlTransmission fails now transmissionId).2.devices = db.devices := by
  unfold endRemoteControlTransmission
  split
  · rfl
  · generalize db.sessionsOf transmissionId = sessions
    suffices h : ∀ r : Bool × DeviceDbManager, (sessions.foldl (fun r entry =>
        let r' := endRemoteControlSession fails now transmissionId (ofLex entry.1).2 r.2
        (r'.1 && r.1, r'.2)) r).2.devices = r.2.devices from h _
    intro r
    induction sessions generalizing r with
    | nil => rfl
    | cons entry sessions ih =>
      rw [List.foldl_cons, ih]
      exact endRemoteControlSession_devices _ _ _ _ _

theorem setDeviceOnline_devices (fails : Bool) (now : Int) (id : String) (online : Bool)
    (db : DeviceDbManager) : (db.setDeviceOnline fails now id online).2.devices = db.devices := by
  unfold setDeviceOnline
  split <;> rfl

theorem issueReconnectCredential_devices (sha : Sha256) (fails : Bool) (now : Int)
    (random : Option (Vector UInt8 32)) (id : String) (db : DeviceDbManager) :
    (db.issueReconnectCredential sha fails now random id).2.devices = db.devices := by
  rcases issue_cases sha fails now random id db with hnone | ⟨bytes, password, -, -, hsome⟩
  · rw [hnone]
  · rw [hsome]

theorem revokeReconnectCredential_devices (fails : Bool) (id : String) (db : DeviceDbManager) :
    (db.revokeReconnectCredential fails id).2.devices = db.devices := by
  unfold revokeReconnectCredential
  split <;> rfl

/-! ## Commits -/

/-- A commit that succeeds found the snapshot stored, and stores the replacement. -/
theorem commitPassword_true {fails : Bool} {deviceId : String}
    {expected replacement : DevicePasswordRecord} {db db' : DeviceDbManager}
    (h : db.commitPassword fails deviceId expected replacement = (true, db')) :
    ∃ key : String, credential deviceId db = some (expected, key) ∧
      ∀ d : String, credential d db' =
        if d = deviceId then some (replacement, key) else credential d db := by
  unfold commitPassword at h
  split at h
  · cases h
  · split at h
    · cases h
    · next hread =>
      rw [ne_eq, not_not, readPassword] at hread
      split at hread
      · cases hread
      · obtain ⟨row, hrow, rfl⟩ := Option.map_eq_some_iff.mp hread
        have hcredential : credential deviceId db = some (row.password, row.loginPublicKey) := by
          rw [credential, hrow, Option.map_some]
        refine ⟨row.loginPublicKey, hcredential, fun d => ?_⟩
        split at h
        · next hsame =>
          cases h
          split
          · next hd => rw [hd, hcredential, hsame]
          · rfl
        · rw [hrow] at h
          cases h
          unfold replacePassword forgetReconnectCredential credential
          dsimp only
          split
          · next hd =>
            subst hd
            rw [Std.ExtTreeMap.getElem?_insert_self, Option.map_some]
          · next hd =>
            have hother : (db.devices.insert deviceId { row with password := replacement })[d]? =
                db.devices[d]? := by grind
            rw [hother]

/-- A binding that succeeds found the device without a key. -/
theorem bindLoginPublicKey_true {fails : Bool} {deviceId : String}
    {verified : DevicePasswordRecord} {publicKey : String} {db db' : DeviceDbManager}
    (h : db.bindLoginPublicKey fails deviceId verified publicKey = (true, db')) :
    credential deviceId db = some (verified, "") ∧
      ∀ d : String, credential d db' =
        if d = deviceId then some (verified, publicKey) else credential d db := by
  unfold bindLoginPublicKey at h
  split at h
  · cases h
  · split at h
    · cases h
    · next row hrow =>
      split at h
      · next hfree =>
        cases h
        have hcredential : credential deviceId db = some (verified, "") := by
          rw [credential, hrow, Option.map_some, hfree.1, hfree.2]
        refine ⟨hcredential, fun d => ?_⟩
        unfold replaceLoginPublicKey forgetReconnectCredential credential
        dsimp only
        split
        · next hd =>
          subst hd
          rw [Std.ExtTreeMap.getElem?_insert_self, Option.map_some, hfree.2]
        · next hd =>
          have hother : (db.devices.insert deviceId { row with loginPublicKey := publicKey })[d]? =
              db.devices[d]? := by grind
          rw [hother]
      · cases h

/-- A registration adds one device that was not there. -/
theorem registerDevice_credential (fails : Bool) (now : Int) (generated kind password : String)
    (record : DevicePasswordRecord) (loginPublicKey : String) (db : DeviceDbManager) (d : String) :
    credential d (db.registerDevice fails now generated kind password record loginPublicKey).2 =
        credential d db ∨
      credential d db = none ∧
        credential d (db.registerDevice fails now generated kind password record loginPublicKey).2 =
          some (record, loginPublicKey) := by
  unfold registerDevice
  split
  · exact .inl rfl
  · dsimp only
    generalize (if isTemporaryControllerRegistration kind then kind ++ "-" ++ generated
      else generated) = newId
    split
    · exact .inl rfl
    · next hfree =>
      simp only [Bool.or_eq_true, not_or, Bool.not_eq_true] at hfree
      unfold credential
      dsimp only
      by_cases hd : d = newId
      · subst hd
        right
        rw [Std.ExtTreeMap.getElem?_insert_self]
        have habsent : db.devices[d]? = none := by grind
        exact ⟨by rw [habsent]; rfl, rfl⟩
      · left
        have hother : (db.devices.insert newId
            { password := record, loginPublicKey, retentionStartedAt := now })[d]? =
            db.devices[d]? := by grind
        rw [hother]

end DeviceDbManager

end CrossDesk
