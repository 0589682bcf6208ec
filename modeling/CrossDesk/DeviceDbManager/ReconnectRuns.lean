import CrossDesk.Lib.System
import CrossDesk.DeviceDbManager.RetentionSafety
import CrossDesk.DeviceDbManager.ReconnectCredential

/-!
# How long a reconnect credential is valid

A run is a sequence of calls, from a database without reconnect credentials. A credential is
`Current` when it is the last one that was issued to its device and nothing has happened since that
takes it away. `reconnect_valid_iff` says that exactly the current credentials are accepted, until
they are over.

* A deletion takes the credential of the device along, whichever way the device is deleted
  (`Deletes`, proved of each of the four deletions).
* `reconnect_step` says what one call does to the row of a device; `rows_current` is the induction
  over the run.
* A credential that is over by the clock of a restart is purged there, and stays so when the clock is
  set back afterwards (`purged_by_restart`).
-/

namespace CrossDesk.DeviceDbManager

open Transaction

/-! ## Tokens -/

theorem digitChar_isHex : ∀ n < 16, (('0' ≤ n.digitChar && n.digitChar ≤ '9') ||
    ('a' ≤ n.digitChar && n.digitChar ≤ 'f')) = true ∧ n.digitChar.utf8Size = 1 := by
  decide

/-- The text of `n` bytes has `2 n` lowercase hexadecimal digits. -/
theorem isHex_hexText (bytes : List UInt8) : isHex (hexText bytes) bytes.length = true := by
  have hdigits : ∀ byte : UInt8, byte.toNat / 16 < 16 ∧ byte.toNat % 16 < 16 := by
    intro byte
    have hsize := byte.toNat_lt
    omega
  unfold isHex hexText
  rw [String.utf8ByteSize_ofList, String.toList_ofList]
  induction bytes with
  | nil => rfl
  | cons byte bytes ih =>
    obtain ⟨hhigh, hlow⟩ := hdigits byte
    have hhigh' := digitChar_isHex _ hhigh
    have hlow' := digitChar_isHex _ hlow
    simp only [Bool.and_eq_true, beq_iff_eq] at ih ⊢
    simp only [List.flatMap_cons, List.cons_append, List.nil_append, String.utf8Len, ih.1, hhigh'.2,
      hlow'.2, List.length_cons, List.all_cons, hhigh'.1, hlow'.1, Bool.true_and, ih.2, and_true]
    omega

/-! ## Calls -/

/-- The calls of a run. `other` is anything that changes neither the devices nor the credentials. -/
inductive ReconnectCall where
  | registerDevice (fails : Bool) (now : Int) (generated kind password : String)
      (record : DevicePasswordRecord) (loginPublicKey : String)
  | issue (fails : Bool) (now : Int) (random : Option (Vector UInt8 32)) (deviceId : String)
  | revoke (fails : Bool) (deviceId : String)
  | commitPassword (fails : Bool) (deviceId : String) (expected replacement : DevicePasswordRecord)
  | bindLoginPublicKey (fails : Bool) (deviceId : String) (verified : DevicePasswordRecord)
      (publicKey : String)
  | removeDevice (fails : Bool) (deviceId : String)
  | cleanupExpiredDevices (env : CleanupEnv) (now retentionDays : Int)
      (batchSize : Nat)
  | cleanupTemporaryControllers (env : CleanupEnv) (batchSize : Nat)
      (deviceId : String)
  | adminDeviceData (env : AdminEnv) (request : AdminRequest)
  | restart (now : Int)
  | other (tables : DeviceDbManager)

namespace ReconnectCall

/-- What a call leaves behind. -/
def apply (sha : Sha256) (db : DeviceDbManager) : ReconnectCall → DeviceDbManager
  | registerDevice fails now generated kind password record loginPublicKey =>
    (db.registerDevice fails now generated kind password record loginPublicKey).2
  | issue fails now random deviceId => (db.issueReconnectCredential sha fails now random deviceId).2
  | revoke fails deviceId => (db.revokeReconnectCredential fails deviceId).2
  | commitPassword fails deviceId expected replacement =>
    (db.commitPassword fails deviceId expected replacement).2
  | bindLoginPublicKey fails deviceId verified publicKey =>
    (db.bindLoginPublicKey fails deviceId verified publicKey).2
  | removeDevice fails deviceId => (db.removeDevice fails deviceId).2
  | cleanupExpiredDevices env now retentionDays batchSize =>
    (db.cleanupExpiredDevices env now retentionDays batchSize).2
  | cleanupTemporaryControllers env batchSize deviceId =>
    (db.cleanupTemporaryControllers env batchSize deviceId).2
  | adminDeviceData env request => (db.adminDeviceData env request).2
  | restart now => db.initDb now
  | other tables =>
    { tables with devices := db.devices, reconnectCredentials := db.reconnectCredentials }

/-- The credential that the call issues to the device. -/
def issued (sha : Sha256) (d : String) (db : DeviceDbManager) :
    ReconnectCall → Option ReconnectCredential
  | issue fails now random deviceId =>
    if deviceId = d then (db.issueReconnectCredential sha fails now random deviceId).1 else none
  | _ => none

/-- The call revokes the credential of the device. -/
def revokes (d : String) (db : DeviceDbManager) : ReconnectCall → Bool
  | revoke fails deviceId => deviceId == d && (db.revokeReconnectCredential fails deviceId).1
  | _ => false

/-- The call is a restart that finds a credential over. -/
def purges (expiresAt : Int) : ReconnectCall → Bool
  | restart now => decide (expiresAt ≤ now)
  | _ => false

end ReconnectCall

/-- What a device logs in with: its password record and its login key. -/
def credential (d : String) (db : DeviceDbManager) : Option (DevicePasswordRecord × String) :=
  (db.devices[d]?).map (fun row => (row.password, row.loginPublicKey))

/-- A call of a run, with the database that it found. -/
structure ReconnectStep where
  call : ReconnectCall
  before : DeviceDbManager

/-- Runs of calls, from a database without reconnect credentials. -/
def reconnectSystem (sha : Sha256) : System DeviceDbManager ReconnectStep where
  start db := db.reconnectCredentials = ∅
  step db step db' := step.before = db ∧ db' = step.call.apply sha db

/-- The call takes the authorization of the device away: another credential is issued, the credential
is revoked, or the device is deleted, its password record changes or a login key is bound. -/
def Withdrawn (sha : Sha256) (d : String) (step : ReconnectStep) : Prop :=
  step.call.issued sha d step.before ≠ none ∨ step.call.revokes d step.before = true ∨
    credential d (step.call.apply sha step.before) ≠ credential d step.before

/-- The credential was issued to the device, and its authorization was not taken away since. -/
def Authorized (sha : Sha256) (d : String) (c : ReconnectCredential) (later : List ReconnectStep)
    (steps : List ReconnectStep) : Prop :=
  ∃ (earlier : List ReconnectStep) (step : ReconnectStep), steps = earlier ++ step :: later ∧
    step.call.issued sha d step.before = some c ∧ ∀ step' ∈ later, ¬ Withdrawn sha d step'

/-- The credential is authorized, and no restart found it over. -/
def Current (sha : Sha256) (d : String) (c : ReconnectCredential) (steps : List ReconnectStep) :
    Prop :=
  ∃ later : List ReconnectStep, Authorized sha d c later steps ∧
    ∀ step ∈ later, step.call.purges c.expiresAt = false

/-! ## Deletions -/

/-- Devices are left alone, or deleted together with their credentials. -/
def Deletes (db db' : DeviceDbManager) : Prop :=
  ∀ d : String, (credential d db' = credential d db ∧
      db'.reconnectCredentials[d]? = db.reconnectCredentials[d]?) ∨
    (credential d db' = none ∧ db'.reconnectCredentials[d]? = none)

theorem Deletes.of_same {db db' : DeviceDbManager} (hdevices : db'.devices = db.devices)
    (hreconnect : db'.reconnectCredentials = db.reconnectCredentials) : Deletes db db' := by
  intro d
  left
  rw [credential, credential, hdevices, hreconnect]
  exact ⟨rfl, rfl⟩

theorem Deletes.trans {db db' db'' : DeviceDbManager} (h : Deletes db db') (h' : Deletes db' db'') :
    Deletes db db'' := by
  intro d
  rcases h' d with ⟨hdevice', hrow'⟩ | hgone
  · rw [hdevice', hrow']
    exact h d
  · exact .inr hgone

theorem deleteDevice_deletes (deviceId : String) (db : DeviceDbManager) :
    Deletes db (db.deleteDevice deviceId) := by
  intro d
  by_cases hgone : d = deviceId ∧ db.devices.contains deviceId = true
  · right
    rw [deleteDevice_reconnect, if_pos hgone, credential, deleteDevice_devices, hgone.1]
    simp
  · left
    rw [deleteDevice_reconnect, if_neg hgone, credential, credential, deleteDevice_devices]
    refine ⟨?_, rfl⟩
    by_cases hsame : d = deviceId
    · have habsent : db.devices[d]? = none := by
        rw [← Option.not_isSome_iff_eq_none, ← Std.ExtTreeMap.contains_eq_isSome_getElem?, hsame]
        exact fun hin => hgone ⟨hsame, hin⟩
      rw [OrdMap.erase_eq_self (hsame ▸ habsent)]
    · have hother : (db.devices.erase deviceId)[d]? = db.devices[d]? := by grind
      rw [hother]

theorem removeCredentials_deletes (id : String) (db : DeviceDbManager) :
    Deletes db (db.removeCredentials id).2 :=
  (deleteDevice_deletes id db).trans (deleteDevice_deletes ("C-" ++ id) (db.deleteDevice id))

/-- A statement of a cleanup that touches neither the devices nor the credentials. -/
theorem cleanupStatement_deletes {fails : CleanupStatement → Bool} {statement : CleanupStatement}
    {f : Cleanup → Cleanup} {s s' : Cleanup}
    (h : cleanupStatement fails statement f s = .ok ((), s'))
    (hf : ∀ s, Deletes s.db (f s).db) : Deletes s.db s'.db := by
  rw [run_cleanupStatement h]
  exact hf s

theorem removeExpired_deletes {fails : CleanupStatement → Bool} {activity : Bool} {id : String}
    {s s' : Cleanup} (h : removeExpired fails activity id s = .ok ((), s')) :
    Deletes s.db s'.db := by
  obtain ⟨_, s₁, h₁, h⟩ := run_bind.mp h
  obtain ⟨_, s₂, h₂, h⟩ := run_bind.mp h
  obtain ⟨_, s₃, h₃, h⟩ := run_bind.mp h
  have hdeletes : Deletes s.db s₃.db := by
    refine (cleanupStatement_deletes h₁ (fun _ => ?_)).trans
      ((cleanupStatement_deletes h₂ (fun _ => ?_)).trans
        (cleanupStatement_deletes h₃ (fun s => ?_)))
    · exact .of_same rfl rfl
    · exact .of_same rfl rfl
    · exact removeCredentials_deletes id s.db
  split at h
  · exact hdeletes.trans (cleanupStatement_deletes h (fun _ => .of_same rfl rfl))
  · cases run_pure.mp h
    exact hdeletes

theorem forEach_deletes {fails : CleanupStatement → Bool} {activity : Bool} {ids : List String}
    {s s' : Cleanup} (h : forEach ids (removeExpired fails activity) s = .ok ((), s')) :
    Deletes s.db s'.db :=
  forEach_keeps (P := fun s' => Deletes s.db s'.db)
    (fun _ _ _ _ hs hrun => hs.trans (removeExpired_deletes hrun)) (.of_same rfl rfl) h

theorem cleanupExpiredDevices_deletes (env : CleanupEnv) (now retentionDays : Int)
    (batchSize : Nat) (db : DeviceDbManager) :
    Deletes db (db.cleanupExpiredDevices env now retentionDays batchSize).2 := by
  unfold cleanupExpiredDevices
  split
  · exact .of_same rfl rfl
  · show Deletes db (atomically _ ({ db } : Cleanup)).2.db
    cases hrun : (atomically (cleanupExpired env (retentionCutoff now retentionDays) batchSize)
      ({ db } : Cleanup)).1 with
    | error error =>
      rw [atomically_error hrun]
      exact .of_same rfl rfl
    | ok value =>
      obtain ⟨_, s₁, h₁, h⟩ := run_bind.mp (atomically_ok hrun)
      obtain ⟨_, s₂, h₂, h⟩ := run_bind.mp h
      obtain ⟨s₃, s₄, h₃, h⟩ := run_bind.mp h
      obtain ⟨_, s₅, h₄, h⟩ := run_bind.mp h
      obtain ⟨_, s₆, h₅, h₆⟩ := run_bind.mp h
      cases h₃
      have hbegun := cleanupStatement_deletes h₁ (fun _ => .of_same rfl rfl)
      have hchosen := cleanupStatement_deletes h₂ (fun _ => .of_same rfl rfl)
      have horphans := cleanupStatement_deletes h₅ (fun _ => .of_same rfl rfl)
      have hcommitted := cleanupStatement_deletes h₆ (fun _ => .of_same rfl rfl)
      exact hbegun.trans (hchosen.trans ((forEach_deletes h₄).trans (horphans.trans hcommitted)))

theorem cleanupTemporaryControllers_deletes (env : CleanupEnv) (batchSize : Nat)
    (deviceId : String) (db : DeviceDbManager) :
    Deletes db (db.cleanupTemporaryControllers env batchSize deviceId).2 := by
  unfold cleanupTemporaryControllers
  split
  · exact .of_same rfl rfl
  · show Deletes db (atomically _ ({ db } : Cleanup)).2.db
    cases hrun : (atomically (cleanupControllers env batchSize deviceId) ({ db } : Cleanup)).1 with
    | error error =>
      rw [atomically_error hrun]
      exact .of_same rfl rfl
    | ok value =>
      obtain ⟨_, s₁, h₁, h⟩ := run_bind.mp (atomically_ok hrun)
      obtain ⟨_, s₂, h₂, h⟩ := run_bind.mp h
      obtain ⟨s₃, s₄, h₃, h⟩ := run_bind.mp h
      obtain ⟨_, s₅, h₄, h₅⟩ := run_bind.mp h
      cases h₃
      have hbegun := cleanupStatement_deletes h₁ (fun _ => .of_same rfl rfl)
      have hchosen := cleanupStatement_deletes h₂ (fun _ => .of_same rfl rfl)
      have hcommitted := cleanupStatement_deletes h₅ (fun _ => .of_same rfl rfl)
      exact hbegun.trans (hchosen.trans ((forEach_deletes h₄).trans hcommitted))

theorem removeDevice_deletes (fails : Bool) (deviceId : String) (db : DeviceDbManager) :
    Deletes db (db.removeDevice fails deviceId).2 := by
  unfold removeDevice
  split
  · exact cleanupTemporaryControllers_deletes _ _ _ _
  · split
    · exact .of_same rfl rfl
    · exact deleteDevice_deletes deviceId db

theorem restartRetention_deletes (now : Int) (id : String) (db : DeviceDbManager) :
    Deletes db (restartRetention now id db) := by
  intro d
  refine .inl ⟨?_, rfl⟩
  rw [credential, restartRetention_devices, credential, Option.map_map]
  congr 1
  funext row
  by_cases hd : d ∈ pair id <;> simp [hd]

theorem historyRemoved_deletes (id : String) (db : DeviceDbManager) :
    Deletes db (historyRemoved id db) := .of_same rfl rfl

theorem adminDeviceData_deletes (env : AdminEnv) (request : AdminRequest) (db : DeviceDbManager) :
    Deletes db (db.adminDeviceData env request).2 := by
  rcases adminDeviceData_cases env request db with ⟨error, hcall⟩ | ⟨statement, hcall⟩ |
    ⟨_, reply, db', hwork, hcall⟩
  · rw [hcall]
    exact .of_same rfl rfl
  · rw [hcall]
    exact .of_same rfl rfl
  · rw [hcall]
    obtain ⟨removed, mid, hworked, rfl, -⟩ := run_adminWork hwork
    have haudit : Deletes mid (insertAudit (auditRow env request removed.json) mid).2 :=
      .of_same rfl rfl
    refine Deletes.trans ?_ haudit
    have hstep := hworked.work
    unfold cleanupStep at hstep
    split at hstep
    · obtain ⟨-, -, -, hremove⟩ := run_cleanupRelated hstep
      rcases run_removeRelated hremove with ⟨-, rfl, -⟩ | ⟨-, rfl, -⟩
      · exact (historyRemoved_deletes request.id db).trans (removeCredentials_deletes _ _)
      · exact (historyRemoved_deletes request.id db).trans (restartRetention_deletes _ _ _)
    · cases run_pure.mp hstep
      exact .of_same rfl rfl

/-! ## One call -/

/-- A reconnect credential belongs to a device without a login key. -/
def Owned (db : DeviceDbManager) : Prop :=
  ∀ (d : String) (row : ReconnectRow), db.reconnectCredentials[d]? = some row →
    ∃ password : DevicePasswordRecord, credential d db = some (password, "")

/-- The row of the device stays exactly if its authorization does. -/
def FollowsDevice (db db' : DeviceDbManager) : Prop :=
  ∀ (d : String) (row : ReconnectRow), db'.reconnectCredentials[d]? = some row ↔
    db.reconnectCredentials[d]? = some row ∧ credential d db' = credential d db

theorem Deletes.followsDevice {db db' : DeviceDbManager} (h : Deletes db db') (howned : Owned db) :
    FollowsDevice db db' := by
  intro d row
  rcases h d with ⟨hdevice, hrow⟩ | ⟨hdevice, hrow⟩
  · rw [hrow]
    exact (and_iff_left hdevice).symm
  · rw [hrow, hdevice]
    refine ⟨fun hsome => absurd hsome (Option.some_ne_none row).symm, ?_⟩
    rintro ⟨hsome, hnone⟩
    obtain ⟨password, hpassword⟩ := howned d row hsome
    rw [hpassword] at hnone
    cases hnone

/-- A device whose credential is replaced loses its reconnect credential. -/
theorem followsDevice_replaced {deviceId : String} {row row' : DeviceRow} {db : DeviceDbManager}
    (hrow : db.devices[deviceId]? = some row)
    (hchanged : (row'.password, row'.loginPublicKey) ≠ (row.password, row.loginPublicKey)) :
    FollowsDevice db (forgetReconnectCredential deviceId { db with
      devices := db.devices.insert deviceId row' }) := by
  intro d r
  unfold forgetReconnectCredential credential
  by_cases hd : d = deviceId
  · subst hd
    have hgone : (db.reconnectCredentials.erase d)[d]? = none := by grind
    have hnew : (db.devices.insert d row')[d]? = some row' := by grind
    simp only [hgone, hnew, hrow, Option.map_some, Option.some.injEq]
    exact ⟨fun h => absurd h (Option.some_ne_none r).symm, fun h => absurd h.2 hchanged⟩
  · have hkept : (db.reconnectCredentials.erase deviceId)[d]? = db.reconnectCredentials[d]? := by
      grind
    have hother : (db.devices.insert deviceId row')[d]? = db.devices[d]? := by grind
    simp only [hkept, hother, and_true]

theorem commitPassword_followsDevice (fails : Bool) (deviceId : String)
    (expected replacement : DevicePasswordRecord) {db : DeviceDbManager} (howned : Owned db) :
    FollowsDevice db (db.commitPassword fails deviceId expected replacement).2 := by
  have hself : FollowsDevice db db := Deletes.followsDevice (.of_same rfl rfl) howned
  unfold commitPassword
  split_ifs with hcurrent hread hsame
  · exact hself
  · exact hself
  · exact hself
  · cases hrow : db.devices[deviceId]? with
    | none => exact hself
    | some row =>
      refine followsDevice_replaced hrow ?_
      intro heq
      -- the record that is replaced is the expected one, which is not the replacement
      rw [ne_eq, not_not, readPassword] at hread
      split at hread
      · cases hread
      · rw [hrow, Option.map_some] at hread
        exact hsame ((Option.some.inj hread).symm.trans (Prod.mk.inj heq).1.symm)

theorem bindLoginPublicKey_followsDevice (fails : Bool) (deviceId : String)
    (verified : DevicePasswordRecord) (publicKey : String) {db : DeviceDbManager}
    (howned : Owned db) :
    FollowsDevice db (db.bindLoginPublicKey fails deviceId verified publicKey).2 := by
  have hself : FollowsDevice db db := Deletes.followsDevice (.of_same rfl rfl) howned
  unfold bindLoginPublicKey
  split
  · exact hself
  · next hhex =>
    cases hrow : db.devices[deviceId]? with
    | none => exact hself
    | some row =>
      dsimp only
      split
      · next hempty =>
        refine followsDevice_replaced hrow ?_
        intro heq
        have hkey : publicKey = "" := (Prod.mk.inj heq).2.trans hempty.1
        rw [hkey] at hhex
        exact hhex (by rw [Bool.or_eq_true]; exact .inr (by decide))
      · exact hself

theorem registerDevice_followsDevice (fails : Bool) (now : Int) (generated kind password : String)
    (record : DevicePasswordRecord) (loginPublicKey : String) {db : DeviceDbManager}
    (howned : Owned db) :
    FollowsDevice db (db.registerDevice fails now generated kind password record loginPublicKey).2 := by
  have hself : FollowsDevice db db := Deletes.followsDevice (.of_same rfl rfl) howned
  unfold registerDevice
  split
  · exact hself
  · dsimp only
    generalize (if isTemporaryControllerRegistration kind then kind ++ "-" ++ generated
      else generated) = newId
    split
    · exact hself
    · next hfree =>
      intro d row
      have habsent : db.devices.contains newId = false := by
        simp only [Bool.or_eq_true, not_or, Bool.not_eq_true] at hfree
        exact hfree.2
      unfold credential
      refine ⟨fun hsome => ⟨hsome, ?_⟩, fun h => h.1⟩
      obtain ⟨password, hpassword⟩ := howned d row hsome
      have hne : d ≠ newId := by
        rintro rfl
        have hnone : db.devices[d]? = none := by grind
        simp [credential, hnone] at hpassword
      have hother : (db.devices.insert newId
          { password := record, loginPublicKey, retentionStartedAt := now })[d]? = db.devices[d]? := by
        grind
      rw [hother]

/-- The row that is stored for a reconnect credential. -/
def rowOf (sha : Sha256) (c : ReconnectCredential) : ReconnectRow where
  tokenHash := sha.digest c.token
  expiresAt := c.expiresAt

/-- The credential that is issued for what the generator drew. -/
def freshCredential (now : Int) (bytes : Vector UInt8 32) : ReconnectCredential where
  token := hexText bytes.toList
  expiresAt := now + reconnectLifetime

/-- What issuing does. -/
theorem issue_cases (sha : Sha256) (fails : Bool) (now : Int) (random : Option (Vector UInt8 32))
    (deviceId : String) (db : DeviceDbManager) :
    (db.issueReconnectCredential sha fails now random deviceId = (none, db)) ∨
    ∃ (bytes : Vector UInt8 32) (password : DevicePasswordRecord),
      persistentDevice deviceId = true ∧ credential deviceId db = some (password, "") ∧
      db.issueReconnectCredential sha fails now random deviceId =
        (some (freshCredential now bytes), { db with
          reconnectCredentials := db.reconnectCredentials.insert deviceId
            (rowOf sha (freshCredential now bytes)) }) := by
  unfold issueReconnectCredential
  split
  · exact .inl rfl
  · next hpersistent =>
    cases random with
    | none => exact .inl rfl
    | some bytes =>
      dsimp only
      split
      · exact .inl rfl
      · next hbound =>
        right
        simp only [Bool.or_eq_true, not_or, Bool.not_eq_true, Bool.not_eq_false'] at hbound
        obtain ⟨row, hrow, hkey⟩ := (Option.any_eq_true _ _).mp hbound.2
        refine ⟨bytes, row.password, by simpa using hpersistent, ?_, rfl⟩
        rw [credential, hrow, Option.map_some, beq_iff_eq.mp hkey]

theorem recordRuntimeHeartbeat_kept (now : Int) (db : DeviceDbManager) :
    (db.recordRuntimeHeartbeat now).devices = db.devices ∧
      (db.recordRuntimeHeartbeat now).reconnectCredentials = db.reconnectCredentials := by
  unfold recordRuntimeHeartbeat refreshDailyControllerActivity
  dsimp only
  split
  · exact ⟨rfl, rfl⟩
  · exact ⟨rfl, rfl⟩

/-- A restart purges the credentials that are over or belong to no device. -/
theorem initDb_reconnect (now : Int) (db : DeviceDbManager) :
    (db.initDb now).devices = db.devices ∧
      (db.initDb now).reconnectCredentials = db.reconnectCredentials.filter (fun deviceId row =>
        decide (now < row.expiresAt) && db.devices.contains deviceId) := by
  unfold initDb
  dsimp only
  rw [(recordRuntimeHeartbeat_kept now _).1, (recordRuntimeHeartbeat_kept now _).2]
  exact ⟨rfl, rfl⟩

/-- Revoking deletes one row, or nothing. -/
theorem revoke_cases (fails : Bool) (deviceId : String) (db : DeviceDbManager) :
    db.revokeReconnectCredential fails deviceId = (false, db) ∨
      db.revokeReconnectCredential fails deviceId =
        (true, forgetReconnectCredential deviceId db) := by
  unfold revokeReconnectCredential
  split
  · exact .inl rfl
  · exact .inr rfl

/-- **What one call does to the row of a device**: it is the row of the credential that the call
issues, or the row stays if the authorization does and no restart finds it over. -/
theorem reconnect_step (sha : Sha256) {db : DeviceDbManager} (howned : Owned db)
    (call : ReconnectCall) (d : String) (row : ReconnectRow) :
    (call.apply sha db).reconnectCredentials[d]? = some row ↔
      (∃ c, call.issued sha d db = some c ∧ row = rowOf sha c) ∨
      (db.reconnectCredentials[d]? = some row ∧ ¬ Withdrawn sha d ⟨call, db⟩ ∧
        call.purges row.expiresAt = false) := by
  -- most calls issue nothing, revoke nothing and leave the rows to the authorization
  have hquiet : ∀ {call : ReconnectCall}, FollowsDevice db (call.apply sha db) →
      call.issued sha d db = none → call.revokes d db = false →
      call.purges row.expiresAt = false →
      ((call.apply sha db).reconnectCredentials[d]? = some row ↔
        (∃ c, call.issued sha d db = some c ∧ row = rowOf sha c) ∨
        (db.reconnectCredentials[d]? = some row ∧ ¬ Withdrawn sha d ⟨call, db⟩ ∧
          call.purges row.expiresAt = false)) := by
    intro call hfollows hissued hrevokes hpurges
    rw [hfollows d row]
    simp [Withdrawn, hissued, hrevokes, hpurges]
  cases call with
  | registerDevice fails now generated kind password record loginPublicKey =>
    exact hquiet (registerDevice_followsDevice _ _ _ _ _ _ _ howned) rfl rfl rfl
  | issue fails now random deviceId =>
    rcases issue_cases sha fails now random deviceId db with hnone |
      ⟨bytes, password, -, hcredential, hissue⟩
    -- nothing was issued, because the statement failed or the device is not registered
    · have hissued : (ReconnectCall.issue fails now random deviceId).issued sha d db = none := by
        simp only [ReconnectCall.issued, hnone, ite_self]
      refine hquiet ?_ hissued rfl rfl
      show FollowsDevice db (db.issueReconnectCredential sha fails now random deviceId).2
      rw [hnone]
      exact Deletes.followsDevice (.of_same rfl rfl) howned
    · have hcall : (ReconnectCall.issue fails now random deviceId).apply sha db =
          { db with
            reconnectCredentials := db.reconnectCredentials.insert deviceId
              (rowOf sha (freshCredential now bytes)) } := by
        show (db.issueReconnectCredential sha fails now random deviceId).2 = _
        rw [hissue]
      -- the row is stored under the device, over the one that was there
      by_cases hd : deviceId = d
      · subst hd
        have hissued : (ReconnectCall.issue fails now random deviceId).issued sha deviceId db =
            some (freshCredential now bytes) := by
          simp only [ReconnectCall.issued, hissue, if_true]
        rw [hcall]
        simp only [hissued, Option.some.injEq, Withdrawn]
        grind
      · have hissued : (ReconnectCall.issue fails now random deviceId).issued sha d db = none := by
          simp only [ReconnectCall.issued, if_neg hd]
        rw [hcall]
        simp only [hissued, Withdrawn, hcall, credential]
        have hkept : (db.reconnectCredentials.insert deviceId
            (rowOf sha (freshCredential now bytes)))[d]? = db.reconnectCredentials[d]? := by
          grind
        simp [hkept, ReconnectCall.revokes, ReconnectCall.purges]
  | revoke fails deviceId =>
    -- a revocation that failed is no call at all
    rcases revoke_cases fails deviceId db with hcall | hcall
    · have hrevokes : (ReconnectCall.revoke fails deviceId).revokes d db = false := by
        simp [ReconnectCall.revokes, hcall]
      refine hquiet ?_ rfl hrevokes rfl
      show FollowsDevice db (db.revokeReconnectCredential fails deviceId).2
      rw [hcall]
      exact Deletes.followsDevice (.of_same rfl rfl) howned
    · have happly : (ReconnectCall.revoke fails deviceId).apply sha db =
          forgetReconnectCredential deviceId db := congrArg Prod.snd hcall
      have hrevokes : (ReconnectCall.revoke fails deviceId).revokes d db = (deviceId == d) := by
        simp [ReconnectCall.revokes, hcall]
      have hsame : credential d (forgetReconnectCredential deviceId db) = credential d db := rfl
      have hrow : (forgetReconnectCredential deviceId db).reconnectCredentials[d]? =
          if deviceId = d then none else db.reconnectCredentials[d]? := by
        unfold forgetReconnectCredential
        grind
      simp only [Withdrawn, happly, hrevokes, hsame, hrow, ReconnectCall.issued, ReconnectCall.purges]
      by_cases hd : deviceId = d <;> simp [hd]
  | commitPassword fails deviceId expected replacement =>
    exact hquiet (commitPassword_followsDevice _ _ _ _ howned) rfl rfl rfl
  | bindLoginPublicKey fails deviceId verified publicKey =>
    exact hquiet (bindLoginPublicKey_followsDevice _ _ _ _ howned) rfl rfl rfl
  | removeDevice fails deviceId =>
    exact hquiet ((removeDevice_deletes _ _ _).followsDevice howned) rfl rfl rfl
  | cleanupExpiredDevices env now retentionDays batchSize =>
    exact hquiet ((cleanupExpiredDevices_deletes _ _ _ _ _).followsDevice howned) rfl rfl rfl
  | cleanupTemporaryControllers env batchSize deviceId =>
    exact hquiet ((cleanupTemporaryControllers_deletes _ _ _ _).followsDevice howned) rfl rfl rfl
  | adminDeviceData env request =>
    exact hquiet ((adminDeviceData_deletes _ _ _).followsDevice howned) rfl rfl rfl
  -- a restart purges what is over; the rows of devices that are gone were deleted with them
  | restart now =>
    obtain ⟨hdevices, hfiltered⟩ := initDb_reconnect now db
    have hsame : credential d (db.initDb now) = credential d db := by
      rw [credential, credential, hdevices]
    have hrow : (db.initDb now).reconnectCredentials[d]? = some row ↔
        db.reconnectCredentials[d]? = some row ∧ now < row.expiresAt := by
      rw [hfiltered, Std.ExtTreeMap.getElem?_filter', Option.filter_eq_some_iff]
      refine and_congr_right (fun hsome => ?_)
      obtain ⟨password, hpassword⟩ := howned d row hsome
      have hdevice : db.devices.contains d = true := by
        obtain ⟨device, hdevice, -⟩ := Option.map_eq_some_iff.mp hpassword
        exact OrdMap.contains_iff.mpr ⟨device, hdevice⟩
      simp [hdevice]
    simp only [ReconnectCall.apply, hrow, Withdrawn, hsame, ReconnectCall.issued,
      ReconnectCall.revokes, ReconnectCall.purges]
    simp
  | other tables =>
    have hsame : Deletes db ((ReconnectCall.other tables).apply sha db) := .of_same rfl rfl
    exact hquiet (hsame.followsDevice howned) rfl rfl rfl

/-- The credential that a call issues goes to a device without a login key. -/
theorem issued_credential {sha : Sha256} {call : ReconnectCall} {d : String} {db : DeviceDbManager}
    {c : ReconnectCredential} (h : call.issued sha d db = some c) :
    persistentDevice d = true ∧ isHex c.token 32 = true ∧
      ∃ password : DevicePasswordRecord, credential d (call.apply sha db) = some (password, "") := by
  cases call with
  | issue fails now random deviceId =>
    simp only [ReconnectCall.issued] at h
    split at h
    · next hd =>
      subst hd
      rcases issue_cases sha fails now random deviceId db with hnone |
        ⟨bytes, password, hpersistent, hcredential, hissue⟩
      · rw [hnone] at h
        cases h
      · rw [hissue] at h
        cases h
        have hhex := isHex_hexText bytes.toList
        rw [Vector.length_toList] at hhex
        refine ⟨hpersistent, hhex, password, ?_⟩
        show credential deviceId (db.issueReconnectCredential sha fails now random deviceId).2 = _
        rw [hissue]
        exact hcredential
    · cases h
  | _ => cases h

theorem Owned.apply {sha : Sha256} {db : DeviceDbManager} (howned : Owned db) (call : ReconnectCall) :
    Owned (call.apply sha db) := by
  intro d row hrow
  rcases (reconnect_step sha howned call d row).mp hrow with ⟨c, hissued, -⟩ | ⟨hsome, hkept, -⟩
  · exact (issued_credential hissued).2.2
  · obtain ⟨password, hpassword⟩ := howned d row hsome
    have hsame : credential d (call.apply sha db) = credential d db := by
      by_contra hchanged
      exact hkept (.inr (.inr hchanged))
    exact ⟨password, hsame.trans hpassword⟩

/-! ## Runs -/

/-- The credential is current after one more call. -/
theorem current_append {sha : Sha256} {d : String} {c : ReconnectCredential}
    {steps : List ReconnectStep} {step : ReconnectStep} :
    Current sha d c (steps ++ [step]) ↔ step.call.issued sha d step.before = some c ∨
      (Current sha d c steps ∧ ¬ Withdrawn sha d step ∧ step.call.purges c.expiresAt = false) := by
  constructor
  · rintro ⟨later, ⟨earlier, issue, hsplit, hissued, hkept⟩, hpurged⟩
    rcases List.eq_nil_or_concat later with rfl | ⟨later, last, rfl⟩
    · obtain ⟨-, hlast⟩ := List.append_inj' hsplit rfl
      cases hlast
      exact .inl hissued
    · have hsplit' : steps ++ [step] = (earlier ++ issue :: later) ++ [last] := by
        simpa using hsplit
      obtain ⟨rfl, hlast⟩ := List.append_inj' hsplit' rfl
      cases hlast
      refine .inr ⟨⟨later, ⟨earlier, issue, rfl, hissued, fun s hs => ?_⟩, fun s hs => ?_⟩,
        hkept step (by simp), hpurged step (by simp)⟩
      · exact hkept s (by simp [hs])
      · exact hpurged s (by simp [hs])
  · rintro (hissued | ⟨⟨later, ⟨earlier, issue, rfl, hissued, hkept⟩, hpurged⟩, hstep, hnot⟩)
    · exact ⟨[], ⟨steps, step, rfl, hissued, by simp⟩, by simp⟩
    · refine ⟨later ++ [step], ⟨earlier, issue, by simp, hissued, fun s hs => ?_⟩, fun s hs => ?_⟩
      · rcases List.mem_append.mp hs with hs | hs
        · exact hkept s hs
        · rw [List.mem_singleton.mp hs]
          exact hstep
      · rcases List.mem_append.mp hs with hs | hs
        · exact hpurged s hs
        · rw [List.mem_singleton.mp hs]
          exact hnot

/-- The rows of a run are those of the current credentials. -/
structure RowsCurrent (sha : Sha256) (steps : List ReconnectStep) (db : DeviceDbManager) : Prop where
  owned : Owned db
  rows : ∀ (d : String) (row : ReconnectRow), db.reconnectCredentials[d]? = some row ↔
    ∃ c, Current sha d c steps ∧ row = rowOf sha c

theorem rows_current {sha : Sha256} {steps : List ReconnectStep} {db : DeviceDbManager}
    (h : (reconnectSystem sha).Run steps db) : RowsCurrent sha steps db := by
  refine h.history ?_ ?_
  · intro db hempty
    have hnone : ∀ d : String, db.reconnectCredentials[d]? = none := by
      intro d
      have hstart : db.reconnectCredentials = ∅ := hempty
      rw [hstart]
      simp
    refine ⟨fun d row hrow => ?_, fun d row => ?_⟩
    · rw [hnone] at hrow
      cases hrow
    · rw [hnone]
      refine ⟨fun hsome => absurd hsome (Option.some_ne_none row).symm, ?_⟩
      rintro ⟨c, ⟨later, ⟨earlier, step, hnil, -⟩, -⟩, -⟩
      simp at hnil
  · rintro steps db ⟨call, before⟩ db' - hrows ⟨hbefore, hafter⟩
    obtain rfl : before = db := hbefore
    subst hafter
    refine ⟨hrows.owned.apply call, fun d row => ?_⟩
    rw [reconnect_step sha hrows.owned call d row, hrows.rows d row]
    simp only [current_append]
    constructor
    · rintro (⟨c, hissued, rfl⟩ | ⟨⟨c, hcurrent, rfl⟩, hkept, hpurged⟩)
      · exact ⟨c, .inl hissued, rfl⟩
      · exact ⟨c, .inr ⟨hcurrent, hkept, hpurged⟩, rfl⟩
    · rintro ⟨c, hissued | ⟨hcurrent, hkept, hpurged⟩, rfl⟩
      · exact .inl ⟨c, hissued, rfl⟩
      · exact .inr ⟨⟨c, hcurrent, rfl⟩, hkept, hpurged⟩

/-! ## Verification -/

/-- A token that is accepted is the one whose row is stored. -/
theorem verify_eq_some_iff {sha : Sha256} {now : Int} {d token : String}
    (hclock : 0 ≤ now ∨ sha.digest token ≠ zeroDigest) {expires : Int} {db : DeviceDbManager} (howned : Owned db)
    (hsize : ∀ row : ReconnectRow, db.reconnectCredentials[d]? = some row →
      row.tokenHash.utf8ByteSize = 64) :
    verifyReconnectCredential sha false now d token db = some expires ↔
      persistentDevice d = true ∧ isHex token 32 = true ∧ now < expires ∧
        db.reconnectCredentials[d]? = some { tokenHash := sha.digest token, expiresAt := expires } := by
  unfold verifyReconnectCredential
  cases hpersistent : persistentDevice d with
  | false => simp
  | true =>
    cases hhex : isHex token 32 with
    | false => simp
    | true =>
      cases hrow : db.reconnectCredentials[d]? with
      | none =>
        -- without a row the token is compared with the zero digest, and its end is time zero
        have hover : ¬ (zeroDigest = sha.digest token ∧ now < 0) := by
          rintro ⟨hzero, hbefore⟩
          rcases hclock with hnow | hne
          · omega
          · exact hne hzero.symm
        simp [hover]
      | some row =>
        obtain ⟨password, hpassword⟩ := howned d row hrow
        obtain ⟨device, hdevice, hcredential⟩ := Option.map_eq_some_iff.mp hpassword
        have hkey : device.loginPublicKey = "" := (Prod.mk.inj hcredential).2
        cases row with
        | mk tokenHash expiresAt =>
          have hlength : tokenHash.utf8ByteSize = 64 := hsize _ hrow
          simp only [hdevice, hlength, hkey, Option.filter_some, Option.any_some, beq_self_eq_true,
            Bool.and_self, if_true, Option.map_some, Option.getD_some, Bool.not_true, Bool.or_self,
            Bool.false_eq_true, if_false, true_and, Option.some.injEq, ReconnectRow.mk.injEq]
          grind

/-- **Reconnect credentials are valid as long as they are current and not over.** By a clock before
1970 the zero digest would be accepted as well. -/
theorem reconnect_valid_iff {sha : Sha256}
    (hsha : ∀ token token' : String, isHex token 32 = true → isHex token' 32 = true →
      sha.digest token = sha.digest token' → token = token')
    {steps : List ReconnectStep} {db : DeviceDbManager} (h : (reconnectSystem sha).Run steps db)
    {now : Int} {d token : String} (hclock : 0 ≤ now ∨ sha.digest token ≠ zeroDigest)
    (expires : Int) :
    verifyReconnectCredential sha false now d token db = some expires ↔
      persistentDevice d = true ∧ ∃ c, Current sha d c steps ∧ c.token = token ∧
        c.expiresAt = expires ∧ now < expires := by
  have hrows := rows_current h
  have hsize : ∀ row : ReconnectRow, db.reconnectCredentials[d]? = some row →
      row.tokenHash.utf8ByteSize = 64 := by
    intro row hrow
    obtain ⟨c, -, rfl⟩ := (hrows.rows d row).mp hrow
    exact sha.size c.token
  have hhex : ∀ c, Current sha d c steps → isHex c.token 32 = true := by
    rintro c ⟨later, ⟨earlier, step, -, hissued, -⟩, -⟩
    exact (issued_credential hissued).2.1
  rw [verify_eq_some_iff hclock hrows.owned hsize, hrows.rows]
  refine and_congr_right (fun _ => ?_)
  constructor
  · rintro ⟨htoken, hbefore, c, hcurrent, hrow⟩
    obtain ⟨hdigest, hexpires⟩ := ReconnectRow.mk.inj hrow
    have hsame := hsha token c.token htoken (hhex c hcurrent) hdigest
    exact ⟨c, hcurrent, hsame.symm, hexpires.symm, hbefore⟩
  · rintro ⟨c, hcurrent, rfl, rfl, hbefore⟩
    exact ⟨hhex c hcurrent, hbefore, c, hcurrent, rfl⟩

/-! ## A clock that is set back -/

/-- A digest that tells tokens apart. -/
def plainSha : Sha256 where
  digest token := if isHex token 32 then token else zeroDigest
  size token := by
    split
    · next htoken =>
      simp only [isHex, Bool.and_eq_true, beq_iff_eq] at htoken
      exact htoken.1
    · decide

theorem plainSha_injective (token token' : String) (h : isHex token 32 = true)
    (h' : isHex token' 32 = true) (hsame : plainSha.digest token = plainSha.digest token') :
    token = token' := by
  have hdigest : ∀ token : String, isHex token 32 = true → plainSha.digest token = token :=
    fun _ htoken => if_pos htoken
  rwa [hdigest token h, hdigest token' h'] at hsame

def oneDevice : DeviceDbManager where
  devices := (∅ : OrdMap String DeviceRow).insert "123456789" { password := ⟨"00", "11"⟩ }

/-- A credential that is issued at time zero. -/
def issueStep : ReconnectStep where
  call := .issue false 0 (some (Vector.replicate 32 0)) "123456789"
  before := oneDevice

def issuedToken : ReconnectCredential := freshCredential 0 (Vector.replicate 32 0)

theorem issueStep_issued : issueStep.call.issued plainSha "123456789" issueStep.before =
    some issuedToken := by
  decide

theorem reconnect_valid_iff_issued :
    verifyReconnectCredential plainSha false 10 "123456789" issuedToken.token
      (issueStep.call.apply plainSha oneDevice) = some 2592000 := by
  have hrun : (reconnectSystem plainSha).Run [issueStep] (issueStep.call.apply plainSha oneDevice) :=
    .step (.start rfl) ⟨rfl, rfl⟩
  refine (reconnect_valid_iff plainSha_injective hrun (.inl (by decide)) _).mpr
    ⟨by decide, issuedToken, ?_, rfl, rfl, by decide⟩
  exact ⟨[], ⟨[], issueStep, rfl, issueStep_issued, by simp⟩, by simp⟩

/-- A restart by a clock that is fast. -/
def restartStep : ReconnectStep where
  call := .restart 3000000
  before := issueStep.call.apply plainSha oneDevice

/-- The credential is purged, and stays purged when the clock is set back. -/
theorem purged_by_restart :
    (reconnectSystem plainSha).Run [issueStep, restartStep]
        (restartStep.call.apply plainSha restartStep.before) ∧
      Authorized plainSha "123456789" issuedToken [restartStep] [issueStep, restartStep] ∧
      10 < issuedToken.expiresAt ∧
      verifyReconnectCredential plainSha false 10 "123456789" issuedToken.token
        (restartStep.call.apply plainSha restartStep.before) = none := by
  have hrun : (reconnectSystem plainSha).Run [issueStep] restartStep.before :=
    .step (.start rfl) ⟨rfl, rfl⟩
  have hgone : (restartStep.call.apply plainSha restartStep.before).reconnectCredentials[
      "123456789"]? = none := by
    have hstored : restartStep.before.reconnectCredentials["123456789"]? =
        some (rowOf plainSha issuedToken) := by
      decide
    have hover : decide (3000000 < (rowOf plainSha issuedToken).expiresAt) = false := by decide
    show (initDb 3000000 restartStep.before).reconnectCredentials["123456789"]? = none
    rw [(initDb_reconnect 3000000 restartStep.before).2, Std.ExtTreeMap.getElem?_filter', hstored,
      Option.filter_some, hover, Bool.false_and]
    rfl
  have hkept : ¬ Withdrawn plainSha "123456789" restartStep := by
    rintro (hissued | hrevoked | hchanged)
    · exact hissued rfl
    · exact Bool.false_ne_true hrevoked
    · exact hchanged (by decide)
  refine ⟨hrun.step ⟨rfl, rfl⟩, ⟨[], issueStep, rfl, issueStep_issued, by simpa using hkept⟩,
    by decide, ?_⟩
  simp [verifyReconnectCredential, hgone]

end CrossDesk.DeviceDbManager
