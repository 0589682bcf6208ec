import CrossDesk.DeviceDbManager.AdminDeviceData
import CrossDesk.DeviceDbManager.Pairs

/-!
# What a call about one device changes

`AdminDeviceData` is all or nothing: a call that is not answered with `ok` has changed no table
(`adminDeviceData_cases`). A report adds one audit row and nothing else. A cleanup adds one audit row
as well, and otherwise touches the rows of the device and of its alias only (`Cleaned`). Reconnect
credentials are deleted by the trigger of the device row: one that has no device row stays
(`stray_credential_stays`).

The work of a call is read statement by statement (`run_readRelated`, `run_removeRelated`,
`run_adminWork`); what each statement deletes is a lemma about that statement.
-/

namespace CrossDesk.DeviceDbManager

open Transaction

/-! ## What may change -/

/-- The call was answered with `ok`. -/
def Accepted (answer : Except AdminStatement Json) : Prop :=
  ∃ reply : Json, answer = .ok reply ∧ reply.find "ok" = some (.bool true)

/-- One row was added to the audit table. -/
def Audited (db db' : DeviceDbManager) : Prop :=
  ∃ (id : Nat) (row : AuditRow), db.adminDataAudit[id]? = none ∧
    db'.adminDataAudit = db.adminDataAudit.insert id row

/-- One row was added to the audit table, and nothing else is different. -/
def OnlyAudited (db db' : DeviceDbManager) : Prop :=
  ∃ (id : Nat) (row : AuditRow), db.adminDataAudit[id]? = none ∧
    db' = { db with adminDataAudit := db.adminDataAudit.insert id row, auditSequence := id }

/-- The credentials of a device after a cleanup. -/
def credentialsAfter (scope : String) (now : Int) (row : DeviceRow) : Option DeviceRow :=
  if scope = "identity" then none else some { row with retentionStartedAt := now }

/-- What a cleanup found and what it left. -/
structure Cleaned (id scope : String) (now : Int) (removed : RemovedRows)
    (db db' : DeviceDbManager) : Prop where
  not_online : ∀ k ∈ pair id, ∀ row : PresenceRow, db.devicePresence[k]? = some row →
    row.online = false
  not_in_session : ∀ (key : SessionKey) (row : SessionRow),
    db.remoteControlSessions[key]? = some row → row.hostId ∉ pair id ∧ (ofLex key).2 ∉ pair id
  presence : ∀ k : String, db'.devicePresence[k]? =
    if k ∈ pair id then none else db.devicePresence[k]?
  activity : ∀ key : Int ×ₗ String, db'.dailyControllerActivity[key]? =
    if (ofLex key).2 ∈ pair id then none else db.dailyControllerActivity[key]?
  associations : ∀ key : String ×ₗ String, db'.userDevices[key]? =
    if (ofLex key).1 ∈ pair id ∨ (ofLex key).2 ∈ pair id then none else db.userDevices[key]?
  devices : ∀ k : String, db'.devices[k]? =
    if k ∈ pair id then (db.devices[k]?).bind (credentialsAfter scope now) else db.devices[k]?
  -- a reconnect credential goes with the row that it belongs to
  reconnect : ∀ k : String, db'.reconnectCredentials[k]? =
    if scope = "identity" ∧ k ∈ pair id ∧ db.devices.contains k = true then none
    else db.reconnectCredentials[k]?
  sessions : db'.remoteControlSessions = db.remoteControlSessions
  recovery : db'.sessionRecovery = db.sessionRecovery
  runtime : db'.lastSeenAt = db.lastSeenAt ∧ db'.activityDay = db.activityDay
  audited : Audited db db'
  associations_count : db'.userDevices.size + removed.associations = db.userDevices.size
  presence_count : db'.devicePresence.size + removed.presence = db.devicePresence.size
  activity_count :
    db'.dailyControllerActivity.size + removed.activity = db.dailyControllerActivity.size
  credentials_count : db'.devices.size + removed.credentials = db.devices.size

/-! ## The statements -/

theorem run_adminStatement {α : Type} {env : AdminEnv} {statement : AdminStatement}
    {f : DeviceDbManager → α × DeviceDbManager} {db : DeviceDbManager} {r : α × DeviceDbManager} :
    adminStatement env statement f db = .ok r ↔ env.fails statement = false ∧ r = f db :=
  run_execute

/-- The queries find the related rows and change nothing. -/
theorem run_readRelated {env : AdminEnv} {id : String} {db : DeviceDbManager} {rows : RelatedRows}
    {db' : DeviceDbManager} (h : readRelated env id db = .ok (rows, db')) :
    rows = db.related id ∧ db' = db := by
  obtain ⟨activity, db₁, h₁, h⟩ := run_bind.mp h
  obtain ⟨credentials, db₂, h₂, h⟩ := run_bind.mp h
  obtain ⟨presence, db₃, h₃, h⟩ := run_bind.mp h
  obtain ⟨associations, db₄, h₄, h⟩ := run_bind.mp h
  obtain ⟨sessions, db₅, h₅, h⟩ := run_bind.mp h
  cases (run_adminStatement.mp h₁).2
  cases (run_adminStatement.mp h₂).2
  cases (run_adminStatement.mp h₃).2
  cases (run_adminStatement.mp h₄).2
  cases (run_adminStatement.mp h₅).2
  cases run_pure.mp h
  exact ⟨rfl, rfl⟩

/-- The tables after the three deletions that both scopes begin with. -/
def historyRemoved (id : String) (db : DeviceDbManager) : DeviceDbManager :=
  (((db.removeAssociations id).2.removePresence id).2.removeActivity id).2

/-- The rows that these deletions count. -/
def historyCount (id : String) (db : DeviceDbManager) : RemovedRows where
  associations := (db.removeAssociations id).1
  presence := (db.removePresence id).1
  activity := (db.removeActivity id).1

/-- What the statements that delete have done. -/
theorem run_removeRelated {env : AdminEnv} {request : AdminRequest} {db : DeviceDbManager}
    {removed : RemovedRows} {db' : DeviceDbManager}
    (h : removeRelated env request db = .ok (removed, db')) :
    (request.scope = "identity" ∧ db' = ((historyRemoved request.id db).removeCredentials request.id).2 ∧
        removed = { historyCount request.id db with
          credentials := ((historyRemoved request.id db).removeCredentials request.id).1 }) ∨
      (request.scope ≠ "identity" ∧
        db' = restartRetention env.cleanedAt request.id (historyRemoved request.id db) ∧
        removed = historyCount request.id db) := by
  obtain ⟨associations, db₁, h₁, h⟩ := run_bind.mp h
  obtain ⟨presence, db₂, h₂, h⟩ := run_bind.mp h
  obtain ⟨activity, db₃, h₃, h⟩ := run_bind.mp h
  cases (run_adminStatement.mp h₁).2
  cases (run_adminStatement.mp h₂).2
  cases (run_adminStatement.mp h₃).2
  split at h
  case isTrue hscope =>
    obtain ⟨credentials, db₄, h₄, h⟩ := run_bind.mp h
    cases (run_adminStatement.mp h₄).2
    cases run_pure.mp h
    exact .inl ⟨hscope, rfl, rfl⟩
  case isFalse hscope =>
    obtain ⟨_, db₄, h₄, h⟩ := run_bind.mp h
    cases (run_adminStatement.mp h₄).2
    cases run_pure.mp h
    exact .inr ⟨hscope, rfl, rfl⟩

/-- The work that is done before the audit row is written. -/
structure Worked (env : AdminEnv) (request : AdminRequest) (db : DeviceDbManager)
    (removed : RemovedRows) (mid : DeviceDbManager) : Prop where
  small : (db.related request.id).associations.length ≤ maxRelatedRows ∧
    (db.related request.id).sessions.length ≤ maxRelatedRows
  found : (db.related request.id).isEmpty = false
  work : cleanupStep env request (db.related request.id) db = .ok (removed, mid)

/-- A call that is committed. -/
theorem run_adminWork {env : AdminEnv} {request : AdminRequest} {db : DeviceDbManager} {reply : Json}
    {db' : DeviceDbManager} (h : adminWork env request db = .ok (reply, db')) :
    ∃ removed mid, Worked env request db removed mid ∧
      db' = (insertAudit (auditRow env request removed.json) mid).2 ∧
      reply = adminReply env request (db.related request.id) removed mid.nextAuditId := by
  obtain ⟨_, db₁, h₁, h⟩ := run_bind.mp h
  obtain ⟨rows, db₂, h₂, h⟩ := run_bind.mp h
  obtain ⟨_, db₃, h₃, h⟩ := run_bind.mp h
  obtain ⟨_, db₄, h₄, h⟩ := run_bind.mp h
  obtain ⟨removed, mid, h₅, h⟩ := run_bind.mp h
  obtain ⟨auditId, db₆, h₆, h⟩ := run_bind.mp h
  obtain ⟨_, db₇, h₇, h⟩ := run_bind.mp h
  cases (run_adminStatement.mp h₁).2
  obtain ⟨rfl, rfl⟩ := run_readRelated h₂
  obtain ⟨hsmall, hsame⟩ := run_require.mp h₃
  cases hsame
  obtain ⟨hfound, hsame⟩ := run_require.mp h₄
  cases hsame
  cases (run_adminStatement.mp h₆).2
  cases (run_adminStatement.mp h₇).2
  cases run_pure.mp h
  simp only [Bool.and_eq_true, decide_eq_true_eq] at hsmall
  simp only [Bool.not_eq_true'] at hfound
  exact ⟨removed, mid, ⟨hsmall, hfound, h₅⟩, rfl, rfl⟩

/-- A call is refused, throws, or is committed; in the first two cases nothing has changed. -/
theorem adminDeviceData_cases (env : AdminEnv) (request : AdminRequest) (db : DeviceDbManager) :
    (∃ error : String, adminDeviceData env request db = (.ok (adminRefusal error), db)) ∨
    (∃ statement : AdminStatement, adminDeviceData env request db = (.error statement, db)) ∨
    (request.isValid = true ∧ ∃ (reply : Json) (db' : DeviceDbManager),
      adminWork env request db = .ok (reply, db') ∧
        adminDeviceData env request db = (.ok reply, db')) := by
  unfold adminDeviceData atomically
  cases hvalid : request.isValid with
  | false => exact .inl ⟨_, rfl⟩
  | true =>
    cases hwork : adminWork env request db with
    | error error =>
      cases error with
      | refused error => exact .inl ⟨error, rfl⟩
      | failed statement => exact .inr (.inl ⟨statement, rfl⟩)
    | ok r => exact .inr (.inr ⟨rfl, r.1, r.2, rfl, rfl⟩)

theorem not_accepted_refusal (error : String) : ¬ Accepted (.ok (adminRefusal error)) := by
  rintro ⟨reply, hreply, hok⟩
  cases hreply
  simp [adminRefusal, Json.find] at hok

/-- An accepted call was committed. -/
theorem committed_of_accepted {env : AdminEnv} {request : AdminRequest} {db : DeviceDbManager}
    (h : Accepted (adminDeviceData env request db).1) :
    request.isValid = true ∧ ∃ (removed : RemovedRows) (mid : DeviceDbManager),
      Worked env request db removed mid ∧
      adminDeviceData env request db =
        (.ok (adminReply env request (db.related request.id) removed mid.nextAuditId),
          (insertAudit (auditRow env request removed.json) mid).2) := by
  rcases adminDeviceData_cases env request db with ⟨error, hrefused⟩ | ⟨statement, hfailed⟩ |
    ⟨hvalid, reply, db', hwork, hdone⟩
  · rw [hrefused] at h
    exact absurd h (not_accepted_refusal error)
  · rw [hfailed] at h
    obtain ⟨reply, hreply, -⟩ := h
    cases hreply
  · obtain ⟨removed, mid, hworked, rfl, rfl⟩ := run_adminWork hwork
    exact ⟨hvalid, removed, mid, hworked, hdone⟩

/-! ## The audit row -/

/-- The next id is a new one. -/
theorem nextAuditId_fresh (db : DeviceDbManager) : db.adminDataAudit[db.nextAuditId]? = none := by
  by_contra hused
  obtain ⟨row, hrow⟩ := Option.ne_none_iff_exists'.mp hused
  have hmem : db.nextAuditId ∈ db.adminDataAudit.keys := OrdMap.mem_keys.mpr ⟨row, hrow⟩
  have hle : ∀ (l : List Nat) (start n : Nat), n ∈ l ∨ n ≤ start → n ≤ l.foldl max start := by
    intro l
    induction l with
    | nil => simp
    | cons m l ih =>
      intro start n hn
      refine ih (max start m) n ?_
      rcases hn with hn | hn
      · rcases List.mem_cons.mp hn with rfl | hn
        · exact .inr (le_max_right _ _)
        · exact .inl hn
      · exact .inr (hn.trans (le_max_left _ _))
  have hbound := hle db.adminDataAudit.keys db.auditSequence db.nextAuditId (.inl hmem)
  have hnext : db.nextAuditId = db.adminDataAudit.keys.foldl max db.auditSequence + 1 := rfl
  omega

/-! ## A cleanup -/

/-- No row of the pair is online. -/
theorem not_online_of_related {id : String} {db : DeviceDbManager}
    (h : (db.related id).online = false) : ∀ k ∈ pair id, ∀ row : PresenceRow,
      db.devicePresence[k]? = some row → row.online = false := by
  intro k hk row hrow
  have hmem : (k, row) ∈ (db.related id).presence :=
    List.mem_filter.mpr ⟨OrdMap.mem_toList.mpr hrow, decide_eq_true hk⟩
  have hnone := List.any_eq_false.mp h (k, row) hmem
  simpa using hnone

/-- No session has an end in the pair. -/
theorem not_in_session_of_related {id : String} {db : DeviceDbManager} (hid : isAlias id = false)
    (h : (db.related id).sessions = []) : ∀ (key : SessionKey) (row : SessionRow),
      db.remoteControlSessions[key]? = some row →
        row.hostId ∉ pair id ∧ (ofLex key).2 ∉ pair id := by
  intro key row hrow
  have hnone : db.remoteControlSessions.toList.filter (fun row =>
      normalizedGuestId row.1 == id || normalizedHostId row.2 == id) = [] := by
    rcases List.take_eq_nil_iff.mp h with hzero | hnil
    · exact absurd hzero (Nat.succ_ne_zero maxRelatedRows)
    · exact hnil
  have hnot := List.filter_eq_nil_iff.mp hnone (key, row) (OrdMap.mem_toList.mpr hrow)
  simp only [Bool.or_eq_true, beq_iff_eq, not_or] at hnot
  exact ⟨fun hhost => hnot.2 ((normalizeRemoteDeviceId_eq_iff hid).mpr hhost),
    fun hguest => hnot.1 ((normalizeRemoteDeviceId_eq_iff hid).mpr hguest)⟩

/-- What the confirmation and the deletion have done. -/
theorem run_cleanupRelated {env : AdminEnv} {request : AdminRequest} {rows : RelatedRows}
    {db : DeviceDbManager} {removed : RemovedRows} {mid : DeviceDbManager}
    (h : cleanupRelated env request rows db = .ok (removed, mid)) :
    rows.online = false ∧ rows.sessions = [] ∧
      request.expectedRevision = env.digest (rows.digestInput request.id) ∧
      removeRelated env request db = .ok (removed, mid) := by
  obtain ⟨_, db₁, h₁, h⟩ := run_bind.mp h
  obtain ⟨_, db₂, h₂, h⟩ := run_bind.mp h
  obtain ⟨hidle, hsame⟩ := run_require.mp h₁
  cases hsame
  obtain ⟨hconfirmed, hsame⟩ := run_require.mp h₂
  cases hsame
  simp only [Bool.and_eq_true, Bool.not_eq_true', List.isEmpty_iff] at hidle
  simp only [Bool.and_eq_true, beq_iff_eq] at hconfirmed
  exact ⟨hidle.1, hidle.2, hconfirmed.2, h⟩

theorem restartRetention_devices (now : Int) (id : String) (db : DeviceDbManager) (k : String) :
    (restartRetention now id db).devices[k]? = (db.devices[k]?).map (fun row =>
      if k ∈ pair id then { row with retentionStartedAt := now } else row) := by
  simp only [restartRetention]
  rw [Std.ExtTreeMap.getElem?_map]

/-- **A committed cleanup.** -/
theorem cleaned_of_removeRelated {env : AdminEnv} {request : AdminRequest} {row : AuditRow}
    {db : DeviceDbManager} {removed : RemovedRows} {mid : DeviceDbManager}
    (hid : isAlias request.id = false) (honline : (db.related request.id).online = false)
    (hsessions : (db.related request.id).sessions = [])
    (h : removeRelated env request db = .ok (removed, mid)) :
    Cleaned request.id request.scope env.cleanedAt removed db (insertAudit row mid).2 := by
  -- the tables that both scopes treat alike
  have hkept : mid.remoteControlSessions = db.remoteControlSessions ∧
      mid.sessionRecovery = db.sessionRecovery ∧ mid.lastSeenAt = db.lastSeenAt ∧
      mid.activityDay = db.activityDay ∧ mid.adminDataAudit = db.adminDataAudit ∧
      mid.devicePresence = (historyRemoved request.id db).devicePresence ∧
      mid.dailyControllerActivity = (historyRemoved request.id db).dailyControllerActivity ∧
      mid.userDevices = (historyRemoved request.id db).userDevices := by
    rcases run_removeRelated h with ⟨-, rfl, -⟩ | ⟨-, rfl, -⟩
    · obtain ⟨_, _, hcredentials⟩ := removeCredentials_kept request.id (historyRemoved request.id db)
      rw [hcredentials]
      exact ⟨rfl, rfl, rfl, rfl, rfl, rfl, rfl, rfl⟩
    · exact ⟨rfl, rfl, rfl, rfl, rfl, rfl, rfl, rfl⟩
  have hcounts : removed.associations = (db.removeAssociations request.id).1 ∧
      removed.presence = (db.removePresence request.id).1 ∧
      removed.activity = (db.removeActivity request.id).1 := by
    rcases run_removeRelated h with ⟨-, -, rfl⟩ | ⟨-, -, rfl⟩ <;> exact ⟨rfl, rfl, rfl⟩
  obtain ⟨hsame₁, hsame₂, hsame₃, hsame₄, haudit, hpresence, hactivity, hassociations⟩ := hkept
  obtain ⟨hcount₁, hcount₂, hcount₃⟩ := hcounts
  -- the credential rows go or start again, by the scope
  have hdevices : (∀ k : String, mid.devices[k]? = if k ∈ pair request.id then
        (db.devices[k]?).bind (credentialsAfter request.scope env.cleanedAt) else db.devices[k]?) ∧
      mid.devices.size + removed.credentials = db.devices.size := by
    rcases run_removeRelated h with ⟨hscope, rfl, rfl⟩ | ⟨hscope, rfl, rfl⟩
    · have hcount := removeCredentials_count request.id (historyRemoved request.id db)
      refine ⟨fun k => ?_, hcount⟩
      rw [removeCredentials_devices, getElem?_erasePair]
      have hgone : (db.devices[k]?).bind (credentialsAfter request.scope env.cleanedAt) = none := by
        cases db.devices[k]? <;> simp [credentialsAfter, hscope]
      rw [hgone]
      rfl
    · refine ⟨fun k => ?_, ?_⟩
      · rw [restartRetention_devices]
        show (db.devices[k]?).map _ = _
        cases hrow : db.devices[k]? with
        | none => simp
        | some row => by_cases hk : k ∈ pair request.id <;> simp [hk, credentialsAfter, hscope]
      · show (db.devices.map _).size + 0 = db.devices.size
        rw [Std.ExtTreeMap.size_map, Nat.add_zero]
  -- reconnect credentials go with the device rows, through the delete trigger
  have hreconnect : ∀ k : String, mid.reconnectCredentials[k]? =
      if request.scope = "identity" ∧ k ∈ pair request.id ∧ db.devices.contains k = true then none
      else db.reconnectCredentials[k]? := by
    intro k
    rcases run_removeRelated h with ⟨hscope, rfl, -⟩ | ⟨hscope, rfl, -⟩
    · rw [removeCredentials_reconnect]
      simp only [hscope, true_and]
      rfl
    · rw [if_neg (fun hall => hscope hall.1)]
      rfl
  refine
    { not_online := not_online_of_related honline
      not_in_session := not_in_session_of_related hid hsessions
      presence := fun k => ?_
      activity := fun key => ?_
      associations := fun key => ?_
      devices := hdevices.1
      reconnect := hreconnect
      sessions := hsame₁
      recovery := hsame₂
      runtime := ⟨hsame₃, hsame₄⟩
      audited := ⟨mid.nextAuditId, row, ?_, ?_⟩
      associations_count := ?_
      presence_count := ?_
      activity_count := ?_
      credentials_count := hdevices.2 }
  · show mid.devicePresence[k]? = _
    rw [hpresence]
    exact getElem?_erasePair request.id db.devicePresence k
  · show mid.dailyControllerActivity[key]? = _
    rw [hactivity]
    exact removeActivity_activity request.id db key
  · show mid.userDevices[key]? = _
    rw [hassociations]
    exact removeAssociations_userDevices request.id db key
  · rw [← haudit]
    exact nextAuditId_fresh mid
  · show mid.adminDataAudit.insert _ _ = _
    rw [haudit]
  · show mid.userDevices.size + _ = _
    rw [hassociations, hcount₁]
    exact removeAssociations_count request.id db
  · show mid.devicePresence.size + _ = _
    rw [hpresence, hcount₂]
    exact removePresence_count request.id db
  · show mid.dailyControllerActivity.size + _ = _
    rw [hactivity, hcount₃]
    exact removeActivity_count request.id db

/-! ## The call -/

/-- **All or nothing.** A call that is not answered with `ok` has changed nothing. A report that is
answered with `ok` has only written its audit row. A cleanup that is answered with `ok` has removed
the rows of the device and its alias, and says how many. -/
theorem admin_data_all_or_nothing (env : AdminEnv) (request : AdminRequest) (db : DeviceDbManager) :
    (¬ Accepted (adminDeviceData env request db).1 → (adminDeviceData env request db).2 = db) ∧
    (Accepted (adminDeviceData env request db).1 → request.action ≠ "cleanup" →
      OnlyAudited db (adminDeviceData env request db).2) ∧
    (Accepted (adminDeviceData env request db).1 → request.action = "cleanup" →
      ∃ (reply : Json) (removed : RemovedRows),
        (adminDeviceData env request db).1 = .ok reply ∧
        reply.find "removed" = some removed.json ∧
        Cleaned request.id request.scope env.cleanedAt removed db
          (adminDeviceData env request db).2) := by
  refine ⟨fun hrefused => ?_, fun haccepted haction => ?_, fun haccepted haction => ?_⟩
  · rcases adminDeviceData_cases env request db with ⟨error, hcall⟩ | ⟨statement, hcall⟩ |
      ⟨_, reply, db', hwork, hcall⟩
    · rw [hcall]
    · rw [hcall]
    · obtain ⟨removed, mid, -, -, rfl⟩ := run_adminWork hwork
      refine absurd ⟨_, congrArg Prod.fst hcall, ?_⟩ hrefused
      unfold adminReply
      split <;> simp [Json.find]
  · obtain ⟨-, removed, mid, hworked, hcall⟩ := committed_of_accepted haccepted
    have hwork := hworked.work
    rw [cleanupStep, if_neg haction] at hwork
    cases run_pure.mp hwork
    rw [hcall]
    exact ⟨db.nextAuditId, _, nextAuditId_fresh db, rfl⟩
  · obtain ⟨hvalid, removed, mid, hworked, hcall⟩ := committed_of_accepted haccepted
    have hwork := hworked.work
    rw [cleanupStep, if_pos haction] at hwork
    obtain ⟨honline, hsessions, -, hremove⟩ := run_cleanupRelated hwork
    have hid : isAlias request.id = false := by
      simp only [AdminRequest.isValid, Bool.and_eq_true, Bool.not_eq_true'] at hvalid
      tauto
    refine ⟨_, removed, congrArg Prod.fst hcall, ?_, ?_⟩
    · simp [adminReply, haction, Json.find]
    · rw [hcall]
      exact cleaned_of_removeRelated hid honline hsessions hremove

/-! ## A cleanup of one device of two -/

/-- Every text has the same digest. -/
def constantDigest : AdminEnv where
  sha256 := fun _ => "00"

def wholeCleanup : AdminRequest where
  id := "123456789"
  action := "cleanup"
  scope := "identity"
  expectedRevision := "00"
  actor := "support"
  requestRef := "case-1"

/-- Two devices that somebody watches, both with a reconnect credential; the alias of the first was
seen, too. -/
def watchedPair : DeviceDbManager where
  devices := ((∅ : OrdMap String DeviceRow).insert "123456789" { password := ⟨"00", "11"⟩ }).insert
    "987654321" { password := ⟨"22", "33"⟩ }
  devicePresence := ((∅ : OrdMap String PresenceRow).insert "C-123456789"
    { online := false, updatedAt := 5 }).insert "987654321" { online := true, updatedAt := 7 }
  userDevices := ((∅ : OrdMap (String ×ₗ String) Int).insert (toLex ("555555555", "C-123456789"))
    1).insert (toLex ("555555555", "987654321")) 2
  reconnectCredentials := ((∅ : OrdMap String ReconnectRow).insert "123456789" ⟨"44", 9⟩).insert
    "987654321" ⟨"55", 9⟩

/-- The rows of the first device go, and those of the second stay. -/
theorem admin_data_all_or_nothing_pair :
    Accepted (adminDeviceData constantDigest wholeCleanup watchedPair).1 ∧
      ∃ (reply : Json) (removed : RemovedRows),
        (adminDeviceData constantDigest wholeCleanup watchedPair).1 = .ok reply ∧
        reply.find "removed" = some removed.json ∧
        Cleaned "123456789" "identity" 0 removed watchedPair
          (adminDeviceData constantDigest wholeCleanup watchedPair).2 := by
  have haccepted : Accepted (adminDeviceData constantDigest wholeCleanup watchedPair).1 := by
    refine ⟨_, rfl, ?_⟩
    rfl
  exact ⟨haccepted, (admin_data_all_or_nothing constantDigest wholeCleanup watchedPair).2.2
    haccepted rfl⟩

/-- A device that was seen, whose credentials are gone except for the one to reconnect. -/
def strayCredential : DeviceDbManager where
  devicePresence := (∅ : OrdMap String PresenceRow).insert "123456789"
    { online := false, updatedAt := 5 }
  reconnectCredentials := (∅ : OrdMap String ReconnectRow).insert "123456789" ⟨"44", 9⟩

/-- No device row is deleted, so no trigger takes the credential away. -/
theorem stray_credential_stays :
    Accepted (adminDeviceData constantDigest wholeCleanup strayCredential).1 ∧
      (adminDeviceData constantDigest wholeCleanup strayCredential).2.reconnectCredentials["123456789"]? =
        some ⟨"44", 9⟩ := by
  refine ⟨⟨_, rfl, ?_⟩, by decide +kernel⟩
  rfl

end CrossDesk.DeviceDbManager
