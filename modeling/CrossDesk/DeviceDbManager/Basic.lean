import CrossDesk.Lib.OrdMap
import CrossDesk.Lib.Paging
import CrossDesk.Identity

/-!
# The device database

The tables of `DeviceDBManager` and what the signaling path reads and writes of the devices and their
presence. A table is a map from its primary key.

* **Failures.** A function that reports failure (`false`, `nullopt`) may fail at any call, whatever
  the rows are; `fails` is the environment's answer, and a failed call changes nothing.
* **Triggers.** `reconnect_credential_*` delete the reconnect credential of a device whose row is
  deleted, whose password record changes, or to which a login key is bound. They are part of
  `deleteDevice`, `replacePassword` and `replaceLoginPublicKey`, the only writers of existing rows.
* **Text keys.** A text is bound as a C string. No identity that the server stores contains a NUL
  (`ValidDeviceCredentials`), so a key is the text itself. What an administrator searches for may
  contain one, and ends there (`cString`).
* **Normalized ids.** A session keeps the normalized ids of its two ends in columns of their own. Every
  writer derives them from the ids, and so do `normalizedGuestId` and `normalizedHostId`.
* **Left out.** The row ids of `devices` and the table `device_id_seq`, which nothing reads, and the
  rules of the administrator, which answer `PasswordRiskDelay`.
-/

namespace CrossDesk

/-- The key of a session and of a ticket: its room, then its guest. -/
abbrev SessionKey := String ×ₗ String

def sessionKey (transmissionId guestId : String) : SessionKey := toLex (transmissionId, guestId)

theorem sessionKey_inj {tx g tx' g' : String} (h : sessionKey tx g = sessionKey tx' g') :
    tx = tx' ∧ g = g' := by
  simpa [sessionKey] using h

/-- What is stored of a password: `DevicePasswordRecord`. -/
structure DevicePasswordRecord where
  salt : String
  hash : String
  deriving DecidableEq, Repr

/-- What a registration hands out: `DeviceCredential`. -/
structure DeviceCredential where
  deviceId : String := ""
  password : String := ""
  update : Bool := false
  deriving DecidableEq, Repr

/-- A row of `devices`. -/
structure DeviceRow where
  password : DevicePasswordRecord
  loginPublicKey : String := ""
  retentionStartedAt : Int := 0
  deriving DecidableEq, Repr

/-- A row of `device_presence`. -/
structure PresenceRow where
  online : Bool
  updatedAt : Int := 0
  onlineSince : Int := 0
  clientVersion : String := ""
  clientPlatform : String := ""
  deriving DecidableEq, Repr

/-- A row of `remote_control_sessions`. -/
structure SessionRow where
  hostId : String
  startedAt : Int
  activityConfirmed : Bool := true
  deriving DecidableEq, Repr

/-- A row of `session_recovery`. -/
structure RecoveryRow where
  hostId : String
  token : String
  deriving DecidableEq, Repr

/-- The kinds of controllers that are counted. -/
inductive ControllerKind where
  | pc
  | mobile
  | web
  | cli
  deriving DecidableEq, Repr

/-- A row of `device_reconnect_credentials`. -/
structure ReconnectRow where
  tokenHash : String
  expiresAt : Int
  deriving DecidableEq, Repr

/-- A row of `admin_data_audit`. -/
structure AuditRow where
  createdAt : Int
  actor : String
  requestRef : String
  action : String
  scope : String
  result : String
  deriving DecidableEq, Repr

/-- The tables, each by its primary key, the last id given out in `admin_data_audit`, the time in
`server_runtime`, and the day that the daily activity was last refreshed for. -/
structure DeviceDbManager where
  devices : OrdMap String DeviceRow := ∅
  devicePresence : OrdMap String PresenceRow := ∅
  userDevices : OrdMap (String ×ₗ String) Int := ∅
  remoteControlSessions : OrdMap SessionKey SessionRow := ∅
  sessionRecovery : OrdMap SessionKey RecoveryRow := ∅
  dailyControllerActivity : OrdMap (Int ×ₗ String) ControllerKind := ∅
  reconnectCredentials : OrdMap String ReconnectRow := ∅
  adminDataAudit : OrdMap Nat AuditRow := ∅
  auditSequence : Nat := 0
  lastSeenAt : Int := 0
  activityDay : Int := 0

/-- Lowercase hexadecimal digits, two for each of `bytes` bytes. -/
def isHex (text : String) (bytes : Nat) : Bool :=
  text.utf8ByteSize == bytes * 2 &&
    text.toList.all (fun c => ('0' ≤ c && c ≤ '9') || ('a' ≤ c && c ≤ 'f'))

/-- The ids that `GenerateDeviceId` draws: nine digits, the first of them not zero. -/
def isDeviceNumber (id : String) : Bool :=
  id.toList.length == 9 && id.toList.all (fun c => '0' ≤ c && c ≤ '9') &&
    id.toList.head? != some '0'

/-- `NormalizeRemoteDeviceId`: the id that an alias stands for. -/
def normalizeRemoteDeviceId (deviceId : String) : String :=
  if isAlias deviceId then aliasBase deviceId else deviceId

namespace DevicePassword

/-- `kPrefix`. -/
def currentPrefix : String := "argon2id$v=19$m=19456,t=2,p=1$"

/-- `Unhex` succeeds: two digits of either case for each byte. -/
def unhexes (text : String) (bytes : Nat) : Bool :=
  text.utf8ByteSize == bytes * 2 &&
    text.toList.all (fun c => ('0' ≤ c && c ≤ '9') || ('a' ≤ c && c ≤ 'f') || ('A' ≤ c && c ≤ 'F'))

/-- `IsCurrent`: the record has the application's format. -/
def isCurrent (record : DevicePasswordRecord) : Bool :=
  startsWith record.hash currentPrefix && unhexes record.salt 16 &&
    unhexes (substrFrom record.hash currentPrefix.toList.length) 32

end DevicePassword

namespace DeviceDbManager

/-! ## Devices -/

/-- `ReadPassword`. -/
def readPassword (fails : Bool) (deviceId : String) (db : DeviceDbManager) :
    Option DevicePasswordRecord :=
  if fails ∨ deviceId = "" ∨ 128 < deviceId.utf8ByteSize ∨ '\x00' ∈ deviceId.toList then none
  else (db.devices[deviceId]?).map DeviceRow.password

/-- `ReadLoginPublicKey`: the key of a device, empty when none is bound. -/
def readLoginPublicKey (fails : Bool) (deviceId : String) (db : DeviceDbManager) :
    Option String :=
  if fails then none else (db.devices[deviceId]?).map DeviceRow.loginPublicKey

/-- The credential of a device goes: what the three triggers do. -/
def forgetReconnectCredential (deviceId : String) (db : DeviceDbManager) : DeviceDbManager :=
  { db with reconnectCredentials := db.reconnectCredentials.erase deviceId }

/-- `DELETE FROM devices` of one id, with its trigger. -/
def deleteDevice (deviceId : String) (db : DeviceDbManager) : DeviceDbManager :=
  if db.devices.contains deviceId then
    forgetReconnectCredential deviceId { db with devices := db.devices.erase deviceId }
  else db

/-- The key of a row is set to one that is not empty, with the trigger. -/
def replaceLoginPublicKey (deviceId : String) (row : DeviceRow) (publicKey : String)
    (db : DeviceDbManager) : DeviceDbManager :=
  forgetReconnectCredential deviceId { db with
    devices := db.devices.insert deviceId { row with loginPublicKey := publicKey } }

/-- The password record of a row is set to another one, with the trigger. -/
def replacePassword (deviceId : String) (row : DeviceRow) (replacement : DevicePasswordRecord)
    (db : DeviceDbManager) : DeviceDbManager :=
  forgetReconnectCredential deviceId { db with
    devices := db.devices.insert deviceId { row with password := replacement } }

/-- `BindLoginPublicKey`: only the first key is ever bound, and only against the password record
that was verified. -/
def bindLoginPublicKey (fails : Bool) (deviceId : String) (verified : DevicePasswordRecord)
    (publicKey : String) (db : DeviceDbManager) : Bool × DeviceDbManager :=
  if fails || !isHex publicKey 32 then (false, db)
  else
    match db.devices[deviceId]? with
    | none => (false, db)
    | some row =>
      if row.loginPublicKey = "" ∧ row.password = verified then
        (true, replaceLoginPublicKey deviceId row publicKey db)
      else (false, db)

/-- `CommitPassword`: the record is still the one that was read. -/
def commitPassword (fails : Bool) (deviceId : String) (expected replacement : DevicePasswordRecord)
    (db : DeviceDbManager) : Bool × DeviceDbManager :=
  if fails || !DevicePassword.isCurrent replacement then (false, db)
  else if db.readPassword false deviceId ≠ some expected then (false, db)
  else if expected = replacement then (true, db)
  else
    match db.devices[deviceId]? with
    | none => (false, db)
    | some row => (true, replacePassword deviceId row replacement db)

/-- `RegisterDevice`. `generated` is the number drawn for the new id; the registration is given up
when none that is free was found. -/
def registerDevice (fails : Bool) (now : Int) (generated : String) (kind password : String)
    (record : DevicePasswordRecord) (loginPublicKey : String) (db : DeviceDbManager) :
    DeviceCredential × DeviceDbManager :=
  if fails ∨ (kind ≠ "" ∧ ¬ isTemporaryControllerRegistration kind) ∨ password = "" ∨
      ¬ DevicePassword.isCurrent record ∨
      (loginPublicKey ≠ "" ∧ (kind ≠ "" ∨ ¬ isHex loginPublicKey 32)) then ({}, db)
  else
    let newId := if isTemporaryControllerRegistration kind then kind ++ "-" ++ generated
      else generated
    if !isDeviceNumber generated || db.devices.contains newId then ({}, db)
    else
      ({ deviceId := newId
         password := if isTemporaryControllerRegistration kind then "" else password
         update := false },
        { db with
          devices := db.devices.insert newId
            { password := record, loginPublicKey, retentionStartedAt := now } })

/-! ## Presence -/

/-- `online` is set in the row of the identity. -/
def online (deviceId : String) (db : DeviceDbManager) : Bool :=
  (db.devicePresence[deviceId]?).any PresenceRow.online

/-- `SQLITE_MAX_VARIABLE_NUMBER`: a statement with more parameters cannot be prepared. -/
def maxVariableNumber : Nat := 32766

/-- `BatchQueryOnline`. Each id is a parameter of the query; where it cannot be prepared, the answer is
empty. -/
def batchQueryOnline (deviceIds : List String) (db : DeviceDbManager) : List (String × Bool) :=
  if maxVariableNumber < deviceIds.length then []
  else
    let rows := db.devicePresence.toList.filter (fun row => row.1 ∈ deviceIds)
    deviceIds.map (fun id => (id, (rows.find? (fun row => row.1 == id)).any (fun row =>
      row.2.online)))

/-- The row of an identity after it went online or offline. -/
def presenceAfter (now : Int) (isOnline : Bool) (row : PresenceRow) : PresenceRow :=
  { row with
    online := isOnline
    updatedAt := now
    onlineSince :=
      if !isOnline then 0
      else if row.online && decide (0 < row.onlineSince) then row.onlineSince
      else now }

/-- `SetDeviceOnline`. -/
def setDeviceOnline (fails : Bool) (now : Int) (deviceId : String) (isOnline : Bool)
    (db : DeviceDbManager) : Bool × DeviceDbManager :=
  if fails then (false, db)
  else
    let row := (db.devicePresence[deviceId]?).getD { online := false }
    (true, { db with
      devicePresence := db.devicePresence.insert deviceId (presenceAfter now isOnline row) })

/-- A row for an identity that has none: it is offline. -/
def ensurePresence (now : Int) (deviceId : String) (db : DeviceDbManager) : DeviceDbManager :=
  { db with
    devicePresence := db.devicePresence.insertIfNew deviceId { online := false, updatedAt := now } }

/-! ## Daily activity

A controller is counted once a day, in the time zone of Beijing, under the kind it was last known
as. -/

/-- An ASCII letter in lower case, as `LIKE` and `LOWER` see it. -/
def asciiLower (text : String) : List Char :=
  text.toList.map (fun c => if 'A' ≤ c ∧ c ≤ 'Z' then Char.ofNat (c.toNat + 32) else c)

/-- `text LIKE 'head%'`. -/
def like (text head : String) : Bool := (asciiLower head).isPrefixOf (asciiLower text)

def isMobilePlatform (platform : String) : Bool :=
  asciiLower platform == "ios".toList || asciiLower platform == "android".toList

/-- `DayStart`. -/
def dayStart (now : Int) : Int := (now + 28800).tdiv 86400 * 86400 - 28800

/-- The kind that a guest is recorded under. -/
def controllerKind (guestId : String) (db : DeviceDbManager) : ControllerKind :=
  let platform := ((db.devicePresence[guestId]?).map PresenceRow.clientPlatform).getD ""
  if like guestId "web-" then .web
  else if like guestId "cli-" then .cli
  else if isMobilePlatform platform then .mobile
  else if platform ≠ "" then .pc
  else
    (((db.dailyControllerActivity.toList.filter (fun row => (ofLex row.1).2 == guestId)).getLast?).map
      Prod.snd).getD .pc

/-- The normalized id of the guest of a session. -/
def normalizedGuestId (key : SessionKey) : String := normalizeRemoteDeviceId (ofLex key).2

/-- The normalized id of the host of a session. -/
def normalizedHostId (row : SessionRow) : String := normalizeRemoteDeviceId row.hostId

/-- `RecordDailyControllerActivity`: of all sessions, or of one. -/
def recordDailyControllerActivity (now : Int) (only : Option SessionKey) (db : DeviceDbManager) :
    DeviceDbManager :=
  let sessions := db.remoteControlSessions.toList.filter (fun session =>
    session.2.activityConfirmed && normalizedGuestId session.1 ≠ "" &&
      only.all (· == session.1))
  { db with
    dailyControllerActivity := sessions.foldl (fun activity session =>
      activity.insert (toLex (dayStart now, normalizedGuestId session.1))
        (controllerKind (normalizedGuestId session.1) db)) db.dailyControllerActivity }

/-- `UpdateDailyControllerKind`. -/
def updateDailyControllerKind (now : Int) (deviceId platform : String) (db : DeviceDbManager) :
    DeviceDbManager :=
  let id := normalizeRemoteDeviceId deviceId
  let key := toLex (dayStart now, id)
  if db.dailyControllerActivity.contains key then
    { db with
      dailyControllerActivity := db.dailyControllerActivity.insert key
        (if like id "web-" then .web else if like id "cli-" then .cli
          else if isMobilePlatform platform then .mobile else .pc) }
  else db

/-- `RefreshDailyControllerActivity`: the first call of a day records the live sessions and drops
the days before yesterday. -/
def refreshDailyControllerActivity (now : Int) (db : DeviceDbManager) : DeviceDbManager :=
  let today := dayStart now
  if today = db.activityDay then db
  else
    let db := recordDailyControllerActivity now none db
    { db with
      dailyControllerActivity := db.dailyControllerActivity.filter (fun key _ =>
        decide (today - 86400 ≤ (ofLex key).1))
      activityDay := today }

/-- `RecordRuntimeHeartbeat`. -/
def recordRuntimeHeartbeat (now : Int) (db : DeviceDbManager) : DeviceDbManager :=
  refreshDailyControllerActivity now { db with lastSeenAt := now }

/-- `UpdateDeviceClientInfo`. -/
def updateDeviceClientInfo (fails : Bool) (now : Int)
    (deviceId clientVersion clientPlatform : String) (db : DeviceDbManager) :
    Bool × DeviceDbManager :=
  if fails ∨ deviceId = "" then (false, db)
  else
    let platform := if isMobilePlatform clientPlatform then String.ofList (asciiLower clientPlatform)
      else clientPlatform
    let row := (db.devicePresence[deviceId]?).getD { online := false, updatedAt := now }
    let db := { db with
      devicePresence := db.devicePresence.insert deviceId
        { row with clientVersion, clientPlatform := platform } }
    (true, if platform = "" then db else updateDailyControllerKind now deviceId platform db)

/-! ## Remote control sessions -/

/-- `StartRemoteControlSession`: a session that has a row keeps it, and is confirmed. -/
def startRemoteControlSession (fails : Bool) (now : Int) (transmissionId hostId guestId : String)
    (db : DeviceDbManager) : Bool × DeviceDbManager :=
  if transmissionId = "" ∨ hostId = "" ∨ guestId = "" ∨ hostId = guestId then (false, db)
  else if fails then (false, db)
  else
    let key := sessionKey transmissionId guestId
    let db := ensurePresence now (normalizeRemoteDeviceId hostId) db
    let db := ensurePresence now (normalizeRemoteDeviceId guestId) db
    let row := (db.remoteControlSessions[key]?).getD { hostId, startedAt := now }
    let db := { db with
      remoteControlSessions := db.remoteControlSessions.insert key
        { row with activityConfirmed := true } }
    (true, recordDailyControllerActivity now (some key) db)

/-- A session row is deleted, and the trigger with it. -/
def deleteSession (key : SessionKey) (db : DeviceDbManager) : DeviceDbManager :=
  { db with
    remoteControlSessions := db.remoteControlSessions.erase key
    sessionRecovery := db.sessionRecovery.erase key }

/-- `EndRemoteControlSession`. Its activity is recorded before the row is deleted. -/
def endRemoteControlSession (fails : Bool) (now : Int) (transmissionId guestId : String)
    (db : DeviceDbManager) : Bool × DeviceDbManager :=
  if transmissionId = "" ∨ guestId = "" then (false, db)
  else
    let key := sessionKey transmissionId guestId
    let db := recordDailyControllerActivity now (some key) db
    if fails then (false, db) else (true, deleteSession key db)

/-- The sessions of a room. -/
def sessionsOf (transmissionId : String) (db : DeviceDbManager) :
    List (SessionKey × SessionRow) :=
  db.remoteControlSessions.toList.filter (fun entry => (ofLex entry.1).1 == transmissionId)

/-- `EndRemoteControlTransmission`: every session of a room. -/
def endRemoteControlTransmission (fails : Bool) (now : Int) (transmissionId : String)
    (db : DeviceDbManager) : Bool × DeviceDbManager :=
  if transmissionId = "" then (false, db)
  else
    (db.sessionsOf transmissionId).foldl (fun r entry =>
      let r' := endRemoteControlSession fails now transmissionId (ofLex entry.1).2 r.2
      (r'.1 && r.1, r'.2)) (true, db)

/-! ## Listing sessions

`ListRemoteControlSessions` groups the rows by room and host and hands the guests of a group over as
one text, `GROUP_CONCAT(guest_id)`, which is then split at its commas. -/

/-- `RemoteControlSessionInfo`. -/
structure RemoteControlSessionInfo where
  transmissionId : String
  hostId : String
  startedAt : Int
  guestIds : List String
  deriving DecidableEq, Repr

/-- The pieces of a text between its commas. -/
def splitAtCommas : List Char → List (List Char)
  | [] => [[]]
  | c :: rest =>
    if c = ',' then [] :: splitAtCommas rest
    else
      match splitAtCommas rest with
      | [] => [[c]]
      | piece :: pieces => (c :: piece) :: pieces

/-- `SplitCommaSeparatedIds`: the pieces that are not empty, sorted, each once. -/
def splitCommaSeparatedIds (value : String) : List String :=
  (((splitAtCommas value.toList).map String.ofList).filter (· ≠ "")).mergeSort.dedup

/-- `GROUP_CONCAT`. -/
def groupConcat (ids : List String) : String := ",".intercalate ids

/-- A text as it is bound: up to its first NUL. -/
def cString (text : String) : String := String.ofList (text.toList.takeWhile (· ≠ '\x00'))

/-- `text LIKE '%search%'` with the wildcards of `search` escaped. Behind a NUL the pattern is cut off,
and with it the last wildcard. -/
def matchesSearch (search text : String) : Bool :=
  if '\x00' ∈ search.toList then (asciiLower (cString search)).isSuffixOf (asciiLower text)
  else (asciiLower text).tails.any (fun tail => (asciiLower search).isPrefixOf tail)

/-- The rows that a search finds. -/
def searched (search : String) (db : DeviceDbManager) : List (SessionKey × SessionRow) :=
  db.remoteControlSessions.toList.filter (fun entry => search == "" ||
    matchesSearch search (ofLex entry.1).1 || matchesSearch search entry.2.hostId ||
    matchesSearch search (ofLex entry.1).2)

/-- One group: the sessions of a room with a host. -/
def groupOf (rows : List (SessionKey × SessionRow)) (group : String × String) :
    RemoteControlSessionInfo :=
  let members := rows.filter (fun entry => ((ofLex entry.1).1, entry.2.hostId) == group)
  { transmissionId := group.1
    hostId := group.2
    startedAt := ((members.map (fun entry => entry.2.startedAt)).min?).getD 0
    guestIds := splitCommaSeparatedIds (groupConcat (members.map (fun entry => (ofLex entry.1).2))) }

/-- The order of the sessions: the latest first. -/
def laterSession (a b : RemoteControlSessionInfo) : Bool :=
  b.startedAt < a.startedAt || (a.startedAt == b.startedAt && a.transmissionId ≤ b.transmissionId)

/-- The groups that a search finds, in order. The statement sorts by the start and by the room; groups of
one room with different hosts that started together come in the order of the table here, which it leaves
open. -/
def foundSessions (search : String) (db : DeviceDbManager) : List RemoteControlSessionInfo :=
  let rows := db.searched search
  ((rows.map (fun entry => ((ofLex entry.1).1, entry.2.hostId))).dedup.map
    (groupOf rows)).mergeSort laterSession

/-- `ListRemoteControlSessions`: the latest group first. -/
def listRemoteControlSessions (limit offset : Nat) (search : String) (db : DeviceDbManager) :
    List RemoteControlSessionInfo :=
  limitOffset (asInt64 limit) (asInt64 offset) (db.foundSessions search)

/-- `CountRemoteControlTransmissions`. -/
def countRemoteControlTransmissions (search : String) (db : DeviceDbManager) : Int :=
  asInt32 ((db.searched search).map (fun entry => ((ofLex entry.1).1, entry.2.hostId))).dedup.length

/-! ## Opening -/

/-- `InitDB` on a database of this version: reconnect credentials that are over go, sessions are
kept only when the server was away briefly, and nobody is online or confirmed. -/
def initDb (now : Int) (db : DeviceDbManager) : DeviceDbManager :=
  let staleCutoff := if 0 < db.lastSeenAt then min db.lastSeenAt now else 0
  let recovers := decide (0 < staleCutoff ∧ now - staleCutoff ≤ 120)
  let offlineTime := if 0 < staleCutoff then staleCutoff else now
  let sessions := if recovers then
      db.remoteControlSessions.map (fun _ row => { row with activityConfirmed := false })
    else ∅
  recordRuntimeHeartbeat now { db with
    reconnectCredentials := db.reconnectCredentials.filter (fun deviceId row =>
      decide (now < row.expiresAt) && db.devices.contains deviceId)
    devicePresence := db.devicePresence.map (fun _ row =>
      if row.online then { row with online := false, updatedAt := offlineTime, onlineSince := 0 }
      else row)
    remoteControlSessions := sessions
    sessionRecovery := if recovers then db.sessionRecovery
      else db.sessionRecovery.filter (fun key _ => !db.remoteControlSessions.contains key)
    activityDay := 0 }

end DeviceDbManager

end CrossDesk
