import CrossDesk.JsonText
import CrossDesk.DeviceDbManager.Retention

/-!
# The data of one device

`AdminDeviceData` reports what is stored about a device and its alias, or deletes it. A deletion
names the revision of the report that was confirmed: a digest of the rows that the report was made
from.

A call is one transaction. It is given up when the request is refused halfway (`AdminError.refused`)
and when a statement fails or runs out of its time (`AdminError.failed`); both roll back.
-/

namespace CrossDesk

/-- The statements of a call, in the order in which they are carried out. -/
inductive AdminStatement where
  | begin
  | readActivity
  | readCredentials
  | readPresence
  | readAssociations
  | readSessions
  | removeAssociations
  | removePresence
  | removeActivity
  | removeCredentials
  | restartRetention
  | insertAudit
  | commit
  deriving DecidableEq, Repr

/-- What ends a call early. -/
inductive AdminError where
  | refused (error : String)
  | failed (statement : AdminStatement)
  deriving DecidableEq, Repr

/-- The arguments of a call. -/
structure AdminRequest where
  id : String
  action : String
  scope : String := ""
  expectedRevision : String := ""
  actor : String
  requestRef : String
  deriving DecidableEq, Repr

/-- What a call depends on besides the request and the tables: the statements that fail, the two
times that are read off the clock, and the library functions. -/
structure AdminEnv where
  fails : AdminStatement → Bool := fun _ => false
  cleanedAt : Int := 0
  auditedAt : Int := 0
  floatText : ℚ → String := fun _ => ""
  sha256 : String → String

/-- The rows that belong to a device. -/
structure RelatedRows where
  activity : List ((Int ×ₗ String) × ControllerKind) := []
  credentials : List (String × DeviceRow) := []
  presence : List (String × PresenceRow) := []
  associations : List ((String ×ₗ String) × Int) := []
  sessions : List (SessionKey × SessionRow) := []

/-- The rows that a cleanup deleted, by table. -/
structure RemovedRows where
  associations : Nat := 0
  presence : Nat := 0
  activity : Nat := 0
  credentials : Nat := 0
  deriving DecidableEq, Repr

/-- `Identifier`. -/
def identifier (value : String) : Bool :=
  value != "" && decide (value.utf8ByteSize ≤ 128) &&
    value.toList.all (fun c => ('a' ≤ c && c ≤ 'z') || ('A' ≤ c && c ≤ 'Z') ||
      ('0' ≤ c && c ≤ '9') || c == '-' || c == '_')

/-- The requests that are not refused at once. -/
def AdminRequest.isValid (request : AdminRequest) : Bool :=
  identifier request.id && !isAlias request.id && identifier request.requestRef &&
    decide (request.requestRef.utf8ByteSize ≤ 64) && request.actor != "" &&
    (request.action == "query" || request.action == "export" || request.action == "cleanup") &&
    (request.action != "cleanup" || request.scope == "history" || request.scope == "identity")

/-- `kMaxRelatedRows`. -/
def maxRelatedRows : Nat := 10000

/-! ## As JSON -/

def ControllerKind.text : ControllerKind → String
  | pc => "pc"
  | mobile => "mobile"
  | web => "web"
  | cli => "cli"

namespace RelatedRows

def activityJson (row : (Int ×ₗ String) × ControllerKind) : Json :=
  .obj [("day_start", .int (ofLex row.1).1), ("kind", .str row.2.text)]

def credentialJson (row : String × DeviceRow) : Json :=
  .arr [.str row.1, .str row.2.password.salt, .str row.2.password.hash]

def presenceJson (row : String × PresenceRow) : Json :=
  .obj [("client_platform", .str row.2.clientPlatform), ("client_version", .str row.2.clientVersion),
    ("device_id", .str row.1), ("online", .bool row.2.online),
    ("online_since", .int row.2.onlineSince), ("updated_at", .int row.2.updatedAt)]

def associationJson (row : (String ×ₗ String) × Int) : Json :=
  .arr [.str (ofLex row.1).1, .str (ofLex row.1).2, .int row.2]

def sessionJson (row : SessionKey × SessionRow) : Json :=
  .arr [.str (ofLex row.1).1, .str (ofLex row.1).2, .str row.2.hostId, .int row.2.startedAt]

/-- The side that the device has in a session. -/
def ownSessionJson (id : String) (row : SessionKey × SessionRow) : Json :=
  .obj [("role", .str (if row.2.hostId = id ∨ row.2.hostId = "C-" ++ id then "host" else "guest")),
    ("started_at", .int row.2.startedAt)]

/-- What the revision is a digest of. -/
def digestInput (id : String) (rows : RelatedRows) : Json :=
  .arr [.str id, .arr (rows.credentials.map credentialJson), .arr (rows.presence.map presenceJson),
    .arr (rows.associations.map associationJson), .arr (rows.sessions.map sessionJson),
    .arr (rows.activity.map activityJson)]

/-- Some presence row of the device is online. -/
def online (rows : RelatedRows) : Bool := rows.presence.any (fun row => row.2.online)

/-- Nothing is stored about the device. -/
def isEmpty (rows : RelatedRows) : Bool :=
  rows.credentials.isEmpty && rows.presence.isEmpty && rows.associations.isEmpty &&
    rows.sessions.isEmpty && rows.activity.isEmpty

/-- `report`. -/
def report (id revision : String) (generatedAt : Int) (rows : RelatedRows) : Json :=
  .obj [("active_session_records", .int rows.sessions.length),
    ("association_records", .int rows.associations.length),
    ("cleanup_allowed", .bool (!rows.online && rows.sessions.isEmpty)),
    ("credential_records", .int rows.credentials.length),
    ("daily_controller_activity", .arr (rows.activity.map activityJson)),
    ("device_id", .str id),
    ("excluded", .arr [.str "passwords_and_hashes", .str "other_device_identifiers",
      .str "legacy_geolocation", .str "runtime_subscriptions", .str "logs", .str "backups"]),
    ("generated_at", .int generatedAt),
    ("presence", .arr (rows.presence.map presenceJson)),
    ("revision", .str revision),
    ("scope", .str "device_database_summary"),
    ("sessions", .arr (rows.sessions.map (ownSessionJson id)))]

end RelatedRows

def RemovedRows.json (removed : RemovedRows) : Json :=
  .obj [("associations", .int removed.associations), ("credentials", .int removed.credentials),
    ("daily_controller_activity", .int removed.activity), ("presence", .int removed.presence)]

/-- `Digest`. -/
def AdminEnv.digest (env : AdminEnv) (value : Json) : String := env.sha256 (value.dump env.floatText)

/-- `Error`. -/
def adminRefusal (error : String) : Json := .obj [("error", .str error), ("ok", .bool false)]

namespace DeviceDbManager

open Transaction

/-! ## The statements -/

/-- The rows that the five queries find. The two that may be many are cut off. -/
def related (id : String) (db : DeviceDbManager) : RelatedRows where
  activity := db.dailyControllerActivity.toList.filter (fun row => (ofLex row.1).2 == id)
  credentials := db.devices.toList.filter (fun row => decide (row.1 ∈ pair id))
  presence := db.devicePresence.toList.filter (fun row => decide (row.1 ∈ pair id))
  associations := (db.userDevices.toList.filter (fun row =>
    decide ((ofLex row.1).1 ∈ pair id ∨ (ofLex row.1).2 ∈ pair id))).take (maxRelatedRows + 1)
  sessions := (db.remoteControlSessions.toList.filter (fun row =>
    normalizedGuestId row.1 == id || normalizedHostId row.2 == id)).take (maxRelatedRows + 1)

/-- A statement of a call. -/
def adminStatement {α : Type} (env : AdminEnv) (statement : AdminStatement)
    (f : DeviceDbManager → α × DeviceDbManager) : Transaction AdminError DeviceDbManager α :=
  execute (env.fails statement) (.failed statement) f

/-- The five queries. -/
def readRelated (env : AdminEnv) (id : String) :
    Transaction AdminError DeviceDbManager RelatedRows := do
  let activity ← adminStatement env .readActivity (fun db => ((db.related id).activity, db))
  let credentials ← adminStatement env .readCredentials (fun db => ((db.related id).credentials, db))
  let presence ← adminStatement env .readPresence (fun db => ((db.related id).presence, db))
  let associations ←
    adminStatement env .readAssociations (fun db => ((db.related id).associations, db))
  let sessions ← adminStatement env .readSessions (fun db => ((db.related id).sessions, db))
  pure { activity, credentials, presence, associations, sessions }

/-- A fresh retention period for the credentials of an id and its alias. -/
def restartRetention (now : Int) (id : String) (db : DeviceDbManager) : DeviceDbManager :=
  { db with
    devices := db.devices.map (fun deviceId row =>
      if deviceId ∈ pair id then { row with retentionStartedAt := now } else row) }

/-- The statements that delete. With the scope `history` the credentials stay. -/
def removeRelated (env : AdminEnv) (request : AdminRequest) :
    Transaction AdminError DeviceDbManager RemovedRows := do
  let associations ← adminStatement env .removeAssociations (removeAssociations request.id)
  let presence ← adminStatement env .removePresence (removePresence request.id)
  let activity ← adminStatement env .removeActivity (removeActivity request.id)
  if request.scope = "identity" then
    let credentials ← adminStatement env .removeCredentials (removeCredentials request.id)
    pure { associations, presence, activity, credentials }
  else
    adminStatement env .restartRetention (fun db =>
      ((), restartRetention env.cleanedAt request.id db))
    pure { associations, presence, activity, credentials := 0 }

/-- The id of the next audit row, larger than every one that was ever given out. -/
def nextAuditId (db : DeviceDbManager) : Nat :=
  db.adminDataAudit.keys.foldl max db.auditSequence + 1

/-- The row goes into `admin_data_audit`. -/
def insertAudit (row : AuditRow) (db : DeviceDbManager) : Nat × DeviceDbManager :=
  (db.nextAuditId, { db with
    adminDataAudit := db.adminDataAudit.insert db.nextAuditId row
    auditSequence := db.nextAuditId })

/-! ## The call -/

/-- The audit row of a call. -/
def auditRow (env : AdminEnv) (request : AdminRequest) (removed : Json) : AuditRow where
  createdAt := env.auditedAt
  actor := request.actor
  requestRef := request.requestRef
  action := request.action
  scope := if request.action = "cleanup" then request.scope else "summary"
  result := if request.action = "cleanup" then removed.dump env.floatText else "\x7b\x7d"

/-- The confirmation and the deletion. -/
def cleanupRelated (env : AdminEnv) (request : AdminRequest) (rows : RelatedRows) :
    Transaction AdminError DeviceDbManager RemovedRows := do
  require (!rows.online && rows.sessions.isEmpty) (.refused "device_busy")
  require (request.expectedRevision != "" &&
      request.expectedRevision == env.digest (rows.digestInput request.id))
    (.refused "stale_preview")
  removeRelated env request

/-- The part of a call that only a cleanup has. -/
def cleanupStep (env : AdminEnv) (request : AdminRequest) (rows : RelatedRows) :
    Transaction AdminError DeviceDbManager RemovedRows :=
  if request.action = "cleanup" then cleanupRelated env request rows else pure {}

/-- The reply to a call that is committed. -/
def adminReply (env : AdminEnv) (request : AdminRequest) (rows : RelatedRows)
    (removed : RemovedRows) (auditId : Nat) : Json :=
  if request.action = "cleanup" then
    .obj [("audit_id", .int auditId), ("logs_and_backups_deleted", .bool false), ("ok", .bool true),
      ("removed", removed.json), ("scope", .str request.scope)]
  else
    .obj [("audit_id", .int auditId),
      ("data", rows.report request.id (env.digest (rows.digestInput request.id)) env.auditedAt),
      ("ok", .bool true)]

/-- The work of a call. -/
def adminWork (env : AdminEnv) (request : AdminRequest) :
    Transaction AdminError DeviceDbManager Json := do
  adminStatement env .begin (fun db => ((), db))
  let rows ← readRelated env request.id
  require (decide (rows.associations.length ≤ maxRelatedRows) &&
    decide (rows.sessions.length ≤ maxRelatedRows)) (.refused "device_data_too_large")
  require (!rows.isEmpty) (.refused "device_not_found")
  let removed ← cleanupStep env request rows
  let auditId ← adminStatement env .insertAudit (insertAudit (auditRow env request removed.json))
  adminStatement env .commit (fun db => ((), db))
  pure (adminReply env request rows removed auditId)

/-- `AdminDeviceData`: the reply, or the statement that made the call throw. -/
def adminDeviceData (env : AdminEnv) (request : AdminRequest) (db : DeviceDbManager) :
    Except AdminStatement Json × DeviceDbManager :=
  if !request.isValid then (.ok (adminRefusal "invalid_request"), db)
  else
    match atomically (adminWork env request) db with
    | (.ok reply, db) => (.ok reply, db)
    | (.error (.refused error), db) => (.ok (adminRefusal error), db)
    | (.error (.failed statement), db) => (.error statement, db)

end DeviceDbManager

end CrossDesk
