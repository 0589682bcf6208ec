import CrossDesk.Lib.Transaction
import CrossDesk.DeviceDbManager.Basic

/-!
# Cleaning up

Identities that were offline for the whole retention period go, and so do web and CLI controllers as
soon as they are offline. Both jobs pick a batch of ids and delete everything that is stored under
each id and under its alias `C-…`, in one transaction.

A statement may fail; then the call throws, and the transaction is rolled back. Where a query with a
`LIMIT` does not say in which order its rows come, SQLite picks them in an order of its own: both are
part of what a call depends on (`CleanupEnv`).
-/

namespace CrossDesk

/-- The statements of a cleanup, in the order in which they are carried out. -/
inductive CleanupStatement where
  | begin
  | candidates
  | remove (id : String) (n : Nat)
  | orphans
  | commit
  deriving DecidableEq, Repr

/-- The exception of a cleanup: the arguments are refused, or a statement failed. -/
inductive CleanupError where
  | invalidArgument
  | failed (statement : CleanupStatement)
  deriving DecidableEq, Repr

/-- An order that a query leaves open. -/
structure ScanOrder (α : Type) where
  scan : List α → List α
  perm : ∀ rows : List α, (scan rows).Perm rows

/-- The rows as they are stored. -/
def ScanOrder.stored (α : Type) : ScanOrder α := ⟨id, fun rows => .refl rows⟩

/-- What a cleanup depends on besides its arguments and the tables: the statements that fail, and the
orders in which SQLite comes to the associations and to the controllers. -/
structure CleanupEnv where
  fails : CleanupStatement → Bool := fun _ => false
  associations : ScanOrder ((String ×ₗ String) × Int) := .stored _
  controllers : ScanOrder String := .stored _

/-- `RetentionCleanupResult`. -/
structure RetentionCleanupResult where
  devices : Nat := 0
  associations : Nat := 0
  credentials : Nat := 0
  deviceIds : List String := []
  more : Bool := false
  deriving DecidableEq, Repr

namespace DeviceDbManager

open Transaction

/-- An id together with its alias. -/
def pair (id : String) : List String := [id, "C-" ++ id]

/-! ## Which ids are over -/

/-- The id has a presence row that is online or not yet over. -/
def isLive (cutoff : Int) (id : String) (db : DeviceDbManager) : Bool :=
  (db.devicePresence[id]?).any (fun row => row.online || decide (cutoff ≤ row.updatedAt))

/-- The id has credentials without a presence row, and they are not yet over. -/
def isRetained (cutoff : Int) (id : String) (db : DeviceDbManager) : Bool :=
  (db.devices[id]?).any (fun row => decide (cutoff ≤ row.retentionStartedAt)) &&
    !db.devicePresence.contains id

/-- A session has the id as its normalized host or guest. -/
def inSession (id : String) (db : DeviceDbManager) : Bool :=
  db.remoteControlSessions.toList.any (fun session =>
    normalizedHostId session.2 == id || normalizedGuestId session.1 == id)

/-- The rows of `expired`: the normalized id of a presence row, or of credentials without one, that
is over, with its age. -/
def expired (cutoff : Int) (db : DeviceDbManager) : List (String × Int) :=
  (db.devicePresence.toList.filter (fun row => !row.2.online && decide (row.2.updatedAt < cutoff))).map
      (fun row => (normalizeRemoteDeviceId row.1, row.2.updatedAt)) ++
    (db.devices.toList.filter (fun row => decide (row.2.retentionStartedAt < cutoff) &&
      !db.devicePresence.contains row.1)).map
      (fun row => (normalizeRemoteDeviceId row.1, row.2.retentionStartedAt))

/-- The three tests that protect an id and its alias. -/
def isProtected (cutoff : Int) (id : String) (db : DeviceDbManager) : Bool :=
  (pair id).any (fun id => db.isLive cutoff id) || (pair id).any (fun id => db.isRetained cutoff id) ||
    db.inSession id

/-- `MIN(e.expired_at)` of an id. -/
def expiredAt (cutoff : Int) (db : DeviceDbManager) (id : String) : Int :=
  ((((db.expired cutoff).filter (fun row => row.1 == id)).map Prod.snd).min?).getD 0

/-- The order of the candidates: the oldest first. -/
def olderThan (cutoff : Int) (db : DeviceDbManager) (a b : String) : Bool :=
  db.expiredAt cutoff a < db.expiredAt cutoff b ||
    (db.expiredAt cutoff a == db.expiredAt cutoff b && decide (a ≤ b))

/-- The ids that are over and not protected, each once. -/
def unprotected (cutoff : Int) (db : DeviceDbManager) : List String :=
  (((db.expired cutoff).map Prod.fst).dedup).filter (fun id => !db.isProtected cutoff id)

/-- The ids that a call deletes. -/
def retentionCandidates (cutoff : Int) (batchSize : Nat) (db : DeviceDbManager) : List String :=
  ((db.unprotected cutoff).mergeSort (db.olderThan cutoff)).take batchSize

/-! ## Deleting what belongs to an id -/

/-- `DELETE FROM user_devices` of an id and its alias, with the number of rows. -/
def removeAssociations (id : String) (db : DeviceDbManager) : Nat × DeviceDbManager :=
  let gone (key : String × String) : Bool := key.1 ∈ pair id || key.2 ∈ pair id
  ((db.userDevices.toList.filter (fun row => gone (ofLex row.1))).length,
    { db with userDevices := db.userDevices.filter (fun key _ => !gone (ofLex key)) })

/-- `DELETE FROM device_presence` of an id and its alias. -/
def removePresence (id : String) (db : DeviceDbManager) : Nat × DeviceDbManager :=
  (((pair id).filter (fun id => db.devicePresence.contains id)).length,
    { db with devicePresence := (pair id).foldl (fun rows id => rows.erase id) db.devicePresence })

/-- `DELETE FROM devices` of an id and its alias. -/
def removeCredentials (id : String) (db : DeviceDbManager) : Nat × DeviceDbManager :=
  (((pair id).filter (fun id => db.devices.contains id)).length,
    (pair id).foldl (fun db id => db.deleteDevice id) db)

/-- `DELETE FROM daily_controller_activity` of an id and its alias. -/
def removeActivity (id : String) (db : DeviceDbManager) : Nat × DeviceDbManager :=
  ((db.dailyControllerActivity.toList.filter (fun row => (ofLex row.1).2 ∈ pair id)).length,
    { db with
      dailyControllerActivity := db.dailyControllerActivity.filter (fun key _ =>
        decide ((ofLex key).2 ∉ pair id)) })

/-- The database inside a transaction, with what was counted so far. -/
structure Cleanup where
  db : DeviceDbManager
  result : RetentionCleanupResult := {}

/-- A statement of a cleanup. -/
def cleanupStatement (fails : CleanupStatement → Bool) (statement : CleanupStatement)
    (f : Cleanup → Cleanup) : Transaction CleanupError Cleanup Unit :=
  execute (fails statement) (.failed statement) (fun s => ((), f s))

/-- The statements for one id. The activity of a temporary controller is kept. -/
def removeExpired (fails : CleanupStatement → Bool) (activity : Bool) (id : String) :
    Transaction CleanupError Cleanup Unit := do
  cleanupStatement fails (.remove id 0) (fun s =>
    let r := s.db.removeAssociations id
    { db := r.2, result := { s.result with associations := s.result.associations + r.1 } })
  cleanupStatement fails (.remove id 1) (fun s =>
    let r := s.db.removePresence id
    { db := r.2, result := { s.result with devices := s.result.devices + r.1 } })
  cleanupStatement fails (.remove id 2) (fun s =>
    let r := s.db.removeCredentials id
    { db := r.2, result := { s.result with credentials := s.result.credentials + r.1 } })
  if activity && !isTemporaryControllerId id then
    cleanupStatement fails (.remove id 3) (fun s => { s with db := (s.db.removeActivity id).2 })
  else pure ()

/-! ## Associations without an owner -/

/-- An association that is over, whose owner is not live and in no session. -/
def isOrphan (cutoff : Int) (db : DeviceDbManager) (row : (String ×ₗ String) × Int) : Bool :=
  let owner := normalizeRemoteDeviceId (ofLex row.1).1
  decide (row.2 < cutoff) && !(pair owner).any (fun id => db.isLive cutoff id) &&
    !db.inSession owner

/-- The associations that a call deletes: the oldest first, and those of one age as they come. -/
def orphans (order : ScanOrder ((String ×ₗ String) × Int)) (cutoff : Int) (batchSize : Nat)
    (db : DeviceDbManager) : List (String ×ₗ String) :=
  (((order.scan (db.userDevices.toList.filter (db.isOrphan cutoff))).mergeSort
    (fun a b => decide (a.2 ≤ b.2))).take batchSize).map Prod.fst

def removeOrphans (order : ScanOrder ((String ×ₗ String) × Int)) (cutoff : Int) (batchSize : Nat)
    (s : Cleanup) : Cleanup :=
  let keys := s.db.orphans order cutoff batchSize
  { db := { s.db with userDevices := keys.foldl (fun rows key => rows.erase key) s.db.userDevices }
    result := { s.result with
      associations := s.result.associations + keys.length
      more := s.result.deviceIds.length == batchSize || keys.length == batchSize } }

/-! ## The calls -/

/-- The work of `CleanupExpiredDevices`. -/
def cleanupExpired (env : CleanupEnv) (cutoff : Int) (batchSize : Nat) :
    Transaction CleanupError Cleanup Unit := do
  cleanupStatement env.fails .begin id
  cleanupStatement env.fails .candidates (fun s =>
    { s with result := { s.result with deviceIds := s.db.retentionCandidates cutoff batchSize } })
  let s ← get
  forEach s.result.deviceIds (removeExpired env.fails true)
  cleanupStatement env.fails .orphans (removeOrphans env.associations cutoff batchSize)
  cleanupStatement env.fails .commit id

/-- `NowSeconds() - int64_t{retention_days} * 86400`. -/
def retentionCutoff (now retentionDays : Int) : Int := now - retentionDays * 86400

/-- `CleanupExpiredDevices`. -/
def cleanupExpiredDevices (env : CleanupEnv) (now retentionDays : Int)
    (batchSize : Nat) (db : DeviceDbManager) :
    Except CleanupError RetentionCleanupResult × DeviceDbManager :=
  if retentionDays < 1 ∨ 3650 < retentionDays ∨ batchSize < 1 ∨ 1000 < batchSize then
    (.error .invalidArgument, db)
  else
    let r := atomically (cleanupExpired env (retentionCutoff now retentionDays) batchSize) { db }
    (r.1.map (fun _ => r.2.result), r.2.db)

/-! ## Temporary controllers -/

/-- The controllers that a call without an id looks at: offline, or registered without presence. -/
def offlineControllers (db : DeviceDbManager) : List String :=
  (db.devicePresence.toList.filter (fun row => !row.2.online && isTemporaryControllerId row.1)).map
      Prod.fst ++
    (db.devices.toList.filter (fun row => isTemporaryControllerId row.1 &&
      !db.devicePresence.contains row.1)).map Prod.fst

/-- The ids that `CleanupTemporaryControllers` deletes, as they come. -/
def controllerCandidates (order : ScanOrder String) (batchSize : Nat) (deviceId : String)
    (db : DeviceDbManager) : List String :=
  (order.scan ((if deviceId = "" then db.offlineControllers else [deviceId]).filter (fun id =>
    !(pair id).any (fun id => db.online id) && !db.inSession id))).take batchSize

/-- The work of `CleanupTemporaryControllers`. -/
def cleanupControllers (env : CleanupEnv) (batchSize : Nat) (deviceId : String) :
    Transaction CleanupError Cleanup Unit := do
  cleanupStatement env.fails .begin id
  cleanupStatement env.fails .candidates (fun s =>
    { s with result := { s.result with
      deviceIds := s.db.controllerCandidates env.controllers batchSize deviceId } })
  let s ← get
  forEach s.result.deviceIds (removeExpired env.fails false)
  cleanupStatement env.fails .commit (fun s =>
    { s with result := { s.result with
      more := deviceId == "" && s.result.deviceIds.length == batchSize } })

/-- `CleanupTemporaryControllers`. -/
def cleanupTemporaryControllers (env : CleanupEnv) (batchSize : Nat)
    (deviceId : String) (db : DeviceDbManager) :
    Except CleanupError RetentionCleanupResult × DeviceDbManager :=
  if batchSize < 1 ∨ 1000 < batchSize ∨ (deviceId ≠ "" ∧ ¬ isTemporaryControllerId deviceId) then
    (.error .invalidArgument, db)
  else
    let r := atomically (cleanupControllers env batchSize deviceId) { db }
    (r.1.map (fun _ => r.2.result), r.2.db)

/-- `RemoveDevice`. -/
def removeDevice (fails : Bool) (deviceId : String) (db : DeviceDbManager) :
    Bool × DeviceDbManager :=
  if isTemporaryControllerId deviceId then
    let r := cleanupTemporaryControllers { fails := fun _ => fails } 1 deviceId db
    (match r.1 with
      | .ok result => !result.deviceIds.isEmpty
      | .error _ => false, r.2)
  else if fails then (false, db)
  else (true, deleteDevice deviceId db)

end DeviceDbManager

end CrossDesk
