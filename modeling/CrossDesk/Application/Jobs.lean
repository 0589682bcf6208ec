import CrossDesk.Application.Signaling
import CrossDesk.SignalServer.Restore
import CrossDesk.DeviceDbManager.AdminDeviceData

/-!
# Jobs and runs

A run of the server is a sequence of jobs of the application worker, in any order, each with any
environment, interleaved with connections dying on the network thread and with restarts of the
process.

* **Connections.** The network thread marks a connection dead at any moment and then queues its
  cleanup, once. A message, a finished computation and an expired one are looked at only while the
  connection is not marked; the tests of this flag are the `Ready` conditions.
* **Nested jobs.** Submitting a computation may expire others and so process deferred messages of
  other connections before it returns. Nothing is done after it returns, so these are jobs that
  follow.
* **Restarts.** A restart keeps the database and nothing else, and restores what the database says
  (`boot`). A job that a crash cuts short is not modelled: a restart is between two jobs.
-/

namespace CrossDesk

open Logged

namespace Application

variable (cfg : Config) (env : Env)

/-! ## Continuations of password computations -/

/-- `on_verified()`. -/
def verified (hdl : ConnectionHdl) : OnVerified → Program Unit
  | .login finish => finishLogin cfg env hdl finish { deviceId := finish.hostId } false none
  | .queryUserIdList transmissionId => do
    let s ← look
    send (some hdl) (.obj [("type", .str "user_id_list"), ("transmission_id", .str transmissionId),
      ("user_id_list", .arr ((s.manager.getAllUserIdOfTransmission transmissionId).map Json.str)),
      ("status", .str "success")])
  | .joinTransmission transmissionId userId => joined cfg env hdl transmissionId userId

/-- What checking a password came to: the record to store from now on when it is right, the seconds to
wait, and whether the rules of the administrator could not be read. -/
structure Verdict where
  verified : Option DevicePasswordRecord := none
  retryAfter : Nat := 0
  unavailable : Bool := false

/-- The check on another thread, and the rules again when it is over: the administrator may have added
one. -/
def verdict (record : Option DevicePasswordRecord) (password : String) : Verdict :=
  let manual := env.riskDelay 1
  if manual ≠ some 0 then { retryAfter := manual.getD 1, unavailable := manual.isNone }
  else
    match env.throttled with
    | some delay => { retryAfter := delay }
    | none =>
      let verified := DevicePassword.verify cfg.hashing env.hashed record password
      if verified.isSome ∧ env.riskDelay 2 ≠ some 0 then
        { retryAfter := (env.riskDelay 2).getD 1, unavailable := (env.riskDelay 2).isNone }
      else { verified }

/-- The continuation of `AuthenticateDevice`. -/
def authenticated (hdl : ConnectionHdl) (failure : Json) (deviceId password : String)
    (record : Option DevicePasswordRecord) (identity bindLoginKey : String)
    (onVerified : OnVerified) : Program Unit := do
  let s ← look
  let verdict := verdict cfg env record password
  let reject : Program Unit := send (some hdl)
    (if 0 < verdict.retryAfter then delayed verdict.unavailable verdict.retryAfter failure
      else failure)
  let accept : Program Unit := do
    report (.passwordVerified hdl deviceId)
    verified cfg env hdl onVerified
  if env.expired 0 || s.manager.getUserId hdl ≠ identity then pure ()
  else
    match record, verdict.verified with
    | some record, some verifiedRecord =>
      let committed := s.store.commitPassword (env.fails .commitPassword) deviceId record
        verifiedRecord
      if !committed.1 then reject
      else
        modify (fun s => { s with store := committed.2 })
        if bindLoginKey = "" then accept
        else
          let bound := committed.2.bindLoginPublicKey (env.fails .bindLoginPublicKey) deviceId
            verifiedRecord bindLoginKey
          if !bound.1 then reject
          else
            modify (fun s => { s with store := bound.2 })
            accept
    | _, _ => reject

/-- The continuation of `RegisterDevice`. -/
def registered (hdl : ConnectionHdl) (failure : Json) (kind loginPublicKey : String)
    (finish : FinishLogin) : Program Unit := do
  let s ← look
  if env.expired 0 || s.manager.getUserId hdl ≠ "" then pure ()
  else
    match if env.password = "" then none else env.hashed with
    | none => send (some hdl) failure
    | some record =>
      let registration := s.store.registerDevice (env.fails .registerDevice) env.storeTime
        env.deviceNumber kind env.password record loginPublicKey
      modify (fun s => { s with store := registration.2 })
      report (.registered hdl registration.1.deviceId loginPublicKey)
      finishLogin cfg env hdl finish registration.1 true none

/-- The continuation of a dispatched computation. -/
def finishWork (work : Dispatched) : Program Unit :=
  match work.work with
  | .authenticate deviceId password record identity bindLoginKey onVerified =>
    authenticated cfg env work.hdl work.failure deviceId password record identity bindLoginKey
      onVerified
  | .register kind loginPublicKey finish =>
    registered cfg env work.hdl work.failure kind loginPublicKey finish
  | .changePassword userId requestId newPassword record =>
    passwordChanged cfg env work.hdl userId requestId newPassword record

/-! ## The other jobs -/

/-- The cleanup after a connection: `QueueSessionCleanup`. While the server is stopping nothing is
released: the session rows are what the next start goes on from. -/
def cleanup (hdl : ConnectionHdl) : Program Unit := do
  if env.stopping then pure () else
  let id ← releaseUserSession env hdl
  if id = "" then pure ()
  else
    onLogout env id
    -- `OnTemporaryControllerDisconnect`
    let pureUserId := (splitAtSign id).1
    if isTemporaryControllerId pureUserId then
      modify (fun s => { s with
        store := (s.store.removeDevice (env.fails .removeDevice) pureUserId).2 })
    else pure ()

/-- A session that the administrator may not end yet. -/
def recoveringListed (transmissionId : String) (s : Application) : Bool :=
  (s.store.listRemoteControlSessions 10000 0 transmissionId).any (fun session =>
    session.transmissionId == transmissionId &&
      session.guestIds.any (fun guest => s.isRecovering transmissionId guest))

def adminDisconnectMessage (transmissionId : String) : Json :=
  .obj [("type", .str "admin_disconnect_transmission"), ("transmission_id", .str transmissionId)]

/-- `HandleDisconnect` of the administrator's controller. -/
def handleDisconnect (transmissionId : String) : Program Unit := do
  let s ← look
  if transmissionId = "" ∨ s.recoveringListed transmissionId then pure ()
  else
    each (s.manager.getAllUserIdOfTransmission transmissionId) (fun id _ =>
      send (s.manager.getWsHandleIn id transmissionId) (adminDisconnectMessage transmissionId)) ()
    let _ ← disconnectTransmission env transmissionId
    let s ← look
    if (s.store.listRemoteControlSessions (2 ^ 31 - 1) 0 transmissionId).any
        (fun session => session.transmissionId == transmissionId) then
      modify (fun s => { s with
        store := (s.store.endRemoteControlTransmission (env.fails .endRemoteControlSession)
          env.storeTime transmissionId).2 })
    else pure ()

/-- The guard of `AdminDeviceData` in the administrator's controller: neither the device nor its alias
has a live handle. -/
def deviceBusy (id : String) (s : Application) : Bool :=
  !gone (s.manager.getWsHandle id) (env.expired 0) ||
    !gone (s.manager.getWsHandle ("C-" ++ id)) (env.expired 1)

/-- The administrator asks about the data of a device, or has it deleted. -/
def adminDeviceData (adminEnv : AdminEnv) (request : AdminRequest) : Program Unit := do
  let s ← look
  if request.action = "cleanup" ∧ s.deviceBusy env request.id then pure ()
  else
    let r := s.store.adminDeviceData adminEnv request
    modify (fun s => { s with store := r.2 })
    if request.action = "cleanup" ∧ r.1.toOption.any (fun reply =>
        (reply.find "ok").any (fun ok => ok.truth == some true)) then
      modify (fun s => { s with presence := s.presence.forget request.id })
      modify (forgetPasswordChangeResults request.id)
    else pure ()

/-- The retention cleanup: temporary controllers, then devices. It ends where a call throws. -/
def retentionCleanup : Program Unit := do
  let s ← look
  let temporary := s.store.cleanupTemporaryControllers env.controllerCleanup 200 ""
  modify (fun s => { s with store := temporary.2 })
  match temporary.1 with
  | .error _ => pure ()
  | .ok result =>
    each result.deviceIds (fun id _ =>
      modify (fun s => { s with presence := s.presence.forget id })) ()
    let s ← look
    let expired := s.store.cleanupExpiredDevices env.deviceCleanup env.storeTime
      cfg.offlineDays 200
    modify (fun s => { s with store := expired.2 })
    match expired.1 with
    | .error _ => pure ()
    | .ok result =>
      each result.deviceIds (fun id _ => do
        modify (fun s => { s with presence := s.presence.forget id })
        modify (forgetPasswordChangeResults id)) ()

/-- The runtime heartbeat. -/
def recordHeartbeat : Program Unit :=
  modify (fun s => { s with store := s.store.recordRuntimeHeartbeat env.storeTime })

/-! ## Starting -/

/-- What a restart makes of the database: `InitDB`, and then `SessionRecovery` drops tickets without a
session. -/
def reopen (now : Int) (db : DeviceDbManager) : DeviceDbManager :=
  let db := db.initDb now
  { db with
    sessionRecovery := db.sessionRecovery.filter (fun key _ =>
      db.remoteControlSessions.contains key) }

/-- The tickets of the database, all of them recovering. -/
def loadTickets (deadline : Int) (db : DeviceDbManager) : OrdMap SessionKey Ticket :=
  db.sessionRecovery.map (fun key row =>
    { transmissionId := (ofLex key).1
      hostId := row.hostId
      guestId := (ofLex key).2
      token := row.token
      recovering := true
      deadline })

/-- The sessions without a ticket. -/
def loadLegacy (deadline : Int) (db : DeviceDbManager) : OrdMap SessionKey Ticket :=
  (db.remoteControlSessions.filter (fun key _ => !db.sessionRecovery.contains key)).map
    (fun key row =>
      { transmissionId := (ofLex key).1
        hostId := row.hostId
        guestId := (ofLex key).2
        deadline })

/-- The process starts on its database. The callback is installed after the sessions are restored,
so restoring them reports nothing. -/
def boot : Program Unit := fun s =>
  let store := reopen env.storeTime s.store
  let deadline := env.storeTime + cfg.recoveryTimeout
  let recovery : SessionRecovery :=
    { tickets := loadTickets deadline store, legacy := loadLegacy deadline store }
  let manager := SignalServer.restorePersistedRemoteControlSessions
    (fun transmissionId guestId => recovery.tickets.contains (sessionKey transmissionId guestId))
    store {}
  ⟨(), { store, recovery, manager := manager.setRemoteControlSessionCallback }, [.restarted]⟩

end Application

/-! ## Runs -/

/-- The messages that are handled on the application worker. -/
inductive MessageKind where
  | login
  | sessionReport
  | revokeReconnectCredential
  | leaveTransmission
  | disconnectPeer
  | queryUserIdList
  | joinTransmission
  | offer
  | answer
  | newCandidate
  | newCandidateMid
  | changePassword
  | turnCredentials
  | clientInfo
  | recentConnectionsPresence
  deriving DecidableEq, Repr

/-- The jobs of the application worker, and what else happens. -/
inductive Job where
  | message (kind : MessageKind) (hdl : ConnectionHdl) (request : Json)
  /-- A dispatched computation is done. -/
  | complete (n : Nat)
  /-- A dispatched computation waited too long. -/
  | expireWork (n : Nat)
  /-- A dispatched computation of a dead connection is dropped. -/
  | dropWork (n : Nat)
  | cleanup (hdl : ConnectionHdl)
  | heartbeat
  | prune
  | handleDisconnect (transmissionId : String)
  | adminDeviceData (adminEnv : AdminEnv) (request : AdminRequest)
  | retentionCleanup
  /-- The last job before the process ends. -/
  | shutdown
  /-- The network thread marks a connection dead. -/
  | die (hdl : ConnectionHdl)
  | restart

open Application

/-- `ProcessMessage`. -/
def MessageKind.process (cfg : Config) (env : Env) (hdl : ConnectionHdl) (request : Json) :
    MessageKind → Program Unit
  | login => loginUser cfg env hdl request
  | sessionReport => Application.sessionReport env hdl request
  | revokeReconnectCredential => Application.revokeReconnectCredential env hdl
  | leaveTransmission => Application.leaveTransmission env hdl request
  | disconnectPeer => Application.disconnectPeer env hdl request
  | queryUserIdList => Application.queryUserIdList env hdl request
  | joinTransmission => Application.joinTransmission env hdl request
  | offer => Application.offer cfg env hdl request
  | answer => Application.answer env hdl request
  | newCandidate => Application.newCandidate env hdl request
  | newCandidateMid => Application.newCandidateMid env hdl request
  | changePassword => Application.changePassword cfg env hdl request
  | turnCredentials => Application.turnCredentials cfg hdl
  | clientInfo => Application.clientInfo env hdl request
  | recentConnectionsPresence => Application.recentConnectionsPresence hdl request

/-- Take the `n`-th dispatched computation and go on with it. -/
def takeWork (n : Nat) (next : Dispatched → Program Unit) : Program Unit := do
  let s ← look
  match s.pending[n]? with
  | none => pure ()
  | some work =>
    modify (fun s => { s with pending := s.pending.eraseIdx n })
    next work

/-- What a job does to the application. -/
def Job.program (cfg : Config) (env : Env) : Job → Program Unit
  | message kind hdl request => kind.process cfg env hdl request
  | complete n => takeWork n (finishWork cfg env)
  | expireWork n => takeWork n (fun work => send (some work.hdl) (busy work.failure))
  | dropWork n => takeWork n (fun _ => pure ())
  | cleanup hdl => Application.cleanup env hdl
  | heartbeat => do
    recordHeartbeat env
    Application.expire env
  | prune => do
    let _ ← pruneDisconnectedTransmissions env (fun tx g => env.sessionExpired (sessionKey tx g) 0)
    pure ()
  | handleDisconnect transmissionId => Application.handleDisconnect env transmissionId
  | adminDeviceData adminEnv request => Application.adminDeviceData env adminEnv request
  | retentionCleanup => Application.retentionCleanup cfg env
  | shutdown => recordHeartbeat env
  | die _ => pure ()
  | restart => boot cfg env

/-- The application, what has happened, and the connections that are dead or cleaned up. -/
structure World where
  app : Application := {}
  log : List Event := []
  dead : Finset ConnectionHdl := ∅
  cleaned : Finset ConnectionHdl := ∅

namespace World

/-- When a job may run. -/
def Ready (w : World) : Job → Prop
  | .message _ hdl _ => hdl ∉ w.dead
  | .complete n | .expireWork n => ∀ work, w.app.pending[n]? = some work → work.hdl ∉ w.dead
  | .cleanup hdl => hdl ∈ w.dead ∧ hdl ∉ w.cleaned
  | _ => True

/-- The world after a job. -/
def after (cfg : Config) (w : World) (job : Job) (env : Env) : World :=
  let result := job.program cfg env w.app
  { app := result.state
    log := w.log ++ result.events
    dead := match job with
      | .die hdl => insert hdl w.dead
      | .restart => ∅
      | _ => w.dead
    cleaned := match job with
      | .cleanup hdl => insert hdl w.cleaned
      | .restart => ∅
      | _ => w.cleaned }

end World

/-- The server on a database, under an environment of which `assumed` is known. -/
def server (cfg : Config) (db : DeviceDbManager) (assumed : World → Job → Env → Prop) :
    System World (Job × Env) where
  start w := ∃ env, w = World.after cfg { app := { store := db } } .restart env
  step w l w' := w.Ready l.1 ∧ assumed w l.1 l.2 ∧ w' = w.after cfg l.1 l.2

end CrossDesk
