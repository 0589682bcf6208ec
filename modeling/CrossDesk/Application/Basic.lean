import CrossDesk.DeviceDbManager.DevicePassword
import CrossDesk.DeviceDbManager.Listing
import CrossDesk.TransmissionManager.Operations

/-!
# The application worker

Everything that changes the server's tables runs on one thread, the application worker, one job
after another: a message of a connection, the end of a password computation, the cleanup after a
connection, the heartbeat, an administrator's request. A job is a `Program`: it changes the
application's data and reports, in order, what it did (`Event`).

* **The environment.** What a job learns from outside is in `Env`: whether a connection is gone at
  the `n`-th time the job asks, the clocks, the random texts, the answers of the password limiter
  and of the parts of the store that are not followed here, and which store calls fail. All of it is
  arbitrary; a theorem that assumes something of it says so.
* **Events.** The events are the history that the properties of the server speak about. Every call
  of the transmission manager is one, with the maps it left.
* **Callbacks.** The transmission manager hands its notifications over when it leaves its lock; the
  callback installed by the server then writes the session ledger, inside the same call.
-/

namespace CrossDesk

/-! ## The environment -/

/-- The store calls that may fail without an exception. -/
inductive StoreCall where
  | readPassword
  | commitPassword
  | readLoginPublicKey (n : Nat)
  | bindLoginPublicKey
  | registerDevice
  | updateDeviceClientInfo
  | setDeviceOnline
  | startRemoteControlSession
  | endRemoteControlSession
  | removeDevice
  | verifyReconnectCredential
  | issueReconnectCredential
  | revokeReconnectCredential
  deriving DecidableEq, Repr

/-- What does not change while the server runs: the signature check, the digests of passwords, the
ICE configuration of an identity, the recovery timeout in seconds and the days for which offline
devices are kept. -/
structure Config where
  verify : String → String → String → String → Bool
  hashing : PasswordHashing
  iceConfig : String → List (String × Json) := fun _ => []
  recoveryTimeout : Int := 615
  offlineDays : Int := 180

/-- What a job learns from outside. -/
structure Env where
  /-- The `n`-th answer to `expired()` or `lock()` in this job. -/
  expired : Nat → Bool := fun _ => false
  /-- The answers for the handles of a session, and for a handle that is listed. -/
  sessionExpired : SessionKey → Nat → Bool := fun _ _ => false
  handleExpired : ConnectionHdl → Bool := fun _ => false
  /-- The steady clock. -/
  now : TimePoint := 0
  /-- The system clock in seconds, when a session is looked at. -/
  wallClock : SessionKey → Int := fun _ => 0
  /-- The system clock, when the database looks at it. -/
  storeTime : Int := 0
  fails : StoreCall → Bool := fun _ => false
  /-- The statements of the two retention cleanups that fail, and the orders that they leave open. -/
  controllerCleanup : CleanupEnv := {}
  deviceCleanup : CleanupEnv := {}
  nonce : String := ""
  token : String := ""
  /-- The bytes of a reconnect token. -/
  random : Option (Vector UInt8 32) := none
  deviceNumber : String := ""
  password : String := ""
  /-- What hashing a password anew gave. -/
  hashed : Option DevicePasswordRecord := none
  /-- The `n`-th answer of `PasswordRiskDelay`. -/
  riskDelay : Nat → Option Nat := fun _ => some 0
  cooldown : Nat := 0
  /-- The credential queue takes the job. -/
  dispatched : Bool := true
  /-- The seconds after which the limiter's `Verify` lets the password be checked again, when it did
  not check it. -/
  throttled : Option Nat := none
  /-- What `key_login_limiter_.Admit` returned. -/
  keyLoginDelay : Nat := 0
  /-- `stopping_`, when a cleanup looks at it. -/
  stopping : Bool := false

/-! ## The data -/

/-- A nonce that a connection was sent. -/
structure LoginChallenge where
  id : String
  publicKey : String
  nonce : String
  expires : TimePoint
  deriving DecidableEq, Repr

/-- `Ticket` of `SessionRecovery`. -/
structure Ticket where
  transmissionId : String
  hostId : String
  guestId : String
  token : String := ""
  hostReady : Bool := false
  guestReady : Bool := false
  recovering : Bool := false
  deadline : Int := 0
  hostHdl : Option ConnectionHdl := none
  guestHdl : Option ConnectionHdl := none
  deriving DecidableEq, Repr

/-- The tables of `SessionRecovery`. -/
structure SessionRecovery where
  tickets : OrdMap SessionKey Ticket := ∅
  legacy : OrdMap SessionKey Ticket := ∅
  capable : OrdMap ConnectionHdl Bool := ∅

/-- The sets of `PresenceManager`. -/
structure PresenceManager where
  onlineDevices : Finset String := ∅
  onlineWebClients : Finset String := ∅
  onlineCliClients : Finset String := ∅
  associations : OrdMap String (Finset String) := ∅

/-- The closure `finish` of a login: complete the login of the connection it belongs to. -/
structure FinishLogin where
  request : Json
  hostId : String
  verifiedLoginKey : String := ""

/-- What follows a verified password. -/
inductive OnVerified where
  | login (finish : FinishLogin)
  | queryUserIdList (transmissionId : String)
  | joinTransmission (transmissionId userId : String)

/-- The continuation of a password computation, with what it captured. -/
inductive CredentialWork where
  | authenticate (deviceId password : String) (record : Option DevicePasswordRecord)
      (identity bindLoginKey : String) (onVerified : OnVerified)
  | register (kind loginPublicKey : String) (finish : FinishLogin)
  | changePassword (userId requestId newPassword : String) (record : Option DevicePasswordRecord)

/-- A password computation that was dispatched for a connection, with the reply to send when it
fails. -/
structure Dispatched where
  hdl : ConnectionHdl
  failure : Json
  work : CredentialWork

/-- `PasswordChangeResult`: the reply to a password change that succeeded. -/
structure PasswordChangeResult where
  passwordFingerprint : String
  response : Json

/-- The data of the application worker. -/
structure Application where
  manager : TransmissionManager := {}
  store : DeviceDbManager := {}
  recovery : SessionRecovery := {}
  presence : PresenceManager := {}
  loginChallenges : OrdMap ConnectionHdl LoginChallenge := ∅
  nextLoginChallengeCleanup : TimePoint := 0
  passwordChangeResults : OrdMap String PasswordChangeResult := ∅
  passwordChangeResultOrder : List String := []
  pending : List Dispatched := []

/-! ## Events -/

/-- The messages that peers exchange through the server. -/
inductive SignalKind where
  | offer
  | answer
  | newCandidate
  | newCandidateMid
  | disconnectPeer
  deriving DecidableEq, Repr

/-- What a job did. -/
inductive Event where
  | sent (hdl : Option ConnectionHdl) (message : Json)
  /-- A peer's message was sent on: by the handle of `userId`, for the room, to `destination`. -/
  | signalled (kind : SignalKind) (hdl : ConnectionHdl)
      (userId remoteUserId transmissionId : String) (destination : Option ConnectionHdl)
      (message : Json)
  /-- A call of the transmission manager, with the maps it left. -/
  | called (op : Operation) (maps : Routing)
  | challenged (hdl : ConnectionHdl) (challenge : LoginChallenge) (now : TimePoint)
  /-- A nonce was taken back from a connection, which answered with the signature. -/
  | answered (hdl : ConnectionHdl) (challenge : LoginChallenge) (now : TimePoint)
      (signature : Option String) (accepted : Bool)
  | registered (hdl : ConnectionHdl) (deviceId loginPublicKey : String)
  | passwordVerified (hdl : ConnectionHdl) (deviceId : String)
  /-- A report with `alive` set passed the checks: the session and the token are those it names. -/
  | presented (hdl : ConnectionHdl) (userId transmissionId guestId token : String)
  /-- A report without it passed the same checks. -/
  | reportedDead (hdl : ConnectionHdl) (userId transmissionId guestId token : String)
  /-- A join was completed, with the ticket it was given. -/
  | joined (transmissionId guestId : String) (token : Option String)
  /-- A ticket was replaced or removed. -/
  | retired (token : String)
  /-- A report bound the guest to the room through the handle. -/
  | resumed (ticket : Ticket) (hdl : ConnectionHdl) (now : Int)
  | restarted

/-- A part of a job. -/
abbrev Program := Logged Application Event

namespace Application

open Logged

/-! ## Primitive parts of a job -/

/-- `send_msg_`. -/
def send (hdl : Option ConnectionHdl) (message : Json) : Program Unit :=
  emit [.sent hdl message] ()

/-- Report what happened, change nothing. -/
def report (e : Event) : Program Unit := emit [e] ()

/-- Change the data silently. -/
def modify (f : Application → Application) : Program Unit := update f ()

/-- The callback that the server installs in the transmission manager. -/
def remoteControlSessionCallback (env : Env) (store : DeviceDbManager) :
    Notification → DeviceDbManager
  | .remoteControl transmissionId hostId guestId true =>
    (store.startRemoteControlSession (env.fails .startRemoteControlSession) env.storeTime
      transmissionId hostId guestId).2
  | .remoteControl transmissionId _ guestId false =>
    (store.endRemoteControlSession (env.fails .endRemoteControlSession) env.storeTime transmissionId
      guestId).2
  | .sessionTimeout _ _ => store

/-- The notifications that a call of the transmission manager handed over. -/
def handedOver (before after : TransmissionManager) : List Notification :=
  (after.delivered.drop before.delivered.length).map Prod.fst

/-- A call of the transmission manager: the callbacks it makes write the session ledger. -/
def call {α : Type} (env : Env) (op : Operation)
    (f : TransmissionManager → α × TransmissionManager) : Program α := fun s =>
  let r := f s.manager
  ⟨r.1, { s with
    manager := r.2
    store := (handedOver s.manager r.2).foldl (remoteControlSessionCallback env) s.store },
    [.called op r.2.toRouting]⟩

variable (env : Env)

def bindUserToWsHandle (expired : Bool) (userId : String) (hdl : ConnectionHdl)
    (verifiedDeviceId : String) : Program Bool :=
  call env (.bindUserToWsHandle expired env.now userId hdl verifiedDeviceId)
    (TransmissionManager.bindUserToWsHandle expired env.now userId hdl verifiedDeviceId)

def bindHostToTransmission (hostId transmissionId : String) : Program Bool :=
  call env (.bindHostToTransmission hostId transmissionId)
    (TransmissionManager.bindHostToTransmission hostId transmissionId)

def bindGuestToTransmission (guestId transmissionId : String) : Program Bool :=
  call env (.bindGuestToTransmission guestId transmissionId)
    (TransmissionManager.bindGuestToTransmission guestId transmissionId)

def bindGuestHandleToTransmission (expired : Bool) (guestId transmissionId : String)
    (hdl : ConnectionHdl) : Program Bool :=
  call env (.bindGuestHandleToTransmission expired guestId transmissionId hdl)
    (TransmissionManager.bindGuestHandleToTransmission expired guestId transmissionId hdl)

def releaseTransmission (transmissionId : String) : Program Bool :=
  call env (.releaseTransmission transmissionId)
    (TransmissionManager.releaseTransmission transmissionId)

def releaseGuestFromTransmission (guestId transmissionId : String) : Program Bool :=
  call env (.releaseGuestFromTransmission guestId transmissionId)
    (TransmissionManager.releaseGuestFromTransmission guestId transmissionId)

def disconnectTransmission (transmissionId : String) : Program Bool :=
  call env (.disconnectTransmission transmissionId)
    (TransmissionManager.disconnectTransmission transmissionId)

def releaseUserSession (hdl : ConnectionHdl) : Program String :=
  call env (.releaseUserSession hdl) (TransmissionManager.releaseUserSession hdl)

def pruneDisconnectedTransmissions (expired : String → String → Bool) : Program Nat :=
  call env (.pruneDisconnectedTransmissions expired)
    (TransmissionManager.pruneDisconnectedTransmissions expired)

/-- `StartRemoteControlSession`, called by the application itself. -/
def startRemoteControlSession (transmissionId hostId guestId : String) : Program Bool := fun s =>
  let r := s.store.startRemoteControlSession (env.fails .startRemoteControlSession) env.storeTime
    transmissionId hostId guestId
  ⟨r.1, { s with store := r.2 }, []⟩

/-- `EndRemoteControlSession`, called by the application itself. -/
def endRemoteControlSession (transmissionId guestId : String) : Program Bool := fun s =>
  let r := s.store.endRemoteControlSession (env.fails .endRemoteControlSession) env.storeTime
    transmissionId guestId
  ⟨r.1, { s with store := r.2 }, []⟩

end Application

end CrossDesk
