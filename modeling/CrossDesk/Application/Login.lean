import CrossDesk.Application.SessionRecovery
import CrossDesk.Application.Presence

/-!
# Login

There are five ways to become an identity: the password of a device, a reconnect token, a
passwordless alias `C-…`, the registration of a new device, and the key of a device. Passwords are
hashed on other threads, so three of the ways end in a continuation that runs later, and whatever
was checked before is checked again where the connection is bound (`completeLogin`).

`login_user` and `CompleteLogin` hold a `shared_ptr` of the connection while they run, so the
connection cannot go away between their check and the binding. The texts that only name a bucket of
a limiter, and the messages to the log, are left out.
-/

namespace CrossDesk.Application

open Logged

/-! ## Texts -/

/-- The text before the first `@`, and the text after it if there is one. -/
def splitAtSign (text : String) : String × Option String :=
  let before := text.toList.takeWhile (· ≠ '@')
  match text.toList.dropWhile (· ≠ '@') with
  | [] => (String.ofList before, none)
  | _ :: after => (String.ofList before, some (String.ofList after))

/-- `ShouldTrackClientInfo`. -/
def shouldTrackClientInfo (userId : String) : Bool :=
  userId ≠ "" && !isTemporaryControllerId userId && !isAlias userId

/-- `SetFailure`. Old clients only know two reasons why a join fails. -/
def setFailure (code reason : String) (message : Json) : Json :=
  let message := message.set "error_code" (.str code)
  if message.getStringField "type" = some "user_join_transmission" then
    message.set "reason" (.str
      (if code = "AUTHENTICATION_FAILED" ∨ code = "PASSWORD_REQUIRED" then "Incorrect password"
        else "Remote unavailable"))
  else message.set "reason" (.str reason)

def loginFailure : Json :=
  .obj [("type", .str "login"), ("user_id", .str ""), ("status", .str "fail"),
    ("reason", .str "Authentication failed")]

/-- The reply when a password computation could not be carried out. -/
def busy (failure : Json) : Json :=
  (setFailure "CREDENTIAL_SERVICE_BUSY" "Credential service busy" failure).set "retry_after" (.int 1)

/-- The reply when the limiter or a risk rule delays a password. -/
def delayed (unavailable : Bool) (retryAfter : Nat) (failure : Json) : Json :=
  (if unavailable then setFailure "CREDENTIAL_SERVICE_BUSY" "Credential service busy" failure
    else setFailure "AUTHENTICATION_THROTTLED" "Too many authentication attempts" failure).set
    "retry_after" (.int retryAfter)

def deviceKeyRequired (failure : Json) : Json :=
  setFailure "DEVICE_KEY_REQUIRED" "Device key authentication required" failure

variable (cfg : Config) (env : Env)

/-- `AddTurnCredentials`: the `turn` part of the ICE configuration. -/
def addTurnCredentials (userId : String) (message : Json) : Json :=
  match (cfg.iceConfig userId).find? (fun field => field.1 == "turn") with
  | none => message
  | some field => if userId = "" then message else message.set "turn" field.2

/-- `AddLoginIceConfig`. -/
def addLoginIceConfig (request : Json) (userId : String) (message : Json) : Json :=
  let message := message.set "ice_config_version" (.int 1)
  if (request.find "ice_config_version").any (Json.isInteger 1) then message
  else addTurnCredentials cfg userId message

/-! ## Password computations -/

/-- `RunCredentialWork`: hand the computation to the credential queue, or reply that it is full. -/
def runCredentialWork (hdl : ConnectionHdl) (failure : Json) (work : CredentialWork) :
    Program Unit :=
  if env.dispatched then
    modify (fun s => { s with pending := s.pending ++ [{ hdl, failure, work }] })
  else send (some hdl) (busy failure)

/-- `AuthenticateDevice`. -/
def authenticateDevice (hdl : ConnectionHdl) (deviceId password : String) (failure : Json)
    (onVerified : OnVerified) (bindLoginKey : String) : Program Unit := do
  let failure := setFailure "AUTHENTICATION_FAILED" "Authentication failed" failure
  if !validDeviceCredentials deviceId password || isTemporaryControllerId deviceId then
    send (some hdl) failure
  else
    let manual := env.riskDelay 0
    let retryAfter := max (manual.getD 1) env.cooldown
    if manual.isNone || 0 < retryAfter then
      send (some hdl) (delayed manual.isNone retryAfter failure)
    else
      let s ← look
      runCredentialWork env hdl failure
        (.authenticate deviceId password (s.store.readPassword (env.fails .readPassword) deviceId)
          (s.manager.getUserId hdl) bindLoginKey onVerified)

/-- `RegisterDevice`: a new device or temporary controller. -/
def registerDevice (hdl : ConnectionHdl) (kind : String) (failure : Json) (finish : FinishLogin)
    (loginPublicKey : String) : Program Unit :=
  runCredentialWork env hdl failure (.register kind loginPublicKey finish)

/-! ## Binding -/

/-- The `user_id` of a successful login. -/
def returnHostId (hostId : String) (credential : DeviceCredential) : String :=
  if credential.password ≠ "" ∧ credential.deviceId ≠ hostId then
    credential.deviceId ++ "@" ++ credential.password
  else if credential.password = "" ∨ credential.update then credential.deviceId
  else ""

/-- A login is given a reconnect token when it asks for one: a device without a login key, that did
not just use a token. -/
def wantsReconnect (request : Json) (userId loginKey : String) (reconnectExpires : Option Int) :
    Bool :=
  reconnectExpires.isNone && loginKey == "" && shouldTrackClientInfo userId &&
    (request.find "reconnect_version").any (Json.isInteger 1)

/-- `IssueReconnectCredential`, for a login that asks for it. -/
def issueReconnect (request : Json) (userId loginKey : String) (reconnectExpires : Option Int) :
    Program (Option ReconnectCredential) := fun s =>
  if wantsReconnect request userId loginKey reconnectExpires then
    let r := s.store.issueReconnectCredential cfg.hashing.sha
      (env.fails .issueReconnectCredential) env.storeTime env.random userId
    ⟨r.1, { s with store := r.2 }, []⟩
  else ⟨none, s, []⟩

/-- The reply to a successful login. -/
def loginMessage (request : Json) (hostId : String) (credential : DeviceCredential)
    (loginKey : String) (reconnectExpires : Option Int) (issued : Option ReconnectCredential) :
    Json :=
  let message : Json := .obj [("type", .str "login"),
    ("user_id", .str (returnHostId hostId credential)), ("status", .str "success")]
  let message := if loginKey = "" then message else message.set "device_key_version" (.int 1)
  let message := match reconnectExpires with
    | some expires =>
      ((message.set "reconnected" (.bool true)).set "reconnect_version" (.int 1)).set
        "reconnect_expires_at" (.int expires)
    | none =>
      match issued with
      | some credential =>
        ((message.set "reconnect_version" (.int 1)).set "reconnect_token"
          (.str credential.token)).set "reconnect_expires_at" (.int credential.expiresAt)
      | none => message
  addLoginIceConfig cfg request credential.deviceId message

/-- `CompleteLogin` for a device: its key is what it was when the login was checked. -/
def completeDeviceLogin (hdl : ConnectionHdl) (request : Json) (hostId : String)
    (credential : DeviceCredential) (registration : Bool) (reconnectExpires : Option Int)
    (verifiedLoginKey : String) : Program Bool := do
  let userId := credential.deviceId
  if userId = "" then
    send (some hdl) loginFailure
    pure false
  else
    let s ← look
    let loginKey := s.store.readLoginPublicKey (env.fails (.readLoginPublicKey 1)) userId
    if loginKey ≠ some verifiedLoginKey then
      send (some hdl) (if loginKey.any (· ≠ "") then deviceKeyRequired loginFailure
        else loginFailure)
      pure false
    else
      let bound ← bindUserToWsHandle env false userId hdl
        (if verifiedLoginKey = "" then "" else userId)
      if !bound then
        -- only the credentials that this request created go
        when registration (modify (fun s => { s with
          store := (s.store.removeDevice (env.fails .removeDevice) userId).2 }))
        send (some hdl) loginFailure
        pure false
      else
        when (isTemporaryControllerId userId = false) (do
          let _ ← bindHostToTransmission env userId userId
          pure ())
        when (shouldTrackClientInfo userId) (modify (fun s => { s with
          store := (s.store.updateDeviceClientInfo (env.fails .updateDeviceClientInfo) env.storeTime
            userId "" "").2 }))
        let issued ← issueReconnect cfg env request userId verifiedLoginKey reconnectExpires
        send (some hdl) (loginMessage cfg request hostId credential verifiedLoginKey
          reconnectExpires issued)
        pure true

/-- `CompleteLogin` for an alias: it is refused where its device has a key that was not verified. -/
def completeAliasLogin (hdl : ConnectionHdl) (request : Json) (hostId : String)
    (verifiedLoginKey : String) : Program Bool := do
  let s ← look
  let deviceId := aliasBase hostId
  let key := s.store.readLoginPublicKey (env.fails (.readLoginPublicKey 1)) deviceId
  if (verifiedLoginKey ≠ "" ∧ key ≠ some verifiedLoginKey) ∨
      (verifiedLoginKey = "" ∧ key.any (· ≠ "")) then
    send (some hdl) (deviceKeyRequired loginFailure)
    pure false
  else
    let bound ← bindUserToWsHandle env false hostId hdl
      (if verifiedLoginKey = "" then "" else deviceId)
    if !bound then
      send (some hdl) loginFailure
      pure false
    else
      let _ ← bindHostToTransmission env hostId hostId
      let message : Json := .obj [("type", .str "login"), ("user_id", .str hostId),
        ("status", .str "success")]
      let message := if verifiedLoginKey = "" then message
        else message.set "device_key_version" (.int 1)
      send (some hdl) (addLoginIceConfig cfg request hostId message)
      pure true

/-- `CompleteLogin`. -/
def completeLogin (hdl : ConnectionHdl) (request : Json) (hostId : String)
    (credential : DeviceCredential) (registration : Bool) (reconnectExpires : Option Int)
    (verifiedLoginKey : String) : Program Bool := do
  let s ← look
  if env.expired 3 || s.manager.getUserId hdl ≠ "" then pure false
  else if isAlias hostId then completeAliasLogin cfg env hdl request hostId verifiedLoginKey
  else
    completeDeviceLogin cfg env hdl request hostId credential registration reconnectExpires
      verifiedLoginKey

/-- A login that ends in `CompleteLogin`, and what the server does when it succeeded. -/
def finishLogin (hdl : ConnectionHdl) (finish : FinishLogin) (credential : DeviceCredential)
    (registration : Bool) (reconnectExpires : Option Int) : Program Unit := do
  let completed ← completeLogin cfg env hdl finish.request finish.hostId credential registration
    reconnectExpires finish.verifiedLoginKey
  if completed then
    recoveryLogin env hdl finish.request
    let s ← look
    let id := s.manager.getUserId hdl
    if id = "" then pure () else onLogin env id
  else pure ()

/-! ## Login with a device key -/

/-- What a login request with a key says, when it is well formed. -/
structure KeyRequest where
  id : String
  deviceId : String
  controller : Bool
  /-- The text after the `@`, if there is one. -/
  password : Option String
  publicKey : String
  proof : Json
  proofSize : Nat

/-- The checks of a request before it is looked at. `none` where the source throws or rejects. -/
def readKeyRequest (request : Json) : Option KeyRequest := do
  let identity ← request.getStringField "user_id"
  let (id, password) := splitAtSign identity
  let controller := isAlias id
  let deviceId := if controller then aliasBase id else id
  let proof ← request.find "device_key"
  let fields ← proof.asObject
  let version ← proof.find "version"
  if 128 < id.utf8ByteSize ∨ 256 < (password.getD "").utf8ByteSize ∨ '\x00' ∈ identity.toList ∨
      (controller ∧ (deviceId = "" ∨ isAlias deviceId)) ∨ isTemporaryControllerId deviceId ∨
      isTemporaryControllerRegistration deviceId ∨ 4 < fields.length ∨
      ¬ version.isInteger 1 then none
  else
    let publicKey ← proof.getStringField "public_key"
    if !isHex publicKey 32 then none
    else pure { id, deviceId, controller, password, publicKey, proof, proofSize := fields.length }

def keyLoginFailure : Json := loginFailure.set "error_code" (.str "AUTHENTICATION_FAILED")

/-- Challenges that are over, or whose connection is gone, are dropped once a second. -/
def cleanLoginChallenges (s : Application) : Application :=
  if s.nextLoginChallengeCleanup ≤ env.now then
    { s with
      loginChallenges := s.loginChallenges.filter (fun hdl challenge =>
        !env.handleExpired hdl && decide (env.now < challenge.expires))
      nextLoginChallengeCleanup := env.now + seconds 1 }
  else s

def challengeMessage (r : KeyRequest) (nonce : String) (key : Option String) : Json :=
  .obj [("type", .str "login_challenge"), ("user_id", .str r.id), ("device_key_version", .int 1),
    ("nonce", .str nonce),
    ("password_required", .bool (!r.controller && r.id ≠ "" && key.all (· == "")))]

/-- A request without a signature is answered with a nonce. -/
def challenge (hdl : ConnectionHdl) (r : KeyRequest) : Program Unit := do
  let reject : Program Unit := send (some hdl) keyLoginFailure
  if r.proofSize ≠ 2 ∨ r.password.isSome then reject
  else if env.keyLoginDelay ≠ 0 then
    send (some hdl) ((keyLoginFailure.set "error_code" (.str "CREDENTIAL_RATE_LIMITED")).set
      "retry_after" (.int env.keyLoginDelay))
  else
    modify (cleanLoginChallenges env)
    let s ← look
    if 16384 ≤ s.loginChallenges.size ∧ ¬ s.loginChallenges.contains hdl then reject
    else if env.nonce = "" then reject
    else
      let challenge : LoginChallenge :=
        { id := r.id, publicKey := r.publicKey, nonce := env.nonce, expires := env.now + seconds 10 }
      modify (fun s => { s with loginChallenges := s.loginChallenges.insert hdl challenge })
      report (.challenged hdl challenge env.now)
      let key := s.store.readLoginPublicKey (env.fails (.readLoginPublicKey 0)) r.deviceId
      send (some hdl) (challengeMessage r env.nonce key)

/-- The answer to a challenge proves that the connection holds the key. -/
def answers (r : KeyRequest) (challenge : LoginChallenge) : Bool :=
  decide (env.now < challenge.expires) && r.id == challenge.id &&
    r.publicKey == challenge.publicKey && r.proof.getStringField "nonce" == some challenge.nonce &&
    (r.proof.getStringField "signature").any (fun signature =>
      isHex signature 64 && cfg.verify r.id r.publicKey challenge.nonce signature)

/-- A proven key: register it with a new device, log its device in, or bind it to a device that
shows its password. -/
def loginWithProvenKey (hdl : ConnectionHdl) (request : Json) (r : KeyRequest) :
    Program Unit := do
  let reject : Program Unit := send (some hdl) keyLoginFailure
  let password := r.password.getD ""
  let finish : FinishLogin := { request, hostId := r.id, verifiedLoginKey := r.publicKey }
  if r.id = "" then
    if password ≠ "" then reject
    else registerDevice env hdl r.id keyLoginFailure finish r.publicKey
  else
    let s ← look
    match s.store.readLoginPublicKey (env.fails (.readLoginPublicKey 0)) r.deviceId with
    | none => reject
    | some bound =>
      if bound ≠ "" then
        if bound ≠ r.publicKey ∨ password ≠ "" then reject
        else finishLogin cfg env hdl finish { deviceId := r.id } false none
      else if r.controller then reject
      else authenticateDevice env hdl r.id password keyLoginFailure (.login finish) r.publicKey

/-- `LoginWithKey`. -/
def loginWithKey (hdl : ConnectionHdl) (request : Json) : Program Unit := do
  let reject : Program Unit := send (some hdl) keyLoginFailure
  match readKeyRequest request with
  | none => reject
  | some r =>
    if !r.proof.contains "signature" then challenge env hdl r
    else
      let s ← look
      match s.loginChallenges[hdl]? with
      | none => reject
      | some challenge =>
        -- the nonce is consumed before the answer is looked at
        modify (fun s => { s with loginChallenges := s.loginChallenges.erase hdl })
        report (.answered hdl challenge env.now (r.proof.getStringField "signature")
          (answers cfg env r challenge))
        if answers cfg env r challenge then loginWithProvenKey cfg env hdl request r else reject

/-! ## `login_user` -/

/-- A login without a key. -/
def loginWithoutKey (hdl : ConnectionHdl) (request : Json) (hostIdWithPwd : String) :
    Program Unit := do
  let (hostId, password) := splitAtSign hostIdWithPwd
  let finish : FinishLogin := { request, hostId }
  if !validDeviceCredentials hostId (password.getD "") then send (some hdl) loginFailure
  else
    let s ← look
    let loginKey := s.store.readLoginPublicKey (env.fails (.readLoginPublicKey 0))
      (if isAlias hostId then aliasBase hostId else hostId)
    if loginKey.any (· ≠ "") then send (some hdl) (deviceKeyRequired loginFailure)
    else if request.contains "reconnect_token" then
      let expires := if (request.find "reconnect_version").any (Json.isInteger 1) ∧ password.isNone
        then (request.getStringField "reconnect_token").bind (fun token =>
          s.store.verifyReconnectCredential cfg.hashing.sha (env.fails .verifyReconnectCredential)
            env.storeTime hostId token)
        else none
      if expires.isSome then finishLogin cfg env hdl finish { deviceId := hostId } false expires
      else send (some hdl) (loginFailure.set "reconnect_rejected" (.bool true))
    else if isAlias hostId then finishLogin cfg env hdl finish { deviceId := hostId } false none
    else if hostId = "" ∨ isTemporaryControllerRegistration hostId then
      registerDevice env hdl hostId loginFailure finish ""
    else authenticateDevice env hdl hostId (password.getD "") loginFailure (.login finish) ""

/-- `login_user`. -/
def loginUser (hdl : ConnectionHdl) (request : Json) : Program Unit := do
  let s ← look
  if env.expired 0 then pure ()
  else if s.manager.getUserId hdl ≠ "" then
    send (some hdl) (loginFailure.set "reason" (.str "Already authenticated"))
  else if request.contains "device_key" then loginWithKey cfg env hdl request
  else
    match request.getStringField "user_id" with
    | none => pure ()
    | some hostIdWithPwd => loginWithoutKey cfg env hdl request hostIdWithPwd

end CrossDesk.Application
