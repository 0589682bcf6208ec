import CrossDesk.Application.Login

/-!
# Signaling between peers

The messages that a logged-in connection sends: joining and leaving a room, the offers, answers and
candidates that peers exchange, and the requests about its own identity.

Every message to a peer goes to the handle that `GetWsHandle(id, room)` returns when it is sent, and
only after `IsAuthorizedPeerSignal` accepted the sender.
-/

namespace CrossDesk.Application

open Logged

variable (cfg : Config) (env : Env)

/-! ## Rooms -/

/-- `AddConnectionIceConfig`. -/
def addConnectionIceConfig (userId : String) (message : Json) : Json :=
  message.update (cfg.iceConfig userId)

/-- `IsAuthorizedPeerSignal`. -/
def isAuthorizedPeerSignal (hdl : ConnectionHdl) (userId remoteUserId transmissionId : String)
    (s : Application) : Bool :=
  let hostId := s.manager.getHostIdOfTransmission transmissionId
  !env.expired 0 && userId ≠ "" && remoteUserId ≠ "" && transmissionId ≠ "" &&
    userId ≠ remoteUserId && s.manager.getUserId hdl = userId && hostId ≠ "" &&
    (userId = hostId || remoteUserId = hostId) &&
    s.manager.isConnectionInTransmission (env.expired 1) hdl transmissionId &&
    !gone (s.manager.getWsHandleIn remoteUserId transmissionId) (env.expired 2)

def leaveMessage (transmissionId userId : String) : Json :=
  .obj [("type", .str "user_leave_transmission"), ("transmission_id", .str transmissionId),
    ("user_id", .str userId)]

/-- The live handles of the other members of a room. -/
def recipients (userId transmissionId : String) (s : Application) : List ConnectionHdl :=
  (s.manager.getAllUserIdOfTransmission transmissionId).filterMap (fun id =>
    if id = userId ∨ env.sessionExpired (sessionKey transmissionId id) 0 then none
    else s.manager.getWsHandleIn id transmissionId)

/-- The host leaves, and the room with it, or a guest leaves. -/
def leaveRoom (userId transmissionId : String) : Program Bool := do
  let s ← look
  if s.manager.isHostOfTransmission userId transmissionId then
    let _ ← releaseTransmission env transmissionId
    pure true
  else releaseGuestFromTransmission env userId transmissionId

/-- `leave_transmission`. -/
def leaveTransmission (hdl : ConnectionHdl) (j : Json) : Program Unit := do
  let s ← look
  match j.getStringField "transmission_id", j.getStringField "user_id" with
  | some transmissionId, some userId =>
    if userId = "" ∨ transmissionId = "" ∨ s.manager.getUserId hdl ≠ userId then pure ()
    else if !s.manager.isConnectionInTransmission (env.expired 0) hdl transmissionId then pure ()
    else
      let recipients := recipients env userId transmissionId s
      let left ← leaveRoom env userId transmissionId
      when left (each recipients (fun recipient _ =>
        send (some recipient) (leaveMessage transmissionId userId)) ())
  | _, _ => pure ()

/-- `disconnect_peer`: the host ends the membership of one guest. -/
def disconnectPeer (hdl : ConnectionHdl) (j : Json) : Program Unit := do
  let s ← look
  match j.getStringField "transmission_id", j.getStringField "user_id",
    j.getStringField "remote_user_id" with
  | some transmissionId, some userId, some remoteUserId =>
    if !isAuthorizedPeerSignal env hdl userId remoteUserId transmissionId s ||
        !s.manager.isHostOfTransmission userId transmissionId then pure ()
    else
      let recipient := s.manager.getWsHandleIn remoteUserId transmissionId
      let released ← releaseGuestFromTransmission env remoteUserId transmissionId
      when released (report (.signalled .disconnectPeer hdl userId remoteUserId transmissionId
        recipient (leaveMessage transmissionId userId)))
  | _, _, _ => pure ()

/-- `query_user_id_list`. -/
def queryUserIdList (hdl : ConnectionHdl) (j : Json) : Program Unit := do
  let s ← look
  match j.getStringField "transmission_id" with
  | none => pure ()
  | some transmissionIdPwd =>
    let (transmissionId, password) := splitAtSign transmissionIdPwd
    let failure : Json := .obj [("type", .str "user_id_list"),
      ("transmission_id", .str transmissionId), ("user_id_list", .arr []),
      ("status", .str "failed")]
    if env.expired 0 || s.manager.getUserId hdl = "" then
      send (some hdl) (failure.set "reason" (.str "Not authenticated"))
    else
      authenticateDevice env hdl transmissionId (password.getD "") failure
        (.queryUserIdList transmissionId) ""

def joinFailure (transmissionId : String) : Json :=
  .obj [("type", .str "user_join_transmission"), ("transmission_id", .str transmissionId),
    ("status", .str "failed")]

/-- `join_transmission`, up to the password of the room's device. -/
def joinTransmission (hdl : ConnectionHdl) (j : Json) : Program Unit := do
  let s ← look
  match j.getStringField "transmission_id", j.getStringField "user_id" with
  | some transmissionIdPwd, some userId =>
    let (transmissionId, password) := splitAtSign transmissionIdPwd
    let password := password.getD ""
    let failure := joinFailure transmissionId
    if userId = "" then pure ()
    else if env.expired 0 || s.manager.getUserId hdl ≠ userId then
      send (some hdl) (setFailure "NOT_AUTHENTICATED" "Not authenticated" failure)
    else if password = "" && validDeviceCredentials transmissionId password then
      send (some hdl) (setFailure "PASSWORD_REQUIRED" "Password required" failure)
    else
      authenticateDevice env hdl transmissionId password failure
        (.joinTransmission transmissionId userId) ""
  | _, _ => pure ()

/-- The continuation of `join_transmission`: the password was right. -/
def joined (hdl : ConnectionHdl) (transmissionId userId : String) : Program Unit := do
  let s ← look
  let hostId := s.manager.getHostIdOfTransmission transmissionId
  let hostHdl := s.manager.getWsHandle hostId
  if hostId = "" || gone hostHdl (env.expired 1) then
    send (some hdl) (setFailure "REMOTE_UNAVAILABLE" "Remote unavailable"
      (joinFailure transmissionId))
  else
    let bound ← bindGuestHandleToTransmission env (env.expired 2) userId transmissionId hdl
    if !bound then pure ()
    else
      let _ ← startRemoteControlSession env transmissionId hostId userId
      issue env transmissionId hostId userId hdl
      let message : Json := .obj [("type", .str "user_join_transmission"),
        ("transmission_id", .str transmissionId), ("user_id", .str userId),
        ("status", .str "success")]
      send hostHdl (addConnectionIceConfig cfg hostId message)

/-! ## Offers, answers and candidates

The four handlers read their fields, check the sender, and send the peer's part on. -/

/-- Send a peer's message on, if the sender is authorized. `message` is what the peer receives; it
is `none` when a field is missing or wrong. -/
def forward (kind : SignalKind) (hdl : ConnectionHdl) (userId remoteUserId transmissionId : String)
    (message : Option Json) : Program Unit := do
  let s ← look
  if !isAuthorizedPeerSignal env hdl userId remoteUserId transmissionId s then pure ()
  else
    match message with
    | none => pure ()
    | some message =>
      report (.signalled kind hdl userId remoteUserId transmissionId
        (s.manager.getWsHandleIn remoteUserId transmissionId) message)

/-- `CopyOptionalIceUfrag`. -/
def copyOptionalIceUfrag (source destination : Json) : Option Json :=
  match source.find "ufrag" with
  | none => some destination
  | some (.str ufrag) =>
    if 256 < ufrag.utf8ByteSize ∨ ufrag.toList.any (fun c => c ∈ ['\x00', ' ', '\t', '\r', '\n'])
    then none
    else some (destination.set "ufrag" (.str ufrag))
  | some _ => none

/-- `offer`. -/
def offer (hdl : ConnectionHdl) (j : Json) : Program Unit :=
  match j.getStringField "transmission_id", j.getStringField "remote_user_id",
    j.getStringField "user_id" with
  | some transmissionId, some remoteUserId, some userId =>
    forward env .offer hdl userId remoteUserId transmissionId
      ((j.getStringField "sdp").map (fun sdp => addConnectionIceConfig cfg remoteUserId
        (.obj [("type", .str "offer"), ("transmission_id", .str transmissionId),
          ("remote_user_id", .str userId), ("sdp", .str sdp)])))
  | _, _, _ => pure ()

/-- `answer`. -/
def answer (hdl : ConnectionHdl) (j : Json) : Program Unit :=
  match j.getStringField "transmission_id", j.getStringField "remote_user_id",
    j.getStringField "user_id" with
  | some transmissionId, some remoteUserId, some userId =>
    forward env .answer hdl userId remoteUserId transmissionId
      ((j.getStringField "sdp").map (fun sdp =>
        .obj [("type", .str "answer"), ("sdp", .str sdp), ("remote_user_id", .str userId),
          ("transmission_id", .str transmissionId)]))
  | _, _, _ => pure ()

/-- `new_candidate`. -/
def newCandidate (hdl : ConnectionHdl) (j : Json) : Program Unit :=
  match j.getStringField "transmission_id", j.getStringField "sdp", j.getStringField "user_id",
    j.getStringField "remote_user_id" with
  | some transmissionId, some candidate, some userId, some remoteUserId =>
    forward env .newCandidate hdl userId remoteUserId transmissionId
      (copyOptionalIceUfrag j
        (.obj [("type", .str "new_candidate"), ("sdp", .str candidate),
          ("remote_user_id", .str userId), ("transmission_id", .str transmissionId)]))
  | _, _, _, _ => pure ()

/-- `new_candidate_mid`. -/
def newCandidateMid (hdl : ConnectionHdl) (j : Json) : Program Unit :=
  match j.getStringField "transmission_id", j.getStringField "user_id",
    j.getStringField "remote_user_id", j.getStringField "candidate", j.getStringField "mid" with
  | some transmissionId, some userId, some remoteUserId, some candidate, some mid =>
    forward env .newCandidateMid hdl userId remoteUserId transmissionId
      (copyOptionalIceUfrag j
        (.obj [("type", .str "new_candidate_mid"), ("remote_user_id", .str userId),
          ("transmission_id", .str transmissionId), ("candidate", .str candidate),
          ("mid", .str mid)]))
  | _, _, _, _, _ => pure ()

/-! ## Requests about the own identity -/

def changePasswordMessage (requestId userId : String) (reason : Option String) : Json :=
  let message : Json := .obj [("type", .str "change_password"), ("status", .str "fail"),
    ("request_id", .str requestId), ("user_id", .str userId)]
  match reason with
  | none => message
  | some reason => message.set "reason" (.str reason)

/-- The reply that an earlier change with the request id fixed. -/
def cachedChange (userId requestId newPassword : String) (s : Application) : Option Json :=
  (s.passwordChangeResults[userId ++ "\n" ++ requestId]?).map (fun cached =>
    if cached.passwordFingerprint = cfg.hashing.sha.digest newPassword then cached.response
    else changePasswordMessage requestId userId (some "Request ID was already used"))

/-- `change_password`, up to the hashing of the new password. -/
def changePassword (hdl : ConnectionHdl) (j : Json) : Program Unit := do
  let s ← look
  let requestId := (j.getStringField "request_id").getD ""
  if requestId = "" ∨ 128 < requestId.utf8ByteSize ∨ '\x00' ∈ requestId.toList then
    send (some hdl) (.obj [("type", .str "change_password"), ("status", .str "fail"),
      ("reason", .str "Missing or invalid request ID")])
  else
    let userId := s.manager.getUserId hdl
    let newPassword := (j.getStringField "new_password").getD ""
    if userId = "" then
      send (some hdl) (changePasswordMessage requestId userId (some "Not authenticated"))
    else if isAlias userId || isTemporaryControllerId userId then
      send (some hdl) (changePasswordMessage requestId userId
        (some "Password changes are not allowed for this identity"))
    else if newPassword.utf8ByteSize ≠ 6 ∨ '\x00' ∈ newPassword.toList then
      send (some hdl) (changePasswordMessage requestId userId
        (some "Password must contain exactly 6 characters"))
    else
      match cachedChange cfg userId requestId newPassword s with
      | some response => send (some hdl) response
      | none =>
        runCredentialWork env hdl (changePasswordMessage requestId userId none)
          (.changePassword userId requestId newPassword
            (s.store.readPassword (env.fails .readPassword) userId))

/-- At most 4096 replies are remembered. -/
def rememberChange (key : String) (result : PasswordChangeResult) (s : Application) :
    Application :=
  let order := s.passwordChangeResultOrder ++ [key]
  let forgotten := order.take (order.length - 4096)
  { s with
    passwordChangeResults :=
      forgotten.foldl (fun results key => results.erase key)
        (s.passwordChangeResults.insert key result)
    passwordChangeResultOrder := order.drop (order.length - 4096) }

/-- The continuation of `change_password`. -/
def passwordChanged (hdl : ConnectionHdl) (userId requestId newPassword : String)
    (record : Option DevicePasswordRecord) : Program Unit := do
  let s ← look
  if env.expired 0 || s.manager.getUserId hdl ≠ userId then pure ()
  else
    match cachedChange cfg userId requestId newPassword s with
    | some response => send (some hdl) response
    | none =>
      let failed := changePasswordMessage requestId userId (some "Failed to update password")
      match record, env.hashed with
      | some record, some replacement =>
        let committed := s.store.commitPassword (env.fails .commitPassword) userId record replacement
        if !committed.1 then send (some hdl) failed
        else
          let response := (changePasswordMessage requestId userId none).set "status" (.str "success")
          modify (fun s => { s with store := committed.2 })
          modify (rememberChange (userId ++ "\n" ++ requestId)
            { passwordFingerprint := cfg.hashing.sha.digest newPassword, response })
          send (some hdl) response
      | _, _ => send (some hdl) failed

/-- `ForgetPasswordChangeResults`. -/
def forgetPasswordChangeResults (deviceId : String) (s : Application) : Application :=
  let forgotten := s.passwordChangeResultOrder.filter (fun key => startsWith key (deviceId ++ "\n"))
  { s with
    passwordChangeResults :=
      forgotten.foldl (fun results key => results.erase key) s.passwordChangeResults
    passwordChangeResultOrder := s.passwordChangeResultOrder.filter (fun key =>
      !startsWith key (deviceId ++ "\n")) }

/-- `client_info`. -/
def clientInfo (hdl : ConnectionHdl) (j : Json) : Program Unit := do
  let s ← look
  let version := (j.getStringField "version").getD ""
  let platform := (j.getStringField "platform").getD ""
  let userId := s.manager.getUserId hdl
  if version = "" ∨ 64 < version.utf8ByteSize ∨ platform = "" ∨ 32 < platform.utf8ByteSize ∨
      ¬ shouldTrackClientInfo userId then pure ()
  else
    modify (fun s => { s with
      store := (s.store.updateDeviceClientInfo (env.fails .updateDeviceClientInfo) env.storeTime
        userId version platform).2 })

/-- `turn_credentials`. -/
def turnCredentials (hdl : ConnectionHdl) : Program Unit := do
  let s ← look
  let userId := s.manager.getUserId hdl
  let message : Json := .obj [("type", .str "turn_credentials")]
  let withTurn := addTurnCredentials cfg userId message
  if userId = "" then
    send (some hdl) ((message.set "status" (.str "fail")).set "reason" (.str "Not authenticated"))
  else if withTurn.contains "turn" then send (some hdl) (withTurn.set "status" (.str "success"))
  else
    send (some hdl) ((message.set "status" (.str "fail")).set "reason"
      (.str "TURN credentials are not configured"))

/-- `revoke_reconnect_credential`. -/
def revokeReconnectCredential (hdl : ConnectionHdl) : Program Unit := do
  let s ← look
  let id := s.manager.getUserId hdl
  let reply : Json := .obj [("type", .str "revoke_reconnect_credential"), ("user_id", .str id)]
  let revoked := s.store.revokeReconnectCredential (env.fails .revokeReconnectCredential) id
  if shouldTrackClientInfo id && revoked.1 then
    modify (fun s => { s with store := revoked.2 })
    send (some hdl) (reply.set "status" (.str "success"))
  else
    send (some hdl) ((reply.set "status" (.str "fail")).set "reason"
      (.str "Unable to revoke reconnect credential"))

/-- `recent_connections_presence`. -/
def recentConnectionsPresence (hdl : ConnectionHdl) (j : Json) : Program Unit := do
  let s ← look
  let userId := s.manager.getUserId hdl
  let subscribe := j.find "subscribe"
  if userId = "" ∨ (j.contains "user_id" ∧ j.getStringField "user_id" ≠ some userId) then pure ()
  else if subscribe.any (fun value => value.truth.isNone) then pure ()
  else
    let deviceIds := match j.find "devices" with
      | some (.arr items) => items.filterMap Json.text
      | _ => []
    when ((subscribe.bind Json.truth).getD true) (updateUserDevices userId deviceIds subscribe.isSome)
    let s ← look
    send (some hdl) (.obj [("type", .str "presence"),
      ("devices", .arr ((s.store.batchQueryOnline deviceIds).map (fun status =>
        .obj [("id", .str status.1), ("online", .bool status.2)])))])

end CrossDesk.Application
