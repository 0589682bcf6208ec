import CrossDesk.Application.Jobs
import CrossDesk.DeviceDbManager.ReconnectRuns
import CrossDesk.Lib.Recent

/-!
# What a job does

A job is a program of many calls, but few of them matter to the properties of the server. `Act` lists
the kinds of things that a program does between two calls, with what is known where it does them; every
program is a sequence of acts (`Acts`), proved once for each handler from those of its parts. A
property of a job is then a relation that composes and holds of every act (`Generated.lift`).

The continuation of a password computation does one thing more, at its beginning: it commits what was
computed on another thread (`Commit`). A job commits at most once, and what follows a commit are acts
again, except that a password change is remembered in the same step (`does_program`).
-/

namespace CrossDesk

open Logged

/-! ## The calls of the store -/

/-- One call of the store, other than those that commit a password computation, start a session or mark
an identity online. -/
inductive StoreCalled (sha : Sha256) : DeviceDbManager → DeviceDbManager → Prop where
  | updateDeviceClientInfo {db : DeviceDbManager} (fails : Bool) (now : Int)
      (id version platform : String) :
      StoreCalled sha db (db.updateDeviceClientInfo fails now id version platform).2
  | endRemoteControlSession {db : DeviceDbManager} (fails : Bool) (now : Int)
      (transmissionId guestId : String) :
      StoreCalled sha db (db.endRemoteControlSession fails now transmissionId guestId).2
  | endRemoteControlTransmission {db : DeviceDbManager} (fails : Bool) (now : Int)
      (transmissionId : String) :
      StoreCalled sha db (db.endRemoteControlTransmission fails now transmissionId).2
  | recordRuntimeHeartbeat {db : DeviceDbManager} (now : Int) :
      StoreCalled sha db (db.recordRuntimeHeartbeat now)
  | issueReconnectCredential {db : DeviceDbManager} (fails : Bool) (now : Int)
      (random : Option (Vector UInt8 32)) (id : String) :
      StoreCalled sha db (db.issueReconnectCredential sha fails now random id).2
  | revokeReconnectCredential {db : DeviceDbManager} (fails : Bool) (id : String) :
      StoreCalled sha db (db.revokeReconnectCredential fails id).2
  | removeDevice {db : DeviceDbManager} (fails : Bool) (id : String) :
      StoreCalled sha db (db.removeDevice fails id).2
  | cleanupTemporaryControllers {db : DeviceDbManager} (env : CleanupEnv)
      (batchSize : Nat) (id : String) :
      StoreCalled sha db (db.cleanupTemporaryControllers env batchSize id).2
  | cleanupExpiredDevices {db : DeviceDbManager} (env : CleanupEnv)
      (now retentionDays : Int) (batchSize : Nat) :
      StoreCalled sha db (db.cleanupExpiredDevices env now retentionDays batchSize).2
  | adminDeviceData {db : DeviceDbManager} (env : AdminEnv) (request : AdminRequest) :
      StoreCalled sha db (db.adminDeviceData env request).2

namespace CredentialWork

def changesPassword : CredentialWork → Bool
  | changePassword .. => true
  | _ => false

end CredentialWork

/-! ## Acts -/

/-- The calls about rooms and their members that the application makes. They leave alone who the
connections are. -/
def Operation.isAboutRooms : Operation → Bool
  | bindHostToTransmission .. | bindGuestHandleToTransmission .. | releaseGuestFromTransmission ..
  | releaseTransmission .. | disconnectTransmission .. | pruneDisconnectedTransmissions .. => true
  | _ => false

/-- The messages whose handlers leave alone who the connections are, and start sessions for guests
only. -/
def MessageKind.isSettled : MessageKind → Bool
  | .login | .sessionReport => false
  | _ => true

/-- The jobs that leave alone who the connections are, and start sessions for guests only. -/
def Job.isSettled : Job → Bool
  | .message kind _ _ => kind.isSettled
  | .complete _ | .cleanup _ | .restart => false
  | _ => true

namespace Event

/-- The event tells what happened and promises nothing. -/
def isNotice : Event → Bool
  | sent .. | challenged .. | answered .. | presented .. | reportedDead .. | joined .. | retired ..
  | resumed .. => true
  | _ => false

end Event

namespace PresenceManager

/-- The same identities are online. -/
def SameSets (p p' : PresenceManager) : Prop :=
  p'.onlineDevices = p.onlineDevices ∧ p'.onlineWebClients = p.onlineWebClients ∧
    p'.onlineCliClients = p.onlineCliClients

end PresenceManager

namespace Application

/-- A password change that `change_password` accepts from a connection of the user. -/
structure AcceptedChange (userId requestId newPassword : String) : Prop where
  request : ¬ (requestId = "" ∨ 128 < requestId.utf8ByteSize ∨ '\x00' ∈ requestId.toList)
  user : userId ≠ ""
  identity : ¬ (isAlias userId || isTemporaryControllerId userId) = true
  password : ¬ (newPassword.utf8ByteSize ≠ 6 ∨ '\x00' ∈ newPassword.toList)

/-- A password computation is requested for what is stored now: the record is the snapshot that the
computation works with, unless reading it fails. -/
inductive Requests (s : Application) (hdl : ConnectionHdl) : CredentialWork → Prop where
  /-- A login or a key binding by the device itself. -/
  | login (fails : Bool) (deviceId password bindLoginKey : String) (finish : FinishLogin) :
      finish.hostId = deviceId → finish.verifiedLoginKey = bindLoginKey →
      isAlias deviceId = false → isTemporaryControllerId deviceId = false →
      s.manager.getUserId hdl = "" →
      Requests s hdl (.authenticate deviceId password (s.store.readPassword fails deviceId) ""
        bindLoginKey (.login finish))
  | queryUserIdList (fails : Bool) (transmissionId password : String) :
      s.manager.getUserId hdl ≠ "" →
      Requests s hdl (.authenticate transmissionId password
        (s.store.readPassword fails transmissionId) (s.manager.getUserId hdl) ""
        (.queryUserIdList transmissionId))
  | joinTransmission (fails : Bool) (transmissionId password userId : String) : userId ≠ "" →
      s.manager.getUserId hdl = userId →
      Requests s hdl (.authenticate transmissionId password
        (s.store.readPassword fails transmissionId) userId ""
        (.joinTransmission transmissionId userId))
  | register (kind loginPublicKey : String) (finish : FinishLogin) :
      Requests s hdl (.register kind loginPublicKey finish)
  | changePassword (fails : Bool) (requestId newPassword : String) :
      AcceptedChange (s.manager.getUserId hdl) requestId newPassword →
      Requests s hdl (.changePassword (s.manager.getUserId hdl) requestId newPassword
        (s.store.readPassword fails (s.manager.getUserId hdl)))

/-- What is remembered of password changes. -/
def passwordChanges (s : Application) : Recent String PasswordChangeResult :=
  (s.passwordChangeResults, s.passwordChangeResultOrder)

/-- A session is started for what is listed, or for a guest that was admitted to the room of the host on
a connection of its own. -/
inductive Starts (s : Application) (transmissionId hostId guestId : String) : Prop where
  | listed {row : SessionRow} :
      s.store.remoteControlSessions[sessionKey transmissionId guestId]? = some row →
      row.hostId = hostId → Starts s transmissionId hostId guestId
  | admitted {hdl : ConnectionHdl} :
      s.manager.transmissionHostIdList[transmissionId]? = some hostId →
      guestId ∈ s.manager.guestsOf transmissionId →
      s.manager.wsHdlUserIdList[hdl]? = some guestId → Starts s transmissionId hostId guestId

/-- One thing that a program does. What is `settled` leaves alone who the connections are and who is
online, and starts a session only where it is known to be one. -/
inductive Act (cfg : Config) (env : Env) (settled : Bool) :
    Application → List Event → Application → Prop where
  /-- Tell somebody something. -/
  | told {s : Application} {e : Event} : e.isNotice = true → Act cfg env settled s [e] s
  /-- Change the tables of the application that are neither routing, nor the devices and their
  sessions, nor the requests that are waiting, nor the password changes. -/
  | aside {s s' : Application} : s'.manager = s.manager →
      s'.store = { s.store with sessionRecovery := s'.store.sessionRecovery } →
      s'.pending = s.pending → s'.passwordChanges = s.passwordChanges →
      (settled = true → s.presence.SameSets s'.presence) → Act cfg env settled s [] s'
  /-- Forget the password changes of a device. -/
  | forgot {s : Application} (deviceId : String) :
      Act cfg env settled s [] (forgetPasswordChangeResults deviceId s)
  /-- Call the store. -/
  | stored {s : Application} {db : DeviceDbManager} : StoreCalled cfg.hashing.sha s.store db →
      Act cfg env settled s [] { s with store := db }
  /-- Start a session. -/
  | started {s : Application} (transmissionId hostId guestId : String) :
      (settled = true → Starts s transmissionId hostId guestId) →
      Act cfg env settled s []
        (startRemoteControlSession env transmissionId hostId guestId s).state
  /-- Mark an identity online or offline. -/
  | marked {s : Application} (id : String) (online : Bool) : settled = false →
      Act cfg env settled s [] (setOnline env id online s).state
  /-- Call the transmission manager. -/
  | called {s : Application} (op : Operation) : (settled = true → op.isAboutRooms = true) →
      Act cfg env settled s
        [.called op (op.apply s.manager).toRouting]
        { s with
          manager := op.apply s.manager
          store := (handedOver s.manager (op.apply s.manager)).foldl
            (remoteControlSessionCallback env) s.store }
  /-- Hand a password computation over. -/
  | dispatched {s : Application} (work : Dispatched) : Requests s work.hdl work.work →
      Act cfg env settled s [] { s with pending := s.pending ++ [work] }
  /-- Take a password computation that was handed over. -/
  | taken {s : Application} (n : Nat) : Act cfg env settled s [] { s with pending := s.pending.eraseIdx n }
  /-- Send a peer's message on. -/
  | forwarded {s : Application} (kind : SignalKind) (hdl : ConnectionHdl)
      (userId remoteUserId transmissionId : String) (message : Json) :
      isAuthorizedPeerSignal env hdl userId remoteUserId transmissionId s = true →
      Act cfg env settled s [.signalled kind hdl userId remoteUserId transmissionId
        (s.manager.getWsHandleIn remoteUserId transmissionId) message] s
  /-- Tell a guest that the host ended its membership. -/
  | disconnected {s : Application} (hdl : ConnectionHdl) (userId remoteUserId transmissionId : String)
      (message : Json) :
      isAuthorizedPeerSignal env hdl userId remoteUserId transmissionId s = true →
      Act cfg env settled s
        ((releaseGuestFromTransmission env remoteUserId transmissionId s).events ++
          [.signalled .disconnectPeer hdl userId remoteUserId transmissionId
            (s.manager.getWsHandleIn remoteUserId transmissionId) message])
        (releaseGuestFromTransmission env remoteUserId transmissionId s).state

/-- What the continuation of a password computation commits. -/
inductive Commit (cfg : Config) (env : Env) (hdl : ConnectionHdl) (s : Application) :
    CredentialWork → List Event → DeviceDbManager → Prop where
  /-- A password was verified against the record that is still stored, and no key is to be bound. -/
  | verified {deviceId password : String} {record replacement : DevicePasswordRecord}
      {identity : String} {onVerified : OnVerified} {db : DeviceDbManager} :
      s.manager.getUserId hdl = identity →
      DevicePassword.verify cfg.hashing env.hashed (some record) password = some replacement →
      s.store.commitPassword (env.fails .commitPassword) deviceId record replacement = (true, db) →
      Commit cfg env hdl s
        (.authenticate deviceId password (some record) identity "" onVerified)
        [.passwordVerified hdl deviceId] db
  /-- A password was verified, and the key was bound. -/
  | bound {deviceId password : String} {record replacement : DevicePasswordRecord}
      {identity bindLoginKey : String} {onVerified : OnVerified} {committed db : DeviceDbManager} :
      bindLoginKey ≠ "" → s.manager.getUserId hdl = identity →
      DevicePassword.verify cfg.hashing env.hashed (some record) password = some replacement →
      s.store.commitPassword (env.fails .commitPassword) deviceId record replacement =
        (true, committed) →
      committed.bindLoginPublicKey (env.fails .bindLoginPublicKey) deviceId replacement
        bindLoginKey = (true, db) →
      Commit cfg env hdl s
        (.authenticate deviceId password (some record) identity bindLoginKey onVerified)
        [.passwordVerified hdl deviceId] db
  /-- A password was verified, but the key could not be bound: the request is rejected. -/
  | unbound {deviceId password : String} {record replacement : DevicePasswordRecord}
      {identity bindLoginKey : String} {onVerified : OnVerified} {db : DeviceDbManager} :
      bindLoginKey ≠ "" →
      DevicePassword.verify cfg.hashing env.hashed (some record) password = some replacement →
      s.store.commitPassword (env.fails .commitPassword) deviceId record replacement = (true, db) →
      (db.bindLoginPublicKey (env.fails .bindLoginPublicKey) deviceId replacement
        bindLoginKey).1 = false →
      Commit cfg env hdl s
        (.authenticate deviceId password (some record) identity bindLoginKey onVerified) [] db
  | registered {kind loginPublicKey : String} {finish : FinishLogin} {record : DevicePasswordRecord}
      {credential : DeviceCredential} {db : DeviceDbManager} :
      env.hashed = some record →
      s.store.registerDevice (env.fails .registerDevice) env.storeTime env.deviceNumber kind
        env.password record loginPublicKey = (credential, db) →
      Commit cfg env hdl s (.register kind loginPublicKey finish)
        [.registered hdl credential.deviceId loginPublicKey] db
  | changed {userId requestId newPassword : String} {record replacement : DevicePasswordRecord}
      {db : DeviceDbManager} :
      s.manager.getUserId hdl = userId → env.hashed = some replacement →
      s.store.commitPassword (env.fails .commitPassword) userId record replacement = (true, db) →
      Commit cfg env hdl s (.changePassword userId requestId newPassword (some record)) [] db

/-- The reply to a password change that succeeds. -/
def passwordChangedMessage (userId requestId : String) : Json :=
  (changePasswordMessage requestId userId none).set "status" (.str "success")

/-- What a job does. -/
inductive Does (cfg : Config) (env : Env) (s : Application) :
    Job → List Event → Application → Prop where
  | acts {job : Job} {es : List Event} {s' : Application} :
      Generated (Act cfg env false) s es s' → Does cfg env s job es s'
  | committed {n : Nat} {work : Dispatched} {es es' : List Event} {db : DeviceDbManager}
      {s' : Application} :
      s.pending[n]? = some work → work.work.changesPassword = false →
      Commit cfg env work.hdl { s with pending := s.pending.eraseIdx n } work.work es db →
      Generated (Act cfg env false) { s with store := db, pending := s.pending.eraseIdx n } es' s' →
      Does cfg env s (.complete n) (es ++ es') s'
  /-- A password is changed: what was committed is remembered. -/
  | changed {n : Nat} {work : Dispatched} {userId requestId newPassword : String}
      {record : Option DevicePasswordRecord} {db : DeviceDbManager} :
      s.pending[n]? = some work → work.work = .changePassword userId requestId newPassword record →
      Commit cfg env work.hdl { s with pending := s.pending.eraseIdx n } work.work [] db →
      s.passwordChangeResults[userId ++ "\n" ++ requestId]? = none →
      Does cfg env s (.complete n)
        [.sent (some work.hdl) (passwordChangedMessage userId requestId)]
        (rememberChange (userId ++ "\n" ++ requestId)
          { passwordFingerprint := cfg.hashing.sha.digest newPassword
            response := passwordChangedMessage userId requestId }
          { s with store := db, pending := s.pending.eraseIdx n })
  | restarted : Does cfg env s .restart (boot cfg env s).events (boot cfg env s).state

variable {cfg : Config} {env : Env} {settled : Bool} {α β : Type}

/-- From the state, the program does acts only. -/
def ActsAt (cfg : Config) (env : Env) (settled : Bool) (s : Application) (m : Program α) : Prop :=
  Generated (Act cfg env settled) s (m s).events (m s).state

/-- The program does acts only. -/
def Acts (cfg : Config) (env : Env) (settled : Bool) (m : Program α) : Prop :=
  ∀ s, ActsAt cfg env settled s m

/-! ## Rules -/

theorem Act.at {s : Application} {m : Program α} (h : Act cfg env settled s (m s).events (m s).state) :
    ActsAt cfg env settled s m := .single h

theorem acts_pure (v : α) : Acts cfg env settled (pure v : Program α) := fun s => .refl s

theorem actsAt_pure (v : α) (s : Application) : ActsAt cfg env settled s (pure v : Program α) := .refl s

theorem ActsAt.bind {s : Application} {m : Program α} {f : α → Program β} (hm : ActsAt cfg env settled s m)
    (hf : ActsAt cfg env settled (m s).state (f (m s).value)) : ActsAt cfg env settled s (m >>= f) :=
  Generated.bind hm hf

theorem Acts.bind {m : Program α} {f : α → Program β} (hm : Acts cfg env settled m)
    (hf : ∀ v, Acts cfg env settled (f v)) : Acts cfg env settled (m >>= f) := fun s => (hm s).bind (hf _ _)

/-- A program that looks at the data first. -/
theorem actsAt_look {s : Application} {f : Application → Program α} (hf : ActsAt cfg env settled s (f s)) :
    ActsAt cfg env settled s (look >>= f) := hf

theorem acts_look {f : Application → Program α} (hf : ∀ s, ActsAt cfg env settled s (f s)) :
    Acts cfg env settled (look >>= f) := fun s => actsAt_look (hf s)

theorem ActsAt.ite {s : Application} {c : Prop} [Decidable c] {m m' : Program α}
    (hm : c → ActsAt cfg env settled s m) (hm' : ¬ c → ActsAt cfg env settled s m') :
    ActsAt cfg env settled s (if c then m else m') := by
  split
  · next hc => exact hm hc
  · next hc => exact hm' hc

theorem acts_when {c : Prop} [Decidable c] {m : Program Unit} (hm : Acts cfg env settled m) :
    Acts cfg env settled (when c m) := by
  unfold when
  split
  · exact hm
  · exact acts_pure ()

theorem acts_each {round : β → α → Program α} (hround : ∀ b v, Acts cfg env settled (round b v))
    (l : List β) (v : α) : Acts cfg env settled (each l round v) :=
  Follows.each (composes_generated _) hround l v

theorem acts_send (hdl : Option ConnectionHdl) (message : Json) :
    Acts cfg env settled (send hdl message) := fun _ => (Act.told rfl).at

theorem acts_report {e : Event} (he : e.isNotice = true) : Acts cfg env settled (report e) :=
  fun _ => (Act.told he).at

/-- A silent change of tables that no act is about. -/
theorem acts_aside {f : Application → Application}
    (hf : ∀ s, (f s).manager = s.manager ∧
      (f s).store = { s.store with sessionRecovery := (f s).store.sessionRecovery } ∧
      (f s).pending = s.pending ∧ (f s).passwordChanges = s.passwordChanges ∧
      (settled = true → s.presence.SameSets (f s).presence)) :
    Acts cfg env settled (modify f) := fun s =>
  (Act.aside (hf s).1 (hf s).2.1 (hf s).2.2.1 (hf s).2.2.2.1 (hf s).2.2.2.2).at

theorem acts_call {op : Operation} {f : TransmissionManager → α × TransmissionManager}
    (hrooms : settled = true → op.isAboutRooms = true)
    (hop : ∀ m : TransmissionManager, (f m).2 = op.apply m) :
    Acts cfg env settled (call env op f) := by
  intro s
  have hact : Act cfg env settled s (call env op f s).events (call env op f s).state := by
    show Act cfg env settled s [.called op (f s.manager).2.toRouting] _
    unfold call
    dsimp only
    rw [hop]
    exact .called op hrooms
  exact hact.at

/-! ## The transmission manager and the store -/

theorem startRemoteControlSession_acts {s : Application} {transmissionId hostId guestId : String}
    (h : settled = true → Starts s transmissionId hostId guestId) :
    ActsAt cfg env settled s (startRemoteControlSession env transmissionId hostId guestId) := by
  have hact : Act cfg env settled s _ _ := .started transmissionId hostId guestId h
  exact hact.at

theorem endRemoteControlSession_acts (transmissionId guestId : String) :
    Acts cfg env settled (endRemoteControlSession env transmissionId guestId) := fun _ =>
  (Act.stored (.endRemoteControlSession _ _ _ _)).at

theorem bindUserToWsHandle_acts (expired : Bool) (userId : String) (hdl : ConnectionHdl)
    (verifiedDeviceId : String) :
    Acts cfg env false (bindUserToWsHandle env expired userId hdl verifiedDeviceId) :=
  acts_call (fun h => nomatch h) fun _ => rfl

theorem bindHostToTransmission_acts (hostId transmissionId : String) :
    Acts cfg env settled (bindHostToTransmission env hostId transmissionId) :=
  acts_call (fun _ => rfl) fun _ => rfl

theorem bindGuestHandleToTransmission_acts (expired : Bool) (guestId transmissionId : String)
    (hdl : ConnectionHdl) :
    Acts cfg env settled (bindGuestHandleToTransmission env expired guestId transmissionId hdl) :=
  acts_call (fun _ => rfl) fun _ => rfl

theorem releaseTransmission_acts (transmissionId : String) :
    Acts cfg env settled (releaseTransmission env transmissionId) :=
  acts_call (fun _ => rfl) fun _ => rfl

theorem releaseGuestFromTransmission_acts (guestId transmissionId : String) :
    Acts cfg env settled (releaseGuestFromTransmission env guestId transmissionId) :=
  acts_call (fun _ => rfl) fun _ => rfl

theorem disconnectTransmission_acts (transmissionId : String) :
    Acts cfg env settled (disconnectTransmission env transmissionId) :=
  acts_call (fun _ => rfl) fun _ => rfl

theorem releaseUserSession_acts (hdl : ConnectionHdl) :
    Acts cfg env false (releaseUserSession env hdl) := acts_call (fun h => nomatch h) fun _ => rfl

theorem pruneDisconnectedTransmissions_acts (expired : String → String → Bool) :
    Acts cfg env settled (pruneDisconnectedTransmissions env expired) :=
  acts_call (fun _ => rfl) fun _ => rfl

/-- A connection that was admitted to a room is the guest's, and the guest is in the room. -/
theorem bindGuestHandle_admits {expired : Bool} {guestId transmissionId : String}
    {hdl : ConnectionHdl} {r r' : Routing} {notes : List Notification}
    (h : Mutation.bindGuestHandle expired guestId transmissionId hdl r = ⟨true, r', notes⟩) :
    r'.transmissionHostIdList = r.transmissionHostIdList ∧ guestId ∈ r'.guestsOf transmissionId ∧
      r'.wsHdlUserIdList[hdl]? = some guestId := by
  rcases Mutation.bindGuestHandle_cases expired guestId transmissionId hdl r with
    hno | ⟨hadmitted, ⟨hguest, hyes⟩ | ⟨_, -, -, -, -, hyes⟩⟩
  · rw [hno] at h
    cases h
  · rw [hyes] at h
    cases h
    exact ⟨rfl, hguest, hadmitted.bound⟩
  · rw [hyes] at h
    cases h
    refine ⟨rfl, ?_, hadmitted.bound⟩
    show guestId ∈ (r.withGuest guestId transmissionId).guestsOf transmissionId
    simp

/-- A guest that was admitted to a room has a session there. -/
theorem bindGuestHandleToTransmission_starts {s : Application} {expired : Bool}
    {guestId transmissionId hostId : String} {hdl : ConnectionHdl}
    (hhost : s.manager.transmissionHostIdList[transmissionId]? = some hostId)
    (hbound : (bindGuestHandleToTransmission env expired guestId transmissionId hdl s).value = true) :
    Starts (bindGuestHandleToTransmission env expired guestId transmissionId hdl s).state
      transmissionId hostId guestId := by
  have hdoes := TransmissionManager.does_bindGuestHandleToTransmission expired guestId transmissionId
    hdl
  have hmaps : (bindGuestHandleToTransmission env expired guestId transmissionId hdl
      s).state.manager.toRouting = _ := hdoes.maps s.manager
  have hvalue : (Mutation.bindGuestHandle expired guestId transmissionId hdl
      s.manager.toRouting).value = true := (congrArg Prod.fst (hdoes s.manager)).symm.trans hbound
  rcases hrun : Mutation.bindGuestHandle expired guestId transmissionId hdl s.manager.toRouting with
    ⟨value, r', notes⟩
  rw [hrun] at hvalue hmaps
  subst hvalue
  obtain ⟨hhosts, hguest, hbound'⟩ := bindGuestHandle_admits hrun
  refine @Starts.admitted _ _ _ _ hdl ?_ ?_ ?_
  · rw [hmaps, hhosts]
    exact hhost
  · rw [hmaps]
    exact hguest
  · rw [hmaps]
    exact hbound'

/-! ## Session recovery -/

theorem sessionExists_iff {ticket : Ticket} {s : Application} : s.sessionExists ticket = true ↔
    ∃ row : SessionRow, s.store.remoteControlSessions[ticket.key]? = some row ∧
      row.hostId = ticket.hostId := by
  unfold sessionExists
  cases s.store.remoteControlSessions[ticket.key]? <;> simp

theorem confirmLegacy_acts (ticket : Ticket) : Acts cfg env settled (confirmLegacy env ticket) := by
  refine acts_look fun s => ?_
  split
  · exact actsAt_pure _ s
  · next hlisted =>
    simp only [Bool.or_eq_true, Bool.not_eq_true', not_or, Bool.not_eq_false] at hlisted
    obtain ⟨row, hrow, hhost⟩ := sessionExists_iff.mp hlisted.2
    dsimp only
    split
    · exact actsAt_pure _ s
    · exact startRemoteControlSession_acts fun _ => .listed hrow hhost

theorem eraseLegacy_acts (key : SessionKey) : Acts cfg env settled (modify (eraseLegacy key)) :=
  acts_aside fun _ => ⟨rfl, rfl, rfl, rfl, fun _ => ⟨rfl, rfl, rfl⟩⟩

theorem recoveryLogin_acts (hdl : ConnectionHdl) (request : Json) :
    Acts cfg env settled (recoveryLogin env hdl request) := by
  refine Acts.bind (acts_aside fun _ => ⟨rfl, rfl, rfl, rfl, fun _ => ⟨rfl, rfl, rfl⟩⟩) fun _ => ?_
  refine acts_look fun s => ?_
  refine acts_each (fun entry _ => acts_when ?_) _ _ s
  exact Acts.bind (confirmLegacy_acts _) fun _ => acts_when (eraseLegacy_acts _)

theorem retire_acts (key : SessionKey) : Acts cfg env settled (retire key) := by
  intro s
  unfold ActsAt retire
  dsimp only
  cases s.recovery.tickets[key]? with
  | none => exact .refl s
  | some ticket => exact .single (.told rfl)

theorem remove_acts (key : SessionKey) : Acts cfg env settled (remove key) :=
  Acts.bind (retire_acts key) fun _ =>
    acts_aside fun _ => ⟨rfl, rfl, rfl, rfl, fun _ => ⟨rfl, rfl, rfl⟩⟩

theorem issue_acts (transmissionId hostId guestId : String) (guestHdl : ConnectionHdl) :
    Acts cfg env settled (issue env transmissionId hostId guestId guestHdl) := by
  refine acts_look fun s => ?_
  refine Acts.bind (eraseLegacy_acts _) (fun _ => ?_) s
  split
  · exact Acts.bind (acts_when (remove_acts _)) fun _ => acts_report rfl
  · refine Acts.bind (retire_acts _) fun _ => ?_
    refine Acts.bind (acts_aside fun _ => ⟨rfl, rfl, rfl, rfl, fun _ => ⟨rfl, rfl, rfl⟩⟩) fun _ => ?_
    refine Acts.bind (acts_report rfl) fun _ => ?_
    exact Acts.bind (acts_send _ _) fun _ => acts_send _ _

theorem resume_acts (ticket : Ticket) (guestHdl : ConnectionHdl) :
    Acts cfg env false (resume env ticket guestHdl) := by
  refine acts_look fun s => ?_
  refine Acts.bind (acts_when ?_) (fun _ => ?_) s
  · exact Acts.bind (bindHostToTransmission_acts _ _) fun _ => acts_pure ()
  · refine Acts.bind (bindGuestHandleToTransmission_acts _ _ _ _) fun bound => ?_
    split
    · refine Acts.bind (acts_report rfl) fun _ => Acts.bind
        (fun _ => startRemoteControlSession_acts fun h => nomatch h) fun started => ?_
      split
      · refine Acts.bind (acts_aside fun _ => ⟨rfl, rfl, rfl, rfl, fun _ => ⟨rfl, rfl, rfl⟩⟩) fun _ => ?_
        exact Acts.bind (acts_send _ _) fun _ => acts_send _ _
      · exact acts_pure ()
    · exact acts_pure ()

theorem abandon_acts (ticket : Ticket) : Acts cfg env settled (abandon env ticket) :=
  Acts.bind (releaseGuestFromTransmission_acts _ _) fun _ =>
    Acts.bind (endRemoteControlSession_acts _ _) fun _ => acts_pure ()

theorem sessionReport_acts (hdl : ConnectionHdl) (msg : Json) :
    Acts cfg env false (sessionReport env hdl msg) := by
  refine acts_look fun s => ?_
  split
  · exact actsAt_pure _ s
  · dsimp only
    split
    · exact actsAt_pure _ s
    · split
      · exact actsAt_pure _ s
      · split
        · refine Acts.bind (acts_report rfl) (fun _ => ?_) s
          exact Acts.bind (abandon_acts _) fun _ => remove_acts _
        · refine Acts.bind (acts_report rfl) (fun _ => ?_) s
          refine Acts.bind (acts_aside fun _ => ⟨rfl, rfl, rfl, rfl, fun _ => ⟨rfl, rfl, rfl⟩⟩) fun _ => ?_
          split
          · exact acts_pure ()
          · split
            · exact resume_acts _ _
            · exact acts_pure ()

theorem expireTicket_acts (entry : SessionKey × Ticket) :
    Acts cfg env settled (expireTicket env entry) := by
  refine acts_look fun s => ?_
  dsimp only
  split
  · exact Acts.bind (acts_when (abandon_acts _)) (fun _ => remove_acts _) s
  · exact actsAt_pure _ s

theorem expireLegacy_acts (entry : SessionKey × Ticket) :
    Acts cfg env settled (expireLegacy env entry) := by
  refine acts_look fun s => ?_
  split
  · exact eraseLegacy_acts _ s
  · split
    · exact Acts.bind (abandon_acts _) (fun _ => eraseLegacy_acts _) s
    · exact Acts.bind (confirmLegacy_acts _) (fun _ => acts_when (eraseLegacy_acts _)) s

theorem expire_acts : Acts cfg env settled (expire env) := by
  refine Acts.bind (acts_aside fun _ => ⟨rfl, rfl, rfl, rfl, fun _ => ⟨rfl, rfl, rfl⟩⟩) fun _ => ?_
  refine acts_look fun s => ?_
  refine Acts.bind (acts_each (fun _ _ => expireTicket_acts _) _ _) (fun _ => ?_) s
  exact acts_look fun s => acts_each (fun _ _ => expireLegacy_acts _) _ _ s

/-! ## Presence -/

theorem notifyUserDevices_acts (deviceId : String) (online : Bool) :
    Acts cfg env settled (notifyUserDevices deviceId online) :=
  acts_look fun s => acts_each (fun _ _ => acts_send _ _) _ _ s

theorem setOnline_acts (deviceId : String) (online : Bool) :
    Acts cfg env false (setOnline env deviceId online) := fun s => by
  have hact : Act cfg env false s _ _ := .marked deviceId online rfl
  exact hact.at

theorem onLogin_acts (deviceId : String) : Acts cfg env false (onLogin env deviceId) :=
  Acts.bind (acts_aside fun _ => ⟨rfl, rfl, rfl, rfl, fun h => nomatch h⟩) fun _ =>
    Acts.bind (setOnline_acts _ _) fun _ => notifyUserDevices_acts _ _

theorem onLogout_acts (deviceId : String) : Acts cfg env false (onLogout env deviceId) := by
  refine Acts.bind (acts_aside fun _ => ⟨rfl, rfl, rfl, rfl, fun h => nomatch h⟩) fun _ => ?_
  refine Acts.bind (acts_aside fun _ => ⟨rfl, rfl, rfl, rfl, fun h => nomatch h⟩) fun _ => ?_
  refine Acts.bind (setOnline_acts _ _) fun _ => ?_
  refine Acts.bind (acts_when (notifyUserDevices_acts _ _)) fun _ => ?_
  exact acts_when (acts_aside fun _ => ⟨rfl, rfl, rfl, rfl, fun h => nomatch h⟩)

theorem updateUserDevices_acts (userId : String) (deviceIds : List String) (replace : Bool) :
    Acts cfg env settled (updateUserDevices userId deviceIds replace) :=
  acts_aside fun _ => ⟨rfl, rfl, rfl, rfl, fun _ => ⟨rfl, rfl, rfl⟩⟩

/-! ## Login -/

theorem runCredentialWork_acts {s : Application} {hdl : ConnectionHdl} {failure : Json}
    {work : CredentialWork} (hrequest : Requests s hdl work) :
    ActsAt cfg env settled s (runCredentialWork env hdl failure work) := by
  unfold runCredentialWork
  split
  · have hact : Act cfg env settled s _ _ := .dispatched ⟨hdl, failure, work⟩ hrequest
    exact hact.at
  · exact acts_send _ _ s

theorem authenticateDevice_acts {s : Application} {hdl : ConnectionHdl} {deviceId password : String}
    {failure : Json} {onVerified : OnVerified} {bindLoginKey : String}
    (hrequest : isTemporaryControllerId deviceId = false → Requests s hdl
      (.authenticate deviceId password (s.store.readPassword (env.fails .readPassword) deviceId)
        (s.manager.getUserId hdl) bindLoginKey onVerified)) :
    ActsAt cfg env settled s
      (authenticateDevice env hdl deviceId password failure onVerified bindLoginKey) := by
  unfold authenticateDevice
  dsimp only
  split
  · exact acts_send _ _ s
  · next hvalid =>
    split
    · exact acts_send _ _ s
    · simp only [Bool.or_eq_true, not_or, Bool.not_eq_true] at hvalid
      exact runCredentialWork_acts (hrequest hvalid.2)

theorem registerDevice_acts {s : Application} (hdl : ConnectionHdl) (kind : String) (failure : Json)
    (finish : FinishLogin) (loginPublicKey : String) :
    ActsAt cfg env settled s (registerDevice env hdl kind failure finish loginPublicKey) :=
  runCredentialWork_acts (.register _ _ _)

theorem issueReconnect_acts (request : Json) (userId loginKey : String)
    (reconnectExpires : Option Int) :
    Acts cfg env settled (issueReconnect cfg env request userId loginKey reconnectExpires) := by
  intro s
  unfold ActsAt issueReconnect
  split
  · exact .single (.stored (.issueReconnectCredential _ _ _ _))
  · exact .refl s

theorem completeDeviceLogin_acts (hdl : ConnectionHdl) (request : Json) (hostId : String)
    (credential : DeviceCredential) (registration : Bool) (reconnectExpires : Option Int)
    (verifiedLoginKey : String) :
    Acts cfg env false (completeDeviceLogin cfg env hdl request hostId credential registration
      reconnectExpires verifiedLoginKey) := by
  have hfail : ∀ message : Json, Acts cfg env false (do send (some hdl) message; pure false) :=
    fun message => Acts.bind (acts_send _ _) fun _ => acts_pure false
  unfold completeDeviceLogin
  dsimp only
  split
  · exact hfail _
  · refine acts_look fun s => ?_
    split
    · exact hfail _ s
    · refine Acts.bind (bindUserToWsHandle_acts _ _ _ _) (fun bound => ?_) s
      split
      · exact Acts.bind (acts_when fun _ => (Act.stored (.removeDevice _ _)).at) fun _ => hfail _
      · refine Acts.bind (acts_when (Acts.bind (bindHostToTransmission_acts _ _) fun _ =>
          acts_pure ())) fun _ => ?_
        refine Acts.bind (acts_when fun _ => (Act.stored (.updateDeviceClientInfo _ _ _ _ _)).at)
          fun _ => ?_
        refine Acts.bind (issueReconnect_acts _ _ _ _) fun _ => ?_
        exact Acts.bind (acts_send _ _) fun _ => acts_pure true

theorem completeAliasLogin_acts (hdl : ConnectionHdl) (request : Json) (hostId : String)
    (verifiedLoginKey : String) :
    Acts cfg env false (completeAliasLogin cfg env hdl request hostId verifiedLoginKey) := by
  have hfail : ∀ message : Json, Acts cfg env false (do send (some hdl) message; pure false) :=
    fun message => Acts.bind (acts_send _ _) fun _ => acts_pure false
  refine acts_look fun s => ?_
  dsimp only
  split
  · exact hfail _ s
  · refine Acts.bind (bindUserToWsHandle_acts _ _ _ _) (fun bound => ?_) s
    split
    · exact hfail _
    · refine Acts.bind (bindHostToTransmission_acts _ _) fun _ => ?_
      exact Acts.bind (acts_send _ _) fun _ => acts_pure true

theorem completeLogin_acts (hdl : ConnectionHdl) (request : Json) (hostId : String)
    (credential : DeviceCredential) (registration : Bool) (reconnectExpires : Option Int)
    (verifiedLoginKey : String) :
    Acts cfg env false (completeLogin cfg env hdl request hostId credential registration reconnectExpires
      verifiedLoginKey) := by
  refine acts_look fun s => ?_
  split
  · exact actsAt_pure _ s
  · split
    · exact completeAliasLogin_acts _ _ _ _ s
    · exact completeDeviceLogin_acts _ _ _ _ _ _ _ s

theorem finishLogin_acts (hdl : ConnectionHdl) (finish : FinishLogin)
    (credential : DeviceCredential) (registration : Bool) (reconnectExpires : Option Int) :
    Acts cfg env false (finishLogin cfg env hdl finish credential registration reconnectExpires) := by
  refine Acts.bind (completeLogin_acts _ _ _ _ _ _ _) fun completed => ?_
  split
  · refine Acts.bind (recoveryLogin_acts _ _) fun _ => acts_look fun s => ?_
    dsimp only
    split
    · exact actsAt_pure _ s
    · exact onLogin_acts _ s
  · exact acts_pure ()

theorem challenge_acts (hdl : ConnectionHdl) (r : KeyRequest) :
    Acts cfg env settled (challenge env hdl r) := by
  unfold challenge
  dsimp only
  split
  · exact acts_send _ _
  · split
    · exact acts_send _ _
    · refine Acts.bind (acts_aside fun s => ?_) fun _ => acts_look fun s => ?_
      · unfold cleanLoginChallenges
        split <;> exact ⟨rfl, rfl, rfl, rfl, fun _ => ⟨rfl, rfl, rfl⟩⟩
      · split
        · exact acts_send _ _ s
        · split
          · exact acts_send _ _ s
          · refine ActsAt.bind (acts_aside ?_ s) (Acts.bind (acts_report rfl)
              (fun _ => acts_send _ _) _)
            exact fun _ => ⟨rfl, rfl, rfl, rfl, fun _ => ⟨rfl, rfl, rfl⟩⟩

/-- The device id of a request with a key that is no alias. -/
theorem readKeyRequest_deviceId {request : Json} {r : KeyRequest}
    (h : readKeyRequest request = some r) : r.controller = isAlias r.id := by
  unfold readKeyRequest at h
  simp only [Option.bind_eq_bind, Option.bind_eq_some_iff, Option.ite_none_left_eq_some] at h
  obtain ⟨identity, -, proof, -, fields, -, version, -, -, publicKey, -, -, h⟩ := h
  cases h
  rfl

theorem loginWithProvenKey_acts {s : Application} {hdl : ConnectionHdl} (request : Json)
    {r : KeyRequest} (hidentity : s.manager.getUserId hdl = "")
    (hcontroller : r.controller = isAlias r.id) :
    ActsAt cfg env false s (loginWithProvenKey cfg env hdl request r) := by
  unfold loginWithProvenKey
  dsimp only
  split
  · split
    · exact acts_send _ _ s
    · exact registerDevice_acts _ _ _ _ _
  · refine actsAt_look ?_
    generalize s.store.readLoginPublicKey _ _ = loginKey
    split
    · exact acts_send _ _ s
    · split
      · split
        · exact acts_send _ _ s
        · exact finishLogin_acts _ _ _ _ _ s
      · split
        · exact acts_send _ _ s
        · next hdevice =>
          refine authenticateDevice_acts fun htemporary => ?_
          rw [hidentity]
          have halias : isAlias r.id = false := by
            rw [← hcontroller]
            simpa using hdevice
          exact .login _ _ _ _ _ rfl rfl halias htemporary hidentity

theorem loginWithKey_acts {s : Application} {hdl : ConnectionHdl} (request : Json)
    (hidentity : s.manager.getUserId hdl = "") :
    ActsAt cfg env false s (loginWithKey cfg env hdl request) := by
  unfold loginWithKey
  dsimp only
  split
  · exact acts_send _ _ s
  · next r hread =>
    split
    · exact challenge_acts _ _ s
    · refine actsAt_look ?_
      split
      · exact acts_send _ _ s
      · refine ActsAt.bind (acts_aside ?_ s) (ActsAt.bind (acts_report rfl _) ?_)
        · exact fun _ => ⟨rfl, rfl, rfl, rfl, fun _ => ⟨rfl, rfl, rfl⟩⟩
        split
        · exact loginWithProvenKey_acts _ hidentity (readKeyRequest_deviceId hread)
        · exact acts_send _ _ _

theorem loginWithoutKey_acts {s : Application} {hdl : ConnectionHdl} (request : Json)
    (hostIdWithPwd : String) (hidentity : s.manager.getUserId hdl = "") :
    ActsAt cfg env false s (loginWithoutKey cfg env hdl request hostIdWithPwd) := by
  unfold loginWithoutKey
  dsimp only
  generalize (splitAtSign hostIdWithPwd).1 = hostId
  generalize (splitAtSign hostIdWithPwd).2 = password
  split
  · exact acts_send _ _ s
  · refine actsAt_look ?_
    generalize s.store.readLoginPublicKey _ _ = loginKey
    split
    · exact acts_send _ _ s
    · split
      · refine ActsAt.ite (fun _ => ?_) (fun _ => ?_)
        · exact finishLogin_acts _ _ _ _ _ s
        · exact acts_send _ _ s
      · split
        · exact finishLogin_acts _ _ _ _ _ s
        · next halias =>
          split
          · exact registerDevice_acts _ _ _ _ _
          · refine authenticateDevice_acts fun htemporary => ?_
            rw [hidentity]
            exact .login _ _ _ _ _ rfl rfl (by simpa using halias) htemporary hidentity

theorem loginUser_acts (hdl : ConnectionHdl) (request : Json) :
    Acts cfg env false (loginUser cfg env hdl request) := by
  refine acts_look fun s => ?_
  split
  · exact actsAt_pure _ s
  · split
    · exact acts_send _ _ s
    · next hidentity =>
      rw [ne_eq, not_not] at hidentity
      split
      · exact loginWithKey_acts _ hidentity
      · split
        · exact actsAt_pure _ s
        · exact loginWithoutKey_acts _ _ hidentity

/-! ## Signaling -/

theorem leaveRoom_acts (userId transmissionId : String) :
    Acts cfg env settled (leaveRoom env userId transmissionId) := by
  refine acts_look fun s => ?_
  split
  · exact Acts.bind (releaseTransmission_acts _) (fun _ => acts_pure true) s
  · exact releaseGuestFromTransmission_acts _ _ s

theorem leaveTransmission_acts (hdl : ConnectionHdl) (j : Json) :
    Acts cfg env settled (leaveTransmission env hdl j) := by
  refine acts_look fun s => ?_
  split
  · split
    · exact actsAt_pure _ s
    · split
      · exact actsAt_pure _ s
      · refine Acts.bind (leaveRoom_acts _ _) (fun _ => acts_when ?_) s
        exact acts_each (fun _ _ => acts_send _ _) _ _
  · exact actsAt_pure _ s

theorem disconnectPeer_acts (hdl : ConnectionHdl) (j : Json) :
    Acts cfg env settled (disconnectPeer env hdl j) := by
  refine acts_look fun s => ?_
  split
  · next transmissionId userId remoteUserId _ _ _ =>
    split
    · exact actsAt_pure _ s
    · next hauthorized =>
      simp only [Bool.or_eq_true, Bool.not_eq_true', not_or, Bool.not_eq_false] at hauthorized
      -- the guest is told only when its membership was there to be ended
      cases hreleased : (releaseGuestFromTransmission env remoteUserId transmissionId s).value with
      | false =>
        refine ActsAt.bind (releaseGuestFromTransmission_acts _ _ s) ?_
        rw [hreleased]
        exact actsAt_pure _ _
      | true =>
        have hact : Act cfg env settled s _ _ := .disconnected hdl userId remoteUserId transmissionId
          (leaveMessage transmissionId userId) hauthorized.1
        show Generated _ s (_ ++ (when (_ = true) _ _).events) (when (_ = true) _ _).state
        rw [hreleased]
        exact .single hact
  · exact actsAt_pure _ s

theorem queryUserIdList_acts (hdl : ConnectionHdl) (j : Json) :
    Acts cfg env settled (queryUserIdList env hdl j) := by
  refine acts_look fun s => ?_
  split
  · exact actsAt_pure _ s
  · next transmissionIdPwd _ =>
    dsimp only
    split
    · exact acts_send _ _ s
    · next hbound =>
      simp only [Bool.or_eq_true, not_or, decide_eq_true_eq] at hbound
      exact authenticateDevice_acts fun _ => .queryUserIdList _ _ _ hbound.2

theorem joinTransmission_acts (hdl : ConnectionHdl) (j : Json) :
    Acts cfg env settled (joinTransmission env hdl j) := by
  refine acts_look fun s => ?_
  split
  · dsimp only
    split
    · exact actsAt_pure _ s
    · next huser =>
      split
      · exact acts_send _ _ s
      · next hbound =>
        simp only [Bool.or_eq_true, not_or, decide_eq_true_eq, not_not] at hbound
        split
        · exact acts_send _ _ s
        · refine authenticateDevice_acts fun _ => ?_
          rw [hbound.2]
          exact .joinTransmission _ _ _ _ huser hbound.2
  · exact actsAt_pure _ s

theorem joined_acts (hdl : ConnectionHdl) (transmissionId userId : String) :
    Acts cfg env settled (joined cfg env hdl transmissionId userId) := by
  refine acts_look fun s => ?_
  dsimp only
  split
  · exact acts_send _ _ s
  · next hhosted =>
    simp only [Bool.or_eq_true, decide_eq_true_eq, not_or] at hhosted
    have hhost : s.manager.transmissionHostIdList[transmissionId]? =
        some (s.manager.getHostIdOfTransmission transmissionId) := by
      have hname := hhosted.1
      unfold Routing.getHostIdOfTransmission at hname ⊢
      cases hroom : s.manager.transmissionHostIdList[transmissionId]? with
      | none => simp [hroom] at hname
      | some host => rfl
    refine ActsAt.bind (bindGuestHandleToTransmission_acts _ _ _ _ s) ?_
    cases hbound : (bindGuestHandleToTransmission env (env.expired 2) userId transmissionId hdl
      s).value with
    | false => exact actsAt_pure _ _
    | true =>
      refine ActsAt.bind (startRemoteControlSession_acts fun _ =>
        bindGuestHandleToTransmission_starts hhost hbound) ?_
      exact Acts.bind (issue_acts _ _ _ _) (fun _ => acts_send _ _) _

theorem forward_acts (kind : SignalKind) (hdl : ConnectionHdl)
    (userId remoteUserId transmissionId : String) (message : Option Json) :
    Acts cfg env settled (forward env kind hdl userId remoteUserId transmissionId message) := by
  refine acts_look fun s => ?_
  split
  · exact actsAt_pure _ s
  · next hauthorized =>
    rw [Bool.not_eq_true', Bool.not_eq_false] at hauthorized
    split
    · exact actsAt_pure _ s
    · exact (Act.forwarded kind hdl userId remoteUserId transmissionId _ hauthorized).at

theorem offer_acts (hdl : ConnectionHdl) (j : Json) : Acts cfg env settled (offer cfg env hdl j) := by
  unfold offer
  split
  · exact forward_acts _ _ _ _ _ _
  · exact acts_pure ()

theorem answer_acts (hdl : ConnectionHdl) (j : Json) : Acts cfg env settled (answer env hdl j) := by
  unfold answer
  split
  · exact forward_acts _ _ _ _ _ _
  · exact acts_pure ()

theorem newCandidate_acts (hdl : ConnectionHdl) (j : Json) :
    Acts cfg env settled (newCandidate env hdl j) := by
  unfold newCandidate
  split
  · exact forward_acts _ _ _ _ _ _
  · exact acts_pure ()

theorem newCandidateMid_acts (hdl : ConnectionHdl) (j : Json) :
    Acts cfg env settled (newCandidateMid env hdl j) := by
  unfold newCandidateMid
  split
  · exact forward_acts _ _ _ _ _ _
  · exact acts_pure ()

theorem changePassword_acts (hdl : ConnectionHdl) (j : Json) :
    Acts cfg env settled (changePassword cfg env hdl j) := by
  refine acts_look fun s => ?_
  dsimp only
  split
  · exact acts_send _ _ s
  · next hrequest =>
    split
    · exact acts_send _ _ s
    · next huser =>
      split
      · exact acts_send _ _ s
      · next hidentity =>
        split
        · exact acts_send _ _ s
        · next hpassword =>
          split
          · exact acts_send _ _ s
          · exact runCredentialWork_acts
              (.changePassword _ _ _ ⟨hrequest, huser, hidentity, hpassword⟩)

theorem clientInfo_acts (hdl : ConnectionHdl) (j : Json) :
    Acts cfg env settled (clientInfo env hdl j) := by
  refine acts_look fun s => ?_
  dsimp only
  split
  · exact actsAt_pure _ s
  · exact (Act.stored (.updateDeviceClientInfo _ _ _ _ _)).at

theorem turnCredentials_acts (hdl : ConnectionHdl) : Acts cfg env settled (turnCredentials cfg hdl) := by
  refine acts_look fun s => ?_
  dsimp only
  split
  · exact acts_send _ _ s
  · split
    · exact acts_send _ _ s
    · exact acts_send _ _ s

theorem revokeReconnectCredential_acts (hdl : ConnectionHdl) :
    Acts cfg env settled (revokeReconnectCredential env hdl) := by
  refine acts_look fun s => ?_
  dsimp only
  split
  · refine ActsAt.bind (Act.stored (.revokeReconnectCredential _ _)).at ?_
    exact acts_send _ _ _
  · exact acts_send _ _ s

theorem recentConnectionsPresence_acts (hdl : ConnectionHdl) (j : Json) :
    Acts cfg env settled (recentConnectionsPresence hdl j) := by
  refine acts_look fun s => ?_
  dsimp only
  split
  · exact actsAt_pure _ s
  · split
    · exact actsAt_pure _ s
    · refine Acts.bind (acts_when (updateUserDevices_acts _ _ _)) (fun _ => ?_) s
      exact acts_look fun s => acts_send _ _ s

/-- Every message is handled by acts. -/
theorem process_acts (hdl : ConnectionHdl) (request : Json) (kind : MessageKind)
    (h : settled = true → kind.isSettled = true) :
    Acts cfg env settled (kind.process cfg env hdl request) := by
  cases kind with
  | login =>
    cases settled with
    | true => cases h rfl
    | false => exact loginUser_acts _ _
  | sessionReport =>
    cases settled with
    | true => cases h rfl
    | false => exact sessionReport_acts _ _
  | revokeReconnectCredential => exact revokeReconnectCredential_acts _
  | leaveTransmission => exact leaveTransmission_acts _ _
  | disconnectPeer => exact disconnectPeer_acts _ _
  | queryUserIdList => exact queryUserIdList_acts _ _
  | joinTransmission => exact joinTransmission_acts _ _
  | offer => exact offer_acts _ _
  | answer => exact answer_acts _ _
  | newCandidate => exact newCandidate_acts _ _
  | newCandidateMid => exact newCandidateMid_acts _ _
  | changePassword => exact changePassword_acts _ _
  | turnCredentials => exact turnCredentials_acts _
  | clientInfo => exact clientInfo_acts _ _
  | recentConnectionsPresence => exact recentConnectionsPresence_acts _ _

/-! ## Continuations -/

theorem verified_acts (hdl : ConnectionHdl) (onVerified : OnVerified) :
    Acts cfg env false (verified cfg env hdl onVerified) := by
  cases onVerified with
  | login finish => exact finishLogin_acts _ _ _ _ _
  | queryUserIdList transmissionId => exact acts_look fun s => acts_send _ _ s
  | joinTransmission transmissionId userId => exact joined_acts _ _ _

/-- The program commits what the continuation of the work may commit, and acts; or it only acts. -/
def CommitsAt (cfg : Config) (env : Env) (hdl : ConnectionHdl) (work : CredentialWork)
    (s : Application) (m : Program Unit) : Prop :=
  ActsAt cfg env false s m ∨ ∃ (es es' : List Event) (db : DeviceDbManager),
    Commit cfg env hdl s work es db ∧ (m s).events = es ++ es' ∧
      Generated (Act cfg env false) { s with store := db } es' (m s).state

theorem verdict_verified {record : Option DevicePasswordRecord} {password : String}
    {replacement : DevicePasswordRecord}
    (h : (verdict cfg env record password).verified = some replacement) :
    DevicePassword.verify cfg.hashing env.hashed record password = some replacement := by
  unfold verdict at h
  dsimp only at h
  split at h
  · cases h
  · split at h
    · cases h
    · split at h
      · cases h
      · exact h

theorem authenticated_commits (s : Application) (hdl : ConnectionHdl) (failure : Json)
    (deviceId password : String) (record : Option DevicePasswordRecord)
    (identity bindLoginKey : String) (onVerified : OnVerified) :
    CommitsAt cfg env hdl (.authenticate deviceId password record identity bindLoginKey onVerified) s
      (authenticated cfg env hdl failure deviceId password record identity bindLoginKey
        onVerified) := by
  show CommitsAt cfg env hdl _ s (if _ then _ else _)
  split
  · exact .inl (actsAt_pure () s)
  · next halive =>
    simp only [Bool.or_eq_true, decide_eq_true_eq, not_or, ne_eq, not_not] at halive
    cases record with
    | none => exact .inl (acts_send _ _ s)
    | some record =>
      cases hverdict : (verdict cfg env (some record) password).verified with
      | none => exact .inl (acts_send _ _ s)
      | some replacement =>
        have hverify := verdict_verified hverdict
        dsimp only [look]
        rcases hcommit : s.store.commitPassword (env.fails .commitPassword) deviceId record
          replacement with ⟨ok, committed⟩
        cases ok with
        | false => exact .inl (acts_send _ _ s)
        | true =>
          right
          by_cases hkey : bindLoginKey = ""
          · subst hkey
            exact ⟨_, _, committed, .verified halive.2 hverify hcommit, rfl, verified_acts _ _ _⟩
          · rw [if_neg hkey]
            rcases hbind : committed.bindLoginPublicKey (env.fails .bindLoginPublicKey) deviceId
              replacement bindLoginKey with ⟨ok, bound⟩
            cases ok with
            | false =>
              refine ⟨_, _, committed, .unbound hkey hverify hcommit ?_, rfl, acts_send _ _ _⟩
              rw [hbind]
            | true =>
              exact ⟨_, _, bound, .bound hkey halive.2 hverify hcommit hbind, rfl,
                verified_acts _ _ _⟩

theorem registered_commits (s : Application) (hdl : ConnectionHdl) (failure : Json)
    (kind loginPublicKey : String) (finish : FinishLogin) :
    CommitsAt cfg env hdl (.register kind loginPublicKey finish) s
      (registered cfg env hdl failure kind loginPublicKey finish) := by
  show CommitsAt cfg env hdl _ s (if _ then _ else _)
  split
  · exact .inl (actsAt_pure () s)
  · split
    · exact .inl (acts_send _ _ s)
    · next record hrecord =>
      right
      have hhashed : env.hashed = some record := by
        split at hrecord
        · cases hrecord
        · exact hrecord
      exact ⟨_, _, _, .registered hhashed rfl, rfl, finishLogin_acts _ _ _ _ _ _⟩

/-- The program commits a password change, remembers it and replies; or it changes nothing, and replies
at most. -/
def ChangesAt (cfg : Config) (env : Env) (hdl : ConnectionHdl)
    (userId requestId newPassword : String) (record : Option DevicePasswordRecord)
    (s : Application) (m : Program Unit) : Prop :=
  ((m s).state = s ∧ ((m s).events = [] ∨ ∃ reply, (m s).events = [.sent (some hdl) reply])) ∨ ∃ db : DeviceDbManager,
    Commit cfg env hdl s (.changePassword userId requestId newPassword record) [] db ∧
    s.passwordChangeResults[userId ++ "\n" ++ requestId]? = none ∧
    (m s).events = [.sent (some hdl) (passwordChangedMessage userId requestId)] ∧
    (m s).state = rememberChange (userId ++ "\n" ++ requestId)
      { passwordFingerprint := cfg.hashing.sha.digest newPassword
        response := passwordChangedMessage userId requestId } { s with store := db }

theorem passwordChanged_commits (s : Application) (hdl : ConnectionHdl)
    (userId requestId newPassword : String) (record : Option DevicePasswordRecord) :
    ChangesAt cfg env hdl userId requestId newPassword record s
      (passwordChanged cfg env hdl userId requestId newPassword record) := by
  show ChangesAt cfg env hdl _ _ _ _ s (if _ then _ else _)
  split
  · exact .inl ⟨rfl, .inl rfl⟩
  · next halive =>
    simp only [Bool.or_eq_true, decide_eq_true_eq, not_or, ne_eq, not_not] at halive
    split
    · exact .inl ⟨rfl, .inr ⟨_, rfl⟩⟩
    · next hcached =>
      have hnew : s.passwordChangeResults[userId ++ "\n" ++ requestId]? = none :=
        Option.map_eq_none_iff.mp hcached
      dsimp only [look]
      split
      · next record replacement hhashed =>
        rcases hcommit : s.store.commitPassword (env.fails .commitPassword) userId record
          replacement with ⟨ok, committed⟩
        cases ok with
        | false => exact .inl ⟨rfl, .inr ⟨_, rfl⟩⟩
        | true => exact .inr ⟨committed, .changed halive.2 hhashed hcommit, hnew, rfl, rfl⟩
      · exact .inl ⟨rfl, .inr ⟨_, rfl⟩⟩

/-- What the continuation of a computation does: acts, after one commit at most, or a password
change. -/
theorem finishWork_does {s : Application} {n : Nat} {work : Dispatched}
    (hwork : s.pending[n]? = some work) :
    Does cfg env s (.complete n)
      (finishWork cfg env work { s with pending := s.pending.eraseIdx n }).events
      (finishWork cfg env work { s with pending := s.pending.eraseIdx n }).state := by
  have htaken : ∀ {m : Program Unit}, ActsAt cfg env false { s with pending := s.pending.eraseIdx n } m →
      Does cfg env s (.complete n) (m { s with pending := s.pending.eraseIdx n }).events
        (m { s with pending := s.pending.eraseIdx n }).state :=
    fun hacts => .acts ((composes_generated _).trans (.single (.taken n)) hacts)
  have hcommits : ∀ {m : Program Unit}, work.work.changesPassword = false →
      CommitsAt cfg env work.hdl work.work { s with pending := s.pending.eraseIdx n } m →
      Does cfg env s (.complete n) (m { s with pending := s.pending.eraseIdx n }).events
        (m { s with pending := s.pending.eraseIdx n }).state := by
    intro m hother hm
    rcases hm with hacts | ⟨es, es', db, hcommit, hevents, hacts⟩
    · exact htaken hacts
    · rw [hevents]
      exact .committed hwork hother hcommit hacts
  rcases hkind : work with ⟨hdl, failure, kind⟩
  subst hkind
  cases kind with
  | authenticate deviceId password record identity bindLoginKey onVerified =>
    exact hcommits rfl (authenticated_commits _ _ _ _ _ _ _ _ _)
  | register kind loginPublicKey finish => exact hcommits rfl (registered_commits _ _ _ _ _ _)
  | changePassword userId requestId newPassword record =>
    rcases passwordChanged_commits { s with pending := s.pending.eraseIdx n } hdl userId requestId
      newPassword record with ⟨hsame, hreply⟩ | ⟨db, hcommit, hnew, hevents, hstate⟩
    · refine htaken (m := passwordChanged cfg env hdl userId requestId newPassword record) ?_
      unfold ActsAt
      rw [hsame]
      rcases hreply with hquiet | ⟨reply, hsent⟩
      · rw [hquiet]
        exact .refl _
      · rw [hsent]
        exact .single (.told rfl)
    · show Does cfg env s (.complete n) (passwordChanged cfg env hdl userId requestId newPassword
        record _).events (passwordChanged cfg env hdl userId requestId newPassword record _).state
      rw [hevents, hstate]
      exact .changed hwork rfl hcommit hnew

/-! ## Jobs -/

theorem sessionCleanup_acts (hdl : ConnectionHdl) : Acts cfg env false (cleanup env hdl) := by
  unfold cleanup
  split
  · exact acts_pure ()
  refine Acts.bind (releaseUserSession_acts _) fun id => ?_
  split
  · exact acts_pure ()
  · refine Acts.bind (onLogout_acts _) fun _ => ?_
    dsimp only
    split
    · exact fun _ => (Act.stored (.removeDevice _ _)).at
    · exact acts_pure ()

theorem handleDisconnect_acts (transmissionId : String) :
    Acts cfg env settled (handleDisconnect env transmissionId) := by
  refine acts_look fun s => ?_
  split
  · exact actsAt_pure _ s
  · refine Acts.bind (acts_each (fun _ _ => acts_send _ _) _ _) (fun _ => ?_) s
    refine Acts.bind (disconnectTransmission_acts _) fun _ => acts_look fun s => ?_
    split
    · exact (Act.stored (.endRemoteControlTransmission _ _ _)).at
    · exact actsAt_pure _ s

theorem forget_acts (id : String) :
    Acts cfg env settled (modify fun s => { s with presence := s.presence.forget id }) :=
  acts_aside fun _ => ⟨rfl, rfl, rfl, rfl, fun _ => ⟨rfl, rfl, rfl⟩⟩

theorem forgetPasswordChangeResults_acts (id : String) :
    Acts cfg env settled (modify (forgetPasswordChangeResults id)) := fun _ => (Act.forgot id).at

theorem adminDeviceData_acts (adminEnv : AdminEnv) (request : AdminRequest) :
    Acts cfg env settled (adminDeviceData env adminEnv request) := by
  refine acts_look fun s => ?_
  split
  · exact actsAt_pure _ s
  · refine ActsAt.bind (Act.stored (.adminDeviceData _ _)).at ?_
    split
    · exact Acts.bind (forget_acts _) (fun _ => forgetPasswordChangeResults_acts _) _
    · exact actsAt_pure _ _

theorem retentionCleanup_acts : Acts cfg env settled (retentionCleanup cfg env) := by
  refine acts_look fun s => ?_
  refine ActsAt.bind (Act.stored (.cleanupTemporaryControllers _ _ _)).at ?_
  split
  · exact actsAt_pure _ _
  · refine Acts.bind (acts_each (fun _ _ => forget_acts _) _ _) (fun _ => ?_) _
    refine acts_look fun s => ActsAt.bind (Act.stored (.cleanupExpiredDevices _ _ _ _)).at ?_
    split
    · exact actsAt_pure _ _
    · refine acts_each (fun _ _ => ?_) _ _ _
      exact Acts.bind (forget_acts _) fun _ => forgetPasswordChangeResults_acts _

theorem recordHeartbeat_acts : Acts cfg env settled (recordHeartbeat env) := fun _ =>
  (Act.stored (.recordRuntimeHeartbeat _)).at

/-- A computation is taken, and what follows is acts. -/
theorem takeWork_acts (n : Nat) {next : Dispatched → Program Unit}
    (hnext : ∀ work, Acts cfg env settled (next work)) : Acts cfg env settled (takeWork n next) := by
  refine acts_look fun s => ?_
  split
  · exact actsAt_pure _ s
  · exact ActsAt.bind (Act.taken n).at (hnext _ _)

/-- A computation that is done is continued. -/
theorem program_complete {s : Application} {n : Nat} {work : Dispatched}
    (hwork : s.pending[n]? = some work) :
    Job.program cfg env (.complete n) s =
      finishWork cfg env work { s with pending := s.pending.eraseIdx n } := by
  simp only [Job.program, takeWork, look_bind, hwork]
  rfl

theorem program_acts {job : Job} (h : job.isSettled = true) :
    Acts cfg env settled (job.program cfg env) := by
  cases job with
  | message kind hdl request => exact process_acts hdl request kind fun _ => h
  | complete => cases h
  | expireWork n => exact takeWork_acts n fun work => acts_send _ _
  | dropWork n => exact takeWork_acts n fun _ => acts_pure ()
  | cleanup => cases h
  | heartbeat => exact Acts.bind recordHeartbeat_acts fun _ => expire_acts
  | prune => exact Acts.bind (pruneDisconnectedTransmissions_acts _) fun _ => acts_pure ()
  | handleDisconnect transmissionId => exact handleDisconnect_acts transmissionId
  | adminDeviceData adminEnv request => exact adminDeviceData_acts adminEnv request
  | retentionCleanup => exact retentionCleanup_acts
  | shutdown => exact recordHeartbeat_acts
  | die hdl => exact acts_pure ()
  | restart => cases h

/-- **What a job does**: acts, after one commit at most, or a restart. -/
theorem does_program (s : Application) (job : Job) :
    Does cfg env s job (job.program cfg env s).events (job.program cfg env s).state := by
  cases job with
  | message kind hdl request =>
    have hacts : Acts cfg env false (kind.process cfg env hdl request) :=
      process_acts hdl request kind fun h => nomatch h
    exact .acts (hacts s)
  | complete n =>
    cases hwork : s.pending[n]? with
    | none =>
      have hnone : Job.program cfg env (.complete n) s = ⟨(), s, []⟩ := by
        simp only [Job.program, takeWork, look_bind, hwork]
        rfl
      rw [hnone]
      exact .acts (.refl s)
    | some work =>
      rw [program_complete hwork]
      exact finishWork_does hwork
  | cleanup hdl => exact .acts (sessionCleanup_acts hdl s)
  | restart => exact .restarted
  | _ => exact .acts (program_acts rfl s)

end Application

end CrossDesk
