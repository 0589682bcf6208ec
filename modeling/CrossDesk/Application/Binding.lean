import CrossDesk.Application.Acts

/-!
# Binding a connection

A login ends in `CompleteLogin`, which binds the connection to the identity. Nothing else that a
login does changes who a connection is (`KeepsUsers`), so the identity of a connection after a login
is decided by one call: an alias or a device is bound when its key passes, and otherwise nothing
happens to the application.
-/

namespace CrossDesk

open Logged

namespace Routing

variable {r : Routing} {hdl : ConnectionHdl} {userId verified : String} {now : TimePoint}

/-- A connection that has no identity can be bound to any. -/
theorem bindUserToWsHandle_free (hid : userId ≠ "") (hfree : r.wsHdlUserIdList[hdl]? = none) :
    (r.bindUserToWsHandle false now userId hdl verified).1 = true ∧
      (r.bindUserToWsHandle false now userId hdl verified).2.wsHdlUserIdList =
        r.wsHdlUserIdList.insert hdl userId := by
  unfold bindUserToWsHandle
  rw [if_neg (by simp [hid]), if_neg (by simp [hfree])]
  refine ⟨rfl, ?_⟩
  unfold updateWsHandleLastActiveTime
  by_cases hverified : verified = ""
  · simp [hverified]
  · simp [hverified]

/-- A connection that has another entry is left alone. -/
theorem bindUserToWsHandle_taken (htaken : (r.wsHdlUserIdList[hdl]?).any (· ≠ userId) = true) :
    r.bindUserToWsHandle false now userId hdl verified = (false, r) := by
  unfold bindUserToWsHandle
  rw [if_pos htaken, ite_self]

/-- The empty identity is bound to nothing. -/
theorem bindUserToWsHandle_empty : r.bindUserToWsHandle false now "" hdl verified = (false, r) :=
  if_pos (.inl rfl)

/-- A connection has the identity it had or the one it is bound to. -/
theorem bindUserToWsHandle_getUserId :
    (r.bindUserToWsHandle false now userId hdl verified).2.getUserId hdl = r.getUserId hdl ∨
      (r.bindUserToWsHandle false now userId hdl verified).2.getUserId hdl = userId := by
  by_cases hid : userId = ""
  · subst hid
    rw [bindUserToWsHandle_empty]
    exact .inl rfl
  · cases hentry : r.wsHdlUserIdList[hdl]? with
    | none =>
      unfold getUserId
      rw [(bindUserToWsHandle_free hid hentry).2]
      exact .inr (by simp)
    | some bound =>
      by_cases hsame : bound = userId
      · subst hsame
        right
        unfold bindUserToWsHandle
        rw [if_neg (by simp [hid]), if_neg (by simp [hentry])]
        unfold getUserId updateWsHandleLastActiveTime
        by_cases hverified : verified = ""
        · simp [hverified]
        · simp [hverified]
      · left
        rw [bindUserToWsHandle_taken (by simp [hentry, hsame])]

/-- A room does not change who a connection is. -/
theorem bindHostToTransmission_users (hostId transmissionId : String) :
    (r.bindHostToTransmission hostId transmissionId).2.wsHdlUserIdList = r.wsHdlUserIdList := by
  unfold bindHostToTransmission
  split
  · rfl
  · split <;> rfl

end Routing

namespace Application

variable {cfg : Config} {env : Env} {α : Type}

/-- A call that only works on the maps calls nobody back. -/
theorem call_onMaps (op : Operation) (f : Routing → α × Routing) (s : Application) :
    call env op (TransmissionManager.onMaps f) s =
      ⟨(f s.manager.toRouting).1,
        { s with manager := { s.manager with toRouting := (f s.manager.toRouting).2 } },
        [.called op (f s.manager.toRouting).2]⟩ := by
  have hnone : handedOver s.manager (TransmissionManager.onMaps f s.manager).2 = [] := by
    unfold handedOver TransmissionManager.onMaps
    rw [List.drop_length, List.map_nil]
  unfold call
  dsimp only
  rw [hnone]
  rfl

/-! ## What leaves the identities alone -/

/-- Every connection stays who it is, and no computation is requested. -/
def KeepsUsers (s s' : Application) : Prop :=
  s'.manager.wsHdlUserIdList = s.manager.wsHdlUserIdList ∧ s'.pending = s.pending

theorem KeepsUsers.refl (s : Application) : KeepsUsers s s := ⟨rfl, rfl⟩

theorem KeepsUsers.trans {s s' s'' : Application} (h : KeepsUsers s s') (h' : KeepsUsers s' s'') :
    KeepsUsers s s'' := ⟨h'.1.trans h.1, h'.2.trans h.2⟩

theorem composes_keepsUsers : Composes (fun s (_ : List Event) s' => KeepsUsers s s') where
  refl := .refl
  trans := .trans

theorem KeepsUsers.getUserId {s s' : Application} (h : KeepsUsers s s') (hdl : ConnectionHdl) :
    s'.manager.getUserId hdl = s.manager.getUserId hdl := by
  unfold Routing.getUserId
  rw [h.1]

/-- The program leaves the identities alone. -/
def Quiet (m : Program α) : Prop := ∀ s, KeepsUsers s (m s).state

section Quiet

variable {β : Type}

theorem Quiet.bind {m : Program α} {f : α → Program β} (hm : Quiet m) (hf : ∀ v, Quiet (f v)) :
    Quiet (m >>= f) := fun s => (hm s).trans (hf _ _)

theorem quiet_pure (v : α) : Quiet (pure v : Program α) := fun s => .refl s

theorem quiet_look {f : Application → Program α} (hf : ∀ s, Quiet (f s)) : Quiet (look >>= f) :=
  fun s => hf s s

theorem quiet_send (hdl : Option ConnectionHdl) (message : Json) : Quiet (send hdl message) :=
  fun s => .refl s

theorem quiet_modify {f : Application → Application}
    (hf : ∀ s, (f s).manager = s.manager ∧ (f s).pending = s.pending) : Quiet (modify f) := by
  intro s
  refine ⟨?_, (hf s).2⟩
  show (f s).manager.wsHdlUserIdList = _
  rw [(hf s).1]

theorem quiet_when {c : Prop} [Decidable c] {m : Program Unit} (hm : Quiet m) : Quiet (when c m) := by
  unfold when
  split
  · exact hm
  · exact quiet_pure ()

theorem quiet_each {round : β → α → Program α} (hround : ∀ b v, Quiet (round b v)) (l : List β)
    (v : α) : Quiet (each l round v) := Follows.each composes_keepsUsers hround l v

end Quiet

theorem quiet_bindHostToTransmission (hostId transmissionId : String) :
    Quiet (bindHostToTransmission env hostId transmissionId) := by
  intro s
  unfold bindHostToTransmission TransmissionManager.bindHostToTransmission
  rw [call_onMaps]
  exact ⟨Routing.bindHostToTransmission_users hostId transmissionId, rfl⟩

theorem quiet_startRemoteControlSession (transmissionId hostId guestId : String) :
    Quiet (startRemoteControlSession env transmissionId hostId guestId) := fun _ => ⟨rfl, rfl⟩

theorem quiet_confirmLegacy (ticket : Ticket) : Quiet (confirmLegacy env ticket) := by
  refine quiet_look fun s => ?_
  split
  · exact quiet_pure false
  · dsimp only
    split
    · exact quiet_pure false
    · exact quiet_startRemoteControlSession _ _ _

theorem quiet_recoveryLogin (hdl : ConnectionHdl) (request : Json) :
    Quiet (recoveryLogin env hdl request) := by
  unfold recoveryLogin
  refine Quiet.bind (quiet_modify fun _ => ⟨rfl, rfl⟩) fun _ => quiet_look fun s => ?_
  refine quiet_each (fun entry _ => quiet_when ?_) _ _
  refine Quiet.bind (quiet_confirmLegacy _) fun confirmed => quiet_when ?_
  exact quiet_modify fun _ => ⟨rfl, rfl⟩

theorem quiet_onLogin (deviceId : String) : Quiet (onLogin env deviceId) := by
  unfold onLogin setOnline
  refine Quiet.bind (quiet_modify fun _ => ⟨rfl, rfl⟩) fun _ => ?_
  refine Quiet.bind (quiet_modify fun _ => ⟨rfl, rfl⟩) fun _ => quiet_look fun s => ?_
  exact quiet_each (fun id _ => quiet_send _ _) _ _

theorem quiet_issueReconnect (request : Json) (userId loginKey : String)
    (reconnectExpires : Option Int) :
    Quiet (issueReconnect cfg env request userId loginKey reconnectExpires) := by
  intro s
  unfold issueReconnect
  split <;> exact ⟨rfl, rfl⟩

/-- **What follows a login leaves the identities as the login left them.** -/
theorem finishLogin_quiet (hdl : ConnectionHdl) (finish : FinishLogin)
    (credential : DeviceCredential) (registration : Bool) (reconnectExpires : Option Int)
    (s : Application) :
    KeepsUsers (completeLogin cfg env hdl finish.request finish.hostId credential registration
        reconnectExpires finish.verifiedLoginKey s).state
      (finishLogin cfg env hdl finish credential registration reconnectExpires s).state := by
  have hrest : ∀ completed : Bool, Quiet (if completed then do
      recoveryLogin env hdl finish.request
      let s ← look
      let id := s.manager.getUserId hdl
      if id = "" then pure () else onLogin env id
    else pure () : Program Unit) := by
    intro completed
    split
    · refine Quiet.bind (quiet_recoveryLogin _ _) fun _ => quiet_look fun s => ?_
      dsimp only
      split
      · exact quiet_pure ()
      · exact quiet_onLogin _
    · exact quiet_pure ()
  exact hrest _ _

/-! ## Devices -/

section Device

variable {hdl : ConnectionHdl} {request : Json} {hostId verifiedLoginKey : String}
  {credential : DeviceCredential} {registration : Bool} {reconnectExpires : Option Int}
  {s : Application}

/-- A device whose key cannot be read, or is another one, is not bound. -/
theorem completeDeviceLogin_refused
    (hkey : s.store.readLoginPublicKey (env.fails (.readLoginPublicKey 1)) credential.deviceId ≠
      some verifiedLoginKey) :
    (completeDeviceLogin cfg env hdl request hostId credential registration reconnectExpires
      verifiedLoginKey s).state = s := by
  unfold completeDeviceLogin
  dsimp only
  split
  · rfl
  · rw [look_bind, if_pos hkey]
    rfl

/-- When the key passed, the connection is who `BindUserToWsHandle` makes it. -/
theorem completeDeviceLogin_passed (hid : credential.deviceId ≠ "")
    (hkey : s.store.readLoginPublicKey (env.fails (.readLoginPublicKey 1)) credential.deviceId =
      some verifiedLoginKey) :
    KeepsUsers (bindUserToWsHandle env false credential.deviceId hdl
        (if verifiedLoginKey = "" then "" else credential.deviceId) s).state
      (completeDeviceLogin cfg env hdl request hostId credential registration reconnectExpires
        verifiedLoginKey s).state := by
  unfold completeDeviceLogin
  dsimp only
  rw [if_neg hid, look_bind, if_neg (not_not.mpr hkey), bind_state]
  generalize bindUserToWsHandle env false credential.deviceId hdl _ s = bound
  obtain ⟨ok, s', es⟩ := bound
  dsimp only
  split
  · refine Quiet.bind ?_ (fun _ => ?_) s'
    · exact quiet_when (quiet_modify fun _ => ⟨rfl, rfl⟩)
    · exact Quiet.bind (quiet_send _ _) fun _ => quiet_pure false
  · refine Quiet.bind ?_ (fun _ => Quiet.bind ?_ fun _ => ?_) s'
    · exact quiet_when (Quiet.bind (quiet_bindHostToTransmission _ _) fun _ => quiet_pure ())
    · exact quiet_when (quiet_modify fun _ => ⟨rfl, rfl⟩)
    · refine Quiet.bind (quiet_issueReconnect _ _ _ _) fun issued => ?_
      exact Quiet.bind (quiet_send _ _) fun _ => quiet_pure true

/-- After the login of a device, the connection is who it was or the device. -/
theorem completeDeviceLogin_getUserId :
    ((completeDeviceLogin cfg env hdl request hostId credential registration reconnectExpires
      verifiedLoginKey s).state.manager.getUserId hdl = s.manager.getUserId hdl ∨
    (completeDeviceLogin cfg env hdl request hostId credential registration reconnectExpires
      verifiedLoginKey s).state.manager.getUserId hdl = credential.deviceId) ∧
    (completeDeviceLogin cfg env hdl request hostId credential registration reconnectExpires
      verifiedLoginKey s).state.pending = s.pending := by
  by_cases hkey : s.store.readLoginPublicKey (env.fails (.readLoginPublicKey 1))
      credential.deviceId = some verifiedLoginKey
  · by_cases hid : credential.deviceId = ""
    · unfold completeDeviceLogin
      dsimp only
      rw [if_pos hid]
      exact ⟨.inl rfl, rfl⟩
    · rw [(completeDeviceLogin_passed hid hkey).getUserId, (completeDeviceLogin_passed hid hkey).2]
      unfold bindUserToWsHandle TransmissionManager.bindUserToWsHandle
      rw [call_onMaps]
      exact ⟨Routing.bindUserToWsHandle_getUserId, rfl⟩
  · rw [completeDeviceLogin_refused hkey]
    exact ⟨.inl rfl, rfl⟩

end Device

end Application

/-! ## The routes of the server stay coherent -/

section Coherent

variable {cfg : Config} {env : Env} {db : DeviceDbManager} {assumed : World → Job → Env → Prop}

theorem composes_coherent : Composes (fun (s : Application) (_ : List Event) (s' : Application) =>
    Coherent s.manager.toRouting → Coherent s'.manager.toRouting) where
  refl := fun _ => id
  trans := fun h h' hs => h' (h hs)

theorem Application.Act.coherent {settled : Bool} {s s' : Application} {es : List Event}
    (h : Application.Act cfg env settled s es s') (hs : Coherent s.manager.toRouting) :
    Coherent s'.manager.toRouting := by
  cases h with
  | told => exact hs
  | aside hmanager =>
    rw [hmanager]
    exact hs
  | forgot => exact hs
  | stored => exact hs
  | started => exact hs
  | marked => exact hs
  | called op => exact hs.apply op
  | dispatched => exact hs
  | taken => exact hs
  | forwarded => exact hs
  | @disconnected _ _ remoteUserId transmissionId =>
    exact hs.apply (.releaseGuestFromTransmission remoteUserId transmissionId)

/-- Restoring is a sequence of calls: what each of them keeps holds afterwards. -/
theorem restored_keeps {P : TransmissionManager → Prop} (hstart : P {})
    (hhost : ∀ (m : TransmissionManager) (hostId transmissionId : String), P m →
      P (m.bindHostToTransmission hostId transmissionId).2)
    (hguest : ∀ (m : TransmissionManager) (guestId transmissionId : String), P m →
      P (m.bindGuestToTransmission guestId transmissionId).2)
    (manages : String → String → Bool) (db : DeviceDbManager) :
    P (SignalServer.restorePersistedRemoteControlSessions manages db {}) := by
  have hguests : ∀ (transmissionId : String) (guestIds : List String) (m : TransmissionManager),
      P m → P (SignalServer.restoreGuests manages transmissionId guestIds m) := by
    intro transmissionId guestIds
    induction guestIds with
    | nil => exact fun _ hm => hm
    | cons guestId guestIds ih =>
      intro m hm
      refine ih _ ?_
      dsimp only
      split
      · exact hm
      · exact hguest m guestId transmissionId hm
  have hsessions : ∀ (sessions : List DeviceDbManager.RemoteControlSessionInfo) (m : TransmissionManager),
      P m → P (sessions.foldl (SignalServer.restoreSession manages) m) := by
    intro sessions
    induction sessions with
    | nil => exact fun _ hm => hm
    | cons session sessions ih =>
      intro m hm
      exact ih _ (hguests _ _ _ (hhost m session.hostId session.transmissionId hm))
  exact hsessions _ {} hstart

theorem restored_coherent (manages : String → String → Bool) (db : DeviceDbManager) :
    Coherent (SignalServer.restorePersistedRemoteControlSessions manages db {}).toRouting :=
  restored_keeps (P := fun m => Coherent m.toRouting) Coherent.empty
    (fun _ hostId transmissionId hm => hm.apply (.bindHostToTransmission hostId transmissionId))
    (fun _ guestId transmissionId hm => hm.apply (.bindGuestToTransmission guestId transmissionId))
    manages db

theorem World.after_coherent {w : World} (hw : Coherent w.app.manager.toRouting) (job : Job) :
    Coherent (w.after cfg job env).app.manager.toRouting := by
  have hdoes : Application.Does cfg env w.app job _ _ := Application.does_program w.app job
  show Coherent (job.program cfg env w.app).state.manager.toRouting
  generalize (job.program cfg env w.app).events = es at hdoes
  generalize (job.program cfg env w.app).state = s' at hdoes ⊢
  cases hdoes with
  | acts hacts => exact hacts.lift composes_coherent (fun _ _ _ h => h.coherent) hw
  | committed hwork hother hcommit hacts =>
    exact hacts.lift composes_coherent (fun _ _ _ h => h.coherent) hw
  | changed => exact hw
  | restarted => exact restored_coherent _ _

/-- **The routing tables of the server are coherent**, in every world that it reaches. -/
theorem server_coherent {w : World} (h : (server cfg db assumed).Reachable w) :
    Coherent w.app.manager.toRouting := by
  refine h.invariant (I := fun w => Coherent w.app.manager.toRouting) ?_ ?_
  · rintro w ⟨env, rfl⟩
    exact World.after_coherent Coherent.empty .restart
  · rintro w ⟨job, env⟩ w' hw ⟨_, _, rfl⟩
    exact World.after_coherent hw job

/-- A connection without an identity has no entry. -/
theorem Coherent.unbound {r : Routing} (hr : Coherent r) {hdl : ConnectionHdl}
    (h : r.getUserId hdl = "") : r.wsHdlUserIdList[hdl]? = none := by
  cases hentry : r.wsHdlUserIdList[hdl]? with
  | none => rfl
  | some u =>
    unfold Routing.getUserId at h
    rw [hentry] at h
    exact absurd h (hr.bound_ne_empty hdl u hentry)

end Coherent

end CrossDesk
