import CrossDesk.Application.Binding
import CrossDesk.Application.StaleWork

/-!
# Registrations that end in no login

The continuation of a registration creates the row of the new device and then binds the connection to
it. `CompleteLogin` asks again whether the connection is still there, and the network thread may have
destroyed it since the continuation asked. A row whose connection could not be bound is removed again,
but a connection that is gone makes `CompleteLogin` return before it gets there, and the row stays:
nobody knows the password that was made for it, and no login ever uses it. `registration_undone_iff`
says that this is the only way.
-/

namespace CrossDesk

open Logged

namespace DeviceDbManager

variable {fails : Bool} {now : Int} {generated kind password loginPublicKey : String}
  {record : DevicePasswordRecord} {db : DeviceDbManager}

/-- The id of a new device. -/
def newDeviceId (kind generated : String) : String :=
  if isTemporaryControllerRegistration kind then kind ++ "-" ++ generated else generated

/-- `RegisterDevice` accepts the request, finds the generated id free, and its statements succeed. -/
structure Registers (fails : Bool) (generated kind password : String)
    (record : DevicePasswordRecord) (loginPublicKey : String) (db : DeviceDbManager) : Prop where
  succeeds : fails = false
  asked : kind = "" ∨ isTemporaryControllerRegistration kind = true
  nonempty : password ≠ ""
  current : DevicePassword.isCurrent record = true
  key : loginPublicKey = "" ∨ kind = "" ∧ isHex loginPublicKey 32 = true
  number : isDeviceNumber generated = true
  free : db.devices[newDeviceId kind generated]? = none

/-- The credential of a new device. Temporary controllers never receive a password. -/
def newCredential (kind generated password : String) : DeviceCredential :=
  { deviceId := newDeviceId kind generated
    password := if isTemporaryControllerRegistration kind then "" else password
    update := false }

/-- A registration that is accepted creates the row. -/
theorem registerDevice_registers
    (h : Registers fails generated kind password record loginPublicKey db) :
    db.registerDevice fails now generated kind password record loginPublicKey =
      (newCredential kind generated password,
        { db with
          devices := db.devices.insert (newDeviceId kind generated)
            { password := record, loginPublicKey, retentionStartedAt := now } }) := by
  have hcontains : db.devices.contains (newDeviceId kind generated) = false := by
    rw [Std.ExtTreeMap.contains_eq_isSome_getElem?, h.free]
    rfl
  have hrefused : ¬ (fails ∨ (kind ≠ "" ∧ ¬ isTemporaryControllerRegistration kind) ∨ password = "" ∨
      ¬ DevicePassword.isCurrent record ∨
      (loginPublicKey ≠ "" ∧ (kind ≠ "" ∨ ¬ isHex loginPublicKey 32))) := by
    have hsucceeds := h.succeeds
    have hkind := h.asked
    have hkey := h.key
    have hpassword := h.nonempty
    have hrecord := h.current
    rw [hsucceeds]
    tauto
  have hfound : ¬ (!isDeviceNumber generated ||
      db.devices.contains (newDeviceId kind generated)) = true := by
    rw [h.number, hcontains]
    decide
  unfold registerDevice
  rw [if_neg hrefused]
  exact if_neg hfound

/-- Any other creates nothing. -/
theorem registerDevice_refused
    (h : ¬ Registers fails generated kind password record loginPublicKey db) :
    db.registerDevice fails now generated kind password record loginPublicKey = ({}, db) := by
  unfold registerDevice
  split
  · rfl
  · rename_i haccepted
    refine if_pos ?_
    by_contra hfound
    rw [Bool.or_eq_true, not_or, Bool.not_eq_true', Bool.not_eq_false, Bool.not_eq_true] at hfound
    refine h ⟨?_, ?_, ?_, ?_, ?_, hfound.1, ?_⟩
    · simpa using fun hfails => haccepted (.inl hfails)
    · tauto
    · tauto
    · tauto
    · tauto
    · have hcontains := hfound.2
      rw [Std.ExtTreeMap.contains_eq_isSome_getElem?, Option.isSome_eq_false_iff,
        Option.isNone_iff_eq_none] at hcontains
      exact hcontains

/-- A new device has a name. -/
theorem Registers.ne_empty (h : Registers fails generated kind password record loginPublicKey db) :
    newDeviceId kind generated ≠ "" := by
  have hgenerated := SignalServer.ne_empty_of_isDeviceNumber h.number
  unfold newDeviceId
  split
  · intro hempty
    have hlength := congrArg (fun text => text.toList.length) hempty
    simp at hlength
  · exact hgenerated

end DeviceDbManager

namespace Application

open DeviceDbManager

variable {cfg : Config} {env : Env} {hdl : ConnectionHdl} {failure request : Json}
  {kind loginPublicKey : String} {s : Application}

/-- The continuation gets as far as creating the row. -/
structure CreatesRow (env : Env) (hdl : ConnectionHdl) (kind loginPublicKey : String)
    (s : Application) : Prop where
  alive : env.expired 0 = false
  anonymous : s.manager.getUserId hdl = ""
  registers : ∃ record, env.hashed = some record ∧
    Registers (env.fails .registerDevice) env.deviceNumber kind env.password record loginPublicKey
      s.store

/-- The application with the row of the new device. -/
def withRow (env : Env) (kind loginPublicKey : String) (record : DevicePasswordRecord)
    (s : Application) : Application :=
  { s with store := { s.store with
      devices := s.store.devices.insert (newDeviceId kind env.deviceNumber)
        { password := record, loginPublicKey, retentionStartedAt := env.storeTime } } }

/-- What a registration asks for is no alias. -/
theorem not_alias_of_kind (hkind : kind = "" ∨ isTemporaryControllerRegistration kind = true) :
    isAlias kind = false := by
  rcases hkind with rfl | htemporary
  · decide
  · unfold isTemporaryControllerRegistration at htemporary
    rcases (Bool.or_eq_true _ _).mp htemporary with hweb | hcli
    · rw [beq_iff_eq.mp hweb]
      decide
    · rw [beq_iff_eq.mp hcli]
      decide

/-- Nothing follows a login that failed. -/
theorem finishLogin_failed {finish : FinishLogin} {credential : DeviceCredential}
    {registration : Bool} {reconnectExpires : Option Int} {s' : Application} {es : List Event}
    (h : completeLogin cfg env hdl finish.request finish.hostId credential registration
      reconnectExpires finish.verifiedLoginKey s = ⟨false, s', es⟩) :
    (finishLogin cfg env hdl finish credential registration reconnectExpires s).state = s' := by
  unfold finishLogin
  rw [bind_state, h]
  rfl

/-- A login that has no device to log in to changes nothing. -/
theorem finishLogin_nobody {finish : FinishLogin} (hdevice : isAlias finish.hostId = false) :
    (finishLogin cfg env hdl finish {} true none s).state = s := by
  by_cases hready : env.expired 3 = false ∧ s.manager.getUserId hdl = ""
  · have hnobody : completeLogin cfg env hdl finish.request finish.hostId {} true none
        finish.verifiedLoginKey s = ⟨false, s, [.sent (some hdl) loginFailure]⟩ := by
      unfold completeLogin
      rw [look_bind, if_neg (by simp [hready]), if_neg (by simp [hdevice])]
      rfl
    exact finishLogin_failed hnobody
  · have hgone : completeLogin cfg env hdl finish.request finish.hostId {} true none
        finish.verifiedLoginKey s = ⟨false, s, []⟩ := by
      unfold completeLogin
      rw [look_bind, if_pos (by simpa [Classical.or_iff_not_imp_left] using hready)]
      rfl
    exact finishLogin_failed hgone

/-- A login whose connection is gone changes nothing. -/
theorem finishLogin_gone {finish : FinishLogin} {credential : DeviceCredential}
    {registration : Bool} {reconnectExpires : Option Int} (hgone : env.expired 3 = true) :
    (finishLogin cfg env hdl finish credential registration reconnectExpires s).state = s := by
  have hcompleted : completeLogin cfg env hdl finish.request finish.hostId credential registration
      reconnectExpires finish.verifiedLoginKey s = ⟨false, s, []⟩ := by
    unfold completeLogin
    rw [look_bind, if_pos (by rw [hgone, Bool.true_or])]
    rfl
  exact finishLogin_failed hcompleted

/-- A login whose connection is there binds it, when the key is the one that was verified. -/
theorem finishLogin_binds {finish : FinishLogin} {credential : DeviceCredential}
    {registration : Bool} {reconnectExpires : Option Int} (halive : env.expired 3 = false)
    (hdevice : isAlias finish.hostId = false) (hid : credential.deviceId ≠ "")
    (hfree : s.manager.wsHdlUserIdList[hdl]? = none)
    (hkey : s.store.readLoginPublicKey (env.fails (.readLoginPublicKey 1)) credential.deviceId =
      some finish.verifiedLoginKey) :
    (finishLogin cfg env hdl finish credential registration reconnectExpires
      s).state.manager.getUserId hdl = credential.deviceId := by
  have hanonymous : s.manager.getUserId hdl = "" := by
    unfold Routing.getUserId
    rw [hfree]
    rfl
  rw [(finishLogin_quiet _ _ _ _ _ _).getUserId]
  unfold completeLogin
  rw [look_bind, if_neg (by simp [halive, hanonymous]), if_neg (by simp [hdevice])]
  rw [(completeDeviceLogin_passed hid hkey).getUserId]
  unfold bindUserToWsHandle TransmissionManager.bindUserToWsHandle
  rw [call_onMaps]
  show Routing.getUserId hdl _ = _
  unfold Routing.getUserId
  rw [(Routing.bindUserToWsHandle_free hid hfree).2]
  simp

/-- A continuation that creates no row changes nothing. -/
theorem registered_nothing (cfg : Config) (failure request : Json)
    (hkind : kind = "" ∨ isTemporaryControllerRegistration kind = true)
    (h : ¬ CreatesRow env hdl kind loginPublicKey s) :
    (registered cfg env hdl failure kind loginPublicKey
      { request, hostId := kind, verifiedLoginKey := loginPublicKey } s).state = s := by
  unfold registered
  rw [look_bind]
  split
  · rfl
  · rename_i halive
    simp only [Bool.or_eq_true, decide_eq_true_eq, not_or, Bool.not_eq_true, ne_eq, not_not] at halive
    by_cases hpassword : env.password = ""
    · rw [if_pos hpassword]
      rfl
    · rw [if_neg hpassword]
      cases hhashed : env.hashed with
      | none => rfl
      | some record =>
        have hrefused : s.store.registerDevice (env.fails .registerDevice) env.storeTime
            env.deviceNumber kind env.password record loginPublicKey = ({}, s.store) :=
          registerDevice_refused fun hregisters =>
            h ⟨halive.1, halive.2, record, hhashed, hregisters⟩
        dsimp only
        rw [hrefused]
        exact finishLogin_nobody (not_alias_of_kind hkind)

/-- One that creates the row goes on to log in to it. -/
theorem registered_creates (cfg : Config) (failure request : Json)
    (h : CreatesRow env hdl kind loginPublicKey s) :
    ∃ record, (registered cfg env hdl failure kind loginPublicKey
      { request, hostId := kind, verifiedLoginKey := loginPublicKey } s).state =
      (finishLogin cfg env hdl { request, hostId := kind, verifiedLoginKey := loginPublicKey }
        (newCredential kind env.deviceNumber env.password) true none
        (withRow env kind loginPublicKey record s)).state := by
  obtain ⟨record, hhashed, hregisters⟩ := h.registers
  refine ⟨record, ?_⟩
  have hfound : s.store.registerDevice (env.fails .registerDevice) env.storeTime env.deviceNumber
      kind env.password record loginPublicKey = _ := registerDevice_registers hregisters
  unfold registered
  rw [look_bind, if_neg (by simp [h.alive, h.anonymous])]
  rw [if_neg hregisters.nonempty, hhashed]
  dsimp only
  rw [hfound]
  rfl

/-- What a registration created is gone, unless the connection is bound to it. -/
def Undone (hdl : ConnectionHdl) (id : String) (before after : Application) : Prop :=
  after.manager.getUserId hdl ≠ id →
    ∀ d : String, before.store.devices[d]? = none → after.store.devices[d]? = none

end Application

section Undone

open Application DeviceDbManager

variable {cfg : Config} {env : Env} {db : DeviceDbManager} {assumed : World → Job → Env → Prop}

/-- **A registration that ends in no login is undone exactly when the connection is not lost between
the two checks**: the store's calls succeed, and the request is any that registers. -/
theorem registration_undone_iff {w : World} (hreach : (server cfg db assumed).Reachable w)
    (hdl : ConnectionHdl) (failure request : Json) {kind : String} (loginPublicKey : String)
    (hkind : kind = "" ∨ isTemporaryControllerRegistration kind = true)
    (hstore : ∀ call, env.fails call = false) :
    Undone hdl (newDeviceId kind env.deviceNumber) w.app
        (registered cfg env hdl failure kind loginPublicKey
          { request, hostId := kind, verifiedLoginKey := loginPublicKey } w.app).state ↔
      (CreatesRow env hdl kind loginPublicKey w.app → env.expired 3 = false) := by
  have hdevice := not_alias_of_kind hkind
  by_cases hcreates : CreatesRow env hdl kind loginPublicKey w.app
  · obtain ⟨record, hstate⟩ := registered_creates cfg failure request hcreates
    obtain ⟨_, _, hregisters⟩ := hcreates.registers
    have hid := hregisters.ne_empty
    rw [hstate]
    unfold Undone
    have hfree : (withRow env kind loginPublicKey record w.app).manager.wsHdlUserIdList[hdl]? =
      none := (server_coherent hreach).unbound hcreates.anonymous
    have hkey : (withRow env kind loginPublicKey record w.app).store.readLoginPublicKey
        (env.fails (.readLoginPublicKey 1)) (newDeviceId kind env.deviceNumber) =
          some loginPublicKey := by
      rw [hstore]
      unfold DeviceDbManager.readLoginPublicKey withRow
      simp
    cases hgone : env.expired 3 with
    | false =>
      -- the connection is bound
      refine ⟨fun _ _ => rfl, fun _ hnot => absurd ?_ hnot⟩
      exact finishLogin_binds hgone hdevice hid hfree hkey
    | true =>
      -- the row stays
      rw [finishLogin_gone hgone]
      refine ⟨fun hundone => ?_, fun hcondition => by cases hcondition hcreates⟩
      have hgoneRow := hundone (fun hbound => hid (hbound.symm.trans hcreates.anonymous))
        (newDeviceId kind env.deviceNumber) hregisters.free
      unfold withRow at hgoneRow
      simp at hgoneRow
  · have hsame := registered_nothing cfg failure request hkind hcreates
    unfold Undone
    rw [hsame]
    exact ⟨fun _ h => absurd h hcreates, fun _ _ d hd => hd⟩

/-- What a registration finds when its password is hashed. -/
def registrationEnv (expired : Nat → Bool) : Env where
  expired := expired
  deviceNumber := "123456789"
  password := "abcdef"
  hashed := some (migratedRecord 'a')

/-- The server on an empty database. -/
def emptyServer : World := World.after plainConfig {} .restart {}

theorem emptyServer_reachable :
    (server plainConfig {} (fun _ _ _ => True)).Reachable emptyServer := ⟨[], .start ⟨{}, rfl⟩⟩

/-- A connection that is gone when its password is hashed is not bound, and leaves no row. -/
theorem registration_undone_gone :
    (registered plainConfig (registrationEnv fun _ => true) 1 loginFailure "" ""
      { request := .obj [], hostId := "" } emptyServer.app).state.manager.getUserId 1 ≠ "123456789" ∧
    Undone 1 "123456789" emptyServer.app
      (registered plainConfig (registrationEnv fun _ => true) 1 loginFailure "" ""
        { request := .obj [], hostId := "" } emptyServer.app).state := by
  refine ⟨by decide +kernel, ?_⟩
  refine (registration_undone_iff emptyServer_reachable 1 loginFailure (.obj []) "" (.inl rfl)
    fun _ => rfl).mpr fun hcreates => ?_
  cases hcreates.alive

/-- A native client asks for a new device, and is gone after its row was created. -/
theorem registration_left_behind : ∃ w w' : World,
    (server plainConfig {} (fun _ _ _ => True)).Reachable w ∧
    (server plainConfig {} (fun _ _ _ => True)).step w
      (.complete 0, registrationEnv fun n => n == 3) w' ∧
    w'.app.manager.getUserId 1 = "" ∧ w.app.store.devices["123456789"]? = none ∧
    w'.app.store.devices["123456789"]? ≠ none := by
  let asking : Job := .message .login 1 (.obj [("type", .str "login"), ("user_id", .str "")])
  have hasked : (server plainConfig {} (fun _ _ _ => True)).step emptyServer (asking, {})
      (emptyServer.after plainConfig asking {}) := ⟨Finset.notMem_empty 1, trivial, rfl⟩
  refine ⟨_, _, emptyServer_reachable.step hasked,
    ⟨fun work _ => Finset.notMem_empty work.hdl, trivial, rfl⟩, ?_, ?_, ?_⟩
  · decide +kernel
  · decide +kernel
  · decide +kernel

end Undone

end CrossDesk
