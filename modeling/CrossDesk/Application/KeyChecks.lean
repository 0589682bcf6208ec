import CrossDesk.Application.Registration

/-!
# Logins without a key

A device that has bound a key only logs in with that key, and so does its alias. The key is read twice,
before a password is hashed and where the connection is bound, and a read that fails gives what a
missing device gives. For a device nothing is bound unless the second read returned the empty key. For
an alias a missing device is no obstacle, so neither is a read that fails: when both do, the connection
is bound (`keyless_login_refused_iff`).
-/

namespace CrossDesk

open Logged

namespace Application

variable {cfg : Config} {env : Env} {hdl : ConnectionHdl} {s : Application}

/-- The device whose key is asked for. -/
def deviceOf (id : String) : String := if isAlias id then aliasBase id else id

/-- The device has bound a login key. -/
def HasLoginKey (d : String) (db : DeviceDbManager) : Prop :=
  ∃ record key, DeviceDbManager.credential d db = some (record, key) ∧ key ≠ ""

/-- The program gives the connection an identity that it did not have. -/
def Binds {α : Type} (hdl : ConnectionHdl) (id : String) (m : Program α) (s : Application) : Prop :=
  s.manager.getUserId hdl ≠ id ∧ (m s).state.manager.getUserId hdl = id

/-- The request answers a challenge with a signature that proves a key. -/
def proves (cfg : Config) (env : Env) (hdl : ConnectionHdl) (request : Json) (s : Application) :
    Bool :=
  request.contains "device_key" && (readKeyRequest request).any (fun r =>
    r.proof.contains "signature" && (s.loginChallenges[hdl]?).any (answers cfg env r))

theorem readLoginPublicKey_eq (fails : Bool) (d : String) (db : DeviceDbManager) :
    db.readLoginPublicKey fails d =
      if fails then none else (DeviceDbManager.credential d db).map Prod.snd := by
  unfold DeviceDbManager.readLoginPublicKey DeviceDbManager.credential
  rw [Option.map_map]
  rfl

/-- A read that succeeds finds the key. -/
theorem HasLoginKey.read {d : String} {db : DeviceDbManager} (h : HasLoginKey d db) (fails : Bool) :
    (db.readLoginPublicKey fails d).any (· ≠ "") = !fails := by
  obtain ⟨record, key, hkey, hne⟩ := h
  rw [readLoginPublicKey_eq, hkey]
  cases fails with
  | true => rfl
  | false => simp [hne]

/-- No read finds the empty key. -/
theorem HasLoginKey.read_ne {d : String} {db : DeviceDbManager} (h : HasLoginKey d db)
    (fails : Bool) : db.readLoginPublicKey fails d ≠ some "" := by
  obtain ⟨record, key, hkey, hne⟩ := h
  rw [readLoginPublicKey_eq, hkey]
  cases fails with
  | true => exact nofun
  | false => simp [hne]

/-- A program that keeps the identities binds nothing. -/
theorem KeepsUsers.not_binds {α : Type} {m : Program α} {id : String}
    (h : KeepsUsers s (m s).state) : ¬ Binds hdl id m s := by
  rintro ⟨hbefore, hafter⟩
  rw [h.getUserId] at hafter
  exact hbefore hafter

/-! ## The second check -/

section Finish

variable {finish : FinishLogin} {credential : DeviceCredential} {registration : Bool}
  {reconnectExpires : Option Int}

theorem completeLogin_device (hdevice : isAlias finish.hostId = false) :
    (completeLogin cfg env hdl finish.request finish.hostId credential registration reconnectExpires
      finish.verifiedLoginKey s).state = s ∨
    (completeLogin cfg env hdl finish.request finish.hostId credential registration reconnectExpires
      finish.verifiedLoginKey s).state =
      (completeDeviceLogin cfg env hdl finish.request finish.hostId credential registration
        reconnectExpires finish.verifiedLoginKey s).state := by
  unfold completeLogin
  rw [look_bind]
  split
  · exact .inl rfl
  · rw [if_neg (by simp [hdevice])]
    exact .inr rfl

/-- A device with a key is not bound without it. -/
theorem finishLogin_keeps (hdevice : isAlias finish.hostId = false)
    (hverified : finish.verifiedLoginKey = "") (hkey : HasLoginKey credential.deviceId s.store) :
    KeepsUsers s
      (finishLogin cfg env hdl finish credential registration reconnectExpires s).state := by
  refine KeepsUsers.trans ?_ (finishLogin_quiet _ _ _ _ _ s)
  rcases completeLogin_device hdevice with hsame | hdevice
  · rw [hsame]
    exact .refl s
  · rw [hdevice, completeDeviceLogin_refused]
    · exact .refl s
    · rw [hverified]
      exact hkey.read_ne _

/-- The connection is who it was or the device that logged in. -/
theorem finishLogin_getUserId (cfg : Config) (env : Env) (hdl : ConnectionHdl)
    (finish : FinishLogin) (credential : DeviceCredential) (registration : Bool)
    (reconnectExpires : Option Int) (s : Application) (hdevice : isAlias finish.hostId = false) :
    ((finishLogin cfg env hdl finish credential registration reconnectExpires
      s).state.manager.getUserId hdl = s.manager.getUserId hdl ∨
    (finishLogin cfg env hdl finish credential registration reconnectExpires
      s).state.manager.getUserId hdl = credential.deviceId) ∧
    (finishLogin cfg env hdl finish credential registration reconnectExpires s).state.pending =
      s.pending := by
  have hquiet : KeepsUsers _ (finishLogin cfg env hdl finish credential registration reconnectExpires
    s).state := finishLogin_quiet _ _ _ _ _ s
  rw [hquiet.getUserId, hquiet.2]
  rcases completeLogin_device hdevice with hsame | hdevice
  · rw [hsame]
    exact ⟨.inl rfl, rfl⟩
  · rw [hdevice]
    exact completeDeviceLogin_getUserId

end Finish

/-! ## Continuations -/

/-- The computation of a login without a key. -/
inductive Keyless (id : String) : CredentialWork → Prop where
  | authenticate (password : String) (record : Option DevicePasswordRecord) (identity : String)
      (request : Json) : isAlias id = false →
      Keyless id (.authenticate id password record identity ""
        (.login { request, hostId := id }))
  | register (request : Json) : id = "" ∨ isTemporaryControllerRegistration id = true →
      Keyless id (.register id "" { request, hostId := id })

/-- The key of a device stays when its password record is replaced. -/
theorem HasLoginKey.committed {fails : Bool} {d deviceId : String}
    {record replacement : DevicePasswordRecord} {db db' : DeviceDbManager} (h : HasLoginKey d db)
    (hcommit : db.commitPassword fails deviceId record replacement = (true, db')) :
    HasLoginKey d db' := by
  obtain ⟨stored, key, hkey, hne⟩ := h
  obtain ⟨key', hbefore, hafter⟩ := DeviceDbManager.commitPassword_true hcommit
  by_cases hd : d = deviceId
  · subst hd
    rw [hbefore] at hkey
    cases hkey
    exact ⟨replacement, key, by rw [hafter, if_pos rfl], hne⟩
  · exact ⟨stored, key, by rw [hafter, if_neg hd, hkey], hne⟩

theorem authenticated_keeps {failure : Json} {id password identity : String}
    {record : Option DevicePasswordRecord} {request : Json} (hdevice : isAlias id = false)
    (hkey : HasLoginKey id s.store) :
    KeepsUsers s (authenticated cfg env hdl failure id password record identity ""
      (.login { request, hostId := id }) s).state := by
  unfold authenticated
  rw [look_bind]
  dsimp only
  split
  · exact .refl s
  · cases record with
    | none => exact .refl s
    | some record =>
      cases hverdict : (verdict cfg env (some record) password).verified with
      | none => exact .refl s
      | some replacement =>
        dsimp only
        rcases hcommit : s.store.commitPassword (env.fails .commitPassword) id record replacement
          with ⟨ok, committed⟩
        cases ok with
        | false => exact .refl s
        | true =>
          -- the record is replaced, the key is not
          have hstill := hkey.committed hcommit
          have hstored : KeepsUsers s { s with store := committed } := ⟨rfl, rfl⟩
          exact hstored.trans (finishLogin_keeps hdevice rfl hstill)

/-- A new device is not called what was asked for. -/
theorem newDeviceId_ne {fails : Bool} {generated kind password loginPublicKey : String}
    {record : DevicePasswordRecord} {db : DeviceDbManager}
    (h : DeviceDbManager.Registers fails generated kind password record loginPublicKey db) :
    DeviceDbManager.newDeviceId kind generated ≠ kind := by
  have hname := h.ne_empty
  unfold DeviceDbManager.newDeviceId at hname ⊢
  split
  · intro hsame
    have hlength := congrArg (fun text => text.toList.length) hsame
    simp at hlength
  · rename_i hnative
    rcases h.asked with rfl | htemporary
    · rw [if_neg hnative] at hname
      exact hname
    · exact absurd htemporary hnative

/-- A registration binds its connection to the new device or not at all. -/
theorem registered_not_binds (failure : Json) {id : String} (request : Json)
    (hkind : id = "" ∨ isTemporaryControllerRegistration id = true) :
    ¬ Binds hdl id (registered cfg env hdl failure id "" { request, hostId := id }) s := by
  rintro ⟨hbefore, hafter⟩
  by_cases hcreates : CreatesRow env hdl id "" s
  · obtain ⟨record, hstate⟩ := registered_creates cfg failure request hcreates
    obtain ⟨_, _, hregisters⟩ := hcreates.registers
    rw [hstate] at hafter
    rcases (finishLogin_getUserId cfg env hdl { request, hostId := id }
      (DeviceDbManager.newCredential id env.deviceNumber env.password) true none
      (withRow env id "" record s) (not_alias_of_kind hkind)).1 with hsame | hbound
    · exact hbefore (hsame.symm.trans hafter)
    · exact newDeviceId_ne hregisters (hbound.symm.trans hafter)
  · rw [registered_nothing cfg failure request hkind hcreates] at hafter
    exact hbefore hafter

/-- **The computation of a login without a key does not bind a device that has one**, however long it
takes. -/
theorem Keyless.not_binds {id : String} {work : Dispatched} (hwork : Keyless id work.work)
    (hkey : HasLoginKey (deviceOf id) s.store) :
    ¬ Binds work.hdl id (finishWork cfg env work) s := by
  obtain ⟨hdl, failure, work⟩ := work
  cases hwork with
  | authenticate password record identity request hdevice =>
    unfold deviceOf at hkey
    rw [if_neg (by simp [hdevice])] at hkey
    exact (authenticated_keeps hdevice hkey).not_binds
  | register request hkind => exact registered_not_binds failure request hkind

/-! ## Aliases -/

section Alias

variable {request : Json} {hostId verifiedLoginKey : String}

/-- The key that an alias is held against. -/
abbrev aliasRefused (key : Option String) (verifiedLoginKey : String) : Prop :=
  (verifiedLoginKey ≠ "" ∧ key ≠ some verifiedLoginKey) ∨
    (verifiedLoginKey = "" ∧ key.any (· ≠ "") = true)

theorem completeAliasLogin_refused
    (h : aliasRefused (s.store.readLoginPublicKey (env.fails (.readLoginPublicKey 1))
      (aliasBase hostId)) verifiedLoginKey) :
    (completeAliasLogin cfg env hdl request hostId verifiedLoginKey s).state = s := by
  unfold completeAliasLogin
  rw [look_bind]
  dsimp only
  rw [if_pos h]
  rfl

theorem completeAliasLogin_passed
    (h : ¬ aliasRefused (s.store.readLoginPublicKey (env.fails (.readLoginPublicKey 1))
      (aliasBase hostId)) verifiedLoginKey) :
    KeepsUsers (bindUserToWsHandle env false hostId hdl
        (if verifiedLoginKey = "" then "" else aliasBase hostId) s).state
      (completeAliasLogin cfg env hdl request hostId verifiedLoginKey s).state := by
  unfold completeAliasLogin
  rw [look_bind]
  dsimp only
  rw [if_neg h, bind_state]
  generalize bindUserToWsHandle env false hostId hdl _ s = bound
  obtain ⟨ok, s', es⟩ := bound
  dsimp only
  split
  · exact Quiet.bind (quiet_send _ _) (fun _ => quiet_pure false) s'
  · refine Quiet.bind (quiet_bindHostToTransmission _ _) (fun _ => ?_) s'
    exact Quiet.bind (quiet_send _ _) fun _ => quiet_pure true

end Alias

/-! ## The message -/

theorem quiet_challenge (r : KeyRequest) : Quiet (challenge env hdl r) := by
  unfold challenge
  dsimp only
  split
  · exact quiet_send _ _
  · split
    · exact quiet_send _ _
    · refine Quiet.bind (quiet_modify fun s => ?_) fun _ => quiet_look fun s => ?_
      · unfold cleanLoginChallenges
        split <;> exact ⟨rfl, rfl⟩
      · split
        · exact quiet_send _ _
        · split
          · exact quiet_send _ _
          · refine Quiet.bind (quiet_modify fun _ => ⟨rfl, rfl⟩) fun _ => ?_
            exact Quiet.bind (fun s => .refl s) fun _ => quiet_send _ _

/-- A request with a key that it does not prove binds nothing. -/
theorem loginWithKey_keeps {request : Json} (hrequest : request.contains "device_key" = true)
    (hproof : proves cfg env hdl request s = false) :
    KeepsUsers s (loginWithKey cfg env hdl request s).state := by
  unfold proves at hproof
  rw [hrequest, Bool.true_and] at hproof
  unfold loginWithKey
  cases hread : readKeyRequest request with
  | none => exact .refl s
  | some r =>
    rw [hread, Option.any_some] at hproof
    dsimp only
    cases hsignature : r.proof.contains "signature" with
    | false =>
      rw [if_pos (by rfl)]
      exact quiet_challenge r s
    | true =>
      rw [if_neg (by simp), look_bind]
      rw [hsignature, Bool.true_and] at hproof
      cases hchallenge : s.loginChallenges[hdl]? with
      | none => exact .refl s
      | some challenge =>
        rw [hchallenge, Option.any_some] at hproof
        dsimp only
        rw [bind_state, bind_state, if_neg (by simp [hproof])]
        exact ⟨rfl, rfl⟩

/-- What a login request without a proven key comes to at once. -/
inductive KeylessLogin (cfg : Config) (env : Env) (hdl : ConnectionHdl) (request : Json) (id : String)
    (s s' : Application) : Prop where
  | ended : KeepsUsers s s' → KeylessLogin cfg env hdl request id s s'
  | dispatched (work : Dispatched) : work.hdl = hdl → Keyless id work.work →
      s' = { s with pending := s.pending ++ [work] } → KeylessLogin cfg env hdl request id s s'
  | reconnected (expires : Option Int) : isAlias id = false →
      s' = (finishLogin cfg env hdl { request, hostId := id } { deviceId := id } false expires
        s).state → KeylessLogin cfg env hdl request id s s'

theorem runCredentialWork_keyless {request failure : Json} {id : String} {work : CredentialWork}
    (hwork : Keyless id work) :
    KeylessLogin cfg env hdl request id s (runCredentialWork env hdl failure work s).state := by
  unfold runCredentialWork
  split
  · exact .dispatched ⟨hdl, failure, work⟩ rfl hwork rfl
  · exact .ended (.refl s)

/-- The request is the login of an alias, by a connection that may ask for one. -/
structure AliasAsked (env : Env) (hdl : ConnectionHdl) (request : Json) (text : String)
    (s : Application) : Prop where
  aliased : isAlias (splitAtSign text).1 = true
  connected : env.expired 0 = false
  anonymous : s.manager.getUserId hdl = ""
  keyless : request.contains "device_key" = false
  valid : validDeviceCredentials (splitAtSign text).1 ((splitAtSign text).2.getD "") = true
  tokenless : request.contains "reconnect_token" = false

/-- The alias gets past the checks of the message: the first read finds no key. -/
structure AliasRequested (env : Env) (hdl : ConnectionHdl) (request : Json) (text : String)
    (s : Application) : Prop extends AliasAsked env hdl request text s where
  passed : (s.store.readLoginPublicKey (env.fails (.readLoginPublicKey 0))
    (aliasBase (splitAtSign text).1)).any (· ≠ "") = false

theorem loginUser_alias {request : Json} {text : String}
    (htext : request.getStringField "user_id" = some text)
    (h : AliasRequested env hdl request text s) :
    (loginUser cfg env hdl request s).state =
      (finishLogin cfg env hdl { request, hostId := (splitAtSign text).1 }
        { deviceId := (splitAtSign text).1 } false none s).state := by
  unfold loginUser
  rw [look_bind, if_neg (by simp [h.connected]), if_neg (by simp [h.anonymous]),
    if_neg (by simp [h.keyless]), htext]
  dsimp only
  unfold loginWithoutKey
  dsimp only
  rw [if_neg (by simp [h.valid]), look_bind, if_pos h.aliased, if_neg (by rw [h.passed]; decide),
    if_neg (by simp [h.tokenless]), if_pos h.aliased]

theorem authenticateDevice_keyless {request failure : Json} {id password : String}
    (hdevice : isAlias id = false) :
    KeylessLogin cfg env hdl request id s
      (authenticateDevice env hdl id password failure (.login { request, hostId := id }) ""
        s).state := by
  unfold authenticateDevice
  dsimp only
  split
  · exact .ended (.refl s)
  · split
    · exact .ended (.refl s)
    · exact runCredentialWork_keyless (.authenticate password _ _ request hdevice)

/-- Only a device that stays is logged in by a token. -/
theorem verifyReconnectCredential_persistent {sha : Sha256} {fails : Bool} {now : Int}
    {id token : String} {db : DeviceDbManager}
    (h : (db.verifyReconnectCredential sha fails now id token).isSome = true) :
    persistentDevice id = true := by
  unfold DeviceDbManager.verifyReconnectCredential at h
  split at h
  · cases h
  · rename_i hpersistent
    simp only [Bool.or_eq_true, Bool.not_eq_true', not_or, Bool.not_eq_false] at hpersistent
    exact hpersistent.1.1

theorem verifyReconnectCredential_device {sha : Sha256} {fails : Bool} {now : Int} {id token : String}
    {db : DeviceDbManager} (h : (db.verifyReconnectCredential sha fails now id token).isSome = true) :
    isAlias id = false := by
  have hdevice := verifyReconnectCredential_persistent h
  unfold persistentDevice at hdevice
  simp only [Bool.and_eq_true, Bool.not_eq_true'] at hdevice
  exact hdevice.2

theorem loginWithoutKey_keyless {request : Json} {text : String}
    (h : validDeviceCredentials (splitAtSign text).1 ((splitAtSign text).2.getD "") = true →
      request.contains "reconnect_token" = false → isAlias (splitAtSign text).1 = true →
      (s.store.readLoginPublicKey (env.fails (.readLoginPublicKey 0))
        (aliasBase (splitAtSign text).1)).any (· ≠ "") = false → False) :
    KeylessLogin cfg env hdl request (splitAtSign text).1 s
      (loginWithoutKey cfg env hdl request text s).state := by
  unfold loginWithoutKey
  dsimp only
  generalize (splitAtSign text).1 = id at h ⊢
  generalize (splitAtSign text).2 = password at h ⊢
  -- A reconnect token is found only for an id that is no alias.
  have hreconnect : ∀ expires : Option Int, (expires.isSome = true → isAlias id = false) →
      KeylessLogin cfg env hdl request id s ((if expires.isSome = true then
        finishLogin cfg env hdl { request, hostId := id } { deviceId := id } false expires
      else send (some hdl) (loginFailure.set "reconnect_rejected" (.bool true))) s).state := by
    intro expires hexpires
    split
    · rename_i hfound
      exact .reconnected expires (hexpires hfound) rfl
    · exact .ended (.refl s)
  split
  · exact .ended (.refl s)
  · rename_i hvalid
    rw [look_bind]
    generalize hkey : s.store.readLoginPublicKey (env.fails (.readLoginPublicKey 0))
      (if isAlias id = true then aliasBase id else id) = loginKey
    split
    · exact .ended (.refl s)
    · rename_i hpassed
      split
      · refine hreconnect _ fun hfound => ?_
        split at hfound
        · obtain ⟨_, hfound⟩ := Option.isSome_iff_exists.mp hfound
          obtain ⟨token, _, hverified⟩ := Option.bind_eq_some_iff.mp hfound
          exact verifyReconnectCredential_device (Option.isSome_iff_exists.mpr ⟨_, hverified⟩)
        · cases hfound
      · rename_i htokenless
        split
        · rename_i haliased
          rw [if_pos haliased] at hkey
          subst hkey
          -- The alias without a token whose key read passes: the case that the hypothesis rules out.
          exact (h (by simpa using hvalid) (by simpa using htokenless) haliased
            (by simpa using hpassed)).elim
        · rename_i hdevice
          rw [Bool.not_eq_true] at hdevice
          split
          · rename_i hkind
            exact runCredentialWork_keyless (.register request hkind)
          · exact authenticateDevice_keyless hdevice

/-- Any other request ends, asks for a computation, or uses the token of a device. -/
theorem loginUser_keyless {request : Json} {text : String}
    (htext : request.getStringField "user_id" = some text)
    (hproof : proves cfg env hdl request s = false) (h : ¬ AliasRequested env hdl request text s) :
    KeylessLogin cfg env hdl request (splitAtSign text).1 s
      (loginUser cfg env hdl request s).state := by
  unfold loginUser
  rw [look_bind]
  split
  · exact .ended (.refl s)
  · rename_i hconnected
    split
    · exact .ended (.refl s)
    · rename_i hanonymous
      split
      · rename_i hkeyed
        exact .ended (loginWithKey_keeps hkeyed hproof)
      · rename_i hkeyless
        rw [htext]
        exact loginWithoutKey_keyless fun hvalid htokenless haliased hpassed =>
          h ⟨⟨haliased, by simpa using hconnected, by simpa using hanonymous, by simpa using hkeyless,
            hvalid, htokenless⟩, hpassed⟩

/-- Both reads of the key fail, and nothing else stands in the way of the alias. -/
structure FailsOpen (env : Env) (hdl : ConnectionHdl) (request : Json) (text : String)
    (s : Application) : Prop extends AliasAsked env hdl request text s where
  first : env.fails (.readLoginPublicKey 0) = true
  second : env.fails (.readLoginPublicKey 1) = true
  alive : env.expired 3 = false

section Alias

variable {id : String}

/-- An alias whose key is found at the second read, or whose connection is gone, is not bound. -/
theorem finishLogin_alias_keeps (cfg : Config) (hdl : ConnectionHdl) (request : Json)
    (haliased : isAlias id = true)
    (hkey : HasLoginKey (aliasBase id) s.store)
    (h : ¬ (env.fails (.readLoginPublicKey 1) = true ∧ env.expired 3 = false)) :
    KeepsUsers s (finishLogin cfg env hdl { request, hostId := id } { deviceId := id } false none
      s).state := by
  refine KeepsUsers.trans ?_ (finishLogin_quiet _ _ _ _ _ s)
  unfold completeLogin
  rw [look_bind]
  split
  · exact .refl s
  · rename_i halive
    simp only [Bool.or_eq_true, decide_eq_true_eq, not_or, Bool.not_eq_true] at halive
    have hread : env.fails (.readLoginPublicKey 1) = false := by
      by_contra hfails
      exact h ⟨by simpa using hfails, halive.1⟩
    rw [completeAliasLogin_refused]
    · exact .refl s
    · refine .inr ⟨rfl, ?_⟩
      rw [hkey.read, hread]
      rfl

/-- The login of an alias asks for no computation. -/
theorem finishLogin_alias_pending (cfg : Config) (request : Json) (haliased : isAlias id = true) :
    (finishLogin cfg env hdl { request, hostId := id } { deviceId := id } false none
      s).state.pending = s.pending := by
  have hquiet : KeepsUsers _ (finishLogin cfg env hdl { request, hostId := id } { deviceId := id }
    false none s).state := finishLogin_quiet _ _ _ _ _ s
  rw [hquiet.2]
  unfold completeLogin
  rw [look_bind]
  split
  · rfl
  · by_cases hrefused : aliasRefused (s.store.readLoginPublicKey (env.fails (.readLoginPublicKey 1))
        (aliasBase id)) ""
    · rw [completeAliasLogin_refused hrefused]
    · have hbound : KeepsUsers _ (completeAliasLogin cfg env hdl request id "" s).state :=
        completeAliasLogin_passed hrefused
      exact hbound.2

/-- **When both reads fail, the alias is bound.** -/
theorem finishLogin_alias_binds (cfg : Config) (request : Json) (haliased : isAlias id = true)
    (halive : env.expired 3 = false) (hfails : env.fails (.readLoginPublicKey 1) = true)
    (hfree : s.manager.wsHdlUserIdList[hdl]? = none) :
    (finishLogin cfg env hdl { request, hostId := id } { deviceId := id } false none
      s).state.manager.getUserId hdl = id ∧
    (finishLogin cfg env hdl { request, hostId := id } { deviceId := id } false none
      s).state.pending = s.pending := by
  have hid : id ≠ "" := by
    rintro rfl
    exact absurd haliased (by decide)
  have hanonymous : s.manager.getUserId hdl = "" := by
    unfold Routing.getUserId
    rw [hfree]
    rfl
  have hpassed : ¬ aliasRefused (s.store.readLoginPublicKey (env.fails (.readLoginPublicKey 1))
      (aliasBase id)) "" := by
    unfold DeviceDbManager.readLoginPublicKey
    simp [aliasRefused, hfails]
  have hbound : KeepsUsers _ (completeAliasLogin cfg env hdl request id "" s).state :=
    completeAliasLogin_passed hpassed
  have hcompleted : (completeLogin cfg env hdl request id { deviceId := id } false none "" s).state =
      (completeAliasLogin cfg env hdl request id "" s).state := by
    unfold completeLogin
    rw [look_bind, if_neg (by simp [halive, hanonymous]), if_pos haliased]
  have hquiet : KeepsUsers _ (finishLogin cfg env hdl { request, hostId := id } { deviceId := id }
    false none s).state := finishLogin_quiet _ _ _ _ _ s
  rw [hquiet.getUserId, hquiet.2, hcompleted, hbound.getUserId, hbound.2]
  unfold bindUserToWsHandle TransmissionManager.bindUserToWsHandle
  rw [call_onMaps]
  refine ⟨?_, rfl⟩
  show Routing.getUserId hdl _ = _
  unfold Routing.getUserId
  rw [(Routing.bindUserToWsHandle_free hid hfree).2]
  simp

end Alias

end Application

section Refused

open Application

variable {cfg : Config} {env : Env} {db : DeviceDbManager} {assumed : World → Job → Env → Prop}

/-- A longer list of computations is another one. -/
theorem pending_ne_append {s s' : Application} (hsame : s'.pending = s.pending) (work : Dispatched) :
    s'.pending ≠ s.pending ++ [work] := by
  intro hlonger
  have hlength := congrArg List.length (hsame.symm.trans hlonger)
  simp at hlength

/-- The request itself binds the device with a key in one case only. -/
theorem loginUser_binds_iff {w : World} (hreach : (server cfg db assumed).Reachable w)
    {hdl : ConnectionHdl} {request : Json} {text : String}
    (htext : request.getStringField "user_id" = some text)
    (hproof : proves cfg env hdl request w.app = false)
    (hkey : HasLoginKey (deviceOf (splitAtSign text).1) w.app.store) :
    Binds hdl (splitAtSign text).1 (loginUser cfg env hdl request) w.app ↔
      FailsOpen env hdl request text w.app := by
  by_cases hasked : AliasRequested env hdl request text w.app
  · have haliased := hasked.aliased
    have hfree := (server_coherent hreach).unbound hasked.anonymous
    -- The device has a key, so the request passes the first check only if that read fails.
    have hfirst : env.fails (.readLoginPublicKey 0) = true := by
      have hpassed := hasked.passed
      unfold deviceOf at hkey
      rw [if_pos haliased] at hkey
      rw [hkey.read] at hpassed
      simpa using hpassed
    unfold Binds
    rw [loginUser_alias htext hasked]
    by_cases hopen : env.fails (.readLoginPublicKey 1) = true ∧ env.expired 3 = false
    · -- the alias is bound
      obtain ⟨hbound, _⟩ := finishLogin_alias_binds cfg request haliased hopen.2 hopen.1 hfree
      have hnew : w.app.manager.getUserId hdl ≠ (splitAtSign text).1 := by
        rw [hasked.anonymous]
        intro hempty
        rw [← hempty] at haliased
        exact absurd haliased (by decide)
      exact iff_of_true ⟨hnew, hbound⟩ ⟨hasked.toAliasAsked, hfirst, hopen.1, hopen.2⟩
    · have hkeeps := finishLogin_alias_keeps cfg hdl request haliased
        (by simpa [deviceOf, haliased] using hkey) hopen
      exact iff_of_false hkeeps.not_binds fun h => hopen ⟨h.second, h.alive⟩
  · refine iff_of_false ?_ fun h => hasked ⟨h.toAliasAsked, ?_⟩
    · have hlogin : KeylessLogin cfg env hdl request (splitAtSign text).1 w.app _ :=
        loginUser_keyless htext hproof hasked
      -- Whatever else the request does, it binds no device that has a key.
      cases hlogin with
      | ended hkeeps => exact hkeeps.not_binds
      | dispatched asked hhdl hkeyless hstate =>
        rintro ⟨hbefore, hafter⟩
        rw [hstate] at hafter
        exact hbefore hafter
      | reconnected expires hdevice hstate =>
        refine KeepsUsers.not_binds ?_
        rw [hstate]
        exact finishLogin_keeps hdevice rfl (by simpa [deviceOf, hdevice] using hkey)
    · unfold DeviceDbManager.readLoginPublicKey
      rw [h.first]
      rfl

/-- The computation that the request asks for does not bind a device that has a key when it is done. -/
theorem loginUser_continues {w : World} {hdl : ConnectionHdl} {request : Json} {text : String}
    (htext : request.getStringField "user_id" = some text)
    (hproof : proves cfg env hdl request w.app = false) {work : Dispatched}
    (hwork : (loginUser cfg env hdl request w.app).state.pending = w.app.pending ++ [work])
    (env' : Env) {s' : Application} (hkey : HasLoginKey (deviceOf (splitAtSign text).1) s'.store) :
    ¬ Binds work.hdl (splitAtSign text).1 (finishWork cfg env' work) s' := by
  by_cases hasked : AliasRequested env hdl request text w.app
  · -- an alias needs no password
    rw [loginUser_alias htext hasked] at hwork
    exact absurd hwork (pending_ne_append (finishLogin_alias_pending cfg request hasked.aliased) work)
  · have hlogin : KeylessLogin cfg env hdl request (splitAtSign text).1 w.app _ :=
      loginUser_keyless htext hproof hasked
    cases hlogin with
    | ended hkeeps => exact absurd hwork (pending_ne_append hkeeps.2 work)
    | dispatched asked hhdl hkeyless hstate =>
      rw [hstate] at hwork
      obtain rfl : asked = work := by simpa using hwork
      exact hkeyless.not_binds hkey
    | reconnected expires hdevice hstate =>
      have hkept := (finishLogin_getUserId cfg env hdl
        { request, hostId := (splitAtSign text).1 } { deviceId := (splitAtSign text).1 } false expires
        w.app hdevice).2
      rw [hstate] at hwork
      exact absurd hwork (pending_ne_append hkept work)

/-- **A login without a key fails closed exactly when it is not the login of an alias whose two reads
both fail.** The device has a key where the request binds its connection: at once, or when the
computation it asked for is done, in any state that the server is in by then. -/
theorem keyless_login_refused_iff {w : World} (hreach : (server cfg db assumed).Reachable w)
    {hdl : ConnectionHdl} {request : Json} {text : String}
    (htext : request.getStringField "user_id" = some text)
    (hproof : proves cfg env hdl request w.app = false) :
    ((HasLoginKey (deviceOf (splitAtSign text).1) w.app.store →
        ¬ Binds hdl (splitAtSign text).1 (loginUser cfg env hdl request) w.app) ∧
      ∀ work, (loginUser cfg env hdl request w.app).state.pending = w.app.pending ++ [work] →
        ∀ env' s', HasLoginKey (deviceOf (splitAtSign text).1) s'.store →
          ¬ Binds work.hdl (splitAtSign text).1 (finishWork cfg env' work) s') ↔
      (HasLoginKey (deviceOf (splitAtSign text).1) w.app.store →
        ¬ FailsOpen env hdl request text w.app) := by
  constructor
  · intro h hkey hopen
    exact h.1 hkey ((loginUser_binds_iff hreach htext hproof hkey).mpr hopen)
  · intro h
    refine ⟨fun hkey hbinds => ?_, fun work hwork env' s' => ?_⟩
    · exact h hkey ((loginUser_binds_iff hreach htext hproof hkey).mp hbinds)
    · exact loginUser_continues htext hproof hwork env'

/-- A database with a device that has bound a key. -/
def keyedDevice : DeviceDbManager :=
  { devices := (∅ : OrdMap String DeviceRow).insert "123456789"
      { password := legacyRecord
        loginPublicKey := String.ofList (List.replicate 64 'b') } }

/-- The server on it. -/
def keyedServer : World := World.after plainConfig { app := { store := keyedDevice } } .restart {}

theorem keyedServer_reachable :
    (server plainConfig keyedDevice (fun _ _ _ => True)).Reachable keyedServer :=
  ⟨[], .start ⟨{}, rfl⟩⟩

theorem keyedServer_key : HasLoginKey "123456789" keyedServer.app.store :=
  ⟨legacyRecord, String.ofList (List.replicate 64 'b'), by decide +kernel, by decide⟩

/-- An old client asks for the alias of the device. -/
def aliasLogin : Json := .obj [("type", .str "login"), ("user_id", .str "C-123456789")]

/-- While the store answers, the alias is refused. -/
theorem keyless_login_refused_alias :
    ¬ Binds 1 "C-123456789" (loginUser plainConfig {} 1 aliasLogin) keyedServer.app := by
  have hsplit : (splitAtSign "C-123456789").1 = "C-123456789" := by decide +kernel
  have hdevice : deviceOf "C-123456789" = "123456789" := by decide +kernel
  have hkey : HasLoginKey (deviceOf (splitAtSign "C-123456789").1) keyedServer.app.store := by
    rw [hsplit, hdevice]
    exact keyedServer_key
  have hclosed : HasLoginKey (deviceOf (splitAtSign "C-123456789").1) keyedServer.app.store →
      ¬ FailsOpen {} 1 aliasLogin "C-123456789" keyedServer.app :=
    fun _ h => Bool.false_ne_true h.first
  have hrefused := ((@keyless_login_refused_iff plainConfig {} keyedDevice (fun _ _ _ => True)
    keyedServer keyedServer_reachable 1 aliasLogin "C-123456789" (by decide +kernel)
    (by decide +kernel)).mpr hclosed).1 hkey
  rw [hsplit] at hrefused
  exact hrefused

/-- While the store does not answer, it is bound. -/
theorem alias_bound_without_key : ∃ (w : World) (env : Env) (hdl : ConnectionHdl) (request : Json),
    (server plainConfig keyedDevice (fun _ _ _ => True)).Reachable w ∧
    HasLoginKey "123456789" w.app.store ∧
    request.getStringField "user_id" = some "C-123456789" ∧
    proves plainConfig env hdl request w.app = false ∧
    Binds hdl "C-123456789" (loginUser plainConfig env hdl request) w.app := by
  refine ⟨keyedServer, { fails := fun call => call matches .readLoginPublicKey _ }, 1, aliasLogin,
    keyedServer_reachable, keyedServer_key, ?_, ?_, ?_, ?_⟩
  · decide +kernel
  · decide +kernel
  · decide +kernel
  · decide +kernel

end Refused

end CrossDesk
