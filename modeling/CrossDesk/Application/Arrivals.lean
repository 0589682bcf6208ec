import CrossDesk.Application.Attendance
import CrossDesk.Application.PresenceUpdates
import CrossDesk.Application.KeyChecks

/-!
# Connections that come

A login binds its connection first, does what belongs to a login, and marks the identity online last.
Between the binding and the mark the identity is the exempt one of the invariants; nothing that is done
there concerns it (`Calm`). A temporary controller only comes right after its row was created, under an
id that nobody has (`Newcomer`).
-/

namespace CrossDesk

open Logged DeviceDbManager

namespace Application

variable {cfg : Config} {env : Env} {but : Option String} {s s' s'' : Application}
  {hdl : ConnectionHdl} {id : String} {α : Type}

/-! ## Between the binding and the mark -/

/-- What is kept between the binding and the mark. -/
structure Calm (env : Env) (but : Option String) (s s' : Application) : Prop where
  bindings : s'.manager.wsHdlUserIdList = s.manager.wsHdlUserIdList
  present : ∀ marked : Prop, Present marked but s → Present marked but s'
  attended : (∀ call, env.fails call = false) → Attended but s → Attended but s'

theorem Calm.refl (env : Env) (but : Option String) (s : Application) : Calm env but s s :=
  ⟨rfl, fun _ => id, fun _ => id⟩

theorem Calm.trans (h : Calm env but s s') (h' : Calm env but s' s'') : Calm env but s s'' :=
  ⟨h'.bindings.trans h.bindings, fun marked hs => h'.present marked (h.present marked hs),
    fun hstore hs => h'.attended hstore (h.attended hstore hs)⟩

theorem composes_calm (env : Env) (but : Option String) :
    Composes (fun s (_ : List Event) s' => Calm env but s s') where
  refl := .refl env but
  trans := .trans

/-- Every run of the program is calm. -/
abbrev KeepsCalm (env : Env) (but : Option String) (m : Program α) : Prop :=
  Follows (fun s _ s' => Calm env but s s') m

/-- The routing and the devices are what they were. -/
theorem Calm.of_spares (hmanager : s'.manager = s.manager)
    (hsets : s.presence.SameSets s'.presence) (hspares : Spares s.store s'.store)
    (hdevices : s'.store.devices = s.store.devices) : Calm env but s s' := by
  refine ⟨by rw [hmanager], fun _ h => ?_, fun _ h => ?_⟩
  · exact h.of_same (hmanager ▸ h.coherent) (by rw [hmanager]) hspares.online hsets
  · refine h.of_spares hmanager hsets hspares fun u _ _ hdevice => ?_
    rwa [hdevices]

/-- A change of the tables that recover sessions. -/
theorem calm_recovery {f : Application → Application}
    (hf : ∀ s, (f s).manager = s.manager ∧ (f s).store = s.store ∧ (f s).presence = s.presence) :
    KeepsCalm env but (modify f) := by
  intro s
  obtain ⟨hmanager, hstore, hpresence⟩ := hf s
  refine .of_spares hmanager ?_ ?_ ?_
  · rw [show (modify f s).state.presence = s.presence from hpresence]
    exact ⟨rfl, rfl, rfl⟩
  · rw [show (modify f s).state.store = s.store from hstore]
    exact .refl _
  · rw [show (modify f s).state.store = s.store from hstore]

theorem calm_send (receiver : Option ConnectionHdl) (message : Json) :
    KeepsCalm env but (send receiver message) := fun s => .refl env but s

theorem calm_bindHost {hostId transmissionId : String} :
    KeepsCalm env but (bindHostToTransmission env hostId transmissionId) := by
  intro s
  unfold bindHostToTransmission TransmissionManager.bindHostToTransmission
  rw [call_onMaps]
  obtain ⟨hreported, hbindings⟩ :=
    Routing.bindHostToTransmission_reported hostId transmissionId s.manager.toRouting
  have hpresent : ∀ {marked : Prop}, Present marked but s → Present marked but { s with
      manager := { s.manager with toRouting := (s.manager.toRouting.bindHostToTransmission hostId transmissionId).2 } } :=
    fun h => h.of_same (h.coherent.bindHost hostId transmissionId) hbindings (fun _ => rfl)
      ⟨rfl, rfl, rfl⟩
  refine ⟨hbindings, fun _ => hpresent, fun hstore h => ?_⟩
  refine h.of_reported hstore hreported (fun _ _ hbound => hbindings ▸ hbound) ?_ rfl
    (hpresent h.toPresent)
  exact (h.idle.after_nil _).symm

/-- A session that is listed is confirmed. -/
theorem calm_confirmLegacy (ticket : Ticket) : KeepsCalm env but (confirmLegacy env ticket) := by
  intro s
  unfold confirmLegacy
  rw [look_bind]
  split
  · exact .refl env but s
  · next hlisted =>
    simp only [Bool.or_eq_true, Bool.not_eq_true', not_or, Bool.not_eq_false] at hlisted
    obtain ⟨row, hrow, hhost⟩ := sessionExists_iff.mp hlisted.2
    dsimp only
    split
    · exact .refl env but s
    · refine ⟨rfl, fun _ h => ?_, fun _ h => ?_⟩
      · exact h.of_same h.coherent rfl (startRemoteControlSession_online _ _ _ _ _) ⟨rfl, rfl, rfl⟩
      · have hsession := h.sessions _ _ _ ⟨row, hrow, hhost⟩
        exact h.started env hsession.host
          fun htemporary => ⟨hsession.device htemporary, hsession.joined htemporary⟩

theorem calm_recoveryLogin (hdl : ConnectionHdl) (request : Json) :
    KeepsCalm env but (recoveryLogin env hdl request) := by
  have hcalm := composes_calm env but
  refine Follows.bind hcalm (calm_recovery fun _ => ⟨rfl, rfl, rfl⟩) fun _ => ?_
  refine follows_look fun s => Follows.each hcalm (fun entry _ => ?_) _ ()
  refine Follows.when hcalm (Follows.bind hcalm (calm_confirmLegacy entry.2) fun confirmed => ?_)
  exact Follows.when hcalm (calm_recovery fun _ => ⟨rfl, rfl, rfl⟩)

theorem calm_clientInfo (id version platform : String) :
    KeepsCalm env but (modify (fun s => { s with
      store := (s.store.updateDeviceClientInfo (env.fails .updateDeviceClientInfo) env.storeTime id
        version platform).2 })) := fun _ =>
  .of_spares rfl ⟨rfl, rfl, rfl⟩ (updateDeviceClientInfo_spares _ _ _ _ _)
    (updateDeviceClientInfo_devices _ _ _ _ _ _)

theorem calm_issueReconnect (request : Json) (userId loginKey : String)
    (reconnectExpires : Option Int) :
    KeepsCalm env but (issueReconnect cfg env request userId loginKey reconnectExpires) := by
  intro s
  unfold issueReconnect
  split
  · refine .of_spares rfl ⟨rfl, rfl, rfl⟩ ?_ (issueReconnectCredential_devices _ _ _ _ _ _)
    exact (@StoreCalled.issueReconnectCredential cfg.hashing.sha s.store _ _ _ _).spares
  · exact .refl env but s

/-! ## The binding -/

/-- The identity that a login is for. -/
def loginId (hostId : String) (credential : DeviceCredential) : String :=
  if isAlias hostId then hostId else credential.deviceId

/-- The application with the connection bound. -/
def boundTo (env : Env) (id : String) (hdl : ConnectionHdl) (verifiedDeviceId : String)
    (s : Application) : Application :=
  (bindUserToWsHandle env false id hdl verifiedDeviceId s).state

theorem boundTo_bindings {verifiedDeviceId : String} (hid : id ≠ "")
    (hfree : s.manager.wsHdlUserIdList[hdl]? = none) :
    (boundTo env id hdl verifiedDeviceId s).manager.wsHdlUserIdList =
      s.manager.wsHdlUserIdList.insert hdl id := by
  unfold boundTo bindUserToWsHandle TransmissionManager.bindUserToWsHandle
  rw [call_onMaps]
  exact (Routing.bindUserToWsHandle_free hid hfree).2

/-- What a login did before the server hears of it: nothing, or the connection is bound, and the rest was
calm. -/
inductive Arrives (env : Env) (hdl : ConnectionHdl) (id : String) (s : Application) :
    Outcome Application Event Bool → Prop where
  | refused (es : List Event) : Arrives env hdl id s ⟨false, s, es⟩
  | bound {verifiedDeviceId : String} {s' : Application} (es : List Event) : id ≠ "" →
      s.manager.wsHdlUserIdList[hdl]? = none →
      (∀ but : Option String, Calm env but (boundTo env id hdl verifiedDeviceId s) s') →
      Arrives env hdl id s ⟨true, s', es⟩

section Login

variable {request : Json} {hostId verifiedLoginKey : String} {credential : DeviceCredential}
  {registration : Bool} {reconnectExpires : Option Int}

theorem bindUserToWsHandle_true {verifiedDeviceId : String} (hid : id ≠ "")
    (hfree : s.manager.wsHdlUserIdList[hdl]? = none) :
    ∃ es : List Event, bindUserToWsHandle env false id hdl verifiedDeviceId s =
      ⟨true, boundTo env id hdl verifiedDeviceId s, es⟩ := by
  unfold boundTo bindUserToWsHandle TransmissionManager.bindUserToWsHandle
  rw [call_onMaps, (Routing.bindUserToWsHandle_free hid hfree).1]
  exact ⟨_, rfl⟩

/-- A login that binds its connection, and goes on calmly. -/
theorem arrives_bind {verifiedDeviceId : String} {f : Bool → Program Bool} (hid : id ≠ "")
    (hfree : s.manager.wsHdlUserIdList[hdl]? = none) (hvalue : ∀ s, (f true s).value = true)
    (hcalm : ∀ but : Option String, KeepsCalm env but (f true)) :
    Arrives env hdl id s ((bindUserToWsHandle env false id hdl verifiedDeviceId >>= f) s) := by
  obtain ⟨es, hbound⟩ := bindUserToWsHandle_true hid hfree
  rw [bind_of_eq hbound, hvalue]
  exact .bound _ hid hfree fun but => hcalm but _

theorem completeDeviceLogin_arrives (hfree : s.manager.wsHdlUserIdList[hdl]? = none) :
    Arrives env hdl credential.deviceId s (completeDeviceLogin cfg env hdl request hostId credential
      registration reconnectExpires verifiedLoginKey s) := by
  unfold completeDeviceLogin
  dsimp only
  split
  · exact .refused _
  · next hid =>
    rw [look_bind]
    split
    · exact .refused _
    · refine arrives_bind hid hfree (fun _ => rfl) fun but => ?_
      have hcalm := composes_calm env but
      rw [if_neg (by decide)]
      refine Follows.bind hcalm (Follows.when hcalm ?_) (fun _ => ?_)
      · exact Follows.bind hcalm calm_bindHost fun _ => follows_done hcalm ()
      · refine Follows.bind hcalm (Follows.when hcalm (calm_clientInfo _ _ _)) fun _ => ?_
        refine Follows.bind hcalm (calm_issueReconnect _ _ _ _) fun issued => ?_
        exact Follows.bind hcalm (calm_send _ _) fun _ => follows_done hcalm true

theorem completeAliasLogin_arrives (halias : isAlias hostId = true)
    (hfree : s.manager.wsHdlUserIdList[hdl]? = none) :
    Arrives env hdl hostId s (completeAliasLogin cfg env hdl request hostId verifiedLoginKey s) := by
  have hid : hostId ≠ "" := by
    rintro rfl
    cases halias
  unfold completeAliasLogin
  rw [look_bind]
  dsimp only
  split
  · exact .refused _
  · refine arrives_bind hid hfree (fun _ => rfl) fun but => ?_
    have hcalm := composes_calm env but
    rw [if_neg (by decide)]
    refine Follows.bind hcalm calm_bindHost fun _ => ?_
    exact Follows.bind hcalm (calm_send _ _) fun _ => follows_done hcalm true

theorem completeLogin_arrives
    (hfree : s.manager.getUserId hdl = "" → s.manager.wsHdlUserIdList[hdl]? = none) :
    Arrives env hdl (loginId hostId credential) s (completeLogin cfg env hdl request hostId credential
      registration reconnectExpires verifiedLoginKey s) := by
  unfold completeLogin
  rw [look_bind]
  split
  · exact .refused []
  · next hready =>
    simp only [Bool.or_eq_true, decide_eq_true_eq, not_or, ne_eq, not_not] at hready
    have hnone := hfree hready.2
    unfold loginId
    split
    · next halias => exact completeAliasLogin_arrives halias hnone
    · exact completeDeviceLogin_arrives hnone

end Login

theorem boundTo_connected {verifiedDeviceId : String} (hid : id ≠ "")
    (hfree : s.manager.wsHdlUserIdList[hdl]? = none) (u : String) :
    (boundTo env id hdl verifiedDeviceId s).manager.hasUserConnection u = true ↔
      u = id ∨ s.manager.hasUserConnection u = true := by
  unfold Routing.hasUserConnection
  rw [OrdMap.hasValue_iff, OrdMap.hasValue_iff, boundTo_bindings hid hfree]
  constructor
  · rintro ⟨k, hbound⟩
    rw [Std.ExtTreeMap.getElem?_insert] at hbound
    split at hbound
    · exact .inl (Option.some.inj hbound).symm
    · exact .inr ⟨k, hbound⟩
  · rintro (rfl | ⟨k, hbound⟩)
    · exact ⟨hdl, Std.ExtTreeMap.getElem?_insert_self⟩
    · refine ⟨k, ?_⟩
      rw [Std.ExtTreeMap.getElem?_insert]
      split
      · next hsame =>
        rw [Std.LawfulEqOrd.eq_of_compare hsame, hbound] at hfree
        cases hfree
      · exact hbound

/-- The connection is bound: its identity is not marked yet. -/
theorem Present.bound {marked : Prop} {verifiedDeviceId : String} (h : Present marked none s) (hid : id ≠ "")
    (hfree : s.manager.wsHdlUserIdList[hdl]? = none) :
    Present marked (some id) (boundTo env id hdl verifiedDeviceId s) := by
  have hconnected : ∀ u : String, some id ≠ some u →
      (boundTo env id hdl verifiedDeviceId s).manager.hasUserConnection u =
        s.manager.hasUserConnection u := by
    intro u hu
    rw [Bool.eq_iff_iff, boundTo_connected hid hfree]
    exact or_iff_right fun hsame => hu (by rw [hsame])
  unfold boundTo bindUserToWsHandle TransmissionManager.bindUserToWsHandle at hconnected ⊢
  rw [call_onMaps] at hconnected ⊢
  refine ⟨h.coherent.bindUser false env.now id hdl verifiedDeviceId, fun hmarked u hu => ?_, h.kinds,
    fun u hu => ?_⟩
  · rw [hconnected u hu]
    exact h.online hmarked u nofun
  · rw [hconnected u hu]
    exact h.shown u nofun

/-- What `OnLogin` leaves. -/
theorem onLogin_state (id : String) (s : Application) : (onLogin env id s).state = { s with
    presence := s.presence.enter id
    store := (s.store.setDeviceOnline (env.fails .setDeviceOnline) env.storeTime id true).2 } := by
  unfold onLogin
  rw [bind_state, bind_state, notifyUserDevices_eq]
  rfl

theorem onLogin_marks (hconnected : s.manager.hasUserConnection id = true) :
    Marks (env.fails .setDeviceOnline) id env.storeTime s (onLogin env id s).state := by
  rw [onLogin_state]
  refine ⟨rfl, by rw [hconnected], fun online h => ?_,
    fun u online hu h => PresenceManager.enter_shows_other hu h⟩
  simpa [hconnected] using PresenceManager.enter_shows h

/-- A device that nobody is and no session names. -/
structure Newcomer (id : String) (s : Application) : Prop where
  device : s.store.devices.contains id = true
  plain : '@' ∉ id.toList
  unbound : s.manager.hasUserConnection id = false
  unnamed : ∀ tx hostId : String, ¬ HasSession (sessionKey tx id) hostId s.store

theorem Attended.bound {verifiedDeviceId : String} (h : Attended none s) (hid : id ≠ "")
    (hfree : s.manager.wsHdlUserIdList[hdl]? = none)
    (hnew : isTemporaryControllerId id = true → Newcomer id s) :
    Attended (some id) (boundTo env id hdl verifiedDeviceId s) := by
  have hpresent : Present True (some id) (boundTo env id hdl verifiedDeviceId s) :=
    h.toPresent.bound hid hfree
  have hconnected : ∀ u : String,
      (boundTo env id hdl verifiedDeviceId s).manager.hasUserConnection u = true → u = id ∨
        s.manager.hasUserConnection u = true := fun u => (boundTo_connected hid hfree u).mp
  have hbindings : (boundTo env id hdl verifiedDeviceId s).manager.wsHdlUserIdList =
      s.manager.wsHdlUserIdList.insert hdl id := boundTo_bindings hid hfree
  have hrooms := Routing.bindUserToWsHandle_sameRooms false env.now id hdl verifiedDeviceId
    s.manager.toRouting
  unfold boundTo bindUserToWsHandle TransmissionManager.bindUserToWsHandle at *
  rw [call_onMaps] at *
  generalize (s.manager.toRouting.bindUserToWsHandle false env.now id hdl verifiedDeviceId).2 = r at *
  -- a binding is the new one, or an old one of somebody else when a controller came
  have hcases : ∀ (k : ConnectionHdl) (u : String), r.wsHdlUserIdList[k]? = some u →
      k = hdl ∧ u = id ∨ s.manager.wsHdlUserIdList[k]? = some u := by
    intro k u hbound
    rw [hbindings, Std.ExtTreeMap.getElem?_insert] at hbound
    split at hbound
    · next hsame => exact .inl ⟨(Std.LawfulEqOrd.eq_of_compare hsame).symm, (Option.some.inj hbound).symm⟩
    · exact .inr hbound
  have hnobody : isTemporaryControllerId id = true → ∀ k : ConnectionHdl,
      s.manager.wsHdlUserIdList[k]? ≠ some id := by
    intro htemporary k hbound
    have hunbound := (hnew htemporary).unbound
    rw [show s.manager.hasUserConnection id = true from OrdMap.hasValue_iff.mpr ⟨k, hbound⟩] at hunbound
    cases hunbound
  exact
    { toPresent := hpresent
      idle := ⟨h.idle.unlocked, h.idle.installed, h.idle.nothing⟩
      hosts := by
        intro tx host hhost
        refine h.hosts tx host ?_
        rwa [← hrooms.hosts]
      controllers := by
        intro k u hbound htemporary
        rcases hcases k u hbound with ⟨rfl, rfl⟩ | hold
        · refine ⟨(hnew htemporary).device, (hnew htemporary).plain, fun k' hbound' => ?_⟩
          rcases hcases k' u hbound' with ⟨rfl, -⟩ | hold'
          · rfl
          · exact (hnobody htemporary k' hold').elim
        · have hsole := h.controllers k u hold htemporary
          refine ⟨hsole.device, hsole.plain, fun k' hbound' => ?_⟩
          rcases hcases k' u hbound' with ⟨-, rfl⟩ | hold'
          · exact (hnobody htemporary k hold).elim
          · exact hsole.sole k' hold'
      sessions := by
        intro tx g hostId hrow
        have hsession := h.sessions tx g hostId hrow
        refine ⟨hsession.named, hsession.host, hsession.device, fun htemporary hu => ?_⟩
        rcases hconnected g hu with rfl | hold
        · exact ((hnew htemporary).unnamed tx hostId hrow).elim
        · show g ∈ r.guestsOf tx
          rw [hrooms.guestsOf]
          exact hsession.joined htemporary hold
      }

/-! ## Logins -/

/-- What a login keeps. A temporary controller has to be new. -/
structure Enters (env : Env) (hdl : ConnectionHdl) (id : String) (s s' : Application) : Prop where
  others : ∀ k : ConnectionHdl, k ≠ hdl →
    s'.manager.wsHdlUserIdList[k]? = s.manager.wsHdlUserIdList[k]?
  present : ∀ marked : Prop, (marked → env.fails .setDeviceOnline = false) →
    Present marked none s → Present marked none s'
  attended : (∀ call, env.fails call = false) → Attended none s →
    (isTemporaryControllerId id = true → Newcomer id s) → Attended none s'

theorem Enters.tends {s' : Application} (h : Enters env hdl id s s')
    (hdevice : isTemporaryControllerId id = false) : Tends env hdl s s' where
  others := h.others
  present := h.present
  attended := fun hstore hs => h.attended hstore hs fun htemporary => by
    rw [hdevice] at htemporary
    cases htemporary

/-- **A login marks the identity that it bound.** -/
theorem finishLogin_enters {finish : FinishLogin} {credential : DeviceCredential}
    {registration : Bool} {reconnectExpires : Option Int} (hcoherent : Coherent s.manager.toRouting) :
    Enters env hdl (loginId finish.hostId credential) s
      (finishLogin cfg env hdl finish credential registration reconnectExpires s).state := by
  have harrives : Arrives env hdl _ s (completeLogin cfg env hdl finish.request finish.hostId credential
      registration reconnectExpires finish.verifiedLoginKey s) := completeLogin_arrives hcoherent.unbound
  unfold finishLogin
  rw [bind_state]
  generalize completeLogin cfg env hdl finish.request finish.hostId credential registration
    reconnectExpires finish.verifiedLoginKey s = outcome at harrives ⊢
  generalize loginId finish.hostId credential = id at harrives ⊢
  cases harrives with
  | refused => exact ⟨fun _ _ => rfl, fun _ _ h => h, fun _ h _ => h⟩
  | @bound verifiedDeviceId s' es hid hnone hcalm =>
    dsimp only
    rw [if_pos rfl, bind_state]
    have hlater : ∀ but : Option String, Calm env but (boundTo env id hdl verifiedDeviceId s)
        (recoveryLogin env hdl finish.request s').state :=
      fun but => (hcalm but).trans (calm_recoveryLogin hdl finish.request s')
    generalize (recoveryLogin env hdl finish.request s').state = s'' at hlater ⊢
    have hbindings : s''.manager.wsHdlUserIdList = s.manager.wsHdlUserIdList.insert hdl id :=
      (hlater none).bindings.trans (boundTo_bindings hid hnone)
    have hbound : s''.manager.wsHdlUserIdList[hdl]? = some id := by
      rw [hbindings]
      exact Std.ExtTreeMap.getElem?_insert_self
    have hconnected : s''.manager.hasUserConnection id = true :=
      OrdMap.hasValue_iff.mpr ⟨hdl, hbound⟩
    have huser : s''.manager.getUserId hdl = id := by
      rw [Routing.getUserId, hbound, Option.getD_some]
    rw [look_bind, huser, if_neg hid]
    refine ⟨fun k hk => ?_, fun marked hfails h => ?_, fun hstore h hnew => ?_⟩
    · rw [onLogin_state]
      show s''.manager.wsHdlUserIdList[k]? = _
      rw [hbindings, Std.ExtTreeMap.getElem?_insert,
        if_neg fun hsame => hk (Std.LawfulEqOrd.eq_of_compare hsame).symm]
    · exact ((hlater (some id)).present marked (h.bound hid hnone)).of_mark hfails
        (onLogin_marks hconnected)
    · exact ((hlater (some id)).attended hstore (h.bound hid hnone hnew)).of_mark
        (hstore .setDeviceOnline) (onLogin_marks hconnected)

/-- The login of a device or an alias. -/
theorem finishLogin_tends_device (finish : FinishLogin) {reconnectExpires : Option Int}
    (hcoherent : Coherent s.manager.toRouting)
    (hdevice : isTemporaryControllerId finish.hostId = false) :
    Tends env hdl s (finishLogin cfg env hdl finish { deviceId := finish.hostId } false
      reconnectExpires s).state := by
  have hid : loginId finish.hostId { deviceId := finish.hostId } = finish.hostId := ite_self _
  refine (finishLogin_enters hcoherent).tends ?_
  rw [hid]
  exact hdevice

theorem ActsAt.tends (cfg : Config) {m : Program α} (h : ActsAt cfg env true s m)
    (hdl : ConnectionHdl) :
    Tends env hdl s (m s).state :=
  Generated.lift (composes_tends env hdl) (fun _ _ _ hact => hact.tends hdl) h

theorem not_temporary_of_alias (h : isAlias id = true) : isTemporaryControllerId id = false := by
  by_contra htemporary
  rw [Bool.not_eq_false] at htemporary
  rw [not_alias_of_temporary htemporary] at h
  cases h

/-- Temporary controllers have no keys. -/
theorem readKeyRequest_device {request : Json} {r : KeyRequest}
    (h : readKeyRequest request = some r) : isTemporaryControllerId r.id = false := by
  unfold readKeyRequest at h
  simp only [Option.bind_eq_bind, Option.bind_eq_some_iff, Option.ite_none_left_eq_some] at h
  obtain ⟨identity, -, proof, -, fields, -, version, -, hchecks, publicKey, -, -, h⟩ := h
  cases h
  cases halias : isAlias (splitAtSign identity).1 with
  | true => exact not_temporary_of_alias halias
  | false =>
    simp only [halias, not_or, Bool.not_eq_true] at hchecks
    simpa using hchecks.2.2.2.2.1

section Message

variable {request : Json}

theorem loginWithProvenKey_tends {r : KeyRequest} (hcoherent : Coherent s.manager.toRouting)
    (hidentity : s.manager.getUserId hdl = "") (hread : readKeyRequest request = some r) :
    Tends env hdl s (loginWithProvenKey cfg env hdl request r s).state := by
  have hdevice := readKeyRequest_device hread
  unfold loginWithProvenKey
  split
  · split
    · exact .refl env hdl s
    · exact ActsAt.tends cfg (registerDevice_acts _ _ _ _ _) hdl
  · rw [look_bind]
    cases s.store.readLoginPublicKey (env.fails (.readLoginPublicKey 0)) r.deviceId with
    | none => exact .refl env hdl s
    | some bound =>
      dsimp only
      split
      · split
        · exact .refl env hdl s
        · exact finishLogin_tends_device { request, hostId := r.id, verifiedLoginKey := r.publicKey }
            hcoherent hdevice
      · split
        · exact .refl env hdl s
        · next hcontroller =>
          refine ActsAt.tends cfg (authenticateDevice_acts fun htemporary => ?_) hdl
          rw [hidentity]
          have halias : isAlias r.id = false := by
            rw [← readKeyRequest_deviceId hread]
            simpa using hcontroller
          exact .login _ _ _ _ _ rfl rfl halias htemporary hidentity

theorem loginWithKey_tends (hcoherent : Coherent s.manager.toRouting)
    (hidentity : s.manager.getUserId hdl = "") :
    Tends env hdl s (loginWithKey cfg env hdl request s).state := by
  unfold loginWithKey
  cases hread : readKeyRequest request with
  | none => exact .refl env hdl s
  | some r =>
    dsimp only
    split
    · exact ActsAt.tends cfg (challenge_acts _ _ s) hdl
    · rw [look_bind]
      cases s.loginChallenges[hdl]? with
      | none => exact .refl env hdl s
      | some challenge =>
        -- the nonce is taken back first
        have htaken : Act cfg env true s [] { s with
            loginChallenges := s.loginChallenges.erase hdl } :=
          .aside rfl rfl rfl rfl fun _ => ⟨rfl, rfl, rfl⟩
        refine (htaken.tends hdl).trans ?_
        rw [bind_state, bind_state]
        split
        · exact loginWithProvenKey_tends hcoherent hidentity hread
        · exact .refl env hdl _

theorem loginWithoutKey_tends (hcoherent : Coherent s.manager.toRouting)
    (hidentity : s.manager.getUserId hdl = "") (hostIdWithPwd : String) :
    Tends env hdl s (loginWithoutKey cfg env hdl request hostIdWithPwd s).state := by
  unfold loginWithoutKey
  dsimp only
  generalize (splitAtSign hostIdWithPwd).1 = hostId
  generalize (splitAtSign hostIdWithPwd).2 = password
  -- A token is verified for a persistent device only.
  have hreconnect : ∀ expires : Option Int,
      (expires.isSome = true → isTemporaryControllerId hostId = false) →
      Tends env hdl s ((if expires.isSome = true then
        finishLogin cfg env hdl { request, hostId } { deviceId := hostId } false expires
      else send (some hdl) (loginFailure.set "reconnect_rejected" (.bool true))) s).state := by
    intro expires hexpires
    split
    · next hfound =>
      exact finishLogin_tends_device { request, hostId } hcoherent (hexpires hfound)
    · exact .refl env hdl s
  split
  · exact .refl env hdl s
  · rw [look_bind]
    generalize s.store.readLoginPublicKey _ _ = loginKey
    split
    · exact .refl env hdl s
    · split
      · refine hreconnect _ fun hfound => ?_
        split at hfound
        · obtain ⟨_, hfound⟩ := Option.isSome_iff_exists.mp hfound
          obtain ⟨token, _, hverified⟩ := Option.bind_eq_some_iff.mp hfound
          have hdevice := verifyReconnectCredential_persistent
            (Option.isSome_iff_exists.mpr ⟨_, hverified⟩)
          unfold persistentDevice at hdevice
          simp only [Bool.and_eq_true, Bool.not_eq_true'] at hdevice
          exact hdevice.1.2
        · cases hfound
      · split
        · next halias =>
          exact finishLogin_tends_device { request, hostId } hcoherent (not_temporary_of_alias halias)
        · next halias =>
          split
          · exact ActsAt.tends cfg (registerDevice_acts _ _ _ _ _) hdl
          · refine ActsAt.tends cfg (authenticateDevice_acts fun htemporary => ?_) hdl
            rw [hidentity]
            exact .login _ _ _ _ _ rfl rfl (by simpa using halias) htemporary hidentity

/-- **A login request tends.** -/
theorem loginUser_tends (hcoherent : Coherent s.manager.toRouting) :
    Tends env hdl s (loginUser cfg env hdl request s).state := by
  unfold loginUser
  rw [look_bind]
  split
  · exact .refl env hdl s
  · split
    · exact .refl env hdl s
    · next hidentity =>
      rw [ne_eq, not_not] at hidentity
      split
      · exact loginWithKey_tends hcoherent hidentity
      · cases request.getStringField "user_id" with
        | none => exact .refl env hdl s
        | some hostIdWithPwd => exact loginWithoutKey_tends hcoherent hidentity hostIdWithPwd

end Message

/-! ## Continuations -/

theorem joined_tends (transmissionId userId : String) :
    Tends env hdl s (joined cfg env hdl transmissionId userId s).state :=
  ActsAt.tends cfg (joined_acts hdl transmissionId userId s) hdl

theorem verified_tends {onVerified : OnVerified} (hcoherent : Coherent s.manager.toRouting)
    (hlogin : ∀ finish : FinishLogin, onVerified = .login finish →
      isTemporaryControllerId finish.hostId = false) :
    Tends env hdl s (verified cfg env hdl onVerified s).state := by
  cases onVerified with
  | login finish => exact finishLogin_tends_device finish hcoherent (hlogin finish rfl)
  | queryUserIdList => exact .refl env hdl s
  | joinTransmission transmissionId userId => exact joined_tends transmissionId userId

/-- The store was called. -/
theorem tends_store {db : DeviceDbManager} (hspares : Spares s.store db) :
    Tends env hdl s { s with store := db } := .of_spares env hdl rfl ⟨rfl, rfl, rfl⟩ hspares

theorem authenticated_tends {failure : Json} {deviceId password identity bindLoginKey : String}
    {record : Option DevicePasswordRecord} {onVerified : OnVerified}
    (hcoherent : Coherent s.manager.toRouting)
    (hlogin : ∀ finish : FinishLogin, onVerified = .login finish →
      isTemporaryControllerId finish.hostId = false) :
    Tends env hdl s (authenticated cfg env hdl failure deviceId password record identity bindLoginKey
      onVerified s).state := by
  unfold authenticated
  rw [look_bind]
  dsimp only
  split
  · exact .refl env hdl s
  · cases record with
    | none => exact .refl env hdl s
    | some record =>
      cases hverdict : (verdict cfg env (some record) password).verified with
      | none => exact .refl env hdl s
      | some replacement =>
        dsimp only
        -- The password is stored, then the key is bound: each call may fail, and then nothing else is done.
        rcases hcommit : s.store.commitPassword (env.fails .commitPassword) deviceId record
          replacement with ⟨ok, committed⟩
        have hcommitted : Tends env hdl s { s with store := committed } := by
          have hspares := @commitPassword_spares s.store (env.fails .commitPassword) deviceId record
            replacement
          rw [hcommit] at hspares
          exact tends_store hspares
        cases ok with
        | false => exact .refl env hdl s
        | true =>
          refine hcommitted.trans ?_
          dsimp only
          by_cases hkey : bindLoginKey = ""
          · rw [if_pos hkey]
            exact verified_tends hcoherent hlogin
          · rw [if_neg hkey]
            rcases hbind : committed.bindLoginPublicKey (env.fails .bindLoginPublicKey) deviceId
              replacement bindLoginKey with ⟨ok, bound⟩
            have hbound : Tends env hdl { s with store := committed } { s with store := bound } := by
              have hspares := @bindLoginPublicKey_spares committed (env.fails .bindLoginPublicKey)
                deviceId replacement bindLoginKey
              rw [hbind] at hspares
              exact tends_store hspares
            cases ok with
            | false => exact .refl env hdl _
            | true => exact hbound.trans (verified_tends hcoherent hlogin)

/-- The id of a new temporary controller. -/
theorem plain_newDeviceId {kind generated : String} (hnumber : isDeviceNumber generated = true)
    (htemporary : isTemporaryControllerId (newDeviceId kind generated) = true) :
    '@' ∉ (newDeviceId kind generated).toList := by
  have hdigits : '@' ∉ generated.toList := by
    intro hat
    have hdigit := SignalServer.digit_of_isDeviceNumber hnumber hat
    revert hdigit
    decide
  unfold newDeviceId at htemporary ⊢
  split at htemporary
  · next hkind =>
    rw [if_pos hkind, String.toList_append, String.toList_append, List.mem_append, List.mem_append]
    unfold isTemporaryControllerRegistration at hkind
    rcases (Bool.or_eq_true _ _).mp hkind with hweb | hcli
    · rw [beq_iff_eq.mp hweb]
      simpa using hdigits
    · rw [beq_iff_eq.mp hcli]
      simpa using hdigits
  · rw [SignalServer.not_temporary_of_isDeviceNumber hnumber] at htemporary
    cases htemporary

/-- A temporary controller that is registered is new: an id that somebody has, or that a session names,
has a row. -/
theorem newcomer_withRow {kind loginPublicKey password : String} {record : DevicePasswordRecord}
    (h : Attended none s)
    {fails : Bool}
    (hregisters : Registers fails env.deviceNumber kind password record loginPublicKey s.store)
    (htemporary : isTemporaryControllerId (newDeviceId kind env.deviceNumber) = true) :
    Newcomer (newDeviceId kind env.deviceNumber) (withRow env kind loginPublicKey record s) := by
  have hfree : s.store.devices.contains (newDeviceId kind env.deviceNumber) = false := by
    rw [Std.ExtTreeMap.contains_eq_isSome_getElem?, hregisters.free]
    rfl
  refine ⟨?_, plain_newDeviceId hregisters.number htemporary, ?_, fun tx hostId hrow => ?_⟩
  · show (s.store.devices.insert _ _).contains _ = true
    rw [Std.ExtTreeMap.contains_insert_self]
  · show s.manager.hasUserConnection _ = false
    by_contra hconnected
    rw [Bool.not_eq_false] at hconnected
    obtain ⟨k, hbound⟩ := OrdMap.hasValue_iff.mp hconnected
    rw [(h.controllers k _ hbound htemporary).device] at hfree
    cases hfree
  · rw [(h.sessions tx _ hostId hrow).device htemporary] at hfree
    cases hfree

/-- A login for a temporary controller is for what was registered. -/
theorem loginId_of_temporary {hostId : String} {credential : DeviceCredential}
    (h : isTemporaryControllerId (loginId hostId credential) = true) :
    loginId hostId credential = credential.deviceId := by
  unfold loginId at h ⊢
  split at h
  · next halias =>
    rw [not_temporary_of_alias halias] at h
    cases h
  · next hdevice => rw [if_neg hdevice]

theorem registered_tends {failure : Json} {kind loginPublicKey : String} {finish : FinishLogin}
    (hcoherent : Coherent s.manager.toRouting) :
    Tends env hdl s (registered cfg env hdl failure kind loginPublicKey finish s).state := by
  unfold registered
  rw [look_bind]
  split
  · exact .refl env hdl s
  · cases (if env.password = "" then none else env.hashed) with
    | none => exact .refl env hdl s
    | some record =>
      dsimp only
      have hspares := @registerDevice_spares s.store (env.fails .registerDevice) env.storeTime
        env.deviceNumber kind env.password record loginPublicKey
      by_cases hregisters : Registers (env.fails .registerDevice) env.deviceNumber kind env.password
          record loginPublicKey s.store
      · rw [registerDevice_registers hregisters] at hspares ⊢
        have hrow := @tends_store env s hdl _ hspares
        rw [bind_state, bind_state]
        have henters := @finishLogin_enters cfg env (withRow env kind loginPublicKey record s) hdl finish
          (newCredential kind env.deviceNumber env.password) true none hcoherent
        refine ⟨fun k hk => (henters.others k hk).trans (hrow.others k hk),
          fun marked hfails hs => henters.present marked hfails (hrow.present marked hfails hs),
          fun hstore hs => ?_⟩
        refine henters.attended hstore (hrow.attended hstore hs) fun htemporary => ?_
        have hid := loginId_of_temporary htemporary
        rw [hid] at htemporary ⊢
        exact newcomer_withRow hs hregisters htemporary
      · rw [registerDevice_refused hregisters]
        rw [bind_state, bind_state]
        refine (finishLogin_enters hcoherent).tends ?_
        -- nothing was registered
        by_contra htemporary
        rw [Bool.not_eq_false] at htemporary
        rw [loginId_of_temporary htemporary] at htemporary
        cases htemporary

theorem passwordChanged_tends {userId requestId newPassword : String}
    {record : Option DevicePasswordRecord} :
    Tends env hdl s
      (passwordChanged cfg env hdl userId requestId newPassword record s).state := by
  have hchanges : ChangesAt cfg env hdl userId requestId newPassword record s _ :=
    passwordChanged_commits s hdl userId requestId newPassword record
  rcases hchanges with ⟨hsame, -⟩ | ⟨db, hcommit, -, -, hstate⟩
  · rw [hsame]
    exact .refl env hdl s
  · rw [hstate]
    cases hcommit with
    | @changed _ _ _ record replacement _ _ _ hcommit =>
      have hspares := @commitPassword_spares s.store (env.fails .commitPassword) userId record
        replacement
      rw [hcommit] at hspares
      exact .of_spares env hdl rfl ⟨rfl, rfl, rfl⟩ hspares

/-- **What follows a password computation tends**, for the connection that asked for it. -/
theorem finishWork_tends {work : Dispatched} (hcoherent : Coherent s.manager.toRouting)
    (hlogin : ∀ (deviceId password : String) (record : Option DevicePasswordRecord)
      (identity bindLoginKey : String) (finish : FinishLogin),
      work.work = .authenticate deviceId password record identity bindLoginKey (.login finish) →
        isTemporaryControllerId finish.hostId = false) :
    Tends env work.hdl s (finishWork cfg env work s).state := by
  obtain ⟨hdl, failure, kind⟩ := work
  cases kind with
  | authenticate deviceId password record identity bindLoginKey onVerified =>
    refine authenticated_tends hcoherent fun finish hfinish => ?_
    rw [hfinish] at hlogin
    exact hlogin _ _ _ _ _ finish rfl
  | register kind loginPublicKey finish => exact registered_tends hcoherent
  | changePassword userId requestId newPassword record => exact passwordChanged_tends

/-! ## Reports about sessions -/

/-- A guest that was admitted to a room is connected and in it. -/
theorem bindGuestHandleToTransmission_admitted {expired : Bool} {guestId transmissionId : String}
    {guestHdl : ConnectionHdl}
    (hbound : (bindGuestHandleToTransmission env expired guestId transmissionId guestHdl
      s).value = true) :
    guestId ∈ (bindGuestHandleToTransmission env expired guestId transmissionId guestHdl
        s).state.manager.guestsOf transmissionId ∧
      (bindGuestHandleToTransmission env expired guestId transmissionId guestHdl
        s).state.manager.wsHdlUserIdList[guestHdl]? = some guestId := by
  have hdoes := TransmissionManager.does_bindGuestHandleToTransmission expired guestId transmissionId
    guestHdl
  have hmaps : (bindGuestHandleToTransmission env expired guestId transmissionId guestHdl
      s).state.manager.toRouting = _ := hdoes.maps s.manager
  have hvalue : (Mutation.bindGuestHandle expired guestId transmissionId guestHdl
      s.manager.toRouting).value = true := (congrArg Prod.fst (hdoes s.manager)).symm.trans hbound
  rcases hrun : Mutation.bindGuestHandle expired guestId transmissionId guestHdl
    s.manager.toRouting with ⟨value, r', notes⟩
  rw [hrun] at hvalue hmaps
  subst hvalue
  rw [hmaps]
  exact (bindGuestHandle_admits hrun).2

/-- A session that both ends confirm is one that is listed. -/
theorem resume_tends (cfg : Config) {ticket : Ticket} {guestHdl : ConnectionHdl}
    (hexists : s.sessionExists ticket = true) :
    Tends env hdl s (resume env ticket guestHdl s).state := by
  unfold resume
  rw [look_bind, bind_state]
  have hhosted : Tends env hdl s (when (s.manager.isTransmissionExist ticket.transmissionId = false)
      (do
        let _ ← bindHostToTransmission env ticket.hostId ticket.transmissionId
        pure ()) s).state :=
    ActsAt.tends cfg (acts_when (Acts.bind (bindHostToTransmission_acts _ _) fun _ => acts_pure ()) s)
      hdl
  generalize (when (s.manager.isTransmissionExist ticket.transmissionId = false) _ s).state = s₁
    at hhosted ⊢
  rw [bind_state]
  have hadmitted := fun h => @bindGuestHandleToTransmission_admitted env s₁ (env.expired 2)
    ticket.guestId ticket.transmissionId guestHdl h
  have hbound : Tends env hdl s₁ (bindGuestHandleToTransmission env (env.expired 2) ticket.guestId
      ticket.transmissionId guestHdl s₁).state :=
    ActsAt.tends cfg (bindGuestHandleToTransmission_acts _ _ _ _ s₁) hdl
  generalize bindGuestHandleToTransmission env (env.expired 2) ticket.guestId ticket.transmissionId
    guestHdl s₁ = outcome at hadmitted hbound ⊢
  obtain ⟨bound, s₂, es⟩ := outcome
  have hs₂ := hhosted.trans hbound
  cases bound with
  | false => exact hs₂
  | true =>
    dsimp only at hadmitted ⊢
    rw [if_pos rfl, bind_state, bind_state]
    -- the session is started: the row that is there says who its host is
    have hstarted : Tends env hdl s
        (startRemoteControlSession env ticket.transmissionId ticket.hostId ticket.guestId s₂).state := by
      refine ⟨hs₂.others, fun marked hfails h => ?_, fun hstore h => ?_⟩
      · have hs := hs₂.present marked hfails h
        exact hs.of_same hs.coherent rfl (startRemoteControlSession_online _ _ _ _ _) ⟨rfl, rfl, rfl⟩
      · have hs := hs₂.attended hstore h
        obtain ⟨row, hrow, hhost⟩ := sessionExists_iff.mp hexists
        refine hs.started env (h.sessions _ _ _ ⟨row, hrow, hhost⟩).host fun htemporary => ?_
        obtain ⟨hguest, hconnection⟩ := hadmitted rfl
        exact ⟨(hs.controllers _ _ hconnection htemporary).device, fun _ => hguest⟩
    split
    · refine hstarted.trans ?_
      exact .of_spares env hdl rfl ⟨rfl, rfl, rfl⟩ (.refl _)
    · exact hstarted

theorem sessionReport_tends (cfg : Config) (msg : Json) :
    Tends env hdl s (sessionReport env hdl msg s).state := by
  unfold sessionReport
  rw [look_bind]
  cases readReport msg with
  | none => exact .refl env hdl s
  | some reported =>
    dsimp only
    cases s.recovery.tickets[sessionKey reported.transmissionId reported.guestId]? with
    | none => exact .refl env hdl s
    | some ticket =>
      dsimp only
      split
      · exact .refl env hdl s
      · next haccepted =>
        split
        · exact ActsAt.tends cfg (Acts.bind (acts_report rfl) (fun _ => Acts.bind (abandon_acts _)
            fun _ => remove_acts _) s) hdl
        · rw [bind_state, bind_state]
          have hpresented : Tends env hdl s (putTicket (sessionKey reported.transmissionId
              reported.guestId) (ticket.present (s.manager.getUserId hdl) hdl) s) :=
            .of_spares env hdl rfl ⟨rfl, rfl, rfl⟩ (.refl _)
          refine hpresented.trans ?_
          have hexists : s.sessionExists ticket = true := by
            simp only [reportAccepted, Bool.not_eq_true', Bool.not_eq_false, Bool.and_eq_true] at haccepted
            exact haccepted.1.2
          have hsame : (ticket.present (s.manager.getUserId hdl) hdl).key = ticket.key ∧
              (ticket.present (s.manager.getUserId hdl) hdl).hostId = ticket.hostId := by
            unfold Ticket.present
            split <;> exact ⟨rfl, rfl⟩
          generalize ticket.present (s.manager.getUserId hdl) hdl = presented at hsame ⊢
          cases presented.guestHdl with
          | none => exact .refl env hdl _
          | some guestHdl =>
            dsimp only
            split
            · refine resume_tends cfg ?_
              unfold sessionExists at hexists ⊢
              rw [hsame.1, hsame.2]
              exact hexists
            · exact .refl env hdl _

end Application

end CrossDesk
