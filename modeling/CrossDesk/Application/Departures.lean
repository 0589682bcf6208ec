import CrossDesk.Application.Arrivals
import CrossDesk.TransmissionManager.Sessions

/-!
# Connections that go

The cleanup after a connection releases its handle. Only when that was the last connection of its
identity the identity is marked offline; a temporary controller is then forgotten, its rows too. A restart
forgets every connection, and the database then says that nobody is online.

`Present` and `Attended` hold in every world that the server reaches, where the calls of the store that
they rest on succeed.
-/

namespace CrossDesk

open Logged DeviceDbManager

/-! ## The last connection -/

/-- An identity that is not returned has another connection. -/
theorem releaseSession_another {u : String} {hdl : ConnectionHdl} {r : Routing} (hu : u ≠ "")
    (hbound : r.wsHdlUserIdList[hdl]? = some u) (hvalue : (Mutation.releaseSession hdl r).value = "") :
    (Mutation.releaseSession hdl r).state.hasUserConnection u = true := by
  have hrun : Mutation.releaseSession hdl r = Mutation.releaseMemberships
      (r.releaseUserFromWsHandle hdl).1 hdl (r.releaseUserFromWsHandle hdl).2 := rfl
  rw [hrun, (Routing.releaseUserFromWsHandle_spec hdl r).1, Routing.getUserId_of_bound hbound] at hvalue ⊢
  unfold Mutation.releaseMemberships at hvalue ⊢
  rw [if_neg hu] at hvalue ⊢
  simp only [Logged.andThen] at hvalue ⊢
  generalize (Mutation.releaseJoined u hdl (r.releaseUserFromWsHandle hdl).2).state = joined
    at hvalue ⊢
  by_cases hconnected : joined.hasUserConnection u = true
  · rw [if_pos hconnected]
    exact hconnected
  · rw [if_neg hconnected, releaseLast_run] at hvalue
    exact (hu hvalue).elim

/-- **Who is connected after the end of a connection**: everybody but the identity that is returned. -/
theorem releaseSession_connected {r : Routing} (hr : Coherent r) (hdl : ConnectionHdl) (u : String) :
    (Mutation.releaseSession hdl r).state.hasUserConnection u = true ↔
      r.hasUserConnection u = true ∧ (Mutation.releaseSession hdl r).value ≠ u := by
  have hbindings : (Mutation.releaseSession hdl r).state.wsHdlUserIdList = r.wsHdlUserIdList.erase hdl :=
    releaseSession_bindings hdl
  constructor
  · intro hconnected
    obtain ⟨k, hk⟩ := OrdMap.hasValue_iff.mp hconnected
    rw [hbindings] at hk
    have hbefore : r.wsHdlUserIdList[k]? = some u := by
      rw [Std.ExtTreeMap.getElem?_erase] at hk
      split at hk
      · cases hk
      · exact hk
    refine ⟨OrdMap.hasValue_iff.mpr ⟨k, hbefore⟩, fun hvalue => ?_⟩
    obtain ⟨-, ⟨hlast⟩⟩ := releaseSession_last hvalue (hr.bound_ne_empty k u hbefore)
    exact hlast.alone k hk
  · intro ⟨hconnected, hvalue⟩
    obtain ⟨k, hk⟩ := OrdMap.hasValue_iff.mp hconnected
    have hu := hr.bound_ne_empty k u hk
    by_cases hsame : k = hdl
    · subst hsame
      by_cases hnobody : (Mutation.releaseSession k r).value = ""
      · exact releaseSession_another hu hk hnobody
      · -- what is returned is the identity of the handle
        obtain ⟨hbound, -⟩ := releaseSession_last rfl hnobody
        rw [hk] at hbound
        exact (hvalue (Option.some.inj hbound).symm).elim
    · refine OrdMap.hasValue_iff.mpr ⟨k, ?_⟩
      rw [hbindings, Std.ExtTreeMap.getElem?_erase,
        if_neg fun heq => hsame (Std.LawfulEqOrd.eq_of_compare heq).symm]
      exact hk

namespace Application

variable {cfg : Config} {env : Env} {s s' : Application} {hdl : ConnectionHdl} {id : String}

/-! ## The cleanup -/

/-- The application with the connection released. -/
def afterRelease (env : Env) (hdl : ConnectionHdl) (s : Application) : Application :=
  (releaseUserSession env hdl s).state

theorem afterRelease_toRouting : (afterRelease env hdl s).manager.toRouting =
    (Mutation.releaseSession hdl s.manager.toRouting).state :=
  (TransmissionManager.does_releaseUserSession hdl).maps s.manager

theorem afterRelease_value : (releaseUserSession env hdl s).value =
    (Mutation.releaseSession hdl s.manager.toRouting).value :=
  congrArg Prod.fst (TransmissionManager.does_releaseUserSession hdl s.manager)

theorem afterRelease_online (u : String) : (afterRelease env hdl s).store.online u = s.store.online u :=
  callbacks_online env _ s.store u

theorem afterRelease_connected (hcoherent : Coherent s.manager.toRouting) (u : String) :
    (afterRelease env hdl s).manager.hasUserConnection u = true ↔
      s.manager.hasUserConnection u = true ∧ (releaseUserSession env hdl s).value ≠ u := by
  rw [afterRelease_toRouting, afterRelease_value]
  exact releaseSession_connected hcoherent hdl u

theorem afterRelease_coherent (hcoherent : Coherent s.manager.toRouting) :
    Coherent (afterRelease env hdl s).manager.toRouting := by
  rw [afterRelease_toRouting]
  exact hcoherent.releaseSession hdl

/-- The connection is released: an identity that lost its last one is still marked. -/
theorem Present.released {marked : Prop} {but : Option String} (h : Present marked none s)
    (hbut : ∀ u : String, u ≠ "" → but ≠ some u → (releaseUserSession env hdl s).value ≠ u) :
    Present marked but (afterRelease env hdl s) := by
  have hconnected : ∀ u : String, but ≠ some u →
      (afterRelease env hdl s).manager.hasUserConnection u = s.manager.hasUserConnection u := by
    intro u hu
    rw [Bool.eq_iff_iff, afterRelease_connected h.coherent]
    refine and_iff_left_of_imp fun hbound => hbut u ?_ hu
    obtain ⟨k, hk⟩ := OrdMap.hasValue_iff.mp hbound
    exact h.coherent.bound_ne_empty k u hk
  refine ⟨afterRelease_coherent h.coherent, fun hmarked u hu => ?_, h.kinds, fun u hu => ?_⟩
  · rw [afterRelease_online, hconnected u hu]
    exact h.online hmarked u nofun
  · rw [hconnected u hu]
    exact h.shown u nofun

theorem Present.released_last {marked : Prop} (h : Present marked none s) :
    Present marked (some (releaseUserSession env hdl s).value) (afterRelease env hdl s) :=
  h.released fun u _ hu hsame => hu (by rw [hsame])

theorem Attended.released {but : Option String} (hstore : ∀ call, env.fails call = false)
    (h : Attended none s) (hpresent : Present True but (afterRelease env hdl s)) :
    Attended but (afterRelease env hdl s) := by
  obtain ⟨hreported, hbindings⟩ := Mutation.releaseSession_reported hdl s.manager.toRouting
  have hafter : (afterRelease env hdl s).manager = s.manager.after
      (Mutation.releaseSession hdl s.manager.toRouting).state
      (Mutation.releaseSession hdl s.manager.toRouting).events :=
    congrArg Prod.snd (TransmissionManager.does_releaseUserSession hdl s.manager)
  refine h.of_reported hstore hreported (fun k u hk => ?_) hafter ?_ hpresent
  · rw [hbindings, Std.ExtTreeMap.getElem?_erase] at hk
    split at hk
    · cases hk
    · exact hk
  · show (handedOver s.manager (afterRelease env hdl s).manager).foldl _ _ = _
    rw [hafter, handedOver_after h.idle hreported.about]

/-! ### The mark is taken back -/

/-- What `OnLogout` leaves of the presence. -/
def loggedOut (id : String) (p : PresenceManager) : PresenceManager :=
  let left := { p with associations := p.associations.erase id }.leave id
  if isTemporaryControllerId id then left.forget id else left

theorem onLogout_state (id : String) (s : Application) : (onLogout env id s).state = { s with
    presence := loggedOut id s.presence
    store := (s.store.setDeviceOnline (env.fails .setDeviceOnline) env.storeTime id false).2 } := by
  have hnotified : ∀ s : Application,
      (when (id ≠ "") (notifyUserDevices id false) s).state = s := by
    intro s
    unfold when
    split
    · rw [notifyUserDevices_eq]
    · rfl
  unfold onLogout
  rw [bind_state, bind_state, bind_state, bind_state, hnotified]
  unfold loggedOut when
  split <;> rfl

section Mark

variable {p : PresenceManager} {u : String} {online : Prop}

theorem loggedOut_shows (h : p.Shows id online) : (loggedOut id p).Shows id False := by
  have hleft : ({ p with associations := p.associations.erase id }.leave id).Shows id False :=
    PresenceManager.leave_shows (h.of_same ⟨rfl, rfl, rfl⟩)
  unfold loggedOut
  dsimp only
  split
  · exact hleft.of_same ⟨rfl, rfl, rfl⟩
  · exact hleft

theorem loggedOut_shows_other (hother : u ≠ id) (h : p.Shows u online) :
    (loggedOut id p).Shows u online := by
  have hleft : ({ p with associations := p.associations.erase id }.leave id).Shows u online :=
    PresenceManager.leave_shows_other hother (h.of_same ⟨rfl, rfl, rfl⟩)
  unfold loggedOut
  dsimp only
  split
  · exact hleft.of_same ⟨rfl, rfl, rfl⟩
  · exact hleft

end Mark

theorem onLogout_marks (hgone : s.manager.hasUserConnection id = false) :
    Marks (env.fails .setDeviceOnline) id env.storeTime s (onLogout env id s).state := by
  rw [onLogout_state]
  refine ⟨rfl, by rw [hgone], fun online h => ?_, fun u online hu h => loggedOut_shows_other hu h⟩
  simpa [hgone] using loggedOut_shows h

/-! ### The whole cleanup -/

/-- The rows of a temporary controller go with it. -/
def withoutController (env : Env) (id : String) (s : Application) : Application :=
  if isTemporaryControllerId (splitAtSign id).1 then
    { s with store := (s.store.removeDevice (env.fails .removeDevice) (splitAtSign id).1).2 }
  else s

/-- What a cleanup does, unless the server is stopping. -/
theorem cleanup_state (hrunning : env.stopping = false) : (cleanup env hdl s).state =
    if (releaseUserSession env hdl s).value = "" then afterRelease env hdl s
    else withoutController env (releaseUserSession env hdl s).value
      (onLogout env (releaseUserSession env hdl s).value (afterRelease env hdl s)).state := by
  unfold cleanup
  rw [hrunning, if_neg (by decide), bind_state]
  split
  · rfl
  · rw [bind_state]
    unfold withoutController
    split <;> rfl

theorem cleanup_stopping (hstopping : env.stopping = true) : (cleanup env hdl s).state = s := by
  unfold cleanup
  rw [hstopping, if_pos rfl]
  rfl

theorem withoutController_tends (hdl : ConnectionHdl) (id : String) : Tends env hdl s (withoutController env id s) := by
  unfold withoutController
  split
  · exact .of_spares env hdl rfl ⟨rfl, rfl, rfl⟩ (removeDevice_spares _ _)
  · exact .refl env hdl s

theorem withoutController_manager (id : String) : (withoutController env id s).manager = s.manager := by
  unfold withoutController
  split <;> rfl

theorem cleanup_bindings (hrunning : env.stopping = false) :
    (cleanup env hdl s).state.manager.wsHdlUserIdList = s.manager.wsHdlUserIdList.erase hdl := by
  have hreleased : (afterRelease env hdl s).manager.wsHdlUserIdList =
      s.manager.wsHdlUserIdList.erase hdl := by
    rw [afterRelease_toRouting]
    exact releaseSession_bindings hdl
  rw [cleanup_state hrunning]
  split
  · exact hreleased
  · rw [withoutController_manager, onLogout_state]
    exact hreleased

/-- The identity that lost its last connection has none. -/
theorem afterRelease_gone (hcoherent : Coherent s.manager.toRouting) :
    (afterRelease env hdl s).manager.hasUserConnection (releaseUserSession env hdl s).value = false := by
  by_contra hconnected
  rw [Bool.not_eq_false, afterRelease_connected hcoherent] at hconnected
  exact hconnected.2 rfl

/-- **A cleanup tends.** -/
theorem cleanup_tends : Tends env hdl s (cleanup env hdl s).state := by
  cases hstopping : env.stopping with
  | true =>
    rw [cleanup_stopping hstopping]
    exact .refl env hdl s
  | false =>
    refine ⟨fun k hk => ?_, fun marked hfails h => ?_, fun hstore h => ?_⟩
    · rw [cleanup_bindings hstopping, Std.ExtTreeMap.getElem?_erase,
        if_neg fun heq => hk (Std.LawfulEqOrd.eq_of_compare heq).symm]
    · have hgone := @afterRelease_gone env s hdl h.coherent
      rw [cleanup_state hstopping]
      split
      · next hnobody => exact h.released fun u hu _ => hnobody ▸ hu.symm
      · refine (withoutController_tends hdl _).present marked hfails ?_
        exact h.released_last.of_mark hfails (onLogout_marks hgone)
    · have hgone := @afterRelease_gone env s hdl h.coherent
      rw [cleanup_state hstopping]
      split
      · next hnobody => exact h.released hstore (h.toPresent.released fun u hu _ => hnobody ▸ hu.symm)
      · refine (withoutController_tends hdl _).attended hstore ?_
        exact (h.released hstore h.toPresent.released_last).of_mark (hstore .setDeviceOnline)
          (onLogout_marks hgone)

/-! ## Starting -/

/-- A manager that nobody is connected to yet, with rooms of devices. -/
structure Unserved (m : TransmissionManager) : Prop where
  unlocked : m.lockDepth = 0
  nothing : m.pendingNotifications = []
  nobody : m.wsHdlUserIdList = ∅
  hosts : ∀ tx host : String, m.transmissionHostIdList[tx]? = some host →
    isTemporaryControllerId host = false

theorem restored_unserved (manages : String → String → Bool) (db : DeviceDbManager) :
    Unserved (SignalServer.restorePersistedRemoteControlSessions manages db {}) := by
  refine restored_keeps ?_ (fun m hostId tx hm => ?_) (fun m g tx hm => ?_) manages db
  · refine ⟨rfl, rfl, rfl, fun tx host hhost => ?_⟩
    have hnone : (∅ : OrdMap String String)[tx]? = some host := hhost
    rw [Std.ExtTreeMap.getElem?_empty] at hnone
    cases hnone
  · obtain ⟨hreported, hbindings⟩ := Routing.bindHostToTransmission_reported hostId tx m.toRouting
    exact ⟨hm.unlocked, hm.nothing, hbindings.trans hm.nobody,
      fun tx' host hhost => (hreported.hosts tx' host hhost).elim (hm.hosts tx' host) id⟩
  · have hdoes := TransmissionManager.does_bindGuestToTransmission g tx m
    rw [hdoes]
    unfold TransmissionManager.after
    rw [if_neg (not_not.mpr hm.unlocked)]
    rcases Mutation.bindGuest_cases g tx m.toRouting with hno | ⟨host, -, -, -, -, -, hyes⟩
    · rw [hno]
      exact ⟨hm.unlocked, rfl, hm.nobody, hm.hosts⟩
    · rw [hyes]
      exact ⟨hm.unlocked, rfl, hm.nobody, hm.hosts⟩

/-- Nobody is online after a restart. -/
theorem reopen_online (now : Int) (db : DeviceDbManager) (u : String) :
    (reopen now db).online u = false := by
  show (db.initDb now).online u = false
  unfold initDb
  dsimp only
  rw [(recordRuntimeHeartbeat_spares now).online]
  unfold DeviceDbManager.online
  dsimp only
  rw [Std.ExtTreeMap.getElem?_map]
  cases db.devicePresence[u]? with
  | none => rfl
  | some row =>
    dsimp only [Option.map_some, Option.any_some]
    split
    · rfl
    · next hoffline => simpa using hoffline

/-- A session that survives a restart was there before. -/
theorem reopen_sessions {now : Int} {db : DeviceDbManager} {key : SessionKey} {hostId : String}
    (h : HasSession key hostId (reopen now db)) : HasSession key hostId db := by
  have hopened : HasSession key hostId (db.initDb now) := h
  unfold initDb at hopened
  obtain ⟨row, hrow, hhost⟩ := (recordRuntimeHeartbeat_spares now).sessions _ _ hopened
  dsimp only at hrow
  generalize (if 0 < db.lastSeenAt then min db.lastSeenAt now else 0) = cutoff at hrow
  split at hrow
  · rw [Std.ExtTreeMap.getElem?_map] at hrow
    obtain ⟨old, hold, rfl⟩ := Option.map_eq_some_iff.mp hrow
    exact ⟨old, hold, hhost⟩
  · rw [Std.ExtTreeMap.getElem?_empty] at hrow
    cases hrow

theorem reopen_devices (now : Int) (db : DeviceDbManager) : (reopen now db).devices = db.devices :=
  (initDb_reconnect now db).1

theorem boot_unserved : Unserved (boot cfg env s).state.manager := by
  have hrestored := restored_unserved (fun tx g =>
    (loadTickets (env.storeTime + cfg.recoveryTimeout) (reopen env.storeTime s.store)).contains
      (sessionKey tx g)) (reopen env.storeTime s.store)
  exact ⟨hrestored.unlocked, hrestored.nothing, hrestored.nobody, hrestored.hosts⟩

theorem boot_unconnected (u : String) :
    (boot cfg env s).state.manager.hasUserConnection u = false := by
  by_contra hconnected
  rw [Bool.not_eq_false] at hconnected
  obtain ⟨k, hk⟩ := OrdMap.hasValue_iff.mp hconnected
  rw [boot_unserved.nobody, Std.ExtTreeMap.getElem?_empty] at hk
  cases hk

/-- **Nobody is there after a restart.** -/
theorem boot_present {marked : Prop} : Present marked none (boot cfg env s).state := by
  have hshows : ∀ u : String, (boot cfg env s).state.presence.Shows u False := fun u => by
    constructor <;> simp [boot]
  refine ⟨restored_coherent _ _, fun _ u _ => ?_, fun u => ⟨False, hshows u⟩, fun u _ => ?_⟩
  · rw [boot_unconnected]
    exact reopen_online env.storeTime s.store u
  · rw [boot_unconnected]
    simpa using hshows u

theorem boot_attended (hsessions : ∀ tx g hostId : String, HasSession (sessionKey tx g) hostId s.store →
      RoomSession tx g hostId s) : Attended none (boot cfg env s).state where
  toPresent := boot_present
  idle := ⟨boot_unserved.unlocked, rfl, boot_unserved.nothing⟩
  hosts := boot_unserved.hosts
  controllers := by
    intro k u hbound
    rw [boot_unserved.nobody, Std.ExtTreeMap.getElem?_empty] at hbound
    cases hbound
  sessions := by
    intro tx g hostId hrow
    have hsession := hsessions tx g hostId (reopen_sessions hrow)
    refine ⟨hsession.named, hsession.host, fun htemporary => ?_, fun _ hconnected => ?_⟩
    · rw [show (boot cfg env s).state.store.devices = s.store.devices from reopen_devices _ _]
      exact hsession.device htemporary
    · rw [boot_unconnected] at hconnected
      cases hconnected

end Application

end CrossDesk
