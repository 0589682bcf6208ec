import CrossDesk.Application.Registration
import CrossDesk.DeviceDbManager.Sparing
import CrossDesk.TransmissionManager.Reports

/-!
# Who is there

What the routing tables, the presence rows, the online sets and the session rows say about the
connections, between two jobs.

* `Present`: an identity is marked online, in the database and in the set of its kind, exactly while a
  connection is bound to it.
* `Attended`: a connection of a temporary controller is its only one, and its device row is there; a
  session row of a temporary controller that is connected belongs to a room that it is in.

A login marks its identity online only after it has bound it. `but` is the identity that is exempt
meanwhile. `SetDeviceOnline` may fail without an exception, and nobody looks at what it returns: the rows
are right where it did not (`marked`), the sets in any case.

`Tends` says what a part of a job keeps: both invariants, and the bindings of all other connections. Every
act that is settled tends (`Act.tends`).
-/

namespace CrossDesk

open Logged DeviceDbManager

/-! ## The online sets -/

namespace PresenceManager

/-- The sets show whether the identity is online: the set of its kind, and no other. -/
structure Shows (id : String) (online : Prop) (p : PresenceManager) : Prop where
  device : id ∈ p.onlineDevices ↔ shouldTrackOnlineDevice id = true ∧ online
  web : id ∈ p.onlineWebClients ↔ isWebClient id = true ∧ online
  cli : id ∈ p.onlineCliClients ↔ isCliClient id = true ∧ online

theorem Shows.of_same {id : String} {online : Prop} {p p' : PresenceManager} (h : p.Shows id online)
    (hsame : p.SameSets p') : p'.Shows id online := by
  obtain ⟨hdevices, hweb, hcli⟩ := hsame
  refine ⟨?_, ?_, ?_⟩
  · rw [hdevices]
    exact h.device
  · rw [hweb]
    exact h.web
  · rw [hcli]
    exact h.cli

/-- A web client is neither a device nor a command line controller. -/
theorem kinds_apart (id : String) :
    (isWebClient id = true → isCliClient id = false) ∧
      (shouldTrackOnlineDevice id = true → isWebClient id = false ∧ isCliClient id = false) := by
  constructor
  · intro hweb
    obtain ⟨t, rfl⟩ := startsWith_iff.mp hweb
    simp [isCliClient, startsWith, List.isPrefixOf]
  · intro hdevice
    unfold shouldTrackOnlineDevice isTemporaryControllerId at hdevice
    simp only [Bool.and_eq_true, Bool.not_eq_true', Bool.or_eq_false_iff] at hdevice
    exact hdevice.1

section Sets

variable {id id' : String} {online : Prop} {p : PresenceManager}

/-- An identity that enters is in the set of its kind. -/
theorem enter_shows (h : p.Shows id online) : (p.enter id).Shows id True := by
  have hkinds := kinds_apart id
  obtain ⟨hdevice, hweb, hcli⟩ := h
  unfold enter
  split_ifs <;> constructor <;> grind

/-- An identity that leaves is in no set. -/
theorem leave_shows (h : p.Shows id online) : (p.leave id).Shows id False := by
  have hkinds := kinds_apart id
  obtain ⟨hdevice, hweb, hcli⟩ := h
  unfold leave
  split_ifs <;> constructor <;> grind

theorem enter_shows_other (hother : id' ≠ id) (h : p.Shows id' online) :
    (p.enter id).Shows id' online := by
  obtain ⟨hdevice, hweb, hcli⟩ := h
  unfold enter
  split_ifs <;> constructor <;> grind

theorem leave_shows_other (hother : id' ≠ id) (h : p.Shows id' online) :
    (p.leave id).Shows id' online := by
  obtain ⟨hdevice, hweb, hcli⟩ := h
  unfold leave
  split_ifs <;> constructor <;> grind

end Sets

end PresenceManager

/-! ## The invariants -/

namespace Application

/-- What is marked online is what is connected: in the sets, and where the marks were written, in the
rows. -/
structure Present (marked : Prop) (but : Option String) (s : Application) : Prop where
  coherent : Coherent s.manager.toRouting
  online : marked → ∀ id : String, but ≠ some id →
    s.store.online id = s.manager.hasUserConnection id
  kinds : ∀ id : String, ∃ online : Prop, s.presence.Shows id online
  shown : ∀ id : String, but ≠ some id →
    s.presence.Shows id (s.manager.hasUserConnection id = true)

/-- What is known of a connection of a temporary controller. -/
structure SoleConnection (u : String) (hdl : ConnectionHdl) (s : Application) : Prop where
  device : s.store.devices.contains u = true
  plain : '@' ∉ u.toList
  sole : ∀ hdl' : ConnectionHdl, s.manager.wsHdlUserIdList[hdl']? = some u → hdl' = hdl

/-- What is known of a session row. -/
structure RoomSession (tx g hostId : String) (s : Application) : Prop where
  named : tx ≠ "" ∧ g ≠ ""
  host : isTemporaryControllerId hostId = false
  device : isTemporaryControllerId g = true → s.store.devices.contains g = true
  joined : isTemporaryControllerId g = true → s.manager.hasUserConnection g = true →
    g ∈ s.manager.guestsOf tx

/-- The rows fit the connections. -/
structure Attended (but : Option String) (s : Application) : Prop extends Present True but s where
  idle : s.manager.Idle
  hosts : ∀ tx host : String, s.manager.transmissionHostIdList[tx]? = some host →
    isTemporaryControllerId host = false
  controllers : ∀ (hdl : ConnectionHdl) (u : String), s.manager.wsHdlUserIdList[hdl]? = some u →
    isTemporaryControllerId u = true → SoleConnection u hdl s
  sessions : ∀ tx g hostId : String, HasSession (sessionKey tx g) hostId s.store →
    RoomSession tx g hostId s

/-! ## The callbacks -/

theorem callback_online (env : Env) (note : Notification) (db : DeviceDbManager) (id : String) :
    (remoteControlSessionCallback env db note).online id = db.online id := by
  cases note with
  | remoteControl tx host g started =>
    cases started with
    | true => exact startRemoteControlSession_online _ _ _ _ _ _
    | false => exact (endRemoteControlSession_spares _ _ _ _).online id
  | sessionTimeout => rfl

theorem callbacks_online (env : Env) (notes : List Notification) (db : DeviceDbManager)
    (id : String) : (notes.foldl (remoteControlSessionCallback env) db).online id = db.online id := by
  induction notes generalizing db with
  | nil => rfl
  | cons note notes ih => rw [List.foldl_cons, ih, callback_online]

/-- A session row after the callbacks was there before and did not end, or was started. -/
theorem callbacks_sessions {env : Env} (hstore : ∀ call, env.fails call = false)
    (notes : List Notification) (db : DeviceDbManager) {tx g hostId : String} (htx : tx ≠ "")
    (hg : g ≠ "")
    (h : HasSession (sessionKey tx g) hostId (notes.foldl (remoteControlSessionCallback env) db)) :
    HasSession (sessionKey tx g) hostId db ∧ (∀ host : String, .remoteControl tx host g false ∉ notes) ∨
      .remoteControl tx hostId g true ∈ notes := by
  induction notes generalizing db with
  | nil => exact .inl ⟨h, fun _ hnote => List.not_mem_nil hnote⟩
  | cons note notes ih =>
    rw [List.foldl_cons] at h
    rcases ih _ h with ⟨hrow, hkept⟩ | hstarted
    · cases note with
      | remoteControl tx' host' g' started =>
        cases started with
        | true =>
          rcases startRemoteControlSession_added hrow with hold | ⟨hkey, rfl, -, -⟩
          · refine .inl ⟨hold, fun host hnote => ?_⟩
            rcases List.mem_cons.mp hnote with hsame | hnote
            · cases hsame
            · exact hkept host hnote
          · obtain ⟨rfl, rfl⟩ := sessionKey_inj hkey
            exact .inr (List.mem_cons_self ..)
        | false =>
          have hold : HasSession (sessionKey tx g) hostId db :=
            (endRemoteControlSession_spares _ _ _ _).sessions _ _ hrow
          refine .inl ⟨hold, fun host hnote => ?_⟩
          rcases List.mem_cons.mp hnote with hsame | hnote
          · cases hsame
            rw [remoteControlSessionCallback, hstore] at hrow
            exact endRemoteControlSession_left htx hg hrow rfl
          · exact hkept host hnote
      | sessionTimeout =>
        refine .inl ⟨hrow, fun host hnote => ?_⟩
        rcases List.mem_cons.mp hnote with hsame | hnote
        · cases hsame
        · exact hkept host hnote
    · exact .inr (List.mem_cons_of_mem _ hstarted)

/-- A session that callbacks started has a room with a name. -/
theorem callbacks_named {env : Env} (notes : List Notification) (db : DeviceDbManager)
    {tx g hostId : String}
    (h : HasSession (sessionKey tx g) hostId (notes.foldl (remoteControlSessionCallback env) db)) :
    HasSession (sessionKey tx g) hostId db ∨ tx ≠ "" ∧ g ≠ "" := by
  induction notes generalizing db with
  | nil => exact .inl h
  | cons note notes ih =>
    rw [List.foldl_cons] at h
    rcases ih _ h with hrow | hnamed
    · cases note with
      | remoteControl tx' host' g' started =>
        cases started with
        | true =>
          rcases startRemoteControlSession_added hrow with hold | ⟨hkey, -, hnamed⟩
          · exact .inl hold
          · obtain ⟨rfl, rfl⟩ := sessionKey_inj hkey
            exact .inr hnamed
        | false => exact .inl ((endRemoteControlSession_spares _ _ _ _).sessions _ _ hrow)
      | sessionTimeout => exact .inl hrow
    · exact .inr hnamed

/-! ## Steps that keep the invariants -/

section Steps

variable {marked : Prop} {but : Option String} {s s' : Application}

/-- The connections are who they were, and the same identities are online. -/
theorem Present.of_same (h : Present marked but s) (hcoherent : Coherent s'.manager.toRouting)
    (hbindings : s'.manager.wsHdlUserIdList = s.manager.wsHdlUserIdList)
    (honline : ∀ id : String, s'.store.online id = s.store.online id)
    (hsets : s.presence.SameSets s'.presence) : Present marked but s' := by
  have hconnected : ∀ id : String,
      s'.manager.hasUserConnection id = s.manager.hasUserConnection id := by
    intro id
    unfold Routing.hasUserConnection
    rw [hbindings]
  refine ⟨hcoherent, fun hmarked id hid => ?_, fun id => ?_, fun id hid => ?_⟩
  · rw [honline, hconnected]
    exact h.online hmarked id hid
  · obtain ⟨online, hshows⟩ := h.kinds id
    exact ⟨online, hshows.of_same hsets⟩
  · rw [hconnected]
    exact (h.shown id hid).of_same hsets

/-- Where the marks are less known about, less is said. -/
theorem Present.mono {marked' : Prop} (h : Present marked but s) (hmarked : marked' → marked) :
    Present marked' but s :=
  ⟨h.coherent, fun hm => h.online (hmarked hm), h.kinds, h.shown⟩

/-- The exempt identity is marked as what it is, unless the statement `failed`. -/
structure Marks (failed : Bool) (id : String) (now : Int) (s s' : Application) : Prop where
  manager : s'.manager = s.manager
  store : s'.store = (s.store.setDeviceOnline failed now id (s.manager.hasUserConnection id)).2
  shown : ∀ online : Prop, s.presence.Shows id online →
    s'.presence.Shows id (s.manager.hasUserConnection id = true)
  others : ∀ (u : String) (online : Prop), u ≠ id → s.presence.Shows u online →
    s'.presence.Shows u online

theorem Present.of_mark {failed : Bool} {id : String} {now : Int} (h : Present marked (some id) s)
    (hwritten : marked → failed = false) (hmark : Marks failed id now s s') :
    Present marked none s' := by
  have hother : ∀ {u : String}, u ≠ id → some id ≠ some u :=
    fun hu hsame => hu (Option.some.inj hsame).symm
  refine ⟨hmark.manager ▸ h.coherent, fun hmarked u _ => ?_, fun u => ?_, fun u _ => ?_⟩
  · rw [hmark.store, hmark.manager, hwritten hmarked, setDeviceOnline_online]
    split
    · next hsame => rw [hsame]
    · next hu => exact h.online hmarked u (hother hu)
  · obtain ⟨online, hshows⟩ := h.kinds u
    by_cases hsame : u = id
    · subst hsame
      exact ⟨_, hmark.shown online hshows⟩
    · exact ⟨online, hmark.others u online hsame hshows⟩
  · rw [hmark.manager]
    by_cases hsame : u = id
    · subst hsame
      obtain ⟨online, hshows⟩ := h.kinds u
      exact hmark.shown online hshows
    · exact hmark.others u _ hsame (h.shown u (hother hsame))

theorem Attended.of_mark {failed : Bool} {id : String} {now : Int} (h : Attended (some id) s)
    (hwritten : failed = false) (hmark : Marks failed id now s s') : Attended none s' where
  toPresent := h.toPresent.of_mark (fun _ => hwritten) hmark
  idle := hmark.manager ▸ h.idle
  hosts := hmark.manager ▸ h.hosts
  controllers := by
    intro k u hbound htemporary
    rw [hmark.manager] at hbound
    have hsole := h.controllers k u hbound htemporary
    refine ⟨?_, hsole.plain, hmark.manager ▸ hsole.sole⟩
    rw [hmark.store, setDeviceOnline_devices]
    exact hsole.device
  sessions := by
    intro tx g hostId hrow
    rw [hmark.store] at hrow
    have hsession := h.sessions tx g hostId (.of_sessions (setDeviceOnline_sessions _ _ _ _) hrow)
    refine ⟨hsession.named, hsession.host, ?_, hmark.manager ▸ hsession.joined⟩
    rw [hmark.store, setDeviceOnline_devices]
    exact hsession.device

/-- The routing is what it was, and the store spares what is in use. -/
theorem Attended.of_spares (h : Attended but s) (hmanager : s'.manager = s.manager)
    (hsets : s.presence.SameSets s'.presence)
    (hspares : Spares s.store s'.store)
    (hbut : ∀ u : String, but = some u → isTemporaryControllerId u = true →
      s.store.devices.contains u = true → s'.store.devices.contains u = true) :
    Attended but s' where
  toPresent := h.toPresent.of_same (hmanager ▸ h.coherent) (by rw [hmanager]) hspares.online hsets
  idle := hmanager ▸ h.idle
  hosts := hmanager ▸ h.hosts
  controllers := by
    intro hdl u hbound htemporary
    rw [hmanager] at hbound
    have hsole := h.controllers hdl u hbound htemporary
    refine ⟨?_, hsole.plain, hmanager ▸ hsole.sole⟩
    by_cases hexempt : but = some u
    · exact hbut u hexempt htemporary hsole.device
    · refine hspares.controllers u htemporary hsole.device (.inl ?_)
      rw [h.online trivial u hexempt]
      exact OrdMap.hasValue_iff.mpr ⟨hdl, hbound⟩
  sessions := by
    intro tx g hostId hrow
    have hsession := h.sessions tx g hostId (hspares.sessions _ _ hrow)
    refine ⟨hsession.named, hsession.host, fun htemporary => ?_, hmanager ▸ hsession.joined⟩
    exact hspares.controllers g htemporary (hsession.device htemporary) (.inr ⟨tx, hostId, hrow⟩)

/-- A call of the manager: what it reports is what happened to the rows. -/
theorem Attended.of_reported {env : Env} {but' : Option String}
    (hstore : ∀ call, env.fails call = false) (h : Attended but s) {maps : Routing} {notes : List Notification}
    (hreported : Reported s.manager.toRouting notes maps)
    (hbindings : ∀ (hdl : ConnectionHdl) (u : String), maps.wsHdlUserIdList[hdl]? = some u →
      s.manager.wsHdlUserIdList[hdl]? = some u)
    (hmanager : s'.manager = s.manager.after maps notes)
    (hdb : s'.store = notes.foldl (remoteControlSessionCallback env) s.store)
    (hpresent : Present True but' s') : Attended but' s' where
  toPresent := hpresent
  idle := hmanager ▸ h.idle.after maps notes
  hosts := by
    intro tx host hhost
    rw [hmanager, TransmissionManager.after_toRouting] at hhost
    exact (hreported.hosts tx host hhost).elim (h.hosts tx host) id
  controllers := by
    intro hdl u hbound htemporary
    rw [hmanager, TransmissionManager.after_toRouting] at hbound
    have hsole := h.controllers hdl u (hbindings hdl u hbound) htemporary
    refine ⟨?_, hsole.plain, fun hdl' hbound' => hsole.sole hdl' (hbindings hdl' u ?_)⟩
    · rw [hdb, callbacks_devices]
      exact hsole.device
    · rwa [hmanager, TransmissionManager.after_toRouting] at hbound'
  sessions := by
    intro tx g hostId hrow
    rw [hdb] at hrow
    have hconnected : ∀ {u : String}, s'.manager.hasUserConnection u = true →
        s.manager.hasUserConnection u = true := by
      intro u hu
      obtain ⟨hdl, hbound⟩ := OrdMap.hasValue_iff.mp hu
      rw [hmanager, TransmissionManager.after_toRouting] at hbound
      exact OrdMap.hasValue_iff.mpr ⟨hdl, hbindings hdl u hbound⟩
    have hnamed : tx ≠ "" ∧ g ≠ "" := by
      rcases callbacks_named notes s.store hrow with hold | hnamed
      · exact (h.sessions tx g hostId hold).named
      · exact hnamed
    rcases callbacks_sessions hstore notes s.store hnamed.1 hnamed.2 hrow with ⟨hold, hkept⟩ | hstarted
    · have hsession := h.sessions tx g hostId hold
      refine ⟨hnamed, hsession.host, fun htemporary => ?_, fun htemporary hbound => ?_⟩
      · rw [hdb, callbacks_devices]
        exact hsession.device htemporary
      -- A controller that left its room was reported, and the report deletes the row.
      · by_contra hgone
        rw [hmanager, TransmissionManager.after_toRouting] at hgone
        obtain ⟨host, hended⟩ := hreported.ended tx g (hsession.joined htemporary (hconnected hbound)) hgone
        exact hkept host hended
    · obtain ⟨hhost, hguest, hbound⟩ := hreported.started tx hostId g hstarted
      refine ⟨hnamed, h.hosts tx hostId hhost, fun htemporary => ?_, fun _ _ => ?_⟩
      · obtain ⟨hdl, hbound⟩ := OrdMap.hasValue_iff.mp hbound
        rw [hdb, callbacks_devices]
        exact (h.controllers hdl g (hbindings hdl g hbound) htemporary).device
      · rw [hmanager, TransmissionManager.after_toRouting]
        exact hguest

/-- A session is started whose host is a device, for a guest that is in the room if it is a connected
controller. -/
theorem Attended.started (h : Attended but s) (env : Env) {tx hostId g : String}
    (hhost : isTemporaryControllerId hostId = false)
    (hguest : isTemporaryControllerId g = true → s.store.devices.contains g = true ∧
      (s.manager.hasUserConnection g = true → g ∈ s.manager.guestsOf tx)) :
    Attended but (startRemoteControlSession env tx hostId g s).state where
  toPresent := h.toPresent.of_same h.coherent rfl
    (startRemoteControlSession_online _ _ _ _ _) ⟨rfl, rfl, rfl⟩
  idle := h.idle
  hosts := h.hosts
  controllers := by
    intro hdl u hbound htemporary
    have hsole := h.controllers hdl u hbound htemporary
    refine ⟨?_, hsole.plain, hsole.sole⟩
    rw [show (startRemoteControlSession env tx hostId g s).state.store.devices = s.store.devices from
      startRemoteControlSession_devices _ _ _ _ _ _]
    exact hsole.device
  sessions := by
    intro tx' g' hostId' hrow
    have hdevices : (startRemoteControlSession env tx hostId g s).state.store.devices =
        s.store.devices := startRemoteControlSession_devices _ _ _ _ _ _
    rcases startRemoteControlSession_added hrow with hold | ⟨hkey, rfl, hnamed⟩
    · have hsession := h.sessions tx' g' hostId' hold
      refine ⟨hsession.named, hsession.host, ?_, hsession.joined⟩
      rw [hdevices]
      exact hsession.device
    · obtain ⟨rfl, rfl⟩ := sessionKey_inj hkey
      refine ⟨hnamed, hhost, fun htemporary => ?_, fun htemporary => (hguest htemporary).2⟩
      rw [hdevices]
      exact (hguest htemporary).1

/-! ## Acts -/

/-- The calls about rooms report what they do, and leave alone who the connections are. -/
theorem rooms_reported {op : Operation} (hop : op.isAboutRooms = true) (m : TransmissionManager) :
    ∃ (maps : Routing) (notes : List Notification), Reported m.toRouting notes maps ∧
      maps.wsHdlUserIdList = m.wsHdlUserIdList ∧ (op.apply m).toRouting = maps ∧
      (m.Idle → op.apply m = m.after maps notes) := by
  have hreleases : ∀ {α : Type} {f : TransmissionManager → α × TransmissionManager} {mutation : Mutation α},
      TransmissionManager.Does f mutation → Follows Releases mutation → (f m).2 = op.apply m →
      ∃ (maps : Routing) (notes : List Notification), Reported m.toRouting notes maps ∧
        maps.wsHdlUserIdList = m.wsHdlUserIdList ∧ (op.apply m).toRouting = maps ∧
        (m.Idle → op.apply m = m.after maps notes) := by
    intro α f mutation hdoes hfollows happly
    have hreleases := hfollows m.toRouting
    refine ⟨_, _, hreleases.reported, hreleases.trimmed.bindings, ?_, fun _ => ?_⟩
    · rw [← happly, hdoes.maps]
    · rw [← happly, hdoes m]
  cases op with
  | bindHostToTransmission hostId tx =>
    obtain ⟨hreported, hbindings⟩ :=
      Routing.bindHostToTransmission_reported hostId tx m.toRouting
    refine ⟨_, _, hreported, hbindings, rfl, fun hidle => ?_⟩
    rw [hidle.after_nil]
    rfl
  | bindGuestHandleToTransmission expired g tx hdl =>
    have hdoes := TransmissionManager.does_bindGuestHandleToTransmission expired g tx hdl
    obtain ⟨hreported, hbindings⟩ := Mutation.bindGuestHandle_reported expired g tx hdl m.toRouting
    exact ⟨_, _, hreported, hbindings, hdoes.maps m, fun _ => congrArg Prod.snd (hdoes m)⟩
  | releaseGuestFromTransmission g tx =>
    exact hreleases (TransmissionManager.does_releaseGuestFromTransmission g tx)
      (Mutation.releaseGuest_releases g tx) rfl
  | releaseTransmission tx =>
    exact hreleases (TransmissionManager.does_releaseTransmission tx)
      (Mutation.releaseRoom_releases tx) rfl
  | disconnectTransmission tx =>
    exact hreleases (TransmissionManager.does_disconnectTransmission tx)
      (Mutation.disconnectRoom_releases tx) rfl
  | pruneDisconnectedTransmissions expired =>
    exact hreleases (TransmissionManager.does_pruneDisconnectedTransmissions expired)
      (Mutation.prune_releases expired) rfl
  | _ => cases hop

theorem handedOver_after {m : TransmissionManager} (hidle : m.Idle) {maps : Routing}
    {notes : List Notification} (hnotes : ∀ note ∈ notes, note.isRemoteControl = true) :
    handedOver m (m.after maps notes) = notes := hidle.delivered hnotes

/-- What a part of a job keeps that speaks for one connection. -/
structure Tends (env : Env) (hdl : ConnectionHdl) (s s' : Application) : Prop where
  others : ∀ hdl' : ConnectionHdl, hdl' ≠ hdl →
    s'.manager.wsHdlUserIdList[hdl']? = s.manager.wsHdlUserIdList[hdl']?
  present : ∀ marked : Prop, (marked → env.fails .setDeviceOnline = false) →
    Present marked none s → Present marked none s'
  attended : (∀ call, env.fails call = false) → Attended none s → Attended none s'

theorem Tends.refl (env : Env) (hdl : ConnectionHdl) (s : Application) : Tends env hdl s s :=
  ⟨fun _ _ => rfl, fun _ _ h => h, fun _ h => h⟩

theorem Tends.trans {env : Env} {hdl : ConnectionHdl} {s'' : Application} (h : Tends env hdl s s')
    (h' : Tends env hdl s' s'') : Tends env hdl s s'' :=
  ⟨fun hdl' hother => (h'.others hdl' hother).trans (h.others hdl' hother),
    fun marked hfails hs => h'.present marked hfails (h.present marked hfails hs),
    fun hstore hs => h'.attended hstore (h.attended hstore hs)⟩

theorem composes_tends (env : Env) (hdl : ConnectionHdl) :
    Composes (fun s (_ : List Event) s' => Tends env hdl s s') where
  refl := .refl env hdl
  trans := .trans

/-- The calls about rooms tend. -/
theorem called_tends (env : Env) (hdl : ConnectionHdl) (s : Application) {op : Operation}
    (hop : op.isAboutRooms = true) :
    Tends env hdl s { s with
      manager := op.apply s.manager
      store := (handedOver s.manager (op.apply s.manager)).foldl
        (remoteControlSessionCallback env) s.store } := by
  obtain ⟨maps, notes, hreported, hbindings, hmaps, hafter⟩ := rooms_reported hop s.manager
  have hsame : (op.apply s.manager).wsHdlUserIdList = s.manager.wsHdlUserIdList := by
    rw [hmaps, hbindings]
  have hpresent : ∀ {marked : Prop} {but : Option String}, Present marked but s →
      Present marked but { s with
      manager := op.apply s.manager
      store := (handedOver s.manager (op.apply s.manager)).foldl
        (remoteControlSessionCallback env) s.store } :=
    fun h => h.of_same (h.coherent.apply op) hsame (callbacks_online env _ s.store) ⟨rfl, rfl, rfl⟩
  refine ⟨fun _ _ => by rw [hsame], fun _ _ h => hpresent h, fun hstore h => ?_⟩
  have hmanager := hafter h.idle
  refine h.of_reported hstore hreported (fun _ _ hbound => hbindings ▸ hbound) hmanager ?_
    (hpresent h.toPresent)
  show (handedOver s.manager (op.apply s.manager)).foldl _ _ = _
  rw [hmanager, handedOver_after h.idle hreported.about]

/-- Where the routing stays and the store spares what is in use. -/
theorem Tends.of_spares (env : Env) (hdl : ConnectionHdl) (hmanager : s'.manager = s.manager)
    (hsets : s.presence.SameSets s'.presence) (hspares : Spares s.store s'.store) :
    Tends env hdl s s' := by
  refine ⟨fun _ _ => by rw [hmanager], fun _ _ h => ?_, fun _ h => ?_⟩
  · exact h.of_same (hmanager ▸ h.coherent) (by rw [hmanager]) hspares.online hsets
  · exact h.of_spares hmanager hsets hspares nofun

end Steps

end Application

theorem StoreCalled.spares {sha : Sha256} {db db' : DeviceDbManager} (h : StoreCalled sha db db') :
    Spares db db' := by
  cases h with
  | updateDeviceClientInfo => exact updateDeviceClientInfo_spares _ _ _ _ _
  | endRemoteControlSession => exact endRemoteControlSession_spares _ _ _ _
  | endRemoteControlTransmission => exact endRemoteControlTransmission_spares _ _ _
  | recordRuntimeHeartbeat => exact recordRuntimeHeartbeat_spares _
  | issueReconnectCredential fails now random id =>
    rcases issue_cases sha fails now random id db with hnone | ⟨bytes, password, -, -, hsome⟩
    · rw [hnone]
      exact .refl db
    · rw [hsome]
      exact .of_same rfl rfl rfl
  | revokeReconnectCredential =>
    unfold DeviceDbManager.revokeReconnectCredential
    split
    · exact .refl db
    · exact .of_same rfl rfl rfl
  | removeDevice => exact removeDevice_spares _ _
  | cleanupTemporaryControllers => exact cleanupTemporaryControllers_spares _ _ _
  | cleanupExpiredDevices => exact cleanupExpiredDevices_spares _ _ _ _
  | adminDeviceData => exact adminDeviceData_spares _ _

namespace Application

/-- **What is settled tends**, whatever connection it speaks for. -/
theorem Act.tends {cfg : Config} {env : Env} {s s' : Application} {es : List Event}
    (h : Act cfg env true s es s') (hdl : ConnectionHdl) : Tends env hdl s s' := by
  cases h with
  | told => exact .refl env hdl s
  | aside hmanager hstore _ _ hsets =>
    refine .of_spares env hdl hmanager (hsets rfl) ?_
    rw [hstore]
    exact .of_same rfl rfl rfl
  | forgot => exact .of_spares env hdl rfl ⟨rfl, rfl, rfl⟩ (.refl _)
  | stored hcalled => exact .of_spares env hdl rfl ⟨rfl, rfl, rfl⟩ hcalled.spares
  | started tx hostId g hstarts =>
    refine ⟨fun _ _ => rfl, fun _ _ h => ?_, fun _ h => ?_⟩
    · exact h.of_same h.coherent rfl (startRemoteControlSession_online _ _ _ _ _) ⟨rfl, rfl, rfl⟩
    · cases hstarts rfl with
      | listed hrow hhost =>
        have hsession := h.sessions tx g hostId ⟨_, hrow, hhost⟩
        exact h.started env hsession.host
          fun htemporary => ⟨hsession.device htemporary, hsession.joined htemporary⟩
      | admitted hhost hguest hbound =>
        exact h.started env (h.hosts tx hostId hhost)
          fun htemporary => ⟨(h.controllers _ g hbound htemporary).device, fun _ => hguest⟩
  | marked _ _ hsettled => cases hsettled
  | called op hrooms => exact called_tends env hdl s (hrooms rfl)
  | dispatched => exact .of_spares env hdl rfl ⟨rfl, rfl, rfl⟩ (.refl _)
  | taken => exact .of_spares env hdl rfl ⟨rfl, rfl, rfl⟩ (.refl _)
  | forwarded => exact .refl env hdl s
  | @disconnected _ _ remoteUserId transmissionId =>
    exact called_tends env hdl s
      (show (Operation.releaseGuestFromTransmission remoteUserId transmissionId).isAboutRooms = true
        from rfl)

/-! ## The logins that wait -/

/-- The logins that wait for a password are those of devices. -/
def DeviceLogins (s : Application) : Prop :=
  ∀ work ∈ s.pending, ∀ (deviceId password : String) (record : Option DevicePasswordRecord)
    (identity bindLoginKey : String) (finish : FinishLogin),
    work.work = .authenticate deviceId password record identity bindLoginKey (.login finish) →
      isTemporaryControllerId finish.hostId = false

theorem DeviceLogins.of_subset {s s' : Application} (h : s.DeviceLogins) (hpending : s'.pending ⊆ s.pending) :
    s'.DeviceLogins := fun work hwork => h work (hpending hwork)

theorem composes_deviceLogins :
    Composes (fun s (_ : List Event) s' => DeviceLogins s → DeviceLogins s') :=
  composes_keeping DeviceLogins

theorem Act.deviceLogins {cfg : Config} {env : Env} {settled : Bool} {s s' : Application}
    {es : List Event} (h : Act cfg env settled s es s') (hs : s.DeviceLogins) : s'.DeviceLogins := by
  cases h with
  | aside _ _ hpending =>
    refine hs.of_subset ?_
    rw [hpending]
    exact List.Subset.refl _
  | dispatched work hrequest =>
    intro work' hwork deviceId password record identity bindLoginKey finish hlogin
    rcases List.mem_append.mp hwork with hwork | hwork
    · exact hs work' hwork _ _ _ _ _ _ hlogin
    · rw [List.mem_singleton.mp hwork] at hlogin
      rw [hlogin] at hrequest
      cases hrequest with
      | login _ _ _ _ _ hhost _ _ htemporary =>
        rw [hhost]
        exact htemporary
  | taken n => exact hs.of_subset (List.eraseIdx_subset ..)
  | _ => exact hs

end Application

/-- Whatever the jobs are, only logins of devices wait. -/
theorem World.after_deviceLogins {cfg : Config} {env : Env} {w : World} (hw : w.app.DeviceLogins)
    (job : Job) : (w.after cfg job env).app.DeviceLogins := by
  have hdoes : Application.Does cfg env w.app job _ _ := Application.does_program w.app job
  show Application.DeviceLogins (job.program cfg env w.app).state
  generalize (job.program cfg env w.app).events = es at hdoes
  generalize (job.program cfg env w.app).state = s' at hdoes ⊢
  cases hdoes with
  | acts hacts => exact hacts.lift Application.composes_deviceLogins (fun _ _ _ h => h.deviceLogins) hw
  | committed hwork hother hcommit hacts =>
    refine hacts.lift Application.composes_deviceLogins (fun _ _ _ h => h.deviceLogins) ?_
    exact hw.of_subset (List.eraseIdx_subset ..)
  | changed => exact hw.of_subset (List.eraseIdx_subset ..)
  | restarted => exact fun _ hwork => (List.not_mem_nil hwork).elim

theorem server_deviceLogins {cfg : Config} {db : DeviceDbManager}
    {assumed : World → Job → Env → Prop} {w : World} (h : (server cfg db assumed).Reachable w) :
    w.app.DeviceLogins := by
  refine h.invariant (I := fun w => w.app.DeviceLogins) ?_ ?_
  · rintro w ⟨env, rfl⟩
    exact World.after_deviceLogins (fun _ hwork => (List.not_mem_nil hwork).elim) .restart
  · rintro w ⟨job, env⟩ w' hw ⟨_, _, rfl⟩
    exact World.after_deviceLogins hw job

end CrossDesk
