import CrossDesk.Application.TruthfulPresence
import CrossDesk.DeviceDbManager.OtherRows

/-!
# Temporary controllers

A web client or a command line controller is gone when its connection is (`controller_vanishes`). Four
components take part in one job, in this order: the routing releases the session and reports the
memberships that end, the database ends their sessions, the presence forgets the identity, and the
database removes the identity unless something still claims it.

A session that could not be deleted earlier would claim it for good. `Attended` holds in every world of a
server whose store does not fail (`server_attended`), and says that the session rows of a controller that
is connected belong to rooms that it is in. So all of them end with it.
-/

namespace CrossDesk

open Logged DeviceDbManager

/-- Nobody watches the identity or its alias, and they watch nobody. -/
structure PresenceManager.Forgets (u : String) (p : PresenceManager) : Prop where
  watches : ∀ id ∈ pair u, p.associations[id]? = none
  watched : ∀ (id : String) (watched : Finset String), p.associations[id]? = some watched →
    ∀ v ∈ pair u, v ∉ watched

theorem PresenceManager.forget_forgets (u : String) (p : PresenceManager) : (p.forget u).Forgets u := by
  have hrow : ∀ id : String, (p.forget u).associations[id]? =
      (((p.associations.erase u).erase ("C-" ++ u))[id]?).map
        (fun watched => (watched.erase u).erase ("C-" ++ u)) := by
    intro id
    unfold forget
    dsimp only
    rw [Std.ExtTreeMap.getElem?_map]
  refine ⟨fun id hid => ?_, fun id watched hwatched v hv => ?_⟩
  · rw [hrow, show (p.associations.erase u).erase ("C-" ++ u) = erasePair u p.associations from rfl,
      getElem?_erasePair, if_pos hid, Option.map_none]
  · rw [hrow] at hwatched
    obtain ⟨old, -, rfl⟩ := Option.map_eq_some_iff.mp hwatched
    simp only [pair, List.mem_cons, List.not_mem_nil, or_false] at hv
    rcases hv with rfl | rfl
    · simp
    · simp

/-- A release of the last connection of an identity that hosts no room ends its memberships only. -/
theorem LastRelease.ends_own {u : String} {hdl : ConnectionHdl} {r r' : Routing}
    {notes : List Notification} (hlast : LastRelease u hdl r r' notes) (hhosts : r.isHost u = "") :
    ∀ note ∈ notes, ∃ tx host : String, note = .remoteControl tx host u false := by
  intro note hnote
  have hnotes := hlast.notified
  rw [if_pos hhosts, List.append_nil, hlast.joined.notes_eq, hlast.everywhere.notes_eq] at hnotes
  rw [hnotes] at hnote
  rcases List.mem_append.mp hnote with hnote | hnote
  · obtain ⟨tx, -, rfl⟩ := List.mem_map.mp hnote
    exact ⟨tx, _, rfl⟩
  · obtain ⟨tx, -, rfl⟩ := List.mem_map.mp hnote
    exact ⟨tx, _, rfl⟩

namespace Application

variable {cfg : Config} {env : Env} {s : Application} {hdl : ConnectionHdl} {u : String}

/-- A connection is bound to the alias of the controller, or a session names it. -/
def AliasInUse (u : String) (s : Application) : Prop :=
  (∃ k : ConnectionHdl, s.manager.wsHdlUserIdList[k]? = some ("C-" ++ u)) ∨
    ¬ Unnamed ("C-" ++ u) s.store

/-- What is left of a controller, and what is left of all others. -/
structure Vanished (u : String) (s s' : Application) : Prop where
  not_guest : ∀ tx : String, u ∉ s'.manager.guestsOf tx
  not_host : ∀ tx : String, s'.manager.transmissionHostIdList[tx]? ≠ some u
  unnamed : Unnamed u s'.store
  forgotten : s'.presence.Forgets u
  wiped : ¬ AliasInUse u s' → Wiped u s'.store
  kept : KeepsOthers (pair u) u s.store s'.store
  alias_kept : AliasInUse u s' → KeepsOthers [u] u s.store s'.store

/-! ## The session -/

/-- The only connection of a controller is its last one. -/
theorem releaseUserSession_controller (h : Attended none s)
    (hbound : s.manager.wsHdlUserIdList[hdl]? = some u) (htemporary : isTemporaryControllerId u = true) :
    (releaseUserSession env hdl s).value = u := by
  by_contra hvalue
  have hconnected : (afterRelease env hdl s).manager.hasUserConnection u = true := by
    rw [afterRelease_connected h.coherent]
    exact ⟨OrdMap.hasValue_iff.mpr ⟨hdl, hbound⟩, hvalue⟩
  obtain ⟨k, hk⟩ := OrdMap.hasValue_iff.mp hconnected
  rw [afterRelease_toRouting, releaseSession_bindings, Std.ExtTreeMap.getElem?_erase] at hk
  split at hk
  · cases hk
  · next hother =>
    obtain rfl := (h.controllers hdl u hbound htemporary).sole k hk
    exact hother Std.ReflOrd.compare_self

/-- No room is left that the identity is in. -/
theorem afterRelease_not_guest (hvalue : (releaseUserSession env hdl s).value = u) (hu : u ≠ "")
    (tx : String) : u ∉ (afterRelease env hdl s).manager.guestsOf tx := by
  rw [afterRelease_value] at hvalue
  obtain ⟨-, ⟨hlast⟩⟩ := releaseSession_last hvalue hu
  rw [afterRelease_toRouting]
  exact hlast.not_guest tx

theorem afterRelease_store (h : s.manager.Idle) : (afterRelease env hdl s).store =
    (Mutation.releaseSession hdl s.manager.toRouting).events.foldl (remoteControlSessionCallback env)
      s.store := by
  have hafter : (afterRelease env hdl s).manager = s.manager.after
      (Mutation.releaseSession hdl s.manager.toRouting).state
      (Mutation.releaseSession hdl s.manager.toRouting).events :=
    congrArg Prod.snd (TransmissionManager.does_releaseUserSession hdl s.manager)
  show (handedOver s.manager (afterRelease env hdl s).manager).foldl _ _ = _
  rw [hafter, handedOver_after h (Mutation.releaseSession_reported hdl s.manager.toRouting).1.about]

/-- Every session of the controller ends. -/
theorem afterRelease_unnamed (hstore : ∀ call, env.fails call = false) (h : Attended none s)
    (hbound : s.manager.wsHdlUserIdList[hdl]? = some u) (htemporary : isTemporaryControllerId u = true) :
    Unnamed u (afterRelease env hdl s).store := by
  intro key row hrow
  have hu : u ≠ "" := h.coherent.bound_ne_empty hdl u hbound
  have hvalue : (releaseUserSession env hdl s).value = u := releaseUserSession_controller h hbound htemporary
  have hsession := (h.released hstore h.toPresent.released_last).sessions (ofLex key).1 (ofLex key).2
    row.hostId ⟨row, hrow, rfl⟩
  constructor
  · intro hhost
    rw [← hhost, hsession.host] at htemporary
    cases htemporary
  · intro hguest
    have hrow' : HasSession (sessionKey (ofLex key).1 u) row.hostId (afterRelease env hdl s).store :=
      ⟨row, hguest ▸ hrow, rfl⟩
    have hnot : u ∉ (afterRelease env hdl s).manager.guestsOf (ofLex key).1 :=
      afterRelease_not_guest hvalue hu (ofLex key).1
    obtain ⟨hreported, -⟩ := Mutation.releaseSession_reported hdl s.manager.toRouting
    rw [afterRelease_toRouting] at hnot
    rw [afterRelease_store h.idle] at hrow'
    rcases callbacks_sessions hstore _ s.store hsession.named.1 hu hrow' with ⟨hold, hkept⟩ | hstarted
    · -- a session from before belongs to a room that the controller was in
      have hconnected : s.manager.hasUserConnection u = true := OrdMap.hasValue_iff.mpr ⟨hdl, hbound⟩
      have hjoined := (h.sessions _ u _ hold).joined htemporary hconnected
      obtain ⟨host, hended⟩ := hreported.ended _ u hjoined hnot
      exact hkept host hended
    · exact hnot (hreported.started _ _ u hstarted).2.1

/-- The ends of sessions of one guest leave the rows of all others. -/
theorem callbacks_keepsOthers (env : Env) (ids : List String) {notes : List Notification}
    (hnotes : ∀ note ∈ notes, ∃ tx host : String, note = .remoteControl tx host u false)
    (db : DeviceDbManager) :
    KeepsOthers ids u db (notes.foldl (remoteControlSessionCallback env) db) := by
  induction notes generalizing db with
  | nil => exact .refl ids u db
  | cons note notes ih =>
    rw [List.foldl_cons]
    obtain ⟨tx, host, rfl⟩ := hnotes note List.mem_cons_self
    have hfirst : KeepsOthers ids u db (remoteControlSessionCallback env db (.remoteControl tx host u false)) :=
      endRemoteControlSession_keepsOthers _ _ tx
    exact hfirst.trans (ih (fun note hnote => hnotes note (List.mem_cons_of_mem _ hnote)) _)

/-- Only sessions of the controller end. -/
theorem afterRelease_keepsOthers (ids : List String) (h : Attended none s)
    (hbound : s.manager.wsHdlUserIdList[hdl]? = some u) (htemporary : isTemporaryControllerId u = true) :
    KeepsOthers ids u s.store (afterRelease env hdl s).store := by
  have hu : u ≠ "" := h.coherent.bound_ne_empty hdl u hbound
  have hvalue : (releaseUserSession env hdl s).value = u := releaseUserSession_controller h hbound htemporary
  rw [afterRelease_value] at hvalue
  obtain ⟨-, ⟨hlast⟩⟩ := releaseSession_last hvalue hu
  have hhosts : s.manager.isHost u = "" := by
    unfold Routing.isHost
    cases hroom : OrdMap.firstKeyOf s.manager.transmissionHostIdList u with
    | none => rfl
    | some tx =>
      rw [h.hosts tx u (OrdMap.firstKeyOf_eq_some hroom)] at htemporary
      cases htemporary
  rw [afterRelease_store h.idle]
  exact callbacks_keepsOthers env ids (hlast.ends_own hhosts) s.store

/-! ## The cleanup -/

/-- A cleanup marks the controller offline and forgets it, and then removes its rows. -/
theorem cleanup_controller (hrunning : env.stopping = false) (h : Attended none s)
    (hbound : s.manager.wsHdlUserIdList[hdl]? = some u) (htemporary : isTemporaryControllerId u = true) :
    (cleanup env hdl s).state =
      let left := (onLogout env u (afterRelease env hdl s)).state
      { left with store := (left.store.removeDevice (env.fails .removeDevice) u).2 } := by
  have hu : u ≠ "" := h.coherent.bound_ne_empty hdl u hbound
  have hplain : (splitAtSign u).1 = u := by
    have hall : u.toList.takeWhile (· ≠ '@') = u.toList := by
      rw [List.takeWhile_eq_self_iff]
      intro c hc
      rw [decide_eq_true_eq]
      rintro rfl
      exact (h.controllers hdl u hbound htemporary).plain hc
    unfold splitAtSign
    dsimp only
    rw [hall, String.ofList_toList]
    split <;> rfl
  rw [cleanup_state hrunning, releaseUserSession_controller h hbound htemporary, if_neg hu]
  unfold withoutController
  rw [hplain, if_pos htemporary]

/-- The alias is in use exactly if something claims the pair of a controller that was let go. -/
theorem aliasInUse_iff (h : Present True none s) (hgone : s.manager.hasUserConnection u = false)
    (hunnamed : Unnamed u s.store) (htemporary : isTemporaryControllerId u = true) :
    AliasInUse u s ↔ Claimed u s.store := by
  have hbase := not_alias_of_temporary htemporary
  have honline : (∃ id ∈ pair u, s.store.online id = true) ↔
      ∃ k : ConnectionHdl, s.manager.wsHdlUserIdList[k]? = some ("C-" ++ u) := by
    rw [← OrdMap.hasValue_iff]
    simp only [pair, List.mem_cons, List.not_mem_nil, or_false, exists_eq_or_imp, exists_eq_left]
    rw [h.online trivial u (Option.some_ne_none u).symm,
      h.online trivial _ (Option.some_ne_none _).symm, hgone]
    simp [Routing.hasUserConnection]
  have hnamed : s.store.inSession u = true ↔ ¬ Unnamed ("C-" ++ u) s.store := by
    rw [← Bool.not_eq_false, not_iff_not, inSession_eq_false_iff]
    constructor
    · intro hidle key row hrow
      obtain ⟨hhost, hguest⟩ := hidle key row hrow
      exact ⟨fun hsame => hhost (by rw [normalizedHostId, hsame, normalizeRemoteDeviceId_append]),
        fun hsame => hguest (by rw [normalizedGuestId, hsame, normalizeRemoteDeviceId_append])⟩
    · intro halias key row hrow
      obtain ⟨hhost, hguest⟩ := hunnamed key row hrow
      obtain ⟨hhost', hguest'⟩ := halias key row hrow
      refine ⟨fun hsame => ?_, fun hsame => ?_⟩
      · have hpair := (normalizeRemoteDeviceId_eq_iff hbase).mp hsame
        simp [pair, hhost, hhost'] at hpair
      · have hpair := (normalizeRemoteDeviceId_eq_iff hbase).mp hsame
        simp [pair, hguest, hguest'] at hpair
  unfold AliasInUse Claimed
  rw [honline, hnamed]

/-- **A controller vanishes** with its connection. -/
theorem cleanup_vanished (hstore : ∀ call, env.fails call = false) (hrunning : env.stopping = false)
    (h : Attended none s) (hbound : s.manager.wsHdlUserIdList[hdl]? = some u)
    (htemporary : isTemporaryControllerId u = true) : Vanished u s (cleanup env hdl s).state := by
  have hu : u ≠ "" := h.coherent.bound_ne_empty hdl u hbound
  have hvalue : (releaseUserSession env hdl s).value = u :=
    releaseUserSession_controller h hbound htemporary
  have hattended : Attended none (cleanup env hdl s).state := cleanup_tends.attended hstore h
  have hgone : (afterRelease env hdl s).manager.hasUserConnection u = false := by
    have hlast := @afterRelease_gone env s hdl h.coherent
    rwa [hvalue] at hlast
  -- The connection is released and marked: what is left is a store that nobody names.
  have hmarked : Present True none (onLogout env u (afterRelease env hdl s)).state := by
    have hreleased := @Present.released_last env s hdl True h.toPresent
    rw [hvalue] at hreleased
    exact hreleased.of_mark (fun _ => hstore .setDeviceOnline) (onLogout_marks hgone)
  have hunnamed : Unnamed u (onLogout env u (afterRelease env hdl s)).state.store := by
    rw [onLogout_state]
    intro key row hrow
    rw [setDeviceOnline_sessions] at hrow
    exact afterRelease_unnamed hstore h hbound htemporary key row hrow
  have hkept : ∀ ids : List String, u ∈ ids →
      KeepsOthers ids u s.store (onLogout env u (afterRelease env hdl s)).state.store := by
    intro ids hids
    rw [onLogout_state]
    exact (afterRelease_keepsOthers ids h hbound htemporary).trans
      (setDeviceOnline_keepsOthers hids _ _ _)
  have hmanager : (onLogout env u (afterRelease env hdl s)).state.manager =
      (afterRelease env hdl s).manager := by rw [onLogout_state]
  have hforgets : (onLogout env u (afterRelease env hdl s)).state.presence.Forgets u := by
    rw [onLogout_state]
    unfold loggedOut
    dsimp only
    rw [if_pos htemporary]
    exact PresenceManager.forget_forgets u _
  have hinuse := aliasInUse_iff hmarked (hmanager ▸ hgone) hunnamed htemporary
  have hguest : ∀ tx : String, u ∉ (afterRelease env hdl s).manager.guestsOf tx :=
    afterRelease_not_guest hvalue hu
  -- Now the guarded removal, from the state that the logout leaves behind.
  rw [cleanup_controller hrunning h hbound htemporary, hstore .removeDevice] at hattended ⊢
  generalize (onLogout env u (afterRelease env hdl s)).state = left
    at hattended hunnamed hkept hmanager hforgets hinuse ⊢
  dsimp only at hattended ⊢
  obtain ⟨hclaimed, hfree, hremoved⟩ := removeDevice_controller htemporary left.store
  have hsessions : ∀ (id : String), Unnamed id left.store →
      Unnamed id (left.store.removeDevice false u).2 := by
    intro id hid key row hrow
    obtain ⟨old, hold, hhost⟩ := (removeDevice_spares false u).sessions key row.hostId ⟨row, hrow, rfl⟩
    rw [← hhost]
    exact hid key old hold
  -- The removal takes no connection and adds no row, so an alias in use after it was so before.
  have hafter : AliasInUse u { left with store := (left.store.removeDevice false u).2 } →
      AliasInUse u left := by
    rintro (hconnected | hnamed)
    · exact .inl hconnected
    · exact .inr (mt (hsessions ("C-" ++ u)) hnamed)
  refine ⟨fun tx => hmanager ▸ hguest tx, fun tx hhost => ?_, hsessions u hunnamed, hforgets,
    fun hunused => hfree fun hclaim => hunused ?_,
    (hkept (pair u) List.mem_cons_self).trans hremoved, fun hused => ?_⟩
  · rw [hattended.hosts tx u hhost] at htemporary
    cases htemporary
  · rw [hclaimed hclaim]
    exact hinuse.mpr hclaim
  · show KeepsOthers [u] u s.store (left.store.removeDevice false u).2
    rw [hclaimed (hinuse.mp (hafter hused))]
    exact hkept [u] (List.mem_singleton_self u)

end Application

/-! ## Every world -/

section Worlds

open Application

variable {cfg : Config} {env : Env} {assumed : World → Job → Env → Prop}

/-- **The rows fit the connections** in every world of a server whose store does not fail. -/
theorem server_attended
    (hassumed : ∀ (w : World) (job : Job) (env : Env), assumed w job env →
      ∀ call, env.fails call = false)
    {w : World} (h : (server cfg {} assumed).Reachable w) : Attended none w.app := by
  obtain ⟨ls, hrun⟩ := h
  refine hrun.history (P := fun _ w => Attended none w.app) ?_ ?_
  · rintro w ⟨env, rfl⟩
    refine boot_attended fun tx g hostId hrow => ?_
    obtain ⟨row, hrow, -⟩ := hrow
    have hnone : (∅ : OrdMap SessionKey SessionRow)[sessionKey tx g]? = some row := hrow
    rw [Std.ExtTreeMap.getElem?_empty] at hnone
    cases hnone
  · rintro ls w ⟨job, env⟩ w' hrun hw ⟨_, hknown, rfl⟩
    by_cases hjob : job = .restart
    · subst hjob
      exact boot_attended hw.sessions
    · have htends : Tends env ((job.speaksFor w.app).getD 0) w.app (job.program cfg env w.app).state :=
        program_tends hw.coherent (server_deviceLogins hrun.reachable) hjob
          fun k hk => by rw [hk, Option.getD_some]
      exact htends.attended (hassumed _ _ _ hknown) hw

/-- **A temporary controller vanishes on disconnect**: in every run from an empty database whose store
calls succeed, when the cleanup of its connection is carried out before the server is stopping. -/
theorem controller_vanishes
    (hassumed : ∀ (w : World) (job : Job) (env : Env), assumed w job env →
      ∀ call, env.fails call = false)
    {w w' : World} (hreach : (server cfg {} assumed).Reachable w) {hdl : ConnectionHdl} {u : String}
    (hbound : w.app.manager.wsHdlUserIdList[hdl]? = some u)
    (htemporary : isTemporaryControllerId u = true)
    (hstep : (server cfg {} assumed).step w (.cleanup hdl, env) w') (hrunning : env.stopping = false) :
    Vanished u w.app w'.app := by
  obtain ⟨-, hknown, rfl⟩ := hstep
  exact cleanup_vanished (hassumed _ _ _ hknown) hrunning (server_attended hassumed hreach) hbound
    htemporary

/-! ## A web client that joins a room -/

/-- What is known of every job: no call of the store fails. -/
def storeSucceeds (_ : World) (_ : Job) (env : Env) : Prop := ∀ call, env.fails call = false

/-- Digests under which the password of a new device is right. -/
def roomConfig : Config :=
  { plainConfig with
    hashing := { plainHashing with argon2id := fun _ _ => some (migratedRecord 'a').hash } }

def roomServer : World := World.after roomConfig {} .restart {}

def askForDevice (kind : String) : Json := .obj [("type", .str "login"), ("user_id", .str kind)]

/-- What the web client says of a room. -/
def aboutRoom (transmissionId : String) : Json :=
  .obj [("transmission_id", .str transmissionId), ("user_id", .str "web-123456789")]

/-- A device is registered, then a web client, and the web client joins the room of the device. -/
def roomVisit : List (Job × Env) :=
  [(.message .login 1 (askForDevice ""), {}), (.complete 0, registrationEnv fun _ => false),
    (.message .login 2 (askForDevice "web"), {}), (.complete 0, registrationEnv fun _ => false),
    (.message .joinTransmission 2 (aboutRoom "123456789@abcdef"), {}), (.complete 0, {})]

/-- Then the connection of the web client is gone. -/
def roomLeft : World := (worldAfter roomConfig roomServer roomVisit).after roomConfig (.die 2) {}

theorem roomLeft_reachable : (server roomConfig {} storeSucceeds).Reachable roomLeft := by
  have hstart : (server roomConfig {} storeSucceeds).start roomServer := ⟨{}, rfl⟩
  have hvisit : System.Path (server roomConfig {} storeSucceeds) roomServer
      (stepsOf roomConfig roomServer roomVisit) (worldAfter roomConfig roomServer roomVisit) := by
    refine path_stepsOf rfl (by decide) fun l hl w call => ?_
    simp only [roomVisit, List.mem_cons, List.not_mem_nil, or_false] at hl
    rcases hl with rfl | rfl | rfl | rfl | rfl | rfl <;> rfl
  have hdies : (server roomConfig {} storeSucceeds).step (worldAfter roomConfig roomServer roomVisit)
      (.die 2, {}) roomLeft := ⟨trivial, fun _ => rfl, rfl⟩
  exact (hvisit.reachable (System.Run.start hstart).reachable).step hdies

/-- The web client was in the room, and had a session. -/
theorem roomLeft_member :
    roomLeft.app.manager.wsHdlUserIdList[(2 : ConnectionHdl)]? = some "web-123456789" ∧
      roomLeft.app.manager.guestsOf "123456789" = ["web-123456789"] ∧
      roomLeft.app.store.remoteControlSessions.keys = [sessionKey "123456789" "web-123456789"] := by
  decide +kernel

theorem roomLeft_ready : roomLeft.Ready (.cleanup 2) :=
  ⟨Finset.mem_insert_self 2 ∅, Finset.notMem_empty 2⟩

/-- The web client vanishes, with its session. -/
theorem controller_vanishes_joined :
    roomLeft.app.manager.guestsOf "123456789" = ["web-123456789"] ∧
      roomLeft.app.store.remoteControlSessions.keys = [sessionKey "123456789" "web-123456789"] ∧
      Vanished "web-123456789" roomLeft.app (roomLeft.after roomConfig (.cleanup 2) {}).app := by
  obtain ⟨hbound, hguest, hsession⟩ := roomLeft_member
  have hcleanup : (server roomConfig {} storeSucceeds).step roomLeft (.cleanup 2, {})
      (roomLeft.after roomConfig (.cleanup 2) {}) := ⟨roomLeft_ready, fun _ => rfl, rfl⟩
  refine ⟨hguest, hsession, ?_⟩
  exact controller_vanishes (fun _ _ _ h => h) roomLeft_reachable hbound (by decide) hcleanup rfl

/-- A web client that stays a guest when the server is stopping, and one whose session stays after an
earlier call failed: the row of a room that it left was not deleted. -/
theorem controller_stays :
    (∃ w w' : World, ∃ env : Env, (server roomConfig {} storeSucceeds).Reachable w ∧
      (server roomConfig {} storeSucceeds).step w (.cleanup 2, env) w' ∧
      w.app.manager.wsHdlUserIdList[(2 : ConnectionHdl)]? = some "web-123456789" ∧
      ¬ Vanished "web-123456789" w.app w'.app) ∧
    (∃ w w' : World, (server roomConfig {} (fun _ _ _ => True)).Reachable w ∧
      (server roomConfig {} (fun _ _ _ => True)).step w (.cleanup 2, {}) w' ∧
      w.app.manager.wsHdlUserIdList[(2 : ConnectionHdl)]? = some "web-123456789" ∧
      ¬ Vanished "web-123456789" w.app w'.app) := by
  constructor
  · obtain ⟨hbound, hguest, -⟩ := roomLeft_member
    refine ⟨roomLeft, _, { stopping := true }, roomLeft_reachable,
      ⟨roomLeft_ready, fun _ => rfl, rfl⟩, hbound, fun hvanished => hvanished.not_guest "123456789" ?_⟩
    -- nothing is released
    show "web-123456789" ∈ (cleanup { stopping := true } 2 roomLeft.app).state.manager.guestsOf "123456789"
    rw [cleanup_stopping rfl, hguest]
    exact List.mem_singleton_self _
  · let leaving : Job × Env := (.message .leaveTransmission 2 (aboutRoom "123456789"),
      { fails := fun call => call == .endRemoteControlSession })
    let left := worldAfter roomConfig roomServer (roomVisit ++ [leaving])
    let w := left.after roomConfig (.die 2) {}
    have hstart : (server roomConfig {} (fun _ _ _ => True)).start roomServer := ⟨{}, rfl⟩
    have hpath : System.Path (server roomConfig {} (fun _ _ _ => True)) roomServer
        (stepsOf roomConfig roomServer (roomVisit ++ [leaving])) left :=
      path_stepsOf rfl (by decide) fun _ _ _ => trivial
    have hdies : (server roomConfig {} (fun _ _ _ => True)).step left (.die 2, {}) w :=
      ⟨trivial, trivial, rfl⟩
    have hreach : (server roomConfig {} (fun _ _ _ => True)).Reachable w :=
      (hpath.reachable (System.Run.start hstart).reachable).step hdies
    have hstays : w.app.manager.wsHdlUserIdList[(2 : ConnectionHdl)]? = some "web-123456789" ∧
        ((w.after roomConfig (.cleanup 2) {}).app.store.remoteControlSessions[
          sessionKey "123456789" "web-123456789"]?).isSome = true := by
      decide +kernel
    obtain ⟨row, hrow⟩ := Option.isSome_iff_exists.mp hstays.2
    refine ⟨w, _, hreach, ⟨⟨Finset.mem_insert_self 2 ∅, Finset.notMem_empty 2⟩, trivial, rfl⟩,
      hstays.1, fun hvanished => ?_⟩
    exact (hvanished.unnamed _ row hrow).2 rfl

end Worlds

end CrossDesk
