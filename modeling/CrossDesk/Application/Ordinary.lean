import CrossDesk.Application.Acts
import CrossDesk.DeviceDbManager.RecoveryRows
import CrossDesk.TransmissionManager.Origins

/-!
# Ordinary programs

Three things a job does are what the security of the server is about: it admits a connection to a
room, it issues a ticket or accepts one that an end of a session presents, and it lets a connection
log in. Each is done in one place. All the rest is ordinary (`Ordinary`): it admits nobody, it drops
tickets at most, in memory and in the database alike, and — where `login` is false — it leaves
challenges and verified devices alone and dispatches no login.

This is proved of every program once, from its parts, as for acts; an ordinary program is a relation
that composes, so what is to be shown of a whole program is shown of its calls.
-/

namespace CrossDesk

open Logged

open DeviceDbManager

/-- The callback of the transmission manager writes no ticket. -/
theorem callbacks_dropsTickets (env : Env) (notifications : List Notification)
    (db : DeviceDbManager) :
    DropsTickets db (notifications.foldl (Application.remoteControlSessionCallback env) db) := by
  induction notifications generalizing db with
  | nil => exact .refl db
  | cons notification notifications ih =>
    rw [List.foldl_cons]
    refine DropsTickets.trans ?_ (ih _)
    unfold Application.remoteControlSessionCallback
    split
    · exact .of_same (startRemoteControlSession_recovery _ _ _ _ _)
    · exact endRemoteControlSession_drops _ _ _ _
    · exact .refl db

namespace CredentialWork

/-- The work ends in a login. -/
def logsIn : CredentialWork → Bool
  | authenticate _ _ _ _ _ (.login _) | register .. => true
  | _ => false

/-- A join is authorized by the password of the room's own device. -/
def Aimed : CredentialWork → Prop
  | authenticate deviceId _ _ _ _ (.joinTransmission transmissionId _) => deviceId = transmissionId
  | _ => True

end CredentialWork

/-- The jobs that are neither logins nor joins nor reports, nor a restart. -/
def Job.isOrdinary : Job → Bool
  | message kind _ _ => kind != .sessionReport && kind != .login
  | complete _ | restart => false
  | _ => true

namespace Operation

/-- The operation binds a connection to an identity. -/
def bindsUser : Operation → Bool
  | bindUserToWsHandle .. => true
  | _ => false

/-- The operation admits a connection to a room. -/
def admits : Operation → Bool
  | bindGuestHandleToTransmission .. => true
  | _ => false

end Operation

/-- The event is no admission, no confirmation of a session and no restart, and tells of a login only
where one is meant. -/
def Event.isOrdinary (login : Bool) : Event → Bool
  | called op _ => !op.admits && (login || !op.bindsUser)
  | challenged .. | answered .. | registered .. | passwordVerified .. => login
  | presented .. | reportedDead .. | joined .. | resumed .. | restarted => false
  | _ => true

/-- A token retires. -/
def Event.retires : Event → Bool
  | retired _ => true
  | _ => false

/-- What an ordinary program does. -/
structure Ordinary (login : Bool) (s : Application) (es : List Event) (s' : Application) :
    Prop where
  events : ∀ e ∈ es, e.isOrdinary login = true
  tickets : ∀ (key : SessionKey) (ticket : Ticket), s'.recovery.tickets[key]? = some ticket →
    s.recovery.tickets[key]? = some ticket
  rows : DropsTickets s.store s'.store
  /-- A ticket goes with its row. -/
  together : ∀ (key : SessionKey) (row : RecoveryRow), s'.store.sessionRecovery[key]? = some row →
    s'.recovery.tickets[key]? = s.recovery.tickets[key]?
  /-- A token retires with its ticket. -/
  retired : ∀ token : String, .retired token ∈ es → ∃ (key : SessionKey) (ticket : Ticket),
    s.recovery.tickets[key]? = some ticket ∧ ticket.token = token ∧
      s'.recovery.tickets[key]? = none
  pending : ∀ work ∈ s'.pending, work ∈ s.pending ∨
    work.work.Aimed ∧ (login = false → work.work.logsIn = false)
  challenges : login = false → s'.loginChallenges = s.loginChallenges
  verified : login = false → ∀ (hdl : ConnectionHdl) (d : String),
    s'.manager.wsHdlVerifiedDeviceIds[hdl]? = some d →
      s.manager.wsHdlVerifiedDeviceIds[hdl]? = some d

theorem composes_ordinary (login : Bool) : Composes (Ordinary login) where
  refl := by
    intro s
    exact {
      events := by simp
      tickets := fun _ _ h => h
      rows := .refl s.store
      together := fun _ _ _ => rfl
      retired := by simp
      pending := fun _ hwork => .inl hwork
      challenges := fun _ => rfl
      verified := fun _ _ _ h => h }
  trans := by
    intro s es s' es' s'' h h'
    exact {
      events := by
        intro e he
        rcases List.mem_append.mp he with he | he
        · exact h.events e he
        · exact h'.events e he
      tickets := fun key ticket hticket => h.tickets key ticket (h'.tickets key ticket hticket)
      rows := h.rows.trans h'.rows
      together := fun key row hrow =>
        (h'.together key row hrow).trans (h.together key row (h'.rows key row hrow))
      retired := by
        intro token htoken
        rcases List.mem_append.mp htoken with htoken | htoken
        · obtain ⟨key, ticket, hticket, hsame, hgone⟩ := h.retired token htoken
          refine ⟨key, ticket, hticket, hsame, ?_⟩
          exact Option.eq_none_iff_forall_ne_some.mpr fun ticket' hticket' => by
            rw [h'.tickets key ticket' hticket'] at hgone
            cases hgone
        · obtain ⟨key, ticket, hticket, hsame, hgone⟩ := h'.retired token htoken
          exact ⟨key, ticket, h.tickets key ticket hticket, hsame, hgone⟩
      pending := by
        intro work hwork
        rcases h'.pending work hwork with hold | hnew
        · exact h.pending work hold
        · exact .inr hnew
      challenges := fun hlogin => (h'.challenges hlogin).trans (h.challenges hlogin)
      verified := fun hlogin hdl d hd => h.verified hlogin hdl d (h'.verified hlogin hdl d hd) }

namespace Application

variable {cfg : Config} {env : Env} {login : Bool} {α β : Type}

/-- The program is ordinary. -/
abbrev Ordinarily (login : Bool) (m : Program α) : Prop := Follows (Ordinary login) m

/-- From the state, the run of the program is related. -/
def FollowsAt (R : Application → List Event → Application → Prop) (s : Application)
    (m : Program α) : Prop := R s (m s).events (m s).state

/-- From the state, the program is ordinary. -/
abbrev OrdinaryAt (login : Bool) (s : Application) (m : Program α) : Prop :=
  FollowsAt (Ordinary login) s m

/-! ## Rules -/

theorem FollowsAt.bind {R : Application → List Event → Application → Prop} (hR : Composes R)
    {s : Application} {m : Program α} {f : α → Program β} (hm : FollowsAt R s m)
    (hf : FollowsAt R (m s).state (f (m s).value)) : FollowsAt R s (m >>= f) := hR.trans hm hf

theorem OrdinaryAt.bind {s : Application} {m : Program α} {f : α → Program β}
    (hm : OrdinaryAt login s m) (hf : OrdinaryAt login (m s).state (f (m s).value)) :
    OrdinaryAt login s (m >>= f) := FollowsAt.bind (composes_ordinary login) hm hf

/-- A program that reads the state first. -/
theorem FollowsAt.look {R : Application → List Event → Application → Prop} {s : Application}
    {f : Application → Program α} (hf : FollowsAt R s (f s)) : FollowsAt R s (look >>= f) := hf

theorem FollowsAt.ite {R : Application → List Event → Application → Prop} {s : Application}
    {c : Prop} [Decidable c] {m m' : Program α} (hm : FollowsAt R s m) (hm' : FollowsAt R s m') :
    FollowsAt R s (if c then m else m') := by
  split
  · exact hm
  · exact hm'

theorem Ordinarily.bind {m : Program α} {f : α → Program β} (hm : Ordinarily login m)
    (hf : ∀ v, Ordinarily login (f v)) : Ordinarily login (m >>= f) :=
  Follows.bind (composes_ordinary login) hm hf

theorem ordinarily_pure (v : α) : Ordinarily login (pure v : Program α) :=
  follows_done (composes_ordinary login) v

theorem ordinarily_when {c : Prop} [Decidable c] {m : Program Unit} (hm : Ordinarily login m) :
    Ordinarily login (when c m) := Follows.when (composes_ordinary login) hm

/-- One event, and nothing changes. -/
theorem ordinarily_report {e : Event} (he : e.isOrdinary login = true)
    (hretires : e.retires = false) : Ordinarily login (report e) := by
  intro s
  have hsame := (composes_ordinary login).refl s
  exact { hsame with
    events := by
      intro e' he'
      rw [List.mem_singleton.mp he']
      exact he
    retired := by
      intro token htoken
      rw [← List.mem_singleton.mp htoken] at hretires
      cases hretires }

theorem ordinarily_send (hdl : Option ConnectionHdl) (message : Json) :
    Ordinarily login (send hdl message) := ordinarily_report rfl rfl

/-- A silent change of other tables. -/
theorem ordinarily_modify {f : Application → Application}
    (hf : ∀ s, (f s).manager = s.manager ∧
      DropsTickets s.store (f s).store ∧ (f s).recovery.tickets = s.recovery.tickets ∧
      (f s).pending = s.pending ∧ (f s).loginChallenges = s.loginChallenges) :
    Ordinarily login (modify f) := by
  intro s
  obtain ⟨hmanager, hrows, htickets, hpending, hchallenges⟩ := hf s
  exact {
    events := by simp [modify, update]
    tickets := by
      intro key ticket hticket
      have hsame : (f s).recovery.tickets[key]? = some ticket := hticket
      rwa [htickets] at hsame
    rows := hrows
    together := by
      intro key row _
      show (f s).recovery.tickets[key]? = _
      rw [htickets]
    retired := by simp [modify, update]
    pending := by
      intro work hwork
      have hsame : work ∈ (f s).pending := hwork
      rw [hpending] at hsame
      exact .inl hsame
    challenges := fun _ => hchallenges
    verified := by
      intro _ hdl d hd
      have hsame : (f s).manager.wsHdlVerifiedDeviceIds[hdl]? = some d := hd
      rwa [hmanager] at hsame }

/-- A call of the transmission manager that admits nobody. -/
theorem ordinarily_call {op : Operation} {f : TransmissionManager → α × TransmissionManager}
    (hadmits : op.admits = false) (huser : login = false → op.bindsUser = false)
    (hop : ∀ m : TransmissionManager, (f m).2 = op.apply m) : Ordinarily login (call env op f) := by
  intro s
  exact {
    events := by
      intro e he
      rw [List.mem_singleton.mp he]
      cases login with
      | true => simp [Event.isOrdinary, hadmits]
      | false => simp [Event.isOrdinary, hadmits, huser rfl]
    tickets := fun _ _ h => h
    rows := callbacks_dropsTickets env _ _
    together := fun _ _ _ => rfl
    retired := by simp [call]
    pending := fun _ hwork => .inl hwork
    challenges := fun _ => rfl
    verified := by
      intro hlogin hdl d hd
      have hafter : (op.apply s.manager).wsHdlVerifiedDeviceIds[hdl]? = some d := by
        rw [← hop]
        exact hd
      rcases Operation.verified_of_apply hafter with hold | ⟨-, expired, now, u, rfl⟩
      · exact hold
      · cases huser hlogin }

theorem startRemoteControlSession_ordinary (transmissionId hostId guestId : String) :
    Ordinarily login (startRemoteControlSession env transmissionId hostId guestId) := by
  intro s
  exact {
    events := by simp [startRemoteControlSession]
    tickets := fun _ _ h => h
    rows := .of_same (startRemoteControlSession_recovery _ _ _ _ _)
    together := fun _ _ _ => rfl
    retired := by simp [startRemoteControlSession]
    pending := fun _ hwork => .inl hwork
    challenges := fun _ => rfl
    verified := fun _ _ _ h => h }

theorem bindHostToTransmission_ordinary (hostId transmissionId : String) :
    Ordinarily login (bindHostToTransmission env hostId transmissionId) :=
  ordinarily_call rfl (fun _ => rfl) fun _ => rfl

theorem eraseLegacy_ordinary (key : SessionKey) : Ordinarily login (modify (eraseLegacy key)) :=
  ordinarily_modify fun s => ⟨rfl, .refl s.store, rfl, rfl, rfl⟩

/-- A ticket is removed, in memory and in the database, and its token retires. -/
theorem remove_ordinary (key : SessionKey) : Ordinarily login (remove key) := by
  intro s
  have hevents : (remove key s).events =
      ((s.recovery.tickets[key]?).toList.map fun ticket => .retired ticket.token) ++ [] := rfl
  rw [hevents, List.append_nil]
  have herased : ∀ {V : Type} (m : OrdMap SessionKey V) (key' : SessionKey) (v : V),
      (m.erase key)[key']? = some v → key ≠ key' ∧ m[key']? = some v := by
    intro V m key' v hv
    grind
  exact {
    events := by
      intro e he
      obtain ⟨ticket, -, rfl⟩ := List.mem_map.mp he
      rfl
    tickets := fun key' ticket hticket => (herased s.recovery.tickets key' ticket hticket).2
    rows := fun key' row hrow => (herased s.store.sessionRecovery key' row hrow).2
    together := by
      intro key' row hrow
      have hother := (herased s.store.sessionRecovery key' row hrow).1
      show (s.recovery.tickets.erase key)[key']? = s.recovery.tickets[key']?
      grind
    retired := by
      intro token htoken
      obtain ⟨ticket, hticket, htoken⟩ := List.mem_map.mp htoken
      refine ⟨key, ticket, Option.mem_toList.mp hticket, Event.retired.inj htoken, ?_⟩
      exact Std.ExtTreeMap.getElem?_erase_self
    pending := fun _ hwork => .inl hwork
    challenges := fun _ => rfl
    verified := fun _ _ _ h => h }

end Application

end CrossDesk
