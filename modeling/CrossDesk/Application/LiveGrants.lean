import CrossDesk.Application.TemporaryControllers
import CrossDesk.Lib.Past
import CrossDesk.TransmissionManager.Origins
import CrossDesk.TransmissionManager.Routes

/-!
# Signaling needs a live grant

A message for a peer is sent on after a look at the maps of the transmission manager: the sender and
the peer are the host and a guest of the room, and each has a handle there. What the maps say of the
guest's handle is a fact about the past. It was stored when the connection was admitted to the room,
and every call of the manager since has left the guest in the room and the handle its own
(`Granted`).

The invariant (`Accounted`) says so of every grant in the maps. It holds of the log and the state
together, so it passes through a job act by act, whichever calls the job consists of.
-/

namespace CrossDesk

open Logged

/-! ## What the log tells about a grant -/

/-- The guest is a member of the room, admitted through the handle, which is its own. -/
structure Stands (r : Routing) (transmissionId guestId : String) (hdl : ConnectionHdl) : Prop where
  granted : r.grantOf transmissionId guestId = some hdl
  member : guestId ∈ r.guestsOf transmissionId
  bound : r.getUserId hdl = guestId

/-- In coherent maps a grant stands. -/
theorem Coherent.stands {r : Routing} (hr : Coherent r) {tx g : String} {hdl : ConnectionHdl}
    (h : r.grantOf tx g = some hdl) : Stands r tx g hdl where
  granted := h
  member := hr.guest_of_grant tx g hdl h
  bound := Routing.getUserId_of_bound (hr.bound_of_grant tx g hdl h)

namespace Routing

theorem isHostOfTransmission_iff {r : Routing} {tx host u : String}
    (hhost : r.transmissionHostIdList[tx]? = some host) :
    r.isHostOfTransmission u tx = true ↔ u = host := by
  unfold isHostOfTransmission
  rw [hhost]
  exact beq_iff_eq.trans eq_comm

/-- The handle of a member that is not the host is the granted one. -/
theorem grantOf_of_guest {r : Routing} {tx host u : String} {hdl : ConnectionHdl}
    (hhost : r.transmissionHostIdList[tx]? = some host) (hguest : u ≠ host)
    (h : r.getWsHandleIn u tx = some hdl) : r.grantOf tx u = some hdl := by
  obtain ⟨-, -, host', hhost', ⟨rfl, -⟩ | ⟨-, hgrant, -⟩⟩ := getWsHandleIn_eq_some.mp h
  · rw [hhost] at hhost'
    exact absurd (Option.some.inj hhost').symm hguest
  · exact hgrant

end Routing

namespace Event

/-- Neither a call of the manager nor a new manager nor a message to a peer. -/
def isPlain : Event → Bool
  | called .. | restarted | signalled .. => false
  | _ => true

/-- The event leaves the maps of the manager alone. -/
def leavesMaps : Event → Bool
  | called .. | restarted => false
  | _ => true

/-- The connection is admitted to the room as the guest. -/
inductive Admits (tx g : String) (hdl : ConnectionHdl) : Event → Prop where
  | mk {expired : Bool} {maps : Routing} : Stands maps tx g hdl →
      Admits tx g hdl (.called (.bindGuestHandleToTransmission expired g tx hdl) maps)

/-- The grant outlives the event. -/
def Outlived (tx g : String) (hdl : ConnectionHdl) : Event → Prop
  | called _ maps => Stands maps tx g hdl
  | restarted => False
  | _ => True

theorem leavesMaps_of_plain {e : Event} (h : e.isPlain = true) : e.leavesMaps = true := by
  cases e with
  | called => cases h
  | restarted => cases h
  | signalled => cases h
  | _ => rfl

theorem outlived_of_leavesMaps {e : Event} (h : e.leavesMaps = true) (tx g : String)
    (hdl : ConnectionHdl) : e.Outlived tx g hdl := by
  cases e with
  | called => cases h
  | restarted => cases h
  | _ => trivial

theorem isPlain_of_notice {e : Event} (h : e.isNotice = true) : e.isPlain = true := by
  cases e with
  | called => cases h
  | restarted => cases h
  | signalled => cases h
  | _ => rfl

end Event

/-- The maps are those that the last call of the manager left. -/
def LastMaps (log : List Event) (maps : Routing) : Prop :=
  Since (fun _ e => ∃ op, e = .called op maps) (fun e => e.leavesMaps = true) log

/-- **A live grant.** The connection was admitted to the room as the guest, and since then, without a
restart, every call of the manager has left it so. -/
def Granted (log : List Event) (transmissionId guestId : String) (hdl : ConnectionHdl) : Prop :=
  Since (fun _ e => e.Admits transmissionId guestId hdl)
    (fun e => e.Outlived transmissionId guestId hdl) log

/-- What a message to a peer needs: the sender's handle and the handle `d` are the current handles of
the host and of a guest of the room, and the guest's was granted. -/
structure Allowed (log : List Event) (hdl : ConnectionHdl)
    (userId remoteUserId transmissionId : String) (d : ConnectionHdl) (maps : Routing) :
    Prop where
  current : LastMaps log maps
  host : Xor (maps.isHostOfTransmission userId transmissionId = true)
    (maps.isHostOfTransmission remoteUserId transmissionId = true)
  sender : maps.getWsHandleIn userId transmissionId = some hdl
  receiver : maps.getWsHandleIn remoteUserId transmissionId = some d
  guestSends : maps.isHostOfTransmission remoteUserId transmissionId = true →
    Granted log transmissionId userId hdl
  guestReceives : maps.isHostOfTransmission userId transmissionId = true →
    Granted log transmissionId remoteUserId d

/-- A message to a peer was allowed when it was sent, or when the membership that it reports as ended
was released, which is the call right before. -/
inductive Signalled (before : List Event) : Event → Prop where
  | sent {kind : SignalKind} {hdl d : ConnectionHdl} {userId remoteUserId transmissionId : String}
      {message : Json} {maps : Routing} :
      Allowed before hdl userId remoteUserId transmissionId d maps →
      Signalled before
        (.signalled kind hdl userId remoteUserId transmissionId (some d) message)
  | released {earlier : List Event} {hdl d : ConnectionHdl}
      {userId remoteUserId transmissionId : String} {message : Json} {maps left : Routing} :
      before =
        earlier ++ [.called (.releaseGuestFromTransmission remoteUserId transmissionId) left] →
      Allowed earlier hdl userId remoteUserId transmissionId d maps →
      Signalled before
        (.signalled .disconnectPeer hdl userId remoteUserId transmissionId (some d) message)
  | other {e : Event} : (∀ kind hdl u v tx d message, e ≠ .signalled kind hdl u v tx d message) →
      Signalled before e

theorem signalled_of_plain {before : List Event} {e : Event} (h : e.isPlain = true) :
    Signalled before e := by
  refine .other fun kind hdl u v tx d message he => ?_
  rw [he] at h
  cases h

/-! ## The invariant -/

/-- The log accounts for the state: it ends with the maps of the manager, unless nobody is bound,
every grant in the maps is live, and every message to a peer was allowed. -/
structure Accounted (log : List Event) (s : Application) : Prop where
  coherent : Coherent s.manager.toRouting
  told : LastMaps log s.manager.toRouting ∨ ∀ hdl, s.manager.getUserId hdl = ""
  granted : ∀ (tx g : String) (hdl : ConnectionHdl), s.manager.grantOf tx g = some hdl →
    Granted log tx g hdl
  signals : Throughout Signalled log

namespace Accounted

variable {log : List Event} {s : Application}

/-- The rest of the application does not matter. -/
theorem withManager {s' : Application} (h : Accounted log s) (hmanager : s'.manager = s.manager) :
    Accounted log s' where
  coherent := hmanager ▸ h.coherent
  told := hmanager ▸ h.told
  granted := hmanager ▸ h.granted
  signals := h.signals

/-- Something happened that the manager has no part in. -/
theorem plain {e : Event} (h : Accounted log s) (he : e.isPlain = true) :
    Accounted (log ++ [e]) s where
  coherent := h.coherent
  told := by
    refine h.told.imp_left fun hlast => ?_
    exact since_snoc.mpr (.inr ⟨hlast, Event.leavesMaps_of_plain he⟩)
  granted := by
    intro tx g hdl hgrant
    have hlive : (e.Outlived tx g hdl) :=
      Event.outlived_of_leavesMaps (Event.leavesMaps_of_plain he) tx g hdl
    exact since_snoc.mpr (.inr ⟨h.granted tx g hdl hgrant, hlive⟩)
  signals := throughout_snoc.mpr ⟨h.signals, signalled_of_plain he⟩

/-- A message was sent to a peer. -/
theorem signal {kind : SignalKind} {hdl : ConnectionHdl}
    {userId remoteUserId transmissionId : String} {destination : Option ConnectionHdl}
    {message : Json} (h : Accounted log s)
    (hsignal : Signalled log
      (.signalled kind hdl userId remoteUserId transmissionId destination message)) :
    Accounted (log ++ [.signalled kind hdl userId remoteUserId transmissionId destination message])
      s where
  coherent := h.coherent
  told := by
    refine h.told.imp_left fun hlast => ?_
    exact since_snoc.mpr (.inr ⟨hlast, rfl⟩)
  granted := by
    intro tx g hdl hgrant
    exact since_snoc.mpr (.inr ⟨h.granted tx g hdl hgrant, trivial⟩)
  signals := throughout_snoc.mpr ⟨h.signals, hsignal⟩

/-- The manager was called: a grant that is there afterwards was there before, or is the one that the
call made. -/
theorem call {s' : Application} (op : Operation) (h : Accounted log s)
    (hmanager : s'.manager = op.apply s.manager) :
    Accounted (log ++ [.called op (op.apply s.manager).toRouting]) s' := by
  have hcoherent : Coherent (op.apply s.manager).toRouting := h.coherent.apply op
  have hgranted : ∀ (tx g : String) (hdl : ConnectionHdl),
      (op.apply s.manager).grantOf tx g = some hdl →
      Granted (log ++ [.called op (op.apply s.manager).toRouting]) tx g hdl := by
    intro tx g hdl hgrant
    have hstands := hcoherent.stands hgrant
    rcases Operation.grant_of_apply hgrant with hold | ⟨expired, rfl⟩
    · exact since_snoc.mpr (.inr ⟨h.granted tx g hdl hold, hstands⟩)
    · exact since_snoc.mpr (.inl (.mk hstands))
  rw [← hmanager] at hcoherent hgranted ⊢
  exact {
    coherent := hcoherent
    told := .inl (since_snoc.mpr (.inl ⟨op, rfl⟩))
    granted := hgranted
    signals := throughout_snoc.mpr ⟨h.signals, .other (by simp)⟩ }

/-- **The check at send time.** Where the sender is authorized, the log shows a live grant. -/
theorem allowed {env : Env} {hdl : ConnectionHdl} {userId remoteUserId transmissionId : String}
    (h : Accounted log s)
    (hcheck : Application.isAuthorizedPeerSignal env hdl userId remoteUserId transmissionId s =
      true) :
    ∃ d, s.manager.getWsHandleIn remoteUserId transmissionId = some d ∧
      Allowed log hdl userId remoteUserId transmissionId d s.manager.toRouting := by
  unfold Application.isAuthorizedPeerSignal Routing.isConnectionInTransmission at hcheck
  simp only [Bool.and_eq_true, Bool.or_eq_true, decide_eq_true_eq] at hcheck
  obtain ⟨⟨⟨⟨⟨⟨-, hdistinct⟩, huser⟩, hnamed⟩, hends⟩, -, hsender⟩, hreceiver⟩ := hcheck
  rw [huser] at hsender
  obtain ⟨d, hd⟩ : ∃ d, s.manager.getWsHandleIn remoteUserId transmissionId = some d := by
    cases hroute : s.manager.getWsHandleIn remoteUserId transmissionId with
    | none => simp [hroute, Application.gone] at hreceiver
    | some d => exact ⟨d, rfl⟩
  -- the room has a host, so exactly one of the two is that host
  obtain ⟨host, hhost⟩ : ∃ host, s.manager.transmissionHostIdList[transmissionId]? = some host := by
    cases hentry : s.manager.transmissionHostIdList[transmissionId]? with
    | none => simp [Routing.getHostIdOfTransmission, hentry] at hnamed
    | some host => exact ⟨host, rfl⟩
  have hhostId : s.manager.getHostIdOfTransmission transmissionId = host := by
    simp [Routing.getHostIdOfTransmission, hhost]
  rw [hhostId] at hends
  have hbound : s.manager.getUserId hdl ≠ "" := by
    rw [huser]
    exact (Routing.getWsHandleIn_eq_some.mp hsender).1
  refine ⟨d, hd, ?_⟩
  exact {
    current := h.told.resolve_right fun hnobody => hbound (hnobody hdl)
    host := by
      rw [Routing.isHostOfTransmission_iff hhost, Routing.isHostOfTransmission_iff hhost]
      rcases hends with rfl | rfl
      · exact .inl ⟨rfl, fun h => hdistinct h.symm⟩
      · exact .inr ⟨rfl, hdistinct⟩
    sender := hsender
    receiver := hd
    guestSends := by
      intro hremote
      rw [Routing.isHostOfTransmission_iff hhost] at hremote
      refine h.granted _ _ _ (Routing.grantOf_of_guest hhost ?_ hsender)
      exact fun hself => hdistinct (hself.trans hremote.symm)
    guestReceives := by
      intro huserHost
      rw [Routing.isHostOfTransmission_iff hhost] at huserHost
      refine h.granted _ _ _ (Routing.grantOf_of_guest hhost ?_ hd)
      exact fun hself => hdistinct (huserHost.trans hself.symm) }

/-- **A restart**: nobody is bound, so nothing is granted. -/
theorem restarted {s' : Application} (h : Throughout Signalled log)
    (hcoherent : Coherent s'.manager.toRouting) (hnobody : s'.manager.wsHdlUserIdList = ∅) :
    Accounted (log ++ [.restarted]) s' where
  coherent := hcoherent
  told := by
    refine .inr fun hdl => ?_
    simp [Routing.getUserId, hnobody]
  granted := by
    intro tx g hdl hgrant
    have hbound := hcoherent.bound_of_grant tx g hdl hgrant
    simp [hnobody] at hbound
  signals := throughout_snoc.mpr ⟨h, .other (by simp)⟩

/-! ## Acts -/

theorem composes : Composes (fun (s : Application) (es : List Event) (s' : Application) =>
    ∀ log, Accounted log s → Accounted (log ++ es) s') where
  refl := by
    intro s log h
    simpa using h
  trans := by
    intro s es s' es' s'' h h' log hs
    rw [← List.append_assoc]
    exact h' _ (h log hs)

/-- Every act keeps the accounts. -/
theorem act {cfg : Config} {env : Env} {settled : Bool} {s s' : Application} {es : List Event}
    (hact : Application.Act cfg env settled s es s') (log : List Event) (h : Accounted log s) :
    Accounted (log ++ es) s' := by
  have hsilent : ∀ {t : Application}, t.manager = s.manager → Accounted (log ++ []) t := by
    intro t ht
    rw [List.append_nil]
    exact h.withManager ht
  cases hact with
  | told hnotice => exact h.plain (Event.isPlain_of_notice hnotice)
  | aside hmanager => exact hsilent hmanager
  | forgot => exact hsilent rfl
  | stored => exact hsilent rfl
  | started => exact hsilent rfl
  | marked => exact hsilent rfl
  | called op => exact h.call op rfl
  | dispatched => exact hsilent rfl
  | taken => exact hsilent rfl
  | forwarded kind hdl userId remoteUserId transmissionId message hcheck =>
    obtain ⟨d, hd, hallowed⟩ := h.allowed hcheck
    rw [hd]
    exact h.signal (.sent hallowed)
  | disconnected hdl userId remoteUserId transmissionId message hcheck =>
    obtain ⟨d, hd, hallowed⟩ := h.allowed hcheck
    rw [hd, ← List.append_assoc]
    exact (h.call (.releaseGuestFromTransmission remoteUserId transmissionId) rfl).signal
      (.released rfl hallowed)

end Accounted

section Server

open Application

variable {cfg : Config} {env : Env} {db : DeviceDbManager} {assumed : World → Job → Env → Prop}

/-- A commit is plain: it says at most that a password was verified or a device registered. -/
theorem Application.Commit.accounted {hdl : ConnectionHdl} {s : Application}
    {work : CredentialWork} {es : List Event} {store : DeviceDbManager} {pending : List Dispatched}
    {log : List Event} (hcommit : Commit cfg env hdl s work es store) (h : Accounted log s) :
    Accounted (log ++ es) { s with store, pending } := by
  have hkept : Accounted log { s with store, pending } := h.withManager rfl
  cases hcommit with
  | verified => exact hkept.plain rfl
  | bound => exact hkept.plain rfl
  | unbound => simpa using hkept
  | registered => exact hkept.plain rfl
  | changed => simpa using hkept

theorem World.after_accounted {w : World} (hw : Accounted w.log w.app) (job : Job) :
    Accounted (w.after cfg job env).log (w.after cfg job env).app := by
  have hdoes : Does cfg env w.app job _ _ := does_program w.app job
  show Accounted (w.log ++ (job.program cfg env w.app).events) (job.program cfg env w.app).state
  generalize (job.program cfg env w.app).events = es at hdoes ⊢
  generalize (job.program cfg env w.app).state = s' at hdoes ⊢
  cases hdoes with
  | acts hacts => exact hacts.lift Accounted.composes (fun _ _ _ => Accounted.act) w.log hw
  | committed _ _ hcommit hacts =>
    rw [← List.append_assoc]
    refine hacts.lift Accounted.composes (fun _ _ _ => Accounted.act) _ ?_
    exact hcommit.accounted (hw.withManager rfl)
  | changed =>
    refine Accounted.plain ?_ rfl
    exact hw.withManager rfl
  | restarted => exact .restarted hw.signals (restored_coherent _ _) boot_unserved.nobody

/-- **No signaling without a live grant.** Whatever the server has sent from one connection to
another on behalf of peers, the one was the current handle of the host of the room and the other that
of a guest, or the other way round, and the guest's was admitted and not released since. -/
theorem signalled_with_live_grant {w : World} (h : (server cfg db assumed).Reachable w) :
    Throughout Signalled w.log := by
  suffices haccounted : Accounted w.log w.app from haccounted.signals
  refine h.invariant (I := fun w => Accounted w.log w.app) ?_ ?_
  · rintro w ⟨env, rfl⟩
    exact .restarted throughout_nil (restored_coherent _ _) boot_unserved.nobody
  · rintro w ⟨job, env⟩ w' hw ⟨_, _, rfl⟩
    exact World.after_accounted hw job

/-! ## A room that is joined twice -/

/-- A new device asks to log in, and can resume sessions. -/
def askToResume (kind : String) : Json :=
  .obj [("type", .str "login"), ("user_id", .str kind), ("session_resume_version", .int 1)]

/-- An offer of the web client to the device. -/
def offerToHost : Json :=
  .obj [("transmission_id", .str "123456789"), ("user_id", .str "web-123456789"),
    ("remote_user_id", .str "123456789"), ("sdp", .str "")]

/-- An end reports the session with a token. -/
def aboutTicket (token : String) (alive : Bool) : Json :=
  .obj [("transmission_id", .str "123456789"), ("guest_id", .str "web-123456789"),
    ("token", .str token), ("alive", .bool alive)]

/-- A device and a web client are registered. The client joins the room and sends an offer; both report
the session, which is resumed; and the client joins again. The first token is of no use any more, and the
second one goes with a report that the session is dead. -/
def ticketVisit : List (Job × Env) :=
  [(.message .login 1 (askToResume ""), {}), (.complete 0, registrationEnv fun _ => false),
    (.message .login 2 (askToResume "web"), {}), (.complete 0, registrationEnv fun _ => false),
    (.message .joinTransmission 2 (aboutRoom "123456789@abcdef"), {}),
    (.complete 0, { token := "first" }), (.message .offer 2 offerToHost, {}),
    (.message .sessionReport 1 (aboutTicket "first" true), {}),
    (.message .sessionReport 2 (aboutTicket "first" true), {}),
    (.message .joinTransmission 2 (aboutRoom "123456789@abcdef"), {}),
    (.complete 0, { token := "second" }),
    (.message .sessionReport 1 (aboutTicket "first" true), {}),
    (.message .sessionReport 1 (aboutTicket "second" false), {})]

def ticketWorld : World := worldAfter roomConfig roomServer ticketVisit

theorem ticketWorld_reachable : (server roomConfig {} (fun _ _ _ => True)).Reachable ticketWorld := by
  have hstart : (server roomConfig {} (fun _ _ _ => True)).start roomServer := ⟨{}, rfl⟩
  have hvisit : System.Path (server roomConfig {} (fun _ _ _ => True)) roomServer
      (stepsOf roomConfig roomServer ticketVisit) ticketWorld :=
    path_stepsOf rfl (by decide) fun _ _ _ => trivial
  exact hvisit.reachable (System.Run.start hstart).reachable

/-- What an event says about the room: who was signalled, and what became of the tokens. -/
inductive Remark where
  | signalled (kind : SignalKind) (hdl : ConnectionHdl) (destination : Option ConnectionHdl)
  | joined (token : Option String)
  | presented (hdl : ConnectionHdl) (token : String)
  | reportedDead (hdl : ConnectionHdl) (token : String)
  | resumed (hdl : ConnectionHdl) (token : String)
  | retired (token : String)
  deriving DecidableEq

def Event.remark : Event → Option Remark
  | signalled kind hdl _ _ _ destination _ => some (.signalled kind hdl destination)
  | joined _ _ token => some (.joined token)
  | presented hdl _ _ _ token => some (.presented hdl token)
  | reportedDead hdl _ _ _ token => some (.reportedDead hdl token)
  | resumed ticket hdl _ => some (.resumed hdl ticket.token)
  | retired token => some (.retired token)
  | _ => none

/-- The second report with the first token leaves no trace. -/
theorem ticketWorld_log : ticketWorld.log.filterMap Event.remark =
    [.joined (some "first"), .signalled .offer 2 (some 1), .presented 1 "first", .presented 2 "first",
      .resumed 2 "first", .retired "first", .joined (some "second"), .reportedDead 1 "second",
      .retired "second"] := by
  decide +kernel

/-- The offer of a web client that joined a room. -/
theorem signalled_with_live_grant_offer :
    .signalled .offer 2 (some 1) ∈ ticketWorld.log.filterMap Event.remark ∧
      Throughout Signalled ticketWorld.log :=
  ⟨by rw [ticketWorld_log]; decide, signalled_with_live_grant ticketWorld_reachable⟩

end Server

end CrossDesk
