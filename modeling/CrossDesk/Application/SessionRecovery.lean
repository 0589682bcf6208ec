import CrossDesk.Application.Basic

/-!
# Session recovery

`SessionRecovery` issues a ticket for every session that a password-authorized join starts, and lets
the two ends of a session confirm it after their sockets or the server itself were replaced. A
ticket lives in memory (`tickets`) and in the table `session_recovery`; the sessions that a restart
finds without a ticket are `legacy`.

A `for` loop over a map erases at most the entry it stands on, so it is a loop over the entries
listed at its start.
-/

namespace CrossDesk

namespace Ticket

def key (ticket : Ticket) : SessionKey := sessionKey ticket.transmissionId ticket.guestId

/-- The ticket with the end that reported marked ready on its handle. -/
def present (user : String) (hdl : ConnectionHdl) (ticket : Ticket) : Ticket :=
  if user = ticket.hostId then { ticket with hostReady := true, hostHdl := some hdl }
  else { ticket with guestReady := true, guestHdl := some hdl }

end Ticket

namespace Application

open Logged

/-- `GetUserId` of a handle that may be empty. -/
def userOf (hdl : Option ConnectionHdl) (s : Application) : String :=
  hdl.elim "" (fun hdl => s.manager.getUserId hdl)

/-- `expired()` of a handle that may be empty. -/
def gone (hdl : Option ConnectionHdl) (expired : Bool) : Bool := hdl.isNone || expired

/-- `capable_[hdl]`. -/
def isCapable (hdl : Option ConnectionHdl) (s : Application) : Bool :=
  hdl.elim false (fun hdl => (s.recovery.capable[hdl]?).getD false)

/-- `Exists`: the session of the ticket still has its row, with the host of the ticket. -/
def sessionExists (ticket : Ticket) (s : Application) : Bool :=
  (s.store.remoteControlSessions[ticket.key]?).any (fun row => row.hostId == ticket.hostId)

/-- `Manages`. -/
def manages (transmissionId guestId : String) (s : Application) : Bool :=
  s.recovery.tickets.contains (sessionKey transmissionId guestId)

/-- `IsRecovering`. -/
def isRecovering (transmissionId guestId : String) (s : Application) : Bool :=
  s.recovery.legacy.contains (sessionKey transmissionId guestId) ||
    (s.recovery.tickets[sessionKey transmissionId guestId]?).any Ticket.recovering

/-! ## The tables -/

def putTicket (key : SessionKey) (ticket : Ticket) (s : Application) : Application :=
  { s with recovery := { s.recovery with tickets := s.recovery.tickets.insert key ticket } }

def eraseLegacy (key : SessionKey) (s : Application) : Application :=
  { s with recovery := { s.recovery with legacy := s.recovery.legacy.erase key } }

/-- `Save`, and the ticket in memory. -/
def saveTicket (ticket : Ticket) (s : Application) : Application :=
  putTicket ticket.key ticket { s with
    store := { s.store with
      sessionRecovery := s.store.sessionRecovery.insert ticket.key
        { hostId := ticket.hostId, token := ticket.token } } }

/-- `Remove`. -/
def removeTicket (key : SessionKey) (s : Application) : Application :=
  { s with
    store := { s.store with sessionRecovery := s.store.sessionRecovery.erase key }
    recovery := { s.recovery with
      tickets := s.recovery.tickets.erase key
      legacy := s.recovery.legacy.erase key } }

/-- The token of the key retires. -/
def retire (key : SessionKey) : Program Unit := fun s =>
  ⟨(), s, ((s.recovery.tickets[key]?).toList.map (fun ticket => .retired ticket.token))⟩

def remove (key : SessionKey) : Program Unit := do
  retire key
  modify (removeTicket key)

/-! ## The operations -/

variable (env : Env)

/-- `ConfirmLegacy`: both identities of a session without a ticket are back; the ledger is
confirmed, no socket is admitted anywhere. -/
def confirmLegacy (ticket : Ticket) : Program Bool := do
  let s ← look
  if env.wallClock ticket.key > ticket.deadline || !s.sessionExists ticket then
    pure false
  else
    let hostHdl := s.manager.getWsHandle ticket.hostId
    let guestHdl := s.manager.getWsHandle ticket.guestId
    if gone hostHdl (env.sessionExpired ticket.key 0) ||
        gone guestHdl (env.sessionExpired ticket.key 1) ||
        s.userOf hostHdl ≠ ticket.hostId || s.userOf guestHdl ≠ ticket.guestId then
      pure false
    else
      startRemoteControlSession env ticket.transmissionId ticket.hostId ticket.guestId

/-- `Login`. -/
def recoveryLogin (hdl : ConnectionHdl) (request : Json) : Program Unit := do
  modify (fun s => { s with
    recovery := { s.recovery with
      capable := s.recovery.capable.insert hdl
        ((request.find "session_resume_version").any (Json.equalsNumber 1)) } })
  let s ← look
  let user := s.manager.getUserId hdl
  each s.recovery.legacy.toList (fun entry _ => do
    when (user = entry.2.hostId ∨ user = entry.2.guestId) (do
      let confirmed ← confirmLegacy env entry.2
      when confirmed (modify (eraseLegacy entry.1)))) ()

def sessionTicketMessage (ticket : Ticket) : Json :=
  .obj [("type", .str "session_ticket"), ("transmission_id", .str ticket.transmissionId),
    ("host_id", .str ticket.hostId), ("guest_id", .str ticket.guestId),
    ("token", .str ticket.token)]

/-- `Issue`, after a password-authorized join. -/
def issue (transmissionId hostId guestId : String) (guestHdl : ConnectionHdl) : Program Unit := do
  let s ← look
  let key := sessionKey transmissionId guestId
  let hostHdl := s.manager.getWsHandle hostId
  modify (eraseLegacy key)
  if !s.isCapable hostHdl || !s.isCapable (some guestHdl) then
    when (s.recovery.tickets.contains key) (remove key)
    report (.joined transmissionId guestId none)
  else
    let ticket : Ticket :=
      { transmissionId, hostId, guestId, token := env.token, hostHdl, guestHdl := some guestHdl }
    retire key
    modify (saveTicket ticket)
    report (.joined transmissionId guestId (some env.token))
    send hostHdl (sessionTicketMessage ticket)
    send (some guestHdl) (sessionTicketMessage ticket)

/-- The fields of a report, when they are there and of the right types. -/
structure SessionReport where
  transmissionId : String
  guestId : String
  token : String
  alive : Bool

def readReport (msg : Json) : Option SessionReport := do
  let transmissionId ← msg.getStringField "transmission_id"
  let guestId ← msg.getStringField "guest_id"
  let token ← msg.getStringField "token"
  let alive ← (msg.find "alive").bind Json.truth
  pure { transmissionId, guestId, token, alive }

/-- The checks of a report against the ticket of its session. -/
def reportAccepted (report : SessionReport) (user : String) (ticket : Ticket) (s : Application) :
    Bool :=
  report.token == ticket.token && (user == ticket.hostId || user == ticket.guestId) &&
    s.sessionExists ticket && !(ticket.recovering && env.wallClock ticket.key > ticket.deadline)

/-- Both ends are ready, each on a live connection that is bound to it. -/
def bothReady (ticket : Ticket) (s : Application) : Bool :=
  ticket.hostReady && ticket.guestReady && !gone ticket.hostHdl (env.expired 0) &&
    !gone ticket.guestHdl (env.expired 1) && s.userOf ticket.hostHdl == ticket.hostId &&
    s.userOf ticket.guestHdl == ticket.guestId

def resumedMessage (ticket : Ticket) : Json :=
  .obj [("type", .str "session_resumed"), ("transmission_id", .str ticket.transmissionId),
    ("guest_id", .str ticket.guestId)]

/-- Both ends reported: the guest's connection is admitted to the room. -/
def resume (ticket : Ticket) (guestHdl : ConnectionHdl) : Program Unit := do
  let s ← look
  when (s.manager.isTransmissionExist ticket.transmissionId = false) (do
    let _ ← bindHostToTransmission env ticket.hostId ticket.transmissionId
    pure ())
  let bound ← bindGuestHandleToTransmission env (env.expired 2) ticket.guestId ticket.transmissionId
    guestHdl
  if bound then
    report (.resumed ticket guestHdl (env.wallClock ticket.key))
    let started ← startRemoteControlSession env ticket.transmissionId ticket.hostId ticket.guestId
    if started then
      modify (putTicket ticket.key { ticket with recovering := false })
      send ticket.hostHdl (resumedMessage ticket)
      send ticket.guestHdl (resumedMessage ticket)
    else pure ()
  else pure ()

/-- The session of a ticket is given up. -/
def abandon (ticket : Ticket) : Program Unit := do
  let _ ← releaseGuestFromTransmission env ticket.guestId ticket.transmissionId
  let _ ← endRemoteControlSession env ticket.transmissionId ticket.guestId
  pure ()

/-- `Report`. -/
def sessionReport (hdl : ConnectionHdl) (msg : Json) : Program Unit := do
  let s ← look
  match readReport msg with
  | none => pure ()
  | some reported =>
    let key := sessionKey reported.transmissionId reported.guestId
    match s.recovery.tickets[key]? with
    | none => pure ()
    | some ticket =>
      let user := s.manager.getUserId hdl
      if !reportAccepted env reported user ticket s then pure ()
      else if !reported.alive then
        report (.reportedDead hdl user reported.transmissionId reported.guestId reported.token)
        abandon env ticket
        remove key
      else
        report (.presented hdl user reported.transmissionId reported.guestId reported.token)
        let ticket := ticket.present user hdl
        modify (putTicket key ticket)
        match ticket.guestHdl with
        | none => pure ()
        | some guestHdl =>
          if bothReady env ticket s then resume env ticket guestHdl else pure ()

/-- `Expire`: tickets whose session is gone or whose time is over, then the sessions without a
ticket. -/
def expireTicket (entry : SessionKey × Ticket) : Program Unit := do
  let s ← look
  let late := entry.2.recovering && env.wallClock entry.2.key > entry.2.deadline
  if !s.sessionExists entry.2 || late then
    when entry.2.recovering (abandon env entry.2)
    remove entry.1
  else pure ()

def expireLegacy (entry : SessionKey × Ticket) : Program Unit := do
  let s ← look
  if !s.sessionExists entry.2 then modify (eraseLegacy entry.1)
  else if env.wallClock entry.2.key > entry.2.deadline then
    abandon env entry.2
    modify (eraseLegacy entry.1)
  else
    let confirmed ← confirmLegacy env entry.2
    when confirmed (modify (eraseLegacy entry.1))

def expire : Program Unit := do
  modify (fun s => { s with
    recovery := { s.recovery with
      capable := s.recovery.capable.filter (fun hdl _ => !env.handleExpired hdl) } })
  let s ← look
  each s.recovery.tickets.toList (fun entry _ => expireTicket env entry) ()
  let s ← look
  each s.recovery.legacy.toList (fun entry _ => expireLegacy env entry) ()

end Application

end CrossDesk
