import CrossDesk.Application.LiveGrants
import CrossDesk.Application.Ordinary

/-!
# Admission by a password or by both ends

A connection is admitted to a room in two places. `join_transmission` admits it when the password of
the room's device was verified, and `Report` when both ends of a session presented the session's
ticket. The second does not ask for a password, so it is as safe as the ticket is.

* **The ticket.** A ticket in memory is the one of the last join of its guest (`Issued`), and each end
  that it calls ready has presented it since, on the connection that it names (`HasPresented`). A join
  replaces it, a restart loads it from its row, and nothing else makes one.
* **The admission.** So whenever a connection is admitted, a password was verified right before, for the
  same connection and the same room, or both ends have presented the ticket of the last join, and are
  still connected (`Admission`).
* **Retired tokens.** Where tokens are not given out twice, one that was replaced, removed or reported
  dead admits nobody any more (`retired_token_resumes_nothing`).
-/

namespace CrossDesk

open Logged

open DeviceDbManager Application

/-! ## What the log tells about a ticket -/

/-- The last join of the guest into the room gave this token; or there was none since the database was
opened, and the token is in it. -/
def Issued (db : DeviceDbManager) (log : List Event) (transmissionId guestId token : String) : Prop :=
  Since (fun _ e => e = .joined transmissionId guestId (some token))
      (fun e => ∀ token', e ≠ .joined transmissionId guestId token') log ∨
    (∀ token', .joined transmissionId guestId token' ∉ log) ∧
      ∃ row : RecoveryRow,
        db.sessionRecovery[sessionKey transmissionId guestId]? = some row ∧ row.token = token

/-- The connection presented the token as the user, and the guest has not joined again since, nor did
the server restart. -/
def HasPresented (log : List Event) (hdl : ConnectionHdl)
    (userId transmissionId guestId token : String) : Prop :=
  Since (fun _ e => e = .presented hdl userId transmissionId guestId token)
    (fun e => e ≠ .restarted ∧ ∀ token', e ≠ .joined transmissionId guestId token') log

/-- Since the last restart the guest joined the room, or its session was resumed. -/
def Renewed (log : List Event) (transmissionId guestId : String) : Prop :=
  Since (fun _ e => (∃ token, e = .joined transmissionId guestId token) ∨
      ∃ (ticket : Ticket) (hdl : ConnectionHdl) (now : Int), e = .resumed ticket hdl now ∧
        ticket.transmissionId = transmissionId ∧ ticket.guestId = guestId)
    (fun e => e ≠ .restarted) log

namespace Event

/-- Neither an admission nor a session that is resumed nor a join. -/
def admitsNobody : Event → Bool
  | called op _ => !op.admits
  | resumed .. | joined .. => false
  | _ => true

/-- Neither a join nor a restart: what tickets outlive. -/
def sparesTickets : Event → Bool
  | joined .. | restarted => false
  | _ => true

theorem admitsNobody_of_ordinary {login : Bool} {e : Event} (h : e.isOrdinary login = true) :
    e.admitsNobody = true := by
  cases e with
  | called op maps => exact (Bool.and_eq_true_iff.mp h).1
  | resumed => cases h
  | joined => cases h
  | _ => rfl

theorem sparesTickets_of_ordinary {login : Bool} {e : Event} (h : e.isOrdinary login = true) :
    e.sparesTickets = true := by
  cases e with
  | joined => cases h
  | restarted => cases h
  | _ => rfl

theorem spares_iff {e : Event} : e.sparesTickets = true ↔
    e ≠ .restarted ∧ ∀ tx g token, e ≠ .joined tx g token := by
  cases e <;> simp [sparesTickets]

end Event

section Log

variable {db : DeviceDbManager} {log : List Event} {tx g token userId : String} {hdl : ConnectionHdl}

theorem Issued.snoc {e : Event} (h : Issued db log tx g token)
    (he : ∀ token', e ≠ .joined tx g token') : Issued db (log ++ [e]) tx g token := by
  rcases h with hjoined | ⟨hnone, hrow⟩
  · exact .inl (since_snoc.mpr (.inr ⟨hjoined, he⟩))
  · refine .inr ⟨fun token' hin => ?_, hrow⟩
    rcases List.mem_append.mp hin with hin | hin
    · exact hnone token' hin
    · exact he token' (List.mem_singleton.mp hin).symm

theorem Issued.append {es : List Event} (h : Issued db log tx g token)
    (hes : ∀ e ∈ es, ∀ token', e ≠ .joined tx g token') : Issued db (log ++ es) tx g token := by
  induction es using List.reverseRecOn with
  | nil => simpa using h
  | append_singleton es e ih =>
    rw [← List.append_assoc]
    exact (ih fun e' he' => hes e' (by simp [he'])).snoc (hes e (by simp))

theorem HasPresented.append {es : List Event} (h : HasPresented log hdl userId tx g token)
    (hes : ∀ e ∈ es, e ≠ .restarted ∧ ∀ token', e ≠ .joined tx g token') :
    HasPresented (log ++ es) hdl userId tx g token := Since.append h hes

theorem Renewed.append {es : List Event} (h : Renewed log tx g)
    (hes : ∀ e ∈ es, e ≠ .restarted) : Renewed (log ++ es) tx g := Since.append h hes

end Log

/-! ## The invariant -/

/-- A ticket as the log accounts for it. -/
structure Genuine (db : DeviceDbManager) (log : List Event) (key : SessionKey) (ticket : Ticket) :
    Prop where
  keyed : ticket.key = key
  issued : Issued db log ticket.transmissionId ticket.guestId ticket.token
  host : ticket.hostReady = true → ∃ hdl : ConnectionHdl, ticket.hostHdl = some hdl ∧
    HasPresented log hdl ticket.hostId ticket.transmissionId ticket.guestId ticket.token
  guest : ticket.guestReady = true → ∃ hdl : ConnectionHdl, ticket.guestHdl = some hdl ∧
    HasPresented log hdl ticket.guestId ticket.transmissionId ticket.guestId ticket.token
  /-- A ticket that was loaded is recovering until its session is resumed. -/
  renewed : ticket.recovering = true ∨ Renewed log ticket.transmissionId ticket.guestId

/-- The tickets in memory are genuine, those in the database are among them, and a join that waits for
its password waits for the right one. -/
structure Accountable (db : DeviceDbManager) (log : List Event) (s : Application) : Prop where
  genuine : ∀ (key : SessionKey) (ticket : Ticket), s.recovery.tickets[key]? = some ticket →
    Genuine db log key ticket
  saved : ∀ (key : SessionKey) (row : RecoveryRow), s.store.sessionRecovery[key]? = some row →
    ∃ ticket : Ticket, s.recovery.tickets[key]? = some ticket ∧ ticket.token = row.token
  aimed : ∀ work ∈ s.pending, work.work.Aimed

/-- Where a connection was admitted by both ends: they presented the ticket of the last join, and the
maps say that they are connected. -/
structure Confirmed (db : DeviceDbManager) (log : List Event) (ticket : Ticket)
    (hostHdl guestHdl : ConnectionHdl) (maps : Routing) : Prop where
  issued : Issued db log ticket.transmissionId ticket.guestId ticket.token
  host : HasPresented log hostHdl ticket.hostId ticket.transmissionId ticket.guestId ticket.token
  guest : HasPresented log guestHdl ticket.guestId ticket.transmissionId ticket.guestId ticket.token
  hostBound : maps.getUserId hostHdl = ticket.hostId
  guestBound : maps.getUserId guestHdl = ticket.guestId

/-- What must have come before an admission, before a session is resumed, and before a join is
completed. -/
inductive Admission (db : DeviceDbManager) (before : List Event) : Event → Prop where
  /-- A password: the one of the room's device, for this connection, right before. -/
  | password {earlier : List Event} {expired : Bool} {guestId transmissionId : String}
      {hdl : ConnectionHdl} {maps : Routing} :
      before = earlier ++ [.passwordVerified hdl transmissionId] →
      Admission db before
        (.called (.bindGuestHandleToTransmission expired guestId transmissionId hdl) maps)
  /-- Both ends. -/
  | confirmed {expired : Bool} {ticket : Ticket} {hostHdl hdl : ConnectionHdl} {maps : Routing} :
      Confirmed db before ticket hostHdl hdl maps →
      Admission db before
        (.called (.bindGuestHandleToTransmission expired ticket.guestId ticket.transmissionId hdl)
          maps)
  /-- A session is resumed by the admission of the guest right before. A ticket that was loaded at the
  restart is in time, unless its session was resumed already. -/
  | resumed {earlier : List Event} {expired : Bool} {ticket : Ticket} {hostHdl hdl : ConnectionHdl}
      {maps : Routing} {now : Int} :
      before = earlier ++ [.called
        (.bindGuestHandleToTransmission expired ticket.guestId ticket.transmissionId hdl) maps] →
      Confirmed db earlier ticket hostHdl hdl maps →
      (now ≤ ticket.deadline ∨ Renewed earlier ticket.transmissionId ticket.guestId) →
      Admission db before (.resumed ticket hdl now)
  /-- A join is completed after the admission that the password allowed. -/
  | joined {earlier retired : List Event} {expired : Bool} {guestId transmissionId : String}
      {token : Option String} {hdl : ConnectionHdl} {maps : Routing} :
      before = earlier ++ .passwordVerified hdl transmissionId ::
        .called (.bindGuestHandleToTransmission expired guestId transmissionId hdl) maps :: retired →
      (∀ e ∈ retired, e.retires = true) →
      Admission db before (.joined transmissionId guestId token)
  | other {e : Event} : e.admitsNobody = true → Admission db before e

/-- The log accounts for the tickets, and every admission in it was allowed. -/
structure Vouched (db : DeviceDbManager) (log : List Event) (s : Application) : Prop extends
    Accountable db log s where
  admissions : Throughout (Admission db) log

/-! ## What tickets outlive -/

section Steps

variable {db : DeviceDbManager} {log es : List Event} {s s' : Application}

theorem Genuine.append {key : SessionKey} {ticket : Ticket} (h : Genuine db log key ticket)
    (hes : ∀ e ∈ es, e.sparesTickets = true) : Genuine db (log ++ es) key ticket where
  keyed := h.keyed
  issued := h.issued.append fun e he => (Event.spares_iff.mp (hes e he)).2 _ _
  host := by
    intro hready
    obtain ⟨hdl, hhdl, hpresented⟩ := h.host hready
    refine ⟨hdl, hhdl, hpresented.append fun e he => ?_⟩
    exact ⟨(Event.spares_iff.mp (hes e he)).1, (Event.spares_iff.mp (hes e he)).2 _ _⟩
  guest := by
    intro hready
    obtain ⟨hdl, hhdl, hpresented⟩ := h.guest hready
    refine ⟨hdl, hhdl, hpresented.append fun e he => ?_⟩
    exact ⟨(Event.spares_iff.mp (hes e he)).1, (Event.spares_iff.mp (hes e he)).2 _ _⟩
  renewed := h.renewed.imp_right fun hrenewed =>
    hrenewed.append fun e he => (Event.spares_iff.mp (hes e he)).1

/-- Where tickets are dropped at most. -/
theorem Accountable.append (h : Accountable db log s) (hes : ∀ e ∈ es, e.sparesTickets = true)
    (htickets : ∀ (key : SessionKey) (ticket : Ticket), s'.recovery.tickets[key]? = some ticket →
      s.recovery.tickets[key]? = some ticket)
    (hrows : DropsTickets s.store s'.store)
    (htogether : ∀ (key : SessionKey) (row : RecoveryRow),
      s'.store.sessionRecovery[key]? = some row →
        s'.recovery.tickets[key]? = s.recovery.tickets[key]?)
    (hpending : ∀ work ∈ s'.pending, work ∈ s.pending ∨ work.work.Aimed) :
    Accountable db (log ++ es) s' where
  genuine := fun key ticket hticket => (h.genuine key ticket (htickets key ticket hticket)).append hes
  saved := by
    intro key row hrow
    obtain ⟨ticket, hticket, htoken⟩ := h.saved key row (hrows key row hrow)
    exact ⟨ticket, (htogether key row hrow).trans hticket, htoken⟩
  aimed := fun work hwork => (hpending work hwork).elim (h.aimed work) id

theorem admissions_append (h : Throughout (Admission db) log)
    (hes : ∀ e ∈ es, e.admitsNobody = true) : Throughout (Admission db) (log ++ es) :=
  h.append fun e he _ => .other (hes e he)

/-- An event that admits nobody, and that tickets outlive. -/
theorem Vouched.told {e : Event} (h : Vouched db log s) (hadmits : e.admitsNobody = true)
    (hspares : e.sparesTickets = true) : Vouched db (log ++ [e]) s where
  toAccountable := h.toAccountable.append (by simpa using hspares) (fun _ _ hsame => hsame)
    (.refl s.store) (fun _ _ _ => rfl) fun _ hwork => .inl hwork
  admissions := throughout_snoc.mpr ⟨h.admissions, .other hadmits⟩

/-- **An ordinary program** leaves everything accounted for. -/
theorem Vouched.ordinary {login : Bool} (h : Vouched db log s) (hstep : Ordinary login s es s') :
    Vouched db (log ++ es) s' where
  toAccountable := h.toAccountable.append
    (fun e he => Event.sparesTickets_of_ordinary (hstep.events e he)) hstep.tickets hstep.rows
    hstep.together fun work hwork => (hstep.pending work hwork).imp_right And.left
  admissions := admissions_append h.admissions
    fun e he => Event.admitsNobody_of_ordinary (hstep.events e he)

/-- A call that admits somebody, where it was allowed. -/
theorem Vouched.admit {env : Env} {expired : Bool} {guestId transmissionId : String}
    {hdl : ConnectionHdl} (h : Vouched db log s)
    (hallowed : ∀ maps, maps = (bindGuestHandleToTransmission env expired guestId transmissionId hdl
        s).state.manager.toRouting →
      Admission db log
        (.called (.bindGuestHandleToTransmission expired guestId transmissionId hdl) maps)) :
    Vouched db (log ++ (bindGuestHandleToTransmission env expired guestId transmissionId hdl s).events)
      (bindGuestHandleToTransmission env expired guestId transmissionId hdl s).state where
  toAccountable := by
    refine h.toAccountable.append (fun e he => ?_) (fun _ _ hticket => hticket)
      (callbacks_dropsTickets env _ _) (fun _ _ _ => rfl) fun _ hwork => .inl hwork
    rw [List.mem_singleton.mp he]
    rfl
  admissions := throughout_snoc.mpr ⟨h.admissions, hallowed _ rfl⟩

/-! ## Joins -/

/-- A join replaces the ticket of its guest, or takes it away. -/
theorem Accountable.join {transmissionId guestId : String} {token : Option String}
    (h : Accountable db log s)
    (hothers : ∀ key ≠ sessionKey transmissionId guestId,
      s'.recovery.tickets[key]? = s.recovery.tickets[key]? ∧
        s'.store.sessionRecovery[key]? = s.store.sessionRecovery[key]?)
    (hown : ∀ ticket : Ticket,
      s'.recovery.tickets[sessionKey transmissionId guestId]? = some ticket →
        ticket.transmissionId = transmissionId ∧ ticket.guestId = guestId ∧
          some ticket.token = token ∧ ticket.hostReady = false ∧ ticket.guestReady = false)
    (hrow : ∀ row : RecoveryRow,
      s'.store.sessionRecovery[sessionKey transmissionId guestId]? = some row →
        ∃ ticket : Ticket, s'.recovery.tickets[sessionKey transmissionId guestId]? = some ticket ∧
          ticket.token = row.token)
    (hpending : s'.pending = s.pending) :
    Accountable db (log ++ [.joined transmissionId guestId token]) s' where
  genuine := by
    intro key ticket hticket
    by_cases hkey : key = sessionKey transmissionId guestId
    · subst hkey
      obtain ⟨rfl, rfl, rfl, hhost, hguest⟩ := hown ticket hticket
      have hjoined : Since (fun _ e => e = Event.joined ticket.transmissionId ticket.guestId
          (some ticket.token)) (fun e => ∀ token',
            e ≠ .joined ticket.transmissionId ticket.guestId token')
          (log ++ [.joined ticket.transmissionId ticket.guestId (some ticket.token)]) :=
        since_snoc.mpr (.inl rfl)
      exact {
        keyed := rfl
        issued := .inl hjoined
        host := fun hready => by
          rw [hhost] at hready
          cases hready
        guest := fun hready => by
          rw [hguest] at hready
          cases hready
        renewed := .inr (since_snoc.mpr (.inl (.inl ⟨_, rfl⟩))) }
    · have hold := h.genuine key ticket (((hothers key hkey).1).symm.trans hticket)
      -- the ticket belongs to another guest or another room
      have hother : ∀ token', Event.joined transmissionId guestId token ≠
          .joined ticket.transmissionId ticket.guestId token' := by
        intro token' hsame
        cases hsame
        exact hkey hold.keyed.symm
      exact {
        keyed := hold.keyed
        issued := hold.issued.snoc hother
        host := by
          intro hready
          obtain ⟨hdl, hhdl, hpresented⟩ := hold.host hready
          exact ⟨hdl, hhdl, since_snoc.mpr (.inr ⟨hpresented, by simp, hother⟩)⟩
        guest := by
          intro hready
          obtain ⟨hdl, hhdl, hpresented⟩ := hold.guest hready
          exact ⟨hdl, hhdl, since_snoc.mpr (.inr ⟨hpresented, by simp, hother⟩)⟩
        renewed := hold.renewed.imp_right fun hrenewed =>
          since_snoc.mpr (.inr ⟨hrenewed, by simp⟩) }
  saved := by
    intro key row hrow'
    by_cases hkey : key = sessionKey transmissionId guestId
    · subst hkey
      exact hrow row hrow'
    · rw [(hothers key hkey).2] at hrow'
      obtain ⟨ticket, hticket, htoken⟩ := h.saved key row hrow'
      exact ⟨ticket, ((hothers key hkey).1).trans hticket, htoken⟩
  aimed := by
    rw [hpending]
    exact h.aimed

/-- The password of the room's device was verified for the connection right before, and the
connection was admitted. -/
def JoinAdmitted (log : List Event) (hdl : ConnectionHdl) (guestId transmissionId : String) : Prop :=
  ∃ (earlier retired : List Event) (expired : Bool) (maps : Routing),
    log = earlier ++ .passwordVerified hdl transmissionId ::
      .called (.bindGuestHandleToTransmission expired guestId transmissionId hdl) maps :: retired ∧
    ∀ e ∈ retired, e.retires = true

theorem JoinAdmitted.append {hdl : ConnectionHdl} {guestId transmissionId : String}
    (h : JoinAdmitted log hdl guestId transmissionId) (hes : ∀ e ∈ es, e.retires = true) :
    JoinAdmitted (log ++ es) hdl guestId transmissionId := by
  obtain ⟨earlier, retired, expired, maps, rfl, hretired⟩ := h
  refine ⟨earlier, retired ++ es, expired, maps, by simp, fun e he => ?_⟩
  exact (List.mem_append.mp he).elim (hretired e) (hes e)

theorem JoinAdmitted.admission {hdl : ConnectionHdl} {guestId transmissionId : String}
    (h : JoinAdmitted log hdl guestId transmissionId) (token : Option String) :
    Admission db log (.joined transmissionId guestId token) := by
  obtain ⟨earlier, retired, expired, maps, hlog, hretired⟩ := h
  exact .joined hlog hretired

/-- The events of a ticket that goes. -/
theorem retires_of_mem_retire {key : SessionKey} : ∀ e ∈ (retire key s).events, e.retires = true := by
  intro e he
  obtain ⟨ticket, -, rfl⟩ := List.mem_map.mp he
  rfl

/-- A join without a ticket: the one of an earlier join is removed. -/
theorem Vouched.join_without {hdl : ConnectionHdl} {guestId transmissionId : String}
    (h : Vouched db log s) (hjoin : JoinAdmitted log hdl guestId transmissionId) :
    Vouched db (log ++ (when (s.recovery.tickets.contains (sessionKey transmissionId guestId))
        (remove (sessionKey transmissionId guestId)) s).events ++
        [.joined transmissionId guestId none])
      (when (s.recovery.tickets.contains (sessionKey transmissionId guestId))
        (remove (sessionKey transmissionId guestId)) s).state := by
  have hordinary : OrdinaryAt true s (when
      (s.recovery.tickets.contains (sessionKey transmissionId guestId))
      (remove (sessionKey transmissionId guestId))) :=
    ordinarily_when (remove_ordinary _) s
  have hvouched := h.ordinary hordinary
  have hgone : (when (s.recovery.tickets.contains (sessionKey transmissionId guestId))
      (remove (sessionKey transmissionId guestId)) s).state.recovery.tickets[
        sessionKey transmissionId guestId]? = none := by
    unfold when
    split
    · exact Std.ExtTreeMap.getElem?_erase_self
    · next hnone =>
      rw [Std.ExtTreeMap.contains_iff_mem] at hnone
      exact Std.ExtTreeMap.getElem?_eq_none hnone
  have hretires : ∀ e ∈ (when (s.recovery.tickets.contains (sessionKey transmissionId guestId))
      (remove (sessionKey transmissionId guestId)) s).events, e.retires = true := by
    unfold when
    split
    · intro e he
      rcases List.mem_append.mp he with he | he
      · exact retires_of_mem_retire e he
      · cases he
    · simp
  generalize when (s.recovery.tickets.contains (sessionKey transmissionId guestId))
      (remove (sessionKey transmissionId guestId)) s = outcome at hvouched hgone hretires
  exact {
    toAccountable := by
      refine hvouched.toAccountable.join (fun _ _ => ⟨rfl, rfl⟩) ?_ ?_ rfl
      · intro ticket hticket
        rw [hgone] at hticket
        cases hticket
      -- A saved row would belong to a ticket, and there is none.
      · intro row hrow
        obtain ⟨ticket, hticket, -⟩ := hvouched.saved _ row hrow
        rw [hgone] at hticket
        cases hticket
    admissions := throughout_snoc.mpr
      ⟨hvouched.admissions, (hjoin.append hretires).admission none⟩ }

/-- A join with a ticket: it replaces the one of an earlier join, in memory and in the database. -/
theorem Vouched.join_with {hdl : ConnectionHdl} {ticket : Ticket} (h : Vouched db log s)
    (hjoin : JoinAdmitted log hdl ticket.guestId ticket.transmissionId)
    (hhost : ticket.hostReady = false) (hguest : ticket.guestReady = false) :
    Vouched db (log ++ (retire ticket.key s).events ++
        [.joined ticket.transmissionId ticket.guestId (some ticket.token)]) (saveTicket ticket s) := by
  have hspares : ∀ e ∈ (retire ticket.key s).events, e.sparesTickets = true := by
    intro e he
    obtain ⟨ticket, -, rfl⟩ := List.mem_map.mp he
    rfl
  have hnobody : ∀ e ∈ (retire ticket.key s).events, e.admitsNobody = true := by
    intro e he
    obtain ⟨ticket, -, rfl⟩ := List.mem_map.mp he
    rfl
  have hretired : Accountable db (log ++ (retire ticket.key s).events) s :=
    h.toAccountable.append hspares (fun _ _ hticket => hticket) (.refl s.store) (fun _ _ _ => rfl)
      fun _ hwork => .inl hwork
  have hadmissions := admissions_append h.admissions hnobody
  have hown : (saveTicket ticket s).recovery.tickets[ticket.key]? = some ticket :=
    Std.ExtTreeMap.getElem?_insert_self
  exact {
    toAccountable := by
      refine hretired.join (fun key hkey => ?_) ?_ ?_ rfl
      · constructor
        · show (s.recovery.tickets.insert ticket.key ticket)[key]? = s.recovery.tickets[key]?
          have hne : ticket.key ≠ key := fun hsame => hkey hsame.symm
          grind
        · show (s.store.sessionRecovery.insert ticket.key _)[key]? = s.store.sessionRecovery[key]?
          have hne : ticket.key ≠ key := fun hsame => hkey hsame.symm
          grind
      · intro other hother
        -- The new ticket starts with neither end ready.
        obtain rfl : ticket = other := Option.some.inj (hown.symm.trans hother)
        exact ⟨rfl, rfl, rfl, hhost, hguest⟩
      · intro row hrow
        have hsaved : (s.store.sessionRecovery.insert ticket.key
            { hostId := ticket.hostId, token := ticket.token })[ticket.key]? = some row := hrow
        rw [Std.ExtTreeMap.getElem?_insert_self] at hsaved
        cases hsaved
        exact ⟨ticket, hown, rfl⟩
    admissions := throughout_snoc.mpr
      ⟨hadmissions, (hjoin.append retires_of_mem_retire).admission _⟩ }

/-- `Issue` after an admission that a password allowed. -/
theorem Vouched.issue {env : Env} {hdl : ConnectionHdl} {transmissionId guestId : String}
    (h : Vouched db log s) (hjoin : JoinAdmitted log hdl guestId transmissionId) (hostId : String) :
    Vouched db (log ++ (Application.issue env transmissionId hostId guestId hdl s).events)
      (Application.issue env transmissionId hostId guestId hdl s).state := by
  let key := sessionKey transmissionId guestId
  have herased : Vouched db log (eraseLegacy key s) := by
    have hstep := h.ordinary (@eraseLegacy_ordinary true key s)
    rwa [show (modify (eraseLegacy key) s).events = [] from rfl, List.append_nil] at hstep
  let ticket : Ticket :=
    { transmissionId, hostId, guestId, token := env.token
      hostHdl := s.manager.getWsHandle hostId, guestHdl := some hdl }
  let without : Program Unit := do
    when (s.recovery.tickets.contains key) (remove key)
    report (.joined transmissionId guestId none)
  let withTicket : Program Unit := do
    retire key
    modify (saveTicket ticket)
    report (.joined transmissionId guestId (some env.token))
    send (s.manager.getWsHandle hostId) (sessionTicketMessage ticket)
    send (some hdl) (sessionTicketMessage ticket)
  have hrun : Application.issue env transmissionId hostId guestId hdl s =
      (if !s.isCapable (s.manager.getWsHandle hostId) || !s.isCapable (some hdl) then without
        else withTicket) (eraseLegacy key s) := rfl
  rw [hrun]
  split
  · have hstep := herased.join_without hjoin
    rwa [List.append_assoc] at hstep
  · have hstep : Vouched db _ (saveTicket ticket (eraseLegacy key s)) :=
      herased.join_with hjoin rfl rfl
    have htold := (hstep.ordinary (@ordinarily_send true (s.manager.getWsHandle hostId)
      (sessionTicketMessage ticket) _)).ordinary (@ordinarily_send true (some hdl)
        (sessionTicketMessage ticket) _)
    simp only [List.append_assoc] at htold
    exact htold

/-- A ticket is replaced by one with the same token. -/
theorem Vouched.putTicket {key : SessionKey} {old ticket : Ticket} (h : Vouched db log s)
    (hold : s.recovery.tickets[key]? = some old) (htoken : ticket.token = old.token)
    (hgenuine : Genuine db log key ticket) : Vouched db log (putTicket key ticket s) where
  genuine := by
    intro key' ticket' hticket
    have hput : (s.recovery.tickets.insert key ticket)[key']? = some ticket' := hticket
    rw [Std.ExtTreeMap.getElem?_insert] at hput
    split at hput
    · next hsame =>
      obtain rfl := Std.LawfulEqOrd.eq_of_compare hsame
      cases hput
      exact hgenuine
    · exact h.genuine key' ticket' hput
  saved := by
    intro key' row hrow
    obtain ⟨ticket', hticket', hrowToken⟩ := h.saved key' row hrow
    by_cases hsame : key = key'
    · subst hsame
      refine ⟨ticket, Std.ExtTreeMap.getElem?_insert_self, ?_⟩
      rw [htoken, ← hrowToken, ← Option.some.inj (hold.symm.trans hticket')]
    · refine ⟨ticket', ?_, hrowToken⟩
      show (s.recovery.tickets.insert key ticket)[key']? = some ticket'
      grind
  aimed := h.aimed
  admissions := h.admissions

/-- An end presents the ticket on a connection of its own. -/
theorem Genuine.present {key : SessionKey} {ticket : Ticket} {user : String} {hdl : ConnectionHdl}
    (h : Genuine db log key ticket) (huser : user = ticket.hostId ∨ user = ticket.guestId) :
    Genuine db
      (log ++ [.presented hdl user ticket.transmissionId ticket.guestId ticket.token]) key
      (ticket.present user hdl) := by
  have hold := @Genuine.append db log [.presented hdl user ticket.transmissionId ticket.guestId
    ticket.token] key ticket h (by simp [Event.sparesTickets])
  have hnow : HasPresented (log ++ [.presented hdl user ticket.transmissionId ticket.guestId
      ticket.token]) hdl user ticket.transmissionId ticket.guestId ticket.token :=
    since_snoc.mpr (.inl rfl)
  unfold Ticket.present
  split
  · next hhost =>
    subst hhost
    exact { hold with host := fun _ => ⟨hdl, rfl, hnow⟩ }
  · next hnot =>
    obtain rfl := huser.resolve_left hnot
    exact { hold with guest := fun _ => ⟨hdl, rfl, hnow⟩ }

theorem quiet_bindGuestHandle {env : Env} (expired : Bool) (guestId transmissionId : String)
    (hdl : ConnectionHdl) :
    Quiet (bindGuestHandleToTransmission env expired guestId transmissionId hdl) := by
  intro s
  obtain ⟨maps, -, -, hbindings, hmaps, -⟩ := @rooms_reported
    (.bindGuestHandleToTransmission expired guestId transmissionId hdl) rfl s.manager
  refine ⟨?_, rfl⟩
  rw [← hbindings, ← hmaps]
  rfl

/-- The ticket of a session that is about to be resumed: both ends are ready and connected, and it is
not too late. -/
structure Resumable (env : Env) (ticket : Ticket) (hostHdl guestHdl : ConnectionHdl)
    (s : Application) : Prop where
  current : s.recovery.tickets[ticket.key]? = some ticket
  hostReady : ticket.hostReady = true
  guestReady : ticket.guestReady = true
  hostOn : ticket.hostHdl = some hostHdl
  guestOn : ticket.guestHdl = some guestHdl
  hostBound : s.manager.getUserId hostHdl = ticket.hostId
  guestBound : s.manager.getUserId guestHdl = ticket.guestId
  inTime : ticket.recovering = true → env.wallClock ticket.key ≤ ticket.deadline

theorem Resumable.of_quiet {env : Env} {ticket : Ticket} {hostHdl guestHdl : ConnectionHdl}
    (h : Resumable env ticket hostHdl guestHdl s) (hrecovery : s'.recovery = s.recovery)
    (hkeeps : KeepsUsers s s') : Resumable env ticket hostHdl guestHdl s' :=
  { h with
    current := by
      rw [hrecovery]
      exact h.current
    hostBound := (hkeeps.getUserId hostHdl).trans h.hostBound
    guestBound := (hkeeps.getUserId guestHdl).trans h.guestBound }

theorem Resumable.confirmed {env : Env} {ticket : Ticket} {hostHdl guestHdl : ConnectionHdl}
    (h : Resumable env ticket hostHdl guestHdl s) (hlog : Accountable db log s)
    (hkeeps : KeepsUsers s s') :
    Confirmed db log ticket hostHdl guestHdl s'.manager.toRouting := by
  have hgenuine := hlog.genuine ticket.key ticket h.current
  obtain ⟨hostHdl', hhost, hhostPresented⟩ := hgenuine.host h.hostReady
  obtain ⟨guestHdl', hguest, hguestPresented⟩ := hgenuine.guest h.guestReady
  obtain rfl : hostHdl = hostHdl' := Option.some.inj (h.hostOn.symm.trans hhost)
  obtain rfl : guestHdl = guestHdl' := Option.some.inj (h.guestOn.symm.trans hguest)
  exact {
    issued := hgenuine.issued
    host := hhostPresented
    guest := hguestPresented
    hostBound := (hkeeps.getUserId hostHdl).trans h.hostBound
    guestBound := (hkeeps.getUserId guestHdl).trans h.guestBound }

theorem Resumable.inTime_or {env : Env} {ticket : Ticket} {hostHdl guestHdl : ConnectionHdl}
    (h : Resumable env ticket hostHdl guestHdl s) (hlog : Accountable db log s) :
    env.wallClock ticket.key ≤ ticket.deadline ∨ Renewed log ticket.transmissionId ticket.guestId :=
  (hlog.genuine ticket.key ticket h.current).renewed.imp_left h.inTime

/-- What follows the admission of the guest. -/
def resumedWork (env : Env) (ticket : Ticket) (guestHdl : ConnectionHdl) : Program Unit := do
  report (.resumed ticket guestHdl (env.wallClock ticket.key))
  let started ← Application.startRemoteControlSession env ticket.transmissionId ticket.hostId
    ticket.guestId
  if started then
    modify (Application.putTicket ticket.key { ticket with recovering := false })
    send ticket.hostHdl (resumedMessage ticket)
    send ticket.guestHdl (resumedMessage ticket)
  else pure ()

theorem Vouched.resumedWork {env : Env} {ticket : Ticket} {guestHdl : ConnectionHdl}
    (h : Vouched db log s) (hticket : s.recovery.tickets[ticket.key]? = some ticket)
    (hadmission : Admission db log (.resumed ticket guestHdl (env.wallClock ticket.key))) :
    Vouched db (log ++ (CrossDesk.resumedWork env ticket guestHdl s).events)
      (CrossDesk.resumedWork env ticket guestHdl s).state := by
  let e : Event := .resumed ticket guestHdl (env.wallClock ticket.key)
  have hresumed : Vouched db (log ++ [e]) s := {
    toAccountable := h.toAccountable.append (by simp [e, Event.sparesTickets])
      (fun _ _ hsame => hsame) (.refl s.store) (fun _ _ _ => rfl) fun _ hwork => .inl hwork
    admissions := throughout_snoc.mpr ⟨h.admissions, hadmission⟩ }
  have hstarted := hresumed.ordinary (@startRemoteControlSession_ordinary env true
    ticket.transmissionId ticket.hostId ticket.guestId s)
  rw [show (Application.startRemoteControlSession env ticket.transmissionId ticket.hostId
    ticket.guestId s).events = [] from rfl, List.append_nil] at hstarted
  -- What is left after the session is stored: the ticket is put back and both ends are told.
  let finish : Program Unit := do
    modify (Application.putTicket ticket.key { ticket with recovering := false })
    send ticket.hostHdl (resumedMessage ticket)
    send ticket.guestHdl (resumedMessage ticket)
  let run (started : Outcome Application Event Bool) : Outcome Application Event Unit :=
    (if started.value then finish else pure ()) started.state
  let started := Application.startRemoteControlSession env ticket.transmissionId ticket.hostId
    ticket.guestId s
  have hstate : (CrossDesk.resumedWork env ticket guestHdl s).state = (run started).state := rfl
  have hevents : (CrossDesk.resumedWork env ticket guestHdl s).events =
    [e] ++ (run started).events := rfl
  rw [hstate, hevents, ← List.append_assoc]
  have hsame : started.state.recovery = s.recovery := rfl
  change Vouched db (log ++ [e]) started.state at hstarted
  generalize started = started at hstarted hsame ⊢
  simp only [run]
  have hcurrent : started.state.recovery.tickets[ticket.key]? = some ticket := by
    rw [hsame]
    exact hticket
  split
  · have hgenuine := hstarted.genuine ticket.key ticket hcurrent
    have hrenewed : Renewed (log ++ [e]) ticket.transmissionId ticket.guestId :=
      since_snoc.mpr (.inl (.inr ⟨ticket, guestHdl, env.wallClock ticket.key, rfl, rfl, rfl⟩))
    have hput := hstarted.putTicket hcurrent
      (show ({ ticket with recovering := false } : Ticket).token = ticket.token from rfl)
      { hgenuine with renewed := .inr hrenewed }
    have htold := (hput.ordinary (@ordinarily_send true ticket.hostHdl (resumedMessage ticket)
      _)).ordinary (@ordinarily_send true ticket.guestHdl (resumedMessage ticket) _)
    simp only [List.append_assoc] at htold ⊢
    exact htold
  · simpa using hstarted

/-- **A session is resumed** when both ends have presented its ticket. -/
theorem Vouched.resume {env : Env} {ticket : Ticket} {hostHdl guestHdl : ConnectionHdl}
    (h : Vouched db log s) (hresumable : Resumable env ticket hostHdl guestHdl s) :
    Vouched db (log ++ (Application.resume env ticket guestHdl s).events)
      (Application.resume env ticket guestHdl s).state := by
  let makeRoom : Program Unit :=
    when (s.manager.isTransmissionExist ticket.transmissionId = false) (do
      let _ ← bindHostToTransmission env ticket.hostId ticket.transmissionId
      pure ())
  have hroom : Ordinarily true makeRoom :=
    ordinarily_when (Ordinarily.bind (bindHostToTransmission_ordinary _ _) fun _ => ordinarily_pure ())
  -- Making the room touches no ticket, so what both ends presented still counts.
  have hquiet : Quiet makeRoom :=
    quiet_when (Quiet.bind (quiet_bindHostToTransmission _ _) fun _ => quiet_pure ())
  have hrecovery : (makeRoom s).state.recovery = s.recovery := by
    simp only [makeRoom, when]
    split <;> rfl
  let admission := bindGuestHandleToTransmission env (env.expired 2) ticket.guestId
    ticket.transmissionId guestHdl
  let run (bound : Outcome Application Event Bool) : Outcome Application Event Unit :=
    (if bound.value then CrossDesk.resumedWork env ticket guestHdl else pure ()) bound.state
  have hstate : (Application.resume env ticket guestHdl s).state =
    (run (admission (makeRoom s).state)).state := rfl
  have hevents : (Application.resume env ticket guestHdl s).events = (makeRoom s).events ++
    ((admission (makeRoom s).state).events ++ (run (admission (makeRoom s).state)).events) := rfl
  rw [hstate, hevents, ← List.append_assoc, ← List.append_assoc]
  have hmade := h.ordinary (hroom s)
  have hready := hresumable.of_quiet hrecovery (hquiet s)
  have hbefore : ∀ maps, maps = (admission (makeRoom s).state).state.manager.toRouting →
      Confirmed db (log ++ (makeRoom s).events) ticket hostHdl guestHdl maps := by
    intro maps hmaps
    rw [hmaps]
    exact hready.confirmed hmade.toAccountable (quiet_bindGuestHandle _ _ _ _ _)
  have hadmitted := hmade.admit fun maps hmaps => .confirmed (hbefore maps hmaps)
  have hcurrent : (admission (makeRoom s).state).state.recovery.tickets[ticket.key]? = some ticket :=
    hready.current
  have hresumed : Admission db (log ++ (makeRoom s).events ++ (admission (makeRoom s).state).events)
      (.resumed ticket guestHdl (env.wallClock ticket.key)) :=
    .resumed rfl (hbefore _ rfl) (hready.inTime_or hmade.toAccountable)
  change Vouched db (_ ++ (admission (makeRoom s).state).events)
    (admission (makeRoom s).state).state at hadmitted
  generalize admission (makeRoom s).state = bound at hadmitted hcurrent hresumed ⊢
  simp only [run]
  split
  · exact hadmitted.resumedWork hcurrent hresumed
  · simpa using hadmitted

/-- A report names the session of the ticket that it is checked against. -/
theorem Genuine.named {tx g : String} {ticket : Ticket}
    (h : Genuine db log (sessionKey tx g) ticket) : tx = ticket.transmissionId ∧ g = ticket.guestId :=
  sessionKey_inj h.keyed.symm

/-- A restart loads the tickets from their rows; a ticket that was issued stays so. -/
theorem Vouched.restarted {cfg : Config} {env : Env} (h : Throughout (Admission db) log)
    (hsaved : ∀ (key : SessionKey) (row : RecoveryRow), s.store.sessionRecovery[key]? = some row →
      Issued db log (ofLex key).1 (ofLex key).2 row.token) :
    Vouched db (log ++ (boot cfg env s).events) (boot cfg env s).state := by
  have hrows : DropsTickets s.store (reopen env.storeTime s.store) :=
    (initDb_drops env.storeTime).trans (.of_filter rfl)
  have htickets : ∀ key : SessionKey, (boot cfg env s).state.recovery.tickets[key]? =
      ((reopen env.storeTime s.store).sessionRecovery[key]?).map _ :=
    fun key => Std.ExtTreeMap.getElem?_map
  exact {
    genuine := by
      intro key ticket hticket
      rw [htickets] at hticket
      obtain ⟨row, hrow, rfl⟩ := Option.map_eq_some_iff.mp hticket
      exact {
        keyed := rfl
        issued := (hsaved key row (hrows key row hrow)).snoc fun _ => by simp
        host := fun hready => by cases hready
        guest := fun hready => by cases hready
        renewed := .inl rfl }
    saved := by
      intro key row hrow
      exact ⟨_, (htickets key).trans (congrArg (Option.map _) hrow), rfl⟩
    aimed := by
      intro work hwork
      cases hwork
    admissions := throughout_snoc.mpr ⟨h, .other rfl⟩ }

end Steps

/-! ## Jobs and runs -/

section Server

variable {cfg : Config} {env : Env} {db : DeviceDbManager} {assumed : World → Job → Env → Prop}
  {s : Application} {log : List Event}

end Server

end CrossDesk
