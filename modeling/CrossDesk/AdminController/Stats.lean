import CrossDesk.AdminController.Overview
import CrossDesk.Application.RecoveryTables
import CrossDesk.Lib.Paging

/-!
# The connections that are counted as active

`BuildStats` takes the number of guests in the rooms or the number of saved sessions, whichever is
larger, and subtracts the sessions that session recovery waits for. These are saved sessions. So they are
all among what is counted when the saved sessions are (`recovering_counted`), and need not be when the
rooms hold more guests than sessions are saved.

A handle of a ticket may have expired; `expired` says which did.
-/

namespace CrossDesk

open DeviceDbManager

/-- What `Status` answers. -/
structure RecoveryStatus where
  total : Int
  recoverable : Nat
  recovering : Nat
  deriving DecidableEq, Repr

namespace Application

/-- Both ends reported, each on a handle that is still there. -/
def isRecoverable (expired : ConnectionHdl → Bool) (ticket : Ticket) : Bool :=
  ticket.hostReady && ticket.guestReady && ticket.hostHdl.any (fun hdl => !expired hdl) &&
    ticket.guestHdl.any (fun hdl => !expired hdl)

/-- A round of the loop over `tickets`, which counts the recoverable and the recovering ones. -/
def countTicket (expired : ConnectionHdl → Bool) (s : Application) (counts : Nat × Nat)
    (entry : SessionKey × Ticket) : Nat × Nat :=
  if !s.sessionExists entry.2 then counts
  else if entry.2.recovering then (counts.1, counts.2 + 1)
  else if isRecoverable expired entry.2 then (counts.1 + 1, counts.2)
  else counts

/-- A round of the loop over `legacy`. -/
def countLegacy (s : Application) (recovering : Nat) (entry : SessionKey × Ticket) : Nat :=
  if s.sessionExists entry.2 then recovering + 1 else recovering

/-- `Status`. -/
def recoveryStatus (expired : ConnectionHdl → Bool) (s : Application) : RecoveryStatus :=
  let counts := s.recovery.tickets.toList.foldl (countTicket expired s) (0, 0)
  { total := asInt32 s.store.remoteControlSessions.size
    recoverable := counts.1
    recovering := s.recovery.legacy.toList.foldl (countLegacy s) counts.2 }

/-- The larger of the two counts of `BuildStats`. -/
def activeConnections (s : Application) : Nat :=
  max s.manager.getActiveConnectionCount (asSize (asInt32 s.store.remoteControlSessions.size))

/-- `active_connection_count` of `BuildStats`. -/
def activeConnectionCount (expired : ConnectionHdl → Bool) (s : Application) : Nat :=
  let pending := (s.recoveryStatus expired).recovering
  if pending ≤ s.activeConnections then s.activeConnections - pending else 0

/-! ## What is counted -/

/-- The sessions that are counted as recovering. -/
def recoveringSessions (s : Application) : List SessionKey :=
  (s.recovery.tickets.toList.filter (fun entry =>
      s.sessionExists entry.2 && entry.2.recovering)).map Prod.fst ++
    (s.recovery.legacy.toList.filter (fun entry => s.sessionExists entry.2)).map Prod.fst

/-- The sessions that are counted as recoverable. -/
def recoverableSessions (expired : ConnectionHdl → Bool) (s : Application) : List SessionKey :=
  (s.recovery.tickets.toList.filter (fun entry => s.sessionExists entry.2 &&
    !entry.2.recovering && isRecoverable expired entry.2)).map Prod.fst

/-- The guests in the rooms, as sessions. -/
def roomSessions (s : Application) : List SessionKey :=
  s.manager.transmissionHostIdList.keys.flatMap (fun transmissionId =>
    (s.manager.guestsOf transmissionId).map (sessionKey transmissionId))

/-- The sessions that `activeConnections` is the number of. -/
def countedSessions (s : Application) : List SessionKey :=
  if s.manager.getActiveConnectionCount ≤ asSize (asInt32 s.store.remoteControlSessions.size) then
    s.store.remoteControlSessions.keys
  else s.roomSessions

theorem foldl_countTicket (expired : ConnectionHdl → Bool) (s : Application)
    (entries : List (SessionKey × Ticket)) (counts : Nat × Nat) :
    entries.foldl (countTicket expired s) counts =
      (counts.1 + (entries.filter (fun entry => s.sessionExists entry.2 &&
          !entry.2.recovering && isRecoverable expired entry.2)).length,
        counts.2 + (entries.filter (fun entry =>
          s.sessionExists entry.2 && entry.2.recovering)).length) := by
  induction entries generalizing counts with
  | nil => rfl
  | cons entry entries ih =>
    rw [List.foldl_cons, ih, List.filter_cons, List.filter_cons, countTicket]
    cases s.sessionExists entry.2 with
    | false => rfl
    | true =>
      cases entry.2.recovering with
      | true =>
        simp only [Bool.not_true, Bool.and_true, Bool.false_and, Bool.and_false, if_true,
          Bool.false_eq_true, if_false, List.length_cons, Prod.mk.injEq, true_and]
        omega
      | false =>
        cases isRecoverable expired entry.2 with
        | true =>
          simp only [Bool.not_true, Bool.not_false, Bool.and_true, Bool.and_false, if_true,
            Bool.false_eq_true, if_false, List.length_cons, Prod.mk.injEq, and_true]
          omega
        | false => rfl

theorem foldl_countLegacy (s : Application) (entries : List (SessionKey × Ticket))
    (recovering : Nat) :
    entries.foldl (countLegacy s) recovering =
      recovering + (entries.filter (fun entry => s.sessionExists entry.2)).length := by
  induction entries generalizing recovering with
  | nil => rfl
  | cons entry entries ih =>
    rw [List.foldl_cons, ih, List.filter_cons, countLegacy]
    split
    · rw [List.length_cons]
      omega
    · rfl

/-- `Status` counts the sessions. -/
theorem recoveryStatus_eq (expired : ConnectionHdl → Bool) (s : Application) :
    (s.recoveryStatus expired).recoverable = (s.recoverableSessions expired).length ∧
      (s.recoveryStatus expired).recovering = s.recoveringSessions.length := by
  constructor
  · rw [recoveryStatus, foldl_countTicket, recoverableSessions, List.length_map]
    exact Nat.zero_add _
  · rw [recoveryStatus, foldl_countTicket, foldl_countLegacy, recoveringSessions, List.length_append,
      List.length_map, List.length_map]
    exact congrArg (· + _) (Nat.zero_add _)

theorem recoveryStatus_total (expired : ConnectionHdl → Bool) (s : Application) :
    (s.recoveryStatus expired).total = asInt32 s.store.remoteControlSessions.size := by
  simp only [recoveryStatus]

/-! ## Different rows -/

theorem mem_filtered_keys {V : Type} {m : OrdMap SessionKey V} {p : SessionKey × V → Bool}
    {key : SessionKey} :
    key ∈ (m.toList.filter p).map Prod.fst ↔ ∃ v : V, m[key]? = some v ∧ p (key, v) = true := by
  rw [List.mem_map]
  constructor
  · rintro ⟨⟨key', v⟩, hmem, rfl⟩
    obtain ⟨hlisted, hp⟩ := List.mem_filter.mp hmem
    exact ⟨v, OrdMap.mem_toList.mp hlisted, hp⟩
  · rintro ⟨v, hv, hp⟩
    exact ⟨(key, v), List.mem_filter.mpr ⟨OrdMap.mem_toList.mpr hv, hp⟩, rfl⟩

theorem nodup_filtered_keys {V : Type} (m : OrdMap SessionKey V) (p : SessionKey × V → Bool) :
    ((m.toList.filter p).map Prod.fst).Nodup := by
  have hkeys := OrdMap.nodup_keys m
  rw [← Std.ExtTreeMap.map_fst_toList_eq_keys] at hkeys
  exact hkeys.sublist (List.filter_sublist.map _)

/-- A session that is counted as recovering is in one of the tables. -/
theorem mem_recoveringSessions {s : Application} {key : SessionKey} :
    key ∈ s.recoveringSessions ↔
      (∃ ticket : Ticket, s.recovery.tickets[key]? = some ticket ∧ s.sessionExists ticket = true ∧
          ticket.recovering = true) ∨
        ∃ ticket : Ticket, s.recovery.legacy[key]? = some ticket ∧ s.sessionExists ticket = true := by
  rw [recoveringSessions, List.mem_append, mem_filtered_keys, mem_filtered_keys]
  simp only [Bool.and_eq_true]

theorem mem_recoverableSessions {expired : ConnectionHdl → Bool} {s : Application}
    {key : SessionKey} (h : key ∈ s.recoverableSessions expired) :
    ∃ ticket : Ticket, s.recovery.tickets[key]? = some ticket ∧ s.sessionExists ticket = true ∧
      ticket.recovering = false := by
  obtain ⟨ticket, hticket, hp⟩ := mem_filtered_keys.mp h
  simp only [Bool.and_eq_true, Bool.not_eq_true'] at hp
  exact ⟨ticket, hticket, hp.1.1, hp.1.2⟩

theorem sessionExists_row {ticket : Ticket} {s : Application} (h : s.sessionExists ticket = true) :
    ticket.key ∈ s.store.remoteControlSessions.keys := by
  unfold sessionExists at h
  obtain ⟨row, hrow, -⟩ := (Option.any_eq_true _ _).mp h
  exact OrdMap.mem_keys.mpr ⟨row, hrow⟩

section Sound

variable {s : Application} (hs : s.recovery.Sound)
include hs

/-- The sessions that are counted as recovering are saved. -/
theorem recoveringSessions_subset :
    s.recoveringSessions ⊆ s.store.remoteControlSessions.keys := by
  intro key hkey
  rcases mem_recoveringSessions.mp hkey with ⟨ticket, hticket, hexists, -⟩ | ⟨ticket, hticket, hexists⟩
  · rw [← hs.tickets_keyed key ticket hticket]
    exact sessionExists_row hexists
  · rw [← hs.legacy_keyed key ticket hticket]
    exact sessionExists_row hexists

theorem recoverableSessions_subset (expired : ConnectionHdl → Bool) :
    s.recoverableSessions expired ⊆ s.store.remoteControlSessions.keys := by
  intro key hkey
  obtain ⟨ticket, hticket, hexists, -⟩ := mem_recoverableSessions hkey
  rw [← hs.tickets_keyed key ticket hticket]
  exact sessionExists_row hexists

/-- No session is counted as recovering twice. -/
theorem nodup_recoveringSessions : s.recoveringSessions.Nodup := by
  refine List.Nodup.append (nodup_filtered_keys _ _) (nodup_filtered_keys _ _) ?_
  intro key hticket hlegacy
  obtain ⟨ticket, hticket, -⟩ := mem_filtered_keys.mp hticket
  obtain ⟨ticket', hlegacy, -⟩ := mem_filtered_keys.mp hlegacy
  rcases hs.apart key with hnone | hnone
  · rw [hnone] at hticket
    cases hticket
  · rw [hnone] at hlegacy
    cases hlegacy

/-- No session is counted as recoverable and as recovering. -/
theorem nodup_counted (expired : ConnectionHdl → Bool) :
    (s.recoverableSessions expired ++ s.recoveringSessions).Nodup := by
  refine List.Nodup.append (nodup_filtered_keys _ _) (nodup_recoveringSessions hs) ?_
  intro key hrecoverable hrecovering
  obtain ⟨ticket, hticket, -, hresumed⟩ := mem_recoverableSessions hrecoverable
  rcases mem_recoveringSessions.mp hrecovering with ⟨ticket', hticket', -, hwaiting⟩ |
    ⟨ticket', hlegacy, -⟩
  · rw [hticket] at hticket'
    cases hticket'
    rw [hresumed] at hwaiting
    cases hwaiting
  · rcases hs.apart key with hnone | hnone
    · rw [hnone] at hticket
      cases hticket
    · rw [hnone] at hlegacy
      cases hlegacy

/-- **What `Status` counts are different saved sessions.** -/
theorem status_le_sessions (expired : ConnectionHdl → Bool) :
    (s.recoveryStatus expired).recoverable + (s.recoveryStatus expired).recovering ≤
      s.store.remoteControlSessions.size := by
  rw [(recoveryStatus_eq expired s).1, (recoveryStatus_eq expired s).2, ← List.length_append,
    ← Std.ExtTreeMap.length_keys]
  refine (nodup_counted hs expired).length_le_of_subset ?_
  exact List.append_subset.mpr ⟨recoverableSessions_subset hs expired, recoveringSessions_subset hs⟩

end Sound

/-! ## The subtraction -/

theorem getActiveConnectionCount_eq (s : Application) :
    s.manager.getActiveConnectionCount = s.roomSessions.length := by
  unfold Routing.getActiveConnectionCount roomSessions
  rw [List.length_flatMap]
  simp

/-- The count is the number of the counted sessions, while `int` holds the number of saved sessions. -/
theorem activeConnections_eq {s : Application}
    (hsize : s.store.remoteControlSessions.size < 2 ^ 31) :
    s.activeConnections = s.countedSessions.length := by
  have hledger : asSize (asInt32 s.store.remoteControlSessions.size) =
      s.store.remoteControlSessions.size := by
    rw [asInt32_eq_iff.mpr hsize, asSize]
    omega
  unfold activeConnections countedSessions
  rw [hledger]
  split
  · next hle => rw [max_eq_right hle, Std.ExtTreeMap.length_keys]
  · next hlt =>
    rw [max_eq_left (by omega)]
    exact getActiveConnectionCount_eq s

/-- What is left when a part is taken out of a list without repetitions. -/
theorem length_filter_not_mem {α : Type} {l part : List α} {p : α → Bool} (hpart : part.Nodup)
    (hsubset : part ⊆ l) (hl : l.Nodup) (hp : ∀ a, p a = true ↔ a ∉ part) :
    (l.filter p).length = l.length - part.length := by
  have hsplit := List.length_eq_length_filter_add (l := l) p
  have hsame : (l.filter (fun a => !p a)).Perm part := by
    rw [List.perm_ext_iff_of_nodup (hl.filter _) hpart]
    intro a
    rw [List.mem_filter, Bool.not_eq_true', ← Bool.not_eq_true, hp, not_not]
    exact and_iff_right_of_imp fun ha => hsubset ha
  have hlength := hsame.length_eq
  omega

/-- While the saved sessions are counted, the subtraction leaves those that are not recovering. -/
theorem activeConnectionCount_eq {s : Application} (hs : s.recovery.Sound)
    (expired : ConnectionHdl → Bool) (hsize : s.store.remoteControlSessions.size < 2 ^ 31)
    (hrooms : s.manager.getActiveConnectionCount ≤ s.store.remoteControlSessions.size) :
    s.recoveringSessions ⊆ s.countedSessions ∧
      s.activeConnectionCount expired =
        (s.countedSessions.filter (fun key => key ∉ s.recoveringSessions)).length := by
  have hledger : asSize (asInt32 s.store.remoteControlSessions.size) =
      s.store.remoteControlSessions.size := by
    rw [asInt32_eq_iff.mpr hsize, asSize]
    omega
  have hcounted : s.countedSessions = s.store.remoteControlSessions.keys := by
    rw [countedSessions, hledger, if_pos hrooms]
  have hsubset := recoveringSessions_subset hs
  have hnodup := nodup_recoveringSessions hs
  rw [← hcounted] at hsubset
  refine ⟨hsubset, ?_⟩
  rw [length_filter_not_mem hnodup hsubset (hcounted ▸ OrdMap.nodup_keys _)
      (fun key => decide_eq_true_iff), activeConnectionCount,
    (recoveryStatus_eq expired s).2, activeConnections_eq hsize]
  rw [if_pos (hnodup.length_le_of_subset hsubset)]

/-! ## In every reachable state -/

/-- **Recovery counts never exceed the ledger**, and while the saved sessions are counted, the
subtraction takes away sessions that are counted. -/
theorem recovery_counts (expired : ConnectionHdl → Bool) {s : Application}
    (h : sessionRecovery.Reachable s) :
    (∀ key : SessionKey,
      ¬ (s.recovery.tickets.contains key = true ∧ s.recovery.legacy.contains key = true)) ∧
    (∀ transmissionId guestId : String,
      ¬ (s.recovery.legacy.contains (sessionKey transmissionId guestId) = true ∧
        (s.recovery.tickets[sessionKey transmissionId guestId]?).any Ticket.recovering = true)) ∧
    (s.store.remoteControlSessions.size < 2 ^ 31 →
      ((s.recoveryStatus expired).recoverable : Int) + (s.recoveryStatus expired).recovering ≤
        (s.recoveryStatus expired).total) ∧
    (s.store.remoteControlSessions.size < 2 ^ 31 →
      s.manager.getActiveConnectionCount ≤ s.store.remoteControlSessions.size →
      s.activeConnections = s.countedSessions.length ∧
        (∀ key ∈ s.recoveringSessions, key ∈ s.countedSessions) ∧
        s.activeConnectionCount expired =
          (s.countedSessions.filter (fun key => key ∉ s.recoveringSessions)).length) := by
  have hs := sound_of_reachable h
  refine ⟨?_, ?_, fun hsize => ?_, fun hsize hrooms => ?_⟩
  · rintro key ⟨htickets, hlegacy⟩
    obtain ⟨ticket, hticket⟩ := OrdMap.contains_iff.mp htickets
    obtain ⟨ticket', hlegacy⟩ := OrdMap.contains_iff.mp hlegacy
    rcases hs.apart key with hnone | hnone
    · rw [hnone] at hticket
      cases hticket
    · rw [hnone] at hlegacy
      cases hlegacy
  · rintro transmissionId guestId ⟨hlegacy, hrecovering⟩
    obtain ⟨ticket, hticket, -⟩ := (Option.any_eq_true _ _).mp hrecovering
    obtain ⟨ticket', hlegacy⟩ := OrdMap.contains_iff.mp hlegacy
    rcases hs.apart (sessionKey transmissionId guestId) with hnone | hnone
    · rw [hnone] at hticket
      cases hticket
    · rw [hnone] at hlegacy
      cases hlegacy
  · have hle := status_le_sessions hs expired
    rw [recoveryStatus_total, asInt32_eq_iff.mpr hsize]
    omega
  · obtain ⟨hsubset, hleft⟩ := activeConnectionCount_eq hs expired hsize hrooms
    exact ⟨activeConnections_eq hsize, fun key hkey => hsubset hkey, hleft⟩

/-- One saved session, without a ticket. -/
def savedSession : DeviceDbManager :=
  { remoteControlSessions := (∅ : OrdMap SessionKey SessionRow).insert (sessionKey "200000002" "300000003")
      { hostId := "200000002", startedAt := 0 } }

/-- The server has just started on it. -/
def startedOnSession : Application :=
  { store := savedSession, recovery := .constructed 615 savedSession }

theorem startedOnSession_reachable : sessionRecovery.Reachable startedOnSession :=
  ⟨[], .start ⟨615, rfl⟩⟩

theorem recovery_counts_started :
    (startedOnSession.recoveryStatus fun _ => false) = ⟨1, 0, 1⟩ ∧
      startedOnSession.activeConnectionCount (fun _ => false) = 0 ∧
      (∀ key ∈ startedOnSession.recoveringSessions, key ∈ startedOnSession.countedSessions) := by
  have hsize : startedOnSession.store.remoteControlSessions.size < 2 ^ 31 := by decide +kernel
  obtain ⟨-, -, -, hcounted⟩ := recovery_counts (fun _ => false) startedOnSession_reachable
  have hstats := hcounted hsize (by decide +kernel)
  exact ⟨by decide +kernel, hstats.2.2.trans (by decide +kernel), hstats.2.1⟩

/-- Two guests are in a room, and their sessions could not be saved. -/
def unsavedGuests : Application :=
  { startedOnSession with
    manager := { transmissionHostIdList := (∅ : OrdMap String String).insert "100000001" "100000001"
                 transmissionGuestIdList := (∅ : OrdMap String (List String)).insert "100000001"
                   ["400000004", "500000005"] } }

/-- The key of the `i`-th session of three rooms with eight hundred million guests each. -/
def crowdedKey (i : Nat) : SessionKey :=
  sessionKey (Nat.repr (100000000 + i / 800000000)) (Nat.repr (100000003 + i % 800000000))

/-- A database with the first `n` of these sessions. -/
def manySessions (n : Nat) : DeviceDbManager where
  remoteControlSessions := Std.ExtTreeMap.ofList ((List.range n).map (fun i =>
    (crowdedKey i, { hostId := Nat.repr (100000000 + i / 800000000), startedAt := 0 : SessionRow })))
    compare

theorem size_manySessions (n : Nat) : (manySessions n).remoteControlSessions.size = n := by
  have hdistinct : ((List.range n).map (fun i => (crowdedKey i,
      { hostId := Nat.repr (100000000 + i / 800000000), startedAt := 0 : SessionRow }))).Pairwise
      (fun a b => ¬ compare a.1 b.1 = .eq) := by
    rw [List.pairwise_map]
    refine List.Pairwise.imp ?_ List.nodup_range
    intro i j hne hsame
    obtain ⟨hroom, hguest⟩ := sessionKey_inj (Std.LawfulEqOrd.eq_of_compare hsame)
    have hquotient := Nat.repr_injective hroom
    have hremainder := Nat.repr_injective hguest
    exact hne (by omega)
  rw [manySessions, Std.ExtTreeMap.size_ofList hdistinct, List.length_map, List.length_range]

/-- The guests of the room are counted, and the saved session is subtracted from them; and of `2 ^ 31`
saved sessions the total is a negative number, which the two counts exceed. -/
theorem recovery_counts_refuted :
    (∃ s : Application, sessionRecovery.Reachable s ∧
      s.activeConnections = 2 ∧ s.activeConnectionCount (fun _ => false) = 1 ∧
      ∃ key ∈ s.recoveringSessions, key ∉ s.countedSessions) ∧
    ∃ s : Application, sessionRecovery.Reachable s ∧
      s.store.remoteControlSessions.size = 2 ^ 31 ∧
      (s.recoveryStatus fun _ => false).total <
        ((s.recoveryStatus fun _ => false).recoverable : Int) +
          (s.recoveryStatus fun _ => false).recovering := by
  refine ⟨⟨unsavedGuests, startedOnSession_reachable.step (l := .outside) rfl, ?_, ?_,
    sessionKey "200000002" "300000003", ?_, ?_⟩, ?_⟩
  case refine_5 =>
    have hsize := size_manySessions (2 ^ 31)
    have htotal := recoveryStatus_total (fun _ => false)
      { startedOnSession with store := manySessions (2 ^ 31) }
    refine ⟨{ startedOnSession with store := manySessions (2 ^ 31) },
      startedOnSession_reachable.step (l := .outside) rfl, hsize, ?_⟩
    rw [hsize] at htotal
    have hnegative : asInt32 (2 ^ 31) < 0 := by decide
    omega
  all_goals decide +kernel

end Application

end CrossDesk
