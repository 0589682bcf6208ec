import CrossDesk.Lib.System
import CrossDesk.DeviceDbManager.Basic

/-!
# Who is counted on a day

Controllers are counted at three places: where a session starts, where a confirmed session ends, and
once a day at the first heartbeat, which counts whoever is connected across midnight. The last one is
guarded by `activityDay`, the day that the process last refreshed.

A run is a sequence of calls under a clock that does not run backwards, restarts included. What
should have been counted is read off the calls alone (`Counted`), and `daily_counts` says that the
table holds exactly that, today and yesterday.

* `Effect` says once what a call does to the rows, the sessions and the day; `call_effect` proves it
  of each call.
* `Tallied` is the invariant. That a refresh may be left out rests on its part `confirmed`: while the
  day is the current one, every confirmed session is in the table already.
-/

namespace CrossDesk.DeviceDbManager

/-! ## Days -/

theorem dayStart_mono {t t' : Int} (h : t ≤ t') : dayStart t ≤ dayStart t' := by
  have hdiv : (t + 28800).tdiv 86400 ≤ (t' + 28800).tdiv 86400 :=
    Int.tdiv_le_tdiv (by decide) (by omega)
  unfold dayStart
  omega

/-- No day starts at zero, the day of a process that has not refreshed yet. -/
theorem dayStart_ne_zero (t : Int) : dayStart t ≠ 0 := by
  unfold dayStart
  omega

/-! ## Sessions and rows -/

/-- The session is live, and confirmed since the server came up. -/
def Confirmed (key : SessionKey) (db : DeviceDbManager) : Prop :=
  ∃ row : SessionRow, db.remoteControlSessions[key]? = some row ∧ row.activityConfirmed = true

/-- The controller is counted on the day. -/
def Recorded (day : Int) (guest : String) (db : DeviceDbManager) : Prop :=
  ∃ kind : ControllerKind, db.dailyControllerActivity[toLex (day, guest)]? = some kind

/-- A row per session is stored, whatever the kinds are. -/
theorem foldl_insert_recorded (kind : String → ControllerKind) {today : Int}
    {sessions : List (SessionKey × SessionRow)} {rows : OrdMap (Int ×ₗ String) ControllerKind}
    {key : Int ×ₗ String} :
    (∃ v, (sessions.foldl (fun activity session =>
        activity.insert (toLex (today, normalizedGuestId session.1))
          (kind (normalizedGuestId session.1))) rows)[key]? = some v) ↔
      (∃ v, rows[key]? = some v) ∨
        ∃ session ∈ sessions, key = toLex (today, normalizedGuestId session.1) := by
  induction sessions generalizing rows with
  | nil => simp
  | cons session sessions ih =>
    rw [List.foldl_cons, ih]
    by_cases hkey : key = toLex (today, normalizedGuestId session.1)
    · subst hkey
      simp
    · have hother : (rows.insert (toLex (today, normalizedGuestId session.1))
          (kind (normalizedGuestId session.1)))[key]? = rows[key]? := by
        rw [Std.ExtTreeMap.getElem?_insert, if_neg]
        intro heq
        exact hkey (Std.LawfulEqOrd.eq_of_compare heq).symm
      rw [hother]
      simp [hkey]

/-- What a record adds: today, each controller with a confirmed session among those asked for. -/
theorem recorded_record {now day : Int} {guest : String} {only : Option SessionKey}
    {db : DeviceDbManager} : Recorded day guest (recordDailyControllerActivity now only db) ↔
      Recorded day guest db ∨ day = dayStart now ∧ guest ≠ "" ∧
        ∃ key : SessionKey, normalizedGuestId key = guest ∧ Confirmed key db ∧
          only.all (· == key) = true := by
  unfold Recorded recordDailyControllerActivity
  rw [foldl_insert_recorded (fun guest => controllerKind guest db)]
  refine or_congr_right ⟨?_, ?_⟩
  · rintro ⟨⟨key, row⟩, hmem, heq⟩
    obtain ⟨rfl, rfl⟩ := Prod.mk.inj (toLex.injective heq)
    obtain ⟨hrow, hpasses⟩ := List.mem_filter.mp hmem
    simp only [Bool.and_eq_true, decide_eq_true_eq] at hpasses
    exact ⟨rfl, hpasses.1.2, key, rfl, ⟨row, OrdMap.mem_toList.mp hrow, hpasses.1.1⟩, hpasses.2⟩
  · rintro ⟨rfl, hguest, key, rfl, ⟨row, hrow, hconfirmed⟩, honly⟩
    refine ⟨(key, row), List.mem_filter.mpr ⟨OrdMap.mem_toList.mpr hrow, ?_⟩, rfl⟩
    simp only [Bool.and_eq_true, decide_eq_true_eq]
    exact ⟨⟨hconfirmed, hguest⟩, honly⟩

/-! ## Calls -/

/-- The calls of a run. A call that `fails` is one whose statement fails. -/
inductive ActivityCall where
  | start (fails : Bool) (transmissionId hostId guestId : String)
  | finish (fails : Bool) (transmissionId guestId : String)
  | heartbeat
  | updateDeviceClientInfo (fails : Bool) (deviceId clientVersion clientPlatform : String)
  | restart

/-- What a call leaves behind. -/
def ActivityCall.apply (now : Int) (db : DeviceDbManager) : ActivityCall → DeviceDbManager
  | start fails transmissionId hostId guestId =>
    (db.startRemoteControlSession fails now transmissionId hostId guestId).2
  | finish fails transmissionId guestId =>
    (db.endRemoteControlSession fails now transmissionId guestId).2
  | heartbeat => db.recordRuntimeHeartbeat now
  | updateDeviceClientInfo fails deviceId clientVersion clientPlatform =>
    (db.updateDeviceClientInfo fails now deviceId clientVersion clientPlatform).2
  | restart => db.initDb now

/-- A call of a run, when it was made, and the database that it found. -/
structure ActivityStep where
  call : ActivityCall
  now : Int
  before : DeviceDbManager

namespace ActivityStep

/-- The call starts the session, or starts it again. -/
def Starts (key : SessionKey) (step : ActivityStep) : Prop :=
  match step.call with
  | .start fails transmissionId hostId guestId =>
    key = sessionKey transmissionId guestId ∧
      (step.before.startRemoteControlSession fails step.now transmissionId hostId guestId).1 = true
  | _ => False

/-- The call ends the session, which is confirmed. It is recorded before its row is deleted, so it
does not matter whether the deletion fails. -/
def Ends (key : SessionKey) (step : ActivityStep) : Prop :=
  match step.call with
  | .finish _ transmissionId guestId =>
    key = sessionKey transmissionId guestId ∧ transmissionId ≠ "" ∧ guestId ≠ "" ∧
      Confirmed key step.before
  | _ => False

/-- The call is the first heartbeat of its day. The heartbeat of an opening is left aside: it finds
no session confirmed. -/
def FirstHeartbeat (earlier : List ActivityStep) (step : ActivityStep) : Prop :=
  step.call = .heartbeat ∧
    ∀ e ∈ earlier, e.call = .heartbeat → dayStart e.now ≠ dayStart step.now

/-- The call counts the controller of the session. -/
def Counts (earlier : List ActivityStep) (key : SessionKey) (step : ActivityStep) : Prop :=
  step.Starts key ∨ step.Ends key ∨ FirstHeartbeat earlier step ∧ Confirmed key step.before

end ActivityStep

/-- Some call on the day counted the controller. -/
def Counted (steps : List ActivityStep) (day : Int) (guest : String) : Prop :=
  ∃ (earlier : List ActivityStep) (step : ActivityStep) (later : List ActivityStep)
    (key : SessionKey), steps = earlier ++ step :: later ∧ dayStart step.now = day ∧
      normalizedGuestId key = guest ∧ step.Counts earlier key

/-- The session was started after the last restart. -/
def StartedSinceRestart (steps : List ActivityStep) (key : SessionKey) : Prop :=
  ∃ (earlier : List ActivityStep) (step : ActivityStep) (later : List ActivityStep),
    steps = earlier ++ step :: later ∧ step.Starts key ∧ ∀ e ∈ later, e.call ≠ .restart

/-- The database at the time of the last call. -/
structure ActivityState where
  db : DeviceDbManager
  now : Int

/-- Runs of calls from the opening of a new database, under a clock that does not run backwards. -/
def activitySystem : System ActivityState ActivityStep where
  start s := s.db = ({} : DeviceDbManager).initDb s.now
  step s step s' := s.now ≤ step.now ∧ step.before = s.db ∧
    s' = ⟨step.call.apply step.now s.db, step.now⟩

/-! ## What a call does -/

/-- The call puts the controller of the session into the table. -/
def ActivityStep.Records (key : SessionKey) (step : ActivityStep) : Prop :=
  step.Starts key ∨ step.Ends key ∨ step.call = .heartbeat ∧
    step.before.activityDay ≠ dayStart step.now ∧ Confirmed key step.before

/-- The call refreshes the day: a heartbeat, or the heartbeat of an opening. -/
def ActivityStep.Refreshes (step : ActivityStep) : Prop :=
  step.call = .heartbeat ∨ step.call = .restart

/-- What a call does to the rows, to the confirmed sessions and to the day. -/
structure Effect (step : ActivityStep) (db' : DeviceDbManager) : Prop where
  added : ∀ (day : Int) (guest : String), Recorded day guest db' →
    Recorded day guest step.before ∨ day = dayStart step.now ∧ guest ≠ "" ∧
      ∃ key : SessionKey, normalizedGuestId key = guest ∧ step.Records key
  kept : ∀ (day : Int) (guest : String), dayStart step.now - 86400 ≤ day →
    Recorded day guest step.before → Recorded day guest db'
  records : ∀ key : SessionKey, step.Records key → normalizedGuestId key ≠ "" →
    Recorded (dayStart step.now) (normalizedGuestId key) db'
  confirmed : ∀ key : SessionKey, Confirmed key db' →
    step.Starts key ∨ Confirmed key step.before ∧ step.call ≠ .restart
  refreshed : step.Refreshes → db'.activityDay = dayStart step.now
  pruned : step.Refreshes → step.before.activityDay ≠ dayStart step.now →
    ∀ (day : Int) (guest : String), Recorded day guest db' → dayStart step.now - 86400 ≤ day
  sameDay : ¬ step.Refreshes → db'.activityDay = step.before.activityDay

/-- A call that changes neither rows nor sessions nor the day, and records nothing. -/
theorem Effect.nothing {step : ActivityStep} {db' : DeviceDbManager}
    (hrows : ∀ (day : Int) (guest : String), Recorded day guest db' ↔ Recorded day guest step.before)
    (hsessions : db'.remoteControlSessions = step.before.remoteControlSessions)
    (hday : db'.activityDay = step.before.activityDay) (hrecords : ∀ key, ¬ step.Records key)
    (hcall : ¬ step.Refreshes) : Effect step db' where
  added day guest h := .inl ((hrows day guest).mp h)
  kept day guest _ h := (hrows day guest).mpr h
  records key h := absurd h (hrecords key)
  confirmed key h := by
    obtain ⟨row, hrow, hconfirmed⟩ := h
    rw [hsessions] at hrow
    exact .inr ⟨⟨row, hrow, hconfirmed⟩, fun heq => hcall (.inr heq)⟩
  refreshed h := absurd h hcall
  pruned h := absurd h hcall
  sameDay _ := hday

section Calls

variable {now : Int} {db : DeviceDbManager}

/-- The session has a row, which is confirmed. -/
def withSession (now : Int) (transmissionId hostId guestId : String) (db : DeviceDbManager) :
    DeviceDbManager :=
  let key := sessionKey transmissionId guestId
  let db := ensurePresence now (normalizeRemoteDeviceId hostId) db
  let db := ensurePresence now (normalizeRemoteDeviceId guestId) db
  let row := (db.remoteControlSessions[key]?).getD { hostId, startedAt := now }
  { db with
    remoteControlSessions := db.remoteControlSessions.insert key { row with activityConfirmed := true } }

theorem startRemoteControlSession_eq {fails : Bool} {transmissionId hostId guestId : String}
    (hargs : ¬ (transmissionId = "" ∨ hostId = "" ∨ guestId = "" ∨ hostId = guestId))
    (hfails : ¬ fails = true) :
    db.startRemoteControlSession fails now transmissionId hostId guestId =
      (true, recordDailyControllerActivity now (some (sessionKey transmissionId guestId))
        (withSession now transmissionId hostId guestId db)) := by
  unfold startRemoteControlSession
  rw [if_neg hargs, if_neg hfails]
  rfl

theorem confirmed_withSession {transmissionId hostId guestId : String} {key : SessionKey} :
    Confirmed key (withSession now transmissionId hostId guestId db) ↔
      key = sessionKey transmissionId guestId ∨ Confirmed key db := by
  unfold Confirmed
  dsimp only [withSession, ensurePresence]
  by_cases hkey : key = sessionKey transmissionId guestId
  · subst hkey
    simp
  · have hother : ¬ compare (sessionKey transmissionId guestId) key = .eq :=
      fun heq => hkey (Std.LawfulEqOrd.eq_of_compare heq).symm
    rw [Std.ExtTreeMap.getElem?_insert, if_neg hother, or_iff_right hkey]

/-- A start that succeeds confirms its session and records it. -/
theorem effect_start (fails : Bool) (transmissionId hostId guestId : String) :
    Effect ⟨.start fails transmissionId hostId guestId, now, db⟩
      (db.startRemoteControlSession fails now transmissionId hostId guestId).2 := by
  have hrefreshes : ¬ ActivityStep.Refreshes ⟨.start fails transmissionId hostId guestId, now, db⟩ := by
    rintro (heq | heq) <;> cases heq
  have hrecords : ∀ key, ActivityStep.Records key
      ⟨.start fails transmissionId hostId guestId, now, db⟩ ↔ key = sessionKey transmissionId guestId ∧
        (db.startRemoteControlSession fails now transmissionId hostId guestId).1 = true := by
    intro key
    refine ⟨?_, .inl⟩
    rintro (h | h | ⟨h, -⟩)
    · exact h
    · exact h.elim
    · cases h
  by_cases hrefused : (transmissionId = "" ∨ hostId = "" ∨ guestId = "" ∨ hostId = guestId) ∨
      fails = true
  · have hnothing : db.startRemoteControlSession fails now transmissionId hostId guestId =
        (false, db) := by
      unfold startRemoteControlSession
      rcases hrefused with hrefused | hfails
      · rw [if_pos hrefused]
      · rw [hfails, if_pos rfl, ite_self]
    rw [hnothing] at hrecords ⊢
    exact Effect.nothing (fun _ _ => Iff.rfl) rfl rfl (fun key h => by simpa using (hrecords key).mp h)
      hrefreshes
  · obtain ⟨hargs, hfails⟩ := not_or.mp hrefused
    have hstart : db.startRemoteControlSession fails now transmissionId hostId guestId = _ :=
      startRemoteControlSession_eq hargs hfails
    -- The session is stored first, so the new one is among those that are recorded.
    have hmid : ∀ key, Confirmed key (withSession now transmissionId hostId guestId db) ↔
        key = sessionKey transmissionId guestId ∨ Confirmed key db := fun _ => confirmed_withSession
    rw [hstart] at hrecords ⊢
    have hrecorded : ∀ key, ActivityStep.Records key
        ⟨.start fails transmissionId hostId guestId, now, db⟩ ↔ key = sessionKey transmissionId guestId :=
      fun key => (hrecords key).trans (and_iff_left rfl)
    refine ⟨fun day guest h => ?_, fun day guest _ h => ?_, fun key h hguest => ?_, fun key h => ?_,
      fun h => absurd h hrefreshes, fun h => absurd h hrefreshes, fun _ => rfl⟩
    · rcases recorded_record.mp h with h | ⟨hday, hguest, key, hkey, -, honly⟩
      · exact .inl h
      · have hsession : sessionKey transmissionId guestId = key := by simpa using honly
        exact .inr ⟨hday, hguest, key, hkey, (hrecorded key).mpr hsession.symm⟩
    · exact recorded_record.mpr (.inl h)
    · have hkey := (hrecorded key).mp h
      exact recorded_record.mpr (.inr ⟨rfl, hguest, key, rfl, (hmid key).mpr (.inl hkey), by simp [hkey]⟩)
    · rcases (hmid key).mp h with hkey | h
      · exact .inl ⟨hkey, by rw [hstart]⟩
      · exact .inr ⟨h, by simp⟩

/-- An end records its session before the row goes, and refuses a session without ids. -/
theorem effect_finish (fails : Bool) (transmissionId guestId : String) :
    Effect ⟨.finish fails transmissionId guestId, now, db⟩
      (db.endRemoteControlSession fails now transmissionId guestId).2 := by
  have hrefreshes : ¬ ActivityStep.Refreshes ⟨.finish fails transmissionId guestId, now, db⟩ := by
    rintro (heq | heq) <;> cases heq
  have hrecords : ∀ key, ActivityStep.Records key ⟨.finish fails transmissionId guestId, now, db⟩ ↔
      key = sessionKey transmissionId guestId ∧ transmissionId ≠ "" ∧ guestId ≠ "" ∧
        Confirmed key db := by
    intro key
    refine ⟨?_, fun h => .inr (.inl h)⟩
    rintro (h | h | ⟨h, -⟩)
    · exact h.elim
    · exact h
    · cases h
  unfold endRemoteControlSession
  by_cases hrefused : transmissionId = "" ∨ guestId = ""
  · rw [if_pos hrefused]
    refine Effect.nothing (fun _ _ => Iff.rfl) rfl rfl (fun key h => ?_) hrefreshes
    obtain ⟨-, hroom, hguest, -⟩ := (hrecords key).mp h
    exact hrefused.elim hroom hguest
  · obtain ⟨hroom, hguest⟩ := not_or.mp hrefused
    rw [if_neg hrefused]
    -- Deleting the session touches no row of the activity.
    have hrows : ∀ (day : Int) (guest : String), Recorded day guest
        (if fails = true then (false, recordDailyControllerActivity now
            (some (sessionKey transmissionId guestId)) db)
          else (true, deleteSession (sessionKey transmissionId guestId)
            (recordDailyControllerActivity now (some (sessionKey transmissionId guestId)) db))).2 ↔
        Recorded day guest
          (recordDailyControllerActivity now (some (sessionKey transmissionId guestId)) db) := by
      intro day guest
      cases fails <;> exact Iff.rfl
    refine ⟨fun day guest h => ?_, fun day guest _ h => ?_, fun key h hnonempty => ?_, fun key h => ?_,
      fun h => absurd h hrefreshes, fun h => absurd h hrefreshes, fun _ => by cases fails <;> rfl⟩
    · rcases recorded_record.mp ((hrows day guest).mp h) with h | ⟨hday, hnonempty, key, hkey, hlive, honly⟩
      · exact .inl h
      · have hsession : sessionKey transmissionId guestId = key := by simpa using honly
        exact .inr ⟨hday, hnonempty, key, hkey,
          (hrecords key).mpr ⟨hsession.symm, hroom, hguest, hlive⟩⟩
    · exact (hrows day guest).mpr (recorded_record.mpr (.inl h))
    · obtain ⟨hkey, -, -, hlive⟩ := (hrecords key).mp h
      exact (hrows _ _).mpr (recorded_record.mpr (.inr ⟨rfl, hnonempty, key, rfl, hlive, by simp [hkey]⟩))
    · obtain ⟨row, hrow, hconfirmed⟩ := h
      refine .inr ⟨⟨row, ?_, hconfirmed⟩, by simp⟩
      cases fails with
      | true => exact hrow
      | false =>
        have herased : (db.remoteControlSessions.erase (sessionKey transmissionId guestId))[key]? =
            some row := hrow
        rw [Std.ExtTreeMap.getElem?_erase] at herased
        split at herased
        · cases herased
        · exact herased

/-- A heartbeat records whoever is confirmed, once a day, and drops the days before yesterday. -/
theorem recorded_refresh {day : Int} {guest : String} (hday : db.activityDay ≠ dayStart now) :
    Recorded day guest (refreshDailyControllerActivity now db) ↔ dayStart now - 86400 ≤ day ∧
      (Recorded day guest db ∨ day = dayStart now ∧ guest ≠ "" ∧
        ∃ key : SessionKey, normalizedGuestId key = guest ∧ Confirmed key db) := by
  have hrefresh : refreshDailyControllerActivity now db =
      { recordDailyControllerActivity now none db with
        dailyControllerActivity :=
          (recordDailyControllerActivity now none db).dailyControllerActivity.filter
            (fun key _ => decide (dayStart now - 86400 ≤ (ofLex key).1))
        activityDay := dayStart now } := by
    unfold refreshDailyControllerActivity
    exact if_neg (Ne.symm hday)
  have hfilter : Recorded day guest (refreshDailyControllerActivity now db) ↔
      dayStart now - 86400 ≤ day ∧
        Recorded day guest (recordDailyControllerActivity now none db) := by
    rw [hrefresh]
    unfold Recorded
    simp only [Std.ExtTreeMap.getElem?_filter', Option.filter_eq_some_iff, ofLex_toLex]
    exact ⟨fun ⟨kind, hkind, hkept⟩ => ⟨of_decide_eq_true hkept, kind, hkind⟩,
      fun ⟨hkept, kind, hkind⟩ => ⟨kind, hkind, decide_eq_true hkept⟩⟩
  rw [hfilter, recorded_record]
  simp

theorem refresh_activityDay : (refreshDailyControllerActivity now db).activityDay = dayStart now := by
  unfold refreshDailyControllerActivity
  by_cases hday : dayStart now = db.activityDay
  · rw [if_pos hday, hday]
  · rw [if_neg hday]

theorem refresh_sessions :
    (refreshDailyControllerActivity now db).remoteControlSessions = db.remoteControlSessions := by
  unfold refreshDailyControllerActivity
  by_cases hday : dayStart now = db.activityDay
  · rw [if_pos hday]
  · rw [if_neg hday]
    rfl

theorem effect_heartbeat : Effect ⟨.heartbeat, now, db⟩ (db.recordRuntimeHeartbeat now) := by
  have hrecords : ∀ key, ActivityStep.Records key ⟨.heartbeat, now, db⟩ ↔
      db.activityDay ≠ dayStart now ∧ Confirmed key db := by
    intro key
    refine ⟨?_, fun h => .inr (.inr ⟨rfl, h⟩)⟩
    rintro (h | h | ⟨-, h⟩)
    · exact h.elim
    · exact h.elim
    · exact h
  have hsessions : (db.recordRuntimeHeartbeat now).remoteControlSessions = db.remoteControlSessions :=
    refresh_sessions
  have hconfirmed : ∀ key, Confirmed key (db.recordRuntimeHeartbeat now) → Confirmed key db := by
    intro key h
    unfold Confirmed at h
    rw [hsessions] at h
    exact h
  have hcalls : ∀ key, Confirmed key (db.recordRuntimeHeartbeat now) →
      ActivityStep.Starts key ⟨.heartbeat, now, db⟩ ∨ Confirmed key db ∧
        ActivityCall.heartbeat ≠ .restart :=
    fun key h => .inr ⟨hconfirmed key h, nofun⟩
  -- Within the same day the heartbeat does nothing else; on a new day it records who is confirmed.
  by_cases hday : db.activityDay = dayStart now
  · have hnothing : db.recordRuntimeHeartbeat now = { db with lastSeenAt := now } := by
      unfold recordRuntimeHeartbeat refreshDailyControllerActivity
      exact if_pos hday.symm
    have hrows : ∀ day guest, Recorded day guest (db.recordRuntimeHeartbeat now) ↔
        Recorded day guest db := by
      intro day guest
      rw [hnothing]
      exact Iff.rfl
    exact ⟨fun day guest h => .inl ((hrows day guest).mp h),
      fun day guest _ h => (hrows day guest).mpr h,
      fun key h => absurd hday ((hrecords key).mp h).1, hcalls, fun _ => refresh_activityDay,
      fun _ h => absurd hday h, fun h => absurd (.inl rfl) h⟩
  · have hrows : ∀ day guest, Recorded day guest (db.recordRuntimeHeartbeat now) ↔ _ :=
      fun _ _ => recorded_refresh hday
    refine ⟨fun day guest h => ?_, fun day guest hkept h => (hrows day guest).mpr ⟨hkept, .inl h⟩,
      fun key h hguest => ?_, hcalls, fun _ => refresh_activityDay,
      fun _ _ day guest h => ((hrows day guest).mp h).1, fun h => absurd (.inl rfl) h⟩
    · rcases ((hrows day guest).mp h).2 with h | ⟨htoday, hguest, key, hkey, hlive⟩
      · exact .inl h
      · exact .inr ⟨htoday, hguest, key, hkey, (hrecords key).mpr ⟨hday, hlive⟩⟩
    · have hlive := ((hrecords key).mp h).2
      have hkept : dayStart now - 86400 ≤ dayStart now := by omega
      exact (hrows _ _).mpr ⟨hkept, .inr ⟨rfl, hguest, key, rfl, hlive⟩⟩

/-- The kind of a row may change, never whether there is one. -/
theorem recorded_updateKind {day : Int} {guest deviceId platform : String} :
    Recorded day guest (updateDailyControllerKind now deviceId platform db) ↔
      Recorded day guest db := by
  unfold updateDailyControllerKind
  dsimp only
  split
  · rename_i hthere
    unfold Recorded
    by_cases hkey : toLex (dayStart now, normalizeRemoteDeviceId deviceId) = toLex (day, guest)
    · rw [hkey] at hthere ⊢
      exact iff_of_true ⟨_, Std.ExtTreeMap.getElem?_insert_self⟩ (OrdMap.contains_iff.mp hthere)
    · have hother : ¬ compare (toLex (dayStart now, normalizeRemoteDeviceId deviceId))
          (toLex (day, guest)) = .eq := fun heq => hkey (Std.LawfulEqOrd.eq_of_compare heq)
      rw [Std.ExtTreeMap.getElem?_insert, if_neg hother]
  · exact Iff.rfl

theorem updateKind_sessions {deviceId platform : String} :
    (updateDailyControllerKind now deviceId platform db).remoteControlSessions =
      db.remoteControlSessions := by
  unfold updateDailyControllerKind
  dsimp only
  split <;> rfl

theorem updateKind_activityDay {deviceId platform : String} :
    (updateDailyControllerKind now deviceId platform db).activityDay = db.activityDay := by
  unfold updateDailyControllerKind
  dsimp only
  split <;> rfl

/-- The presence of the device changes, and then perhaps its kind. -/
theorem updateDeviceClientInfo_cases (fails : Bool)
    (deviceId clientVersion clientPlatform : String) :
    (∃ presence, (db.updateDeviceClientInfo fails now deviceId clientVersion clientPlatform).2 =
      { db with devicePresence := presence }) ∨
    ∃ presence platform,
      (db.updateDeviceClientInfo fails now deviceId clientVersion clientPlatform).2 =
        updateDailyControllerKind now deviceId platform { db with devicePresence := presence } := by
  unfold DeviceDbManager.updateDeviceClientInfo
  by_cases hempty : fails = true ∨ deviceId = ""
  · rw [if_pos hempty]
    exact .inl ⟨db.devicePresence, rfl⟩
  · rw [if_neg hempty]
    dsimp only
    generalize (if isMobilePlatform clientPlatform then String.ofList (asciiLower clientPlatform)
      else clientPlatform) = platform
    by_cases hplatform : platform = ""
    · rw [if_pos hplatform]
      exact .inl ⟨_, rfl⟩
    · rw [if_neg hplatform]
      exact .inr ⟨_, platform, rfl⟩

theorem effect_updateDeviceClientInfo (fails : Bool)
    (deviceId clientVersion clientPlatform : String) :
    Effect ⟨.updateDeviceClientInfo fails deviceId clientVersion clientPlatform, now, db⟩
      (db.updateDeviceClientInfo fails now deviceId clientVersion clientPlatform).2 := by
  have hrecords : ∀ key, ¬ ActivityStep.Records key
      ⟨.updateDeviceClientInfo fails deviceId clientVersion clientPlatform, now, db⟩ := by
    rintro key (h | h | ⟨h, -⟩)
    · exact h
    · exact h
    · cases h
  have hrefreshes : ¬ ActivityStep.Refreshes
      ⟨.updateDeviceClientInfo fails deviceId clientVersion clientPlatform, now, db⟩ := by
    rintro (heq | heq) <;> cases heq
  rcases updateDeviceClientInfo_cases fails deviceId clientVersion clientPlatform with h | h
  · obtain ⟨presence, h⟩ := h
    rw [h]
    exact Effect.nothing (fun _ _ => Iff.rfl) rfl rfl hrecords hrefreshes
  · obtain ⟨presence, platform, h⟩ := h
    rw [h]
    exact Effect.nothing (fun _ _ => recorded_updateKind) updateKind_sessions updateKind_activityDay
      hrecords hrefreshes

/-- The sessions that an opening finds, or none of them, without their confirmation. -/
theorem restored_unconfirmed {recovers : Bool} {sessions : OrdMap SessionKey SessionRow}
    {key : SessionKey} {row : SessionRow}
    (h : (if recovers = true then sessions.map (fun _ row => { row with activityConfirmed := false })
      else ∅)[key]? = some row) : row.activityConfirmed = false := by
  cases recovers with
  | false =>
    rw [if_neg Bool.false_ne_true] at h
    simp at h
  | true =>
    rw [if_pos rfl, Std.ExtTreeMap.getElem?_map] at h
    obtain ⟨old, -, rfl⟩ := Option.map_eq_some_iff.mp h
    rfl

/-- A restart confirms nothing, and records nothing. -/
theorem effect_restart : Effect ⟨.restart, now, db⟩ (db.initDb now) := by
  have hrecords : ∀ key, ¬ ActivityStep.Records key ⟨.restart, now, db⟩ := by
    rintro key (h | h | ⟨h, -⟩)
    · exact h
    · exact h
    · cases h
  -- The start forgets the day and unconfirms every session, and refreshes after that.
  obtain ⟨mid, hopen, hrows, hday, hsessions⟩ : ∃ mid : DeviceDbManager,
      db.initDb now = refreshDailyControllerActivity now mid ∧
        mid.dailyControllerActivity = db.dailyControllerActivity ∧ mid.activityDay = 0 ∧
        ∀ key, ¬ Confirmed key mid := by
    unfold initDb recordRuntimeHeartbeat
    refine ⟨_, rfl, rfl, rfl, fun key => ?_⟩
    rintro ⟨row, hrow, hconfirmed⟩
    have hfalse := restored_unconfirmed hrow
    rw [hconfirmed] at hfalse
    cases hfalse
  have hstale : mid.activityDay ≠ dayStart now := by
    rw [hday]
    exact (dayStart_ne_zero now).symm
  have hrecorded : ∀ day guest, Recorded day guest (db.initDb now) ↔
      dayStart now - 86400 ≤ day ∧ Recorded day guest db := by
    intro day guest
    rw [hopen, recorded_refresh hstale]
    refine and_congr_right fun _ => ?_
    unfold Recorded
    rw [hrows]
    refine or_iff_left ?_
    rintro ⟨-, -, key, -, hlive⟩
    exact hsessions key hlive
  refine ⟨fun day guest h => .inl ((hrecorded day guest).mp h).2,
    fun day guest hkept h => (hrecorded day guest).mpr ⟨hkept, h⟩,
    fun key h => absurd h (hrecords key), fun key h => ?_, fun _ => ?_,
    fun _ _ day guest h => ((hrecorded day guest).mp h).1, fun h => absurd (.inr rfl) h⟩
  · unfold Confirmed at h
    rw [hopen, refresh_sessions] at h
    exact absurd h (hsessions key)
  · rw [hopen]
    exact refresh_activityDay

end Calls

/-- What a call does. -/
theorem call_effect (step : ActivityStep) : Effect step (step.call.apply step.now step.before) := by
  obtain ⟨call, now, db⟩ := step
  cases call with
  | start fails transmissionId hostId guestId => exact effect_start fails transmissionId hostId guestId
  | finish fails transmissionId guestId => exact effect_finish fails transmissionId guestId
  | heartbeat => exact effect_heartbeat
  | updateDeviceClientInfo fails deviceId clientVersion clientPlatform =>
    exact effect_updateDeviceClientInfo fails deviceId clientVersion clientPlatform
  | restart => exact effect_restart

/-! ## Runs -/

/-- The last step of a run counts a controller, or an earlier one did. -/
theorem counted_append {steps : List ActivityStep} {step : ActivityStep} {day : Int}
    {guest : String} : Counted (steps ++ [step]) day guest ↔ Counted steps day guest ∨
      dayStart step.now = day ∧
        ∃ key : SessionKey, normalizedGuestId key = guest ∧ step.Counts steps key := by
  constructor
  · rintro ⟨earlier, e, later, key, heq, hday, hguest, hcounts⟩
    rcases List.eq_nil_or_concat later with rfl | ⟨before, last, rfl⟩
    · obtain ⟨rfl, hlast⟩ := List.append_inj' heq rfl
      cases hlast
      exact .inr ⟨hday, key, hguest, hcounts⟩
    · have hsplit : steps ++ [step] = (earlier ++ e :: before) ++ [last] := by simpa using heq
      obtain ⟨rfl, -⟩ := List.append_inj' hsplit rfl
      exact .inl ⟨earlier, e, before, key, rfl, hday, hguest, hcounts⟩
  · rintro (⟨earlier, e, later, key, rfl, hday, hguest, hcounts⟩ | ⟨hday, key, hguest, hcounts⟩)
    · exact ⟨earlier, e, later ++ [step], key, by simp, hday, hguest, hcounts⟩
    · exact ⟨steps, step, [], key, rfl, hday, hguest, hcounts⟩

/-- What holds after every call of a run. -/
structure Tallied (steps : List ActivityStep) (s : ActivityState) : Prop where
  refreshed : s.db.activityDay ≤ dayStart s.now
  heartbeats : ∀ e ∈ steps, e.call = .heartbeat → dayStart e.now ≤ s.db.activityDay
  rows_le : ∀ (day : Int) (guest : String), Recorded day guest s.db → day ≤ dayStart s.now
  rows_ge : ∀ (day : Int) (guest : String), Recorded day guest s.db → s.db.activityDay - 86400 ≤ day
  rows : ∀ (day : Int) (guest : String), dayStart s.now - 86400 ≤ day →
    (Recorded day guest s.db ↔ guest ≠ "" ∧ Counted steps day guest)
  confirmed : s.db.activityDay = dayStart s.now → ∀ key : SessionKey, Confirmed key s.db →
    normalizedGuestId key ≠ "" → Recorded (dayStart s.now) (normalizedGuestId key) s.db
  started : ∀ key : SessionKey, Confirmed key s.db → StartedSinceRestart steps key

/-- A new database has no rows and no sessions. -/
theorem tallied_start {s : ActivityState} (hs : activitySystem.start s) : Tallied [] s := by
  obtain ⟨db, now⟩ := s
  obtain rfl : db = ({} : DeviceDbManager).initDb now := hs
  have heffect : Effect ⟨.restart, now, {}⟩ (({} : DeviceDbManager).initDb now) := effect_restart
  have hrows : ∀ day guest, ¬ Recorded day guest (({} : DeviceDbManager).initDb now) := by
    intro day guest h
    rcases heffect.added day guest h with ⟨kind, hkind⟩ | ⟨-, -, key, -, hrecords⟩
    · simp at hkind
    · rcases hrecords with h | h | ⟨h, -⟩
      · exact h
      · exact h
      · cases h
  have hsessions : ∀ key, ¬ Confirmed key (({} : DeviceDbManager).initDb now) := by
    intro key h
    rcases heffect.confirmed key h with h | ⟨-, h⟩
    · exact h
    · exact h rfl
  have hday : (({} : DeviceDbManager).initDb now).activityDay = dayStart now :=
    heffect.refreshed (.inr rfl)
  refine ⟨hday.le, nofun, fun day guest h => absurd h (hrows day guest),
    fun day guest h => absurd h (hrows day guest), fun day guest _ => ?_,
    fun _ key h => absurd h (hsessions key), fun key h => absurd h (hsessions key)⟩
  refine iff_of_false (hrows day guest) ?_
  rintro ⟨-, earlier, step, later, key, heq, -⟩
  exact absurd heq (by simp)

section Step

variable {steps : List ActivityStep} {s : ActivityState} {step : ActivityStep}

/-- What a call records it counts: a refresh is the first heartbeat of its day. -/
theorem Tallied.counts_of_records (h : Tallied steps s) (hnow : s.now ≤ step.now)
    (hbefore : step.before = s.db) {key : SessionKey} (hrecords : step.Records key) :
    step.Counts steps key := by
  rcases hrecords with hstarts | hends | ⟨hcall, hstale, hlive⟩
  · exact .inl hstarts
  · exact .inr (.inl hends)
  · refine .inr (.inr ⟨⟨hcall, fun e he heartbeat hday => ?_⟩, hlive⟩)
    -- An earlier heartbeat of the day has set the day.
    have hset := h.heartbeats e he heartbeat
    have hlate := dayStart_mono hnow
    have hrefreshed := h.refreshed
    rw [hbefore] at hstale
    omega

/-- What a call counts it records, unless it was in the table before. -/
theorem Tallied.recorded_of_counts (h : Tallied steps s) (hnow : s.now ≤ step.now)
    (hbefore : step.before = s.db) {db' : DeviceDbManager} (heffect : Effect step db')
    {key : SessionKey} (hcounts : step.Counts steps key) (hguest : normalizedGuestId key ≠ "") :
    Recorded (dayStart step.now) (normalizedGuestId key) db' := by
  rcases hcounts with hstarts | hends | ⟨⟨hcall, -⟩, hlive⟩
  · exact heffect.records key (.inl hstarts) hguest
  · exact heffect.records key (.inr (.inl hends)) hguest
  · by_cases hstale : step.before.activityDay = dayStart step.now
    · have hlate := dayStart_mono hnow
      have hrefreshed := h.refreshed
      have htoday : dayStart s.now = dayStart step.now := by
        rw [hbefore] at hstale
        omega
      rw [hbefore] at hstale hlive
      have hthere := h.confirmed (hstale.trans htoday.symm) key hlive hguest
      rw [htoday, ← hbefore] at hthere
      exact heffect.kept _ _ (by omega) hthere
    · exact heffect.records key (.inr (.inr ⟨hcall, hstale, hlive⟩)) hguest

theorem tallied_rows (h : Tallied steps s) (hnow : s.now ≤ step.now) (hbefore : step.before = s.db)
    {db' : DeviceDbManager} (heffect : Effect step db') {day : Int} {guest : String}
    (hday : dayStart step.now - 86400 ≤ day) :
    Recorded day guest db' ↔ guest ≠ "" ∧ Counted (steps ++ [step]) day guest := by
  have hlate := dayStart_mono hnow
  have hrows := h.rows day guest (by omega)
  rw [← hbefore] at hrows
  rw [counted_append]
  constructor
  · intro hrecorded
    rcases heffect.added day guest hrecorded with hold | ⟨htoday, hguest, key, hkey, hrecords⟩
    · obtain ⟨hguest, hcounted⟩ := hrows.mp hold
      exact ⟨hguest, .inl hcounted⟩
    · exact ⟨hguest, .inr ⟨htoday.symm, key, hkey, h.counts_of_records hnow hbefore hrecords⟩⟩
  · rintro ⟨hguest, hcounted | ⟨rfl, key, rfl, hcounts⟩⟩
    · exact heffect.kept day guest hday (hrows.mpr ⟨hguest, hcounted⟩)
    · exact h.recorded_of_counts hnow hbefore heffect hcounts hguest

/-- A confirmed session is in the table of the day that was refreshed last. -/
theorem tallied_confirmed (h : Tallied steps s) (hnow : s.now ≤ step.now)
    (hbefore : step.before = s.db) {db' : DeviceDbManager} (heffect : Effect step db')
    (htoday : db'.activityDay = dayStart step.now) {key : SessionKey} (hlive : Confirmed key db')
    (hguest : normalizedGuestId key ≠ "") :
    Recorded (dayStart step.now) (normalizedGuestId key) db' := by
  rcases heffect.confirmed key hlive with hstarts | ⟨hold, hrestart⟩
  · exact heffect.records key (.inl hstarts) hguest
  · by_cases hstale : step.before.activityDay = dayStart step.now
    · have hlate := dayStart_mono hnow
      have hrefreshed := h.refreshed
      rw [hbefore] at hstale hold
      have hsame : dayStart s.now = dayStart step.now := by omega
      have hthere := h.confirmed (hstale.trans hsame.symm) key hold hguest
      rw [hsame, ← hbefore] at hthere
      exact heffect.kept _ _ (by omega) hthere
    · have hcall : step.call = .heartbeat := by
        by_contra hnot
        refine hstale ((heffect.sameDay ?_).symm.trans htoday)
        rintro (heq | heq)
        · exact hnot heq
        · exact hrestart heq
      exact heffect.records key (.inr (.inr ⟨hcall, hstale, hold⟩)) hguest

theorem tallied_step {s' : ActivityState} (h : Tallied steps s)
    (hstep : activitySystem.step s step s') : Tallied (steps ++ [step]) s' := by
  obtain ⟨hnow, hbefore, rfl⟩ := hstep
  have heffect : Effect step (step.call.apply step.now s.db) := hbefore ▸ call_effect step
  have hlate := dayStart_mono hnow
  have hrefreshed := h.refreshed
  -- The stored day moves only with a refresh.
  have hday : (step.call.apply step.now s.db).activityDay = dayStart step.now ∨
      ¬ step.Refreshes ∧ (step.call.apply step.now s.db).activityDay = s.db.activityDay := by
    by_cases hrefreshes : step.Refreshes
    · exact .inl (heffect.refreshed hrefreshes)
    · exact .inr ⟨hrefreshes, hbefore ▸ heffect.sameDay hrefreshes⟩
  refine ⟨?_, fun e he hcall => ?_, fun day guest hrow => ?_, fun day guest hrow => ?_,
    fun day guest => tallied_rows h hnow hbefore heffect,
    fun htoday key => tallied_confirmed h hnow hbefore heffect htoday, fun key hlive => ?_⟩
  · show (step.call.apply step.now s.db).activityDay ≤ dayStart step.now
    rcases hday with hday | ⟨-, hday⟩ <;> omega
  · show dayStart e.now ≤ (step.call.apply step.now s.db).activityDay
    rcases List.mem_append.mp he with he | he
    · have hset := h.heartbeats e he hcall
      rcases hday with hday | ⟨-, hday⟩ <;> omega
    · obtain rfl := List.mem_singleton.mp he
      exact (heffect.refreshed (.inl hcall)).ge
  · show day ≤ dayStart step.now
    rcases heffect.added day guest hrow with hold | ⟨htoday, -⟩
    · have hle := h.rows_le day guest (hbefore ▸ hold)
      omega
    · exact htoday.le
  · show (step.call.apply step.now s.db).activityDay - 86400 ≤ day
    -- Rows go only when a refresh finds a new day; otherwise the day is as it was.
    by_cases hpruned : step.Refreshes ∧ step.before.activityDay ≠ dayStart step.now
    · rw [heffect.refreshed hpruned.1]
      exact heffect.pruned hpruned.1 hpruned.2 day guest hrow
    · have hkept : (step.call.apply step.now s.db).activityDay = s.db.activityDay := by
        rcases hday with hday | ⟨-, hday⟩
        · by_contra hmoved
          refine hpruned ⟨?_, fun heq => ?_⟩
          · by_contra hnot
            exact hmoved (hbefore ▸ heffect.sameDay hnot)
          · rw [hbefore] at heq
            exact hmoved (hday.trans heq.symm)
        · exact hday
      rcases heffect.added day guest hrow with hold | ⟨htoday, -⟩
      · have hge := h.rows_ge day guest (hbefore ▸ hold)
        omega
      · omega
  · rcases heffect.confirmed key hlive with hstarts | ⟨hold, hrestart⟩
    · exact ⟨steps, step, [], rfl, hstarts, nofun⟩
    · obtain ⟨earlier, e, later, rfl, hstarts, hlater⟩ := h.started key (hbefore ▸ hold)
      refine ⟨earlier, e, later ++ [step], by simp, hstarts, fun e' he' => ?_⟩
      rcases List.mem_append.mp he' with he' | he'
      · exact hlater e' he'
      · obtain rfl := List.mem_singleton.mp he'
        exact hrestart

end Step

theorem run_tallied {steps : List ActivityStep} {s : ActivityState}
    (h : activitySystem.Run steps s) : Tallied steps s :=
  h.history (fun _ => tallied_start) (fun _ _ _ _ _ htallied hstep => tallied_step htallied hstep)

/-- A session that counts was started after the last restart. -/
theorem started_of_counts {steps : List ActivityStep} {s : ActivityState}
    (h : activitySystem.Run steps s) : ∀ (earlier : List ActivityStep) (step : ActivityStep)
      (later : List ActivityStep) (key : SessionKey), steps = earlier ++ step :: later →
        step.Counts earlier key → StartedSinceRestart (earlier ++ [step]) key := by
  refine System.Run.history (P := fun steps _ => ∀ (earlier : List ActivityStep)
    (step : ActivityStep) (later : List ActivityStep) (key : SessionKey),
      steps = earlier ++ step :: later → step.Counts earlier key →
        StartedSinceRestart (earlier ++ [step]) key) (fun _ _ earlier _ _ _ heq => ?_)
    (fun steps s l s' hrun ih hstep => ?_) h
  · exact absurd heq (by simp)
  intro earlier step later key heq hcounts
  rcases List.eq_nil_or_concat later with rfl | ⟨between, last, rfl⟩
  · obtain ⟨rfl, hlast⟩ := List.append_inj' heq rfl
    obtain rfl : l = step := by simpa using hlast
    obtain ⟨-, hbefore, -⟩ := hstep
    have hlive : l.call ≠ .restart → Confirmed key l.before →
        StartedSinceRestart (steps ++ [l]) key := by
      intro hcall hlive
      obtain ⟨before, e, after, rfl, hstarts, hafter⟩ := (run_tallied hrun).started key (hbefore ▸ hlive)
      refine ⟨before, e, after ++ [l], by simp, hstarts, fun e' he' => ?_⟩
      rcases List.mem_append.mp he' with he' | he'
      · exact hafter e' he'
      · obtain rfl := List.mem_singleton.mp he'
        exact hcall
    rcases hcounts with hstarts | hends | ⟨⟨hcall, -⟩, hconfirmed⟩
    · exact ⟨steps, l, [], rfl, hstarts, nofun⟩
    · obtain ⟨call, now, before⟩ := l
      cases call with
      | finish fails transmissionId guestId =>
        obtain ⟨-, -, -, hconfirmed⟩ := hends
        exact hlive nofun hconfirmed
      | _ => exact hends.elim
    · exact hlive (by rw [hcall]; nofun) hconfirmed
  · have hsplit : steps ++ [l] = (earlier ++ step :: between) ++ [last] := by simpa using heq
    obtain ⟨rfl, -⟩ := List.append_inj' hsplit rfl
    exact ih earlier step between key rfl hcounts

/-- **The daily counts are exact.** After every call, for today and for yesterday: a controller is in
the table exactly if it is not nameless and a call of that day counted it, and it is there once. When
the day has been refreshed, every confirmed session is in the table. A session counts only when it was
started after the last restart, so one that was restored counts for nothing before it is started again.
After a heartbeat of the day no row is older than yesterday. -/
theorem daily_counts {steps : List ActivityStep} {s : ActivityState}
    (h : activitySystem.Run steps s) :
    (∀ (day : Int) (guest : String), day = dayStart s.now ∨ day = dayStart s.now - 86400 →
      (Recorded day guest s.db ↔ guest ≠ "" ∧ Counted steps day guest) ∧
        (s.db.dailyControllerActivity.toList.filter
          (fun row => decide (row.1 = toLex (day, guest)))).length ≤ 1) ∧
      (s.db.activityDay = dayStart s.now → ∀ key : SessionKey, Confirmed key s.db →
        normalizedGuestId key ≠ "" → Recorded (dayStart s.now) (normalizedGuestId key) s.db) ∧
      (∀ (earlier : List ActivityStep) (step : ActivityStep) (later : List ActivityStep)
        (key : SessionKey), steps = earlier ++ step :: later → step.Counts earlier key →
          StartedSinceRestart (earlier ++ [step]) key) ∧
      ((∃ e ∈ steps, e.call = .heartbeat ∧ dayStart e.now = dayStart s.now) →
        ∀ (day : Int) (guest : String), Recorded day guest s.db → dayStart s.now - 86400 ≤ day) := by
  have htallied := run_tallied h
  refine ⟨fun day guest hday => ⟨htallied.rows day guest (by omega), ?_⟩, htallied.confirmed,
    started_of_counts h, ?_⟩
  · rw [OrdMap.toList_filter_key]
    cases s.db.dailyControllerActivity[toLex (day, guest)]? <;> simp
  · rintro ⟨e, he, hcall, htoday⟩ day guest hrow
    have hset := htallied.heartbeats e he hcall
    have hge := htallied.rows_ge day guest hrow
    omega

/-! A session that is connected across midnight: started on one day under an alias, counted on the
next one by the heartbeat. -/

def beforeMidnight : ActivityStep :=
  ⟨.start false "room" "200000002" "C-100000001", 1000000, ({} : DeviceDbManager).initDb 1000000⟩

def afterMidnight : ActivityStep :=
  ⟨.heartbeat, 1086400, beforeMidnight.call.apply 1000000 beforeMidnight.before⟩

theorem daily_counts_midnight :
    Recorded (dayStart 1000000) "100000001" (afterMidnight.call.apply 1086400 afterMidnight.before) ∧
      Recorded (dayStart 1086400) "100000001"
        (afterMidnight.call.apply 1086400 afterMidnight.before) := by
  have hrun : activitySystem.Run [beforeMidnight, afterMidnight]
      ⟨afterMidnight.call.apply 1086400 afterMidnight.before, 1086400⟩ := by
    have hopened : activitySystem.Run [] ⟨({} : DeviceDbManager).initDb 1000000, 1000000⟩ := .start rfl
    have hstarted := hopened.step (l := beforeMidnight) ⟨le_refl _, rfl, rfl⟩
    exact hstarted.step (l := afterMidnight) ⟨by decide, rfl, rfl⟩
  have hconfirmed : Confirmed (sessionKey "room" "C-100000001") afterMidnight.before :=
    ⟨{ hostId := "200000002", startedAt := 1000000 }, by decide +kernel, rfl⟩
  have hguest : normalizedGuestId (sessionKey "room" "C-100000001") = "100000001" := by decide +kernel
  have hcounts := (daily_counts hrun).1
  refine ⟨?_, ?_⟩
  · refine (hcounts _ _ (.inr (by decide))).1.mpr ⟨by decide, ?_⟩
    exact ⟨[], beforeMidnight, [afterMidnight], sessionKey "room" "C-100000001", rfl, rfl, hguest,
      .inl ⟨rfl, by decide +kernel⟩⟩
  · refine (hcounts _ _ (.inl rfl)).1.mpr ⟨by decide, ?_⟩
    refine ⟨[beforeMidnight], afterMidnight, [], sessionKey "room" "C-100000001", rfl, rfl, hguest,
      .inr (.inr ⟨⟨rfl, fun e he hcall => ?_⟩, hconfirmed⟩)⟩
    obtain rfl := List.mem_singleton.mp he
    cases hcall

end CrossDesk.DeviceDbManager
