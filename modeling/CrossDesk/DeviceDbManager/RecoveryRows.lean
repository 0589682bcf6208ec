import CrossDesk.DeviceDbManager.ReconnectRuns
import CrossDesk.DeviceDbManager.Sparing

/-!
# The rows of session recovery

The table `session_recovery` holds the tickets that outlive the server. A row is written when a ticket
is issued, by session recovery itself. No call of the store writes one: a call leaves the table alone,
or deletes the rows of sessions that end (`DropsTickets`).
-/

namespace CrossDesk.DeviceDbManager

open Transaction

variable {db db' db'' : DeviceDbManager}

/-- The rows of session recovery are kept or dropped. -/
def DropsTickets (db db' : DeviceDbManager) : Prop :=
  ∀ (key : SessionKey) (row : RecoveryRow), db'.sessionRecovery[key]? = some row →
    db.sessionRecovery[key]? = some row

theorem DropsTickets.of_same (h : db'.sessionRecovery = db.sessionRecovery) :
    DropsTickets db db' := by
  intro key row hrow
  rwa [h] at hrow

theorem DropsTickets.refl (db : DeviceDbManager) : DropsTickets db db := .of_same rfl

theorem DropsTickets.trans (h : DropsTickets db db') (h' : DropsTickets db' db'') :
    DropsTickets db db'' := fun key row hrow => h key row (h' key row hrow)

/-! ## Calls about other tables -/

theorem recordRuntimeHeartbeat_recovery (now : Int) :
    (db.recordRuntimeHeartbeat now).sessionRecovery = db.sessionRecovery := by
  unfold recordRuntimeHeartbeat refreshDailyControllerActivity
  dsimp only
  split <;> rfl

theorem startRemoteControlSession_recovery (fails : Bool) (now : Int) (tx hostId g : String) :
    (db.startRemoteControlSession fails now tx hostId g).2.sessionRecovery =
      db.sessionRecovery := by
  unfold startRemoteControlSession
  split
  · rfl
  · split <;> rfl

theorem endRemoteControlSession_drops (fails : Bool) (now : Int) (tx g : String) :
    DropsTickets db (db.endRemoteControlSession fails now tx g).2 := by
  unfold endRemoteControlSession
  split
  · exact .refl db
  · dsimp only
    split
    · exact .of_same rfl
    · intro key row hrow
      have herased : (db.sessionRecovery.erase (sessionKey tx g))[key]? = some row := hrow
      rw [Std.ExtTreeMap.getElem?_erase] at herased
      split at herased
      · cases herased
      · exact herased

/-- The rows that pass a filter are rows. -/
theorem DropsTickets.of_filter {p : SessionKey → RecoveryRow → Bool}
    (h : db'.sessionRecovery = db.sessionRecovery.filter p) : DropsTickets db db' := by
  intro key row hrow
  rw [h, Std.ExtTreeMap.getElem?_filter', Option.filter_eq_some_iff] at hrow
  exact hrow.1

theorem initDb_drops (now : Int) : DropsTickets db (db.initDb now) := by
  unfold initDb
  refine .trans ?_ (.of_same (recordRuntimeHeartbeat_recovery now))
  by_cases hrecovers : 0 < (if 0 < db.lastSeenAt then min db.lastSeenAt now else 0) ∧
      now - (if 0 < db.lastSeenAt then min db.lastSeenAt now else 0) ≤ 120
  · exact .of_same (if_pos (decide_eq_true hrecovers))
  · exact .of_filter (if_neg (by simpa using hrecovers))

end CrossDesk.DeviceDbManager
