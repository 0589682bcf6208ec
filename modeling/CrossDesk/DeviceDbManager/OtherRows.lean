import CrossDesk.DeviceDbManager.DailyActivity
import CrossDesk.DeviceDbManager.Sparing

/-!
# The rows of the others

The end of a controller writes four tables: its sessions end, it is marked offline, and its device, its
presence and its associations go. `KeepsOthers` says what all of that leaves: every row that does not
belong to the controller or its alias, and the activity of everybody.

`RemoveDevice` looks at the presence and at the sessions before it deletes (`Claimed`), and deletes the
rows of the controller and its alias together, or nothing.
-/

namespace CrossDesk.DeviceDbManager

open Transaction

variable {ids : List String} {u : String} {db db' db'' : DeviceDbManager}

/-- The rows of all identities but `ids` are the same, and the sessions of all guests but `u`. -/
structure KeepsOthers (ids : List String) (u : String) (db db' : DeviceDbManager) : Prop where
  devices : ∀ v ∉ ids, db'.devices[v]? = db.devices[v]?
  presence : ∀ v ∉ ids, db'.devicePresence[v]? = db.devicePresence[v]?
  reconnect : ∀ v ∉ ids, db'.reconnectCredentials[v]? = db.reconnectCredentials[v]?
  associations : ∀ key : String ×ₗ String, (ofLex key).1 ∉ ids → (ofLex key).2 ∉ ids →
    db'.userDevices[key]? = db.userDevices[key]?
  sessions : ∀ key : SessionKey, (ofLex key).2 ≠ u →
    db'.remoteControlSessions[key]? = db.remoteControlSessions[key]?
  recovery : ∀ key : SessionKey, (ofLex key).2 ≠ u →
    db'.sessionRecovery[key]? = db.sessionRecovery[key]?
  activity : ∀ (day : Int) (guest : String), Recorded day guest db → Recorded day guest db'
  audit : db'.adminDataAudit = db.adminDataAudit

theorem KeepsOthers.refl (ids : List String) (u : String) (db : DeviceDbManager) :
    KeepsOthers ids u db db :=
  ⟨fun _ _ => rfl, fun _ _ => rfl, fun _ _ => rfl, fun _ _ _ => rfl, fun _ _ => rfl, fun _ _ => rfl,
    fun _ _ h => h, rfl⟩

theorem KeepsOthers.trans (h : KeepsOthers ids u db db') (h' : KeepsOthers ids u db' db'') :
    KeepsOthers ids u db db'' where
  devices := fun v hv => (h'.devices v hv).trans (h.devices v hv)
  presence := fun v hv => (h'.presence v hv).trans (h.presence v hv)
  reconnect := fun v hv => (h'.reconnect v hv).trans (h.reconnect v hv)
  associations := fun key hu hd => (h'.associations key hu hd).trans (h.associations key hu hd)
  sessions := fun key hkey => (h'.sessions key hkey).trans (h.sessions key hkey)
  recovery := fun key hkey => (h'.recovery key hkey).trans (h.recovery key hkey)
  activity := fun day guest hrow => h'.activity day guest (h.activity day guest hrow)
  audit := h'.audit.trans h.audit

/-! ## Ends of sessions and marks -/

/-- The session of a guest ends: its activity is recorded first. -/
theorem endRemoteControlSession_keepsOthers (fails : Bool) (now : Int) (tx : String) :
    KeepsOthers ids u db (db.endRemoteControlSession fails now tx u).2 := by
  have hrecorded : KeepsOthers ids u db (recordDailyControllerActivity now (some (sessionKey tx u)) db) :=
    ⟨fun _ _ => rfl, fun _ _ => rfl, fun _ _ => rfl, fun _ _ _ => rfl, fun _ _ => rfl,
      fun _ _ => rfl, fun _ _ h => recorded_record.mpr (.inl h), rfl⟩
  unfold endRemoteControlSession
  split
  · exact .refl ids u db
  · dsimp only
    split
    · exact hrecorded
    · have hother : ∀ key : SessionKey, (ofLex key).2 ≠ u → ¬ compare (sessionKey tx u) key = .eq := by
        intro key hkey heq
        obtain rfl := Std.LawfulEqOrd.eq_of_compare heq
        exact hkey rfl
      refine hrecorded.trans ⟨fun _ _ => rfl, fun _ _ => rfl, fun _ _ => rfl, fun _ _ _ => rfl,
        fun key hkey => ?_, fun key hkey => ?_, fun _ _ h => h, rfl⟩
      · unfold deleteSession
        dsimp only
        rw [Std.ExtTreeMap.getElem?_erase, if_neg (hother key hkey)]
      · unfold deleteSession
        dsimp only
        rw [Std.ExtTreeMap.getElem?_erase, if_neg (hother key hkey)]

theorem setDeviceOnline_keepsOthers (hu : u ∈ ids) (fails : Bool) (now : Int) (isOnline : Bool) :
    KeepsOthers ids u db (db.setDeviceOnline fails now u isOnline).2 := by
  unfold setDeviceOnline
  split
  · exact .refl ids u db
  · refine ⟨fun _ _ => rfl, fun v hv => ?_, fun _ _ => rfl, fun _ _ _ => rfl, fun _ _ => rfl,
      fun _ _ => rfl, fun _ _ h => h, rfl⟩
    dsimp only
    rw [Std.ExtTreeMap.getElem?_insert, if_neg]
    intro heq
    obtain rfl := Std.LawfulEqOrd.eq_of_compare heq
    exact hv hu

/-! ## The removal -/

/-- The presence or a session still claims the controller or its alias. -/
def Claimed (u : String) (db : DeviceDbManager) : Prop :=
  (∃ id ∈ pair u, db.online id = true) ∨ db.inSession u = true

/-- No device, presence or association is left of the controller and its alias. -/
structure Wiped (u : String) (db : DeviceDbManager) : Prop where
  devices : ∀ id ∈ pair u, db.devices[id]? = none
  presence : ∀ id ∈ pair u, db.devicePresence[id]? = none
  associations : ∀ key : String ×ₗ String, (ofLex key).1 ∈ pair u ∨ (ofLex key).2 ∈ pair u →
    db.userDevices[key]? = none

/-- The three statements for one controller. -/
theorem removeExpired_wipes {fails : CleanupStatement → Bool} {s s' : Cleanup}
    (h : removeExpired fails false u s = .ok ((), s')) :
    Wiped u s'.db ∧ KeepsOthers (pair u) u s.db s'.db := by
  have hgone := (removeExpired_removed h).1
  obtain ⟨_, s₁, h₁, h⟩ := run_bind.mp h
  obtain ⟨_, s₂, h₂, h⟩ := run_bind.mp h
  obtain ⟨_, s₃, h₃, h⟩ := run_bind.mp h
  obtain rfl := run_cleanupStatement h₁
  obtain rfl := run_cleanupStatement h₂
  obtain rfl := run_cleanupStatement h₃
  cases run_pure.mp h
  let cleared := ((s.db.removeAssociations u).2.removePresence u).2
  -- The last statement takes devices and reconnect credentials only.
  obtain ⟨devices, reconnectCredentials, hkept⟩ := removeCredentials_kept u cleared
  have hassociations : ∀ key : String ×ₗ String, (cleared.removeCredentials u).2.userDevices[key]? =
      if (ofLex key).1 ∈ pair u ∨ (ofLex key).2 ∈ pair u then none else s.db.userDevices[key]? := by
    intro key
    rw [hkept]
    exact removeAssociations_userDevices u s.db key
  refine ⟨⟨fun id hid => ?_, fun id hid => ?_, fun key hkey => ?_⟩,
    ⟨fun v hv => ?_, fun v hv => ?_, fun v hv => ?_, fun key hu hd => ?_, fun key _ => ?_, fun key _ => ?_,
      fun day guest hrow => ?_, ?_⟩⟩
  · exact hgone.devices.gone u (List.mem_singleton_self u) id hid
  · exact hgone.presence.gone u (List.mem_singleton_self u) id hid
  · show (cleared.removeCredentials u).2.userDevices[key]? = none
    rw [hassociations, if_pos hkey]
  · exact hgone.devices.kept v fun e he => by rwa [List.mem_singleton.mp he]
  · exact hgone.presence.kept v fun e he => by rwa [List.mem_singleton.mp he]
  · show (cleared.removeCredentials u).2.reconnectCredentials[v]? = _
    rw [removeCredentials_reconnect, if_neg fun hpair => hv hpair.1]
    rfl
  · show (cleared.removeCredentials u).2.userDevices[key]? = _
    rw [hassociations, if_neg (not_or.mpr ⟨hu, hd⟩)]
  · show (cleared.removeCredentials u).2.remoteControlSessions[key]? = _
    rw [hkept]
    rfl
  · show (cleared.removeCredentials u).2.sessionRecovery[key]? = _
    rw [hkept]
    rfl
  · show Recorded day guest (cleared.removeCredentials u).2
    rw [hkept]
    exact hrow
  · show (cleared.removeCredentials u).2.adminDataAudit = _
    rw [hkept]
    rfl

/-- Who is claimed is no candidate. -/
theorem controllerCandidates_one (hu : u ≠ "") (order : ScanOrder String) (db : DeviceDbManager) :
    (Claimed u db → db.controllerCandidates order 1 u = []) ∧
      (¬ Claimed u db → db.controllerCandidates order 1 u = [u]) := by
  have htests : (!(pair u).any (fun id => db.online id) && !db.inSession u) = true ↔
      ¬ Claimed u db := by
    unfold Claimed
    rw [← List.any_eq_true, Bool.and_eq_true, Bool.not_eq_true', Bool.not_eq_true', not_or,
      Bool.not_eq_true, Bool.not_eq_true]
  unfold controllerCandidates
  rw [if_neg hu, List.filter_cons]
  refine ⟨fun hclaimed => ?_, fun hfree => ?_⟩
  · rw [if_neg fun hpasses => htests.mp hpasses hclaimed, List.filter_nil]
    rw [List.perm_nil.mp (order.perm []), List.take_nil]
  · rw [if_pos (htests.mpr hfree), List.filter_nil]
    rw [List.perm_singleton.mp (order.perm [u])]
    rfl

/-- **A controller that is removed goes with all of its rows**, unless it is claimed. -/
theorem removeDevice_controller (htemporary : isTemporaryControllerId u = true)
    (db : DeviceDbManager) :
    (Claimed u db → (db.removeDevice false u).2 = db) ∧
      (¬ Claimed u db → Wiped u (db.removeDevice false u).2) ∧
        KeepsOthers (pair u) u db (db.removeDevice false u).2 := by
  have hu : u ≠ "" := by
    rintro rfl
    cases htemporary
  have hcall : (db.removeDevice false u).2 = (db.cleanupTemporaryControllers {} 1 u).2 := by
    unfold removeDevice
    rw [if_pos htemporary]
  rw [hcall]
  obtain ⟨hclaims, hfrees⟩ := controllerCandidates_one hu (.stored _) db
  rcases cleanupTemporaryControllers_cases {} 1 u db with
    ⟨error, hthrown⟩ | ⟨-, mid, hloop, hdone⟩
  · obtain ⟨result, hreturned⟩ :=
      cleanupTemporaryControllers_returns {} 1 db (by omega) (fun _ => htemporary) fun _ => rfl
    rw [hthrown] at hreturned
    cases hreturned
  · rw [hdone]
    by_cases hclaimed : Claimed u db
    · rw [hclaims hclaimed] at hloop
      cases run_pure.mp hloop
      exact ⟨fun _ => rfl, fun hfree => (hfree hclaimed).elim, .refl (pair u) u db⟩
    · rw [hfrees hclaimed] at hloop
      obtain ⟨_, s, hfirst, hrest⟩ := run_bind.mp hloop
      cases run_pure.mp hrest
      obtain ⟨hwiped, hkept⟩ := removeExpired_wipes hfirst
      exact ⟨fun hyes => (hclaimed hyes).elim, fun _ => hwiped, hkept⟩

end CrossDesk.DeviceDbManager
