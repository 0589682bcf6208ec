import CrossDesk.DeviceDbManager.Listing
import CrossDesk.TransmissionManager.Operations

/-!
# Restoring the sessions of the database

`RestorePersistedRemoteControlSessions` runs once, when the server starts: it lists the sessions of
the database and makes each of them a room with its host and guests, except for the guests that
session recovery manages.

The list hands the guests of a room over as one text, joined with commas (`Listing`), so a guest whose
id has a comma comes back in pieces. `restored_iff` says when that does no harm.
-/

namespace CrossDesk.SignalServer

open DeviceDbManager

/-- The guests of one listed session. -/
def restoreGuests (manages : String → String → Bool) (transmissionId : String)
    (guestIds : List String) (transmission : TransmissionManager) : TransmissionManager :=
  guestIds.foldl (fun transmission guestId =>
    if manages transmissionId guestId then transmission
    else (transmission.bindGuestToTransmission guestId transmissionId).2) transmission

/-- One listed session. -/
def restoreSession (manages : String → String → Bool) (transmission : TransmissionManager)
    (session : RemoteControlSessionInfo) : TransmissionManager :=
  restoreGuests manages session.transmissionId session.guestIds
    (transmission.bindHostToTransmission session.hostId session.transmissionId).2

/-- `RestorePersistedRemoteControlSessions`. `manages` is `recovery->Manages`, constantly false
without a recovery. -/
def restorePersistedRemoteControlSessions (manages : String → String → Bool) (db : DeviceDbManager)
    (transmission : TransmissionManager) : TransmissionManager :=
  (db.listRemoteControlSessions (2 ^ 31 - 1) 0 "").foldl (restoreSession manages) transmission

/-! ## The rows that there can be -/

/-- The identities that the login path binds: a device, a temporary controller, or a passwordless
alias, which is any text after its `C-` as far as it was read. -/
def AcceptedIdentity (id : String) : Prop :=
  isDeviceNumber id = true ∨
    (∃ kind number : String, isTemporaryControllerRegistration kind = true ∧
      isDeviceNumber number = true ∧ id = kind ++ "-" ++ number) ∨
    (isAlias id = true ∧ validDeviceCredentials id "" = true ∧ '@' ∉ id.toList)

/-- A row that a join creates: the room of a registered device, which is its own host, and the
identity of another connection. -/
structure CreatedRow (transmissionId guestId : String) (row : SessionRow) : Prop where
  registered : isDeviceNumber transmissionId = true
  host : row.hostId = transmissionId
  guest : AcceptedIdentity guestId
  other : guestId ≠ transmissionId

/-- Every row of the table is one that a join creates. -/
def CreatedRows (db : DeviceDbManager) : Prop :=
  ∀ (tx g : String) (row : SessionRow), db.remoteControlSessions[sessionKey tx g]? = some row →
    CreatedRow tx g row

/-- A join adds such a row. -/
theorem CreatedRows.join {db : DeviceDbManager} (h : CreatedRows db) {tx g : String}
    (htx : isDeviceNumber tx = true) (hg : AcceptedIdentity g) (hne : g ≠ tx) (fails : Bool)
    (now : Int) : CreatedRows (db.startRemoteControlSession fails now tx tx g).2 := by
  unfold startRemoteControlSession
  split
  · exact h
  split
  · exact h
  intro tx' g' row hrow
  have hstored : (db.remoteControlSessions.insert (sessionKey tx g)
      { (db.remoteControlSessions[sessionKey tx g]?).getD { hostId := tx, startedAt := now } with
        activityConfirmed := true })[sessionKey tx' g']? = some row := hrow
  by_cases hkey : sessionKey tx' g' = sessionKey tx g
  · have hpair : tx' = tx ∧ g' = g := by simpa [sessionKey] using hkey
    obtain ⟨rfl, rfl⟩ := hpair
    rw [Std.ExtTreeMap.getElem?_insert_self] at hstored
    refine ⟨htx, ?_, hg, hne⟩
    cases hold : db.remoteControlSessions[sessionKey tx' g']? with
    | none =>
      rw [hold] at hstored
      cases hstored
      rfl
    | some old =>
      rw [hold] at hstored
      cases hstored
      exact (h tx' g' old hold).host
  · have hold : db.remoteControlSessions[sessionKey tx' g']? = some row := by grind
    exact h tx' g' row hold

/-- A row that is there after a join is the one of the guest who joined, or was there before. -/
theorem guest_of_join {db : DeviceDbManager} {tx g tx' g' : String} {fails : Bool} {now : Int}
    {row : SessionRow}
    (hrow : (db.startRemoteControlSession fails now tx tx g).2.remoteControlSessions[
      sessionKey tx' g']? = some row) :
    g' = g ∨ db.remoteControlSessions[sessionKey tx' g']? = some row := by
  unfold startRemoteControlSession at hrow
  split at hrow
  · exact .inr hrow
  split at hrow
  · exact .inr hrow
  have hstored : (db.remoteControlSessions.insert (sessionKey tx g)
      { (db.remoteControlSessions[sessionKey tx g]?).getD { hostId := tx, startedAt := now } with
        activityConfirmed := true })[sessionKey tx' g']? = some row := hrow
  by_cases hkey : sessionKey tx' g' = sessionKey tx g
  · exact .inl (sessionKey_inj hkey).2
  · exact .inr (by grind)

theorem digit_of_isDeviceNumber {id : String} (h : isDeviceNumber id = true) {c : Char}
    (hc : c ∈ id.toList) : '0' ≤ c ∧ c ≤ '9' := by
  unfold isDeviceNumber at h
  simp only [Bool.and_eq_true, List.all_eq_true, decide_eq_true_eq] at h
  exact h.1.2 c hc

theorem length_of_isDeviceNumber {id : String} (h : isDeviceNumber id = true) :
    id.toList.length = 9 := by
  unfold isDeviceNumber at h
  simp only [Bool.and_eq_true, beq_iff_eq] at h
  exact h.1.1

theorem ne_empty_of_isDeviceNumber {id : String} (h : isDeviceNumber id = true) : id ≠ "" := by
  rintro rfl
  exact absurd (length_of_isDeviceNumber h) (by decide)

/-- A device is not a temporary controller. -/
theorem not_temporary_of_isDeviceNumber {id : String} (h : isDeviceNumber id = true) :
    isTemporaryControllerId id = false := by
  have hnot : ∀ c : Char, c ∈ id.toList → c ≠ '-' := by
    rintro c hc rfl
    exact absurd (digit_of_isDeviceNumber h hc) (by decide)
  unfold isTemporaryControllerId
  rw [Bool.or_eq_false_iff]
  constructor
  all_goals
    rw [Bool.eq_false_iff]
    intro hstarts
    obtain ⟨t, rfl⟩ := startsWith_iff.mp hstarts
    exact hnot '-' (by simp) rfl

/-- There are fewer devices than the limit of the list. -/
theorem length_le_of_isDeviceNumber {ids : List String} (hnodup : ids.Nodup)
    (hids : ∀ id ∈ ids, isDeviceNumber id = true) : ids.length ≤ 10 ^ 9 := by
  let number (digits : Fin 9 → Fin 10) : String :=
    String.ofList (List.ofFn (fun i => Char.ofNat (48 + (digits i).val)))
  have hsub : ids.toFinset ⊆ Finset.univ.image number := by
    intro id hid
    have hnumber := hids id (List.mem_toFinset.mp hid)
    have hlength := length_of_isDeviceNumber hnumber
    have hdigit (i : Fin 9) : 48 ≤ (id.toList[i]).toNat ∧ (id.toList[i]).toNat ≤ 57 :=
      digit_of_isDeviceNumber hnumber (List.getElem_mem _)
    refine Finset.mem_image.mpr ⟨fun i => ⟨(id.toList[i]).toNat - 48, ?_⟩, Finset.mem_univ _, ?_⟩
    · have hbounds := hdigit i
      omega
    · apply String.toList_inj.mp
      rw [String.toList_ofList]
      refine List.ext_getElem (by simp [hlength]) (fun n hn hn' => ?_)
      have hbounds := hdigit ⟨n, by omega⟩
      rw [List.getElem_ofFn]
      show Char.ofNat (48 + ((id.toList[n]).toNat - 48)) = id.toList[n]
      have hsum : 48 + ((id.toList[n]).toNat - 48) = (id.toList[n]).toNat := by
        have hlow : 48 ≤ (id.toList[n]).toNat := hbounds.1
        omega
      rw [hsum, Char.ofNat_toNat]
  calc ids.length = ids.toFinset.card := (List.toFinset_card_of_nodup hnodup).symm
    _ ≤ (Finset.univ.image number).card := Finset.card_le_card hsub
    _ ≤ (Finset.univ : Finset (Fin 9 → Fin 10)).card := Finset.card_image_le
    _ = 10 ^ 9 := by simp

/-! ## What the loops do -/

section Loops
variable {manages : String → String → Bool}

/-- Adding a guest changes no host, and adds the guest unless it is the host. -/
theorem bindGuest_adds (m : TransmissionManager) {tx host g : String} (htx : tx ≠ "") (hg : g ≠ "")
    (hhost : m.transmissionHostIdList[tx]? = some host) :
    (m.bindGuestToTransmission g tx).2.transmissionHostIdList = m.transmissionHostIdList ∧
      (∀ tx' g' : String, g' ∈ (m.bindGuestToTransmission g tx).2.guestsOf tx' ↔
        g' ∈ m.guestsOf tx' ∨ tx' = tx ∧ g' = g ∧ g ≠ host) ∧
      ((∀ tx' : String, (m.guestsOf tx').Nodup) →
        ∀ tx' : String, ((m.bindGuestToTransmission g tx).2.guestsOf tx').Nodup) := by
  have hmaps := (TransmissionManager.does_bindGuestToTransmission g tx).maps m
  rw [hmaps]
  unfold Mutation.bindGuest
  rw [hhost]
  dsimp only
  split
  · rename_i hrefused
    refine ⟨rfl, fun tx' g' => ⟨.inl, ?_⟩, fun hnodup => hnodup⟩
    rintro (hmem | ⟨rfl, rfl, hne⟩)
    · exact hmem
    · -- the guest was there before
      rcases hrefused with hempty | hempty | hself | hmem
      · exact absurd hempty hg
      · exact absurd hempty htx
      · exact absurd hself.symm hne
      · exact hmem
  · rename_i hadmitted
    simp only [not_or] at hadmitted
    obtain ⟨-, -, hself, hnew⟩ := hadmitted
    refine ⟨rfl, fun tx' g' => ?_, fun hnodup tx' => ?_⟩
    · rw [Routing.guestsOf_withGuest]
      by_cases htx' : tx' = tx
      · subst htx'
        simp [Ne.symm hself]
      · simp [htx']
    · rw [Routing.guestsOf_withGuest]
      split
      · rename_i htx'
        subst htx'
        rw [List.nodup_append]
        refine ⟨hnodup tx', List.nodup_singleton _, fun a ha b hb => ?_⟩
        rw [List.mem_singleton.mp hb]
        rintro rfl
        exact hnew ha
      · exact hnodup tx'

/-- The loop over the guests of a room. -/
theorem restoreGuests_adds (manages : String → String → Bool) {tx host : String} (htx : tx ≠ "")
    (guestIds : List String)
    (hguests : ∀ g ∈ guestIds, g ≠ "") (m : TransmissionManager)
    (hhost : m.transmissionHostIdList[tx]? = some host) :
    (restoreGuests manages tx guestIds m).transmissionHostIdList = m.transmissionHostIdList ∧
      (∀ tx' g : String, g ∈ (restoreGuests manages tx guestIds m).guestsOf tx' ↔
        g ∈ m.guestsOf tx' ∨ tx' = tx ∧ g ∈ guestIds ∧ manages tx g = false ∧ g ≠ host) ∧
      ((∀ tx' : String, (m.guestsOf tx').Nodup) →
        ∀ tx' : String, ((restoreGuests manages tx guestIds m).guestsOf tx').Nodup) := by
  unfold restoreGuests
  induction guestIds generalizing m with
  | nil => simp
  | cons g guestIds ih =>
    rw [List.foldl_cons]
    have hg := hguests g List.mem_cons_self
    have hrest := fun g' hg' => hguests g' (List.mem_cons_of_mem _ hg')
    by_cases hmanaged : manages tx g = true
    · rw [if_pos hmanaged]
      obtain ⟨hhosts, hmem, hnodup⟩ := ih hrest m hhost
      refine ⟨hhosts, fun tx' g' => ?_, hnodup⟩
      rw [hmem]
      have hnot : g' = g → ¬ manages tx g' = false := by
        rintro rfl
        simp [hmanaged]
      grind
    · rw [if_neg hmanaged]
      obtain ⟨hhosts, hmem, hnodup⟩ := bindGuest_adds m htx hg hhost
      obtain ⟨hhosts', hmem', hnodup'⟩ := ih hrest (m.bindGuestToTransmission g tx).2
        (by rw [hhosts]; exact hhost)
      refine ⟨hhosts'.trans hhosts, fun tx' g' => ?_, fun h => hnodup' (hnodup h)⟩
      rw [hmem', hmem]
      have hunmanaged : manages tx g = false := by simpa using hmanaged
      grind

/-- The sessions that were restored so far, of different rooms. -/
structure RestoredSoFar (manages : String → String → Bool)
    (sessions : List RemoteControlSessionInfo) (m : TransmissionManager) : Prop where
  hosts : ∀ tx host : String, m.transmissionHostIdList[tx]? = some host ↔
    ∃ session ∈ sessions, session.transmissionId = tx ∧ session.hostId = host
  guests : ∀ tx g : String, g ∈ m.guestsOf tx ↔
    ∃ session ∈ sessions, session.transmissionId = tx ∧ g ∈ session.guestIds ∧
      manages tx g = false ∧ g ≠ session.hostId
  nodup : ∀ tx : String, (m.guestsOf tx).Nodup

/-- A listed session that can be restored: a room that is no temporary controller's. -/
structure Restorable (session : RemoteControlSessionInfo) : Prop where
  room : session.transmissionId ≠ ""
  room_kept : isTemporaryControllerId session.transmissionId = false
  host_kept : isTemporaryControllerId session.hostId = false
  guests : ∀ g ∈ session.guestIds, g ≠ ""

/-- One more session. -/
theorem RestoredSoFar.session {sessions : List RemoteControlSessionInfo} {m : TransmissionManager}
    (h : RestoredSoFar manages sessions m) {session : RemoteControlSessionInfo}
    (hsession : Restorable session)
    (hnew : ∀ old ∈ sessions, old.transmissionId ≠ session.transmissionId) :
    RestoredSoFar manages (sessions ++ [session]) (restoreSession manages m session) := by
  have hfree : m.transmissionHostIdList[session.transmissionId]? = none := by
    cases hold : m.transmissionHostIdList[session.transmissionId]? with
    | none => rfl
    | some host =>
      obtain ⟨old, hmem, hroom, -⟩ := (h.hosts _ _).mp hold
      exact absurd hroom (hnew old hmem)
  have hbound : (m.bindHostToTransmission session.hostId session.transmissionId).2.toRouting =
      { m.toRouting with
        transmissionHostIdList :=
          m.transmissionHostIdList.insert session.transmissionId session.hostId } := by
    show (Routing.bindHostToTransmission session.hostId session.transmissionId m.toRouting).2 = _
    unfold Routing.bindHostToTransmission
    rw [hsession.host_kept, hsession.room_kept, Bool.or_false, if_neg Bool.false_ne_true]
    have hcontains : m.transmissionHostIdList.contains session.transmissionId = false := by
      rw [Bool.eq_false_iff]
      intro hcontains
      obtain ⟨host, hhost⟩ := OrdMap.contains_iff.mp hcontains
      rw [hfree] at hhost
      cases hhost
    rw [hcontains, if_neg Bool.false_ne_true]
  have hhost : (m.bindHostToTransmission session.hostId
      session.transmissionId).2.transmissionHostIdList[session.transmissionId]? =
        some session.hostId := by
    rw [hbound]
    exact Std.ExtTreeMap.getElem?_insert_self
  have hguestsOf (tx : String) : (m.bindHostToTransmission session.hostId
      session.transmissionId).2.guestsOf tx = m.guestsOf tx := by
    rw [hbound]
    rfl
  -- The host is bound, so each guest of the session can be added.
  obtain ⟨hhosts, hguests, hnodup⟩ := restoreGuests_adds manages hsession.room
    session.guestIds hsession.guests _ hhost
  refine ⟨fun tx host => ?_, fun tx g => ?_, fun tx => ?_⟩
  · show (restoreGuests manages session.transmissionId session.guestIds
      _).transmissionHostIdList[tx]? = some host ↔ _
    rw [hhosts, hbound]
    have hold := h.hosts tx host
    simp only [List.mem_append, List.mem_singleton]
    grind
  · show g ∈ (restoreGuests manages session.transmissionId session.guestIds _).guestsOf tx ↔ _
    rw [hguests, hguestsOf, h.guests]
    simp only [List.mem_append, List.mem_singleton]
    grind
  · refine hnodup (fun tx => ?_) tx
    rw [hguestsOf]
    exact h.nodup tx

/-- The loop over the list. -/
theorem RestoredSoFar.sessions {before sessions : List RemoteControlSessionInfo}
    {m : TransmissionManager} (h : RestoredSoFar manages before m)
    (hsessions : ∀ session ∈ sessions, Restorable session)
    (hrooms : ((before ++ sessions).map RemoteControlSessionInfo.transmissionId).Nodup) :
    RestoredSoFar manages (before ++ sessions) (sessions.foldl (restoreSession manages) m) := by
  induction sessions generalizing before m with
  | nil =>
    rw [List.append_nil]
    exact h
  | cons session sessions ih =>
    have hsplit : before ++ session :: sessions = before ++ [session] ++ sessions := by simp
    have hnew : ∀ old ∈ before, old.transmissionId ≠ session.transmissionId := by
      intro old hold hsame
      rw [List.map_append, List.nodup_append] at hrooms
      exact hrooms.2.2 _ (List.mem_map_of_mem hold) _ (List.mem_map_of_mem List.mem_cons_self) hsame
    rw [hsplit] at hrooms ⊢
    exact ih (h.session (hsessions session List.mem_cons_self) hnew)
      (fun s hs => hsessions s (List.mem_cons_of_mem _ hs)) hrooms

theorem restoredSoFar_empty (manages : String → String → Bool) : RestoredSoFar manages [] {} := by
  refine ⟨fun tx host => ?_, fun tx g => ?_, fun tx => ?_⟩
  · simp
  · simp [Routing.guestsOf]
  · simp [Routing.guestsOf]

end Loops

/-! ## What is restored -/

section Created
variable {db : DeviceDbManager} (h : CreatedRows db)
include h

theorem CreatedRows.entry {entry : SessionKey × SessionRow}
    (hentry : entry ∈ db.remoteControlSessions.toList) :
    CreatedRow (ofLex entry.1).1 (ofLex entry.1).2 entry.2 :=
  h _ _ _ (OrdMap.mem_toList.mp hentry)

/-- A group is the room of a device. -/
theorem CreatedRows.group {group : String × String}
    (hgroup : group ∈ (db.remoteControlSessions.toList.map roomOf).dedup) :
    isDeviceNumber group.1 = true ∧ group.2 = group.1 := by
  rw [List.mem_dedup, List.mem_map] at hgroup
  obtain ⟨entry, hentry, rfl⟩ := hgroup
  exact ⟨(h.entry hentry).registered, (h.entry hentry).host⟩

theorem CreatedRows.nodup_rooms :
    ((db.remoteControlSessions.toList.map roomOf).dedup.map Prod.fst).Nodup := by
  refine (List.nodup_dedup _).map_on (fun group hgroup group' hgroup' hsame => ?_)
  refine Prod.ext hsame ?_
  rw [(h.group hgroup).2, (h.group hgroup').2, hsame]

/-- The limit has room for all groups. -/
theorem CreatedRows.groupCount_le : db.groupCount ≤ 2 ^ 31 - 1 := by
  have hdevices := length_le_of_isDeviceNumber h.nodup_rooms (fun id hid => by
    obtain ⟨group, hgroup, rfl⟩ := List.mem_map.mp hid
    exact (h.group hgroup).1)
  rw [List.length_map] at hdevices
  unfold groupCount
  omega

/-- The listed sessions are the groups of the rows. -/
theorem CreatedRows.mem_list {session : RemoteControlSessionInfo} :
    session ∈ db.listRemoteControlSessions (2 ^ 31 - 1) 0 "" ↔
      ∃ tx : String, (∃ (g : String) (row : SessionRow),
        db.remoteControlSessions[sessionKey tx g]? = some row) ∧
          session = groupOf db.remoteControlSessions.toList (tx, tx) := by
  rw [(listRemoteControlSessions_perm h.groupCount_le (by decide)).mem_iff, List.mem_map]
  constructor
  · rintro ⟨group, hgroup, rfl⟩
    have hhost := (h.group hgroup).2
    rw [List.mem_dedup, List.mem_map] at hgroup
    obtain ⟨entry, hentry, rfl⟩ := hgroup
    refine ⟨(ofLex entry.1).1, ⟨(ofLex entry.1).2, entry.2, OrdMap.mem_toList.mp hentry⟩, ?_⟩
    exact congrArg _ (Prod.ext rfl hhost)
  · rintro ⟨tx, ⟨g, row, hrow⟩, rfl⟩
    refine ⟨(tx, tx), ?_, rfl⟩
    rw [List.mem_dedup, List.mem_map]
    exact ⟨(sessionKey tx g, row), OrdMap.mem_toList.mpr hrow, Prod.ext rfl (h tx g row hrow).host⟩

/-- **What comes back**: the rooms of the rows with their hosts, and of every room the pieces of the
guest ids that are not managed and not the host. -/
theorem CreatedRows.restored (manages : String → String → Bool) :
    (∀ tx host : String,
      (restorePersistedRemoteControlSessions manages db {}).transmissionHostIdList[tx]? = some host ↔
        host = tx ∧ ∃ (g : String) (row : SessionRow),
          db.remoteControlSessions[sessionKey tx g]? = some row) ∧
      (∀ tx piece : String,
        piece ∈ (restorePersistedRemoteControlSessions manages db {}).guestsOf tx ↔
          (∃ (g : String) (row : SessionRow), db.remoteControlSessions[sessionKey tx g]? = some row ∧
            piece ∈ splitCommaSeparatedIds g) ∧ manages tx piece = false ∧ piece ≠ tx) ∧
      ∀ tx : String, ((restorePersistedRemoteControlSessions manages db {}).guestsOf tx).Nodup := by
  have hrestorable : ∀ session ∈ db.listRemoteControlSessions (2 ^ 31 - 1) 0 "",
      Restorable session := by
    intro session hsession
    obtain ⟨tx, ⟨g, row, hrow⟩, rfl⟩ := h.mem_list.mp hsession
    have hnumber := (h tx g row hrow).registered
    exact ⟨ne_empty_of_isDeviceNumber hnumber, not_temporary_of_isDeviceNumber hnumber,
      not_temporary_of_isDeviceNumber hnumber,
      fun g hg => (mem_splitCommaSeparatedIds.mp hg).1⟩
  -- The list has one entry for a room, so no room is restored twice.
  have hrooms : ((db.listRemoteControlSessions (2 ^ 31 - 1) 0 "").map
      RemoteControlSessionInfo.transmissionId).Nodup := by
    rw [((listRemoteControlSessions_perm h.groupCount_le (by decide)).map _).nodup_iff, List.map_map]
    exact h.nodup_rooms
  have hall := (restoredSoFar_empty manages).sessions hrestorable hrooms
  rw [List.nil_append] at hall
  refine ⟨fun tx host => ?_, fun tx piece => ?_, hall.nodup⟩
  · refine (hall.hosts tx host).trans ?_
    constructor
    · rintro ⟨session, hsession, rfl, rfl⟩
      obtain ⟨tx, hrow, rfl⟩ := h.mem_list.mp hsession
      exact ⟨rfl, hrow⟩
    · rintro ⟨rfl, hrow⟩
      exact ⟨_, h.mem_list.mpr ⟨host, hrow, rfl⟩, rfl, rfl⟩
  · refine (hall.guests tx piece).trans ?_
    constructor
    · rintro ⟨session, hsession, rfl, hpiece, hfree, hne⟩
      obtain ⟨tx, -, rfl⟩ := h.mem_list.mp hsession
      obtain ⟨g, row, hrow, -, hpiece⟩ := mem_guestIds_groupOf.mp hpiece
      exact ⟨⟨g, row, hrow, hpiece⟩, hfree, hne⟩
    · rintro ⟨⟨g, row, hrow, hpiece⟩, hfree, hne⟩
      refine ⟨_, h.mem_list.mpr ⟨tx, ⟨g, row, hrow⟩, rfl⟩, rfl, ?_, hfree, hne⟩
      exact mem_guestIds_groupOf.mpr ⟨g, row, hrow, (h tx g row hrow).host, hpiece⟩

end Created

/-- The memberships of the database are restored: every room of a row exists with the row's host, and
the guests of a room are those of its rows that recovery does not manage, each once. -/
structure Restored (manages : String → String → Bool) (db : DeviceDbManager)
    (m : TransmissionManager) : Prop where
  hosts : ∀ (tx g : String) (row : SessionRow),
    db.remoteControlSessions[sessionKey tx g]? = some row →
      m.transmissionHostIdList[tx]? = some row.hostId
  guests : ∀ tx g : String, g ∈ m.guestsOf tx ↔
    (∃ row : SessionRow, db.remoteControlSessions[sessionKey tx g]? = some row) ∧
      manages tx g = false
  nodup : ∀ tx : String, (m.guestsOf tx).Nodup

/-- No guest that recovery does not manage has a comma in its id, and the pieces of the others are
the host, managed, or guests of the room themselves. -/
def CommasHarmless (manages : String → String → Bool) (db : DeviceDbManager) : Prop :=
  ∀ (tx g : String) (row : SessionRow), db.remoteControlSessions[sessionKey tx g]? = some row →
    if manages tx g then
      ∀ piece ∈ splitCommaSeparatedIds g, piece = row.hostId ∨ manages tx piece = true ∨
        ∃ row' : SessionRow, db.remoteControlSessions[sessionKey tx piece]? = some row'
    else ',' ∉ g.toList

theorem AcceptedIdentity.ne_empty {id : String} (h : AcceptedIdentity id) : id ≠ "" := by
  rintro rfl
  rcases h with hnumber | ⟨kind, number, -, -, hid⟩ | ⟨halias, -, -⟩
  · exact ne_empty_of_isDeviceNumber hnumber rfl
  · have hlist := congrArg String.toList hid
    simp at hlist
  · exact absurd halias (by decide)

/-- **A restart restores the memberships** that logins and joins left in the database if and only if
no guest id is torn apart at a comma, or nothing is lost by it. -/
theorem restored_iff (manages : String → String → Bool) {db : DeviceDbManager}
    (h : CreatedRows db) :
    Restored manages db (restorePersistedRemoteControlSessions manages db {}) ↔
      CommasHarmless manages db := by
  obtain ⟨hhosts, hguests, hnodup⟩ := h.restored manages
  constructor
  · intro hrestored tx g row hrow
    split
    · intro piece hpiece
      -- A piece is restored unless it is the host or managed elsewhere; then it must be a row.
      by_cases hself : piece = row.hostId
      · exact .inl hself
      · refine .inr ?_
        cases hmanaged : manages tx piece with
        | true => exact .inl rfl
        | false =>
          rw [(h tx g row hrow).host] at hself
          have hmem := (hguests tx piece).mpr ⟨⟨g, row, hrow, hpiece⟩, hmanaged, hself⟩
          exact .inr ((hrestored.guests tx piece).mp hmem).1
    · -- the guest is among the pieces, and these have no commas
      rename_i hmanaged
      have hmem := (hrestored.guests tx g).mpr ⟨⟨row, hrow⟩, by simpa using hmanaged⟩
      obtain ⟨⟨g₀, row₀, -, hpiece⟩, -⟩ := (hguests tx g).mp hmem
      exact not_mem_of_mem_splitCommaSeparatedIds hpiece
  · intro hharmless
    refine ⟨fun tx g row hrow => ?_, fun tx g => ?_, hnodup⟩
    · exact (hhosts tx row.hostId).mpr ⟨(h tx g row hrow).host, g, row, hrow⟩
    rw [hguests]
    constructor
    · rintro ⟨⟨g₀, row₀, hrow₀, hpiece⟩, hfree, hne⟩
      refine ⟨?_, hfree⟩
      have hrow := hharmless tx g₀ row₀ hrow₀
      have hcreated := h tx g₀ row₀ hrow₀
      split at hrow
      · rcases hrow g hpiece with hself | hmanaged | hother
        · rw [hcreated.host] at hself
          exact absurd hself hne
        · rw [hfree] at hmanaged
          cases hmanaged
        · exact hother
      · rw [mem_splitCommaSeparatedIds_of_not_mem hcreated.guest.ne_empty hrow] at hpiece
        rw [hpiece]
        exact ⟨row₀, hrow₀⟩
    · rintro ⟨⟨row, hrow⟩, hfree⟩
      have hcreated := h tx g row hrow
      have hplain := hharmless tx g row hrow
      rw [hfree, if_neg Bool.false_ne_true] at hplain
      have hpiece := (mem_splitCommaSeparatedIds_of_not_mem hcreated.guest.ne_empty hplain).mpr rfl
      exact ⟨⟨g, row, hrow, hpiece⟩, hfree, hcreated.other⟩

/-- The database after one join. -/
def joinedOnce (tx g : String) : DeviceDbManager :=
  (({} : DeviceDbManager).startRemoteControlSession false 0 tx tx g).2

theorem createdRows_joinedOnce {tx g : String} (htx : isDeviceNumber tx = true)
    (hg : AcceptedIdentity g) (hne : g ≠ tx) : CreatedRows (joinedOnce tx g) := by
  refine CreatedRows.join (fun tx' g' row hrow => ?_) htx hg hne false 0
  rw [show (({} : DeviceDbManager).remoteControlSessions)[sessionKey tx' g']? = none by simp] at hrow
  cases hrow

/-- The database after three joins in one room: of an alias without a comma and of two devices. -/
def joinedThrice : DeviceDbManager :=
  let db := joinedOnce "123456789" "C-987654321"
  let db := (db.startRemoteControlSession false 1 "123456789" "123456789" "234567890").2
  (db.startRemoteControlSession false 2 "123456789" "123456789" "345678901").2

/-- Recovery manages the last guest of them. -/
def managesLast (_transmissionId guestId : String) : Bool := guestId == "345678901"

/-- The other two come back, and the managed one does not. -/
theorem restored_iff_alias :
    Restored managesLast joinedThrice
      (restorePersistedRemoteControlSessions managesLast joinedThrice {}) ∧
    "C-987654321" ∈ (restorePersistedRemoteControlSessions managesLast joinedThrice {}).guestsOf
      "123456789" ∧
    "234567890" ∈ (restorePersistedRemoteControlSessions managesLast joinedThrice {}).guestsOf
      "123456789" ∧
    "345678901" ∉ (restorePersistedRemoteControlSessions managesLast joinedThrice {}).guestsOf
      "123456789" := by
  have hcreated : CreatedRows joinedThrice := by
    refine CreatedRows.join (CreatedRows.join ?_ (by decide) (.inl (by decide)) (by decide) _ _)
      (by decide) (.inl (by decide)) (by decide) _ _
    exact createdRows_joinedOnce (by decide) (.inr (.inr (by decide))) (by decide)
  have hguests : ∀ (tx g : String) (row : SessionRow),
      joinedThrice.remoteControlSessions[sessionKey tx g]? = some row →
      g = "345678901" ∨ g = "234567890" ∨ g = "C-987654321" := by
    intro tx g row hrow
    refine (guest_of_join hrow).imp_right fun hrow => (guest_of_join hrow).imp_right fun hrow => ?_
    refine (guest_of_join hrow).resolve_right fun hrow => ?_
    rw [show (({} : DeviceDbManager).remoteControlSessions)[sessionKey tx g]? = none by simp] at hrow
    cases hrow
  have hharmless : CommasHarmless managesLast joinedThrice := by
    intro tx g row hrow
    obtain rfl | rfl | rfl := hguests tx g row hrow
    · rw [if_pos (by simp [managesLast])]
      intro piece hpiece
      rw [mem_splitCommaSeparatedIds_of_not_mem (by decide) (by decide)] at hpiece
      exact .inr (.inl (by simp [managesLast, hpiece]))
    · rw [if_neg (by simp [managesLast])]
      decide
    · rw [if_neg (by simp [managesLast])]
      decide
  have hrestored := (restored_iff managesLast hcreated).mpr hharmless
  have halias : joinedThrice.remoteControlSessions[sessionKey "123456789" "C-987654321"]? =
      some { hostId := "123456789", startedAt := 0 } := rfl
  have hdevice : joinedThrice.remoteControlSessions[sessionKey "123456789" "234567890"]? =
      some { hostId := "123456789", startedAt := 1 } := rfl
  refine ⟨hrestored, (hrestored.guests _ _).mpr ⟨⟨_, halias⟩, by decide⟩,
    (hrestored.guests _ _).mpr ⟨⟨_, hdevice⟩, by decide⟩, fun hmem => ?_⟩
  exact absurd ((hrestored.guests _ _).mp hmem).2 (by decide)

/-- The alias `C-a,b` comes back as two guests, of which neither ever joined. -/
theorem not_restored_comma : CreatedRows (joinedOnce "123456789" "C-a,b") ∧
    "b" ∈ (restorePersistedRemoteControlSessions (fun _ _ => false)
      (joinedOnce "123456789" "C-a,b") {}).guestsOf "123456789" ∧
    ¬ Restored (fun _ _ => false) (joinedOnce "123456789" "C-a,b")
      (restorePersistedRemoteControlSessions (fun _ _ => false)
        (joinedOnce "123456789" "C-a,b") {}) := by
  have hcreated : CreatedRows (joinedOnce "123456789" "C-a,b") :=
    createdRows_joinedOnce (by decide) (.inr (.inr (by decide))) (by decide)
  obtain ⟨-, hguests, -⟩ := hcreated.restored (fun _ _ => false)
  have hrow : (joinedOnce "123456789" "C-a,b").remoteControlSessions[sessionKey "123456789"
      "C-a,b"]? = some { hostId := "123456789", startedAt := 0 } := rfl
  have hpiece : "b" ∈ splitCommaSeparatedIds "C-a,b" :=
    mem_splitCommaSeparatedIds.mpr (by decide)
  refine ⟨hcreated, (hguests _ _).mpr ⟨⟨_, _, hrow, hpiece⟩, rfl, by decide⟩, fun hrestored => ?_⟩
  have hmem := (hrestored.guests "123456789" "C-a,b").mpr ⟨⟨_, hrow⟩, rfl⟩
  obtain ⟨⟨g, row, -, hwhole⟩, -⟩ := (hguests _ _).mp hmem
  exact absurd (not_mem_of_mem_splitCommaSeparatedIds hwhole) (by decide)

end CrossDesk.SignalServer
