import CrossDesk.Lib.Ranking
import CrossDesk.DeviceDbManager.Pairs

/-!
# What retention deletes

The base of an id is the id without one leading `C-`. A row may go only when nothing keeps its pair,
the base and the alias of the base, alive: this is `Idle`. The module compares that with what
`CleanupExpiredDevices` does.

* The call deletes exactly the rows of the pairs `[e, C-e]` of the ids `e` that are due
  (`Removed`, `mem_retentionCandidates`).
* The three tests of the query are made on the pair of `e`. When `e` is not an alias, `e` is the base
  of both rows, and the tests say that the pair is idle (`idle_of_unprotected`).
* When `e` is itself an alias, `e` is the base of `C-e` only, and its own row belongs to another
  pair, of which nothing was tested. `retention_spares_live_pairs` says what is needed there.
-/

namespace CrossDesk.DeviceDbManager

open Transaction

/-! ## What may go -/

/-- Nothing keeps the pair of a base alive: no presence that is online or recent, no recent
credentials without presence, and no session. -/
structure Idle (cutoff : Int) (base : String) (db : DeviceDbManager) : Prop where
  not_live : ∀ id ∈ pair base, ∀ row : PresenceRow, db.devicePresence[id]? = some row →
    row.online = false ∧ row.updatedAt < cutoff
  not_retained : ∀ id ∈ pair base, ∀ row : DeviceRow, db.devices[id]? = some row →
    db.devicePresence[id]? = none → row.retentionStartedAt < cutoff
  not_in_session : ∀ (key : SessionKey) (row : SessionRow),
    db.remoteControlSessions[key]? = some row → row.hostId ∉ pair base ∧ (ofLex key).2 ∉ pair base

/-- The id has a credential or a presence row. -/
def stored (id : String) (db : DeviceDbManager) : Bool :=
  db.devices.contains id || db.devicePresence.contains id

/-- Every row that is gone belonged to an idle pair. -/
def SparesLivePairs (cutoff : Int) (db db' : DeviceDbManager) : Prop :=
  ∀ id : String, (db.devices.contains id = true ∧ db'.devices.contains id = false ∨
      db.devicePresence.contains id = true ∧ db'.devicePresence.contains id = false) →
    Idle cutoff (normalizeRemoteDeviceId id) db

/-- The id is over and not protected, and fewer than a batch of such ids are older. -/
def Due (cutoff : Int) (batchSize : Nat) (id : String) (db : DeviceDbManager) : Prop :=
  id ∈ db.unprotected cutoff ∧ List.rank (db.olderThan cutoff) id (db.unprotected cutoff) < batchSize

/-! ## The candidates -/

/-- The age of an id and the id itself, in the order of the candidates. -/
def age (cutoff : Int) (db : DeviceDbManager) (id : String) : Int ×ₗ String :=
  toLex (db.expiredAt cutoff id, id)

theorem olderThan_iff {cutoff : Int} {db : DeviceDbManager} {a b : String} :
    db.olderThan cutoff a b = true ↔ db.age cutoff a ≤ db.age cutoff b := by
  simp [olderThan, age, Prod.Lex.toLex_le_toLex]

theorem nodup_unprotected (cutoff : Int) (db : DeviceDbManager) : (db.unprotected cutoff).Nodup :=
  (List.nodup_dedup _).filter _

/-- The candidates are the ids that are due. -/
theorem mem_retentionCandidates {cutoff : Int} {batchSize : Nat} {db : DeviceDbManager}
    {id : String} : id ∈ db.retentionCandidates cutoff batchSize ↔ Due cutoff batchSize id db := by
  refine List.mem_take_mergeSort (nodup_unprotected cutoff db) ?_ ?_ ?_
  · intro a b c hab hbc
    rw [olderThan_iff] at hab hbc ⊢
    exact hab.trans hbc
  · intro a b
    rw [Bool.or_eq_true, olderThan_iff, olderThan_iff]
    exact le_total _ _
  · intro a b hab hba
    rw [olderThan_iff] at hab hba
    have hsame := le_antisymm hab hba
    exact (Prod.mk.injEq .. ▸ toLex_inj.mp hsame).2

/-! ## The rows that a call deletes -/

/-- The rows of the pairs are gone, and no others. -/
structure Gone {V : Type} (ids : List String) (rows rows' : OrdMap String V) : Prop where
  gone : ∀ e ∈ ids, ∀ id ∈ pair e, rows'[id]? = none
  kept : ∀ id : String, (∀ e ∈ ids, id ∉ pair e) → rows'[id]? = rows[id]?

theorem Gone.refl {V : Type} (rows : OrdMap String V) : Gone [] rows rows :=
  ⟨fun _ he => absurd he List.not_mem_nil, fun _ _ => rfl⟩

theorem Gone.append {V : Type} {ids ids' : List String} {rows rows' rows'' : OrdMap String V}
    (h : Gone ids rows rows') (h' : Gone ids' rows' rows'') : Gone (ids ++ ids') rows rows'' := by
  refine ⟨fun e he id hid => ?_, fun id hid => ?_⟩
  · by_cases hsecond : ∃ e' ∈ ids', id ∈ pair e'
    · obtain ⟨e', he', hid'⟩ := hsecond
      exact h'.gone e' he' id hid'
    · have hnot : ∀ e' ∈ ids', id ∉ pair e' := by grind
      have hfirst : e ∈ ids := by
        rcases List.mem_append.mp he with he | he
        · exact he
        · exact absurd hid (hnot e he)
      rw [h'.kept id hnot]
      exact h.gone e hfirst id hid
  · rw [h'.kept id (fun e he => hid e (List.mem_append_right _ he))]
    exact h.kept id (fun e he => hid e (List.mem_append_left _ he))

/-- A row is gone exactly if its id is in one of the pairs. -/
theorem Gone.gone_iff {V : Type} {ids : List String} {rows rows' : OrdMap String V}
    (h : Gone ids rows rows') (id : String) :
    (rows.contains id = true ∧ rows'.contains id = false) ↔
      rows.contains id = true ∧ ∃ e ∈ ids, id ∈ pair e := by
  refine and_congr_right (fun hrow => ?_)
  constructor
  · intro hgone
    by_contra hnot
    have hkept := h.kept id (by grind)
    rw [Std.ExtTreeMap.contains_eq_isSome_getElem?, hkept,
      ← Std.ExtTreeMap.contains_eq_isSome_getElem?, hrow] at hgone
    cases hgone
  · rintro ⟨e, he, hid⟩
    rw [Std.ExtTreeMap.contains_eq_isSome_getElem?, h.gone e he id hid]
    rfl

/-- The credentials and presence rows of the pairs are gone. -/
structure Removed (ids : List String) (db db' : DeviceDbManager) : Prop where
  devices : Gone ids db.devices db'.devices
  presence : Gone ids db.devicePresence db'.devicePresence

theorem Removed.refl (db : DeviceDbManager) : Removed [] db db := ⟨.refl _, .refl _⟩

theorem Removed.append {ids ids' : List String} {db db' db'' : DeviceDbManager}
    (h : Removed ids db db') (h' : Removed ids' db' db'') : Removed (ids ++ ids') db db'' :=
  ⟨h.devices.append h'.devices, h.presence.append h'.presence⟩

theorem gone_pair {V : Type} (e : String) (rows : OrdMap String V) : Gone [e] rows (erasePair e rows) := by
  refine ⟨fun e' he' id hid => ?_, fun id hid => ?_⟩
  · obtain rfl := List.mem_singleton.mp he'
    rw [getElem?_erasePair, if_pos hid]
  · rw [getElem?_erasePair, if_neg (hid e (List.mem_singleton.mpr rfl))]

/-- A statement that is carried out. -/
theorem run_cleanupStatement {fails : CleanupStatement → Bool} {statement : CleanupStatement}
    {f : Cleanup → Cleanup} {s s' : Cleanup}
    (h : cleanupStatement fails statement f s = .ok ((), s')) : s' = f s := by
  have hrun := (run_execute.mp h).2
  exact congrArg Prod.snd hrun

/-- The statements for one id delete its pair. -/
theorem removeExpired_removed {fails : CleanupStatement → Bool} {activity : Bool} {e : String}
    {s s' : Cleanup} (h : removeExpired fails activity e s = .ok ((), s')) :
    Removed [e] s.db s'.db ∧ s'.result.deviceIds = s.result.deviceIds := by
  obtain ⟨_, s₁, h₁, h⟩ := run_bind.mp h
  obtain ⟨_, s₂, h₂, h⟩ := run_bind.mp h
  obtain ⟨_, s₃, h₃, h⟩ := run_bind.mp h
  have hs₁ := run_cleanupStatement h₁
  have hs₂ := run_cleanupStatement h₂
  have hs₃ := run_cleanupStatement h₃
  have hremoved : Removed [e] s.db s₃.db ∧ s₃.result.deviceIds = s.result.deviceIds := by
    subst hs₃ hs₂ hs₁
    let cleared := ((s.db.removeAssociations e).2.removePresence e).2
    have hdevices : Gone [e] s.db.devices (cleared.removeCredentials e).2.devices := by
      rw [removeCredentials_devices e cleared]
      exact gone_pair e s.db.devices
    have hpresence : Gone [e] s.db.devicePresence (cleared.removeCredentials e).2.devicePresence := by
      rw [removeCredentials_devicePresence e cleared]
      exact gone_pair e s.db.devicePresence
    exact ⟨⟨hdevices, hpresence⟩, rfl⟩
  split at h
  · have hs₄ := run_cleanupStatement h
    subst hs₄
    exact ⟨⟨hremoved.1.devices, hremoved.1.presence⟩, hremoved.2⟩
  · have hs₄ := run_pure.mp h
    cases hs₄
    exact hremoved

/-- The loop deletes the pairs of the ids. -/
theorem forEach_removed {fails : CleanupStatement → Bool} {activity : Bool} {ids : List String}
    {s s' : Cleanup} (h : forEach ids (removeExpired fails activity) s = .ok ((), s')) :
    Removed ids s.db s'.db ∧ s'.result.deviceIds = s.result.deviceIds := by
  induction ids generalizing s with
  | nil =>
    have hsame := run_pure.mp h
    cases hsame
    exact ⟨.refl _, rfl⟩
  | cons e ids ih =>
    obtain ⟨_, mid, hfirst, hrest⟩ := run_bind.mp h
    obtain ⟨hremoved, hids⟩ := removeExpired_removed hfirst
    obtain ⟨hremoved', hids'⟩ := ih hrest
    exact ⟨hremoved.append hremoved', hids'.trans hids⟩

/-- **A committed cleanup deletes the pairs of the ids that are due.** -/
theorem cleanupExpired_removed {env : CleanupEnv} {cutoff : Int} {batchSize : Nat}
    {db : DeviceDbManager} {s' : Cleanup}
    (h : cleanupExpired env cutoff batchSize { db } = .ok ((), s')) :
    Removed (db.retentionCandidates cutoff batchSize) db s'.db := by
  obtain ⟨_, s₁, h₁, h⟩ := run_bind.mp h
  obtain ⟨_, s₂, h₂, h⟩ := run_bind.mp h
  obtain ⟨s₃, _, h₃, h⟩ := run_bind.mp h
  obtain ⟨_, s₄, h₄, h⟩ := run_bind.mp h
  obtain ⟨_, s₅, h₅, h₆⟩ := run_bind.mp h
  have hs₁ := run_cleanupStatement h₁
  have hs₂ := run_cleanupStatement h₂
  have hs₅ := run_cleanupStatement h₅
  have hs₆ := run_cleanupStatement h₆
  cases h₃
  subst hs₆ hs₅ hs₂ hs₁
  have hremoved := (forEach_removed h₄).1
  exact ⟨hremoved.devices, hremoved.presence⟩

/-! ## The tests of the query -/

/-- No session has the id as a normalized end. -/
theorem inSession_eq_false_iff {id : String} {db : DeviceDbManager} :
    db.inSession id = false ↔ ∀ (key : SessionKey) (row : SessionRow),
      db.remoteControlSessions[key]? = some row →
        normalizedHostId row ≠ id ∧ normalizedGuestId key ≠ id := by
  unfold inSession
  rw [List.any_eq_false]
  constructor
  · intro h key row hrow
    have hnot := h (key, row) (OrdMap.mem_toList.mpr hrow)
    simpa using hnot
  · rintro h ⟨key, row⟩ hmem
    have hnot := h key row (OrdMap.mem_toList.mp hmem)
    simpa using hnot

/-- What the tests of the query say about an id. -/
structure Unprotected (cutoff : Int) (id : String) (db : DeviceDbManager) : Prop where
  not_live : ∀ id' ∈ pair id, ∀ row : PresenceRow, db.devicePresence[id']? = some row →
    row.online = false ∧ row.updatedAt < cutoff
  not_retained : ∀ id' ∈ pair id, ∀ row : DeviceRow, db.devices[id']? = some row →
    db.devicePresence[id']? = none → row.retentionStartedAt < cutoff
  not_in_session : db.inSession id = false

theorem unprotected_of_mem {cutoff : Int} {id : String} {db : DeviceDbManager}
    (h : id ∈ db.unprotected cutoff) : Unprotected cutoff id db := by
  have htests := (List.mem_filter.mp h).2
  simp only [isProtected, Bool.not_eq_true', Bool.or_eq_false_iff, List.any_eq_false] at htests
  obtain ⟨⟨hlive, hretained⟩, hsession⟩ := htests
  refine ⟨fun id' hid' row hrow => ?_, fun id' hid' row hrow hnone => ?_, hsession⟩
  · have hnot := hlive id' hid'
    simpa [isLive, hrow] using hnot
  · have hnot := hretained id' hid'
    have habsent : db.devicePresence.contains id' = false := by
      rw [Std.ExtTreeMap.contains_eq_isSome_getElem?, hnone]
      rfl
    simpa [isRetained, hrow, habsent] using hnot

theorem unprotected_of_due {cutoff : Int} {batchSize : Nat} {id : String} {db : DeviceDbManager}
    (h : Due cutoff batchSize id db) : Unprotected cutoff id db :=
  unprotected_of_mem h.1

/-- Of a base that is not an alias, the tests say that its pair is idle. -/
theorem idle_of_unprotected {cutoff : Int} {id : String} {db : DeviceDbManager}
    (h : Unprotected cutoff id db) (hbase : isAlias id = false) : Idle cutoff id db := by
  refine ⟨h.not_live, h.not_retained, fun key row hrow => ?_⟩
  obtain ⟨hhost, hguest⟩ := inSession_eq_false_iff.mp h.not_in_session key row hrow
  exact ⟨fun hmem => hhost ((normalizeRemoteDeviceId_eq_iff hbase).mpr hmem),
    fun hmem => hguest ((normalizeRemoteDeviceId_eq_iff hbase).mpr hmem)⟩

/-- No session names the id itself. -/
def Unnamed (id : String) (db : DeviceDbManager) : Prop :=
  ∀ (key : SessionKey) (row : SessionRow), db.remoteControlSessions[key]? = some row →
    row.hostId ≠ id ∧ (ofLex key).2 ≠ id

/-- Of a base that is an alias, the tests leave out the sessions that name the base itself. -/
theorem idle_iff_unnamed {cutoff : Int} {id : String} {db : DeviceDbManager}
    (h : Unprotected cutoff id db) : Idle cutoff id db ↔ Unnamed id db := by
  constructor
  · intro hidle key row hrow
    obtain ⟨hhost, hguest⟩ := hidle.not_in_session key row hrow
    exact ⟨fun hsame => hhost (by simp [pair, hsame]), fun hsame => hguest (by simp [pair, hsame])⟩
  · intro hunnamed
    refine ⟨h.not_live, h.not_retained, fun key row hrow => ?_⟩
    obtain ⟨hhost, hguest⟩ := hunnamed key row hrow
    obtain ⟨hhost', hguest'⟩ := inSession_eq_false_iff.mp h.not_in_session key row hrow
    -- the alias of the base normalizes to the base
    simp only [pair, List.mem_cons, List.not_mem_nil, or_false, not_or]
    refine ⟨⟨hhost, ?_⟩, ⟨hguest, ?_⟩⟩
    · intro hsame
      exact hhost' (by rw [normalizedHostId, hsame, normalizeRemoteDeviceId_append])
    · intro hsame
      exact hguest' (by rw [normalizedGuestId, hsame, normalizeRemoteDeviceId_append])

/-! ## The call -/

/-- A due alias puts two rows at stake. Its own row belongs to the pair of its base, which must be
idle. The row of its alias belongs to its own pair, of which only the sessions that name it were not
looked for. -/
def HarmlessAlias (cutoff : Int) (e : String) (db : DeviceDbManager) : Prop :=
  (stored e db = true → Idle cutoff (aliasBase e) db) ∧ (stored ("C-" ++ e) db = true → Unnamed e db)

/-- The rows that are gone after the pairs were removed. -/
theorem sparesLivePairs_iff_stored {cutoff : Int} {ids : List String} {db db' : DeviceDbManager}
    (h : Removed ids db db') : SparesLivePairs cutoff db db' ↔
      ∀ e ∈ ids, ∀ id ∈ pair e, stored id db = true →
        Idle cutoff (normalizeRemoteDeviceId id) db := by
  unfold SparesLivePairs
  simp only [h.devices.gone_iff, h.presence.gone_iff, ← or_and_right, stored, Bool.or_eq_true]
  constructor
  · intro hspares e he id hid hstored
    exact hspares id ⟨hstored, e, he, hid⟩
  · rintro hidle id ⟨hstored, e, he, hid⟩
    exact hidle e he id hid hstored

/-- The pair of a due id is spared, unless the id is an alias that does harm. -/
theorem idle_pair_iff {cutoff : Int} {e : String} {db : DeviceDbManager}
    (h : Unprotected cutoff e db) :
    (∀ id ∈ pair e, stored id db = true → Idle cutoff (normalizeRemoteDeviceId id) db) ↔
      (isAlias e = true → HarmlessAlias cutoff e db) := by
  simp only [pair, List.mem_cons, List.not_mem_nil, or_false, forall_eq_or_imp, forall_eq,
    normalizeRemoteDeviceId_append]
  cases halias : isAlias e with
  | true =>
    have hbase : normalizeRemoteDeviceId e = aliasBase e := by
      rw [normalizeRemoteDeviceId, if_pos halias]
    simp only [hbase, idle_iff_unnamed h, HarmlessAlias, forall_const]
  | false =>
    have hidle : Idle cutoff e db := idle_of_unprotected h halias
    simp [normalizeRemoteDeviceId_of_not_alias halias, hidle]

/-- **What a committed cleanup has spared.** -/
theorem sparesLivePairs_iff {cutoff : Int} {batchSize : Nat} {db db' : DeviceDbManager}
    (h : Removed (db.retentionCandidates cutoff batchSize) db db') :
    SparesLivePairs cutoff db db' ↔
      ∀ e : String, Due cutoff batchSize e db → isAlias e = true → HarmlessAlias cutoff e db := by
  rw [sparesLivePairs_iff_stored h]
  constructor
  · intro hidle e hdue
    exact (idle_pair_iff (unprotected_of_due hdue)).mp (hidle e (mem_retentionCandidates.mpr hdue))
  · intro hharmless e he
    have hdue := mem_retentionCandidates.mp he
    exact (idle_pair_iff (unprotected_of_due hdue)).mpr (hharmless e hdue)

section NoFailure

variable {fails : CleanupStatement → Bool} (h : ∀ statement : CleanupStatement, fails statement = false)
include h

theorem cleanupStatement_succeeds (statement : CleanupStatement) (f : Cleanup → Cleanup) :
    Succeeds (cleanupStatement fails statement f) :=
  execute_succeeds (h statement) _ _

theorem removeExpired_succeeds (activity : Bool) (e : String) :
    Succeeds (removeExpired fails activity e) := by
  refine (cleanupStatement_succeeds h _ _).bind (fun _ => (cleanupStatement_succeeds h _ _).bind
    (fun _ => (cleanupStatement_succeeds h _ _).bind (fun _ => ?_)))
  split
  · exact cleanupStatement_succeeds h _ _
  · exact pure_succeeds ()

end NoFailure

section Commits

variable (env : CleanupEnv) (h : ∀ statement : CleanupStatement, env.fails statement = false)
include h

/-- Nothing stops the cleanup when no statement fails. -/
theorem cleanupExpired_commits (cutoff : Int) (batchSize : Nat)
    (s : Cleanup) : ∃ s', cleanupExpired env cutoff batchSize s = .ok ((), s') := by
  have hwork : Succeeds (cleanupExpired env cutoff batchSize) := by
    refine (cleanupStatement_succeeds h _ _).bind (fun _ => (cleanupStatement_succeeds h _ _).bind
      (fun _ => get_succeeds.bind (fun s =>
        (forEach_succeeds (removeExpired_succeeds h true)).bind (fun _ =>
          (cleanupStatement_succeeds h _ _).bind (fun _ => cleanupStatement_succeeds h _ _)))))
  obtain ⟨_, s', hs'⟩ := hwork s
  exact ⟨s', hs'⟩

theorem cleanupControllers_commits (batchSize : Nat) (deviceId : String)
    (s : Cleanup) : ∃ s', cleanupControllers env batchSize deviceId s = .ok ((), s') := by
  have hwork : Succeeds (cleanupControllers env batchSize deviceId) := by
    refine (cleanupStatement_succeeds h _ _).bind (fun _ => (cleanupStatement_succeeds h _ _).bind
      (fun _ => get_succeeds.bind (fun s =>
        (forEach_succeeds (removeExpired_succeeds h false)).bind (fun _ =>
          cleanupStatement_succeeds h _ _))))
  obtain ⟨_, s', hs'⟩ := hwork s
  exact ⟨s', hs'⟩

end Commits

/-- **Retention.** A call that throws has changed nothing. A call that returns has spared every live
pair exactly if every alias among the ids that are due is harmless. -/
theorem retention_spares_live_pairs (env : CleanupEnv) (now retentionDays : Int)
    (batchSize : Nat) (db : DeviceDbManager) :
    (∀ error : CleanupError,
      (cleanupExpiredDevices env now retentionDays batchSize db).1 = .error error →
        (cleanupExpiredDevices env now retentionDays batchSize db).2 = db) ∧
    (∀ result : RetentionCleanupResult,
      (cleanupExpiredDevices env now retentionDays batchSize db).1 = .ok result →
        (SparesLivePairs (retentionCutoff now retentionDays) db
            (cleanupExpiredDevices env now retentionDays batchSize db).2 ↔
          ∀ e : String, Due (retentionCutoff now retentionDays) batchSize e db →
            isAlias e = true → HarmlessAlias (retentionCutoff now retentionDays) e db)) := by
  unfold cleanupExpiredDevices
  split
  · exact ⟨fun _ _ => rfl, fun _ h => nomatch h⟩
  · cases hrun : (atomically (cleanupExpired env (retentionCutoff now retentionDays) batchSize)
      ({ db } : Cleanup)).1 with
    | error error =>
      refine ⟨fun _ _ => ?_, fun _ h => ?_⟩
      · simp only [atomically_error hrun]
      · simp only [hrun, Except.map] at h
        cases h
    | ok value =>
      refine ⟨fun _ h => ?_, fun _ _ => ?_⟩
      · simp only [hrun, Except.map] at h
        cases h
      · exact sparesLivePairs_iff (cleanupExpired_removed (atomically_ok hrun))

/-- A device and its alias, both offline for long, and a device that is online. -/
def expiredPair : DeviceDbManager where
  devices := (∅ : OrdMap String DeviceRow).insert "123456789" { password := ⟨"", ""⟩ }
  devicePresence :=
    ((∅ : OrdMap String PresenceRow).insert "123456789" { online := false, updatedAt := 1000 }
      |>.insert "C-123456789" { online := false, updatedAt := 2000 })
      |>.insert "987654321" { online := true, updatedAt := 1000 }

theorem retention_spares_live_pairs_expired :
    SparesLivePairs (retentionCutoff 10000000 30) expiredPair
      (cleanupExpiredDevices {} 10000000 30 200 expiredPair).2 := by
  obtain ⟨s', hrun⟩ := cleanupExpired_commits {} (fun _ => rfl)
    (retentionCutoff 10000000 30) 200 { db := expiredPair }
  have hok : (cleanupExpiredDevices {} 10000000 30 200 expiredPair).1 =
      .ok s'.result := by
    simp [cleanupExpiredDevices, atomically, hrun, Except.map]
  refine ((retention_spares_live_pairs _ 10000000 30 200 expiredPair).2 _ hok).mpr ?_
  intro e hdue halias
  have hbase : e = "123456789" := by
    have hall : expiredPair.unprotected (retentionCutoff 10000000 30) = ["123456789"] := by decide
    have hmem := hdue.1
    rw [hall] at hmem
    exact List.mem_singleton.mp hmem
  rw [hbase] at halias
  exact absurd halias (by decide)

/-- An online device, and two offline aliases: one of the device, one of that alias. -/
def onlineWithAliases : DeviceDbManager where
  devicePresence :=
    ((∅ : OrdMap String PresenceRow).insert "123456789" { online := true, updatedAt := 9000000 }
      |>.insert "C-123456789" { online := false, updatedAt := 1000 })
      |>.insert "C-C-123456789" { online := false, updatedAt := 1000 }

/-- The alias of an online device goes: its own alias is due, and takes it along. -/
theorem retention_deletes_a_live_pair :
    ¬ SparesLivePairs (retentionCutoff 10000000 30) onlineWithAliases
      (cleanupExpiredDevices {} 10000000 30 200 onlineWithAliases).2 := by
  obtain ⟨s', hrun⟩ := cleanupExpired_commits {} (fun _ => rfl)
    (retentionCutoff 10000000 30) 200 { db := onlineWithAliases }
  have hremoved := cleanupExpired_removed hrun
  have hstate : (cleanupExpiredDevices {} 10000000 30 200 onlineWithAliases).2 =
      s'.db := by
    simp [cleanupExpiredDevices, atomically, hrun]
  have hdue : Due (retentionCutoff 10000000 30) 200 "C-123456789" onlineWithAliases :=
    ⟨by decide, by decide⟩
  rw [hstate, sparesLivePairs_iff hremoved]
  intro hharmless
  have hidle := (hharmless "C-123456789" hdue (by decide)).1 (by decide)
  have honline := (hidle.not_live "123456789" (by decide) _ rfl).1
  cases honline

end CrossDesk.DeviceDbManager
