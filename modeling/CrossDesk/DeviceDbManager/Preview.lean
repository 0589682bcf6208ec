import CrossDesk.DeviceDbManager.AdminDataSafety

/-!
# What a confirmed preview binds

A cleanup names the revision that a report returned. Its digest covers the password records, the
presence, the associations, the sessions and the daily activity of the device, and not the login key
and the retention time of its credentials, nor the daily activity under the alias.

* `digested_of_digestInput_eq`: equal digests mean equal rows, as far as the digest goes.
* `preview_binds`: between a report and a cleanup that was accepted, the rows are the same exactly if
  what the digest leaves out is the same.
* `preview_misses_key_binding`: a login key that is bound in between goes unnoticed.
-/

namespace CrossDesk.DeviceDbManager

open Transaction RelatedRows

/-! ## Agreeing on a device -/

/-- The rows that belong to a device are the same in both databases. -/
structure SameRelated (id : String) (db db' : DeviceDbManager) : Prop where
  devices : ∀ k ∈ pair id, db.devices[k]? = db'.devices[k]?
  presence : ∀ k ∈ pair id, db.devicePresence[k]? = db'.devicePresence[k]?
  associations : ∀ key : String ×ₗ String, (ofLex key).1 ∈ pair id ∨ (ofLex key).2 ∈ pair id →
    db.userDevices[key]? = db'.userDevices[key]?
  sessions : ∀ (key : SessionKey) (row : SessionRow),
    row.hostId ∈ pair id ∨ (ofLex key).2 ∈ pair id →
      (db.remoteControlSessions[key]? = some row ↔ db'.remoteControlSessions[key]? = some row)
  activity : ∀ key : Int ×ₗ String, (ofLex key).2 ∈ pair id →
    db.dailyControllerActivity[key]? = db'.dailyControllerActivity[key]?

/-- The part of these rows that the digest covers is the same, and no session is related. -/
structure SameDigested (id : String) (db db' : DeviceDbManager) : Prop where
  passwords : ∀ k ∈ pair id,
    (db.devices[k]?).map DeviceRow.password = (db'.devices[k]?).map DeviceRow.password
  presence : ∀ k ∈ pair id, db.devicePresence[k]? = db'.devicePresence[k]?
  associations : ∀ key : String ×ₗ String, (ofLex key).1 ∈ pair id ∨ (ofLex key).2 ∈ pair id →
    db.userDevices[key]? = db'.userDevices[key]?
  sessions : ∀ (key : SessionKey) (row : SessionRow),
    row.hostId ∈ pair id ∨ (ofLex key).2 ∈ pair id →
      db.remoteControlSessions[key]? ≠ some row ∧ db'.remoteControlSessions[key]? ≠ some row
  activity : ∀ key : Int ×ₗ String, (ofLex key).2 = id →
    db.dailyControllerActivity[key]? = db'.dailyControllerActivity[key]?

/-- The part that the digest leaves out is the same. -/
structure SameUndigested (id : String) (db db' : DeviceDbManager) : Prop where
  loginPublicKey : ∀ k ∈ pair id,
    (db.devices[k]?).map DeviceRow.loginPublicKey = (db'.devices[k]?).map DeviceRow.loginPublicKey
  retentionStartedAt : ∀ k ∈ pair id, (db.devices[k]?).map DeviceRow.retentionStartedAt =
    (db'.devices[k]?).map DeviceRow.retentionStartedAt
  aliasActivity : ∀ day : Int, db.dailyControllerActivity[toLex (day, "C-" ++ id)]? =
    db'.dailyControllerActivity[toLex (day, "C-" ++ id)]?

/-- The two parts make up the rows. -/
theorem sameRelated_iff {id : String} {db db' : DeviceDbManager} (h : SameDigested id db db') :
    SameRelated id db db' ↔ SameUndigested id db db' := by
  constructor
  · intro hsame
    refine ⟨fun k hk => ?_, fun k hk => ?_, fun day => ?_⟩
    · rw [hsame.devices k hk]
    · rw [hsame.devices k hk]
    · exact hsame.activity _ (by simp [pair])
  · intro hrest
    refine ⟨fun k hk => ?_, h.presence, h.associations, fun key row hrow => ?_, fun key hkey => ?_⟩
    · have hpassword := h.passwords k hk
      have hkey := hrest.loginPublicKey k hk
      have hretention := hrest.retentionStartedAt k hk
      cases hrow : db.devices[k]? with
      | none =>
        rw [hrow] at hpassword
        exact (Option.map_eq_none_iff.mp hpassword.symm).symm
      | some row =>
        cases hrow' : db'.devices[k]? with
        | none => simp [hrow, hrow'] at hpassword
        | some row' =>
          simp only [hrow, hrow', Option.map_some, Option.some.injEq] at hpassword hkey hretention
          cases row
          cases row'
          simp_all
    · obtain ⟨hnot, hnot'⟩ := h.sessions key row hrow
      exact ⟨fun hsome => absurd hsome hnot, fun hsome => absurd hsome hnot'⟩
    · simp only [pair, List.mem_cons, List.not_mem_nil, or_false] at hkey
      rcases hkey with hkey | hkey
      · exact h.activity key hkey
      · have hday := hrest.aliasActivity (ofLex key).1
        rw [← hkey] at hday
        exact hday

/-! ## What the digest covers -/

/-- Tables whose rows are written alike agree on what is written of them. -/
theorem map_eq_of_written {K V W : Type} [Ord K] [Std.TransOrd K] [Std.LawfulEqOrd K]
    {write : K × V → Json} {part : V → W} {p : K → Bool}
    (hwrite : ∀ e e', p e.1 = true → p e'.1 = true → write e = write e' →
      e.1 = e'.1 ∧ part e.2 = part e'.2) {rows rows' : OrdMap K V}
    (h : (rows.toList.filter (fun e => p e.1)).map write =
      (rows'.toList.filter (fun e => p e.1)).map write) (k : K) (hk : p k = true) :
    (rows[k]?).map part = (rows'[k]?).map part := by
  have hfound : ∀ {m m' : OrdMap K V},
      (m.toList.filter (fun e => p e.1)).map write = (m'.toList.filter (fun e => p e.1)).map write →
      ∀ v, m[k]? = some v → ∃ v', m'[k]? = some v' ∧ part v = part v' := by
    intro m m' hsame v hv
    have hmem : write (k, v) ∈ (m'.toList.filter (fun e => p e.1)).map write := by
      rw [← hsame]
      exact List.mem_map_of_mem (List.mem_filter.mpr ⟨OrdMap.mem_toList.mpr hv, hk⟩)
    obtain ⟨⟨k', v'⟩, hin, heq⟩ := List.mem_map.mp hmem
    obtain ⟨hkey, hpart⟩ := hwrite _ _ (List.mem_filter.mp hin).2 hk heq
    obtain rfl : k' = k := hkey
    exact ⟨v', OrdMap.mem_toList.mp (List.mem_filter.mp hin).1, hpart.symm⟩
  cases hrow : rows[k]? with
  | none =>
    cases hrow' : rows'[k]? with
    | none => rfl
    | some v' =>
      obtain ⟨v, hv, -⟩ := hfound h.symm v' hrow'
      rw [hrow] at hv
      cases hv
  | some v =>
    obtain ⟨v', hv', hpart⟩ := hfound h v hrow
    rw [hv', Option.map_some, Option.map_some, hpart]

theorem credentialJson_inj {e e' : String × DeviceRow} (h : credentialJson e = credentialJson e') :
    e.1 = e'.1 ∧ e.2.password = e'.2.password := by
  simp only [credentialJson, Json.arr.injEq, List.cons.injEq, Json.str.injEq] at h
  obtain ⟨hid, hsalt, hhash, -⟩ := h
  refine ⟨hid, ?_⟩
  cases hpassword : e.2.password
  cases hpassword' : e'.2.password
  rw [hpassword, hpassword'] at hsalt hhash
  cases hsalt
  cases hhash
  rfl

theorem presenceJson_inj {e e' : String × PresenceRow} (h : presenceJson e = presenceJson e') :
    e.1 = e'.1 ∧ id e.2 = id e'.2 := by
  obtain ⟨k, row⟩ := e
  obtain ⟨k', row'⟩ := e'
  cases row
  cases row'
  simp_all [presenceJson]

theorem associationJson_inj {e e' : (String ×ₗ String) × Int}
    (h : associationJson e = associationJson e') : e.1 = e'.1 ∧ id e.2 = id e'.2 := by
  simp only [associationJson, Json.arr.injEq, List.cons.injEq, Json.str.injEq, Json.int.injEq] at h
  exact ⟨ofLex_inj.mp (Prod.ext h.1 h.2.1), h.2.2.1⟩

theorem activityJson_inj {e e' : (Int ×ₗ String) × ControllerKind}
    (hid : (ofLex e.1).2 = (ofLex e'.1).2) (h : activityJson e = activityJson e') :
    e.1 = e'.1 ∧ id e.2 = id e'.2 := by
  simp only [activityJson, Json.obj.injEq, List.cons.injEq, Prod.mk.injEq, Json.int.injEq,
    Json.str.injEq, true_and] at h
  refine ⟨ofLex_inj.mp (Prod.ext h.1 hid), ?_⟩
  have hkind := h.2.1
  cases hfirst : e.2 <;> cases hsecond : e'.2 <;> simp_all [ControllerKind.text]

/-- The sessions that are related are those with an end in the pair. -/
theorem sessions_eq_nil_iff {id : String} {db : DeviceDbManager} (hid : isAlias id = false) :
    (db.related id).sessions = [] ↔ ∀ (key : SessionKey) (row : SessionRow),
      row.hostId ∈ pair id ∨ (ofLex key).2 ∈ pair id → db.remoteControlSessions[key]? ≠ some row := by
  constructor
  · rintro hnil key row hend hrow
    obtain ⟨hhost, hguest⟩ := not_in_session_of_related hid hnil key row hrow
    rcases hend with hend | hend
    · exact hhost hend
    · exact hguest hend
  · intro hnone
    refine List.take_eq_nil_iff.mpr (.inr (List.filter_eq_nil_iff.mpr ?_))
    rintro ⟨key, row⟩ hmem hrelated
    simp only [Bool.or_eq_true, beq_iff_eq] at hrelated
    refine hnone key row ?_ (OrdMap.mem_toList.mp hmem)
    rcases hrelated with hguest | hhost
    · exact .inr ((normalizeRemoteDeviceId_eq_iff hid).mp hguest)
    · exact .inl ((normalizeRemoteDeviceId_eq_iff hid).mp hhost)

/-- **What equal digest inputs say**, when the lists were not cut off and no session is related. -/
theorem digested_of_digestInput_eq {id : String} {db db' : DeviceDbManager}
    (hid : isAlias id = false)
    (hsmall : (db.related id).associations.length ≤ maxRelatedRows)
    (hsmall' : (db'.related id).associations.length ≤ maxRelatedRows)
    (hsessions : (db'.related id).sessions = [])
    (h : (db.related id).digestInput id = (db'.related id).digestInput id) :
    SameDigested id db db' := by
  simp only [digestInput, Json.arr.injEq, List.cons.injEq, true_and, and_true] at h
  obtain ⟨hcredentials, hpresence, hassociations, hrelated, hactivity⟩ := h
  have hnone : (db.related id).sessions = [] := by
    rw [hsessions, List.map_nil] at hrelated
    exact List.map_eq_nil_iff.mp hrelated
  -- a list that stayed within the limit is the whole list
  have hwhole : ∀ db : DeviceDbManager, (db.related id).associations.length ≤ maxRelatedRows →
      (db.related id).associations = db.userDevices.toList.filter (fun row =>
        decide ((ofLex row.1).1 ∈ pair id ∨ (ofLex row.1).2 ∈ pair id)) := by
    intro db hle
    refine List.take_of_length_le ?_
    simp only [related, List.length_take] at hle
    omega
  rw [hwhole db hsmall, hwhole db' hsmall'] at hassociations
  refine ⟨fun k hk => ?_, fun k hk => ?_, fun key hkey => ?_, fun key row hend => ?_,
    fun key hkey => ?_⟩
  · exact map_eq_of_written (p := fun k => decide (k ∈ pair id))
      (fun _ _ _ _ => credentialJson_inj) hcredentials k (decide_eq_true hk)
  · have hsame := map_eq_of_written (p := fun k => decide (k ∈ pair id))
      (fun _ _ _ _ => presenceJson_inj) hpresence k (decide_eq_true hk)
    simpa using hsame
  · have hsame := map_eq_of_written
      (p := fun key => decide ((ofLex key).1 ∈ pair id ∨ (ofLex key).2 ∈ pair id))
      (fun _ _ _ _ => associationJson_inj) hassociations key (decide_eq_true hkey)
    simpa using hsame
  · exact ⟨(sessions_eq_nil_iff hid).mp hnone key row hend,
      (sessions_eq_nil_iff hid).mp hsessions key row hend⟩
  · have hsame := map_eq_of_written (p := fun key : Int ×ₗ String => (ofLex key).2 == id)
      (fun e e' he he' => activityJson_inj ((beq_iff_eq.mp he).trans (beq_iff_eq.mp he').symm))
      hactivity key (beq_iff_eq.mpr hkey)
    simpa using hsame

/-! ## The digest -/

theorem areWhole_map {α : Type} {f : α → Json} (hf : ∀ a, Json.isWhole (f a) = true) (l : List α) :
    Json.areWhole (l.map f) = true := by
  induction l with
  | nil => rfl
  | cons a l ih => simp [Json.areWhole, hf a, ih]

/-- The digest is one of whole numbers and texts. -/
theorem isWhole_digestInput (id : String) (rows : RelatedRows) :
    Json.isWhole (rows.digestInput id) = true := by
  have hcredentials := areWhole_map (f := credentialJson) (fun _ => rfl) rows.credentials
  have hpresence := areWhole_map (f := presenceJson) (fun _ => rfl) rows.presence
  have hassociations := areWhole_map (f := associationJson) (fun _ => rfl) rows.associations
  have hsessions := areWhole_map (f := sessionJson) (fun _ => rfl) rows.sessions
  have hactivity := areWhole_map (f := activityJson) (fun _ => rfl) rows.activity
  simp [digestInput, Json.isWhole, Json.areWhole, hcredentials, hpresence, hassociations, hsessions,
    hactivity]

/-- Equal revisions were made from equal rows. -/
theorem digestInput_eq_of_digest_eq {env env' : AdminEnv} (hsha : Function.Injective env.sha256)
    (hsame : env'.sha256 = env.sha256) (hfloat : env'.floatText = env.floatText) {id : String}
    {rows rows' : RelatedRows}
    (h : env.digest (rows.digestInput id) = env'.digest (rows'.digestInput id)) :
    rows.digestInput id = rows'.digestInput id := by
  unfold AdminEnv.digest at h
  rw [hsame, hfloat] at h
  exact Json.dump_inj env.floatText (isWhole_digestInput id rows) (isWhole_digestInput id rows')
    (hsha h)

/-! ## The answer when no statement fails -/

/-- The tests of a call, in their order, with the answer to the first that fails. -/
def refusalOf (env : AdminEnv) (request : AdminRequest) (rows : RelatedRows) : Option String :=
  if maxRelatedRows < rows.associations.length ∨ maxRelatedRows < rows.sessions.length then
    some "device_data_too_large"
  else if rows.isEmpty = true then some "device_not_found"
  else if request.action ≠ "cleanup" then none
  else if rows.online = true ∨ rows.sessions ≠ [] then some "device_busy"
  else if request.expectedRevision = "" ∨
      request.expectedRevision ≠ env.digest (rows.digestInput request.id) then some "stale_preview"
  else none

section NoFailure
variable {env : AdminEnv} (hfails : ∀ statement : AdminStatement, env.fails statement = false)
include hfails

theorem adminStatement_ok {α : Type} (statement : AdminStatement)
    (f : DeviceDbManager → α × DeviceDbManager) (db : DeviceDbManager) :
    adminStatement env statement f db = .ok (f db) :=
  run_adminStatement.mpr ⟨hfails statement, rfl⟩

theorem readRelated_ok (id : String) (db : DeviceDbManager) :
    readRelated env id db = .ok (db.related id, db) :=
  run_bind.mpr ⟨_, db, adminStatement_ok hfails _ _ db,
    run_bind.mpr ⟨_, db, adminStatement_ok hfails _ _ db,
    run_bind.mpr ⟨_, db, adminStatement_ok hfails _ _ db,
    run_bind.mpr ⟨_, db, adminStatement_ok hfails _ _ db,
    run_bind.mpr ⟨_, db, adminStatement_ok hfails _ _ db, rfl⟩⟩⟩⟩⟩

theorem removeRelated_ok (request : AdminRequest) : Succeeds (removeRelated env request) := by
  have hstatement : ∀ {α : Type} (statement : AdminStatement)
      (f : DeviceDbManager → α × DeviceDbManager), Succeeds (adminStatement env statement f) :=
    fun statement f => execute_succeeds (hfails statement) _ _
  refine (hstatement _ _).bind (fun _ => (hstatement _ _).bind (fun _ =>
    (hstatement _ _).bind (fun _ => ?_)))
  split
  · exact (hstatement _ _).bind (fun _ => pure_succeeds _)
  · exact (hstatement _ _).bind (fun _ => pure_succeeds _)

/-- The two tests that every call begins with, and what comes after them. -/
theorem adminWork_tested {request : AdminRequest} {db : DeviceDbManager}
    (hsmall : (db.related request.id).associations.length ≤ maxRelatedRows ∧
      (db.related request.id).sessions.length ≤ maxRelatedRows)
    (hfound : (db.related request.id).isEmpty = false) :
    adminWork env request db = (cleanupStep env request (db.related request.id) >>= fun removed =>
      adminStatement env .insertAudit (insertAudit (auditRow env request removed.json)) >>=
        fun auditId => adminStatement env .commit (fun db => ((), db)) >>= fun _ =>
          pure (adminReply env request (db.related request.id) removed auditId)) db := by
  have htest : (decide ((db.related request.id).associations.length ≤ maxRelatedRows) &&
      decide ((db.related request.id).sessions.length ≤ maxRelatedRows)) = true := by
    simpa using hsmall
  unfold adminWork
  rw [bind_ok (adminStatement_ok hfails _ _ db), bind_ok (readRelated_ok hfails request.id db),
    bind_ok (run_require.mpr ⟨htest, rfl⟩), bind_ok (run_require.mpr ⟨by rw [hfound]; rfl, rfl⟩)]

/-- A test that fails is the answer. -/
theorem adminWork_refused {request : AdminRequest} {db : DeviceDbManager} {error : String}
    (h : refusalOf env request (db.related request.id) = some error) :
    adminWork env request db = .error (.refused error) := by
  unfold refusalOf at h
  split_ifs at h with hlarge hempty haction hbusy hstale <;> cases h
  · unfold adminWork
    rw [bind_ok (adminStatement_ok hfails _ _ db), bind_ok (readRelated_ok hfails request.id db)]
    refine bind_error (require_error ?_ _ db)
    simp only [Bool.and_eq_false_iff, decide_eq_false_iff_not]
    omega
  · unfold adminWork
    have hsmall : (decide ((db.related request.id).associations.length ≤ maxRelatedRows) &&
        decide ((db.related request.id).sessions.length ≤ maxRelatedRows)) = true := by
      simp only [Bool.and_eq_true, decide_eq_true_eq]
      omega
    rw [bind_ok (adminStatement_ok hfails _ _ db), bind_ok (readRelated_ok hfails request.id db),
      bind_ok (run_require.mpr ⟨hsmall, rfl⟩)]
    exact bind_error (require_error (by simp [hempty]) _ db)
  · rw [adminWork_tested hfails (by omega) (by simpa using hempty)]
    refine bind_error ?_
    rw [cleanupStep, if_pos (by simpa using haction), cleanupRelated]
    refine bind_error (require_error ?_ _ db)
    rcases hbusy with honline | hsessions
    · simp [honline]
    · simp [hsessions]
  · rw [adminWork_tested hfails (by omega) (by simpa using hempty)]
    simp only [not_or, Bool.not_eq_true, ne_eq, not_not] at hbusy
    refine bind_error ?_
    rw [cleanupStep, if_pos (by simpa using haction), cleanupRelated,
      bind_ok (run_require.mpr ⟨by simp [hbusy.1, hbusy.2], rfl⟩)]
    refine bind_error (require_error ?_ _ db)
    rcases hstale with hempty | hother
    · simp [hempty]
    · simp [hother]

/-- A call that passes its tests is committed. -/
theorem adminWork_accepted {request : AdminRequest} {db : DeviceDbManager}
    (h : refusalOf env request (db.related request.id) = none) :
    ∃ r, adminWork env request db = .ok r := by
  have hstep : ∃ r, cleanupStep env request (db.related request.id) db = .ok r := by
    unfold refusalOf at h
    split_ifs at h with hlarge hempty haction hbusy hstale
    · exact ⟨({}, db), by rw [cleanupStep, if_neg haction]; rfl⟩
    · simp only [not_or, Bool.not_eq_true, ne_eq, not_not] at hbusy hstale
      obtain ⟨removed, mid, hremove⟩ := removeRelated_ok hfails request db
      refine ⟨(removed, mid), ?_⟩
      rw [cleanupStep, if_pos (by simpa using haction), cleanupRelated,
        bind_ok (run_require.mpr ⟨by simp [hbusy.1, hbusy.2], rfl⟩),
        bind_ok (run_require.mpr ⟨by simpa using hstale, rfl⟩)]
      exact hremove
  obtain ⟨⟨removed, mid⟩, hstep⟩ := hstep
  have hpassed : (db.related request.id).associations.length ≤ maxRelatedRows ∧
      (db.related request.id).sessions.length ≤ maxRelatedRows ∧
      (db.related request.id).isEmpty = false := by
    unfold refusalOf at h
    split_ifs at h with hlarge hempty <;> simp_all
  rw [adminWork_tested hfails ⟨hpassed.1, hpassed.2.1⟩ hpassed.2.2, bind_ok hstep]
  exact ⟨_, run_bind.mpr ⟨_, _, adminStatement_ok hfails _ _ mid,
    run_bind.mpr ⟨_, _, adminStatement_ok hfails _ _ _, rfl⟩⟩⟩

/-- **The answer of a valid request when no statement fails.** -/
theorem adminDeviceData_answer {request : AdminRequest} (hvalid : request.isValid = true)
    (db : DeviceDbManager) :
    (∀ error : String, refusalOf env request (db.related request.id) = some error →
      (adminDeviceData env request db).1 = .ok (adminRefusal error)) ∧
    (refusalOf env request (db.related request.id) = none →
      Accepted (adminDeviceData env request db).1) := by
  refine ⟨fun error herror => ?_, fun hnone => ?_⟩
  · simp [adminDeviceData, hvalid, atomically, adminWork_refused hfails herror]
  · obtain ⟨⟨reply, db'⟩, hwork⟩ := adminWork_accepted hfails hnone
    obtain ⟨removed, mid, -, -, rfl⟩ := run_adminWork hwork
    refine ⟨adminReply env request (db.related request.id) removed mid.nextAuditId, ?_, ?_⟩
    · simp [adminDeviceData, hvalid, atomically, hwork]
    · unfold adminReply
      split <;> simp [Json.find]

end NoFailure

/-! ## A report and a cleanup -/

/-- The revision that a reply carries. -/
def revisionOf (reply : Json) : Option String :=
  ((reply.find "data").bind (Json.find "revision")).bind Json.text

/-- A reply with a revision came from the related rows. -/
theorem revision_of_reply {env : AdminEnv} {request : AdminRequest} {db : DeviceDbManager}
    {reply : Json} {revision : String} (haction : request.action = "query")
    (hreply : (adminDeviceData env request db).1 = .ok reply)
    (hrevision : revisionOf reply = some revision) :
    (db.related request.id).associations.length ≤ maxRelatedRows ∧
      revision = env.digest ((db.related request.id).digestInput request.id) := by
  rcases adminDeviceData_cases env request db with ⟨error, hcall⟩ | ⟨statement, hcall⟩ |
    ⟨_, reply', db', hwork, hcall⟩
  · rw [hcall] at hreply
    cases hreply
    simp [revisionOf, adminRefusal, Json.find] at hrevision
  · rw [hcall] at hreply
    cases hreply
  · rw [hcall] at hreply
    cases hreply
    obtain ⟨removed, mid, hworked, -, rfl⟩ := run_adminWork hwork
    refine ⟨hworked.small.1, ?_⟩
    have haction' : request.action ≠ "cleanup" := by
      rw [haction]
      decide
    simpa [revisionOf, adminReply, haction', report, Json.find, Json.text] using hrevision.symm

/-- **What a confirmed preview binds.** The cleanup carries the revision that the report returned. If
it is accepted, the rows of the device are the same as they were for the report, exactly if the parts
that the digest leaves out are. If a part that the digest covers has changed, a cleanup that nothing
else stands in the way of is answered with `stale_preview`. -/
theorem preview_binds {env env' : AdminEnv} (hsha : Function.Injective env.sha256)
    (hsame : env'.sha256 = env.sha256) (hfloat : env'.floatText = env.floatText)
    {query cleanup : AdminRequest} (hquery : query.action = "query")
    (hcleanup : cleanup.action = "cleanup") (hid : cleanup.id = query.id)
    {db db' : DeviceDbManager} {reply : Json}
    (hreply : (adminDeviceData env query db).1 = .ok reply)
    (hrevision : revisionOf reply = some cleanup.expectedRevision) :
    (Accepted (adminDeviceData env' cleanup db').1 →
      (SameRelated query.id db db' ↔ SameUndigested query.id db db')) ∧
    (¬ SameDigested query.id db db' → cleanup.isValid = true →
      (∀ statement : AdminStatement, env'.fails statement = false) →
      (db'.related query.id).associations.length ≤ maxRelatedRows →
      (db'.related query.id).isEmpty = false → (db'.related query.id).online = false →
      (db'.related query.id).sessions = [] →
      (adminDeviceData env' cleanup db').1 = .ok (adminRefusal "stale_preview")) := by
  obtain ⟨hsmall, hdigest⟩ := revision_of_reply hquery hreply hrevision
  -- Equal digests are equal inputs, and these name all the parts but the undigested ones.
  have hdigested : isAlias query.id = false →
      (db'.related query.id).associations.length ≤ maxRelatedRows →
      (db'.related query.id).sessions = [] →
      cleanup.expectedRevision = env'.digest ((db'.related query.id).digestInput query.id) →
      SameDigested query.id db db' := by
    intro halias hsmall' hsessions hconfirmed
    refine digested_of_digestInput_eq halias hsmall hsmall' hsessions
      (digestInput_eq_of_digest_eq hsha hsame hfloat ?_)
    rw [← hdigest, hconfirmed]
  have hnotAlias : cleanup.isValid = true → isAlias query.id = false := by
    intro hvalid
    simp only [AdminRequest.isValid, Bool.and_eq_true, Bool.not_eq_true', hid] at hvalid
    tauto
  refine ⟨fun haccepted => ?_, fun hchanged hvalid hfails hsmall' hfound honline hsessions => ?_⟩
  · obtain ⟨hvalid, removed, mid, hworked, -⟩ := committed_of_accepted haccepted
    have hwork := hworked.work
    rw [cleanupStep, if_pos hcleanup] at hwork
    obtain ⟨-, hsessions, hconfirmed, -⟩ := run_cleanupRelated hwork
    have hsmall' := hworked.small.1
    rw [hid] at hsessions hconfirmed hsmall'
    exact sameRelated_iff (hdigested (hnotAlias hvalid) hsmall' hsessions hconfirmed)
  · refine (adminDeviceData_answer hfails hvalid db').1 "stale_preview" ?_
    have hstale : cleanup.expectedRevision = "" ∨
        cleanup.expectedRevision ≠ env'.digest ((db'.related query.id).digestInput query.id) := by
      right
      intro hconfirmed
      exact hchanged (hdigested (hnotAlias hvalid) hsmall' hsessions hconfirmed)
    have hlarge : ¬ (maxRelatedRows < (db'.related query.id).associations.length ∨
        maxRelatedRows < (db'.related query.id).sessions.length) := by
      rw [hsessions]
      simp only [List.length_nil, Nat.not_lt_zero, or_false]
      omega
    -- None of the earlier refusals applies, so the first that does is the stale preview.
    unfold refusalOf
    rw [hid, if_neg hlarge, if_neg (by simp [hfound]), if_neg (by simp [hcleanup]),
      if_neg (by simp [honline, hsessions]), if_pos hstale]

/-! ## A device whose key is bound in between -/

/-- A digest that tells all texts apart. -/
def plainEnv : AdminEnv where
  sha256 := fun text => text

/-- A registered device that was never seen. -/
def registered : DeviceDbManager where
  devices := (∅ : OrdMap String DeviceRow).insert "123456789" { password := ⟨"00", "11"⟩ }

/-- The same after its login key was bound. -/
def keyBound : DeviceDbManager :=
  (bindLoginPublicKey false "123456789" ⟨"00", "11"⟩
    "0123456789abcdef0123456789abcdef0123456789abcdef0123456789abcdef" registered).2

def summaryQuery : AdminRequest where
  id := "123456789"
  action := "query"
  actor := "support"
  requestRef := "case-1"

def identityCleanup : AdminRequest where
  id := "123456789"
  action := "cleanup"
  scope := "identity"
  expectedRevision := plainEnv.digest ((registered.related "123456789").digestInput "123456789")
  actor := "support"
  requestRef := "case-1"

theorem identityCleanup_expectedRevision_ne : identityCleanup.expectedRevision ≠ "" := by
  simp [identityCleanup, AdminEnv.digest, plainEnv, Json.dump, digestInput, Json.dumpChars]

/-- The report of the registered device, with its revision. -/
theorem registered_reported : ∃ reply : Json,
    (adminDeviceData plainEnv summaryQuery registered).1 = .ok reply ∧
      revisionOf reply = some identityCleanup.expectedRevision := by
  have hvalid : summaryQuery.isValid = true := by decide
  have hnone : refusalOf plainEnv summaryQuery (registered.related summaryQuery.id) = none := by
    unfold refusalOf
    rw [if_neg (by decide), if_neg (by decide), if_pos (by decide)]
  have haccepted := (adminDeviceData_answer (fun _ => rfl) hvalid registered).2 hnone
  obtain ⟨-, removed, mid, -, hcall⟩ := committed_of_accepted haccepted
  refine ⟨_, congrArg Prod.fst hcall, ?_⟩
  simp [revisionOf, adminReply, summaryQuery, identityCleanup, report, Json.find, Json.text]

/-- The cleanup is accepted wherever the digest is that of the report. -/
theorem identityCleanup_accepted {db : DeviceDbManager}
    (hsmall : ¬ (maxRelatedRows < (db.related "123456789").associations.length ∨
      maxRelatedRows < (db.related "123456789").sessions.length))
    (hfound : (db.related "123456789").isEmpty = false)
    (hidle : (db.related "123456789").online = false ∧ (db.related "123456789").sessions = [])
    (hsame : (db.related "123456789").digestInput "123456789" =
      (registered.related "123456789").digestInput "123456789") :
    Accepted (adminDeviceData plainEnv identityCleanup db).1 := by
  refine (adminDeviceData_answer (fun _ => rfl) (by decide) db).2 ?_
  have hconfirmed : ¬ (identityCleanup.expectedRevision = "" ∨ identityCleanup.expectedRevision ≠
      plainEnv.digest ((db.related "123456789").digestInput "123456789")) := by
    rw [hsame]
    simpa [identityCleanup] using identityCleanup_expectedRevision_ne
  show refusalOf plainEnv identityCleanup (db.related "123456789") = none
  unfold refusalOf
  rw [if_neg hsmall, if_neg (by simp [hfound]), if_neg (by decide), if_neg (by simp [hidle])]
  exact if_neg hconfirmed

/-- A report and a cleanup of the same rows. -/
theorem preview_binds_registered :
    (Accepted (adminDeviceData plainEnv identityCleanup registered).1 ∧
      (SameRelated "123456789" registered registered ↔
        SameUndigested "123456789" registered registered)) ∧ Function.Injective plainEnv.sha256 := by
  obtain ⟨reply, hreply, hrevision⟩ := registered_reported
  have hinjective : Function.Injective plainEnv.sha256 := fun _ _ h => h
  have haccepted : Accepted (adminDeviceData plainEnv identityCleanup registered).1 :=
    identityCleanup_accepted (by decide) (by decide) (by decide) rfl
  have hid : identityCleanup.id = summaryQuery.id := rfl
  exact ⟨⟨haccepted, (preview_binds hinjective rfl rfl rfl rfl hid hreply hrevision).1 haccepted⟩,
    hinjective⟩

/-- A login key that is bound after the report goes unnoticed: the cleanup is accepted, and deletes
credentials that are not the ones that were confirmed. -/
theorem preview_misses_key_binding :
    Function.Injective plainEnv.sha256 ∧
    (∃ reply : Json, (adminDeviceData plainEnv summaryQuery registered).1 = .ok reply ∧
      revisionOf reply = some identityCleanup.expectedRevision) ∧
    Accepted (adminDeviceData plainEnv identityCleanup keyBound).1 ∧
    ¬ SameRelated "123456789" registered keyBound := by
  refine ⟨fun _ _ h => h, registered_reported,
    identityCleanup_accepted (by decide) (by decide) (by decide) rfl, fun hsame => ?_⟩
  have hrow := hsame.devices "123456789" (by decide)
  have hkey : (registered.devices["123456789"]?).map DeviceRow.loginPublicKey ≠
      (keyBound.devices["123456789"]?).map DeviceRow.loginPublicKey := by
    decide
  exact hkey (congrArg (Option.map DeviceRow.loginPublicKey) hrow)

end CrossDesk.DeviceDbManager
