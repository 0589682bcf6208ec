import CrossDesk.Application.StaleWork

/-!
# A correct password that comes too late

A password computation is given a snapshot of the record of a device, and its result is only accepted
while that record is still stored. A record in the current format is kept by every verification. A legacy
record is replaced by the first one, and the computations that hold it as their snapshot are then rejected
like a wrong password, though the password is the one of the device (`correct_password_accepted_iff`).

A login that is to bind a key is rejected in the same way when another one has bound a key meanwhile.
-/

namespace CrossDesk

open Logged DeviceDbManager

namespace DeviceDbManager

variable {db : DeviceDbManager} {d : String}

/-- When a commit succeeds. -/
theorem commitPassword_ok_iff {fails : Bool} {expected replacement : DevicePasswordRecord} :
    (db.commitPassword fails d expected replacement).1 = true ↔
      fails = false ∧ DevicePassword.isCurrent replacement = true ∧
        db.readPassword false d = some expected := by
  unfold commitPassword
  by_cases hrefused : (fails || !DevicePassword.isCurrent replacement) = true
  · rw [if_pos hrefused]
    simp only [Bool.or_eq_true, Bool.not_eq_true'] at hrefused
    refine iff_of_false Bool.false_ne_true fun h => ?_
    rcases hrefused with hfails | hcurrent
    · rw [h.1] at hfails
      cases hfails
    · rw [h.2.1] at hcurrent
      cases hcurrent
  · rw [if_neg hrefused]
    simp only [Bool.or_eq_true, Bool.not_eq_true', not_or, Bool.not_eq_true, Bool.not_eq_false] at hrefused
    rw [eq_true hrefused.1, eq_true hrefused.2, true_and, true_and]
    by_cases hread : db.readPassword false d = some expected
    · have hrow : ∃ row : DeviceRow, db.devices[d]? = some row := by
        unfold readPassword at hread
        split at hread
        · cases hread
        · obtain ⟨row, hrow, -⟩ := Option.map_eq_some_iff.mp hread
          exact ⟨row, hrow⟩
      obtain ⟨row, hrow⟩ := hrow
      by_cases hsame : expected = replacement
      · simp [hread, hsame]
      · simp [hread, hsame, hrow]
    · simp [hread]

/-- When a key is bound. -/
theorem bindLoginPublicKey_ok_iff {verified : DevicePasswordRecord} {publicKey : String} :
    (db.bindLoginPublicKey false d verified publicKey).1 = true ↔
      isHex publicKey 32 = true ∧ credential d db = some (verified, "") := by
  unfold bindLoginPublicKey credential
  cases hhex : isHex publicKey 32 with
  | false => simp
  | true =>
    cases hrow : db.devices[d]? with
    | none => simp
    | some row =>
      by_cases hfree : row.loginPublicKey = "" ∧ row.password = verified
      · simp [hfree]
      · simp only [Bool.not_true, Bool.or_false, Bool.false_eq_true, ↓reduceIte, hfree, Option.map_some,
          Option.some.injEq, Prod.mk.injEq, true_and, false_iff]
        exact fun hsame => hfree ⟨hsame.2, hsame.1⟩

end DeviceDbManager

namespace Application

variable {cfg : Config} {env : Env} {s : Application} {hdl : ConnectionHdl}
  {d password identity key : String} {record : DevicePasswordRecord}

/-- Nothing but the password decides: the connection is there and is who it was, no rule and no cooldown
applies, hashing works, and the statements of the store succeed. -/
structure Unhindered (env : Env) (hdl : ConnectionHdl) (identity : String) (s : Application) : Prop where
  alive : env.expired 0 = false
  identity : s.manager.getUserId hdl = identity
  unruled : env.riskDelay 1 = some 0 ∧ env.riskDelay 2 = some 0
  uncooled : env.throttled = none
  hashes : ∃ fresh : DevicePasswordRecord, env.hashed = some fresh ∧
    DevicePassword.isCurrent fresh = true
  stores : env.fails .commitPassword = false ∧ env.fails .bindLoginPublicKey = false

/-- The key that a login is to bind is well formed, and none is bound yet. -/
def KeyFree (key d : String) (db : DeviceDbManager) : Prop :=
  key = "" ∨ isHex key 32 = true ∧ ∃ record : DevicePasswordRecord, credential d db = some (record, "")

/-- The check of a correct password. -/
theorem verdict_of_correct (h : Unhindered env hdl identity s)
    (hcorrect : DevicePassword.Accepts cfg.hashing record password) :
    ∃ replacement : DevicePasswordRecord, DevicePassword.isCurrent replacement = true ∧
      verdict cfg env (some record) password = { verified := some replacement } := by
  obtain ⟨fresh, hhashed, hfresh⟩ := h.hashes
  have hverify : ∃ replacement : DevicePasswordRecord, DevicePassword.isCurrent replacement = true ∧
      DevicePassword.verify cfg.hashing env.hashed (some record) password = some replacement := by
    by_cases hcurrent : DevicePassword.isCurrent record = true
    · exact ⟨record, hcurrent, DevicePassword.verify_eq_some_iff.mpr ⟨hcorrect, by rw [if_pos hcurrent]⟩⟩
    · exact ⟨fresh, hfresh, DevicePassword.verify_eq_some_iff.mpr
        ⟨hcorrect, by rw [if_neg hcurrent, hhashed]⟩⟩
  obtain ⟨replacement, hcurrent, hverified⟩ := hverify
  refine ⟨replacement, hcurrent, ?_⟩
  unfold verdict
  simp [h.unruled.1, h.unruled.2, h.uncooled, hverified]

/-- The continuation of a computation whose password is correct: the request goes on, or it is rejected
without anything else. -/
theorem authenticated_correct (failure : Json) (onVerified : OnVerified)
    (h : Unhindered env hdl identity s)
    (hcorrect : DevicePassword.Accepts cfg.hashing record password) :
    ((s.store.readPassword false d = some record ∧ KeyFree key d s.store) ∧ ∃ s' : Application,
      (authenticated cfg env hdl failure d password (some record) identity key onVerified s).events =
        .passwordVerified hdl d :: (verified cfg env hdl onVerified s').events) ∨
    (¬ (s.store.readPassword false d = some record ∧ KeyFree key d s.store) ∧
      (authenticated cfg env hdl failure d password (some record) identity key onVerified s).events =
        [.sent (some hdl) failure]) := by
  obtain ⟨replacement, hcurrent, hverdict⟩ := verdict_of_correct h hcorrect
  have hcommits := @commitPassword_ok_iff s.store d false record replacement
  unfold authenticated
  rw [look_bind, hverdict]
  dsimp only
  rw [if_neg (by simp [h.alive, h.identity]), h.stores.1, h.stores.2]
  rcases hcommit : s.store.commitPassword false d record replacement with ⟨ok, committed⟩
  rw [hcommit] at hcommits
  -- The commit compares with the record that was verified.
  cases ok with
  | false =>
    right
    refine ⟨fun hstored => ?_, by simp; rfl⟩
    exact Bool.false_ne_true (hcommits.mpr ⟨rfl, hcurrent, hstored.1⟩)
  | true =>
    have hread : s.store.readPassword false d = some record := (hcommits.mp rfl).2.2
    obtain ⟨bound, hbefore, hafter⟩ := commitPassword_true hcommit
    by_cases hkey : key = ""
    · left
      refine ⟨⟨hread, .inl hkey⟩, { s with store := committed }, ?_⟩
      simp [hkey]
      rfl
    -- The commit keeps the bound key, so the key check sees the one from before.
    · have hfree : KeyFree key d s.store ↔ (committed.bindLoginPublicKey false d replacement key).1 =
          true := by
        rw [bindLoginPublicKey_ok_iff, hafter, if_pos rfl]
        unfold KeyFree
        rw [hbefore]
        simp [hkey]
      rcases hbind : committed.bindLoginPublicKey false d replacement key with ⟨ok, db⟩
      rw [hbind] at hfree
      cases ok with
      | false =>
        right
        refine ⟨fun hboth => Bool.false_ne_true (hfree.mp hboth.2), ?_⟩
        simp [hkey]
        rfl
      | true =>
        left
        refine ⟨⟨hread, hfree.mpr rfl⟩, { s with store := db }, ?_⟩
        simp [hkey]
        rfl

/-! ## What commits do to a record -/

theorem snapshot_authenticate (deviceId password : String) (record : Option DevicePasswordRecord)
    (identity key : String) (onVerified : OnVerified) :
    (CredentialWork.authenticate deviceId password record identity key onVerified).snapshot deviceId =
      record := if_pos rfl

/-- What a verification makes of a stored record: it stays, or it was legacy and is current now. -/
def Migrated (d : String) (record record' : DevicePasswordRecord) (work : CredentialWork) : Prop :=
  record' = record ∨ DevicePassword.isCurrent record = false ∧
    DevicePassword.isCurrent record' = true ∧ work.snapshot d = some record

/-- The commit of what a password was verified to be. -/
theorem migrated_of_commit {fails : Bool} {deviceId : String} {expected replacement : DevicePasswordRecord}
    {work : CredentialWork} {db db' : DeviceDbManager} {bound : String}
    (hverify : DevicePassword.verify cfg.hashing env.hashed (some expected) password = some replacement)
    (hcommit : db.commitPassword fails deviceId expected replacement = (true, db'))
    (hsnapshot : work.snapshot deviceId = some expected)
    (hstored : credential d db = some (record, bound)) :
    ∃ record' : DevicePasswordRecord, credential d db' = some (record', bound) ∧
      Migrated d record record' work := by
  obtain ⟨key, hbefore, hafter⟩ := commitPassword_true hcommit
  have hcurrent : DevicePassword.isCurrent replacement = true :=
    (commitPassword_ok_iff.mp (congrArg Prod.fst hcommit)).2.1
  by_cases hd : d = deviceId
  · subst hd
    rw [hbefore] at hstored
    cases hstored
    refine ⟨replacement, by rw [hafter, if_pos rfl], ?_⟩
    have hresult := (DevicePassword.verify_eq_some_iff.mp hverify).2
    split at hresult
    · exact .inl hresult
    · next hlegacy => exact .inr ⟨by simpa using hlegacy, hcurrent, hsnapshot⟩
  · exact ⟨record, by rw [hafter, if_neg hd, hstored], .inl rfl⟩

/-- A commit that is no password change. -/
theorem Commit.migrates {work : CredentialWork} {es : List Event} {db : DeviceDbManager} {bound : String}
    (h : Commit cfg env hdl s work es db) (hother : work.changesPassword = false)
    (hstored : credential d s.store = some (record, bound)) :
    ∃ (record' : DevicePasswordRecord) (bound' : String),
      credential d db = some (record', bound') ∧ Migrated d record record' work := by
  cases h with
  | verified hidentity hverify hcommit =>
    obtain ⟨record', hafter, hmigrated⟩ := migrated_of_commit hverify hcommit
      (snapshot_authenticate ..) hstored
    exact ⟨record', bound, hafter, hmigrated⟩
  | @bound deviceId _ expected replacement _ bindLoginKey _ committed _ hkey hidentity hverify hcommit
      hbind =>
    obtain ⟨record', hafter, hmigrated⟩ := migrated_of_commit hverify hcommit
      (snapshot_authenticate ..) hstored
    obtain ⟨hfree, hbound⟩ := bindLoginPublicKey_true hbind
    by_cases hd : d = deviceId
    · subst hd
      rw [hafter] at hfree
      cases hfree
      exact ⟨replacement, bindLoginKey, by rw [hbound, if_pos rfl], hmigrated⟩
    · exact ⟨record', _, by rw [hbound, if_neg hd, hafter], hmigrated⟩
  | unbound hkey hverify hcommit =>
    obtain ⟨record', hafter, hmigrated⟩ := migrated_of_commit hverify hcommit
      (snapshot_authenticate ..) hstored
    exact ⟨record', bound, hafter, hmigrated⟩
  | @registered kind loginPublicKey _ fresh registered _ hhashed hregister =>
    have hadded := registerDevice_credential (env.fails .registerDevice) env.storeTime
      env.deviceNumber kind env.password fresh loginPublicKey s.store d
    rw [hregister] at hadded
    rcases hadded with hsame | ⟨hnone, -⟩
    · exact ⟨record, bound, hsame.trans hstored, .inl rfl⟩
    · rw [hstored] at hnone
      cases hnone
  | changed => cases hother

end Application

/-! ## Steps and paths -/

section Paths

open Application

variable {cfg : Config} {db : DeviceDbManager} {assumed : World → Job → Env → Prop} {d : String}
  {record : DevicePasswordRecord}

/-- The step completes another verification, which replaces the legacy record. -/
def Migrates (d : String) (record : DevicePasswordRecord) (t : ServerStep) : Prop :=
  Replaces d record t ∧ ∃ work : Dispatched, t.Completes work ∧
    work.work.changesPassword = false ∧ work.work.snapshot d = some record

/-- Neither a password change of the device is committed, nor does the device go. -/
structure LeavesPassword (d : String) (t : ServerStep) : Prop where
  unchanged : ∀ work : Dispatched, t.Completes work → work.work.changesPassword = true →
    t.after.record d = t.before.record d
  present : t.after.record d ≠ none

/-- What becomes of a record in one step. -/
theorem leavesPassword_step {t : ServerStep}
    (hstep : (server cfg db assumed).step t.before t.label t.after) (hleaves : LeavesPassword d t)
    (hstored : t.before.record d = some record) :
    t.after.record d = some record ∨ DevicePassword.isCurrent record = false ∧ Migrates d record t ∧
      ∃ record' : DevicePasswordRecord, t.after.record d = some record' ∧
        DevicePassword.isCurrent record' = true := by
  obtain ⟨hunchanged, hpresent⟩ := hleaves
  rcases t with ⟨w, ⟨job, env⟩, w'⟩
  obtain rfl : w' = w.after cfg job env := hstep.2.2
  obtain ⟨⟨stored, bound⟩, hcredential, hsame⟩ := Option.map_eq_some_iff.mp hstored
  obtain rfl : stored = record := hsame
  have hdoes : Application.Does cfg env w.app job _ _ := Application.does_program w.app job
  generalize hes : (job.program cfg env w.app).events = es at hdoes
  generalize hs : (job.program cfg env w.app).state = s' at hdoes
  have hafter : (w.after cfg job env).credential d = credential d s'.store := by
    rw [← hs]
    rfl
  have hkept : credential d s'.store = credential d w.app.store →
      (w.after cfg job env).record d = some stored := by
    intro hsame
    rw [record_of_credential (hafter.trans (hsame.trans hcredential))]
    rfl
  have hgone : ¬ credential d s'.store = none := by
    intro hnone
    exact hpresent (by rw [record_of_credential (hafter.trans hnone)]; rfl)
  -- Only the end of a computation writes a record, and only the change writes another password.
  cases hdoes with
  | acts hacts =>
    rcases (hacts.lift composes_harmless (fun _ _ _ h => h.harmless)).1 d with hsame | hnone
    · exact .inl (hkept hsame)
    · exact (hgone hnone).elim
  | restarted => exact .inl (hkept (boot_credential w.app d))
  | @changed n work userId requestId newPassword _ committed hwork hkind hcommit hnew =>
    left
    rw [← hstored]
    exact hunchanged work ⟨n, rfl, hwork⟩ (by rw [hkind]; rfl)
  | @committed n work es es' committed s' hwork hother hcommit hacts =>
    obtain ⟨record', bound', hcommitted, hmigrated⟩ := hcommit.migrates hother hcredential
    rcases (hacts.lift composes_harmless (fun _ _ _ h => h.harmless)).1 d with hsame | hnone
    · have hnow : (w.after cfg (.complete n) env).record d = some record' := by
        rw [record_of_credential (hafter.trans (hsame.trans hcommitted))]
        rfl
      rcases hmigrated with rfl | ⟨hlegacy, hcurrent, hsnapshot⟩
      · exact .inl hnow
      · right
        have hne : record' ≠ stored := by
          rintro rfl
          rw [hlegacy] at hcurrent
          cases hcurrent
        exact ⟨hlegacy, ⟨⟨hstored, record', hnow, hne⟩, work, ⟨n, rfl, hwork⟩, hother, hsnapshot⟩,
          record', hnow, hcurrent⟩
    · exact (hgone hnone).elim

/-- A current record stays. -/
theorem current_kept {w w' : World} {ts : List ServerStep}
    (hpath : System.Path (server cfg db assumed) w ts w') (hleaves : ∀ t ∈ ts, LeavesPassword d t)
    (hcurrent : DevicePassword.isCurrent record = true) (hstored : w.record d = some record) :
    w'.record d = some record ∧ ∀ t ∈ ts, ¬ Migrates d record t := by
  induction hpath with
  | nil => exact ⟨hstored, fun t ht => (List.not_mem_nil ht).elim⟩
  | @cons w mid w' l ts hstep _ ih =>
    have hfirst : mid.record d = some record := by
      rcases leavesPassword_step (t := ⟨w, l, mid⟩) hstep (hleaves _ List.mem_cons_self) hstored with
        hkept | ⟨hlegacy, -⟩
      · exact hkept
      · rw [hcurrent] at hlegacy
        cases hlegacy
    obtain ⟨hlast, hnone⟩ := ih (fun t ht => hleaves t (List.mem_cons_of_mem _ ht)) hfirst
    refine ⟨hlast, fun t ht hmigrates => ?_⟩
    rcases List.mem_cons.mp ht with rfl | ht
    · obtain ⟨⟨-, record', hafter, hne⟩, -⟩ := hmigrates
      rw [hfirst] at hafter
      exact hne (Option.some.inj hafter).symm
    · exact hnone t ht hmigrates

/-- **A record stays exactly if no verification migrates it.** -/
theorem record_kept_iff {w w' : World} {ts : List ServerStep}
    (hpath : System.Path (server cfg db assumed) w ts w') (hleaves : ∀ t ∈ ts, LeavesPassword d t)
    (hstored : w.record d = some record) :
    w'.record d = some record ↔ ∀ t ∈ ts, ¬ Migrates d record t := by
  induction hpath with
  | nil => exact ⟨fun _ t ht => (List.not_mem_nil ht).elim, fun _ => hstored⟩
  | @cons w mid w' l ts hstep hrest ih =>
    have hlater : ∀ t ∈ ts, LeavesPassword d t := fun t ht => hleaves t (List.mem_cons_of_mem _ ht)
    rcases leavesPassword_step (t := ⟨w, l, mid⟩) hstep (hleaves _ List.mem_cons_self) hstored with
      hkept | ⟨hlegacy, hmigrates, record', hafter, hcurrent⟩
    · rw [ih hlater hkept]
      constructor
      · intro hnone t ht
        rcases List.mem_cons.mp ht with rfl | ht
        · rintro ⟨⟨-, record', hafter, hne⟩, -⟩
          rw [hkept] at hafter
          exact hne (Option.some.inj hafter).symm
        · exact hnone t ht
      · exact fun hnone t ht => hnone t (List.mem_cons_of_mem _ ht)
    · -- the record that it was migrated to stays
      constructor
      · intro hlast
        rw [(current_kept hrest hlater hcurrent hafter).1] at hlast
        obtain rfl := Option.some.inj hlast
        rw [hlegacy] at hcurrent
        cases hcurrent
      · exact fun hnone => (hnone _ List.mem_cons_self hmigrates).elim

/-- The end of a computation. -/
def completion (cfg : Config) (n : Nat) (env : Env) (w : World) : ServerStep where
  before := w
  label := (.complete n, env)
  after := w.after cfg (.complete n) env

/-- The answer to a correct password: the request goes on exactly if the snapshot was not migrated and
the key is free. -/
structure AnswersCorrectPassword (cfg : Config) (ts : List ServerStep) (w : World) (n : Nat) (env : Env)
    (work : Dispatched) (d key : String) (record : DevicePasswordRecord) (onVerified : OnVerified) :
    Prop where
  accepted : (∃ s : Application, (completion cfg n env w).events cfg =
      .passwordVerified work.hdl d :: (verified cfg env work.hdl onVerified s).events) ↔
    (∀ t ∈ ts, ¬ Migrates d record t) ∧ KeyFree key d w.app.store
  rejected : (completion cfg n env w).events cfg = [.sent (some work.hdl) work.failure] ↔
    (∃ t ∈ ts, Migrates d record t) ∨ ¬ KeyFree key d w.app.store
  current : DevicePassword.isCurrent record = true → ∀ t ∈ ts, ¬ Migrates d record t

/-- The stored record is the one that a snapshot of the database would be. -/
theorem readPassword_of_record {w w' : World}
    (hsnapshot : w.app.store.readPassword false d = some record) :
    w.record d = some record ∧
      (w'.app.store.readPassword false d = some record ↔ w'.record d = some record) := by
  have hread : ∀ w : World, w.record d = (w.app.store.devices[d]?).map DeviceRow.password := by
    intro w
    unfold World.record World.credential credential
    rw [Option.map_map]
    rfl
  unfold readPassword at hsnapshot ⊢
  split at hsnapshot
  · cases hsnapshot
  · next hvalid => exact ⟨(hread w).trans hsnapshot, by rw [if_neg hvalid, hread]⟩

/-- **A correct password is accepted exactly if its snapshot was not migrated meanwhile.** The
computation was given the record that was stored in `w`; while it ran, the server took the steps `ts`,
none of which changed the password or deleted the device. -/
theorem correct_password_accepted_iff {w w' : World} {ts : List ServerStep} {n : Nat} {env : Env}
    {hdl : ConnectionHdl} {failure : Json} {password identity key : String} {onVerified : OnVerified}
    (hpath : System.Path (server cfg db assumed) w ts w') (hleaves : ∀ t ∈ ts, LeavesPassword d t)
    (hsnapshot : w.app.store.readPassword false d = some record)
    (hwork : w'.app.pending[n]? =
      some ⟨hdl, failure, .authenticate d password (some record) identity key onVerified⟩)
    (hcorrect : DevicePassword.Accepts cfg.hashing record password)
    (hunhindered : Unhindered env hdl identity w'.app) :
    AnswersCorrectPassword cfg ts w' n env
      ⟨hdl, failure, .authenticate d password (some record) identity key onVerified⟩ d key record
      onVerified := by
  obtain ⟨hstored, hread⟩ := @readPassword_of_record d record w w' hsnapshot
  have hkept : w'.app.store.readPassword false d = some record ↔ ∀ t ∈ ts, ¬ Migrates d record t :=
    hread.trans (record_kept_iff hpath hleaves hstored)
  -- The computation is taken from the list before it runs, which is no hindrance.
  have htaken : Unhindered env hdl identity { w'.app with pending := w'.app.pending.eraseIdx n } :=
    ⟨hunhindered.alive, hunhindered.identity, hunhindered.unruled, hunhindered.uncooled,
      hunhindered.hashes, hunhindered.stores⟩
  have hevents : (completion cfg n env w').events cfg = (authenticated cfg env hdl failure d password
      (some record) identity key onVerified
      { w'.app with pending := w'.app.pending.eraseIdx n }).events :=
    congrArg Outcome.events (program_complete hwork)
  have hcurrent : DevicePassword.isCurrent record = true → ∀ t ∈ ts, ¬ Migrates d record t :=
    fun hcurrent => (current_kept hpath hleaves hcurrent hstored).2
  rcases authenticated_correct failure onVerified htaken hcorrect with
    ⟨⟨hsame, hfree⟩, s, haccepted⟩ | ⟨hlost, hrejected⟩
  · have hnone := hkept.mp hsame
    refine ⟨⟨fun _ => ⟨hnone, hfree⟩, fun _ => ⟨s, hevents.trans haccepted⟩⟩, ?_, hcurrent⟩
    constructor
    · intro hrejected
      rw [hevents, haccepted] at hrejected
      cases hrejected
    · rintro (⟨t, ht, hmigrates⟩ | htaken)
      · exact (hnone t ht hmigrates).elim
      · exact (htaken hfree).elim
  · have hnot : ¬ ((∀ t ∈ ts, ¬ Migrates d record t) ∧ KeyFree key d w'.app.store) :=
      fun h => hlost ⟨hkept.mpr h.1, h.2⟩
    refine ⟨⟨fun ⟨s, haccepted⟩ => ?_, fun h => (hnot h).elim⟩, ?_, hcurrent⟩
    · rw [hevents, hrejected] at haccepted
      cases haccepted
    · refine ⟨fun _ => ?_, fun _ => hevents.trans hrejected⟩
      by_contra hneither
      simp only [not_or, not_exists, not_and, not_not] at hneither
      exact hnot hneither

end Paths

/-! ## The second of two racing logins -/

/-- What a computation checks, and for whom. -/
structure Presented where
  hdl : ConnectionHdl
  deviceId : String
  password : String
  record : Option DevicePasswordRecord
  identity : String
  bindLoginKey : String
  deriving DecidableEq

def presented : Dispatched → Option Presented
  | ⟨hdl, _, .authenticate deviceId password record identity bindLoginKey _⟩ =>
    some ⟨hdl, deviceId, password, record, identity, bindLoginKey⟩
  | _ => none

theorem presented_eq_some {work : Dispatched} {p : Presented} (h : presented work = some p) :
    ∃ (failure : Json) (onVerified : OnVerified), work =
      ⟨p.hdl, failure,
        .authenticate p.deviceId p.password p.record p.identity p.bindLoginKey onVerified⟩ := by
  obtain ⟨hdl, failure, content⟩ := work
  cases content with
  | authenticate deviceId text snapshot user bindLoginKey onVerified =>
    cases h
    exact ⟨failure, onVerified, rfl⟩
  | register kind loginPublicKey finish => cases h
  | changePassword userId requestId newPassword snapshot => cases h

def racingPassword (hdl : ConnectionHdl) : Presented :=
  ⟨hdl, "123456789", "secret", some legacyRecord, "", ""⟩

/-- Both logins present the right password. The first one migrates the record, and the second one is
rejected. -/
theorem correct_password_accepted_iff_racing :
    ∃ (failure : Json) (onVerified : OnVerified),
      racingSecond.events plainConfig = [.sent (some 2) failure] ∧
      AnswersCorrectPassword plainConfig [racingFirst] racingFirst.after 0
        { hashed := some (migratedRecord 'b') }
        ⟨2, failure, .authenticate "123456789" "secret" (some legacyRecord) "" "" onVerified⟩
        "123456789" "" legacyRecord onVerified := by
  have hworks : (racingFirst.before.app.pending[0]?).bind presented =
        some (racingPassword 1) ∧
      (racingFirst.after.app.pending[0]?).bind presented =
        some (racingPassword 2) := by decide +kernel
  have hrecords : racingLogins.app.store.readPassword false "123456789" =
        some legacyRecord ∧
      racingFirst.after.record "123456789" = some (migratedRecord 'a') ∧
      racingFirst.after.app.manager.getUserId 2 = "" := by decide +kernel
  obtain ⟨first, hfirst, hpresented⟩ := Option.bind_eq_some_iff.mp hworks.1
  obtain ⟨failure₁, onVerified₁, rfl⟩ := presented_eq_some hpresented
  obtain ⟨second, hsecond, hpresented⟩ := Option.bind_eq_some_iff.mp hworks.2
  obtain ⟨failure, onVerified, rfl⟩ := presented_eq_some hpresented
  have hstored : racingLogins.record "123456789" = some legacyRecord :=
    (@readPassword_of_record _ _ racingLogins racingLogins hrecords.1).1
  -- The first login is the one that takes the record away from the second.
  have hmigrates : Migrates "123456789" legacyRecord racingFirst :=
    ⟨⟨hstored, migratedRecord 'a', hrecords.2.1, by decide⟩, _, ⟨0, rfl, hfirst⟩, rfl, rfl⟩
  have hleaves : ∀ t ∈ [racingFirst], LeavesPassword "123456789" t := by
    intro t ht
    obtain rfl := List.mem_singleton.mp ht
    refine ⟨?_, by rw [hrecords.2.1]; exact Option.some_ne_none _⟩
    rintro work ⟨n, hn, hwork⟩ hchanges
    cases hn
    obtain rfl := Option.some.inj (hfirst.symm.trans hwork)
    cases hchanges
  have hpath : System.Path (server plainConfig legacyDevice (fun _ _ _ => True)) racingLogins
      [racingFirst] racingFirst.after :=
    .cons ⟨fun work _ => Finset.notMem_empty work.hdl, trivial, rfl⟩ .nil
  have hcorrect : DevicePassword.Accepts plainConfig.hashing legacyRecord "secret" := by
    refine ⟨by decide, ?_⟩
    rw [if_neg (by decide)]
    exact ⟨by decide, by decide⟩
  have hunhindered : Application.Unhindered { hashed := some (migratedRecord 'b') } 2 ""
      racingFirst.after.app :=
    ⟨rfl, hrecords.2.2, ⟨rfl, rfl⟩, rfl, ⟨migratedRecord 'b', rfl, by decide⟩, rfl, rfl⟩
  have hanswers := correct_password_accepted_iff hpath hleaves hrecords.1 hsecond hcorrect hunhindered
  refine ⟨failure, onVerified, ?_, hanswers⟩
  exact hanswers.rejected.mpr (.inl ⟨racingFirst, List.mem_singleton_self _, hmigrates⟩)

end CrossDesk
