import CrossDesk.Application.Acts
import CrossDesk.DeviceDbManager.Commits

/-!
# Password computations that come too late

A password computation is given a snapshot of the record of a device and comes back later, when other
computations, password changes, deletions and registrations may have changed the device. The commit
compares the record that is stored with the snapshot, so what was computed from another one takes no
effect (`stale_work_takes_no_effect`).

What a device logs in with is its `credential`: the stored record and the bound key. An act leaves it
alone or takes it away with its device (`Act.loses`); only a commit replaces it (`Commit.effect`). The
run lemmas follow from what one step does.
-/

namespace CrossDesk

open Logged

open DeviceDbManager

variable {cfg : Config} {env : Env}

/-! ## Acts -/

theorem StoreCalled.loses {sha : Sha256} {db db' : DeviceDbManager} (h : StoreCalled sha db db') :
    Loses db db' := by
  cases h with
  | updateDeviceClientInfo => exact .of_same (updateDeviceClientInfo_devices _ _ _ _ _ _)
  | endRemoteControlSession => exact .of_same (endRemoteControlSession_devices _ _ _ _ _)
  | endRemoteControlTransmission => exact .of_same (endRemoteControlTransmission_devices _ _ _ _)
  | recordRuntimeHeartbeat => exact .of_same (recordRuntimeHeartbeat_kept _ _).1
  | issueReconnectCredential => exact .of_same (issueReconnectCredential_devices _ _ _ _ _ _)
  | revokeReconnectCredential => exact .of_same (revokeReconnectCredential_devices _ _ _)
  | removeDevice => exact (removeDevice_deletes _ _ _).loses
  | cleanupTemporaryControllers => exact (cleanupTemporaryControllers_deletes _ _ _ _).loses
  | cleanupExpiredDevices => exact (cleanupExpiredDevices_deletes _ _ _ _ _).loses
  | adminDeviceData => exact (adminDeviceData_deletes _ _ _).loses

/-- The callback of the transmission manager leaves the devices alone. -/
theorem callbacks_devices (env : Env) (notifications : List Notification) (db : DeviceDbManager) :
    (notifications.foldl (Application.remoteControlSessionCallback env) db).devices = db.devices := by
  induction notifications generalizing db with
  | nil => rfl
  | cons notification notifications ih =>
    rw [List.foldl_cons, ih]
    unfold Application.remoteControlSessionCallback
    split
    · exact startRemoteControlSession_devices _ _ _ _ _ _
    · exact endRemoteControlSession_devices _ _ _ _ _
    · rfl

/-- What acts mean to the devices and to the password computations: nobody is given a credential and
no password is verified. -/
def Harmless (s : Application) (es : List Event) (s' : Application) : Prop :=
  Loses s.store s'.store ∧ ∀ (hdl : ConnectionHdl) (d : String), .passwordVerified hdl d ∉ es

theorem composes_harmless : Composes Harmless where
  refl := fun s => ⟨.of_same rfl, by simp⟩
  trans := by
    intro s es s' es' s'' h h'
    refine ⟨h.1.trans h'.1, fun hdl d hin => ?_⟩
    rcases List.mem_append.mp hin with hin | hin
    · exact h.2 hdl d hin
    · exact h'.2 hdl d hin

theorem Application.Act.harmless {settled : Bool} {s s' : Application} {es : List Event}
    (h : Application.Act cfg env settled s es s') : Harmless s es s' := by
  cases h with
  | told hnotice =>
    refine ⟨.of_same rfl, fun hdl d hin => ?_⟩
    rw [← List.mem_singleton.mp hin] at hnotice
    cases hnotice
  | aside hmanager hstore hpending =>
    refine ⟨.of_same ?_, by simp⟩
    rw [hstore]
  | forgot => exact ⟨.of_same rfl, by simp⟩
  | stored hcalled => exact ⟨hcalled.loses, by simp⟩
  | started => exact ⟨.of_same (startRemoteControlSession_devices _ _ _ _ _ _), by simp⟩
  | marked => exact ⟨.of_same (setDeviceOnline_devices _ _ _ _ _), by simp⟩
  | called op => exact ⟨.of_same (callbacks_devices _ _ _), by simp⟩
  | dispatched => exact ⟨.of_same rfl, by simp⟩
  | taken => exact ⟨.of_same rfl, by simp⟩
  | forwarded => exact ⟨.of_same rfl, by simp⟩
  | disconnected =>
    refine ⟨.of_same (callbacks_devices _ _ _), ?_⟩
    simp [Application.releaseGuestFromTransmission, Application.call]

/-! ## Commits -/

namespace CredentialWork

/-- The record of the device that the computation was given. -/
def snapshot (d : String) : CredentialWork → Option DevicePasswordRecord
  | authenticate deviceId _ record _ _ _ => if deviceId = d then record else none
  | changePassword userId _ _ record => if userId = d then record else none
  | register .. => none

end CredentialWork

/-- What a commit does to the credential of a device: nothing, or it replaces the one of the snapshot,
or it adds a device. A key is only bound where there is none. -/
theorem Application.Commit.effect {hdl : ConnectionHdl} {s : Application} {work : CredentialWork}
    {es : List Event} {db : DeviceDbManager} (h : Application.Commit cfg env hdl s work es db)
    (d : String) :
    credential d db = credential d s.store ∨
    (∃ (record record' : DevicePasswordRecord) (key key' : String),
      work.snapshot d = some record ∧ credential d s.store = some (record, key) ∧
      credential d db = some (record', key') ∧ (record' = record ∨ env.hashed = some record') ∧
      (key' = key ∨ key = "")) ∨
    (∃ (kind loginPublicKey : String) (finish : FinishLogin) (record : DevicePasswordRecord),
      work = .register kind loginPublicKey finish ∧ credential d s.store = none ∧
      env.hashed = some record ∧ credential d db = some (record, loginPublicKey)) := by
  have hverified : ∀ {record replacement : DevicePasswordRecord} {password : String},
      DevicePassword.verify cfg.hashing env.hashed (some record) password = some replacement →
      replacement = record ∨ env.hashed = some replacement := by
    intro record replacement password hverify
    have hresult := (DevicePassword.verify_eq_some_iff.mp hverify).2
    split at hresult
    · exact .inl hresult
    · exact .inr hresult
  -- the commit of a record alone
  have hreplaced : ∀ {deviceId : String} {record replacement : DevicePasswordRecord}
      {db : DeviceDbManager},
      s.store.commitPassword (env.fails .commitPassword) deviceId record replacement = (true, db) →
      (replacement = record ∨ env.hashed = some replacement) →
      (work.snapshot deviceId = some record) →
      credential d db = credential d s.store ∨
      (∃ (record record' : DevicePasswordRecord) (key key' : String),
        work.snapshot d = some record ∧ credential d s.store = some (record, key) ∧
        credential d db = some (record', key') ∧ (record' = record ∨ env.hashed = some record') ∧
        (key' = key ∨ key = "")) := by
    intro deviceId record replacement db hcommit hfrom hsnapshot
    obtain ⟨key, hstored, hafter⟩ := commitPassword_true hcommit
    by_cases hd : d = deviceId
    · subst hd
      exact .inr ⟨record, replacement, key, key, hsnapshot, hstored, by rw [hafter, if_pos rfl],
        hfrom, .inl rfl⟩
    · left
      rw [hafter, if_neg hd]
  cases h with
  | verified hidentity hverify hcommit =>
    rcases hreplaced hcommit (hverified hverify) (if_pos rfl) with hsame | hcommitted
    · exact .inl hsame
    · exact .inr (.inl hcommitted)
  | @bound deviceId _ record replacement _ bindLoginKey _ committed _ hkey hidentity hverify hcommit
      hbind =>
    obtain ⟨key, hstored, hafter⟩ := commitPassword_true hcommit
    obtain ⟨hfree, hbound⟩ := bindLoginPublicKey_true hbind
    rw [hafter, if_pos rfl] at hfree
    obtain rfl : key = "" := (Prod.mk.inj (Option.some.inj hfree)).2
    by_cases hd : d = deviceId
    · subst hd
      exact .inr (.inl ⟨record, replacement, "", bindLoginKey, if_pos rfl, hstored,
        by rw [hbound, if_pos rfl], hverified hverify, .inr rfl⟩)
    · left
      rw [hbound, if_neg hd, hafter, if_neg hd]
  | unbound hkey hverify hcommit hbind =>
    rcases hreplaced hcommit (hverified hverify) (if_pos rfl) with hsame | hcommitted
    · exact .inl hsame
    · exact .inr (.inl hcommitted)
  | @registered kind loginPublicKey finish record credential _ hhashed hregister =>
    have hadded := registerDevice_credential (env.fails .registerDevice) env.storeTime
      env.deviceNumber kind env.password record loginPublicKey s.store d
    rw [hregister] at hadded
    rcases hadded with hsame | ⟨hnone, hnew⟩
    · exact .inl hsame
    · exact .inr (.inr ⟨kind, loginPublicKey, finish, record, rfl, hnone, hhashed, hnew⟩)
  | changed hidentity hhashed hcommit =>
    rcases hreplaced hcommit (.inr hhashed) (if_pos rfl) with hsame | hcommitted
    · exact .inl hsame
    · exact .inr (.inl hcommitted)

/-- A commit that reports a verified password found the snapshot stored, and stores what the password
was verified to be. -/
theorem Application.Commit.verifies {hdl hdl' : ConnectionHdl} {s : Application}
    {work : CredentialWork} {es : List Event} {db : DeviceDbManager} {d : String}
    (h : Application.Commit cfg env hdl s work es db) (hin : .passwordVerified hdl' d ∈ es) :
    hdl' = hdl ∧ ∃ (record verified : DevicePasswordRecord) (key key' : String),
      work.snapshot d = some record ∧ credential d s.store = some (record, key) ∧
      (verified = record ∨ DevicePassword.isCurrent record = false ∧ env.hashed = some verified) ∧
      credential d db = some (verified, key') := by
  have hverified : ∀ {record replacement : DevicePasswordRecord} {password : String},
      DevicePassword.verify cfg.hashing env.hashed (some record) password = some replacement →
      replacement = record ∨
        DevicePassword.isCurrent record = false ∧ env.hashed = some replacement := by
    intro record replacement password hverify
    have hresult := (DevicePassword.verify_eq_some_iff.mp hverify).2
    split at hresult
    · exact .inl hresult
    · next hlegacy => exact .inr ⟨by simpa using hlegacy, hresult⟩
  cases h with
  | @verified deviceId _ record replacement _ _ _ hidentity hverify hcommit =>
    obtain ⟨rfl, rfl⟩ := Event.passwordVerified.inj (List.mem_singleton.mp hin)
    obtain ⟨key, hstored, hafter⟩ := commitPassword_true hcommit
    exact ⟨rfl, record, replacement, key, key, if_pos rfl, hstored, hverified hverify,
      by rw [hafter, if_pos rfl]⟩
  | @bound deviceId _ record replacement _ bindLoginKey _ _ _ hkey hidentity hverify hcommit hbind =>
    obtain ⟨rfl, rfl⟩ := Event.passwordVerified.inj (List.mem_singleton.mp hin)
    obtain ⟨key, hstored, hafter⟩ := commitPassword_true hcommit
    obtain ⟨-, hbound⟩ := bindLoginPublicKey_true hbind
    exact ⟨rfl, record, replacement, key, bindLoginKey, if_pos rfl, hstored, hverified hverify,
      by rw [hbound, if_pos rfl]⟩
  | unbound => exact absurd hin (by simp)
  | registered => exact absurd hin (by simp)
  | changed => exact absurd hin (by simp)

/-! ## One step -/

/-- One step of the server, with the worlds around it. -/
abbrev ServerStep := System.Transition World (Job × Env)

namespace ServerStep

/-- The step is the completion of a password computation. -/
def Completes (t : ServerStep) (work : Dispatched) : Prop :=
  ∃ n : Nat, t.label.1 = .complete n ∧ t.before.app.pending[n]? = some work

/-- What the step reported. -/
def events (cfg : Config) (t : ServerStep) : List Event :=
  (t.label.1.program cfg t.label.2 t.before.app).events

/-- The record that the step may have drawn a salt for. -/
def drawn (t : ServerStep) : Option DevicePasswordRecord :=
  match t.label.1 with
  | .complete _ => t.label.2.hashed
  | _ => none

end ServerStep

/-- What a device logs in with. -/
def World.credential (d : String) (w : World) : Option (DevicePasswordRecord × String) :=
  DeviceDbManager.credential d w.app.store

/-- The stored record of a device. -/
def World.record (d : String) (w : World) : Option DevicePasswordRecord :=
  (w.credential d).map Prod.fst

/-- What a step does to the credential of a device. -/
inductive CredentialStep (cfg : Config) (d : String) (t : ServerStep) : Prop where
  | kept : t.after.credential d = t.before.credential d → CredentialStep cfg d t
  | deleted : t.after.credential d = none → CredentialStep cfg d t
  | replaced {work : Dispatched} {record record' : DevicePasswordRecord} {key key' : String} :
      t.Completes work → work.work.snapshot d = some record →
      t.before.credential d = some (record, key) → t.after.credential d = some (record', key') →
      (record' = record ∨ t.drawn = some record') → (key' = key ∨ key = "") → CredentialStep cfg d t
  | registered {work : Dispatched} {kind loginPublicKey : String} {finish : FinishLogin}
      {record : DevicePasswordRecord} :
      t.Completes work → work.work = .register kind loginPublicKey finish →
      t.before.credential d = none → t.drawn = some record →
      t.after.credential d = some (record, loginPublicKey) → CredentialStep cfg d t

variable {db : DeviceDbManager} {assumed : World → Job → Env → Prop}

theorem boot_credential (s : Application) (d : String) :
    DeviceDbManager.credential d (Application.boot cfg env s).state.store =
      DeviceDbManager.credential d s.store := by
  have hdevices : (Application.boot cfg env s).state.store.devices = s.store.devices :=
    (initDb_reconnect env.storeTime s.store).1
  rw [DeviceDbManager.credential, hdevices]
  rfl

/-- A commit whose result stays. -/
theorem CredentialStep.of_commit {w : World} {n : Nat} {work : Dispatched} {es : List Event}
    {committed : DeviceDbManager} {d : String} (hwork : w.app.pending[n]? = some work)
    (hcommit : Application.Commit cfg env work.hdl { w.app with pending := w.app.pending.eraseIdx n }
      work.work es committed)
    (hkept : (w.after cfg (.complete n) env).credential d = DeviceDbManager.credential d committed) :
    CredentialStep cfg d ⟨w, (.complete n, env), w.after cfg (.complete n) env⟩ := by
  have hcompletes : ServerStep.Completes ⟨w, (.complete n, env), w.after cfg (.complete n) env⟩
      work := ⟨n, rfl, hwork⟩
  rcases hcommit.effect d with hsame | ⟨record, record', key, key', hsnapshot, hbefore, hnew, hfrom,
    hkey⟩ | ⟨kind, loginPublicKey, finish, record, hregister, hnone, hdrawn, hnew⟩
  · exact .kept (hkept.trans hsame)
  · exact .replaced hcompletes hsnapshot hbefore (hkept.trans hnew) hfrom hkey
  · exact .registered hcompletes hregister hnone hdrawn (hkept.trans hnew)

theorem credential_step {t : ServerStep}
    (hstep : (server cfg db assumed).step t.before t.label t.after) (d : String) :
    CredentialStep cfg d t := by
  rcases t with ⟨w, ⟨job, env⟩, w'⟩
  obtain rfl : w' = w.after cfg job env := hstep.2.2
  have hdoes : Application.Does cfg env w.app job _ _ := Application.does_program w.app job
  generalize hes : (job.program cfg env w.app).events = es at hdoes
  generalize hs : (job.program cfg env w.app).state = s' at hdoes
  have hafter : (w.after cfg job env).credential d = DeviceDbManager.credential d s'.store := by
    rw [← hs]
    rfl
  cases hdoes with
  | acts hacts =>
    have hloses := (hacts.lift composes_harmless (fun _ _ _ h => h.harmless)).1 d
    rw [← hafter] at hloses
    rcases hloses with hkept | hgone
    · exact .kept hkept
    · exact .deleted hgone
  | restarted =>
    refine .kept (hafter.trans ?_)
    exact boot_credential w.app d
  | @committed n work es es' db s' hwork hother hcommit hacts =>
    have hloses := (hacts.lift composes_harmless (fun _ _ _ h => h.harmless)).1 d
    rw [← hafter] at hloses
    rcases hloses with hkept | hgone
    · exact .of_commit hwork hcommit hkept
    · exact .deleted hgone
  | @changed n work userId requestId newPassword record db hwork hkind hcommit hnew =>
    exact .of_commit hwork hcommit hafter

/-- What a step that verifies a password knows of the device. -/
structure VerifiedNow (cfg : Config) (t : ServerStep) (hdl : ConnectionHdl) (d : String)
    (work : Dispatched) (record verified : DevicePasswordRecord) : Prop where
  completes : t.Completes work
  requested : work.hdl = hdl
  snapshot : work.work.snapshot d = some record
  /-- The snapshot is the record that is stored. -/
  stored : t.before.record d = some record
  /-- The record was kept, or it is legacy and was migrated. -/
  result : verified = record ∨ DevicePassword.isCurrent record = false ∧ t.drawn = some verified
  /-- What the password was verified to be is stored from now on, unless the device goes. -/
  after : t.after.record d = none ∨ t.after.record d = some verified

theorem verified_step {t : ServerStep}
    (hstep : (server cfg db assumed).step t.before t.label t.after) {hdl : ConnectionHdl}
    {d : String} (hin : .passwordVerified hdl d ∈ t.events cfg) :
    ∃ (work : Dispatched) (record verified : DevicePasswordRecord),
      VerifiedNow cfg t hdl d work record verified := by
  rcases t with ⟨w, ⟨job, env⟩, w'⟩
  obtain rfl : w' = w.after cfg job env := hstep.2.2
  have hdoes : Application.Does cfg env w.app job _ _ := Application.does_program w.app job
  change .passwordVerified hdl d ∈ (job.program cfg env w.app).events at hin
  generalize hes : (job.program cfg env w.app).events = es at hdoes hin
  generalize hs : (job.program cfg env w.app).state = s' at hdoes
  have hafter : (w.after cfg job env).credential d = DeviceDbManager.credential d s'.store := by
    rw [← hs]
    rfl
  cases hdoes with
  | acts hacts =>
    exact absurd hin ((hacts.lift composes_harmless (fun _ _ _ h => h.harmless)).2 hdl d)
  | restarted => exact absurd hin (by simp [Application.boot])
  | changed => exact absurd hin (by simp)
  | @committed n work es es' db s' hwork hother hcommit hacts =>
    have hharmless := hacts.lift composes_harmless (fun _ _ _ h => h.harmless)
    have hcompletes : ServerStep.Completes ⟨w, (.complete n, env), w.after cfg (.complete n) env⟩
        work := ⟨n, rfl, hwork⟩
    rcases List.mem_append.mp hin with hin | hin
    · obtain ⟨rfl, record, verified, key, key', hsnapshot, hbefore, hresult, hnew⟩ :=
        hcommit.verifies hin
      refine ⟨work, record, verified, hcompletes, rfl, hsnapshot, ?_, hresult, ?_⟩
      · show (DeviceDbManager.credential d w.app.store).map Prod.fst = some record
        exact (congrArg (Option.map Prod.fst) hbefore)
      · unfold World.record
        rw [hafter]
        rcases hharmless.1 d with hkept | hgone
        · right
          rw [hkept, hnew]
          rfl
        · left
          rw [hgone]
          rfl
    · exact absurd hin (hharmless.2 hdl d)

/-! ## Runs -/

/-- The salts that are drawn along a path are fresh: no two hashes are the same, and none is stored at
the start. -/
def FreshSalts (w : World) (ts : List ServerStep) : Prop :=
  (ts.filterMap ServerStep.drawn).Nodup ∧
    ∀ record ∈ ts.filterMap ServerStep.drawn, ∀ d : String, w.record d ≠ some record

theorem record_of_credential {w : World} {d : String}
    {c : Option (DevicePasswordRecord × String)} (h : w.credential d = c) :
    w.record d = c.map Prod.fst := by
  rw [World.record, h]

/-- A record that is stored after a step was stored before it, or was drawn in it. -/
theorem record_step {t : ServerStep} {d : String} {record : DevicePasswordRecord}
    (hcases : CredentialStep cfg d t) (hstored : t.after.record d = some record) :
    t.before.record d = some record ∨ t.drawn = some record := by
  cases hcases with
  | kept hkept =>
    rw [record_of_credential hkept] at hstored
    exact .inl hstored
  | deleted hgone =>
    rw [record_of_credential hgone] at hstored
    cases hstored
  | replaced hcompletes hsnapshot hbefore hnew hfrom hkey =>
    rw [record_of_credential hnew] at hstored
    rw [record_of_credential hbefore]
    obtain rfl := Option.some.inj hstored
    rcases hfrom with rfl | hdrawn
    · exact .inl rfl
    · exact .inr hdrawn
  | registered hcompletes hregister hnone hdrawn hnew =>
    rw [record_of_credential hnew] at hstored
    obtain rfl := Option.some.inj hstored
    exact .inr hdrawn

/-- A record that is stored at the end of a path was there at its start, or was drawn in it. -/
theorem record_origin {w w' : World} {ts : List ServerStep}
    (hpath : System.Path (server cfg db assumed) w ts w') {d : String}
    {record : DevicePasswordRecord} (hstored : w'.record d = some record) :
    w.record d = some record ∨ record ∈ ts.filterMap ServerStep.drawn := by
  induction hpath with
  | nil => exact .inl hstored
  | @cons s s' s'' l ts hstep hrest ih =>
    have hmem : ∀ {r : DevicePasswordRecord}, ServerStep.drawn ⟨s, l, s'⟩ = some r ∨
        r ∈ ts.filterMap ServerStep.drawn →
        r ∈ (⟨s, l, s'⟩ :: ts : List ServerStep).filterMap ServerStep.drawn := by
      intro r hr
      rw [List.mem_filterMap]
      rcases hr with hr | hr
      · exact ⟨_, List.mem_cons_self, hr⟩
      · obtain ⟨t, ht, hdrawn⟩ := List.mem_filterMap.mp hr
        exact ⟨t, List.mem_cons_of_mem _ ht, hdrawn⟩
    rcases ih hstored with hthere | hdrawn
    · rcases record_step (credential_step (t := ⟨s, l, s'⟩) hstep d) hthere with hbefore | hdrawn
      · exact .inl hbefore
      · exact .inr (hmem (.inl hdrawn))
    · exact .inr (hmem (.inr hdrawn))

/-- The step replaces the record of the device. -/
def Replaces (d : String) (record : DevicePasswordRecord) (t : ServerStep) : Prop :=
  t.before.record d = some record ∧
    ∃ record' : DevicePasswordRecord, t.after.record d = some record' ∧ record' ≠ record

/-- Two replacements of one record would need the same salt twice: the record was there before the
first one, and again before the second one. -/
theorem replaced_once {w w' : World} {ts ts₁ ts₂ ts₃ : List ServerStep} {t t' : ServerStep}
    (hpath : System.Path (server cfg db assumed) w ts w') (hfresh : FreshSalts w ts)
    (hts : ts = ts₁ ++ t :: ts₂ ++ t' :: ts₃) {d : String} {record : DevicePasswordRecord}
    (hfirst : Replaces d record t) : ¬ Replaces d record t' := by
  rintro ⟨hagain, -⟩
  obtain ⟨hbefore, record', hafter, hne⟩ := hfirst
  subst hts
  obtain ⟨hnodup, hnew⟩ := hfresh
  obtain ⟨hupto, -, -⟩ := hpath.around
  obtain ⟨hearlier, -, hbetween⟩ := hupto.around
  -- it was drawn between the two, for the first one replaced it by another one
  have hdrawn : record ∈ ts₂.filterMap ServerStep.drawn := by
    rcases record_origin hbetween hagain with hthere | hdrawn
    · rw [hafter] at hthere
      exact absurd (Option.some.inj hthere) hne
    · exact hdrawn
  have hmem : record ∈ (ts₁ ++ t :: ts₂ ++ t' :: ts₃).filterMap ServerStep.drawn := by
    obtain ⟨t₂, ht₂, hdraws⟩ := List.mem_filterMap.mp hdrawn
    exact List.mem_filterMap.mpr ⟨t₂, by simp [ht₂], hdraws⟩
  rcases record_origin hearlier hbefore with hthere | hdrawn'
  · exact hnew record hmem d hthere
  · rw [List.append_assoc, List.filterMap_append] at hnodup
    have hlater : record ∈ (t :: ts₂ ++ t' :: ts₃).filterMap ServerStep.drawn := by
      obtain ⟨t₂, ht₂, hdraws⟩ := List.mem_filterMap.mp hdrawn
      exact List.mem_filterMap.mpr ⟨t₂, by simp [ht₂], hdraws⟩
    exact (List.nodup_append.mp hnodup).2.2 record hdrawn' record hlater rfl

/-- A key that is bound is kept while its device is there. -/
theorem key_kept {w w' : World} {ts : List ServerStep}
    (hpath : System.Path (server cfg db assumed) w ts w') {d : String}
    {record : DevicePasswordRecord} {key : String} (hkey : key ≠ "")
    (hbound : w.credential d = some (record, key)) (hpresent : ∀ t ∈ ts, t.after.credential d ≠ none) :
    ∃ record' : DevicePasswordRecord, w'.credential d = some (record', key) := by
  induction hpath generalizing record with
  | nil => exact ⟨record, hbound⟩
  | @cons s s' s'' l ts hstep hrest ih =>
    have hnext : ∃ record' : DevicePasswordRecord, s'.credential d = some (record', key) := by
      cases credential_step (t := ⟨s, l, s'⟩) hstep d with
      | kept hkept => exact ⟨record, hkept.trans hbound⟩
      | deleted hgone => exact absurd hgone (hpresent ⟨s, l, s'⟩ List.mem_cons_self)
      | @replaced work stored record' key₁ key' hcompletes hsnapshot hbefore hafter hfrom hkeys =>
        have hsame : some (stored, key₁) = some (record, key) := hbefore.symm.trans hbound
        cases hsame
        rcases hkeys with rfl | hempty
        · exact ⟨record', hafter⟩
        · exact absurd hempty hkey
      | registered hcompletes hregister hnone =>
        exact absurd (hnone.symm.trans hbound) (by simp)
    obtain ⟨record', hrecord'⟩ := hnext
    exact ih hrecord' (fun t ht => hpresent t (List.mem_cons_of_mem _ ht))

/-- Password computations take effect on the device they were made for, or not at all. -/
structure NothingStale (cfg : Config) (w : World) (ts : List ServerStep) (w' : World) : Prop where
  /-- What a device logs in with only changes by the completion of a computation whose snapshot is the
  stored record. -/
  snapshot_current : ∀ t ∈ ts, ∀ (d : String) (record record' : DevicePasswordRecord)
    (key key' : String), t.before.credential d = some (record, key) →
    t.after.credential d = some (record', key') → (record', key') ≠ (record, key) →
    ∃ work : Dispatched, t.Completes work ∧ work.work.snapshot d = some record
  /-- Of the computations that hold one snapshot at most one replaces it. -/
  replaced_once : FreshSalts w ts → ∀ (d : String) (record : DevicePasswordRecord)
    (ts₁ ts₂ ts₃ : List ServerStep) (t t' : ServerStep), ts = ts₁ ++ t :: ts₂ ++ t' :: ts₃ →
    Replaces d record t → ¬ Replaces d record t'
  /-- An authentication succeeds only with the record that is stored. -/
  verified_current : ∀ t ∈ ts, ∀ (hdl : ConnectionHdl) (d : String),
    .passwordVerified hdl d ∈ t.events cfg → ∃ (work : Dispatched)
      (record verified : DevicePasswordRecord), VerifiedNow cfg t hdl d work record verified
  /-- A device that is not there comes into being by a registration only. -/
  not_recreated : ∀ t ∈ ts, ∀ d : String, t.before.credential d = none →
    t.after.credential d ≠ none → ∃ (work : Dispatched) (kind loginPublicKey : String)
      (finish : FinishLogin), t.Completes work ∧ work.work = .register kind loginPublicKey finish
  /-- A key that is bound stays until its device goes. -/
  key_kept : ∀ (d : String) (record : DevicePasswordRecord) (key : String), key ≠ "" →
    w.credential d = some (record, key) → (∀ t ∈ ts, t.after.credential d ≠ none) →
    ∃ record' : DevicePasswordRecord, w'.credential d = some (record', key)

/-- **Stale credential work never takes effect**, whatever happens in between: on every path of the
server. The salts of new hashes are assumed to be fresh where two replacements are compared. -/
theorem stale_work_takes_no_effect {w w' : World} {ts : List ServerStep}
    (hpath : System.Path (server cfg db assumed) w ts w') : NothingStale cfg w ts w' := by
  have hstep : ∀ t ∈ ts, (server cfg db assumed).step t.before t.label t.after := by
    intro t ht
    obtain ⟨ts₁, ts₂, rfl⟩ := List.append_of_mem ht
    exact hpath.around.2.1
  refine ⟨?_, ?_, ?_, ?_, ?_⟩
  · intro t ht d record record' key key' hbefore hafter hne
    cases credential_step (hstep t ht) d with
    | kept hkept =>
      rw [hafter, hbefore] at hkept
      exact absurd (Option.some.inj hkept) hne
    | deleted hgone =>
      rw [hafter] at hgone
      cases hgone
    | replaced hcompletes hsnapshot hstored =>
      rw [hbefore] at hstored
      cases hstored
      exact ⟨_, hcompletes, hsnapshot⟩
    | registered hcompletes hregister hnone =>
      rw [hbefore] at hnone
      cases hnone
  · exact fun hfresh d record ts₁ ts₂ ts₃ t t' hts => replaced_once hpath hfresh hts
  · exact fun t ht hdl d => verified_step (hstep t ht)
  · intro t ht d hbefore hafter
    cases credential_step (hstep t ht) d with
    | kept hkept => exact absurd (hkept.trans hbefore) hafter
    | deleted hgone => exact absurd hgone hafter
    | replaced hcompletes hsnapshot hstored =>
      rw [hbefore] at hstored
      cases hstored
    | registered hcompletes hregister => exact ⟨_, _, _, _, hcompletes, hregister⟩
  · exact fun d record key hkey hbound hpresent => key_kept hpath hkey hbound hpresent

/-! ## Two logins that race -/

/-- Digests that do not depend on the text. -/
def plainHashing : PasswordHashing where
  argon2id := fun _ _ => none
  sha := ⟨fun _ => zeroDigest, fun _ => by decide⟩

def plainConfig : Config where
  verify := fun _ _ _ _ => true
  hashing := plainHashing

def legacyRecord : DevicePasswordRecord where
  salt := "0123456789abcdef"
  hash := zeroDigest

def migratedRecord (salt : Char) : DevicePasswordRecord where
  salt := String.ofList (List.replicate 32 salt)
  hash := DevicePassword.currentPrefix ++ zeroDigest

/-- A database with one device that was registered long ago. -/
def legacyDevice : DeviceDbManager :=
  { devices := (∅ : OrdMap String DeviceRow).insert "123456789" { password := legacyRecord } }

def legacyLogin : Json := .obj [("type", .str "login"), ("user_id", .str "123456789@secret")]

def racingStart : World := World.after plainConfig { app := { store := legacyDevice } } .restart {}

/-- Two connections log in as the device, and both are given the legacy record. -/
def racingLogins : World :=
  (racingStart.after plainConfig (.message .login 1 legacyLogin) {}).after plainConfig
    (.message .login 2 legacyLogin) {}

/-- The first computation is done, and the record is migrated. -/
def racingFirst : ServerStep where
  before := racingLogins
  label := (.complete 0, { hashed := some (migratedRecord 'a') })
  after := racingLogins.after plainConfig (.complete 0) { hashed := some (migratedRecord 'a') }

/-- Then the second one. -/
def racingSecond : ServerStep where
  before := racingFirst.after
  label := (.complete 0, { hashed := some (migratedRecord 'b') })
  after := racingFirst.after.after plainConfig (.complete 0) { hashed := some (migratedRecord 'b') }

/-- The record of a device is that of a row of the table. -/
theorem record_of_devices {w : World} {id d : String} {row : DeviceRow}
    (hdevices : w.app.store.devices.toList = [(id, row)]) {record : DevicePasswordRecord}
    (hstored : w.record d = some record) : row.password = record := by
  obtain ⟨credential, hcredential, rfl⟩ := Option.map_eq_some_iff.mp hstored
  obtain ⟨stored, hrow, rfl⟩ := Option.map_eq_some_iff.mp hcredential
  have hmem := OrdMap.mem_toList.mpr hrow
  rw [hdevices, List.mem_singleton] at hmem
  rw [(Prod.mk.inj hmem).2]

/-- The two salts are new, and no device has one of them. -/
theorem racing_freshSalts : FreshSalts racingLogins [racingFirst, racingSecond] := by
  have hdevices : racingLogins.app.store.devices.toList =
      [("123456789", { password := legacyRecord })] := by decide +kernel
  refine ⟨by decide, fun record hdrawn d hstored => ?_⟩
  obtain rfl := record_of_devices hdevices hstored
  revert hdrawn
  decide

/-- Of the two logins that hold the legacy record, the first one replaces it, and the second one does
not. -/
theorem stale_work_takes_no_effect_racing :
    Replaces "123456789" legacyRecord racingFirst ∧ ¬ Replaces "123456789" legacyRecord racingSecond ∧
      NothingStale plainConfig racingLogins [racingFirst, racingSecond] racingSecond.after := by
  have hready : ∀ t ∈ [racingFirst, racingSecond], t.before.Ready t.label.1 := by
    intro t ht
    rcases List.mem_pair.mp ht with rfl | rfl
    · exact fun work _ => Finset.notMem_empty work.hdl
    · exact fun work _ => Finset.notMem_empty work.hdl
  have hfirst : Replaces "123456789" legacyRecord racingFirst :=
    ⟨by decide +kernel, migratedRecord 'a', by decide +kernel, by decide⟩
  have hnothing : NothingStale plainConfig racingLogins [racingFirst, racingSecond]
      racingSecond.after := by
    refine @stale_work_takes_no_effect plainConfig legacyDevice (fun _ _ _ => True) _ _ _ ?_
    exact .cons ⟨hready racingFirst (by simp), trivial, rfl⟩
      (.cons ⟨hready racingSecond (by simp), trivial, rfl⟩ .nil)
  exact ⟨hfirst, hnothing.replaced_once racing_freshSalts "123456789" legacyRecord [] [] []
    racingFirst racingSecond rfl hfirst, hnothing⟩

end CrossDesk
