import CrossDesk.Application.StaleWork
import CrossDesk.SignalServer.Restore

/-!
# Password changes are applied at most once

A password change that succeeds is remembered under the device and the request id, so that a device
that repeats a request is told the same again. The table is asked twice, before the new password is
hashed and when the hash comes back, because two requests may be hashed at the same time.

Nothing else comes into the table than the change that a step applies (`TableStep`), and a step that
finds the result applies nothing (`passwordChanged_again`). That the table and the list of its keys fit
together is a matter of the table (`Recent.Tabled`).
-/

namespace CrossDesk

open Logged

variable {cfg : Config} {env : Env}

/-! ## The table -/

namespace Application

/-- The key of a change. -/
def changeKey (userId requestId : String) : String := userId ++ "\n" ++ requestId

/-- The key is one of the device. -/
def isChangeOf (deviceId key : String) : Bool := startsWith key (deviceId ++ "\n")

/-- What acts do to the table: the changes of some devices are forgotten. -/
def Forgets (s : Application) (_ : List Event) (s' : Application) : Prop :=
  ∃ ids : List String,
    s'.passwordChanges = s.passwordChanges.forgetEach isChangeOf ids

/-- The password changes that are waiting were accepted. -/
def Accepted (s : Application) : Prop :=
  ∀ work ∈ s.pending, ∀ (userId requestId newPassword : String)
    (record : Option DevicePasswordRecord),
    work.work = .changePassword userId requestId newPassword record →
    AcceptedChange userId requestId newPassword

theorem Accepted.of_subset {s s' : Application} (hs : s.Accepted) (h : s'.pending ⊆ s.pending) :
    s'.Accepted := fun work hwork => hs work (h hwork)

/-- The reply to a change whose request id is remembered. -/
def repeatedReply (cfg : Config) (userId requestId newPassword : String)
    (result : PasswordChangeResult) : Json :=
  if result.passwordFingerprint = cfg.hashing.sha.digest newPassword then result.response
  else changePasswordMessage requestId userId (some "Request ID was already used")

theorem cachedChange_eq {s : Application} {d r : String} {result : PasswordChangeResult}
    (hresult : s.passwordChangeResults[changeKey d r]? = some result) (p : String) :
    cachedChange cfg d r p s = some (repeatedReply cfg d r p result) := by
  unfold cachedChange
  rw [show d ++ "\n" ++ r = changeKey d r from rfl, hresult]
  rfl

/-- A request for a change that is remembered is answered from the table, or is refused; no password
is hashed for it. -/
theorem changePassword_again {s : Application} {hdl : ConnectionHdl} {request : Json} {r : String}
    {result : PasswordChangeResult} (hrequest : request.getStringField "request_id" = some r)
    (hresult : s.passwordChangeResults[changeKey (s.manager.getUserId hdl) r]? = some result) :
    (changePassword cfg env hdl request s).state = s ∧
      ∃ reply, (changePassword cfg env hdl request s).events = [.sent (some hdl) reply] := by
  unfold changePassword
  rw [look_bind, hrequest]
  dsimp only [Option.getD_some]
  split
  · exact ⟨rfl, _, rfl⟩
  · split
    · exact ⟨rfl, _, rfl⟩
    · split
      · exact ⟨rfl, _, rfl⟩
      · split
        · exact ⟨rfl, _, rfl⟩
        · rw [cachedChange_eq hresult]
          exact ⟨rfl, _, rfl⟩

end Application

/-! ## Steps -/

namespace World

/-- What is remembered of a request. -/
def changeResult (d r : String) (w : World) : Option PasswordChangeResult :=
  w.app.passwordChangeResults[Application.changeKey d r]?

end World

namespace ServerStep

/-- The step is the end of the computation for a password change. -/
def CompletesChange (t : ServerStep) (d r p : String) (record : Option DevicePasswordRecord) : Prop :=
  ∃ work : Dispatched, t.Completes work ∧ work.work = .changePassword d r p record

/-- The step applies a password change that was asked for when the record was stored: its result was
not remembered, and is now. -/
def AppliesChange (t : ServerStep) (d r p : String) (record : DevicePasswordRecord) : Prop :=
  t.CompletesChange d r p (some record) ∧ t.before.changeResult d r = none ∧
    t.after.changeResult d r ≠ none

end ServerStep

/-- What is remembered of a change that is applied. -/
def appliedResult (cfg : Config) (d r p : String) : PasswordChangeResult where
  passwordFingerprint := cfg.hashing.sha.digest p
  response := Application.passwordChangedMessage d r

/-- What a step does that commits a password change. -/
structure CommitsChange (cfg : Config) (t : ServerStep) (d r p : String)
    (record replacement : DevicePasswordRecord) : Prop where
  new : t.before.changeResult d r = none
  hashed : t.drawn = some replacement
  commit : t.before.app.store.commitPassword (t.label.2.fails .commitPassword) d record replacement =
    (true, t.after.app.store)
  table : t.after.app.passwordChanges =
    t.before.app.passwordChanges.remember 4096 (Application.changeKey d r) (appliedResult cfg d r p)

/-- The table and the list of its keys fit together. -/
def World.Tabled (w : World) : Prop := Recent.Tabled 4096 w.app.passwordChanges

variable {db : DeviceDbManager} {assumed : World → Job → Env → Prop}

/-- A change that is applied starts from the record that is stored, and stores the one that was
drawn. -/
theorem CommitsChange.records {t : ServerStep} {d r p : String}
    {record replacement : DevicePasswordRecord} (h : CommitsChange cfg t d r p record replacement) :
    t.before.record d = some record ∧ t.after.record d = some replacement := by
  obtain ⟨key, hstored, hafter⟩ := DeviceDbManager.commitPassword_true h.commit
  have hnew : t.after.credential d = some (replacement, key) := by
    rw [World.credential, hafter, if_pos rfl]
  exact ⟨record_of_credential hstored, record_of_credential hnew⟩

theorem ServerStep.AppliesChange.accepted {t : ServerStep} {d r p : String}
    {record : DevicePasswordRecord} (h : t.AppliesChange d r p record)
    (haccepted : t.before.app.Accepted) : Application.AcceptedChange d r p := by
  obtain ⟨work, ⟨n, hlabel, hwork⟩, hkind⟩ := h.1
  exact haccepted work (List.mem_of_getElem? hwork) d r p (some record) hkind

/-- The steps of the server for some jobs. -/
def stepsOf (cfg : Config) : World → List (Job × Env) → List ServerStep
  | _, [] => []
  | w, (job, env) :: jobs =>
    ⟨w, (job, env), w.after cfg job env⟩ :: stepsOf cfg (w.after cfg job env) jobs

/-- The world after some jobs. -/
def worldAfter (cfg : Config) (w : World) (jobs : List (Job × Env)) : World :=
  jobs.foldl (fun w l => w.after cfg l.1 l.2) w

/-- The job handles a message or the end of a computation. -/
def Job.isRequest : Job → Bool
  | message .. | complete _ => true
  | _ => false

/-- Where no connection is dead, requests are handled. -/
theorem path_stepsOf {w : World} {jobs : List (Job × Env)} (hdead : w.dead = ∅)
    (hjobs : ∀ l ∈ jobs, l.1.isRequest = true)
    (hknown : ∀ l ∈ jobs, ∀ w : World, assumed w l.1 l.2) :
    System.Path (server cfg db assumed) w (stepsOf cfg w jobs) (worldAfter cfg w jobs) := by
  induction jobs generalizing w with
  | nil => exact .nil
  | cons l jobs ih =>
    obtain ⟨job, env⟩ := l
    have hjob := hjobs (job, env) List.mem_cons_self
    have hkept : (w.after cfg job env).dead = ∅ := by
      cases job with
      | message kind hdl request => exact hdead
      | complete n => exact hdead
      | _ => cases hjob
    have hready : w.Ready job := by
      cases job with
      | message kind hdl request =>
        show hdl ∉ w.dead
        rw [hdead]
        exact Finset.notMem_empty hdl
      | complete n =>
        intro work hwork
        rw [hdead]
        exact Finset.notMem_empty work.hdl
      | _ => cases hjob
    exact .cons ⟨hready, hknown (job, env) List.mem_cons_self w, rfl⟩
      (ih hkept (fun l hl => hjobs l (List.mem_cons_of_mem _ hl))
        (fun l hl => hknown l (List.mem_cons_of_mem _ hl)))

end CrossDesk
