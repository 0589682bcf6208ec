import CrossDesk.Application.Departures
import CrossDesk.Application.PasswordChanges

/-!
# Truthful presence

Every job speaks for one connection at most (`Job.speaksFor`), and that connection is alive, or it is the
one that is cleaned up. So the bindings of all other connections stay, and a connection that was cleaned
up is never bound again.

`Present` holds in every world that the server reaches. What it says of the rows rests on
`SetDeviceOnline` never having failed: `OnLogin` and `OnLogout` do not look at what it returns, and where
the statement fails the row keeps its old flag. The online sets are right even then.
-/

namespace CrossDesk

open Logged DeviceDbManager

/-- The connection that a job speaks for. -/
def Job.speaksFor (s : Application) : Job → Option ConnectionHdl
  | message _ hdl _ => some hdl
  | complete n => (s.pending[n]?).map Dispatched.hdl
  | cleanup hdl => some hdl
  | _ => none

namespace Application

variable {cfg : Config} {env : Env} {s : Application}

/-- **A job tends**, unless it is a restart. -/
theorem program_tends (hcoherent : Coherent s.manager.toRouting) (hlogins : s.DeviceLogins) {job : Job}
    (hjob : job ≠ .restart) {hdl : ConnectionHdl}
    (hspeaks : ∀ k : ConnectionHdl, job.speaksFor s = some k → k = hdl) :
    Tends env hdl s (job.program cfg env s).state := by
  have hsettled : job.isSettled = true → Tends env hdl s (job.program cfg env s).state :=
    fun h => ActsAt.tends cfg (program_acts h s) hdl
  cases job with
  | message kind k request =>
    obtain rfl := hspeaks k rfl
    cases kind with
    | login => exact loginUser_tends hcoherent
    | sessionReport => exact sessionReport_tends cfg request
    | _ => exact hsettled rfl
  | complete n =>
    cases hwork : s.pending[n]? with
    | none =>
      have hnone : Job.program cfg env (.complete n) s = ⟨(), s, []⟩ := by
        simp only [Job.program, takeWork, look_bind, hwork]
        rfl
      rw [hnone]
      exact .refl env hdl s
    | some work =>
      obtain rfl : work.hdl = hdl := hspeaks work.hdl (by rw [Job.speaksFor, hwork]; rfl)
      rw [program_complete hwork]
      have htaken : Act cfg env true s [] { s with pending := s.pending.eraseIdx n } := .taken n
      refine (htaken.tends work.hdl).trans (finishWork_tends hcoherent ?_)
      exact hlogins work (List.mem_of_getElem? hwork)
  | cleanup k =>
    obtain rfl := hspeaks k rfl
    exact cleanup_tends
  | restart => exact (hjob rfl).elim
  | _ => exact hsettled rfl

end Application

section Worlds

open Application

variable {cfg : Config} {env : Env} {db : DeviceDbManager} {assumed : World → Job → Env → Prop}

/-- The labels of a run in which no presence mark failed. -/
def AllMarked (ls : List (Job × Env)) : Prop := ∀ l ∈ ls, l.2.fails .setDeviceOnline = false

theorem World.after_present {marked : Prop} {w : World} (hw : Present marked none w.app)
    (hlogins : w.app.DeviceLogins) (hfails : marked → env.fails .setDeviceOnline = false) (job : Job) :
    Present marked none (w.after cfg job env).app := by
  by_cases hjob : job = .restart
  · subst hjob
    exact boot_present
  · have htends : Tends env ((job.speaksFor w.app).getD 0) w.app (job.program cfg env w.app).state :=
      program_tends hw.coherent hlogins hjob fun k hk => by rw [hk, Option.getD_some]
    exact htends.present marked hfails hw

/-- **What is marked online is what is connected**, after every run. -/
theorem server_present {ls : List (Job × Env)} {w : World} (h : (server cfg db assumed).Run ls w) :
    Present (AllMarked ls) none w.app := by
  refine h.history (P := fun ls w => Present (AllMarked ls) none w.app) ?_ ?_
  · rintro w ⟨env, rfl⟩
    exact boot_present
  · rintro ls w ⟨job, env⟩ w' hrun hw ⟨_, _, rfl⟩
    -- the marks before this job were written, and so are those of this job
    have hearlier : Present (AllMarked (ls ++ [(job, env)])) none w.app :=
      hw.mono fun hmarked l hl => hmarked l (List.mem_append_left _ hl)
    refine World.after_present hearlier (server_deviceLogins hrun.reachable) (fun hmarked => ?_) job
    exact hmarked (job, env) (List.mem_append_right _ (List.mem_singleton_self _))

/-! ## Connections that were cleaned up -/

/-- Nothing names the handle: it is bound to nobody, admitted to no room, and no message goes to it. -/
structure Vacant (hdl : ConnectionHdl) (r : Routing) : Prop where
  unbound : r.wsHdlUserIdList[hdl]? = none
  ungranted : ∀ tx g : String, r.grantOf tx g ≠ some hdl
  unrouted : ∀ u : String, r.getWsHandle u ≠ some hdl
  unaddressed : ∀ u tx : String, r.getWsHandleIn u tx ≠ some hdl

theorem Coherent.vacant {r : Routing} (hr : Coherent r) {hdl : ConnectionHdl}
    (h : r.wsHdlUserIdList[hdl]? = none) : Vacant hdl r where
  unbound := h
  ungranted := by
    intro tx g hgrant
    rw [hr.bound_of_grant tx g hdl hgrant] at h
    cases h
  unrouted := by
    intro u hroute
    rw [hr.bound_of_route u hdl hroute] at h
    cases h
  unaddressed := by
    intro u tx hroute
    rw [hr.bound_of_getWsHandleIn hroute] at h
    cases h

/-- The connections that were cleaned up are dead, and nobody is bound to them. -/
structure World.Cleansed (w : World) : Prop where
  dead : w.cleaned ⊆ w.dead
  unbound : ∀ hdl ∈ w.cleaned, w.app.manager.wsHdlUserIdList[hdl]? = none

/-- A job does not speak for a connection that was cleaned up. -/
theorem World.Cleansed.not_speaks {w : World} (hw : w.Cleansed) {job : Job} (hready : w.Ready job)
    {k : ConnectionHdl} (hspeaks : job.speaksFor w.app = some k) : k ∉ w.cleaned := by
  cases job with
  | message kind hdl request =>
    obtain rfl : hdl = k := Option.some.inj hspeaks
    exact fun hcleaned => hready (hw.dead hcleaned)
  | complete n =>
    obtain ⟨work, hwork, rfl⟩ := Option.map_eq_some_iff.mp hspeaks
    exact fun hcleaned => hready work hwork (hw.dead hcleaned)
  | cleanup hdl =>
    obtain rfl : hdl = k := Option.some.inj hspeaks
    exact hready.2
  | _ => cases hspeaks

theorem World.Cleansed.kept {w : World} (hw : w.Cleansed) (hcoherent : Coherent w.app.manager.toRouting)
    (hlogins : w.app.DeviceLogins) {job : Job} (hready : w.Ready job) (hjob : job ≠ .restart)
    {hdl : ConnectionHdl} (hcleaned : hdl ∈ w.cleaned) :
    (w.after cfg job env).app.manager.wsHdlUserIdList[hdl]? = none := by
  have htends : Tends env ((job.speaksFor w.app).getD (hdl + 1)) w.app
      (job.program cfg env w.app).state :=
    program_tends hcoherent hlogins hjob fun k hk => by rw [hk, Option.getD_some]
  have hother : hdl ≠ (job.speaksFor w.app).getD (hdl + 1) := by
    cases hspeaks : job.speaksFor w.app with
    | none => exact (Nat.succ_ne_self hdl).symm
    | some k =>
      rintro rfl
      exact hw.not_speaks hready hspeaks hcleaned
  exact (htends.others hdl hother).trans (hw.unbound hdl hcleaned)

theorem World.after_cleansed {w : World} (hw : w.Cleansed) (hcoherent : Coherent w.app.manager.toRouting)
    (hlogins : w.app.DeviceLogins) {job : Job} (hready : w.Ready job) (hrunning : env.stopping = false) :
    (w.after cfg job env).Cleansed := by
  have hkept : job ≠ .restart → ∀ hdl ∈ w.cleaned,
      (w.after cfg job env).app.manager.wsHdlUserIdList[hdl]? = none :=
    fun hjob _ hcleaned => hw.kept hcoherent hlogins hready hjob hcleaned
  cases job with
  | restart => exact ⟨Finset.Subset.refl _, fun hdl hcleaned => (Finset.notMem_empty hdl hcleaned).elim⟩
  | cleanup k =>
    refine ⟨Finset.insert_subset hready.1 hw.dead, fun hdl hcleaned => ?_⟩
    rcases Finset.mem_insert.mp hcleaned with rfl | hold
    · show (cleanup env hdl w.app).state.manager.wsHdlUserIdList[hdl]? = none
      rw [cleanup_bindings hrunning]
      exact Std.ExtTreeMap.getElem?_erase_self
    · exact hkept nofun hdl hold
  | die k =>
    exact ⟨hw.dead.trans (Finset.subset_insert k w.dead), hkept nofun⟩
  | _ => exact ⟨hw.dead, hkept nofun⟩

/-- What was cleaned up stays so until the next restart. -/
theorem cleaned_path {w w' : World} {ts : List ServerStep}
    (hpath : System.Path (server cfg db assumed) w ts w') (hsame : ∀ t ∈ ts, t.label.1 ≠ .restart)
    {hdl : ConnectionHdl} (hcleanup : hdl ∈ w.cleaned ∨ ∃ t ∈ ts, t.label.1 = .cleanup hdl) :
    hdl ∈ w'.cleaned := by
  induction hpath with
  | nil =>
    rcases hcleanup with hcleaned | ⟨t, ht, -⟩
    · exact hcleaned
    · cases ht
  | @cons w mid w' l ts hstep _ ih =>
    refine ih (fun t ht => hsame t (List.mem_cons_of_mem _ ht)) ?_
    have hnext := hstep.2.2
    have hjob := hsame ⟨w, l, mid⟩ List.mem_cons_self
    obtain ⟨job, env⟩ := l
    rcases hcleanup with hcleaned | ⟨t, ht, hlabel⟩
    · left
      rw [hnext]
      cases job with
      | restart => exact (hjob rfl).elim
      | cleanup k => exact Finset.mem_insert_of_mem hcleaned
      | _ => exact hcleaned
    · rcases List.mem_cons.mp ht with rfl | ht
      · left
        obtain rfl : job = .cleanup hdl := hlabel
        rw [hnext]
        exact Finset.mem_insert_self hdl w.cleaned
      · exact .inr ⟨t, ht, hlabel⟩

/-- After the run `ls` and the way `ts`: a connection is gone once it was cleaned up, whoever is connected
is in the set of its kind, and where no mark failed it is marked online. -/
structure TruthfulPresence (ls : List (Job × Env)) (ts : List ServerStep) (w : World) : Prop where
  gone : (∀ t ∈ ts, t.label.1 ≠ .restart) → ∀ hdl : ConnectionHdl,
    (∃ t ∈ ts, t.label.1 = .cleanup hdl) → Vacant hdl w.app.manager.toRouting
  online : AllMarked (ls ++ ts.map System.Transition.label) → ∀ u : String,
    w.app.store.online u = true ↔ ∃ hdl : ConnectionHdl, w.app.manager.wsHdlUserIdList[hdl]? = some u
  shown : ∀ u : String, w.app.presence.Shows u
    (∃ hdl : ConnectionHdl, w.app.manager.wsHdlUserIdList[hdl]? = some u)

/-- **No zombie sessions, and truthful presence**: while the server is not stopping, after every run and
after every further way from there. -/
theorem presence_truthful
    (hassumed : ∀ (w : World) (job : Job) (env : Env), assumed w job env → env.stopping = false)
    {w w' : World} {ls : List (Job × Env)} {ts : List ServerStep}
    (hrun : (server cfg db assumed).Run ls w)
    (hpath : System.Path (server cfg db assumed) w ts w') : TruthfulPresence ls ts w' := by
  have hrun' := hpath.run hrun
  have hpresent := server_present hrun'
  have hcleansed : w'.Cleansed := by
    refine hrun'.history (P := fun _ w => World.Cleansed w) ?_ ?_
    · rintro w ⟨env, rfl⟩
      exact ⟨Finset.Subset.refl _, fun hdl hcleaned => (Finset.notMem_empty hdl hcleaned).elim⟩
    · rintro ls w ⟨job, env⟩ w' hrun hw ⟨hready, hknown, rfl⟩
      exact World.after_cleansed hw (server_coherent hrun.reachable)
        (server_deviceLogins hrun.reachable) hready (hassumed _ _ _ hknown)
  refine ⟨fun hsame hdl hcleanup => ?_, fun hmarked u => ?_, fun u => ?_⟩
  · exact hpresent.coherent.vacant (hcleansed.unbound hdl (cleaned_path hpath hsame (.inr hcleanup)))
  · rw [hpresent.online hmarked u nofun]
    exact OrdMap.hasValue_iff
  · have hshown := hpresent.shown u nofun
    rwa [show (w'.app.manager.hasUserConnection u = true) = _ from propext OrdMap.hasValue_iff] at hshown

/-! ## An alias that comes and goes -/

/-- What is known of every job: the server is not stopping. -/
def isRunning (_ : World) (_ : Job) (env : Env) : Prop := env.stopping = false

/-- The alias logs in, its connection dies, and is cleaned up. -/
def aliasVisit : List (Job × Env) :=
  [(.message .login 1 aliasLogin, {}), (.die 1, {}), (.cleanup 1, {})]

theorem presence_truthful_alias :
    (stepsOf plainConfig emptyServer aliasVisit).map
        (fun t => (t.after.app.store.online "C-123456789", t.after.app.manager.getUserId 1)) =
      [(true, "C-123456789"), (true, "C-123456789"), (false, "")] ∧
      TruthfulPresence [] (stepsOf plainConfig emptyServer aliasVisit)
        (worldAfter plainConfig emptyServer aliasVisit) := by
  have hrun : (server plainConfig {} isRunning).Run [] emptyServer := .start ⟨{}, rfl⟩
  refine ⟨by decide +kernel, presence_truthful (fun _ _ _ h => h) hrun ?_⟩
  refine .cons ⟨Finset.notMem_empty 1, rfl, rfl⟩ (.cons ⟨trivial, rfl, rfl⟩ ?_)
  exact .cons ⟨⟨Finset.mem_insert_self 1 ∅, Finset.notMem_empty 1⟩, rfl, rfl⟩ .nil

/-- A mark that could not be written: the alias is connected and is not marked online. -/
theorem unmarked_after_failure : ∃ w : World,
    (server plainConfig {} isRunning).Reachable w ∧
      w.app.manager.wsHdlUserIdList[(1 : ConnectionHdl)]? = some "C-123456789" ∧
      w.app.store.online "C-123456789" = false := by
  have hreach : (server plainConfig {} isRunning).Reachable emptyServer := ⟨[], .start ⟨{}, rfl⟩⟩
  let env : Env := { fails := fun call => call == .setDeviceOnline }
  have hlogin : (server plainConfig {} isRunning).step emptyServer
      (.message .login 1 aliasLogin, env)
      (emptyServer.after plainConfig (.message .login 1 aliasLogin) env) :=
    ⟨Finset.notMem_empty 1, rfl, rfl⟩
  exact ⟨_, hreach.step hlogin, by decide +kernel, by decide +kernel⟩

end Worlds

end CrossDesk
