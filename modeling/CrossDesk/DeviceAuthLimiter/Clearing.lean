import CrossDesk.JsonText
import CrossDesk.DeviceAuthLimiter.Calls

/-!
# Clearing while verifications run

`ClearMatching` erases the buckets it matches, except those that a verification holds: these are
emptied in place, and their generation moves on. A verification remembers the generation it found, so
when it fails it can tell whether its bucket was cleared under it.

What makes this work is that a held bucket is never erased, so its generation only grows while it is
held: a running verification is either `Fresh` (no clear since it was admitted) or `Stale` for good.
-/

namespace CrossDesk.DeviceAuthLimiter

/-! ## Small facts about a bucket -/

theorem record_generation (policy : Policy) (f : Failures) (limit : Nat) (now : TimePoint)
    (operation : Operation) : (record policy f limit now operation).generation = f.generation := by
  unfold record
  grind

/-- A bucket without failures has nothing else to forget. -/
def Blank (f : Failures) : Prop :=
  f.count = 0 → f.blockedUntil = 0 ∧ f.backoff = 0 ∧ f.operations = 0

/-- What a bucket remembers of failures. A bucket that is not there remembers none. -/
structure Tally where
  count : Nat := 0
  blockedUntil : TimePoint := 0
  backoff : Nat := 0
  operations : Nat := 0
  deriving DecidableEq, Repr

def Failures.tally (f : Failures) : Tally := ⟨f.count, f.blockedUntil, f.backoff, f.operations⟩

def tallyOf (b : Option Failures) : Tally := (b.map Failures.tally).getD {}

@[simp] theorem tally_setPending (f : Failures) (p : Nat) : (f.setPending p).tally = f.tally := rfl

theorem blank_resetExpired {f : Failures} (h : Blank f) (now : TimePoint) :
    Blank (resetExpired f now) := by
  unfold resetExpired
  split
  · exact h
  · exact fun _ => ⟨rfl, rfl, rfl⟩

/-- Dropping an empty bucket forgets nothing. -/
theorem tallyOf_filter {f : Failures} (h : Blank f) :
    tallyOf ((some f).filter (fun f => !(f.count == 0 && f.pending == 0))) = f.tally := by
  rw [filter_some_bucket]
  by_cases hempty : f.count = 0 ∧ f.pending = 0
  · obtain ⟨hblocked, hbackoff, hoperations⟩ := h hempty.1
    rw [if_pos hempty]
    show (⟨0, 0, 0, 0⟩ : Tally) = ⟨f.count, f.blockedUntil, f.backoff, f.operations⟩
    rw [hempty.1, hblocked, hbackoff, hoperations]
  · rw [if_neg hempty]
    rfl

namespace Effect

variable {limit : Nat} {policy : Policy} {clearing : Prop} {now : TimePoint}
  {events : List BucketEvent}

/-- Buckets without failures stay without anything else. -/
theorem blank {b b' : Option Failures} (h : Effect limit policy clearing now b events b')
    (hlimit : 1 ≤ limit) (hblank : ∀ f ∈ b, Blank f) : ∀ f' ∈ b', Blank f' := by
  intro f' hf'
  cases h with
  | idle => exact hblank f' hf'
  | pruned => cases hf'
  | reopened =>
    cases hf'
    exact fun _ => ⟨rfl, rfl, rfl⟩
  | opened =>
    cases hf'
    exact fun _ => ⟨rfl, rfl, rfl⟩
  | refreshed p =>
    cases hf'
    exact blank_resetExpired (hblank _ rfl) now
  | released => cases hf'
  | @charged f p operation hopen =>
    cases hf'
    intro hzero
    have hpos := record_count_pos policy (resetExpired f now) now operation hlimit
    rw [setPending_count] at hzero
    omega
  | cleared =>
    cases hf'
    intro _
    simp [resetExpired]
  | erased => cases hf'

/-- The generation of a held bucket changes with a clear only. -/
theorem generation {f f' : Failures} (h : Effect limit policy clearing now (some f) events (some f'))
    (hheld : 1 ≤ f.pending) :
    f.generation ≤ f'.generation ∧ (¬ clearing → f'.generation = f.generation) := by
  have hsame : ∀ {g : Nat}, g = f.generation → f.generation ≤ g ∧ (¬ clearing → g = f.generation) :=
    fun hg => ⟨hg.ge, fun _ => hg⟩
  cases h with
  | idle => exact hsame rfl
  | reopened _ hfree => omega
  | refreshed p =>
    refine hsame ?_
    rw [setPending_generation, resetExpired_generation]
  | charged p operation hopen =>
    refine hsame ?_
    rw [setPending_generation, record_generation, resetExpired_generation]
  | cleared hclear =>
    refine ⟨?_, fun hnot => absurd hclear hnot⟩
    rw [resetExpired_generation]
    exact Nat.le_succ _

end Effect

/-- Without a recorded failure there is no cooldown where there was none. -/
theorem Effect.unblocked {limit : Nat} {policy : Policy} {clearing : Prop} {now : TimePoint}
    {events : List BucketEvent} {b b' : Option Failures}
    (h : Effect limit policy clearing now b events b') (hrecords : .recorded ∉ events)
    (hopen : ∀ f ∈ b, f.blockedUntil = 0) : ∀ f' ∈ b', f'.blockedUntil = 0 := by
  intro f' hf'
  cases h with
  | idle => exact hopen f' hf'
  | pruned => cases hf'
  | reopened =>
    cases hf'
    rfl
  | opened =>
    cases hf'
    rfl
  | @refreshed f p =>
    cases hf'
    rw [setPending_blockedUntil]
    unfold resetExpired
    split
    · exact hopen f rfl
    · rfl
  | released => cases hf'
  | charged =>
    refine absurd (List.mem_append_right _ ?_) hrecords
    unfold recordEvents
    split <;> simp
  | cleared =>
    cases hf'
    simp [resetExpired]
  | erased => cases hf'

/-! ## The generation of a running verification -/

/-- The reservation of an admitted request has the generations of its buckets. -/
theorem reserve_generation {now : TimePoint} {source target : String} {operation : Operation}
    {s s' : DeviceAuthLimiter} {r : Reservation}
    (h : reserve now source target operation s = (.reserved r, s')) (d : Dimension) {f : Failures}
    (hf : (s'.buckets d)[r.key d]? = some f) : r.generation d = f.generation := by
  rw [reserve_eq] at h
  split at h
  · cases h
  · split at h
    · cases h
    · obtain ⟨hr, hs⟩ := Prod.mk.inj h
      obtain ⟨rfl⟩ := Admission.reserved.inj hr
      subst hs
      cases d with
      | source =>
        show generationAt (reserveState now source target s true).sources _ = _
        unfold generationAt
        rw [show (reserveState now source target s true).sources[keyOf source target .source]? =
          some f from hf]
        rfl
      | target =>
        show generationAt (reserveState now source target s true).targets _ = _
        unfold generationAt
        rw [show (reserveState now source target s true).targets[target]? = some f from hf]
        rfl

namespace Ongoing

/-- The bucket was cleared since the verification was admitted. -/
def Stale (s : Ongoing) (d : Dimension) (id : Nat) : Prop :=
  ∀ (r : Reservation) (f : Failures), (id, r) ∈ s.running → s.bucket d (r.key d) = some f →
    r.generation d < f.generation

/-- It was not. -/
def Fresh (s : Ongoing) (d : Dimension) (id : Nat) : Prop :=
  ∀ (r : Reservation) (f : Failures), (id, r) ∈ s.running → s.bucket d (r.key d) = some f →
    r.generation d = f.generation

section Steps

variable {s s' : Ongoing} {call : Call}

/-- A running verification was running before, or has just been admitted. -/
theorem Steps.running (h : Steps s call s') {id : Nat} {r : Reservation}
    (hr : (id, r) ∈ s'.running) : (id, r) ∈ s.running ∨ id ∉ s.issued := by
  cases h with
  | refuse => exact .inl hr
  | accept hclock hfresh hadmitted =>
    rcases List.mem_cons.mp hr with heq | hr
    · cases heq
      exact .inr hfresh
    · exact .inl hr
  | finish => exact .inl (List.mem_of_mem_erase hr)
  | clear => exact .inl hr
  | read => exact .inl hr

/-- Numbers are only ever added. -/
theorem Steps.issued (h : Steps s call s') {id : Nat} (hid : id ∈ s.issued) : id ∈ s'.issued := by
  cases h with
  | accept => exact List.mem_cons_of_mem _ hid
  | _ => exact hid

/-- The generation of the bucket of a running verification. -/
theorem Steps.generation (hs : system.Reachable s) (h : Steps s call s') {id : Nat} {r : Reservation}
    (hr : (id, r) ∈ s.running) (d : Dimension) {f' : Failures}
    (hf' : s'.bucket d (r.key d) = some f') :
    ∃ f : Failures, s.bucket d (r.key d) = some f ∧ f.generation ≤ f'.generation ∧
      (¬ call.clears d (r.key d) → f'.generation = f.generation) := by
  obtain ⟨f, hf, hheld, _⟩ := held hs hr d
  obtain ⟨events, heffect, _⟩ := h.effect hs d (r.key d)
  rw [hf, hf'] at heffect
  exact ⟨f, hf, heffect.generation hheld⟩

/-- Once stale, always stale. -/
theorem Stale.step {d : Dimension} {id : Nat} (hs : system.Reachable s) (h : s.Stale d id)
    (hid : id ∈ s.issued) (hstep : Steps s call s') : s'.Stale d id := by
  intro r f' hr hf'
  rcases hstep.running hr with hr | hnew
  · obtain ⟨f, hf, hle, _⟩ := hstep.generation hs hr d hf'
    exact (h r f hr hf).trans_le hle
  · exact absurd hid hnew

/-- A verification is fresh until a clear of its bucket. -/
theorem Fresh.step {d : Dimension} {id : Nat} (hs : system.Reachable s) (h : s.Fresh d id)
    (hid : id ∈ s.issued) (hstep : Steps s call s')
    (hclear : ∀ r, (id, r) ∈ s.running → ¬ call.clears d (r.key d)) : s'.Fresh d id := by
  intro r f' hr hf'
  rcases hstep.running hr with hr | hnew
  · obtain ⟨f, hf, _, hsame⟩ := hstep.generation hs hr d hf'
    exact (h r f hr hf).trans (hsame (hclear r hr)).symm
  · exact absurd hid hnew

/-- The end of a verification settles its buckets and no others. -/
theorem Steps.finished {id : Nat} {authenticated : Bool} {finished : TimePoint}
    (h : Steps s (.finish id authenticated finished) s') :
    ∃ r, (id, r) ∈ s.running ∧ s'.running = s.running.erase (id, r) ∧ ∀ d, ∃ f : Failures,
      s.bucket d (r.key d) = some f ∧ ∀ key, s'.bucket d key =
        if key = r.key d then
          (some (settle s.limiter.policy authenticated r.operation finished (s.limiter.limit d)
            (r.generation d) f)).filter (fun f => !(f.count == 0 && f.pending == 0))
        else s.bucket d key := by
  cases h with
  | finish hclock hrunning hfinished =>
    exact ⟨_, hrunning, rfl, fun d => (finish_cases hfinished d).2⟩

/-- An admitted verification takes the generation of its bucket. -/
theorem Steps.accepted {id : Nat} {now : TimePoint} {source target : String}
    {operation : Operation} (hs : system.Reachable s)
    (h : Steps s (.verify id now source target operation none) s') :
    id ∈ s'.issued ∧ ∃ r, (id, r) ∈ s'.running ∧ r.operation = operation ∧
      ∀ d, r.key d = keyOf source target d ∧ s'.Fresh d id := by
  cases h with
  | @accept _ _ _ _ _ r limiter hclock hfresh hadmitted =>
    refine ⟨List.mem_cons_self, r, List.mem_cons_self, ?_, fun d => ⟨?_, ?_⟩⟩
    · rw [reserve_eq] at hadmitted
      split at hadmitted
      · cases hadmitted
      · split at hadmitted
        · cases hadmitted
        · obtain ⟨hr, _⟩ := Prod.mk.inj hadmitted
          obtain ⟨rfl⟩ := Admission.reserved.inj hr
          rfl
    · rcases reserve_cases now source target operation s.limiter with
        ⟨_, hrefused, _⟩ | ⟨r', hr', hbuckets⟩
      · rw [hadmitted] at hrefused
        cases hrefused
      · rw [hadmitted] at hr'
        cases hr'
        exact (hbuckets d).2.2.1
    · intro r' f hr' hf
      rcases List.mem_cons.mp hr' with heq | hold
      · cases heq
        exact reserve_generation hadmitted d hf
      · exact absurd ((named hs).2 _ hold) hfresh

/-- A running verification never has a later generation than its bucket. -/
theorem generation_le (hs : system.Reachable s) {id : Nat} {r : Reservation}
    (hr : (id, r) ∈ s.running) (d : Dimension) {f : Failures}
    (hf : s.bucket d (r.key d) = some f) : r.generation d ≤ f.generation := by
  obtain ⟨labels, hrun⟩ := hs
  refine hrun.history (P := fun _ s => ∀ (id : Nat) (r : Reservation) (f : Failures),
    (id, r) ∈ s.running → s.bucket d (r.key d) = some f → r.generation d ≤ f.generation)
    ?_ ?_ id r f hr hf
  · rintro s ⟨_, _, _, _, _, rfl⟩ id r f hr
    cases hr
  · intro labels s call s' hrun ih hstep id r f' hr hf'
    rcases hstep.running hr with hold | hnew
    · obtain ⟨f, hf, hle, _⟩ := hstep.generation hrun.reachable hold d hf'
      exact (ih id r f hold hf).trans hle
    · -- it has just been admitted
      cases hstep with
      | accept hclock hfresh hadmitted =>
        rcases List.mem_cons.mp hr with heq | hold
        · cases heq
          exact (reserve_generation hadmitted d hf').le
        · exact absurd ((named hrun.reachable).2 _ hold) hnew
      | refuse => exact absurd ((named hrun.reachable).2 _ hr) hnew
      | finish => exact absurd ((named hrun.reachable).2 _ (List.mem_of_mem_erase hr)) hnew
      | clear => exact absurd ((named hrun.reachable).2 _ hr) hnew
      | read => exact absurd ((named hrun.reachable).2 _ hr) hnew

/-- A clear makes the verifications that hold a matching bucket stale. -/
theorem Steps.cleared {matchesKey : Bool → String → Bool} {now : Bool → String → TimePoint}
    {done : TimePoint} (hs : system.Reachable s) (h : Steps s (.clear matchesKey now done) s')
    {id : Nat} {r : Reservation} (hr : (id, r) ∈ s.running) {d : Dimension}
    (hmatch : matchesKey d.isSource (r.key d) = true) : s'.Stale d id := by
  cases h with
  | clear hclock hnow =>
    intro r' f' hr' hf'
    have hsame : r' = r :=
      congrArg Prod.snd (List.inj_on_of_nodup_map (named hs).1 hr' hr rfl)
    subst hsame
    obtain ⟨f, hf, hheld, _⟩ := held hs hr d
    have hle := generation_le hs hr d hf
    have hafter : ((clearMatching matchesKey now s.limiter).buckets d)[r'.key d]? = some f' := hf'
    rw [getElem?_clearMatching, show (s.limiter.buckets d)[r'.key d]? = some f from hf,
      Option.bind_some, if_neg (by simp [hmatch]), if_neg (by omega)] at hafter
    cases hafter
    rw [resetExpired_generation]
    exact Nat.lt_succ_of_le hle

/-- What a clear leaves of a bucket. -/
theorem Steps.clear_bucket {matchesKey : Bool → String → Bool} {now : Bool → String → TimePoint}
    {done : TimePoint} (h : Steps s (.clear matchesKey now done) s') (d : Dimension) (key : String) :
    (matchesKey d.isSource key = false → s'.bucket d key = s.bucket d key) ∧
      (matchesKey d.isSource key = true → tallyOf (s'.bucket d key) = {}) := by
  cases h with
  | clear hclock hnow =>
    have hafter : ((clearMatching matchesKey now s.limiter).buckets d)[key]? = _ :=
      getElem?_clearMatching matchesKey now s.limiter d key
    refine ⟨fun hmatch => ?_, fun hmatch => ?_⟩
    · show ((clearMatching matchesKey now s.limiter).buckets d)[key]? = (s.limiter.buckets d)[key]?
      rw [hafter]
      cases (s.limiter.buckets d)[key]? with
      | none => rfl
      | some f => simp [hmatch]
    · show tallyOf ((clearMatching matchesKey now s.limiter).buckets d)[key]? = {}
      rw [hafter]
      cases (s.limiter.buckets d)[key]? with
      | none => rfl
      | some f =>
        rw [Option.bind_some, if_neg (by simp [hmatch])]
        split
        · rfl
        · simp [tallyOf, Failures.tally, resetExpired]

/-- Every bucket without failures has nothing else to forget. -/
theorem blank (hs : system.Reachable s) {d : Dimension} {key : String} {f : Failures}
    (hf : s.bucket d key = some f) : Blank f := by
  obtain ⟨labels, hrun⟩ := hs
  refine hrun.history (P := fun _ s => ∀ f ∈ s.bucket d key, Blank f) ?_ ?_ f hf
  · rintro s ⟨sourceLimit, targetLimit, policy, _, _, rfl⟩ f hf
    cases d <;> cases hf
  · intro labels s call s' hrun ih hstep
    obtain ⟨events, heffect, _⟩ := hstep.effect hrun.reachable d key
    exact heffect.blank (limit_pos hrun.reachable d) ih

end Steps

/-! ## Over a run -/

section Paths

variable {s s' : Ongoing} {ts : List (System.Transition Ongoing Call)}

/-- A verification that runs at the end of a path and had its number at the start ran all along. -/
theorem running_back (h : System.Path system s ts s') {id : Nat} {r : Reservation}
    (hid : id ∈ s.issued) (hr : (id, r) ∈ s'.running) : (id, r) ∈ s.running := by
  induction h with
  | nil => exact hr
  | cons hstep _ ih =>
    rcases hstep.running (ih (hstep.issued hid) hr) with hold | hnew
    · exact hold
    · exact absurd hid hnew

theorem issued_kept (h : System.Path system s ts s') {id : Nat} (hid : id ∈ s.issued) :
    id ∈ s'.issued :=
  h.keeps (I := fun s => id ∈ s.issued) (P := fun _ => True)
    (fun _ hid hstep _ => Steps.issued hstep hid) hid (fun _ _ => trivial)

theorem stale_kept (h : System.Path system s ts s') (hs : system.Reachable s) {d : Dimension}
    {id : Nat} (hid : id ∈ s.issued) (hstale : s.Stale d id) : s'.Stale d id := by
  refine (h.keeps (I := fun s => system.Reachable s ∧ id ∈ s.issued ∧ s.Stale d id)
    (P := fun _ => True) ?_ ⟨hs, hid, hstale⟩ (fun _ _ => trivial)).2.2
  rintro t ⟨hreach, hid, hstale⟩ hstep _
  exact ⟨hreach.step hstep, Steps.issued hstep hid, hstale.step hreach hid hstep⟩

end Paths

end Ongoing

/-! ## The administrator's clear -/

section RiskControl

variable (floatText : ℚ → String)

/-- The key of a source: `json::array({scope, source}).dump()`. -/
def sourceKeyOf (scope source : String) : String :=
  (Json.arr [.str scope, .str source]).dump floatText

/-- The key of a source and a device: the same array, with the device added. -/
def pairKeyOf (scope source device : String) : String :=
  (Json.arr [.str scope, .str source, .str device]).dump floatText

/-- What `HandleRiskControl` uses of the outside: the JSON parser, the address parser (which gives
the normal form of an address) and the outcome of `DeleteRiskRule`. -/
structure RiskEnv where
  parse : String → Option Json
  makeAddress : String → Option String
  deleteRiskRule : String → String → Bool

/-- The buckets of a source: its own, and those of its pairs. -/
def clearsSource (env : RiskEnv) (scope target : String) (isSource : Bool) (key : String) : Bool :=
  if isSource then key == sourceKeyOf floatText scope target
  else
    match env.parse key with
    | some (.arr [first, second, _]) => first.text == some scope && second.text == some target
    | _ => false

inductive RiskAnswer where
  | ok (target : String)
  | invalidRiskTarget
  | riskUnavailable
  deriving DecidableEq, Repr

/-- The clear of a whole source, in the branch for controllers and addresses. -/
def clearSource (env : RiskEnv) (scope target : String) (now : Bool → String → TimePoint)
    (s : DeviceAuthLimiter) : RiskAnswer × DeviceAuthLimiter :=
  if !env.deleteRiskRule scope target then (.riskUnavailable, s)
  else (.ok target, clearMatching (clearsSource floatText env scope target) now s)

/-- The longest target in bytes. -/
def riskTargetSize (scope : String) : Nat := if scope = "pair" then 2048 else 128

/-- The action `clear` of `HandleRiskControl`. -/
def handleRiskClear (env : RiskEnv) (scope target : String) (now : Bool → String → TimePoint)
    (s : DeviceAuthLimiter) : RiskAnswer × DeviceAuthLimiter :=
  if (scope ≠ "controller" ∧ scope ≠ "ip" ∧ scope ≠ "pair") ∨ target = "" ∨
      target.utf8ByteSize > riskTargetSize scope ∨ '\x00' ∈ target.toList then
    (.invalidRiskTarget, s)
  else if scope = "ip" ∧ target ≠ "unknown" then
    match env.makeAddress target with
    | none => (.invalidRiskTarget, s)
    | some address => clearSource floatText env scope address now s
  else if scope = "pair" then
    match env.parse target with
    | some (.arr [.str kind, .str source, .str device]) =>
      if kind = "controller" ∨ kind = "ip" then
        (.ok (pairKeyOf floatText kind source device),
          clear false (pairKeyOf floatText kind source device) now s)
      else (.invalidRiskTarget, s)
    | _ => (.invalidRiskTarget, s)
  else clearSource floatText env scope target now s

/-- A clear that succeeded on a source cleared its buckets. -/
theorem handleRiskClear_ok {env : RiskEnv} {scope target target' : String}
    {now : Bool → String → TimePoint} {s s' : DeviceAuthLimiter} (hscope : scope ≠ "pair")
    (h : handleRiskClear floatText env scope target now s = (.ok target', s')) :
    s' = clearMatching (clearsSource floatText env scope target') now s := by
  have hsource : ∀ target, clearSource floatText env scope target now s = (.ok target', s') →
      s' = clearMatching (clearsSource floatText env scope target') now s := by
    intro target hclear
    unfold clearSource at hclear
    split at hclear
    · cases hclear
    · cases hclear
      rfl
  unfold handleRiskClear at h
  split at h
  · cases h
  · split at h
    · cases haddress : env.makeAddress target with
      | none =>
        rw [haddress] at h
        cases h
      | some address =>
        rw [haddress] at h
        exact hsource address h
    · exact hsource target h

/-- Clearing a source matches its key and the keys of its pairs. -/
theorem clearsSource_matches {env : RiskEnv}
    (hparse : ∀ texts : List String, env.parse ((Json.arr (texts.map .str)).dump floatText) =
      some (.arr (texts.map .str)))
    (scope source device : String) :
    clearsSource floatText env scope source true (sourceKeyOf floatText scope source) = true ∧
      clearsSource floatText env scope source false (pairKeyOf floatText scope source device) =
        true := by
  refine ⟨by simp [clearsSource], ?_⟩
  have hpair := hparse [scope, source, device]
  unfold clearsSource pairKeyOf
  rw [if_neg Bool.false_ne_true]
  simp only [List.map_cons, List.map_nil] at hpair
  rw [hpair]
  simp [Json.text]

end RiskControl

/-! ## What a clear means for running verifications -/

/-- No verification started after the clear `t` has failed on the bucket. -/
def NoLaterFailure (t : System.Transition Ongoing Call)
    (later : List (System.Transition Ongoing Call)) (d : Dimension) (key : String) : Prop :=
  ∀ u ∈ later, ∀ (id : Nat) (finished : TimePoint) (r : Reservation),
    u.label = .finish id false finished → (id, r) ∈ u.before.running → r.key d = key →
    id ∈ t.before.issued

/-- Clears and running verifications, over a run. -/
structure ClearsHold (ts : List (System.Transition Ongoing Call)) : Prop where
  /-- A bucket that does not match is not changed; one that matches forgets its failures. -/
  matching : ∀ t ∈ ts, ∀ matchesKey now done, t.label = .clear matchesKey now done → ∀ d key,
    (matchesKey d.isSource key = false → t.after.bucket d key = t.before.bucket d key) ∧
      (matchesKey d.isSource key = true → tallyOf (t.after.bucket d key) = {})
  /-- Reservations count until their verification finishes. -/
  pending : ∀ t ∈ ts, ∀ d key,
    ((t.after.bucket d key).map Failures.pending).getD 0 = t.after.holders d key
  /-- A verification that was running at the clear holds its place until it finishes. Its failure
  leaves a live bucket all that it remembers, and an expired one reset as by anyone else. -/
  stale : ∀ (before between later : List (System.Transition Ongoing Call))
    (t t' : System.Transition Ongoing Call) (id : Nat) (r : Reservation) (d : Dimension)
    (finished : TimePoint), ts = before ++ t :: (between ++ t' :: later) →
    t.label.clears d (r.key d) → (id, r) ∈ t.before.running →
    t'.label = .finish id false finished →
    (∀ u ∈ between, (id, r) ∈ u.after.running) ∧ ∃ f, t'.before.bucket d (r.key d) = some f ∧
      (finished < f.expires → tallyOf (t'.after.bucket d (r.key d)) = f.tally) ∧
      (f.expires ≤ finished → tallyOf (t'.after.bucket d (r.key d)) = {})
  /-- The failure of a verification whose bucket was not cleared since it started is recorded. -/
  recorded : ∀ (before between later : List (System.Transition Ongoing Call))
    (t t' : System.Transition Ongoing Call) (id : Nat) (now finished : TimePoint)
    (source target : String) (operation : Operation) (d : Dimension),
    ts = before ++ t :: (between ++ t' :: later) →
    t.label = .verify id now source target operation none →
    t'.label = .finish id false finished →
    (∀ u ∈ between, ¬ u.label.clears d (keyOf source target d)) →
    ∃ f, t'.before.bucket d (keyOf source target d) = some f ∧
      t'.after.bucket d (keyOf source target d) =
        some ((record t'.before.limiter.policy (resetExpired f finished)
          (t'.before.limiter.limit d) finished operation).setPending (f.pending - 1))
  /-- After the administrator cleared a source, neither it nor a pair of it cools down before a
  verification that started later fails. -/
  released : ∀ (floatText : ℚ → String) (env : RiskEnv), (∀ texts : List String,
      env.parse ((Json.arr (texts.map .str)).dump floatText) = some (.arr (texts.map .str))) →
    ∀ (before later : List (System.Transition Ongoing Call)) (t : System.Transition Ongoing Call)
      (s : Ongoing) (scope target target' device : String) (now : Bool → String → TimePoint)
      (done : TimePoint), ts = before ++ t :: later → scope ≠ "pair" →
    handleRiskClear floatText env scope target now t.before.limiter = (.ok target', t.after.limiter) →
    t.label = .clear (clearsSource floatText env scope target') now done →
    System.Path Ongoing.system t.after later s →
    NoLaterFailure t later .source (sourceKeyOf floatText scope target') →
    NoLaterFailure t later .target (pairKeyOf floatText scope target' device) →
    ∀ time, cooldownRemaining time (sourceKeyOf floatText scope target')
      (pairKeyOf floatText scope target' device) s.limiter = 0

/-- The key of a source is not empty, so it stands for itself. -/
theorem keyOf_sourceKeyOf (floatText : ℚ → String) (scope source target : String) :
    keyOf (sourceKeyOf floatText scope source) target .source =
      sourceKeyOf floatText scope source := by
  refine if_neg (fun hempty => ?_)
  have hchars := congrArg String.toList hempty
  simp [sourceKeyOf, Json.dump, Json.dumpChars] at hchars

section Proofs

open Ongoing

variable {s s' : Ongoing}

/-- The failure of a stale verification leaves what a success would leave. -/
theorem settle_stale {policy : Policy} {operation : Operation} {finished : TimePoint}
    {limit generation : Nat} {f : Failures} (hstale : generation < f.generation) :
    settle policy false operation finished limit generation f =
      (resetExpired f finished).setPending (f.pending - 1) := by
  have hne : (f.generation == generation) = false := beq_false_of_ne (Nat.ne_of_gt hstale)
  rw [settle_eq, hne]
  rfl

/-- The failure of a fresh one is recorded, and keeps the bucket. -/
theorem settle_fresh {policy : Policy} {operation : Operation} {finished : TimePoint}
    {limit generation : Nat} {f : Failures} (hlimit : 1 ≤ limit)
    (hfresh : generation = f.generation) :
    (some (settle policy false operation finished limit generation f)).filter
        (fun f => !(f.count == 0 && f.pending == 0)) =
      some ((record policy (resetExpired f finished) limit finished operation).setPending
        (f.pending - 1)) := by
  have hcount := record_count_pos policy (resetExpired f finished) finished operation hlimit
  rw [settle_eq, hfresh, beq_self_eq_true, filter_some_bucket]
  exact if_neg (fun hempty => Nat.ne_of_gt hcount hempty.1)

/-- While only verifications from before the clear fail, a cleared bucket does not cool down. -/
theorem unblocked_after_clear {t : System.Transition Ongoing Call}
    {later : List (System.Transition Ongoing Call)} {matchesKey : Bool → String → Bool}
    {now : Bool → String → TimePoint} {done : TimePoint} (hs : system.Reachable t.before)
    (hstep : Steps t.before t.label t.after) (hlabel : t.label = .clear matchesKey now done)
    (h : System.Path system t.after later s) {d : Dimension} {key : String}
    (hmatch : matchesKey d.isSource key = true) (hlater : NoLaterFailure t later d key) :
    ∀ f ∈ s.bucket d key, f.blockedUntil = 0 := by
  rw [hlabel] at hstep
  -- The invariant: no cooldown, and whoever ran at the clear holds a stale generation.
  refine (h.keeps (I := fun s => system.Reachable s ∧
      (∀ f ∈ s.bucket d key, f.blockedUntil = 0) ∧
      ∀ id ∈ t.before.issued, id ∈ s.issued ∧
        ∀ r, (id, r) ∈ s.running → r.key d = key → s.Stale d id)
    (P := fun u => ∀ (id : Nat) (finished : TimePoint) (r : Reservation),
      u.label = Call.finish id false finished → (id, r) ∈ u.before.running → r.key d = key →
      id ∈ t.before.issued) ?_ ⟨hs.step hstep, ?_, ?_⟩ hlater).2.1
  · rintro u ⟨hreach, hopen, hold⟩ hu hfails
    refine ⟨hreach.step hu, ?_, ?_⟩
    · by_cases hfailing : ∃ id finished, u.label = .finish id false finished
      · -- a failure: of another bucket, or a stale one
        obtain ⟨id, finished, hfinish⟩ := hfailing
        have hstep' : Steps u.before (.finish id false finished) u.after := by
          rw [← hfinish]
          exact hu
        obtain ⟨r, hr, _, hbuckets⟩ := hstep'.finished
        obtain ⟨f, hf, hafter⟩ := hbuckets d
        intro f' hf'
        rw [hafter] at hf'
        split at hf'
        · rename_i hkey
          have hstale := (hold id (hfails id finished r hfinish hr hkey.symm)).2 r hr hkey.symm r f
            hr hf
          rw [settle_stale hstale] at hf'
          have heq := (Option.filter_eq_some_iff.mp hf').1
          cases heq
          have hzero := hopen f (hkey ▸ hf)
          rw [setPending_blockedUntil]
          unfold resetExpired
          split
          · exact hzero
          · rfl
        · exact hopen f' hf'
      · obtain ⟨events, heffect, hrecorded⟩ := Steps.effect hreach hu d key
        exact heffect.unblocked (fun hmem => hfailing (hrecorded hmem)) hopen
    · intro id hid
      obtain ⟨hissued, hstale⟩ := hold id hid
      refine ⟨Steps.issued hu hissued, fun r hr hkey => ?_⟩
      rcases Steps.running hu hr with hrunning | hnew
      · exact (hstale r hrunning hkey).step hreach hissued hu
      · exact absurd hissued hnew
  · intro f hf
    have htally := (hstep.clear_bucket d key).2 hmatch
    rw [hf] at htally
    exact congrArg Tally.blockedUntil htally
  · intro id hid
    refine ⟨hstep.issued hid, fun r hr hkey => ?_⟩
    rcases hstep.running hr with hrunning | hnew
    · exact hstep.cleared hs hrunning (hkey ▸ hmatch)
    · exact absurd hid hnew

/-- **A clear cannot be undone by what is already running.** -/
theorem clears_hold {s₀ s : Ongoing} {ts : List (System.Transition Ongoing Call)}
    (hstart : system.start s₀) (h : System.Path system s₀ ts s) : ClearsHold ts := by
  have hreach₀ : system.Reachable s₀ := ⟨[], .start hstart⟩
  have haround : ∀ t ∈ ts, system.Reachable t.before ∧ Steps t.before t.label t.after := by
    intro t ht
    obtain ⟨before, later, rfl⟩ := List.append_of_mem ht
    obtain ⟨hfirst, hstep, _⟩ := h.around
    exact ⟨hfirst.reachable hreach₀, hstep⟩
  refine ⟨?_, ?_, ?_, ?_, ?_⟩
  · intro t ht matchesKey now done hlabel d key
    have hstep := (haround t ht).2
    rw [hlabel] at hstep
    exact hstep.clear_bucket d key
  · intro t ht d key
    exact pending_eq ((haround t ht).1.step (haround t ht).2) d key
  · rintro before between later t t' id r d finished rfl hclears hr hlabel'
    obtain ⟨hfirst, hstep, hrest⟩ := h.around
    obtain ⟨hmiddle, hstep', _⟩ := hrest.around
    have hs := hfirst.reachable hreach₀
    have hid : id ∈ t.before.issued := (named hs).2 _ hr
    have hid' : id ∈ t.after.issued := Steps.issued hstep hid
    have hs' : system.Reachable t.after := hs.step hstep
    have hs'' := hmiddle.reachable hs'
    rw [hlabel'] at hstep'
    obtain ⟨r', hr', _, hbuckets⟩ := Steps.finished hstep'
    -- it is the same verification
    have hback := running_back hmiddle hid' hr'
    have hsame : r' = r := by
      rcases Steps.running hstep hback with hold | hnew
      · exact congrArg Prod.snd (List.inj_on_of_nodup_map (named hs).1 hold hr rfl)
      · exact absurd hid hnew
    subst hsame
    refine ⟨?_, ?_⟩
    · intro u hu
      obtain ⟨first, last, rfl⟩ := List.append_of_mem hu
      obtain ⟨hto, hu', hfrom⟩ := hmiddle.around
      exact running_back hfrom (Steps.issued hu' (issued_kept hto hid')) hr'
    · obtain ⟨f, hf, hafter⟩ := hbuckets d
      have hstale : t.after.Stale d id := by
        cases hlabel : t.label with
        | clear matchesKey now done =>
          rw [hlabel] at hstep hclears
          exact Steps.cleared hs hstep hr hclears
        | verify =>
          rw [hlabel] at hclears
          exact hclears.elim
        | finish =>
          rw [hlabel] at hclears
          exact hclears.elim
        | read =>
          rw [hlabel] at hclears
          exact hclears.elim
      have hlt := stale_kept hmiddle hs' hid' hstale r' f hr' hf
      have htally : tallyOf (t'.after.bucket d (r'.key d)) = (resetExpired f finished).tally := by
        rw [hafter, if_pos rfl, settle_stale hlt]
        have hblank : Blank ((resetExpired f finished).setPending (f.pending - 1)) :=
          blank_resetExpired (blank hs'' hf) finished
        rw [tallyOf_filter hblank, tally_setPending]
      refine ⟨f, hf, fun hlive => ?_, fun hexpired => ?_⟩
      · rw [htally]
        unfold resetExpired
        rw [if_pos hlive]
      · rw [htally]
        unfold resetExpired
        rw [if_neg (Nat.not_lt.mpr hexpired)]
        rfl
  · rintro before between later t t' id now finished source target operation d rfl hlabel hlabel'
      hclear
    obtain ⟨hfirst, hstep, hrest⟩ := h.around
    obtain ⟨hmiddle, hstep', _⟩ := hrest.around
    have hs := hfirst.reachable hreach₀
    have hs' : system.Reachable t.after := hs.step hstep
    rw [hlabel] at hstep
    obtain ⟨hid, r, hr, hoperation, hkeys⟩ := Steps.accepted hs hstep
    have hfresh : system.Reachable t'.before ∧ id ∈ t'.before.issued ∧
        (∀ r', (id, r') ∈ t'.before.running → r' = r) ∧ t'.before.Fresh d id := by
      refine hmiddle.keeps (I := fun s => system.Reachable s ∧ id ∈ s.issued ∧
        (∀ r', (id, r') ∈ s.running → r' = r) ∧ s.Fresh d id)
        (P := fun u => ¬ u.label.clears d (keyOf source target d)) ?_
        ⟨hs', hid, ?_, (hkeys d).2⟩ hclear
      · rintro u ⟨hreach, hid, hsame, hfresh⟩ hu hnot
        refine ⟨hreach.step hu, Steps.issued hu hid, ?_, hfresh.step hreach hid hu ?_⟩
        · intro r' hr'
          rcases Steps.running hu hr' with hold | hnew
          · exact hsame r' hold
          · exact absurd hid hnew
        · intro r' hr'
          rw [hsame r' hr', (hkeys d).1]
          exact hnot
      · exact fun r' hr' =>
          congrArg Prod.snd (List.inj_on_of_nodup_map (named hs').1 hr' hr rfl)
    obtain ⟨hs'', _, hsame, hfresh⟩ := hfresh
    rw [hlabel'] at hstep'
    obtain ⟨r', hr', _, hbuckets⟩ := Steps.finished hstep'
    have hrr := hsame r' hr'
    subst hrr
    obtain ⟨f, hf, hafter⟩ := hbuckets d
    have hgeneration := hfresh r' f hr' hf
    rw [(hkeys d).1] at hf hafter
    refine ⟨f, hf, ?_⟩
    rw [hafter, if_pos rfl, settle_fresh (limit_pos hs'' d) hgeneration, hoperation]
  · intro floatText env hparse before later t s scope target target' device now done hts _ _ hlabel
      hpath hsource htarget time
    have ht : t ∈ ts := hts ▸ List.mem_append_right before List.mem_cons_self
    obtain ⟨hs, hstep⟩ := haround t ht
    obtain ⟨hmatch, hmatch'⟩ := clearsSource_matches floatText hparse scope target' device
    have hopen := unblocked_after_clear hs hstep hlabel hpath (d := .source) hmatch hsource
    have hopen' := unblocked_after_clear hs hstep hlabel hpath (d := .target) hmatch' htarget
    have hzero : ∀ b : Option Failures, (∀ f ∈ b, f.blockedUntil = 0) → cooldownOf time b = 0 := by
      intro b hb
      cases b with
      | none => rfl
      | some f =>
        show remainingSeconds f.blockedUntil time = 0
        rw [hb f rfl]
        exact if_neg (Nat.not_lt_zero time)
    rw [cooldownRemaining_eq, keyOf_sourceKeyOf]
    exact Nat.max_eq_zero_iff.mpr ⟨hzero _ hopen, hzero _ hopen'⟩

/-! ## Two runs -/

/-- A parser that knows the arrays of texts. -/
noncomputable def textsParser (floatText : ℚ → String) (key : String) : Option Json :=
  open Classical in
  if h : ∃ texts : List String, key = (Json.arr (texts.map .str)).dump floatText then
    some (.arr (h.choose.map .str))
  else none

theorem textsParser_dump (floatText : ℚ → String) (texts : List String) :
    textsParser floatText ((Json.arr (texts.map .str)).dump floatText) =
      some (.arr (texts.map .str)) := by
  have hwhole : ∀ texts : List String, (Json.arr (texts.map .str)).isWhole = true := by
    intro texts
    show Json.areWhole (texts.map .str) = true
    induction texts with
    | nil => rfl
    | cons text texts ih => simpa [Json.areWhole, Json.isWhole] using ih
  have hexists : ∃ texts' : List String, (Json.arr (texts.map .str)).dump floatText =
      (Json.arr (texts'.map .str)).dump floatText := ⟨texts, rfl⟩
  unfold textsParser
  rw [dif_pos hexists]
  exact congrArg some
    (Json.dump_inj floatText (hwhole texts) (hwhole hexists.choose) hexists.choose_spec).symm

/-- An address fails a guess at a limit of one, but the administrator has cleared it meanwhile. -/
theorem clears_hold_address : ∃ s₀ ts s, system.start s₀ ∧ System.Path system s₀ ts s ∧
    ClearsHold ts ∧ s.issued ≠ [] ∧ s.running = [] ∧
    ∀ time device, cooldownRemaining time (sourceKeyOf (fun _ => "") "ip" "10.0.0.1")
      (pairKeyOf (fun _ => "") "ip" "10.0.0.1" device) s.limiter = 0 := by
  let floatText : ℚ → String := fun _ => ""
  let source := sourceKeyOf floatText "ip" "10.0.0.1"
  let pair := pairKeyOf floatText "ip" "10.0.0.1" "123456789"
  let env : RiskEnv :=
    { parse := textsParser floatText, makeAddress := some, deleteRiskRule := fun _ _ => true }
  let s₀ : Ongoing := { limiter := { sourceFailureLimit := 1, targetFailureLimit := 1 } }
  have hstart : system.start s₀ := ⟨1, 1, .fixed, le_rfl, le_rfl, rfl⟩
  have hplay : (System.play attempt s₀ [.verify 0 0 source pair .deviceLogin]).any
      (fun way => decide (way.2.running.map Prod.fst = [0]) && decide (way.2.clock = 0)) = true := by
    decide +kernel
  obtain ⟨ts, s₁, hfirst, htest⟩ := System.exists_path_of_play attempt_steps hplay
  simp only [Bool.and_eq_true, decide_eq_true_eq] at htest
  obtain ⟨hnames, hclock⟩ := htest
  have hone : (s₁.running.map Prod.fst).length = 1 := congrArg List.length hnames
  rw [List.length_map] at hone
  obtain ⟨⟨id, r⟩, hrunning⟩ := List.length_eq_one_iff.mp hone
  have hs₁ : system.Reachable s₁ := hfirst.reachable ⟨[], .start hstart⟩
  -- The clear comes while the verification runs, and the failure after the clear.
  have hclear : Steps s₁ (.clear (clearsSource floatText env "ip" "10.0.0.1")
      (fun _ _ => seconds 1) (seconds 1)) _ :=
    .clear (hclock ▸ Nat.zero_le _) (fun _ _ => ⟨hclock ▸ Nat.zero_le _, le_rfl⟩)
  have hs₂ := hs₁.step hclear
  have hstill : (id, r) ∈ s₁.running := hrunning ▸ List.mem_cons_self
  obtain ⟨s₃, hfinish⟩ := finishes hs₂ hstill false
    (show seconds 1 ≤ seconds 2 by decide)
  obtain ⟨r', hr', hleft, _⟩ := hfinish.finished
  have hpath := hfirst.append (.cons hclear (.cons hfinish .nil))
  have hissued : id ∈ s₁.issued := (named hs₁).2 _ hstill
  have hholds := clears_hold hstart hpath
  refine ⟨s₀, _, s₃, hstart, hpath, hholds, ?_, ?_, fun time device => ?_⟩
  · exact List.ne_nil_of_mem (hfinish.issued (hclear.issued hissued))
  · rw [hleft]
    have hsame : (id, r') = (id, r) := List.mem_singleton.mp (hrunning ▸ hr')
    rw [hsame]
    show s₁.running.erase (id, r) = []
    rw [hrunning]
    simp
  · refine hholds.released floatText env (textsParser_dump floatText) ts _ _ s₃ "ip" "10.0.0.1"
      "10.0.0.1" device (fun _ _ => seconds 1) (seconds 1) rfl (by decide) ?_ rfl
      (.cons hfinish .nil) ?_ ?_ time
    · show handleRiskClear floatText env "ip" "10.0.0.1" _ s₁.limiter = _
      unfold handleRiskClear
      rw [if_neg (by decide), if_pos (by decide)]
      rfl
    · intro u hu id' finished r'' hlabel _ _
      cases List.mem_singleton.mp hu
      cases hlabel
      exact hissued
    · intro u hu id' finished r'' hlabel _ _
      cases List.mem_singleton.mp hu
      cases hlabel
      exact hissued

/-- The last step takes away the failure that the third step counted, for a verification that was running
at the clear. -/
def takesLaterFailure : List (System.Transition Ongoing Call) → Bool
  | [_, t, _, _, t'] =>
    (match t.label with
      | .clear matchesKey _ _ => matchesKey false "pair"
      | _ => false) &&
    (t.before.running.any (fun call => call.1 == 0 && call.2.key .target == "pair")) &&
    (match t'.label with
      | .finish 0 false _ => true
      | _ => false) &&
    decide ((tallyOf (t'.before.bucket .target "pair")).count = 1) &&
    decide ((tallyOf (t'.after.bucket .target "pair")).count = 0)
  | _ => false

/-- A verification from before the clear finishes when the window that a later failure is counted in
has run out, and takes that failure away. -/
theorem stale_failure_resets : ∃ s₀ ts s, system.start s₀ ∧ System.Path system s₀ ts s ∧
    ∃ before between later t t' id r finished, ts = before ++ t :: (between ++ t' :: later) ∧
      t.label.clears .target "pair" ∧ (id, r) ∈ t.before.running ∧ r.key .target = "pair" ∧
      t'.label = .finish id false finished ∧
      (tallyOf (t'.before.bucket .target "pair")).count = 1 ∧
      (tallyOf (t'.after.bucket .target "pair")).count = 0 := by
  let s₀ : Ongoing := { limiter := {} }
  have hstart : system.start s₀ :=
    ⟨kSourceFailures, kTargetFailures, .fixed, by decide, by decide, rfl⟩
  have hplay : (System.play attempt s₀
      [.verify 0 0 "10.0.0.1" "pair" .deviceLogin, .clear (fun _ _ => true) (seconds 1),
        .verify 1 (seconds 2) "10.0.0.1" "pair" .deviceLogin, .finish 1 false (seconds 3),
        .finish 0 false (seconds 1000)]).any (fun way => takesLaterFailure way.1) = true := by
    decide +kernel
  obtain ⟨ts, s, hpath, htest⟩ := System.exists_path_of_play attempt_steps hplay
  unfold takesLaterFailure at htest
  split at htest
  · rename_i a t b c t' hts
    obtain rfl : ts = [a, t, b, c, t'] := hts
    simp only [Bool.and_eq_true, List.any_eq_true, decide_eq_true_eq] at htest
    obtain ⟨⟨⟨⟨hclear, ⟨⟨id, r⟩, hr, hid⟩⟩, hfinish⟩, hcount⟩, hcount'⟩ := htest
    simp only [beq_iff_eq] at hid
    obtain ⟨rfl, hkey⟩ := hid
    have hclears : t.label.clears .target "pair" := by
      split at hclear
      · rename_i hlabel
        rw [hlabel]
        exact hclear
      · cases hclear
    obtain ⟨finished, hlabel⟩ : ∃ finished, t'.label = .finish 0 false finished := by
      split at hfinish
      · rename_i finished hlabel
        exact ⟨finished, hlabel⟩
      · cases hfinish
    exact ⟨s₀, _, s, hstart, hpath, [a], [b, c], [], t, t', 0, r, finished, rfl, hclears, hr, hkey,
      hlabel, hcount, hcount'⟩
  · cases htest

end Proofs

end CrossDesk.DeviceAuthLimiter
