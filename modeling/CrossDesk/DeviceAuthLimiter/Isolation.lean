import CrossDesk.DeviceAuthLimiter.Clearing

/-!
# Budgets do not leak

Two runs of the limiter, seen from one source and one target. Calls of others change the maps too:
they trigger the cleanup, which may take an expired bucket of ours away at one time in one run and at
another in the other. `Alike` says what of this can be noticed: nothing, since an expired bucket and
no bucket give the same answers — but for one thing. A refused request *renews* an expired bucket that
is still there, which starts a window, and does nothing where the cleanup was faster. So two runs are
the same to us when they show us the same calls with the same outcomes, and refused requests renew the
same buckets (`shown`).
-/

namespace CrossDesk.DeviceAuthLimiter

/-! ## What is seen of a run -/

/-- What a source and a target see of a call. A clear shows when it acted on either. -/
inductive Seen where
  | verify (id : Nat) (now : TimePoint) (source target : String) (operation : Operation)
      (refused : Bool)
  | finish (id : Nat) (authenticated : Bool) (finished : TimePoint)
  | clear (onSource onTarget : Option TimePoint)
  deriving DecidableEq, Repr

/-- When a clear acted on a bucket, if it matched. -/
def clearedAt (matching : Bool) (now : TimePoint) : Option TimePoint :=
  if matching then some now else none

theorem clearedAt_inj {matching matching' : Bool} {now now' : TimePoint}
    (h : clearedAt matching now = clearedAt matching' now') :
    matching = matching' ∧ (matching = true → now = now') := by
  unfold clearedAt at h
  cases matching <;> cases matching' <;> simp_all

namespace Ongoing

abbrev Transition := System.Transition Ongoing Call

section Seen

variable (source target : String)

/-- The verification holds the bucket of the source or of the target. -/
def touches (r : Reservation) : Bool :=
  r.sourceKey == keyOf source target .source || r.target == target

/-- The calls that touch the source or the target. -/
def seen (t : Transition) : Option Seen :=
  match t.label with
  | .verify id now source' target' operation refused =>
    if keyOf source' target' .source = keyOf source target .source ∨ target' = target then
      some (.verify id now source' target' operation refused.isSome)
    else none
  | .finish id authenticated finished =>
    if t.before.running.any (fun call => call.1 == id && touches source target call.2) then
      some (.finish id authenticated finished)
    else none
  | .clear matchesKey now _ =>
    let onSource := clearedAt (matchesKey true (keyOf source target .source))
      (now true (keyOf source target .source))
    let onTarget := clearedAt (matchesKey false target) (now false target)
    if onSource.isNone && onTarget.isNone then none else some (.clear onSource onTarget)
  | .read _ => none

/-- A refused request renews the window of a bucket that has run out and is still there. -/
def renews (t : Transition) (d : Dimension) : Bool :=
  match t.label with
  | .verify _ now source' target' _ (some _) =>
    decide (keyOf source' target' d = keyOf source target d) &&
      (prunedBucket (now ≥ t.before.limiter.nextCleanup) now
        (t.before.bucket d (keyOf source target d))).any (fun f => decide (f.expires ≤ now))
  | _ => false

/-- What is seen, with the windows that refused requests renew. -/
def shown (t : Transition) : Option (Seen × Bool × Bool) :=
  (seen source target t).map
    (fun view => (view, renews source target t .source, renews source target t .target))

end Seen

end Ongoing

/-- A view comes from a call of its kind. -/
theorem Ongoing.seen_eq_some {source target : String} {t : Ongoing.Transition} {view : Seen}
    (h : Ongoing.seen source target t = some view) :
    match view with
    | .verify id now source' target' operation refused =>
      ∃ delay, t.label = .verify id now source' target' operation delay ∧ delay.isSome = refused
    | .finish id authenticated finished => t.label = .finish id authenticated finished ∧
      ∃ r, (id, r) ∈ t.before.running ∧ Ongoing.touches source target r = true
    | .clear onSource onTarget => ∃ matchesKey now done, t.label = .clear matchesKey now done ∧
      onSource = clearedAt (matchesKey true (keyOf source target .source))
        (now true (keyOf source target .source)) ∧
      onTarget = clearedAt (matchesKey false target) (now false target) := by
  unfold Ongoing.seen at h
  cases hlabel : t.label with
  | verify id now source' target' operation refused =>
    rw [hlabel] at h
    dsimp only at h
    split at h
    · cases h
      exact ⟨refused, rfl, rfl⟩
    · cases h
  | finish id authenticated finished =>
    rw [hlabel] at h
    dsimp only at h
    split at h
    · rename_i hany
      cases h
      obtain ⟨⟨id', r⟩, hr, hours⟩ := List.any_eq_true.mp hany
      simp only [Bool.and_eq_true, beq_iff_eq] at hours
      obtain ⟨rfl, htouch⟩ := hours
      exact ⟨rfl, r, hr, htouch⟩
    · cases h
  | clear matchesKey now done =>
    rw [hlabel] at h
    dsimp only at h
    split at h
    · cases h
    · cases h
      exact ⟨matchesKey, now, done, rfl, rfl, rfl⟩
  | read now =>
    rw [hlabel] at h
    cases h

/-! ## Buckets that cannot be told apart -/

/-- The same bucket of another generation. -/
def Failures.setGeneration (f : Failures) (n : Nat) : Failures := { f with generation := n }

section SetGeneration

variable (f : Failures) (n : Nat)

@[simp] theorem setGeneration_count : (f.setGeneration n).count = f.count := rfl
@[simp] theorem setGeneration_pending : (f.setGeneration n).pending = f.pending := rfl
@[simp] theorem setGeneration_expires : (f.setGeneration n).expires = f.expires := rfl
@[simp] theorem setGeneration_blockedUntil : (f.setGeneration n).blockedUntil = f.blockedUntil := rfl
@[simp] theorem setGeneration_generation : (f.setGeneration n).generation = n := rfl
@[simp] theorem setGeneration_operations : (f.setGeneration n).operations = f.operations := rfl

/-- Neither refreshing nor recording looks at the generation. -/
theorem resetExpired_setGeneration (now : TimePoint) :
    resetExpired (f.setGeneration n) now = (resetExpired f now).setGeneration n := by
  unfold resetExpired Failures.setGeneration
  split <;> rfl

theorem record_setGeneration (policy : Policy) (limit : Nat) (now : TimePoint)
    (operation : Operation) :
    record policy (f.setGeneration n) limit now operation =
      (record policy f limit now operation).setGeneration n := by
  unfold record Failures.setGeneration
  grind

end SetGeneration

/-- Two buckets that differ in the generation only, or one that has expired where the other is gone. -/
def SameBucket (clock : TimePoint) : Option Failures → Option Failures → Prop
  | some f, some g => ∃ n, g = f.setGeneration n
  | some f, none => f.pending = 0 ∧ f.expires ≤ clock
  | none, some g => g.pending = 0 ∧ g.expires ≤ clock
  | none, none => True

namespace SameBucket

variable {clock now : TimePoint} {b b' : Option Failures}

theorem symm (h : SameBucket clock b b') : SameBucket clock b' b := by
  cases b with
  | none => cases b' <;> exact h
  | some f =>
    cases b' with
    | none => exact h
    | some g =>
      obtain ⟨n, rfl⟩ := h
      exact ⟨f.generation, rfl⟩

theorem later (h : SameBucket clock b b') (hle : clock ≤ now) : SameBucket now b b' := by
  cases b with
  | none =>
    cases b' with
    | none => exact h
    | some g => exact ⟨h.1, h.2.trans hle⟩
  | some f =>
    cases b' with
    | none => exact ⟨h.1, h.2.trans hle⟩
    | some g => exact h

/-- An expired bucket that nobody holds may go. -/
theorem gone {f : Failures} (h : SameBucket clock (some f) b') (hfree : f.pending = 0)
    (hexpired : f.expires ≤ clock) : SameBucket clock none b' := by
  cases b' with
  | none => trivial
  | some g =>
    obtain ⟨n, rfl⟩ := h
    exact ⟨hfree, hexpired⟩

/-- The cleanup in one run is not noticed. -/
theorem pruned_left (h : SameBucket now b b') (due : Prop) [Decidable due] :
    SameBucket now (prunedBucket due now b) b' := by
  cases b with
  | none =>
    rw [prunedBucket_none]
    exact h
  | some f =>
    rcases prunedBucket_cases due now f with ⟨hgone, hpruned⟩ | ⟨_, hpruned⟩
    · rw [hpruned]
      exact h.gone hgone.2.2 hgone.2.1
    · rw [hpruned]
      exact h

theorem pruned (h : SameBucket now b b') (due due' : Prop) [Decidable due] [Decidable due'] :
    SameBucket now (prunedBucket due now b) (prunedBucket due' now b') :=
  ((h.pruned_left due).symm.pruned_left due').symm

/-- An expired bucket that is renewed is as good as a new one. -/
theorem renewed {f : Failures} (hfree : f.pending = 0) (hexpired : f.expires ≤ now) :
    (resetExpired f now).setPending (f.pending + 1) = (opened now).setGeneration f.generation := by
  unfold resetExpired
  rw [if_neg (Nat.not_lt.mpr hexpired), hfree]
  rfl

/-- Admission takes a place in either. -/
theorem admitted (h : SameBucket now b b') :
    SameBucket now (askedBucket now true b) (askedBucket now true b') := by
  have hopened : askedBucket now true none = some (opened now) := rfl
  cases b with
  | none =>
    cases b' with
    | none => exact ⟨0, rfl⟩
    | some g =>
      rw [hopened, askedBucket_some, if_pos rfl, renewed h.1 h.2]
      exact ⟨g.generation, rfl⟩
  | some f =>
    cases b' with
    | none =>
      rw [hopened, askedBucket_some, if_pos rfl, renewed h.1 h.2]
      exact ⟨(opened now).generation, rfl⟩
    | some g =>
      obtain ⟨n, rfl⟩ := h
      rw [askedBucket_some, askedBucket_some, resetExpired_setGeneration]
      exact ⟨n, rfl⟩

/-- A refusal renews both or neither. -/
theorem refused (h : SameBucket now b b')
    (hrenews : b.any (fun f => decide (f.expires ≤ now)) =
      b'.any (fun f => decide (f.expires ≤ now))) :
    SameBucket now (askedBucket now false b) (askedBucket now false b') := by
  cases b with
  | none =>
    cases b' with
    | none => exact h
    | some g => simp [h.2] at hrenews
  | some f =>
    cases b' with
    | none => simp [h.2] at hrenews
    | some g =>
      obtain ⟨n, rfl⟩ := h
      rw [askedBucket_some, askedBucket_some, resetExpired_setGeneration]
      exact ⟨n, rfl⟩

/-- The end of a verification does the same to both, if it is fresh in both or in neither. -/
theorem settled {f : Failures} {n generation generation' : Nat} (policy : Policy)
    (authenticated : Bool) (operation : Operation) (limit : Nat)
    (hfresh : generation = f.generation ↔ generation' = n) :
    SameBucket now
      ((some (settle policy authenticated operation now limit generation f)).filter
        (fun f => !(f.count == 0 && f.pending == 0)))
      ((some (settle policy authenticated operation now limit generation'
        (f.setGeneration n))).filter (fun f => !(f.count == 0 && f.pending == 0))) := by
  have hsame : settle policy authenticated operation now limit generation' (f.setGeneration n) =
      (settle policy authenticated operation now limit generation f).setGeneration n := by
    have hbeq : (n == generation') = (f.generation == generation) := by
      rw [Bool.eq_iff_iff, beq_iff_eq, beq_iff_eq]
      exact ⟨fun h => (hfresh.mpr h.symm).symm, fun h => (hfresh.mp h.symm).symm⟩
    rw [settle_eq, settle_eq, setGeneration_generation, hbeq, resetExpired_setGeneration,
      record_setGeneration, setGeneration_pending]
    split <;> rfl
  rw [hsame]
  generalize settle policy authenticated operation now limit generation f = f'
  rw [filter_some_bucket, filter_some_bucket, setGeneration_count, setGeneration_pending]
  by_cases hempty : f'.count = 0 ∧ f'.pending = 0
  · rw [if_pos hempty, if_pos hempty]
    trivial
  · rw [if_neg hempty, if_neg hempty]
    exact ⟨n, rfl⟩

end SameBucket

namespace Ongoing

/-! ## One run from where we stand -/

section Steps

variable {s s' : Ongoing} {call : Call} {source target : String}

theorem touches_iff {r : Reservation} :
    touches source target r = true ↔ ∃ d, r.key d = keyOf source target d := by
  unfold touches
  rw [Bool.or_eq_true, beq_iff_eq, beq_iff_eq]
  constructor
  · rintro (h | h)
    · exact ⟨.source, h⟩
    · exact ⟨.target, h⟩
  · rintro ⟨_ | _, h⟩
    · exact .inl h
    · exact .inr h

/-- Neither the limits nor the policy ever change. -/
theorem Steps.config (hs : system.Reachable s) (h : Steps s call s') :
    s'.limiter.policy = s.limiter.policy ∧ ∀ d, s'.limiter.limit d = s.limiter.limit d := by
  obtain ⟨m, hm⟩ := shadow hs
  rcases hm.follows h with ⟨step, m', hmine, hm', _⟩ | ⟨_, _, hlimiter⟩
  · have hconfig := hmine.config
    rw [hm.limiter, hm'.limiter] at hconfig
    exact hconfig
  · rw [hlimiter]
    exact ⟨rfl, fun _ => rfl⟩

/-- What a request does to the maps and to the verifications. -/
theorem Steps.verified {id : Nat} {now : TimePoint} {source' target' : String}
    {operation : Operation} {refused : Option Nat}
    (h : Steps s (.verify id now source' target' operation refused) s') :
    s.clock ≤ now ∧ s'.clock = now ∧
      (∀ d key, s'.bucket d key =
        if key = keyOf source' target' d then
          askedBucket now refused.isNone
            (prunedBucket (now ≥ s.limiter.nextCleanup) now (s.bucket d key))
        else prunedBucket (now ≥ s.limiter.nextCleanup) now (s.bucket d key)) ∧
      (refused.isSome → s'.running = s.running) ∧
      (refused = none → id ∉ s.issued ∧ ∃ r, s'.running = (id, r) :: s.running ∧
        r.operation = operation ∧ (∀ d, r.key d = keyOf source' target' d) ∧
        ∀ d (f : Failures), s'.bucket d (r.key d) = some f → r.generation d = f.generation) := by
  cases h with
  | @refuse _ _ _ _ _ delay limiter hclock hrefused =>
    refine ⟨hclock, rfl, fun d key => ?_, fun _ => rfl, nofun⟩
    rcases reserve_cases now source' target' operation s.limiter with
      ⟨_, _, hbuckets⟩ | ⟨r, hadmitted, _⟩
    · rw [hrefused] at hbuckets
      show (limiter.buckets d)[key]? = _
      rw [(hbuckets d).2, getElem?_reservedBuckets]
      -- a refusal leaves no verification behind
      rfl
    · rw [hrefused] at hadmitted
      cases hadmitted
  | @accept _ _ _ _ _ r limiter hclock hfresh hadmitted =>
    rcases reserve_cases now source' target' operation s.limiter with
      ⟨_, hrefused, _⟩ | ⟨r', hr', hbuckets⟩
    · rw [hadmitted] at hrefused
      cases hrefused
    -- an admission charges the two buckets of the request
    · rw [hadmitted] at hr' hbuckets
      cases hr'
      refine ⟨hclock, rfl, fun d key => ?_, nofun, fun _ => ⟨hfresh, r, rfl, ?_, ?_, ?_⟩⟩
      · show (limiter.buckets d)[key]? = _
        rw [(hbuckets d).2.1, getElem?_reservedBuckets]
        rfl
      · rw [reserve_eq] at hadmitted
        split at hadmitted
        · cases hadmitted
        · split at hadmitted
          · cases hadmitted
          · obtain ⟨hr, _⟩ := Prod.mk.inj hadmitted
            obtain ⟨rfl⟩ := Admission.reserved.inj hr
            rfl
      · exact fun d => (hbuckets d).2.2.1
      · exact fun d f hf => reserve_generation hadmitted d hf

/-- What a call of others does to our buckets and our verifications. -/
structure Untouched (source target : String) (s s' : Ongoing) : Prop where
  clock : s.clock ≤ s'.clock
  policy : s'.limiter.policy = s.limiter.policy
  limit : ∀ d, s'.limiter.limit d = s.limiter.limit d
  bucket : ∀ d, s'.bucket d (keyOf source target d) = s.bucket d (keyOf source target d) ∨
    ∃ f : Failures, s.bucket d (keyOf source target d) = some f ∧ f.pending = 0 ∧
      f.expires ≤ s'.clock ∧ s'.bucket d (keyOf source target d) = none
  running : ∀ id r, touches source target r = true →
    ((id, r) ∈ s'.running ↔ (id, r) ∈ s.running)

/-- **A call that we do not see only cleans up after us.** -/
theorem Steps.untouched (hs : system.Reachable s) (h : Steps s call s')
    (hseen : seen source target ⟨s, call, s'⟩ = none) : Untouched source target s s' := by
  obtain ⟨hpolicy, hlimit⟩ := h.config hs
  cases hcall : call with
  | verify id now source' target' operation refused =>
    rw [hcall] at h hseen
    obtain ⟨hclock, hafter, hbucket, hrefused, hadmitted⟩ := h.verified
    -- the call would be seen if it shared a key with us
    have hnot : ¬ (keyOf source' target' .source = keyOf source target .source ∨
        target' = target) := by
      intro htouch
      unfold seen at hseen
      dsimp only at hseen
      rw [if_pos htouch] at hseen
      cases hseen
    have hother : ∀ d, keyOf source target d ≠ keyOf source' target' d := by
      intro d heq
      cases d with
      | source => exact hnot (.inl heq.symm)
      | target => exact hnot (.inr heq.symm)
    refine ⟨hafter ▸ hclock, hpolicy, hlimit, fun d => ?_, fun id' r htouch => ?_⟩
    -- our bucket may be pruned, which only an expired one is
    · rw [hbucket, if_neg (hother d)]
      cases hb : s.bucket d (keyOf source target d) with
      | none =>
        rw [prunedBucket_none]
        exact .inl rfl
      | some f =>
        rcases prunedBucket_cases (now ≥ s.limiter.nextCleanup) now f with ⟨hgone, hpruned⟩ |
          ⟨_, hpruned⟩
        · rw [hpruned]
          exact .inr ⟨f, rfl, hgone.2.2, hafter ▸ hgone.2.1, rfl⟩
        · rw [hpruned]
          exact .inl rfl
    -- a verification of others has none of our keys
    · cases refused with
      | some delay => rw [hrefused rfl]
      | none =>
        obtain ⟨_, r', hrunning, _, hkeys, _⟩ := hadmitted rfl
        rw [hrunning, List.mem_cons, or_iff_right]
        intro heq
        cases heq
        obtain ⟨d, hd⟩ := touches_iff.mp htouch
        exact hother d (hd.symm.trans (hkeys d))
  | finish id authenticated finished =>
    rw [hcall] at h hseen
    have hclock : s.clock ≤ s'.clock := by
      cases h with
      | finish hclock => exact hclock
    obtain ⟨r, hr, hleft, hbuckets⟩ := h.finished
    -- we would see the end of a verification that touches us
    have hnot : touches source target r = false := by
      by_contra htouch
      rw [Bool.not_eq_false] at htouch
      unfold seen at hseen
      dsimp only at hseen
      have hany : s.running.any (fun call => call.1 == id && touches source target call.2) = true :=
        List.any_eq_true.mpr ⟨(id, r), hr, by simp [htouch]⟩
      rw [if_pos hany] at hseen
      cases hseen
    have hother : ∀ d, keyOf source target d ≠ r.key d := by
      intro d heq
      have htouch := touches_iff.mpr ⟨d, heq.symm⟩
      rw [hnot] at htouch
      cases htouch
    refine ⟨hclock, hpolicy, hlimit, fun d => .inl ?_, fun id' r' htouch => ?_⟩
    · obtain ⟨f, _, hafter⟩ := hbuckets d
      rw [hafter, if_neg (hother d)]
    -- the verification that ends is not ours, and ids are given once
    · rw [hleft, (Shadow.running_erase (named hs).1 hr).2.2]
      refine ⟨And.left, fun hold => ⟨hold, fun hid => ?_⟩⟩
      have hid' : id' = id := hid
      subst hid'
      have hsame : r' = r :=
        congrArg Prod.snd (List.inj_on_of_nodup_map (named hs).1 hold hr rfl)
      rw [hsame, hnot] at htouch
      cases htouch
  | clear matchesKey now done =>
    rw [hcall] at h hseen
    -- a clear that matches one of our keys is seen
    have hnot : ∀ d, matchesKey d.isSource (keyOf source target d) = false := by
      unfold seen at hseen
      intro d
      by_contra hmatch
      rw [Bool.not_eq_false] at hmatch
      dsimp only at hseen
      cases d with
      | source =>
        change matchesKey true (keyOf source target .source) = true at hmatch
        simp [hmatch, clearedAt] at hseen
      | target =>
        change matchesKey false target = true at hmatch
        simp [hmatch, clearedAt] at hseen
    have hbucket := fun d => (h.clear_bucket d (keyOf source target d)).1 (hnot d)
    cases h with
    | clear hclock hnow =>
      exact ⟨hclock, hpolicy, hlimit, fun d => .inl (hbucket d), fun _ _ _ => Iff.rfl⟩
  | read now =>
    rw [hcall] at h
    cases h with
    | read hclock => exact ⟨hclock, rfl, fun _ => rfl, fun _ => .inl rfl, fun _ _ _ => Iff.rfl⟩

end Steps

/-! ## Two runs side by side -/

/-- Every verification of ours in one run is in the other, and fresh in both or in neither. -/
def Matched (source target : String) (a b : Ongoing) : Prop :=
  ∀ (id : Nat) (r : Reservation), (id, r) ∈ a.running → touches source target r = true →
    ∃ r', (id, r') ∈ b.running ∧ r'.operation = r.operation ∧ (∀ d, r'.key d = r.key d) ∧
      ∀ (d : Dimension) (f f' : Failures), r.key d = keyOf source target d →
        a.bucket d (r.key d) = some f → b.bucket d (r.key d) = some f' →
        (r.generation d = f.generation ↔ r'.generation d = f'.generation)

/-- Two states that the source and the target cannot tell apart. -/
structure Alike (source target : String) (a b : Ongoing) : Prop where
  policy : b.limiter.policy = a.limiter.policy
  limit : ∀ d, b.limiter.limit d = a.limiter.limit d
  bucket : ∀ d, SameBucket (max a.clock b.clock) (a.bucket d (keyOf source target d))
    (b.bucket d (keyOf source target d))
  there : Matched source target a b
  back : Matched source target b a

namespace Alike

variable {source target : String} {a a' b b' : Ongoing} {call call' : Call}

theorem symm (h : Alike source target a b) : Alike source target b a where
  policy := h.policy.symm
  limit := fun d => (h.limit d).symm
  bucket := by
    intro d
    rw [max_comm]
    exact (h.bucket d).symm
  there := h.back
  back := h.there

/-- A held bucket of ours is the same in both runs, up to the generation. -/
theorem held (h : Alike source target a b) {d : Dimension} {f : Failures}
    (hf : a.bucket d (keyOf source target d) = some f) (hheld : 1 ≤ f.pending) :
    ∃ n, b.bucket d (keyOf source target d) = some (f.setGeneration n) := by
  have hbucket := h.bucket d
  rw [hf] at hbucket
  cases hb : b.bucket d (keyOf source target d) with
  | none =>
    rw [hb] at hbucket
    exact absurd hbucket.1 (by omega)
  | some g =>
    rw [hb] at hbucket
    obtain ⟨n, rfl⟩ := hbucket
    exact ⟨n, rfl⟩

/-- A call of others in one run is not noticed. -/
theorem other_left (h : Alike source target a b) (ha : system.Reachable a)
    (hu : Untouched source target a a') : Alike source target a' b := by
  have hkept : ∀ d (f : Failures), a.bucket d (keyOf source target d) = some f → 1 ≤ f.pending →
      a'.bucket d (keyOf source target d) = some f := by
    intro d f hf hheld
    rcases hu.bucket d with hsame | ⟨g, hg, hfree, _⟩
    · rw [hsame, hf]
    · rw [hf] at hg
      cases hg
      omega
  refine ⟨h.policy.trans hu.policy.symm, fun d => (h.limit d).trans (hu.limit d).symm, ?_, ?_, ?_⟩
  · intro d
    have hlater := (h.bucket d).later (max_le_max_right b.clock hu.clock)
    rcases hu.bucket d with hsame | ⟨f, hf, hfree, hexpired, hgone⟩
    · rw [hsame]
      exact hlater
    · rw [hf] at hlater
      rw [hgone]
      exact hlater.gone hfree (hexpired.trans (le_max_left _ _))
  · intro id r hr htouch
    have hr' := (hu.running id r htouch).mp hr
    obtain ⟨r', hrunning, hoperation, hkeys, hfresh⟩ := h.there id r hr' htouch
    refine ⟨r', hrunning, hoperation, hkeys, fun d f f' hkey hf hf' => ?_⟩
    -- A bucket that is held is not dropped, so both sides still read the same one.
    obtain ⟨g, hg, hheld, _⟩ := Ongoing.held ha hr' d
    have hstill := hkept d g (hkey ▸ hg) hheld
    rw [← hkey, hf] at hstill
    cases hstill
    exact hfresh d f f' hkey hg hf'
  · intro id r hr htouch
    obtain ⟨r', hrunning, hoperation, hkeys, hfresh⟩ := h.back id r hr htouch
    have htouch' : touches source target r' = true := by
      obtain ⟨d, hd⟩ := touches_iff.mp htouch
      exact touches_iff.mpr ⟨d, (hkeys d).trans hd⟩
    refine ⟨r', (hu.running id r' htouch').mpr hrunning, hoperation, hkeys,
      fun d f f' hkey hf hf' => ?_⟩
    obtain ⟨g, hg, hheld, _⟩ := Ongoing.held ha hrunning d
    rw [hkeys d] at hg
    have hstill := hkept d g (hkey ▸ hg) hheld
    rw [← hkey, hf'] at hstill
    cases hstill
    exact hfresh d f f' hkey hf hg

/-- Freshness is compared alike after a call that does not clear the bucket in either run. -/
theorem fresh_kept (ha : system.Reachable a) (hb : system.Reachable b) (hstep : Steps a call a')
    (hstep' : Steps b call' b') {id : Nat} {r r' : Reservation} (hr : (id, r) ∈ a.running)
    (hr' : (id, r') ∈ b.running) (hkeys : ∀ d, r'.key d = r.key d) {d : Dimension}
    (hclear : ¬ call.clears d (r.key d)) (hclear' : ¬ call'.clears d (r.key d))
    (hfresh : ∀ f f' : Failures, a.bucket d (r.key d) = some f → b.bucket d (r.key d) = some f' →
      (r.generation d = f.generation ↔ r'.generation d = f'.generation))
    {f f' : Failures} (hf : a'.bucket d (r.key d) = some f) (hf' : b'.bucket d (r.key d) = some f') :
    r.generation d = f.generation ↔ r'.generation d = f'.generation := by
  obtain ⟨g, hg, _, hsame⟩ := hstep.generation ha hr d hf
  rw [← hkeys d] at hf' hclear'
  obtain ⟨g', hg', _, hsame'⟩ := hstep'.generation hb hr' d hf'
  rw [hsame hclear, hsame' hclear']
  rw [hkeys d] at hg'
  exact hfresh g g' hg hg'

section Verify

variable {id : Nat} {now : TimePoint} {source' target' : String} {operation : Operation}
  {refused refused' : Option Nat}

/-- The same request keeps the verifications matched. -/
theorem matched_verify (ha : system.Reachable a) (hb : system.Reachable b)
    (h : Alike source target a b)
    (hstep : Steps a (.verify id now source' target' operation refused) a')
    (hstep' : Steps b (.verify id now source' target' operation refused') b')
    (hsome : refused.isSome = refused'.isSome) : Matched source target a' b' := by
  obtain ⟨_, _, _, hrefused, hadmitted⟩ := hstep.verified
  obtain ⟨_, _, _, hrefused', hadmitted'⟩ := hstep'.verified
  -- verifications from before are matched as they were
  have hold : ∀ (id₀ : Nat) (r : Reservation), (id₀, r) ∈ a.running →
      touches source target r = true → ∃ r', (id₀, r') ∈ b.running ∧ r'.operation = r.operation ∧
        (∀ d, r'.key d = r.key d) ∧ ∀ (d : Dimension) (f f' : Failures),
          r.key d = keyOf source target d → a'.bucket d (r.key d) = some f →
          b'.bucket d (r.key d) = some f' →
          (r.generation d = f.generation ↔ r'.generation d = f'.generation) := by
    intro id₀ r hr htouch
    obtain ⟨r', hr', hoperation, hkeys, hfresh⟩ := h.there id₀ r hr htouch
    exact ⟨r', hr', hoperation, hkeys, fun d f f' hkey hf hf' =>
      fresh_kept ha hb hstep hstep' hr hr' hkeys (fun hclear => hclear) (fun hclear => hclear)
        (fun g g' => hfresh d g g' hkey) hf hf'⟩
  cases refused with
  | some delay =>
    have hsame := hrefused rfl
    have hsame' := hrefused' (hsome ▸ rfl)
    intro id₀ r hr htouch
    rw [hsame] at hr
    rw [hsame']
    exact hold id₀ r hr htouch
  | none =>
    have hnone' : refused' = none := by
      cases refused' with
      | none => rfl
      | some delay => cases hsome
    obtain ⟨_, r₁, hrunning, hoperation, hkeys, hfresh⟩ := hadmitted rfl
    obtain ⟨_, r₂, hrunning', hoperation', hkeys', hfresh'⟩ := hadmitted' hnone'
    intro id₀ r hr htouch
    rw [hrunning] at hr
    rw [hrunning']
    rcases List.mem_cons.mp hr with heq | hr
    · cases heq
      refine ⟨r₂, List.mem_cons_self, hoperation'.trans hoperation.symm,
        fun d => (hkeys' d).trans (hkeys d).symm, fun d f f' _ hf hf' => ?_⟩
      rw [hkeys d, ← hkeys' d] at hf'
      exact ⟨fun _ => hfresh' d f' hf', fun _ => hfresh d f hf⟩
    · obtain ⟨r', hr', hrest⟩ := hold id₀ r hr htouch
      exact ⟨r', List.mem_cons_of_mem _ hr', hrest⟩

/-- **The same request with the same outcome, renewing the same windows.** -/
theorem verify (ha : system.Reachable a) (hb : system.Reachable b) (h : Alike source target a b)
    (hstep : Steps a (.verify id now source' target' operation refused) a')
    (hstep' : Steps b (.verify id now source' target' operation refused') b')
    (hsome : refused.isSome = refused'.isSome)
    (hrenews : ∀ d, renews source target
      ⟨a, .verify id now source' target' operation refused, a'⟩ d =
      renews source target ⟨b, .verify id now source' target' operation refused', b'⟩ d) :
    Alike source target a' b' := by
  obtain ⟨hpolicy, hlimit⟩ := hstep.config ha
  obtain ⟨hpolicy', hlimit'⟩ := hstep'.config hb
  obtain ⟨hclock, hafter, hbucket, _⟩ := hstep.verified
  obtain ⟨hclock', hafter', hbucket', _⟩ := hstep'.verified
  refine ⟨?_, fun d => ?_, fun d => ?_, matched_verify ha hb h hstep hstep' hsome,
    matched_verify hb ha h.symm hstep' hstep hsome.symm⟩
  · rw [hpolicy, hpolicy']
    exact h.policy
  · rw [hlimit, hlimit']
    exact h.limit d
  · have hnow := ((h.bucket d).later (max_le hclock hclock')).pruned
      (now ≥ a.limiter.nextCleanup) (now ≥ b.limiter.nextCleanup)
    rw [hafter, hafter', max_self, hbucket, hbucket']
    by_cases hkey : keyOf source target d = keyOf source' target' d
    · rw [if_pos hkey, if_pos hkey]
      -- The verification is admitted in both runs, or refused in both with the same renewal.
      cases refused with
      | none =>
        have hnone' : refused' = none := by
          cases refused' with
          | none => rfl
          | some delay => cases hsome
        rw [hnone']
        exact hnow.admitted
      | some delay =>
        cases refused' with
        | none => cases hsome
        | some delay' =>
          have hboth := hrenews d
          unfold renews at hboth
          simp only [decide_eq_true hkey.symm, Bool.true_and] at hboth
          exact hnow.refused hboth
    · rw [if_neg hkey, if_neg hkey]
      exact hnow

end Verify

section Finish

variable {id : Nat} {authenticated : Bool} {finished : TimePoint}

/-- The same end of a verification keeps the others matched. -/
theorem matched_finish (ha : system.Reachable a) (hb : system.Reachable b)
    (h : Alike source target a b) (hstep : Steps a (.finish id authenticated finished) a')
    (hstep' : Steps b (.finish id authenticated finished) b') : Matched source target a' b' := by
  obtain ⟨r₁, hr₁, hleft, _⟩ := hstep.finished
  obtain ⟨r₂, hr₂, hleft', _⟩ := hstep'.finished
  have hmem := (Shadow.running_erase (named ha).1 hr₁).2.2
  have hmem' := (Shadow.running_erase (named hb).1 hr₂).2.2
  intro id₀ r hr htouch
  rw [hleft, hmem] at hr
  obtain ⟨hr, hne⟩ := hr
  obtain ⟨r', hr', hoperation, hkeys, hfresh⟩ := h.there id₀ r hr htouch
  refine ⟨r', ?_, hoperation, hkeys, fun d f f' hkey hf hf' =>
    fresh_kept ha hb hstep hstep' hr hr' hkeys (fun hclear => hclear) (fun hclear => hclear)
      (fun g g' => hfresh d g g' hkey) hf hf'⟩
  rw [hleft', hmem']
  exact ⟨hr', hne⟩

/-- **The same end of a verification.** -/
theorem finish (ha : system.Reachable a) (hb : system.Reachable b) (h : Alike source target a b)
    (hstep : Steps a (.finish id authenticated finished) a')
    (hstep' : Steps b (.finish id authenticated finished) b')
    (htouch : ∃ r, (id, r) ∈ a.running ∧ touches source target r = true) :
    Alike source target a' b' := by
  obtain ⟨hpolicy, hlimit⟩ := hstep.config ha
  obtain ⟨hpolicy', hlimit'⟩ := hstep'.config hb
  obtain ⟨r₁, hr₁, _, hbuckets⟩ := hstep.finished
  obtain ⟨r₂, hr₂, _, hbuckets'⟩ := hstep'.finished
  have hclock : a'.clock = finished ∧ b'.clock = finished ∧ a.clock ≤ finished ∧
      b.clock ≤ finished := by
    cases hstep with
    | finish hclock =>
      cases hstep' with
      | finish hclock' => exact ⟨rfl, rfl, hclock, hclock'⟩
  obtain ⟨hafter, hafter', hle, hle'⟩ := hclock
  -- it is one of ours, and the same one in both runs
  obtain ⟨r, hr, hours⟩ := htouch
  have hr₁r : r₁ = r := congrArg Prod.snd (List.inj_on_of_nodup_map (named ha).1 hr₁ hr rfl)
  subst hr₁r
  obtain ⟨r', hr', hoperation, hkeys, hfresh⟩ := h.there id r₁ hr₁ hours
  have hr₂r : r' = r₂ := congrArg Prod.snd (List.inj_on_of_nodup_map (named hb).1 hr' hr₂ rfl)
  subst hr₂r
  refine ⟨?_, fun d => ?_, fun d => ?_, matched_finish ha hb h hstep hstep',
    matched_finish hb ha h.symm hstep' hstep⟩
  · rw [hpolicy, hpolicy']
    exact h.policy
  · rw [hlimit, hlimit']
    exact h.limit d
  · obtain ⟨f, hf, hbucket⟩ := hbuckets d
    obtain ⟨f', hf', hbucket'⟩ := hbuckets' d
    rw [hafter, hafter', max_self, hbucket, hbucket', hkeys d]
    by_cases hkey : keyOf source target d = r₁.key d
    · rw [if_pos hkey, if_pos hkey]
      obtain ⟨g, hg, hheld, _⟩ := Ongoing.held ha hr₁ d
      have hfg : f = g := Option.some.inj (hf.symm.trans hg)
      subst hfg
      obtain ⟨n, hn⟩ := h.held (hkey ▸ hf) hheld
      rw [hkeys d, ← hkey] at hf'
      have hfn : f' = f.setGeneration n := Option.some.inj (hf'.symm.trans hn)
      subst hfn
      rw [h.policy, h.limit d, hoperation]
      refine SameBucket.settled _ _ _ _ ?_
      exact hfresh d f (f.setGeneration n) hkey.symm hf (hkey ▸ hf')
    · rw [if_neg hkey, if_neg hkey]
      exact (h.bucket d).later (max_le hle hle')

end Finish

section Clear

variable {matchesKey matchesKey' : Bool → String → Bool} {now now' : Bool → String → TimePoint}
  {done done' : TimePoint}

/-- The same clear keeps the verifications matched: those of a matching bucket are stale in both. -/
theorem matched_clear (ha : system.Reachable a) (hb : system.Reachable b)
    (h : Alike source target a b) (hstep : Steps a (.clear matchesKey now done) a')
    (hstep' : Steps b (.clear matchesKey' now' done') b')
    (hmatch : ∀ d, matchesKey d.isSource (keyOf source target d) =
      matchesKey' d.isSource (keyOf source target d)) : Matched source target a' b' := by
  have hrunning : a'.running = a.running := by
    cases hstep with
    | clear => rfl
  have hrunning' : b'.running = b.running := by
    cases hstep' with
    | clear => rfl
  intro id r hr htouch
  rw [hrunning] at hr
  obtain ⟨r', hr', hoperation, hkeys, hfresh⟩ := h.there id r hr htouch
  refine ⟨r', hrunning' ▸ hr', hoperation, hkeys, fun d f f' hkey hf hf' => ?_⟩
  cases hclear : matchesKey d.isSource (keyOf source target d) with
  | false =>
    have hnot : ¬ (Call.clear matchesKey now done).clears d (r.key d) := by
      show ¬ matchesKey d.isSource (r.key d) = true
      rw [hkey, hclear]
      exact Bool.false_ne_true
    have hnot' : ¬ (Call.clear matchesKey' now' done').clears d (r.key d) := by
      show ¬ matchesKey' d.isSource (r.key d) = true
      rw [hkey, ← hmatch, hclear]
      exact Bool.false_ne_true
    exact fresh_kept ha hb hstep hstep' hr hr' hkeys hnot hnot' (fun g g' => hfresh d g g' hkey)
      hf hf'
  | true =>
    have hstale : r.generation d < f.generation :=
      hstep.cleared ha hr (hkey ▸ hclear) r f (hrunning ▸ hr) hf
    have hclear' : matchesKey' d.isSource (r'.key d) = true := by
      rw [hkeys d, hkey, ← hmatch, hclear]
    have hstale' : r'.generation d < f'.generation :=
      hstep'.cleared hb hr' hclear' r' f' (hrunning' ▸ hr') (hkeys d ▸ hf')
    exact ⟨fun heq => absurd heq (Nat.ne_of_lt hstale),
      fun heq => absurd heq (Nat.ne_of_lt hstale')⟩

/-- **The same clear of our buckets.** -/
theorem clear (ha : system.Reachable a) (hb : system.Reachable b) (h : Alike source target a b)
    (hstep : Steps a (.clear matchesKey now done) a')
    (hstep' : Steps b (.clear matchesKey' now' done') b')
    (hmatch : ∀ d, matchesKey d.isSource (keyOf source target d) =
      matchesKey' d.isSource (keyOf source target d))
    (hnow : ∀ d, matchesKey d.isSource (keyOf source target d) = true →
      now d.isSource (keyOf source target d) = now' d.isSource (keyOf source target d)) :
    Alike source target a' b' := by
  obtain ⟨hpolicy, hlimit⟩ := hstep.config ha
  obtain ⟨hpolicy', hlimit'⟩ := hstep'.config hb
  have hthere := matched_clear ha hb h hstep hstep' hmatch
  have hback := matched_clear hb ha h.symm hstep' hstep (fun d => (hmatch d).symm)
  refine ⟨?_, fun d => ?_, fun d => ?_, hthere, hback⟩
  · rw [hpolicy, hpolicy']
    exact h.policy
  · rw [hlimit, hlimit']
    exact h.limit d
  · cases hstep with
    | clear hclock hreadings =>
      cases hstep' with
      | clear hclock' hreadings' =>
        have hlater := (h.bucket d).later (max_le_max hclock hclock')
        show SameBucket (max done done')
          ((clearMatching matchesKey now a.limiter).buckets d)[keyOf source target d]?
          ((clearMatching matchesKey' now' b.limiter).buckets d)[keyOf source target d]?
        rw [getElem?_clearMatching, getElem?_clearMatching, ← hmatch]
        change SameBucket (max done done') (a.bucket d (keyOf source target d))
          (b.bucket d (keyOf source target d)) at hlater
        show SameBucket (max done done') ((a.bucket d (keyOf source target d)).bind _)
          ((b.bucket d (keyOf source target d)).bind _)
        -- The keys match in both runs or in neither.
        cases hclear : matchesKey d.isSource (keyOf source target d) with
        | false => simpa using hlater
        | true =>
          rw [← hnow d hclear]
          generalize a.bucket d (keyOf source target d) = x at hlater
          generalize b.bucket d (keyOf source target d) = y at hlater
          cases x with
          | none =>
            cases y with
            | none => trivial
            | some g =>
              rw [Option.bind_none, Option.bind_some, if_neg (by simp), if_pos hlater.1]
              trivial
          | some f =>
            cases y with
            | none =>
              rw [Option.bind_none, Option.bind_some, if_neg (by simp), if_pos hlater.1]
              trivial
            | some g =>
              -- Both buckets are the same up to the generation, which a clear only raises.
              obtain ⟨n, rfl⟩ := hlater
              simp only [Option.bind_some, Bool.not_true, Bool.false_eq_true, if_false]
              by_cases hfree : f.pending = 0
              · have hfree' : (f.setGeneration n).pending = 0 := hfree
                rw [if_pos hfree, if_pos hfree']
                trivial
              · have hheld' : ¬ (f.setGeneration n).pending = 0 := hfree
                rw [if_neg hfree, if_neg hheld']
                exact ⟨n + 1, by simp [resetExpired, Failures.setGeneration]⟩

end Clear

/-- **What is shown to us alike leaves us alike.** -/
theorem step (ha : system.Reachable a) (hb : system.Reachable b) (h : Alike source target a b)
    (hstep : Steps a call a') (hstep' : Steps b call' b')
    (hshown : shown source target ⟨a, call, a'⟩ = shown source target ⟨b, call', b'⟩)
    (hsome : (shown source target ⟨a, call, a'⟩).isSome) : Alike source target a' b' := by
  obtain ⟨⟨view, renewsSource, renewsTarget⟩, hview⟩ := Option.isSome_iff_exists.mp hsome
  rw [hview] at hshown
  obtain ⟨view₁, hseen, heq⟩ := Option.map_eq_some_iff.mp hview
  obtain ⟨view₂, hseen', heq'⟩ := Option.map_eq_some_iff.mp hshown.symm
  have hviews : view₁ = view₂ := congrArg Prod.fst (heq.trans heq'.symm)
  subst hviews
  have hrenews : ∀ d,
      renews source target ⟨a, call, a'⟩ d = renews source target ⟨b, call', b'⟩ d := by
    intro d
    have hboth := congrArg Prod.snd (heq.trans heq'.symm)
    cases d with
    | source => exact congrArg Prod.fst hboth
    | target => exact congrArg Prod.snd hboth
  have hfrom := seen_eq_some hseen
  have hfrom' := seen_eq_some hseen'
  cases view₁ with
  | verify id now source' target' operation refused =>
    obtain ⟨delay, rfl, hdelay⟩ := hfrom
    obtain ⟨delay', rfl, hdelay'⟩ := hfrom'
    exact h.verify ha hb hstep hstep' (hdelay.trans hdelay'.symm) hrenews
  | finish id authenticated finished =>
    obtain ⟨rfl, htouch⟩ := hfrom
    obtain ⟨rfl, _⟩ := hfrom'
    exact h.finish ha hb hstep hstep' htouch
  | clear onSource onTarget =>
    obtain ⟨matchesKey, now, done, rfl, hsource, htarget⟩ := hfrom
    obtain ⟨matchesKey', now', done', rfl, hsource', htarget'⟩ := hfrom'
    have hsources := hsource.symm.trans hsource'
    have htargets := htarget.symm.trans htarget'
    refine h.clear ha hb hstep hstep' (fun d => ?_) (fun d => ?_)
    · cases d with
      | source => exact (clearedAt_inj hsources).1
      | target => exact (clearedAt_inj htargets).1
    · cases d with
      | source => exact (clearedAt_inj hsources).2
      | target => exact (clearedAt_inj htargets).2

/-- Calls of others in one run, any number of them, are not noticed. -/
theorem others {ts : List Transition} (ha : system.Reachable a) (h : Alike source target a b)
    (hpath : System.Path system a ts a') (hothers : ∀ t ∈ ts, shown source target t = none) :
    Alike source target a' b := by
  refine (hpath.keeps (I := fun a => system.Reachable a ∧ Alike source target a b)
    (P := fun t => shown source target t = none) ?_ ⟨ha, h⟩ hothers).2
  rintro t ⟨hreach, halike⟩ hstep hnone
  have hseen : seen source target t = none := Option.map_eq_none_iff.mp hnone
  exact ⟨hreach.step hstep, halike.other_left hreach (Steps.untouched hreach hstep hseen)⟩

/-- **Runs that show us the same leave us alike.** -/
theorem paths {ts ts' : List Transition} (ha : system.Reachable a) (hb : system.Reachable b)
    (h : Alike source target a b) (hpath : System.Path system a ts a')
    (hpath' : System.Path system b ts' b')
    (hshown : ts.filterMap (shown source target) = ts'.filterMap (shown source target)) :
    Alike source target a' b' := by
  induction hpath generalizing b ts' with
  | nil =>
    have hothers : ∀ t ∈ ts', shown source target t = none := by
      intro t ht
      have hnone := List.filterMap_eq_nil_iff.mp hshown.symm
      exact hnone t ht
    exact (h.symm.others hb hpath' hothers).symm
  | @cons a₀ a₁ a₂ call rest hstep hrest ih =>
    have ha₁ := ha.step hstep
    cases hview : shown source target ⟨a₀, call, a₁⟩ with
    | none =>
      rw [List.filterMap_cons_none hview] at hshown
      have hseen : seen source target ⟨a₀, call, a₁⟩ = none := Option.map_eq_none_iff.mp hview
      exact ih ha₁ hb (h.other_left ha (Steps.untouched ha hstep hseen)) hpath' hshown
    | some view =>
      -- the other run shows it too, after calls of others
      rw [List.filterMap_cons_some hview] at hshown
      obtain ⟨others, t, later, rfl, hnone, ht, hlater⟩ := List.filterMap_eq_cons_iff.mp hshown.symm
      obtain ⟨hto, hstep', hfrom⟩ := hpath'.around
      have hb₁ := hto.reachable hb
      have halike : Alike source target a₀ t.before := (h.symm.others hb hto hnone).symm
      have hboth : shown source target ⟨a₀, call, a₁⟩ = shown source target t := hview.trans ht.symm
      exact ih ha₁ (hb₁.step hstep') (halike.step ha hb₁ hstep hstep' hboth (hview ▸ rfl)) hfrom
        hlater.symm

end Alike

end Ongoing

end CrossDesk.DeviceAuthLimiter
