import CrossDesk.DeviceAuthLimiter.Isolation

/-!
# What a source and a target are told

Buckets that cannot be told apart (`SameBucket`) give the same answers to `Verify`, to
`CooldownRemaining` and to `Snapshot`. Together with `Alike.paths` this is isolation: what others do
to the maps, and when the cleanup happens to run, does not change what we are told.

The maps also stay within `kMaxEntries`, and a failure that has not expired is lost to a clear only.
-/

namespace CrossDesk.DeviceAuthLimiter

/-! ## What is read of a bucket -/

/-- The wait at a bucket: the answer of `retry`. -/
def waitAt (now : TimePoint) (limit : Nat) : Option Failures → Nat
  | none => 0
  | some f =>
    let f := resetExpired f now
    if remainingSeconds f.blockedUntil now > 0 then remainingSeconds f.blockedUntil now
    else if f.pending ≥ (if f.count < limit then limit - f.count else 1) then 1 else 0

theorem retry_fst (now : TimePoint) (buckets : Buckets) (key : String) (limit : Nat) :
    (retry now buckets key limit).1 = waitAt now limit buckets[key]? := by
  unfold retry waitAt
  cases buckets[key]? with
  | none => rfl
  | some f =>
    dsimp only
    split <;> rfl

namespace SameBucket

variable {now : TimePoint} {b b' : Option Failures}

/-- A bucket that has expired and is not held asks nobody to wait. -/
theorem waitAt_expired {f : Failures} (hfree : f.pending = 0) (hexpired : f.expires ≤ now)
    {limit : Nat} (hlimit : 1 ≤ limit) : waitAt now limit (some f) = 0 := by
  have hrenewed : resetExpired f now =
      { f with
        count := 0
        expires := now + seconds kWindow
        blockedUntil := 0
        backoff := 0
        operations := 0 } := if_neg (Nat.not_lt.mpr hexpired)
  show (let f := resetExpired f now
    if remainingSeconds f.blockedUntil now > 0 then remainingSeconds f.blockedUntil now
    else if f.pending ≥ (if f.count < limit then limit - f.count else 1) then 1 else 0) = 0
  have hopen : ¬ remainingSeconds 0 now > 0 := Nat.lt_irrefl 0
  have hroom : ¬ f.pending ≥ limit - 0 := by omega
  rw [hrenewed]
  show (if remainingSeconds 0 now > 0 then remainingSeconds 0 now
    else if f.pending ≥ (if 0 < limit then limit - 0 else 1) then 1 else 0) = 0
  rw [if_neg hopen, if_pos (show 0 < limit from hlimit), if_neg hroom]

theorem waitAt_eq (h : SameBucket now b b') {limit : Nat} (hlimit : 1 ≤ limit) :
    waitAt now limit b = waitAt now limit b' := by
  cases b with
  | none =>
    cases b' with
    | none => rfl
    | some g => exact (waitAt_expired h.1 h.2 hlimit).symm
  | some f =>
    cases b' with
    | none => exact waitAt_expired h.1 h.2 hlimit
    | some g =>
      obtain ⟨n, rfl⟩ := h
      have hsame := resetExpired_setGeneration f n now
      show _ = (let g := resetExpired (f.setGeneration n) now
        if remainingSeconds g.blockedUntil now > 0 then remainingSeconds g.blockedUntil now
        else if g.pending ≥ (if g.count < limit then limit - g.count else 1) then 1 else 0)
      rw [hsame]
      rfl

theorem cooldownOf_expired {f : Failures} (hblocked : f.blockedUntil ≤ f.expires)
    (hexpired : f.expires ≤ now) : cooldownOf now (some f) = 0 :=
  if_neg (Nat.not_lt.mpr (hblocked.trans hexpired))

theorem cooldownOf_eq (h : SameBucket now b b') (hb : ∀ f ∈ b, f.blockedUntil ≤ f.expires)
    (hb' : ∀ f ∈ b', f.blockedUntil ≤ f.expires) : cooldownOf now b = cooldownOf now b' := by
  cases b with
  | none =>
    cases b' with
    | none => rfl
    | some g => exact (cooldownOf_expired (hb' g rfl) h.2).symm
  | some f =>
    cases b' with
    | none => exact cooldownOf_expired (hb f rfl) h.2
    | some g =>
      obtain ⟨n, rfl⟩ := h
      rfl

theorem entryOf_eq (h : SameBucket now b b') (isSource : Bool) (threshold : Nat) (key : String) :
    b.bind (entryOf now isSource threshold key) = b'.bind (entryOf now isSource threshold key) := by
  have hexpired : ∀ f : Failures, f.expires ≤ now → entryOf now isSource threshold key f = none :=
    fun f hle => if_pos (.inr hle)
  cases b with
  | none =>
    cases b' with
    | none => rfl
    | some g => exact (hexpired g h.2).symm
  | some f =>
    cases b' with
    | none => exact hexpired f h.2
    | some g =>
      obtain ⟨n, rfl⟩ := h
      rfl

end SameBucket

/-- A cooldown is over before the failures are forgotten. -/
theorem Effect.blocked_le {limit : Nat} {policy : Policy} {clearing : Prop} {now : TimePoint}
    {events : List BucketEvent} {b b' : Option Failures}
    (h : Effect limit policy clearing now b events b')
    (hb : ∀ f ∈ b, f.blockedUntil ≤ f.expires) : ∀ f' ∈ b', f'.blockedUntil ≤ f'.expires := by
  have hrefreshed : ∀ f ∈ b, (resetExpired f now).blockedUntil ≤ (resetExpired f now).expires := by
    intro f hf
    unfold resetExpired
    split
    · exact hb f hf
    · exact Nat.zero_le _
  intro f' hf'
  cases h with
  | idle => exact hb f' hf'
  | pruned => cases hf'
  | reopened =>
    cases hf'
    exact Nat.zero_le _
  | opened =>
    cases hf'
    exact Nat.zero_le _
  | refreshed p =>
    cases hf'
    exact hrefreshed _ rfl
  | released => cases hf'
  | @charged f p operation hopen =>
    cases hf'
    have hle := hrefreshed f rfl
    rw [setPending_blockedUntil, setPending_expires]
    unfold record
    grind
  | cleared =>
    cases hf'
    simp [resetExpired]
  | erased => cases hf'

/-- Failures that have not expired are lost to a clear only. -/
theorem Effect.kept {limit : Nat} {policy : Policy} {clearing : Prop} {now : TimePoint}
    {events : List BucketEvent} {f : Failures} {b : Option Failures}
    (h : Effect limit policy clearing now (some f) events b) (hclear : ¬ clearing)
    (hlive : now < f.expires) (hfailures : 0 < f.count) :
    ∃ f', b = some f' ∧ f.count ≤ f'.count := by
  have hsame : resetExpired f now = f := if_pos hlive
  cases h with
  | idle => exact ⟨f, rfl, le_rfl⟩
  | pruned hexpired => exact absurd hlive (Nat.not_lt.mpr hexpired)
  | reopened hexpired => exact absurd hlive (Nat.not_lt.mpr hexpired)
  | refreshed p =>
    rw [hsame]
    exact ⟨_, rfl, le_rfl⟩
  | released hempty =>
    rw [hsame] at hempty
    omega
  | charged p operation =>
    rw [hsame]
    refine ⟨_, rfl, ?_⟩
    rw [setPending_count]
    unfold record
    grind
  | cleared hmatch => exact absurd hmatch hclear
  | erased hmatch => exact absurd hmatch hclear

/-! ## The maps stay small -/

section Sizes

variable {now : TimePoint} {source target : String} {s : DeviceAuthLimiter}

theorem size_reservedBuckets_le (now : TimePoint) (source target : String) (s : DeviceAuthLimiter)
    (d : Dimension) :
    (reservedBuckets now source target s false d).size ≤ (s.buckets d).size := by
  unfold reservedBuckets
  dsimp only
  rw [if_neg Bool.false_ne_true, size_retry]
  exact size_cleaned_le now s d

/-- Taking a place adds a bucket where there is none, so only where one fits. -/
theorem size_held_le {d : Dimension} (hsize : (s.buckets d).size ≤ kMaxEntries)
    (hroom : (reservedBuckets now source target s false d).contains (keyOf source target d) ∨
      (reservedBuckets now source target s false d).size < kMaxEntries) :
    (reservedBuckets now source target s true d).size ≤ kMaxEntries := by
  have hrefreshed := (size_reservedBuckets_le now source target s d).trans hsize
  show ((reservedBuckets now source target s false d).insert _ _).size ≤ kMaxEntries
  rw [Std.ExtTreeMap.size_insert]
  split
  · exact hrefreshed
  · rename_i hnew
    exact hroom.resolve_left hnew

/-- **A request leaves the maps within their bound.** -/
theorem reserve_size (now : TimePoint) (source target : String) (operation : Operation)
    (hsize : ∀ d, (s.buckets d).size ≤ kMaxEntries)
    (d : Dimension) :
    ((reserve now source target operation s).2.buckets d).size ≤ kMaxEntries := by
  have hrefused := (size_reservedBuckets_le now source target s d).trans (hsize d)
  rw [reserve_eq]
  split
  · rw [reserveState_buckets]
    exact hrefused
  · split
    · rw [reserveState_buckets]
      exact hrefused
    · rename_i hroom
      rw [reserveState_buckets]
      refine size_held_le (hsize d) ?_
      unfold atCapacity at hroom
      rw [Bool.not_eq_true, Bool.or_eq_false_iff, Bool.and_eq_false_iff, Bool.and_eq_false_iff] at hroom
      simp only [Bool.not_eq_false', decide_eq_false_iff_not, ge_iff_le, Nat.not_le] at hroom
      cases d with
      | source => exact hroom.1
      | target => exact hroom.2

end Sizes

/-- The end of a verification adds no bucket. -/
theorem finishBucket_size {policy : Policy} {authenticated : Bool} {operation : Operation}
    {finished : TimePoint} {buckets buckets' : Buckets} {key : String} {limit generation : Nat}
    (h : finishBucket policy authenticated operation finished buckets key limit generation =
      some buckets') : buckets'.size ≤ buckets.size := by
  unfold finishBucket at h
  cases hf : buckets[key]? with
  | none =>
    rw [hf] at h
    cases h
  | some f =>
    have hmem : buckets.contains key = true := OrdMap.contains_iff.mpr ⟨f, hf⟩
    rw [hf] at h
    dsimp only at h
    split at h
    · cases h
      exact Std.ExtTreeMap.size_erase_le
    · cases h
      rw [Std.ExtTreeMap.size_insert, if_pos hmem]

theorem finish_size {r : Reservation} {authenticated : Bool} {finished : TimePoint}
    {s s' : DeviceAuthLimiter} (h : finish r authenticated finished s = some s') (d : Dimension) :
    (s'.buckets d).size ≤ (s.buckets d).size := by
  unfold finish at h
  obtain ⟨sources, hsources, h⟩ := Option.bind_eq_some_iff.mp h
  obtain ⟨targets, htargets, rfl⟩ := Option.map_eq_some_iff.mp h
  cases d with
  | source => exact finishBucket_size hsources
  | target => exact finishBucket_size htargets

theorem clearMatching_size (matchesKey : Bool → String → Bool) (now : Bool → String → TimePoint)
    (s : DeviceAuthLimiter) (d : Dimension) :
    ((clearMatching matchesKey now s).buckets d).size ≤ (s.buckets d).size := by
  cases d with
  | source => exact Std.ExtTreeMap.size_filterMap_le_size
  | target => exact Std.ExtTreeMap.size_filterMap_le_size

namespace Ongoing

/-- **No map ever exceeds its bound.** -/
theorem size_le {s : Ongoing} (h : system.Reachable s) :
    ∀ d, (s.limiter.buckets d).size ≤ kMaxEntries := by
  refine h.invariant (I := fun s => ∀ d, (s.limiter.buckets d).size ≤ kMaxEntries) ?_ ?_
  · rintro s ⟨sourceLimit, targetLimit, policy, _, _, rfl⟩ d
    cases d <;> exact Nat.zero_le _
  · intro s call s' hs hstep d
    cases hstep with
    | @refuse id now source target operation delay limiter hclock hrefused =>
      have hsize := reserve_size now source target operation hs d
      rw [hrefused] at hsize
      exact hsize
    | @accept id now source target operation r limiter hclock hfresh hadmitted =>
      have hsize := reserve_size now source target operation hs d
      rw [hadmitted] at hsize
      exact hsize
    | finish hclock hrunning hfinished => exact (finish_size hfinished d).trans (hs d)
    | clear hclock hnow => exact (clearMatching_size _ _ _ d).trans (hs d)
    | read hclock => exact hs d

end Ongoing

/-! ## The answers -/

/-- The wait that a request is told, if it is told to wait. -/
def Admission.delay : Admission → Option Nat
  | .retryAfter delay => some delay
  | .reserved _ => none

/-- The line is about the source or the target. -/
def Entry.concerns (source target : String) (e : Entry) : Bool :=
  decide (e.target = keyOf source target (if e.source then .source else .target))

/-- The lines of one dimension that are about a key: the line of its bucket. -/
theorem filter_entries (now : TimePoint) (isSource : Bool) (threshold : Nat) (m : Buckets)
    (source target : String) :
    (m.toList.filterMap (fun e => entryOf now isSource threshold e.1 e.2)).filter
        (Entry.concerns source target) =
      (m[keyOf source target (if isSource then .source else .target)]?.bind
        (entryOf now isSource threshold
          (keyOf source target (if isSource then .source else .target)))).toList := by
  generalize hkey : keyOf source target (if isSource then .source else .target) = key
  -- the line of a bucket is about our key when its key is ours
  have hline : ∀ e : String × Failures,
      (entryOf now isSource threshold e.1 e.2).filter (Entry.concerns source target) =
        if decide (e.1 = key) then entryOf now isSource threshold e.1 e.2 else none := by
    rintro ⟨k, f⟩
    unfold entryOf
    dsimp only
    split
    · rw [Option.filter_none, ite_self]
    · rw [Option.filter_some]
      unfold Entry.concerns
      dsimp only
      rw [hkey]
  rw [List.filter_filterMap]
  simp only [hline]
  rw [← List.filterMap_filter, OrdMap.toList_filter_key]
  cases m[key]? with
  | none => rfl
  | some f =>
    show List.filterMap _ [(key, f)] = _
    rw [Option.bind_some, List.filterMap_cons, List.filterMap_nil]
    cases entryOf now isSource threshold key f <;> rfl

theorem snapshot_concerns (now : TimePoint) (s : DeviceAuthLimiter) (source target : String) :
    (snapshot now s).filter (Entry.concerns source target) =
      ((s.buckets .target)[keyOf source target .target]?.bind
        (entryOf now false (s.limit .target) (keyOf source target .target))).toList ++
      ((s.buckets .source)[keyOf source target .source]?.bind
        (entryOf now true (s.limit .source) (keyOf source target .source))).toList := by
  unfold snapshot
  rw [List.filter_append, filter_entries, filter_entries]
  rfl

namespace Ongoing

/-- A cooldown is over before the failures are forgotten. -/
theorem blocked_le {s : Ongoing} (h : system.Reachable s) :
    ∀ d key, ∀ f ∈ s.bucket d key, f.blockedUntil ≤ f.expires := by
  obtain ⟨ls, hrun⟩ := h
  refine hrun.history (P := fun _ s => ∀ d key, ∀ f ∈ s.bucket d key, f.blockedUntil ≤ f.expires)
    ?_ ?_
  · rintro s ⟨sourceLimit, targetLimit, policy, _, _, rfl⟩ d key f hf
    cases d <;> cases hf
  · intro ls s call s' hbefore hs hstep d key
    obtain ⟨events, heffect, _⟩ := Steps.effect hbefore.reachable hstep d key
    exact heffect.blocked_le (hs d key)

/-- What a source and a target are told. -/
structure SameAnswers (source target : String) (now : TimePoint) (a b : DeviceAuthLimiter) :
    Prop where
  verify : ∀ operation, (reserve now source target operation a).1.delay =
    (reserve now source target operation b).1.delay
  cooldown : cooldownRemaining now source target a = cooldownRemaining now source target b
  snapshot : (snapshot now a).filter (Entry.concerns source target) =
    (DeviceAuthLimiter.snapshot now b).filter (Entry.concerns source target)

/-- A step that keeps the maps within their bound and loses no failure that has not expired, unless
it is a clear. -/
structure Retains (t : Transition) : Prop where
  size : ∀ d, (t.after.limiter.buckets d).size ≤ kMaxEntries
  failures : ∀ d key, ∀ f ∈ t.before.bucket d key, 0 < f.count →
    t.label.actsAt d key < f.expires → ¬ t.label.clears d key →
      ∃ f' ∈ t.after.bucket d key, f.count ≤ f'.count

theorem Steps.retains {s s' : Ongoing} {call : Call} (hs : system.Reachable s)
    (h : Steps s call s') : Retains ⟨s, call, s'⟩ := by
  refine ⟨size_le (hs.step h), fun d key f hf hcount hlive hclear => ?_⟩
  obtain ⟨events, heffect, _⟩ := h.effect hs d key
  rw [show s.bucket d key = some f from hf] at heffect
  exact heffect.kept hclear hlive hcount

namespace Alike

variable {source target : String} {a b : Ongoing} {now : TimePoint}

theorem bucket_at (h : Alike source target a b) (ha : a.clock ≤ now) (hb : b.clock ≤ now)
    (d : Dimension) : SameBucket now (a.bucket d (keyOf source target d))
      (b.bucket d (keyOf source target d)) :=
  (h.bucket d).later (max_le ha hb)

/-- The wait is the same, whether the cleanup is due or not. -/
theorem waitFor_eq (h : Alike source target a b) (hlimit : ∀ d, 1 ≤ a.limiter.limit d)
    (ha : a.clock ≤ now) (hb : b.clock ≤ now) :
    waitFor now source target a.limiter = waitFor now source target b.limiter := by
  have hretry : ∀ d, (retry now (cleaned now a.limiter d) (keyOf source target d)
      (a.limiter.limit d)).1 = (retry now (cleaned now b.limiter d) (keyOf source target d)
        (b.limiter.limit d)).1 := by
    intro d
    rw [retry_fst, retry_fst, getElem?_cleaned, getElem?_cleaned, h.limit d]
    exact ((h.bucket_at ha hb d).pruned _ _).waitAt_eq (hlimit d)
  unfold waitFor
  rw [hretry .source, hretry .target]

/-- **States that cannot be told apart give the same answers**, while there is room for new keys. -/
theorem answers (h : Alike source target a b) (hreach : system.Reachable a)
    (hreach' : system.Reachable b) (ha : a.clock ≤ now) (hb : b.clock ≤ now)
    (hroom : ∀ d, (a.limiter.buckets d).size < kMaxEntries)
    (hroom' : ∀ d, (b.limiter.buckets d).size < kMaxEntries) :
    SameAnswers source target now a.limiter b.limiter := by
  refine ⟨fun operation => ?_, ?_, ?_⟩
  · have hwait := h.waitFor_eq (limit_pos hreach) ha hb
    obtain ⟨hrefused, hadmitted⟩ := reserve_answer now source target operation a.limiter
    obtain ⟨hrefused', hadmitted'⟩ := reserve_answer now source target operation b.limiter
    rcases Nat.eq_zero_or_pos (waitFor now source target a.limiter) with hzero | hpos
    · obtain ⟨r, hr⟩ := hadmitted hzero hroom
      obtain ⟨r', hr'⟩ := hadmitted' (hwait ▸ hzero) hroom'
      rw [hr, hr']
      rfl
    · rw [hrefused hpos, hrefused' (hwait ▸ hpos), hwait]
  · have hcooldown := fun d => (h.bucket_at ha hb d).cooldownOf_eq (blocked_le hreach d _)
      (blocked_le hreach' d _)
    rw [cooldownRemaining_eq, cooldownRemaining_eq]
    exact congrArg₂ max (hcooldown .source) (hcooldown .target)
  · have hline := fun d isSource => (h.bucket_at ha hb d).entryOf_eq isSource (a.limiter.limit d)
      (keyOf source target d)
    rw [snapshot_concerns, snapshot_concerns, h.limit, h.limit]
    exact congrArg₂ (fun x y => Option.toList x ++ Option.toList y) (hline .target false)
      (hline .source true)

theorem refl (a : Ongoing) : Alike source target a a where
  policy := rfl
  limit := fun _ => rfl
  bucket := by
    intro d
    cases a.bucket d (keyOf source target d) with
    | none => trivial
    | some f => exact ⟨f.generation, rfl⟩
  there := fun id r hr _ => ⟨r, hr, rfl, fun _ => rfl, fun d f f' _ hf hf' => by
    rw [hf] at hf'
    rw [Option.some.inj hf']⟩
  back := fun id r hr _ => ⟨r, hr, rfl, fun _ => rfl, fun d f f' _ hf hf' => by
    rw [hf] at hf'
    rw [Option.some.inj hf']⟩

end Alike

/-- **Failure budgets are isolated.** Two runs that show a source and a target the same give them the
same answers, whatever else was called and whenever the cleanup ran, while there is room for new
keys. And no run loses a failure that has not expired, except to a clear, or outgrows the maps. -/
theorem budgets_isolated {source target : String} {s₀ s s' : Ongoing} {ts ts' : List Transition}
    (hstart : system.start s₀) (hpath : System.Path system s₀ ts s)
    (hpath' : System.Path system s₀ ts' s')
    (hshown : ts.filterMap (shown source target) = ts'.filterMap (shown source target))
    (hroom : ∀ d, (s.limiter.buckets d).size < kMaxEntries)
    (hroom' : ∀ d, (s'.limiter.buckets d).size < kMaxEntries) :
    (∀ now, s.clock ≤ now → s'.clock ≤ now →
      SameAnswers source target now s.limiter s'.limiter) ∧ ∀ t ∈ ts ++ ts', Retains t := by
  have hreach : system.Reachable s₀ := ⟨[], .start hstart⟩
  have hretains : ∀ {ts : List Transition} {s : Ongoing}, System.Path system s₀ ts s →
      ∀ t ∈ ts, Retains t := by
    intro ts s hpath t ht
    obtain ⟨before, after, rfl⟩ := List.append_of_mem ht
    obtain ⟨hto, hstep, _⟩ := hpath.around
    exact Steps.retains (hto.reachable hreach) hstep
  refine ⟨fun now hnow hnow' => ?_, fun t ht => ?_⟩
  · have halike := (Alike.refl s₀).paths hreach hreach hpath hpath' hshown
    exact halike.answers (hpath.reachable hreach) (hpath'.reachable hreach) hnow hnow' hroom hroom'
  · rcases List.mem_append.mp ht with ht | ht
    · exact hretains hpath t ht
    · exact hretains hpath' t ht

/-- Someone else logs in during our verification, and the answers to us are the same. -/
theorem budgets_isolated_other : ∃ s s' : Ongoing, s.limiter.sources.size = 1 ∧
    s'.limiter.sources.size = 2 ∧ ∀ now, s.clock ≤ now → s'.clock ≤ now →
      SameAnswers "10.0.0.1" "pair" now s.limiter s'.limiter := by
  let s₀ : Ongoing := { limiter := {} }
  have hstart : system.start s₀ :=
    ⟨kSourceFailures, kTargetFailures, .fixed, by decide, by decide, rfl⟩
  have hplay : (System.play attempt s₀
      [.verify 0 0 "10.0.0.1" "pair" .deviceLogin, .finish 0 false (seconds 1)]).any (fun way =>
        (System.play attempt s₀
          [.verify 0 0 "10.0.0.1" "pair" .deviceLogin, .verify 1 0 "10.0.0.2" "other" .deviceLogin,
            .finish 0 false (seconds 1)]).any (fun way' =>
          decide (way.2.limiter.sources.size = 1 ∧ way.2.limiter.targets.size = 1 ∧
            way'.2.limiter.sources.size = 2 ∧ way'.2.limiter.targets.size = 2 ∧
            way.1.filterMap (shown "10.0.0.1" "pair") =
              way'.1.filterMap (shown "10.0.0.1" "pair")))) = true := by
    decide +kernel
  obtain ⟨ts, s, hpath, hplay'⟩ := System.exists_path_of_play attempt_steps hplay
  obtain ⟨ts', s', hpath', htest⟩ := System.exists_path_of_play attempt_steps hplay'
  obtain ⟨hsources, htargets, hsources', htargets', hshown⟩ := of_decide_eq_true htest
  have hroom : ∀ d, (s.limiter.buckets d).size < kMaxEntries := by
    intro d
    cases d with
    | source => exact hsources.trans_lt (by decide)
    | target => exact htargets.trans_lt (by decide)
  have hroom' : ∀ d, (s'.limiter.buckets d).size < kMaxEntries := by
    intro d
    cases d with
    | source => exact hsources'.trans_lt (by decide)
    | target => exact htargets'.trans_lt (by decide)
  exact ⟨s, s', hsources, hsources',
    (budgets_isolated hstart hpath hpath' hshown hroom hroom').1⟩

/-- A refused request renews the window of a failure that has run out, unless the cleanup took it
away first. So a call of others is seen: without it the window of the next failure starts with that
failure, and with it, at the refused request. -/
theorem cleanup_seen : ∃ s₀ ts s ts' s' now, system.start s₀ ∧ System.Path system s₀ ts s ∧
    System.Path system s₀ ts' s' ∧
    ts.map (fun t => t.after.clock) = ts'.map (fun t => t.after.clock) ∧
    ts.filterMap (seen "10.0.0.1" "pair") = ts'.filterMap (seen "10.0.0.1" "pair") ∧
    (∀ t ∈ ts ++ ts', ∀ d, (t.after.limiter.buckets d).size < kMaxEntries) ∧
    s.clock ≤ now ∧ s'.clock ≤ now ∧
    (snapshot now s.limiter).filter (Entry.concerns "10.0.0.1" "pair") ≠
      (snapshot now s'.limiter).filter (Entry.concerns "10.0.0.1" "pair") := by
  let s₀ : Ongoing := { limiter := { sourceFailureLimit := 2, targetFailureLimit := 1 } }
  have hstart : system.start s₀ := ⟨2, 1, .fixed, by decide, by decide, rfl⟩
  -- our source fails once; later another source has our target blocked
  let ours : List Command :=
    [.verify 0 0 "10.0.0.1" "first" .deviceLogin, .finish 0 false 0,
      .verify 1 (seconds 500) "10.0.0.2" "pair" .deviceLogin, .finish 1 false (seconds 500)]
  -- we are refused when our failure has run out, and fail again afterwards
  let again : List Command :=
    [.verify 3 (seconds 905) "10.0.0.1" "pair" .deviceLogin,
      .verify 4 (seconds 1500) "10.0.0.1" "pair" .deviceLogin, .finish 4 false (seconds 1500)]
  have hplay : (System.play attempt s₀
      (ours ++ [.clear (fun _ _ => false) (seconds 890)] ++ again)).any (fun way =>
        (System.play attempt s₀
          (ours ++ [.verify 2 (seconds 890) "10.0.0.3" "other" .deviceLogin] ++ again)).any (fun way' =>
          decide (way.1.map (fun t => t.after.clock) = way'.1.map (fun t => t.after.clock) ∧
            way.1.filterMap (seen "10.0.0.1" "pair") = way'.1.filterMap (seen "10.0.0.1" "pair") ∧
            (∀ t ∈ way.1 ++ way'.1, t.after.limiter.sources.size < kMaxEntries ∧
              t.after.limiter.targets.size < kMaxEntries) ∧
            way.2.clock ≤ seconds 1500 ∧ way'.2.clock ≤ seconds 1500 ∧
            (snapshot (seconds 1500) way.2.limiter).filter (Entry.concerns "10.0.0.1" "pair") ≠
              (snapshot (seconds 1500) way'.2.limiter).filter
                (Entry.concerns "10.0.0.1" "pair")))) = true := by
    decide +kernel
  obtain ⟨ts, s, hpath, hplay'⟩ := System.exists_path_of_play attempt_steps hplay
  obtain ⟨ts', s', hpath', htest⟩ := System.exists_path_of_play attempt_steps hplay'
  obtain ⟨hclocks, hseen, hroom, hnow, hnow', hdiffer⟩ := of_decide_eq_true htest
  refine ⟨s₀, ts, s, ts', s', seconds 1500, hstart, hpath, hpath', hclocks, hseen, ?_, hnow, hnow',
    hdiffer⟩
  intro t ht d
  cases d with
  | source => exact (hroom t ht).1
  | target => exact (hroom t ht).2

end Ongoing

end CrossDesk.DeviceAuthLimiter
