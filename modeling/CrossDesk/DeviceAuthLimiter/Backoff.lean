import CrossDesk.DeviceAuthLimiter.Effects

/-!
# The backoff ladder

With the exponential policy a bucket climbs a ladder: from the failure that reaches the limit on, each
failure doubles the cooldown, up to four hours, and the failures are remembered for half an hour after
the cooldown. What the bucket stores is a summary of its *chronicle*: when its window started and at
what times failures were recorded since. `Chronicle` is that abstract model, `Tells` says that a
bucket is the summary of a chronicle, and each thing that can happen to a bucket (`Effect`) keeps it
one.
-/

namespace CrossDesk.DeviceAuthLimiter

/-- The wait in seconds after the failure that is `k` rungs above the limit. -/
def ladderWait (k : Nat) : Nat := min (kInitialBackoff * 2 ^ k) kMaxBackoff

theorem ladderWait_zero : ladderWait 0 = kInitialBackoff := by decide

theorem ladderWait_pos (k : Nat) : 0 < ladderWait k := by
  unfold ladderWait
  have hpow : 0 < 2 ^ k := Nat.two_pow_pos k
  refine Nat.lt_min.mpr ⟨?_, by decide⟩
  exact Nat.mul_pos (by decide) hpow

/-- Doubling climbs one rung. -/
theorem ladderWait_succ (k : Nat) : min (ladderWait k * 2) kMaxBackoff = ladderWait (k + 1) := by
  unfold ladderWait
  have hpow : 2 ^ (k + 1) = 2 ^ k * 2 := pow_succ 2 k
  rw [hpow, ← Nat.mul_assoc]
  omega

/-! ## The abstract model -/

/-- The life of a bucket since its last reset: when its window started, and when failures were
recorded. -/
structure Chronicle where
  started : TimePoint
  failures : List TimePoint := []
  deriving DecidableEq, Repr

namespace Chronicle

/-- How far above the limit the last failure is. The failure that reaches it is on rung 0. -/
def rung (limit : Nat) (c : Chronicle) : Option Nat :=
  if c.failures.length < limit then none else some (c.failures.length - limit)

def blockedUntil (limit : Nat) (c : Chronicle) : TimePoint :=
  match c.rung limit with
  | none => 0
  | some k => c.failures.getLastD 0 + seconds (ladderWait k)

def expires (limit : Nat) (c : Chronicle) : TimePoint :=
  match c.rung limit with
  | none => c.started + seconds kWindow
  | some _ => c.blockedUntil limit + seconds kBackoffRecovery

def backoff (limit : Nat) (c : Chronicle) : Nat :=
  match c.rung limit with
  | none => 0
  | some k => ladderWait k

/-- One more event, at time `now`. -/
def note (now : TimePoint) (c : Chronicle) : BucketEvent → Chronicle
  | .reset => ⟨now, []⟩
  | .recorded => { c with failures := c.failures ++ [now] }
  | .cooldown => c

/-- The chronicle after a step: of a bucket that is still there, or there now. -/
def advance (now : TimePoint) (events : List BucketEvent) (after : Option Failures)
    (c : Option Chronicle) : Option Chronicle :=
  after.map (fun _ => events.foldl (note now) (c.getD ⟨now, []⟩))

/-- A failure above the limit waits for the cooldown of the one before it. -/
def Paced (limit : Nat) (failures : List TimePoint) : Prop :=
  ∀ (k : Nat) (early late : TimePoint), failures[limit - 1 + k]? = some early →
    failures[limit + k]? = some late → early + seconds (ladderWait k) ≤ late

/-- The bucket is the summary of the chronicle. -/
structure Tells (limit : Nat) (c : Chronicle) (f : Failures) : Prop where
  count : f.count = min c.failures.length limit
  blockedUntil : f.blockedUntil = c.blockedUntil limit
  expires : f.expires = c.expires limit
  backoff : f.backoff = c.backoff limit
  paced : Paced limit c.failures

/-- There is a chronicle exactly when there is a bucket, and it tells the bucket. -/
def Told (limit : Nat) : Option Chronicle → Option Failures → Prop
  | some c, some f => Tells limit c f
  | none, none => True
  | _, _ => False

namespace Tells

variable {limit : Nat} {c : Chronicle} {f : Failures} {now : TimePoint}

theorem setPending (h : Tells limit c f) (p : Nat) : Tells limit c (f.setPending p) :=
  ⟨h.count, h.blockedUntil, h.expires, h.backoff, h.paced⟩

/-- A bucket whose window has just started. -/
theorem started (hlimit : 1 ≤ limit) (hcount : f.count = 0) (hblocked : f.blockedUntil = 0)
    (hexpires : f.expires = now + seconds kWindow) (hbackoff : f.backoff = 0) :
    Tells limit ⟨now, []⟩ f := by
  have hrung : rung limit ⟨now, []⟩ = none := if_pos hlimit
  refine ⟨by simp [hcount], ?_, ?_, ?_, ?_⟩
  · rw [hblocked, Chronicle.blockedUntil, hrung]
  · rw [hexpires, Chronicle.expires, hrung]
  · rw [hbackoff, Chronicle.backoff, hrung]
  · intro k early late hearly
    simp at hearly

/-- A cooldown is over before the failures are forgotten. -/
theorem blocked_le (h : Tells limit c f) : f.blockedUntil ≤ f.expires := by
  rw [h.blockedUntil, h.expires]
  unfold Chronicle.expires
  cases hrung : c.rung limit with
  | none =>
    rw [Chronicle.blockedUntil, hrung]
    exact Nat.zero_le _
  | some k => exact Nat.le_add_right _ _

/-- A refreshed bucket is the one before, or its window has just started. -/
theorem refreshed (h : Tells limit c f) (hlimit : 1 ≤ limit) (now : TimePoint) :
    Tells limit ((refreshEvents f now).foldl (note now) c) (resetExpired f now) := by
  unfold refreshEvents resetExpired
  split
  · exact h
  · exact started hlimit rfl rfl rfl rfl

/-- The failure is the next one of the chronicle, and it climbs a rung if it is not below the limit. -/
theorem failed (h : Tells limit c f) (hlimit : 1 ≤ limit) (hopen : f.blockedUntil ≤ now)
    (operation : Operation) :
    Tells limit (c.note now .recorded) (record .exponential f limit now operation) := by
  have hcount := h.count
  have hlength : (c.failures ++ [now]).length = c.failures.length + 1 := by simp
  by_cases hlow : c.failures.length + 1 < limit
  · have hrung : c.rung limit = none := if_pos (by omega)
    have hrung' : (c.note now .recorded).rung limit = none := if_pos (by simpa [note] using hlow)
    have hblocked := h.blockedUntil
    have hexpires := h.expires
    have hbackoff := h.backoff
    unfold Chronicle.blockedUntil Chronicle.expires Chronicle.backoff at *
    rw [hrung] at hblocked hexpires hbackoff
    rw [record_of_lt (by omega)]
    refine ⟨?_, ?_, ?_, ?_, ?_⟩
    · show f.count + 1 = min (c.failures ++ [now]).length limit
      omega
    · rw [Chronicle.blockedUntil, hrung']
      exact hblocked
    · rw [Chronicle.expires, hrung']
      exact hexpires
    · rw [Chronicle.backoff, hrung']
      exact hbackoff
    · intro k early late hearly hlate
      have hshort : limit + k < (c.failures ++ [now]).length := (List.getElem?_eq_some_iff.mp hlate).1
      omega
  · obtain ⟨k, hk⟩ : ∃ k, c.failures.length + 1 = limit + k := ⟨c.failures.length + 1 - limit, by omega⟩
    have hrung' : (c.note now .recorded).rung limit = some k := by
      unfold rung note
      dsimp only
      rw [if_neg (by omega), hlength]
      congr 1
      omega
    have hlast : (c.note now .recorded).failures.getLastD 0 = now := by simp [note]
    -- the wait of this rung
    have hwait : (if f.backoff = 0 then kInitialBackoff else min (f.backoff * 2) kMaxBackoff) =
        ladderWait k := by
      rw [h.backoff]
      unfold Chronicle.backoff rung
      by_cases hfirst : c.failures.length < limit
      · have hzero : k = 0 := by omega
        rw [if_pos hfirst, hzero, ladderWait_zero]
        rfl
      · have hsucc : k = (c.failures.length - limit) + 1 := by omega
        have hpos := ladderWait_pos (c.failures.length - limit)
        rw [if_neg hfirst]
        dsimp only
        rw [if_neg (by omega), ladderWait_succ, hsucc]
    have hrecord : record .exponential f limit now operation =
        { f with
          count := limit
          operations := f.operations ||| operation.toNat
          backoff := ladderWait k
          blockedUntil := now + seconds (ladderWait k)
          expires := now + seconds (ladderWait k) + seconds kBackoffRecovery } := by
      have hle : f.count ≤ limit := by omega
      have hfull := record_count_of_le .exponential now operation hle (by omega)
      rw [← hwait]
      unfold record at hfull ⊢
      grind
    rw [hrecord]
    have hblocked' : (c.note now .recorded).blockedUntil limit = now + seconds (ladderWait k) := by
      rw [Chronicle.blockedUntil, hrung', hlast]
    refine ⟨?_, hblocked'.symm, ?_, ?_, ?_⟩
    · show limit = min (c.failures ++ [now]).length limit
      omega
    · rw [Chronicle.expires, hrung', hblocked']
    · rw [Chronicle.backoff, hrung']
    · intro j early late hearly hlate
      change (c.failures ++ [now])[limit - 1 + j]? = some early at hearly
      change (c.failures ++ [now])[limit + j]? = some late at hlate
      have hshort : limit + j < (c.failures ++ [now]).length := (List.getElem?_eq_some_iff.mp hlate).1
      by_cases hnew : limit + j = c.failures.length
      · -- the new failure came after the cooldown of the last one
        have hj : limit - 1 + j = c.failures.length - 1 := by omega
        rw [hnew, List.getElem?_concat_length] at hlate
        cases hlate
        rw [hj, List.getElem?_append_left (by omega), ← List.getLast?_eq_getElem?] at hearly
        have hrung : c.rung limit = some j := by
          unfold rung
          rw [if_neg (by omega)]
          congr 1
          omega
        rw [h.blockedUntil, Chronicle.blockedUntil, hrung, List.getLastD_eq_getLast?, hearly] at hopen
        exact hopen
      · rw [List.getElem?_append_left (by omega)] at hearly hlate
        exact h.paced j early late hearly hlate

end Tells

/-- **Whatever happens to a bucket, it stays the summary of its chronicle.** -/
theorem Told.step {limit : Nat} {clearing : Prop} {now : TimePoint} {b b' : Option Failures}
    {events : List BucketEvent} {c : Option Chronicle} (hlimit : 1 ≤ limit) (h : Told limit c b)
    (heffect : Effect limit .exponential clearing now b events b') :
    Told limit (advance now events b' c) b' := by
  have hfresh : Tells limit ⟨now, []⟩ (opened now) := .started hlimit rfl rfl rfl rfl
  cases heffect with
  | idle =>
    cases b with
    | none => trivial
    | some f =>
      cases c with
      | none => exact h.elim
      | some c => exact h
  | pruned => trivial
  | reopened => exact hfresh
  | opened =>
    cases c with
    | none => exact hfresh
    | some c => exact h.elim
  | refreshed p =>
    cases c with
    | none => exact h.elim
    | some c => exact (Tells.refreshed h hlimit now).setPending p
  | released => trivial
  | @charged f p operation hopen =>
    cases c with
    | none => exact h.elim
    | some c =>
      have hrefreshed := Tells.refreshed h hlimit now
      have hstill : (resetExpired f now).blockedUntil ≤ now := by
        unfold resetExpired
        split
        · exact hopen
        · exact Nat.zero_le now
      have hfailed := (hrefreshed.failed hlimit hstill operation).setPending p
      -- a cooldown is logged with the failure, and is not one of its own
      have hnotes : (refreshEvents f now ++ recordEvents limit (resetExpired f now)).foldl
          (note now) c = ((refreshEvents f now).foldl (note now) c).note now .recorded := by
        rw [List.foldl_append]
        unfold recordEvents
        split <;> rfl
      show Tells limit ((refreshEvents f now ++ recordEvents limit (resetExpired f now)).foldl
        (note now) c) _
      rw [hnotes]
      exact hfailed
  | cleared =>
    cases c with
    | none => exact h.elim
    | some c =>
      refine Tells.started hlimit ?_ ?_ ?_ ?_ <;> simp [resetExpired]
  | erased => trivial

end Chronicle

/-! ## Chronicles of a run -/

abbrev Transition := System.Transition Monitored Step

/-- The chronicle of a bucket over a run. -/
def chronicle (d : Dimension) (key : String) (ts : List Transition) : Option Chronicle :=
  ts.foldl (fun c t => Chronicle.advance (t.label.actsAt d key) (t.before.happens t.label d key)
    (t.after.bucket d key) c) none

theorem chronicle_append (d : Dimension) (key : String) (ts : List Transition) (t : Transition) :
    chronicle d key (ts ++ [t]) = Chronicle.advance (t.label.actsAt d key)
      (t.before.happens t.label d key) (t.after.bucket d key) (chronicle d key ts) := by
  simp [chronicle, List.foldl_append]

section Runs

variable {s₀ s : Monitored} {ts : List Transition}

theorem start_reachable (hstart : Monitored.system.start s₀) : Monitored.system.Reachable s₀ :=
  ⟨[], .start hstart⟩

theorem config_kept (h : System.Path Monitored.system s₀ ts s) :
    s.limiter.policy = s₀.limiter.policy ∧ ∀ d, s.limiter.limit d = s₀.limiter.limit d := by
  refine h.keeps (I := fun s => s.limiter.policy = s₀.limiter.policy ∧
    ∀ d, s.limiter.limit d = s₀.limiter.limit d) (P := fun _ => True) ?_ ⟨rfl, fun _ => rfl⟩
    (fun _ _ => trivial)
  intro t hkept hstep _
  have hsame := Monitored.Steps.config hstep
  exact ⟨hsame.1.trans hkept.1, fun d => (hsame.2 d).trans (hkept.2 d)⟩

/-- Every bucket is told by its chronicle. -/
theorem told (hstart : Monitored.system.start s₀) (hpolicy : s₀.limiter.policy = .exponential)
    (h : System.Path Monitored.system s₀ ts s) (d : Dimension) (key : String) :
    Chronicle.Told (s₀.limiter.limit d) (chronicle d key ts) (s.bucket d key) := by
  have hlimit := (Safe.start hstart).limit_pos d
  refine h.history (P := fun ts s =>
    Chronicle.Told (s₀.limiter.limit d) (chronicle d key ts) (s.bucket d key)) ?_ ?_
  · obtain ⟨sourceLimit, targetLimit, policy, _, _, rfl⟩ := hstart
    cases d <;> trivial
  · intro ts t hpath htold hstep
    have hconfig := config_kept hpath
    have heffect := Monitored.Steps.effect (hpath.reachable (start_reachable hstart)) hstep d key
    rw [hconfig.1, hpolicy, hconfig.2] at heffect
    rw [chronicle_append]
    exact Chronicle.Told.step hlimit htold heffect

end Runs

/-! ## The ladder -/

/-- The failures and the times of a bucket. -/
def SameTerms (f f' : Failures) : Prop :=
  f'.count = f.count ∧ f'.blockedUntil = f.blockedUntil ∧ f'.expires = f.expires ∧
    f'.backoff = f.backoff

/-- Success, refusal and admission leave a live bucket its failures and its times. It is dropped only
when it has no failures, and the verification that succeeds is the only one that holds it. -/
def Unmoved (d : Dimension) (key : String) (f : Failures) (t : Transition) : Prop :=
  (∃ f', t.after.bucket d key = some f' ∧ SameTerms f f') ∨
    t.after.bucket d key = none ∧ f.count = 0 ∧ f.pending = 1 ∧
      ∃ r finished, t.label = .finish r true finished ∧ r.key d = key

/-- What a run shows of one bucket. -/
structure Ladder (s₀ : Monitored) (ts : List Transition) (s : Monitored) (d : Dimension)
    (key : String) : Prop where
  told : Chronicle.Told (s₀.limiter.limit d) (chronicle d key ts) (s.bucket d key)
  /-- The failure that reaches the limit, and each one after it, sets the cooldown of its rung. -/
  climbs : ∀ (before later : List Transition) (t : Transition), ts = before ++ t :: later →
    .recorded ∈ t.before.happens t.label d key →
    ∃ c f, chronicle d key (before ++ [t]) = some c ∧ t.after.bucket d key = some f ∧
      c.failures.getLast? = some (t.label.actsAt d key) ∧
      ∀ k, c.failures.length = s₀.limiter.limit d + k →
        f.blockedUntil = t.label.actsAt d key + seconds (min (60 * 2 ^ k) 14400) ∧
          f.expires = f.blockedUntil + seconds 1800
  /-- And the next one comes after that cooldown. -/
  paced : ∀ c, chronicle d key ts = some c → ∀ (k : Nat) (early late : TimePoint),
    c.failures[s₀.limiter.limit d + k - 1]? = some early →
    c.failures[s₀.limiter.limit d + k]? = some late →
    early + seconds (min (60 * 2 ^ k) 14400) ≤ late
  /-- The window of a bucket below the limit is the one that started with it. -/
  window : ∀ c f, chronicle d key ts = some c → s.bucket d key = some f →
    c.failures.length < s₀.limiter.limit d → f.expires = c.started + seconds 900
  /-- Nothing but a `Clear` resets a bucket before it expires. -/
  resets : ∀ t ∈ ts, ∀ f, t.before.bucket d key = some f → ¬ t.label.clears d key →
    .reset ∈ t.before.happens t.label d key → f.expires ≤ t.label.actsAt d key
  unmoved : ∀ t ∈ ts, ∀ f, t.before.bucket d key = some f → ¬ t.label.clears d key →
    (∀ r finished, t.label ≠ .finish r false finished) → t.label.actsAt d key < f.expires →
    Unmoved d key f t

/-- An effect that resets a bucket, other than a clear, comes after its expiry. -/
theorem Effect.expired_of_reset {limit : Nat} {policy : Policy} {clearing : Prop} {now : TimePoint}
    {f : Failures} {events : List BucketEvent} {b : Option Failures}
    (h : Effect limit policy clearing now (some f) events b) (hclear : ¬ clearing)
    (hreset : .reset ∈ events) : f.expires ≤ now := by
  have hrefresh : BucketEvent.reset ∈ refreshEvents f now → f.expires ≤ now := by
    unfold refreshEvents
    split
    · intro hmem
      cases hmem
    · rename_i hexpired
      exact fun _ => Nat.le_of_not_lt hexpired
  cases h with
  | idle => cases hreset
  | pruned hexpired => exact hexpired
  | reopened hexpired => exact hexpired
  | refreshed => exact hrefresh hreset
  | released => exact hrefresh hreset
  | charged p operation =>
    rcases List.mem_append.mp hreset with hmem | hmem
    · exact hrefresh hmem
    · unfold recordEvents at hmem
      split at hmem <;> simp at hmem
  | cleared hmatch => exact absurd hmatch hclear
  | erased hmatch => exact absurd hmatch hclear

/-- An effect that neither records a failure nor clears leaves a live bucket as it is. -/
theorem Effect.unmoved {limit : Nat} {policy : Policy} {clearing : Prop} {now : TimePoint}
    {f : Failures} {events : List BucketEvent} {b : Option Failures}
    (h : Effect limit policy clearing now (some f) events b) (hclear : ¬ clearing)
    (hrecords : .recorded ∉ events) (hlive : now < f.expires) :
    (∃ f', b = some f' ∧ SameTerms f f') ∨ b = none ∧ f.count = 0 ∧ f.pending ≤ 1 := by
  have hsame : resetExpired f now = f := if_pos hlive
  cases h with
  | idle => exact .inl ⟨f, rfl, rfl, rfl, rfl, rfl⟩
  | pruned hexpired => exact absurd hlive (Nat.not_lt.mpr hexpired)
  | reopened hexpired => exact absurd hlive (Nat.not_lt.mpr hexpired)
  | refreshed p =>
    rw [hsame]
    exact .inl ⟨f.setPending p, rfl, rfl, rfl, rfl, rfl⟩
  | released hempty hlast =>
    rw [hsame] at hempty
    exact .inr ⟨rfl, hempty, hlast⟩
  | charged p operation =>
    refine absurd (List.mem_append_right _ ?_) hrecords
    unfold recordEvents
    split <;> simp
  | cleared hmatch => exact absurd hmatch hclear
  | erased hmatch => exact absurd hmatch hclear

/-- A recorded failure is the last one of the chronicle of a bucket that is there. -/
theorem Effect.charged_of_recorded {limit : Nat} {policy : Policy} {clearing : Prop}
    {now : TimePoint} {b b' : Option Failures} {events : List BucketEvent}
    (h : Effect limit policy clearing now b events b') (hrecords : .recorded ∈ events)
    (c : Option Chronicle) :
    ∃ f c', b' = some f ∧ Chronicle.advance now events b' c = some c' ∧
      c'.failures.getLast? = some now := by
  cases h with
  | idle => cases hrecords
  | pruned => simp at hrecords
  | reopened => simp at hrecords
  | opened => cases hrecords
  | refreshed => exact absurd hrecords (recorded_not_mem_refreshEvents _ _)
  | released => exact absurd hrecords (recorded_not_mem_refreshEvents _ _)
  | charged p operation hopen =>
    refine ⟨_, _, rfl, rfl, ?_⟩
    rw [List.foldl_append]
    unfold recordEvents
    split <;> simp [Chronicle.note]
  | cleared => simp at hrecords
  | erased => simp at hrecords

/-- **The backoff ladder**, for every bucket, and what a cooldown means for the next request. -/
theorem backoff_ladder {s₀ s : Monitored} {ts : List Transition}
    (hstart : Monitored.system.start s₀) (hpolicy : s₀.limiter.policy = .exponential)
    (h : System.Path Monitored.system s₀ ts s) :
    (∀ d key, Ladder s₀ ts s d key) ∧
      ∀ (now : TimePoint) (source target : String) (operation : Operation),
        0 < cooldownRemaining now source target s.limiter →
        ∃ delay, (reserve now source target operation s.limiter).1 = .retryAfter delay ∧
          cooldownRemaining now source target s.limiter ≤ delay := by
  have hlimit := (Safe.start hstart).limit_pos
  refine ⟨fun d key => ?_, ?_⟩
  · have htold := fun {ts : List Transition} {s : Monitored}
      (h : System.Path Monitored.system s₀ ts s) => told hstart hpolicy h d key
    -- what each step of the run did to the bucket
    have heffect : ∀ t ∈ ts, Effect (t.before.limiter.limit d) t.before.limiter.policy
        (t.label.clears d key) (t.label.actsAt d key) (t.before.bucket d key)
        (t.before.happens t.label d key) (t.after.bucket d key) := by
      intro t ht
      obtain ⟨before, later, rfl⟩ := List.append_of_mem ht
      obtain ⟨hfirst, hstep, _⟩ := h.around
      exact Monitored.Steps.effect (hfirst.reachable (start_reachable hstart)) hstep d key
    refine ⟨htold h, ?_, ?_, ?_, ?_, ?_⟩
    · intro before later t hts hrecords
      subst hts
      obtain ⟨hfirst, hstep, _⟩ := h.around
      have hpath := hfirst.append (.cons hstep .nil)
      have htells := htold hpath
      obtain ⟨f, c, hf, hc, hlast⟩ :=
        (heffect t (by simp)).charged_of_recorded hrecords (chronicle d key before)
      rw [← chronicle_append] at hc
      rw [hc, hf] at htells
      refine ⟨c, f, hc, hf, hlast, fun k hk => ?_⟩
      have hrung : c.rung (s₀.limiter.limit d) = some k := by
        unfold Chronicle.rung
        rw [if_neg (by omega)]
        congr 1
        omega
      have hblocked := htells.blockedUntil
      have hexpires := htells.expires
      unfold Chronicle.expires at hexpires
      rw [Chronicle.blockedUntil, hrung, List.getLastD_eq_getLast?, hlast] at hblocked
      rw [hrung, ← htells.blockedUntil] at hexpires
      exact ⟨hblocked, hexpires⟩
    · intro c hc k early late hearly hlate
      have htells := htold h
      rw [hc] at htells
      cases hbucket : s.bucket d key with
      | none =>
        rw [hbucket] at htells
        exact htells.elim
      | some f =>
        rw [hbucket] at htells
        have hpos := hlimit d
        have hindex : s₀.limiter.limit d + k - 1 = s₀.limiter.limit d - 1 + k := by omega
        rw [hindex] at hearly
        exact htells.paced k early late hearly hlate
    · intro c f hc hf hlow
      have htells := htold h
      rw [hc, hf] at htells
      have hexpires := htells.expires
      have hrung : c.rung (s₀.limiter.limit d) = none := if_pos hlow
      unfold Chronicle.expires at hexpires
      rw [hrung] at hexpires
      exact hexpires
    · intro t ht f hf hclear hreset
      have heff := heffect t ht
      rw [hf] at heff
      exact heff.expired_of_reset hclear hreset
    · intro t ht f hf hclear hfails hlive
      have heff := heffect t ht
      rw [hf] at heff
      have hunmoved := heff.unmoved hclear (fun hrecords => ?_) hlive
      · refine hunmoved.imp_right fun ⟨hgone, hcount, hpending⟩ => ?_
        obtain ⟨before, later, rfl⟩ := List.append_of_mem ht
        obtain ⟨hfirst, hstep, _⟩ := h.around
        have hreach := hfirst.reachable (start_reachable hstart)
        -- it was dropped by a verification that held it
        obtain ⟨r, authenticated, finished, hlabel, hflying, hkey⟩ :=
          Monitored.Steps.releases hstep hf hclear hlive hgone
        obtain ⟨f', hf', hheld⟩ := (Safe.reachable hreach).held hflying d
        rw [hkey, hf] at hf'
        cases hf'
        refine ⟨hgone, hcount, by omega, r, finished, ?_, hkey⟩
        cases authenticated with
        | true => exact hlabel
        | false => exact absurd hlabel (hfails r finished)
      · obtain ⟨r, finished, hlabel⟩ := recorded_of_happens hrecords
        exact hfails r finished hlabel
  · intro now source target operation hcooling
    have hexpires : ∀ (d : Dimension) (key : String) (f : Failures),
        (s.limiter.buckets d)[key]? = some f → f.blockedUntil ≤ f.expires := by
      intro d key f hf
      have htells := told hstart hpolicy h d key
      rw [show s.bucket d key = some f from hf] at htells
      cases hc : chronicle d key ts with
      | none =>
        rw [hc] at htells
        exact htells.elim
      | some c =>
        rw [hc] at htells
        exact htells.blocked_le
    have hle : cooldownRemaining now source target s.limiter ≤
        waitFor now source target s.limiter := by
      rw [cooldownRemaining_eq]
      exact max_le_max (cooldownOf_le_retry (hexpires .source _) _)
        (cooldownOf_le_retry (hexpires .target _) _)
    exact ⟨_, (reserve_answer now source target operation s.limiter).1 (hcooling.trans_le hle), hle⟩

/-! ## Two runs -/

/-- A step of a verification, computed. -/
def Monitored.attempt (s : Monitored) (step : Step) : Option (Step × Monitored) :=
  match step with
  | .reserve now source target operation =>
    if s.clock ≤ now then
      match reserve now source target operation s.limiter with
      | (.retryAfter _, limiter) =>
        some (step, { s with limiter, clock := now, log := s.logged step })
      | (.reserved r, limiter) =>
        some (step,
          { limiter, inFlight := r :: s.inFlight, clock := now, log := s.logged step })
    else none
  | .finish r authenticated finished =>
    if s.clock ≤ finished ∧ r ∈ s.inFlight then
      (finish r authenticated finished s.limiter).map (fun limiter =>
        (step, { limiter, inFlight := s.inFlight.erase r, clock := finished, log := s.logged step }))
    else none
  | .clear _ _ _ => none

theorem Monitored.attempt_steps (s : Monitored) (step step' : Step) (s' : Monitored)
    (h : s.attempt step = some (step', s')) : Monitored.system.step s step' s' := by
  unfold Monitored.attempt at h
  cases step with
  | reserve now source target operation =>
    dsimp only at h
    split at h
    · rename_i hclock
      rcases hreserve : reserve now source target operation s.limiter with
        ⟨delay | r, limiter⟩
      · rw [hreserve] at h
        cases h
        exact .refuse hclock hreserve
      · rw [hreserve] at h
        cases h
        exact .accept hclock hreserve
    · cases h
  | finish r authenticated finished =>
    dsimp only at h
    split at h
    · rename_i hready
      obtain ⟨limiter, hfinish, heq⟩ := Option.map_eq_some_iff.mp h
      cases heq
      exact .finish hready.1 hready.2 hfinish
    · cases h
  | clear matchesKey now done => cases h

/-- The reservation of a first verification. -/
def firstReservation (operation : Operation) : Reservation :=
  { sourceKey := "10.0.0.1", target := "pair", sourceGeneration := 0, targetGeneration := 0,
    operation }

/-- A failure at a limit of one, and the request that is told to wait. -/
theorem backoff_ladder_first_rung : ∃ s₀ ts s, (∀ d key, Ladder s₀ ts s d key) ∧
    cooldownRemaining (seconds 2) "10.0.0.1" "pair" s.limiter = 59 ∧
    ∃ delay, (reserve (seconds 2) "10.0.0.1" "pair" .deviceLogin s.limiter).1 = .retryAfter delay ∧
      59 ≤ delay := by
  let s₀ : Monitored :=
    { limiter := { sourceFailureLimit := 1, targetFailureLimit := 1, policy := .exponential } }
  have hstart : Monitored.system.start s₀ := ⟨1, 1, .exponential, le_rfl, le_rfl, rfl⟩
  have hplay : (System.play Monitored.attempt s₀
      [.reserve 0 "10.0.0.1" "pair" .deviceLogin,
        .finish (firstReservation .deviceLogin) false (seconds 1)]).any
      (fun way => cooldownRemaining (seconds 2) "10.0.0.1" "pair" way.2.limiter == 59) = true := by
    decide +kernel
  obtain ⟨ts, s, hpath, htest⟩ := System.exists_path_of_play Monitored.attempt_steps hplay
  have hremaining : cooldownRemaining (seconds 2) "10.0.0.1" "pair" s.limiter = 59 := by
    simpa using htest
  obtain ⟨hladder, hwait⟩ := backoff_ladder hstart rfl hpath
  have hnext := hwait (seconds 2) "10.0.0.1" "pair" .deviceLogin
  rw [hremaining] at hnext
  exact ⟨s₀, ts, s, hladder, hremaining, hnext (by decide)⟩

/-- Two successful verifications drop a bucket long before its window ends, and the next request
starts a new window. -/
theorem success_restarts_window : ∃ s₀ s ts, Monitored.system.start s₀ ∧
    s₀.limiter.policy = .exponential ∧ System.Path Monitored.system s₀ ts s ∧
    ∃ t ∈ ts, ∃ r finished f f', t.label = .finish r true finished ∧
      t.before.bucket .target "pair" = some f ∧ t.after.bucket .target "pair" = none ∧
      s.bucket .target "pair" = some f' ∧ s.clock < f.expires ∧ f'.expires ≠ f.expires := by
  let s₀ : Monitored := { limiter := { policy := .exponential } }
  have hstart : Monitored.system.start s₀ :=
    ⟨kSourceFailures, kTargetFailures, .exponential, by decide, by decide, rfl⟩
  let f : Failures := { expires := seconds 900, pending := 1 }
  let f' : Failures := { expires := seconds 940, pending := 1 }
  have hplay : (System.play Monitored.attempt s₀
      [.reserve 0 "10.0.0.1" "pair" .deviceLogin,
        .reserve (seconds 10) "10.0.0.1" "pair" .memberQuery,
        .finish (firstReservation .deviceLogin) true (seconds 20),
        .finish (firstReservation .memberQuery) true (seconds 30),
        .reserve (seconds 40) "10.0.0.1" "pair" .deviceLogin]).any
      (fun way => way.1.any (fun t =>
          (match t.label with
            | .finish _ true _ => true
            | _ => false) &&
          decide (t.before.bucket .target "pair" = some f) &&
          decide (t.after.bucket .target "pair" = none)) &&
        decide (way.2.bucket .target "pair" = some f') &&
        decide (way.2.clock < f.expires)) = true := by
    decide +kernel
  obtain ⟨ts, s, hpath, htest⟩ := System.exists_path_of_play Monitored.attempt_steps hplay
  simp only [Bool.and_eq_true, List.any_eq_true, decide_eq_true_eq] at htest
  obtain ⟨⟨⟨t, ht, ⟨hlabel, hbefore⟩, hafter⟩, hlast⟩, hclock⟩ := htest
  rcases hcase : t.label with _ | ⟨r, authenticated, finished⟩ | _
  · rw [hcase] at hlabel
    cases hlabel
  · cases authenticated with
    | false =>
      rw [hcase] at hlabel
      cases hlabel
    | true =>
      exact ⟨s₀, s, ts, hstart, rfl, hpath, t, ht, r, finished, f, f', hcase, hbefore, hafter, hlast,
        hclock, by decide⟩
  · rw [hcase] at hlabel
    cases hlabel

end CrossDesk.DeviceAuthLimiter
