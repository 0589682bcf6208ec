import CrossDesk.Lib.System
import CrossDesk.Lib.FixedWindow
import CrossDesk.CredentialWorkLimiter.Basic

/-!
# Rate and isolation of the work limiter

Calls of `Admit` are serialized by the limiter's mutex, so a run is a sequence of calls at times that
never go back. What is proved of it: a source gets at most the limit from one window and at most twice
the limit from any minute; a refusal changes nothing that counts, and the wait it names is enough,
with one exception; the table stays within its bound; and a source gets the answers it would get
alone.

The exception: a source whose window has ended may lose its place in the table before it comes back,
and finds no place while other sources fill the table.
-/

namespace CrossDesk.CredentialWorkLimiter

open DeviceAuthLimiter (kMaxEntries)

/-- The limiter and the last clock reading. -/
structure Metered where
  limiter : CredentialWorkLimiter
  clock : TimePoint := 0

/-- A call of `Admit` with its answer. -/
structure Call where
  now : TimePoint
  source : String
  answer : Nat
  deriving DecidableEq, Repr

/-- The source that a call counts against. -/
def Call.key (call : Call) : String := keyOf call.source

/-- One call. -/
inductive Calls (s : Metered) : Call → Metered → Prop where
  | mk {now : TimePoint} {source : String} (hclock : s.clock ≤ now) :
      Calls s ⟨now, source, (admitSource now source s.limiter).1⟩
        ⟨(admitSource now source s.limiter).2, now⟩

/-- A limiter under calls. The constructor refuses a limit of zero. -/
def system : System Metered Call where
  start s := ∃ sourceLimit : Nat, 1 ≤ sourceLimit ∧ s = { limiter := { sourceLimit } }
  step := Calls

abbrev Transition := System.Transition Metered Call

/-- The limiter after a call, by what the call came to. -/
theorem Calls.outcome {s s' : Metered} {call : Call} (h : Calls s call s') :
    s.clock ≤ call.now ∧ s'.clock = call.now ∧
      s'.limiter.sourceLimit = s.limiter.sourceLimit ∧
      Outcome call.now call.key s.limiter call.answer s'.limiter.sources := by
  cases h with
  | mk hclock =>
    obtain ⟨hlimit, houtcome⟩ := admitSource_cases _ _ s.limiter
    exact ⟨hclock, rfl, hlimit, houtcome⟩

namespace Outcome

variable {now : TimePoint} {key : String} {s : CredentialWorkLimiter} {answer : Nat}
  {sources : OrdMap String Window}

/-- Other sources keep what the sweep leaves them. -/
theorem others (h : Outcome now key s answer sources) {k : String} (hk : k ≠ key) :
    sources[k]? = (swept now s)[k]? := by
  cases h with
  | crowded => rfl
  | granted => grind
  | exhausted => grind

/-- A source that is in the table was there before, or is the one that called. -/
theorem tracked (h : Outcome now key s answer sources) {k : String} {w : Window}
    (hk : sources[k]? = some w) : k = key ∨ ∃ w, s.sources[k]? = some w := by
  by_cases hkey : k = key
  · exact .inl hkey
  · rw [h.others hkey] at hk
    exact .inr ⟨w, swept_eq_some hk⟩

/-- **The table does not outgrow its bound.** -/
theorem size_le (h : Outcome now key s answer sources) (hsize : s.sources.size ≤ kMaxEntries) :
    sources.size ≤ kMaxEntries := by
  have hswept := (size_swept_le now s).trans hsize
  have hinsert : ∀ w : Window, ¬ Crowded now s key →
      ((swept now s).insert key w).size ≤ kMaxEntries := by
    intro w hplace
    rw [Std.ExtTreeMap.size_insert]
    split
    · exact hswept
    · rename_i hnew
      have hnone : (swept now s)[key]? = none := by
        grind
      unfold Crowded at hplace
      have hroom : ¬ kMaxEntries ≤ (swept now s).size := fun hle => hplace ⟨hnone, hle⟩
      omega
  cases h with
  | crowded => exact hswept
  | granted hplace => exact hinsert _ hplace
  | exhausted hplace => exact hinsert _ hplace

end Outcome

/-! ## Granted requests -/

/-- The end of the window of a source, as the table has it. -/
def windowEnd (s : Metered) (key : String) : TimePoint :=
  ((s.limiter.sources[key]?).map Window.expires).getD 0

/-- What a call grants a source. -/
def grant (key : String) (t : Transition) : Option Grant :=
  if t.label.key = key ∧ t.label.answer = 0 then some ⟨t.label.now, windowEnd t.after key⟩ else none

/-- Everything a source was granted, with the windows that granted it. -/
def grants (key : String) (ts : List Transition) : List Grant := ts.filterMap (grant key)

/-- A window of the table, for the ledger of its source. -/
def Window.toOpen (w : Window) : OpenWindow := ⟨w.count, w.expires⟩

theorem grants_append (key : String) (ts : List Transition) (t : Transition) :
    grants key (ts ++ [t]) = grants key ts ++ (grant key t).toList := by
  unfold grants
  rw [List.filterMap_append]
  cases h : grant key t <;> simp [h]

section Ledger

variable {n : Nat} {given : List Grant} {clock now : TimePoint} {s : CredentialWorkLimiter}
  {key : String}

/-- The sweep forgets only windows that have ended. -/
theorem Ledger.swept (h : Ledger window n given clock ((s.sources[key]?).map Window.toOpen))
    (hclock : clock ≤ now) :
    Ledger window n given now (((swept now s)[key]?).map Window.toOpen) := by
  have hlater := h.later hclock
  rcases getElem?_swept now s key with hkey | hkey
  · rw [hkey]
    unfold live
    cases hw : s.sources[key]? with
    | none =>
      rw [hw] at hlater
      exact hlater
    | some w =>
      rw [hw] at hlater
      by_cases hended : w.expires ≤ now
      · simpa [Option.filter, hended] using hlater.forget hended
      · simpa [Option.filter, hended] using hlater
  · rw [hkey]
    exact hlater

/-- The window a call draws from is the current one. -/
theorem Ledger.current (h : Ledger window n given clock ((s.sources[key]?).map Window.toOpen))
    (hclock : clock ≤ now) :
    Ledger window n given now (some (current now s key).toOpen) := by
  have hlater := h.later hclock
  have hopened : Ledger window n given now none →
      Ledger window n given now (some (Window.toOpen ⟨0, now + window⟩)) :=
    fun hnone => hnone.opened (by decide)
  unfold CredentialWorkLimiter.current live
  cases hw : s.sources[key]? with
  | none =>
    rw [hw] at hlater
    exact hopened hlater
  | some w =>
    rw [hw] at hlater
    by_cases hended : w.expires ≤ now
    · simpa [Option.filter, hended] using hopened (hlater.forget hended)
    · simpa [Option.filter, hended] using hlater

end Ledger

/-- The grants of every source so far fit its window in the table. -/
def Metered.Ledgered (n : Nat) (ts : List Transition) (s : Metered) : Prop :=
  s.limiter.sourceLimit = n ∧ ∀ key, Ledger window n (grants key ts) s.clock
    ((s.limiter.sources[key]?).map Window.toOpen)

/-- Every call keeps the ledgers. -/
theorem Metered.Ledgered.step {n : Nat} {ts : List Transition} {t : Transition}
    (h : Metered.Ledgered n ts t.before) (hstep : Calls t.before t.label t.after) :
    Metered.Ledgered n (ts ++ [t]) t.after := by
  obtain ⟨hlimit, hledger⟩ := h
  obtain ⟨hclock, hafter, hsame, houtcome⟩ := hstep.outcome
  refine ⟨hsame.trans hlimit, fun key => ?_⟩
  rw [grants_append, hafter]
  by_cases hkey : key = t.label.key
  · subst hkey
    have hcurrent := Ledger.current (hledger t.label.key) hclock
    generalize hanswer : t.label.answer = answer at houtcome
    generalize hsources : t.after.limiter.sources = sources at houtcome ⊢
    cases houtcome with
    | crowded hfull =>
      have hnone : grant t.label.key t = none := if_neg (by simp [hanswer])
      rw [hnone, Option.toList_none, List.append_nil]
      exact Ledger.swept (hledger t.label.key) hclock
    | granted hplace hroom =>
      have hsome : grant t.label.key t =
          some ⟨t.label.now, (current t.label.now t.before.limiter t.label.key).expires⟩ := by
        unfold grant windowEnd
        rw [if_pos ⟨rfl, hanswer⟩, hsources]
        simp
      rw [hsome, Option.toList_some, Std.ExtTreeMap.getElem?_insert_self]
      rw [hlimit] at hroom
      exact hcurrent.granted (current_live _ _ _) hroom
    | exhausted hplace hused =>
      have hnone : grant t.label.key t = none := by
        refine if_neg ?_
        rintro ⟨_, hzero⟩
        rw [hzero] at hanswer
        have hpos := ceilSeconds_pos.mpr (Nat.sub_pos_of_lt
          (current_live t.label.now t.before.limiter t.label.key))
        omega
      rw [hnone, Option.toList_none, List.append_nil, Std.ExtTreeMap.getElem?_insert_self]
      exact hcurrent
  · have hnone : grant key t = none := if_neg (fun h => hkey h.1.symm)
    rw [hnone, Option.toList_none, List.append_nil, houtcome.others hkey]
    exact Ledger.swept (hledger key) hclock

/-- The ledgers are right after every run. -/
theorem ledgered {s₀ s : Metered} {ts : List Transition} (hstart : system.start s₀)
    (h : System.Path system s₀ ts s) : Metered.Ledgered s₀.limiter.sourceLimit ts s := by
  refine h.history (P := Metered.Ledgered s₀.limiter.sourceLimit) ?_ ?_
  · obtain ⟨sourceLimit, _, rfl⟩ := hstart
    refine ⟨rfl, fun key => ?_⟩
    show Ledger window sourceLimit [] 0 (((∅ : OrdMap String Window)[key]?).map Window.toOpen)
    simpa using Ledger.start window sourceLimit 0
  · intro ts t _ hledgered hstep
    exact hledgered.step hstep

/-! ## Refused requests -/

/-- A call touches no live window but that of its source. -/
theorem Outcome.live_others {now : TimePoint} {key : String} {s s' : CredentialWorkLimiter}
    {answer : Nat} (h : Outcome now key s answer s'.sources) {k : String} (hk : k ≠ key)
    {later : TimePoint} (hlater : now ≤ later) : live later s' k = live later s k := by
  unfold live
  rw [h.others hk]
  rcases getElem?_swept now s k with hkey | hkey
  · rw [hkey, live, Option.filter_filter]
    cases s.sources[k]? with
    | none => rfl
    | some w =>
      by_cases hended : w.expires ≤ later
      · simp [Option.filter, hended]
      · have hlive : ¬ w.expires ≤ now := fun hle => hended (hle.trans hlater)
        simp [Option.filter, hended, hlive]
  · rw [hkey]

/-- **A refusal changes nothing that counts.** -/
theorem Outcome.live_refused {now : TimePoint} {key : String} {s s' : CredentialWorkLimiter}
    {answer : Nat} (hlimit : 1 ≤ s.sourceLimit) (h : Outcome now key s answer s'.sources)
    (hrefused : 0 < answer) (k : String) : live now s' k = live now s k := by
  by_cases hk : k = key
  · subst hk
    generalize hsources : s'.sources = sources at h
    unfold live at *
    rw [hsources]
    cases h with
    | crowded hfull => exact live_swept now s k
    | granted => omega
    | exhausted hplace hused =>
      rw [Std.ExtTreeMap.getElem?_insert_self]
      -- a window that is used up is a live one, since a fresh one has nothing used
      have hcurrent : live now s k = some (current now s k) := by
        unfold current at *
        cases hw : live now s k with
        | none =>
          rw [hw] at hused
          simp only [Option.getD_none] at hused
          omega
        | some w => rfl
      have hlive := current_live now s k
      unfold live at hcurrent
      rw [hcurrent]
      simpa [Option.filter] using hlive
  · exact h.live_others hk le_rfl

/-- A source that the table holds is not crowded out by the sweep of its own call. -/
theorem not_crowded_of_tracked {now : TimePoint} {s : CredentialWorkLimiter} {key : String}
    (hsize : s.sources.size ≤ kMaxEntries) {w : Window} (hw : s.sources[key]? = some w) :
    ¬ Crowded now s key := by
  rintro ⟨hgone, hfull⟩
  unfold swept at hgone hfull
  split at hgone
  · rename_i hdue
    rw [if_pos hdue] at hfull
    -- the sweep took this window away, so it made room
    have hended : w.expires ≤ now := by
      unfold sweep at hgone
      grind
    have hcount := OrdMap.size_filter_add s.sources (fun _ value => decide (value.expires ≤ now))
    have hpos : 0 < (s.sources.toList.filter (fun e => decide (e.2.expires ≤ now))).length := by
      apply List.length_pos_of_mem (a := (key, w))
      rw [List.mem_filter]
      exact ⟨OrdMap.mem_toList.mpr hw, by simpa using hended⟩
    unfold sweep at hfull
    omega
  · rw [hw] at hgone
    cases hgone

/-- The window of a source that ends at `e` is used up. When it has ended, it may be gone. -/
structure Spent (e : TimePoint) (key : String) (s : Metered) : Prop where
  held : s.clock < e → ∃ w : Window, s.limiter.sources[key]? = some w
  used : ∀ w : Window, s.limiter.sources[key]? = some w →
    w.expires = e ∧ s.limiter.sourceLimit ≤ w.count

namespace Spent

variable {e : TimePoint} {key : String} {s s' : Metered} {call : Call}

/-- While the window lasts, it is the one the next call draws from. -/
theorem current_eq (h : Spent e key s) {now : TimePoint} (hclock : s.clock ≤ now) (hlive : now < e) :
    ∃ w : Window, live now s.limiter key = some w ∧ (swept now s.limiter)[key]? = some w ∧
      w.expires = e ∧ s.limiter.sourceLimit ≤ w.count := by
  obtain ⟨w, hw⟩ := h.held (Nat.lt_of_le_of_lt hclock hlive)
  obtain ⟨hend, hcount⟩ := h.used w hw
  have hnow : live now s.limiter key = some w := live_eq_some.mpr ⟨hw, hend ▸ hlive⟩
  refine ⟨w, hnow, ?_, hend, hcount⟩
  rcases getElem?_swept now s.limiter key with hkey | hkey
  · rw [hkey, hnow]
  · rw [hkey, hw]

/-- A call keeps the window used up, unless it is one of the source after the window's end. -/
theorem step (h : Spent e key s) (hstep : Calls s call s')
    (hearly : call.key = key → call.now < e) : Spent e key s' := by
  obtain ⟨hclock, hafter, hlimit, houtcome⟩ := hstep.outcome
  have hcurrent := fun hlive : call.now < e => h.current_eq hclock hlive
  by_cases hkey : call.key = key
  · subst hkey
    obtain ⟨w, hw, hswept, hend, hcount⟩ := hcurrent (hearly rfl)
    have hown : current call.now s.limiter call.key = w := by
      unfold current
      rw [hw]
      rfl
    have hstays : s'.limiter.sources[call.key]? = some w := by
      generalize s'.limiter.sources = sources at houtcome ⊢
      generalize call.answer = answer at houtcome
      cases houtcome with
      | crowded hfull => exact hswept
      | granted _ hroom =>
        rw [hown] at hroom
        exact absurd hcount (Nat.not_le.mpr hroom)
      | exhausted =>
        rw [hown]
        exact Std.ExtTreeMap.getElem?_insert_self
    refine ⟨fun _ => ⟨w, hstays⟩, ?_⟩
    intro w' hw'
    rw [hstays] at hw'
    cases hw'
    exact ⟨hend, hlimit ▸ hcount⟩
  · refine ⟨?_, ?_⟩
    · intro hlive
      rw [hafter] at hlive
      obtain ⟨w, _, hswept, _⟩ := hcurrent hlive
      exact ⟨w, (houtcome.others (Ne.symm hkey)).trans hswept⟩
    · intro w hw
      rw [houtcome.others (Ne.symm hkey)] at hw
      rw [hlimit]
      exact h.used w (swept_eq_some hw)

/-- **After its end the source finds a fresh window**, or no place. -/
theorem ended (h : Spent e key s) (hstep : Calls s call s') (hkey : call.key = key)
    (hlate : e ≤ call.now) (hlimit : 1 ≤ s.limiter.sourceLimit) :
    if Crowded call.now s.limiter key then
      call.answer = 60 ∧ s'.limiter.sources[key]? = none
    else call.answer = 0 ∧ s'.limiter.sources[key]? = some ⟨1, call.now + window⟩ := by
  obtain ⟨_, _, _, houtcome⟩ := hstep.outcome
  subst hkey
  have hended : live call.now s.limiter call.key = none := by
    rw [Option.eq_none_iff_forall_ne_some]
    intro w hw
    obtain ⟨hw, hlive⟩ := live_eq_some.mp hw
    have hend := (h.used w hw).1
    rw [hend] at hlive
    exact absurd hlate (Nat.not_le.mpr hlive)
  have hfresh : current call.now s.limiter call.key = ⟨0, call.now + window⟩ := by
    unfold current
    rw [hended]
    rfl
  generalize s'.limiter.sources = sources at houtcome ⊢
  generalize call.answer = answer at houtcome ⊢
  cases houtcome with
  | crowded hfull =>
    rw [if_pos hfull]
    exact ⟨rfl, hfull.1⟩
  | granted hplace =>
    rw [if_neg hplace, hfresh]
    exact ⟨rfl, Std.ExtTreeMap.getElem?_insert_self⟩
  | exhausted _ hused =>
    rw [hfresh] at hused
    exact absurd (hlimit.trans hused) (Nat.not_succ_le_zero 0)

end Spent

/-- A refused source that the table holds has used up its window, which ends within the time that the
answer names. -/
theorem refused_tracked {s s' : Metered} {call : Call} (hstep : Calls s call s')
    (hsize : s.limiter.sources.size ≤ kMaxEntries) (hrefused : 0 < call.answer) {w : Window}
    (hw : s.limiter.sources[call.key]? = some w) :
    windowEnd s' call.key ≤ call.now + seconds call.answer ∧
      Spent (windowEnd s' call.key) call.key s' := by
  obtain ⟨_, _, hlimit, houtcome⟩ := hstep.outcome
  generalize hanswer : call.answer = answer at houtcome hrefused ⊢
  generalize hsources : s'.limiter.sources = sources at houtcome
  cases houtcome with
  | crowded hfull => exact absurd hfull (not_crowded_of_tracked hsize hw)
  | granted => exact absurd hrefused (Nat.lt_irrefl 0)
  | exhausted hplace hused =>
    have hstays : s'.limiter.sources[call.key]? =
        some (current call.now s.limiter call.key) := by
      rw [hsources]
      exact Std.ExtTreeMap.getElem?_insert_self
    have hend : windowEnd s' call.key = (current call.now s.limiter call.key).expires := by
      unfold windowEnd
      rw [hstays]
      rfl
    rw [hend]
    refine ⟨Nat.sub_le_iff_le_add'.mp (le_seconds_ceilSeconds _), fun _ => ⟨_, hstays⟩, ?_⟩
    intro w' hw'
    rw [hstays] at hw'
    cases hw'
    exact ⟨rfl, hlimit ▸ hused⟩

/-! ## Isolation -/

/-- Every source in the table is one of those listed. -/
def TracksOnly (keys : List String) (s : Metered) : Prop :=
  ∀ (k : String) (w : Window), s.limiter.sources[k]? = some w → k ∈ keys

theorem TracksOnly.step {keys : List String} {s s' : Metered} {call : Call}
    (h : TracksOnly keys s) (hstep : Calls s call s') (hcall : call.key ∈ keys) :
    TracksOnly keys s' := by
  obtain ⟨_, _, _, houtcome⟩ := hstep.outcome
  intro k w hw
  rcases houtcome.tracked hw with rfl | ⟨w', hw'⟩
  · exact hcall
  · exact h k w' hw'

/-- The table is not full for a source while only so many sources have called. -/
theorem TracksOnly.not_crowded {keys : List String} {s : Metered} (h : TracksOnly keys s)
    (hfew : keys.dedup.length ≤ kMaxEntries) (now : TimePoint) {key : String} (hkey : key ∈ keys) :
    ¬ Crowded now s.limiter key := by
  rintro ⟨hnone, hfull⟩
  -- the sources in the table and the one that calls are different ones
  have hnodup : (key :: (swept now s.limiter).keys).Nodup := by
    refine List.nodup_cons.mpr ⟨?_, OrdMap.nodup_keys _⟩
    intro hmem
    obtain ⟨w, hw⟩ := OrdMap.mem_keys.mp hmem
    rw [hnone] at hw
    cases hw
  have hsubset : key :: (swept now s.limiter).keys ⊆ keys.dedup := by
    intro k hk
    rw [List.mem_dedup]
    rcases List.mem_cons.mp hk with rfl | hk
    · exact hkey
    · obtain ⟨w, hw⟩ := OrdMap.mem_keys.mp hk
      exact h k w (swept_eq_some hw)
  have hlength := (hnodup.subperm hsubset).length_le
  rw [List.length_cons, Std.ExtTreeMap.length_keys] at hlength
  omega

/-- Two limiters that are the same to one source from now on. -/
structure Alike (key : String) (s alone : Metered) : Prop where
  clock : alone.clock ≤ s.clock
  limit : alone.limiter.sourceLimit = s.limiter.sourceLimit
  live : ∀ now, s.clock ≤ now → live now alone.limiter key = live now s.limiter key

namespace Alike

variable {key : String} {s s' alone : Metered} {call : Call}

/-- Calls of other sources are not noticed. -/
theorem other (h : Alike key s alone) (hstep : Calls s call s') (hkey : call.key ≠ key) :
    Alike key s' alone := by
  obtain ⟨hclock, hafter, hlimit, houtcome⟩ := hstep.outcome
  refine ⟨hafter ▸ h.clock.trans hclock, h.limit.trans hlimit.symm, ?_⟩
  intro now hnow
  rw [hafter] at hnow
  rw [houtcome.live_others hkey.symm hnow]
  exact h.live now (hclock.trans hnow)

/-- The source itself gets the same answer from both, and they stay alike. -/
theorem same (h : Alike key s alone) (hstep : Calls s call s') (hkey : call.key = key)
    (hplace : ¬ Crowded call.now s.limiter key) (hplace' : ¬ Crowded call.now alone.limiter key) :
    ∃ alone', Calls alone call alone' ∧ Alike key s' alone' := by
  obtain ⟨hclock, hafter, hlimit, houtcome⟩ := hstep.outcome
  have hcall' : Calls alone
      ⟨call.now, call.source, (admitSource call.now call.source alone.limiter).1⟩
      ⟨(admitSource call.now call.source alone.limiter).2, call.now⟩ :=
    .mk (h.clock.trans hclock)
  obtain ⟨_, _, hlimit', houtcome'⟩ := hcall'.outcome
  have hcurrent : current call.now alone.limiter key = current call.now s.limiter key := by
    unfold current
    rw [h.live call.now hclock]
  have hkey' : keyOf call.source = key := hkey
  dsimp only [Call.key] at houtcome houtcome' hlimit' hkey
  rw [hkey'] at houtcome houtcome'
  -- both answer from the same window and leave the same one
  have hanswers : (admitSource call.now call.source alone.limiter).1 = call.answer ∧
      ∃ w : Window, s'.limiter.sources[key]? = some w ∧
        (admitSource call.now call.source alone.limiter).2.sources[key]? = some w := by
    generalize (admitSource call.now call.source alone.limiter).1 = answer' at houtcome' ⊢
    generalize (admitSource call.now call.source alone.limiter).2.sources = sources'
      at houtcome' ⊢
    generalize call.answer = answer at houtcome ⊢
    generalize s'.limiter.sources = sources at houtcome ⊢
    have hlimits := h.limit
    cases houtcome with
    | crowded hfull => exact absurd hfull hplace
    | granted _ hroom =>
      cases houtcome' with
      | crowded hfull => exact absurd hfull hplace'
      | granted =>
        rw [hcurrent]
        exact ⟨rfl, _, Std.ExtTreeMap.getElem?_insert_self, Std.ExtTreeMap.getElem?_insert_self⟩
      | exhausted _ hused =>
        rw [hcurrent] at hused
        omega
    | exhausted _ hused =>
      cases houtcome' with
      | crowded hfull => exact absurd hfull hplace'
      | granted _ hroom =>
        rw [hcurrent] at hroom
        omega
      | exhausted =>
        rw [hcurrent]
        exact ⟨rfl, _, Std.ExtTreeMap.getElem?_insert_self, Std.ExtTreeMap.getElem?_insert_self⟩
  obtain ⟨hanswer, w, hw, hw'⟩ := hanswers
  rw [hanswer] at hcall'
  refine ⟨_, hcall', hafter.ge, (hlimit'.trans h.limit).trans hlimit.symm, ?_⟩
  intro now _
  unfold CredentialWorkLimiter.live
  rw [hw, hw']

end Alike

/-- The calls that pass the test get the answers they would get without the others. -/
def AnsweredAlone (mine : Call → Bool) (s₀ : Metered) (ts : List Transition) : Prop :=
  ∃ ts' s', System.Path system s₀ ts' s' ∧
    ts'.map System.Transition.label = (ts.map System.Transition.label).filter mine

/-- While few sources have called, each is answered as if it were alone. -/
theorem answered_alone {s₀ s : Metered} {ts : List Transition} {keys : List String}
    (hstart : system.start s₀) (h : System.Path system s₀ ts s)
    (hkeys : ∀ t ∈ ts, t.label.key ∈ keys) (hfew : keys.dedup.length ≤ kMaxEntries)
    (key : String) : AnsweredAlone (fun call => call.key == key) s₀ ts := by
  have hempty : ∀ l : List String, TracksOnly l s₀ := by
    obtain ⟨sourceLimit, _, rfl⟩ := hstart
    intro l k w hw
    have hnone : (∅ : OrdMap String Window)[k]? = some w := hw
    simp at hnone
  have hrun : (∀ t ∈ ts, t.label.key ∈ keys) → TracksOnly keys s ∧
      ∃ ts' alone, System.Path system s₀ ts' alone ∧
        ts'.map System.Transition.label =
          (ts.map System.Transition.label).filter (fun call => call.key == key) ∧
        TracksOnly [key] alone ∧ Alike key s alone := by
    refine h.history (P := fun ts s => (∀ t ∈ ts, t.label.key ∈ keys) → TracksOnly keys s ∧
      ∃ ts' alone, System.Path system s₀ ts' alone ∧
        ts'.map System.Transition.label =
          (ts.map System.Transition.label).filter (fun call => call.key == key) ∧
        TracksOnly [key] alone ∧ Alike key s alone) ?_ ?_
    · intro _
      exact ⟨hempty keys, [], s₀, .nil, rfl, hempty [key], le_rfl, rfl, fun _ _ => rfl⟩
    · intro ts t _ ih hstep hkeys
      obtain ⟨htracks, ts', alone, hpath, hlabels, honly, halike⟩ :=
        ih (fun u hu => hkeys u (List.mem_append_left _ hu))
      have hcall : t.label.key ∈ keys := hkeys t (by simp)
      refine ⟨htracks.step hstep hcall, ?_⟩
      rw [List.map_append, List.filter_append, ← hlabels]
      by_cases hkey : t.label.key = key
      · obtain ⟨alone', hstep', halike'⟩ := halike.same hstep hkey
          (htracks.not_crowded hfew _ (hkey ▸ hcall))
          (honly.not_crowded (by simp [kMaxEntries]) _ (List.mem_singleton.mpr rfl))
        refine ⟨ts' ++ [⟨alone, t.label, alone'⟩], alone', hpath.append (.cons hstep' .nil), ?_,
          honly.step hstep' (List.mem_singleton.mpr hkey), halike'⟩
        simp [hkey]
      · refine ⟨ts', alone, hpath, ?_, honly, halike.other hstep hkey⟩
        simp [hkey]
  obtain ⟨_, ts', alone, hpath, hlabels, _⟩ := hrun hkeys
  exact ⟨ts', alone, hpath, hlabels⟩

/-! ## The limiter over a run -/

/-- What a run of calls has shown, for a limit of `n` per window. -/
structure WorkBounded (n : Nat) (s₀ : Metered) (ts : List Transition) (s : Metered) : Prop where
  window_le : ∀ key e, grantsOf (grants key ts) e ≤ n
  minute_le : ∀ key t₀, (grants key ts).countP
    (fun g => decide (t₀ ≤ g.time ∧ g.time ≤ t₀ + window)) ≤ 2 * n
  /-- A refusal changes neither the count nor the end of a live window. -/
  refusal_idle : ∀ t ∈ ts, 0 < t.label.answer → ∀ key,
    live t.label.now t.after.limiter key = live t.label.now t.before.limiter key
  /-- The window that refused a source in the table is over within the time named. The first call
  after its end finds a fresh window, or the table full and the source without a place in it. -/
  refusal_ends : ∀ (before between later : List Transition) (t t' : Transition),
    ts = before ++ t :: (between ++ t' :: later) → 0 < t.label.answer →
    (∃ w : Window, t.before.limiter.sources[t.label.key]? = some w) →
    windowEnd t.after t.label.key ≤ t.label.now + seconds t.label.answer ∧
      (t'.label.key = t.label.key → windowEnd t.after t.label.key ≤ t'.label.now →
        (∀ u ∈ between, u.label.key = t.label.key →
          u.label.now < windowEnd t.after t.label.key) →
        if Crowded t'.label.now t'.before.limiter t.label.key then
          t'.label.answer = 60 ∧ t'.after.limiter.sources[t.label.key]? = none
        else t'.label.answer = 0 ∧
          t'.after.limiter.sources[t.label.key]? = some ⟨1, t'.label.now + window⟩)
  size_le : s.limiter.sources.size ≤ kMaxEntries
  isolated : (ts.map (fun t => t.label.key)).dedup.length ≤ kMaxEntries →
    ∀ key, AnsweredAlone (fun call => call.key == key) s₀ ts

/-- The limit never changes, and the table keeps its bound. -/
theorem limit_and_size {s₀ s : Metered} {ts : List Transition} (hstart : system.start s₀)
    (h : System.Path system s₀ ts s) :
    s.limiter.sourceLimit = s₀.limiter.sourceLimit ∧ s.limiter.sources.size ≤ kMaxEntries := by
  refine h.history (P := fun _ s => s.limiter.sourceLimit = s₀.limiter.sourceLimit ∧
    s.limiter.sources.size ≤ kMaxEntries) ?_ ?_
  · obtain ⟨sourceLimit, _, rfl⟩ := hstart
    exact ⟨rfl, Nat.zero_le _⟩
  · rintro ts t _ ⟨hlimit, hsize⟩ hstep
    obtain ⟨_, _, hsame, houtcome⟩ := Calls.outcome hstep
    exact ⟨hsame.trans hlimit, houtcome.size_le hsize⟩

/-- **The work limiter bounds the rate of each source and keeps sources apart.** -/
theorem work_bounded {s₀ s : Metered} {ts : List Transition} (hstart : system.start s₀)
    (h : System.Path system s₀ ts s) : WorkBounded s₀.limiter.sourceLimit s₀ ts s := by
  have hledger := (ledgered hstart h).2
  have hlimit_pos : 1 ≤ s₀.limiter.sourceLimit := by
    obtain ⟨sourceLimit, hpos, rfl⟩ := hstart
    exact hpos
  refine ⟨fun key => (hledger key).bounded, fun key => (hledger key).interval_le, ?_, ?_,
    (limit_and_size hstart h).2, fun hfew key => ?_⟩
  · intro t ht hrefused key
    obtain ⟨before, later, rfl⟩ := List.append_of_mem ht
    obtain ⟨hfirst, hstep, _⟩ := h.around
    obtain ⟨_, _, _, houtcome⟩ := Calls.outcome hstep
    exact houtcome.live_refused ((limit_and_size hstart hfirst).1 ▸ hlimit_pos) hrefused key
  · intro before between later t t' hts hrefused htracked
    obtain ⟨w, hw⟩ := htracked
    subst hts
    obtain ⟨hfirst, hstep, hrest⟩ := h.around
    obtain ⟨hmiddle, hstep', _⟩ := hrest.around
    obtain ⟨hends, hspent⟩ :=
      refused_tracked hstep (limit_and_size hstart hfirst).2 hrefused hw
    refine ⟨hends, fun hkey hlate hearly => ?_⟩
    have hspent' : Spent (windowEnd t.after t.label.key) t.label.key t'.before :=
      hmiddle.keeps
        (P := fun u => u.label.key = t.label.key →
          u.label.now < windowEnd t.after t.label.key)
        (fun _ hs hstep hearly => hs.step hstep hearly) hspent hearly
    have hreached := (hfirst.append (.cons hstep hmiddle))
    exact hspent'.ended hstep' hkey hlate ((limit_and_size hstart hreached).1 ▸ hlimit_pos)
  · refine answered_alone hstart h (fun t ht => ?_) hfew key
    exact List.mem_map_of_mem ht

/-- A full minute with one grant per window: the source is granted, refused, and granted again. -/
theorem work_bounded_minute : ∃ s₀ ts s, WorkBounded 1 s₀ ts s ∧ ts.length = 3 := by
  let s₀ : Metered := { limiter := { sourceLimit := 1 } }
  have hpath := System.Path.cons (S := system) (@Calls.mk s₀ 0 "10.0.0.1" (Nat.zero_le 0))
    (.cons (@Calls.mk _ (seconds 30) "10.0.0.1" (Nat.zero_le _))
      (.cons (@Calls.mk _ (seconds 60) "10.0.0.1" (by decide)) .nil))
  have hstart : system.start s₀ := ⟨1, le_rfl, rfl⟩
  exact ⟨s₀, _, _, work_bounded hstart hpath, rfl⟩

/-! ## Where waiting is not enough -/

/-- The sweep is put off by a minute whenever it runs. -/
theorem admitSource_nextCleanup (now : TimePoint) (source : String) (s : CredentialWorkLimiter) :
    (admitSource now source s).2.nextCleanup =
      if now ≥ s.nextCleanup then now + window else s.nextCleanup := by
  unfold admitSource
  grind

/-- Between sweeps, every new source takes a place in the table until it is full. -/
theorem fills {now : TimePoint} (names : List String) (hnodup : names.Nodup)
    (hnamed : ∀ k ∈ names, keyOf k = k) {s : Metered} (hclock : s.clock ≤ now)
    (hswept : now < s.limiter.nextCleanup) (hlimit : 1 ≤ s.limiter.sourceLimit)
    (hnew : ∀ k ∈ names, s.limiter.sources[k]? = none)
    (hroom : s.limiter.sources.size + names.length ≤ kMaxEntries) :
    ∃ ts s', System.Path system s ts s' ∧ (∀ u ∈ ts, u.label.key ∈ names) ∧ s'.clock ≤ now ∧
      now < s'.limiter.nextCleanup ∧
      s'.limiter.sources.size = s.limiter.sources.size + names.length ∧
      ∀ k ∉ names, s'.limiter.sources[k]? = s.limiter.sources[k]? := by
  induction names generalizing s with
  | nil => exact ⟨[], s, .nil, nofun, hclock, hswept, rfl, fun _ _ => rfl⟩
  | cons name names ih =>
    obtain ⟨hfresh, hnodup⟩ := List.nodup_cons.mp hnodup
    have hstep : Calls s ⟨now, name, (admitSource now name s.limiter).1⟩
        ⟨(admitSource now name s.limiter).2, now⟩ := .mk hclock
    have hkey : keyOf name = name := hnamed name List.mem_cons_self
    have hnone := hnew name List.mem_cons_self
    obtain ⟨hsame, houtcome⟩ := admitSource_cases now name s.limiter
    have hcleanup := admitSource_nextCleanup now name s.limiter
    rw [if_neg (Nat.not_le.mpr hswept)] at hcleanup
    have hunswept : swept now s.limiter = s.limiter.sources := if_neg (Nat.not_le.mpr hswept)
    -- the call takes one place
    obtain ⟨w, hsources⟩ : ∃ w, (admitSource now name s.limiter).2.sources =
        s.limiter.sources.insert name w := by
      rw [hkey] at houtcome
      generalize (admitSource now name s.limiter).2.sources = sources at houtcome ⊢
      generalize (admitSource now name s.limiter).1 = answer at houtcome
      cases houtcome with
      | crowded hfull =>
        have hsize := hfull.2
        rw [hunswept] at hsize
        rw [List.length_cons] at hroom
        omega
      | granted =>
        rw [hunswept]
        exact ⟨_, rfl⟩
      | exhausted =>
        rw [hunswept]
        exact ⟨_, rfl⟩
    have hsize : (s.limiter.sources.insert name w).size = s.limiter.sources.size + 1 := by
      rw [Std.ExtTreeMap.size_insert, if_neg]
      intro hmem
      obtain ⟨w', hw'⟩ := OrdMap.contains_iff.mp hmem
      rw [hnone] at hw'
      cases hw'
    obtain ⟨ts, s', hpath, hkeys, hclock', hswept', hgrown, hothers⟩ :=
      ih hnodup (fun k hk => hnamed k (List.mem_cons_of_mem _ hk))
        (s := ⟨(admitSource now name s.limiter).2, now⟩) le_rfl
        (by rw [hcleanup]; exact hswept) (by rw [hsame]; exact hlimit)
        (by
          intro k hk
          have hne : k ≠ name := fun heq => hfresh (heq ▸ hk)
          have hold := hnew k (List.mem_cons_of_mem _ hk)
          show (admitSource now name s.limiter).2.sources[k]? = none
          rw [hsources]
          grind)
        (by
          show (admitSource now name s.limiter).2.sources.size + _ ≤ _
          rw [hsources, hsize]
          rw [List.length_cons] at hroom
          omega)
    refine ⟨_, s', .cons hstep hpath, ?_, hclock', hswept', ?_, ?_⟩
    · intro u hu
      rcases List.mem_cons.mp hu with rfl | hu
      · exact List.mem_cons.mpr (.inl hkey)
      · exact List.mem_cons_of_mem _ (hkeys u hu)
    · rw [hgrown]
      show (admitSource now name s.limiter).2.sources.size + _ = _
      rw [hsources, hsize, List.length_cons]
      omega
    · intro k hk
      obtain ⟨hne, hk⟩ := not_or.mp (mt List.mem_cons.mpr hk)
      rw [hothers k hk]
      show (admitSource now name s.limiter).2.sources[k]? = _
      rw [hsources]
      grind

/-- A source refused while the table holds it, whose next call comes after the time it was told. -/
structure Waited (t t' : Transition) (between : List Transition) : Prop where
  refused : 0 < t.label.answer
  tracked : ∃ w : Window, t.before.limiter.sources[t.label.key]? = some w
  same : t'.label.key = t.label.key
  late : t.label.now + seconds t.label.answer ≤ t'.label.now
  first : ∀ u ∈ between, u.label.key = t.label.key →
    u.label.now < t.label.now + seconds t.label.answer

/-- Sources to fill the table with. -/
def crowd (size : Nat) : List String :=
  (List.range size).map (fun i => String.ofList (List.replicate (i + 2) 'b'))

theorem crowd_injective : Function.Injective
    (fun i : Nat => String.ofList (List.replicate (i + 2) 'b')) := by
  intro i j h
  have hlist : List.replicate (i + 2) 'b' = List.replicate (j + 2) 'b' := String.ofList_injective h
  have hlength := congrArg List.length hlist
  simpa using hlength

theorem mem_crowd {size : Nat} {k : String} (h : k ∈ crowd size) :
    keyOf k = k ∧ k ≠ "a" ∧ k ≠ "b" := by
  obtain ⟨i, _, rfl⟩ := List.mem_map.mp h
  have hne : ∀ l : List Char, l.length < 2 →
      String.ofList (List.replicate (i + 2) 'b') ≠ String.ofList l := by
    intro l hl heq
    have hlength := congrArg List.length (String.ofList_injective heq)
    rw [List.length_replicate] at hlength
    omega
  exact ⟨if_neg (hne [] (by decide)), hne ['a'] (by decide), hne ['b'] (by decide)⟩

/-- Calls of "a" and then of "b" as its window ends: the table holds "b" only. -/
theorem swept_away : ∃ s₀ s : Metered, ∃ first t second : Transition, system.start s₀ ∧
    System.Path system s₀ [first, t, second] s ∧ t.label = ⟨0, "a", 60⟩ ∧
    second.label.key = "b" ∧
    (∃ w : Window, t.before.limiter.sources["a"]? = some w) ∧ s.clock = seconds 60 ∧
    seconds 60 < s.limiter.nextCleanup ∧ s.limiter.sourceLimit = 1 ∧
    s.limiter.sources = (∅ : OrdMap String Window).insert "b" ⟨1, seconds 120⟩ := by
  let s₀ : Metered := { limiter := { sourceLimit := 1 } }
  have hpath := System.Path.cons (S := system) (@Calls.mk s₀ 0 "a" (Nat.zero_le 0))
    (.cons (@Calls.mk _ 0 "a" (Nat.zero_le 0))
      (.cons (@Calls.mk _ (seconds 60) "b" (Nat.zero_le _)) .nil))
  refine ⟨s₀, _, _, _, _, ⟨1, le_rfl, rfl⟩, hpath, by decide +kernel, by decide +kernel,
    ⟨⟨1, seconds 60⟩, by decide +kernel⟩, rfl, by decide +kernel, by decide +kernel, ?_⟩
  apply Std.ExtTreeMap.ext_toList
  decide +kernel

/-- Waiting the time named is not always enough: the table may be full when the source comes back, or
another call of the source may have come within the rounded-up second. And a source without a name
shares its budget with one called "unknown". -/
theorem waiting_not_enough :
    (∃ s₀ s t t' before between, system.start s₀ ∧
      System.Path system s₀ (before ++ t :: (between ++ [t'])) s ∧ Waited t t' between ∧
      (∀ u ∈ between, u.label.key ≠ t.label.key) ∧ t'.label.answer = 60 ∧
      t'.after.limiter.sources[t.label.key]? = none) ∧
    (∃ s₀ s t t' before between, system.start s₀ ∧
      System.Path system s₀ (before ++ t :: (between ++ [t'])) s ∧ Waited t t' between ∧
      0 < t'.label.answer) ∧
    (∃ s₀ s ts, system.start s₀ ∧ System.Path system s₀ ts s ∧
      (ts.map (fun t => t.label.source)).dedup.length < kMaxEntries ∧
      ¬ AnsweredAlone (fun call => call.source == "unknown") s₀ ts) := by
  refine ⟨?_, ?_, ?_⟩
  · obtain ⟨s₀, s, first, t, second, hstart, hpath, hlabel, hsecond, htracked, hclock, hswept,
      hlimit, hsources⟩ := swept_away
    have hone : s.limiter.sources.size = 1 := by
      rw [hsources]
      decide +kernel
    have hlookup : ∀ k, k ≠ "b" → s.limiter.sources[k]? = none := by
      intro k hk
      rw [hsources]
      grind
    obtain ⟨ts, s', hpath', hkeys, hclock', hswept', hsize, hothers⟩ :=
      fills (crowd 16383) (List.nodup_range.map crowd_injective)
        (fun k hk => (mem_crowd hk).1) hclock.le hswept hlimit.ge
        (fun k hk => hlookup k (mem_crowd hk).2.2)
        (by rw [hone]; simp [crowd, kMaxEntries])
    have hgone : s'.limiter.sources["a"]? = none := by
      rw [hothers "a" (fun hmem => (mem_crowd hmem).2.1 rfl)]
      exact hlookup "a" (by decide)
    have hfull : Crowded (seconds 60) s'.limiter "a" := by
      unfold Crowded swept
      rw [if_neg (Nat.not_le.mpr hswept'), hsize, hone]
      exact ⟨hgone, by simp [crowd, kMaxEntries]⟩
    have hcall := @Calls.mk s' (seconds 60) "a" hclock'
    obtain ⟨_, _, _, houtcome⟩ := hcall.outcome
    have hcrowded : (admitSource (seconds 60) "a" s'.limiter).1 = 60 ∧
        (admitSource (seconds 60) "a" s'.limiter).2.sources["a"]? = none := by
      have hkey : keyOf "a" = "a" := rfl
      dsimp only [Call.key] at houtcome
      rw [hkey] at houtcome
      generalize (admitSource (seconds 60) "a" s'.limiter).1 = answer at houtcome ⊢
      generalize (admitSource (seconds 60) "a" s'.limiter).2.sources = sources at houtcome ⊢
      cases houtcome with
      | crowded => exact ⟨rfl, hfull.1⟩
      | granted hplace => exact absurd hfull hplace
      | exhausted hplace => exact absurd hfull hplace
    have hkey : t.label.key = "a" := by rw [hlabel]; rfl
    have hothers' : ∀ u ∈ second :: ts, u.label.key ≠ t.label.key := by
      intro u hu
      rw [hkey]
      rcases List.mem_cons.mp hu with rfl | hu
      · rw [hsecond]
        decide
      · exact (mem_crowd (hkeys u hu)).2.1
    refine ⟨s₀, _, t, ⟨s', _, _⟩, [first], second :: ts, hstart,
      (hpath.append hpath').append (.cons hcall .nil), ⟨?_, ?_, ?_, ?_, ?_⟩, hothers',
      hcrowded.1, ?_⟩
    · rw [hlabel]
      decide
    · rw [hkey]
      exact htracked
    · rw [hkey]
      rfl
    · rw [hlabel]
      exact (Nat.zero_add _).le
    · exact fun u hu hsame => absurd hsame (hothers' u hu)
    · rw [hkey]
      exact hcrowded.2
  · let s₀ : Metered := { limiter := { sourceLimit := 1 } }
    have hpath := System.Path.cons (S := system) (@Calls.mk s₀ 0 "a" (Nat.zero_le 0))
      (.cons (@Calls.mk _ (seconds 1 / 2) "a" (Nat.zero_le _))
        (.cons (@Calls.mk _ (seconds 60) "a" (by decide))
          (.cons (@Calls.mk _ (seconds 60 + seconds 1 / 2) "a" (by decide)) .nil)))
    refine ⟨s₀, _, _, _, [_], [_], ⟨1, le_rfl, rfl⟩, hpath, ⟨by decide +kernel,
      ⟨⟨1, seconds 60⟩, by decide +kernel⟩, rfl, by decide +kernel, ?_⟩, by decide +kernel⟩
    intro u hu _
    cases List.mem_singleton.mp hu
    decide +kernel
  · let s₀ : Metered := { limiter := { sourceLimit := 1 } }
    have hpath := System.Path.cons (S := system) (@Calls.mk s₀ 0 "" (Nat.zero_le 0))
      (.cons (@Calls.mk _ 0 "unknown" (Nat.zero_le 0)) .nil)
    refine ⟨s₀, _, _, ⟨1, le_rfl, rfl⟩, hpath, by decide, ?_⟩
    rintro ⟨ts', s', hpath', hlabels⟩
    have hone : ts'.map System.Transition.label = [⟨0, "unknown", 60⟩] := by
      rw [hlabels]
      decide +kernel
    cases hpath' with
    | nil => cases hone
    | cons hstep _ =>
      obtain ⟨hlabel, _⟩ := List.cons.inj hone
      cases hstep with
      | mk =>
        -- alone, the first call is granted
        have hgranted : (admitSource 0 "unknown" s₀.limiter).1 = 0 := by decide +kernel
        dsimp only at hlabel
        obtain ⟨rfl, rfl, hanswer⟩ := Call.mk.inj hlabel
        rw [hgranted] at hanswer
        cases hanswer

end CrossDesk.CredentialWorkLimiter
