import CrossDesk.Lib.Cyclic
import CrossDesk.CredentialQueue.Conservation

/-!
# Fairness

Two laws about the order in which `Pump` starts jobs, over all paths of the machine.

* **Round robin.** `Pump` remembers the source that it started last and scans the sources from there,
  round and round. If a source `t` could be started whenever a worker is idle, no scan passes it, and
  so `Pump` does not come round to a source `s` a second time before `t` had its turn (`Unpassed`).
* **First in, first out.** The waiting jobs of a source stand in the order of their acceptance, and
  what is taken out of a queue keeps the order of the rest (`Shrinks`).
-/

namespace CrossDesk.CredentialQueue

open Machine

/-- A step that starts a job: `admit` returned zero for the first job of the source. -/
def StartsJob (key : String) (job : Job) (t : System.Transition Machine Label) : Prop :=
  t.label = .asked 0 ∧ ∃ now worker left source,
    t.before.point = some (.asking now worker key left) ∧
      t.before.queue.sources[key]? = some source ∧ source.waiting.head? = some job

/-- A step that starts a job of the source. -/
def Starts (key : String) (t : System.Transition Machine Label) : Prop :=
  ∃ job : Job, StartsJob key job t

/-- The source has a waiting job, and its time has come. -/
def Ready (key : String) (now : TimePoint) (q : CredentialQueue) : Prop :=
  ∃ source : Source, q.sources[key]? = some source ∧ source.waiting ≠ [] ∧ source.notBefore ≤ now

/-- The source could be started: it is ready whenever a scan for an idle worker begins, and `admit`
returns zero whenever it is asked for the source. -/
structure Eligible (key : String) (t : System.Transition Machine Label) : Prop where
  ready : ∀ now worker, t.before.point = some (.workers now worker) →
    t.before.queue.running[worker]? = some none → Ready key now t.before.queue
  admitted : ∀ now worker left delay, t.before.point = some (.asking now worker key left) →
    t.label = .asked delay → delay = 0

/-! ## Round robin -/

/-- A scan from `last` that is about to look at `next` has not passed `t`; at the end of the sources
that means that `t` does not come after `last`. -/
def ScanUnpassed (last t : String) : Option String → Prop
  | some key => ¬ Sooner last t key
  | none => t ≤ last

/-- Since `s` was started, `t` was neither started nor passed. -/
structure Unpassed (s t : String) (m : Machine) : Prop where
  last : m.queue.lastSource = s ∨ Sooner s m.queue.lastSource t
  attempts : ∀ now worker key left, m.point = some (.attempts now worker key left) →
    Ready t now m.queue ∧ ScanUnpassed m.queue.lastSource t key
  asking : ∀ now worker key left, m.point = some (.asking now worker key left) →
    Ready t now m.queue ∧ ScanUnpassed m.queue.lastSource t (some key)

theorem mem_keys_of_ready {t : String} {now : TimePoint} {q : CredentialQueue} (h : Ready t now q) :
    t ∈ q.sources.keys := by
  obtain ⟨source, hsource, -⟩ := h
  exact OrdMap.mem_keys.mpr ⟨source, hsource⟩

/-- A scan begins behind the source that was started last. -/
theorem scanUnpassed_begin {sources : OrdMap String Source} {last t : String}
    (hmem : t ∈ sources.keys) : ScanUnpassed last t (OrdMap.keyAfter sources last) := by
  cases hnext : OrdMap.keyAfter sources last with
  | none =>
    have hnot := OrdMap.keyAfter_eq_none hnext t hmem
    exact not_lt.mp (fun hlt => hnot (compare_lt_iff_lt.mpr hlt))
  | some key =>
    obtain ⟨hlt, hleast⟩ := OrdMap.keyAfter_least hnext
    refine not_sooner_first (compare_lt_iff_lt.mp hlt) (fun hlast => ?_)
    rcases hleast t hmem (compare_lt_iff_lt.mpr hlast) with rfl | hlt'
    · exact le_rfl
    · exact (compare_lt_iff_lt.mp hlt').le

/-- A scan goes on to the next source. -/
theorem scanUnpassed_next {sources : OrdMap String Source} {last t key : String}
    (hmem : t ∈ sources.keys) (hne : key ≠ t) (h : ScanUnpassed last t (some key)) :
    ScanUnpassed last t (OrdMap.keyAfter sources key) := by
  cases hnext : OrdMap.keyAfter sources key with
  | none =>
    have hnot := OrdMap.keyAfter_eq_none hnext t hmem
    exact le_of_not_sooner_last hne h (not_lt.mp (fun hlt => hnot (compare_lt_iff_lt.mpr hlt)))
  | some key' =>
    obtain ⟨hlt, hleast⟩ := OrdMap.keyAfter_least hnext
    refine not_sooner_next hne h (compare_lt_iff_lt.mp hlt) (fun hkey => ?_)
    rcases hleast t hmem (compare_lt_iff_lt.mpr hkey) with rfl | hlt'
    · exact le_rfl
    · exact (compare_lt_iff_lt.mp hlt').le

/-- A scan starts again with the first source. -/
theorem scanUnpassed_wrap {sources : OrdMap String Source} {last t : String}
    (hmem : t ∈ sources.keys) (h : ScanUnpassed last t none) :
    ScanUnpassed last t (OrdMap.firstKey sources) := by
  cases hfirst : OrdMap.firstKey sources with
  | none => exact h
  | some key =>
    refine not_sooner_wrapped h ?_
    rcases OrdMap.firstKey_least hfirst t hmem with rfl | hlt
    · exact le_rfl
    · exact (compare_lt_iff_lt.mp hlt).le

/-! ### One step -/

theorem enqueue_lastSource (now : TimePoint) (job : Job) (q : CredentialQueue) :
    (q.enqueue now job).2.lastSource = q.lastSource := by
  unfold enqueue
  dsimp only
  split_ifs <;> rfl

theorem cancel_lastSource (id : Nat) (q : CredentialQueue) :
    (q.cancel id).lastSource = q.lastSource := by
  unfold cancel
  split <;> rfl

theorem complete_lastSource {now : TimePoint} {worker : Nat} {q q' : CredentialQueue}
    (h : q.complete now worker = some q') : q'.lastSource = q.lastSource := by
  unfold complete at h
  split at h
  · cases h
  · cases h
  · split at h
    · cases h
    · cases h
      rfl

/-- The point is not inside a scan. -/
def Elsewhere (point : Option PumpPoint) : Prop :=
  ∀ now worker left, (∀ key, point ≠ some (.attempts now worker key left)) ∧
    ∀ key, point ≠ some (.asking now worker key left)

theorem elsewhere_of_callerRuns {m : Machine} (h : m.CallerRuns) : Elsewhere m.point := by
  intro now worker left
  rcases h with h | ⟨now', expired, h⟩ <;> rw [h] <;> simp

section Step
variable {s t : String} {m : Machine}

theorem Unpassed.elsewhere (h : Unpassed s t m) {m' : Machine}
    (hlast : m'.queue.lastSource = m.queue.lastSource) (hpoint : Elsewhere m'.point) :
    Unpassed s t m' := by
  refine ⟨by rw [hlast]; exact h.last, fun now worker key left hin => ?_,
    fun now worker key left hin => ?_⟩
  · exact absurd hin ((hpoint now worker left).1 key)
  · exact absurd hin ((hpoint now worker left).2 key)

/-- A source that is started without `t` being passed comes before `t`. -/
theorem sooner_of_started (hst : s ≠ t) {last key : String} (hlast : last = s ∨ Sooner s last t)
    (hkey : key ≠ t) (hscan : ScanUnpassed last t (some key)) : Sooner s key t := by
  rcases hlast with rfl | hlast
  · exact .first hst hkey hscan
  · exact .extend hlast hkey hscan

/-- **Each step** of a path on which `t` could be started and is not leaves it unpassed. -/
theorem Unpassed.step (hst : s ≠ t) (h : Unpassed s t m) {l : Label} {m' : Machine}
    (hstep : Steps m l m') (heligible : Eligible t ⟨m, l, m'⟩) (hnot : ¬ Starts t ⟨m, l, m'⟩) :
    Unpassed s t m' := by
  cases hstep with
  -- outside the loop for a worker only the source that was started last matters
  | @accept now job queue hcaller haccepted =>
    refine h.elsewhere ?_ (elsewhere_of_callerRuns hcaller)
    have hlast := enqueue_lastSource now job m.queue
    rw [haccepted] at hlast
    exact hlast
  | @reject now job queue hcaller hrejected =>
    refine h.elsewhere ?_ (elsewhere_of_callerRuns hcaller)
    have hlast := enqueue_lastSource now job m.queue
    rw [hrejected] at hlast
    exact hlast
  | cancel hcaller =>
    exact h.elsewhere (cancel_lastSource _ _) (elsewhere_of_callerRuns hcaller)
  | complete hcaller hactive hcompleted =>
    exact h.elsewhere (complete_lastSource hcompleted) (elsewhere_of_callerRuns hcaller)
  | pumpAgain hcaller hpumping => exact h
  | pump hcaller hpumping => exact h.elsewhere rfl (by simp [Elsewhere])
  | enterSource hpoint => exact h.elsewhere rfl (by simp [Elsewhere])
  | leaveSources hpoint => exact h.elsewhere rfl (by simp [Elsewhere])
  | keepJob hpoint hsource hjob hlive => exact h.elsewhere rfl (by simp [Elsewhere])
  | expireJob hpoint hsource hjob hlate => exact h.elsewhere rfl (by simp [Elsewhere])
  | dropDead hpoint hsource hjob => exact h.elsewhere rfl (by simp [Elsewhere])
  | leaveSource hpoint hsource hend => exact h.elsewhere rfl (by simp [Elsewhere])
  | callExpire hpoint => exact h.elsewhere rfl (by simp [Elsewhere])
  | expireReturns hpoint => exact h.elsewhere rfl (by simp [Elsewhere])
  | leaveCallbacks hpoint => exact h.elsewhere rfl (by simp [Elsewhere])
  | busyWorker hpoint hbusy => exact h.elsewhere rfl (by simp [Elsewhere])
  | leaveWorkers hpoint hend => exact h.elsewhere rfl (by simp [Elsewhere])
  | noAttempts hpoint => exact h.elsewhere rfl (by simp [Elsewhere])
  | startReturns hpoint => exact h.elsewhere rfl (by simp [Elsewhere])
  -- the scan begins behind the last source, and `t` is still to come
  | idleWorker hpoint hidle =>
    have hready := heligible.ready _ _ hpoint hidle
    refine ⟨h.last, fun now worker key left hin => ?_, fun now worker key left hin => ?_⟩
    · cases hin
      exact ⟨hready, scanUnpassed_begin (mem_keys_of_ready hready)⟩
    · cases hin
  | wrapAround hpoint =>
    obtain ⟨hready, hscan⟩ := h.attempts _ _ _ _ hpoint
    refine ⟨h.last, fun now worker key left hin => ?_, fun now worker key left hin => ?_⟩
    · cases hin
      exact ⟨hready, scanUnpassed_wrap (mem_keys_of_ready hready) hscan⟩
    · cases hin
  | @skipSource _ _ _ key source hpoint hsource hskip =>
    obtain ⟨hready, hscan⟩ := h.attempts _ _ _ _ hpoint
    -- the source that is passed is not `t`, which is ready
    have hne : key ≠ t := by
      rintro rfl
      obtain ⟨source', hsource', hwaiting, hbefore⟩ := hready
      rw [hsource] at hsource'
      cases hsource'
      rcases hskip with hempty | hlater
      · exact hwaiting hempty
      · exact absurd hbefore (not_le.mpr hlater)
    refine ⟨h.last, fun now worker key left hin => ?_, fun now worker key left hin => ?_⟩
    · cases hin
      exact ⟨hready, scanUnpassed_next (mem_keys_of_ready hready) hne hscan⟩
    · cases hin
  | askSource hpoint hsource hask =>
    obtain ⟨hready, hscan⟩ := h.attempts _ _ _ _ hpoint
    refine ⟨h.last, fun now worker key left hin => ?_, fun now worker key left hin => ?_⟩
    · cases hin
    · cases hin
      exact ⟨hready, hscan⟩
  | @delayed now worker left key source delay hpoint hsource hdelay =>
    obtain ⟨hready, hscan⟩ := h.asking _ _ _ _ hpoint
    -- `admit` lets `t` pass, so another source has to wait
    have hne : key ≠ t := by
      rintro rfl
      have hzero := heligible.admitted _ _ _ _ hpoint rfl
      omega
    have hready' : Ready t now (m.queue.delaySource now key source delay) := by
      obtain ⟨source', hsource', hwaiting, hbefore⟩ := hready
      refine ⟨source', ?_, hwaiting, hbefore⟩
      show (m.queue.sources.insert key _)[t]? = some source'
      grind
    refine ⟨h.last, fun now' worker' key' left' hin => ?_, fun now' worker' key' left' hin => ?_⟩
    · cases hin
      exact ⟨hready', scanUnpassed_next (mem_keys_of_ready hready') hne hscan⟩
    · cases hin
  | @start now worker left key source job hpoint hsource hjob =>
    obtain ⟨hready, hscan⟩ := h.asking _ _ _ _ hpoint
    -- the source that is started becomes the last one, and `t` comes before it is scanned again
    have hne : key ≠ t := by
      rintro rfl
      exact hnot ⟨job, rfl, now, worker, left, source, hpoint, hsource, hjob⟩
    refine ⟨.inr (sooner_of_started hst h.last hne hscan), fun now worker key left hin => ?_,
      fun now worker key left hin => ?_⟩
    · cases hin
    · cases hin

end Step

/-- The state after a job of the source was started. -/
theorem after_start {key : String} {job : Job} {t : System.Transition Machine Label}
    (hstart : StartsJob key job t) (hstep : Steps t.before t.label t.after) :
    ∃ now worker source, t.before.queue.sources[key]? = some source ∧
      source.waiting.head? = some job ∧
      t.after.queue = t.before.queue.startJob now worker key source job ∧
      t.after.point = some (.starting now worker job) := by
  obtain ⟨hlabel, now, worker, left, source, hpoint, hsource, hjob⟩ := hstart
  rw [hlabel] at hstep
  generalize t.after = m' at hstep ⊢
  cases hstep with
  | delayed _ _ hdelay => exact absurd hdelay (lt_irrefl 0)
  | start hpoint' hsource' hjob' =>
    rw [hpoint] at hpoint'
    cases hpoint'
    rw [hsource] at hsource'
    cases hsource'
    rw [hjob] at hjob'
    cases hjob'
    exact ⟨now, worker, source, hsource, hjob, rfl, rfl⟩

/-- **Round robin.** Between two starts of a source, every other source that could be started all the
time has its turn. -/
theorem round_robin {workers capacity sourceCapacity : Nat} {s t : String} (hst : s ≠ t)
    {first last : System.Transition Machine Label}
    {between : List (System.Transition Machine Label)}
    (hfirst : Starts s first) (hlast : Starts s last)
    (hstep : Steps first.before first.label first.after)
    (hpath : (system workers capacity sourceCapacity).Path first.after between last.before)
    (heligible : ∀ step ∈ between, Eligible t step) : ∃ step ∈ between, Starts t step := by
  by_contra hnone
  have hbegin : Unpassed s t first.after := by
    obtain ⟨job, hjob⟩ := hfirst
    obtain ⟨now, worker, source, -, -, hqueue, hpoint⟩ := after_start hjob hstep
    refine ⟨.inl ?_, fun _ _ _ _ hin => ?_, fun _ _ _ _ hin => ?_⟩
    · rw [hqueue]
      rfl
    · rw [hpoint] at hin
      cases hin
    · rw [hpoint] at hin
      cases hin
  have hend : Unpassed s t last.before := by
    refine hpath.keeps (P := fun step => Eligible t step ∧ ¬ Starts t step) ?_ hbegin ?_
    · intro step hunpassed hstep hP
      exact hunpassed.step hst hstep hP.1 hP.2
    · intro step hmem
      exact ⟨heligible step hmem, fun hstarts => hnone ⟨step, hmem, hstarts⟩⟩
  obtain ⟨job, -, now, worker, left, source, hpoint, -, -⟩ := hlast
  have hscan := (hend.asking _ _ _ _ hpoint).2
  -- the scan would have come full circle
  exact (Sooner.ne_start hst (sooner_of_started hst hend.last hst hscan)) rfl

/-! ## First in, first out -/

/-- The jobs that wait at a source. -/
def line (q : CredentialQueue) (key : String) : List Job :=
  ((q.sources[key]?).map Source.waiting).getD []

theorem line_eq {q : CredentialQueue} {key : String} {source : Source}
    (h : q.sources[key]? = some source) : q.line key = source.waiting := by
  simp [line, h]

theorem line_insert_self {q q' : CredentialQueue} {key : String} {source : Source}
    (h : q'.sources = q.sources.insert key source) : q'.line key = source.waiting := by
  refine line_eq ?_
  rw [h]
  grind

theorem line_insert_of_ne {q q' : CredentialQueue} {key key' : String} {source : Source}
    (h : q'.sources = q.sources.insert key' source) (hne : key ≠ key') :
    q'.line key = q.line key := by
  unfold line
  rw [h]
  grind

theorem line_erase_of_ne {q q' : CredentialQueue} {key key' : String}
    (h : q'.sources = q.sources.erase key') (hne : key ≠ key') : q'.line key = q.line key := by
  unfold line
  rw [h]
  grind

/-- Jobs leave the lines, and those that stay keep their order. -/
structure Shrinks (q q' : CredentialQueue) : Prop where
  line : ∀ key : String, List.Sublist (q'.line key) (q.line key)
  accepted : q'.stats.accepted = q.stats.accepted

/-- The jobs of a line stand in the order of their acceptance, and none was accepted before the
`n`-th. -/
structure InOrder (key : String) (n : Nat) (q : CredentialQueue) : Prop where
  sorted : (q.line key).Pairwise (fun a b => a.serial < b.serial)
  bounds : ∀ job ∈ q.line key, n ≤ job.serial ∧ job.serial < q.stats.accepted
  known : n ≤ q.stats.accepted

theorem InOrder.shrinks {key : String} {n : Nat} {q q' : CredentialQueue} (h : InOrder key n q)
    (hq : Shrinks q q') : InOrder key n q' := by
  refine ⟨h.sorted.sublist (hq.line key), fun job hjob => ?_, ?_⟩
  · rw [hq.accepted]
    exact h.bounds job ((hq.line key).subset hjob)
  · rw [hq.accepted]
    exact h.known

/-- Only the sources decide about the lines. -/
theorem Shrinks.of_sources {q q' : CredentialQueue} (hsources : q'.sources = q.sources)
    (haccepted : q'.stats.accepted = q.stats.accepted) : Shrinks q q' := by
  refine ⟨fun key => ?_, haccepted⟩
  show List.Sublist ((q'.sources[key]?).map Source.waiting |>.getD []) _
  rw [hsources]
  exact List.Sublist.refl _

/-- A source whose line got shorter is put back, or dropped. -/
theorem Shrinks.of_put {q q' : CredentialQueue} {key : String} {source source' : Source}
    (hsource : q.sources[key]? = some source)
    (hwaiting : List.Sublist source'.waiting source.waiting)
    (hsources : q'.sources = q.sources.insert key source' ∨ q'.sources = q.sources.erase key)
    (haccepted : q'.stats.accepted = q.stats.accepted) : Shrinks q q' := by
  refine ⟨fun key' => ?_, haccepted⟩
  by_cases hkey : key' = key
  · subst hkey
    rcases hsources with hsources | hsources
    · rw [line_insert_self hsources, line_eq hsource]
      exact hwaiting
    · have hnew : q'.line key' = [] := by
        simp [CredentialQueue.line, hsources]
      rw [hnew]
      exact List.nil_sublist _
  · have hsame : q'.line key' = q.line key' := by
      rcases hsources with hsources | hsources
      · exact line_insert_of_ne hsources hkey
      · exact line_erase_of_ne hsources hkey
    rw [hsame]

theorem putSource_cases (key : String) (source : Source) (sources : OrdMap String Source) :
    putSource key source sources = sources.insert key source ∨
      putSource key source sources = sources.erase key := by
  unfold putSource
  split
  · exact .inr rfl
  · exact .inl rfl

theorem cancel_shrinks (id : Nat) (q : CredentialQueue) : Shrinks q (q.cancel id) := by
  unfold cancel
  cases hfound : q.findWaiting id with
  | none => exact .of_sources rfl rfl
  | some found =>
    obtain ⟨key, source, job⟩ := found
    obtain ⟨hsource, -, -⟩ := Sound.findWaiting_eq_some hfound
    exact .of_put hsource List.erase_sublist (putSource_cases _ _ _) rfl

theorem complete_shrinks {now : TimePoint} {worker : Nat} {q q' : CredentialQueue}
    (h : q.complete now worker = some q') : Shrinks q q' := by
  unfold complete at h
  split at h
  · cases h
  · cases h
  · split at h
    · cases h
    · rename_i source hsource
      cases h
      have hwaiting : List.Sublist
          ({ source with outstanding := source.outstanding - 1 } : Source).waiting source.waiting :=
        .refl _
      exact .of_put hsource hwaiting (putSource_cases _ _ _) rfl

theorem dropJob_shrinks {key : String} {source : Source} {index : Nat} {job : Job} {expired : Bool}
    {q : CredentialQueue} (hsource : q.sources[key]? = some source) :
    Shrinks q (q.dropJob key source index job expired) := by
  refine .of_put hsource (List.eraseIdx_sublist _ _) (.inl rfl) ?_
  cases expired <;> rfl

theorem reject_shrinks {now : TimePoint} {job : Job} {q q' : CredentialQueue}
    (h : q.enqueue now job = (false, q')) : Shrinks q q' := by
  unfold enqueue at h
  dsimp only at h
  split_ifs at h <;> cases h <;> exact .of_sources rfl rfl

/-- An accepted job goes to the end of its line, with the next number. -/
theorem InOrder.accept {key : String} {n : Nat} {q q' : CredentialQueue} (h : InOrder key n q)
    {now : TimePoint} {job : Job} (haccepted : q.enqueue now job = (true, q')) :
    InOrder key n q' := by
  obtain ⟨source, job', -, hserial, -, hsource, -, -, rfl⟩ := Books.enqueue_true haccepted
  have hline : q.line job'.source = source.waiting := by
    rcases hsource with ⟨hsource, -⟩ | ⟨hnone, rfl⟩
    · exact line_eq hsource
    · simp [line, hnone]
  have hknown := h.known
  by_cases hkey : key = job'.source
  · subst hkey
    have hsorted := h.sorted
    have hbounds := h.bounds
    rw [hline] at hsorted hbounds
    refine ⟨?_, ?_, Nat.le_succ_of_le hknown⟩
    · rw [line_insert_self (q := q) rfl]
      refine List.pairwise_append.mpr ⟨hsorted, List.pairwise_singleton _ _, ?_⟩
      intro a ha b hb
      rw [List.mem_singleton.mp hb, hserial]
      exact (hbounds a ha).2
    · rw [line_insert_self (q := q) rfl]
      intro job hjob
      show n ≤ job.serial ∧ job.serial < q.stats.accepted + 1
      rcases List.mem_append.mp hjob with hjob | hjob
      · have hbound := hbounds job hjob
        omega
      · rw [List.mem_singleton.mp hjob, hserial]
        omega
  · refine ⟨?_, ?_, Nat.le_succ_of_le hknown⟩
    · rw [line_insert_of_ne (q := q) rfl hkey]
      exact h.sorted
    · rw [line_insert_of_ne (q := q) rfl hkey]
      intro job hjob
      have hbound := h.bounds job hjob
      exact ⟨hbound.1, Nat.lt_succ_of_lt hbound.2⟩

/-- **Each step** keeps the order of every line. -/
theorem InOrder.step {key : String} {n : Nat} {m : Machine} (h : InOrder key n m.queue) {l : Label}
    {m' : Machine} (hstep : Steps m l m') : InOrder key n m'.queue := by
  cases hstep with
  | accept hcaller haccepted => exact h.accept haccepted
  | reject hcaller hrejected => exact h.shrinks (reject_shrinks hrejected)
  | cancel hcaller => exact h.shrinks (cancel_shrinks _ _)
  | complete hcaller hactive hcompleted => exact h.shrinks (complete_shrinks hcompleted)
  | pump hcaller hpumping => exact h.shrinks (.of_sources rfl rfl)
  | expireJob hpoint hsource hjob hlate => exact h.shrinks (dropJob_shrinks hsource)
  | dropDead hpoint hsource hjob => exact h.shrinks (dropJob_shrinks hsource)
  | leaveSource hpoint hsource hend =>
    exact h.shrinks (.of_put hsource (List.Sublist.refl _) (putSource_cases _ _ _) rfl)
  | leaveWorkers hpoint hend => exact h.shrinks (.of_sources rfl rfl)
  | @delayed now _ _ _ source delay hpoint hsource hdelay =>
    have hwaiting : List.Sublist
        ({ source with notBefore := now + seconds delay } : Source).waiting source.waiting :=
      .refl _
    exact h.shrinks (.of_put hsource hwaiting (.inl rfl) rfl)
  | start hpoint hsource hjob =>
    exact h.shrinks (.of_put hsource (List.tail_sublist _) (.inl rfl) rfl)
  | pumpAgain _ _ | enterSource _ | leaveSources _ | keepJob _ _ _ _ | callExpire _
  | expireReturns _ | leaveCallbacks _ | busyWorker _ _ | idleWorker _ _ | noAttempts _
  | wrapAround _ | skipSource _ _ _ | askSource _ _ _ | startReturns _ => exact h

/-- When a job is started, only later ones are left in its line. -/
theorem InOrder.after_start {key : String} {n : Nat} {job : Job}
    {t : System.Transition Machine Label} (h : InOrder key n t.before.queue)
    (hstart : StartsJob key job t) (hstep : Steps t.before t.label t.after) :
    InOrder key (job.serial + 1) t.after.queue := by
  obtain ⟨now, worker, source, hsource, hjob, hqueue, -⟩ := CredentialQueue.after_start hstart hstep
  obtain ⟨rest, hrest⟩ := List.head?_eq_some_iff.mp hjob
  have hsorted := h.sorted
  have hbounds := h.bounds
  rw [line_eq hsource, hrest] at hsorted hbounds
  obtain ⟨hhead, htail⟩ := List.pairwise_cons.mp hsorted
  have hline : t.after.queue.line key = rest := by
    have hinsert : (t.before.queue.startJob now worker key source job).sources =
        t.before.queue.sources.insert key { source with waiting := source.waiting.tail } := rfl
    rw [hqueue, line_insert_self hinsert, hrest]
    rfl
  have haccepted : t.after.queue.stats.accepted = t.before.queue.stats.accepted := by
    rw [hqueue]
    rfl
  refine ⟨?_, ?_, ?_⟩
  · rw [hline]
    exact htail
  · rw [hline, haccepted]
    intro job' hjob'
    exact ⟨hhead job' hjob', (hbounds job' (List.mem_cons_of_mem _ hjob')).2⟩
  · rw [haccepted]
    exact (hbounds job List.mem_cons_self).2

/-- No job has a number at the start. -/
theorem inOrder_start {workers capacity sourceCapacity : Nat} {m : Machine}
    (h : (system workers capacity sourceCapacity).start m) (key : String) :
    InOrder key 0 m.queue := by
  obtain ⟨queue, hcreate, rfl⟩ := h
  unfold create at hcreate
  split at hcreate
  · cases hcreate
  · cases hcreate
    have hline : line { capacity, sourceCapacity, running := List.replicate workers none } key = [] := by
      simp [line]
    refine ⟨?_, ?_, Nat.zero_le _⟩
    · rw [hline]
      exact List.Pairwise.nil
    · rw [hline]
      exact fun job hjob => absurd hjob List.not_mem_nil

/-- **Round robin, and first in, first out.** Take any two steps of an execution of the queue, the
first before the last. If both start a job of `s`, then between them every other source that could
be started all the time has its turn; and if they start jobs `a` and `b` of one source, then `a` was
accepted before `b`. -/
theorem fair_and_first_in_first_out {workers capacity sourceCapacity : Nat} {start m : Machine}
    {first last : System.Transition Machine Label}
    {before between after : List (System.Transition Machine Label)}
    (hstart : (system workers capacity sourceCapacity).start start)
    (hpath : (system workers capacity sourceCapacity).Path start
      (before ++ first :: (between ++ last :: after)) m) :
    (∀ s t : String, s ≠ t → Starts s first → Starts s last →
      (∀ step ∈ between, Eligible t step) → ∃ step ∈ between, Starts t step) ∧
    (∀ (key : String) (a b : Job), StartsJob key a first → StartsJob key b last →
      a.serial < b.serial) := by
  obtain ⟨hbefore, hfirst, hrest⟩ := hpath.around
  obtain ⟨hbetween, -, -⟩ := hrest.around
  refine ⟨fun s t hst hs hs' heligible => round_robin hst hs hs' hfirst hbetween heligible, ?_⟩
  intro key a b ha hb
  have hkeeps (n : Nat) : ∀ step : System.Transition Machine Label, InOrder key n step.before.queue →
      Steps step.before step.label step.after → True → InOrder key n step.after.queue :=
    fun step horder hstep _ => horder.step hstep
  have horder : InOrder key 0 first.before.queue :=
    hbefore.keeps (I := fun m => InOrder key 0 m.queue) (hkeeps 0) (inOrder_start hstart key)
      (fun _ _ => trivial)
  have hlater : InOrder key (a.serial + 1) last.before.queue :=
    hbetween.keeps (I := fun m => InOrder key (a.serial + 1) m.queue) (hkeeps _)
      (horder.after_start ha hfirst) (fun _ _ => trivial)
  obtain ⟨-, now, worker, left, source, -, hsource, hjob⟩ := hb
  have hmem : b ∈ last.before.queue.line key := by
    rw [line_eq hsource]
    exact List.mem_of_head? hjob
  have hbound := hlater.bounds b hmem
  omega

/-- The job that a step starts, computed. -/
def startedJob (t : System.Transition Machine Label) : Option (String × Job) :=
  match t.label, t.before.point with
  | .asked 0, some (.asking _ _ key _) =>
    (t.before.queue.sources[key]?).bind (fun source =>
      source.waiting.head?.map (fun job => (key, job)))
  | _, _ => none

theorem startsJob_of_startedJob {t : System.Transition Machine Label} {key : String} {job : Job}
    (h : startedJob t = some (key, job)) : StartsJob key job t := by
  unfold startedJob at h
  split at h
  case h_1 now worker key' left hlabel hpoint =>
    obtain ⟨source, hsource, h⟩ := Option.bind_eq_some_iff.mp h
    obtain ⟨job', hjob, heq⟩ := Option.map_eq_some_iff.mp h
    cases heq
    exact ⟨hlabel, now, worker, left, source, hpoint, hsource, hjob⟩
  case h_2 => cases h

/-- `Eligible`, computed. -/
def mayStart (key : String) (t : System.Transition Machine Label) : Bool :=
  match t.before.point with
  | some (.workers now worker) =>
    t.before.queue.running[worker]? != some none ||
      (t.before.queue.sources[key]?).any (fun source =>
        source.waiting != [] && decide (source.notBefore ≤ now))
  | some (.asking _ _ key' _) =>
    key' != key ||
      match t.label with
      | .asked delay => delay == 0
      | _ => true
  | _ => true

theorem eligible_of_mayStart {key : String} {t : System.Transition Machine Label}
    (h : mayStart key t = true) : Eligible key t := by
  unfold mayStart at h
  constructor
  case ready =>
    intro now worker hpoint hidle
    rw [hpoint] at h
    simp only [hidle, bne_self_eq_false, Bool.false_or, Option.any_eq_true, Bool.and_eq_true,
      bne_iff_ne, ne_eq, decide_eq_true_eq] at h
    exact h
  case admitted =>
    intro now worker left delay hpoint hlabel
    rw [hpoint, hlabel] at h
    simpa using h

/-- A list around two of its elements. -/
theorem cut_twice {α : Type} {l : List α} {i j : Nat} {a b : α} (ha : l[i]? = some a)
    (hb : (l.drop (i + 1))[j]? = some b) :
    l = l.take i ++ a :: ((l.drop (i + 1)).take j ++ b :: (l.drop (i + 1)).drop (j + 1)) := by
  obtain ⟨hi, rfl⟩ := List.getElem?_eq_some_iff.mp ha
  obtain ⟨hj, rfl⟩ := List.getElem?_eq_some_iff.mp hb
  rw [← List.drop_eq_getElem_cons hj, List.take_append_drop, ← List.drop_eq_getElem_cons hi,
    List.take_append_drop]

/-- Two jobs of each of two sources, for three idle workers: the second source has its turn between the
two starts of the first. -/
theorem fair_and_first_in_first_out_two_jobs :
    ∃ (first last : System.Transition Machine Label)
      (between : List (System.Transition Machine Label)) (a b : Job),
      (system 3 8 4).Path first.after between last.before ∧
      StartsJob "a" a first ∧ StartsJob "a" b last ∧ a.serial < b.serial ∧
      ∃ step ∈ between, Starts "b" step := by
  let start : Machine :=
    { queue := { capacity := 8, sourceCapacity := 4, running := [none, none, none] } }
  have hstart : (system 3 8 4).start start := ⟨start.queue, rfl, rfl⟩
  let job (id : Nat) (source : String) : Job := { id, source, deadline := 100 }
  let a : Job := { job 0 "a" with serial := 0 }
  let b : Job := { job 1 "a" with serial := 1 }
  -- four calls, and all steps of one `Pump`
  have hplay : (System.play attempt start
      [.enqueue 0 (job 0 "a"), .enqueue 0 (job 1 "a"), .enqueue 0 (job 2 "b"),
        .enqueue 0 (job 3 "b"), .pump 1,
        .silent, .alive true, .alive true, .silent, .silent, .alive true, .alive true, .silent,
        .silent, .silent, .silent, .silent, .asked 0, .startReturns,
        .silent, .silent, .asked 0, .startReturns,
        .silent, .silent, .silent, .asked 0, .startReturns, .silent]).any
      (fun way =>
        (way.1[17]?).any (fun t => decide (startedJob t = some ("a", a))) &&
        ((way.1.drop 18)[8]?).any (fun t => decide (startedJob t = some ("a", b))) &&
        ((way.1.drop 18).take 8).all (mayStart "b")) = true := by
    decide +kernel
  obtain ⟨ts, m, hpath, htest⟩ :=
    @System.exists_path_of_play _ _ (system 3 8 4) _ attempt attempt_steps _ _ _ hplay
  simp only [Bool.and_eq_true, Option.any_eq_true, decide_eq_true_eq, List.all_eq_true] at htest
  obtain ⟨⟨⟨first, hfirst, ha⟩, last, hlast, hb⟩, heligible⟩ := htest
  have ha := startsJob_of_startedJob ha
  have hb := startsJob_of_startedJob hb
  rw [cut_twice hfirst hlast] at hpath
  obtain ⟨hfair, hfifo⟩ := fair_and_first_in_first_out hstart hpath
  obtain ⟨-, -, hrest⟩ := hpath.around
  exact ⟨first, last, _, a, b, hrest.around.1, ha, hb, hfifo "a" a b ha hb,
    hfair "a" "b" (by decide) ⟨a, ha⟩ ⟨b, hb⟩ (fun step hstep =>
      eligible_of_mayStart (heligible step hstep))⟩

end CrossDesk.CredentialQueue
