import CrossDesk.CredentialQueue.Fairness

/-!
# Work conservation

What a `Pump` that is not nested leaves behind, when the jobs that its `expire` callbacks enqueue are
not over at once.

* **Pruning.** `unseen` says which waiting jobs the first loop has still to look at; the others are
  not over (`Pruned`). Behind the loop all have been looked at, and whatever is enqueued by a callback
  is not over either.
* **Scanning.** The scan for an idle worker makes as many attempts as there are sources. It counts down
  what is ahead of it (`ahead`), so it ends with every source looked at, and none that it looked at
  could be started (`Scan`). Slots filled later do not change that, so an idle slot means that nothing
  can be started (`Conserving`).
-/

namespace CrossDesk.CredentialQueue

open Machine

/-! ## Pruning -/

/-- The loop over the sources has still to look at the job that stands at the index. -/
def unseen (key : String) (index : Nat) : Option PumpPoint → Prop
  | some (.sources _ _ next) => ∃ n ∈ next, n ≤ key
  | some (.jobs _ _ key' index') => key' < key ∨ key' = key ∧ index' ≤ index
  | _ => False

/-- The clock reading that `Pump` started with. -/
def clockOf : PumpPoint → TimePoint
  | .sources now _ _ => now
  | .jobs now _ _ _ => now
  | .callbacks now _ => now
  | .inCallback now _ => now
  | .workers now _ => now
  | .attempts now _ _ _ => now
  | .asking now _ _ _ => now
  | .starting now _ _ => now

/-- The waiting jobs that were looked at are not over. -/
structure Pruned (now : TimePoint) (m : Machine) : Prop where
  clock : ∀ point, m.point = some point → clockOf point = now
  seen : ∀ (key : String) (index : Nat) (job : Job), (m.queue.line key)[index]? = some job →
    ¬ unseen key index m.point → now < job.deadline

/-- A step of a `Pump` whose callbacks enqueue only what is not over. -/
def Timely (now : TimePoint) (t : System.Transition Machine Label) : Prop :=
  t.before.point ≠ none ∧ ∀ time job, t.label = .enqueue time job → now < job.deadline

section Prune

variable {now : TimePoint} {m m' : Machine}

/-- Behind the first loop all jobs were looked at. -/
theorem Pruned.live (h : Pruned now m) (hall : ∀ key index, ¬ unseen key index m.point) {key : String}
    {job : Job} (hjob : job ∈ m.queue.line key) : now < job.deadline := by
  obtain ⟨index, hindex⟩ := List.mem_iff_getElem?.mp hjob
  exact h.seen key index job hindex (hall key index)

/-- Behind the first loop, what is left of the lines is not over. -/
theorem Pruned.shrinks (h : Pruned now m) (hall : ∀ key index, ¬ unseen key index m.point)
    (hshrinks : Shrinks m.queue m'.queue)
    (hclock : ∀ point, m'.point = some point → clockOf point = now) : Pruned now m' := by
  refine ⟨hclock, fun key index job hjob _ => ?_⟩
  exact h.live hall ((hshrinks.line key).subset (List.mem_of_getElem? hjob))

/-- An enqueued job goes to the end of its line. -/
theorem mem_line_of_accept {time : TimePoint} {job job' : Job} {q q' : CredentialQueue}
    (haccepted : q.enqueue time job = (true, q')) {key : String} (hmem : job' ∈ q'.line key) :
    job' ∈ q.line key ∨ job'.deadline = job.deadline := by
  obtain ⟨source, added, -, -, hdeadline, hsource, -, -, rfl⟩ := Books.enqueue_true haccepted
  by_cases hkey : key = added.source
  · subst hkey
    rw [line_insert_self (q := q) rfl] at hmem
    rcases List.mem_append.mp hmem with hmem | hmem
    · left
      rcases hsource with ⟨hsource, -⟩ | ⟨-, rfl⟩
      · rw [line_eq hsource]
        exact hmem
      · cases hmem
    · rw [List.mem_singleton.mp hmem]
      exact .inr hdeadline
  · rw [line_insert_of_ne (q := q) rfl hkey] at hmem
    exact .inl hmem

/-- The line of a source whose job at the index is dropped. -/
theorem line_dropJob {key key' : String} {source : Source} {index : Nat} {job : Job} {expired : Bool}
    {q : CredentialQueue} (hsource : q.sources[key]? = some source) :
    (q.dropJob key source index job expired).line key' =
      if key' = key then (q.line key).eraseIdx index else q.line key' := by
  by_cases hkey : key' = key
  · subst hkey
    rw [if_pos rfl, line_eq hsource]
    unfold line dropJob
    simp
  · rw [if_neg hkey]
    exact line_insert_of_ne (q := q) rfl hkey

/-- Where the loop goes on after it dropped a job: the next one has moved to the index. -/
theorem Pruned.drop (h : Pruned now m) {time : TimePoint} {expired expired' : List Job} {key : String}
    {index : Nat} {source : Source} {job : Job} {late : Bool}
    (hpoint : m.point = some (.jobs time expired key index))
    (hsource : m.queue.sources[key]? = some source)
    (hqueue : m'.queue = m.queue.dropJob key source index job late)
    (hpoint' : m'.point = some (.jobs time expired' key index)) : Pruned now m' := by
  refine ⟨fun point heq => ?_, fun key' index' job' hjob hseen => ?_⟩
  · rw [hpoint'] at heq
    cases heq
    exact h.clock (.jobs time expired key index) hpoint
  · rw [hpoint'] at hseen
    rw [hqueue, line_dropJob hsource] at hjob
    by_cases hkey : key' = key
    · subst hkey
      have hindex : index' < index := by
        by_contra hle
        exact hseen (.inr ⟨rfl, not_lt.mp hle⟩)
      rw [if_pos rfl, List.getElem?_eraseIdx_of_lt hindex] at hjob
      refine h.seen key' index' job' hjob ?_
      rw [hpoint]
      exact hseen
    · rw [if_neg hkey] at hjob
      refine h.seen key' index' job' hjob ?_
      rw [hpoint]
      exact hseen

/-- The loop over a source is over: its line stays, or had nothing left. -/
theorem getElem?_line_putSource {q : CredentialQueue} {key key' : String} {source : Source}
    {index : Nat} {job : Job} (hsource : q.sources[key]? = some source)
    (h : (line { q with sources := putSource key source q.sources } key')[index]? = some job) :
    (q.line key')[index]? = some job := by
  unfold line at h ⊢
  dsimp only at h
  by_cases hkey : key' = key
  · subst hkey
    rw [hsource]
    rcases putSource_cases key' source q.sources with hput | hput
    · rw [hput] at h
      simpa using h
    · rw [hput] at h
      simp at h
  · rcases putSource_cases key source q.sources with hput | hput
    · rw [hput] at h
      grind
    · rw [hput] at h
      grind

/-- The loops go on with the queue as it was. -/
theorem Pruned.goes (h : Pruned now m) {point : PumpPoint} (hpoint : m.point = some point)
    (hqueue : m'.queue = m.queue)
    (hclock : ∀ point', m'.point = some point' → clockOf point' = clockOf point)
    (hseen : ∀ key index, unseen key index (some point) → unseen key index m'.point) :
    Pruned now m' := by
  refine ⟨fun point' heq => (hclock point' heq).trans (h.clock point hpoint), ?_⟩
  intro key index job hjob hnot
  rw [hqueue] at hjob
  refine h.seen key index job hjob (fun hunseen => hnot (hseen key index ?_))
  rwa [hpoint] at hunseen

/-- A step behind the first loop at most shortens the lines, or adds a job that is not over. -/
theorem Pruned.behind (h : Pruned now m) {point : PumpPoint} (hpoint : m.point = some point)
    (hall : ∀ key index, ¬ unseen key index (some point))
    (hlines : ∀ key job, job ∈ m'.queue.line key → job ∈ m.queue.line key ∨ now < job.deadline)
    (hclock : ∀ point', m'.point = some point' → clockOf point' = clockOf point) :
    Pruned now m' := by
  refine ⟨fun point' heq => (hclock point' heq).trans (h.clock point hpoint), ?_⟩
  intro key index job hjob _
  rcases hlines key job (List.mem_of_getElem? hjob) with hold | hlive
  · exact h.live (by rw [hpoint]; exact hall) hold
  · exact hlive

/-- The same, with the queue as it was. -/
theorem Pruned.moves (h : Pruned now m) {point : PumpPoint} (hpoint : m.point = some point)
    (hall : ∀ key index, ¬ unseen key index (some point)) (hqueue : m'.queue.sources = m.queue.sources)
    (hclock : ∀ point', m'.point = some point' → clockOf point' = clockOf point) :
    Pruned now m' := by
  refine h.behind hpoint hall (fun key job hmem => .inl ?_) hclock
  unfold line at hmem ⊢
  rwa [hqueue] at hmem

theorem inCallback_of_callerRuns (hcaller : m.CallerRuns) (hpoint : m.point ≠ none) :
    ∃ time expired, m.point = some (.inCallback time expired) := by
  rcases hcaller with hnone | hin
  · exact absurd hnone hpoint
  · exact hin

/-- **Each step** of a `Pump` whose callbacks enqueue only what is not over. -/
theorem Pruned.step (h : Pruned now m) (hpumping : m.queue.pumping = true) {l : Label}
    (hstep : Steps m l m') (htimely : Timely now ⟨m, l, m'⟩) : Pruned now m' := by
  obtain ⟨hrunning, hdeadline⟩ := htimely
  cases hstep with
  -- a call inside a callback: the loops have been passed, so only what it enqueues matters
  | @accept time job queue hcaller haccepted =>
    obtain ⟨time', expired, hpoint⟩ := inCallback_of_callerRuns hcaller hrunning
    refine h.behind hpoint (fun _ _ => not_false) (fun key job' hmem => ?_)
      (by rw [hpoint]; rintro _ ⟨⟩; rfl)
    refine (mem_line_of_accept haccepted hmem).imp_right fun heq => ?_
    rw [heq]
    exact hdeadline time job rfl
  | @reject time job queue hcaller hrejected =>
    obtain ⟨time', expired, hpoint⟩ := inCallback_of_callerRuns hcaller hrunning
    exact h.behind hpoint (fun _ _ => not_false)
      (fun key job hmem => .inl (((reject_shrinks hrejected).line key).subset hmem))
      (by rw [hpoint]; rintro _ ⟨⟩; rfl)
  | @cancel connection hcaller =>
    obtain ⟨time', expired, hpoint⟩ := inCallback_of_callerRuns hcaller hrunning
    exact h.behind hpoint (fun _ _ => not_false)
      (fun key job hmem => .inl (((cancel_shrinks connection m.queue).line key).subset hmem))
      (by rw [hpoint]; rintro _ ⟨⟩; rfl)
  | complete hcaller hactive hcompleted =>
    obtain ⟨time', expired, hpoint⟩ := inCallback_of_callerRuns hcaller hrunning
    exact h.behind hpoint (fun _ _ => not_false)
      (fun key job hmem => .inl (((complete_shrinks hcompleted).line key).subset hmem))
      (by rw [hpoint]; rintro _ ⟨⟩; rfl)
  | pumpAgain hcaller hpumping => exact h
  | pump hcaller hidle =>
    rw [hpumping] at hidle
    cases hidle
  -- what is unseen at a source is unseen before it, or in front of its first job
  | @enterSource time expired key hpoint =>
    refine h.goes hpoint rfl (by rintro _ ⟨⟩; rfl) (fun key' index hunseen => ?_)
    obtain ⟨n, hn, hle⟩ := hunseen
    obtain rfl := Option.mem_some_iff.mp hn
    exact hle.lt_or_eq.imp_right fun heq => ⟨heq, Nat.zero_le _⟩
  | leaveSources hpoint =>
    refine h.goes hpoint rfl (by rintro _ ⟨⟩; rfl) (fun key' index hunseen => ?_)
    obtain ⟨n, hn, -⟩ := hunseen
    cases hn
  | @keepJob time expired key index source job hpoint hsource hjob hlive =>
    have hnow : time = now := h.clock _ hpoint
    refine ⟨fun point heq => ?_, fun key' index' job' hjob' hnot => ?_⟩
    · cases heq
      exact hnow
    -- the job that was just looked at is not over, and the others were seen before
    · by_cases hthis : key' = key ∧ index' = index
      · obtain ⟨rfl, rfl⟩ := hthis
        have hsame : source.waiting[index']? = some job' := by
          rw [← line_eq hsource]
          exact hjob'
        rw [hjob] at hsame
        cases hsame
        exact hnow ▸ hlive
      · refine h.seen key' index' job' hjob' ?_
        rw [hpoint]
        rintro (hlt | ⟨rfl, hle⟩)
        · exact hnot (.inl hlt)
        · refine hnot (.inr ⟨rfl, ?_⟩)
          have hne : index' ≠ index := fun heq => hthis ⟨rfl, heq⟩
          omega
  | expireJob hpoint hsource hjob hlate => exact h.drop hpoint hsource rfl rfl
  | dropDead hpoint hsource hjob => exact h.drop hpoint hsource rfl rfl
  | @leaveSource time expired key index source hpoint hsource hend =>
    -- the job after the last one does not exist, so the whole line was seen
    refine ⟨fun point heq => ?_, fun key' index' job' hjob' hnot => ?_⟩
    · cases heq
      exact h.clock (.jobs time expired key index) hpoint
    · have hjob := getElem?_line_putSource hsource hjob'
      refine h.seen key' index' job' hjob ?_
      rw [hpoint]
      rintro (hlt | ⟨rfl, hle⟩)
      · -- the next source is not behind this one
        have hmem : key' ∈ (putSource key source m.queue.sources).keys := by
          refine OrdMap.mem_keys.mpr ?_
          by_contra hnone
          have hempty : (putSource key source m.queue.sources)[key']? = none := by
            simpa [Option.eq_none_iff_forall_ne_some] using hnone
          simp [line, hempty] at hjob'
        cases hnext : OrdMap.keyAfter (putSource key source m.queue.sources) key with
        | none => exact OrdMap.keyAfter_eq_none hnext key' hmem (compare_lt_iff_lt.mpr hlt)
        | some next =>
          refine hnot ⟨next, hnext, ?_⟩
          rcases (OrdMap.keyAfter_least hnext).2 key' hmem (compare_lt_iff_lt.mpr hlt) with rfl | hlt'
          · exact le_rfl
          · exact (compare_lt_iff_lt.mp hlt').le
      · rw [line_eq hsource, List.getElem?_eq_none ((List.getElem?_eq_none_iff.mp hend).trans hle)] at hjob
        cases hjob
  -- the steps behind the loop over the sources look at no line
  | @callExpire time job expired hpoint =>
    exact h.moves hpoint (fun _ _ => not_false) rfl (by rintro _ ⟨⟩; rfl)
  | expireReturns hpoint =>
    exact h.moves hpoint (fun _ _ => not_false) rfl (by rintro _ ⟨⟩; rfl)
  | leaveCallbacks hpoint =>
    exact h.moves hpoint (fun _ _ => not_false) rfl (by rintro _ ⟨⟩; rfl)
  | busyWorker hpoint hbusy =>
    exact h.moves hpoint (fun _ _ => not_false) rfl (by rintro _ ⟨⟩; rfl)
  | idleWorker hpoint hidle =>
    exact h.moves hpoint (fun _ _ => not_false) rfl (by rintro _ ⟨⟩; rfl)
  | leaveWorkers hpoint hend =>
    exact h.moves hpoint (fun _ _ => not_false) rfl (by rintro _ ⟨⟩)
  | noAttempts hpoint =>
    exact h.moves hpoint (fun _ _ => not_false) rfl (by rintro _ ⟨⟩; rfl)
  | wrapAround hpoint =>
    exact h.moves hpoint (fun _ _ => not_false) rfl (by rintro _ ⟨⟩; rfl)
  | skipSource hpoint hsource hskip =>
    exact h.moves hpoint (fun _ _ => not_false) rfl (by rintro _ ⟨⟩; rfl)
  | askSource hpoint hsource hask =>
    exact h.moves hpoint (fun _ _ => not_false) rfl (by rintro _ ⟨⟩; rfl)
  -- a delayed source keeps its line, and a started job leaves the front of one
  | @delayed time worker left key source delay hpoint hsource hdelay =>
    have hwaiting : List.Sublist
        ({ source with notBefore := time + seconds delay } : Source).waiting source.waiting :=
      .refl _
    have hshrinks : Shrinks m.queue (m.queue.delaySource time key source delay) :=
      .of_put hsource hwaiting (.inl rfl) rfl
    exact h.behind hpoint (fun _ _ => not_false)
      (fun key' job hmem => .inl ((hshrinks.line key').subset hmem))
      (by rintro _ ⟨⟩; rfl)
  | @start time worker left key source job hpoint hsource hjob =>
    have hwaiting : List.Sublist
        ({ source with waiting := source.waiting.tail } : Source).waiting source.waiting :=
      List.tail_sublist _
    have hshrinks : Shrinks m.queue (m.queue.startJob time worker key source job) :=
      .of_put hsource hwaiting (.inl rfl) rfl
    exact h.behind hpoint (fun _ _ => not_false)
      (fun key' job hmem => .inl ((hshrinks.line key').subset hmem))
      (by rintro _ ⟨⟩; rfl)
  | startReturns hpoint =>
    exact h.moves hpoint (fun _ _ => not_false) rfl (by rintro _ ⟨⟩; rfl)

end Prune

/-! ## Scanning -/

/-- Nothing of the source can be started. -/
def Blocked (now : TimePoint) (key : String) (q : CredentialQueue) : Prop :=
  ∀ source : Source, q.sources[key]? = some source → source.waiting = [] ∨ now < source.notBefore

/-- A slot below the worker that is idle means that nothing can be started. -/
def Busy (now : TimePoint) (worker : Nat) (q : CredentialQueue) : Prop :=
  ∀ slot < worker, q.running[slot]? = some none → ∀ key, Blocked now key q

/-- A scan for an idle worker that is about to look at `next`, after `wrapped` tells whether it has
started again: its attempts are the sources ahead, and nothing of those behind can be started. -/
structure Scan (now : TimePoint) (q : CredentialQueue) (wrapped : Bool) (next : Option String)
    (left : Nat) : Prop where
  left : left = q.sources.keys.countP (ahead q.lastSource wrapped next)
  behind : ∀ key ∈ q.sources.keys, ahead q.lastSource wrapped next key = false → Blocked now key q
  climbing : wrapped = false → ∀ key, next = some key → q.lastSource < key

section Scan

variable {now : TimePoint} {q q' : CredentialQueue} {key : String} {source : Source}

/-- What a source that was written back may have lost: jobs, or its turn. -/
theorem Blocked.put {source' : Source} {other : String} (h : Blocked now other q)
    (hsource : q.sources[key]? = some source)
    (hsources : q'.sources = q.sources.insert key source')
    (hkept : source.waiting = [] ∨ now < source.notBefore →
      source'.waiting = [] ∨ now < source'.notBefore) : Blocked now other q' := by
  intro found hfound
  rw [hsources, Std.ExtTreeMap.getElem?_insert] at hfound
  split at hfound
  · rename_i heq
    obtain rfl : key = other := by simpa using heq
    cases hfound
    exact hkept (h source hsource)
  · exact h found hfound

/-- The source behind a key is the next stop. -/
theorem nextStop_keyAfter (sources : OrdMap String Source) (key : String) :
    NextStop sources.keys key (OrdMap.keyAfter sources key) := by
  intro other hother
  cases hnext : OrdMap.keyAfter sources key with
  | none =>
    have hnot := OrdMap.keyAfter_eq_none hnext other hother
    have hle : ¬ key < other := fun hlt => hnot (compare_lt_iff_lt.mpr hlt)
    simp [hle]
  | some next =>
    obtain ⟨hlt, hleast⟩ := OrdMap.keyAfter_least hnext
    rw [Option.any_some, decide_eq_decide]
    constructor
    · exact fun hle => (compare_lt_iff_lt.mp hlt).trans_le hle
    · intro hkey
      rcases hleast other hother (compare_lt_iff_lt.mpr hkey) with rfl | hlt'
      · exact le_rfl
      · exact (compare_lt_iff_lt.mp hlt').le

theorem lt_of_keyAfter {sources : OrdMap String Source} {next : String}
    (h : OrdMap.keyAfter sources key = some next) : key < next :=
  compare_lt_iff_lt.mp (OrdMap.keyAfter_least h).1

/-- The first source is below all. -/
theorem any_firstKey (sources : OrdMap String Source) :
    ∀ other ∈ sources.keys,
      (OrdMap.firstKey sources).any (fun first => decide (first ≤ other)) = true := by
  intro other hother
  cases hfirst : OrdMap.firstKey sources with
  | none =>
    have hnone : sources.keys = [] := List.head?_eq_none_iff.mp hfirst
    rw [hnone] at hother
    cases hother
  | some first =>
    rw [Option.any_some, decide_eq_true_eq]
    rcases OrdMap.firstKey_least hfirst other hother with rfl | hlt
    · exact le_rfl
    · exact (compare_lt_iff_lt.mp hlt).le

/-- A source that is written back keeps its place among the keys. -/
theorem keys_perm_insert {sources : OrdMap String Source} {source' : Source}
    (hsource : sources[key]? = some source) :
    (sources.insert key source').keys.Perm sources.keys := by
  rw [List.perm_ext_iff_of_nodup (OrdMap.nodup_keys _) (OrdMap.nodup_keys _)]
  intro other
  rw [OrdMap.mem_keys, OrdMap.mem_keys]
  by_cases hkey : key = other
  · subst hkey
    simp [hsource]
  · simp [Std.ExtTreeMap.getElem?_insert, hkey]

/-- A scan begins behind the source that was started last. -/
theorem Scan.begin (now : TimePoint) (q : CredentialQueue) :
    Scan now q false (OrdMap.keyAfter q.sources q.lastSource) q.sources.size := by
  have hcount := countP_ahead_start (nextStop_keyAfter q.sources q.lastSource)
  refine ⟨?_, fun key hkey hbehind => ?_, fun _ key heq => lt_of_keyAfter heq⟩
  · rw [hcount]
    exact Std.ExtTreeMap.length_keys.symm
  · rw [List.countP_eq_length] at hcount
    rw [hcount key hkey] at hbehind
    cases hbehind

/-- A scan that has no attempts left has looked at all sources. -/
theorem Scan.finished {wrapped : Bool} {next : Option String} (h : Scan now q wrapped next 0)
    (key : String) : Blocked now key q := by
  intro source hsource
  have hkey : key ∈ q.sources.keys := OrdMap.mem_keys.mpr ⟨source, hsource⟩
  have hnone := List.countP_eq_zero.mp h.left.symm key hkey
  exact h.behind key hkey (Bool.eq_false_iff.mpr hnone) source hsource

/-- A scan that wraps around goes on with the sources up to the one that was started last. -/
theorem Scan.wrap {wrapped : Bool} {left : Nat} (h : Scan now q wrapped none (left + 1)) :
    Scan now q true (OrdMap.firstKey q.sources) (left + 1) := by
  have hnot : wrapped = false := by
    cases hwrapped : wrapped with
    | false => rfl
    | true =>
      have hnone : q.sources.keys.countP (ahead q.lastSource true none) = 0 :=
        List.countP_eq_zero.mpr fun key _ => by simp [ahead]
      have hleft := h.left
      rw [hwrapped, hnone] at hleft
      cases hleft
  subst hnot
  have hsame : ∀ key ∈ q.sources.keys, ahead q.lastSource true (OrdMap.firstKey q.sources) key =
      ahead q.lastSource false none key :=
    fun key hkey => ahead_wrap (any_firstKey q.sources) hkey
  refine ⟨?_, fun key hkey hbehind => ?_, fun hfalse => ?_⟩
  · rw [h.left]
    exact List.countP_congr fun key hkey => by rw [hsame key hkey]
  · rw [hsame key hkey] at hbehind
    exact h.behind key hkey hbehind
  · cases hfalse

/-- A scan that looked at a source goes on behind it, with one attempt less. -/
theorem Scan.next {wrapped : Bool} {left : Nat} (h : Scan now q wrapped (some key) (left + 1))
    (hkey : key ∈ q.sources.keys) (hblocked : Blocked now key q) :
    Scan now q wrapped (OrdMap.keyAfter q.sources key) left := by
  have hlast : wrapped = false → q.lastSource < key := fun hnot => h.climbing hnot key rfl
  have hupto : wrapped = true → key ≤ q.lastSource := by
    rintro rfl
    -- some source is ahead, between the one looked at and the last one
    have hpositive : 0 < q.sources.keys.countP (ahead q.lastSource true (some key)) := by
      rw [← h.left]
      exact Nat.succ_pos left
    obtain ⟨other, -, hahead⟩ := List.countP_pos_iff.mp hpositive
    unfold ahead at hahead
    simp only [if_true, Option.any_some, Bool.and_eq_true, decide_eq_true_eq] at hahead
    exact hahead.1.trans hahead.2
  have hstop := nextStop_keyAfter q.sources key
  refine ⟨?_, fun other hother hbehind => ?_, fun hnot next heq => ?_⟩
  · have hcount := countP_ahead_next (OrdMap.nodup_keys q.sources) hkey hstop hlast hupto
    have hleft := h.left
    omega
  · rw [ahead_next hstop hlast hupto hother] at hbehind
    by_cases heq : other = key
    · rw [heq]
      exact hblocked
    · refine h.behind other hother ?_
      simpa [heq] using hbehind
  · exact (hlast hnot).trans (lt_of_keyAfter heq)

/-- A scan goes on with a source that has to wait for its token. -/
theorem Scan.put {wrapped : Bool} {left : Nat} {next : Option String} {source' : Source}
    (h : Scan now q wrapped next left) (hsource : q.sources[key]? = some source)
    (hsources : q'.sources = q.sources.insert key source') (hlast : q'.lastSource = q.lastSource)
    (hkept : source.waiting = [] ∨ now < source.notBefore →
      source'.waiting = [] ∨ now < source'.notBefore) : Scan now q' wrapped next left := by
  have hperm : q'.sources.keys.Perm q.sources.keys := by
    rw [hsources]
    exact keys_perm_insert hsource
  refine ⟨?_, fun other hother hbehind => ?_, ?_⟩
  · rw [h.left, hlast, hperm.countP_eq]
  · rw [hlast] at hbehind
    exact (h.behind other (hperm.mem_iff.mp hother) hbehind).put hsource hsources hkept
  · rw [hlast]
    exact h.climbing

end Scan

/-! ### One step -/

/-- The slots that `Pump` has been at, and the scan for the one it is at. -/
def Conserving (now : TimePoint) (q : CredentialQueue) : Option PumpPoint → Prop
  | some (.workers _ worker) => Busy now worker q
  | some (.attempts _ worker next left) =>
    Busy now worker q ∧ ∃ wrapped, Scan now q wrapped next left
  | some (.asking _ worker key left) =>
    Busy now worker q ∧ ∃ wrapped, Scan now q wrapped (some key) (left + 1)
  | some (.starting _ worker _) => Busy now (worker + 1) q
  | none => ∀ slot, Busy now slot q
  | _ => True

section Conserving

variable {now : TimePoint} {m m' : Machine}

/-- One more slot: it is not idle, or nothing can be started. -/
theorem Busy.succ {q : CredentialQueue} {worker : Nat} (h : Busy now worker q)
    (hslot : q.running[worker]? = some none → ∀ key, Blocked now key q) :
    Busy now (worker + 1) q := by
  intro slot hle hidle
  rcases Nat.lt_succ_iff_lt_or_eq.mp hle with hlt | rfl
  · exact h slot hlt hidle
  · exact hslot hidle

/-- The slots that were busy still are, when a source is written back that has lost its turn. -/
theorem Busy.put {q q' : CredentialQueue} {worker : Nat} {key : String} {source source' : Source}
    (h : Busy now worker q) (hrunning : ∀ slot < worker, q'.running[slot]? = q.running[slot]?)
    (hsource : q.sources[key]? = some source)
    (hsources : q'.sources = q.sources.insert key source')
    (hkept : source.waiting = [] ∨ now < source.notBefore →
      source'.waiting = [] ∨ now < source'.notBefore) : Busy now worker q' := by
  intro slot hlt hidle other
  rw [hrunning slot hlt] at hidle
  exact (h slot hlt hidle other).put hsource hsources hkept

/-- **Each step** of a `Pump`, from the scan on. -/
theorem Conserving.step (h : Conserving now m.queue m.point) (hrunning : m.point ≠ none)
    (hclock : ∀ point, m.point = some point → clockOf point = now)
    (hpumping : m.queue.pumping = true) {l : Label} (hstep : Steps m l m') :
    Conserving now m'.queue m'.point := by
  cases hstep with
  | accept hcaller haccepted =>
    obtain ⟨time, expired, hpoint⟩ := inCallback_of_callerRuns hcaller hrunning
    show Conserving now _ m.point
    rw [hpoint]
    trivial
  | reject hcaller hrejected =>
    obtain ⟨time, expired, hpoint⟩ := inCallback_of_callerRuns hcaller hrunning
    show Conserving now _ m.point
    rw [hpoint]
    trivial
  | cancel hcaller =>
    obtain ⟨time, expired, hpoint⟩ := inCallback_of_callerRuns hcaller hrunning
    show Conserving now _ m.point
    rw [hpoint]
    trivial
  | complete hcaller hactive hcompleted =>
    obtain ⟨time, expired, hpoint⟩ := inCallback_of_callerRuns hcaller hrunning
    show Conserving now _ m.point
    rw [hpoint]
    trivial
  | pumpAgain hcaller hpumping => exact h
  | pump hcaller hidle =>
    rw [hpumping] at hidle
    cases hidle
  | leaveCallbacks hpoint => exact fun slot hlt => absurd hlt (Nat.not_lt_zero slot)
  | busyWorker hpoint hbusy =>
    rw [hpoint] at h
    exact Busy.succ h (fun hidle => by rw [hbusy] at hidle; cases hidle)
  | idleWorker hpoint hidle =>
    rw [hpoint] at h
    exact ⟨h, false, Scan.begin now m.queue⟩
  | @leaveWorkers time worker hpoint hend =>
    rw [hpoint] at h
    intro slot slot' _ hidle
    have hlt : slot' < worker := by
      have hlength := List.getElem?_eq_none_iff.mp hend
      obtain ⟨hslot, -⟩ := List.getElem?_eq_some_iff.mp hidle
      exact hslot.trans_le hlength
    exact h slot' hlt hidle
  | noAttempts hpoint =>
    rw [hpoint] at h
    obtain ⟨hbusy, wrapped, hscan⟩ := h
    exact hbusy.succ fun _ => hscan.finished
  | wrapAround hpoint =>
    rw [hpoint] at h
    obtain ⟨hbusy, wrapped, hscan⟩ := h
    exact ⟨hbusy, true, hscan.wrap⟩
  | @skipSource time worker left key source hpoint hsource hskip =>
    have hnow : time = now := hclock _ hpoint
    rw [hpoint] at h
    obtain ⟨hbusy, wrapped, hscan⟩ := h
    refine ⟨hbusy, wrapped, hscan.next (OrdMap.mem_keys.mpr ⟨source, hsource⟩) ?_⟩
    intro found hfound
    rw [hsource] at hfound
    cases hfound
    exact hnow ▸ hskip
  | askSource hpoint hsource hask =>
    rw [hpoint] at h
    exact h
  | @delayed time worker left key source delay hpoint hsource hdelay =>
    have hnow : time = now := hclock _ hpoint
    rw [hpoint] at h
    obtain ⟨hbusy, wrapped, hscan⟩ := h
    have hlater : now < time + seconds delay := by
      have hwait : 0 < seconds delay := by
        unfold seconds
        omega
      rw [hnow]
      exact Nat.lt_add_of_pos_right hwait
    have hinsert : (m.queue.delaySource time key source delay).sources =
        m.queue.sources.insert key { source with notBefore := time + seconds delay } := rfl
    refine ⟨hbusy.put (fun _ _ => rfl) hsource hinsert (fun _ => .inr hlater), wrapped, ?_⟩
    refine (hscan.put hsource hinsert rfl (fun _ => .inr hlater)).next ?_ ?_
    · rw [OrdMap.mem_keys, hinsert]
      exact ⟨_, Std.ExtTreeMap.getElem?_insert_self⟩
    · intro found hfound
      rw [hinsert, Std.ExtTreeMap.getElem?_insert_self] at hfound
      cases hfound
      exact .inr hlater
  | @start time worker left key source job hpoint hsource hjob =>
    rw [hpoint] at h
    obtain ⟨hbusy, -⟩ := h
    have hinsert : (m.queue.startJob time worker key source job).sources =
        m.queue.sources.insert key { source with waiting := source.waiting.tail } := rfl
    have hkept : source.waiting = [] ∨ now < source.notBefore →
        source.waiting.tail = [] ∨ now < source.notBefore :=
      fun hold => hold.imp_left fun hnil => by rw [hnil]; rfl
    have hslots : ∀ slot < worker, (m.queue.startJob time worker key source job).running[slot]? =
        m.queue.running[slot]? := fun slot hlt => List.getElem?_set_ne hlt.ne'
    refine Busy.succ (hbusy.put hslots hsource hinsert hkept) (fun hidle => ?_)
    -- the slot was filled
    have hfilled : (m.queue.startJob time worker key source job).running[worker]? ≠ some none := by
      show (m.queue.running.set worker _)[worker]? ≠ some none
      rw [List.getElem?_set_self']
      cases m.queue.running[worker]? <;> simp
    exact absurd hidle hfilled
  | startReturns hpoint =>
    rw [hpoint] at h
    exact h
  | enterSource _ | leaveSources _ | keepJob _ _ _ _ | expireJob _ _ _ _ | dropDead _ _ _
  | leaveSource _ _ _ | callExpire _ | expireReturns _ => exact trivial

end Conserving

/-! ## A whole `Pump` -/

/-- The loop over the waiting jobs is told that a job is dead. -/
def SeenDead (job : Job) (t : System.Transition Machine Label) : Prop :=
  t.label = .alive false ∧ ∃ now expired key index source,
    t.before.point = some (.jobs now expired key index) ∧
    t.before.queue.sources[key]? = some source ∧ source.waiting[index]? = some job

/-- What a `Pump` at `now` leaves behind, after the steps `ts`. -/
structure WorkConserving (now : TimePoint) (ts : List (System.Transition Machine Label))
    (m : Machine) : Prop where
  dead : ∀ t ∈ ts, ∀ job, SeenDead job t → job.serial ∉ m.queue.jobs.map Job.serial
  live : ∀ job ∈ m.queue.jobs, now < job.deadline
  started : ∀ t ∈ ts, ∀ key job, StartsJob key job t → now < job.deadline
  idle : ∀ slot : Nat, m.queue.running[slot]? = some none →
    ∀ (key : String) (source : Source), m.queue.sources[key]? = some source →
      source.waiting ≠ [] → now < source.notBefore

section Pump

variable {workers capacity sourceCapacity : Nat} {now : TimePoint} {m m' : Machine}

/-- The log only grows. -/
theorem mem_log_step {l : Label} {entry : Nat × JobEvent} (hstep : Steps m l m')
    (h : entry ∈ m.log) : entry ∈ m'.log := by
  cases hstep with
  | accept _ _ => exact List.mem_append_left _ h
  | cancel _ => exact List.mem_append_left _ h
  | complete _ _ _ => exact List.mem_append_left _ h
  | dropDead _ _ _ => exact List.mem_append_left _ h
  | callExpire _ => exact List.mem_append_left _ h
  | start _ _ _ => exact List.mem_append_left _ h
  | _ => exact h

/-- A job that was found dead is not queued again. -/
theorem not_queued_of_canceled (h : (system workers capacity sourceCapacity).Reachable m)
    {serial : Nat} (hcanceled : (serial, JobEvent.canceled) ∈ m.log) :
    serial ∉ m.queue.jobs.map Job.serial := by
  obtain ⟨place, owner, hbooks⟩ := (Sound.reachable h).books
  intro hmem
  obtain ⟨job, hjob, rfl⟩ := List.mem_map.mp hmem
  obtain ⟨key, hqueued⟩ := mem_jobs.mp hjob
  have hplace := (hbooks.waiting key job hqueued).2.1
  have hhistory := hbooks.history job.serial
  rw [hplace] at hhistory
  have hentry : JobEvent.canceled ∈ historyIn m.log job.serial :=
    List.mem_map.mpr ⟨_, List.mem_filter.mpr ⟨hcanceled, by simp⟩, rfl⟩
  rw [hhistory] at hentry
  simp [Place.history] at hentry

/-- A step that is told that a job is dead says so in the log. -/
theorem mem_log_of_seenDead {job : Job} {t : System.Transition Machine Label}
    (hstep : Steps t.before t.label t.after) (h : SeenDead job t) :
    (job.serial, JobEvent.canceled) ∈ t.after.log := by
  obtain ⟨before, label, after⟩ := t
  obtain ⟨hlabel, now, expired, key, index, source, hpoint, hsource, hjob⟩ := h
  dsimp only at hstep hlabel hpoint hsource hjob ⊢
  subst hlabel
  cases hstep with
  | dropDead hpoint' hsource' hjob' =>
    rw [hpoint] at hpoint'
    cases hpoint'
    rw [hsource] at hsource'
    cases hsource'
    rw [hjob] at hjob'
    cases hjob'
    exact List.mem_append_right _ (List.mem_singleton.mpr rfl)

/-- A job that is started is at the head of a line that was looked at. -/
theorem Pruned.started (h : Pruned now m) {t : System.Transition Machine Label} {key : String}
    {job : Job} (hbefore : t.before = m) (hstart : StartsJob key job t) : now < job.deadline := by
  obtain ⟨-, time, worker, left, source, hpoint, hsource, hjob⟩ := hstart
  subst hbefore
  have hmem : job ∈ t.before.queue.line key := by
    rw [line_eq hsource]
    exact List.mem_of_head? hjob
  refine h.live (fun _ _ => ?_) hmem
  rw [hpoint]
  exact not_false

/-- **`Pump` is work-conserving and respects deadlines.** Take a `Pump` that is not nested, from any
reachable state, whose `expire` callbacks enqueue only jobs that are not over. When it returns, no
job that it found dead and none that is over is waiting, it has started none that was over, and if a
slot is idle then every source with waiting jobs has to wait for its token. -/
theorem work_conserving {first : Machine} {ts : List (System.Transition Machine Label)}
    (hreachable : (system workers capacity sourceCapacity).Reachable m)
    (hidle : m.queue.pumping = false)
    (hpath : (system workers capacity sourceCapacity).Path m (⟨m, .pump now, first⟩ :: ts) m')
    (hrunning : ∀ t ∈ ts, t.before.point ≠ none) (hdone : m'.point = none)
    (htimely : ∀ t ∈ ts, ∀ time job, t.label = .enqueue time job → now < job.deadline) :
    WorkConserving now ts m' := by
  let Good (m : Machine) : Prop :=
    (system workers capacity sourceCapacity).Reachable m ∧ Pruned now m ∧
      Conserving now m.queue m.point
  have hsteps : ∀ t : System.Transition Machine Label, Good t.before →
      Steps t.before t.label t.after → Timely now t → Good t.after := by
    rintro t ⟨hbefore, hpruned, hconserving⟩ hstep ht
    have hpumping := (Sound.reachable hbefore).pumping ht.1
    exact ⟨hbefore.step hstep, hpruned.step hpumping hstep ht,
      hconserving.step ht.1 hpruned.clock hpumping hstep⟩
  cases hpath with
  | cons hpump hrest =>
  -- nothing has been looked at when `Pump` begins
  have hfirst : Good first := by
    refine ⟨hreachable.step hpump, ?_⟩
    cases hpump with
    | pumpAgain hcaller hpumping =>
      rw [hidle] at hpumping
      cases hpumping
    | pump hcaller hpumping =>
      refine ⟨⟨?_, ?_⟩, trivial⟩
      · rintro _ ⟨⟩
        rfl
      · intro key index job hjob hnot
        refine absurd ?_ hnot
        have hkey : key ∈ m.queue.sources.keys := by
          rw [OrdMap.mem_keys]
          by_contra hnone
          have hempty : m.queue.sources[key]? = none := by
            simpa [Option.eq_none_iff_forall_ne_some] using hnone
          simp [line, hempty] at hjob
        have hfirst := any_firstKey m.queue.sources key hkey
        rw [Option.any_eq_true] at hfirst
        obtain ⟨other, hother, hle⟩ := hfirst
        exact ⟨other, hother, of_decide_eq_true hle⟩
  have hwhole : ∀ t ∈ ts, Timely now t := fun t ht => ⟨hrunning t ht, htimely t ht⟩
  have hbefore : ∀ t ∈ ts, Good t.before ∧ Steps t.before t.label t.after ∧
      ∃ rest, (system workers capacity sourceCapacity).Path t.after rest m' := by
    intro t ht
    obtain ⟨earlier, later, rfl⟩ := List.append_of_mem ht
    obtain ⟨hearlier, hstep, hlater⟩ := hrest.around
    exact ⟨hearlier.keeps (I := Good) hsteps hfirst (fun t' ht' => hwhole t' (by simp [ht'])), hstep,
      later, hlater⟩
  obtain ⟨hend, hpruned, hconserving⟩ := hrest.keeps (I := Good) hsteps hfirst hwhole
  rw [hdone] at hconserving
  constructor
  case dead =>
    intro t ht job hdead
    obtain ⟨-, hstep, rest, hlater⟩ := hbefore t ht
    refine not_queued_of_canceled hend ?_
    exact hlater.keeps (I := fun m => (job.serial, JobEvent.canceled) ∈ m.log) (P := fun _ => True)
      (fun t hmem hstep _ => mem_log_step hstep hmem) (mem_log_of_seenDead hstep hdead)
      (fun _ _ => trivial)
  case live =>
    intro job hjob
    obtain ⟨key, source, hsource, hmem⟩ := mem_jobs.mp hjob
    have hline : job ∈ m'.queue.line key := by
      rw [line_eq hsource]
      exact hmem
    refine hpruned.live (fun _ _ => ?_) hline
    rw [hdone]
    exact not_false
  case started =>
    intro t ht key job hstart
    exact (hbefore t ht).1.2.1.started rfl hstart
  case idle =>
    intro slot hslot key source hsource hwaiting
    rcases hconserving (slot + 1) slot (Nat.lt_succ_self slot) hslot key source hsource with h | h
    · exact absurd h hwaiting
    · exact h

/-- `Timely`, computed. -/
def isTimely (now : TimePoint) (t : System.Transition Machine Label) : Bool :=
  t.before.point.isSome &&
    match t.label with
    | .enqueue _ job => decide (now < job.deadline)
    | _ => true

theorem timely_of_isTimely {t : System.Transition Machine Label} (h : isTimely now t = true) :
    Timely now t := by
  unfold isTimely at h
  rw [Bool.and_eq_true] at h
  obtain ⟨hpoint, hlabel⟩ := h
  refine ⟨Option.isSome_iff_ne_none.mp hpoint, fun time job hl => ?_⟩
  rw [hl] at hlabel
  exact of_decide_eq_true hlabel

/-- A job that is over, whose callback enqueues one that is not; one that is dead, before one that is
alive; and one whose source has to wait. The two that can be started are, and a slot is left idle. -/
theorem work_conserving_replaced : ∃ (ts : List (System.Transition Machine Label)) (m : Machine),
    WorkConserving 10 ts m ∧
    m.queue.stats =
      { accepted := 5, started := 2, canceled := 1, expired := 1, sourceWaits := 1 } ∧
    m.queue.running[2]? = some none ∧ (m.queue.line "c").map Job.serial = [3] := by
  let start : Machine :=
    { queue := { capacity := 8, sourceCapacity := 4, running := [none, none, none] } }
  have hstart : (system 3 8 4).start start := ⟨start.queue, rfl, rfl⟩
  let job (id : Nat) (source : String) (deadline : TimePoint) : Job := { id, source, deadline }
  have hplay : (System.play attempt start
      [.enqueue 0 (job 0 "a" 5), .enqueue 0 (job 1 "b" 20), .enqueue 0 (job 2 "b" 20),
        .enqueue 0 (job 3 "c" 20)]).any (fun way =>
      !way.2.queue.pumping && (way.2.follow (.pump 10)).any (fun first =>
        (System.play attempt first
          -- the loops over the sources and the expired jobs
          [.silent, .alive true, .silent, .silent, .alive false, .alive true, .silent, .silent,
            .alive true, .silent, .silent, .expire, .enqueue 10 (job 4 "d" 20), .expireReturns,
            .silent,
          -- the loop over the workers
            .silent, .silent, .asked 0, .startReturns,
            .silent, .silent, .asked 3, .silent, .asked 0, .startReturns,
            .silent, .silent, .silent, .silent, .silent, .silent, .silent]).any (fun way =>
          way.1.all (isTimely 10) && way.2.point.isNone &&
          decide (way.2.queue.stats =
            { accepted := 5, started := 2, canceled := 1, expired := 1, sourceWaits := 1 }) &&
          decide (way.2.queue.running[2]? = some none) &&
          decide ((way.2.queue.line "c").map Job.serial = [3])))) = true := by
    decide +kernel
  obtain ⟨before, m, hbefore, htest⟩ :=
    @System.exists_path_of_play _ _ (system 3 8 4) _ attempt attempt_steps _ _ _ hplay
  simp only [Bool.and_eq_true, Bool.not_eq_true', Option.any_eq_true, List.all_eq_true,
    Option.isNone_iff_eq_none, decide_eq_true_eq] at htest
  obtain ⟨hpumping, first, hfirst, ⟨ts, m'⟩, hway, htest⟩ := htest
  obtain ⟨⟨⟨⟨htimely, hdone⟩, hstats⟩, hidle⟩, hline⟩ := htest
  have hpath : (system 3 8 4).Path first ts m' := System.path_of_play attempt_steps hway
  have hconserving := work_conserving (hbefore.reachable ⟨[], .start hstart⟩) hpumping
    (.cons (steps_of_follow hfirst) hpath) (fun t ht => (timely_of_isTimely (htimely t ht)).1) hdone
    (fun t ht => (timely_of_isTimely (htimely t ht)).2)
  exact ⟨ts, m', hconserving, hstats, hidle, hline⟩

end Pump

end CrossDesk.CredentialQueue
