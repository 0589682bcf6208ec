import CrossDesk.DeviceAuthLimiter.Effects

/-!
# Verifications by name

`Monitored` counts the verifications in flight by what they hold. To speak of one verification, from
the request to its end, every call of `Verify` gets a number here, and a label carries the answer the
call got. `CooldownRemaining` and `Snapshot` are calls too; they only read the maps.

A run of calls is a run of `Monitored` without the names (`shadow`), so what is known of those holds
here: who holds a bucket, and that a held bucket is there and open.
-/

namespace CrossDesk.DeviceAuthLimiter

/-- The limiter, the verifications that are between their two halves, the numbers given out so far,
and the last clock reading. -/
structure Ongoing where
  limiter : DeviceAuthLimiter
  running : List (Nat × Reservation) := []
  issued : List Nat := []
  clock : TimePoint := 0

/-- A call, or half of one. `refused` is the delay that a refused `Verify` returned. -/
inductive Call where
  | verify (id : Nat) (now : TimePoint) (source target : String) (operation : Operation)
      (refused : Option Nat)
  | finish (id : Nat) (authenticated : Bool) (finished : TimePoint)
  | clear (matchesKey : Bool → String → Bool) (now : Bool → String → TimePoint)
      (done : TimePoint)
  | read (now : TimePoint)

/-- The call is a `ClearMatching` of the bucket. -/
def Call.clears (d : Dimension) (key : String) : Call → Prop
  | .clear matchesKey _ _ => matchesKey d.isSource key = true
  | _ => False

/-- The time at which a call acts on a bucket. -/
def Call.actsAt (d : Dimension) (key : String) : Call → TimePoint
  | .verify _ now _ _ _ _ => now
  | .finish _ _ finished => finished
  | .clear _ now _ => now d.isSource key
  | .read now => now

namespace Ongoing

/-- The bucket of a key, if there is one. -/
def bucket (s : Ongoing) (d : Dimension) (key : String) : Option Failures :=
  (s.limiter.buckets d)[key]?

/-- The verifications that hold a bucket. -/
def holders (s : Ongoing) (d : Dimension) (key : String) : Nat :=
  s.running.countP (fun call => call.2.key d == key)

/-- The calls. Every admitted verification gets a number of its own. -/
inductive Steps (s : Ongoing) : Call → Ongoing → Prop where
  | refuse {id : Nat} {now : TimePoint} {source target : String} {operation : Operation}
      {delay : Nat} {limiter : DeviceAuthLimiter} (hclock : s.clock ≤ now)
      (hrefused : reserve now source target operation s.limiter = (.retryAfter delay, limiter)) :
      Steps s (.verify id now source target operation (some delay))
        { s with limiter, clock := now }
  | accept {id : Nat} {now : TimePoint} {source target : String} {operation : Operation}
      {r : Reservation} {limiter : DeviceAuthLimiter} (hclock : s.clock ≤ now)
      (hfresh : id ∉ s.issued)
      (hadmitted : reserve now source target operation s.limiter = (.reserved r, limiter)) :
      Steps s (.verify id now source target operation none)
        { limiter, running := (id, r) :: s.running, issued := id :: s.issued, clock := now }
  | finish {id : Nat} {r : Reservation} {authenticated : Bool} {finished : TimePoint}
      {limiter : DeviceAuthLimiter} (hclock : s.clock ≤ finished) (hrunning : (id, r) ∈ s.running)
      (hfinished : finish r authenticated finished s.limiter = some limiter) :
      Steps s (.finish id authenticated finished)
        { s with limiter, running := s.running.erase (id, r), clock := finished }
  | clear {matchesKey : Bool → String → Bool} {now : Bool → String → TimePoint}
      {done : TimePoint} (hclock : s.clock ≤ done)
      (hnow : ∀ isSource key, s.clock ≤ now isSource key ∧ now isSource key ≤ done) :
      Steps s (.clear matchesKey now done)
        { s with limiter := clearMatching matchesKey now s.limiter, clock := done }
  | read {now : TimePoint} (hclock : s.clock ≤ now) : Steps s (.read now) { s with clock := now }

/-- A limiter under calls. The constructor refuses a limit of zero. -/
def system : System Ongoing Call where
  start s := ∃ sourceLimit targetLimit : Nat, ∃ policy : Policy,
    1 ≤ sourceLimit ∧ 1 ≤ targetLimit ∧
      s = { limiter :=
              { sourceFailureLimit := sourceLimit, targetFailureLimit := targetLimit, policy } }
  step := Steps

/-! ## The run without names -/

/-- The same limiter, with the verifications counted and not named. -/
structure Shadow (s : Ongoing) (m : Monitored) : Prop where
  reachable : Monitored.system.Reachable m
  limiter : m.limiter = s.limiter
  clock : m.clock ≤ s.clock
  inFlight : m.inFlight.Perm (s.running.map Prod.snd)
  named : (s.running.map Prod.fst).Nodup
  issued : ∀ call ∈ s.running, call.1 ∈ s.issued

namespace Shadow

variable {s s' : Ongoing} {m : Monitored} {call : Call}

theorem bucket_eq (h : Shadow s m) (d : Dimension) (key : String) :
    m.bucket d key = s.bucket d key := by
  unfold Monitored.bucket Ongoing.bucket
  rw [h.limiter]

theorem holders_eq (h : Shadow s m) (d : Dimension) (key : String) :
    m.holders d key = s.holders d key := by
  unfold Monitored.holders Ongoing.holders
  rw [h.inFlight.countP_eq, List.countP_map]
  rfl

theorem start (h : system.start s) : ∃ m, Shadow s m := by
  obtain ⟨sourceLimit, targetLimit, policy, hsource, htarget, rfl⟩ := h
  refine ⟨_, ⟨[], .start ⟨sourceLimit, targetLimit, policy, hsource, htarget, rfl⟩⟩, rfl,
    le_rfl, ?_, List.nodup_nil, nofun⟩
  exact List.Perm.refl _

/-- A call that finishes takes one name and one reservation away. -/
theorem running_erase (h : (s.running.map Prod.fst).Nodup) {id : Nat} {r : Reservation}
    (hrunning : (id, r) ∈ s.running) :
    (s.running.map Prod.snd).Perm (r :: (s.running.erase (id, r)).map Prod.snd) ∧
      ((s.running.erase (id, r)).map Prod.fst).Nodup ∧
      ∀ call, call ∈ s.running.erase (id, r) ↔ call ∈ s.running ∧ call.1 ≠ id := by
  have hsplit := List.perm_cons_erase hrunning
  refine ⟨by simpa using hsplit.map Prod.snd, (List.erase_sublist.map Prod.fst).nodup h, ?_⟩
  intro call
  have hnodup : s.running.Nodup := h.of_map Prod.fst
  rw [hnodup.mem_erase_iff, and_comm]
  refine and_congr_right fun hcall => ⟨fun hne heq => hne ?_, fun hne heq => hne (heq ▸ rfl)⟩
  exact List.inj_on_of_nodup_map h hcall hrunning heq

/-- **Every call that changes anything is a step of the run without names.** -/
theorem follows (h : Shadow s m) (hstep : Steps s call s') :
    (∃ step m', Monitored.Steps m step m' ∧ Shadow s' m' ∧
      (∀ r finished, step = .finish r false finished → ∃ id, call = .finish id false finished) ∧
      ∀ d key, (step.clears d key ↔ call.clears d key) ∧ step.actsAt d key = call.actsAt d key) ∨
      (∃ now, call = .read now) ∧ Shadow s' m ∧ s'.limiter = s.limiter := by
  cases hstep with
  | @refuse id now source target operation delay limiter hclock hrefused =>
    have hmine : Monitored.Steps m (.reserve now source target operation)
        { m with limiter, clock := now, log := m.logged (.reserve now source target operation) } :=
      .refuse (h.clock.trans hclock) (h.limiter ▸ hrefused)
    exact .inl ⟨_, _, hmine,
      ⟨h.reachable.step hmine, rfl, le_rfl, h.inFlight, h.named, h.issued⟩, nofun,
      fun d key => ⟨Iff.rfl, rfl⟩⟩
  | @accept id now source target operation r limiter hclock hfresh hadmitted =>
    have hmine : Monitored.Steps m (.reserve now source target operation)
        { limiter
          inFlight := r :: m.inFlight
          clock := now
          log := m.logged (.reserve now source target operation) } :=
      .accept (h.clock.trans hclock) (h.limiter ▸ hadmitted)
    have hnamed : ((id, r) :: s.running).map Prod.fst = id :: s.running.map Prod.fst := rfl
    refine .inl ⟨_, _, hmine,
      ⟨h.reachable.step hmine, rfl, le_rfl, h.inFlight.cons r, ?_, ?_⟩, nofun,
      fun d key => ⟨Iff.rfl, rfl⟩⟩
    · show (((id, r) :: s.running).map Prod.fst).Nodup
      rw [hnamed, List.nodup_cons]
      -- A call that runs was issued, and this id was not.
      refine ⟨fun hmem => ?_, h.named⟩
      obtain ⟨call, hcall, hid⟩ := List.mem_map.mp hmem
      exact hfresh (hid ▸ h.issued call hcall)
    · intro call hcall
      rcases List.mem_cons.mp hcall with rfl | hcall
      · exact List.mem_cons_self
      · exact List.mem_cons_of_mem _ (h.issued call hcall)
  | @finish id r authenticated finished limiter hclock hrunning hfinished =>
    obtain ⟨hperm, hnodup, hleft⟩ := running_erase h.named hrunning
    have hflying : r ∈ m.inFlight := h.inFlight.mem_iff.mpr (List.mem_map_of_mem hrunning)
    have hmine : Monitored.Steps m (.finish r authenticated finished)
        { limiter
          inFlight := m.inFlight.erase r
          clock := finished
          log := m.logged (.finish r authenticated finished) } :=
      .finish (h.clock.trans hclock) hflying (h.limiter ▸ hfinished)
    refine .inl ⟨_, _, hmine, ⟨h.reachable.step hmine, rfl, le_rfl, ?_, hnodup, ?_⟩, ?_,
      fun d key => ⟨Iff.rfl, rfl⟩⟩
    -- Both sides lose the reservation that finishes.
    · exact List.Perm.cons_inv (((List.perm_cons_erase hflying).symm.trans h.inFlight).trans hperm)
    · exact fun call hcall => h.issued call ((hleft call).mp hcall).1
    · rintro r' finished' ⟨⟩
      exact ⟨id, rfl⟩
  | @clear matchesKey now done hclock hnow =>
    have hmine : Monitored.Steps m (.clear matchesKey now done)
        { m with
          limiter := clearMatching matchesKey now m.limiter
          clock := done
          log := m.logged (.clear matchesKey now done) } :=
      .clear (h.clock.trans hclock)
        (fun isSource key => ⟨h.clock.trans (hnow isSource key).1, (hnow isSource key).2⟩)
    refine .inl ⟨_, _, hmine,
      ⟨h.reachable.step hmine, ?_, le_rfl, h.inFlight, h.named, h.issued⟩, nofun,
      fun d key => ⟨Iff.rfl, rfl⟩⟩
    show clearMatching matchesKey now m.limiter = clearMatching matchesKey now s.limiter
    rw [h.limiter]
  | @read now hclock =>
    exact .inr ⟨⟨now, rfl⟩,
      ⟨h.reachable, h.limiter, h.clock.trans hclock, h.inFlight, h.named, h.issued⟩, rfl⟩

end Shadow

/-- A run of calls has a run without names beside it. -/
theorem shadow {s : Ongoing} (h : system.Reachable s) : ∃ m, Shadow s m := by
  refine h.invariant (I := fun s => ∃ m, Shadow s m) (fun _ => Shadow.start) ?_
  rintro s call s' ⟨m, hm⟩ hstep
  rcases hm.follows hstep with ⟨_, m', _, hm', _⟩ | ⟨_, hm', _⟩
  · exact ⟨m', hm'⟩
  · exact ⟨m, hm'⟩

section Reachable

variable {s s' : Ongoing} {call : Call}

/-- **What a call does to one bucket.** -/
theorem Steps.effect (hs : system.Reachable s) (h : Steps s call s') (d : Dimension)
    (key : String) :
    ∃ events, Effect (s.limiter.limit d) s.limiter.policy (call.clears d key)
      (call.actsAt d key) (s.bucket d key) events (s'.bucket d key) ∧
      (.recorded ∈ events → ∃ id finished, call = .finish id false finished) := by
  obtain ⟨m, hm⟩ := shadow hs
  rcases hm.follows h with ⟨step, m', hmine, hm', hfails, hsame⟩ | ⟨_, _, hlimiter⟩
  · have heffect := hmine.effect hm.reachable d key
    obtain ⟨hclears, hacts⟩ := hsame d key
    rw [hm.bucket_eq, hm'.bucket_eq, hm.limiter, hacts, propext hclears] at heffect
    refine ⟨_, heffect, fun hrecords => ?_⟩
    obtain ⟨r, finished, hstep⟩ := recorded_of_happens hrecords
    obtain ⟨id, hcall⟩ := hfails r finished hstep
    exact ⟨id, finished, hcall⟩
  · have hbucket : s'.bucket d key = s.bucket d key := by
      unfold bucket
      rw [hlimiter]
    rw [hbucket]
    exact ⟨_, .idle _, nofun⟩

/-- Pending is the number of verifications that hold the bucket. -/
theorem pending_eq (hs : system.Reachable s) (d : Dimension) (key : String) :
    ((s.bucket d key).map Failures.pending).getD 0 = s.holders d key := by
  obtain ⟨m, hm⟩ := shadow hs
  rw [← hm.bucket_eq, ← hm.holders_eq]
  exact (guesses_bounded hm.reachable).pending_eq d key

/-- A running verification holds its buckets, which are there and open. -/
theorem held (hs : system.Reachable s) {id : Nat} {r : Reservation} (hr : (id, r) ∈ s.running)
    (d : Dimension) :
    ∃ f : Failures, s.bucket d (r.key d) = some f ∧ 1 ≤ f.pending ∧ f.blockedUntil ≤ s.clock := by
  obtain ⟨m, hm⟩ := shadow hs
  have hflying : r ∈ m.inFlight := hm.inFlight.mem_iff.mpr (List.mem_map_of_mem hr)
  obtain ⟨f, hf, hopen⟩ := (guesses_bounded hm.reachable).open_in_flight r hflying d
  obtain ⟨f', hf', hpending⟩ := (Safe.reachable hm.reachable).held hflying d
  rw [hf] at hf'
  cases hf'
  rw [hm.bucket_eq] at hf
  exact ⟨f, hf, hpending, hopen.trans hm.clock⟩

/-- A running verification can finish at any time. -/
theorem finishes (hs : system.Reachable s) {id : Nat} {r : Reservation}
    (hr : (id, r) ∈ s.running) (authenticated : Bool) {finished : TimePoint}
    (hclock : s.clock ≤ finished) : ∃ s', Steps s (.finish id authenticated finished) s' := by
  have hthere : ∀ d, (s.limiter.buckets d)[r.key d]? ≠ none := by
    intro d hnone
    obtain ⟨f, hf, _⟩ := held hs hr d
    rw [show s.bucket d (r.key d) = none from hnone] at hf
    cases hf
  obtain ⟨limiter, hfinish⟩ := finish_isSome hthere
  exact ⟨_, .finish hclock hr hfinish⟩

/-- The names of the running verifications were given out, each once. -/
theorem named (hs : system.Reachable s) :
    (s.running.map Prod.fst).Nodup ∧ ∀ call ∈ s.running, call.1 ∈ s.issued := by
  obtain ⟨m, hm⟩ := shadow hs
  exact ⟨hm.named, hm.issued⟩

theorem limit_pos (hs : system.Reachable s) (d : Dimension) : 1 ≤ s.limiter.limit d := by
  obtain ⟨m, hm⟩ := shadow hs
  rw [← hm.limiter]
  exact (Safe.reachable hm.reachable).limit_pos d

end Reachable

/-! ## Computed runs -/

/-- A call without its answer. A clear reads the clock once. -/
inductive Command where
  | verify (id : Nat) (now : TimePoint) (source target : String) (operation : Operation)
  | finish (id : Nat) (authenticated : Bool) (finished : TimePoint)
  | clear (matchesKey : Bool → String → Bool) (now : TimePoint)

/-- Carry a call out. -/
def attempt (s : Ongoing) : Command → Option (Call × Ongoing)
  | .verify id now source target operation =>
    if s.clock ≤ now ∧ id ∉ s.issued then
      match reserve now source target operation s.limiter with
      | (.retryAfter delay, limiter) =>
        some (.verify id now source target operation (some delay), { s with limiter, clock := now })
      | (.reserved r, limiter) =>
        some (.verify id now source target operation none,
          { limiter, running := (id, r) :: s.running, issued := id :: s.issued, clock := now })
    else none
  | .finish id authenticated finished =>
    match s.running.find? (fun call => call.1 == id) with
    | none => none
    | some call =>
      if s.clock ≤ finished then
        (DeviceAuthLimiter.finish call.2 authenticated finished s.limiter).map (fun limiter =>
          (.finish id authenticated finished,
            { s with limiter, running := s.running.erase call, clock := finished }))
      else none
  | .clear matchesKey now =>
    if s.clock ≤ now then
      some (.clear matchesKey (fun _ _ => now) now,
        { s with limiter := clearMatching matchesKey (fun _ _ => now) s.limiter, clock := now })
    else none

theorem attempt_steps (s : Ongoing) (command : Command) (call : Call) (s' : Ongoing)
    (h : s.attempt command = some (call, s')) : system.step s call s' := by
  unfold attempt at h
  cases command with
  | verify id now source target operation =>
    dsimp only at h
    split at h
    · rename_i hready
      rcases hreserve : reserve now source target operation s.limiter with
        ⟨delay | r, limiter⟩
      · rw [hreserve] at h
        cases h
        exact .refuse hready.1 hreserve
      · rw [hreserve] at h
        cases h
        exact .accept hready.1 hready.2 hreserve
    · cases h
  | finish id authenticated finished =>
    dsimp only at h
    cases hfind : s.running.find? (fun call => call.1 == id) with
    | none =>
      rw [hfind] at h
      cases h
    | some call =>
      rw [hfind] at h
      dsimp only at h
      split at h
      · rename_i hclock
        obtain ⟨limiter, hfinish, heq⟩ := Option.map_eq_some_iff.mp h
        cases heq
        obtain ⟨name, r⟩ := call
        have hname : name = id := by simpa using List.find?_some hfind
        subst hname
        exact .finish hclock (List.mem_of_find?_eq_some hfind) hfinish
      · cases h
  | clear matchesKey now =>
    dsimp only at h
    split at h
    · rename_i hclock
      cases h
      exact .clear hclock (fun _ _ => ⟨hclock, le_rfl⟩)
    · cases h

end Ongoing

end CrossDesk.DeviceAuthLimiter
