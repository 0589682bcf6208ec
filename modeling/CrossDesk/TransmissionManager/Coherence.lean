import CrossDesk.Lib.System
import CrossDesk.TransmissionManager.Release

/-!
# The seven maps stay coherent

The maps are keyed by room, by identity and by handle, and every operation updates them one at a
time. `Coherent` collects what they say about each other between operations: rooms with guests have
a host who is not among them, a grant names a guest of its room and a handle bound to that guest,
routes and bindings agree, and nothing is recorded about an unbound handle.

Almost every change keeps all of it. The exception is unbinding a handle, which leaves the grants of
that handle behind until the loop of `ReleaseUserSession` has ended them; `BoundExcept` says which
grants may dangle in between, and `releaseJoined_settles` that none does afterwards.
-/

namespace CrossDesk

open Logged

/-- What the maps say about each other, apart from the handles that grants name. -/
structure Tabled (r : Routing) : Prop where
  /-- A room with a guest list has a host, who is not a guest. -/
  host_of_guests : ∀ (tx : String) (gs : List String), r.transmissionGuestIdList[tx]? = some gs →
    ∃ host : String, r.transmissionHostIdList[tx]? = some host ∧ host ∉ gs
  guests_ne_nil : ∀ (tx : String) (gs : List String),
    r.transmissionGuestIdList[tx]? = some gs → gs ≠ []
  guests_nodup : ∀ (tx : String) (gs : List String),
    r.transmissionGuestIdList[tx]? = some gs → gs.Nodup
  guest_of_grant : ∀ (tx g : String) (h : ConnectionHdl),
    r.grantOf tx g = some h → g ∈ r.guestsOf tx
  /-- The default route of an identity is a handle bound to it. -/
  bound_of_route : ∀ (u : String) (h : ConnectionHdl),
    r.userIdWsHdlList[u]? = some h → r.wsHdlUserIdList[h]? = some u
  /-- Every bound identity has a default route. -/
  route_of_bound : ∀ (h : ConnectionHdl) (u : String),
    r.wsHdlUserIdList[h]? = some u → ∃ h' : ConnectionHdl, r.userIdWsHdlList[u]? = some h'
  bound_ne_empty : ∀ (h : ConnectionHdl) (u : String), r.wsHdlUserIdList[h]? = some u → u ≠ ""
  bound_of_verified : ∀ (h : ConnectionHdl) (d : String),
    r.wsHdlVerifiedDeviceIds[h]? = some d → ∃ u : String, r.wsHdlUserIdList[h]? = some u
  bound_of_active : ∀ (h : ConnectionHdl) (t : TimePoint),
    r.wsHdlLastActiveTimeMap[h]? = some t → ∃ u : String, r.wsHdlUserIdList[h]? = some u

/-- **Coherence of the routing tables.** -/
structure Coherent (r : Routing) : Prop extends Tabled r where
  /-- A grant names a handle bound to the guest. -/
  bound_of_grant : ∀ (tx g : String) (h : ConnectionHdl),
    r.grantOf tx g = some h → r.wsHdlUserIdList[h]? = some g

/-- Coherent, except that the grants of `g` through `h` may dangle. -/
structure CoherentExcept (g : String) (h : ConnectionHdl) (r : Routing) : Prop extends
    Tabled r where
  bound_of_grant : ∀ (tx g' : String) (h' : ConnectionHdl),
    r.grantOf tx g' = some h' → r.wsHdlUserIdList[h']? = some g' ∨ g' = g ∧ h' = h

namespace Tabled

variable {r : Routing}

/-! ## Each change keeps the tables -/

theorem withoutRoom (hr : Tabled r) (tx : String) : Tabled (r.withoutRoom tx) where
  host_of_guests := by
    intro t gs hgs
    have hhost := hr.host_of_guests t gs
    simp only [Routing.withoutRoom] at hgs ⊢
    grind
  guests_ne_nil := by
    intro t gs hgs
    have hne := hr.guests_ne_nil t gs
    simp only [Routing.withoutRoom] at hgs
    grind
  guests_nodup := by
    intro t gs hgs
    have hnodup := hr.guests_nodup t gs
    simp only [Routing.withoutRoom] at hgs
    grind
  guest_of_grant := by
    intro t g h hgrant
    have hguest := hr.guest_of_grant t g h
    grind
  bound_of_route := hr.bound_of_route
  route_of_bound := hr.route_of_bound
  bound_ne_empty := hr.bound_ne_empty
  bound_of_verified := hr.bound_of_verified
  bound_of_active := hr.bound_of_active

theorem withoutGuest (hr : Tabled r) (g tx : String) : Tabled (r.withoutGuest g tx) where
  host_of_guests := by
    intro t gs hgs
    have hhost := hr.host_of_guests t
    rw [Routing.guestList_withoutGuest] at hgs
    show ∃ host : String, r.transmissionHostIdList[t]? = some host ∧ host ∉ gs
    unfold Routing.guestsOf at hgs
    grind
  guests_ne_nil := by
    intro t gs hgs
    have hne := hr.guests_ne_nil t gs
    rw [Routing.guestList_withoutGuest] at hgs
    grind
  guests_nodup := by
    intro t gs hgs
    have hnodup := hr.guests_nodup t
    rw [Routing.guestList_withoutGuest] at hgs
    unfold Routing.guestsOf at hgs
    grind
  guest_of_grant := by
    intro t g' h hgrant
    have hguest := hr.guest_of_grant t g' h
    grind
  bound_of_route := hr.bound_of_route
  route_of_bound := hr.route_of_bound
  bound_ne_empty := hr.bound_ne_empty
  bound_of_verified := hr.bound_of_verified
  bound_of_active := hr.bound_of_active

theorem withGuest (hr : Tabled r) {g tx host : String}
    (hhost : r.transmissionHostIdList[tx]? = some host) (hne : host ≠ g)
    (hnew : g ∉ r.guestsOf tx) : Tabled (r.withGuest g tx) where
  host_of_guests := by
    intro t gs hgs
    have hhosts := hr.host_of_guests t
    simp only [Routing.withGuest] at hgs ⊢
    unfold Routing.guestsOf at hgs
    grind
  guests_ne_nil := by
    intro t gs hgs
    have hne := hr.guests_ne_nil t gs
    have happended : r.guestsOf tx ++ [g] ≠ [] := List.append_ne_nil_of_right_ne_nil _ (by simp)
    simp only [Routing.withGuest] at hgs
    grind
  guests_nodup := by
    intro t gs hgs
    have hnodup := hr.guests_nodup t
    simp only [Routing.withGuest] at hgs
    unfold Routing.guestsOf at hgs hnew
    grind
  guest_of_grant := by
    intro t g' h hgrant
    have hguest := hr.guest_of_grant t g' h hgrant
    grind
  bound_of_route := hr.bound_of_route
  route_of_bound := hr.route_of_bound
  bound_ne_empty := hr.bound_ne_empty
  bound_of_verified := hr.bound_of_verified
  bound_of_active := hr.bound_of_active

theorem withGrant (hr : Tabled r) {g tx : String} (hguest : g ∈ r.guestsOf tx)
    (h : ConnectionHdl) : Tabled (r.withGrant g tx h) where
  host_of_guests := hr.host_of_guests
  guests_ne_nil := hr.guests_ne_nil
  guests_nodup := hr.guests_nodup
  guest_of_grant := by
    intro t g' h' hgrant
    have hold := hr.guest_of_grant t g' h'
    show g' ∈ r.guestsOf t
    grind
  bound_of_route := hr.bound_of_route
  route_of_bound := hr.route_of_bound
  bound_ne_empty := hr.bound_ne_empty
  bound_of_verified := hr.bound_of_verified
  bound_of_active := hr.bound_of_active

theorem withoutActivity (hr : Tabled r) (h : ConnectionHdl) : Tabled (r.withoutActivity h) where
  host_of_guests := hr.host_of_guests
  guests_ne_nil := hr.guests_ne_nil
  guests_nodup := hr.guests_nodup
  guest_of_grant := hr.guest_of_grant
  bound_of_route := hr.bound_of_route
  route_of_bound := hr.route_of_bound
  bound_ne_empty := hr.bound_ne_empty
  bound_of_verified := hr.bound_of_verified
  bound_of_active := by
    intro h' t hactive
    have hbound := hr.bound_of_active h' t
    simp only [Routing.withoutActivity] at hactive ⊢
    grind

theorem bindHost (hr : Tabled r) (host tx : String) :
    Tabled (r.bindHostToTransmission host tx).2 := by
  unfold Routing.bindHostToTransmission
  split
  · exact hr
  split
  · exact hr
  · rename_i _ hfree
    refine { hr with host_of_guests := ?_, guest_of_grant := hr.guest_of_grant }
    intro t gs hgs
    have hhost := hr.host_of_guests t gs hgs
    grind

theorem updateActivity (hr : Tabled r) (now : TimePoint) (h : ConnectionHdl) :
    Tabled (r.updateWsHandleLastActiveTime now h).2 := by
  unfold Routing.updateWsHandleLastActiveTime
  split
  · rename_i hbound
    refine { hr with bound_of_active := ?_, guest_of_grant := hr.guest_of_grant }
    intro h' t hactive
    have hold := hr.bound_of_active h' t
    obtain ⟨u, hu⟩ := OrdMap.contains_iff.mp hbound
    grind
  · exact hr

/-- A successful binding, before the activity time is recorded. The socket had no identity or this
one, so no other binding changes. -/
theorem bind (hr : Tabled r) {u d : String} {h : ConnectionHdl} (hu : u ≠ "")
    (hsame : ∀ u' : String, r.wsHdlUserIdList[h]? = some u' → u' = u) :
    Tabled { r with
      userIdWsHdlList :=
        if isAlias u then r.userIdWsHdlList.insertIfNew u h else r.userIdWsHdlList.insert u h
      wsHdlUserIdList := r.wsHdlUserIdList.insert h u
      wsHdlVerifiedDeviceIds :=
        if d = "" then r.wsHdlVerifiedDeviceIds else r.wsHdlVerifiedDeviceIds.insert h d } where
  host_of_guests := hr.host_of_guests
  guests_ne_nil := hr.guests_ne_nil
  guests_nodup := hr.guests_nodup
  guest_of_grant := hr.guest_of_grant
  bound_of_route := by
    intro u' h' hroute
    have hold := hr.bound_of_route u' h'
    show (r.wsHdlUserIdList.insert h u)[h']? = some u'
    grind
  route_of_bound := by
    intro h' u' hbound
    have hold := hr.route_of_bound h' u'
    by_cases hself : u' = u
    · -- an alias with a route keeps it; every other identity gets `h`
      subst hself
      by_cases hkept : isAlias u' = true ∧ ∃ h₀ : ConnectionHdl, r.userIdWsHdlList[u']? = some h₀
      · obtain ⟨hal, h₀, hroute⟩ := hkept
        exact ⟨h₀, by grind⟩
      · exact ⟨h, by grind⟩
    · obtain ⟨h₁, hroute⟩ := hold (by grind)
      exact ⟨h₁, by grind⟩
  bound_ne_empty := by
    intro h' u' hbound
    have hold := hr.bound_ne_empty h' u'
    grind
  bound_of_verified := by
    intro h' d' hverified
    have hold := hr.bound_of_verified h' d'
    show ∃ u' : String, (r.wsHdlUserIdList.insert h u)[h']? = some u'
    grind
  bound_of_active := by
    intro h' t hactive
    have hold := hr.bound_of_active h' t hactive
    show ∃ u' : String, (r.wsHdlUserIdList.insert h u)[h']? = some u'
    grind

theorem bindUser (hr : Tabled r) (expired : Bool) (now : TimePoint) (u : String)
    (h : ConnectionHdl) (d : String) :
    Tabled (r.bindUserToWsHandle expired now u h d).2 := by
  unfold Routing.bindUserToWsHandle
  split
  · exact hr
  split
  · exact hr
  · rename_i hnamed hfree
    have hsame : ∀ u' : String, r.wsHdlUserIdList[h]? = some u' → u' = u := by
      intro u' hu'
      simpa [hu'] using hfree
    have hbind := hr.bind (d := d) (fun hu => hnamed (.inl hu)) hsame
    have hstep := hbind.updateActivity now h
    by_cases hd : d = ""
    · simpa [hd] using hstep
    · simpa [hd] using hstep

/-- A handle is forgotten, and routes that agree with the bindings left are put in place. -/
theorem forget (hr : Tabled r) (h : ConnectionHdl) (routes : OrdMap String ConnectionHdl)
    (hbound : ∀ (u : String) (h' : ConnectionHdl),
      routes[u]? = some h' → (r.wsHdlUserIdList.erase h)[h']? = some u)
    (hroute : ∀ (h' : ConnectionHdl) (u : String),
      (r.wsHdlUserIdList.erase h)[h']? = some u → ∃ h₁ : ConnectionHdl, routes[u]? = some h₁) :
    Tabled { r with
      userIdWsHdlList := routes
      wsHdlUserIdList := r.wsHdlUserIdList.erase h
      wsHdlLastActiveTimeMap := r.wsHdlLastActiveTimeMap.erase h
      wsHdlVerifiedDeviceIds := r.wsHdlVerifiedDeviceIds.erase h } where
  host_of_guests := hr.host_of_guests
  guests_ne_nil := hr.guests_ne_nil
  guests_nodup := hr.guests_nodup
  guest_of_grant := hr.guest_of_grant
  bound_of_route := hbound
  route_of_bound := hroute
  bound_ne_empty := by
    intro h' u hu
    have hold := hr.bound_ne_empty h' u
    grind
  bound_of_verified := by
    intro h' d hd
    have hold := hr.bound_of_verified h' d
    grind
  bound_of_active := by
    intro h' t ht
    have hold := hr.bound_of_active h' t
    grind

/-- Unbinding a handle: its identity keeps its route, passes it to another handle of its own, or
loses it with the last one. -/
theorem unbind (hr : Tabled r) (h : ConnectionHdl) : Tabled (r.releaseUserFromWsHandle h).2 := by
  unfold Routing.releaseUserFromWsHandle
  have hroutes := hr.bound_of_route
  have hbounds := hr.route_of_bound
  cases hbound : r.wsHdlUserIdList[h]? with
  | none =>
    have hsame : r.wsHdlUserIdList.erase h = r.wsHdlUserIdList := OrdMap.erase_eq_self hbound
    have hforget := hr.forget h r.userIdWsHdlList (by rwa [hsame]) (by rwa [hsame])
    simp only [hbound]
    rwa [hsame] at hforget
  | some u =>
    by_cases hdefault : r.userIdWsHdlList[u]? = some h
    · simp only [hbound, hdefault, if_true]
      cases hnext : OrdMap.firstKeyOf (r.wsHdlUserIdList.erase h) u with
      | some h₁ =>
        have hh₁ := OrdMap.firstKeyOf_eq_some hnext
        exact hr.forget h (r.userIdWsHdlList.insert u h₁) (by grind) (by grind)
      | none =>
        have hlast := OrdMap.firstKeyOf_eq_none hnext
        exact hr.forget h (r.userIdWsHdlList.erase u) (by grind) (by grind)
    · simp only [hbound, hdefault, if_false]
      exact hr.forget h r.userIdWsHdlList (by grind) (by grind)

theorem releases {r' : Routing} {notes : List Notification} (h : Releases r notes r')
    (hr : Tabled r) : Tabled r' := by
  refine Generated.lift (composes_keeping Tabled) ?_ h hr
  intro s es s' hprim hs
  cases hprim with
  | room tx => exact hs.withoutRoom tx
  | guest g tx hguest => exact hs.withoutGuest g tx

end Tabled

/-! ## Grants and the handles they name -/

namespace Coherent

variable {r : Routing}

theorem releases {r' : Routing} {notes : List Notification} (h : Releases r notes r')
    (hr : Coherent r) : Coherent r' where
  toTabled := hr.toTabled.releases h
  bound_of_grant := by
    intro tx g k hgrant
    rw [h.trimmed.bindings]
    exact hr.bound_of_grant tx g k (h.trimmed.grant tx g k hgrant)

theorem bindGuest (hr : Coherent r) (g tx : String) :
    Coherent (Mutation.bindGuest g tx r).state := by
  unfold Mutation.bindGuest
  split
  · exact hr
  rename_i host hhost
  split
  · exact hr
  · rename_i hadmitted
    refine ⟨hr.toTabled.withGuest hhost (by tauto) (by tauto), ?_⟩
    exact hr.bound_of_grant

theorem bindGuestHandle (hr : Coherent r) (expired : Bool) (g tx : String) (h : ConnectionHdl) :
    Coherent (Mutation.bindGuestHandle expired g tx h r).state := by
  -- `r₁` is the state in which the grant is recorded
  have hgrant : ∀ r₁ : Routing, Coherent r₁ → r₁.wsHdlUserIdList[h]? = some g →
      g ∈ r₁.guestsOf tx → Coherent (r₁.withGrant g tx h) := by
    intro r₁ hr₁ hbound hguest
    refine ⟨hr₁.toTabled.withGrant hguest h, ?_⟩
    intro t g' k hk
    have hold := hr₁.bound_of_grant t g' k
    show r₁.wsHdlUserIdList[k]? = some g'
    grind
  rcases Mutation.bindGuestHandle_cases expired g tx h r with
    hno | ⟨hadmitted, ⟨hmem, hmove⟩ | ⟨host, hhost, htx, hne, hnew, hjoin⟩⟩
  · rw [hno]
    exact hr
  · rw [hmove]
    exact hgrant r hr hadmitted.bound hmem
  · rw [hjoin]
    have hguest : Coherent (r.withGuest g tx) :=
      ⟨hr.toTabled.withGuest hhost hne hnew, hr.bound_of_grant⟩
    exact hgrant _ hguest hadmitted.bound (by simp)

theorem bindUser (hr : Coherent r) (expired : Bool) (now : TimePoint) (u : String)
    (h : ConnectionHdl) (d : String) :
    Coherent (r.bindUserToWsHandle expired now u h d).2 := by
  refine ⟨hr.toTabled.bindUser expired now u h d, ?_⟩
  intro tx g k hgrant
  have hold := hr.bound_of_grant tx g k
  rcases Routing.bindUserToWsHandle_cases expired now u h d r with hrefused | ⟨_, _, hbound⟩
  · rw [hrefused] at hgrant ⊢
    exact hold hgrant
  · rw [hbound.grantOf] at hgrant
    rw [hbound.bindings]
    have hfree := hbound.free g
    grind

theorem bindHost (hr : Coherent r) (host tx : String) :
    Coherent (r.bindHostToTransmission host tx).2 := by
  refine ⟨hr.toTabled.bindHost host tx, ?_⟩
  unfold Routing.bindHostToTransmission
  split
  · exact hr.bound_of_grant
  · split <;> exact hr.bound_of_grant

theorem updateActivity (hr : Coherent r) (now : TimePoint) (h : ConnectionHdl) :
    Coherent (r.updateWsHandleLastActiveTime now h).2 := by
  refine ⟨hr.toTabled.updateActivity now h, ?_⟩
  rw [Routing.updateWsHandleLastActiveTime_bindings]
  intro tx g k hgrant
  rw [(Routing.updateWsHandleLastActiveTime_sameRooms now h r).grantOf] at hgrant
  exact hr.bound_of_grant tx g k hgrant

theorem withoutActivity (hr : Coherent r) (h : ConnectionHdl) :
    Coherent (r.withoutActivity h) :=
  ⟨hr.toTabled.withoutActivity h, hr.bound_of_grant⟩

/-- Unbinding leaves at most the grants of the handle, as its identity, behind. -/
theorem unbind (hr : Coherent r) (h : ConnectionHdl) :
    CoherentExcept (r.getUserId h) h (r.releaseUserFromWsHandle h).2 := by
  obtain ⟨_, hbindings, hrooms⟩ := Routing.releaseUserFromWsHandle_spec h r
  refine ⟨hr.toTabled.unbind h, ?_⟩
  intro tx g k hgrant
  rw [hrooms.grantOf] at hgrant
  have hbound := hr.bound_of_grant tx g k hgrant
  rw [hbindings]
  by_cases hk : k = h
  · subst hk
    exact .inr ⟨by simp [Routing.getUserId, hbound], rfl⟩
  · exact .inl (by grind)

end Coherent

/-! ## Releasing a session -/

/-- The loop of `ReleaseUserSession` ends every grant the unbound handle left behind. -/
theorem releaseJoined_settles {r : Routing} {u : String} {h : ConnectionHdl}
    (hr : CoherentExcept u h r) : Coherent (Mutation.releaseJoined u h r).state := by
  have hreleases := Mutation.releaseJoined_releases u h r
  have htabled := hr.toTabled.releases hreleases
  have htrimmed := hreleases.trimmed
  -- no room that was joined through `h` still grants it
  have hgone : ∀ tx ∈ Mutation.roomsJoinedThrough u h r,
      (Mutation.releaseJoined u h r).state.grantOf tx u = none := by
    refine each_establishes composes_releases (I := Tabled) (Q := fun tx r => r.grantOf tx u = none)
      ?_ (fun _ _ _ h hs => hs.releases h) ?_ ?_ () hr.toTabled
    · intro tx _
      exact (Mutation.releaseGuest_releases u tx).bind composes_releases
        (fun _ => follows_done composes_releases ())
    · intro tx s _ s' hrel hnone
      cases hgrant : s'.grantOf tx u with
      | none => rfl
      | some k =>
        have hold := hrel.trimmed.grant tx u k hgrant
        rw [hnone] at hold
        cases hold
    · intro tx _ _ s hs
      show (Mutation.releaseGuest u tx s).state.grantOf tx u = none
      unfold Mutation.releaseGuest
      by_cases hguest : u ∈ s.guestsOf tx
      · simp [hguest]
      · cases hgrant : s.grantOf tx u with
        | none => simp [hguest, hgrant]
        | some k => exact absurd (hs.guest_of_grant tx u k hgrant) hguest
  refine ⟨htabled, ?_⟩
  intro tx g k hgrant
  have hold := htrimmed.grant tx g k hgrant
  rw [htrimmed.bindings]
  rcases hr.bound_of_grant tx g k hold with hbound | ⟨rfl, rfl⟩
  · exact hbound
  · -- such a grant was in the list of joined rooms
    have hjoined : tx ∈ Mutation.roomsJoinedThrough g k r := by
      unfold Mutation.roomsJoinedThrough
      unfold Routing.grantOf at hold
      obtain ⟨handles, hroom, hhandle⟩ := Option.bind_eq_some_iff.mp hold
      rw [List.mem_map]
      exact ⟨(tx, handles), by simp [hroom, hhandle], rfl⟩
    rw [hgone tx hjoined] at hgrant
    cases hgrant

theorem Coherent.releaseMemberships {r : Routing} {u : String} {h : ConnectionHdl}
    (hr : CoherentExcept u h r) (hu : u = "" → Coherent r) :
    Coherent (Mutation.releaseMemberships u h r).state := by
  unfold Mutation.releaseMemberships
  by_cases hnone : u = ""
  · simpa [hnone] using hu hnone
  · have hsettled := releaseJoined_settles hr
    rw [if_neg hnone]
    simp only [Logged.andThen]
    split
    · exact hsettled
    · exact hsettled.releases (Mutation.releaseLast_releases u _)

/-- **`ReleaseUserSession` keeps coherence.** -/
theorem Coherent.releaseSession {r : Routing} (hr : Coherent r) (h : ConnectionHdl) :
    Coherent (Mutation.releaseSession h r).state := by
  have hexcept := hr.unbind h
  have hread := (Routing.releaseUserFromWsHandle_spec h r).1
  show Coherent (Mutation.releaseMemberships (r.releaseUserFromWsHandle h).1 h
    (r.releaseUserFromWsHandle h).2).state
  rw [hread]
  refine Coherent.releaseMemberships hexcept ?_
  intro hempty
  refine ⟨hexcept.toTabled, ?_⟩
  -- an empty identity is never bound, so no grant was left behind
  intro tx g k hgrant
  rcases hexcept.bound_of_grant tx g k hgrant with hbound | ⟨hg, hk⟩
  · exact hbound
  · subst hk
    rw [(Routing.releaseUserFromWsHandle_spec k r).2.2.grantOf] at hgrant
    have hbound := hr.bound_of_grant tx g k hgrant
    exact absurd (hg.trans hempty) (hr.bound_ne_empty k g hbound)

theorem Coherent.expireSession (h : ConnectionHdl) :
    Follows (Keeping Coherent) (Mutation.expireSession h) := by
  intro r hr
  have hrelease := (hr.withoutActivity h).releaseSession h
  exact hrelease

theorem Coherent.expireSessions (expired : ConnectionHdl → Bool) (now : TimePoint) :
    Follows (Keeping Coherent) (Mutation.expireSessions expired now) := by
  intro r
  refine Follows.each (composes_keeping Coherent) ?_ r.wsHdlLastActiveTimeMap.toList () r
  intro entry _
  split
  · exact Coherent.expireSession entry.1
  · exact follows_done (composes_keeping Coherent) ()

end CrossDesk
