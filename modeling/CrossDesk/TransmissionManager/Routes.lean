import CrossDesk.TransmissionManager.Operations

/-!
# Routes are not hijacked

A message for an identity goes to the handle that `GetWsHandle` returns: the default route, or the
route within a room. Who may change that handle? This module says which operations *concern* the
default route (`Operation.ConcernsDefault`) — the login of the device itself and the release of its
current handle — and which concern the route within a room (`Operation.ConcernsRoom`) — these, the
admission to the room, and the release of the room or of the membership. Every other operation, in any
reachable state, leaves the route as it is (`default_kept`, `inRoom_kept`). Binding a connection to an
alias concerns neither.

What has to be shown is that releasing other handles, guests and rooms does not reach so far. Ending
memberships spares a membership that is not named (`Spared`); unbinding a handle only moves the
default route that led to it; and a session that ends closes a room only when it was the last of its
host, and then only the one that `IsHost` finds (`releaseSession_isHost`).
-/

namespace CrossDesk

open Logged

/-! ## Which operations concern an identity and a room -/

namespace Operation

/-- The operation closes the handle, or finds it expired or inactive. -/
def ReleasesHandle (r : Routing) (h : ConnectionHdl) : Operation → Prop
  | releaseUserSession hdl => hdl = h
  | expireInactiveSessions expired now => ∃ t : TimePoint,
      r.wsHdlLastActiveTimeMap[h]? = some t ∧ (expired h || decide (now - t > seconds 30)) = true
  | _ => False

/-- The operation is a login of the device itself. No binding of an alias is one. -/
def LogsIn (v : String) (op : Operation) : Prop :=
  ∃ expired now h d, op = .bindUserToWsHandle expired now v h d ∧ isAlias v = false

/-- The operation ends the room, or the membership of the identity, which is a guest of the room. -/
def ReleasesRoom (r : Routing) (v tx : String) : Operation → Prop
  | releaseTransmission tx' | disconnectTransmission tx' => tx' = tx
  | releaseGuestFromTransmission g tx' => g = v ∧ tx' = tx ∧ v ∈ r.guestsOf tx
  | releaseGuestFromTransmissions g => g = v ∧ v ∈ r.guestsOf tx
  | pruneDisconnectedTransmissions expired =>
    r.hasUserConnection (r.getHostIdOfTransmission tx) = false ∨
      v ∈ r.guestsOf tx ∧ r.connectedGuest expired tx v = false
  | _ => False

/-- The operation is a login of the device, or a release of the handle that its messages go to. -/
def ConcernsDefault (r : Routing) (v : String) (op : Operation) : Prop :=
  op.LogsIn v ∨ ∃ h, op.ReleasesHandle r h ∧ r.getWsHandle v = some h

/-- The operation is a login of the device, its admission to the room, or a release of its handle in
the room or of the room. With the last connections of a host the room goes that `IsHost` finds. -/
def ConcernsRoom (r : Routing) (v tx : String) (op : Operation) : Prop :=
  op.LogsIn v ∨
    (∃ expired h, op = .bindGuestHandleToTransmission expired v tx h) ∨
    (∃ h, op.ReleasesHandle r h ∧ r.getWsHandleIn v tx = some h) ∨
    op.ReleasesRoom r v tx ∨
    (∃ (host : String) (h : ConnectionHdl), r.isHost host = tx ∧
      r.wsHdlUserIdList[h]? = some host ∧ op.ReleasesHandle r h ∧
      ∀ h' : ConnectionHdl, r.wsHdlUserIdList[h']? = some host → op.ReleasesHandle r h')

end Operation

/-- The routes to an identity, by default and in a room, lead where they led. -/
structure RoutesKept (v tx : String) (r r' : Routing) : Prop where
  default : ∀ k : ConnectionHdl, r.getWsHandle v = some k → r'.getWsHandle v = some k
  inRoom : ∀ k : ConnectionHdl, r.getWsHandleIn v tx = some k → r'.getWsHandleIn v tx = some k

namespace Routing

/-! ## Reading a route in a room -/

/-- A route in a room is the default route of its host, or the grant of a guest. -/
theorem getWsHandleIn_eq_some {v tx : String} {r : Routing} {k : ConnectionHdl} :
    r.getWsHandleIn v tx = some k ↔ v ≠ "" ∧ tx ≠ "" ∧
      ∃ host : String, r.transmissionHostIdList[tx]? = some host ∧
        (host = v ∧ r.getWsHandle v = some k ∨
          host ≠ v ∧ r.grantOf tx v = some k ∧ r.getUserId k = v) := by
  unfold getWsHandleIn
  by_cases hnamed : v = "" ∨ tx = ""
  · rw [if_pos hnamed]
    constructor
    · intro h
      cases h
    · rintro ⟨hv, htx, -⟩
      exact (hnamed.elim hv htx).elim
  rw [if_neg hnamed]
  rw [not_or] at hnamed
  cases hhost : r.transmissionHostIdList[tx]? with
  | none => simp
  | some host =>
    dsimp only
    by_cases hself : host = v
    · simp [hself, hnamed]
    · cases hgrant : r.grantOf tx v with
      | none => simp [hself]
      | some h =>
        by_cases hbound : r.getUserId h = v
        · simp only [hself, if_false, hbound, ne_eq, not_true_eq_false, Option.some.injEq,
            hnamed.1, hnamed.2, not_false_eq_true, true_and]
          constructor
          · rintro rfl
            exact ⟨host, rfl, .inr ⟨hself, rfl, hbound⟩⟩
          · rintro ⟨_, hh, ⟨rfl, -⟩ | ⟨-, hk, -⟩⟩
            · exact absurd hh hself
            · exact hk
        · simp only [hself, if_false, ne_eq, hbound, not_false_eq_true, if_true, reduceCtorEq,
            hnamed.1, hnamed.2, true_and, false_iff]
          rintro ⟨_, hh, ⟨rfl, -⟩ | ⟨-, hk, hu⟩⟩
          · exact hself (Option.some.inj hh)
          · cases hk
            exact hbound hu

theorem getUserId_of_bound {r : Routing} {h : ConnectionHdl} {u : String}
    (hbound : r.wsHdlUserIdList[h]? = some u) : r.getUserId h = u := by
  simp [getUserId, hbound]

theorem bound_of_getUserId {r : Routing} {h : ConnectionHdl} {u : String} (hu : u ≠ "")
    (hread : r.getUserId h = u) : r.wsHdlUserIdList[h]? = some u := by
  unfold getUserId at hread
  cases hbound : r.wsHdlUserIdList[h]? with
  | none => simp [hbound, hu.symm] at hread
  | some u' => simpa [hbound] using hread

end Routing

open Routing

/-- In a coherent state the current handle of an identity in a room is bound to it. -/
theorem Coherent.bound_of_getWsHandleIn {r : Routing} (hr : Coherent r) {v tx : String}
    {k : ConnectionHdl} (h : r.getWsHandleIn v tx = some k) : r.wsHdlUserIdList[k]? = some v := by
  obtain ⟨hv, -, host, -, ⟨-, hroute⟩ | ⟨-, -, hread⟩⟩ := getWsHandleIn_eq_some.mp h
  · exact hr.bound_of_route v k hroute
  · exact bound_of_getUserId hv hread

/-! ## Releases that spare a membership -/

/-- The host of the room and the grant of the identity in it are what they were. -/
structure Spared (v tx : String) (r : Routing) (notes : List Notification) (r' : Routing) :
    Prop where
  host : r'.transmissionHostIdList[tx]? = r.transmissionHostIdList[tx]?
  grant : r'.grantOf tx v = r.grantOf tx v

theorem composes_spared (v tx : String) : Composes (Spared v tx) where
  refl := fun _ => ⟨rfl, rfl⟩
  trans := fun h h' => ⟨h'.host.trans h.host, h'.grant.trans h.grant⟩

namespace Mutation

variable {v tx : String}

theorem releaseRoom_spares {tx' : String} (h : tx' ≠ tx) : Follows (Spared v tx) (releaseRoom tx') := by
  intro r
  refine ⟨?_, ?_⟩
  · simp only [releaseRoom, withoutRoom]
    grind
  · simp only [releaseRoom, grantOf_withoutRoom]
    rw [if_neg h.symm]

theorem releaseGuest_spares {g tx' : String} (h : ¬ (g = v ∧ tx' = tx)) :
    Follows (Spared v tx) (releaseGuest g tx') := by
  intro r
  unfold releaseGuest
  split
  · refine ⟨rfl, ?_⟩
    rw [grantOf_withoutGuest, if_neg]
    rintro ⟨rfl, rfl⟩
    exact h ⟨rfl, rfl⟩
  · exact (composes_spared v tx).refl r

/-- Where the identity is no guest of the room, it is spared and becomes none. -/
def SparedAbsent (v tx : String) (r : Routing) (notes : List Notification) (r' : Routing) : Prop :=
  v ∉ r.guestsOf tx → Spared v tx r notes r' ∧ v ∉ r'.guestsOf tx

theorem composes_sparedAbsent (v tx : String) : Composes (SparedAbsent v tx) where
  refl := fun r habsent => ⟨(composes_spared v tx).refl r, habsent⟩
  trans := by
    intro r notes r' notes' r'' h h' habsent
    obtain ⟨hspared, habsent'⟩ := h habsent
    obtain ⟨hspared', habsent''⟩ := h' habsent'
    exact ⟨(composes_spared v tx).trans hspared hspared', habsent''⟩

theorem releaseGuest_sparesAbsent (g tx' : String) :
    Follows (SparedAbsent v tx) (releaseGuest g tx') := by
  intro r habsent
  have hguests := (releaseGuest_releases g tx' r).trimmed.guest tx v
  refine ⟨?_, fun hguest => habsent (hguests hguest)⟩
  by_cases hsame : g = v ∧ tx' = tx
  · -- there is nobody to release
    obtain ⟨rfl, rfl⟩ := hsame
    rw [releaseGuest, if_neg habsent]
    exact (composes_spared g tx').refl r
  · exact releaseGuest_spares hsame r

theorem releaseGuest_spares_guest {g tx' : String} {r : Routing}
    (h : ¬ (g = v ∧ tx' = tx ∧ v ∈ r.guestsOf tx)) :
    Spared v tx r (releaseGuest g tx' r).events (releaseGuest g tx' r).state := by
  by_cases hguest : v ∈ r.guestsOf tx
  · exact releaseGuest_spares (fun hsame => h ⟨hsame.1, hsame.2, hguest⟩) r
  · exact (releaseGuest_sparesAbsent g tx' r hguest).1

theorem releaseGuestEverywhere_spares {g : String} {r : Routing} (h : ¬ (g = v ∧ v ∈ r.guestsOf tx)) :
    Spared v tx r (releaseGuestEverywhere g r).events (releaseGuestEverywhere g r).state := by
  by_cases hsame : g = v
  · have habsent : v ∉ r.guestsOf tx := fun hguest => h ⟨hsame, hguest⟩
    have hcomposes := composes_sparedAbsent v tx
    refine (Follows.each hcomposes ?_ r.transmissionGuestIdList.keys false r habsent).1
    intro tx' released
    exact (releaseGuest_sparesAbsent g tx').bind hcomposes
      (fun now => follows_done hcomposes (now || released))
  · refine Follows.each (composes_spared v tx) ?_ r.transmissionGuestIdList.keys false r
    intro tx' released
    exact (releaseGuest_spares (fun hgone => hsame hgone.1)).bind (composes_spared v tx)
      (fun now => follows_done (composes_spared v tx) (now || released))

/-- The rooms and their hosts stay. -/
def HostsStay (r : Routing) (_ : List Notification) (r' : Routing) : Prop :=
  r'.transmissionHostIdList = r.transmissionHostIdList

theorem composes_hostsStay : Composes HostsStay where
  refl := fun _ => rfl
  trans := fun h h' => Eq.trans h' h

theorem releaseGuest_hostsStay (g tx' : String) : Follows HostsStay (releaseGuest g tx') := by
  intro r
  unfold releaseGuest
  split
  · rfl
  · rfl

theorem releaseGuestEverywhere_hostsStay (g : String) :
    Follows HostsStay (releaseGuestEverywhere g) := by
  intro r
  refine Follows.each composes_hostsStay ?_ r.transmissionGuestIdList.keys false r
  intro tx' released
  exact (releaseGuest_hostsStay g tx').bind composes_hostsStay
    (fun now => follows_done composes_hostsStay (now || released))

theorem releaseJoined_hostsStay (u : String) (h : ConnectionHdl) :
    Follows HostsStay (releaseJoined u h) := by
  intro r
  refine Follows.each composes_hostsStay (fun tx' _ => ?_) (roomsJoinedThrough u h r) () r
  exact (releaseGuest_hostsStay u tx').bind composes_hostsStay
    (fun _ => follows_done composes_hostsStay ())

theorem disconnectRoom_spares {tx' : String} (h : tx' ≠ tx) :
    Follows (Spared v tx) (disconnectRoom tx') := by
  intro r
  unfold disconnectRoom
  split
  · exact releaseRoom_spares h r
  · exact (composes_spared v tx).refl r

/-- Releasing the rooms without a host spares a room whose host is connected. -/
theorem releaseHostless_spares {r : Routing}
    (hhost : r.hasUserConnection (r.getHostIdOfTransmission tx) = true) :
    Follows (Spared v tx) (each (hostlessRooms r) (fun transmissionId released => fun r =>
      andThen (releaseRoom transmissionId) (fun _ =>
        done (released + (r.guestsOf transmissionId).length)) r) 0) := by
  refine Follows.each_mem (composes_spared v tx) (fun tx' htx' released r' => ?_) 0
  have hne : tx' ≠ tx := by
    rintro rfl
    obtain ⟨⟨room, host⟩, hmem, rfl⟩ := List.mem_map.mp htx'
    obtain ⟨hroom, hgone⟩ := List.mem_filter.mp hmem
    have hread : r.getHostIdOfTransmission room = host := by
      simp [getHostIdOfTransmission, OrdMap.mem_toList.mp hroom]
    rw [hread] at hhost
    simp [hhost] at hgone
  exact (releaseRoom_spares hne).bind (composes_spared v tx)
    (fun _ => follows_done (composes_spared v tx) _) r'

/-- Releasing the guests without a connection spares a guest that is connected. -/
theorem releaseDisconnected_spares {expired : String → String → Bool} {r : Routing}
    (hguest : v ∈ r.guestsOf tx → r.connectedGuest expired tx v = true) (released : Nat) :
    Follows (Spared v tx) (each (disconnectedGuests expired r) (fun guest released =>
      andThen (releaseGuest guest.1 guest.2) (fun now =>
        done (if now then released + 1 else released))) released) := by
  refine Follows.each_mem (composes_spared v tx) (fun guest hmem released => ?_) released
  have hne : ¬ (guest.1 = v ∧ guest.2 = tx) := by
    rintro ⟨rfl, rfl⟩
    obtain ⟨room, hroom, hmember⟩ := List.mem_flatMap.mp hmem
    obtain ⟨g, hg, rfl⟩ := List.mem_map.mp hmember
    obtain ⟨hthere, hgone⟩ := List.mem_filter.mp hg
    have hread : r.guestsOf room.1 = room.2 := by
      rw [guestsOf, OrdMap.mem_toList.mp hroom, Option.getD_some]
    have hconnected := hguest (hread ▸ hthere)
    simp [hconnected] at hgone
  exact (releaseGuest_spares hne).bind (composes_spared v tx)
    (fun now => follows_done (composes_spared v tx) _)

/-- Pruning spares whoever is no guest or is connected, in a room whose host is. -/
theorem prune_spares {expired : String → String → Bool} {r : Routing}
    (hhost : r.hasUserConnection (r.getHostIdOfTransmission tx) = true)
    (hguest : v ∈ r.guestsOf tx → r.connectedGuest expired tx v = true) :
    Spared v tx r (prune expired r).events (prune expired r).state := by
  have hrooms := releaseHostless_spares (v := v) hhost r
  have htrimmed := Releases.trimmed (Follows.each composes_releases
    (fun tx' (released : Nat) r' => (releaseRoom_releases tx').bind composes_releases
      (fun _ => follows_done composes_releases (released + (r'.guestsOf tx').length)) r')
    (hostlessRooms r) 0 r)
  refine (composes_spared v tx).trans hrooms (releaseDisconnected_spares (fun hthere => ?_) _ _)
  -- the guest is connected after the rooms went as it was before
  replace hguest := hguest (htrimmed.guest tx v hthere)
  unfold connectedGuest at hguest ⊢
  rw [hrooms.grant]
  cases hgrant : r.grantOf tx v with
  | none =>
    rw [hgrant] at hguest
    simpa only [htrimmed.hasUserConnection] using hguest
  | some k =>
    rw [hgrant] at hguest
    simpa only [htrimmed.getUserId] using hguest

end Mutation

/-! ## Changes that keep the routes -/

section Keeps
variable {r r' : Routing} {v tx : String}

/-- What spares a membership and leaves the handles alone keeps the routes. -/
theorem Spared.routesKept {notes : List Notification} (h : Spared v tx r notes r')
    (htrimmed : Trimmed r notes r') : RoutesKept v tx r r' := by
  have hroute : r'.getWsHandle v = r.getWsHandle v := by
    unfold getWsHandle
    rw [htrimmed.routes]
  refine ⟨fun k hk => hroute.trans hk, fun k hk => ?_⟩
  obtain ⟨hv, htx, host, hhost, hled⟩ := getWsHandleIn_eq_some.mp hk
  refine getWsHandleIn_eq_some.mpr ⟨hv, htx, host, h.host.trans hhost, ?_⟩
  rcases hled with ⟨hself, hdefault⟩ | ⟨hguest, hgrant, hread⟩
  · exact .inl ⟨hself, hroute.trans hdefault⟩
  · exact .inr ⟨hguest, h.grant.trans hgrant, (htrimmed.getUserId k).trans hread⟩

theorem RoutesKept.refl (v tx : String) (r : Routing) : RoutesKept v tx r r :=
  ⟨fun _ h => h, fun _ h => h⟩

/-- Binding a handle keeps the routes, unless it is a login of the device itself. -/
theorem bindUser_routesKept (hr : Coherent r) (expired : Bool) (now : TimePoint) (u : String)
    (h : ConnectionHdl) (d : String) (hnot : u = v → isAlias v = true) :
    RoutesKept v tx r (r.bindUserToWsHandle expired now u h d).2 := by
  -- an alias never replaces a route that is there
  have hroute : ∀ k : ConnectionHdl, r.getWsHandle v = some k →
      (r.bindUserToWsHandle expired now u h d).2.getWsHandle v = some k := by
    intro k hk
    unfold getWsHandle at hk ⊢
    unfold bindUserToWsHandle updateWsHandleLastActiveTime
    grind
  refine ⟨hroute, fun k hk => ?_⟩
  have hbound := hr.bound_of_getWsHandleIn hk
  obtain ⟨hv, htx, host, hhost, hled⟩ := getWsHandleIn_eq_some.mp hk
  have hrooms := bindUserToWsHandle_sameRooms expired now u h d r
  refine getWsHandleIn_eq_some.mpr ⟨hv, htx, host, by rw [hrooms.hosts, hhost], ?_⟩
  rcases hled with ⟨hself, hdefault⟩ | ⟨hguest, hgrant, -⟩
  · exact .inl ⟨hself, hroute k hdefault⟩
  · refine .inr ⟨hguest, by rw [hrooms.grantOf, hgrant], getUserId_of_bound ?_⟩
    -- the handle of the grant keeps its identity
    rcases bindUserToWsHandle_cases expired now u h d r with hrefused | ⟨-, -, hbinds⟩
    · rw [hrefused]
      exact hbound
    · rw [hbinds.bindings]
      have hfree := hbinds.free v
      grind

/-- A new membership, with or without a grant, keeps the routes of everybody else in every room,
and of everybody in every other room. -/
theorem bindGuest_routesKept (g tx' : String) :
    RoutesKept v tx r (Mutation.bindGuest g tx' r).state := by
  rcases Mutation.bindGuest_cases g tx' r with hno | ⟨host, -, -, -, -, -, hyes⟩
  · rw [hno]
    exact .refl v tx r
  · rw [hyes]
    exact ⟨fun _ hk => hk, fun _ hk => hk⟩

theorem withGrant_routesKept {g tx' : String} (hnot : ¬ (g = v ∧ tx' = tx)) (h : ConnectionHdl) :
    RoutesKept v tx r (r.withGrant g tx' h) := by
  refine ⟨fun _ hk => hk, fun k hk => ?_⟩
  obtain ⟨hv, htx, host, hhost, hled⟩ := getWsHandleIn_eq_some.mp hk
  refine getWsHandleIn_eq_some.mpr ⟨hv, htx, host, hhost, ?_⟩
  rcases hled with hdefault | ⟨hguest, hgrant, hread⟩
  · exact .inl hdefault
  · refine .inr ⟨hguest, ?_, hread⟩
    rw [grantOf_withGrant, if_neg, hgrant]
    rintro ⟨rfl, rfl⟩
    exact hnot ⟨rfl, rfl⟩

/-- No admission moves a default route. -/
theorem bindGuestHandle_getWsHandle (expired : Bool) (g tx' : String) (h : ConnectionHdl) :
    (Mutation.bindGuestHandle expired g tx' h r).state.getWsHandle v = r.getWsHandle v := by
  rcases Mutation.bindGuestHandle_cases expired g tx' h r with
    hno | ⟨-, ⟨-, hmove⟩ | ⟨host, -, -, -, -, hjoin⟩⟩
  · rw [hno]
  · rw [hmove]
    rfl
  · rw [hjoin]
    rfl

theorem bindGuestHandle_routesKept (expired : Bool) {g tx' : String} (h : ConnectionHdl)
    (hnot : ¬ (g = v ∧ tx' = tx)) :
    RoutesKept v tx r (Mutation.bindGuestHandle expired g tx' h r).state := by
  rcases Mutation.bindGuestHandle_cases expired g tx' h r with
    hno | ⟨-, ⟨-, hmove⟩ | ⟨host, -, -, -, -, hjoin⟩⟩
  · rw [hno]
    exact .refl v tx r
  · rw [hmove]
    exact withGrant_routesKept hnot h
  · rw [hjoin]
    have hgrant := withGrant_routesKept (r := r.withGuest g tx') hnot h
    exact ⟨hgrant.default, hgrant.inRoom⟩

theorem bindHost_routesKept (host' tx' : String) :
    RoutesKept v tx r (r.bindHostToTransmission host' tx').2 := by
  unfold Routing.bindHostToTransmission
  split
  · exact .refl v tx r
  split
  · exact .refl v tx r
  rename_i hnew
  refine ⟨fun _ hk => hk, fun k hk => ?_⟩
  obtain ⟨hv, htx, host, hhost, hled⟩ := getWsHandleIn_eq_some.mp hk
  refine getWsHandleIn_eq_some.mpr ⟨hv, htx, host, ?_, hled⟩
  grind

/-! ## Ending a session -/

/-- Unbinding a handle forgets that handle, and only a route that led to it moves. -/
theorem unbind_getWsHandle (h : ConnectionHdl) {k : ConnectionHdl} (hk : r.getWsHandle v = some k)
    (hne : k ≠ h) : (r.releaseUserFromWsHandle h).2.getWsHandle v = some k := by
  unfold getWsHandle at hk ⊢
  unfold releaseUserFromWsHandle
  grind

/-- `IsHost` reads the rooms and their hosts only. -/
theorem isHost_of_hosts {r r' : Routing} (h : r'.transmissionHostIdList = r.transmissionHostIdList)
    (u : String) : r'.isHost u = r.isHost u := by
  unfold isHost
  rw [h]

/-- The handle is the last connection of a host whose room is the one that `IsHost` finds. -/
def LastOfHost (r : Routing) (tx : String) (h : ConnectionHdl) : Prop :=
  ∃ host : String, r.isHost host = tx ∧ r.wsHdlUserIdList[h]? = some host ∧
    ∀ h' : ConnectionHdl, r.wsHdlUserIdList[h']? = some host → h' = h

/-- The end of an identity spares the others, in all rooms but the one that is found for it. -/
theorem releaseLast_spares {u : String} (huv : u ≠ v) (hroom : r.isHost u ≠ tx) :
    Spared v tx r (Mutation.releaseLast u r).events (Mutation.releaseLast u r).state := by
  have hguest : Spared v tx r (Mutation.releaseGuestEverywhere u r).events
      (Mutation.releaseGuestEverywhere u r).state :=
    Mutation.releaseGuestEverywhere_spares fun hgone => huv hgone.1
  refine (composes_spared v tx).trans hguest ?_
  have hfound := isHost_of_hosts (Mutation.releaseGuestEverywhere_hostsStay u r) u
  simp only [Mutation.releaseLast, Logged.andThen]
  generalize (Mutation.releaseGuestEverywhere u r).state = r₁ at hfound ⊢
  by_cases hnone : r₁.isHost u = ""
  · rw [if_neg (not_not.mpr hnone)]
    exact (composes_spared v tx).refl r₁
  · rw [if_pos hnone, hfound]
    exact (Mutation.releaseRoom_spares hroom).bind (composes_spared v tx)
      (fun _ => follows_done (composes_spared v tx) u) r₁

/-- The rooms joined through a handle are not the room of an identity whose handle is another. -/
theorem releaseJoined_spares {u : String} {h : ConnectionHdl}
    (hgrant : u = v → r.grantOf tx v ≠ some h) :
    Spared v tx r (Mutation.releaseJoined u h r).events (Mutation.releaseJoined u h r).state := by
  refine Follows.each_mem (composes_spared v tx) (fun tx' htx' _ => ?_) () r
  refine (Mutation.releaseGuest_spares ?_).bind (composes_spared v tx)
    (fun _ => follows_done (composes_spared v tx) ())
  rintro ⟨rfl, rfl⟩
  obtain ⟨⟨room, handles⟩, hmem, rfl⟩ := List.mem_map.mp htx'
  obtain ⟨hroom, hhandle⟩ := List.mem_filter.mp hmem
  refine hgrant rfl ?_
  unfold grantOf
  rw [OrdMap.mem_toList.mp hroom]
  simpa using hhandle

/-- The grant of an identity in a room is its current handle there. -/
theorem grantOf_of_getWsHandleIn (hr : Coherent r) {h k : ConnectionHdl}
    (hk : r.getWsHandleIn v tx = some k) (hgrant : r.grantOf tx v = some h) : k = h := by
  obtain ⟨-, -, host, hhost, ⟨rfl, -⟩ | ⟨-, hgrant', -⟩⟩ := getWsHandleIn_eq_some.mp hk
  · -- a host has no grant in its own room
    exfalso
    have hguest := hr.guest_of_grant tx host h hgrant
    unfold guestsOf at hguest
    cases hlist : r.transmissionGuestIdList[tx]? with
    | none => simp [hlist] at hguest
    | some gs =>
      obtain ⟨host', hhost', hnot⟩ := hr.host_of_guests tx gs hlist
      have hsame : host' = host := Option.some.inj (hhost'.symm.trans hhost)
      subst hsame
      exact hnot (by simpa [hlist] using hguest)
  · exact Option.some.inj (hgrant'.symm.trans hgrant)

/-- The memberships that end with a session spare the identity whose current handle is another, in
a room that does not go with the last connection of its host. -/
theorem releaseSession_spares (hr : Coherent r) (h : ConnectionHdl) {k : ConnectionHdl}
    (hk : r.getWsHandleIn v tx = some k) (hne : k ≠ h) (hlast : ¬ LastOfHost r tx h) :
    Spared v tx r (Mutation.releaseSession h r).events (Mutation.releaseSession h r).state := by
  obtain ⟨hread, hbindings, hrooms⟩ := Routing.releaseUserFromWsHandle_spec h r
  have hbound := hr.bound_of_getWsHandleIn hk
  have hunbind : Spared v tx r [] (r.releaseUserFromWsHandle h).2 :=
    ⟨by rw [hrooms.hosts], hrooms.grantOf tx v⟩
  have hmemberships : Spared v tx (r.releaseUserFromWsHandle h).2
      (Mutation.releaseMemberships (r.getUserId h) h (r.releaseUserFromWsHandle h).2).events
      (Mutation.releaseMemberships (r.getUserId h) h (r.releaseUserFromWsHandle h).2).state := by
    generalize (r.releaseUserFromWsHandle h).2 = r₁ at hbindings hrooms
    generalize hu : r.getUserId h = u
    unfold Mutation.releaseMemberships
    by_cases hnone : u = ""
    · rw [if_pos hnone]
      exact (composes_spared v tx).refl r₁
    rw [if_neg hnone]
    have hjoined : Spared v tx r₁ (Mutation.releaseJoined u h r₁).events
        (Mutation.releaseJoined u h r₁).state := by
      refine releaseJoined_spares (fun _ hgrant => ?_)
      rw [hrooms.grantOf] at hgrant
      exact hne (grantOf_of_getWsHandleIn hr hk hgrant)
    have htrimmed := (Mutation.releaseJoined_releases u h r₁).trimmed
    have hfound := isHost_of_hosts (Mutation.releaseJoined_hostsStay u h r₁) u
    refine (composes_spared v tx).trans hjoined ?_
    simp only [Logged.andThen]
    generalize (Mutation.releaseJoined u h r₁).state = r₂ at hjoined htrimmed hfound ⊢
    by_cases hleft : r₂.hasUserConnection u = true
    · rw [if_pos hleft]
      exact (composes_spared v tx).refl r₂
    · -- the identity of the handle has no connection left, so it is not this one
      rw [if_neg hleft]
      rw [htrimmed.hasUserConnection] at hleft
      have hgone : ∀ h' : ConnectionHdl, r.wsHdlUserIdList[h']? = some u → h' = h := by
        intro h' hh'
        by_contra hother
        refine hleft (OrdMap.hasValue_iff.mpr ⟨h', ?_⟩)
        rw [hbindings]
        grind
      refine releaseLast_spares ?_ ?_
      · rintro rfl
        exact hne (hgone k hbound)
      · intro hroom
        rw [hfound, isHost_of_hosts hrooms.hosts] at hroom
        exact hlast ⟨u, hroom, bound_of_getUserId hnone hu, hgone⟩
  rw [← hread] at hmemberships
  exact (composes_spared v tx).trans hunbind hmemberships

/-- A session that ends forgets its handle. -/
theorem releaseSession_bindings (h : ConnectionHdl) :
    (Mutation.releaseSession h r).state.wsHdlUserIdList = r.wsHdlUserIdList.erase h := by
  have htrimmed := (Mutation.releaseMemberships_releases (r.releaseUserFromWsHandle h).1 h
    (r.releaseUserFromWsHandle h).2).trimmed
  exact htrimmed.bindings.trans (Routing.releaseUserFromWsHandle_spec h r).2.1

/-- Where a host stays connected, `IsHost` finds the same room for it after the end of a session: only
a room of the identity whose last connection it was is deleted. -/
theorem releaseSession_isHost (h : ConnectionHdl) {host : String} {h' : ConnectionHdl}
    (hstays : (Mutation.releaseSession h r).state.wsHdlUserIdList[h']? = some host) :
    (Mutation.releaseSession h r).state.isHost host = r.isHost host := by
  obtain ⟨hread, hbindings, hrooms⟩ := Routing.releaseUserFromWsHandle_spec h r
  rw [releaseSession_bindings, ← hbindings] at hstays
  have hrun : (Mutation.releaseSession h r).state = (Mutation.releaseMemberships
      (r.releaseUserFromWsHandle h).1 h (r.releaseUserFromWsHandle h).2).state := rfl
  rw [hrun, hread]
  generalize (r.releaseUserFromWsHandle h).2 = r₁ at hstays hrooms ⊢
  generalize r.getUserId h = u
  rw [← isHost_of_hosts hrooms.hosts host]
  unfold Mutation.releaseMemberships
  by_cases hnone : u = ""
  · rw [if_pos hnone]
    rfl
  rw [if_neg hnone]
  have hjoined := Mutation.releaseJoined_hostsStay u h r₁
  have htrimmed := (Mutation.releaseJoined_releases u h r₁).trimmed
  rw [← htrimmed.bindings] at hstays
  simp only [Logged.andThen]
  rw [← isHost_of_hosts hjoined host]
  generalize (Mutation.releaseJoined u h r₁).state = r₂ at hstays ⊢
  by_cases hleft : r₂.hasUserConnection u = true
  · rw [if_pos hleft]
  rw [if_neg hleft]
  have hother : u ≠ host := by
    rintro rfl
    exact hleft (OrdMap.hasValue_iff.mpr ⟨h', hstays⟩)
  simp only [Mutation.releaseLast, Logged.andThen]
  rw [← isHost_of_hosts (Mutation.releaseGuestEverywhere_hostsStay u r₂) host]
  generalize (Mutation.releaseGuestEverywhere u r₂).state = r₃
  by_cases hroom : r₃.isHost u = ""
  · rw [if_neg (not_not.mpr hroom)]
  · -- the room that is deleted has another host
    rw [if_pos hroom]
    have hhost : r₃.transmissionHostIdList[r₃.isHost u]? = some u := by
      unfold isHost at hroom ⊢
      cases hfirst : OrdMap.firstKeyOf r₃.transmissionHostIdList u with
      | none => simp [hfirst] at hroom
      | some room => exact OrdMap.firstKeyOf_eq_some hfirst
    have hkept : OrdMap.firstKeyOf (r₃.transmissionHostIdList.erase (r₃.isHost u)) host =
        OrdMap.firstKeyOf r₃.transmissionHostIdList host := by
      apply OrdMap.firstKeyOf_erase
      rw [hhost]
      simpa using hother
    exact congrArg (·.getD "") hkept

theorem releaseSession_getWsHandle (h : ConnectionHdl) {k : ConnectionHdl}
    (hk : r.getWsHandle v = some k) (hne : k ≠ h) :
    (Mutation.releaseSession h r).state.getWsHandle v = some k := by
  have htrimmed := (Mutation.releaseMemberships_releases (r.releaseUserFromWsHandle h).1 h
    (r.releaseUserFromWsHandle h).2).trimmed
  have hunbound := unbind_getWsHandle h hk hne
  unfold getWsHandle at hunbound ⊢
  exact (congrArg (fun routes => routes[v]?) htrimmed.routes).trans hunbound

/-- **The end of another session keeps a route in a room** that does not go with its host. -/
theorem releaseSession_getWsHandleIn (hr : Coherent r) (h : ConnectionHdl) {k : ConnectionHdl}
    (hk : r.getWsHandleIn v tx = some k) (hne : k ≠ h) (hlast : ¬ LastOfHost r tx h) :
    (Mutation.releaseSession h r).state.getWsHandleIn v tx = some k := by
  have hspared := releaseSession_spares hr h hk hne hlast
  have hbound := hr.bound_of_getWsHandleIn hk
  obtain ⟨hv, htx, host, hhost, hled⟩ := getWsHandleIn_eq_some.mp hk
  refine getWsHandleIn_eq_some.mpr ⟨hv, htx, host, hspared.host.trans hhost, ?_⟩
  rcases hled with ⟨hself, hdefault⟩ | ⟨hguest, hgrant, -⟩
  · exact .inl ⟨hself, releaseSession_getWsHandle h hdefault hne⟩
  · refine .inr ⟨hguest, hspared.grant.trans hgrant, getUserId_of_bound ?_⟩
    rw [releaseSession_bindings]
    grind

/-! ## Ending silent sessions -/

/-- The handle that a round of `ExpireInactiveSessions` ends. -/
theorem expireSession_getWsHandle (h : ConnectionHdl) {k : ConnectionHdl}
    (hk : r.getWsHandle v = some k) (hne : k ≠ h) :
    (Mutation.expireSession h r).state.getWsHandle v = some k :=
  releaseSession_getWsHandle (r := r.withoutActivity h) h hk hne

theorem expireSessions_getWsHandle {expired : ConnectionHdl → Bool} {now : TimePoint}
    {k : ConnectionHdl} (hk : r.getWsHandle v = some k)
    (hkept : ¬ (Operation.expireInactiveSessions expired now).ReleasesHandle r k) :
    (Mutation.expireSessions expired now r).state.getWsHandle v = some k := by
  refine each_keeps (P := fun r : Routing => r.getWsHandle v = some k) (fun entry hmem _ r' hr' => ?_) () hk
  split
  · rename_i hstale
    refine expireSession_getWsHandle entry.1 hr' ?_
    rintro rfl
    exact hkept ⟨entry.2, OrdMap.mem_toList.mp hmem, hstale⟩
  · exact hr'

/-- What keeps a route in a room while other handles are released: none of them is a connection of
a host whose room is found to be this one, or one of its connections stays. -/
structure Held (v tx : String) (k : ConnectionHdl) (gone : ConnectionHdl → Prop) (r : Routing) :
    Prop where
  coherent : Coherent r
  route : r.getWsHandleIn v tx = some k
  host : ∀ (host : String) (h : ConnectionHdl), r.isHost host = tx →
    r.wsHdlUserIdList[h]? = some host → gone h →
    ∃ h' : ConnectionHdl, r.wsHdlUserIdList[h']? = some host ∧ ¬ gone h'

theorem Held.expireSession {k : ConnectionHdl} {gone : ConnectionHdl → Prop}
    (hheld : Held v tx k gone r) (hkept : ¬ gone k) {h : ConnectionHdl} (hgone : gone h) :
    Held v tx k gone (Mutation.expireSession h r).state := by
  have hne : k ≠ h := fun hsame => hkept (hsame ▸ hgone)
  have hsilent := hheld.coherent.withoutActivity h
  have hroute : (r.withoutActivity h).getWsHandleIn v tx = some k := hheld.route
  have hlast : ¬ LastOfHost (r.withoutActivity h) tx h := by
    rintro ⟨host, hhost, hbound, honly⟩
    obtain ⟨h', hbound', hstays⟩ := hheld.host host h hhost hbound hgone
    exact hstays (honly h' hbound' ▸ hgone)
  refine ⟨Coherent.expireSession h r hheld.coherent,
    releaseSession_getWsHandleIn hsilent h hroute hne hlast, ?_⟩
  intro host h' hhost hbound hgone'
  have hhost' : r.isHost host = tx :=
    (releaseSession_isHost (r := r.withoutActivity h) h hbound).symm.trans hhost
  have hbindings : (Mutation.expireSession h r).state.wsHdlUserIdList = r.wsHdlUserIdList.erase h :=
    releaseSession_bindings h
  rw [hbindings] at hbound ⊢
  obtain ⟨c, hc, hstays⟩ := hheld.host host h' hhost' (by grind) hgone'
  have hother : c ≠ h := fun hsame => hstays (hsame ▸ hgone)
  exact ⟨c, by grind, hstays⟩

theorem expireSessions_getWsHandleIn (hr : Coherent r) {expired : ConnectionHdl → Bool}
    {now : TimePoint} {k : ConnectionHdl} (hk : r.getWsHandleIn v tx = some k)
    (hkept : ¬ (Operation.expireInactiveSessions expired now).ReleasesHandle r k)
    (hhost : ¬ ∃ (host : String) (h : ConnectionHdl), r.isHost host = tx ∧
      r.wsHdlUserIdList[h]? = some host ∧
      (Operation.expireInactiveSessions expired now).ReleasesHandle r h ∧
      ∀ h' : ConnectionHdl, r.wsHdlUserIdList[h']? = some host →
        (Operation.expireInactiveSessions expired now).ReleasesHandle r h') :
    (Mutation.expireSessions expired now r).state.getWsHandleIn v tx = some k := by
  have hheld : Held v tx k ((Operation.expireInactiveSessions expired now).ReleasesHandle r) r := by
    refine ⟨hr, hk, fun host h htx hbound hgone => ?_⟩
    by_contra hnone
    push Not at hnone
    exact hhost ⟨host, h, htx, hbound, hgone, hnone⟩
  refine (each_keeps (P := Held v tx k _) (fun entry hmem _ r' hr' => ?_) () hheld).route
  split
  · rename_i hstale
    exact hr'.expireSession hkept ⟨entry.2, OrdMap.mem_toList.mp hmem, hstale⟩
  · exact hr'

end Keeps

/-! ## Every operation -/

/-- Releases of rooms and memberships keep the default route. -/
theorem Releases.getWsHandle {r r' : Routing} {notes : List Notification} (h : Releases r notes r')
    (v : String) : r'.getWsHandle v = r.getWsHandle v := by
  unfold Routing.getWsHandle
  rw [h.trimmed.routes]

/-- The time of activity is no route. -/
theorem updateWsHandleLastActiveTime_routesKept (v tx : String) (now : TimePoint) (hdl : ConnectionHdl)
    (r : Routing) : RoutesKept v tx r (r.updateWsHandleLastActiveTime now hdl).2 := by
  unfold Routing.updateWsHandleLastActiveTime
  split <;> exact ⟨fun _ hk => hk, fun _ hk => hk⟩

/-- **An operation that does not concern the default route of an identity keeps it.** -/
theorem default_kept {s : TransmissionManager} (h : Operation.system.Reachable s) {v : String}
    {op : Operation} (hnot : ¬ op.ConcernsDefault s.toRouting v) {k : ConnectionHdl}
    (hk : s.getWsHandle v = some k) : (op.apply s).getWsHandle v = some k := by
  have hr := routing_coherent h
  simp only [Operation.ConcernsDefault, not_or] at hnot
  obtain ⟨hlogin, hhandle⟩ := hnot
  have hreleased : ∀ r' notes, Releases s.toRouting notes r' → r'.getWsHandle v = some k :=
    fun r' notes hreleases => (hreleases.getWsHandle v).trans hk
  cases op with
  | setRemoteControlSessionCallback => exact hk
  | setSessionTimeoutCallback => exact hk
  | removeWsHandleLastActiveTime hdl => exact hk
  | updateWsHandleLastActiveTime now hdl =>
    exact (updateWsHandleLastActiveTime_routesKept v "" now hdl s.toRouting).default k hk
  | bindUserToWsHandle expired now u hdl d =>
    refine (bindUser_routesKept hr expired now u hdl d ?_ : RoutesKept v "" _ _).default k hk
    -- A login that moves the default is one of the identity itself, and no alias.
    rintro rfl
    by_contra halias
    exact hlogin ⟨expired, now, hdl, d, rfl, by simpa using halias⟩
  | bindHostToTransmission host tx' =>
    exact (bindHost_routesKept host tx' : RoutesKept v "" _ _).default k hk
  | bindGuestToTransmission g tx' =>
    rw [Operation.apply, (TransmissionManager.does_bindGuestToTransmission g tx').maps]
    exact (bindGuest_routesKept g tx' : RoutesKept v "" _ _).default k hk
  | bindGuestHandleToTransmission expired g tx' hdl =>
    rw [Operation.apply,
      (TransmissionManager.does_bindGuestHandleToTransmission expired g tx' hdl).maps]
    exact (bindGuestHandle_getWsHandle expired g tx' hdl).trans hk
  | releaseGuestFromTransmissions g =>
    rw [Operation.apply, (TransmissionManager.does_releaseGuestFromTransmissions g).maps]
    exact hreleased _ _ (Mutation.releaseGuestEverywhere_releases g _)
  | releaseGuestFromTransmission g tx' =>
    rw [Operation.apply, (TransmissionManager.does_releaseGuestFromTransmission g tx').maps]
    exact hreleased _ _ (Mutation.releaseGuest_releases g tx' _)
  | releaseTransmission tx' =>
    rw [Operation.apply, (TransmissionManager.does_releaseTransmission tx').maps]
    exact hreleased _ _ (Mutation.releaseRoom_releases tx' _)
  | disconnectTransmission tx' =>
    rw [Operation.apply, (TransmissionManager.does_disconnectTransmission tx').maps]
    exact hreleased _ _ (Mutation.disconnectRoom_releases tx' _)
  | pruneDisconnectedTransmissions expired =>
    rw [Operation.apply, (TransmissionManager.does_pruneDisconnectedTransmissions expired).maps]
    exact hreleased _ _ (Mutation.prune_releases expired _)
  | releaseUserSession hdl =>
    rw [Operation.apply, (TransmissionManager.does_releaseUserSession hdl).maps]
    refine releaseSession_getWsHandle hdl hk ?_
    rintro rfl
    exact hhandle ⟨k, rfl, hk⟩
  | expireInactiveSessions expired now =>
    rw [Operation.apply, (TransmissionManager.does_expireInactiveSessions expired now).maps]
    exact expireSessions_getWsHandle hk (fun hgone => hhandle ⟨k, hgone, hk⟩)

/-- **An operation that does not concern an identity and a room keeps the route between them.** -/
theorem inRoom_kept {s : TransmissionManager} (h : Operation.system.Reachable s) {v tx : String}
    {op : Operation} (hnot : ¬ op.ConcernsRoom s.toRouting v tx) {k : ConnectionHdl}
    (hk : s.getWsHandleIn v tx = some k) : (op.apply s).getWsHandleIn v tx = some k := by
  have hr := routing_coherent h
  simp only [Operation.ConcernsRoom, not_or] at hnot
  obtain ⟨hlogin, hadmission, hhandle, hroom, hhost⟩ := hnot
  have hreleased : ∀ r' notes, Releases s.toRouting notes r' →
      Spared v tx s.toRouting notes r' → r'.getWsHandleIn v tx = some k :=
    fun _ _ hreleases hspared => (hspared.routesKept hreleases.trimmed).inRoom k hk
  cases op with
  | setRemoteControlSessionCallback => exact hk
  | setSessionTimeoutCallback => exact hk
  | removeWsHandleLastActiveTime hdl => exact hk
  | updateWsHandleLastActiveTime now hdl =>
    exact (updateWsHandleLastActiveTime_routesKept v tx now hdl s.toRouting).inRoom k hk
  | bindUserToWsHandle expired now u hdl d =>
    refine (bindUser_routesKept hr expired now u hdl d ?_).inRoom k hk
    -- The same for a login; an admission moves the route in one room only.
    rintro rfl
    by_contra halias
    exact hlogin ⟨expired, now, hdl, d, rfl, by simpa using halias⟩
  | bindHostToTransmission host tx' => exact (bindHost_routesKept host tx').inRoom k hk
  | bindGuestToTransmission g tx' =>
    rw [Operation.apply, (TransmissionManager.does_bindGuestToTransmission g tx').maps]
    exact (bindGuest_routesKept g tx').inRoom k hk
  | bindGuestHandleToTransmission expired g tx' hdl =>
    rw [Operation.apply,
      (TransmissionManager.does_bindGuestHandleToTransmission expired g tx' hdl).maps]
    refine (bindGuestHandle_routesKept expired hdl ?_).inRoom k hk
    rintro ⟨rfl, rfl⟩
    exact hadmission ⟨expired, hdl, rfl⟩
  | releaseGuestFromTransmissions g =>
    rw [Operation.apply, (TransmissionManager.does_releaseGuestFromTransmissions g).maps]
    exact hreleased _ _ (Mutation.releaseGuestEverywhere_releases g _)
      (Mutation.releaseGuestEverywhere_spares hroom)
  | releaseGuestFromTransmission g tx' =>
    rw [Operation.apply, (TransmissionManager.does_releaseGuestFromTransmission g tx').maps]
    exact hreleased _ _ (Mutation.releaseGuest_releases g tx' _)
      (Mutation.releaseGuest_spares_guest hroom)
  | releaseTransmission tx' =>
    rw [Operation.apply, (TransmissionManager.does_releaseTransmission tx').maps]
    exact hreleased _ _ (Mutation.releaseRoom_releases tx' _) (Mutation.releaseRoom_spares hroom _)
  | disconnectTransmission tx' =>
    rw [Operation.apply, (TransmissionManager.does_disconnectTransmission tx').maps]
    exact hreleased _ _ (Mutation.disconnectRoom_releases tx' _)
      (Mutation.disconnectRoom_spares hroom _)
  | pruneDisconnectedTransmissions expired =>
    rw [Operation.apply, (TransmissionManager.does_pruneDisconnectedTransmissions expired).maps]
    simp only [Operation.ReleasesRoom, not_or, not_and, Bool.not_eq_false] at hroom
    exact hreleased _ _ (Mutation.prune_releases expired _)
      (Mutation.prune_spares hroom.1 hroom.2)
  | releaseUserSession hdl =>
    rw [Operation.apply, (TransmissionManager.does_releaseUserSession hdl).maps]
    -- The handle that goes is not the route, nor the last one of the room's host.
    refine releaseSession_getWsHandleIn hr hdl hk ?_ ?_
    · rintro rfl
      exact hhandle ⟨k, rfl, hk⟩
    · rintro ⟨host, htx, hbound, honly⟩
      exact hhost ⟨host, hdl, htx, hbound, rfl, fun h' hh' => (honly h' hh').symm⟩
  | expireInactiveSessions expired now =>
    rw [Operation.apply, (TransmissionManager.does_expireInactiveSessions expired now).maps]
    exact expireSessions_getWsHandleIn hr hk (fun hgone => hhandle ⟨k, hgone, hk⟩) hhost

/-! ## Aliases, members and rejoins -/

/-- One member of a room speaks through one connection. -/
theorem isConnectionInTransmission_unique {r : Routing} {tx : String} {h h' : ConnectionHdl}
    {expired expired' : Bool} (hin : r.isConnectionInTransmission expired h tx = true)
    (hin' : r.isConnectionInTransmission expired' h' tx = true)
    (hsame : r.getUserId h = r.getUserId h') : h = h' := by
  simp only [isConnectionInTransmission, Bool.and_eq_true, decide_eq_true_eq] at hin hin'
  rw [← hsame] at hin'
  exact Option.some.inj (hin.2.symm.trans hin'.2)

/-- A change that moves the grant of one guest in one room, to the handle, and nothing else. -/
structure MovesGrant (v tx : String) (h : ConnectionHdl) (r r' : Routing) : Prop where
  hosts : r'.transmissionHostIdList = r.transmissionHostIdList
  guests : r'.transmissionGuestIdList = r.transmissionGuestIdList
  grants : ∀ tx' g : String, r'.grantOf tx' g = if tx' = tx ∧ g = v then some h else r.grantOf tx' g
  routes : r'.userIdWsHdlList = r.userIdWsHdlList
  bindings : r'.wsHdlUserIdList = r.wsHdlUserIdList
  verified : r'.wsHdlVerifiedDeviceIds = r.wsHdlVerifiedDeviceIds
  activity : r'.wsHdlLastActiveTimeMap = r.wsHdlLastActiveTimeMap

/-- A rejoin of a guest is refused and changes nothing, or moves its grant of the room. -/
theorem rejoin_movesGrant {s : TransmissionManager} {v tx : String}
    (hguest : v ∈ s.guestsOf tx) (expired : Bool) (h : ConnectionHdl) :
    let r := TransmissionManager.bindGuestHandleToTransmission expired v tx h s
    r.1 = false ∧ r.2.toRouting = s.toRouting ∨
      r.1 = true ∧ MovesGrant v tx h s.toRouting r.2.toRouting := by
  have hdoes := TransmissionManager.does_bindGuestHandleToTransmission expired v tx h
  have hvalue := congrArg Prod.fst (hdoes s)
  have hmaps := hdoes.maps s
  rcases Mutation.bindGuestHandle_cases expired v tx h s.toRouting with
    hno | ⟨-, ⟨-, hmove⟩ | ⟨host, -, -, -, hnew, -⟩⟩
  · left
    rw [hno] at hvalue hmaps
    exact ⟨hvalue, hmaps⟩
  · right
    rw [hmove] at hvalue hmaps
    refine ⟨hvalue, ?_⟩
    rw [hmaps]
    exact ⟨rfl, rfl, fun tx' g => grantOf_withGrant v tx h s.toRouting tx' g, rfl, rfl, rfl, rfl⟩
  · exact absurd hguest hnew

/-- What keeps the routes to an identity in a room from being hijacked in a state. -/
structure Unhijackable (s : TransmissionManager) (v tx : String) : Prop where
  /-- Binding any connection to an alias keeps the routes. -/
  alias_keeps : ∀ (expired : Bool) (now : TimePoint) (u : String) (h : ConnectionHdl) (d : String),
    isAlias u = true → RoutesKept v tx s.toRouting
      (TransmissionManager.bindUserToWsHandle expired now u h d s).2.toRouting
  /-- An operation keeps the default route if it does not concern it. -/
  default_keeps : ∀ op : Operation, ¬ op.ConcernsDefault s.toRouting v →
    ∀ k : ConnectionHdl, s.getWsHandle v = some k → (op.apply s).getWsHandle v = some k
  /-- An operation keeps the route in the room if it does not concern it. -/
  room_keeps : ∀ op : Operation, ¬ op.ConcernsRoom s.toRouting v tx →
    ∀ k : ConnectionHdl, s.getWsHandleIn v tx = some k → (op.apply s).getWsHandleIn v tx = some k
  /-- At most one connection of the identity is in the room. -/
  one_connection : ∀ (h h' : ConnectionHdl) (expired expired' : Bool), s.getUserId h = v →
    s.getUserId h' = v → s.isConnectionInTransmission expired h tx = true →
    s.isConnectionInTransmission expired' h' tx = true → h = h'
  /-- A rejoin moves the grant of the identity in the room, and nothing else. -/
  rejoin_moves : v ∈ s.guestsOf tx → ∀ (expired : Bool) (h : ConnectionHdl),
    let r := TransmissionManager.bindGuestHandleToTransmission expired v tx h s
    r.1 = false ∧ r.2.toRouting = s.toRouting ∨
      r.1 = true ∧ MovesGrant v tx h s.toRouting r.2.toRouting

/-- **Aliases cannot hijack routes**, in any reachable state. -/
theorem routes_unhijackable {s : TransmissionManager} (h : Operation.system.Reachable s)
    (v tx : String) : Unhijackable s v tx where
  alias_keeps expired now u hdl d halias :=
    bindUser_routesKept (routing_coherent h) expired now u hdl d (fun hsame => hsame ▸ halias)
  default_keeps _ hnot _ hk := default_kept h hnot hk
  room_keeps _ hnot _ hk := inRoom_kept h hnot hk
  one_connection _ _ _ _ hu₁ hu₂ hin₁ hin₂ :=
    isConnectionInTransmission_unique hin₁ hin₂ (hu₁.trans hu₂.symm)
  rejoin_moves hguest expired hdl := rejoin_movesGrant hguest expired hdl

/-- A device hosts a room, and a connection joins it under an alias. -/
def joinedAlias : TransmissionManager :=
  Operation.apply (Operation.apply (Operation.apply (Operation.apply {}
    (.bindUserToWsHandle false 0 "123456789" 1 ""))
    (.bindHostToTransmission "123456789" "123456789"))
    (.bindUserToWsHandle false 0 "C-987654321" 2 ""))
    (.bindGuestHandleToTransmission false "C-987654321" "123456789" 2)

/-- Another connection claims the alias: messages for it still go to the one that joined. -/
theorem routes_unhijackable_joined :
    Unhijackable joinedAlias "C-987654321" "123456789" ∧
      joinedAlias.getWsHandleIn "C-987654321" "123456789" = some 2 ∧
      ((Operation.bindUserToWsHandle false 0 "C-987654321" 3 "").apply joinedAlias).getWsHandleIn
        "C-987654321" "123456789" = some 2 := by
  have hreachable : Operation.system.Reachable joinedAlias :=
    ⟨_, .step (.step (.step (.step (.start rfl) rfl) rfl) rfl) rfl⟩
  have hroutes := routes_unhijackable hreachable "C-987654321" "123456789"
  have hroute : joinedAlias.getWsHandleIn "C-987654321" "123456789" = some 2 := by decide
  have hkept := hroutes.alias_keeps false 0 "C-987654321" 3 "" (by decide)
  exact ⟨hroutes, hroute, hkept.inRoom 2 hroute⟩

end CrossDesk
