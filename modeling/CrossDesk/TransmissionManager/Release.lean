import CrossDesk.TransmissionManager.Mutation

/-!
# Ending memberships

However many rooms and guests an operation ends, it does so by releasing whole rooms and single
guests, one after the other (`Release`). This module shows it once for every operation that ends
memberships (`Follows Releases`), so that a fact about ending memberships only has to be proved for
the two primitive releases.
-/

namespace CrossDesk

open Logged

/-- A primitive release: a whole room with its guests, or one guest of a room. -/
inductive Release : Routing → List Notification → Routing → Prop where
  | room (tx : String) (r : Routing) :
      Release r ((r.guestsOf tx).map (fun g => r.ended tx g)) (r.withoutRoom tx)
  | guest (g tx : String) (r : Routing) (hguest : g ∈ r.guestsOf tx) :
      Release r [r.ended tx g] (r.withoutGuest g tx)

/-- Finitely many primitive releases. -/
abbrev Releases : Routing → List Notification → Routing → Prop := Generated Release

theorem composes_releases : Composes Releases := composes_generated Release

namespace Mutation

theorem releaseRoom_releases (tx : String) : Follows Releases (releaseRoom tx) := fun r =>
  .single (.room tx r)

theorem releaseGuest_releases (g tx : String) : Follows Releases (releaseGuest g tx) := by
  intro r
  unfold releaseGuest
  by_cases hguest : g ∈ r.guestsOf tx
  · rw [if_pos hguest]
    exact .single (.guest g tx r hguest)
  · rw [if_neg hguest]
    exact .refl r

theorem releaseGuestEverywhere_releases (g : String) :
    Follows Releases (releaseGuestEverywhere g) := by
  intro r
  refine Follows.each composes_releases ?_ r.transmissionGuestIdList.keys false r
  intro tx released
  exact (releaseGuest_releases g tx).bind composes_releases
    (fun now => follows_done composes_releases (now || released))

theorem disconnectRoom_releases (tx : String) : Follows Releases (disconnectRoom tx) := by
  intro r
  unfold disconnectRoom
  cases hroom : r.isTransmissionExist tx with
  | true => exact releaseRoom_releases tx r
  | false => exact .refl r

theorem prune_releases (expired : String → String → Bool) :
    Follows Releases (prune expired) := by
  intro r
  refine Follows.bind composes_releases ?_ ?_ r
  · refine Follows.each composes_releases ?_ (hostlessRooms r) 0
    intro tx released r'
    exact (releaseRoom_releases tx).bind composes_releases
      (fun _ => follows_done composes_releases _) r'
  · intro released r'
    refine Follows.each composes_releases ?_ (disconnectedGuests expired r') released r'
    intro guest released
    exact (releaseGuest_releases guest.1 guest.2).bind composes_releases
      (fun now => follows_done composes_releases _)

theorem releaseJoined_releases (u : String) (h : ConnectionHdl) :
    Follows Releases (releaseJoined u h) := by
  intro r
  refine Follows.each composes_releases ?_ (roomsJoinedThrough u h r) () r
  intro tx _
  exact (releaseGuest_releases u tx).bind composes_releases
    (fun _ => follows_done composes_releases ())

theorem releaseLast_releases (u : String) : Follows Releases (releaseLast u) := by
  refine (releaseGuestEverywhere_releases u).bind composes_releases ?_
  intro _ r
  by_cases hroom : r.isHost u = ""
  · simpa [hroom] using Generated.refl r
  · simpa [hroom] using (releaseRoom_releases (r.isHost u)).bind composes_releases
      (fun _ => follows_done composes_releases u) r

theorem releaseMemberships_releases (u : String) (h : ConnectionHdl) :
    Follows Releases (releaseMemberships u h) := by
  unfold releaseMemberships
  split
  · exact follows_done composes_releases ""
  · refine (releaseJoined_releases u h).bind composes_releases ?_
    intro _ r
    cases hconnected : r.hasUserConnection u with
    | true => simpa [hconnected] using Generated.refl r
    | false => simpa [hconnected] using releaseLast_releases u r

end Mutation

/-! ## What releases leave alone

Releases never touch what is recorded about handles and identities, and rooms, memberships and
grants only disappear. -/

/-- `r'` is `r` with some rooms, memberships and grants taken away. -/
structure Trimmed (r : Routing) (notes : List Notification) (r' : Routing) : Prop where
  bindings : r'.wsHdlUserIdList = r.wsHdlUserIdList
  routes : r'.userIdWsHdlList = r.userIdWsHdlList
  verified : r'.wsHdlVerifiedDeviceIds = r.wsHdlVerifiedDeviceIds
  activity : r'.wsHdlLastActiveTimeMap = r.wsHdlLastActiveTimeMap
  host : ∀ (tx host : String), r'.transmissionHostIdList[tx]? = some host →
    r.transmissionHostIdList[tx]? = some host
  guest : ∀ tx g : String, g ∈ r'.guestsOf tx → g ∈ r.guestsOf tx
  grant : ∀ (tx g : String) (h : ConnectionHdl), r'.grantOf tx g = some h →
    r.grantOf tx g = some h

theorem composes_trimmed : Composes Trimmed where
  refl := fun _ => ⟨rfl, rfl, rfl, rfl, fun _ _ h => h, fun _ _ h => h, fun _ _ _ h => h⟩
  trans := by
    intro r notes r' notes' r'' h h'
    exact ⟨h'.bindings.trans h.bindings, h'.routes.trans h.routes, h'.verified.trans h.verified,
      h'.activity.trans h.activity, fun tx host hh => h.host tx host (h'.host tx host hh),
      fun tx g hg => h.guest tx g (h'.guest tx g hg),
      fun tx g k hk => h.grant tx g k (h'.grant tx g k hk)⟩

theorem Release.trimmed {r r' : Routing} {notes : List Notification} (h : Release r notes r') :
    Trimmed r notes r' := by
  cases h with
  | room tx =>
    refine ⟨rfl, rfl, rfl, rfl, ?_, ?_, ?_⟩
    · intro t host hhost
      simp only [Routing.withoutRoom] at hhost
      grind
    · intro t g hg
      grind
    · intro t g k hk
      grind
  | guest g tx hguest =>
    refine ⟨rfl, rfl, rfl, rfl, fun _ _ h => h, ?_, ?_⟩
    · intro t g' hg
      grind
    · intro t g' k hk
      grind

theorem Releases.trimmed {r r' : Routing} {notes : List Notification} (h : Releases r notes r') :
    Trimmed r notes r' :=
  Generated.lift composes_trimmed (fun _ _ _ hprim => hprim.trimmed) h

/-- A trimmed state reads the same identity off a handle. -/
theorem Trimmed.getUserId {r r' : Routing} {notes : List Notification} (h : Trimmed r notes r')
    (hdl : ConnectionHdl) : r'.getUserId hdl = r.getUserId hdl := by
  unfold Routing.getUserId
  rw [h.bindings]

theorem Trimmed.hasUserConnection {r r' : Routing} {notes : List Notification}
    (h : Trimmed r notes r') (u : String) : r'.hasUserConnection u = r.hasUserConnection u := by
  unfold Routing.hasUserConnection
  rw [h.bindings]

end CrossDesk
