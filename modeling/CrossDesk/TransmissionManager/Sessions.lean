import CrossDesk.TransmissionManager.Routes

/-!
# What ends with a session

`ReleaseUserSession` ends the memberships of one handle, and, when it was the last connection of its
identity, what is left of the identity. Both parts walk a list of rooms and release the identity from
each, so what such a walk does is said once, exactly (`Leaves`), with the notifications it queues.

* Closing a duplicate connection ends the memberships that were granted to that connection, and nothing
  else (`duplicate_ends_own_grants`).
* The last disconnect ends every membership of the identity, but only one of the rooms that it hosts:
  the first one, in the order of the rooms, and none when that one has the empty id
  (`last_disconnect_leaves_no_trace_iff`).
-/

namespace CrossDesk

open Logged Routing

/-- The identity left the rooms of the list, and nothing else happened. Each membership that ended was
notified once. -/
structure Leaves (u : String) (rooms : List String) (r : Routing) (notes : List Notification)
    (r' : Routing) : Prop where
  hosts : r'.transmissionHostIdList = r.transmissionHostIdList
  guests : ∀ tx : String, r'.guestsOf tx =
    if tx ∈ rooms then (r.guestsOf tx).filter (· ≠ u) else r.guestsOf tx
  grants : ∀ tx g : String, r'.grantOf tx g =
    if tx ∈ rooms ∧ u ∈ r.guestsOf tx ∧ g = u then none else r.grantOf tx g
  notes_eq : notes = (rooms.filter (fun tx => u ∈ r.guestsOf tx)).map (fun tx => r.ended tx u)

/-- Leaving some rooms, then others. -/
theorem Leaves.append {u : String} {rooms rooms' : List String} {r r' r'' : Routing}
    {notes notes' : List Notification} (hdisjoint : ∀ tx ∈ rooms', tx ∉ rooms)
    (h : Leaves u rooms r notes r') (h' : Leaves u rooms' r' notes' r'') :
    Leaves u (rooms ++ rooms') r (notes ++ notes') r'' where
  hosts := h'.hosts.trans h.hosts
  guests := by
    intro tx
    rw [h'.guests, h.guests]
    have hnot := hdisjoint tx
    by_cases htx : tx ∈ rooms
    · have htx' : tx ∉ rooms' := fun hin => hnot hin htx
      simp [htx, htx']
    · simp [htx]
  grants := by
    intro tx g
    rw [h'.grants, h.grants, h.guests]
    have hnot := hdisjoint tx
    by_cases htx : tx ∈ rooms
    · have htx' : tx ∉ rooms' := fun hin => hnot hin htx
      simp [htx, htx']
    · simp [htx]
  notes_eq := by
    have hguests : ∀ tx ∈ rooms', (u ∈ r'.guestsOf tx) = (u ∈ r.guestsOf tx) := by
      intro tx htx
      rw [h.guests, if_neg (hdisjoint tx htx)]
    have hfilter : rooms'.filter (fun tx => u ∈ r'.guestsOf tx) =
        rooms'.filter (fun tx => u ∈ r.guestsOf tx) := by
      apply List.filter_congr
      intro tx htx
      simp only [hguests tx htx]
    have hended : (fun tx => r'.ended tx u) = (fun tx => r.ended tx u) := by
      funext tx
      unfold Routing.ended Routing.getHostIdOfTransmission
      rw [h.hosts]
    rw [h.notes_eq, h'.notes_eq, hfilter, hended, List.filter_append, List.map_append]

namespace Mutation

variable {u : String}

theorem releaseGuest_leaves (tx : String) (r : Routing) :
    Leaves u [tx] r (releaseGuest u tx r).events (releaseGuest u tx r).state := by
  unfold releaseGuest
  by_cases hguest : u ∈ r.guestsOf tx
  · rw [if_pos hguest]
    refine ⟨rfl, fun t => ?_, fun t g => ?_, by simp [hguest]⟩
    · rw [guestsOf_withoutGuest]
      by_cases ht : t = tx
      · subst ht
        simp
      · simp [ht]
    · rw [grantOf_withoutGuest]
      by_cases ht : t = tx
      · subst ht
        simp [hguest]
      · simp [ht]
  · rw [if_neg hguest]
    refine ⟨rfl, fun t => ?_, fun t g => ?_, by simp [hguest]⟩
    · by_cases ht : t = tx
      · subst ht
        have hall : (r.guestsOf t).filter (· ≠ u) = r.guestsOf t := by
          rw [List.filter_eq_self]
          intro g hg
          simp only [decide_eq_true_eq]
          rintro rfl
          exact hguest hg
        rw [if_pos List.mem_cons_self, hall]
      · simp [ht]
    · by_cases ht : t = tx
      · subst ht
        simp [hguest]
      · simp [ht]

/-- A walk over rooms that releases the identity from each. -/
theorem each_leaves {α : Type} {rooms : List String} (hnodup : rooms.Nodup)
    {round : String → α → Mutation α}
    (hround : ∀ (tx : String) (v : α) (r : Routing),
      (round tx v r).events = (releaseGuest u tx r).events ∧
        (round tx v r).state = (releaseGuest u tx r).state) (v : α) (r : Routing) :
    Leaves u rooms r (each rooms round v r).events (each rooms round v r).state := by
  induction rooms generalizing v r with
  | nil => exact ⟨rfl, fun tx => by simp [each], fun tx g => by simp [each], rfl⟩
  | cons tx rooms ih =>
    rw [List.nodup_cons] at hnodup
    have hfirst := releaseGuest_leaves (u := u) tx r
    rw [← (hround tx v r).1, ← (hround tx v r).2] at hfirst
    have hrest := ih hnodup.2 (round tx v r).value (round tx v r).state
    refine Leaves.append ?_ hfirst hrest
    intro t ht hin
    obtain rfl := List.mem_singleton.mp hin
    exact hnodup.1 ht

theorem nodup_roomsJoinedThrough (u : String) (h : ConnectionHdl) (r : Routing) :
    (roomsJoinedThrough u h r).Nodup := by
  have hkeys := OrdMap.nodup_keys r.transmissionGuestHandles
  rw [← Std.ExtTreeMap.map_fst_toList_eq_keys] at hkeys
  exact hkeys.sublist (List.filter_sublist.map Prod.fst)

/-- A room was joined through a handle exactly if the identity was granted that handle. -/
theorem mem_roomsJoinedThrough {h : ConnectionHdl} {r : Routing} {tx : String} :
    tx ∈ roomsJoinedThrough u h r ↔ r.grantOf tx u = some h := by
  unfold roomsJoinedThrough Routing.grantOf
  rw [List.mem_map, Option.bind_eq_some_iff]
  constructor
  · rintro ⟨⟨tx, handles⟩, hroom, rfl⟩
    obtain ⟨hroom, hhandle⟩ := List.mem_filter.mp hroom
    exact ⟨handles, OrdMap.mem_toList.mp hroom, by simpa using hhandle⟩
  · rintro ⟨handles, hroom, hhandle⟩
    exact ⟨(tx, handles), List.mem_filter.mpr ⟨OrdMap.mem_toList.mpr hroom, by simpa using hhandle⟩,
      rfl⟩

theorem releaseJoined_leaves (h : ConnectionHdl) (r : Routing) :
    Leaves u (roomsJoinedThrough u h r) r (releaseJoined u h r).events
      (releaseJoined u h r).state := by
  apply each_leaves (nodup_roomsJoinedThrough u h r)
  intro tx _ r
  exact ⟨List.append_nil _, rfl⟩

theorem releaseGuestEverywhere_leaves (r : Routing) :
    Leaves u r.transmissionGuestIdList.keys r (releaseGuestEverywhere u r).events
      (releaseGuestEverywhere u r).state := by
  apply each_leaves (OrdMap.nodup_keys _)
  intro tx released r
  exact ⟨List.append_nil _, rfl⟩

end Mutation

/-! ## Unbinding -/

/-- What `ReleaseUserFromWsHandle` does to a bound handle. -/
structure Unbound (u : String) (h : ConnectionHdl) (r r' : Routing) : Prop extends SameRooms r r' where
  bindings : r'.wsHdlUserIdList = r.wsHdlUserIdList.erase h
  verified : r'.wsHdlVerifiedDeviceIds = r.wsHdlVerifiedDeviceIds.erase h
  activity : r'.wsHdlLastActiveTimeMap = r.wsHdlLastActiveTimeMap.erase h
  routes : ∀ v : String, r'.getWsHandle v =
    if v = u ∧ r.getWsHandle u = some h then OrdMap.firstKeyOf (r.wsHdlUserIdList.erase h) u
    else r.getWsHandle v

theorem unbound_of_bound {u : String} {h : ConnectionHdl} {r : Routing}
    (hbound : r.wsHdlUserIdList[h]? = some u) : Unbound u h r (r.releaseUserFromWsHandle h).2 := by
  obtain ⟨-, hbindings, hrooms⟩ := Routing.releaseUserFromWsHandle_spec h r
  refine ⟨hrooms, hbindings, ?_, ?_, ?_⟩
  · unfold releaseUserFromWsHandle
    simp only [hbound]
    split
    · split <;> rfl
    · rfl
  · unfold releaseUserFromWsHandle
    simp only [hbound]
    split
    · split <;> rfl
    · rfl
  · intro v
    unfold getWsHandle releaseUserFromWsHandle
    simp only [hbound]
    by_cases hroute : r.userIdWsHdlList[u]? = some h
    · simp only [hroute, if_true, and_true]
      cases hfirst : OrdMap.firstKeyOf (r.wsHdlUserIdList.erase h) u with
      | some k => grind
      | none => grind
    · simp only [hroute, if_false, and_false]

/-! ## Closing a duplicate connection -/

/-- The session of a handle ends while its identity keeps another connection. -/
theorem releaseSession_duplicate {u : String} {h h' : ConnectionHdl} {r : Routing}
    (hu : u ≠ "") (hbound : r.wsHdlUserIdList[h]? = some u)
    (hother : r.wsHdlUserIdList[h']? = some u) (hne : h' ≠ h) :
    let joined := Mutation.releaseJoined u h (r.releaseUserFromWsHandle h).2
    (Mutation.releaseSession h r).value = "" ∧ (Mutation.releaseSession h r).state = joined.state ∧
      (Mutation.releaseSession h r).events = joined.events := by
  intro joined
  obtain ⟨hread, hbindings, -⟩ := Routing.releaseUserFromWsHandle_spec h r
  have hvalue : (r.releaseUserFromWsHandle h).1 = u := by
    rw [hread]
    exact getUserId_of_bound hbound
  have hconnected : joined.state.hasUserConnection u = true := by
    rw [(Mutation.releaseJoined_releases u h _).trimmed.hasUserConnection]
    apply OrdMap.hasValue_iff.mpr
    refine ⟨h', ?_⟩
    rw [hbindings]
    grind
  have hrun : Mutation.releaseSession h r =
      ⟨"", joined.state, joined.events ++ []⟩ := by
    unfold Mutation.releaseSession Mutation.releaseMemberships
    simp only [Logged.andThen, Mutation.unbind, hvalue, if_neg hu, List.nil_append]
    rw [if_pos hconnected]
  rw [hrun]
  exact ⟨rfl, rfl, List.append_nil _⟩

/-- The session of `h` as the identity `u` ended what `h` was granted, and nothing else. `r` is what
`ReleaseUserSession` returned and left. -/
structure EndsOwnGrants (u : String) (h : ConnectionHdl) (s : TransmissionManager)
    (r : String × TransmissionManager) : Prop where
  value : r.1 = ""
  /-- A membership disappears exactly if it is one of the identity that was granted to the handle. -/
  memberships : ∀ tx v : String,
    v ∈ r.2.guestsOf tx ↔ v ∈ s.guestsOf tx ∧ ¬ (v = u ∧ s.grantOf tx u = some h)
  hosts : r.2.transmissionHostIdList = s.transmissionHostIdList
  grants : ∀ tx v : String,
    r.2.grantOf tx v = if v = u ∧ s.grantOf tx u = some h then none else s.grantOf tx v
  bindings : r.2.wsHdlUserIdList = s.wsHdlUserIdList.erase h
  verified : r.2.wsHdlVerifiedDeviceIds = s.wsHdlVerifiedDeviceIds.erase h
  routes : ∀ v : String, v ≠ u ∨ s.getWsHandle u ≠ some h → r.2.getWsHandle v = s.getWsHandle v
  /-- A default route that led to the handle leads to another handle of the identity. -/
  route_moved : s.getWsHandle u = some h → ∃ k : ConnectionHdl, k ≠ h ∧
    s.wsHdlUserIdList[k]? = some u ∧ r.2.getWsHandle u = some k
  /-- Each membership that disappeared was notified once. -/
  notified : ∃ notes : List Notification, r.2 = s.after r.2.toRouting notes ∧ notes.Nodup ∧
    ∀ note : Notification, note ∈ notes ↔
      ∃ tx : String, s.grantOf tx u = some h ∧ note = s.ended tx u

theorem Routing.ended_injective (u : String) (r : Routing) :
    Function.Injective (fun tx => r.ended tx u) := fun _ _ hsame =>
  (Notification.remoteControl.inj hsame).1

/-- **Closing a duplicate connection affects only its own grants**, in every reachable state. -/
theorem duplicate_ends_own_grants {s : TransmissionManager} (hs : Operation.system.Reachable s)
    {u : String} {h h' : ConnectionHdl} (hbound : s.wsHdlUserIdList[h]? = some u)
    (hother : s.wsHdlUserIdList[h']? = some u) (hne : h' ≠ h) :
    EndsOwnGrants u h s (TransmissionManager.releaseUserSession h s) := by
  have hr := routing_coherent hs
  have hu := hr.bound_ne_empty h u hbound
  have hrun := TransmissionManager.does_releaseUserSession h s
  obtain ⟨hvalue, hstate, hevents⟩ := releaseSession_duplicate hu hbound hother hne
  rw [hvalue, hstate, hevents] at hrun
  have hmaps := ((TransmissionManager.does_releaseUserSession h).maps s).trans hstate
  have hunbound := unbound_of_bound hbound
  generalize (s.toRouting.releaseUserFromWsHandle h).2 = r₁ at hrun hmaps hunbound
  -- After the unbinding, the rooms joined through the handle are left one by one.
  have hleaves := Mutation.releaseJoined_leaves (u := u) h r₁
  have htrimmed := (Mutation.releaseJoined_releases u h r₁).trimmed
  have hrooms : ∀ tx : String, tx ∈ Mutation.roomsJoinedThrough u h r₁ ↔ s.grantOf tx u = some h := by
    intro tx
    rw [Mutation.mem_roomsJoinedThrough, hunbound.grantOf]
  have hgrant : ∀ {tx : String}, s.grantOf tx u = some h → u ∈ s.guestsOf tx :=
    fun hgranted => hr.guest_of_grant _ u h hgranted
  refine ⟨by rw [hrun], ?_, ?_, ?_, ?_, ?_, ?_, ?_, ?_⟩
  · intro tx v
    rw [hmaps, hleaves.guests, hunbound.guestsOf]
    by_cases hroom : s.grantOf tx u = some h
    · rw [if_pos ((hrooms tx).mpr hroom)]
      simp [hroom]
    · rw [if_neg (fun hin => hroom ((hrooms tx).mp hin))]
      simp [hroom]
  · rw [hmaps, hleaves.hosts, hunbound.hosts]
  · intro tx v
    rw [hmaps, hleaves.grants, hunbound.grantOf, hunbound.guestsOf]
    by_cases hroom : s.grantOf tx u = some h
    · simp [hrooms, hroom, hgrant hroom]
    · simp [hrooms, hroom]
  · rw [hmaps, htrimmed.bindings, hunbound.bindings]
  · rw [hmaps, htrimmed.verified, hunbound.verified]
  · intro v hv
    have hroute := hunbound.routes v
    rw [if_neg (by tauto)] at hroute
    unfold getWsHandle at hroute ⊢
    rw [hmaps, htrimmed.routes, hroute]
  · intro hroute
    have hmoved := hunbound.routes u
    rw [if_pos ⟨rfl, hroute⟩] at hmoved
    -- The route falls back to the first binding of `u` that is left, and there is one: `h'`.
    cases hfirst : OrdMap.firstKeyOf (s.wsHdlUserIdList.erase h) u with
    | none =>
      have hnone := OrdMap.firstKeyOf_eq_none hfirst h'
      have hkept : (s.wsHdlUserIdList.erase h)[h']? = s.wsHdlUserIdList[h']? := by grind
      rw [hkept] at hnone
      exact absurd hother hnone
    | some k =>
      have hk := OrdMap.firstKeyOf_eq_some hfirst
      refine ⟨k, ?_, ?_, ?_⟩
      · rintro rfl
        grind
      · grind
      · unfold getWsHandle at hmoved ⊢
        rw [hmaps, htrimmed.routes, hmoved, hfirst]
  · refine ⟨(Mutation.releaseJoined u h r₁).events, ?_, ?_, ?_⟩
    · rw [hmaps, hrun]
    · rw [hleaves.notes_eq]
      exact ((Mutation.nodup_roomsJoinedThrough u h r₁).filter _).map (Routing.ended_injective u r₁)
    · intro note
      -- The unbinding moves no host, so each notice reads the same before it and after.
      have hended : ∀ tx : String, r₁.ended tx u = s.ended tx u := by
        intro tx
        unfold Routing.ended Routing.getHostIdOfTransmission
        rw [hunbound.hosts]
      rw [hleaves.notes_eq, List.mem_map]
      constructor
      · rintro ⟨tx, htx, rfl⟩
        exact ⟨tx, (hrooms tx).mp (List.mem_filter.mp htx).1, hended tx⟩
      · rintro ⟨tx, hgranted, rfl⟩
        refine ⟨tx, List.mem_filter.mpr ⟨(hrooms tx).mpr hgranted, ?_⟩, hended tx⟩
        rw [decide_eq_true_eq, hunbound.guestsOf]
        exact hgrant hgranted

/-- A guest with two connections, one of which was admitted to a room, closes that one. -/
theorem duplicate_ends_own_grants_joined :
    EndsOwnGrants "C-987654321" 2
      (Operation.apply (Operation.apply (Operation.apply (Operation.apply (Operation.apply {}
        (.bindUserToWsHandle false 0 "123456789" 1 ""))
        (.bindHostToTransmission "123456789" "123456789"))
        (.bindUserToWsHandle false 0 "C-987654321" 2 ""))
        (.bindUserToWsHandle false 0 "C-987654321" 3 ""))
        (.bindGuestHandleToTransmission false "C-987654321" "123456789" 2))
      (TransmissionManager.releaseUserSession 2
        (Operation.apply (Operation.apply (Operation.apply (Operation.apply (Operation.apply {}
          (.bindUserToWsHandle false 0 "123456789" 1 ""))
          (.bindHostToTransmission "123456789" "123456789"))
          (.bindUserToWsHandle false 0 "C-987654321" 2 ""))
          (.bindUserToWsHandle false 0 "C-987654321" 3 ""))
          (.bindGuestHandleToTransmission false "C-987654321" "123456789" 2))) :=
  duplicate_ends_own_grants
    ⟨_, .step (.step (.step (.step (.step (.start rfl) rfl) rfl) rfl) rfl) rfl⟩
    (show _ = some "C-987654321" by decide) (show _[(3 : ConnectionHdl)]? = _ by decide) (by decide)

/-! ## The last disconnect -/

/-- What the end of the last connection of an identity does: `r₁` is left when the handle was unbound,
`r₂` when the memberships of the handle were ended, `r₃` when the others were. -/
structure LastRelease (u : String) (h : ConnectionHdl) (r r' : Routing)
    (notes : List Notification) where
  r₁ : Routing
  r₂ : Routing
  r₃ : Routing
  notes₂ : List Notification
  notes₃ : List Notification
  unbound : Unbound u h r r₁
  alone : ∀ k : ConnectionHdl, (r.wsHdlUserIdList.erase h)[k]? ≠ some u
  joined : Leaves u (Mutation.roomsJoinedThrough u h r₁) r₁ notes₂ r₂
  everywhere : Leaves u r₂.transmissionGuestIdList.keys r₂ notes₃ r₃
  room : r' = (if r.isHost u = "" then r₃ else r₃.withoutRoom (r.isHost u))
  notified : notes = notes₂ ++ (notes₃ ++ if r.isHost u = "" then [] else
    (r₃.guestsOf (r.isHost u)).map (fun g => r₃.ended (r.isHost u) g))

/-- The end of an identity: its memberships everywhere, then the room that it is found to host. -/
theorem releaseLast_run (u : String) (r : Routing) :
    let r₃ := (Mutation.releaseGuestEverywhere u r).state
    Mutation.releaseLast u r =
      ⟨u, if r₃.isHost u = "" then r₃ else r₃.withoutRoom (r₃.isHost u),
        (Mutation.releaseGuestEverywhere u r).events ++ if r₃.isHost u = "" then [] else
          (r₃.guestsOf (r₃.isHost u)).map (fun g => r₃.ended (r₃.isHost u) g)⟩ := by
  intro r₃
  unfold Mutation.releaseLast
  simp only [Logged.andThen]
  by_cases hroom : r₃.isHost u = ""
  · rw [if_neg (not_not.mpr hroom), if_pos hroom, if_pos hroom]
  · rw [if_pos hroom, if_neg hroom, if_neg hroom]
    simp only [Mutation.releaseRoom, done_state, List.append_nil]
    rfl

theorem releaseSession_last {u : String} {h : ConnectionHdl} {r : Routing}
    (hvalue : (Mutation.releaseSession h r).value = u) (hu : u ≠ "") :
    r.wsHdlUserIdList[h]? = some u ∧ Nonempty (LastRelease u h r (Mutation.releaseSession h r).state
      (Mutation.releaseSession h r).events) := by
  obtain ⟨hread, hbindings, -⟩ := Routing.releaseUserFromWsHandle_spec h r
  have hrun : Mutation.releaseSession h r =
      Mutation.releaseMemberships (r.releaseUserFromWsHandle h).1 h (r.releaseUserFromWsHandle h).2 :=
    rfl
  rw [hrun, hread] at hvalue ⊢
  unfold Mutation.releaseMemberships at hvalue ⊢
  by_cases hnone : r.getUserId h = ""
  · rw [if_pos hnone] at hvalue
    exact absurd hvalue.symm hu
  · rw [if_neg hnone] at hvalue ⊢
    simp only [Logged.andThen] at hvalue ⊢
    generalize hr₁ : (r.releaseUserFromWsHandle h).2 = r₁ at hvalue hbindings ⊢
    generalize hv : r.getUserId h = v at hvalue hnone ⊢
    have hjoined := Mutation.releaseJoined_leaves (u := v) h r₁
    have htrimmed := (Mutation.releaseJoined_releases v h r₁).trimmed
    generalize (Mutation.releaseJoined v h r₁).state = r₂ at hvalue hjoined htrimmed ⊢
    by_cases hconnected : r₂.hasUserConnection v = true
    · rw [if_pos hconnected] at hvalue
      exact absurd hvalue.symm hu
    · rw [if_neg hconnected] at hvalue ⊢
      rw [releaseLast_run] at hvalue ⊢
      obtain rfl : v = u := hvalue
      have hbound := bound_of_getUserId hnone hv
      have heverywhere := Mutation.releaseGuestEverywhere_leaves (u := v) r₂
      have hhost : (Mutation.releaseGuestEverywhere v r₂).state.isHost v = r.isHost v := by
        unfold Routing.isHost
        rw [heverywhere.hosts, hjoined.hosts, ← hr₁, (unbound_of_bound hbound).hosts]
      refine ⟨hbound, ⟨r₁, r₂, _, _, _, hr₁ ▸ unbound_of_bound hbound, ?_, hjoined, heverywhere, ?_, ?_⟩⟩
      · intro k hk
        rw [← hbindings] at hk
        rw [htrimmed.hasUserConnection] at hconnected
        exact hconnected (OrdMap.hasValue_iff.mpr ⟨k, hk⟩)
      · rw [hhost]
      · rw [hhost]

theorem ended_of_hosts {r r' : Routing} (h : r'.transmissionHostIdList = r.transmissionHostIdList)
    (tx g : String) : r'.ended tx g = r.ended tx g := by
  unfold Routing.ended Routing.getHostIdOfTransmission
  rw [h]

/-- Releasing the identity from every room leaves it in none. -/
theorem not_guest_of_leaves {u : String} {r r' : Routing} {notes : List Notification}
    (h : Leaves u r.transmissionGuestIdList.keys r notes r') (tx : String) : u ∉ r'.guestsOf tx := by
  rw [h.guests]
  split
  · simp
  · next hkey =>
    -- a room without a guest list has no guests
    have hnone : r.transmissionGuestIdList[tx]? = none := by
      cases hlist : r.transmissionGuestIdList[tx]? with
      | none => rfl
      | some gs => exact absurd (OrdMap.mem_keys.mpr ⟨gs, hlist⟩) hkey
    simp [Routing.guestsOf, hnone]

namespace LastRelease

variable {u : String} {h : ConnectionHdl} {r r' : Routing} {notes : List Notification}

theorem hosts (l : LastRelease u h r r' notes) :
    l.r₃.transmissionHostIdList = r.transmissionHostIdList :=
  l.everywhere.hosts.trans (l.joined.hosts.trans l.unbound.hosts)

theorem guest_mono (l : LastRelease u h r r' notes) {tx g : String} (hg : g ∈ r'.guestsOf tx) :
    g ∈ l.r₃.guestsOf tx := by
  rw [l.room] at hg
  split at hg
  · exact hg
  · rw [guestsOf_withoutRoom] at hg
    split at hg
    · cases hg
    · exact hg

theorem not_guest (l : LastRelease u h r r' notes) (tx : String) : u ∉ r'.guestsOf tx :=
  fun hguest => not_guest_of_leaves l.everywhere tx (l.guest_mono hguest)

/-- Every membership that ended was notified. -/
theorem notes_complete (l : LastRelease u h r r' notes) {tx g : String} (hg : g ∈ r.guestsOf tx)
    (hgone : g ∉ r'.guestsOf tx) : r.ended tx g ∈ notes := by
  rw [l.notified, List.mem_append, List.mem_append]
  have hg₁ : g ∈ l.r₁.guestsOf tx := by
    rw [l.unbound.guestsOf]
    exact hg
  by_cases hgu : g = u
  · subst hgu
    by_cases hjoined : tx ∈ Mutation.roomsJoinedThrough g h l.r₁
    · left
      rw [l.joined.notes_eq, ← ended_of_hosts l.unbound.hosts]
      exact List.mem_map.mpr ⟨tx, List.mem_filter.mpr ⟨hjoined, by simpa using hg₁⟩, rfl⟩
    · right
      left
      have hg₂ : g ∈ l.r₂.guestsOf tx := by
        rw [l.joined.guests, if_neg hjoined]
        exact hg₁
      have hkey : tx ∈ l.r₂.transmissionGuestIdList.keys := by
        unfold Routing.guestsOf at hg₂
        cases hlist : l.r₂.transmissionGuestIdList[tx]? with
        | none => simp [hlist] at hg₂
        | some gs => exact OrdMap.mem_keys.mpr ⟨gs, hlist⟩
      rw [l.everywhere.notes_eq, ← ended_of_hosts (l.joined.hosts.trans l.unbound.hosts)]
      exact List.mem_map.mpr ⟨tx, List.mem_filter.mpr ⟨hkey, by simpa using hg₂⟩, rfl⟩
  · right
    right
    -- another guest only goes with the whole room
    have hg₂ : g ∈ l.r₂.guestsOf tx := by
      rw [l.joined.guests]
      split
      · simp [hg₁, hgu]
      · exact hg₁
    have hg₃ : g ∈ l.r₃.guestsOf tx := by
      rw [l.everywhere.guests]
      split
      · simp [hg₂, hgu]
      · exact hg₂
    rw [l.room] at hgone
    split at hgone
    · exact absurd hg₃ hgone
    · next hroom =>
      rw [guestsOf_withoutRoom] at hgone
      split at hgone
      · next htx =>
        rw [if_neg hroom, ← ended_of_hosts l.hosts]
        exact List.mem_map.mpr ⟨g, htx ▸ hg₃, by rw [htx]⟩
      · exact absurd hg₃ hgone

end LastRelease

/-- Nothing of the identity is left in the manager. -/
structure NoTrace (u : String) (s s' : TransmissionManager) : Prop where
  unbound : ∀ h : ConnectionHdl, s'.wsHdlUserIdList[h]? ≠ some u
  unrouted : s'.getWsHandle u = none
  ungranted : ∀ tx : String, s'.grantOf tx u = none
  no_guest : ∀ tx : String, u ∉ s'.guestsOf tx
  no_host : ∀ tx : String, s'.transmissionHostIdList[tx]? ≠ some u
  /-- Every membership that was removed was notified. -/
  notified : ∃ notes : List Notification, s' = s.after s'.toRouting notes ∧
    ∀ tx g : String, g ∈ s.guestsOf tx → g ∉ s'.guestsOf tx → s.ended tx g ∈ notes

/-- The identity hosts one room at most, and none under the empty id. -/
def HostsAtMostOne (u : String) (r : Routing) : Prop :=
  ∀ tx tx' : String, r.transmissionHostIdList[tx]? = some u →
    r.transmissionHostIdList[tx']? = some u → tx = tx' ∧ tx ≠ ""

/-- `IsHost` finds one of the rooms, so the others are left. -/
theorem hostsAtMostOne_iff {u : String} {r : Routing} : HostsAtMostOne u r ↔
    ∀ tx : String, r.transmissionHostIdList[tx]? = some u → r.isHost u ≠ "" ∧ tx = r.isHost u := by
  have hfound : ∀ tx : String, r.transmissionHostIdList[tx]? = some u →
      r.transmissionHostIdList[r.isHost u]? = some u := by
    intro tx htx
    unfold Routing.isHost
    cases hfirst : OrdMap.firstKeyOf r.transmissionHostIdList u with
    | none => exact absurd htx (OrdMap.firstKeyOf_eq_none hfirst tx)
    | some tx' => exact OrdMap.firstKeyOf_eq_some hfirst
  constructor
  · intro hone tx htx
    obtain ⟨hsame, hne⟩ := hone _ tx (hfound tx htx) htx
    exact ⟨hne, hsame.symm⟩
  · intro hall tx tx' htx htx'
    obtain ⟨hne, hsame⟩ := hall tx htx
    exact ⟨hsame.trans (hall tx' htx').2.symm, hsame ▸ hne⟩

/-- **The final disconnect leaves no trace exactly if the identity hosts one room at most**, in every
reachable state. -/
theorem last_disconnect_leaves_no_trace_iff {s : TransmissionManager}
    (hs : Operation.system.Reachable s) {h : ConnectionHdl} {u : String}
    (hvalue : (TransmissionManager.releaseUserSession h s).1 = u) (hu : u ≠ "") :
    NoTrace u s (TransmissionManager.releaseUserSession h s).2 ↔ HostsAtMostOne u s.toRouting := by
  have hrun := TransmissionManager.does_releaseUserSession h s
  have hmaps := (TransmissionManager.does_releaseUserSession h).maps s
  have hcoherent := (routing_coherent hs).releaseSession h
  rw [hrun] at hvalue
  obtain ⟨hbound, ⟨l⟩⟩ := releaseSession_last hvalue hu
  have hbindings : (Mutation.releaseSession h s.toRouting).state.wsHdlUserIdList =
      s.wsHdlUserIdList.erase h := releaseSession_bindings h
  rw [hostsAtMostOne_iff]
  constructor
  · intro htrace tx htx
    have hgone := htrace.no_host tx
    rw [hmaps, l.room] at hgone
    split at hgone
    · rw [l.hosts] at hgone
      -- No room was found at all, so nothing was deleted.
      exact absurd htx hgone
    · next hroom =>
      refine ⟨hroom, ?_⟩
      by_contra hother
      refine hgone ?_
      -- `tx` is another room than the one that was found, so it keeps its host.
      have hkept : (l.r₃.withoutRoom (s.isHost u)).transmissionHostIdList[tx]? =
          l.r₃.transmissionHostIdList[tx]? := by
        unfold Routing.withoutRoom
        grind
      rw [hkept, l.hosts, htx]
  · intro hone
    have hunbound : ∀ k : ConnectionHdl,
        (TransmissionManager.releaseUserSession h s).2.wsHdlUserIdList[k]? ≠ some u := by
      intro k
      rw [hmaps, hbindings]
      exact l.alone k
    have hguest : ∀ tx : String, u ∉ (TransmissionManager.releaseUserSession h s).2.guestsOf tx := by
      intro tx
      rw [hmaps]
      exact l.not_guest tx
    refine ⟨hunbound, ?_, ?_, hguest, ?_, ?_⟩
    -- A route or a grant without its binding or its membership would break the coherence.
    · cases hroute : (TransmissionManager.releaseUserSession h s).2.getWsHandle u with
      | none => rfl
      | some k =>
        refine absurd ?_ (hunbound k)
        rw [hmaps] at hroute ⊢
        exact hcoherent.bound_of_route u k hroute
    · intro tx
      cases hgrant : (TransmissionManager.releaseUserSession h s).2.grantOf tx u with
      | none => rfl
      | some k =>
        refine absurd ?_ (hguest tx)
        rw [hmaps] at hgrant ⊢
        exact hcoherent.guest_of_grant tx u k hgrant
    · intro tx
      rw [hmaps, l.room]
      -- The only room it can host is the one that is found and deleted.
      split
      · next hroom =>
        rw [l.hosts]
        exact fun htx => (hone tx htx).1 hroom
      · intro htx
        have herased : l.r₃.transmissionHostIdList[tx]? = some u ∧ tx ≠ s.isHost u := by
          unfold Routing.withoutRoom at htx
          grind
        rw [l.hosts] at herased
        exact herased.2 (hone tx herased.1).2
    · refine ⟨(Mutation.releaseSession h s.toRouting).events, ?_, ?_⟩
      · rw [hmaps, hrun]
      · intro tx g hg hgone
        rw [hmaps] at hgone
        exact l.notes_complete hg hgone

/-- Two devices, of which each hosts a room and is a guest of the other's. -/
def mutualRooms : TransmissionManager :=
  let s := Operation.apply {} (.bindUserToWsHandle false 0 "123456789" 1 "")
  let s := Operation.apply s (.bindUserToWsHandle false 0 "234567890" 2 "")
  let s := Operation.apply s (.bindHostToTransmission "123456789" "123456789")
  let s := Operation.apply s (.bindHostToTransmission "234567890" "234567890")
  let s := Operation.apply s (.bindGuestHandleToTransmission false "234567890" "123456789" 2)
  Operation.apply s (.bindGuestHandleToTransmission false "123456789" "234567890" 1)

theorem mutualRooms_reachable : Operation.system.Reachable mutualRooms := by
  have created : Operation.system.Reachable {} := ⟨[], .start rfl⟩
  have bound := Operation.reachable_apply (Operation.reachable_apply created
    (.bindUserToWsHandle false 0 "123456789" 1 "")) (.bindUserToWsHandle false 0 "234567890" 2 "")
  have hosted := Operation.reachable_apply (Operation.reachable_apply bound
    (.bindHostToTransmission "123456789" "123456789"))
    (.bindHostToTransmission "234567890" "234567890")
  exact Operation.reachable_apply (Operation.reachable_apply hosted
    (.bindGuestHandleToTransmission false "234567890" "123456789" 2))
    (.bindGuestHandleToTransmission false "123456789" "234567890" 1)

/-- One of them disconnects: its room is gone with the other device in it, and so is its own place. -/
theorem last_disconnect_leaves_no_trace_hosting :
    NoTrace "123456789" mutualRooms (TransmissionManager.releaseUserSession 1 mutualRooms).2 ∧
      mutualRooms.guestsOf "123456789" = ["234567890"] ∧
      mutualRooms.guestsOf "234567890" = ["123456789"] ∧
      (TransmissionManager.releaseUserSession 1 mutualRooms).2.getWsHandle "234567890" = some 2 := by
  refine ⟨?_, by decide +kernel, by decide +kernel, by decide +kernel⟩
  refine (last_disconnect_leaves_no_trace_iff mutualRooms_reachable (by decide +kernel)
    (by decide)).mpr ?_
  have hrooms : ∀ t : String,
      mutualRooms.transmissionHostIdList[t]? = some "123456789" → t = "123456789" := by
    intro t ht
    have hmem := OrdMap.mem_toList.mpr ht
    rw [show mutualRooms.transmissionHostIdList.toList =
      [("123456789", "123456789"), ("234567890", "234567890")] by decide +kernel] at hmem
    simpa using hmem
  intro tx tx' htx htx'
  rw [hrooms tx htx, hrooms tx' htx']
  decide

/-- A host of two rooms that disconnects still hosts the second one. -/
theorem last_disconnect_keeps_second_room :
    let s := Operation.apply (Operation.apply (Operation.apply {}
      (.bindUserToWsHandle false 0 "device-1" 1 ""))
      (.bindHostToTransmission "device-1" "tx-1"))
      (.bindHostToTransmission "device-1" "tx-2")
    Operation.system.Reachable s ∧ (TransmissionManager.releaseUserSession 1 s).1 = "device-1" ∧
      (TransmissionManager.releaseUserSession 1 s).2.transmissionHostIdList["tx-2"]? =
        some "device-1" ∧
      ¬ NoTrace "device-1" s (TransmissionManager.releaseUserSession 1 s).2 := by
  intro s
  have hleft : (TransmissionManager.releaseUserSession 1 s).2.transmissionHostIdList["tx-2"]? =
      some "device-1" := by decide
  exact ⟨⟨_, .step (.step (.step (.start rfl) rfl) rfl) rfl⟩, by decide, hleft,
    fun htrace => htrace.no_host "tx-2" hleft⟩

end CrossDesk
