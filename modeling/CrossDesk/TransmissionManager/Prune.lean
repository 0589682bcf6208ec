import CrossDesk.TransmissionManager.Operations

/-!
# Pruning

`PruneDisconnectedTransmissions` first releases the rooms whose host has no connection, and then, in
the rooms that are left, the guests without one. Either phase collects first and releases afterwards.

* `Vacated` says what the first phase leaves, `Dismissed` what the second one does; each is an
  induction over what was collected.
* Neither phase touches a binding, and releasing a guest touches no other guest, so whoever is left
  was found connected: a second call finds nothing (`pruned_exactly`).
-/

namespace CrossDesk

open Logged Routing

namespace Mutation

/-! ## Rooms -/

/-- The rooms of the list are gone with all they had, and nothing else is. -/
structure Vacated (rooms : List String) (r r' : Routing) : Prop where
  hosts : ∀ tx : String, r'.transmissionHostIdList[tx]? =
    if tx ∈ rooms then none else r.transmissionHostIdList[tx]?
  guestLists : ∀ tx : String, r'.transmissionGuestIdList[tx]? =
    if tx ∈ rooms then none else r.transmissionGuestIdList[tx]?
  grants : ∀ tx g : String, r'.grantOf tx g = if tx ∈ rooms then none else r.grantOf tx g

theorem Vacated.guestsOf {rooms : List String} {r r' : Routing} (h : Vacated rooms r r')
    (tx : String) : r'.guestsOf tx = if tx ∈ rooms then [] else r.guestsOf tx := by
  unfold Routing.guestsOf
  rw [h.guestLists]
  split <;> rfl

/-- The host of a room that is left is the one it had. -/
theorem Vacated.ended {rooms : List String} {r r' : Routing} (h : Vacated rooms r r') {tx : String}
    (htx : tx ∉ rooms) (g : String) : r'.ended tx g = r.ended tx g := by
  unfold Routing.ended getHostIdOfTransmission
  rw [h.hosts, if_neg htx]

theorem releaseRoom_vacated (tx : String) (r : Routing) : Vacated [tx] r (r.withoutRoom tx) where
  hosts := by
    intro t
    unfold withoutRoom
    grind
  guestLists := by
    intro t
    unfold withoutRoom
    grind
  grants := by
    intro t g
    rw [grantOf_withoutRoom]
    simp

theorem Vacated.append {rooms rooms' : List String} {r r' r'' : Routing} (h : Vacated rooms r r')
    (h' : Vacated rooms' r' r'') : Vacated (rooms ++ rooms') r r'' where
  hosts := by
    intro tx
    rw [h'.hosts, h.hosts]
    simp only [List.mem_append]
    grind
  guestLists := by
    intro tx
    rw [h'.guestLists, h.guestLists]
    simp only [List.mem_append]
    grind
  grants := by
    intro tx g
    rw [h'.grants, h.grants]
    simp only [List.mem_append]
    grind

/-- The memberships of the rooms. -/
def membersOf (rooms : List String) (r : Routing) : List (String × String) :=
  rooms.flatMap (fun tx => (r.guestsOf tx).map (fun g => (tx, g)))

/-- A round of the first phase. -/
def pruneRoom (transmissionId : String) (released : Nat) : Mutation Nat := fun r =>
  andThen (releaseRoom transmissionId) (fun _ =>
    done (released + (r.guestsOf transmissionId).length)) r

/-- The first phase: all rooms of the list are released, and every guest is counted and notified. -/
theorem each_pruneRoom {rooms : List String} (hnodup : rooms.Nodup) (n : Nat) (r : Routing) :
    let run := each rooms pruneRoom n r
    Vacated rooms r run.state ∧ run.value = n + (membersOf rooms r).length ∧
      run.events = (membersOf rooms r).map (fun m => r.ended m.1 m.2) := by
  induction rooms generalizing n r with
  | nil =>
    refine ⟨⟨fun tx => ?_, fun tx => ?_, fun tx g => ?_⟩, rfl, rfl⟩ <;> simp [each]
  | cons tx rooms ih =>
    obtain ⟨hnew, hnodup⟩ := List.nodup_cons.mp hnodup
    have hfirst := releaseRoom_vacated tx r
    obtain ⟨hrest, hvalue, hevents⟩ := ih hnodup (n + (r.guestsOf tx).length) (r.withoutRoom tx)
    -- The other rooms have the guests that they had.
    have hmembers : membersOf rooms (r.withoutRoom tx) = membersOf rooms r := by
      unfold membersOf
      refine List.flatMap_congr fun t ht => ?_
      have hne : t ≠ tx := fun heq => hnew (heq ▸ ht)
      rw [guestsOf_withoutRoom, if_neg hne]
    have hended : (membersOf rooms r).map (fun m => (r.withoutRoom tx).ended m.1 m.2) =
        (membersOf rooms r).map (fun m => r.ended m.1 m.2) := by
      refine List.map_congr_left fun m hm => ?_
      obtain ⟨t, ht, hmem⟩ := List.mem_flatMap.mp hm
      obtain ⟨g, -, rfl⟩ := List.mem_map.mp hmem
      have hne : t ≠ tx := fun heq => hnew (heq ▸ ht)
      exact hfirst.ended (by simpa using hne) g
    rw [hmembers] at hvalue hevents
    refine ⟨hfirst.append hrest, ?_, ?_⟩
    · refine hvalue.trans ?_
      simp only [membersOf, List.flatMap_cons, List.length_append, List.length_map]
      omega
    · refine (congrArg₂ (· ++ ·) (List.append_nil _) (hevents.trans hended)).trans ?_
      simp [membersOf, releaseRoom, Function.comp_def]

/-! ## Guests -/

/-- The memberships of the list are gone, and nothing else is. -/
structure Dismissed (guests : List (String × String)) (r r' : Routing) : Prop where
  hosts : r'.transmissionHostIdList = r.transmissionHostIdList
  members : ∀ tx : String, r'.guestsOf tx = (r.guestsOf tx).filter (fun g => (g, tx) ∉ guests)
  grants : ∀ tx g : String, r'.grantOf tx g = if (g, tx) ∈ guests then none else r.grantOf tx g

/-- A round of the second phase. -/
def pruneGuest (guest : String × String) (released : Nat) : Mutation Nat :=
  andThen (releaseGuest guest.1 guest.2) (fun now => done (if now then released + 1 else released))

/-- The second phase: all memberships of the list are released, counted and notified. -/
theorem each_pruneGuest {guests : List (String × String)} (hnodup : guests.Nodup) (n : Nat)
    (r : Routing) (hthere : ∀ m ∈ guests, m.1 ∈ r.guestsOf m.2) :
    let run := each guests pruneGuest n r
    Dismissed guests r run.state ∧ run.value = n + guests.length ∧
      run.events = guests.map (fun m => r.ended m.2 m.1) := by
  induction guests generalizing n r with
  | nil =>
    refine ⟨⟨rfl, fun tx => ?_, fun tx g => ?_⟩, rfl, rfl⟩ <;> simp [each]
  | cons m guests ih =>
    obtain ⟨g, tx⟩ := m
    obtain ⟨hnew, hnodup⟩ := List.nodup_cons.mp hnodup
    have hmem : g ∈ r.guestsOf tx := hthere (g, tx) (by simp)
    have hrelease : releaseGuest g tx r = ⟨true, r.withoutGuest g tx, [r.ended tx g]⟩ := if_pos hmem
    -- The list has no doubles, so the others are still members after the first release.
    have hrest : ∀ m ∈ guests, m.1 ∈ (r.withoutGuest g tx).guestsOf m.2 := by
      rintro ⟨g', tx'⟩ hm
      have hstill : g' ∈ r.guestsOf tx' := hthere (g', tx') (by simp [hm])
      rw [guestsOf_withoutGuest]
      by_cases htx : tx' = tx
      · subst htx
        rw [if_pos rfl, List.mem_filter]
        refine ⟨hstill, ?_⟩
        rw [decide_eq_true_eq]
        rintro rfl
        exact hnew hm
      · rw [if_neg htx]
        exact hstill
    obtain ⟨hleft, hvalue, hevents⟩ := ih hnodup (n + 1) (r.withoutGuest g tx) hrest
    have hrun : each ((g, tx) :: guests) pruneGuest n r =
        ⟨(each guests pruneGuest (n + 1) (r.withoutGuest g tx)).value,
          (each guests pruneGuest (n + 1) (r.withoutGuest g tx)).state,
          [r.ended tx g] ++ (each guests pruneGuest (n + 1) (r.withoutGuest g tx)).events⟩ := by
      simp [each, andThen, pruneGuest, hrelease]
    rw [hrun]
    refine ⟨⟨hleft.hosts, fun t => ?_, fun t g' => ?_⟩, ?_, ?_⟩
    · rw [hleft.members, guestsOf_withoutGuest]
      by_cases ht : t = tx
      · subst ht
        rw [if_pos rfl, List.filter_filter]
        refine List.filter_congr fun g' _ => ?_
        simp only [List.mem_cons, Prod.mk.injEq]
        grind
      · rw [if_neg ht]
        refine List.filter_congr fun g' _ => ?_
        simp only [List.mem_cons, Prod.mk.injEq]
        grind
    · rw [hleft.grants, grantOf_withoutGuest]
      simp only [List.mem_cons, Prod.mk.injEq]
      grind
    · refine hvalue.trans ?_
      rw [List.length_cons]
      omega
    · show [r.ended tx g] ++ _ = _
      rw [hevents]
      rfl

/-! ## Both phases -/

theorem nodup_hostlessRooms (r : Routing) : (hostlessRooms r).Nodup := by
  have hkeys := OrdMap.nodup_keys r.transmissionHostIdList
  rw [← Std.ExtTreeMap.map_fst_toList_eq_keys] at hkeys
  exact hkeys.sublist (List.filter_sublist.map Prod.fst)

theorem mem_hostlessRooms {r : Routing} {tx : String} : tx ∈ hostlessRooms r ↔
    ∃ host : String, r.transmissionHostIdList[tx]? = some host ∧ r.hasUserConnection host = false := by
  unfold hostlessRooms
  rw [List.mem_map]
  constructor
  · rintro ⟨⟨t, host⟩, hmem, rfl⟩
    obtain ⟨hroom, halone⟩ := List.mem_filter.mp hmem
    exact ⟨host, OrdMap.mem_toList.mp hroom, by simpa using halone⟩
  · rintro ⟨host, hroom, halone⟩
    exact ⟨(tx, host), List.mem_filter.mpr ⟨OrdMap.mem_toList.mpr hroom, by simpa using halone⟩, rfl⟩

theorem mem_disconnectedGuests {expired : String → String → Bool} {r : Routing} {g tx : String} :
    (g, tx) ∈ disconnectedGuests expired r ↔
      g ∈ r.guestsOf tx ∧ r.connectedGuest expired tx g = false := by
  unfold disconnectedGuests Routing.guestsOf
  rw [List.mem_flatMap]
  constructor
  · rintro ⟨⟨t, guests⟩, hroom, hmem⟩
    obtain ⟨g', hg', heq⟩ := List.mem_map.mp hmem
    obtain ⟨rfl, rfl⟩ := Prod.mk.inj heq
    obtain ⟨hguest, halone⟩ := List.mem_filter.mp hg'
    rw [OrdMap.mem_toList.mp hroom]
    exact ⟨hguest, by simpa using halone⟩
  · rintro ⟨hguest, halone⟩
    cases hroom : r.transmissionGuestIdList[tx]? with
    | none => simp [hroom] at hguest
    | some guests =>
      rw [hroom] at hguest
      refine ⟨(tx, guests), OrdMap.mem_toList.mpr hroom, List.mem_map.mpr ⟨g, ?_, rfl⟩⟩
      exact List.mem_filter.mpr ⟨hguest, by simpa using halone⟩

theorem nodup_disconnectedGuests {expired : String → String → Bool} {r : Routing} (hr : Tabled r) :
    (disconnectedGuests expired r).Nodup := by
  unfold disconnectedGuests
  refine List.nodup_flatMap.mpr ⟨?_, ?_⟩
  · rintro ⟨tx, guests⟩ hroom
    refine ((hr.guests_nodup tx guests (OrdMap.mem_toList.mp hroom)).filter _).map ?_
    exact fun _ _ heq => (Prod.mk.inj heq).1
  · refine (List.pairwise_map.mp (?_ : (r.transmissionGuestIdList.toList.map Prod.fst).Pairwise
      (· ≠ ·))).imp fun hne => ?_
    · rw [Std.ExtTreeMap.map_fst_toList_eq_keys]
      exact OrdMap.nodup_keys _
    · intro m hm hm'
      obtain ⟨g, -, rfl⟩ := List.mem_map.mp hm
      obtain ⟨g', -, heq⟩ := List.mem_map.mp hm'
      exact hne (Prod.mk.inj heq).2.symm

/-- What the two phases do, one after the other. -/
theorem prune_run (expired : String → String → Bool) {r : Routing} (hr : Coherent r) :
    ∃ r₁ : Routing, Coherent r₁ ∧ Trimmed r [] r₁ ∧ Vacated (hostlessRooms r) r r₁ ∧
      Dismissed (disconnectedGuests expired r₁) r₁ (prune expired r).state ∧
      (prune expired r).value =
        (membersOf (hostlessRooms r) r).length + (disconnectedGuests expired r₁).length ∧
      (prune expired r).events = (membersOf (hostlessRooms r) r).map (fun m => r.ended m.1 m.2) ++
        (disconnectedGuests expired r₁).map (fun m => r₁.ended m.2 m.1) := by
  have hreleases : Releases r (each (hostlessRooms r) pruneRoom 0 r).events
      (each (hostlessRooms r) pruneRoom 0 r).state := by
    refine Follows.each composes_releases (fun tx released r' => ?_) (hostlessRooms r) 0 r
    exact (releaseRoom_releases tx).bind composes_releases (fun _ => follows_done composes_releases _) r'
  obtain ⟨hvacated, hvalue, hevents⟩ := each_pruneRoom (nodup_hostlessRooms r) 0 r
  have hcoherent : Coherent (each (hostlessRooms r) pruneRoom 0 r).state := hr.releases hreleases
  have hnodup : (disconnectedGuests expired (each (hostlessRooms r) pruneRoom 0 r).state).Nodup :=
    nodup_disconnectedGuests hcoherent.toTabled
  obtain ⟨hdismissed, hvalue', hevents'⟩ := each_pruneGuest hnodup
    (each (hostlessRooms r) pruneRoom 0 r).value (each (hostlessRooms r) pruneRoom 0 r).state
    (fun m hm => (mem_disconnectedGuests.mp hm).1)
  obtain ⟨hbindings, hroutes, hverified, hactivity, hhost, hguest, hgrant⟩ := hreleases.trimmed
  refine ⟨_, hcoherent, ⟨hbindings, hroutes, hverified, hactivity, hhost, hguest, hgrant⟩, hvacated,
    hdismissed, ?_, congrArg₂ (· ++ ·) hevents hevents'⟩
  refine hvalue'.trans ?_
  rw [hvalue, Nat.zero_add]

/-- Where nothing is found, nothing is done. -/
theorem prune_nothing {expired : String → String → Bool} {r : Routing} (hrooms : hostlessRooms r = [])
    (hguests : disconnectedGuests expired r = []) : prune expired r = ⟨0, r, []⟩ := by
  have hfirst : each (hostlessRooms r) pruneRoom 0 r = ⟨0, r, []⟩ := by
    rw [hrooms]
    rfl
  have hsecond : each (disconnectedGuests expired r) pruneGuest 0 r = ⟨0, r, []⟩ := by
    rw [hguests]
    rfl
  calc prune expired r
      = andThen (each (hostlessRooms r) pruneRoom 0)
          (fun released r => each (disconnectedGuests expired r) pruneGuest released r) r := rfl
    _ = ⟨0, r, []⟩ := by simp [andThen, hfirst, hsecond]

end Mutation

/-- A guest of a room stays: through its grant, which is live and bound to it, or, without a grant,
through any handle. -/
def Stays (expired : String → String → Bool) (tx g : String) (r : Routing) : Prop :=
  match r.grantOf tx g with
  | some h => expired tx g = false ∧ r.wsHdlUserIdList[h]? = some g
  | none => ∃ h : ConnectionHdl, r.wsHdlUserIdList[h]? = some g

theorem Coherent.connectedGuest_iff {r : Routing} (hr : Coherent r)
    {expired : String → String → Bool} {tx g : String} :
    r.connectedGuest expired tx g = true ↔ Stays expired tx g r := by
  unfold connectedGuest Stays
  cases hgrant : r.grantOf tx g with
  | none => exact OrdMap.hasValue_iff
  | some h =>
    have hbound := hr.bound_of_grant tx g h hgrant
    simp [hbound, getUserId]

/-- What a call of `PruneDisconnectedTransmissions` did. `r` is what it returned and left. -/
structure Pruned (expired : String → String → Bool) (s : TransmissionManager)
    (r : Nat × TransmissionManager) : Prop where
  /-- A room stays exactly if some handle is bound to its host. -/
  room : ∀ tx host : String, r.2.transmissionHostIdList[tx]? = some host ↔
    s.transmissionHostIdList[tx]? = some host ∧
      ∃ h : ConnectionHdl, s.wsHdlUserIdList[h]? = some host
  /-- A guest of a room that stays is left, in its place, exactly if it is connected. -/
  guest : ∀ tx g : String, g ∈ r.2.guestsOf tx ↔
    g ∈ s.guestsOf tx ∧ r.2.isTransmissionExist tx = true ∧ Stays expired tx g s.toRouting
  order : ∀ tx : String, (r.2.guestsOf tx).Sublist (s.guestsOf tx)
  grants : ∀ tx g : String,
    r.2.grantOf tx g = if g ∈ r.2.guestsOf tx then s.grantOf tx g else none
  bindings : r.2.wsHdlUserIdList = s.wsHdlUserIdList
  routes : r.2.userIdWsHdlList = s.userIdWsHdlList
  verified : r.2.wsHdlVerifiedDeviceIds = s.wsHdlVerifiedDeviceIds
  activity : r.2.wsHdlLastActiveTimeMap = s.wsHdlLastActiveTimeMap
  /-- The memberships that ended are counted, and each is notified once. -/
  counted : ∃ removed : List (String × String), removed.Nodup ∧
    (∀ tx g : String, (tx, g) ∈ removed ↔ g ∈ s.guestsOf tx ∧ g ∉ r.2.guestsOf tx) ∧
      r.1 = removed.length ∧
        r.2 = s.after r.2.toRouting (removed.map (fun m => s.ended m.1 m.2))
  /-- A second call finds nothing. -/
  again : TransmissionManager.pruneDisconnectedTransmissions expired r.2 = (0, r.2)

/-! ## What is left -/

section Left

variable {expired : String → String → Bool} {r r₁ r' : Routing}

theorem not_mem_hostlessRooms {tx host : String} (hhost : r.transmissionHostIdList[tx]? = some host) :
    tx ∉ Mutation.hostlessRooms r ↔ ∃ h : ConnectionHdl, r.wsHdlUserIdList[h]? = some host := by
  rw [Mutation.mem_hostlessRooms, ← OrdMap.hasValue_iff]
  constructor
  · intro hnot
    by_contra halone
    exact hnot ⟨host, hhost, Bool.eq_false_iff.mpr halone⟩
  · rintro hconnected ⟨host', hhost', halone⟩
    rw [hhost] at hhost'
    cases hhost'
    exact Bool.false_ne_true (halone.symm.trans hconnected)

theorem Mutation.Vacated.stays (h : Vacated (hostlessRooms r) r r₁) (htrimmed : Trimmed r [] r₁)
    {tx g : String} (htx : tx ∉ hostlessRooms r) : Stays expired tx g r₁ ↔ Stays expired tx g r := by
  unfold Stays
  rw [h.grants, if_neg htx, htrimmed.bindings]

variable (hr : Coherent r) (hr₁ : Coherent r₁) (htrimmed : Trimmed r [] r₁)
  (hvacated : Mutation.Vacated (Mutation.hostlessRooms r) r r₁)
  (hdismissed : Mutation.Dismissed (Mutation.disconnectedGuests expired r₁) r₁ r')

include hvacated hdismissed in
theorem room_left (tx host : String) : r'.transmissionHostIdList[tx]? = some host ↔
    r.transmissionHostIdList[tx]? = some host ∧
      ∃ h : ConnectionHdl, r.wsHdlUserIdList[h]? = some host := by
  rw [hdismissed.hosts, hvacated.hosts]
  by_cases htx : tx ∈ Mutation.hostlessRooms r
  · rw [if_pos htx]
    refine iff_of_false nofun ?_
    rintro ⟨hhost, hconnected⟩
    exact (not_mem_hostlessRooms hhost).mpr hconnected htx
  · rw [if_neg htx]
    exact ⟨fun hhost => ⟨hhost, (not_mem_hostlessRooms hhost).mp htx⟩, And.left⟩

include hr₁ htrimmed hvacated hdismissed in
theorem guest_left (tx g : String) : g ∈ r'.guestsOf tx ↔
    g ∈ r.guestsOf tx ∧ tx ∉ Mutation.hostlessRooms r ∧ Stays expired tx g r := by
  rw [hdismissed.members, List.mem_filter, decide_eq_true_eq, Mutation.mem_disconnectedGuests,
    hvacated.guestsOf]
  by_cases htx : tx ∈ Mutation.hostlessRooms r
  · rw [if_pos htx]
    simp [htx]
  · rw [if_neg htx, ← hvacated.stays htrimmed htx, ← hr₁.connectedGuest_iff]
    simp only [htx, not_false_eq_true, true_and, not_and, Bool.not_eq_false]
    exact and_congr_right fun hg => ⟨fun h => h hg, fun h _ => h⟩

include hr hr₁ htrimmed hvacated hdismissed in
theorem grant_left (tx g : String) :
    r'.grantOf tx g = if g ∈ r'.guestsOf tx then r.grantOf tx g else none := by
  rw [hdismissed.grants, hvacated.grants]
  by_cases htx : tx ∈ Mutation.hostlessRooms r
  · rw [if_pos htx, ite_self, if_neg]
    intro hg
    exact ((guest_left hr₁ htrimmed hvacated hdismissed tx g).mp hg).2.1 htx
  · have hmem : g ∈ r'.guestsOf tx ↔
        g ∈ r.guestsOf tx ∧ (g, tx) ∉ Mutation.disconnectedGuests expired r₁ := by
      rw [hdismissed.members, hvacated.guestsOf, if_neg htx, List.mem_filter, decide_eq_true_eq]
    rw [if_neg htx]
    by_cases hgone : (g, tx) ∈ Mutation.disconnectedGuests expired r₁
    · rw [if_pos hgone, if_neg (fun hg => (hmem.mp hg).2 hgone)]
    · rw [if_neg hgone]
      cases hgrant : r.grantOf tx g with
      | none => rw [ite_self]
      | some h => rw [if_pos (hmem.mpr ⟨hr.guest_of_grant tx g h hgrant, hgone⟩)]

/-- A room that a guest is in has a host, so it is left exactly if the host is connected. -/
theorem exists_iff_of_guest {tx g : String} (hr : Coherent r)
    (hvacated : Mutation.Vacated (Mutation.hostlessRooms r) r r₁)
    (hdismissed : Mutation.Dismissed (Mutation.disconnectedGuests expired r₁) r₁ r')
    (hg : g ∈ r.guestsOf tx) :
    r'.isTransmissionExist tx = true ↔ tx ∉ Mutation.hostlessRooms r := by
  unfold Routing.guestsOf at hg
  cases hguests : r.transmissionGuestIdList[tx]? with
  | none => simp [hguests] at hg
  | some guests =>
    obtain ⟨host, hhost, -⟩ := hr.host_of_guests tx guests hguests
    rw [not_mem_hostlessRooms hhost]
    unfold isTransmissionExist
    rw [OrdMap.contains_iff]
    constructor
    · rintro ⟨host', hhost'⟩
      obtain ⟨hsame, hconnected⟩ := (room_left hvacated hdismissed tx host').mp hhost'
      rw [hhost] at hsame
      cases hsame
      exact hconnected
    · intro hconnected
      exact ⟨host, (room_left hvacated hdismissed tx host).mpr ⟨hhost, hconnected⟩⟩

include hr hr₁ htrimmed hvacated hdismissed in
/-- Whoever is left is connected. -/
theorem nothing_left (hbindings : r'.wsHdlUserIdList = r.wsHdlUserIdList) (hr' : Coherent r') :
    Mutation.hostlessRooms r' = [] ∧ Mutation.disconnectedGuests expired r' = [] := by
  constructor
  · refine List.eq_nil_iff_forall_not_mem.mpr fun tx htx => ?_
    obtain ⟨host, hhost, -⟩ := Mutation.mem_hostlessRooms.mp htx
    refine (not_mem_hostlessRooms hhost).mpr ?_ htx
    rw [hbindings]
    exact ((room_left hvacated hdismissed tx host).mp hhost).2
  · refine List.eq_nil_iff_forall_not_mem.mpr fun ⟨g, tx⟩ hmem => ?_
    obtain ⟨hg, halone⟩ := Mutation.mem_disconnectedGuests.mp hmem
    have hstays := ((guest_left hr₁ htrimmed hvacated hdismissed tx g).mp hg).2.2
    have hgrant := grant_left hr hr₁ htrimmed hvacated hdismissed tx g
    rw [if_pos hg] at hgrant
    have hconnected : r'.connectedGuest expired tx g = true := by
      rw [hr'.connectedGuest_iff]
      unfold Stays at hstays ⊢
      rw [hgrant, hbindings]
      exact hstays
    rw [hconnected] at halone
    cases halone

end Left

/-- The memberships that the two phases end. -/
theorem removed_spec {expired : String → String → Bool} {r r₁ r' : Routing} (hr : Coherent r)
    (hr₁ : Coherent r₁) (htrimmed : Trimmed r [] r₁)
    (hvacated : Mutation.Vacated (Mutation.hostlessRooms r) r r₁)
    (hdismissed : Mutation.Dismissed (Mutation.disconnectedGuests expired r₁) r₁ r')
    (removed : List (String × String))
    (hremoved : removed = Mutation.membersOf (Mutation.hostlessRooms r) r ++
      (Mutation.disconnectedGuests expired r₁).map Prod.swap) :
    removed.Nodup ∧
      ∀ tx g : String, (tx, g) ∈ removed ↔ g ∈ r.guestsOf tx ∧ g ∉ r'.guestsOf tx := by
  have hmember : ∀ tx g : String, (tx, g) ∈ Mutation.membersOf (Mutation.hostlessRooms r) r ↔
      tx ∈ Mutation.hostlessRooms r ∧ g ∈ r.guestsOf tx := by
    intro tx g
    unfold Mutation.membersOf
    simp only [List.mem_flatMap, List.mem_map, Prod.mk.injEq]
    constructor
    · rintro ⟨t, ht, g', hg', rfl, rfl⟩
      exact ⟨ht, hg'⟩
    · rintro ⟨ht, hg⟩
      exact ⟨tx, ht, g, hg, rfl, rfl⟩
  have hgone : ∀ tx g : String, (tx, g) ∈ (Mutation.disconnectedGuests expired r₁).map Prod.swap ↔
      (g, tx) ∈ Mutation.disconnectedGuests expired r₁ := by
    intro tx g
    rw [List.mem_map]
    constructor
    · rintro ⟨⟨g', tx'⟩, hmem, heq⟩
      obtain ⟨rfl, rfl⟩ := Prod.mk.inj heq
      exact hmem
    · intro hmem
      exact ⟨(g, tx), hmem, rfl⟩
  subst hremoved
  refine ⟨List.nodup_append.mpr ⟨?_, ?_, ?_⟩, fun tx g => ?_⟩
  · unfold Mutation.membersOf
    refine List.nodup_flatMap.mpr ⟨fun tx htx => ?_, ?_⟩
    · refine List.Nodup.map (fun _ _ heq => (Prod.mk.inj heq).2) ?_
      unfold Routing.guestsOf
      cases hguests : r.transmissionGuestIdList[tx]? with
      | none => exact List.nodup_nil
      | some guests => exact hr.guests_nodup tx guests hguests
    · refine (Mutation.nodup_hostlessRooms r).imp fun hne m hm hm' => ?_
      obtain ⟨g, -, rfl⟩ := List.mem_map.mp hm
      obtain ⟨g', -, heq⟩ := List.mem_map.mp hm'
      exact hne (Prod.mk.inj heq).1.symm
  · exact (Mutation.nodup_disconnectedGuests hr₁.toTabled).map Prod.swap_injective
  · rintro ⟨tx, g⟩ hm m' hm' rfl
    -- A room that the first phase empties has no guest for the second.
    have hroom := ((hmember tx g).mp hm).1
    have hguest := (Mutation.mem_disconnectedGuests.mp ((hgone tx g).mp hm')).1
    rw [hvacated.guestsOf, if_pos hroom] at hguest
    cases hguest
  · rw [List.mem_append, hmember, hgone, Mutation.mem_disconnectedGuests, hvacated.guestsOf,
      guest_left hr₁ htrimmed hvacated hdismissed]
    by_cases htx : tx ∈ Mutation.hostlessRooms r
    · simp [htx]
    -- In a room with a host a guest goes exactly if it is not connected.
    · have hstays : r₁.connectedGuest expired tx g = false ↔ ¬ Stays expired tx g r := by
        rw [← hvacated.stays htrimmed htx, ← hr₁.connectedGuest_iff, Bool.not_eq_true]
      rw [if_neg htx, hstays]
      simp only [htx, false_and, false_or, not_false_eq_true, true_and, not_and]
      exact and_congr_right fun hg => ⟨fun h _ => h, fun h => h hg⟩

/-- After an operation, doing nothing changes nothing. -/
theorem TransmissionManager.after_after_nil (s : TransmissionManager) (maps : Routing)
    (notes : List Notification) : (s.after maps notes).after maps [] = s.after maps notes := by
  unfold TransmissionManager.after
  by_cases hdepth : s.lockDepth ≠ 0
  · simp [hdepth, TransmissionManager.collected]
  · simp [hdepth]

/-- **Pruning is exact and idempotent**, in every reachable state. -/
theorem pruned_exactly {s : TransmissionManager} (hs : Operation.system.Reachable s)
    (expired : String → String → Bool) :
    Pruned expired s (TransmissionManager.pruneDisconnectedTransmissions expired s) := by
  have hr := routing_coherent hs
  have hdoes := TransmissionManager.does_pruneDisconnectedTransmissions expired
  have hreleases := Mutation.prune_releases expired s.toRouting
  have htrimmed' := hreleases.trimmed
  have hr' := hr.releases hreleases
  obtain ⟨r₁, hr₁, htrimmed, hvacated, hdismissed, hvalue, hevents⟩ := Mutation.prune_run expired hr
  have hrun := hdoes s
  generalize (Mutation.prune expired s.toRouting).state = r' at *
  have hleft := guest_left hr₁ htrimmed hvacated hdismissed
  obtain ⟨hnodup, hmem⟩ := removed_spec hr hr₁ htrimmed hvacated hdismissed _ rfl
  -- the notifications name the host that the room had
  have hended : (Mutation.disconnectedGuests expired r₁).map (fun m => r₁.ended m.2 m.1) =
      ((Mutation.disconnectedGuests expired r₁).map Prod.swap).map (fun m => s.ended m.1 m.2) := by
    rw [List.map_map]
    refine List.map_congr_left fun ⟨g, tx⟩ hm => hvacated.ended (fun htx => ?_) g
    have hguest := (Mutation.mem_disconnectedGuests.mp hm).1
    rw [hvacated.guestsOf, if_pos htx] at hguest
    cases hguest
  rw [hended, ← List.map_append] at hevents
  have hmaps : (s.after r' (Mutation.prune expired s.toRouting).events).toRouting = r' := by
    unfold TransmissionManager.after
    split <;> rfl
  rw [hrun]
  refine ⟨?_, ?_, ?_, ?_, ?_, ?_, ?_, ?_, ?_, ?_⟩
  · intro tx host
    show (s.after r' _).toRouting.transmissionHostIdList[tx]? = _ ↔ _
    rw [hmaps]
    exact room_left hvacated hdismissed tx host
  · intro tx g
    rw [hmaps, hleft]
    refine and_congr_right fun hg => and_congr_left' ?_
    exact (exists_iff_of_guest hr hvacated hdismissed hg).symm
  · intro tx
    rw [hmaps, hdismissed.members, hvacated.guestsOf]
    refine List.filter_sublist.trans ?_
    split
    · exact List.nil_sublist _
    · exact List.Sublist.refl _
  · intro tx g
    rw [hmaps]
    exact grant_left hr hr₁ htrimmed hvacated hdismissed tx g
  · rw [hmaps, htrimmed'.bindings]
  · rw [hmaps, htrimmed'.routes]
  · rw [hmaps, htrimmed'.verified]
  · rw [hmaps, htrimmed'.activity]
  · refine ⟨_, hnodup, fun tx g => ?_, ?_, ?_⟩
    · rw [hmaps]
      exact hmem tx g
    · rw [hvalue, List.length_append, List.length_map]
    · rw [hmaps, hevents]
  · obtain ⟨hrooms, hguests⟩ := nothing_left hr hr₁ htrimmed hvacated hdismissed htrimmed'.bindings hr'
    have hnothing := Mutation.prune_nothing hrooms hguests
    have hagain := hdoes (s.after r' (Mutation.prune expired s.toRouting).events)
    rw [hmaps, hnothing] at hagain
    rw [hagain, TransmissionManager.after_after_nil]

/-- A guest was admitted to a room through a handle that expired. -/
theorem pruned_exactly_expired :
    Pruned (fun _ _ => true)
      (Operation.apply (Operation.apply (Operation.apply (Operation.apply {}
        (.bindUserToWsHandle false 0 "123456789" 1 ""))
        (.bindHostToTransmission "123456789" "123456789"))
        (.bindUserToWsHandle false 0 "C-987654321" 2 ""))
        (.bindGuestHandleToTransmission false "C-987654321" "123456789" 2))
      (TransmissionManager.pruneDisconnectedTransmissions (fun _ _ => true)
        (Operation.apply (Operation.apply (Operation.apply (Operation.apply {}
          (.bindUserToWsHandle false 0 "123456789" 1 ""))
          (.bindHostToTransmission "123456789" "123456789"))
          (.bindUserToWsHandle false 0 "C-987654321" 2 ""))
          (.bindGuestHandleToTransmission false "C-987654321" "123456789" 2))) :=
  pruned_exactly ⟨_, .step (.step (.step (.step (.start rfl) rfl) rfl) rfl) rfl⟩ _

end CrossDesk
