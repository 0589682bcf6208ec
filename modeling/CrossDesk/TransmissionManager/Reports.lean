import CrossDesk.TransmissionManager.Operations

/-!
# What is reported of memberships

Outside a lock, with the callback of the server installed and nothing collected (`Idle`), a call hands
over exactly the notifications of its mutation. `Reported` is what they say: no membership ends without
one, and one that starts is there afterwards, of a guest that is connected. It is proved once for
releases, whatever they release, and once for each way of joining.
-/

namespace CrossDesk

open Logged

/-- Between two calls: nothing is collected, and the server hears of the memberships. -/
structure TransmissionManager.Idle (m : TransmissionManager) : Prop where
  unlocked : m.lockDepth = 0
  installed : m.remoteControlSessionCallback = true
  nothing : m.pendingNotifications = []

/-- The notification is about a membership. -/
def Notification.isRemoteControl : Notification → Bool
  | remoteControl .. => true
  | sessionTimeout .. => false

/-- The notifications of a change of the maps. -/
structure Reported (r : Routing) (notes : List Notification) (r' : Routing) : Prop where
  about : ∀ note ∈ notes, note.isRemoteControl = true
  hosts : ∀ tx host : String, r'.transmissionHostIdList[tx]? = some host →
    r.transmissionHostIdList[tx]? = some host ∨ isTemporaryControllerId host = false
  ended : ∀ tx g : String, g ∈ r.guestsOf tx → g ∉ r'.guestsOf tx →
    ∃ host : String, .remoteControl tx host g false ∈ notes
  started : ∀ tx host g : String, .remoteControl tx host g true ∈ notes →
    r.transmissionHostIdList[tx]? = some host ∧ g ∈ r'.guestsOf tx ∧ r'.hasUserConnection g = true

theorem Reported.refl (r : Routing) : Reported r [] r :=
  ⟨fun _ h => (List.not_mem_nil h).elim, fun _ _ h => .inl h, fun _ _ h h' => (h' h).elim,
    fun _ _ _ h => (List.not_mem_nil h).elim⟩

/-! ## Releases -/

/-- What releases say: that memberships ended. -/
structure Closes (r : Routing) (notes : List Notification) (r' : Routing) : Prop where
  ends : ∀ note ∈ notes, ∃ tx host g : String, note = .remoteControl tx host g false
  complete : ∀ tx g : String, g ∈ r.guestsOf tx → g ∉ r'.guestsOf tx →
    ∃ host : String, .remoteControl tx host g false ∈ notes

theorem composes_closes : Composes Closes where
  refl := fun _ => ⟨fun _ h => (List.not_mem_nil h).elim, fun _ _ h h' => (h' h).elim⟩
  trans := by
    intro r notes r' notes' r'' h h'
    refine ⟨fun note hnote => ?_, fun tx g hg hgone => ?_⟩
    · rcases List.mem_append.mp hnote with hnote | hnote
      · exact h.ends note hnote
      · exact h'.ends note hnote
    · by_cases hmid : g ∈ r'.guestsOf tx
      · obtain ⟨host, hnote⟩ := h'.complete tx g hmid hgone
        exact ⟨host, List.mem_append_right _ hnote⟩
      · obtain ⟨host, hnote⟩ := h.complete tx g hg hmid
        exact ⟨host, List.mem_append_left _ hnote⟩

theorem Release.closes {r r' : Routing} {notes : List Notification} (h : Release r notes r') :
    Closes r notes r' := by
  cases h with
  | room tx =>
    refine ⟨fun note hnote => ?_, fun t g hg hgone => ?_⟩
    · obtain ⟨g, -, rfl⟩ := List.mem_map.mp hnote
      exact ⟨tx, _, g, rfl⟩
    · rw [Routing.guestsOf_withoutRoom] at hgone
      split at hgone
      · next htx =>
        subst htx
        exact ⟨_, List.mem_map.mpr ⟨g, hg, rfl⟩⟩
      · exact (hgone hg).elim
  | guest g tx =>
    refine ⟨fun note hnote => ?_, fun t g' hg hgone => ?_⟩
    · exact ⟨tx, _, g, List.mem_singleton.mp hnote⟩
    · rw [Routing.guestsOf_withoutGuest] at hgone
      split at hgone
      · next htx =>
        subst htx
        have hsame : g' = g := by
          by_contra hother
          exact hgone (List.mem_filter.mpr ⟨hg, decide_eq_true hother⟩)
        subst hsame
        exact ⟨_, List.mem_singleton_self _⟩
      · exact (hgone hg).elim

/-- Whatever is released is reported. -/
theorem Releases.reported {r r' : Routing} {notes : List Notification} (h : Releases r notes r') :
    Reported r notes r' := by
  have hcloses : Closes r notes r' := Generated.lift composes_closes (fun _ _ _ hprim => hprim.closes) h
  refine ⟨fun note hnote => ?_, fun tx host hhost => .inl (h.trimmed.host tx host hhost),
    hcloses.complete, fun tx host g hnote => ?_⟩
  · obtain ⟨tx, host, g, rfl⟩ := hcloses.ends note hnote
    rfl
  · obtain ⟨_, _, _, hended⟩ := hcloses.ends _ hnote
    cases hended

/-! ## Joining -/

theorem Mutation.bindGuestHandle_reported (expired : Bool) (guestId transmissionId : String)
    (hdl : ConnectionHdl) (r : Routing) :
    Reported r (bindGuestHandle expired guestId transmissionId hdl r).events
        (bindGuestHandle expired guestId transmissionId hdl r).state ∧
      (bindGuestHandle expired guestId transmissionId hdl r).state.wsHdlUserIdList =
        r.wsHdlUserIdList := by
  rcases bindGuestHandle_cases expired guestId transmissionId hdl r with
    hno | ⟨hadmitted, ⟨-, hyes⟩ | ⟨hostId, hhost, -, -, -, hyes⟩⟩
  · rw [hno]
    exact ⟨.refl r, rfl⟩
  · rw [hyes]
    refine ⟨⟨fun _ h => (List.not_mem_nil h).elim, fun _ _ h => .inl h, fun _ _ h h' => ?_,
      fun _ _ _ h => (List.not_mem_nil h).elim⟩, rfl⟩
    exact (h' h).elim
  · rw [hyes]
    refine ⟨⟨fun note hnote => ?_, fun _ _ h => .inl h, fun tx g hg hgone => ?_,
      fun tx host g hnote => ?_⟩, rfl⟩
    · rw [List.mem_singleton.mp hnote]
      rfl
    · have hkept : g ∈ (r.withGuest guestId transmissionId).guestsOf tx := by
        rw [Routing.guestsOf_withGuest]
        split
        · next htx =>
          subst htx
          exact List.mem_append_left _ hg
        · exact hg
      exact (hgone hkept).elim
    · cases List.mem_singleton.mp hnote
      refine ⟨hhost, ?_, OrdMap.hasValue_iff.mpr ⟨hdl, hadmitted.bound⟩⟩
      show guestId ∈ (r.withGuest guestId transmissionId).guestsOf transmissionId
      simp

/-- Hosting is not a membership. -/
theorem Routing.bindHostToTransmission_reported (hostId transmissionId : String) (r : Routing) :
    Reported r [] (r.bindHostToTransmission hostId transmissionId).2 ∧
      (r.bindHostToTransmission hostId transmissionId).2.wsHdlUserIdList = r.wsHdlUserIdList := by
  unfold bindHostToTransmission
  split
  · exact ⟨.refl r, rfl⟩
  · next hdevice =>
    split
    · exact ⟨.refl r, rfl⟩
    · rw [Bool.or_eq_true, not_or, Bool.not_eq_true] at hdevice
      refine ⟨⟨fun _ h => (List.not_mem_nil h).elim, fun tx host hhost => ?_,
        fun _ _ h h' => (h' h).elim, fun _ _ _ h => (List.not_mem_nil h).elim⟩, rfl⟩
      have hstored : (r.transmissionHostIdList.insert transmissionId hostId)[tx]? = some host := hhost
      rw [Std.ExtTreeMap.getElem?_insert] at hstored
      split at hstored
      · cases hstored
        exact .inr hdevice.1
      · exact .inl hstored

/-! ## Leaving -/

/-- The end of a session releases memberships of what is left when its handle is unbound. -/
theorem Mutation.releaseSession_reported (hdl : ConnectionHdl) (r : Routing) :
    Reported r (releaseSession hdl r).events (releaseSession hdl r).state ∧
      (releaseSession hdl r).state.wsHdlUserIdList = r.wsHdlUserIdList.erase hdl := by
  obtain ⟨-, hbindings, hrooms⟩ := Routing.releaseUserFromWsHandle_spec hdl r
  have hreleases := releaseMemberships_releases (r.releaseUserFromWsHandle hdl).1 hdl
    (r.releaseUserFromWsHandle hdl).2
  have hreported := hreleases.reported
  refine ⟨⟨hreported.about, fun tx host hhost => ?_, fun tx g hg hgone => ?_,
    fun tx host g hnote => ?_⟩, hreleases.trimmed.bindings.trans hbindings⟩
  · rw [← hrooms.hosts]
    exact hreported.hosts tx host hhost
  · rw [← hrooms.guestsOf] at hg
    exact hreported.ended tx g hg hgone
  · rw [← hrooms.hosts]
    exact hreported.started tx host g hnote

/-! ## Calls -/

namespace TransmissionManager

variable {α : Type} {m : TransmissionManager}

@[simp] theorem after_toRouting (m : TransmissionManager) (maps : Routing)
    (notes : List Notification) : (m.after maps notes).toRouting = maps := by
  unfold TransmissionManager.after
  split <;> rfl

theorem Idle.after (h : m.Idle) (maps : Routing) (notes : List Notification) :
    (m.after maps notes).Idle := by
  unfold TransmissionManager.after
  rw [if_neg (not_not.mpr h.unlocked)]
  exact ⟨h.unlocked, h.installed, rfl⟩

/-- Without notifications only the maps change. -/
theorem Idle.after_nil (h : m.Idle) (maps : Routing) :
    m.after maps [] = { m with toRouting := maps } := by
  unfold TransmissionManager.after
  rw [if_neg (not_not.mpr h.unlocked), h.nothing]
  simp

/-- Everything that is about memberships is heard. -/
theorem Idle.heard (h : m.Idle) {notes : List Notification}
    (hnotes : ∀ note ∈ notes, note.isRemoteControl = true) : m.heard notes = notes := by
  unfold TransmissionManager.heard
  rw [List.filter_eq_self]
  intro note hnote
  cases note with
  | remoteControl => exact h.installed
  | sessionTimeout => cases hnotes _ hnote

/-- What an idle manager calls back. -/
theorem Idle.delivered (h : m.Idle) {maps : Routing} {notes : List Notification}
    (hnotes : ∀ note ∈ notes, note.isRemoteControl = true) :
    ((m.after maps notes).delivered.drop m.delivered.length).map Prod.fst = notes := by
  unfold TransmissionManager.after
  rw [if_neg (not_not.mpr h.unlocked)]
  dsimp only
  rw [List.drop_left, h.nothing, List.nil_append, h.heard hnotes, List.map_map]
  exact List.map_id' notes

end TransmissionManager

end CrossDesk
