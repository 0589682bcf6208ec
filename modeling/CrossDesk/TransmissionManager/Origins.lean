import CrossDesk.TransmissionManager.Operations

/-!
# Where entries come from

Some entries of the maps are made by one operation only: a grant by the admission of a connection, the
verified device of a connection by the binding of the connection. All other operations keep such
entries or take them away, however many rooms, guests and handles they go through
(`Operation.keeps_or_drops`). So an entry that is there after a call was there before, or the call
made it (`Operation.grant_of_apply`, `Operation.verified_of_apply`).
-/

namespace CrossDesk

open Logged

variable {α : Type}

/-- An entry of the maps that releases, the end of a binding, activity and new rooms keep or take
away. -/
structure Droppable (read : Routing → Option α) : Prop where
  released : ∀ {r r' : Routing} {notes : List Notification}, Releases r notes r' →
    ∀ a, read r' = some a → read r = some a
  unbound : ∀ (h : ConnectionHdl) (r : Routing) (a : α),
    read (r.releaseUserFromWsHandle h).2 = some a → read r = some a
  activity : ∀ (r : Routing) (times : OrdMap ConnectionHdl TimePoint),
    read { r with wsHdlLastActiveTimeMap := times } = read r
  hosts : ∀ (r : Routing) (hosts : OrdMap String String),
    read { r with transmissionHostIdList := hosts } = read r

/-- The entry is kept or dropped. -/
def KeepsOrDrops (read : Routing → Option α) (r : Routing) (_ : List Notification) (r' : Routing) :
    Prop := ∀ a, read r' = some a → read r = some a

theorem composes_keepsOrDrops (read : Routing → Option α) : Composes (KeepsOrDrops read) where
  refl := fun _ _ h => h
  trans := fun h h' a ha => h a (h' a ha)

theorem KeepsOrDrops.of_eq {read : Routing → Option α} {r r' : Routing} {notes : List Notification}
    (h : read r' = read r) : KeepsOrDrops read r notes r' := by
  intro a ha
  rwa [h] at ha

namespace Droppable

variable {read : Routing → Option α} (hread : Droppable read)
include hread

theorem unbind (hdl : ConnectionHdl) : Follows (KeepsOrDrops read) (Mutation.unbind hdl) :=
  fun r a ha => hread.unbound hdl r a ha

theorem releaseSession (hdl : ConnectionHdl) :
    Follows (KeepsOrDrops read) (Mutation.releaseSession hdl) := by
  refine (hread.unbind hdl).bind (composes_keepsOrDrops read) fun userId r => ?_
  exact hread.released (Mutation.releaseMemberships_releases userId hdl r)

theorem expireSessions (expired : ConnectionHdl → Bool) (now : TimePoint) :
    Follows (KeepsOrDrops read) (Mutation.expireSessions expired now) := by
  intro r
  refine Follows.each (composes_keepsOrDrops read) ?_ r.wsHdlLastActiveTimeMap.toList () r
  intro entry _
  split
  · have hforget : Follows (KeepsOrDrops read) (update (Routing.withoutActivity entry.1) ()) :=
      fun r => .of_eq (hread.activity r _)
    have hnotify : ∀ userId, Follows (KeepsOrDrops read)
        (emit [Notification.sessionTimeout entry.1 userId] ()) := fun _ _ _ h => h
    refine hforget.bind (composes_keepsOrDrops read) fun _ => ?_
    exact (hread.releaseSession entry.1).bind (composes_keepsOrDrops read) hnotify
  · exact follows_done (composes_keepsOrDrops read) ()

theorem updateActivity (now : TimePoint) (hdl : ConnectionHdl) (r : Routing) :
    read (r.updateWsHandleLastActiveTime now hdl).2 = read r := by
  unfold Routing.updateWsHandleLastActiveTime
  split
  · exact hread.activity r _
  · rfl

theorem bindHost (hostId transmissionId : String) (r : Routing) :
    read (r.bindHostToTransmission hostId transmissionId).2 = read r := by
  unfold Routing.bindHostToTransmission
  split
  · rfl
  · split
    · rfl
    · exact hread.hosts r _

end Droppable

namespace Operation

open TransmissionManager

/-- The operations that bind a connection or add a guest. -/
def binds : Operation → Bool
  | bindUserToWsHandle .. | bindGuestToTransmission .. | bindGuestHandleToTransmission .. => true
  | _ => false

/-- **What does not bind keeps entries or drops them.** -/
theorem keeps_or_drops {read : Routing → Option α} (hread : Droppable read) {op : Operation}
    (hop : op.binds = false) (s : TransmissionManager) {a : α}
    (ha : read (op.apply s).toRouting = some a) : read s.toRouting = some a := by
  cases op with
  | setRemoteControlSessionCallback => exact ha
  | setSessionTimeoutCallback => exact ha
  | bindUserToWsHandle => cases hop
  | bindHostToTransmission host t => rwa [← hread.bindHost host t]
  | bindGuestToTransmission => cases hop
  | bindGuestHandleToTransmission => cases hop
  | releaseGuestFromTransmissions g =>
    rw [apply, (does_releaseGuestFromTransmissions g).maps] at ha
    exact hread.released (Mutation.releaseGuestEverywhere_releases g _) a ha
  | releaseGuestFromTransmission g t =>
    rw [apply, (does_releaseGuestFromTransmission g t).maps] at ha
    exact hread.released (Mutation.releaseGuest_releases g t _) a ha
  | releaseTransmission t =>
    rw [apply, (does_releaseTransmission t).maps] at ha
    exact hread.released (Mutation.releaseRoom_releases t _) a ha
  | disconnectTransmission t =>
    rw [apply, (does_disconnectTransmission t).maps] at ha
    exact hread.released (Mutation.disconnectRoom_releases t _) a ha
  | releaseUserSession k =>
    rw [apply, (does_releaseUserSession k).maps] at ha
    exact hread.releaseSession k _ a ha
  | pruneDisconnectedTransmissions expired =>
    rw [apply, (does_pruneDisconnectedTransmissions expired).maps] at ha
    exact hread.released (Mutation.prune_releases expired _) a ha
  | removeWsHandleLastActiveTime k => rwa [← hread.activity s.toRouting]
  | updateWsHandleLastActiveTime now k => rwa [← hread.updateActivity now k]
  | expireInactiveSessions expired now =>
    rw [apply, (does_expireInactiveSessions expired now).maps] at ha
    exact hread.expireSessions expired now _ a ha

/-! ## Grants -/

theorem droppable_grantOf (tx g : String) : Droppable (Routing.grantOf tx g) where
  released := fun h a => (Releases.trimmed h).grant tx g a
  unbound := by
    intro h r a ha
    rwa [(Routing.releaseUserFromWsHandle_spec h r).2.2.grantOf] at ha
  activity := fun _ _ => rfl
  hosts := fun _ _ => rfl

/-- **A grant is new only where its connection was admitted.** -/
theorem grant_of_apply {s : TransmissionManager} {op : Operation} {tx g : String}
    {h : ConnectionHdl} (hgrant : (op.apply s).grantOf tx g = some h) :
    s.grantOf tx g = some h ∨ ∃ expired, op = .bindGuestHandleToTransmission expired g tx h := by
  cases hbinds : op.binds with
  | false => exact .inl (keeps_or_drops (droppable_grantOf tx g) hbinds s hgrant)
  | true =>
    cases op with
    | bindUserToWsHandle expired now u k d =>
      rw [← (Routing.bindUserToWsHandle_sameRooms expired now u k d s.toRouting).grantOf]
      exact .inl hgrant
    | bindGuestToTransmission g' t =>
      refine .inl ?_
      rw [apply, (does_bindGuestToTransmission g' t).maps] at hgrant
      rcases Mutation.bindGuest_cases g' t s.toRouting with hno | ⟨host, -, -, -, -, -, hyes⟩
      · rwa [hno] at hgrant
      · rw [hyes] at hgrant
        exact hgrant
    | bindGuestHandleToTransmission expired g' t k =>
      rw [apply, (does_bindGuestHandleToTransmission expired g' t k).maps] at hgrant
      -- the grant that was made, or one of another guest or room
      have hsplit : ∀ r : Routing, r.grantOf tx g = s.grantOf tx g →
          (r.withGrant g' t k).grantOf tx g = some h →
          s.grantOf tx g = some h ∨
            ∃ expired', Operation.bindGuestHandleToTransmission expired g' t k =
              .bindGuestHandleToTransmission expired' g tx h := by
        intro r hsame hgranted
        rw [Routing.grantOf_withGrant] at hgranted
        split at hgranted
        · next hhere =>
          obtain ⟨rfl, rfl⟩ := hhere
          cases hgranted
          exact .inr ⟨expired, rfl⟩
        · exact .inl (hsame ▸ hgranted)
      rcases Mutation.bindGuestHandle_cases expired g' t k s.toRouting with
        hno | ⟨-, ⟨-, hmoved⟩ | ⟨host, -, -, -, -, hadded⟩⟩
      · rw [hno] at hgrant
        exact .inl hgrant
      · rw [hmoved] at hgrant
        exact hsplit s.toRouting rfl hgrant
      · rw [hadded] at hgrant
        exact hsplit (s.toRouting.withGuest g' t) rfl hgrant
    | _ => cases hbinds

/-! ## Verified devices -/

theorem droppable_verified (h : ConnectionHdl) :
    Droppable (fun r : Routing => r.wsHdlVerifiedDeviceIds[h]?) where
  released := by
    intro r r' notes hreleases d hd
    rwa [(Releases.trimmed hreleases).verified] at hd
  unbound := by
    intro k r d hd
    have herased : (r.releaseUserFromWsHandle k).2.wsHdlVerifiedDeviceIds =
        r.wsHdlVerifiedDeviceIds.erase k := by
      unfold Routing.releaseUserFromWsHandle
      dsimp only
      split
      · rfl
      · split
        · split <;> rfl
        · rfl
    rw [herased, Std.ExtTreeMap.getElem?_erase] at hd
    split at hd
    · cases hd
    · exact hd
  activity := fun _ _ => rfl
  hosts := fun _ _ => rfl

/-- What `BindUserToWsHandle` notes of the device that was verified. -/
theorem bindUserToWsHandle_verified {expired : Bool} {now : TimePoint} {u d d' : String}
    {h k : ConnectionHdl} {r : Routing}
    (hd : (r.bindUserToWsHandle expired now u k d).2.wsHdlVerifiedDeviceIds[h]? = some d') :
    r.wsHdlVerifiedDeviceIds[h]? = some d' ∨ k = h ∧ d = d' ∧ d ≠ "" := by
  unfold Routing.bindUserToWsHandle at hd
  split at hd
  · exact .inl hd
  · split at hd
    · exact .inl hd
    · dsimp only at hd
      rw [show ∀ r : Routing, (r.updateWsHandleLastActiveTime now k).2.wsHdlVerifiedDeviceIds[h]? =
        r.wsHdlVerifiedDeviceIds[h]? from (droppable_verified h).updateActivity now k] at hd
      split at hd
      · exact .inl hd
      · next hnamed =>
        rw [Std.ExtTreeMap.getElem?_insert] at hd
        split at hd
        · next hsame => exact .inr ⟨Std.LawfulEqOrd.eq_of_compare hsame, Option.some.inj hd, hnamed⟩
        · exact .inl hd

/-- **A connection has a verified device only through its binding.** -/
theorem verified_of_apply {s : TransmissionManager} {op : Operation} {h : ConnectionHdl} {d : String}
    (hd : (op.apply s).wsHdlVerifiedDeviceIds[h]? = some d) :
    s.wsHdlVerifiedDeviceIds[h]? = some d ∨
      d ≠ "" ∧ ∃ expired now u, op = .bindUserToWsHandle expired now u h d := by
  cases hbinds : op.binds with
  | false => exact .inl (keeps_or_drops (droppable_verified h) hbinds s hd)
  | true =>
    cases op with
    | bindUserToWsHandle expired now u k d' =>
      rcases bindUserToWsHandle_verified hd with hold | ⟨rfl, rfl, hnamed⟩
      · exact .inl hold
      · exact .inr ⟨hnamed, expired, now, u, rfl⟩
    | bindGuestToTransmission g' t =>
      refine .inl ?_
      rw [apply, (does_bindGuestToTransmission g' t).maps] at hd
      rcases Mutation.bindGuest_cases g' t s.toRouting with hno | ⟨host, -, -, -, -, -, hyes⟩
      · rwa [hno] at hd
      · rw [hyes] at hd
        exact hd
    | bindGuestHandleToTransmission expired g' t k =>
      refine .inl ?_
      rw [apply, (does_bindGuestHandleToTransmission expired g' t k).maps] at hd
      rcases Mutation.bindGuestHandle_cases expired g' t k s.toRouting with
        hno | ⟨-, ⟨-, hmoved⟩ | ⟨host, -, -, -, -, hadded⟩⟩
      · rwa [hno] at hd
      · rw [hmoved] at hd
        exact hd
      · rw [hadded] at hd
        exact hd
    | _ => cases hbinds

end Operation

end CrossDesk
