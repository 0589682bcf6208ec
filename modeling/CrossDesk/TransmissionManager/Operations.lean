import CrossDesk.TransmissionManager.Coherence

/-!
# Runs of the transmission manager

The public operations in any order, from an empty manager. What `hdl.expired()` answers inside an
operation is part of the label, so handles may expire at any moment, also between two tests of one
operation.

Every operation is either a function of the maps or performs a mutation, so its effect on the maps
does not depend on the lock (`maps_apply`); coherence then holds after every run
(`routing_coherent`).
-/

namespace CrossDesk

open TransmissionManager

/-- A call of a public operation, with the answers of the environment. -/
inductive Operation where
  | setRemoteControlSessionCallback
  | setSessionTimeoutCallback
  | bindUserToWsHandle (expired : Bool) (now : TimePoint) (userId : String) (hdl : ConnectionHdl)
      (verifiedDeviceId : String)
  | bindHostToTransmission (hostId transmissionId : String)
  | bindGuestToTransmission (guestId transmissionId : String)
  | bindGuestHandleToTransmission (expired : Bool) (guestId transmissionId : String)
      (hdl : ConnectionHdl)
  | releaseGuestFromTransmissions (guestId : String)
  | releaseGuestFromTransmission (guestId transmissionId : String)
  | releaseTransmission (transmissionId : String)
  | disconnectTransmission (transmissionId : String)
  | releaseUserSession (hdl : ConnectionHdl)
  | pruneDisconnectedTransmissions (expired : String → String → Bool)
  | removeWsHandleLastActiveTime (hdl : ConnectionHdl)
  | updateWsHandleLastActiveTime (now : TimePoint) (hdl : ConnectionHdl)
  | expireInactiveSessions (expired : ConnectionHdl → Bool) (now : TimePoint)

namespace Operation

/-- The manager after the call. -/
def apply (s : TransmissionManager) : Operation → TransmissionManager
  | setRemoteControlSessionCallback => s.setRemoteControlSessionCallback
  | setSessionTimeoutCallback => s.setSessionTimeoutCallback
  | bindUserToWsHandle expired now userId hdl verifiedDeviceId =>
    (TransmissionManager.bindUserToWsHandle expired now userId hdl verifiedDeviceId s).2
  | bindHostToTransmission hostId transmissionId =>
    (TransmissionManager.bindHostToTransmission hostId transmissionId s).2
  | bindGuestToTransmission guestId transmissionId =>
    (TransmissionManager.bindGuestToTransmission guestId transmissionId s).2
  | bindGuestHandleToTransmission expired guestId transmissionId hdl =>
    (TransmissionManager.bindGuestHandleToTransmission expired guestId transmissionId hdl s).2
  | releaseGuestFromTransmissions guestId =>
    (TransmissionManager.releaseGuestFromTransmissions guestId s).2
  | releaseGuestFromTransmission guestId transmissionId =>
    (TransmissionManager.releaseGuestFromTransmission guestId transmissionId s).2
  | releaseTransmission transmissionId =>
    (TransmissionManager.releaseTransmission transmissionId s).2
  | disconnectTransmission transmissionId =>
    (TransmissionManager.disconnectTransmission transmissionId s).2
  | releaseUserSession hdl => (TransmissionManager.releaseUserSession hdl s).2
  | pruneDisconnectedTransmissions expired =>
    (TransmissionManager.pruneDisconnectedTransmissions expired s).2
  | removeWsHandleLastActiveTime hdl =>
    (TransmissionManager.removeWsHandleLastActiveTime hdl s).2
  | updateWsHandleLastActiveTime now hdl =>
    (TransmissionManager.updateWsHandleLastActiveTime now hdl s).2
  | expireInactiveSessions expired now =>
    (TransmissionManager.expireInactiveSessions expired now s).2

/-- The manager under any sequence of calls. -/
def system : System TransmissionManager Operation where
  start s := s = {}
  step s op s' := s' = op.apply s

theorem reachable_apply {s : TransmissionManager} (hs : system.Reachable s) (op : Operation) :
    system.Reachable (op.apply s) :=
  hs.step rfl

end Operation

/-- The maps an operation leaves do not depend on the lock. -/
theorem TransmissionManager.Does.maps {α : Type} {op : TransmissionManager → α × TransmissionManager}
    {m : Mutation α} (h : Does op m) (s : TransmissionManager) :
    (op s).2.toRouting = (m s.toRouting).state := by
  rw [h s, after]
  split <;> rfl

/-- Every call keeps coherence. -/
theorem Coherent.apply {s : TransmissionManager} (hs : Coherent s.toRouting) (op : Operation) :
    Coherent (op.apply s).toRouting := by
  cases op with
  | setRemoteControlSessionCallback => exact hs
  | setSessionTimeoutCallback => exact hs
  | bindUserToWsHandle expired now u h d => exact hs.bindUser expired now u h d
  | bindHostToTransmission host tx => exact hs.bindHost host tx
  | bindGuestToTransmission g tx =>
    rw [Operation.apply, (does_bindGuestToTransmission g tx).maps]
    exact hs.bindGuest g tx
  | bindGuestHandleToTransmission expired g tx h =>
    rw [Operation.apply, (does_bindGuestHandleToTransmission expired g tx h).maps]
    exact hs.bindGuestHandle expired g tx h
  | releaseGuestFromTransmissions g =>
    rw [Operation.apply, (does_releaseGuestFromTransmissions g).maps]
    exact hs.releases (Mutation.releaseGuestEverywhere_releases g _)
  | releaseGuestFromTransmission g tx =>
    rw [Operation.apply, (does_releaseGuestFromTransmission g tx).maps]
    exact hs.releases (Mutation.releaseGuest_releases g tx _)
  | releaseTransmission tx =>
    rw [Operation.apply, (does_releaseTransmission tx).maps]
    exact hs.releases (Mutation.releaseRoom_releases tx _)
  | disconnectTransmission tx =>
    rw [Operation.apply, (does_disconnectTransmission tx).maps]
    exact hs.releases (Mutation.disconnectRoom_releases tx _)
  | releaseUserSession h =>
    rw [Operation.apply, (does_releaseUserSession h).maps]
    exact hs.releaseSession h
  | pruneDisconnectedTransmissions expired =>
    rw [Operation.apply, (does_pruneDisconnectedTransmissions expired).maps]
    exact hs.releases (Mutation.prune_releases expired _)
  | removeWsHandleLastActiveTime h => exact hs.withoutActivity h
  | updateWsHandleLastActiveTime now h => exact hs.updateActivity now h
  | expireInactiveSessions expired now =>
    rw [Operation.apply, (does_expireInactiveSessions expired now).maps]
    exact Coherent.expireSessions expired now s.toRouting hs

/-- Nothing is recorded in empty maps, so they are coherent. -/
theorem Coherent.empty : Coherent {} := by
  refine ⟨⟨?_, ?_, ?_, ?_, ?_, ?_, ?_, ?_, ?_⟩, ?_⟩ <;>
  · intros
    simp_all [Routing.grantOf]

/-- **The routing tables stay coherent** in every state that any sequence of operations reaches from
an empty manager. -/
theorem routing_coherent {s : TransmissionManager} (h : Operation.system.Reachable s) :
    Coherent s.toRouting := by
  refine h.invariant (I := fun s => Coherent s.toRouting) (fun s hs => ?_)
    (fun s op s' hs hstep => ?_)
  · rw [show s = {} from hs]
    exact Coherent.empty
  · rw [show s' = op.apply s from hstep]
    exact hs.apply op

/-- A room with an admitted guest is reached and coherent. -/
theorem routing_coherent_joined :
    Coherent (Operation.apply (Operation.apply (Operation.apply (Operation.apply {}
      (.bindUserToWsHandle false 0 "123456789" 1 ""))
      (.bindHostToTransmission "123456789" "123456789"))
      (.bindUserToWsHandle false 0 "C-987654321" 2 ""))
      (.bindGuestHandleToTransmission false "C-987654321" "123456789" 2)).toRouting :=
  routing_coherent ⟨_, .step (.step (.step (.step (.start rfl) rfl) rfl) rfl) rfl⟩

end CrossDesk
