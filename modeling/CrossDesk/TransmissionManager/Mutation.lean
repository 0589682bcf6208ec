import CrossDesk.Lib.Logged
import CrossDesk.TransmissionManager.Basic

/-!
# What an operation does, apart from the lock

Each operation that opens a `StateLock` is, seen from outside, a change of the seven maps together
with the notifications it collects: a `Mutation`. This module states that change for every
operation and proves that the operation performs it (`Does`), whatever the lock depth it is called
at. The lock is dealt with once, in `does_stateLock`:

* called at depth zero, the operation hands over everything collected, in order, after the mutex is
  released;
* called inside another scope, it only appends to what that scope will hand over.

Everything later is proved about the mutations.
-/

namespace CrossDesk

open Logged

/-- A change of the maps with the notifications it collects. -/
abbrev Mutation (α : Type) := Logged Routing Notification α

namespace Routing

/-! ## Changes of the maps -/

/-- The maps without a room. -/
def withoutRoom (transmissionId : String) (r : Routing) : Routing :=
  { r with
    transmissionHostIdList := r.transmissionHostIdList.erase transmissionId
    transmissionGuestIdList := r.transmissionGuestIdList.erase transmissionId
    transmissionGuestHandles := r.transmissionGuestHandles.erase transmissionId }

/-- The maps without a guest of a room: the guest list and the grants of a room disappear with their
last entry. -/
def withoutGuest (guestId transmissionId : String) (r : Routing) : Routing :=
  let guests := (r.guestsOf transmissionId).filter (· ≠ guestId)
  let handles := ((r.transmissionGuestHandles[transmissionId]?).getD ∅).erase guestId
  { r with
    transmissionGuestIdList :=
      if guests.isEmpty then r.transmissionGuestIdList.erase transmissionId
      else r.transmissionGuestIdList.insert transmissionId guests
    transmissionGuestHandles :=
      if handles.isEmpty then r.transmissionGuestHandles.erase transmissionId
      else r.transmissionGuestHandles.insert transmissionId handles }

/-- The maps with one more guest in a room. -/
def withGuest (guestId transmissionId : String) (r : Routing) : Routing :=
  { r with
    transmissionGuestIdList :=
      r.transmissionGuestIdList.insert transmissionId (r.guestsOf transmissionId ++ [guestId]) }

/-- The maps with a guest of a room admitted through `hdl`. -/
def withGrant (guestId transmissionId : String) (hdl : ConnectionHdl) (r : Routing) : Routing :=
  { r with
    transmissionGuestHandles :=
      r.transmissionGuestHandles.insert transmissionId
        (((r.transmissionGuestHandles[transmissionId]?).getD ∅).insert guestId hdl) }

/-- The maps without the activity time of a handle. -/
def withoutActivity (hdl : ConnectionHdl) (r : Routing) : Routing :=
  { r with wsHdlLastActiveTimeMap := r.wsHdlLastActiveTimeMap.erase hdl }

/-- The notification that a membership ends. -/
def ended (transmissionId guestId : String) (r : Routing) : Notification :=
  .remoteControl transmissionId (r.getHostIdOfTransmission transmissionId) guestId false

/-- The guest is connected for the room: through its granted handle while that lives and is bound to
it, or, without a grant, through any handle. -/
def connectedGuest (expired : String → String → Bool) (transmissionId guestId : String)
    (r : Routing) : Bool :=
  match r.grantOf transmissionId guestId with
  | some h => !expired transmissionId guestId && r.getUserId h == guestId
  | none => r.hasUserConnection guestId

/-! ## What the queries read after a change -/

@[simp, grind =] theorem guestsOf_withoutRoom (tx : String) (r : Routing) (t : String) :
    (r.withoutRoom tx).guestsOf t = if t = tx then [] else r.guestsOf t := by
  unfold guestsOf withoutRoom
  grind

@[simp, grind =] theorem grantOf_withoutRoom (tx : String) (r : Routing) (t g : String) :
    (r.withoutRoom tx).grantOf t g = if t = tx then none else r.grantOf t g := by
  unfold grantOf withoutRoom
  grind

/-- The stored guest list after releasing a guest; it is never stored empty. -/
theorem guestList_withoutGuest (g tx : String) (r : Routing) (t : String) :
    (r.withoutGuest g tx).transmissionGuestIdList[t]? =
      if t = tx then
        if ((r.guestsOf tx).filter (· ≠ g)).isEmpty then none
        else some ((r.guestsOf tx).filter (· ≠ g))
      else r.transmissionGuestIdList[t]? := by
  unfold withoutGuest
  grind

@[simp, grind =] theorem guestsOf_withoutGuest (g tx : String) (r : Routing) (t : String) :
    (r.withoutGuest g tx).guestsOf t =
      if t = tx then (r.guestsOf tx).filter (· ≠ g) else r.guestsOf t := by
  show ((r.withoutGuest g tx).transmissionGuestIdList[t]?).getD [] = _
  rw [guestList_withoutGuest]
  by_cases hempty : ((r.guestsOf tx).filter (· ≠ g)).isEmpty = true
  · rw [if_pos hempty, List.isEmpty_iff.mp hempty]
    split <;> rfl
  · rw [if_neg hempty]
    split <;> rfl

/-- Releasing a guest takes away its grant of the room and no other grant. -/
@[simp, grind =] theorem grantOf_withoutGuest (g tx : String) (r : Routing) (t g' : String) :
    (r.withoutGuest g tx).grantOf t g' = if t = tx ∧ g' = g then none else r.grantOf t g' := by
  simp only [grantOf, withoutGuest]
  by_cases ht : t = tx
  · subst ht
    cases hhandles : r.transmissionGuestHandles[t]? with
    | none => grind
    | some handles =>
      have herased : (handles.erase g)[g']? = if g' = g then none else handles[g']? := by grind
      by_cases hempty : (handles.erase g).isEmpty = true
      · have hnone : (handles.erase g)[g']? = none := OrdMap.getElem?_of_isEmpty hempty g'
        grind
      · grind
  · grind

@[simp, grind =] theorem guestsOf_withGuest (g tx : String) (r : Routing) (t : String) :
    (r.withGuest g tx).guestsOf t =
      if t = tx then r.guestsOf tx ++ [g] else r.guestsOf t := by
  simp only [guestsOf, withGuest]
  grind

@[simp, grind =] theorem grantOf_withGrant (g tx : String) (h : ConnectionHdl) (r : Routing)
    (t g' : String) :
    (r.withGrant g tx h).grantOf t g' = if t = tx ∧ g' = g then some h else r.grantOf t g' := by
  unfold grantOf withGrant
  grind

/-! ## What the operations on handles do -/

/-- What a change of a handle leaves alone: rooms, memberships and grants. -/
structure SameRooms (r r' : Routing) : Prop where
  hosts : r'.transmissionHostIdList = r.transmissionHostIdList
  guests : r'.transmissionGuestIdList = r.transmissionGuestIdList
  grants : r'.transmissionGuestHandles = r.transmissionGuestHandles

theorem SameRooms.grantOf {r r' : Routing} (h : SameRooms r r') (tx g : String) :
    r'.grantOf tx g = r.grantOf tx g := by
  unfold Routing.grantOf
  rw [h.grants]

theorem SameRooms.guestsOf {r r' : Routing} (h : SameRooms r r') (tx : String) :
    r'.guestsOf tx = r.guestsOf tx := by
  unfold Routing.guestsOf
  rw [h.guests]

/-- A binding that is accepted: the handle was free or had this identity already. -/
structure Bound (u : String) (hdl : ConnectionHdl) (r r' : Routing) : Prop extends
    SameRooms r r' where
  named : u ≠ ""
  free : ∀ u' : String, r.wsHdlUserIdList[hdl]? = some u' → u' = u
  bindings : r'.wsHdlUserIdList = r.wsHdlUserIdList.insert hdl u

theorem updateWsHandleLastActiveTime_sameRooms (now : TimePoint) (hdl : ConnectionHdl)
    (r : Routing) : SameRooms r (r.updateWsHandleLastActiveTime now hdl).2 := by
  unfold updateWsHandleLastActiveTime
  split <;> exact ⟨rfl, rfl, rfl⟩

theorem updateWsHandleLastActiveTime_bindings (now : TimePoint) (hdl : ConnectionHdl)
    (r : Routing) : (r.updateWsHandleLastActiveTime now hdl).2.wsHdlUserIdList =
      r.wsHdlUserIdList := by
  unfold updateWsHandleLastActiveTime
  split <;> rfl

/-- `BindUserToWsHandle` refuses and changes nothing, or binds. -/
theorem bindUserToWsHandle_cases (expired : Bool) (now : TimePoint) (u : String)
    (hdl : ConnectionHdl) (d : String) (r : Routing) :
    r.bindUserToWsHandle expired now u hdl d = (false, r) ∨
      (r.bindUserToWsHandle expired now u hdl d).1 = true ∧ expired = false ∧
        Bound u hdl r (r.bindUserToWsHandle expired now u hdl d).2 := by
  unfold bindUserToWsHandle
  split
  · exact .inl rfl
  split
  · exact .inl rfl
  · rename_i hlive hfree
    refine .inr ⟨rfl, by simpa using fun h => hlive (.inr h), ?_⟩
    have hsame : ∀ u' : String, r.wsHdlUserIdList[hdl]? = some u' → u' = u := by
      intro u' hu'
      simpa [hu'] using hfree
    have hrooms := updateWsHandleLastActiveTime_sameRooms now hdl
    have hbindings := updateWsHandleLastActiveTime_bindings now hdl
    by_cases hd : d = ""
    · simp only [hd, if_true]
      exact ⟨⟨(hrooms _).hosts, (hrooms _).guests, (hrooms _).grants⟩,
        fun hu => hlive (.inl hu), hsame, hbindings _⟩
    · simp only [hd, if_false]
      exact ⟨⟨(hrooms _).hosts, (hrooms _).guests, (hrooms _).grants⟩,
        fun hu => hlive (.inl hu), hsame, hbindings _⟩

theorem bindUserToWsHandle_sameRooms (expired : Bool) (now : TimePoint) (u : String)
    (hdl : ConnectionHdl) (d : String) (r : Routing) :
    SameRooms r (r.bindUserToWsHandle expired now u hdl d).2 := by
  rcases bindUserToWsHandle_cases expired now u hdl d r with hrefused | ⟨_, _, hbound⟩
  · rw [hrefused]
    exact ⟨rfl, rfl, rfl⟩
  · exact hbound.toSameRooms

/-- `ReleaseUserFromWsHandle` returns the identity of the handle, forgets the handle and leaves the
rooms alone. -/
theorem releaseUserFromWsHandle_spec (hdl : ConnectionHdl) (r : Routing) :
    (r.releaseUserFromWsHandle hdl).1 = r.getUserId hdl ∧
      (r.releaseUserFromWsHandle hdl).2.wsHdlUserIdList = r.wsHdlUserIdList.erase hdl ∧
      SameRooms r (r.releaseUserFromWsHandle hdl).2 := by
  unfold releaseUserFromWsHandle Routing.getUserId
  cases hbound : r.wsHdlUserIdList[hdl]? with
  | none =>
    simp only [hbound]
    exact ⟨rfl, (OrdMap.erase_eq_self hbound).symm, ⟨rfl, rfl, rfl⟩⟩
  | some u =>
    simp only [hbound]
    split
    · split <;> exact ⟨rfl, rfl, ⟨rfl, rfl, rfl⟩⟩
    · exact ⟨rfl, rfl, ⟨rfl, rfl, rfl⟩⟩

end Routing

namespace Mutation

/-! ## The operations as mutations -/

def bindGuest (guestId transmissionId : String) : Mutation Bool := fun r =>
  match r.transmissionHostIdList[transmissionId]? with
  | none => ⟨false, r, []⟩
  | some hostId =>
    if guestId = "" ∨ transmissionId = "" ∨ hostId = guestId ∨ guestId ∈ r.guestsOf transmissionId
    then ⟨false, r, []⟩
    else ⟨true, r.withGuest guestId transmissionId,
      [.remoteControl transmissionId hostId guestId true]⟩

/-- Joining fails and changes nothing, or adds the guest and reports the start. -/
theorem bindGuest_cases (guestId transmissionId : String) (r : Routing) :
    bindGuest guestId transmissionId r = ⟨false, r, []⟩ ∨
      ∃ hostId : String, r.transmissionHostIdList[transmissionId]? = some hostId ∧
        guestId ≠ "" ∧ transmissionId ≠ "" ∧ hostId ≠ guestId ∧
        guestId ∉ r.guestsOf transmissionId ∧
        bindGuest guestId transmissionId r = ⟨true, r.withGuest guestId transmissionId,
          [.remoteControl transmissionId hostId guestId true]⟩ := by
  unfold bindGuest
  cases hhost : r.transmissionHostIdList[transmissionId]? with
  | none => exact .inl rfl
  | some hostId =>
    dsimp only
    split
    · exact .inl rfl
    · rename_i hadmitted
      simp only [not_or] at hadmitted
      exact .inr ⟨hostId, rfl, hadmitted.1, hadmitted.2.1, hadmitted.2.2.1, hadmitted.2.2.2, rfl⟩

/-- The conditions under which a connection is not admitted to a room. -/
abbrev AdmissionRefused (expired : Bool) (guestId transmissionId : String) (hdl : ConnectionHdl)
    (r : Routing) : Prop :=
  guestId = "" ∨ expired ∨ r.getUserId hdl ≠ guestId ∨ ¬ r.isTransmissionExist transmissionId ∨
    r.isHostOfTransmission guestId transmissionId

def bindGuestHandle (expired : Bool) (guestId transmissionId : String) (hdl : ConnectionHdl) :
    Mutation Bool := fun r =>
  if AdmissionRefused expired guestId transmissionId hdl r then ⟨false, r, []⟩
  else
    andThen (if guestId ∈ r.guestsOf transmissionId then done true
      else bindGuest guestId transmissionId) (fun bound =>
        if bound then update (Routing.withGrant guestId transmissionId hdl) true
        else done false) r

/-- An admitted connection is bound to the guest, lives, and the room has another host. -/
structure Admitted (expired : Bool) (guestId transmissionId : String) (hdl : ConnectionHdl)
    (r : Routing) : Prop where
  named : guestId ≠ ""
  live : expired = false
  bound : r.wsHdlUserIdList[hdl]? = some guestId
  hosted : r.isTransmissionExist transmissionId = true
  not_host : r.isHostOfTransmission guestId transmissionId = false

theorem admitted_of_not_refused {expired : Bool} {guestId transmissionId : String}
    {hdl : ConnectionHdl} {r : Routing}
    (h : ¬ AdmissionRefused expired guestId transmissionId hdl r) :
    Admitted expired guestId transmissionId hdl r := by
  simp only [AdmissionRefused, not_or, not_not, Bool.not_eq_true] at h
  obtain ⟨hnamed, hlive, hread, hhosted, hnot⟩ := h
  refine ⟨hnamed, hlive, ?_, by simpa using hhosted, hnot⟩
  unfold Routing.getUserId at hread
  cases hbound : r.wsHdlUserIdList[hdl]? with
  | none =>
    have hempty : guestId = "" := by simpa [hbound] using hread.symm
    exact absurd hempty hnamed
  | some u => simpa [hbound] using hread

/-- Admission fails and changes nothing, moves the grant of a guest, or adds the guest with its
grant and reports the start. -/
theorem bindGuestHandle_cases (expired : Bool) (guestId transmissionId : String)
    (hdl : ConnectionHdl) (r : Routing) :
    bindGuestHandle expired guestId transmissionId hdl r = ⟨false, r, []⟩ ∨
      Admitted expired guestId transmissionId hdl r ∧
        (guestId ∈ r.guestsOf transmissionId ∧
            bindGuestHandle expired guestId transmissionId hdl r =
              ⟨true, r.withGrant guestId transmissionId hdl, []⟩ ∨
          ∃ hostId : String, r.transmissionHostIdList[transmissionId]? = some hostId ∧
            transmissionId ≠ "" ∧ hostId ≠ guestId ∧ guestId ∉ r.guestsOf transmissionId ∧
            bindGuestHandle expired guestId transmissionId hdl r =
              ⟨true, (r.withGuest guestId transmissionId).withGrant guestId transmissionId hdl,
                [.remoteControl transmissionId hostId guestId true]⟩) := by
  unfold bindGuestHandle
  by_cases hrefused : AdmissionRefused expired guestId transmissionId hdl r
  · rw [if_pos hrefused]
    exact .inl rfl
  rw [if_neg hrefused]
  have hadmitted := admitted_of_not_refused hrefused
  by_cases hmem : guestId ∈ r.guestsOf transmissionId
  · rw [if_pos hmem]
    exact .inr ⟨hadmitted, .inl ⟨hmem, rfl⟩⟩
  · rw [if_neg hmem]
    rcases bindGuest_cases guestId transmissionId r with hno | ⟨hostId, hhost, _, htx, hne, hnew, hyes⟩
    · left
      simp [Logged.andThen, hno]
    · right
      refine ⟨hadmitted, .inr ⟨hostId, hhost, htx, hne, hnew, ?_⟩⟩
      simp [Logged.andThen, update, hyes]

def releaseRoom (transmissionId : String) : Mutation Bool := fun r =>
  ⟨true, r.withoutRoom transmissionId,
    (r.guestsOf transmissionId).map (fun guestId => r.ended transmissionId guestId)⟩

def releaseGuest (guestId transmissionId : String) : Mutation Bool := fun r =>
  if guestId ∈ r.guestsOf transmissionId then
    ⟨true, r.withoutGuest guestId transmissionId, [r.ended transmissionId guestId]⟩
  else ⟨false, r, []⟩

def releaseGuestEverywhere (guestId : String) : Mutation Bool := fun r =>
  each r.transmissionGuestIdList.keys (fun transmissionId released =>
    andThen (releaseGuest guestId transmissionId) (fun now => done (now || released))) false r

def disconnectRoom (transmissionId : String) : Mutation Bool := fun r =>
  if r.isTransmissionExist transmissionId then releaseRoom transmissionId r else ⟨true, r, []⟩

/-- The rooms whose host has no connection. -/
def hostlessRooms (r : Routing) : List String :=
  (r.transmissionHostIdList.toList.filter (fun p => !r.hasUserConnection p.2)).map Prod.fst

/-- The memberships whose guest is not connected. -/
def disconnectedGuests (expired : String → String → Bool) (r : Routing) :
    List (String × String) :=
  r.transmissionGuestIdList.toList.flatMap (fun room =>
    (room.2.filter (fun guestId => !r.connectedGuest expired room.1 guestId)).map
      (fun guestId => (guestId, room.1)))

def prune (expired : String → String → Bool) : Mutation Nat := fun r =>
  andThen (each (hostlessRooms r) (fun transmissionId released => fun r =>
      andThen (releaseRoom transmissionId) (fun _ =>
        done (released + (r.guestsOf transmissionId).length)) r) 0)
    (fun released => fun r =>
      each (disconnectedGuests expired r) (fun guest released =>
        andThen (releaseGuest guest.1 guest.2) (fun now =>
          done (if now then released + 1 else released))) released r) r

def unbind (hdl : ConnectionHdl) : Mutation String := fun r =>
  let released := r.releaseUserFromWsHandle hdl
  ⟨released.1, released.2, []⟩

/-- The rooms to which `hdl` is admitted as `userId`. -/
def roomsJoinedThrough (userId : String) (hdl : ConnectionHdl) (r : Routing) : List String :=
  (r.transmissionGuestHandles.toList.filter (fun room => room.2[userId]? = some hdl)).map Prod.fst

/-- End what `userId` was admitted to through `hdl`. -/
def releaseJoined (userId : String) (hdl : ConnectionHdl) : Mutation Unit := fun r =>
  each (roomsJoinedThrough userId hdl r) (fun transmissionId _ =>
    andThen (releaseGuest userId transmissionId) (fun _ => done ())) () r

/-- The last connection of `userId` is gone: end its memberships and the room it hosts. -/
def releaseLast (userId : String) : Mutation String :=
  andThen (releaseGuestEverywhere userId) (fun _ => fun r =>
    if r.isHost userId ≠ "" then
      andThen (releaseRoom (r.isHost userId)) (fun _ => done userId) r
    else ⟨userId, r, []⟩)

/-- What follows the unbinding of `hdl` from `userId`. -/
def releaseMemberships (userId : String) (hdl : ConnectionHdl) : Mutation String :=
  if userId = "" then done ""
  else andThen (releaseJoined userId hdl) (fun _ => fun r =>
    if r.hasUserConnection userId then ⟨"", r, []⟩ else releaseLast userId r)

def releaseSession (hdl : ConnectionHdl) : Mutation String :=
  andThen (unbind hdl) (fun userId => releaseMemberships userId hdl)

def expireSession (hdl : ConnectionHdl) : Mutation Unit :=
  andThen (update (Routing.withoutActivity hdl) ()) (fun _ =>
    andThen (releaseSession hdl) (fun userId => emit [.sessionTimeout hdl userId] ()))

def expireSessions (expired : ConnectionHdl → Bool) (now : TimePoint) : Mutation Unit := fun r =>
  each r.wsHdlLastActiveTimeMap.toList (fun entry _ =>
    if expired entry.1 || decide (now - entry.2 > seconds 30) then expireSession entry.1
    else done ()) () r

end Mutation

namespace TransmissionManager

variable {α β : Type}

/-! ## Performing a mutation under the lock -/

/-- The notifications for which a callback is installed. -/
def heard (s : TransmissionManager) (notes : List Notification) : List Notification :=
  notes.filter (fun note => match note with
    | .remoteControl .. => s.remoteControlSessionCallback
    | .sessionTimeout .. => s.sessionTimeoutCallback)

/-- The manager inside a scope after a mutation: the maps changed, the notifications collected. -/
def collected (s : TransmissionManager) (maps : Routing) (notes : List Notification) :
    TransmissionManager :=
  { s with toRouting := maps, pendingNotifications := s.pendingNotifications ++ s.heard notes }

/-- The manager after an operation: inside a scope the notifications are collected; outside they are
called in order, at the mutex level the operation was entered at. -/
def after (s : TransmissionManager) (maps : Routing) (notes : List Notification) :
    TransmissionManager :=
  if s.lockDepth ≠ 0 then s.collected maps notes
  else
    { s with
      toRouting := maps
      pendingNotifications := []
      delivered := s.delivered ++
        (s.pendingNotifications ++ s.heard notes).map (fun note => (note, s.mutexHeld)) }

/-- Inside a scope, `op` performs the mutation `m`. -/
def Inside (op : TransmissionManager → α × TransmissionManager) (m : Mutation α) : Prop :=
  ∀ s, s.lockDepth ≠ 0 →
    op s = ((m s.toRouting).value, s.collected (m s.toRouting).state (m s.toRouting).events)

/-- The operation `op` performs the mutation `m`, wherever it is called. -/
def Does (op : TransmissionManager → α × TransmissionManager) (m : Mutation α) : Prop :=
  ∀ s, op s = ((m s.toRouting).value, s.after (m s.toRouting).state (m s.toRouting).events)

@[simp] theorem heard_nil (s : TransmissionManager) : s.heard [] = [] := rfl

@[simp] theorem heard_append (s : TransmissionManager) (l l' : List Notification) :
    s.heard (l ++ l') = s.heard l ++ s.heard l' := List.filter_append ..

@[simp] theorem collected_nil (s : TransmissionManager) : s.collected s.toRouting [] = s := by
  simp [collected]

/-- Collecting twice is collecting everything at once. -/
@[simp] theorem collected_collected (s : TransmissionManager) (r r' : Routing)
    (l l' : List Notification) : (s.collected r l).collected r' l' = s.collected r' (l ++ l') := by
  show _ = { s with toRouting := r', pendingNotifications := _ }
  simp [collected, heard, List.append_assoc]

@[simp] theorem collected_toRouting (s : TransmissionManager) (r : Routing)
    (l : List Notification) : (s.collected r l).toRouting = r := rfl

@[simp] theorem collected_lockDepth (s : TransmissionManager) (r : Routing)
    (l : List Notification) : (s.collected r l).lockDepth = s.lockDepth := rfl

theorem Does.inside {op : TransmissionManager → α × TransmissionManager} {m : Mutation α}
    (h : Does op m) : Inside op m := by
  intro s hs
  rw [h s, after, if_pos hs]

/-- **The lock is transparent.** A scope around a body that performs a mutation performs it. -/
theorem does_stateLock {body : TransmissionManager → α × TransmissionManager} {m : Mutation α}
    (h : Inside body m) : Does (stateLock body) m := by
  intro s
  unfold stateLock
  rw [h { s with mutexHeld := s.mutexHeld + 1, lockDepth := s.lockDepth + 1 }
    (Nat.succ_ne_zero _)]
  by_cases hdepth : s.lockDepth = 0
  · simp [after, collected, heard, hdepth]
  · simp [after, collected, heard, hdepth]

theorem inside_done (v : α) : Inside (fun s => (v, s)) (done v) := by
  intro s _
  simp

/-- One operation after another, inside a scope. -/
theorem inside_bind {op : TransmissionManager → α × TransmissionManager}
    {k : α → TransmissionManager → β × TransmissionManager} {m : Mutation α}
    {f : α → Mutation β} (hop : Inside op m) (hk : ∀ v, Inside (k v) (f v)) :
    Inside (fun s => k (op s).1 (op s).2) (Logged.andThen m f) := by
  intro s hs
  show k (op s).1 (op s).2 = _
  rw [hop s hs]
  -- the continuation runs in the state the first operation leaves, still inside the scope
  have hnext := hk (m s.toRouting).value
    (s.collected (m s.toRouting).state (m s.toRouting).events) hs
  rw [hnext]
  simp [Logged.andThen]

/-- A loop, inside a scope. -/
theorem inside_foldl {step : α × TransmissionManager → β → α × TransmissionManager}
    {round : β → α → Mutation α} (h : ∀ b v, Inside (fun s => step (v, s) b) (round b v))
    (l : List β) (v : α) : Inside (fun s => l.foldl step (v, s)) (each l round v) := by
  induction l generalizing v with
  | nil =>
    intro s _
    simp [each, done]
  | cons b l ih =>
    intro s hs
    show l.foldl step (step (v, s) b) = _
    have hfirst := h b v s hs
    simp only at hfirst
    rw [hfirst]
    have hrest := ih (round b v s.toRouting).value
      (s.collected (round b v s.toRouting).state (round b v s.toRouting).events) hs
    simp only at hrest
    rw [hrest]
    simp [each, Logged.andThen]

/-- A loop that only threads the manager. -/
theorem inside_foldl_unit {step : TransmissionManager → β → TransmissionManager}
    {round : β → Unit → Mutation Unit}
    (h : ∀ b, Inside (fun s => ((), step s b)) (round b ())) (l : List β) :
    Inside (fun s => ((), l.foldl step s)) (each l round ()) := by
  have hpairs : ∀ s, l.foldl (fun (p : Unit × TransmissionManager) b => ((), step p.2 b)) ((), s) =
      ((), l.foldl step s) := by
    induction l with
    | nil => intro s; rfl
    | cons b l ih => intro s; exact ih (step s b)
  have hloop := @inside_foldl Unit β (fun p b => ((), step p.2 b)) round (fun b _ => h b) l ()
  intro s hs
  have hs' := hloop s hs
  simp only [hpairs] at hs'
  exact hs'

/-! ## Each operation performs its mutation -/

theorem notifyRemoteControl_eq (transmissionId hostId guestId : String) (started : Bool)
    (s : TransmissionManager) :
    notifyRemoteControl transmissionId hostId guestId started s =
      s.collected s.toRouting [.remoteControl transmissionId hostId guestId started] := by
  cases hcb : s.remoteControlSessionCallback with
  | true => simp [notifyRemoteControl, collected, heard, hcb]
  | false =>
    have hheard : s.heard [.remoteControl transmissionId hostId guestId started] = [] := by
      simp [heard, hcb]
    rw [notifyRemoteControl, if_neg (by simp [hcb]), collected, hheard, List.append_nil]

theorem notifySessionTimeout_eq (hdl : ConnectionHdl) (userId : String) (s : TransmissionManager) :
    notifySessionTimeout hdl userId s =
      s.collected s.toRouting [.sessionTimeout hdl userId] := by
  cases hcb : s.sessionTimeoutCallback with
  | true => simp [notifySessionTimeout, collected, heard, hcb]
  | false =>
    have hheard : s.heard [.sessionTimeout hdl userId] = [] := by simp [heard, hcb]
    rw [notifySessionTimeout, if_neg (by simp [hcb]), collected, hheard, List.append_nil]

/-- Notifying for every guest of a list collects one notification for each, in order. -/
theorem foldl_notify_ended (transmissionId hostId : String) (guests : List String)
    (s : TransmissionManager) :
    guests.foldl (fun s guestId => notifyRemoteControl transmissionId hostId guestId false s) s =
      s.collected s.toRouting
        (guests.map (fun guestId => .remoteControl transmissionId hostId guestId false)) := by
  induction guests generalizing s with
  | nil => simp
  | cons guestId guests ih =>
    rw [List.foldl_cons, ih, notifyRemoteControl_eq]
    simp

theorem does_releaseTransmission (transmissionId : String) :
    Does (releaseTransmission transmissionId) (Mutation.releaseRoom transmissionId) := by
  apply does_stateLock
  intro s _
  dsimp only
  unfold Mutation.releaseRoom Routing.withoutRoom Routing.guestsOf Routing.ended
  cases hguests : s.transmissionGuestIdList[transmissionId]? with
  | none => simp [collected, OrdMap.erase_eq_self hguests]
  | some guests =>
    simp only [foldl_notify_ended, Option.getD_some]
    rfl

theorem does_releaseGuestFromTransmission (guestId transmissionId : String) :
    Does (releaseGuestFromTransmission guestId transmissionId)
      (Mutation.releaseGuest guestId transmissionId) := by
  apply does_stateLock
  intro s _
  dsimp only
  unfold Mutation.releaseGuest
  cases hguests : s.transmissionGuestIdList[transmissionId]? with
  | none => simp [Routing.guestsOf, hguests]
  | some guests =>
    have hlist : s.guestsOf transmissionId = guests := by simp [Routing.guestsOf, hguests]
    by_cases hmem : guestId ∈ guests
    · simp only [hlist, hmem, not_true_eq_false, if_false, if_true, notifyRemoteControl_eq]
      unfold Routing.withoutGuest Routing.ended
      rw [hlist]
      have hnone : ((∅ : OrdMap String ConnectionHdl).erase guestId).isEmpty = true := by simp
      -- the room keeps its guest list or loses it, and so for its grants
      cases hempty : (guests.filter (· ≠ guestId)).isEmpty with
      | true =>
        cases hhandles : s.transmissionGuestHandles[transmissionId]? with
        | none =>
          simp only [collected_toRouting, hhandles, hempty, hnone, if_true, Option.getD_none,
            OrdMap.erase_insert, OrdMap.erase_eq_self hhandles]
          rfl
        | some handles =>
          simp only [collected_toRouting, hhandles, hempty, if_true, Option.getD_some,
            OrdMap.erase_insert]
          rfl
      | false =>
        cases hhandles : s.transmissionGuestHandles[transmissionId]? with
        | none =>
          simp only [collected_toRouting, hhandles, hempty, hnone, if_true, Option.getD_none,
            OrdMap.erase_eq_self hhandles, Bool.false_eq_true, if_false]
          rfl
        | some handles =>
          simp only [collected_toRouting, hhandles, hempty, Option.getD_some, Bool.false_eq_true,
            if_false]
          rfl
    · simp [hlist, hmem]

theorem does_bindGuestToTransmission (guestId transmissionId : String) :
    Does (bindGuestToTransmission guestId transmissionId)
      (Mutation.bindGuest guestId transmissionId) := by
  apply does_stateLock
  intro s _
  dsimp only
  unfold Mutation.bindGuest
  by_cases hempty : guestId = "" ∨ transmissionId = ""
  · rw [if_pos hempty]
    cases hhost : s.transmissionHostIdList[transmissionId]? with
    | none => simp
    | some hostId =>
      have hrefused : guestId = "" ∨ transmissionId = "" ∨ hostId = guestId ∨
          guestId ∈ s.guestsOf transmissionId := by tauto
      simp [hrefused]
  · rw [if_neg hempty]
    cases hhost : s.transmissionHostIdList[transmissionId]? with
    | none => simp
    | some hostId =>
      by_cases hself : hostId = guestId
      · simp [hself]
      · by_cases hmem : guestId ∈ s.guestsOf transmissionId
        · -- the list that the lookup may create is there already: it has the guest
          have hstored : s.transmissionGuestIdList[transmissionId]? =
              some (s.guestsOf transmissionId) := by
            unfold Routing.guestsOf at *
            cases hguests : s.transmissionGuestIdList[transmissionId]? with
            | none => simp [hguests] at hmem
            | some guests => rfl
          simp [hself, hmem, OrdMap.insert_eq_self hstored]
        · have hadmitted : ¬ (guestId = "" ∨ transmissionId = "" ∨ hostId = guestId ∨
              guestId ∈ s.guestsOf transmissionId) := by tauto
          dsimp only
          rw [if_neg hadmitted]
          simp only [hself, hmem, if_false, notifyRemoteControl_eq, OrdMap.insert_insert]
          rfl

theorem does_bindGuestHandleToTransmission (expired : Bool) (guestId transmissionId : String)
    (hdl : ConnectionHdl) :
    Does (bindGuestHandleToTransmission expired guestId transmissionId hdl)
      (Mutation.bindGuestHandle expired guestId transmissionId hdl) := by
  apply does_stateLock
  intro s hs
  dsimp only
  unfold Mutation.bindGuestHandle
  by_cases hrefused : Mutation.AdmissionRefused expired guestId transmissionId hdl s.toRouting
  · rw [if_pos hrefused, if_pos hrefused]
    simp
  · rw [if_neg hrefused, if_neg hrefused]
    have hhost : s.isHostOfTransmission guestId transmissionId = false := by
      simp only [Mutation.AdmissionRefused, not_or, Bool.not_eq_true] at hrefused
      exact hrefused.2.2.2.2
    -- the host is refused, so only the guests of the room are members here
    have hmembers : guestId ∈ s.getAllUserIdOfTransmission transmissionId ↔
        guestId ∈ s.guestsOf transmissionId := by
      unfold Routing.isHostOfTransmission at hhost
      unfold Routing.getAllUserIdOfTransmission
      grind
    by_cases hmem : guestId ∈ s.guestsOf transmissionId
    · simp [hmembers, hmem, Logged.andThen, update, Routing.withGrant, collected]
    · simp only [hmembers, hmem, if_false, (does_bindGuestToTransmission guestId
        transmissionId).inside s hs]
      cases hbound : (Mutation.bindGuest guestId transmissionId s.toRouting).value with
      | true =>
        simp only [Logged.andThen, hbound, if_true, collected_toRouting, update, List.append_nil]
        rfl
      | false => simp [Logged.andThen, hbound]

theorem does_releaseGuestFromTransmissions (guestId : String) :
    Does (releaseGuestFromTransmissions guestId) (Mutation.releaseGuestEverywhere guestId) := by
  apply does_stateLock
  intro s hs
  refine inside_foldl ?_ s.transmissionGuestIdList.keys false s hs
  intro transmissionId released
  exact inside_bind (does_releaseGuestFromTransmission guestId transmissionId).inside
    (fun now => inside_done (now || released))

theorem does_disconnectTransmission (transmissionId : String) :
    Does (disconnectTransmission transmissionId) (Mutation.disconnectRoom transmissionId) := by
  apply does_stateLock
  intro s hs
  unfold Mutation.disconnectRoom
  cases hroom : s.isTransmissionExist transmissionId with
  | true => simp [hroom, (does_releaseTransmission transmissionId).inside s hs]
  | false => simp [hroom]

theorem inside_releaseUserFromWsHandle (hdl : ConnectionHdl) :
    Inside (releaseUserFromWsHandle hdl) (Mutation.unbind hdl) := by
  intro s _
  simp [releaseUserFromWsHandle, onMaps, Mutation.unbind, collected]

theorem does_pruneDisconnectedTransmissions (expired : String → String → Bool) :
    Does (pruneDisconnectedTransmissions expired) (Mutation.prune expired) := by
  apply does_stateLock
  intro s hs
  refine inside_bind (inside_foldl ?_ (Mutation.hostlessRooms s.toRouting) 0) (k := fun released s =>
    (Mutation.disconnectedGuests expired s.toRouting).foldl _ (released, s)) ?_ s hs
  · intro transmissionId released s' hs'
    simp [(does_releaseTransmission transmissionId).inside s' hs', Logged.andThen]
  · intro released s' hs'
    refine inside_foldl ?_ (Mutation.disconnectedGuests expired s'.toRouting) released s' hs'
    intro guest released
    exact inside_bind (k := fun now s => (if now then released + 1 else released, s))
      (does_releaseGuestFromTransmission guest.1 guest.2).inside
      (fun now => inside_done (if now then released + 1 else released))

theorem inside_releaseJoined (userId : String) (hdl : ConnectionHdl) :
    Inside (fun s => ((), ((s.transmissionGuestHandles.toList.filter
        (fun room => room.2[userId]? = some hdl)).map Prod.fst).foldl
        (fun s transmissionId => (releaseGuestFromTransmission userId transmissionId s).2) s))
      (Mutation.releaseJoined userId hdl) := by
  intro s hs
  refine inside_foldl_unit ?_ (Mutation.roomsJoinedThrough userId hdl s.toRouting) s hs
  intro transmissionId
  exact inside_bind (k := fun _ s => ((), s))
    (does_releaseGuestFromTransmission userId transmissionId).inside (fun _ => inside_done ())

theorem inside_releaseLast (userId : String) :
    Inside (fun s =>
      let s := (releaseGuestFromTransmissions userId s).2
      let transmissionId := s.isHost userId
      if transmissionId ≠ "" then (userId, (releaseTransmission transmissionId s).2)
      else (userId, s)) (Mutation.releaseLast userId) := by
  refine inside_bind (does_releaseGuestFromTransmissions userId).inside (k := fun _ s =>
    if s.isHost userId ≠ "" then (userId, (releaseTransmission (s.isHost userId) s).2)
    else (userId, s)) ?_
  intro _ s hs
  by_cases hroom : s.isHost userId = ""
  · simp [hroom]
  · simp [hroom, (does_releaseTransmission (s.isHost userId)).inside s hs, Logged.andThen]

theorem inside_releaseMemberships (userId : String) (hdl : ConnectionHdl) :
    Inside (fun s =>
      if userId = "" then ("", s)
      else
        let joinedTransmissions := (s.transmissionGuestHandles.toList.filter
          (fun room => room.2[userId]? = some hdl)).map Prod.fst
        let s := joinedTransmissions.foldl (fun s transmissionId =>
          (releaseGuestFromTransmission userId transmissionId s).2) s
        if s.hasUserConnection userId then ("", s)
        else
          let s := (releaseGuestFromTransmissions userId s).2
          let transmissionId := s.isHost userId
          if transmissionId ≠ "" then (userId, (releaseTransmission transmissionId s).2)
          else (userId, s))
      (Mutation.releaseMemberships userId hdl) := by
  intro s hs
  by_cases hnone : userId = ""
  · simp [hnone, Mutation.releaseMemberships]
  · simp only [hnone, if_false, Mutation.releaseMemberships]
    refine inside_bind (inside_releaseJoined userId hdl) (k := fun _ s =>
      if s.hasUserConnection userId then ("", s)
      else
        let s := (releaseGuestFromTransmissions userId s).2
        let transmissionId := s.isHost userId
        if transmissionId ≠ "" then (userId, (releaseTransmission transmissionId s).2)
        else (userId, s)) ?_ s hs
    intro _ s' hs'
    cases hconnected : s'.hasUserConnection userId with
    | true => simp [hconnected]
    | false => simpa [hconnected] using inside_releaseLast userId s' hs'

theorem does_releaseUserSession (hdl : ConnectionHdl) :
    Does (releaseUserSession hdl) (Mutation.releaseSession hdl) := by
  apply does_stateLock
  intro s hs
  exact inside_bind (inside_releaseUserFromWsHandle hdl)
    (fun userId => inside_releaseMemberships userId hdl) s hs

theorem does_expireInactiveSessions (expired : ConnectionHdl → Bool) (now : TimePoint) :
    Does (expireInactiveSessions expired now) (Mutation.expireSessions expired now) := by
  apply does_stateLock
  intro s hs
  refine inside_foldl_unit ?_ s.wsHdlLastActiveTimeMap.toList s hs
  intro entry s' hs'
  dsimp only
  by_cases hstale : expired entry.1 || decide (now - entry.2 > seconds 30)
  · rw [if_pos hstale, if_pos hstale, Mutation.expireSession]
    have hrelease := (does_releaseUserSession entry.1).inside
      (s'.collected (s'.toRouting.withoutActivity entry.1) []) hs'
    simp only [collected, heard_nil, List.append_nil, Routing.withoutActivity] at hrelease
    rw [hrelease]
    simp only [notifySessionTimeout_eq, Logged.andThen, update, emit, Routing.withoutActivity]
    simp [collected, heard]
  · rw [if_neg hstale, if_neg hstale]
    simp

end TransmissionManager

end CrossDesk
