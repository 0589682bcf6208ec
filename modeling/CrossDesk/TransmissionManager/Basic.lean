import CrossDesk.Lib.OrdMap
import CrossDesk.Clock
import CrossDesk.Identity

/-!
# The transmission manager

`TransmissionManager` decides which connection speaks for which identity, who hosts a room, who is
a guest in it, and through which socket a guest was admitted. Seven maps carry that, and every
operation below updates them piecemeal, exactly as `transmission_manager.cpp` does.

* **Handles.** A `connection_hdl` is a weak pointer compared by owner, so a handle is a number that
  names its control block. Whether its connection is gone (`hdl.expired()`) is not part of the
  manager's state: the network thread may destroy a connection at any moment, so every test of a
  handle is an argument, an arbitrary answer of the environment.
* **The lock.** A mutation opens a `StateLock`. Nested scopes only count their depth; the outermost
  one takes the collected notifications, releases the mutex and then calls them. `stateLock` below
  is that scope, and `delivered` remembers each callback together with the number of mutex levels
  still held when it was called.

An absent `std::string` result is `""`, as in the source; an empty `connection_hdl` is `none`.
-/

namespace CrossDesk

/-- `websocketpp::connection_hdl`, identified by the control block it points to. -/
abbrev ConnectionHdl := Nat

/-- A callback collected while the state lock is held. -/
inductive Notification where
  | remoteControl (transmissionId hostId guestId : String) (started : Bool)
  | sessionTimeout (hdl : ConnectionHdl) (userId : String)
  deriving DecidableEq, Repr

/-- The seven maps of the manager. -/
structure Routing where
  transmissionHostIdList : OrdMap String String := ∅
  transmissionGuestIdList : OrdMap String (List String) := ∅
  transmissionGuestHandles : OrdMap String (OrdMap String ConnectionHdl) := ∅
  userIdWsHdlList : OrdMap String ConnectionHdl := ∅
  wsHdlUserIdList : OrdMap ConnectionHdl String := ∅
  wsHdlVerifiedDeviceIds : OrdMap ConnectionHdl String := ∅
  wsHdlLastActiveTimeMap : OrdMap ConnectionHdl TimePoint := ∅

/-- The manager: its maps, the installed callbacks and the lock with what it has collected.
`delivered` pairs each callback already called with the mutex levels held at that moment. -/
structure TransmissionManager extends Routing where
  remoteControlSessionCallback : Bool := false
  sessionTimeoutCallback : Bool := false
  mutexHeld : Nat := 0
  lockDepth : Nat := 0
  pendingNotifications : List Notification := []
  delivered : List (Notification × Nat) := []

namespace TransmissionManager

variable {α : Type}

/-! ## The state lock -/

/-- A `StateLock` scope around `body`. Leaving a nested scope only lowers the depth (and the
recursive mutex with it); leaving the outermost one moves the collected notifications out, unlocks,
and calls them. -/
def stateLock (body : TransmissionManager → α × TransmissionManager) (s : TransmissionManager) :
    α × TransmissionManager :=
  let r := body { s with mutexHeld := s.mutexHeld + 1, lockDepth := s.lockDepth + 1 }
  let s : TransmissionManager := { r.2 with lockDepth := r.2.lockDepth - 1 }
  if s.lockDepth ≠ 0 then
    (r.1, { s with mutexHeld := s.mutexHeld - 1 })
  else
    let callbacks := s.pendingNotifications
    let s := { s with pendingNotifications := [], mutexHeld := s.mutexHeld - 1 }
    (r.1, { s with delivered := s.delivered ++ callbacks.map (fun n => (n, s.mutexHeld)) })

/-- Collect a start or end notification, when a callback is installed. -/
def notifyRemoteControl (transmissionId hostId guestId : String) (started : Bool)
    (s : TransmissionManager) : TransmissionManager :=
  if s.remoteControlSessionCallback then
    { s with
      pendingNotifications :=
        s.pendingNotifications ++ [.remoteControl transmissionId hostId guestId started] }
  else s

/-- Collect a timeout notification, when a callback is installed. -/
def notifySessionTimeout (hdl : ConnectionHdl) (userId : String) (s : TransmissionManager) :
    TransmissionManager :=
  if s.sessionTimeoutCallback then
    { s with pendingNotifications := s.pendingNotifications ++ [.sessionTimeout hdl userId] }
  else s

def setRemoteControlSessionCallback (s : TransmissionManager) : TransmissionManager :=
  { s with remoteControlSessionCallback := true }

def setSessionTimeoutCallback (s : TransmissionManager) : TransmissionManager :=
  { s with sessionTimeoutCallback := true }

end TransmissionManager

/-! ## Queries

Queries hold the mutex only while they read, so they are functions of the maps. -/

namespace Routing

def isTransmissionExist (transmissionId : String) (s : Routing) : Bool :=
  s.transmissionHostIdList.contains transmissionId

def getHostIdOfTransmission (transmissionId : String) (s : Routing) : String :=
  (s.transmissionHostIdList[transmissionId]?).getD ""

def isHostOfTransmission (userId transmissionId : String) (s : Routing) : Bool :=
  match s.transmissionHostIdList[transmissionId]? with
  | none => false
  | some hostId => hostId == userId

/-- The first room, in key order, that `userId` hosts. -/
def isHost (userId : String) (s : Routing) : String :=
  (OrdMap.firstKeyOf s.transmissionHostIdList userId).getD ""

/-- The first room, in key order, in which `userId` is a guest. -/
def isGuest (userId : String) (s : Routing) : String :=
  ((s.transmissionGuestIdList.toList.find? (fun p => p.2.contains userId)).map Prod.fst).getD ""

/-- The guests of a room; none when the room has no guest list. -/
def guestsOf (transmissionId : String) (s : Routing) : List String :=
  (s.transmissionGuestIdList[transmissionId]?).getD []

/-- The host, if any, followed by the guests. -/
def getAllUserIdOfTransmission (transmissionId : String) (s : Routing) : List String :=
  (s.transmissionHostIdList[transmissionId]?).toList ++ guestsOf transmissionId s

/-- `HasUserConnection(ws_hdl_user_id_list_, userId)`. -/
def hasUserConnection (userId : String) (s : Routing) : Bool :=
  OrdMap.hasValue s.wsHdlUserIdList userId

def getUserId (hdl : ConnectionHdl) (s : Routing) : String :=
  (s.wsHdlUserIdList[hdl]?).getD ""

def getVerifiedDeviceId (hdl : ConnectionHdl) (s : Routing) : String :=
  (s.wsHdlVerifiedDeviceIds[hdl]?).getD ""

/-- The handle through which `guestId` was admitted to the room. -/
def grantOf (transmissionId guestId : String) (s : Routing) : Option ConnectionHdl :=
  (s.transmissionGuestHandles[transmissionId]?).bind (·[guestId]?)

/-- `GetWsHandle(user_id)`: the default route of an identity. -/
def getWsHandle (userId : String) (s : Routing) : Option ConnectionHdl :=
  s.userIdWsHdlList[userId]?

/-- `GetWsHandle(user_id, transmission_id)`: the host's default route, or the granted handle of a
guest while it is still bound to that guest. -/
def getWsHandleIn (userId transmissionId : String) (s : Routing) : Option ConnectionHdl :=
  if userId = "" ∨ transmissionId = "" then none
  else
    match s.transmissionHostIdList[transmissionId]? with
    | none => none
    | some hostId =>
      if hostId = userId then s.getWsHandle userId
      else
        match s.grantOf transmissionId userId with
        | none => none
        | some h => if s.getUserId h ≠ userId then none else some h

/-- `IsConnectionInTransmission`, with the answer to `hdl.expired()` as its first argument. -/
def isConnectionInTransmission (expired : Bool) (hdl : ConnectionHdl) (transmissionId : String)
    (s : Routing) : Bool :=
  !expired && decide (s.getWsHandleIn (s.getUserId hdl) transmissionId = some hdl)

/-- The number of guests over all rooms that have a host. -/
def getActiveConnectionCount (s : Routing) : Nat :=
  (s.transmissionHostIdList.keys.map (fun tx => (guestsOf tx s).length)).sum

/-! ## Operations without a `StateLock`

These hold the mutex but collect nothing, so they are functions of the maps too. -/

def bindHostToTransmission (hostId transmissionId : String) (s : Routing) : Bool × Routing :=
  if isTemporaryControllerId hostId || isTemporaryControllerId transmissionId then (false, s)
  else if s.transmissionHostIdList.contains transmissionId then (false, s)
  else (true, { s with
    transmissionHostIdList := s.transmissionHostIdList.insert transmissionId hostId })

/-- `UpdateWsHandleLastActiveTime`: only a bound handle has an activity time. -/
def updateWsHandleLastActiveTime (now : TimePoint) (hdl : ConnectionHdl) (s : Routing) :
    Int × Routing :=
  if s.wsHdlUserIdList.contains hdl then
    (0, { s with wsHdlLastActiveTimeMap := s.wsHdlLastActiveTimeMap.insert hdl now })
  else (-1, s)

/-- `BindUserToWsHandle`. A socket keeps the identity it has, and an alias never replaces an
existing route. -/
def bindUserToWsHandle (expired : Bool) (now : TimePoint) (userId : String) (hdl : ConnectionHdl)
    (verifiedDeviceId : String) (s : Routing) : Bool × Routing :=
  if userId = "" ∨ expired then (false, s)
  else if (s.wsHdlUserIdList[hdl]?).any (· ≠ userId) then (false, s)
  else
    let userIdWsHdlList :=
      if isAlias userId then s.userIdWsHdlList.insertIfNew userId hdl
      else s.userIdWsHdlList.insert userId hdl
    let s := { s with userIdWsHdlList }
    let s := { s with wsHdlUserIdList := s.wsHdlUserIdList.insert hdl userId }
    let s := if verifiedDeviceId = "" then s else
      { s with wsHdlVerifiedDeviceIds := s.wsHdlVerifiedDeviceIds.insert hdl verifiedDeviceId }
    (true, (s.updateWsHandleLastActiveTime now hdl).2)

/-- `ReleaseUserFromWsHandle`: unbind the handle; when it was the default route of its identity,
another handle of that identity takes over. -/
def releaseUserFromWsHandle (hdl : ConnectionHdl) (s : Routing) : String × Routing :=
  let s := { s with
    wsHdlLastActiveTimeMap := s.wsHdlLastActiveTimeMap.erase hdl
    wsHdlVerifiedDeviceIds := s.wsHdlVerifiedDeviceIds.erase hdl }
  match s.wsHdlUserIdList[hdl]? with
  | none => ("", s)
  | some userId =>
    let s := { s with wsHdlUserIdList := s.wsHdlUserIdList.erase hdl }
    if s.userIdWsHdlList[userId]? = some hdl then
      match OrdMap.firstKeyOf s.wsHdlUserIdList userId with
      | some h => (userId, { s with userIdWsHdlList := s.userIdWsHdlList.insert userId h })
      | none => (userId, { s with userIdWsHdlList := s.userIdWsHdlList.erase userId })
    else (userId, s)

def removeWsHandleLastActiveTime (hdl : ConnectionHdl) (s : Routing) : Unit × Routing :=
  ((), { s with wsHdlLastActiveTimeMap := s.wsHdlLastActiveTimeMap.erase hdl })

end Routing

namespace TransmissionManager

/-- An operation on the maps alone. -/
def onMaps (f : Routing → α × Routing) (s : TransmissionManager) : α × TransmissionManager :=
  let r := f s.toRouting
  (r.1, { s with toRouting := r.2 })

def bindHostToTransmission (hostId transmissionId : String) :
    TransmissionManager → Bool × TransmissionManager :=
  onMaps (Routing.bindHostToTransmission hostId transmissionId)

def updateWsHandleLastActiveTime (now : TimePoint) (hdl : ConnectionHdl) :
    TransmissionManager → Int × TransmissionManager :=
  onMaps (Routing.updateWsHandleLastActiveTime now hdl)

def bindUserToWsHandle (expired : Bool) (now : TimePoint) (userId : String) (hdl : ConnectionHdl)
    (verifiedDeviceId : String) : TransmissionManager → Bool × TransmissionManager :=
  onMaps (Routing.bindUserToWsHandle expired now userId hdl verifiedDeviceId)

def releaseUserFromWsHandle (hdl : ConnectionHdl) :
    TransmissionManager → String × TransmissionManager :=
  onMaps (Routing.releaseUserFromWsHandle hdl)

def removeWsHandleLastActiveTime (hdl : ConnectionHdl) :
    TransmissionManager → Unit × TransmissionManager :=
  onMaps (Routing.removeWsHandleLastActiveTime hdl)

/-! ## Binding -/

/-- `BindGuestToTransmission(guest_id, transmission_id)`: a membership without a handle. The guest
list comes into being as soon as it is looked at (`operator[]`), hence the insertion before the
search. -/
def bindGuestToTransmission (guestId transmissionId : String) :
    TransmissionManager → Bool × TransmissionManager :=
  stateLock fun s =>
    if guestId = "" ∨ transmissionId = "" then (false, s)
    else
      match s.transmissionHostIdList[transmissionId]? with
      | none => (false, s)
      | some hostId =>
        if hostId = guestId then (false, s)
        else
          let guests := s.guestsOf transmissionId
          let s := { s with
            transmissionGuestIdList := s.transmissionGuestIdList.insert transmissionId guests }
          if guestId ∈ guests then (false, s)
          else
            let s := { s with
              transmissionGuestIdList :=
                s.transmissionGuestIdList.insert transmissionId (guests ++ [guestId]) }
            (true, notifyRemoteControl transmissionId hostId guestId true s)

/-- `BindGuestToTransmission(guest_id, transmission_id, hdl)`: admit the connection `hdl`, bound to
the guest, to the room. A rejoin moves the grant of this room only. -/
def bindGuestHandleToTransmission (expired : Bool) (guestId transmissionId : String)
    (hdl : ConnectionHdl) : TransmissionManager → Bool × TransmissionManager :=
  stateLock fun s =>
    if guestId = "" ∨ expired ∨ s.getUserId hdl ≠ guestId ∨ ¬ s.isTransmissionExist transmissionId ∨
        s.isHostOfTransmission guestId transmissionId then (false, s)
    else
      let members := s.getAllUserIdOfTransmission transmissionId
      let r := if guestId ∈ members then (true, s)
        else bindGuestToTransmission guestId transmissionId s
      if r.1 then
        let handles := (r.2.transmissionGuestHandles[transmissionId]?).getD ∅
        (true, { r.2 with
          transmissionGuestHandles :=
            r.2.transmissionGuestHandles.insert transmissionId (handles.insert guestId hdl) })
      else (false, r.2)

/-! ## Releasing -/

/-- `ReleaseTransmission`: the room goes with its guests, each of whom is notified. -/
def releaseTransmission (transmissionId : String) :
    TransmissionManager → Bool × TransmissionManager :=
  stateLock fun s =>
    let hostId := s.getHostIdOfTransmission transmissionId
    let s := match s.transmissionGuestIdList[transmissionId]? with
      | none => s
      | some guests =>
        let s := guests.foldl (fun s guestId =>
          notifyRemoteControl transmissionId hostId guestId false s) s
        { s with transmissionGuestIdList := s.transmissionGuestIdList.erase transmissionId }
    let s := { s with
      transmissionGuestHandles := s.transmissionGuestHandles.erase transmissionId }
    (true, { s with transmissionHostIdList := s.transmissionHostIdList.erase transmissionId })

/-- `ReleaseGuestFromTransmission(guest_id, transmission_id)`. -/
def releaseGuestFromTransmission (guestId transmissionId : String) :
    TransmissionManager → Bool × TransmissionManager :=
  stateLock fun s =>
    match s.transmissionGuestIdList[transmissionId]? with
    | none => (false, s)
    | some guests =>
      if guestId ∉ guests then (false, s)
      else
        let hostId := s.getHostIdOfTransmission transmissionId
        let s := notifyRemoteControl transmissionId hostId guestId false s
        let guests := guests.filter (· ≠ guestId)
        let s := { s with
          transmissionGuestIdList := s.transmissionGuestIdList.insert transmissionId guests }
        let s := match s.transmissionGuestHandles[transmissionId]? with
          | none => s
          | some handles =>
            let handles := handles.erase guestId
            { s with
              transmissionGuestHandles :=
                if handles.isEmpty then s.transmissionGuestHandles.erase transmissionId
                else s.transmissionGuestHandles.insert transmissionId handles }
        let s := if guests.isEmpty then
            { s with transmissionGuestIdList := s.transmissionGuestIdList.erase transmissionId }
          else s
        (true, s)

/-- `ReleaseGuestFromTransmission(guest_id)`: from every room. The loop erases at most the entry it
stands on, so walking the keys listed at its start visits the same rooms. -/
def releaseGuestFromTransmissions (guestId : String) :
    TransmissionManager → Bool × TransmissionManager :=
  stateLock fun s =>
    s.transmissionGuestIdList.keys.foldl (fun r transmissionId =>
      let r' := releaseGuestFromTransmission guestId transmissionId r.2
      (r'.1 || r.1, r'.2)) (false, s)

def disconnectTransmission (transmissionId : String) :
    TransmissionManager → Bool × TransmissionManager :=
  stateLock fun s =>
    if s.isTransmissionExist transmissionId then releaseTransmission transmissionId s
    else (true, s)

/-- `PruneDisconnectedTransmissions`: drop the rooms whose host has no connection, then the guests
without one. `expired tx g` is what `expired()` answers for the granted handle of `g` in `tx`. -/
def pruneDisconnectedTransmissions (expired : String → String → Bool) :
    TransmissionManager → Nat × TransmissionManager :=
  stateLock fun s =>
    let disconnectedTransmissions := (s.transmissionHostIdList.toList.filter
      (fun p => !s.hasUserConnection p.2)).map Prod.fst
    let r := disconnectedTransmissions.foldl (fun r transmissionId =>
      (r.1 + (r.2.guestsOf transmissionId).length,
        (releaseTransmission transmissionId r.2).2)) (0, s)
    let s := r.2
    let connected (transmissionId guestId : String) : Bool :=
      match s.grantOf transmissionId guestId with
      | some h => !expired transmissionId guestId && s.getUserId h == guestId
      | none => s.hasUserConnection guestId
    let disconnectedGuests := s.transmissionGuestIdList.toList.flatMap (fun room =>
      (room.2.filter (fun guestId => !connected room.1 guestId)).map (fun guestId =>
        (guestId, room.1)))
    disconnectedGuests.foldl (fun r guest =>
      let r' := releaseGuestFromTransmission guest.1 guest.2 r.2
      (if r'.1 then r.1 + 1 else r.1, r'.2)) r

/-- `ReleaseUserSession`: unbind the handle and end what it was admitted to; when it was the last
connection of its identity, end everything the identity takes part in and the room it hosts, and
return the identity. -/
def releaseUserSession (hdl : ConnectionHdl) :
    TransmissionManager → String × TransmissionManager :=
  stateLock fun s =>
    let (userId, s) := releaseUserFromWsHandle hdl s
    if userId = "" then ("", s)
    else
      let joinedTransmissions := (s.transmissionGuestHandles.toList.filter
        (fun room => room.2[userId]? = some hdl)).map Prod.fst
      let s := joinedTransmissions.foldl (fun s transmissionId =>
        (releaseGuestFromTransmission userId transmissionId s).2) s
      if s.hasUserConnection userId then ("", s)
      else
        let s := (releaseGuestFromTransmissions userId s).2
        let transmissionId := s.isHost userId
        if transmissionId ≠ "" then (userId, (releaseTransmission transmissionId s).2)
        else (userId, s)

/-- `ExpireInactiveSessions`: release every handle that expired or was silent for more than thirty
seconds. Releasing a handle touches no other activity time, so the entries listed at the start are
the ones the loop meets. -/
def expireInactiveSessions (expired : ConnectionHdl → Bool) (now : TimePoint) :
    TransmissionManager → Unit × TransmissionManager :=
  stateLock fun s =>
    ((), s.wsHdlLastActiveTimeMap.toList.foldl (fun s entry =>
      if expired entry.1 || decide (now - entry.2 > seconds 30) then
        let s := { s with wsHdlLastActiveTimeMap := s.wsHdlLastActiveTimeMap.erase entry.1 }
        let (userId, s) := releaseUserSession entry.1 s
        notifySessionTimeout entry.1 userId s
      else s) s)

end TransmissionManager

end CrossDesk
