import CrossDesk.Application.Basic

/-!
# Presence

`PresenceManager` keeps, next to the presence rows of the database, the set of identities of each
kind that are online, and who watches whom.
-/

namespace CrossDesk

/-- `IsWebClient`. -/
def isWebClient (deviceId : String) : Bool := startsWith deviceId "web-"

/-- The identity of a command line controller. -/
def isCliClient (deviceId : String) : Bool := startsWith deviceId "cli-"

/-- `ShouldTrackOnlineDevice`. -/
def shouldTrackOnlineDevice (deviceId : String) : Bool :=
  !isTemporaryControllerId deviceId && !isAlias deviceId

namespace PresenceManager

/-- The identity enters the set of its kind. -/
def enter (deviceId : String) (p : PresenceManager) : PresenceManager :=
  if shouldTrackOnlineDevice deviceId then
    { p with onlineDevices := insert deviceId p.onlineDevices }
  else if isWebClient deviceId then
    { p with onlineWebClients := insert deviceId p.onlineWebClients }
  else if isCliClient deviceId then
    { p with onlineCliClients := insert deviceId p.onlineCliClients }
  else p

/-- The identity leaves the set of its kind. -/
def leave (deviceId : String) (p : PresenceManager) : PresenceManager :=
  if shouldTrackOnlineDevice deviceId then
    { p with onlineDevices := p.onlineDevices.erase deviceId }
  else if isWebClient deviceId then
    { p with onlineWebClients := p.onlineWebClients.erase deviceId }
  else if isCliClient deviceId then
    { p with onlineCliClients := p.onlineCliClients.erase deviceId }
  else p

/-- `ForgetOfflineDeviceData`. -/
def forget (deviceId : String) (p : PresenceManager) : PresenceManager :=
  let clone := "C-" ++ deviceId
  { p with
    associations := ((p.associations.erase deviceId).erase clone).map
      (fun _ watched => (watched.erase deviceId).erase clone) }

end PresenceManager

namespace Application

open Logged

def presenceUpdate (deviceId : String) (online : Bool) : Json :=
  .obj [("type", .str "presence_update"), ("id", .str deviceId), ("online", .bool online)]

/-- Everybody who watches the identity. -/
def watchers (deviceId : String) (s : Application) : List String :=
  (s.presence.associations.toList.filter (fun entry => deviceId ∈ entry.2)).map Prod.fst

/-- Those of them who are told about it: the ones that the database finds online. -/
def presenceTargets (deviceId : String) (s : Application) : List String :=
  ((s.store.batchQueryOnline (s.watchers deviceId)).filter (fun status =>
    status.1 ≠ deviceId && status.2)).map Prod.fst

/-- `NotifyUserDevices`. -/
def notifyUserDevices (deviceId : String) (online : Bool) : Program Unit := do
  let s ← look
  each (s.presenceTargets deviceId) (fun id _ =>
    send (s.manager.getWsHandle id) (presenceUpdate deviceId online)) ()

/-- `SetDeviceOnline`. -/
def setOnline (env : Env) (deviceId : String) (online : Bool) : Program Unit :=
  modify (fun s => { s with
    store := (s.store.setDeviceOnline (env.fails .setDeviceOnline) env.storeTime deviceId online).2 })

/-- `OnLogin`. -/
def onLogin (env : Env) (deviceId : String) : Program Unit := do
  modify (fun s => { s with presence := s.presence.enter deviceId })
  setOnline env deviceId true
  notifyUserDevices deviceId true

/-- `OnLogout`. -/
def onLogout (env : Env) (deviceId : String) : Program Unit := do
  modify (fun s => { s with
    presence := { s.presence with associations := s.presence.associations.erase deviceId } })
  modify (fun s => { s with presence := s.presence.leave deviceId })
  setOnline env deviceId false
  when (deviceId ≠ "") (notifyUserDevices deviceId false)
  when (isTemporaryControllerId deviceId) (modify (fun s => { s with
    presence := s.presence.forget deviceId }))

/-- `UpdateUserDevices`. -/
def updateUserDevices (userId : String) (deviceIds : List String) (replace : Bool) :
    Program Unit :=
  modify (fun s =>
    let watched := if replace then ∅ else (s.presence.associations[userId]?).getD ∅
    { s with presence := { s.presence with
        associations := s.presence.associations.insert userId (watched ∪ deviceIds.toFinset) } })

end Application

end CrossDesk
