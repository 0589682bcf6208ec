import CrossDesk.Application.SessionRecovery
import CrossDesk.DeviceDbManager.PresenceList
import CrossDesk.TransmissionManager.Snapshots

/-!
# The overview of the administrator

`HandleOverview` answers with a page of the devices and a page of the sessions, each with the number of
all that were found. What the administrator asks for comes as the parameters of the request; a size is
a decimal number that fits into a `size_t`, and another text counts as none.

The sessions are read from the database. Only when it counts none are the rooms shown that the
transmission manager holds.
-/

namespace CrossDesk

/-! ## Parameters -/

/-- The parameters of a request, by their names. -/
abbrev Params := OrdMap String String

/-- The loop of `ParseSize`. -/
def parseSizeFrom (parsed : Nat) : List Char → Option Nat
  | [] => some parsed
  | ch :: rest =>
    if !ch.isDigit then none
    else
      let digit := ch.toNat - '0'.toNat
      if (2 ^ 64 - 1 - digit) / 10 < parsed then none else parseSizeFrom (parsed * 10 + digit) rest

/-- `ParseSize`. -/
def parseSize (value : String) : Option Nat := if value = "" then none else parseSizeFrom 0 value.toList

/-- `QuerySizeParam`. -/
def querySizeParam (params : Params) (key : String) (fallback maxValue : Nat) : Nat :=
  match params[key]? with
  | none => fallback
  | some value =>
    match parseSize value with
    | none => fallback
    | some size => min size maxValue

/-- `QueryStringParam`, where a missing parameter is empty. -/
def queryStringParam (params : Params) (key : String) : String := (params[key]?).getD ""

/-- `QueryStringParam` with a fallback, also for an empty parameter. -/
def queryStringParamOr (params : Params) (key fallback : String) : String :=
  match params[key]? with
  | none => fallback
  | some value => if value = "" then fallback else value

/-- `kDefaultPageLimit`. -/
def defaultPageLimit : Nat := 50

/-- `kMaxPageLimit`. -/
def maxPageLimit : Nat := 200

/-- A signed number where a `size_t` is expected. -/
def asSize (n : Int) : Nat := (n % 2 ^ 64).toNat

/-! ## The overview -/

/-- `ClientKind`. -/
def clientKind (device : OnlineDeviceInfo) : String :=
  if startsWith device.deviceId "web-" then "web"
  else if startsWith device.deviceId "cli-" then "cli"
  else if toLower device.clientPlatform = "ios" ∨ toLower device.clientPlatform = "android" then
    "mobile"
  else "device"

/-- An entry of `devices`, beside what is selected of the device. -/
structure DeviceEntry where
  device : OnlineDeviceInfo
  kind : String
  lastOnlineAt : Int
  activeSessionCount : Int
  deriving DecidableEq, Repr

/-- An entry of `sessions`. -/
structure SessionEntry where
  transmissionId : String
  hostId : String
  guestIds : List String
  participantCount : Nat
  recoveringCount : Option Nat := none
  active : Bool
  deriving DecidableEq, Repr

/-- What `HandleOverview` answers about the devices and the sessions. -/
structure Overview where
  devices : List DeviceEntry
  devicesTotal : Nat
  deviceCounts : DevicePresenceCounts
  /-- By kind: `pc`, `mobile`, `web` and `cli`. -/
  deviceKindCounts : List (String × Int)
  sessions : List SessionEntry
  sessionsTotal : Nat
  deriving DecidableEq, Repr

def deviceEntry (device : OnlineDeviceInfo) : DeviceEntry where
  device := device
  kind := clientKind device
  lastOnlineAt := if device.online then 0 else device.updatedAt
  activeSessionCount := device.activeControlCount + device.activeControlledCount

namespace Application

/-- An entry for a session of the database. -/
def storedSession (s : Application) (session : DeviceDbManager.RemoteControlSessionInfo) :
    SessionEntry :=
  let recovering := session.guestIds.countP (fun guest => s.isRecovering session.transmissionId guest)
  { transmissionId := session.transmissionId
    hostId := session.hostId
    guestIds := session.guestIds
    participantCount := 1 + session.guestIds.length
    recoveringCount := some recovering
    active := decide (recovering < session.guestIds.length) }

/-- An entry for a room. -/
def shownSession (snapshot : TransmissionSnapshot) : SessionEntry where
  transmissionId := snapshot.transmissionId
  hostId := snapshot.hostId
  guestIds := snapshot.guestIds
  participantCount := snapshot.participantCount
  active := snapshot.active

/-- The sessions of `HandleOverview`, and how many there are. -/
def overviewSessions (limit offset : Nat) (search : String) (s : Application) :
    List SessionEntry × Nat :=
  let total := asSize (s.store.countRemoteControlTransmissions search)
  let sessions := (s.store.listRemoteControlSessions limit offset search).map s.storedSession
  if total = 0 then
    let snapshots := s.manager.getTransmissionSnapshots limit offset search true
    (sessions ++ snapshots.1.map shownSession, snapshots.2)
  else (sessions, total)

/-- `HandleOverview`, as far as it concerns the devices and the sessions. -/
def handleOverview (now : Int) (params : Params) (s : Application) : Overview :=
  let search := queryStringParam params "device_search"
  let filter := queryStringParamOr params "device_filter" "online"
  let kind := normalizeDeviceKind (queryStringParamOr params "device_kind" "pc")
  let platform := queryStringParam params "device_platform"
  let version := queryStringParam params "device_version"
  let counts := s.store.countDevicePresenceByFilters search kind platform version
  -- the counts of the kind that is asked for are not counted again
  let kindCounts (other : String) := if kind = other then counts
    else s.store.countDevicePresenceByFilters search other platform version
  let sessions := s.overviewSessions
    (querySizeParam params "session_limit" defaultPageLimit maxPageLimit)
    (querySizeParam params "session_offset" 0 (2 ^ 64 - 1)) (queryStringParam params "session_search")
  { devices := (s.store.listDevicePresence now
        (querySizeParam params "device_limit" defaultPageLimit maxPageLimit)
        (querySizeParam params "device_offset" 0 (2 ^ 64 - 1)) search filter
        (queryStringParamOr params "device_sort" "status")
        (queryStringParamOr params "device_order" "desc") kind platform version).map deviceEntry
    devicesTotal := asSize (countForDeviceFilter counts filter)
    deviceCounts :=
      { counts with web := (kindCounts "web").all, cli := (kindCounts "cli").all }
    deviceKindCounts := [("pc", (kindCounts "pc").all), ("mobile", (kindCounts "mobile").all),
      ("web", (kindCounts "web").all), ("cli", (kindCounts "cli").all)]
    sessions := sessions.1
    sessionsTotal := sessions.2 }

end Application

end CrossDesk
