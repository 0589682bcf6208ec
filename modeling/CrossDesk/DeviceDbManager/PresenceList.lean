import CrossDesk.DeviceDbManager.Basic

/-!
# Listing and counting the devices

What the administrator sees of `device_presence`: a list of devices of a kind that pass a filter, and
their number. The list (`ListDevicePresence`), the count (`CountDevicePresence`) and the counts for all
filters at once (`CountDevicePresenceByFilters`) are assembled from the same clauses in three ways.
They agree as long as the number of the devices fits into the `int` that the count is handed out as
(`presence_totals_agree_iff`).

A clause is a predicate of a row and its key. What is not in a clause is not in the tables either: a
column that the schema declares `NOT NULL` has a value, so a condition holds or does not.
-/

namespace CrossDesk

/-- `OnlineDeviceInfo`. -/
structure OnlineDeviceInfo where
  deviceId : String
  online : Bool := false
  updatedAt : Int := 0
  onlineSince : Int := 0
  onlineDurationSeconds : Int := 0
  currentControlSeconds : Int := 0
  currentControlledSeconds : Int := 0
  activeControlCount : Int := 0
  activeControlledCount : Int := 0
  activeControlTargets : List String := []
  activeControlledBy : List String := []
  clientVersion : String := ""
  clientPlatform : String := ""
  deriving DecidableEq, Repr

/-- `DevicePresenceCounts`. -/
structure DevicePresenceCounts where
  all : Int := 0
  online : Int := 0
  offline : Int := 0
  active : Int := 0
  web : Int := 0
  cli : Int := 0
  deriving DecidableEq, Repr

/-- `ToLower`. -/
def toLower (value : String) : String := String.ofList (DeviceDbManager.asciiLower value)

/-- `NormalizeDeviceKind`. -/
def normalizeDeviceKind (kind : String) : String :=
  let normalized := toLower kind
  if normalized = "web" ∨ normalized = "cli" ∨ normalized = "mobile" ∨ normalized = "all" then
    normalized
  else "pc"

/-- `CountForDeviceFilter`. -/
def countForDeviceFilter (counts : DevicePresenceCounts) (filter : String) : Int :=
  let normalized := toLower filter
  if normalized = "online" then counts.online
  else if normalized = "offline" then counts.offline
  else if normalized = "active" then counts.active
  else if normalized = "web" then counts.web
  else if normalized = "cli" then counts.cli
  else counts.all

namespace DeviceDbManager

/-! ## Clauses -/

/-- A row of `device_presence` with its key. -/
abbrev Presence := String × PresenceRow

/-- `DevicePresenceKindClause`. -/
def devicePresenceKindClause (kind : String) (p : Presence) : Bool :=
  let normalized := toLower kind
  let native := !like p.1 "web-" && !like p.1 "cli-" && !like p.1 "C-"
  if normalized = "web" then like p.1 "web-"
  else if normalized = "cli" then like p.1 "cli-"
  else if normalized = "all" then !like p.1 "C-"
  else if normalized = "mobile" then native && isMobilePlatform p.2.clientPlatform
  else native && !isMobilePlatform p.2.clientPlatform

/-- A session has the device as its host: the `EXISTS` of the filter `active`. -/
def isControlled (db : DeviceDbManager) (deviceId : String) : Bool :=
  db.remoteControlSessions.toList.any (fun session => normalizedHostId session.2 == deviceId)

/-- `DevicePresenceFilterClause`. -/
def devicePresenceFilterClause (filter kind : String) (db : DeviceDbManager) (p : Presence) : Bool :=
  let normalized := toLower filter
  if normalized = "web" then like p.1 "web-"
  else if normalized = "cli" then like p.1 "cli-"
  else devicePresenceKindClause kind p &&
    (if normalized = "online" then p.2.online
    else if normalized = "offline" then !p.2.online
    else if normalized = "active" then db.isControlled p.1
    else true)

/-- `DeviceClientFilterClause`. -/
def deviceClientFilterClause (platform version : String) (p : Presence) : Bool :=
  (platform == "" || p.2.clientPlatform == cString platform) &&
    (version == "" || p.2.clientVersion == cString version)

/-- What is common to the three statements: the rows of the clients and of the search that satisfy a
clause. -/
def presenceWhere (clause : Presence → Bool) (search platform version : String)
    (db : DeviceDbManager) : List Presence :=
  db.devicePresence.toList.filter (fun p => clause p && deviceClientFilterClause platform version p &&
    (search == "" || matchesSearch search p.1))

/-! ## Counting -/

/-- `CountDevicePresence`. -/
def countDevicePresence (search filter kind platform version : String) (db : DeviceDbManager) : Int :=
  asInt32 (db.presenceWhere (devicePresenceFilterClause filter kind db) search platform version).length

/-- `COALESCE(SUM(CASE WHEN clause THEN 1 ELSE 0 END), 0)`. -/
def sumWhen (clause : Presence → Bool) (rows : List Presence) : Int :=
  (rows.map (fun p => if clause p then 1 else 0)).sum

/-- `CountDevicePresenceByFilters`. -/
def countDevicePresenceByFilters (search kind platform version : String) (db : DeviceDbManager) :
    DevicePresenceCounts :=
  let rows := db.presenceWhere (fun _ => true) search platform version
  let kindClause := devicePresenceKindClause kind
  { all := sumWhen kindClause rows
    online := sumWhen (fun p => kindClause p && p.2.online) rows
    offline := sumWhen (fun p => kindClause p && !p.2.online) rows
    active := sumWhen (fun p => kindClause p && db.isControlled p.1) rows
    web := sumWhen (fun p => like p.1 "web-") rows
    cli := sumWhen (fun p => like p.1 "cli-") rows }

/-! ## Listing -/

/-- What a list of devices can be sorted by. -/
inductive SortExpression where
  | online
  | updatedAt
  | deviceId
  | onlineSince
  | onlineDurationSeconds
  | activeControlCount
  deriving DecidableEq, Repr

/-- `expression ASC` or `expression DESC`. -/
structure OrderTerm where
  expression : SortExpression
  ascending : Bool
  deriving DecidableEq, Repr

def SortExpression.compare (a b : OnlineDeviceInfo) : SortExpression → Ordering
  | online => Ord.compare a.online.toNat b.online.toNat
  | updatedAt => Ord.compare a.updatedAt b.updatedAt
  | deviceId => Ord.compare a.deviceId b.deviceId
  | onlineSince => Ord.compare a.onlineSince b.onlineSince
  | onlineDurationSeconds => Ord.compare a.onlineDurationSeconds b.onlineDurationSeconds
  | activeControlCount => Ord.compare a.activeControlCount b.activeControlCount

def OrderTerm.compare (a b : OnlineDeviceInfo) (term : OrderTerm) : Ordering :=
  if term.ascending then term.expression.compare a b else term.expression.compare b a

/-- `ORDER BY`: the first term that tells two rows apart. -/
def orderBy (terms : List OrderTerm) (a b : OnlineDeviceInfo) : Ordering :=
  terms.foldr (fun term rest => (term.compare a b).then rest) .eq

/-- `DevicePresenceSortClause`. -/
def devicePresenceSortClause (sort order : String) : List OrderTerm :=
  let ascending := decide (toLower order = "asc")
  let normalized := toLower sort
  if normalized = "status" then [⟨.online, ascending⟩, ⟨.updatedAt, false⟩, ⟨.deviceId, true⟩]
  else
    let expression : SortExpression :=
      if normalized = "device_id" ∨ normalized = "id" then .deviceId
      else if normalized = "online_since" then .onlineSince
      else if normalized = "current_online" then .onlineDurationSeconds
      else if normalized = "active_sessions" then .activeControlCount
      else .updatedAt
    [⟨expression, ascending⟩, ⟨.online, false⟩, ⟨.updatedAt, false⟩, ⟨.deviceId, true⟩]

/-- `SUM(MAX(0, now - started_at))` of some sessions. Where the sum is beyond sixty-four bits the
statement fails and the list ends there; clock readings in seconds do not come near. -/
def sessionSeconds (now : Int) (sessions : List (SessionKey × SessionRow)) : Int :=
  (sessions.map (fun session => max 0 (now - session.2.startedAt))).sum

/-- What is selected of a row. -/
def onlineDeviceInfo (now : Int) (db : DeviceDbManager) (p : Presence) : OnlineDeviceInfo :=
  let controls := db.remoteControlSessions.toList.filter (fun session =>
    normalizedGuestId session.1 == p.1)
  let controlled := db.remoteControlSessions.toList.filter (fun session =>
    normalizedHostId session.2 == p.1)
  { deviceId := p.1
    online := p.2.online
    updatedAt := p.2.updatedAt
    onlineSince := p.2.onlineSince
    onlineDurationSeconds :=
      if p.2.online && decide (0 < p.2.onlineSince) then max 0 (now - p.2.onlineSince) else 0
    currentControlSeconds := sessionSeconds now controls
    currentControlledSeconds := sessionSeconds now controlled
    activeControlCount := controls.length
    activeControlledCount := controlled.length
    activeControlTargets := splitCommaSeparatedIds
      (groupConcat (controls.map (fun session => normalizedHostId session.2)).dedup)
    activeControlledBy := splitCommaSeparatedIds
      (groupConcat (controlled.map (fun session => normalizedGuestId session.1)).dedup)
    clientVersion := p.2.clientVersion
    clientPlatform := p.2.clientPlatform }

/-- The devices that are found, in order. -/
def foundDevices (now : Int) (search filter sort order kind platform version : String)
    (db : DeviceDbManager) : List OnlineDeviceInfo :=
  ((db.presenceWhere (devicePresenceFilterClause filter kind db) search platform version).map
    (onlineDeviceInfo now db)).mergeSort
      (fun a b => (orderBy (devicePresenceSortClause sort order) a b).isLE)

/-- `ListDevicePresence`. -/
def listDevicePresence (now : Int) (limit offset : Nat)
    (search filter sort order kind platform version : String) (db : DeviceDbManager) :
    List OnlineDeviceInfo :=
  limitOffset (asInt64 limit) (asInt64 offset)
    (db.foundDevices now search filter sort order kind platform version)

end DeviceDbManager

end CrossDesk
