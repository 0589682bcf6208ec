import CrossDesk.IceServerConfigIssuer.Url
import CrossDesk.Lib.OrdMap
import CrossDesk.Json

/-!
# The ICE configuration issuer

`IceServerConfigIssuer` reads the configured list of STUN and TURN servers once, refuses what it does
not accept, drops addresses that it has seen, and hands out the rest with short-lived TURN
credentials.

The constructor is two nested loops, over the entries and over the addresses of an entry. `Progress`
is what both share; `Entry` is the entry that is being built. A thrown exception is its message.
HMAC, the random identifier and the clock are parameters of `issue`.
-/

namespace CrossDesk

namespace IceServerConfigIssuer

/-- `TurnCredentialIssuer`. -/
structure TurnCredentialIssuer where
  sharedSecret : String
  host : String
  port : Nat
  ttlSeconds : Nat
  deriving DecidableEq, Repr

/-- The constructor of `TurnCredentialIssuer`. -/
def TurnCredentialIssuer.create (sharedSecret host : String) (port ttlSeconds : Nat) :
    Except String TurnCredentialIssuer :=
  if sharedSecret = "" then .error "TURN shared secret must not be empty"
  else if sharedSecret.utf8ByteSize > 2147483647 then .error "TURN shared secret is too large"
  else if host = "" then .error "TURN public host must not be empty"
  else if port = 0 then .error "TURN port must not be zero"
  else if ttlSeconds = 0 then .error "TURN credential TTL must not be zero"
  else .ok { sharedSecret, host, port, ttlSeconds }

/-- `Server`. -/
structure Server where
  urls : List String
  credentials : Option TurnCredentialIssuer
  deriving DecidableEq, Repr

/-- What is known of the addresses so far: the canonical ones with their secret, and how many. -/
structure Progress where
  seen : OrdMap String String := ∅
  stunCount : Nat := 0
  turnCount : Nat := 0
  urlCount : Nat := 0

/-- The entry that is being built. -/
structure Entry where
  urls : List String := []
  credentialHost : String := ""
  credentialPort : Nat := 0
  deriving DecidableEq, Repr

/-- The host of an address without its brackets. -/
def credentialHost (host : List Char) : String :=
  String.ofList (if host.head? = some '[' then (host.drop 1).take (host.length - 2) else host)

/-- The secret that is remembered with an address. -/
def secretOf (secret : String) (e : Endpoint) : String :=
  match e.scheme with
  | .turn => secret
  | .stun => ""

def Progress.count (p : Progress) : Scheme → Nat
  | .stun => p.stunCount
  | .turn => p.turnCount

/-- An address that is new. -/
def Progress.add (secret : String) (e : Endpoint) (p : Progress) : Progress :=
  { seen := p.seen.insert (canonical e) (secretOf secret e)
    stunCount := if e.scheme = .stun then p.stunCount + 1 else p.stunCount
    turnCount := if e.scheme = .turn then p.turnCount + 1 else p.turnCount
    urlCount := p.urlCount }

/-- The first TURN address of an entry names the host of its credentials. -/
def Entry.add (e : Endpoint) (entry : Entry) : Entry :=
  if e.scheme = .turn ∧ entry.credentialHost = "" then
    { urls := entry.urls ++ [canonical e]
      credentialHost := IceServerConfigIssuer.credentialHost e.host
      credentialPort := e.port % 2 ^ 16 }
  else
    { entry with urls := entry.urls ++ [canonical e] }

/-- The inner loop's body. -/
def addUrl (secret : String) (s : Progress × Entry) (value : Json) :
    Except String (Progress × Entry) :=
  let p := { s.1 with urlCount := s.1.urlCount + 1 }
  match if p.urlCount > 32 then none else value.text with
  | none => .error "Too many or invalid ICE urls"
  | some url =>
    match parseUrl url with
    | .error message => .error message
    | .ok e =>
      if e.scheme = .turn ∧ secret = "" then
        .error "TURN endpoint requires a shared secret"
      else
        match p.seen[canonical e]? with
        | some existing =>
          if e.scheme = .turn ∧ existing ≠ secret then
            .error "Duplicate TURN endpoint has conflicting shared secrets"
          else .ok (p, s.2)
        | none =>
          if (p.add secret e).count e.scheme > 8 then
            .error "ICE list exceeds 8 STUN or 8 TURN endpoints"
          else .ok (p.add secret e, s.2.add e)

/-- The `urls` of an entry: a text stands for a list of one. -/
def entryUrls (entry : Json) : Except String (List Json) :=
  match entry.find "urls" with
  | none => .error "ICE server entry requires urls"
  | some (.str url) => .ok [.str url]
  | some (.arr []) => .error "Invalid ICE urls"
  | some (.arr urls) => .ok urls
  | some _ => .error "Invalid ICE urls"

/-- `entry.value("shared_secret", default_secret)`, which throws on a value that is no text. -/
def entrySecret (defaultSecret : String) (entry : Json) : Except String String :=
  match entry.find "shared_secret" with
  | none => .ok defaultSecret
  | some (.str secret) => .ok secret
  | some _ => .error "type must be string"

/-- What an entry leaves: nothing if all of its addresses were seen before. -/
def Entry.finish (secret : String) (ttlSeconds : Nat) (entry : Entry) :
    Except String (List Server) :=
  if entry.credentialHost = "" then
    .ok (if entry.urls = [] then [] else [{ urls := entry.urls, credentials := none }])
  else
    (TurnCredentialIssuer.create secret entry.credentialHost entry.credentialPort ttlSeconds).map
      fun credentials =>
        if entry.urls = [] then [] else [{ urls := entry.urls, credentials := some credentials }]

/-- The outer loop's body. -/
def addEntry (defaultSecret : String) (ttlSeconds : Nat) (s : Progress × List Server)
    (entry : Json) : Except String (Progress × List Server) :=
  (entryUrls entry).bind fun urls =>
    (entrySecret defaultSecret entry).bind fun secret =>
      (urls.foldlM (addUrl secret) (s.1, {})).bind fun (p, built) =>
        (built.finish secret ttlSeconds).map fun servers => (p, s.2 ++ servers)

end IceServerConfigIssuer

open IceServerConfigIssuer

/-- The issuer. -/
structure IceServerConfigIssuer where
  servers : List Server
  ttlSeconds : Nat
  deriving DecidableEq, Repr

namespace IceServerConfigIssuer

/-- The constructor. -/
def create (servers : Json) (defaultSecret : String) (ttlSeconds : Nat) :
    Except String IceServerConfigIssuer :=
  match servers with
  | .arr entries =>
    if entries.length > 16 ∨ ttlSeconds < 60 ∨ ttlSeconds > 86400 then
      .error "Invalid ICE server configuration or credential TTL"
    else
      (entries.foldlM (addEntry defaultSecret ttlSeconds) ({}, [])).map fun (_, servers) =>
        { servers, ttlSeconds }
  | _ => .error "Invalid ICE server configuration or credential TTL"

/-! ## Issuing -/

/-- `TurnCredentials`. -/
structure TurnCredentials where
  host : String
  port : Nat
  username : String
  password : String
  expiresAt : Int
  deriving DecidableEq, Repr

/-- `TurnCredentialIssuer::IssueAt`. `sign` is the encoded HMAC of a text under a secret. -/
def TurnCredentialIssuer.issueAt (sign : String → String → String) (userId : String)
    (nowSeconds : Int) (issuer : TurnCredentialIssuer) : Except String TurnCredentials :=
  if userId = "" then .error "TURN credential user id must not be empty"
  else if nowSeconds < 0 ∨ nowSeconds > 9223372036854775807 - issuer.ttlSeconds then
    .error "Invalid TURN credential issue time"
  else
    let expiresAt := nowSeconds + issuer.ttlSeconds
    let username := toString expiresAt ++ ":" ++ userId
    .ok {
      host := issuer.host
      port := issuer.port
      username
      password := sign issuer.sharedSecret username
      expiresAt }

/-- An entry of the issued list. -/
def entryMessage (urls : List String) : Option TurnCredentials → Json
  | none => .obj [("urls", .arr (urls.map .str))]
  | some credentials => .obj [
      ("urls", .arr (urls.map .str)),
      ("username", .str credentials.username),
      ("credential", .str credentials.password),
      ("expires_at", .int credentials.expiresAt)]

/-- The entry that clients without ICE lists read. -/
def turnMessage (credentials : TurnCredentials) : Json :=
  .obj [
    ("host", .str credentials.host),
    ("port", .int credentials.port),
    ("username", .str credentials.username),
    ("password", .str credentials.password),
    ("expires_at", .int credentials.expiresAt)]

/-- The list of servers, under the identifier of the issue. -/
def iceMessage (id : String) (expiresAt : Int) (entries : List Json) : Json :=
  .obj [
    ("version", .int 1),
    ("id", .str id),
    ("expires_at", .int expiresAt),
    ("servers", .arr entries)]

/-- The credentials of a server, for a recipient. -/
def Server.issue (sign : String → String → String) (recipient id : String) (now : Int)
    (server : Server) : Except String (Option TurnCredentials) :=
  match server.credentials with
  | none => .ok none
  | some issuer => (issuer.issueAt sign (recipient ++ ":" ++ id) now).map some

/-- `Issue`. The first credentials are also issued in the form of a single TURN server. -/
def issue (sign : String → String → String) (recipient id : String) (now : Int)
    (issuer : IceServerConfigIssuer) : Except String Json :=
  (issuer.servers.mapM (Server.issue sign recipient id now)).map fun credentials =>
    let entries := (issuer.servers.zip credentials).map (fun (server, c) => entryMessage server.urls c)
    .obj ((credentials.reduceOption.head?.map (fun c => ("turn", turnMessage c))).toList ++
      [("ice", iceMessage id (now + issuer.ttlSeconds) entries)])

end IceServerConfigIssuer

end CrossDesk
