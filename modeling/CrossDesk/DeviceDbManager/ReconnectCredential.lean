import CrossDesk.DeviceDbManager.AdminDataSafety

/-!
# Reconnect credentials

A device that logged in with its password is given a token with which it may log in again for thirty
days. The database keeps the digest of the token. The row goes with everything that takes the device's
authorization away: the triggers on `devices` delete it when the device is deleted, when its password
record changes and when a login key is bound.

SHA-256 is a parameter. It answers with 64 hexadecimal digits.
-/

namespace CrossDesk

/-- `ReconnectCredential`. -/
structure ReconnectCredential where
  token : String
  expiresAt : Int
  deriving DecidableEq, Repr

/-- A digest of 64 characters, as `Digest` makes it. -/
structure Sha256 where
  digest : String → String
  size : ∀ token : String, (digest token).utf8ByteSize = 64

/-- `kLifetimeSeconds`. -/
def reconnectLifetime : Int := 30 * 24 * 60 * 60

/-- `PersistentDevice`: the ids that are given tokens. -/
def persistentDevice (id : String) : Bool :=
  id != "" && !isTemporaryControllerRegistration id && decide (id.utf8ByteSize ≤ 128) &&
    decide ('\x00' ∉ id.toList) && decide ('@' ∉ id.toList) && !isTemporaryControllerId id &&
    !isAlias id

/-- `Hex`. -/
def hexText (bytes : List UInt8) : String :=
  String.ofList (bytes.flatMap (fun byte =>
    [(byte.toNat / 16).digitChar, (byte.toNat % 16).digitChar]))

/-- What a token is compared with when its device has no row. -/
def zeroDigest : String := String.ofList (List.replicate 64 '0')

namespace DeviceDbManager

/-- `IssueReconnectCredential`. `random` is what the generator drew, `none` when it failed. -/
def issueReconnectCredential (sha : Sha256) (fails : Bool) (now : Int)
    (random : Option (Vector UInt8 32)) (deviceId : String) (db : DeviceDbManager) :
    Option ReconnectCredential × DeviceDbManager :=
  if !persistentDevice deviceId then (none, db)
  else
    match random with
    | none => (none, db)
    | some bytes =>
      let result : ReconnectCredential :=
        { token := hexText bytes.toList, expiresAt := now + reconnectLifetime }
      -- the row is only written for a device that has no login key
      if fails || !(db.devices[deviceId]?).any (fun row => row.loginPublicKey == "") then (none, db)
      else
        (some result, { db with
          reconnectCredentials := db.reconnectCredentials.insert deviceId
            { tokenHash := sha.digest result.token, expiresAt := result.expiresAt } })

/-- `VerifyReconnectCredential`: the time at which the token ends. -/
def verifyReconnectCredential (sha : Sha256) (fails : Bool) (now : Int) (deviceId token : String)
    (db : DeviceDbManager) : Option Int :=
  if !persistentDevice deviceId || !isHex token 32 || fails then none
  else
    let joined := (db.reconnectCredentials[deviceId]?).filter (fun row =>
      row.tokenHash.utf8ByteSize == 64 &&
        (db.devices[deviceId]?).any (fun row => row.loginPublicKey == ""))
    let expected := (joined.map ReconnectRow.tokenHash).getD zeroDigest
    let expires := (joined.map ReconnectRow.expiresAt).getD 0
    if expected = sha.digest token ∧ now < expires then some expires else none

/-- `RevokeReconnectCredential`. -/
def revokeReconnectCredential (fails : Bool) (deviceId : String) (db : DeviceDbManager) :
    Bool × DeviceDbManager :=
  if !persistentDevice deviceId || fails then (false, db)
  else (true, forgetReconnectCredential deviceId db)

end DeviceDbManager

end CrossDesk
