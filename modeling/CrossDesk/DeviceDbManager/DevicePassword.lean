import CrossDesk.DeviceDbManager.ReconnectCredential

/-!
# Checking a password

A record is *current* when it has the application's Argon2id format, and *legacy* when it holds a
salted SHA-256 digest. Checking a password against a legacy record makes a new record, to be stored in
its place: the migration.

The two digests are parameters. A fresh hash draws a salt, so it is not a function of the password;
what it gave is an argument (`hashed`), and it may have failed.
-/

namespace CrossDesk

/-- The two digests that passwords are checked with. `argon2id` is `Derive` for the salt of a record:
the text of the digest with its format, unless it fails. -/
structure PasswordHashing where
  argon2id : (password salt : String) → Option String
  sha : Sha256

namespace DevicePassword

/-- `ValidInput`. -/
def validInput (password : String) : Bool :=
  decide (password.utf8ByteSize ≤ 256) && decide ('\x00' ∉ password.toList)

/-- The record holds a salted SHA-256 digest. -/
def isLegacy (record : DevicePasswordRecord) : Bool :=
  unhexes record.salt 8 && unhexes record.hash 32

/-- `Verify`: the record to store from now on, when the password is right. `hashed` is what hashing
the password anew gave. -/
def verify (hashing : PasswordHashing) (hashed : Option DevicePasswordRecord)
    (record : Option DevicePasswordRecord) (password : String) : Option DevicePasswordRecord :=
  if !validInput password then none
  else
    match record with
    | none => none
    | some record =>
      if isCurrent record then
        if hashing.argon2id password record.salt = some record.hash then some record else none
      else if isLegacy record ∧ String.ofList (DeviceDbManager.asciiLower record.hash) =
          hashing.sha.digest (record.salt ++ password) then hashed
      else none

/-- The password is the one that the record was made of. -/
def Accepts (hashing : PasswordHashing) (record : DevicePasswordRecord) (password : String) : Prop :=
  validInput password = true ∧
    if isCurrent record then hashing.argon2id password record.salt = some record.hash
    else isLegacy record = true ∧ String.ofList (DeviceDbManager.asciiLower record.hash) =
      hashing.sha.digest (record.salt ++ password)

/-- A password that is right confirms a current record and replaces a legacy one. -/
theorem verify_eq_some_iff {hashing : PasswordHashing} {hashed : Option DevicePasswordRecord}
    {record record' : DevicePasswordRecord} {password : String} :
    verify hashing hashed (some record) password = some record' ↔
      Accepts hashing record password ∧
        if isCurrent record then record' = record else hashed = some record' := by
  unfold verify Accepts
  cases hvalid : validInput password with
  | false => simp
  | true =>
    by_cases hcurrent : isCurrent record = true
    · simp [hcurrent, eq_comm]
    · by_cases hlegacy : isLegacy record = true ∧
          String.ofList (DeviceDbManager.asciiLower record.hash) =
            hashing.sha.digest (record.salt ++ password)
      · simp [hcurrent, hlegacy]
      · simp [hcurrent, hlegacy]

end DevicePassword

end CrossDesk
