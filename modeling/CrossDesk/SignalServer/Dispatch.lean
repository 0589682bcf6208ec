import CrossDesk.Application.Jobs

/-!
# Which handler a message reaches

A message is a JSON object with a text under `type`. Two types are compared as texts: `ping`, which the
network thread answers, and the one of the notification service. The others are told apart by a `switch`
over a hash: the bytes of the text are the digits of a number in base 131, and the hash is that number
modulo `2 ^ 64`. The hash reads a C string, so it ends at the first NUL, and a JSON text may contain one.

* **The case labels** have different hashes, else the `switch` would not compile
  (`label_hash_injective`).
* **Another text** reaches the handler of a label exactly if the two numbers are congruent
  (`hashStringPiece_eq_iff`). This happens behind a NUL, and also without one: `BYtPbg6AAPiH` is taken
  for `login`.
* **`char`** is signed on some machines that the server is built for and unsigned on others. The texts of
  the labels are ASCII; what is said here holds for both.
-/

namespace CrossDesk

/-! ## The hash -/

/-- The value of a byte as a `char`. -/
def charValue (signed : Bool) (byte : UInt8) : Int :=
  if signed && decide (128 ≤ byte) then (byte.toNat : Int) - 256 else byte.toNat

/-- The loop of `HASH_STRING_PIECE`. The end of the list is the NUL behind the text. -/
def hashStringPieceFrom (signed : Bool) (result : UInt64) : ByteString → UInt64
  | [] => result
  | byte :: rest =>
    if byte = 0 then result
    else hashStringPieceFrom signed (result * 131 + UInt64.ofInt (charValue signed byte)) rest

/-- `HASH_STRING_PIECE` of the C string of a text. -/
def hashStringPiece (signed : Bool) (text : String) : UInt64 :=
  hashStringPieceFrom signed 0 (utf8Bytes text)

/-- The number that the bytes write in base 131. -/
def pieceNumber (signed : Bool) (bytes : ByteString) : Int :=
  bytes.foldl (fun number byte => number * 131 + charValue signed byte) 0

/-- The bytes of a text before its first NUL. -/
def cStringBytes (text : String) : ByteString := (utf8Bytes text).takeWhile (· ≠ 0)

theorem ofInt_eq_ofInt_iff {a b : Int} : UInt64.ofInt a = UInt64.ofInt b ↔ a ≡ b [ZMOD 2 ^ 64] := by
  rw [← UInt64.toNat_inj]
  show (a % 2 ^ 64).toNat % 2 ^ 64 = (b % 2 ^ 64).toNat % 2 ^ 64 ↔ a % 2 ^ 64 = b % 2 ^ 64
  omega

/-- The loop computes the number, modulo `2 ^ 64`. -/
theorem hashStringPieceFrom_eq (signed : Bool) (number : Int) (bytes : ByteString) :
    hashStringPieceFrom signed (UInt64.ofInt number) bytes =
      UInt64.ofInt ((bytes.takeWhile (· ≠ 0)).foldl
        (fun number byte => number * 131 + charValue signed byte) number) := by
  induction bytes generalizing number with
  | nil => rfl
  | cons byte rest ih =>
    rw [hashStringPieceFrom]
    by_cases hnul : byte = 0
    · rw [if_pos hnul, List.takeWhile_cons_of_neg (by simpa using hnul)]
      rfl
    · rw [if_neg hnul, List.takeWhile_cons_of_pos (by simpa using hnul), List.foldl_cons, ← ih,
        UInt64.ofInt_add, UInt64.ofInt_mul]
      rfl

/-- **When two texts have the same hash.** -/
theorem hashStringPiece_eq_iff {signed : Bool} {text text' : String} :
    hashStringPiece signed text = hashStringPiece signed text' ↔
      pieceNumber signed (cStringBytes text) ≡ pieceNumber signed (cStringBytes text')
        [ZMOD 2 ^ 64] := by
  have hhash : ∀ t : String,
      hashStringPiece signed t = UInt64.ofInt (pieceNumber signed (cStringBytes t)) :=
    fun t => hashStringPieceFrom_eq signed 0 (utf8Bytes t)
  rw [hhash, hhash, ofInt_eq_ofInt_iff]

/-! ## The switch -/

namespace MessageKind

/-- The case label of a handler. -/
def label : MessageKind → String
  | login => "login"
  | sessionReport => "session_report"
  | revokeReconnectCredential => "revoke_reconnect_credential"
  | leaveTransmission => "user_leave_transmission"
  | disconnectPeer => "disconnect_peer"
  | queryUserIdList => "query_user_id_list"
  | joinTransmission => "join_transmission"
  | offer => "offer"
  | answer => "answer"
  | newCandidate => "new_candidate"
  | newCandidateMid => "new_candidate_mid"
  | changePassword => "change_password"
  | turnCredentials => "turn_credentials"
  | clientInfo => "client_info"
  | recentConnectionsPresence => "recent_connections_presence"

/-- The cases of the `switch`. -/
def cases : List MessageKind :=
  [login, sessionReport, revokeReconnectCredential, leaveTransmission, disconnectPeer,
    queryUserIdList, joinTransmission, offer, answer, newCandidate, newCandidateMid, changePassword,
    turnCredentials, clientInfo, recentConnectionsPresence]

theorem mem_cases (kind : MessageKind) : kind ∈ cases := by
  cases kind <;> decide

end MessageKind

/-- Where a message goes. -/
inductive Dispatch where
  /-- The heartbeat of the connection. -/
  | heartbeat
  /-- `HandleClientMessage` of the notification service. -/
  | announcements
  | handler (kind : MessageKind)
  /-- It is logged that the type is not known. -/
  | unknown
  deriving DecidableEq, Repr

/-- `IsClientMessage`. -/
def isClientMessage (type : String) : Bool := type == "announcements_list"

/-- The `switch` of `ProcessMessage`. -/
def switchOnType (signed : Bool) (type : String) : Option MessageKind :=
  MessageKind.cases.find? (fun kind =>
    hashStringPiece signed kind.label == hashStringPiece signed type)

/-- Where `ProcessMessage` hands a message to. -/
def processMessage (signed : Bool) (type : String) : Dispatch :=
  if isClientMessage type then .announcements
  else
    match switchOnType signed type with
    | some kind => .handler kind
    | none => .unknown

/-- Where a message goes: `OnMessage`, and `ProcessMessage` on the application worker. -/
def onMessage (signed : Bool) (type : String) : Dispatch :=
  if type = "ping" then .heartbeat else processMessage signed type

/-- Two labels with the same hash are the same label. -/
theorem label_hash_injective {signed : Bool} {kind kind' : MessageKind}
    (h : hashStringPiece signed kind.label = hashStringPiece signed kind'.label) : kind = kind' := by
  have hall : ∀ signed : Bool, ∀ kind ∈ MessageKind.cases, ∀ kind' ∈ MessageKind.cases,
      hashStringPiece signed kind.label = hashStringPiece signed kind'.label → kind = kind' := by
    decide +kernel
  exact hall signed kind kind.mem_cases kind' kind'.mem_cases h

/-- The `switch` finds the handler whose label has the hash of the type. -/
theorem switchOnType_eq_some_iff {signed : Bool} {type : String} {kind : MessageKind} :
    switchOnType signed type = some kind ↔
      hashStringPiece signed kind.label = hashStringPiece signed type := by
  constructor
  · intro h
    simpa using List.find?_some h
  · intro h
    cases hfound : switchOnType signed type with
    | none =>
      have hnot := List.find?_eq_none.mp hfound kind kind.mem_cases
      exact absurd (by simpa using h) hnot
    | some kind' =>
      have hsame : hashStringPiece signed kind'.label = hashStringPiece signed type := by
        simpa using List.find?_some hfound
      rw [label_hash_injective (hsame.trans h.symm)]

/-! ## Exactness -/

/-- The two types that are compared as texts have hashes of their own. -/
theorem label_hash_ne (signed : Bool) (kind : MessageKind) :
    hashStringPiece signed kind.label ≠ hashStringPiece signed "ping" ∧
      hashStringPiece signed kind.label ≠ hashStringPiece signed "announcements_list" := by
  have hall : ∀ signed : Bool, ∀ kind ∈ MessageKind.cases,
      hashStringPiece signed kind.label ≠ hashStringPiece signed "ping" ∧
        hashStringPiece signed kind.label ≠ hashStringPiece signed "announcements_list" := by
    decide +kernel
  exact hall signed kind kind.mem_cases

/-- A message reaches the handler whose label has the hash of its type. -/
theorem onMessage_eq_handler_iff {signed : Bool} {type : String} {kind : MessageKind} :
    onMessage signed type = .handler kind ↔
      hashStringPiece signed kind.label = hashStringPiece signed type := by
  rw [← switchOnType_eq_some_iff, onMessage, processMessage]
  constructor
  · intro h
    split at h
    · cases h
    · split at h
      · cases h
      · cases hswitch : switchOnType signed type with
        | none => simp [hswitch] at h
        | some kind' =>
          rw [hswitch] at h
          cases h
          rfl
  · intro h
    obtain ⟨hping, hannouncements⟩ := label_hash_ne signed kind
    have hhash := switchOnType_eq_some_iff.mp h
    rw [if_neg, if_neg, h]
    · intro hclient
      rw [eq_of_beq hclient] at hhash
      exact hannouncements hhash
    · rintro rfl
      exact hping hhash

theorem utf8Bytes_append (text rest : String) :
    utf8Bytes (text ++ rest) = utf8Bytes text ++ utf8Bytes rest := by
  simp [utf8Bytes]

/-- What follows a NUL plays no part. -/
theorem cStringBytes_nul (text rest : String) :
    cStringBytes (text ++ "\x00" ++ rest) = cStringBytes text := by
  have hnul : utf8Bytes "\x00" = [0] := by decide +kernel
  rw [cStringBytes, cStringBytes, utf8Bytes_append, utf8Bytes_append, hnul, List.append_assoc]
  induction utf8Bytes text with
  | nil => rfl
  | cons byte bytes ih =>
    rw [List.cons_append, List.takeWhile_cons, ih, List.takeWhile_cons]

/-- Behind a NUL every label can be continued. -/
theorem onMessage_label_nul (signed : Bool) (kind : MessageKind) (rest : String) :
    onMessage signed (kind.label ++ "\x00" ++ rest) = .handler kind := by
  rw [onMessage_eq_handler_iff, hashStringPiece_eq_iff, cStringBytes_nul]

/-- **When the dispatch of a type is exact.** It reaches the handler of its own label and no other,
unless the bytes before its first NUL write, modulo `2 ^ 64`, the number of a label that it is not. -/
theorem dispatch_exact_iff (signed : Bool) (type : String) :
    (∀ kind : MessageKind, onMessage signed type = .handler kind ↔ type = kind.label) ↔
      ∀ kind : MessageKind, type ≠ kind.label →
        ¬ pieceNumber signed (cStringBytes kind.label) ≡ pieceNumber signed (cStringBytes type)
          [ZMOD 2 ^ 64] := by
  simp only [onMessage_eq_handler_iff, hashStringPiece_eq_iff]
  constructor
  · intro hexact kind hother hcongruent
    exact hother ((hexact kind).mp hcongruent)
  · intro hapart kind
    constructor
    · intro hcongruent
      by_contra hother
      exact hapart kind hother hcongruent
    · rintro rfl
      rfl

/-- Two texts that are no labels, one with a NUL and one without, reach the handler of `login`. -/
theorem dispatch_exact_refuted :
    ("login\x00x" ≠ MessageKind.login.label ∧ onMessage true "login\x00x" = .handler .login ∧
      onMessage false "login\x00x" = .handler .login) ∧
    "BYtPbg6AAPiH" ≠ MessageKind.login.label ∧ onMessage true "BYtPbg6AAPiH" = .handler .login ∧
      onMessage false "BYtPbg6AAPiH" = .handler .login := by
  decide +kernel

/-! ## On the application worker -/

namespace Application

/-- `ProcessMessage`, for the messages that change the data of the application. -/
def processMessage (signed : Bool) (cfg : Config) (env : Env) (hdl : ConnectionHdl) (request : Json) :
    Program Unit :=
  match request.getStringField "type" with
  | none => pure ()
  | some type =>
    match CrossDesk.processMessage signed type with
    | .handler kind => kind.process cfg env hdl request
    | _ => pure ()

/-- What a message does is nothing, or what one of the jobs of the server does. -/
theorem processMessage_job (signed : Bool) (cfg : Config) (env : Env) (hdl : ConnectionHdl)
    (request : Json) :
    processMessage signed cfg env hdl request = pure () ∨
      ∃ kind : MessageKind, processMessage signed cfg env hdl request =
        (Job.message kind hdl request).program cfg env := by
  unfold processMessage
  split
  · exact .inl rfl
  · split
    · next kind _ => exact .inr ⟨kind, rfl⟩
    · exact .inl rfl

end Application

end CrossDesk
