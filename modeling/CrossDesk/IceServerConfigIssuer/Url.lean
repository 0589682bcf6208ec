import Mathlib

/-!
# ICE server addresses

`stun:` and `turn:` addresses as the constructor of `IceServerConfigIssuer` reads them: a regular
expression takes the text apart, and what comes of it is an `Endpoint` — the scheme, the host with
its letters folded, the port as a number and the transport, defaults filled in. `canonical` writes an
endpoint down.

* `StandsFor` — what an address means, said without the constructor. It means one endpoint at most
  (`StandsFor.unique`).
* `matchUri_eq_some` — the matcher against the regular expression: what it takes apart is the text,
  put together again.
* `parseUrl_standsFor` — the endpoint that is read is the one that the address stands for.
* `parseUrl_canonical` — the canonical text of an endpoint that was read is read as that endpoint.
  So two endpoints with one canonical text are the same (`canonical_inj`).
-/

namespace CrossDesk

namespace IceServerConfigIssuer

/-! ## The regular expression -/

inductive Scheme where
  | stun
  | turn
  deriving DecidableEq, Repr

inductive Transport where
  | udp
  | tcp
  deriving DecidableEq, Repr

def Scheme.text : Scheme → List Char
  | stun => ['s', 't', 'u', 'n']
  | turn => ['t', 'u', 'r', 'n']

/-- The last group of the expression, with its question mark. -/
def Transport.text : Transport → List Char
  | udp => "?transport=udp".toList
  | tcp => "?transport=tcp".toList

/-- `[0-9A-Za-z:.%_-]`, inside brackets. -/
def isAddressChar (c : Char) : Bool := c.isAlphanum || c ∈ [':', '.', '%', '_', '-']

/-- `[A-Za-z0-9._-]`. -/
def isNameChar (c : Char) : Bool := c.isAlphanum || c ∈ ['.', '_', '-']

/-- The groups of a match. -/
structure UriMatch where
  scheme : Scheme
  host : List Char
  port : Option (List Char)
  transport : Option Transport
  deriving DecidableEq, Repr

/-- `(stun|turn):` -/
def readScheme : List Char → Option (Scheme × List Char)
  | 's' :: 't' :: 'u' :: 'n' :: ':' :: rest => some (.stun, rest)
  | 't' :: 'u' :: 'r' :: 'n' :: ':' :: rest => some (.turn, rest)
  | _ => none

/-- `(\[[0-9A-Za-z:.%_-]+\]|[A-Za-z0-9._-]+)` -/
def readHost : List Char → Option (List Char × List Char)
  | '[' :: rest =>
    match rest.takeWhile isAddressChar, rest.dropWhile isAddressChar with
    | c :: address, ']' :: rest => some ('[' :: (c :: address) ++ [']'], rest)
    | _, _ => none
  | url =>
    match url.takeWhile isNameChar with
    | [] => none
    | host => some (host, url.dropWhile isNameChar)

/-- `(:([0-9]{1,5}))?` -/
def readPort : List Char → Option (Option (List Char) × List Char)
  | ':' :: rest =>
    match rest.takeWhile Char.isDigit with
    | [] => none
    | digits => if digits.length ≤ 5 then some (some digits, rest.dropWhile Char.isDigit) else none
  | rest => some (none, rest)

/-- `(\?transport=(udp|tcp))?$` -/
def readTransport (rest : List Char) : Option (Option Transport) :=
  if rest = [] then some none
  else if rest = Transport.udp.text then some (some .udp)
  else if rest = Transport.tcp.text then some (some .tcp)
  else none

/-- `std::regex_match(url, match, uri)`. No group can be matched in two ways, so there is nothing to
backtrack. -/
def matchUri (url : List Char) : Option UriMatch :=
  (readScheme url).bind fun (scheme, rest) =>
    (readHost rest).bind fun (host, rest) =>
      (readPort rest).bind fun (port, rest) =>
        (readTransport rest).map fun transport => { scheme, host, port, transport }

/-! ### What the expression says -/

/-- A host: an address in brackets, or a name. -/
def HostText (host : List Char) : Prop :=
  (∃ address : List Char, address ≠ [] ∧ (∀ c ∈ address, isAddressChar c = true) ∧
    host = '[' :: address ++ [']']) ∨
  (host ≠ [] ∧ ∀ c ∈ host, isNameChar c = true)

def PortText (digits : List Char) : Prop :=
  digits ≠ [] ∧ digits.length ≤ 5 ∧ ∀ c ∈ digits, c.isDigit = true

/-- The text of an optional port. -/
def portText : Option (List Char) → List Char
  | none => []
  | some digits => ':' :: digits

/-- The text that was matched. -/
def UriMatch.text (m : UriMatch) : List Char :=
  m.scheme.text ++ ':' :: (m.host ++ (portText m.port ++ (m.transport.map Transport.text).getD []))

/-- The groups satisfy their parts of the expression. -/
structure UriMatch.Valid (m : UriMatch) : Prop where
  host : HostText m.host
  port : ∀ digits, m.port = some digits → PortText digits

/-- A run of characters up to the first that is not one of them. -/
theorem takeWhile_append_stop {p : Char → Bool} {l rest : List Char} (hl : ∀ c ∈ l, p c = true)
    (hrest : ∀ c, rest.head? = some c → p c = false) :
    (l ++ rest).takeWhile p = l ∧ (l ++ rest).dropWhile p = rest := by
  rw [List.takeWhile_append_of_pos hl, List.dropWhile_append_of_pos hl]
  cases rest with
  | nil => simp
  | cons c rest =>
    have hc := hrest c rfl
    simp [hc]

theorem readScheme_eq_some {url rest : List Char} {scheme : Scheme} :
    readScheme url = some (scheme, rest) ↔ url = scheme.text ++ ':' :: rest := by
  constructor
  · intro h
    unfold readScheme at h
    split at h
    · cases h
      rfl
    · cases h
      rfl
    · cases h
  · rintro rfl
    cases scheme <;> rfl

theorem readHost_sound {url host rest : List Char} (h : readHost url = some (host, rest)) :
    HostText host ∧ url = host ++ rest := by
  unfold readHost at h
  split at h
  case h_1 inner =>
    have hwhole := inner.takeWhile_append_dropWhile (p := isAddressChar)
    have hchars : ∀ c ∈ inner.takeWhile isAddressChar, isAddressChar c = true :=
      fun c hc => List.mem_takeWhile_imp hc
    split at h
    case h_1 c address rest' haddress hrest =>
      cases h
      rw [haddress] at hchars hwhole
      rw [hrest] at hwhole
      refine ⟨.inl ⟨c :: address, List.cons_ne_nil _ _, hchars, rfl⟩, ?_⟩
      rw [← hwhole]
      simp
    case h_2 => cases h
  case h_2 =>
    have hwhole := url.takeWhile_append_dropWhile (p := isNameChar)
    have hchars : ∀ c ∈ url.takeWhile isNameChar, isNameChar c = true :=
      fun c hc => List.mem_takeWhile_imp hc
    split at h
    case h_1 => cases h
    case h_2 hne =>
      cases h
      exact ⟨.inr ⟨hne, hchars⟩, hwhole.symm⟩

theorem readHost_complete {host rest : List Char} (hhost : HostText host)
    (hrest : ∀ c, rest.head? = some c → isNameChar c = false) :
    readHost (host ++ rest) = some (host, rest) := by
  rcases hhost with ⟨address, hne, haddress, rfl⟩ | ⟨hne, hname⟩
  · have hclosed : ∀ c, (']' :: rest).head? = some c → isAddressChar c = false := by
      rintro c ⟨⟩
      decide
    obtain ⟨htake, hdrop⟩ := takeWhile_append_stop haddress hclosed
    obtain ⟨c, address, rfl⟩ := List.exists_cons_of_ne_nil hne
    have hsame : '[' :: (c :: address) ++ [']'] ++ rest = '[' :: ((c :: address) ++ ']' :: rest) := by
      simp
    rw [hsame]
    unfold readHost
    simp only [htake, hdrop]
  · obtain ⟨htake, hdrop⟩ := takeWhile_append_stop hname hrest
    obtain ⟨c, host, rfl⟩ := List.exists_cons_of_ne_nil hne
    have hc : c ≠ '[' := by
      rintro rfl
      exact absurd (hname '[' List.mem_cons_self) (by decide)
    unfold readHost
    split
    case h_1 heq =>
      cases heq
      exact absurd rfl hc
    case h_2 => simp only [htake, hdrop]

theorem readPort_sound {url rest : List Char} {port : Option (List Char)}
    (h : readPort url = some (port, rest)) :
    (∀ digits, port = some digits → PortText digits) ∧ url = portText port ++ rest := by
  unfold readPort at h
  split at h
  case h_1 rest' =>
    have hwhole := rest'.takeWhile_append_dropWhile (p := Char.isDigit)
    have hchars : ∀ c ∈ rest'.takeWhile Char.isDigit, c.isDigit = true :=
      fun c hc => List.mem_takeWhile_imp hc
    split at h
    case h_1 => cases h
    case h_2 hne =>
      split at h
      case isTrue hlength =>
        cases h
        refine ⟨?_, ?_⟩
        · rintro digits ⟨⟩
          exact ⟨hne, hlength, hchars⟩
        · show _ = ':' :: _ ++ _
          rw [List.cons_append, hwhole]
      case isFalse => cases h
  case h_2 =>
    cases h
    exact ⟨nofun, rfl⟩

theorem readPort_complete {rest : List Char} {port : Option (List Char)}
    (hport : ∀ digits, port = some digits → PortText digits)
    (hrest : ∀ c, rest.head? = some c → c.isDigit = false ∧ c ≠ ':') :
    readPort (portText port ++ rest) = some (port, rest) := by
  cases port with
  | none =>
    unfold portText readPort
    rw [List.nil_append]
    split
    case h_1 => exact absurd rfl (hrest ':' rfl).2
    case h_2 => rfl
  | some digits =>
    obtain ⟨hne, hlength, hdigits⟩ := hport digits rfl
    obtain ⟨htake, hdrop⟩ := takeWhile_append_stop hdigits (fun c hc => (hrest c hc).1)
    obtain ⟨c, digits, rfl⟩ := List.exists_cons_of_ne_nil hne
    show readPort (':' :: ((c :: digits) ++ rest)) = _
    unfold readPort
    simp only [htake, hdrop, if_pos hlength]

theorem readTransport_eq_some {rest : List Char} {transport : Option Transport} :
    readTransport rest = some transport ↔ rest = (transport.map Transport.text).getD [] := by
  unfold readTransport
  constructor
  · intro h
    split_ifs at h with hnone hudp htcp
    · cases h
      exact hnone
    · cases h
      exact hudp
    · cases h
      exact htcp
  · rintro rfl
    cases transport with
    | none => rfl
    | some transport => cases transport <;> decide

/-- What follows the port is not part of it, nor of the host. -/
theorem head?_transport {transport : Option Transport} {c : Char}
    (h : ((transport.map Transport.text).getD []).head? = some c) : c = '?' := by
  cases transport with
  | none => cases h
  | some transport =>
    cases transport <;> exact (Option.some.inj h).symm

/-- The matcher against the regular expression. -/
theorem matchUri_eq_some {url : List Char} {m : UriMatch} :
    matchUri url = some m ↔ m.Valid ∧ m.text = url := by
  constructor
  · intro h
    unfold matchUri at h
    obtain ⟨⟨scheme, afterScheme⟩, hscheme, h⟩ := Option.bind_eq_some_iff.mp h
    obtain ⟨⟨host, afterHost⟩, hhost, h⟩ := Option.bind_eq_some_iff.mp h
    obtain ⟨⟨port, afterPort⟩, hport, h⟩ := Option.bind_eq_some_iff.mp h
    obtain ⟨transport, htransport, rfl⟩ := Option.map_eq_some_iff.mp h
    obtain ⟨hvalid, rfl⟩ := readHost_sound hhost
    obtain ⟨hdigits, rfl⟩ := readPort_sound hport
    obtain rfl := readTransport_eq_some.mp htransport
    rw [readScheme_eq_some.mp hscheme]
    exact ⟨⟨hvalid, hdigits⟩, rfl⟩
  · rintro ⟨⟨hhost, hport⟩, rfl⟩
    obtain ⟨scheme, host, port, transport⟩ := m
    have hafter : ∀ c, (portText port ++ (transport.map Transport.text).getD []).head? = some c →
        isNameChar c = false := by
      intro c hc
      cases port with
      | none =>
        rw [head?_transport hc]
        decide
      | some digits =>
        cases hc
        decide
    have hscheme : ∀ rest, readScheme (scheme.text ++ ':' :: rest) = some (scheme, rest) :=
      fun rest => readScheme_eq_some.mpr rfl
    have hquestion : ∀ c, ((transport.map Transport.text).getD []).head? = some c →
        c.isDigit = false ∧ c ≠ ':' := by
      intro c hc
      rw [head?_transport hc]
      decide
    have htransport : readTransport ((transport.map Transport.text).getD []) = some transport :=
      readTransport_eq_some.mpr rfl
    unfold matchUri UriMatch.text
    rw [hscheme]
    simp only [Option.bind_some, readHost_complete hhost hafter, readPort_complete hport hquestion,
      htransport, Option.map_some]

/-! ## Endpoints -/

/-- What an address stands for. A `stun:` address has no transport. -/
structure Endpoint where
  scheme : Scheme
  host : List Char
  port : Nat
  transport : Option Transport
  deriving DecidableEq, Repr

/-! ### What an address stands for -/

/-- The host with its letters folded, up to the zone of an address. -/
def FoldsTo (host folded : List Char) : Prop :=
  ∃ name zone : List Char, host = name ++ zone ∧ '%' ∉ name ∧ (∀ c, zone.head? = some c → c = '%') ∧
    folded = name.map Char.toLower ++ zone

/-- The number that decimal digits are. -/
def decimal (digits : List Char) : Nat :=
  digits.foldl (fun n c => 10 * n + (c.toNat - '0'.toNat)) 0

/-- The port that is meant: 3478, unless one is given. -/
inductive PortOf : Option (List Char) → Nat → Prop where
  | default : PortOf none 3478
  | given {digits : List Char} : PortText digits → PortOf (some digits) (decimal digits)

/-- The endpoint that an address stands for. TURN is spoken over UDP, unless TCP is asked for. -/
inductive StandsFor (url : String) : Endpoint → Prop where
  | stun {host folded : List Char} {port : Option (List Char)} {number : Nat} :
      HostText host → FoldsTo host folded → PortOf port number →
      url.toList = "stun:".toList ++ (host ++ portText port) →
      StandsFor url { scheme := .stun, host := folded, port := number, transport := none }
  | turn {host folded : List Char} {port : Option (List Char)} {number : Nat}
      {transport : Option Transport} :
      HostText host → FoldsTo host folded → PortOf port number →
      url.toList = "turn:".toList ++ (host ++ (portText port ++
        (transport.map Transport.text).getD [])) →
      StandsFor url
        { scheme := .turn, host := folded, port := number, transport := some (transport.getD .udp) }

/-- The address is one of the scheme. -/
def hasScheme (scheme : Scheme) (url : String) : Bool :=
  (scheme.text ++ [':']).isPrefixOf url.toList

/-! ### What the constructor reads -/

/-- `std::transform` with `std::tolower`, up to the zone of an address. -/
def foldCase : List Char → List Char
  | [] => []
  | c :: host => if c = '%' then c :: host else c.toLower :: foldCase host

/-- The checks of the constructor on one address, without the secret and the counters. The regular
expression matches no character that takes more than one byte. -/
def parseUrl (url : String) : Except String Endpoint :=
  if "turns:".toList.isPrefixOf url.toList then
    .error "TURN/TLS is not supported by the current libnice backend"
  else
    match if url.length > 512 then none else matchUri url.toList with
    | none => .error "Invalid ICE URL; use stun: or turn:"
    | some m =>
      if m.scheme = .stun ∧ m.transport ≠ none then
        .error "Unsupported ICE URL transport"
      else
        let port := (m.port.map (fun digits => Nat.ofDigitChars 10 digits 0)).getD 3478
        if port = 0 ∨ port > 65535 then
          .error "Invalid ICE server port"
        else if (m.host.head? = some '[' ∧ ':' ∉ m.host) ∨
            m.host.length + 1 + (toString port).length > 255 then
          .error "Invalid or oversized ICE server address"
        else
          .ok {
            scheme := m.scheme
            host := foldCase m.host
            port
            transport := match m.scheme with
              | .stun => none
              | .turn => some (m.transport.getD .udp) }

/-- The match that an endpoint is written as. -/
def Endpoint.match (e : Endpoint) : UriMatch :=
  { scheme := e.scheme, host := e.host, port := some (toString e.port).toList, transport := e.transport }

/-- The canonical address: default port and transport filled in, letters folded. -/
def canonical (e : Endpoint) : String := String.ofList e.match.text

/-! ### Folding letters -/

/-- Folding does not touch what is not a letter. -/
theorem toLower_eq_iff {c d : Char} (hd : d.isAlpha = false) : c.toLower = d ↔ c = d := by
  have hsame : c.isAlpha = false → c.toLower = c := by
    intro hc
    refine Char.toLower_eq_of_not_isUpper fun hupper => ?_
    simp [Char.isAlpha, hupper] at hc
  constructor
  · rintro rfl
    rw [Char.isAlpha_toLower_eq_isAlpha] at hd
    exact (hsame hd).symm
  · rintro rfl
    exact hsame hd

theorem isAddressChar_toLower {c : Char} (h : isAddressChar c = true) :
    isAddressChar c.toLower = true := by
  unfold isAddressChar at h ⊢
  rw [Char.isAlphanum, Char.isAlpha_toLower_eq_isAlpha]
  rw [Char.isAlphanum] at h
  by_cases hc : c.isAlpha = true
  · simp [hc]
  · rw [Bool.not_eq_true] at hc
    rwa [(toLower_eq_iff hc).mpr rfl]

theorem isNameChar_toLower {c : Char} (h : isNameChar c = true) : isNameChar c.toLower = true := by
  unfold isNameChar at h ⊢
  rw [Char.isAlphanum, Char.isAlpha_toLower_eq_isAlpha]
  rw [Char.isAlphanum] at h
  by_cases hc : c.isAlpha = true
  · simp [hc]
  · rw [Bool.not_eq_true] at hc
    rwa [(toLower_eq_iff hc).mpr rfl]

theorem foldCase_cons_of_ne {c : Char} (host : List Char) (hc : c ≠ '%') :
    foldCase (c :: host) = c.toLower :: foldCase host := if_neg hc

theorem foldCase_ne_nil {host : List Char} (h : host ≠ []) : foldCase host ≠ [] := by
  obtain ⟨c, host, rfl⟩ := List.exists_cons_of_ne_nil h
  unfold foldCase
  split_ifs <;> exact List.cons_ne_nil _ _

theorem length_foldCase (host : List Char) : (foldCase host).length = host.length := by
  induction host with
  | nil => rfl
  | cons c host ih =>
    unfold foldCase
    split_ifs
    · rfl
    · rw [List.length_cons, List.length_cons, ih]

/-- What folding letters keeps of all characters. -/
theorem forall_mem_foldCase {p : Char → Bool} (hp : ∀ c, p c = true → p c.toLower = true)
    {host : List Char} (h : ∀ c ∈ host, p c = true) : ∀ c ∈ foldCase host, p c = true := by
  induction host with
  | nil => exact h
  | cons c host ih =>
    obtain ⟨hc, hhost⟩ := List.forall_mem_cons.mp h
    unfold foldCase
    split_ifs
    · exact h
    · exact List.forall_mem_cons.mpr ⟨hp c hc, ih hhost⟩

theorem mem_foldCase {d : Char} (hd : d.isAlpha = false) {host : List Char} :
    d ∈ foldCase host ↔ d ∈ host := by
  induction host with
  | nil => exact Iff.rfl
  | cons c host ih =>
    unfold foldCase
    split_ifs
    · exact Iff.rfl
    · rw [List.mem_cons, List.mem_cons, ih, eq_comm, toLower_eq_iff hd, eq_comm]

theorem head?_foldCase {d : Char} (hd : d.isAlpha = false) {host : List Char} :
    (foldCase host).head? = some d ↔ host.head? = some d := by
  cases host with
  | nil => exact Iff.rfl
  | cons c host =>
    unfold foldCase
    split_ifs
    · exact Iff.rfl
    · rw [List.head?_cons, List.head?_cons, Option.some_inj, Option.some_inj, toLower_eq_iff hd]

theorem foldCase_foldCase (host : List Char) : foldCase (foldCase host) = foldCase host := by
  induction host with
  | nil => rfl
  | cons c host ih =>
    by_cases hc : c = '%'
    · subst hc
      rfl
    · have hlower : c.toLower ≠ '%' := fun h => hc ((toLower_eq_iff (by decide)).mp h)
      rw [foldCase_cons_of_ne host hc, foldCase_cons_of_ne _ hlower, ih,
        Char.toLower_toLower_eq_toLower]

theorem foldCase_append_bracket (host : List Char) :
    foldCase (host ++ [']']) = foldCase host ++ [']'] := by
  induction host with
  | nil => decide
  | cons c host ih =>
    rw [List.cons_append]
    by_cases hc : c = '%'
    · subst hc
      rfl
    · rw [foldCase_cons_of_ne _ hc, foldCase_cons_of_ne _ hc, ih, List.cons_append]

/-- A host keeps its form. -/
theorem HostText.foldCase {host : List Char} (h : HostText host) : HostText (foldCase host) := by
  rcases h with ⟨address, hne, haddress, rfl⟩ | ⟨hne, hname⟩
  · refine .inl ⟨_, foldCase_ne_nil hne,
      forall_mem_foldCase (fun c hc => isAddressChar_toLower hc) haddress, ?_⟩
    rw [List.cons_append, foldCase_cons_of_ne _ (by decide), foldCase_append_bracket]
    rfl
  · exact .inr ⟨foldCase_ne_nil hne, forall_mem_foldCase (fun c hc => isNameChar_toLower hc) hname⟩

/-! ### Meaning and reading -/

/-- Folding is folding up to the zone. -/
theorem foldsTo_iff {host folded : List Char} : FoldsTo host folded ↔ folded = foldCase host := by
  constructor
  · rintro ⟨name, zone, rfl, hname, hzone, rfl⟩
    induction name with
    | nil =>
      cases zone with
      | nil => rfl
      | cons c zone =>
        rw [hzone c rfl]
        rfl
    | cons c name ih =>
      rw [List.mem_cons, not_or] at hname
      rw [List.cons_append, foldCase_cons_of_ne _ (Ne.symm hname.1), ← ih hname.2]
      rfl
  · rintro rfl
    induction host with
    | nil => exact ⟨[], [], rfl, nofun, nofun, rfl⟩
    | cons c host ih =>
      by_cases hc : c = '%'
      · subst hc
        refine ⟨[], '%' :: host, rfl, nofun, ?_, rfl⟩
        rintro c ⟨⟩
        rfl
      · obtain ⟨name, zone, hhost, hname, hzone, hfolded⟩ := ih
        refine ⟨c :: name, zone, by rw [hhost]; rfl, ?_, hzone, ?_⟩
        · rw [List.mem_cons, not_or]
          exact ⟨Ne.symm hc, hname⟩
        · rw [foldCase_cons_of_ne host hc, hfolded]
          rfl

/-- The endpoint that the constructor makes of a match. -/
def UriMatch.endpoint (m : UriMatch) : Endpoint where
  scheme := m.scheme
  host := foldCase m.host
  port := (m.port.map (fun digits => Nat.ofDigitChars 10 digits 0)).getD 3478
  transport := match m.scheme with
    | .stun => none
    | .turn => some (m.transport.getD .udp)

theorem portOf_iff {port : Option (List Char)} {number : Nat}
    (hport : ∀ digits, port = some digits → PortText digits) : PortOf port number ↔
      number = (port.map (fun digits => Nat.ofDigitChars 10 digits 0)).getD 3478 := by
  constructor
  · rintro (_ | _)
    · rfl
    · exact Nat.ofDigitChars_eq_foldl.symm
  · rintro rfl
    cases port with
    | none => exact .default
    | some digits =>
      have hnumber : Nat.ofDigitChars 10 digits 0 = decimal digits := Nat.ofDigitChars_eq_foldl
      rw [Option.map_some, Option.getD_some, hnumber]
      exact .given (hport digits rfl)

theorem PortOf.text {port : Option (List Char)} {number : Nat} (h : PortOf port number) :
    ∀ digits, port = some digits → PortText digits := by
  cases h with
  | default => exact nofun
  | given hdigits =>
    rintro _ ⟨⟩
    exact hdigits

/-- An address stands for what comes of its match. -/
theorem standsFor_iff {url : String} {e : Endpoint} : StandsFor url e ↔
    ∃ m, matchUri url.toList = some m ∧ ¬ (m.scheme = .stun ∧ m.transport ≠ none) ∧
      e = m.endpoint := by
  constructor
  · intro h
    cases h with
    | @stun host folded port number hhost hfolds hport htext =>
      refine ⟨{ scheme := .stun, host, port, transport := none },
        matchUri_eq_some.mpr ⟨⟨hhost, hport.text⟩, ?_⟩, fun hnot => hnot.2 rfl, ?_⟩
      · rw [htext]
        simp [UriMatch.text, Scheme.text]
      · rw [foldsTo_iff.mp hfolds, (portOf_iff hport.text).mp hport]
        rfl
    | @turn host folded port number transport hhost hfolds hport htext =>
      refine ⟨{ scheme := .turn, host, port, transport },
        matchUri_eq_some.mpr ⟨⟨hhost, hport.text⟩, ?_⟩, nofun, ?_⟩
      · rw [htext]
        simp [UriMatch.text, Scheme.text]
      · rw [foldsTo_iff.mp hfolds, (portOf_iff hport.text).mp hport]
        rfl
  · rintro ⟨⟨scheme, host, port, transport⟩, hmatch, hnot, rfl⟩
    obtain ⟨⟨hhost, hdigits⟩, htext⟩ := matchUri_eq_some.mp hmatch
    have hport := (portOf_iff hdigits).mpr rfl
    have hfolds := foldsTo_iff.mpr (rfl : foldCase host = foldCase host)
    cases scheme with
    | stun =>
      have hnone : transport = none := by
        by_contra hsome
        exact hnot ⟨rfl, hsome⟩
      subst hnone
      refine .stun hhost hfolds hport ?_
      rw [← htext]
      simp [UriMatch.text, Scheme.text]
    | turn =>
      refine .turn hhost hfolds hport ?_
      rw [← htext]
      simp [UriMatch.text, Scheme.text]

/-- **An address stands for one endpoint.** -/
theorem StandsFor.unique {url : String} {e e' : Endpoint} (h : StandsFor url e)
    (h' : StandsFor url e') : e = e' := by
  obtain ⟨m, hmatch, -, rfl⟩ := standsFor_iff.mp h
  obtain ⟨m', hmatch', -, rfl⟩ := standsFor_iff.mp h'
  rw [hmatch, Option.some.injEq] at hmatch'
  rw [hmatch']

theorem StandsFor.hasScheme {url : String} {e : Endpoint} (h : StandsFor url e) (scheme : Scheme) :
    IceServerConfigIssuer.hasScheme scheme url = true ↔ e.scheme = scheme := by
  unfold IceServerConfigIssuer.hasScheme
  cases h with
  | stun _ _ _ htext =>
    rw [htext]
    cases scheme <;> simp [Scheme.text, List.isPrefixOf]
  | turn _ _ _ htext =>
    rw [htext]
    cases scheme <;> simp [Scheme.text, List.isPrefixOf]

/-- **What is read is what the address stands for.** -/
theorem parseUrl_standsFor {url : String} {e : Endpoint} (h : parseUrl url = .ok e) :
    StandsFor url e := by
  unfold parseUrl at h
  split at h
  · cases h
  · split at h
    · cases h
    · rename_i m hm
      dsimp only at h
      split_ifs at h with htransport hport hhost
      cases h
      have hmatch : matchUri url.toList = some m := by
        split_ifs at hm
        exact hm
      exact standsFor_iff.mpr ⟨m, hmatch, htransport, rfl⟩

/-! ### Round trip -/

/-- What the checks leave of a match. -/
theorem parseUrl_eq_ok {url : String} {e : Endpoint} (h : parseUrl url = .ok e) :
    HostText e.host ∧ foldCase e.host = e.host ∧ 0 < e.port ∧ e.port ≤ 65535 ∧
      ¬ (e.host.head? = some '[' ∧ ':' ∉ e.host) ∧
      e.host.length + 1 + (toString e.port).length ≤ 255 ∧
      (e.transport = none ↔ e.scheme = .stun) := by
  unfold parseUrl at h
  split at h
  · cases h
  · split at h
    · cases h
    · rename_i m hm
      dsimp only at h
      split_ifs at h with htransport hport hhost
      cases h
      have hmatch : matchUri url.toList = some m := by
        split_ifs at hm
        exact hm
      obtain ⟨⟨hvalid, -⟩, -⟩ := matchUri_eq_some.mp hmatch
      obtain ⟨hbracket, hsize⟩ := not_or.mp hhost
      obtain ⟨hzero, hlarge⟩ := not_or.mp hport
      refine ⟨hvalid.foldCase, foldCase_foldCase _, Nat.pos_of_ne_zero hzero, not_lt.mp hlarge, ?_,
        ?_, ?_⟩
      · rwa [head?_foldCase (by decide), mem_foldCase (by decide)]
      · show (foldCase m.host).length + 1 + _ ≤ 255
        rw [length_foldCase]
        exact not_lt.mp hsize
      · cases m.scheme <;> simp

/-- The digits of a port. -/
theorem portText_toString {port : Nat} (h : port ≤ 65535) : PortText (toString port).toList := by
  rw [Nat.toString_eq_ofList_toDigits, String.toList_ofList]
  refine ⟨Nat.toDigits_ne_nil, ?_, fun c hc => Nat.isDigit_of_mem_toDigits (by decide) (by decide) hc⟩
  rw [Nat.length_toDigits_le_iff (by decide) (by decide)]
  omega

/-- **Round trip.** The canonical address of what was read is read as that. -/
theorem parseUrl_canonical {url : String} {e : Endpoint} (h : parseUrl url = .ok e) :
    parseUrl (canonical e) = .ok e := by
  obtain ⟨hhost, hfold, hpositive, hport, hbracket, hsize, htransport⟩ := parseUrl_eq_ok h
  obtain ⟨scheme, host, port, transport⟩ := e
  dsimp only at *
  have hvalid : (Endpoint.match { scheme, host, port, transport }).Valid := by
    refine ⟨hhost, ?_⟩
    rintro digits ⟨⟩
    exact portText_toString hport
  have hmatch := matchUri_eq_some.mpr ⟨hvalid, rfl⟩
  have hdigits : Nat.ofDigitChars 10 (toString port).toList 0 = port := by
    rw [Nat.toString_eq_ofList_toDigits, String.toList_ofList, Nat.ofDigitChars_ten_toDigits]
  have htext : (canonical { scheme, host, port, transport }).toList =
      (Endpoint.match { scheme, host, port, transport }).text := String.toList_ofList
  have hlength : ¬ (canonical { scheme, host, port, transport }).length > 512 := by
    have hscheme : scheme.text.length = 4 := by cases scheme <;> rfl
    have htail : ((transport.map Transport.text).getD []).length ≤ 14 := by
      cases transport with
      | none => exact Nat.zero_le _
      | some transport => cases transport <;> decide
    rw [← String.length_toList, htext]
    unfold UriMatch.text Endpoint.match portText
    simp only [List.length_append, List.length_cons, String.length_toList]
    omega
  have hturns : "turns:".toList.isPrefixOf (canonical { scheme, host, port, transport }).toList =
      false := by
    rw [htext]
    cases scheme <;> rfl
  unfold parseUrl
  rw [if_neg (by rw [hturns]; exact Bool.false_ne_true), if_neg hlength, htext, hmatch]
  dsimp only [Endpoint.match, Option.map_some, Option.getD_some]
  simp only [hdigits]
  rw [if_neg (by rw [← htransport]; exact fun h => h.2 h.1), if_neg (by omega),
    if_neg (not_or.mpr ⟨hbracket, by omega⟩), hfold]
  refine congrArg Except.ok ?_
  congr 1
  cases scheme with
  | stun => exact (htransport.mpr rfl).symm
  | turn =>
    cases transport with
    | none => cases htransport.mp rfl
    | some transport => rfl

/-- Two addresses that were read have one canonical text only if they stand for the same. -/
theorem canonical_inj {url url' : String} {e e' : Endpoint} (h : parseUrl url = .ok e)
    (h' : parseUrl url' = .ok e') (hsame : canonical e = canonical e') : e = e' := by
  have hread := parseUrl_canonical h
  rw [hsame, parseUrl_canonical h'] at hread
  exact (Except.ok.inj hread).symm

end IceServerConfigIssuer

end CrossDesk
