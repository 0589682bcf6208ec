import CrossDesk.Lib.Loop
import CrossDesk.IceServerConfigIssuer.Basic

/-!
# Normalization

What the constructor makes of the configured addresses.

* `Stored` is the invariant of both loops: what is stored are the canonical addresses of everything
  that was read, each once, in the order of the first occurrence; `seen` remembers each with the one
  secret of all its occurrences, and the counters count what is stored.
* `replay` is a simulation: a constructor that reads what another one has stored goes through the same
  states, apart from the number of addresses read. So normalizing is idempotent.

`Normalized` says all this of what the addresses stand for (`StandsFor`), not of how they are read.
-/

namespace CrossDesk.IceServerConfigIssuer

/-! ## One address -/

/-- The inner loop's body on a text. -/
def addText (secret : String) (s : Progress × Entry) (url : String) :
    Except String (Progress × Entry) := addUrl secret s (.str url)

/-- One more address was read. -/
def Progress.read (p : Progress) : Progress := { p with urlCount := p.urlCount + 1 }

/-- What becomes of an address that is accepted. -/
inductive Accepts (secret : String) (s : Progress × Entry) (e : Endpoint) :
    Progress × Entry → Prop where
  | again {existing : String} (hseen : s.1.seen[canonical e]? = some existing)
      (hsecret : e.scheme = .turn → existing = secret) : Accepts secret s e (s.1.read, s.2)
  | fresh (hseen : s.1.seen[canonical e]? = none) (hcount : (s.1.add secret e).count e.scheme ≤ 8) :
      Accepts secret s e (s.1.read.add secret e, s.2.add e)

theorem addText_eq_ok {secret url : String} {s s' : Progress × Entry} :
    addText secret s url = .ok s' ↔ s.1.urlCount < 32 ∧ ∃ e, parseUrl url = .ok e ∧
      (e.scheme = .turn → secret ≠ "") ∧ Accepts secret s e s' := by
  constructor
  · intro h
    unfold addText addUrl at h
    dsimp only at h
    split at h
    case h_1 => cases h
    case h_2 text htext =>
      split_ifs at htext with hcount
      obtain rfl : url = text := Option.some.inj htext
      refine ⟨by omega, ?_⟩
      split at h
      case h_1 => cases h
      case h_2 e he =>
        by_cases hempty : e.scheme = .turn ∧ secret = ""
        · rw [if_pos hempty] at h
          cases h
        rw [if_neg hempty] at h
        refine ⟨e, he, fun hturn hsecret => hempty ⟨hturn, hsecret⟩, ?_⟩
        cases hseen : s.1.seen[canonical e]? with
        | some existing =>
          simp only [hseen] at h
          split_ifs at h with hconflict
          cases h
          -- The endpoint is known: another secret for it would have been refused.
          refine .again hseen fun hturn => ?_
          by_contra hne
          exact hconflict ⟨hturn, hne⟩
        | none =>
          simp only [hseen] at h
          split_ifs at h with hfull
          cases h
          exact .fresh hseen (not_lt.mp hfull)
  · rintro ⟨hcount, e, he, hempty, haccepts⟩
    have hread : (if (s.1.urlCount + 1) > 32 then none else Json.text (.str url)) = some url :=
      if_neg (by omega)
    have hsecret : ¬ (e.scheme = .turn ∧ secret = "") := fun h => hempty h.1 h.2
    unfold addText addUrl
    simp only [hread, he, if_neg hsecret]
    cases haccepts with
    | again hseen hsame =>
      have hconflict : ¬ (e.scheme = .turn ∧ _ ≠ secret) := fun h => h.2 (hsame h.1)
      simp only [hseen, if_neg hconflict]
      rfl
    | fresh hseen hfits =>
      simp only [hseen]
      exact if_neg (not_lt.mpr hfits)

/-! ## The invariant -/

theorem standsFor_canonical {url : String} {e : Endpoint} (h : parseUrl url = .ok e) :
    StandsFor (canonical e) e := parseUrl_standsFor (parseUrl_canonical h)

theorem hasScheme_canonical {url : String} {e : Endpoint} (h : parseUrl url = .ok e)
    (scheme : Scheme) : hasScheme scheme (canonical e) = true ↔ e.scheme = scheme :=
  (standsFor_canonical h).hasScheme scheme

/-- What was read so far, each endpoint with the secret of its entry, and what is stored of it. -/
structure Stored (done : List (String × Endpoint)) (stored : List String) (p : Progress) : Prop where
  deduped : stored = (done.map (fun o => canonical o.2)).eraseDups
  read : ∀ o ∈ done, ∃ url, parseUrl url = .ok o.2
  secret : ∀ o ∈ done, o.2.scheme = .turn → o.1 ≠ ""
  seen : ∀ o ∈ done, p.seen[canonical o.2]? = some (secretOf o.1 o.2)
  known : ∀ url existing, p.seen[url]? = some existing → url ∈ stored
  counts : ∀ scheme, p.count scheme = stored.countP (hasScheme scheme) ∧
    p.count scheme ≤ 8

section Stored

variable {done : List (String × Endpoint)} {stored : List String} {p : Progress}

theorem Stored.mem (h : Stored done stored p) {url : String} :
    url ∈ stored ↔ ∃ o ∈ done, canonical o.2 = url := by
  rw [h.deduped, List.mem_eraseDups, List.mem_map]

theorem Stored.start : Stored [] [] {} := by
  constructor
  case deduped => rfl
  case read => exact nofun
  case secret => exact nofun
  case seen => exact nofun
  case known =>
    intro url existing h
    simp at h
  case counts => exact fun scheme => ⟨by cases scheme <;> rfl, by cases scheme <;> decide⟩

/-- One endpoint has one secret. -/
theorem Stored.one_secret (h : Stored done stored p) {o o' : String × Endpoint} (ho : o ∈ done)
    (ho' : o' ∈ done) (hsame : o.2 = o'.2) (hturn : o.2.scheme = .turn) : o.1 = o'.1 := by
  have hseen := h.seen o ho
  rw [hsame, h.seen o' ho', Option.some_inj] at hseen
  unfold secretOf at hseen
  rw [← hsame, hturn] at hseen
  exact hseen.symm

/-- **One address** keeps the invariant. -/
theorem Stored.step (h : Stored done stored p) {secret url : String} {entry : Entry} {e : Endpoint}
    {s' : Progress × Entry} (hread : parseUrl url = .ok e) (hsecret : e.scheme = .turn → secret ≠ "")
    (haccepts : Accepts secret (p, entry) e s') :
    Stored (done ++ [(secret, e)])
      (if canonical e ∈ stored then stored else stored ++ [canonical e]) s'.1 := by
  have hall : ∀ {P : String × Endpoint → Prop}, (∀ o ∈ done, P o) → P (secret, e) →
      ∀ o ∈ done ++ [(secret, e)], P o := by
    intro P hold hnew o ho
    rcases List.mem_append.mp ho with ho | ho
    · exact hold o ho
    · rw [List.mem_singleton.mp ho]
      exact hnew
  cases haccepts with
  | @again existing hseen hsame =>
    have hmem : canonical e ∈ stored := h.known _ _ hseen
    rw [if_pos hmem]
    constructor
    case deduped =>
      rw [List.map_append, h.deduped]
      refine (eraseDups_concat_of_mem ?_).symm
      obtain ⟨o, ho, heq⟩ := h.mem.mp hmem
      exact List.mem_map.mpr ⟨o, ho, heq⟩
    case read => exact hall h.read ⟨url, hread⟩
    case secret => exact hall h.secret hsecret
    case seen =>
      refine hall h.seen ?_
      -- the endpoint was read before, with the same secret
      obtain ⟨o, ho, heq⟩ := h.mem.mp hmem
      obtain ⟨url', hread'⟩ := h.read o ho
      have hsameEndpoint : o.2 = e := canonical_inj hread' hread heq
      have hold := h.seen o ho
      rw [heq] at hold
      show p.seen[canonical e]? = some (secretOf secret e)
      rw [hold, hsameEndpoint]
      have hexisting : existing = secretOf o.1 e := by
        rw [hsameEndpoint] at hold
        exact Option.some.inj (hseen.symm.trans hold)
      cases hscheme : e.scheme with
      | stun => simp [secretOf, hscheme]
      | turn =>
        have hequal := hsame hscheme
        rw [hexisting] at hequal
        simpa [secretOf, hscheme] using hequal
    case known => exact h.known
    case counts => exact h.counts
  | fresh hseen hcount =>
    have hnew : canonical e ∉ stored := by
      intro hmem
      obtain ⟨o, ho, heq⟩ := h.mem.mp hmem
      have hold := h.seen o ho
      rw [heq, hseen] at hold
      cases hold
    rw [if_neg hnew]
    constructor
    case deduped =>
      rw [List.map_append, h.deduped]
      refine (eraseDups_concat_of_not_mem ?_).symm
      intro hmem
      obtain ⟨o, ho, heq⟩ := List.mem_map.mp hmem
      exact hnew (h.mem.mpr ⟨o, ho, heq⟩)
    case read => exact hall h.read ⟨url, hread⟩
    case secret => exact hall h.secret hsecret
    case seen =>
      refine hall (fun o ho => ?_) Std.ExtTreeMap.getElem?_insert_self
      have hne : canonical e ≠ canonical o.2 := fun heq => hnew (h.mem.mpr ⟨o, ho, heq.symm⟩)
      show (p.seen.insert (canonical e) (secretOf secret e))[canonical o.2]? = _
      rw [Std.ExtTreeMap.getElem?_insert, if_neg (by simpa using hne)]
      exact h.seen o ho
    case known =>
      intro url' existing hfound
      have hcase : (p.seen.insert (canonical e) (secretOf secret e))[url']? = some existing := hfound
      rw [Std.ExtTreeMap.getElem?_insert] at hcase
      split_ifs at hcase with heq
      · have heq' : canonical e = url' := by simpa using heq
        exact List.mem_append_right _ (List.mem_singleton.mpr heq'.symm)
      · exact List.mem_append_left _ (h.known url' existing hcase)
    case counts =>
      intro scheme
      have hscheme := hasScheme_canonical hread
      have hold := h.counts scheme
      rw [List.countP_append, List.countP_singleton, ← hold.1]
      by_cases hsame : e.scheme = scheme
      · subst hsame
        refine ⟨?_, hcount⟩
        rw [if_pos ((hscheme e.scheme).mpr rfl)]
        cases hcase : e.scheme <;> simp [Progress.add, Progress.count, Progress.read, hcase]
      · have hkept : (p.read.add secret e).count scheme = p.count scheme := by
          cases hcase : e.scheme <;> cases scheme <;>
            simp_all [Progress.add, Progress.count, Progress.read]
        rw [hkept, if_neg fun hyes => hsame ((hscheme scheme).mp hyes)]
        exact ⟨rfl, hold.2⟩

/-- The same, where what is stored ends with the entry that is being built. -/
theorem Stored.add {base : List String} {secret url : String} {entry : Entry} {e : Endpoint}
    {s' : Progress × Entry} (h : Stored done (base ++ entry.urls) p) (hread : parseUrl url = .ok e)
    (hsecret : e.scheme = .turn → secret ≠ "") (haccepts : Accepts secret (p, entry) e s') :
    Stored (done ++ [(secret, e)]) (base ++ s'.2.urls) s'.1 := by
  have hstep := h.step hread hsecret haccepts
  cases haccepts with
  | again hseen hsame =>
    rw [if_pos (h.known _ _ hseen)] at hstep
    exact hstep
  | fresh hseen hcount =>
    have hnew : canonical e ∉ base ++ entry.urls := by
      intro hmem
      obtain ⟨o, ho, heq⟩ := h.mem.mp hmem
      have hold := h.seen o ho
      rw [heq, hseen] at hold
      cases hold
    have hurls : (entry.add e).urls = entry.urls ++ [canonical e] := by
      unfold Entry.add
      split_ifs <;> rfl
    rw [if_neg hnew, List.append_assoc] at hstep
    show Stored _ (base ++ (entry.add e).urls) _
    rw [hurls]
    exact hstep

end Stored

/-! ## The two loops -/

/-- An entry that was read: its addresses and its secret. -/
abbrev Configured := List String × String

/-- What an entry of the configuration says. -/
def Reads (defaultSecret : String) (entry : Json) (c : Configured) : Prop :=
  entryUrls entry = .ok (c.1.map .str) ∧ entrySecret defaultSecret entry = .ok c.2

/-- The endpoints of an entry, each with the entry's secret. -/
def occurrences (c : Configured) : List (String × Endpoint) :=
  c.1.filterMap (fun url => (parseUrl url).toOption.map (fun e => (c.2, e)))

/-- The outer loop's body on an entry that was read. -/
def addConfigured (ttlSeconds : Nat) (s : Progress × List Server) (c : Configured) :
    Except String (Progress × List Server) :=
  (c.1.foldlM (addText c.2) (s.1, {})).bind fun (p, built) =>
    (built.finish c.2 ttlSeconds).map fun servers => (p, s.2 ++ servers)

theorem addEntry_of_reads {defaultSecret : String} {ttlSeconds : Nat} {entry : Json}
    {c : Configured} (h : Reads defaultSecret entry c) (s : Progress × List Server) :
    addEntry defaultSecret ttlSeconds s entry = addConfigured ttlSeconds s c := by
  unfold addEntry addConfigured
  rw [h.1, h.2]
  show ((c.1.map Json.str).foldlM (addUrl c.2) (s.1, {})).bind _ = _
  rw [List.foldlM_map]
  rfl

/-- The values that the inner loop accepts are texts. -/
theorem texts_of_foldlM {secret : String} {values : List Json} {s s' : Progress × Entry}
    (h : values.foldlM (addUrl secret) s = .ok s') : ∃ urls : List String, values = urls.map .str := by
  induction values generalizing s with
  | nil => exact ⟨[], rfl⟩
  | cons value values ih =>
    obtain ⟨mid, hfirst, hrest⟩ := foldlM_cons_eq_ok.mp h
    obtain ⟨urls, rfl⟩ := ih hrest
    cases value with
    | str url => exact ⟨url :: urls, rfl⟩
    | null | bool _ | int _ | float _ | arr _ | obj _ =>
      unfold addUrl at hfirst
      simp [Json.text] at hfirst

theorem addEntry_eq_ok {defaultSecret : String} {ttlSeconds : Nat} {entry : Json}
    {s s' : Progress × List Server} (h : addEntry defaultSecret ttlSeconds s entry = .ok s') :
    ∃ c, Reads defaultSecret entry c ∧ addConfigured ttlSeconds s c = .ok s' := by
  have hwhole := h
  unfold addEntry at h
  cases hurls : entryUrls entry with
  | error message =>
    rw [hurls] at h
    cases h
  | ok values =>
    cases hsecret : entrySecret defaultSecret entry with
    | error message =>
      rw [hurls, hsecret] at h
      cases h
    | ok secret =>
      rw [hurls, hsecret] at h
      cases hloop : values.foldlM (addUrl secret) (s.1, {}) with
      | error message =>
        simp only [Except.bind, hloop] at h
        cases h
      | ok built =>
        obtain ⟨urls, rfl⟩ := texts_of_foldlM hloop
        have hreads : Reads defaultSecret entry (urls, secret) := ⟨hurls, hsecret⟩
        exact ⟨(urls, secret), hreads, by rw [← addEntry_of_reads hreads]; exact hwhole⟩

theorem foldlM_addEntry {defaultSecret : String} {ttlSeconds : Nat} {entries : List Json}
    {configured : List Configured} (h : List.Forall₂ (Reads defaultSecret) entries configured)
    (s : Progress × List Server) :
    entries.foldlM (addEntry defaultSecret ttlSeconds) s =
      configured.foldlM (addConfigured ttlSeconds) s := by
  induction h generalizing s with
  | nil => rfl
  | cons hreads _ ih =>
    rw [List.foldlM_cons, List.foldlM_cons, addEntry_of_reads hreads]
    exact bind_congr ih

theorem configured_of_foldlM {defaultSecret : String} {ttlSeconds : Nat} {entries : List Json}
    {s s' : Progress × List Server}
    (h : entries.foldlM (addEntry defaultSecret ttlSeconds) s = .ok s') :
    ∃ configured, List.Forall₂ (Reads defaultSecret) entries configured := by
  induction entries generalizing s with
  | nil => exact ⟨[], .nil⟩
  | cons entry entries ih =>
    obtain ⟨mid, hfirst, hrest⟩ := foldlM_cons_eq_ok.mp h
    obtain ⟨c, hreads, -⟩ := addEntry_eq_ok hfirst
    obtain ⟨configured, hconfigured⟩ := ih hrest
    exact ⟨c :: configured, .cons hreads hconfigured⟩

/-- The host of an address is not empty. -/
theorem credentialHost_ne_empty {host : List Char} (h : HostText host) : credentialHost host ≠ "" := by
  have hne : (if host.head? = some '[' then (host.drop 1).take (host.length - 2) else host) ≠ [] := by
    rcases h with ⟨address, haddress, -, rfl⟩ | ⟨hne, hname⟩
    · rw [if_pos (show ('[' :: address ++ [']']).head? = some '[' from rfl)]
      simpa using haddress
    · rw [if_neg]
      · exact hne
      · intro hhead
        exact absurd (hname '[' (List.mem_of_head? hhead)) (by decide)
  unfold credentialHost
  intro hempty
  rw [← String.toList_inj, String.toList_ofList] at hempty
  exact hne hempty

/-- The entry names a host for its credentials once it stores a TURN address. -/
def Entry.Named (entry : Entry) : Prop :=
  entry.credentialHost = "" ↔ ∀ url ∈ entry.urls, hasScheme .turn url ≠ true

theorem Entry.Named.add {entry : Entry} (h : entry.Named) {url : String} {e : Endpoint}
    (hread : parseUrl url = .ok e) : (entry.add e).Named := by
  have hscheme := hasScheme_canonical hread
  unfold Entry.Named Entry.add at *
  split_ifs with hturn
  · dsimp only
    refine iff_of_false (credentialHost_ne_empty (parseUrl_eq_ok hread).1) fun hall => ?_
    exact hall (canonical e) (by simp) ((hscheme .turn).mpr hturn.1)
  · dsimp only
    rw [h]
    constructor
    · intro hall url' hmem
      rcases List.mem_append.mp hmem with hmem | hmem
      · exact hall url' hmem
      · rw [List.mem_singleton.mp hmem]
        intro hsame
        exact hturn ⟨(hscheme .turn).mp hsame, h.mpr hall⟩
    · exact fun hall url' hmem => hall url' (List.mem_append_left _ hmem)

theorem Entry.Named.foldlM {urls : List String} {secret : String} {p : Progress} {entry : Entry}
    {s' : Progress × Entry} (h : entry.Named)
    (hloop : urls.foldlM (addText secret) (p, entry) = .ok s') : s'.2.Named := by
  refine @foldlM_history _ _ _ (addText secret) (fun _ s => s.2.Named) ?_ [] urls _ _ h hloop
  rintro _ ⟨p, entry⟩ url s' hnamed hadd
  obtain ⟨-, e, hread, -, haccepts⟩ := addText_eq_ok.mp hadd
  cases haccepts with
  | again _ _ => exact hnamed
  | fresh _ _ => exact hnamed.add hread

theorem Entry.Named.empty : Entry.Named {} := iff_of_true rfl nofun

/-- All addresses can be read. -/
def Readable (c : Configured) : Prop := ∀ url ∈ c.1, ∃ e, parseUrl url = .ok e

theorem occurrences_concat {urls : List String} {secret url : String} {e : Endpoint}
    (h : parseUrl url = .ok e) :
    occurrences (urls ++ [url], secret) = occurrences (urls, secret) ++ [(secret, e)] := by
  unfold occurrences
  rw [List.filterMap_append]
  simp [h, Except.toOption]

theorem mem_occurrences {c : Configured} {o : String × Endpoint} :
    o ∈ occurrences c ↔ o.1 = c.2 ∧ ∃ url ∈ c.1, parseUrl url = .ok o.2 := by
  obtain ⟨secret, e⟩ := o
  unfold occurrences
  rw [List.mem_filterMap]
  constructor
  · rintro ⟨url, hurl, h⟩
    cases hread : parseUrl url with
    | error message => simp [hread, Except.toOption] at h
    | ok e' =>
      simp only [hread, Except.toOption, Option.map_some, Option.some.injEq, Prod.mk.injEq] at h
      obtain ⟨rfl, rfl⟩ := h
      exact ⟨rfl, url, hurl, hread⟩
  · rintro ⟨hsecret, url, hurl, hread⟩
    refine ⟨url, hurl, ?_⟩
    dsimp only at hsecret hread
    rw [hsecret]
    simp [hread, Except.toOption]

/-- **The inner loop.** -/
theorem foldlM_addText {done : List (String × Endpoint)} {base urls : List String} {secret : String}
    {p : Progress} {s' : Progress × Entry} (h : Stored done base p)
    (hloop : urls.foldlM (addText secret) (p, {}) = .ok s') :
    Readable (urls, secret) ∧
      Stored (done ++ occurrences (urls, secret)) (base ++ s'.2.urls) s'.1 ∧
      ∀ stored ∈ s'.2.urls, ∃ o ∈ occurrences (urls, secret), canonical o.2 = stored := by
  -- What holds after a part of the list: its entries are stored, and nothing else is.
  let P (urls : List String) (s : Progress × Entry) : Prop :=
    Readable (urls, secret) ∧ Stored (done ++ occurrences (urls, secret)) (base ++ s.2.urls) s.1 ∧
      ∀ stored ∈ s.2.urls, ∃ o ∈ occurrences (urls, secret), canonical o.2 = stored
  have hstart : P [] (p, {}) := by
    refine ⟨nofun, ?_, nofun⟩
    simpa [occurrences] using h
  have hstep : ∀ done s url s', P done s → addText secret s url = .ok s' → P (done ++ [url]) s' := by
    rintro done ⟨p, entry⟩ url s' ⟨hreadable, hstored, hfrom⟩ hadd
    obtain ⟨-, e, hread, hsecret, haccepts⟩ := addText_eq_ok.mp hadd
    have hmore : occurrences (done ++ [url], secret) = occurrences (done, secret) ++ [(secret, e)] :=
      occurrences_concat hread
    refine ⟨?_, ?_, ?_⟩
    · intro url' hurl
      rcases List.mem_append.mp hurl with hurl | hurl
      · exact hreadable url' hurl
      · rw [List.mem_singleton.mp hurl]
        exact ⟨e, hread⟩
    · rw [hmore, ← List.append_assoc]
      exact hstored.add hread hsecret haccepts
    · rw [hmore]
      cases haccepts with
      | again _ _ =>
        intro stored hmem
        obtain ⟨o, ho, heq⟩ := hfrom stored hmem
        exact ⟨o, List.mem_append_left _ ho, heq⟩
      | fresh _ _ =>
        intro stored hmem
        have hurls : (entry.add e).urls = entry.urls ++ [canonical e] := by
          unfold Entry.add
          split_ifs <;> rfl
        have hcase : stored ∈ entry.urls ++ [canonical e] := hurls ▸ hmem
        rcases List.mem_append.mp hcase with hmem | hmem
        · obtain ⟨o, ho, heq⟩ := hfrom stored hmem
          exact ⟨o, List.mem_append_left _ ho, heq⟩
        · exact ⟨(secret, e), List.mem_append_right _ (List.mem_singleton.mpr rfl),
            (List.mem_singleton.mp hmem).symm⟩
  have hall := foldlM_history hstep hstart hloop
  rwa [List.nil_append] at hall

/-- The addresses that are stored over all entries. -/
def storedUrls (servers : List Server) : List String := servers.flatMap Server.urls

/-- An entry carries credentials if and only if it stores a TURN address, and they are made from the
secret that was configured for it. -/
structure Server.Credited (done : List Configured) (server : Server) : Prop where
  turn : server.credentials.isSome ↔ ∃ url ∈ server.urls, hasScheme .turn url = true
  secret : ∀ issuer, server.credentials = some issuer → ∀ url ∈ server.urls,
    ∃ o ∈ done.flatMap occurrences, canonical o.2 = url ∧ o.1 = issuer.sharedSecret

/-- What an entry leaves. -/
theorem finish_eq_ok {secret : String} {ttlSeconds : Nat} {entry : Entry} {servers : List Server}
    (h : entry.finish secret ttlSeconds = .ok servers) :
    (∃ credentials, servers =
      if entry.urls = [] then [] else [{ urls := entry.urls, credentials }]) ∧
    ∀ server ∈ servers, (server.credentials = none ↔ entry.credentialHost = "") ∧
      ∀ issuer, server.credentials = some issuer → issuer.sharedSecret = secret := by
  unfold Entry.finish at h
  by_cases hhost : entry.credentialHost = ""
  · rw [if_pos hhost] at h
    cases h
    refine ⟨⟨none, rfl⟩, fun server hserver => ?_⟩
    split_ifs at hserver
    · cases hserver
    · rw [List.mem_singleton.mp hserver]
      exact ⟨iff_of_true rfl hhost, nofun⟩
  · rw [if_neg hhost] at h
    cases hcreate : TurnCredentialIssuer.create secret entry.credentialHost entry.credentialPort
      ttlSeconds with
    | error message =>
      rw [hcreate] at h
      cases h
    | ok issuer =>
      rw [hcreate] at h
      cases h
      refine ⟨⟨some issuer, rfl⟩, fun server hserver => ?_⟩
      split_ifs at hserver
      · cases hserver
      · rw [List.mem_singleton.mp hserver]
        refine ⟨iff_of_false (Option.some_ne_none _) hhost, ?_⟩
        rintro _ ⟨⟩
        unfold TurnCredentialIssuer.create at hcreate
        split_ifs at hcreate
        cases hcreate
        rfl

/-- **The outer loop.** -/
theorem foldlM_addConfigured {ttlSeconds : Nat} {configured : List Configured}
    {s' : Progress × List Server}
    (hloop : configured.foldlM (addConfigured ttlSeconds) ({}, []) = .ok s') :
    (∀ c ∈ configured, Readable c) ∧
      Stored (configured.flatMap occurrences) (storedUrls s'.2) s'.1 ∧
      ∀ server ∈ s'.2, server.Credited configured := by
  -- what the loop has to keep of the entries that are done
  let P (done : List Configured) (s : Progress × List Server) : Prop :=
    (∀ c ∈ done, Readable c) ∧ Stored (done.flatMap occurrences) (storedUrls s.2) s.1 ∧
      ∀ server ∈ s.2, server.Credited done
  have hstart : P [] ({}, []) := ⟨nofun, Stored.start, nofun⟩
  have hstep : ∀ done s c s', P done s → addConfigured ttlSeconds s c = .ok s' →
      P (done ++ [c]) s' := by
    rintro done ⟨p, servers⟩ c s' ⟨hreadable, hstored, hcredited⟩ hadd
    unfold addConfigured at hadd
    cases hinner : c.1.foldlM (addText c.2) (p, {}) with
    | error message =>
      dsimp only at hadd
      rw [hinner] at hadd
      cases hadd
    | ok built =>
      obtain ⟨p', entry⟩ := built
      dsimp only at hadd
      rw [hinner] at hadd
      obtain ⟨hread, hadded, hfrom⟩ := foldlM_addText hstored hinner
      have hnamed := Entry.Named.empty.foldlM hinner
      cases hfinish : entry.finish c.2 ttlSeconds with
      | error message =>
        simp only [Except.bind, hfinish] at hadd
        cases hadd
      | ok more =>
        simp only [Except.bind, hfinish] at hadd
        cases hadd
        obtain ⟨⟨credentials, hmore⟩, hcredentials⟩ := finish_eq_ok hfinish
        -- an entry without a URL of its own adds no server
        have hurls : storedUrls (servers ++ more) = storedUrls servers ++ entry.urls := by
          unfold storedUrls
          rw [List.flatMap_append, hmore]
          split_ifs with hempty
          · simp [hempty]
          · simp
        have hdone : (done ++ [c]).flatMap occurrences = done.flatMap occurrences ++ occurrences c := by
          simp [List.flatMap_append]
        refine ⟨?_, ?_, ?_⟩
        · intro c' hc
          rcases List.mem_append.mp hc with hc | hc
          · exact hreadable c' hc
          · rw [List.mem_singleton.mp hc]
            exact hread
        · rw [hdone, hurls]
          exact hadded
        -- the servers before are credited as they were, and the new one from this entry
        · intro server hserver
          rcases List.mem_append.mp hserver with hserver | hserver
          · obtain ⟨hturn, hsecret⟩ := hcredited server hserver
            refine ⟨hturn, fun issuer hissuer url hurl => ?_⟩
            obtain ⟨o, ho, heq⟩ := hsecret issuer hissuer url hurl
            rw [hdone]
            exact ⟨o, List.mem_append_left _ ho, heq⟩
          · obtain ⟨hnone, hsecret⟩ := hcredentials server hserver
            have hserverUrls : server.urls = entry.urls := by
              rw [hmore] at hserver
              split_ifs at hserver
              · cases hserver
              · rw [List.mem_singleton.mp hserver]
            refine ⟨?_, fun issuer hissuer url hurl => ?_⟩
            · have hhost : entry.credentialHost = "" ↔
                  ∀ url ∈ entry.urls, hasScheme .turn url ≠ true := hnamed
              rw [hserverUrls, Option.isSome_iff_ne_none, ne_eq, hnone, hhost]
              push Not
              rfl
            · rw [hserverUrls] at hurl
              obtain ⟨o, ho, heq⟩ := hfrom url hurl
              rw [hdone]
              refine ⟨o, List.mem_append_right _ ho, heq, ?_⟩
              rw [hsecret issuer hissuer]
              exact (mem_occurrences.mp ho).1
  have hall := foldlM_history hstep hstart hloop
  rwa [List.nil_append] at hall

/-! ## Reading what was stored -/

/-- The same progress after another number of addresses. -/
def Progress.at (p : Progress) (urlCount : Nat) : Progress := { p with urlCount }

/-- Behind an address that is stored the secret of the entry matters for TURN only. -/
theorem Accepts.replay {secret secret' url : String} {p : Progress} {entry : Entry} {e : Endpoint}
    (hread : parseUrl url = .ok e) (hseen : p.seen[canonical e]? = none)
    (hcount : (p.add secret e).count e.scheme ≤ 8) (hempty : e.scheme = .turn → secret ≠ "")
    (hsecret : hasScheme .turn (canonical e) = true → secret' = secret) {k : Nat} (hk : k < 32) :
    addText secret' (p.at k, entry) (canonical e) =
      .ok ((p.read.add secret e).at (k + 1), entry.add e) := by
  have hsame : e.scheme = .turn → secret' = secret := fun hturn =>
    hsecret ((hasScheme_canonical hread .turn).mpr hturn)
  have hremembered : secretOf secret' e = secretOf secret e := by
    unfold secretOf
    cases hscheme : e.scheme with
    | stun => rfl
    | turn => exact hsame hscheme
  have hadd : (p.at k).read.add secret' e = (p.read.add secret e).at (k + 1) := by
    unfold Progress.add
    rw [hremembered]
    rfl
  have hfresh : Accepts secret' (p.at k, entry) e ((p.at k).read.add secret' e, entry.add e) := by
    refine .fresh hseen ?_
    cases hscheme : e.scheme <;>
      simpa [Progress.add, Progress.count, Progress.at, hscheme] using hcount
  rw [hadd] at hfresh
  exact addText_eq_ok.mpr ⟨hk, e, parseUrl_canonical hread,
    fun hturn => by rw [hsame hturn]; exact hempty hturn, hfresh⟩

/-- **Replaying an entry.** Reading only what the entry stored leads to the same state. -/
theorem replay_urls {urls : List String} {secret : String} {p : Progress} {entry : Entry}
    {s' : Progress × Entry} (h : urls.foldlM (addText secret) (p, entry) = .ok s') :
    ∃ added, s'.2.urls = entry.urls ++ added ∧
      ∀ k ≤ p.urlCount, ∀ secret', (∀ url ∈ added, hasScheme .turn url = true → secret' = secret) →
        ∃ k' ≤ s'.1.urlCount,
          added.foldlM (addText secret') (p.at k, entry) = .ok (s'.1.at k', s'.2) := by
  induction urls generalizing p entry with
  | nil =>
    cases h
    exact ⟨[], (List.append_nil _).symm, fun k hk _ _ => ⟨k, hk, rfl⟩⟩
  | cons url urls ih =>
    obtain ⟨mid, hfirst, hrest⟩ := foldlM_cons_eq_ok.mp h
    obtain ⟨hcount, e, hread, hempty, haccepts⟩ := addText_eq_ok.mp hfirst
    cases haccepts with
    | again _ _ =>
      -- the address was stored before, and is not there to be read again
      obtain ⟨added, hurls, hreplay⟩ := ih hrest
      refine ⟨added, hurls, fun k hk secret' hsecret => ?_⟩
      exact hreplay k (Nat.le_succ_of_le hk) secret' hsecret
    | fresh hseen hfits =>
      obtain ⟨added, hurls, hreplay⟩ := ih hrest
      have hadd : (entry.add e).urls = entry.urls ++ [canonical e] := by
        unfold Entry.add
        split_ifs <;> rfl
      refine ⟨canonical e :: added, ?_, fun k hk secret' hsecret => ?_⟩
      · rw [hurls, hadd, List.append_assoc]
        rfl
      · obtain ⟨hfirst, hothers⟩ := List.forall_mem_cons.mp hsecret
        have hk' : k + 1 ≤ (p.read.add secret e).urlCount := Nat.succ_le_succ hk
        obtain ⟨k', hle, hdone⟩ := hreplay (k + 1) hk' secret' hothers
        refine ⟨k', hle, foldlM_cons_eq_ok.mpr ⟨_, ?_, hdone⟩⟩
        exact Accepts.replay hread hseen hfits hempty hfirst (hk.trans_lt hcount)

/-- An entry that restates a stored server, with the secret of its credentials. -/
def Restates (c : Configured) (server : Server) : Prop :=
  c.1 = server.urls ∧ ∀ issuer, server.credentials = some issuer → c.2 = issuer.sharedSecret

/-- What an entry leaves depends on the secret only through the credentials. -/
theorem finish_secret {secret secret' : String} {ttlSeconds : Nat} {entry : Entry}
    (h : entry.credentialHost ≠ "" → secret' = secret) :
    entry.finish secret' ttlSeconds = entry.finish secret ttlSeconds := by
  unfold Entry.finish
  by_cases hhost : entry.credentialHost = ""
  · rw [if_pos hhost, if_pos hhost]
  · rw [h hhost]

/-- **Replaying the list.** -/
theorem replay {ttlSeconds : Nat} {configured : List Configured} {p : Progress}
    {servers : List Server} {s' : Progress × List Server}
    (h : configured.foldlM (addConfigured ttlSeconds) (p, servers) = .ok s') :
    ∃ added, s'.2 = servers ++ added ∧ added.length ≤ configured.length ∧
      ∀ k ≤ p.urlCount, ∀ base restated, List.Forall₂ Restates restated added →
        ∃ k' ≤ s'.1.urlCount, restated.foldlM (addConfigured ttlSeconds) (p.at k, base) =
          .ok (s'.1.at k', base ++ added) := by
  induction configured generalizing p servers with
  | nil =>
    cases h
    -- without entries there is nothing to restate
    refine ⟨[], (List.append_nil _).symm, le_rfl, ?_⟩
    rintro k hk base restated ⟨⟩
    exact ⟨k, hk, by rw [List.append_nil]; rfl⟩
  | cons c configured ih =>
    obtain ⟨mid, hfirst, hrest⟩ := foldlM_cons_eq_ok.mp h
    unfold addConfigured at hfirst
    cases hinner : c.1.foldlM (addText c.2) (p, {}) with
    | error message =>
      dsimp only at hfirst
      rw [hinner] at hfirst
      cases hfirst
    | ok built =>
      obtain ⟨p', entry⟩ := built
      dsimp only at hfirst
      rw [hinner] at hfirst
      cases hfinish : entry.finish c.2 ttlSeconds with
      | error message =>
        simp only [Except.bind, hfinish] at hfirst
        cases hfirst
      | ok more =>
        simp only [Except.bind, hfinish] at hfirst
        cases hfirst
        obtain ⟨added, hservers, hlength, hreplay⟩ := ih hrest
        obtain ⟨urls, hurls, hagain⟩ := replay_urls hinner
        -- the URLs of the entry, read again, are stored as they are
        obtain ⟨⟨credentials, hmore⟩, hcredentials⟩ := finish_eq_ok hfinish
        have hurls : entry.urls = urls := hurls.trans (List.nil_append _)
        have hshort : more.length ≤ 1 := by
          rw [hmore]
          split_ifs <;> simp
        refine ⟨more ++ added, ?_, ?_, fun k hk base restated hrestated => ?_⟩
        · rw [hservers, List.append_assoc]
        · rw [List.length_append, List.length_cons]
          omega
        · by_cases hempty : entry.urls = []
          · -- nothing is left of the entry, and nothing of it was remembered
            rw [if_pos hempty] at hmore
            subst hmore
            have hnone : urls = [] := hurls ▸ hempty
            subst hnone
            obtain ⟨k', hle, hdone⟩ := hagain k hk "" nofun
            have hsame : p.at k = p'.at k' := congrArg Prod.fst (Except.ok.inj hdone)
            rw [hsame]
            exact hreplay k' hle base restated hrestated
          · rw [if_neg hempty] at hmore
            subst hmore
            obtain ⟨c', rest, hc, hothers, rfl⟩ : ∃ c' rest, Restates c'
                { urls := entry.urls, credentials } ∧ List.Forall₂ Restates rest added ∧
                restated = c' :: rest := by
              cases hrestated with
              | cons hc hothers => exact ⟨_, _, hc, hothers, rfl⟩
            obtain ⟨hcurls, hcsecret⟩ := hc
            obtain ⟨hnone, hshared⟩ := hcredentials _ (List.mem_singleton.mpr rfl)
            -- a TURN server kept the secret of its entry
            have hsecret : entry.credentialHost ≠ "" → c'.2 = c.2 := by
              intro hhost
              cases hissuer : credentials with
              | none => exact absurd (hnone.mp hissuer) hhost
              | some issuer => rw [hcsecret issuer hissuer, hshared issuer hissuer]
            have hnamed := Entry.Named.empty.foldlM hinner
            -- the texts of the restated entry are new again, since the same ones were before
            obtain ⟨k', hle, hdone⟩ := hagain k hk c'.2 fun url hurl hturn => by
              refine hsecret fun hhost => ?_
              exact hnamed.mp hhost url (hurls ▸ hurl) hturn
            obtain ⟨k'', hle', hdone'⟩ := hreplay k' hle
              (base ++ [{ urls := entry.urls, credentials }]) rest hothers
            refine ⟨k'', hle', foldlM_cons_eq_ok.mpr ⟨_, ?_, by rw [hdone', List.append_assoc]⟩⟩
            show ((c'.1.foldlM (addText c'.2) (p.at k, {})).bind _) = _
            rw [hcurls, hurls, hdone]
            simp only [Except.bind, finish_secret hsecret, hfinish, ← hurls]
            rfl

/-! ## The constructor -/

/-- What the constructor stores of a configuration. -/
structure Normalized (configured : List Configured) (servers : List Server) : Prop where
  /-- Every configured address stands for an endpoint, and exactly one stored address does so, too. -/
  represented : ∀ url ∈ configured.flatMap Prod.fst, ∃ e, StandsFor url e ∧
    ∃! stored, stored ∈ storedUrls servers ∧ StandsFor stored e
  distinct : (storedUrls servers).Nodup
  /-- What is stored are the endpoints that are configured, each where it occurs first. -/
  first_occurrences : ∃ endpoints : List Endpoint,
    List.Forall₂ StandsFor (configured.flatMap Prod.fst) endpoints ∧
      List.Forall₂ StandsFor (storedUrls servers) endpoints.eraseDups
  /-- All of an endpoint is written out. -/
  written : ∀ stored ∈ storedUrls servers, ∀ e, StandsFor stored e → stored = canonical e
  bounded : ∀ scheme, (storedUrls servers).countP (hasScheme scheme) ≤ 8
  credentials : ∀ server ∈ servers,
    server.credentials.isSome ↔ ∃ url ∈ server.urls, hasScheme .turn url = true
  /-- All addresses that stand for a TURN endpoint are configured with the secret of its credentials. -/
  one_secret : ∀ server ∈ servers, ∀ issuer, server.credentials = some issuer →
    ∀ stored ∈ server.urls, ∀ e, StandsFor stored e → e.scheme = .turn →
      ∀ c ∈ configured, ∀ url ∈ c.1, StandsFor url e → c.2 = issuer.sharedSecret

/-- The addresses stand for the endpoints that were read. -/
theorem forall₂_occurrences {configured : List Configured} (h : ∀ c ∈ configured, Readable c) :
    List.Forall₂ StandsFor (configured.flatMap Prod.fst)
      ((configured.flatMap occurrences).map Prod.snd) := by
  induction configured with
  | nil => exact .nil
  | cons c configured ih =>
    obtain ⟨hc, hrest⟩ := List.forall_mem_cons.mp h
    rw [List.flatMap_cons, List.flatMap_cons, List.map_append]
    refine List.rel_append ?_ (ih hrest)
    obtain ⟨urls, secret⟩ := c
    clear h
    induction urls with
    | nil => exact .nil
    | cons url urls ihurls =>
      obtain ⟨⟨e, hread⟩, hothers⟩ := List.forall_mem_cons.mp hc
      have hcons : occurrences (url :: urls, secret) = (secret, e) :: occurrences (urls, secret) := by
        unfold occurrences
        simp [hread, Except.toOption]
      rw [hcons]
      exact .cons (parseUrl_standsFor hread) (ihurls hothers)

theorem mem_flatMap_occurrences {configured : List Configured} {o : String × Endpoint} :
    o ∈ configured.flatMap occurrences ↔
      ∃ c ∈ configured, o.1 = c.2 ∧ ∃ url ∈ c.1, parseUrl url = .ok o.2 := by
  rw [List.mem_flatMap]
  exact exists_congr fun c => and_congr_right fun _ => mem_occurrences

theorem normalized {ttlSeconds : Nat} {configured : List Configured}
    {s' : Progress × List Server}
    (hloop : configured.foldlM (addConfigured ttlSeconds) ({}, []) = .ok s') :
    Normalized configured s'.2 := by
  obtain ⟨hreadable, hstored, hcredited⟩ := foldlM_addConfigured hloop
  have hnodup : (storedUrls s'.2).Nodup := by
    rw [hstored.deduped]
    exact nodup_eraseDups _
  -- an address that is stored stands for the endpoint that it was written for
  have hendpoint : ∀ stored ∈ storedUrls s'.2, ∀ e, StandsFor stored e → ∃ o ∈ configured.flatMap
      occurrences, canonical o.2 = stored ∧ o.2 = e := by
    intro stored hmem e hstands
    obtain ⟨o, ho, heq⟩ := hstored.mem.mp hmem
    obtain ⟨url, hread⟩ := hstored.read o ho
    refine ⟨o, ho, heq, (standsFor_canonical hread).unique ?_⟩
    rw [heq]
    exact hstands
  constructor
  case represented =>
    intro url hurl
    obtain ⟨c, hc, hmem⟩ := List.mem_flatMap.mp hurl
    obtain ⟨e, hread⟩ := hreadable c hc url hmem
    have hoccurs : (c.2, e) ∈ configured.flatMap occurrences :=
      mem_flatMap_occurrences.mpr ⟨c, hc, rfl, url, hmem, hread⟩
    refine ⟨e, parseUrl_standsFor hread, canonical e,
      ⟨hstored.mem.mpr ⟨_, hoccurs, rfl⟩, standsFor_canonical hread⟩, ?_⟩
    rintro other ⟨hother, hstands⟩
    obtain ⟨o, -, rfl, rfl⟩ := hendpoint other hother e hstands
    rfl
  case distinct => exact hnodup
  case first_occurrences =>
    refine ⟨_, forall₂_occurrences hreadable, ?_⟩
    have hinjective : ∀ e ∈ (configured.flatMap occurrences).map Prod.snd,
        ∀ e' ∈ (configured.flatMap occurrences).map Prod.snd, canonical e = canonical e' → e = e' := by
      intro e he e' he' heq
      obtain ⟨o, ho, rfl⟩ := List.mem_map.mp he
      obtain ⟨o', ho', rfl⟩ := List.mem_map.mp he'
      obtain ⟨url, hread⟩ := hstored.read o ho
      obtain ⟨url', hread'⟩ := hstored.read o' ho'
      exact canonical_inj hread hread' heq
    have hwritten : storedUrls s'.2 =
        ((configured.flatMap occurrences).map Prod.snd).eraseDups.map canonical := by
      rw [← eraseDups_map hinjective, hstored.deduped, List.map_map]
      rfl
    rw [hwritten, List.forall₂_map_left_iff, List.forall₂_same]
    intro e he
    obtain ⟨o, ho, rfl⟩ := List.mem_map.mp (List.mem_eraseDups.mp he)
    obtain ⟨url, hread⟩ := hstored.read o ho
    exact standsFor_canonical hread
  case written =>
    intro stored hmem e hstands
    obtain ⟨o, -, rfl, rfl⟩ := hendpoint stored hmem e hstands
    rfl
  case bounded =>
    intro scheme
    rw [← (hstored.counts scheme).1]
    exact (hstored.counts scheme).2
  case credentials => exact fun server hserver => (hcredited server hserver).turn
  case one_secret =>
    intro server hserver issuer hissuer stored hmem e hstands hturn c hc url hurl hsame
    obtain ⟨o, ho, heq, hsecret⟩ := (hcredited server hserver).secret issuer hissuer stored hmem
    obtain ⟨url', hread'⟩ := hstored.read o ho
    have hsameEndpoint : o.2 = e := by
      refine (standsFor_canonical hread').unique ?_
      rw [heq]
      exact hstands
    obtain ⟨e', hread⟩ := hreadable c hc url hurl
    obtain rfl := (parseUrl_standsFor hread).unique hsame
    have hoccurs : (c.2, e') ∈ configured.flatMap occurrences :=
      mem_flatMap_occurrences.mpr ⟨c, hc, rfl, url, hurl, hread⟩
    rw [← hsecret]
    exact hstored.one_secret hoccurs ho hsameEndpoint.symm hturn

/-- What the constructor accepts. -/
theorem create_eq_ok {servers : Json} {defaultSecret : String} {ttlSeconds : Nat}
    {issuer : IceServerConfigIssuer} (h : create servers defaultSecret ttlSeconds = .ok issuer) :
    ∃ entries configured p, servers = .arr entries ∧ entries.length ≤ 16 ∧ 60 ≤ ttlSeconds ∧
      ttlSeconds ≤ 86400 ∧ List.Forall₂ (Reads defaultSecret) entries configured ∧
      configured.foldlM (addConfigured ttlSeconds) ({}, []) = .ok (p, issuer.servers) ∧
      issuer.ttlSeconds = ttlSeconds := by
  unfold create at h
  split at h
  case h_2 => cases h
  case h_1 entries =>
    split_ifs at h with hlimits
    cases hloop : entries.foldlM (addEntry defaultSecret ttlSeconds) ({}, []) with
    | error message =>
      rw [hloop] at h
      cases h
    | ok s =>
      rw [hloop] at h
      cases h
      obtain ⟨configured, hreads⟩ := configured_of_foldlM hloop
      rw [foldlM_addEntry hreads] at hloop
      exact ⟨entries, configured, s.1, rfl, by omega, by omega, by omega, hreads, hloop, rfl⟩

/-- An entry of an issued list for a server: it carries a user name and a password if and only if the
server has an address of TURN, and the password is signed with the server's secret. -/
structure Issued (sign : String → String → String) (server : Server) (entry : Json) : Prop where
  urls : entry.find "urls" = some (.arr (server.urls.map .str))
  username : entry.contains "username" ↔ ∃ url ∈ server.urls, hasScheme .turn url = true
  credential : entry.contains "credential" ↔ ∃ url ∈ server.urls, hasScheme .turn url = true
  signed : ∀ issuer, server.credentials = some issuer → ∃ username,
    entry.find "username" = some (.str username) ∧
      entry.find "credential" = some (.str (sign issuer.sharedSecret username))

theorem Server.issued {sign : String → String → String} {recipient id : String} {now : Int}
    {server : Server} {credentials : Option TurnCredentials}
    (hturn : server.credentials.isSome ↔ ∃ url ∈ server.urls, hasScheme .turn url = true)
    (h : server.issue sign recipient id now = .ok credentials) :
    Issued sign server (entryMessage server.urls credentials) := by
  unfold Server.issue at h
  cases hissuer : server.credentials with
  | none =>
    rw [hissuer] at h hturn
    cases h
    have hnone : ¬ ∃ url ∈ server.urls, hasScheme .turn url = true :=
      fun hex => Bool.false_ne_true (hturn.mpr hex)
    refine ⟨rfl, iff_of_false Bool.false_ne_true hnone, iff_of_false Bool.false_ne_true hnone, ?_⟩
    intro issuer heq
    rw [hissuer] at heq
    cases heq
  | some issuer =>
    rw [hissuer] at h hturn
    obtain ⟨credentials, hcredentials, rfl⟩ : ∃ c, issuer.issueAt sign (recipient ++ ":" ++ id) now =
        .ok c ∧ credentials = some c := by
      cases hat : issuer.issueAt sign (recipient ++ ":" ++ id) now with
      | error message =>
        simp only [hat] at h
        cases h
      | ok c =>
        simp only [hat] at h
        cases h
        exact ⟨c, rfl, rfl⟩
    have hsome := hturn.mp rfl
    refine ⟨rfl, iff_of_true rfl hsome, iff_of_true rfl hsome, ?_⟩
    intro issuer' heq
    rw [hissuer] at heq
    cases heq
    refine ⟨credentials.username, rfl, ?_⟩
    unfold TurnCredentialIssuer.issueAt at hcredentials
    split_ifs at hcredentials
    cases hcredentials
    rfl

/-- The issued list, entry by entry. -/
theorem forall₂_issued {sign : String → String → String} {recipient id : String} {now : Int}
    {servers : List Server} {credentials : List (Option TurnCredentials)}
    (hturn : ∀ server ∈ servers,
      server.credentials.isSome ↔ ∃ url ∈ server.urls, hasScheme .turn url = true)
    (h : List.Forall₂ (fun server c => Server.issue sign recipient id now server = .ok c)
      servers credentials) :
    List.Forall₂ (Issued sign) servers
      ((servers.zip credentials).map (fun (server, c) => entryMessage server.urls c)) := by
  induction h with
  | nil => exact .nil
  | cons hfirst _ ih =>
    obtain ⟨hthis, hothers⟩ := List.forall_mem_cons.mp hturn
    exact .cons (Server.issued hthis hfirst) (ih hothers)

theorem issue_eq_ok {sign : String → String → String} {recipient id : String} {now : Int}
    {issuer : IceServerConfigIssuer} {message : Json}
    (hturn : ∀ server ∈ issuer.servers,
      server.credentials.isSome ↔ ∃ url ∈ server.urls, hasScheme .turn url = true)
    (h : issuer.issue sign recipient id now = .ok message) :
    ∃ ice entries, message.find "ice" = some ice ∧ ice.find "servers" = some (.arr entries) ∧
      List.Forall₂ (Issued sign) issuer.servers entries := by
  unfold issue at h
  cases hall : issuer.servers.mapM (Server.issue sign recipient id now) with
  | error message =>
    rw [hall] at h
    cases h
  | ok credentials =>
    rw [hall] at h
    cases h
    refine ⟨iceMessage id (now + issuer.ttlSeconds) _, _, ?_, rfl,
      forall₂_issued hturn (forall₂_of_mapM hall)⟩
    dsimp only
    cases credentials.reduceOption.head? <;> rfl

/-- **Normalization.** For every configuration that the constructor accepts: what it stores is
normalized, what it issues carries credentials accordingly, and a configuration that restates what is
stored, with the same secrets, is accepted and stores the same. -/
theorem create_normalized {servers : Json} {defaultSecret : String} {ttlSeconds : Nat}
    {issuer : IceServerConfigIssuer} (h : create servers defaultSecret ttlSeconds = .ok issuer) :
    (∃ entries configured, servers = .arr entries ∧
      List.Forall₂ (Reads defaultSecret) entries configured ∧ Normalized configured issuer.servers) ∧
    (∀ sign recipient id now message, issuer.issue sign recipient id now = .ok message →
      ∃ ice entries, message.find "ice" = some ice ∧ ice.find "servers" = some (.arr entries) ∧
        List.Forall₂ (Issued sign) issuer.servers entries) ∧
    ∀ defaultSecret' entries restated, List.Forall₂ (Reads defaultSecret') entries restated →
      List.Forall₂ Restates restated issuer.servers →
      create (.arr entries) defaultSecret' ttlSeconds = .ok issuer := by
  obtain ⟨entries, configured, p, rfl, hlength, hmin, hmax, hreads, hloop, httl⟩ := create_eq_ok h
  have hnormalized : Normalized configured issuer.servers := normalized hloop
  refine ⟨⟨entries, configured, rfl, hreads, hnormalized⟩, ?_, ?_⟩
  · exact fun sign recipient id now message hissue => issue_eq_ok hnormalized.credentials hissue
  · intro defaultSecret' entries' restated hreads' hrestates
    obtain ⟨added, hadded, hshort, hreplay⟩ := replay hloop
    have hservers : issuer.servers = added := hadded.trans (List.nil_append _)
    rw [hservers] at hrestates
    obtain ⟨k', -, hagain⟩ := hreplay 0 le_rfl [] restated hrestates
    have hfew : ¬ (entries'.length > 16 ∨ ttlSeconds < 60 ∨ ttlSeconds > 86400) := by
      have hsame := hreads'.length_eq.trans hrestates.length_eq
      have hconfigured := hreads.length_eq
      omega
    have hrun : entries'.foldlM (addEntry defaultSecret' ttlSeconds) ({}, []) =
        .ok (p.at k', [] ++ added) := by
      rw [foldlM_addEntry hreads']
      exact hagain
    show (if _ then _ else _) = _
    rw [if_neg hfew, hrun, List.nil_append, ← hservers, ← httl]
    rfl

/-- One endpoint, configured three times, and a second one for the same host. -/
theorem create_normalized_duplicates :
    let servers : Json := .arr [
      .obj [("urls", .arr [.str "turn:A.example:03478", .str "stun:[::1%Eth0]"]),
        ("shared_secret", .str "s")],
      .obj [("urls", .arr [.str "turn:a.EXAMPLE", .str "turn:a.example:3478?transport=udp"])],
      .obj [("urls", .str "turn:a.example?transport=tcp")]]
    ∃ issuer, create servers "s" 600 = .ok issuer ∧
      storedUrls issuer.servers = ["turn:a.example:3478?transport=udp", "stun:[::1%Eth0]:3478",
        "turn:a.example:3478?transport=tcp"] ∧
      ∃ configured, Normalized configured issuer.servers := by
  intro servers
  let issuer : IceServerConfigIssuer :=
    { ttlSeconds := 600
      servers := [
        { urls := ["turn:a.example:3478?transport=udp", "stun:[::1%Eth0]:3478"]
          credentials := some
            { sharedSecret := "s", host := "a.example", port := 3478, ttlSeconds := 600 } },
        { urls := ["turn:a.example:3478?transport=tcp"]
          credentials := some
            { sharedSecret := "s", host := "a.example", port := 3478, ttlSeconds := 600 } }] }
  have hcreate : create servers "s" 600 = .ok issuer := by rfl
  obtain ⟨⟨_, configured, -, -, hnormalized⟩, -⟩ := create_normalized hcreate
  exact ⟨issuer, hcreate, rfl, configured, hnormalized⟩

end CrossDesk.IceServerConfigIssuer
