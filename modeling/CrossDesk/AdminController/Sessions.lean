import CrossDesk.AdminController.Paging

/-!
# Searching the sessions

A session is a row for each guest, and the overview shows one entry for each room and host. The search
picks rows before they are grouped. So it shows the whole session when it finds the room or the host,
and otherwise only those of its guests whose ids contain the text, with a count to match.

The rooms of the transmission manager are searched as a whole. `search_shows_whole_sessions_iff` says
when the two agree: when the search never finds one row of a session and misses another.
-/

namespace CrossDesk

open DeviceDbManager

/-! ## What a search is meant to find -/

/-- The text contains the search text, where the case of a letter does not matter. -/
def ContainsSearch (search text : String) : Prop := asciiLower search <:+: asciiLower text

/-- One of the three ids of a row contains the search text. -/
def RowContains (search : String) (entry : SessionKey × SessionRow) : Prop :=
  ContainsSearch search (ofLex entry.1).1 ∨ ContainsSearch search entry.2.hostId ∨
    ContainsSearch search (ofLex entry.1).2

/-- No id contains a comma, which separates the guests of a session, or a NUL, which would end the text
that is stored. -/
structure PlainIds (db : DeviceDbManager) : Prop where
  comma : ∀ entry ∈ db.remoteControlSessions.toList, ',' ∉ (ofLex entry.1).2.toList
  nul : ∀ entry ∈ db.remoteControlSessions.toList, '\x00' ∉ (ofLex entry.1).1.toList ∧
    '\x00' ∉ entry.2.hostId.toList ∧ '\x00' ∉ (ofLex entry.1).2.toList

theorem matchesSearch_iff {search : String} (hsearch : '\x00' ∉ search.toList) (text : String) :
    matchesSearch search text = true ↔ ContainsSearch search text := by
  unfold matchesSearch ContainsSearch
  rw [if_neg hsearch, List.any_eq_true, List.infix_iff_prefix_suffix]
  simp only [List.mem_tails, List.isPrefixOf_iff_prefix]
  exact exists_congr fun tail => and_comm

/-- A text without a NUL contains no search text with one. -/
theorem not_containsSearch {search text : String} (hsearch : '\x00' ∈ search.toList)
    (htext : '\x00' ∉ text.toList) : ¬ ContainsSearch search text := by
  intro hcontains
  have hlower : '\x00' ∈ asciiLower search := by
    unfold asciiLower
    exact List.mem_map.mpr ⟨'\x00', hsearch, rfl⟩
  have hin := hcontains.subset hlower
  unfold asciiLower at hin
  obtain ⟨c, hc, hzero⟩ := List.mem_map.mp hin
  split at hzero
  · next hupper =>
    have hle : 65 ≤ c.toNat := hupper.1
    have hle' : c.toNat ≤ 90 := hupper.2
    have hnumber := congrArg Char.toNat hzero
    rw [Char.toNat_ofNat, if_pos (by left; omega)] at hnumber
    exact absurd hnumber (by show c.toNat + 32 ≠ 0; omega)
  · exact htext (hzero ▸ hc)

theorem not_rowContains {search : String} {db : DeviceDbManager} (hplain : PlainIds db)
    (hsearch : '\x00' ∈ search.toList) {entry : SessionKey × SessionRow}
    (hentry : entry ∈ db.remoteControlSessions.toList) : ¬ RowContains search entry := by
  obtain ⟨hroom, hhost, hguest⟩ := hplain.nul entry hentry
  rintro (hcontains | hcontains | hcontains)
  · exact not_containsSearch hsearch hroom hcontains
  · exact not_containsSearch hsearch hhost hcontains
  · exact not_containsSearch hsearch hguest hcontains

/-- Without a NUL the search finds what it is meant to find. -/
theorem mem_searched_iff {search : String} (hsearch : '\x00' ∉ search.toList) {db : DeviceDbManager}
    {entry : SessionKey × SessionRow} : entry ∈ db.searched search ↔
      entry ∈ db.remoteControlSessions.toList ∧ RowContains search entry := by
  unfold searched RowContains
  rw [List.mem_filter]
  refine and_congr_right fun _ => ?_
  simp only [Bool.or_eq_true, matchesSearch_iff hsearch, beq_iff_eq]
  by_cases hempty : search = ""
  · subst hempty
    simp [ContainsSearch, asciiLower]
  · simp only [hempty, false_or, or_assoc]

/-! ## Groups -/

/-- The guests of a group, where no id contains a comma. -/
theorem mem_guestIds_iff {db : DeviceDbManager} (hplain : PlainIds db)
    {rows : List (SessionKey × SessionRow)} (hrows : rows ⊆ db.remoteControlSessions.toList)
    {group : String × String} {g : String} :
    g ∈ (groupOf rows group).guestIds ↔
      ∃ entry ∈ rows, roomOf entry = group ∧ (ofLex entry.1).2 = g ∧ g ≠ "" := by
  unfold groupOf
  dsimp only
  rw [mem_split_groupConcat]
  have hpiece : ∀ entry ∈ rows, (g ∈ splitCommaSeparatedIds (ofLex entry.1).2 ↔
      (ofLex entry.1).2 = g ∧ g ≠ "") := by
    intro entry hentry
    rw [mem_splitCommaSeparatedIds, splitAtCommas_of_not_mem (hplain.comma entry (hrows hentry)),
      List.mem_singleton, String.toList_inj, and_comm, eq_comm]
  constructor
  · rintro ⟨id, hid, hg⟩
    obtain ⟨entry, hentry, rfl⟩ := List.mem_map.mp hid
    obtain ⟨hmem, hgroup⟩ := List.mem_filter.mp hentry
    exact ⟨entry, hmem, beq_iff_eq.mp hgroup, (hpiece entry hmem).mp hg⟩
  · rintro ⟨entry, hmem, hgroup, hg⟩
    refine ⟨_, List.mem_map_of_mem (List.mem_filter.mpr ⟨hmem, beq_iff_eq.mpr hgroup⟩), ?_⟩
    exact (hpiece entry hmem).mpr hg

theorem mem_foundSessions {search : String} {db : DeviceDbManager} {session : RemoteControlSessionInfo} :
    session ∈ db.foundSessions search ↔
      ∃ entry ∈ db.searched search, groupOf (db.searched search) (roomOf entry) = session := by
  rw [(foundSessions_perm search db).mem_iff, List.mem_map]
  simp only [List.mem_dedup, List.mem_map]
  constructor
  · rintro ⟨group, ⟨entry, hentry, rfl⟩, hsession⟩
    exact ⟨entry, hentry, hsession⟩
  · rintro ⟨entry, hentry, hsession⟩
    exact ⟨roomOf entry, ⟨entry, hentry, rfl⟩, hsession⟩

theorem searched_subset (search : String) (db : DeviceDbManager) :
    db.searched search ⊆ db.remoteControlSessions.toList := List.filter_sublist.subset

theorem foundSessions_length (search : String) (db : DeviceDbManager) :
    (db.foundSessions search).length = ((db.searched search).map roomOf).dedup.length := by
  rw [(foundSessions_perm search db).length_eq, List.length_map]

/-! ## Whole sessions -/

/-- The rooms of the transmission manager are those of the rows. -/
def Mirrors (rooms : Routing) (db : DeviceDbManager) : Prop :=
  ∀ tx host g : String,
    (∃ row, db.remoteControlSessions[sessionKey tx g]? = some row ∧ row.hostId = host) ↔
      rooms.transmissionHostIdList[tx]? = some host ∧ g ∈ rooms.guestsOf tx

/-- The room and the host of an entry. -/
def SessionEntry.room (entry : SessionEntry) : String × String := (entry.transmissionId, entry.hostId)

/-- The entries are the sessions that the search is meant to find, each once and with all its guests. -/
structure WholeSessions (search : String) (s : Application) (sessions : List SessionEntry) : Prop where
  once : (sessions.map SessionEntry.room).Nodup
  listed : ∀ room : String × String, room ∈ sessions.map SessionEntry.room ↔
    ∃ entry ∈ s.store.remoteControlSessions.toList, roomOf entry = room ∧ RowContains search entry
  guests : ∀ session ∈ sessions, ∀ g : String, g ∈ session.guestIds ↔
    ∃ row, s.store.remoteControlSessions[sessionKey session.transmissionId g]? = some row ∧
      row.hostId = session.hostId
  counted : ∀ session ∈ sessions, session.guestIds.Nodup ∧
    session.participantCount = 1 + session.guestIds.length
  /-- Where the rooms are those of the rows, their snapshots agree. -/
  rooms : Mirrors s.manager.toRouting s.store → ∀ session ∈ sessions,
    ∀ (limit offset : Nat) (search : String) (activeOnly : Bool),
    ∀ snapshot ∈ (s.manager.getTransmissionSnapshots limit offset search activeOnly).1,
    snapshot.transmissionId = session.transmissionId →
    snapshot.hostId = session.hostId ∧ ∀ g, g ∈ snapshot.guestIds ↔ g ∈ session.guestIds

/-- The pages of the overview are those of such a list, and the total is its length. -/
def ShowsWholeSessions (search : String) (s : Application) : Prop :=
  ∃ sessions, WholeSessions search s sessions ∧
    ∀ limit offset : Nat, limit ≤ maxPageLimit → offset < 2 ^ 63 →
      s.overviewSessions limit offset search =
        ((sessions.drop offset).take limit, sessions.length)

/-- What a search needs to show whole sessions. -/
structure FoundWhole (search : String) (s : Application) : Prop where
  /-- Of a session of which it finds a row it finds all rows, and no guest is empty. -/
  whole : ∀ entry ∈ s.store.searched search, ∀ entry' ∈ s.store.remoteControlSessions.toList,
    roomOf entry' = roomOf entry → entry' ∈ s.store.searched search ∧ (ofLex entry'.1).2 ≠ ""
  /-- Behind a NUL the pattern is cut off. -/
  nul : '\x00' ∈ search.toList → s.store.searched search = []
  /-- Where it finds no row, it finds no room either. -/
  rooms : s.store.searched search = [] → s.manager.matchingSnapshots search true = []
  /-- The number of sessions fits into an `int`. -/
  count : ((s.store.searched search).map roomOf).dedup.length < 2 ^ 31

/-! ## Pages -/

variable {search : String} {s : Application}

theorem countRemoteControlTransmissions_eq (search : String) (db : DeviceDbManager) :
    db.countRemoteControlTransmissions search =
      asInt32 ((db.searched search).map roomOf).dedup.length := rfl

theorem asSize_asInt32_iff {n : Nat} (hn : n < 2 ^ 63) : asSize (asInt32 n) = n ↔ n < 2 ^ 31 := by
  unfold asSize asInt32
  rw [Int.bmod_def]
  omega

/-- A page of the overview, where the database counts some sessions. -/
theorem overviewSessions_counted {limit offset : Nat} (hlimit : limit < 2 ^ 63)
    (hoffset : offset < 2 ^ 63)
    (htotal : asSize (s.store.countRemoteControlTransmissions search) ≠ 0) :
    s.overviewSessions limit offset search =
      ((((s.store.foundSessions search).map s.storedSession).drop offset).take limit,
        asSize (s.store.countRemoteControlTransmissions search)) := by
  unfold Application.overviewSessions listRemoteControlSessions
  dsimp only
  rw [if_neg htotal, limitOffset_of_lt hlimit hoffset, List.map_take, List.map_drop]

/-- A page of the overview, where it counts none. -/
theorem overviewSessions_uncounted {limit offset : Nat} (hlimit : limit < 2 ^ 63)
    (hoffset : offset < 2 ^ 63)
    (htotal : asSize (s.store.countRemoteControlTransmissions search) = 0) :
    s.overviewSessions limit offset search =
      ((((s.store.foundSessions search).map s.storedSession).drop offset).take limit ++
        (((s.manager.matchingSnapshots search true).drop offset).take limit).map
          Application.shownSession,
        (s.manager.matchingSnapshots search true).length) := by
  unfold Application.overviewSessions listRemoteControlSessions
  dsimp only
  rw [if_pos htotal, limitOffset_of_lt hlimit hoffset, Routing.getTransmissionSnapshots_eq,
    List.map_take, List.map_drop]

/-- Lists with the same pages of one element, as far as one of them is long, are the same. -/
theorem eq_of_pages {α : Type} {l l' : List α} {n : Nat} (hlength : l.length < n)
    (hpages : ∀ i < n, (l.drop i).take 1 = (l'.drop i).take 1) : l' = l := by
  have hle : l'.length ≤ l.length := by
    have hlast := hpages l.length hlength
    rw [List.drop_length, List.take_nil] at hlast
    have hnil := List.take_eq_nil_iff.mp hlast.symm
    exact List.drop_eq_nil_iff.mp (hnil.resolve_left (by decide))
  refine List.ext_getElem? fun i => ?_
  by_cases hi : i < n
  · have hpage := congrArg List.head? (hpages i hi)
    rw [List.head?_take, List.head?_take, List.head?_drop, List.head?_drop] at hpage
    simpa using hpage.symm
  · rw [List.getElem?_eq_none (by omega), List.getElem?_eq_none (by omega)]

/-! ## What is shown when whole sessions are found -/

theorem rooms_foundSessions : ((s.store.foundSessions search).map s.storedSession).map
    SessionEntry.room |>.Perm ((s.store.searched search).map roomOf).dedup := by
  have hperm := ((foundSessions_perm search s.store).map s.storedSession).map SessionEntry.room
  have hgroups : ∀ groups : List (String × String), ((groups.map
      (groupOf (s.store.searched search))).map s.storedSession).map SessionEntry.room = groups := by
    intro groups
    rw [List.map_map, List.map_map]
    exact List.map_id groups
  rwa [hgroups] at hperm

theorem wholeSessions_of_found (hplain : PlainIds s.store) (hfound : FoundWhole search s) :
    WholeSessions search s ((s.store.foundSessions search).map s.storedSession) := by
  -- what the search finds is what it is meant to find
  have hcontains : ∀ entry ∈ s.store.remoteControlSessions.toList,
      entry ∈ s.store.searched search ↔ RowContains search entry := by
    intro entry hentry
    by_cases hsearch : '\x00' ∈ search.toList
    · rw [hfound.nul hsearch]
      exact iff_of_false List.not_mem_nil (not_rowContains hplain hsearch hentry)
    · rw [mem_searched_iff hsearch]
      exact and_iff_right hentry
  have hsub := searched_subset search s.store
  have hguests : ∀ session ∈ (s.store.foundSessions search).map s.storedSession, ∀ g : String,
      g ∈ session.guestIds ↔
        ∃ row, s.store.remoteControlSessions[sessionKey session.transmissionId g]? = some row ∧
          row.hostId = session.hostId := by
    intro session hsession g
    obtain ⟨info, hinfo, rfl⟩ := List.mem_map.mp hsession
    obtain ⟨found, hfoundIn, rfl⟩ := mem_foundSessions.mp hinfo
    show g ∈ (groupOf (s.store.searched search) (roomOf found)).guestIds ↔ _
    rw [mem_guestIds_iff hplain hsub]
    constructor
    · rintro ⟨entry, hentry, hroom, rfl, -⟩
      refine ⟨entry.2, ?_, congrArg Prod.snd hroom⟩
      show s.store.remoteControlSessions[sessionKey (roomOf found).1 (ofLex entry.1).2]? = _
      rw [← hroom]
      exact OrdMap.mem_toList.mp (hsub hentry)
    · rintro ⟨row, hrow, hhost⟩
      have hentry : (sessionKey (roomOf found).1 g, row) ∈ s.store.remoteControlSessions.toList :=
        OrdMap.mem_toList.mpr hrow
      obtain ⟨hin, hne⟩ := hfound.whole found hfoundIn _ hentry (Prod.ext rfl hhost)
      exact ⟨_, hin, Prod.ext rfl hhost, rfl, hne⟩
  refine ⟨?_, ?_, hguests, ?_, ?_⟩
  · rw [rooms_foundSessions.nodup_iff]
    exact List.nodup_dedup _
  · intro room
    rw [rooms_foundSessions.mem_iff, List.mem_dedup, List.mem_map]
    constructor
    · rintro ⟨entry, hentry, hroom⟩
      exact ⟨entry, hsub hentry, hroom, (hcontains entry (hsub hentry)).mp hentry⟩
    · rintro ⟨entry, hentry, hroom, hrow⟩
      exact ⟨entry, (hcontains entry hentry).mpr hrow, hroom⟩
  · intro session hsession
    obtain ⟨info, hinfo, rfl⟩ := List.mem_map.mp hsession
    obtain ⟨found, hfoundIn, rfl⟩ := mem_foundSessions.mp hinfo
    exact ⟨nodup_splitCommaSeparatedIds _, rfl⟩
  · intro hmirrors session hsession limit offset search' activeOnly snapshot hsnapshot hroom
    rw [Routing.getTransmissionSnapshots_eq] at hsnapshot
    obtain ⟨⟨tx, host⟩, hpair, rfl⟩ :=
      List.mem_map.mp (List.mem_of_mem_drop (List.mem_of_mem_take hsnapshot))
    have hhost := OrdMap.mem_toList.mp (List.mem_of_mem_filter hpair)
    obtain rfl : tx = session.transmissionId := hroom
    -- the session has a guest, so the rows say who the host is
    have hsame : session.hostId = host := by
      obtain ⟨info, hinfo, rfl⟩ := List.mem_map.mp hsession
      obtain ⟨found, hfoundIn, rfl⟩ := mem_foundSessions.mp hinfo
      have hrow := OrdMap.mem_toList.mp (hsub hfoundIn)
      have hmember := (hmirrors (roomOf found).1 (roomOf found).2 (ofLex found.1).2).mp
        ⟨found.2, hrow, rfl⟩
      exact Option.some.inj (hmember.1.symm.trans hhost)
    refine ⟨hsame.symm, fun g => ?_⟩
    rw [hguests session hsession, hmirrors, hsame]
    exact (and_iff_right hhost).symm

theorem shows_of_found (hplain : PlainIds s.store) (hfound : FoundWhole search s) :
    ShowsWholeSessions search s := by
  refine ⟨_, wholeSessions_of_found hplain hfound, fun limit offset hlimit hoffset => ?_⟩
  have hsmall : limit < 2 ^ 63 := lt_of_le_of_lt hlimit (by decide)
  have hcount : asSize (s.store.countRemoteControlTransmissions search) =
      ((s.store.searched search).map roomOf).dedup.length := by
    rw [countRemoteControlTransmissions_eq]
    exact (asSize_asInt32_iff (hfound.count.trans (by decide))).mpr hfound.count
  by_cases htotal : asSize (s.store.countRemoteControlTransmissions search) = 0
  · have hnone : s.store.searched search = [] := by
      rw [htotal] at hcount
      exact List.map_eq_nil_iff.mp ((List.dedup_eq_nil _).mp (List.length_eq_zero_iff.mp hcount.symm))
    rw [overviewSessions_uncounted hsmall hoffset htotal, hfound.rooms hnone,
      foundSessions_eq_nil_iff.mpr hnone]
    simp
  · rw [overviewSessions_counted hsmall hoffset htotal, hcount, List.length_map,
      foundSessions_length]

/-! ## What was found when whole sessions are shown -/

/-- The entries that are shown are those of the database, and there are not too many of them; or there
are none. -/
theorem shown_eq (hrows : s.store.remoteControlSessions.toList.length < 2 ^ 63)
    {sessions : List SessionEntry} (hpages : ∀ limit offset : Nat, limit ≤ maxPageLimit →
      offset < 2 ^ 63 → s.overviewSessions limit offset search =
        ((sessions.drop offset).take limit, sessions.length)) :
    (s.store.searched search ≠ [] ∧
      sessions = (s.store.foundSessions search).map s.storedSession ∧
      ((s.store.searched search).map roomOf).dedup.length < 2 ^ 31) ∨
    (s.store.searched search = [] ∧
      sessions.length = (s.manager.matchingSnapshots search true).length) := by
  have hlength : ((s.store.foundSessions search).map s.storedSession).length =
      ((s.store.searched search).map roomOf).dedup.length := by
    rw [List.length_map, foundSessions_length]
  have hsize : ((s.store.searched search).map roomOf).dedup.length < 2 ^ 63 := by
    refine lt_of_le_of_lt ?_ hrows
    calc ((s.store.searched search).map roomOf).dedup.length
        ≤ ((s.store.searched search).map roomOf).length := (List.dedup_sublist _).length_le
      _ = (s.store.searched search).length := List.length_map _
      _ ≤ s.store.remoteControlSessions.toList.length := List.length_filter_le _ _
  by_cases htotal : asSize (s.store.countRemoteControlTransmissions search) = 0
  · right
    have hfirst := hpages 1 0 (by decide) (by decide)
    rw [overviewSessions_uncounted (by decide) (by decide) htotal, List.drop_zero, List.drop_zero,
      List.drop_zero, Prod.mk.injEq] at hfirst
    refine ⟨?_, hfirst.2.symm⟩
    -- the first page has room for one entry, of the database or of the rooms
    have hone := congrArg List.length hfirst.1
    rw [List.length_append, List.length_map, List.length_take, List.length_take, List.length_take,
      hfirst.2, hlength] at hone
    have hzero : ((s.store.searched search).map roomOf).dedup.length = 0 := by omega
    exact List.map_eq_nil_iff.mp ((List.dedup_eq_nil _).mp (List.length_eq_zero_iff.mp hzero))
  · left
    have hsame : sessions = (s.store.foundSessions search).map s.storedSession := by
      refine eq_of_pages (hlength ▸ hsize) fun i hi => ?_
      have hpage := hpages 1 i (by decide) hi
      rw [overviewSessions_counted (show 1 < 2 ^ 63 by norm_num) hi htotal, Prod.mk.injEq] at hpage
      exact hpage.1
    have hcount := congrArg Prod.snd (hpages 1 0 (by decide) (by decide))
    rw [overviewSessions_counted (by decide) (by decide) htotal, hsame, hlength] at hcount
    dsimp only at hcount
    rw [countRemoteControlTransmissions_eq] at hcount
    refine ⟨fun hnone => ?_, hsame, (asSize_asInt32_iff hsize).mp hcount⟩
    refine htotal ?_
    rw [countRemoteControlTransmissions_eq, hnone]
    rfl

theorem found_of_shows (hplain : PlainIds s.store)
    (hrows : s.store.remoteControlSessions.toList.length < 2 ^ 63)
    (hshows : ShowsWholeSessions search s) : FoundWhole search s := by
  obtain ⟨sessions, hwhole, hpages⟩ := hshows
  have hsub := searched_subset search s.store
  rcases shown_eq hrows hpages with ⟨hsome, rfl, hcount⟩ | ⟨hnone, hlength⟩
  · -- an entry is shown for every row that is found
    have hentry : ∀ entry ∈ s.store.searched search,
        s.storedSession (groupOf (s.store.searched search) (roomOf entry)) ∈
          (s.store.foundSessions search).map s.storedSession := fun entry hin =>
      List.mem_map_of_mem (mem_foundSessions.mpr ⟨entry, hin, rfl⟩)
    refine ⟨?_, ?_, fun hnone => absurd hnone hsome, hcount⟩
    · intro entry hin entry' hin' hroom
      have hrow' := OrdMap.mem_toList.mp hin'
      have hguest := (hwhole.guests _ (hentry entry hin) (ofLex entry'.1).2).mpr
        ⟨entry'.2, by
          show s.store.remoteControlSessions[sessionKey (roomOf entry).1 (ofLex entry'.1).2]? = _
          rw [← hroom]
          exact hrow', congrArg Prod.snd hroom⟩
      obtain ⟨found, hfound, hfoundRoom, hsame, hne⟩ := (mem_guestIds_iff hplain hsub).mp hguest
      -- a room has one row for a guest
      have hkey : found.1 = entry'.1 := by
        refine ofLex_inj.mp (Prod.ext ?_ hsame)
        have hrooms : roomOf found = roomOf entry' := hfoundRoom.trans hroom.symm
        show (roomOf found).1 = (roomOf entry').1
        rw [hrooms]
      have hrow := OrdMap.mem_toList.mp (hsub hfound)
      rw [hkey, hrow'] at hrow
      have heq : entry' = found := Prod.ext hkey.symm (Option.some.inj hrow)
      exact ⟨heq ▸ hfound, hne⟩
    · intro hsearch
      refine List.eq_nil_iff_forall_not_mem.mpr fun entry hin => ?_
      have hroom := List.mem_map_of_mem (f := SessionEntry.room) (hentry entry hin)
      obtain ⟨entry', hin', -, hcontains⟩ := (hwhole.listed _).mp hroom
      exact not_rowContains hplain hsearch hin' hcontains
  · refine ⟨?_, fun _ => hnone, fun _ => ?_, ?_⟩
    · intro entry hin
      rw [hnone] at hin
      exact absurd hin List.not_mem_nil
    · refine List.length_eq_zero_iff.mp (hlength ▸ List.length_eq_zero_iff.mpr ?_)
      refine List.eq_nil_iff_forall_not_mem.mpr fun session hin => ?_
      have hroom := List.mem_map_of_mem (f := SessionEntry.room) hin
      obtain ⟨entry, hin', -, hcontains⟩ := (hwhole.listed _).mp hroom
      by_cases hsearch : '\x00' ∈ search.toList
      · exact not_rowContains hplain hsearch hin' hcontains
      · have hfound := (mem_searched_iff hsearch).mpr ⟨hin', hcontains⟩
        rw [hnone] at hfound
        exact absurd hfound List.not_mem_nil
    · rw [hnone]
      decide

/-- **When a search shows whole sessions.** An SQLite table has fewer than `2 ^ 63` rows. -/
theorem search_shows_whole_sessions_iff (hplain : PlainIds s.store)
    (hrows : s.store.remoteControlSessions.toList.length < 2 ^ 63) :
    ShowsWholeSessions search s ↔ FoundWhole search s :=
  ⟨found_of_shows hplain hrows, shows_of_found hplain⟩

/-! ## A session with two guests -/

/-- A device is controlled by two others. -/
def twoGuests : Application where
  manager :=
    { transmissionHostIdList := (∅ : OrdMap String String).insert "111222333" "111222333"
      transmissionGuestIdList :=
        (∅ : OrdMap String (List String)).insert "111222333" ["444555666", "777888999"] }
  store :=
    { remoteControlSessions := ((∅ : OrdMap SessionKey SessionRow).insert
          (sessionKey "111222333" "444555666") { hostId := "111222333", startedAt := 1 }).insert
        (sessionKey "111222333" "777888999") { hostId := "111222333", startedAt := 2 } }

theorem plainIds_twoGuests : PlainIds twoGuests.store :=
  ⟨by decide +kernel, by decide +kernel⟩

/-- A search for the host shows the whole session. -/
theorem search_shows_whole_sessions_iff_host : ShowsWholeSessions "111" twoGuests :=
  (search_shows_whole_sessions_iff plainIds_twoGuests (by decide +kernel)).mpr
    ⟨by decide +kernel, by decide +kernel, by decide +kernel, by decide +kernel⟩

/-- A search for one of the guests shows a session with this guest alone, and counts two participants;
the transmission manager shows both guests. -/
theorem search_shows_one_guest :
    twoGuests.overviewSessions 50 0 "444" =
      ([{ transmissionId := "111222333", hostId := "111222333", guestIds := ["444555666"],
          participantCount := 2, recoveringCount := some 0, active := true }], 1) ∧
    (twoGuests.manager.getTransmissionSnapshots 50 0 "444" true).1.map
      TransmissionSnapshot.guestIds = [["444555666", "777888999"]] ∧
    ¬ ShowsWholeSessions "444" twoGuests := by
  refine ⟨by decide +kernel, by decide +kernel, fun hshows => ?_⟩
  have hfound := found_of_shows plainIds_twoGuests (by decide +kernel) hshows
  have hother := hfound.whole
    (sessionKey "111222333" "444555666", { hostId := "111222333", startedAt := 1 }) (by decide +kernel)
    (sessionKey "111222333" "777888999", { hostId := "111222333", startedAt := 2 }) (by decide +kernel)
    rfl
  exact absurd hother.1 (by decide +kernel)

end CrossDesk
