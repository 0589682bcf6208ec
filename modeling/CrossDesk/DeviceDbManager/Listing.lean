import CrossDesk.DeviceDbManager.Basic

/-!
# Listing the sessions

What `ListRemoteControlSessions` hands out. The guests of a group go through one text, joined with
commas and split again, so what comes out are the *pieces* of the guest ids: an id without a comma is
its own only piece, and an id with a comma is never among the pieces.

A session is listed under its room and host when the limit has room for all groups.
-/

namespace CrossDesk.DeviceDbManager

/-! ## Joining and splitting -/

theorem splitAtCommas_ne_nil (l : List Char) : splitAtCommas l ≠ [] := by
  induction l with
  | nil => simp [splitAtCommas]
  | cons c l ih =>
    unfold splitAtCommas
    split
    · simp
    · split <;> simp

/-- A comma ends a piece, and what follows is split on its own. -/
theorem splitAtCommas_append (l l' : List Char) :
    splitAtCommas (l ++ ',' :: l') = splitAtCommas l ++ splitAtCommas l' := by
  induction l with
  | nil => simp [splitAtCommas]
  | cons c l ih =>
    by_cases hc : c = ','
    · simp [splitAtCommas, hc, ih]
    · cases hsplit : splitAtCommas l with
      | nil => exact absurd hsplit (splitAtCommas_ne_nil l)
      | cons piece pieces => simp [splitAtCommas, hc, ih, hsplit]

theorem splitAtCommas_of_not_mem {l : List Char} (h : ',' ∉ l) : splitAtCommas l = [l] := by
  induction l with
  | nil => rfl
  | cons c l ih =>
    rw [List.mem_cons, not_or] at h
    have hc : ¬ c = ',' := fun hc => h.1 hc.symm
    simp [splitAtCommas, hc, ih h.2]

theorem not_mem_of_mem_splitAtCommas {l piece : List Char} (h : piece ∈ splitAtCommas l) :
    ',' ∉ piece := by
  induction l generalizing piece with
  | nil =>
    rw [List.mem_singleton.mp h]
    exact List.not_mem_nil
  | cons c l ih =>
    cases hsplit : splitAtCommas l with
    | nil => exact absurd hsplit (splitAtCommas_ne_nil l)
    | cons first pieces =>
      rw [hsplit] at ih
      by_cases hc : c = ','
      · simp only [splitAtCommas, hc, if_true, hsplit, List.mem_cons] at h
        rcases h with rfl | h
        · exact List.not_mem_nil
        · exact ih (List.mem_cons.mpr h)
      · simp only [splitAtCommas, hc, if_false, hsplit, List.mem_cons] at h
        rcases h with rfl | h
        · rw [List.mem_cons, not_or]
          exact ⟨fun hcomma => hc hcomma.symm, ih List.mem_cons_self⟩
        · exact ih (List.mem_cons_of_mem _ h)

theorem mem_splitCommaSeparatedIds {piece value : String} :
    piece ∈ splitCommaSeparatedIds value ↔
      piece ≠ "" ∧ piece.toList ∈ splitAtCommas value.toList := by
  unfold splitCommaSeparatedIds
  rw [List.mem_dedup, List.mem_mergeSort, List.mem_filter, List.mem_map, and_comm, decide_eq_true_eq]
  refine and_congr_right (fun _ => ?_)
  constructor
  · rintro ⟨l, hl, rfl⟩
    rwa [String.toList_ofList]
  · exact fun h => ⟨piece.toList, h, String.ofList_toList⟩

theorem nodup_splitCommaSeparatedIds (value : String) : (splitCommaSeparatedIds value).Nodup :=
  List.nodup_dedup _

/-- No piece has a comma. -/
theorem not_mem_of_mem_splitCommaSeparatedIds {piece value : String}
    (h : piece ∈ splitCommaSeparatedIds value) : ',' ∉ piece.toList :=
  not_mem_of_mem_splitAtCommas (mem_splitCommaSeparatedIds.mp h).2

/-- An id without a comma is its own only piece. -/
theorem mem_splitCommaSeparatedIds_of_not_mem {piece id : String} (hid : id ≠ "")
    (hcomma : ',' ∉ id.toList) : piece ∈ splitCommaSeparatedIds id ↔ piece = id := by
  rw [mem_splitCommaSeparatedIds, splitAtCommas_of_not_mem hcomma, List.mem_singleton,
    String.toList_inj]
  constructor
  · exact And.right
  · rintro rfl
    exact ⟨hid, rfl⟩

/-- **What comes out of the joined text** are the pieces of the ids that went in. -/
theorem mem_split_groupConcat {piece : String} {ids : List String} :
    piece ∈ splitCommaSeparatedIds (groupConcat ids) ↔
      ∃ id ∈ ids, piece ∈ splitCommaSeparatedIds id := by
  unfold groupConcat
  induction ids with
  | nil =>
    rw [String.intercalate_nil, mem_splitCommaSeparatedIds]
    simp [splitAtCommas]
  | cons id ids ih =>
    by_cases hids : ids = []
    · simp [hids]
    · have htoList : (",".intercalate (id :: ids)).toList =
          id.toList ++ ',' :: (",".intercalate ids).toList := by
        rw [String.intercalate_cons_of_ne_nil hids]
        simp
      simp only [List.mem_cons, exists_eq_or_imp, ← ih]
      simp only [mem_splitCommaSeparatedIds, htoList, splitAtCommas_append, List.mem_append]
      tauto

/-! ## Groups -/

/-- The room and the host of a session. -/
def roomOf (entry : SessionKey × SessionRow) : String × String :=
  ((ofLex entry.1).1, entry.2.hostId)

theorem searched_empty (db : DeviceDbManager) :
    db.searched "" = db.remoteControlSessions.toList := by
  simp [searched]

/-- The number of groups. -/
def groupCount (db : DeviceDbManager) : Nat :=
  (db.remoteControlSessions.toList.map roomOf).dedup.length

/-- The list of all sessions, where the limit has room for them. -/
theorem listRemoteControlSessions_perm {limit : Nat} {db : DeviceDbManager}
    (hlimit : db.groupCount ≤ limit) (hsize : limit < 2 ^ 63) :
    (db.listRemoteControlSessions limit 0 "").Perm
      ((db.remoteControlSessions.toList.map roomOf).dedup.map
        (groupOf db.remoteControlSessions.toList)) := by
  unfold listRemoteControlSessions
  rw [limitOffset_of_lt hsize (by decide), List.drop_zero, foundSessions, searched_empty,
    List.take_of_length_le]
  · exact List.mergeSort_perm _ _
  · rw [List.length_mergeSort, List.length_map]
    exact hlimit

/-- The guests of a group. -/
theorem mem_guestIds_groupOf {db : DeviceDbManager} {group : String × String} {piece : String} :
    piece ∈ (groupOf db.remoteControlSessions.toList group).guestIds ↔
      ∃ (g : String) (row : SessionRow),
        db.remoteControlSessions[sessionKey group.1 g]? = some row ∧ row.hostId = group.2 ∧
          piece ∈ splitCommaSeparatedIds g := by
  unfold groupOf
  dsimp only
  rw [mem_split_groupConcat]
  constructor
  · rintro ⟨g, hg, hpiece⟩
    obtain ⟨⟨key, row⟩, hmem, rfl⟩ := List.mem_map.mp hg
    obtain ⟨hrow, hgroup⟩ := List.mem_filter.mp hmem
    have heq : ((ofLex key).1, row.hostId) = group := by simpa using hgroup
    refine ⟨(ofLex key).2, row, ?_, congrArg Prod.snd heq, hpiece⟩
    rw [← congrArg Prod.fst heq]
    exact OrdMap.mem_toList.mp hrow
  · rintro ⟨g, row, hrow, hhost, hpiece⟩
    refine ⟨g, List.mem_map.mpr ⟨(sessionKey group.1 g, row), ?_, rfl⟩, hpiece⟩
    rw [List.mem_filter]
    refine ⟨OrdMap.mem_toList.mpr hrow, ?_⟩
    show ((group.1, row.hostId) == group) = true
    rw [hhost]
    exact beq_self_eq_true _

end CrossDesk.DeviceDbManager
