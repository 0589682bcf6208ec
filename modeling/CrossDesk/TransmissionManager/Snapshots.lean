import CrossDesk.TransmissionManager.Basic

/-!
# Snapshots of the rooms

`GetTransmissionSnapshots` walks the rooms once, counts those that match and copies the ones on the
page. What it hands out is the page of the matching rooms and their number
(`getTransmissionSnapshots_eq`). The search looks at the texts as they are, letter by letter.
-/

namespace CrossDesk

/-- `TransmissionSnapshot`. -/
structure TransmissionSnapshot where
  transmissionId : String
  hostId : String
  guestIds : List String := []
  participantCount : Nat := 0
  active : Bool := false
  deriving DecidableEq, Repr

/-- `ContainsText`. -/
def containsText (value search : String) : Bool :=
  value.toList.tails.any (fun tail => search.toList.isPrefixOf tail)

/-- `TransmissionMatchesSearch`. -/
def transmissionMatchesSearch (transmissionId hostId : String) (guestIds : Option (List String))
    (search : String) : Bool :=
  search == "" || containsText transmissionId search || containsText hostId search ||
    (guestIds.getD []).any (fun guestId => containsText guestId search)

namespace Routing

/-- The room is looked at: it has guests, where only those are asked for, and the search finds it. -/
def snapshotMatches (search : String) (activeOnly : Bool) (s : Routing) (room : String × String) :
    Bool :=
  let guestIds := s.transmissionGuestIdList[room.1]?
  (!activeOnly || guestIds.any (fun guestIds => !guestIds.isEmpty)) &&
    transmissionMatchesSearch room.1 room.2 guestIds search

/-- What is copied of a room. -/
def snapshotOf (s : Routing) (room : String × String) : TransmissionSnapshot :=
  let guestIds := s.guestsOf room.1
  { transmissionId := room.1
    hostId := room.2
    guestIds
    participantCount := 1 + guestIds.length
    active := (s.transmissionGuestIdList[room.1]?).any (fun guestIds => !guestIds.isEmpty) }

/-- One round: the snapshots so far and the number of rooms that matched. -/
def snapshotRound (limit offset : Nat) (search : String) (activeOnly : Bool) (s : Routing)
    (r : List TransmissionSnapshot × Nat) (room : String × String) :
    List TransmissionSnapshot × Nat :=
  if !s.snapshotMatches search activeOnly room then r
  else if r.2 < offset then (r.1, r.2 + 1)
  else if limit ≤ r.1.length then (r.1, r.2 + 1)
  else (r.1 ++ [s.snapshotOf room], r.2 + 1)

/-- `GetTransmissionSnapshots`, with the number of rooms that match. -/
def getTransmissionSnapshots (limit offset : Nat) (search : String) (activeOnly : Bool)
    (s : Routing) : List TransmissionSnapshot × Nat :=
  s.transmissionHostIdList.toList.foldl (s.snapshotRound limit offset search activeOnly) ([], 0)

/-- The rooms that match, all of them. -/
def matchingSnapshots (search : String) (activeOnly : Bool) (s : Routing) :
    List TransmissionSnapshot :=
  (s.transmissionHostIdList.toList.filter (s.snapshotMatches search activeOnly)).map s.snapshotOf

/-- The loop, when some matching rooms have been seen. -/
theorem foldl_snapshotRound (limit offset : Nat) (search : String) (activeOnly : Bool) (s : Routing)
    (rooms : List (String × String)) (seen : List TransmissionSnapshot) :
    rooms.foldl (s.snapshotRound limit offset search activeOnly)
        ((seen.drop offset).take limit, seen.length) =
      (((seen ++ (rooms.filter (s.snapshotMatches search activeOnly)).map s.snapshotOf).drop
          offset).take limit,
        (seen ++ (rooms.filter (s.snapshotMatches search activeOnly)).map s.snapshotOf).length) := by
  induction rooms generalizing seen with
  | nil => rw [List.filter_nil, List.map_nil, List.append_nil]; rfl
  | cons room rooms ih =>
    rw [List.foldl_cons]
    cases hmatch : s.snapshotMatches search activeOnly room with
    | false =>
      have hround : s.snapshotRound limit offset search activeOnly
          ((seen.drop offset).take limit, seen.length) room =
          ((seen.drop offset).take limit, seen.length) := by
        unfold snapshotRound
        rw [hmatch]
        rfl
      rw [hround, ih, List.filter_cons_of_neg (by rw [hmatch]; exact Bool.false_ne_true)]
    | true =>
      have hround : s.snapshotRound limit offset search activeOnly
          ((seen.drop offset).take limit, seen.length) room =
          (((seen ++ [s.snapshotOf room]).drop offset).take limit,
            (seen ++ [s.snapshotOf room]).length) := by
        unfold snapshotRound
        rw [hmatch, List.length_append, List.length_singleton]
        dsimp only
        -- Before the offset nothing is shown, and after the limit nothing is added.
        by_cases hskip : seen.length < offset
        · have hnone : (seen ++ [s.snapshotOf room]).drop offset = [] := by
            rw [List.drop_eq_nil_iff, List.length_append, List.length_singleton]
            omega
          rw [if_neg (by decide), if_pos hskip, hnone, List.drop_eq_nil_of_le hskip.le]
        · rw [if_neg (by decide), if_neg hskip, List.drop_append_of_le_length (by omega)]
          by_cases hfull : limit ≤ ((seen.drop offset).take limit).length
          · rw [if_pos hfull, List.take_append_of_le_length]
            rw [List.length_take] at hfull
            omega
          · rw [if_neg hfull]
            rw [List.length_take] at hfull
            rw [List.take_of_length_le (by omega), List.take_of_length_le]
            rw [List.length_append, List.length_singleton]
            omega
      rw [hround, ih, List.filter_cons_of_pos hmatch, List.map_cons, List.append_assoc]
      rfl

/-- **The snapshots** are the page of the matching rooms, and their number. -/
theorem getTransmissionSnapshots_eq (limit offset : Nat) (search : String) (activeOnly : Bool)
    (s : Routing) : s.getTransmissionSnapshots limit offset search activeOnly =
      (((s.matchingSnapshots search activeOnly).drop offset).take limit,
        (s.matchingSnapshots search activeOnly).length) := by
  have hloop := foldl_snapshotRound limit offset search activeOnly s
    s.transmissionHostIdList.toList []
  rw [List.drop_nil, List.take_nil, List.nil_append] at hloop
  exact hloop

end Routing

end CrossDesk
