import CrossDesk.Lib.OrdMap
import CrossDesk.Lib.Paging
import CrossDesk.Json

/-!
# The notification store

`NotificationStore` keeps the announcements of the administrator in a table of their own connection
to the database. A client edits what it has read: `Save` and `Delete` name the revision of the
announcement they are meant for, and answer `stale_announcement` when that is not the stored one.
The catalog counter is advanced by triggers with every row that is inserted, changed or deleted, so
that the pages of a listing can be told to belong together.

* **Ids.** The table is `AUTOINCREMENT`: a new row gets an id above every id that any row ever had,
  so `sequence` outlives the rows.
* **Failures.** A call that SQLite cannot carry out throws and changes nothing. It is no call here.
* **Counts.** `List` reads the number of rows as an `int`. Where it is the least `int`, the next
  subtraction overflows; the model subtracts in `Int`, and the total is negative either way.
* **Texts.** `NotificationService` refuses texts with a NUL before they are stored, so that reading one
  as a C string cuts nothing off.
-/

namespace CrossDesk

/-- A row of `announcements`, apart from its id. -/
structure Announcement where
  revision : Int
  title : String
  body : String
  published : Bool
  updatedAt : Int
  deriving DecidableEq, Repr

/-- The tables: the announcements by their id, the largest id ever given out, and the counter of
`announcement_catalog`, which a database of an earlier version does not have. -/
structure NotificationStore where
  announcements : OrdMap Int Announcement := ∅
  sequence : Int := 0
  catalog : Option Int := none

namespace NotificationStore

/-- `InitializeSchema`: a catalog that comes into being starts at the sum of the revisions. -/
def initializeSchema (s : NotificationStore) : NotificationStore :=
  { s with
    catalog := some (s.catalog.getD ((s.announcements.toList.map (fun row => row.2.revision)).sum)) }

/-- The triggers on `announcements`: one row was inserted, changed or deleted. -/
def advanceCatalog (s : NotificationStore) : NotificationStore :=
  { s with catalog := s.catalog.map (· + 1) }

def staleAnnouncement : String := "stale_announcement"

/-- `Save`: a new announcement for the id 0, otherwise an edit of the announcement at the revision.
The reply is the id and the revision of what was stored. -/
def save (now id revision : Int) (title body : String) (published : Bool) (s : NotificationStore) :
    Except String (Int × Int) × NotificationStore :=
  if id = 0 then
    let id := s.sequence + 1
    (.ok (id, 1), advanceCatalog { s with
      announcements := s.announcements.insert id
        { revision := 1, title, body, published, updatedAt := now }
      sequence := id })
  else
    match s.announcements[id]? with
    | none => (.error staleAnnouncement, s)
    | some stored =>
      if stored.revision = revision then
        (.ok (id, revision + 1), advanceCatalog { s with
          announcements := s.announcements.insert id
            { revision := stored.revision + 1, title, body, published, updatedAt := now } })
      else (.error staleAnnouncement, s)

/-- `Delete`: only an announcement that is not published, at the revision. -/
def delete (id revision : Int) (s : NotificationStore) : Except String Int × NotificationStore :=
  match s.announcements[id]? with
  | none => (.error staleAnnouncement, s)
  | some stored =>
    if stored.revision = revision ∧ stored.published = false then
      (.ok id, advanceCatalog { s with announcements := s.announcements.erase id })
    else (.error staleAnnouncement, s)

/-! ## Listing -/

/-- The rows that a listing is about: all of them, or the published ones. -/
def matching (includeDrafts : Bool) (s : NotificationStore) : List (Int × Announcement) :=
  s.announcements.toList.filter (fun row => includeDrafts || row.2.published)

/-- The order of a listing: by id in a summary, otherwise the latest first. -/
def before (summaryOnly : Bool) (a b : Int × Announcement) : Bool :=
  if summaryOnly then a.1 ≤ b.1
  else b.2.updatedAt < a.2.updatedAt || (a.2.updatedAt == b.2.updatedAt && b.1 ≤ a.1)

def ordered (includeDrafts summaryOnly : Bool) (s : NotificationStore) :
    List (Int × Announcement) :=
  (s.matching includeDrafts).mergeSort (before summaryOnly)

/-- What a page says of an announcement. -/
def item (summaryOnly : Bool) (row : Int × Announcement) : Json :=
  .obj ([("id", .int row.1), ("revision", .int row.2.revision)] ++
    if summaryOnly then []
    else [("title", .str row.2.title), ("body", .str row.2.body),
      ("published", .bool row.2.published), ("updated_at", .int row.2.updatedAt)])

/-- The number of rows on a page. -/
def pageSize (summaryOnly : Bool) : Nat := if summaryOnly then 200 else 20

/-- The offset that is read: a multiple of the page size at most, and not past the last page. -/
def clampOffset (offset total : Int) (limit : Nat) : Nat :=
  (max 0 (min offset (if total = 0 then 0 else (total - 1).tdiv limit * limit))).toNat

/-- The reply of `List`. -/
structure Page where
  items : List Json
  total : Int
  offset : Nat
  limit : Nat
  summaryOnly : Bool
  catalogRevision : Int

/-- `List`. Everything is read in one snapshot. -/
def list (includeDrafts : Bool) (offset : Int) (summaryOnly : Bool) (s : NotificationStore) : Page :=
  let total := asInt32 (s.matching includeDrafts).length
  let limit := pageSize summaryOnly
  let offset := clampOffset offset total limit
  { items := (((s.ordered includeDrafts summaryOnly).drop offset).take limit).map (item summaryOnly)
    total, offset, limit, summaryOnly
    catalogRevision := s.catalog.getD 0 }

end NotificationStore

end CrossDesk
