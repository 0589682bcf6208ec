import CrossDesk.Lib.System
import CrossDesk.Lib.Versioned
import CrossDesk.NotificationStore.Basic

/-!
# Announcement edits and catalog versions

Clients save, delete and list in any order, and each of them works with what an earlier call told
it. Two versions make that safe, and both are versions in the sense of `Later`:

* the stage of an id — not given out yet, stored at a revision, gone — rises with every change of
  its announcement, because an id is never given out twice (`later_stage`);
* the catalog counter rises with every change of the table (`later_catalog`).

An edit that succeeds finds its announcement at exactly the stage that the client read, and leaves
it at a higher one; so it finds what the client read, and no other edit of that revision follows.
Pages that were read under one catalog counter are pages of one listing. They cover it unless it is
so long that its length is no `int` (`pagesCover_iff`).
-/

namespace CrossDesk.NotificationStore

/-- The calls of the clients, with the clock, and the opening of the database. -/
inductive Call where
  | initializeSchema
  | save (now id revision : Int) (title body : String) (published : Bool)
  | delete (id revision : Int)
  | list (includeDrafts : Bool) (offset : Int) (summaryOnly : Bool)

namespace Call

/-- The store after a call. -/
def apply (s : NotificationStore) : Call → NotificationStore
  | initializeSchema => s.initializeSchema
  | save now id revision title body published => (s.save now id revision title body published).2
  | delete id revision => (s.delete id revision).2
  | list _ _ _ => s

/-- The call edits the announcement at the revision: it names both. -/
def names (id revision : Int) : Call → Bool
  | save _ id' revision' _ _ _ => id' == id && revision' == revision
  | delete id' revision' => id' == id && revision' == revision
  | _ => false

/-- The reply to an edit is a success. -/
def succeeds (s : NotificationStore) : Call → Bool
  | save now id revision title body published =>
    (s.save now id revision title body published).1.isOk
  | delete id revision => (s.delete id revision).1.isOk
  | _ => false

end Call

/-- The store under any sequence of calls, on a database of this version or of an earlier one. -/
def system : System NotificationStore Call where
  start s := ∃ db : NotificationStore,
    (∀ (id : Int) (a : Announcement), db.announcements[id]? = some a → id ≤ db.sequence) ∧
      s = db.initializeSchema
  step s call s' := s' = call.apply s

/-- The store after a sequence of calls. -/
def after (s : NotificationStore) (calls : List Call) : NotificationStore :=
  calls.foldl Call.apply s

/-- The states that a sequence of calls goes through. -/
def states (s : NotificationStore) (calls : List Call) : List NotificationStore :=
  calls.scanl Call.apply s

/-- How many edits of the announcement at the revision succeed. -/
def successes (id revision : Int) : NotificationStore → List Call → Nat
  | _, [] => 0
  | s, call :: calls =>
    (if call.names id revision && call.succeeds s then 1 else 0) +
      successes id revision (call.apply s) calls

/-! ## Ids are not given out twice -/

/-- No stored id is above the ids given out, and the catalog is there. -/
structure Tidy (s : NotificationStore) : Prop where
  id_le : ∀ (id : Int) (a : Announcement), s.announcements[id]? = some a → id ≤ s.sequence
  counted : ∃ n : Int, s.catalog = some n

/-- `Save` refuses and changes nothing, stores a new announcement under a fresh id, or replaces the
announcement that is stored at the revision. -/
theorem save_cases (now id revision : Int) (title body : String) (published : Bool)
    (s : NotificationStore) :
    s.save now id revision title body published = (.error staleAnnouncement, s) ∧ id ≠ 0 ∨
      id = 0 ∧ s.save now id revision title body published =
        (.ok (s.sequence + 1, 1), advanceCatalog { s with
          announcements := s.announcements.insert (s.sequence + 1)
            { revision := 1, title, body, published, updatedAt := now }
          sequence := s.sequence + 1 }) ∨
      id ≠ 0 ∧ ∃ stored : Announcement, s.announcements[id]? = some stored ∧
        stored.revision = revision ∧ s.save now id revision title body published =
          (.ok (id, revision + 1), advanceCatalog { s with
            announcements := s.announcements.insert id
              { revision := stored.revision + 1, title, body, published, updatedAt := now } }) := by
  unfold save
  by_cases hnew : id = 0
  · exact .inr (.inl ⟨hnew, by rw [if_pos hnew]⟩)
  rw [if_neg hnew]
  cases hstored : s.announcements[id]? with
  | none => exact .inl ⟨rfl, hnew⟩
  | some stored =>
    dsimp only
    by_cases hrevision : stored.revision = revision
    · exact .inr (.inr ⟨hnew, stored, rfl, hrevision, by rw [if_pos hrevision]⟩)
    · exact .inl ⟨by rw [if_neg hrevision], hnew⟩

/-- `Delete` refuses and changes nothing, or erases the announcement that is stored at the
revision. -/
theorem delete_cases (id revision : Int) (s : NotificationStore) :
    s.delete id revision = (.error staleAnnouncement, s) ∨
      ∃ stored : Announcement, s.announcements[id]? = some stored ∧ stored.revision = revision ∧
        stored.published = false ∧ s.delete id revision =
          (.ok id, advanceCatalog { s with announcements := s.announcements.erase id }) := by
  unfold delete
  cases hstored : s.announcements[id]? with
  | none => exact .inl rfl
  | some stored =>
    dsimp only
    by_cases hgoes : stored.revision = revision ∧ stored.published = false
    · exact .inr ⟨stored, rfl, hgoes.1, hgoes.2, by rw [if_pos hgoes]⟩
    · exact .inl (by rw [if_neg hgoes])

theorem Tidy.initializeSchema {s : NotificationStore}
    (h : ∀ (id : Int) (a : Announcement), s.announcements[id]? = some a → id ≤ s.sequence) :
    Tidy s.initializeSchema :=
  ⟨h, _, rfl⟩

theorem Tidy.apply {s : NotificationStore} (hs : Tidy s) (call : Call) : Tidy (call.apply s) := by
  obtain ⟨n, hn⟩ := hs.counted
  cases call with
  | initializeSchema => exact Tidy.initializeSchema hs.id_le
  | list includeDrafts offset summaryOnly => exact hs
  | save now id revision title body published =>
    have hid := hs.id_le
    rcases save_cases now id revision title body published s with
      ⟨hsave, -⟩ | ⟨-, hsave⟩ | ⟨-, stored, hstored, -, hsave⟩
    · rw [Call.apply, hsave]
      exact hs
    · rw [Call.apply, hsave]
      refine ⟨?_, n + 1, by simp [advanceCatalog, hn]⟩
      intro id' a ha
      have hold := hid id' a
      simp only [advanceCatalog] at ha ⊢
      grind
    · rw [Call.apply, hsave]
      refine ⟨?_, n + 1, by simp [advanceCatalog, hn]⟩
      intro id' a ha
      have hold := hid id'
      simp only [advanceCatalog] at ha ⊢
      grind
  | delete id revision =>
    have hid := hs.id_le
    rcases delete_cases id revision s with hdelete | ⟨stored, -, -, -, hdelete⟩
    · rw [Call.apply, hdelete]
      exact hs
    · rw [Call.apply, hdelete]
      refine ⟨?_, n + 1, by simp [advanceCatalog, hn]⟩
      intro id' a ha
      have hold := hid id' a
      simp only [advanceCatalog] at ha ⊢
      grind

theorem tidy_of_reachable {s : NotificationStore} (h : system.Reachable s) : Tidy s := by
  refine h.invariant (I := Tidy) ?_ ?_
  · rintro _ ⟨db, hdb, rfl⟩
    exact Tidy.initializeSchema hdb
  · rintro s call _ hs rfl
    exact hs.apply call

/-! ## The two versions -/

/-- The stage of an id: not given out yet, stored at a revision, or gone. -/
def stage (id : Int) (s : NotificationStore) : Nat ×ₗ Int :=
  match s.announcements[id]? with
  | some a => toLex (1, a.revision)
  | none => if id ≤ s.sequence then toLex (2, 0) else toLex (0, 0)

theorem stage_stored {id : Int} {s : NotificationStore} {a : Announcement}
    (h : s.announcements[id]? = some a) : stage id s = toLex (1, a.revision) := by
  simp [stage, h]

/-- A change that replaces the announcement of one id leaves the stage of the others. -/
theorem later_stage_of_ne {id : Int} {s s' : NotificationStore}
    (hsame : s'.announcements[id]? = s.announcements[id]?)
    (hgiven : id ≤ s'.sequence ↔ id ≤ s.sequence) :
    Later (stage id) (fun s => s.announcements[id]?) s s' :=
  .inr ⟨by simp [stage, hsame, hgiven], hsame.symm⟩

/-- **The stage of an id rises with every change of its announcement.** -/
theorem later_stage (id : Int) {s : NotificationStore} (hs : Tidy s) (call : Call) :
    Later (stage id) (fun s => s.announcements[id]?) s (call.apply s) := by
  cases call with
  | initializeSchema => exact .inr ⟨rfl, rfl⟩
  | list includeDrafts offset summaryOnly => exact .refl s
  | save now id' revision title body published =>
    rcases save_cases now id' revision title body published s with
      ⟨hsave, -⟩ | ⟨-, hsave⟩ | ⟨-, stored, hstored, hrevision, hsave⟩
    · rw [Call.apply, hsave]
      exact .refl s
    · rw [Call.apply, hsave]
      by_cases hid : id = s.sequence + 1
      · -- the fresh id was not given out, and is stored now
        left
        have hnone : s.announcements[id]? = none := by
          cases ha : s.announcements[id]? with
          | none => rfl
          | some a => have hle := hs.id_le id a ha; omega
        rw [stage_stored (s := advanceCatalog _) (a := ⟨1, title, body, published, now⟩)
          (by simp [advanceCatalog, hid])]
        have hgiven : ¬ id ≤ s.sequence := by omega
        simp [stage, hnone, hgiven, Prod.Lex.toLex_lt_toLex]
      · refine later_stage_of_ne ?_ ?_
        · simp only [advanceCatalog]
          grind
        · simp only [advanceCatalog]
          omega
    · rw [Call.apply, hsave]
      by_cases hid : id = id'
      · left
        subst hid
        -- The stored revision is replaced by the next one.
        rw [stage_stored hstored, stage_stored (s := advanceCatalog _)
          (a := ⟨stored.revision + 1, title, body, published, now⟩) (by simp [advanceCatalog])]
        simp [Prod.Lex.toLex_lt_toLex]
      · refine later_stage_of_ne ?_ Iff.rfl
        simp only [advanceCatalog]
        grind
  | delete id' revision =>
    rcases delete_cases id' revision s with hdelete | ⟨stored, hstored, -, -, hdelete⟩
    · rw [Call.apply, hdelete]
      exact .refl s
    · rw [Call.apply, hdelete]
      by_cases hid : id = id'
      · left
        subst hid
        -- A deleted id stays given out, which is the last stage.
        have hgiven := hs.id_le id stored hstored
        rw [stage_stored hstored]
        simp [stage, advanceCatalog, hgiven, Prod.Lex.toLex_lt_toLex]
      · refine later_stage_of_ne ?_ Iff.rfl
        simp only [advanceCatalog]
        grind

/-- The number that `List` reports as the catalog revision. -/
def catalogRevision (s : NotificationStore) : Int := s.catalog.getD 0

/-- **The catalog counter rises with every change of the table.** -/
theorem later_catalog {s : NotificationStore} (hs : Tidy s) (call : Call) :
    Later catalogRevision announcements s (call.apply s) := by
  obtain ⟨n, hn⟩ := hs.counted
  have hrise : ∀ s' : NotificationStore, s'.catalog = s.catalog →
      Later catalogRevision announcements s (advanceCatalog s') := by
    intro s' hs'
    left
    simp [catalogRevision, advanceCatalog, hs', hn]
  cases call with
  | initializeSchema => exact .inr ⟨by simp [catalogRevision, Call.apply, initializeSchema, hn], rfl⟩
  | list includeDrafts offset summaryOnly => exact .refl s
  | save now id revision title body published =>
    rcases save_cases now id revision title body published s with
      ⟨hsave, -⟩ | ⟨-, hsave⟩ | ⟨-, stored, -, -, hsave⟩
    · rw [Call.apply, hsave]
      exact .refl s
    · rw [Call.apply, hsave]
      exact hrise _ rfl
    · rw [Call.apply, hsave]
      exact hrise _ rfl
  | delete id revision =>
    rcases delete_cases id revision s with hdelete | ⟨stored, -, -, -, hdelete⟩
    · rw [Call.apply, hdelete]
      exact .refl s
    · rw [Call.apply, hdelete]
      exact hrise _ rfl

theorem later_stage_after (id : Int) {s : NotificationStore} (hs : Tidy s) (calls : List Call) :
    Later (stage id) (fun s => s.announcements[id]?) s (after s calls) :=
  Later.foldl (fun _ call hs => Tidy.apply hs call) (fun _ call hs => later_stage id hs call) calls hs

/-! ## Edits -/

/-- An edit that succeeds finds its announcement at the revision it names. -/
theorem stored_of_succeeds {id revision : Int} (hid : id ≠ 0) {s : NotificationStore} {call : Call}
    (hnames : call.names id revision = true) (hsucceeds : call.succeeds s = true) :
    ∃ a : Announcement, s.announcements[id]? = some a ∧ a.revision = revision := by
  cases call with
  | initializeSchema => simp [Call.names] at hnames
  | list includeDrafts offset summaryOnly => simp [Call.names] at hnames
  | save now id' revision' title body published =>
    simp only [Call.names, Bool.and_eq_true, beq_iff_eq] at hnames
    obtain ⟨rfl, rfl⟩ := hnames
    rcases save_cases now id' revision' title body published s with
      ⟨hsave, -⟩ | ⟨hnew, -⟩ | ⟨-, stored, hstored, hrevision, -⟩
    · simp [Call.succeeds, hsave, Except.isOk, Except.toBool] at hsucceeds
    · exact absurd hnew hid
    · exact ⟨stored, hstored, hrevision⟩
  | delete id' revision' =>
    simp only [Call.names, Bool.and_eq_true, beq_iff_eq] at hnames
    obtain ⟨rfl, rfl⟩ := hnames
    rcases delete_cases id' revision' s with hdelete | ⟨stored, hstored, hrevision, -, -⟩
    · simp [Call.succeeds, hdelete, Except.isOk, Except.toBool] at hsucceeds
    · exact ⟨stored, hstored, hrevision⟩

/-- An edit that succeeds leaves the id at a higher stage. -/
theorem stage_lt_of_succeeds {id revision : Int} (hid : id ≠ 0) {s : NotificationStore}
    (hs : Tidy s) {call : Call} (hnames : call.names id revision = true)
    (hsucceeds : call.succeeds s = true) : stage id s < stage id (call.apply s) := by
  obtain ⟨a, ha, hrevision⟩ := stored_of_succeeds hid hnames hsucceeds
  rcases later_stage id hs call with hlt | ⟨hstage, hsame⟩
  · exact hlt
  · -- had the stage stayed, the announcement would have stayed too
    exfalso
    have hkept : (call.apply s).announcements[id]? = some a := hsame.symm.trans ha
    cases call with
    | initializeSchema => simp [Call.names] at hnames
    | list includeDrafts offset summaryOnly => simp [Call.names] at hnames
    | save now id' revision' title body published =>
      simp only [Call.names, Bool.and_eq_true, beq_iff_eq] at hnames
      obtain ⟨rfl, rfl⟩ := hnames
      rcases save_cases now id' revision' title body published s with
        ⟨hsave, -⟩ | ⟨hnew, -⟩ | ⟨-, stored, hstored, -, hsave⟩
      · simp [Call.succeeds, hsave, Except.isOk, Except.toBool] at hsucceeds
      · exact absurd hnew hid
      · have hsaved : stored = a := Option.some.inj (hstored.symm.trans ha)
        subst hsaved
        rw [Call.apply, hsave] at hkept
        simp only [advanceCatalog, Std.ExtTreeMap.getElem?_insert_self, Option.some.injEq] at hkept
        have hrises := congrArg Announcement.revision hkept
        simp at hrises
    | delete id' revision' =>
      simp only [Call.names, Bool.and_eq_true, beq_iff_eq] at hnames
      obtain ⟨rfl, rfl⟩ := hnames
      rcases delete_cases id' revision' s with hdelete | ⟨stored, -, -, -, hdelete⟩
      · simp [Call.succeeds, hdelete, Except.isOk, Except.toBool] at hsucceeds
      · rw [Call.apply, hdelete] at hkept
        simp [advanceCatalog] at hkept

/-- Once the stage of an id has passed a revision, no edit of that revision succeeds. -/
theorem successes_eq_zero {id revision : Int} (hid : id ≠ 0) (calls : List Call)
    {s : NotificationStore} (hs : Tidy s) (hpassed : toLex (1, revision) < stage id s) :
    successes id revision s calls = 0 := by
  induction calls generalizing s with
  | nil => rfl
  | cons call calls ih =>
    have hfails : (call.names id revision && call.succeeds s) = false := by
      by_contra hyes
      rw [Bool.not_eq_false, Bool.and_eq_true] at hyes
      obtain ⟨a, ha, hrevision⟩ := stored_of_succeeds hid hyes.1 hyes.2
      rw [stage_stored ha, hrevision] at hpassed
      exact lt_irrefl _ hpassed
    have hrest := ih (hs.apply call) (hpassed.trans_le (later_stage id hs call).version_le)
    simp [successes, hfails, hrest]

/-- Of the edits of one revision, at most one succeeds. -/
theorem successes_le_one {id revision : Int} (hid : id ≠ 0) (calls : List Call)
    {s : NotificationStore} (hs : Tidy s) : successes id revision s calls ≤ 1 := by
  induction calls generalizing s with
  | nil => simp [successes]
  | cons call calls ih =>
    -- After the first success the stage has passed the revision, and no edit succeeds any more.
    by_cases hyes : (call.names id revision && call.succeeds s) = true
    · obtain ⟨hnames, hsucceeds⟩ := Bool.and_eq_true_iff.mp hyes
      obtain ⟨a, ha, hrevision⟩ := stored_of_succeeds hid hnames hsucceeds
      have hlt := stage_lt_of_succeeds hid hs hnames hsucceeds
      rw [stage_stored ha, hrevision] at hlt
      have hrest := successes_eq_zero hid calls (hs.apply call) hlt
      simp [successes, hyes, hrest]
    · have hrest := ih (hs.apply call)
      simp only [successes, if_neg hyes]
      omega

/-- The first of the saves of a stored revision succeeds, if no deletion of it comes before. -/
theorem one_le_successes {id revision : Int} (hid : id ≠ 0) (calls : List Call)
    {s : NotificationStore} (hs : Tidy s) {a : Announcement}
    (ha : s.announcements[id]? = some a) (hrevision : a.revision = revision)
    (hsaved : ∃ now title body published, Call.save now id revision title body published ∈ calls)
    (hkept : Call.delete id revision ∉ calls) : 1 ≤ successes id revision s calls := by
  induction calls generalizing s with
  | nil =>
    obtain ⟨_, _, _, _, hmem⟩ := hsaved
    cases hmem
  | cons call calls ih =>
    by_cases hnames : call.names id revision = true
    · -- it is a save, and it finds its revision
      have hsucceeds : call.succeeds s = true := by
        cases call with
        | initializeSchema => simp [Call.names] at hnames
        | list includeDrafts offset summaryOnly => simp [Call.names] at hnames
        | save now id' revision' title body published =>
          simp only [Call.names, Bool.and_eq_true, beq_iff_eq] at hnames
          obtain ⟨rfl, rfl⟩ := hnames
          simp [Call.succeeds, save, hid, ha, hrevision, Except.isOk, Except.toBool]
        | delete id' revision' =>
          simp only [Call.names, Bool.and_eq_true, beq_iff_eq] at hnames
          obtain ⟨rfl, rfl⟩ := hnames
          simp at hkept
      simp [successes, hnames, hsucceeds]
    · -- another call leaves the announcement as it is
      have hsame : (call.apply s).announcements[id]? = some a := by
        cases call with
        | initializeSchema => exact ha
        | list includeDrafts offset summaryOnly => exact ha
        | save now id' revision' title body published =>
          rcases save_cases now id' revision' title body published s with
            ⟨hsave, -⟩ | ⟨-, hsave⟩ | ⟨-, stored, hstored, hother, hsave⟩
          · rw [Call.apply, hsave]
            exact ha
          · rw [Call.apply, hsave]
            have hle := hs.id_le id a ha
            have hne : s.sequence + 1 ≠ id := by omega
            simp only [advanceCatalog]
            grind
          · rw [Call.apply, hsave]
            have hne : id' ≠ id := by
              rintro rfl
              have hstored' : stored = a := Option.some.inj (hstored.symm.trans ha)
              subst hstored'
              exact hnames (by simp [Call.names, ← hrevision, hother])
            simp only [advanceCatalog]
            grind
        | delete id' revision' =>
          rcases delete_cases id' revision' s with hdelete | ⟨stored, hstored, hother, -, hdelete⟩
          · rw [Call.apply, hdelete]
            exact ha
          · rw [Call.apply, hdelete]
            have hne : id' ≠ id := by
              rintro rfl
              have hstored' : stored = a := Option.some.inj (hstored.symm.trans ha)
              subst hstored'
              exact hnames (by simp [Call.names, ← hrevision, hother])
            simp only [advanceCatalog]
            grind
      have hlater : ∃ now title body published,
          Call.save now id revision title body published ∈ calls := by
        obtain ⟨now, title, body, published, hmem⟩ := hsaved
        rcases List.mem_cons.mp hmem with rfl | hmem
        · simp [Call.names] at hnames
        · exact ⟨now, title, body, published, hmem⟩
      have hrest := ih (hs.apply call) hsame hlater (fun h => hkept (List.mem_cons_of_mem _ h))
      simp only [successes]
      omega

/-! ## Pages -/

theorem pageSize_pos (summaryOnly : Bool) : 0 < pageSize summaryOnly := by
  cases summaryOnly <;> decide

theorem pageSize_le (summaryOnly : Bool) : pageSize summaryOnly ≤ 200 := by
  cases summaryOnly <;> decide

/-- An offset of a page below the total is read as it is. -/
theorem clampOffset_page {k limit : Nat} {total : Int} (hlimit : 0 < limit)
    (hbelow : ((k * limit : Nat) : Int) < total) :
    clampOffset (k * limit : Nat) total limit = k * limit := by
  obtain ⟨last, rfl⟩ : ∃ last : Nat, total = last + 1 := ⟨(total - 1).toNat, by omega⟩
  have hpage : k ≤ last / limit := (Nat.le_div_iff_mul_le hlimit).mpr (by omega)
  have hmin : k * limit ≤ last / limit * limit := Nat.mul_le_mul_right limit hpage
  have hread : ((last : Int) + 1 - 1).tdiv limit * limit = (last / limit * limit : Nat) := by
    rw [Int.add_sub_cancel, ← Int.ofNat_tdiv]
    rfl
  unfold clampOffset
  rw [if_neg (by omega), hread]
  omega

/-- A listing shows the rows it is about, each once. -/
theorem ordered_perm (includeDrafts summaryOnly : Bool) (s : NotificationStore) :
    (s.ordered includeDrafts summaryOnly).Perm (s.matching includeDrafts) :=
  List.mergeSort_perm _ _

theorem matching_nodup (includeDrafts : Bool) (s : NotificationStore) :
    (s.matching includeDrafts).Nodup :=
  (OrdMap.nodup_toList s.announcements).filter _

/-- What a listing shows is read off the table alone. -/
theorem list_items_congr {s s' : NotificationStore} (h : s.announcements = s'.announcements)
    (includeDrafts : Bool) (offset : Int) (summaryOnly : Bool) :
    (s.list includeDrafts offset summaryOnly).items =
      (s'.list includeDrafts offset summaryOnly).items := by
  simp [list, ordered, matching, h]

theorem list_total (includeDrafts : Bool) (offset : Int) (summaryOnly : Bool)
    (s : NotificationStore) : (s.list includeDrafts offset summaryOnly).total =
      asInt32 (s.matching includeDrafts).length := by
  simp only [list]

/-- The pages of one table, put together, are its listing. -/
theorem flatMap_list (includeDrafts summaryOnly : Bool) (s : NotificationStore) {n : Nat}
    (hfits : (s.matching includeDrafts).length < 2 ^ 31)
    (hpages : ∀ k : Nat, k < n ↔ ((k * pageSize summaryOnly : Nat) : Int) <
      (s.list includeDrafts 0 summaryOnly).total) :
    (List.range n).flatMap (fun k =>
      (s.list includeDrafts (k * pageSize summaryOnly : Nat) summaryOnly).items) =
      (s.ordered includeDrafts summaryOnly).map (item summaryOnly) := by
  have htotal : (s.list includeDrafts 0 summaryOnly).total = (s.matching includeDrafts).length := by
    rw [list_total]
    exact asInt32_eq_iff.mpr hfits
  have hpage : ∀ k ∈ List.range n,
      (s.list includeDrafts (k * pageSize summaryOnly : Nat) summaryOnly).items =
        (((s.ordered includeDrafts summaryOnly).drop (k * pageSize summaryOnly)).take
          (pageSize summaryOnly)).map (item summaryOnly) := by
    intro k hk
    have hbelow := (hpages k).mp (List.mem_range.mp hk)
    rw [list_total] at hbelow
    simp only [list, clampOffset_page (pageSize_pos summaryOnly) hbelow]
  have hlength : (s.ordered includeDrafts summaryOnly).length ≤ n * pageSize summaryOnly := by
    rw [(ordered_perm includeDrafts summaryOnly s).length_eq]
    by_contra hmore
    have hbelow : ((n * pageSize summaryOnly : Nat) : Int) <
        (s.list includeDrafts 0 summaryOnly).total := by
      rw [htotal]
      exact_mod_cast Nat.lt_of_not_le hmore
    exact lt_irrefl n ((hpages n).mpr hbelow)
  rw [List.flatMap_congr hpage, ← List.map_flatMap, flatMap_pieces _ _ _ hlength]

/-- As many pages as begin below the total show fewer announcements than match, where those are too
many for the total. -/
theorem length_flatMap_list_lt (includeDrafts summaryOnly : Bool) (s : NotificationStore) {n : Nat}
    (hmany : 2 ^ 31 ≤ (s.matching includeDrafts).length)
    (hpages : ∀ k : Nat, k < n ↔ ((k * pageSize summaryOnly : Nat) : Int) <
      (s.list includeDrafts 0 summaryOnly).total) :
    ((List.range n).flatMap (fun k =>
      (s.list includeDrafts (k * pageSize summaryOnly : Nat) summaryOnly).items)).length <
        (s.matching includeDrafts).length := by
  have hpage : ∀ k ∈ List.range n,
      (s.list includeDrafts (k * pageSize summaryOnly : Nat) summaryOnly).items.length ≤
        pageSize summaryOnly := by
    intro k _
    simp [list]
  have hsize : ((List.range n).flatMap (fun k =>
      (s.list includeDrafts (k * pageSize summaryOnly : Nat) summaryOnly).items)).length ≤
        n * pageSize summaryOnly := by
    rw [List.length_flatMap]
    refine (List.sum_le_card_nsmul _ (pageSize summaryOnly) ?_).trans (by simp)
    intro size hsize
    obtain ⟨k, hk, rfl⟩ := List.mem_map.mp hsize
    exact hpage k hk
  have hsmall := pageSize_le summaryOnly
  have hshown : n * pageSize summaryOnly < (s.matching includeDrafts).length := by
    cases n with
    | zero =>
      rw [Nat.zero_mul]
      exact lt_of_lt_of_le (by decide) hmany
    | succ n =>
      -- the last page begins below the total, and the total is far below the number of rows
      have hlast := (hpages n).mp (Nat.lt_succ_self n)
      rw [list_total] at hlast
      generalize (s.matching includeDrafts).length = rows at hmany hlast ⊢
      rw [Nat.succ_mul]
      rcases asInt32_of_le hmany with hnegative | hfar
      · omega
      · omega
  exact lt_of_le_of_lt hsize hshown

/-- Two states of one sequence of calls with one catalog counter have one table. -/
theorem announcements_eq_of_catalogRevision {s : NotificationStore} (hs : Tidy s)
    (calls : List Call) {s₁ s₂ : NotificationStore} (h₁ : s₁ ∈ states s calls)
    (h₂ : s₂ ∈ states s calls) (hrevision : s₁.catalogRevision = s₂.catalogRevision) :
    s₁.announcements = s₂.announcements := by
  have hlater : (states s calls).Pairwise (Later catalogRevision announcements) :=
    Later.pairwise_scanl (fun _ call hs => Tidy.apply hs call)
      (fun _ call hs => later_catalog hs call) calls hs
  obtain ⟨i, hi, rfl⟩ := List.mem_iff_getElem.mp h₁
  obtain ⟨j, hj, rfl⟩ := List.mem_iff_getElem.mp h₂
  have hordered := List.pairwise_iff_getElem.mp hlater
  rcases lt_trichotomy i j with hij | rfl | hji
  · exact (hordered i j hi hj hij).content_eq hrevision
  · rfl
  · exact ((hordered j i hj hi hji).content_eq hrevision.symm).symm

/-! ## What the versions promise -/

/-- The pages at the offsets below the total, read in any states under one catalog revision, show every
announcement that matches, once. -/
def PagesCover (s : NotificationStore) (calls : List Call) (drafts summary : Bool)
    (first : NotificationStore) : Prop :=
  ∀ (n : Nat) (page : Nat → NotificationStore),
    (∀ k : Nat, k < n ↔ ((k * pageSize summary : Nat) : Int) < (first.list drafts 0 summary).total) →
    (∀ k < n, page k ∈ states s calls ∧
      ((page k).list drafts (k * pageSize summary : Nat) summary).catalogRevision =
        (first.list drafts 0 summary).catalogRevision) →
    ∃ rows : List (Int × Announcement), rows.Nodup ∧ rows.Perm (first.matching drafts) ∧
      (List.range n).flatMap (fun k =>
        ((page k).list drafts (k * pageSize summary : Nat) summary).items) =
        rows.map (item summary)

/-- What a client that read the state `s` may rely on while `calls` are made by anybody. -/
structure NeverLost (s : NotificationStore) (calls : List Call) : Prop where
  /-- An id and a revision never denote two contents. -/
  content_of_revision : ∀ (id : Int) (a a' : Announcement), s.announcements[id]? = some a →
    (after s calls).announcements[id]? = some a' → a.revision = a'.revision → a = a'
  /-- An edit that carries what was read succeeds only where exactly that is stored. -/
  unchanged_of_edit : ∀ (id : Int) (a : Announcement) (call : Call), id ≠ 0 →
    s.announcements[id]? = some a → call.names id a.revision = true →
    call.succeeds (after s calls) = true → (after s calls).announcements[id]? = some a
  /-- Of the edits of one revision at most one succeeds. -/
  at_most_one : ∀ id revision : Int, id ≠ 0 → successes id revision s calls ≤ 1
  /-- Of the saves of a stored revision exactly one succeeds. -/
  exactly_one : ∀ (id : Int) (a : Announcement), id ≠ 0 → s.announcements[id]? = some a →
    (∃ now title body published, Call.save now id a.revision title body published ∈ calls) →
    Call.delete id a.revision ∉ calls → successes id a.revision s calls = 1
  /-- Listings with one catalog revision were taken from one table. -/
  table_of_catalog : ∀ s₁ ∈ states s calls, ∀ s₂ ∈ states s calls,
    ∀ (drafts₁ drafts₂ : Bool) (offset₁ offset₂ : Int) (summary₁ summary₂ : Bool),
      (s₁.list drafts₁ offset₁ summary₁).catalogRevision =
        (s₂.list drafts₂ offset₂ summary₂).catalogRevision →
      s₁.announcements = s₂.announcements
  /-- The pages show every announcement that matches, unless those are too many to be counted in an
  `int`. -/
  pages : ∀ (drafts summary : Bool), ∀ first ∈ states s calls,
    PagesCover s calls drafts summary first ↔ (first.matching drafts).length < 2 ^ 31

/-- **When the pages cover a listing.** -/
theorem pagesCover_iff {s : NotificationStore} (hs : Tidy s) (calls : List Call)
    (drafts summary : Bool) {first : NotificationStore} (hfirst : first ∈ states s calls) :
    PagesCover s calls drafts summary first ↔ (first.matching drafts).length < 2 ^ 31 := by
  constructor
  · intro hcover
    by_contra hmany
    obtain ⟨n, hpages⟩ := exists_pages (pageSize_pos summary) (first.list drafts 0 summary).total
    obtain ⟨rows, -, hperm, hrows⟩ := hcover n (fun _ => first) hpages fun _ _ => ⟨hfirst, rfl⟩
    have hfewer := length_flatMap_list_lt drafts summary first (Nat.le_of_not_lt hmany) hpages
    rw [hrows, List.length_map, hperm.length_eq] at hfewer
    exact lt_irrefl _ hfewer
  · intro hfits n page hpages hread
    refine ⟨first.ordered drafts summary,
      (ordered_perm drafts summary first).nodup_iff.mpr (matching_nodup drafts first),
      ordered_perm drafts summary first, ?_⟩
    rw [← flatMap_list drafts summary first hfits hpages]
    refine List.flatMap_congr (fun k hk => ?_)
    obtain ⟨hvisited, hrevision⟩ := hread k (List.mem_range.mp hk)
    have htable := announcements_eq_of_catalogRevision hs calls hvisited hfirst hrevision
    exact list_items_congr htable drafts _ summary

/-- **Announcement edits are never lost and versions never lie**, whatever the clients do. -/
theorem announcements_never_lost {s : NotificationStore} (h : system.Reachable s)
    (calls : List Call) : NeverLost s calls := by
  have hs := tidy_of_reachable h
  have hcontent : ∀ (id : Int) (a a' : Announcement), s.announcements[id]? = some a →
      (after s calls).announcements[id]? = some a' → a.revision = a'.revision → a = a' := by
    intro id a a' ha ha' hrevision
    have hstage : stage id s = stage id (after s calls) := by
      rw [stage_stored ha, stage_stored ha', hrevision]
    have hsame := (later_stage_after id hs calls).content_eq hstage
    exact Option.some.inj (ha.symm.trans (hsame.trans ha'))
  refine ⟨hcontent, ?_, fun id revision hid => successes_le_one hid calls hs, ?_, ?_,
    fun drafts summary first hfirst => pagesCover_iff hs calls drafts summary hfirst⟩
  · intro id a call hid ha hnames hsucceeds
    obtain ⟨a', ha', hrevision⟩ := stored_of_succeeds hid hnames hsucceeds
    rw [hcontent id a a' ha ha' hrevision.symm]
    exact ha'
  · intro id a hid ha hsaved hkept
    have hatleast := one_le_successes hid calls hs ha rfl hsaved hkept
    have hatmost : successes id a.revision s calls ≤ 1 := successes_le_one hid calls hs
    omega
  · intro s₁ h₁ s₂ h₂ _ _ _ _ _ _ hrevision
    exact announcements_eq_of_catalogRevision hs calls h₁ h₂ hrevision

/-- Two editors read the first announcement, and both save it. -/
theorem announcements_never_lost_conflict :
    NeverLost (Call.apply (initializeSchema {}) (.save 100 0 0 "Update" "Tonight" false))
      [.save 101 1 1 "Update" "Tomorrow" true, .save 102 1 1 "Update" "Cancelled" true] :=
  announcements_never_lost ⟨_, .step (.start ⟨{}, by simp, rfl⟩) rfl⟩ _

/-! ## Too many announcements -/

/-- Announcement after announcement is published. -/
def published (n : Nat) : NotificationStore :=
  after (initializeSchema {}) (List.replicate n (.save 100 0 0 "Update" "Tonight" true))

theorem published_succ (n : Nat) :
    published (n + 1) = (Call.save 100 0 0 "Update" "Tonight" true).apply (published n) := by
  simp only [published, after, List.replicate_succ', List.foldl_append, List.foldl_cons,
    List.foldl_nil]

theorem published_reachable (n : Nat) : system.Reachable (published n) := by
  induction n with
  | zero => exact ⟨[], .start ⟨{}, by simp, rfl⟩⟩
  | succ n ih =>
    rw [published_succ]
    exact ih.step rfl

/-- They have the ids from 1 on. -/
theorem published_table (n : Nat) : (published n).sequence = n ∧
    (published n).announcements.size = n ∧
    ∀ (id : Int) (a : Announcement), (published n).announcements[id]? = some a →
      id ≤ n ∧ a.published = true := by
  induction n with
  | zero =>
    refine ⟨rfl, rfl, fun id a ha => ?_⟩
    simp [published, after, initializeSchema] at ha
  | succ n ih =>
    obtain ⟨hsequence, hsize, hrows⟩ := ih
    have hnew : (published n).announcements[(published n).sequence + 1]? = none := by
      refine Option.eq_none_iff_forall_ne_some.mpr (fun a ha => ?_)
      have hle := (hrows _ a ha).1
      omega
    rw [published_succ]
    refine ⟨?_, ?_, fun id a ha => ?_⟩
    · simp [Call.apply, save, advanceCatalog, hsequence]
    · -- the id is a new one
      have habsent : (published n).sequence + 1 ∉ (published n).announcements := by grind
      simp [Call.apply, save, advanceCatalog, Std.ExtTreeMap.size_insert, habsent, hsize]
    · simp only [Call.apply, save, advanceCatalog, if_true] at ha
      rw [Std.ExtTreeMap.getElem?_insert] at ha
      split at ha
      · rename_i hsame
        have heq := Std.LawfulEqCmp.eq_of_compare hsame
        cases ha
        exact ⟨by omega, rfl⟩
      · obtain ⟨hle, hpublished⟩ := hrows id a ha
        exact ⟨by omega, hpublished⟩

/-- All of them are listed. -/
theorem published_matching (n : Nat) : ((published n).matching false).length = n := by
  obtain ⟨-, hsize, hrows⟩ := published_table n
  have hall : ∀ row ∈ (published n).announcements.toList,
      (false || row.2.published) = true := fun row hrow =>
    (hrows row.1 row.2 (OrdMap.mem_toList.mp hrow)).2
  rw [matching, List.filter_eq_self.mpr hall, Std.ExtTreeMap.length_toList, hsize]

/-- With more than `2 ^ 31` announcements no page is below the total. -/
theorem pages_uncounted : system.Reachable (published (2 ^ 31 + 1)) ∧
    ¬ PagesCover (published (2 ^ 31 + 1)) [] false true (published (2 ^ 31 + 1)) := by
  have hreach := published_reachable (2 ^ 31 + 1)
  refine ⟨hreach, fun hcover => ?_⟩
  have hfits := (pagesCover_iff (tidy_of_reachable hreach) [] false true
    (List.mem_singleton_self _)).mp hcover
  rw [published_matching] at hfits
  omega

end CrossDesk.NotificationStore
