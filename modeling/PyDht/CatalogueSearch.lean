import PyDht.CatalogueConsistency
import PyDht.Lib.Wildcards
import Mathlib.Data.List.Dedup

set_option autoImplicit false

namespace PyDht

namespace Catalogue

/-- `torrents t LEFT JOIN files f USING(torrent_uid)`. -/
def joined (catalogue : Catalogue) : List ((String × TorrentRow) × Option FileRow) :=
  catalogue.torrents.flatMap fun entry =>
    let rows := catalogue.files.filter fun row => row.torrentUid = entry.1
    if rows.isEmpty then [(entry, none)] else rows.map fun row => (entry, some row)

/-- `t.name LIKE ? OR f.path LIKE ?`, which is not true of what is NULL. -/
def likes (pattern : List Char) (row : (String × TorrentRow) × Option FileRow) : Bool :=
  row.1.2.name.any (fun name => like pattern name.toList) ||
    row.2.any fun row => like pattern row.file.path.toList

/-- `SELECT DISTINCT .. WHERE ..`, before the rows are ordered. -/
def selected (pattern : List Char) (catalogue : Catalogue) : List (String × TorrentRow) :=
  ((catalogue.joined.filter (likes pattern)).map Prod.fst).dedup

/-- Of blocks each of which repeats its own entry one entry each is left. -/
theorem dedup_blocks {α : Type} [DecidableEq α] {block : α → List α}
    (constant : ∀ entry, ∀ other ∈ block entry, other = entry) {entries : List α}
    (distinct : entries.Nodup) :
    (entries.flatMap block).dedup = entries.filter fun entry => !(block entry).isEmpty := by
  induction entries with
  | nil => rfl
  | cons entry entries ih =>
      obtain ⟨fresh, distinct⟩ := List.nodup_cons.mp distinct
      have apart : entry ∉ entries.flatMap block := by
        intro member
        obtain ⟨other, inside, here⟩ := List.mem_flatMap.mp member
        exact fresh (constant other entry here ▸ inside)
      have front : ∀ copies : List α, (∀ other ∈ copies, other = entry) →
          (copies ++ entries.flatMap block).dedup =
            if copies.isEmpty then (entries.flatMap block).dedup
            else entry :: (entries.flatMap block).dedup := by
        intro copies same
        induction copies with
        | nil => rfl
        | cons copy copies further =>
            obtain ⟨rfl, others⟩ := List.forall_mem_cons.mp same
            rw [List.cons_append, List.dedup_cons, further others]
            cases copies with
            | nil => rw [if_neg (by simpa using apart)]; rfl
            | cons second copies =>
                rw [if_pos (by simp [others second List.mem_cons_self])]
                rfl
      rw [List.flatMap_cons, front _ (constant entry), List.filter_cons, ih distinct]
      cases (block entry).isEmpty <;> rfl

theorem joined_fst {catalogue : Catalogue} {entry : String × TorrentRow}
    {row : (String × TorrentRow) × Option FileRow}
    (member : row ∈ (let rows := catalogue.files.filter fun row => row.torrentUid = entry.1
      if rows.isEmpty then [(entry, none)] else rows.map fun row => (entry, some row))) :
    row.1 = entry := by
  dsimp only at member
  split at member
  · rw [List.mem_singleton.mp member]
  · obtain ⟨file, _, rfl⟩ := List.mem_map.mp member
    rfl

/-- A torrent is there for its name once for each of its files, or once without a file, and for
each path that is found. -/
theorem likes_joined_iff (pattern : List Char) (catalogue : Catalogue)
    (entry : String × TorrentRow) :
    (∃ row ∈ (let rows := catalogue.files.filter fun row => row.torrentUid = entry.1
        if rows.isEmpty then [(entry, none)] else rows.map fun row => (entry, some row)),
        likes pattern row = true) ↔
      entry.2.name.any (fun name => like pattern name.toList) = true ∨
        ∃ row ∈ catalogue.files, row.torrentUid = entry.1 ∧
          like pattern row.file.path.toList = true := by
  dsimp only
  cases shape : catalogue.files.filter fun row => row.torrentUid = entry.1 with
  | nil =>
      have nowhere : ∀ row ∈ catalogue.files, row.torrentUid ≠ entry.1 := by
        simpa using List.filter_eq_nil_iff.mp shape
      rw [if_pos List.isEmpty_nil]
      simp only [List.mem_singleton, exists_eq_left, likes, Option.any_none, Bool.or_false]
      constructor
      · exact .inl
      · intro found
        obtain named | ⟨row, member, same, _⟩ := found
        · exact named
        · exact absurd same (nowhere row member)
  | cons first rest =>
      have known : ∀ row, row ∈ first :: rest ↔ row ∈ catalogue.files ∧ row.torrentUid = entry.1 := by
        intro row
        rw [← shape, List.mem_filter, decide_eq_true_eq]
      rw [if_neg (by simp)]
      constructor
      · intro found
        obtain ⟨pair, member, liked⟩ := found
        obtain ⟨row, inside, rfl⟩ := List.mem_map.mp member
        obtain ⟨held, same⟩ := (known row).mp inside
        obtain named | path := Bool.or_eq_true_iff.mp liked
        · exact .inl named
        · exact .inr ⟨row, held, same, path⟩
      · intro found
        obtain named | ⟨row, member, same, path⟩ := found
        · exact ⟨(entry, some first), List.mem_map_of_mem List.mem_cons_self,
            Bool.or_eq_true_iff.mpr (.inl named)⟩
        · exact ⟨(entry, some row), List.mem_map_of_mem ((known row).mpr ⟨member, same⟩),
            Bool.or_eq_true_iff.mpr (.inr path)⟩

/-- Joined with its files, filtered and without repetitions, a torrent is found by its name or by
one of its paths. -/
theorem selected_eq {catalogue : Catalogue} (keyed : (Dict.keys catalogue.torrents).Nodup)
    (pattern : List Char) :
    catalogue.selected pattern = catalogue.torrents.filter fun entry =>
      entry.2.name.any (fun name => like pattern name.toList) ||
        catalogue.files.any fun row =>
          row.torrentUid = entry.1 && like pattern row.file.path.toList := by
  unfold selected joined
  rw [List.filter_flatMap, List.map_flatMap, dedup_blocks _ (List.Nodup.of_map _ keyed)]
  · apply List.filter_congr
    intro entry _
    have found := likes_joined_iff pattern catalogue entry
    rw [Bool.eq_iff_iff, Bool.not_eq_true', List.isEmpty_eq_false_iff_exists_mem]
    simp only [List.mem_map, List.mem_filter, Bool.or_eq_true, List.any_eq_true, Bool.and_eq_true,
      decide_eq_true_eq]
    rw [← found]
    constructor
    · intro copies
      obtain ⟨_, row, here, _⟩ := copies
      exact ⟨row, here⟩
    · intro copies
      obtain ⟨row, here⟩ := copies
      exact ⟨row.1, row, here, rfl⟩
  · intro entry other member
    obtain ⟨row, inside, rfl⟩ := List.mem_map.mp member
    exact joined_fst (List.mem_filter.mp inside).1

/-- The torrents of the query, the ones last seen first. -/
theorem search_eq {catalogue : Catalogue} (keyed : (Dict.keys catalogue.torrents).Nodup)
    (text : String) {limit : Int} (bound : InSqliteRange limit) :
    (search text limit).result catalogue = .ok (limited limit
      ((catalogue.selected ('%' :: text.toList ++ ['%'])).insertionSort
        fun left right => right.2.lastSeen ≤ left.2.lastSeen)) := by
  rw [selected_eq keyed]
  exact if_pos bound

/-- A limit that SQLite cannot bind lets the query fail. -/
theorem search_unbound {limit : Int} (unbound : ¬ InSqliteRange limit) (text : String)
    (catalogue : Catalogue) : (search text limit).result catalogue =
      .error (.overflowError "Python int too large to convert to SQLite INTEGER") :=
  if_neg unbound

instance lastSeenTotal : Std.Total fun left right : String × TorrentRow =>
    right.2.lastSeen ≤ left.2.lastSeen :=
  ⟨fun left right => Int.le_total right.2.lastSeen left.2.lastSeen⟩

instance lastSeenTrans : IsTrans (String × TorrentRow) fun left right =>
    right.2.lastSeen ≤ left.2.lastSeen :=
  ⟨fun _ _ _ first second => Int.le_trans second first⟩

/-- The signs of `LIKE`. -/
def likeSigns : Wildcards Char := { many := '%', one := '_', fold := Char.toLower }

theorem like_iff {pattern text : List Char} :
    like pattern text = true ↔ likeSigns.Fills pattern text := by
  induction pattern generalizing text with
  | nil =>
      rw [Wildcards.fills_nil_iff]
      exact List.isEmpty_iff
  | cons sign pattern ih =>
      rw [like.eq_def]
      dsimp only
      by_cases wild : sign = '%'
      · have fills := @Wildcards.fills_many_iff Char likeSigns pattern text
        rw [if_pos wild, wild, List.any_eq_true]
        refine Iff.trans ?_ fills.symm
        constructor
        · intro found
          obtain ⟨rest, ⟨stretch, whole⟩, liked⟩ := (exists_congr fun rest =>
            and_congr_left fun _ => List.mem_tails rest text).mp found
          exact ⟨stretch, rest, whole.symm, ih.mp liked⟩
        · intro parts
          obtain ⟨stretch, rest, whole, fits⟩ := parts
          exact ⟨rest, (List.mem_tails rest text).mpr ⟨stretch, whole.symm⟩, ih.mpr fits⟩
      · rw [if_neg wild, Wildcards.fills_cons_iff (show sign ≠ likeSigns.many from wild)]
        cases text with
        | nil => simp
        | cons letter rest =>
            rw [Bool.and_eq_true, Bool.or_eq_true, decide_eq_true_eq, decide_eq_true_eq, ih]
            constructor
            · intro liked
              exact ⟨letter, rest, rfl, liked⟩
            · intro parts
              obtain ⟨first, other, same, fits⟩ := parts
              rw [(List.cons.inj same).1, (List.cons.inj same).2]
              exact fits

/-- Between the two signs that the search adds, the text fills a stretch of what is searched. -/
theorem like_between_iff {text subject : List Char} :
    like ('%' :: text ++ ['%']) subject = true ↔
      ∃ stretch, stretch <:+: subject ∧ likeSigns.Fills text stretch := by
  rw [like_iff]
  exact Wildcards.fills_between_iff

/-- The text stands in the subject, whatever the case of its ASCII letters. -/
def Contains (text : String) (subject : String) : Prop :=
  likeSigns.Occurs text.toList subject.toList

/-- What is searched of a torrent: its name, if it has one, and the paths of its files. -/
def subjects (catalogue : Catalogue) (entry : String × TorrentRow) : List String :=
  entry.2.name.toList ++ (catalogue.files.filter fun row => row.torrentUid = entry.1).map
    fun row => row.file.path

/-- The torrent is one to find. -/
def Holds (catalogue : Catalogue) (text : String) (entry : String × TorrentRow) : Prop :=
  ∃ subject ∈ catalogue.subjects entry, Contains text subject

/-- Each torrent with the text in its name or in a path is there once, no other one is, and the
ones last seen come first. -/
structure Finds (catalogue : Catalogue) (text : String) (rows : List (String × TorrentRow)) :
    Prop where
  once : (Dict.keys rows).Nodup
  exact : ∀ entry, entry ∈ rows ↔ entry ∈ catalogue.torrents ∧ catalogue.Holds text entry
  ordered : rows.Pairwise fun left right => right.2.lastSeen ≤ left.2.lastSeen

/-- The call returns, and what it returns is what the text finds. -/
def Answers (catalogue : Catalogue) (text : String) (limit : Int) : Prop :=
  ∃ rows, (search text limit).result catalogue = .ok rows ∧ catalogue.Finds text rows

/-- A torrent in which some stretch is the text but for what stands at its wildcards has the text
itself, too. -/
def Literal (catalogue : Catalogue) (text : String) : Prop :=
  ∀ entry ∈ catalogue.torrents, ∀ subject ∈ catalogue.subjects entry, ∀ stretch,
    stretch <:+: subject.toList → likeSigns.Fills text.toList stretch → catalogue.Holds text entry

section search

variable {catalogue : Catalogue} {text : String}

theorem contains_likes {subject : String} (contains : Contains text subject) :
    like ('%' :: text.toList ++ ['%']) subject.toList = true := by
  obtain ⟨stretch, inside, same⟩ := contains
  exact like_between_iff.mpr ⟨stretch, inside, Wildcards.fills_of_same same⟩

/-- The torrents that the search goes by. -/
theorem mem_selected_iff (keyed : (Dict.keys catalogue.torrents).Nodup) (pattern : List Char)
    (entry : String × TorrentRow) :
    entry ∈ catalogue.selected pattern ↔ entry ∈ catalogue.torrents ∧
      ∃ subject ∈ catalogue.subjects entry, like pattern subject.toList = true := by
  rw [selected_eq keyed, List.mem_filter]
  refine and_congr_right fun _ => ?_
  simp only [subjects, Bool.or_eq_true, List.any_eq_true, Bool.and_eq_true, decide_eq_true_eq,
    List.mem_append, Option.mem_toList, List.mem_map, List.mem_filter, Option.any_eq_true]
  constructor
  · intro liked
    obtain ⟨name, named, liked⟩ | ⟨row, member, same, liked⟩ := liked
    · exact ⟨name, .inl named, liked⟩
    · exact ⟨row.file.path, .inr ⟨row, ⟨member, same⟩, rfl⟩, liked⟩
  · intro liked
    obtain ⟨subject, named | ⟨row, ⟨member, same⟩, rfl⟩, liked⟩ := liked
    · exact .inl ⟨subject, named, liked⟩
    · exact .inr ⟨row, member, same, liked⟩

/-- With room for all torrents the rows of the answer are those that are selected, in order. -/
theorem search_rows (keyed : (Dict.keys catalogue.torrents).Nodup) (text : String) {limit : Int}
    (room : (catalogue.torrents.length : Int) ≤ limit) (below : limit < 2 ^ 63) :
    (search text limit).result catalogue =
      .ok ((catalogue.selected ('%' :: text.toList ++ ['%'])).insertionSort
        fun left right => right.2.lastSeen ≤ left.2.lastSeen) := by
  have few := List.length_filter_le (fun entry =>
    entry.2.name.any (fun name => like ('%' :: text.toList ++ ['%']) name.toList) ||
      catalogue.files.any fun row =>
        row.torrentUid = entry.1 && like ('%' :: text.toList ++ ['%']) row.file.path.toList)
    catalogue.torrents
  rw [search_eq keyed text ⟨by omega, below⟩, limited, if_neg (by omega), List.take_of_length_le]
  rw [List.length_insertionSort, selected_eq keyed]
  omega

/-- What is selected is what holds the text exactly if no wildcard of the text stands for
something else. -/
theorem selected_finds_iff (keyed : (Dict.keys catalogue.torrents).Nodup) (text : String) :
    catalogue.Finds text ((catalogue.selected ('%' :: text.toList ++ ['%'])).insertionSort
      fun left right => right.2.lastSeen ≤ left.2.lastSeen) ↔ catalogue.Literal text := by
  have found : ∀ entry, entry ∈ (catalogue.selected ('%' :: text.toList ++ ['%'])).insertionSort
      (fun left right => right.2.lastSeen ≤ left.2.lastSeen) ↔ entry ∈ catalogue.torrents ∧
        ∃ subject ∈ catalogue.subjects entry,
          like ('%' :: text.toList ++ ['%']) subject.toList = true := by
    intro entry
    rw [List.mem_insertionSort]
    exact mem_selected_iff keyed _ entry
  constructor
  · intro finds entry member subject inside stretch within fills
    have liked := like_between_iff.mpr ⟨stretch, within, fills⟩
    exact ((finds.exact entry).mp ((found entry).mpr ⟨member, subject, inside, liked⟩)).2
  · intro literal
    refine ⟨?_, fun entry => ?_, ?_⟩
    · have perm := List.perm_insertionSort
        (fun left right : String × TorrentRow => right.2.lastSeen ≤ left.2.lastSeen)
        (catalogue.selected ('%' :: text.toList ++ ['%']))
      refine (perm.map Prod.fst).nodup_iff.mpr ?_
      rw [selected_eq keyed]
      exact keyed.sublist (List.filter_sublist.map Prod.fst)
    · rw [found]
      refine and_congr_right fun member => ?_
      constructor
      · intro liked
        obtain ⟨subject, inside, liked⟩ := liked
        obtain ⟨stretch, within, fills⟩ := like_between_iff.mp liked
        exact literal entry member subject inside stretch within fills
      · intro holds
        obtain ⟨subject, inside, contains⟩ := holds
        exact ⟨subject, inside, contains_likes contains⟩
    · exact List.pairwise_insertionSort _ _

/-- The search finds what holds the text exactly if its limit can be bound and no wildcard of the
text stands for something else. -/
theorem answers_iff (keyed : (Dict.keys catalogue.torrents).Nodup) (text : String) {limit : Int}
    (room : (catalogue.torrents.length : Int) ≤ limit) :
    catalogue.Answers text limit ↔ limit < 2 ^ 63 ∧ catalogue.Literal text := by
  constructor
  · intro answers
    obtain ⟨rows, returned, finds⟩ := answers
    by_cases below : limit < 2 ^ 63
    · rw [search_rows keyed text room below] at returned
      cases returned
      exact ⟨below, (selected_finds_iff keyed text).mp finds⟩
    · rw [search_unbound fun bound => below bound.2] at returned
      cases returned
  · rintro ⟨below, literal⟩
    exact ⟨_, search_rows keyed text room below, (selected_finds_iff keyed text).mpr literal⟩

/-- Without wildcards in the text no wildcard stands for anything, in every catalogue. -/
theorem literal_of_plain (plain : likeSigns.Plain text.toList) : catalogue.Literal text := by
  intro entry _ subject inside stretch within fills
  exact ⟨subject, inside, stretch, within, Wildcards.same_of_fills plain fills⟩

/-- A catalogue with one torrent, in whose name `x` stands for each wildcard of the text. -/
def disguise (text : String) : Catalogue :=
  { torrents := [("btih:00",
      { name := some (String.ofList (likeSigns.disguised 'x' text.toList)), totalSize := 0
        fileCount := 0, pieceLength := none, metadataSize := 0, firstSeen := 0, lastSeen := 0 })] }

/-- With a wildcard in the text there is a catalogue in which something else is found. -/
theorem not_literal_disguise (wild : ¬ likeSigns.Plain text.toList) :
    ¬ (disguise text).Literal text := by
  intro literal
  have fills := Wildcards.disguised_fills likeSigns 'x' text.toList
  obtain ⟨subject, inside, contains⟩ := literal _ (List.mem_singleton.mpr rfl) _
    (List.mem_singleton.mpr rfl) (likeSigns.disguised 'x' text.toList)
    (by rw [String.toList_ofList]) fills
  rw [List.mem_singleton.mp inside, Contains, String.toList_ofList] at contains
  exact Wildcards.not_occurs_disguised (by decide) (by decide) wild contains

end search

/-- The search finds what holds the text exactly if the limit is one that SQLite can bind and no
wildcard of the text stands for something else in the catalogue; with such limits it does so in
every catalogue exactly if the text has no wildcard. -/
theorem search_finds_iff (catalogue : Catalogue) (text : String) (limit : Int)
    (keyed : (Dict.keys catalogue.torrents).Nodup)
    (room : (catalogue.torrents.length : Int) ≤ limit) :
    (catalogue.Answers text limit ↔ limit < 2 ^ 63 ∧ catalogue.Literal text) ∧
    ((∀ (other : Catalogue) (limit : Int), (Dict.keys other.torrents).Nodup →
        (other.torrents.length : Int) ≤ limit → limit < 2 ^ 63 → other.Answers text limit) ↔
      likeSigns.Plain text.toList) := by
  refine ⟨answers_iff keyed text room, ?_⟩
  constructor
  · intro answers
    by_contra wild
    have keyed : (Dict.keys (disguise text).torrents).Nodup := List.nodup_singleton _
    have room : ((disguise text).torrents.length : Int) ≤ 1 := le_refl _
    have returned := answers _ _ keyed room (by decide)
    exact not_literal_disguise wild ((answers_iff keyed text room).mp returned).2
  · intro plain other limit keyed room below
    exact (answers_iff keyed text room).mpr ⟨below, literal_of_plain plain⟩

/-- Two torrents, one with a file and one without a name. -/
def shelf : Catalogue :=
  { torrents :=
      [("btih:01",
        { name := some "1000 Songs", totalSize := 1, fileCount := 1, pieceLength := some 1
          metadataSize := 1, firstSeen := 0, lastSeen := 5 }),
        ("btih:02",
        { name := none, totalSize := 1, fileCount := 0, pieceLength := some 1
          metadataSize := 1, firstSeen := 0, lastSeen := 7 })]
    files := [{ torrentUid := "btih:01", file := { index := 0, path := "folder/beta.txt", size := 1 } }] }

theorem search_finds_iff_sample : shelf.Answers "Beta" 2 ∧ ¬ shelf.Answers "Beta" (2 ^ 63) := by
  have plain : likeSigns.Plain "Beta".toList := by
    constructor <;> decide
  have keyed : (Dict.keys shelf.torrents).Nodup := by decide
  have room : (shelf.torrents.length : Int) ≤ 2 := by decide
  have enough : (shelf.torrents.length : Int) ≤ 2 ^ 63 := by decide
  refine ⟨(search_finds_iff shelf "Beta" 2 keyed room).2.mpr plain shelf 2 keyed room (by decide),
    fun answers => ?_⟩
  exact absurd ((search_finds_iff shelf "Beta" (2 ^ 63) keyed enough).1.mp answers).1 (by decide)

/-- The text `100%` finds a name that does not hold it. -/
theorem search_wildcard : (Dict.keys shelf.torrents).Nodup ∧
    (shelf.torrents.length : Int) ≤ 2 ∧ ¬ shelf.Answers "100%" 2 := by
  refine ⟨by decide, by decide, fun answers => ?_⟩
  obtain ⟨rows, returned, finds⟩ := answers
  have listed : ((search "100%" 2).result shelf).toOption.map (fun rows =>
      decide (shelf.torrents.head (by decide) ∈ rows)) = some true := by
    decide +kernel
  rw [returned] at listed
  have found : shelf.torrents.head (by decide) ∈ rows := of_decide_eq_true (Option.some.inj listed)
  obtain ⟨subject, inside, stretch, within, same⟩ := ((finds.exact _).mp found).2
  have percent : '%' ∈ stretch.map likeSigns.fold := by
    rw [same]
    decide
  obtain ⟨letter, member, folded⟩ := List.mem_map.mp percent
  have subjects : shelf.subjects (shelf.torrents.head (by decide)) =
      ["1000 Songs", "folder/beta.txt"] := by simp [shelf, Catalogue.subjects]
  have nameless : ∀ sign ∈ "1000 Songs".toList, likeSigns.fold sign ≠ '%' := by simp [likeSigns]
  have pathless : ∀ sign ∈ "folder/beta.txt".toList, likeSigns.fold sign ≠ '%' := by
    simp [likeSigns]
  rw [subjects, List.mem_pair] at inside
  obtain named | placed := inside
  · exact nameless letter (named ▸ within.subset member) folded
  · exact pathless letter (placed ▸ within.subset member) folded

end Catalogue

end PyDht
