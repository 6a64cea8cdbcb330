import Gamecard.Proofs.FileSystem.Mounting

/-!
# The digest of the table

The digest that is expected of a table is compared when the table was found and before
its entries are read.  So it decides whether a file system is mounted, never what is
mounted: with the right digest mounting does what it does without any, and with another
one it fails before any entry is looked at.  What lies behind the table has no part in
the digest.
-/

namespace Gamecard

namespace Storage

/-- Reads that stay below a limit do not tell the storages apart. -/
structure SameBelow (limit : Nat) (left right : Storage) : Prop where
  inside : limit ≤ right.size
  read_eq : ∀ offset length, offset + length ≤ limit →
    (left.read offset length).result = (right.read offset length).result

/-- Storages are the same below a limit when the bytes that they show are. -/
theorem Shows.sameBelow {left right : Storage} {leftBytes rightBytes : Bytes} {limit : Nat}
    (leftShows : left.Shows leftBytes) (rightShows : right.Shows rightBytes)
    (leftInside : limit ≤ leftBytes.length) (rightInside : limit ≤ rightBytes.length)
    (same : leftBytes.take limit = rightBytes.take limit) : SameBelow limit left right where
  inside := by
    rw [rightShows.size_eq]
    exact rightInside
  read_eq offset length within := by
    rw [leftShows.read_within offset length (Nat.le_trans within leftInside),
      rightShows.read_within offset length (Nat.le_trans within rightInside),
      ← Bytes.slice_take leftBytes within, same, Bytes.slice_take rightBytes within]

end Storage

namespace FileSystem

/-- The storage starts with this header, and the table that the header tells of lies
within the storage and consists of these bytes. -/
structure StartsWith (storage : Storage) (header table : Bytes) : Prop where
  headerInside : headerSize ≤ storage.size
  header_eq : (storage.read 0 headerSize).result = .ok header
  magic_eq : header.take 4 = magic
  tableInside : tableSize header ≤ storage.size
  table_eq : (storage.read 0 (tableSize header)).result = .ok table

/-- The entries of the table of a storage of this size. -/
def entriesOf (storageSize : Nat) (header table : Bytes) : Except Error (List Entry) :=
  readEntries (table.drop (namesOffset header)) (tableSize header) storageSize
    (Bytes.pieces entrySize (header.numberAt 4 4) (table.drop headerSize))

theorem headerSize_le_tableSize (header : Bytes) : headerSize ≤ tableSize header := by
  simp only [tableSize, namesOffset]
  omega

variable {storage changed : Storage} {header table : Bytes}

/-- What mounting does where there is a table: it compares the digest, then it reads
the entries. -/
theorem StartsWith.result_mount (starts : StartsWith storage header table)
    (expected : Option Digest) (salt : Option UInt8) :
    (mount storage expected salt).result =
      if expected.any (· != tableHash table salt) then
        .error (.hashMismatch (expected.getD (tableHash table salt)) (tableHash table salt))
      else (entriesOf storage.size header table).map fun entries =>
        { storage, entries, dataOffset := tableSize header
          headerHash := tableHash table salt } := by
  have names : headerSize + header.numberAt 4 4 * entrySize = namesOffset header := rfl
  have size : namesOffset header + header.numberAt 8 4 = tableSize header := rfl
  have headerRead := Access.result_mapError_of_eq_ok starts.header_eq Error.storage
  have tableRead := Access.result_mapError_of_eq_ok starts.table_eq Error.storage
  simp only [mount, if_neg (Nat.not_lt.mpr starts.headerInside)]
  rw [Access.result_bind_of_eq_ok headerRead, if_neg (Decidable.not_not.mpr starts.magic_eq)]
  simp only [names, size, if_neg (Nat.not_lt.mpr starts.tableInside)]
  rw [Access.result_bind_of_eq_ok tableRead]
  split
  · rfl
  · rw [Access.result_bind]
    change (entriesOf storage.size header table).bind _ = _
    cases entriesOf storage.size header table with
    | error error => rfl
    | ok entries => rfl

/-- Why a storage does not start with a table, by the first test that it does not pass. -/
inductive Unfound (storage : Storage) : Error → Prop where
  | truncatedHeader : storage.size < headerSize →
      Unfound storage (.malformedTable .truncatedHeader)
  | headerUnread {fault : IoError} : headerSize ≤ storage.size →
      (storage.read 0 headerSize).result = .error fault → Unfound storage (.storage fault)
  | wrongMagic {header : Bytes} : headerSize ≤ storage.size →
      (storage.read 0 headerSize).result = .ok header → header.take 4 ≠ magic →
      Unfound storage (.malformedTable .wrongMagic)
  | truncatedTable {header : Bytes} : headerSize ≤ storage.size →
      (storage.read 0 headerSize).result = .ok header → header.take 4 = magic →
      storage.size < tableSize header → Unfound storage (.malformedTable .truncatedTable)
  | tableUnread {header : Bytes} {fault : IoError} : headerSize ≤ storage.size →
      (storage.read 0 headerSize).result = .ok header → header.take 4 = magic →
      tableSize header ≤ storage.size →
      (storage.read 0 (tableSize header)).result = .error fault →
      Unfound storage (.storage fault)

theorem startsWith_or_unfound (storage : Storage) :
    (∃ header table, StartsWith storage header table) ∨ ∃ error, Unfound storage error := by
  rcases Nat.lt_or_ge storage.size headerSize with short | headerInside
  · exact .inr ⟨_, .truncatedHeader short⟩
  · cases headerRead : (storage.read 0 headerSize).result with
    | error fault => exact .inr ⟨_, .headerUnread headerInside headerRead⟩
    | ok header =>
        by_cases sameMagic : header.take 4 = magic
        · rcases Nat.lt_or_ge storage.size (tableSize header) with beyond | tableInside
          · exact .inr ⟨_, .truncatedTable headerInside headerRead sameMagic beyond⟩
          · cases tableRead : (storage.read 0 (tableSize header)).result with
            | error fault =>
                exact .inr ⟨_, .tableUnread headerInside headerRead sameMagic tableInside
                  tableRead⟩
            | ok table =>
                exact .inl ⟨header, table, headerInside, headerRead, sameMagic, tableInside,
                  tableRead⟩
        · exact .inr ⟨_, .wrongMagic headerInside headerRead sameMagic⟩

/-- Where there is no table, mounting fails, and the expected digest is not asked for. -/
theorem Unfound.result_mount {error : Error} (unfound : Unfound storage error)
    (expected : Option Digest) (salt : Option UInt8) :
    (mount storage expected salt).result = .error error := by
  cases unfound with
  | truncatedHeader short => simp only [mount, if_pos short, Access.result_fail]
  | headerUnread headerInside headerRead =>
      simp only [mount, if_neg (Nat.not_lt.mpr headerInside)]
      rw [Access.result_bind, Access.result_mapError, headerRead]
      rfl
  | wrongMagic headerInside headerRead otherMagic =>
      have headerGiven := Access.result_mapError_of_eq_ok headerRead Error.storage
      simp only [mount, if_neg (Nat.not_lt.mpr headerInside)]
      rw [Access.result_bind_of_eq_ok headerGiven, if_pos otherMagic, Access.result_fail]
  | truncatedTable headerInside headerRead sameMagic beyond =>
      have headerGiven := Access.result_mapError_of_eq_ok headerRead Error.storage
      simp only [mount, if_neg (Nat.not_lt.mpr headerInside)]
      rw [Access.result_bind_of_eq_ok headerGiven, if_neg (Decidable.not_not.mpr sameMagic)]
      exact congrArg Access.result (if_pos beyond)
  | @tableUnread header fault headerInside headerRead sameMagic tableInside tableRead =>
      have headerGiven := Access.result_mapError_of_eq_ok headerRead Error.storage
      have failed : ((storage.read 0 (tableSize header)).mapError Error.storage).result =
          .error (.storage fault) := by
        rw [Access.result_mapError, tableRead]
        rfl
      simp only [mount, if_neg (Nat.not_lt.mpr headerInside)]
      rw [Access.result_bind_of_eq_ok headerGiven, if_neg (Decidable.not_not.mpr sameMagic)]
      refine (congrArg Access.result (if_neg (Nat.not_lt.mpr tableInside))).trans ?_
      rw [Access.result_bind]
      exact congrArg (Except.bind · _) failed

/-- What a storage of bytes starts with is a matter of the bytes. -/
theorem startsWith_iff {bytes : Bytes} (shows : storage.Shows bytes) :
    StartsWith storage header table ↔
      headerSize ≤ bytes.length ∧ bytes.take 4 = magic ∧ tableSize bytes ≤ bytes.length ∧
        header = bytes.take headerSize ∧ table = bytes.take (tableSize bytes) := by
  have headerRead (inside : headerSize ≤ bytes.length) :
      (storage.read 0 headerSize).result = .ok (bytes.take headerSize) := by
    rw [shows.read_within 0 headerSize (by omega), Bytes.slice_zero]
  have tableRead (inside : tableSize bytes ≤ bytes.length) :
      (storage.read 0 (tableSize bytes)).result = .ok (bytes.take (tableSize bytes)) := by
    rw [shows.read_within 0 (tableSize bytes) (by omega), Bytes.slice_zero]
  have start : (bytes.take headerSize).take 4 = bytes.take 4 := by
    rw [List.take_take]
    rfl
  have size : tableSize (bytes.take headerSize) = tableSize bytes := by
    rw [← Bytes.slice_zero]
    simp only [tableSize, namesOffset, numberAt_header bytes 4 4 (by decide),
      numberAt_header bytes 8 4 (by decide)]
  constructor
  · intro starts
    have headerInside := shows.size_eq ▸ starts.headerInside
    have sameHeader := Except.ok.inj ((headerRead headerInside).symm.trans starts.header_eq)
    have tableInside : tableSize bytes ≤ bytes.length := by
      rw [← size, sameHeader, ← shows.size_eq]
      exact starts.tableInside
    have sameTable : bytes.take (tableSize bytes) = table := by
      apply Except.ok.inj
      rw [← tableRead tableInside, ← size, sameHeader]
      exact starts.table_eq
    refine ⟨headerInside, ?_, tableInside, sameHeader.symm, sameTable.symm⟩
    rw [← start, sameHeader]
    exact starts.magic_eq
  · rintro ⟨headerInside, sameMagic, tableInside, rfl, rfl⟩
    exact
      { headerInside := shows.size_eq.symm ▸ headerInside
        header_eq := headerRead headerInside
        magic_eq := start.trans sameMagic
        tableInside := by
          rw [size, shows.size_eq]
          exact tableInside
        table_eq := by
          rw [size]
          exact tableRead tableInside }

/-- The table has as many bytes as lie before the data. -/
theorem StartsWith.length_table (starts : StartsWith storage header table) :
    table.length = tableSize header :=
  Storage.length_of_result_read starts.table_eq

/-- A changed storage starts with the same table when nothing of the table changed. -/
theorem StartsWith.of_sameBelow (starts : StartsWith storage header table)
    (same : Storage.SameBelow (tableSize header) storage changed) :
    StartsWith changed header table where
  headerInside := Nat.le_trans (headerSize_le_tableSize header) same.inside
  header_eq := by
    rw [← same.read_eq 0 headerSize (by rw [Nat.zero_add]; exact headerSize_le_tableSize header)]
    exact starts.header_eq
  magic_eq := starts.magic_eq
  tableInside := same.inside
  table_eq := by
    rw [← same.read_eq 0 (tableSize header) (Nat.le_of_eq (Nat.zero_add _))]
    exact starts.table_eq

/-- What is mounted was found at the start of the storage, and its digest is the
expected one if there is one. -/
theorem exists_startsWith {expected : Option Digest} {salt : Option UInt8}
    {fileSystem : FileSystem} (mounted : (mount storage expected salt).result = .ok fileSystem) :
    ∃ header table, StartsWith storage header table ∧
      fileSystem.dataOffset = tableSize header ∧
      fileSystem.headerHash = tableHash table salt := by
  rcases startsWith_or_unfound storage with ⟨header, table, starts⟩ | ⟨error, unfound⟩
  · rw [starts.result_mount] at mounted
    split at mounted
    · cases mounted
    · cases read : entriesOf storage.size header table with
      | error error =>
          rw [read] at mounted
          cases mounted
      | ok entries =>
          rw [read] at mounted
          cases mounted
          exact ⟨header, table, starts, rfl, rfl⟩
  · rw [unfound.result_mount] at mounted
    cases mounted

/-- With the digest of the table itself, mounting is what it is without any. -/
theorem StartsWith.result_mount_own (starts : StartsWith storage header table)
    (salt : Option UInt8) :
    (mount storage (some (tableHash table salt)) salt).result =
      (mount storage none salt).result := by
  simp only [starts.result_mount, Option.any_some, bne_self_eq_false, Option.any_none,
    Bool.false_eq_true, if_false]

/-- With the digest of another table mounting fails, whatever the entries are. -/
theorem StartsWith.result_mount_other (starts : StartsWith storage header table)
    {salt : Option UInt8} {expected : Digest} (other : tableHash table salt ≠ expected) :
    (mount storage (some expected) salt).result =
      .error (.hashMismatch expected (tableHash table salt)) := by
  rw [starts.result_mount, if_pos]
  · rfl
  · rw [Option.any_some, bne_iff_ne]
    exact Ne.symm other

/-- Mounting with an expected digest is mounting without any, unless the table has
another digest. -/
theorem mount_some_cases (storage : Storage) (expected : Digest) (salt : Option UInt8) :
    (mount storage (some expected) salt).result = (mount storage none salt).result ∨
      ∃ header table, StartsWith storage header table ∧ tableHash table salt ≠ expected := by
  rcases startsWith_or_unfound storage with ⟨header, table, starts⟩ | ⟨error, unfound⟩
  · by_cases own : tableHash table salt = expected
    · rw [← own]
      exact .inl (starts.result_mount_own salt)
    · exact .inr ⟨header, table, starts, own⟩
  · rw [unfound.result_mount, unfound.result_mount]
    exact .inl rfl

theorem result_mount_some_iff (storage : Storage) (expected : Digest) (salt : Option UInt8)
    (fileSystem : FileSystem) :
    (mount storage (some expected) salt).result = .ok fileSystem ↔
      (mount storage none salt).result = .ok fileSystem ∧ fileSystem.headerHash = expected := by
  constructor
  · intro mounted
    obtain ⟨header, table, starts, -, hash⟩ := exists_startsWith mounted
    by_cases own : tableHash table salt = expected
    · rw [← own, starts.result_mount_own] at mounted
      exact ⟨mounted, hash.trans own⟩
    · rw [starts.result_mount_other own] at mounted
      cases mounted
  · rintro ⟨mounted, rfl⟩
    obtain ⟨header, table, starts, -, hash⟩ := exists_startsWith mounted
    rw [hash, starts.result_mount_own]
    exact mounted

/-- What lies behind the table is not looked at. -/
theorem StartsWith.result_mount_changed (starts : StartsWith storage header table)
    (same : Storage.SameBelow (tableSize header) storage changed)
    (sameSize : changed.size = storage.size) (expected : Option Digest)
    (salt : Option UInt8) :
    (mount changed expected salt).result =
      (mount storage expected salt).result.map fun fileSystem =>
        { fileSystem with storage := changed } := by
  rw [starts.result_mount, (starts.of_sameBelow same).result_mount, sameSize]
  split
  · rfl
  · cases entriesOf storage.size header table with
    | error error => rfl
    | ok entries => rfl

theorem StartsWith.unique {otherHeader otherTable : Bytes}
    (starts : StartsWith storage header table)
    (also : StartsWith storage otherHeader otherTable) :
    header = otherHeader ∧ table = otherTable := by
  have sameHeader : header = otherHeader :=
    Except.ok.inj (starts.header_eq.symm.trans also.header_eq)
  subst sameHeader
  exact ⟨rfl, Except.ok.inj (starts.table_eq.symm.trans also.table_eq)⟩

theorem headerHash_eq_of_sameBelow {expected other : Option Digest} {salt : Option UInt8}
    {before after : FileSystem}
    (mountedBefore : (mount storage expected salt).result = .ok before)
    (mountedAfter : (mount changed other salt).result = .ok after)
    (same : Storage.SameBelow before.dataOffset storage changed) :
    after.headerHash = before.headerHash := by
  obtain ⟨header, table, starts, size, hashBefore⟩ := exists_startsWith mountedBefore
  obtain ⟨headerAfter, tableAfter, startsAfter, -, hashAfter⟩ := exists_startsWith mountedAfter
  rw [size] at same
  obtain ⟨-, sameTable⟩ := (starts.of_sameBelow same).unique startsAfter
  rw [hashBefore, hashAfter, sameTable]

/-- A digest that is expected of a table decides whether the file system is mounted,
and nothing else: the mounted file system and every other error are those of mounting
without it, and a table with another digest is refused whatever its entries are.  The
digest is the one of exactly the bytes before the data and of the salt, so it stays the
same when bytes behind them change. -/
theorem mount_digest (storage : Storage) (salt : Option UInt8) :
    (∀ expected fileSystem,
      (mount storage (some expected) salt).result = .ok fileSystem ↔
        (mount storage none salt).result = .ok fileSystem ∧
          fileSystem.headerHash = expected) ∧
    (∀ expected header table, StartsWith storage header table →
      tableHash table salt ≠ expected →
        (mount storage (some expected) salt).result =
          .error (.hashMismatch expected (tableHash table salt))) ∧
    (∀ bytes header table, storage.Shows bytes →
      (StartsWith storage header table ↔
        headerSize ≤ bytes.length ∧ bytes.take 4 = magic ∧ tableSize bytes ≤ bytes.length ∧
          header = bytes.take headerSize ∧ table = bytes.take (tableSize bytes))) ∧
    (∀ expected error, (mount storage (some expected) salt).result = .error error →
      (mount storage none salt).result = .error error ∨
        ∃ header table, StartsWith storage header table ∧ tableHash table salt ≠ expected ∧
          error = .hashMismatch expected (tableHash table salt)) ∧
    (∀ expected fileSystem, (mount storage expected salt).result = .ok fileSystem →
      ∃ table, (storage.read 0 fileSystem.dataOffset).result = .ok table ∧
        table.length = fileSystem.dataOffset ∧
        fileSystem.headerHash = Sha256.digest (table ++ salt.toList)) ∧
    (∀ changed header table, StartsWith storage header table →
      Storage.SameBelow (tableSize header) storage changed →
        StartsWith changed header table ∧
          (changed.size = storage.size → ∀ expected,
            (mount changed expected salt).result =
              (mount storage expected salt).result.map fun fileSystem =>
                { fileSystem with storage := changed })) ∧
    (∀ changed expected other before after,
      (mount storage expected salt).result = .ok before →
      (mount changed other salt).result = .ok after →
      Storage.SameBelow before.dataOffset storage changed →
        after.headerHash = before.headerHash) := by
  refine ⟨?mounts, ?mismatch, ?found, ?fails, ?covers, ?behind, ?keeps⟩
  case mounts =>
    intro expected fileSystem
    exact result_mount_some_iff storage expected salt fileSystem
  case mismatch =>
    intro expected header table starts other
    exact starts.result_mount_other other
  case found =>
    intro bytes header table shows
    exact startsWith_iff shows
  case fails =>
    intro expected error failed
    rcases mount_some_cases storage expected salt with same | ⟨header, table, starts, other⟩
    · exact .inl (same.symm.trans failed)
    · rw [starts.result_mount_other other] at failed
      exact .inr ⟨header, table, starts, other, (Except.error.inj failed).symm⟩
  case covers =>
    intro expected fileSystem mounted
    obtain ⟨header, table, starts, size, hash⟩ := exists_startsWith mounted
    rw [size]
    exact ⟨table, starts.table_eq, starts.length_table, hash⟩
  case behind =>
    intro changed header table starts same
    exact ⟨starts.of_sameBelow same,
      fun sameSize expected => starts.result_mount_changed same sameSize expected salt⟩
  case keeps =>
    intro changed expected other before after mountedBefore mountedAfter same
    exact headerHash_eq_of_sameBelow mountedBefore mountedAfter same

/-- A table without files is only a header. -/
def emptyTable : Bytes :=
  magic ++ Bytes.zeros 12

theorem mount_digest_lastByte :
    StartsWith (.memory (emptyTable ++ [1])) emptyTable emptyTable ∧
      ∀ expected, (mount (.memory (emptyTable ++ [2])) expected none).result =
        (mount (.memory (emptyTable ++ [1])) expected none).result.map fun fileSystem =>
          { fileSystem with storage := .memory (emptyTable ++ [2]) } := by
  have same : Storage.SameBelow (tableSize emptyTable) (.memory (emptyTable ++ [1]))
      (.memory (emptyTable ++ [2])) :=
    (Storage.shows_memory _).sameBelow (Storage.shows_memory _) (by decide) (by decide) rfl
  obtain ⟨-, -, -, -, -, behind, -⟩ := mount_digest (.memory (emptyTable ++ [1])) none
  have starts : StartsWith (.memory (emptyTable ++ [1])) emptyTable emptyTable :=
    ⟨by decide, rfl, rfl, by decide, rfl⟩
  exact ⟨starts, (behind _ emptyTable emptyTable starts same).2 rfl⟩

end FileSystem

end Gamecard
