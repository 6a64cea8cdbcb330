import Gamecard.Proofs.FileSystem.Mounting
import Mathlib.Data.List.Forall2
import Mathlib.Data.Nat.Find

/-!
# The grammar of partition file systems

A byte string holds a file system if its table lies within it and every record
of the table names a file whose data lie within it as well.  Mounting accepts
exactly these byte strings, and rejects any other one for the first condition
in the order of the table that does not hold.
-/

namespace Gamecard.FileSystem

/-- The name that starts at an offset: the bytes up to the first zero byte. -/
def NameAt (names : Bytes) (offset : Nat) (name : Bytes) : Prop :=
  0 ∉ name ∧ ∃ after, names.drop offset = name ++ 0 :: after

/-- Why there is no name at an offset. -/
inductive NameFault (names : Bytes) (offset : Nat) : Error → Prop where
  | outside : names.length < offset → NameFault names offset (.malformedTable .nameOutside)
  | unterminated : offset ≤ names.length → 0 ∉ names.drop offset →
      NameFault names offset (.malformedTable .nameUnterminated)
  | notText {name : Bytes} : NameAt names offset name → (∀ text, name ≠ Utf8.encode text) →
      NameFault names offset (.nameNotText name)

theorem NameAt.takeWhile_eq {names name : Bytes} {offset : Nat}
    (named : NameAt names offset name) : (names.drop offset).takeWhile (· != 0) = name := by
  obtain ⟨noZero, after, here⟩ := named
  have nonzero : ∀ byte ∈ name, (byte != 0) = true := by
    intro byte member
    rw [bne_iff_ne]
    intro zero
    exact noZero (zero ▸ member)
  rw [here, List.takeWhile_append_of_pos nonzero, List.takeWhile_cons_of_neg (by decide),
    List.append_nil]

theorem NameAt.terminated {names name : Bytes} {offset : Nat}
    (named : NameAt names offset name) : 0 ∈ names.drop offset := by
  obtain ⟨_, after, here⟩ := named
  rw [here]
  exact List.mem_append_right name List.mem_cons_self

theorem NameAt.inside {names name : Bytes} {offset : Nat}
    (named : NameAt names offset name) : offset ≤ names.length := by
  have nonempty := List.length_pos_of_mem named.terminated
  rw [List.length_drop] at nonempty
  omega

theorem exists_nameAt {names : Bytes} {offset : Nat} (terminated : 0 ∈ names.drop offset) :
    ∃ name, NameAt names offset name := by
  obtain ⟨name, after, here, noZero⟩ := List.eq_append_cons_of_mem terminated
  exact ⟨name, noZero, after, here⟩

theorem readName_of_nameAt {names name : Bytes} {offset : Nat}
    (named : NameAt names offset name) :
    readName names offset =
      match Utf8.decode? name with
      | none => .error (.nameNotText name)
      | some text => .ok text := by
  have terminated : (names.drop offset).contains 0 = true :=
    List.contains_iff_mem.mpr named.terminated
  cases decoded : Utf8.decode? name <;>
    simp only [readName, if_neg (Nat.not_lt.mpr named.inside), terminated, named.takeWhile_eq,
      Bool.not_true, Bool.false_eq_true, if_false, decoded]

theorem readName_of_text {names : Bytes} {offset : Nat} {text : String}
    (named : NameAt names offset (Utf8.encode text)) : readName names offset = .ok text := by
  rw [readName_of_nameAt named, Utf8.decode?_encode]

theorem NameFault.readName_eq {names : Bytes} {offset : Nat} {error : Error}
    (fault : NameFault names offset error) : readName names offset = .error error := by
  cases fault with
  | outside outside => exact if_pos outside
  | unterminated inside missing =>
      have absent : (names.drop offset).contains 0 = false := by
        rw [← Bool.not_eq_true, List.contains_iff_mem]
        exact missing
      simp only [readName, if_neg (Nat.not_lt.mpr inside), absent, Bool.not_false, if_true]
  | @notText name named noText =>
      have undecoded : Utf8.decode? name = none := by
        rw [Option.eq_none_iff_forall_ne_some]
        intro text decoded
        exact noText text (Utf8.decode?_eq_some_iff.mp decoded)
      rw [readName_of_nameAt named, undecoded]

/-- At every offset there is a text, or a reason why there is none. -/
theorem nameAt_or_fault (names : Bytes) (offset : Nat) :
    (∃ text, NameAt names offset (Utf8.encode text)) ∨
      ∃ error, NameFault names offset error := by
  by_cases outside : names.length < offset
  · exact .inr ⟨_, .outside outside⟩
  · by_cases terminated : 0 ∈ names.drop offset
    · obtain ⟨name, named⟩ := exists_nameAt terminated
      by_cases encoded : ∃ text, name = Utf8.encode text
      · obtain ⟨text, same⟩ := encoded
        exact .inl ⟨text, same ▸ named⟩
      · exact .inr ⟨_, .notText named (not_exists.mp encoded)⟩
    · exact .inr ⟨_, .unterminated (Nat.not_lt.mp outside) terminated⟩

section Records

variable (names : Bytes) (dataOffset storageSize : Nat)

/-- A record names a file whose data lie within the storage. -/
structure RecordFits (record : Bytes) : Prop where
  nameInside : record.numberAt 0x10 4 ≤ names.length
  nameTerminated : 0 ∈ names.drop (record.numberAt 0x10 4)
  nameText : ∃ text, NameAt names (record.numberAt 0x10 4) (Utf8.encode text)
  dataInside : dataOffset + record.numberAt 0x00 8 + record.numberAt 0x08 8 ≤ storageSize

/-- The first condition that a record violates, as the error for it. -/
inductive RecordFault (record : Bytes) : Error → Prop where
  | name {error : Error} : NameFault names (record.numberAt 0x10 4) error →
      RecordFault record error
  | dataOutside {text : String} : NameAt names (record.numberAt 0x10 4) (Utf8.encode text) →
      storageSize < dataOffset + record.numberAt 0x00 8 + record.numberAt 0x08 8 →
      RecordFault record
        (.outOfRange (min (dataOffset + record.numberAt 0x00 8) offsetLimit)
          (record.numberAt 0x08 8) storageSize)

/-- The entry has the fields of the record. -/
structure RecordOf (record : Bytes) (entry : Entry) : Prop where
  name : NameAt names (record.numberAt 0x10 4) (Utf8.encode entry.name)
  offset_eq : entry.offset = record.numberAt 0x00 8
  size_eq : entry.size = record.numberAt 0x08 8
  hashedSize_eq : entry.hashedSize = record.numberAt 0x14 4
  hash_eq : entry.hash.bytes = record.slice 0x20 0x20

variable {names dataOffset storageSize} {record : Bytes}

theorem recordFits_or_fault (record : Bytes) :
    RecordFits names dataOffset storageSize record ∨
      ∃ error, RecordFault names dataOffset storageSize record error := by
  rcases nameAt_or_fault names (record.numberAt 0x10 4) with ⟨text, named⟩ | ⟨error, fault⟩
  · by_cases inside :
        dataOffset + record.numberAt 0x00 8 + record.numberAt 0x08 8 ≤ storageSize
    · exact .inl ⟨named.inside, named.terminated, ⟨text, named⟩, inside⟩
    · exact .inr ⟨_, .dataOutside named (Nat.not_le.mp inside)⟩
  · exact .inr ⟨error, .name fault⟩

theorem RecordFits.readEntry_eq (fits : RecordFits names dataOffset storageSize record)
    (whole : record.length = entrySize) :
    ∃ entry, readEntry names dataOffset storageSize record = .ok entry ∧
      RecordOf names record entry := by
  obtain ⟨text, named⟩ := fits.nameText
  let entry : Entry :=
    { name := text
      offset := record.numberAt 0x00 8
      size := record.numberAt 0x08 8
      hashedSize := record.numberAt 0x14 4
      hash := Block.fit 32 (record.slice 0x20 0x20) }
  have read : readEntry names dataOffset storageSize record = .ok entry := by
    simp only [readEntry, readName_of_text named, if_pos fits.dataInside]
    rfl
  have hash : entry.hash.bytes = record.slice 0x20 0x20 := by
    apply Bytes.fit_of_length_eq
    apply Bytes.length_slice_of_le
    rw [whole]
    decide
  exact ⟨entry, read, named, rfl, rfl, rfl, hash⟩

theorem RecordFault.readEntry_eq {error : Error}
    (fault : RecordFault names dataOffset storageSize record error) :
    readEntry names dataOffset storageSize record = .error error := by
  cases fault with
  | name fault =>
      simp only [readEntry, fault.readName_eq]
      rfl
  | dataOutside named outside =>
      simp only [readEntry, readName_of_text named, if_neg (Nat.not_le.mpr outside)]
      rfl

theorem readEntries_of_fits {records : List Bytes}
    (whole : ∀ record ∈ records, record.length = entrySize)
    (fits : ∀ record ∈ records, RecordFits names dataOffset storageSize record) :
    ∃ entries, readEntries names dataOffset storageSize records = .ok entries ∧
      List.Forall₂ (RecordOf names) records entries := by
  induction records with
  | nil => exact ⟨[], rfl, .nil⟩
  | cons record rest induction =>
      rw [List.forall_mem_cons] at whole fits
      obtain ⟨entry, first, here⟩ := fits.1.readEntry_eq whole.1
      obtain ⟨entries, later, there⟩ := induction whole.2 fits.2
      refine ⟨entry :: entries, ?_, .cons here there⟩
      rw [readEntries, first, later]
      rfl

/-- The first record with a fault decides. -/
theorem readEntries_of_fault {records : List Bytes} {index : Nat} {error : Error}
    (whole : ∀ record ∈ records, record.length = entrySize)
    (located : records[index]? = some record)
    (before : ∀ earlier < index, ∀ other, records[earlier]? = some other →
      RecordFits names dataOffset storageSize other)
    (fault : RecordFault names dataOffset storageSize record error) :
    readEntries names dataOffset storageSize records = .error error := by
  induction records generalizing index with
  | nil => cases located
  | cons head rest induction =>
      rw [List.forall_mem_cons] at whole
      cases index with
      | zero =>
          cases located
          rw [readEntries, fault.readEntry_eq]
          rfl
      | succ index =>
          have fits := before 0 (Nat.succ_pos index) head rfl
          obtain ⟨entry, first, _⟩ := fits.readEntry_eq whole.1
          have later := induction whole.2 located fun earlier smaller other =>
            before (earlier + 1) (Nat.succ_lt_succ smaller) other
          rw [readEntries, first, later]
          rfl

end Records

def fileCount (bytes : Bytes) : Nat :=
  bytes.numberAt 4 4

/-- The names at the end of the table. -/
def namesOf (bytes : Bytes) : Bytes :=
  bytes.slice (namesOffset bytes) (bytes.numberAt 8 4)

def recordAt (bytes : Bytes) (index : Nat) : Bytes :=
  bytes.slice (headerSize + index * entrySize) entrySize

def RecordFitsAt (bytes : Bytes) (index : Nat) : Prop :=
  RecordFits (namesOf bytes) (tableSize bytes) bytes.length (recordAt bytes index)

/-- The bytes start with a table that lies within them and so do all its files. -/
structure WellFormed (bytes : Bytes) : Prop where
  headerInside : headerSize ≤ bytes.length
  magic_eq : bytes.take 4 = magic
  tableInside : tableSize bytes ≤ bytes.length
  recordsFit : ∀ index < fileCount bytes, RecordFitsAt bytes index

/-- The first condition that the bytes violate, as the error for it. -/
inductive Rejects (bytes : Bytes) : Error → Prop where
  | header : bytes.length < headerSize → Rejects bytes (.malformedTable .truncatedHeader)
  | magic : headerSize ≤ bytes.length → bytes.take 4 ≠ magic →
      Rejects bytes (.malformedTable .wrongMagic)
  | table : headerSize ≤ bytes.length → bytes.take 4 = FileSystem.magic →
      bytes.length < tableSize bytes → Rejects bytes (.malformedTable .truncatedTable)
  | record {index : Nat} {error : Error} : headerSize ≤ bytes.length →
      bytes.take 4 = FileSystem.magic → tableSize bytes ≤ bytes.length →
      index < fileCount bytes → (∀ earlier < index, RecordFitsAt bytes earlier) →
      RecordFault (namesOf bytes) (tableSize bytes) bytes.length (recordAt bytes index) error →
      Rejects bytes error

theorem wellFormed_or_rejects (bytes : Bytes) :
    WellFormed bytes ∨ ∃ error, Rejects bytes error := by
  by_cases header : headerSize ≤ bytes.length
  · by_cases start : bytes.take 4 = magic
    · by_cases table : tableSize bytes ≤ bytes.length
      · by_cases fits : ∀ index < fileCount bytes, RecordFitsAt bytes index
        · exact .inl ⟨header, start, table, fits⟩
        · -- The least index without a fitting record is the one that is met first.
          have misfit : ∃ index, index < fileCount bytes ∧ ¬RecordFitsAt bytes index := by
            simpa using fits
          classical
          obtain ⟨inside, unfit⟩ := Nat.find_spec misfit
          have before : ∀ earlier < Nat.find misfit, RecordFitsAt bytes earlier := by
            intro earlier smaller
            by_contra other
            exact Nat.find_min misfit smaller ⟨Nat.lt_trans smaller inside, other⟩
          rcases recordFits_or_fault (recordAt bytes (Nat.find misfit)) with
            fitting | ⟨error, fault⟩
          · exact absurd fitting unfit
          · exact .inr ⟨error, .record header start table inside before fault⟩
      · exact .inr ⟨_, .table header start (Nat.not_le.mp table)⟩
    · exact .inr ⟨_, .magic header start⟩
  · exact .inr ⟨_, .header (Nat.not_le.mp header)⟩

theorem length_recordAt {bytes : Bytes} {index : Nat} (table : tableSize bytes ≤ bytes.length)
    (inside : index < fileCount bytes) : (recordAt bytes index).length = entrySize := by
  apply Bytes.length_slice_of_le
  have rows : (index + 1) * entrySize ≤ fileCount bytes * entrySize :=
    Nat.mul_le_mul_right entrySize inside
  simp only [tableSize, namesOffset, fileCount, Nat.succ_mul] at table rows
  omega

theorem readRecords_eq (bytes : Bytes) :
    readRecords bytes =
      readEntries (namesOf bytes) (tableSize bytes) bytes.length
        ((List.range (fileCount bytes)).map (recordAt bytes)) := by
  have names : (bytes.take (tableSize bytes)).drop (namesOffset bytes) = namesOf bytes := by
    rw [List.drop_take, tableSize, Nat.add_sub_cancel_left, namesOf, Bytes.slice]
  have records : Bytes.pieces entrySize (fileCount bytes)
      ((bytes.take (tableSize bytes)).drop headerSize) =
      (List.range (fileCount bytes)).map (recordAt bytes) := by
    rw [Bytes.pieces_eq_map]
    apply List.map_congr_left
    intro index member
    have rows : (index + 1) * entrySize ≤ fileCount bytes * entrySize :=
      Nat.mul_le_mul_right entrySize (List.mem_range.mp member)
    rw [Bytes.slice_drop, Bytes.slice_take, recordAt]
    simp only [tableSize, namesOffset, fileCount, Nat.succ_mul] at rows ⊢
    omega
  simp only [readRecords, names, ← records]
  rfl

theorem mem_records {bytes record : Bytes} (table : tableSize bytes ≤ bytes.length)
    (member : record ∈ (List.range (fileCount bytes)).map (recordAt bytes)) :
    record.length = entrySize := by
  obtain ⟨index, inside, same⟩ := List.mem_map.mp member
  rw [← same]
  exact length_recordAt table (List.mem_range.mp inside)

theorem WellFormed.readTable_eq {bytes : Bytes} (wellFormed : WellFormed bytes)
    (salt : Option UInt8) :
    ∃ entries,
      readTable bytes none salt =
          .ok ⟨entries, tableSize bytes, tableHash (bytes.take (tableSize bytes)) salt⟩ ∧
        List.Forall₂ (RecordOf (namesOf bytes))
          ((List.range (fileCount bytes)).map (recordAt bytes)) entries := by
  have fits : ∀ record ∈ (List.range (fileCount bytes)).map (recordAt bytes),
      RecordFits (namesOf bytes) (tableSize bytes) bytes.length record := by
    rw [List.forall_mem_map]
    intro index member
    exact wellFormed.recordsFit index (List.mem_range.mp member)
  have whole := fun record => @mem_records bytes record wellFormed.tableInside
  obtain ⟨entries, read, fields⟩ := readEntries_of_fits whole fits
  refine ⟨entries, ?_, fields⟩
  simp only [readTable, if_neg (Nat.not_lt.mpr wellFormed.headerInside),
    if_neg (not_not.mpr wellFormed.magic_eq), if_neg (Nat.not_lt.mpr wellFormed.tableInside),
    readRecords_eq, read, Option.any_none, Bool.false_eq_true, if_false]
  rfl

theorem Rejects.readTable_eq {bytes : Bytes} {error : Error} (rejects : Rejects bytes error)
    (salt : Option UInt8) : readTable bytes none salt = .error error := by
  cases rejects with
  | header short => exact if_pos short
  | magic header other =>
      simp only [readTable, if_neg (Nat.not_lt.mpr header), if_pos other]
  | table header start beyond =>
      simp only [readTable, if_neg (Nat.not_lt.mpr header), if_neg (not_not.mpr start),
        if_pos beyond]
  | @record index error header start table inside before fault =>
      let records := (List.range (fileCount bytes)).map (recordAt bytes)
      have located (place : Nat) (within : place < fileCount bytes) :
          records[place]? = some (recordAt bytes place) := by
        rw [List.getElem?_map, List.getElem?_range within, Option.map_some]
      have fits : ∀ earlier < index, ∀ other, records[earlier]? = some other →
          RecordFits (namesOf bytes) (tableSize bytes) bytes.length other := by
        intro earlier smaller other found
        rw [located earlier (Nat.lt_trans smaller inside)] at found
        cases found
        exact before earlier smaller
      have whole := fun record => @mem_records bytes record table
      have read := readEntries_of_fault whole (located index inside) fits fault
      simp only [readTable, if_neg (Nat.not_lt.mpr header), if_neg (not_not.mpr start),
        if_neg (Nat.not_lt.mpr table), readRecords_eq, read, Option.any_none,
        Bool.false_eq_true, if_false]
      rfl

theorem exists_readTable_iff (bytes : Bytes) (salt : Option UInt8) :
    (∃ table, readTable bytes none salt = .ok table) ↔ WellFormed bytes := by
  rcases wellFormed_or_rejects bytes with wellFormed | ⟨error, rejects⟩
  · obtain ⟨entries, read, _⟩ := wellFormed.readTable_eq salt
    exact ⟨fun _ => wellFormed, fun _ => ⟨_, read⟩⟩
  · have failed := rejects.readTable_eq salt
    constructor
    · rintro ⟨table, read⟩
      rw [failed] at read
      cases read
    · intro wellFormed
      obtain ⟨entries, read, _⟩ := wellFormed.readTable_eq salt
      exact ⟨_, read⟩

theorem Rejects.error_cases {bytes : Bytes} {error : Error} (rejects : Rejects bytes error) :
    (∃ fault, error = .malformedTable fault) ∨ (∃ name, error = .nameNotText name) ∨
      ∃ offset size, error = .outOfRange offset size bytes.length := by
  cases rejects with
  | header => exact .inl ⟨_, rfl⟩
  | magic => exact .inl ⟨_, rfl⟩
  | table => exact .inl ⟨_, rfl⟩
  | record _ _ _ _ _ fault =>
      cases fault with
      | dataOutside => exact .inr (.inr ⟨_, _, rfl⟩)
      | name fault =>
          cases fault with
          | outside => exact .inl ⟨_, rfl⟩
          | unterminated => exact .inl ⟨_, rfl⟩
          | notText => exact .inr (.inl ⟨_, rfl⟩)

/-- The entries are those of the table at the start of the bytes, in its order. -/
structure HasTable (fileSystem : FileSystem) (bytes : Bytes) : Prop where
  dataOffset_eq : fileSystem.dataOffset = tableSize bytes
  count_eq : fileSystem.entries.length = fileCount bytes
  fields : ∀ index entry, fileSystem.entries[index]? = some entry →
    RecordOf (namesOf bytes) (recordAt bytes index) entry

theorem WellFormed.mount_eq {bytes : Bytes} (wellFormed : WellFormed bytes)
    (salt : Option UInt8) :
    ∃ fileSystem, (mount (.memory bytes) none salt).result = .ok fileSystem ∧
      HasTable fileSystem bytes := by
  obtain ⟨entries, read, fields⟩ := wellFormed.readTable_eq salt
  obtain ⟨lengths, places⟩ := List.forall₂_iff_get.mp fields
  rw [result_mount (Storage.shows_memory bytes), read]
  refine ⟨_, rfl, rfl, ?_, ?_⟩
  · change entries.length = fileCount bytes
    rw [← lengths, List.length_map, List.length_range]
  · intro index entry found
    obtain ⟨inside, same⟩ := List.getElem?_eq_some_iff.mp found
    have here := places index (lengths ▸ inside) inside
    simp only [List.get_eq_getElem, List.getElem_map, List.getElem_range] at here
    rw [← same]
    exact here

theorem Rejects.mount_eq {bytes : Bytes} {error : Error} (rejects : Rejects bytes error)
    (salt : Option UInt8) : (mount (.memory bytes) none salt).result = .error error := by
  rw [result_mount (Storage.shows_memory bytes), rejects.readTable_eq salt]
  rfl

/-- Mounting bytes in memory succeeds exactly if they are well-formed.  It then
gives one entry for every record, in the order of the table and with the fields
of the record; otherwise it gives the error for the first violated condition. -/
theorem mount_grammar (bytes : Bytes) (salt : Option UInt8) :
    ((∃ fileSystem, (mount (.memory bytes) none salt).result = .ok fileSystem) ↔
        WellFormed bytes) ∧
      (∀ fileSystem, (mount (.memory bytes) none salt).result = .ok fileSystem →
        HasTable fileSystem bytes) ∧
      (∀ error, (mount (.memory bytes) none salt).result = .error error ↔
        Rejects bytes error) ∧
      ∀ error, (mount (.memory bytes) none salt).result = .error error →
        (∃ fault, error = .malformedTable fault) ∨ (∃ name, error = .nameNotText name) ∨
          ∃ offset size, error = .outOfRange offset size bytes.length := by
  rcases wellFormed_or_rejects bytes with wellFormed | ⟨actual, rejects⟩
  · obtain ⟨mounted, read, table⟩ := wellFormed.mount_eq salt
    rw [read]
    refine ⟨⟨fun _ => wellFormed, fun _ => ⟨mounted, rfl⟩⟩, ?_, ?_, ?_⟩
    · intro fileSystem same
      cases same
      exact table
    · intro error
      constructor
      · intro same
        cases same
      · intro rejects
        rw [← read]
        exact rejects.mount_eq salt
    · intro error same
      cases same
  · have read := rejects.mount_eq salt
    rw [read]
    refine ⟨⟨?_, ?_⟩, ?_, ?_, ?_⟩
    · intro ⟨fileSystem, same⟩
      cases same
    · intro wellFormed
      obtain ⟨mounted, other, _⟩ := wellFormed.mount_eq salt
      exact ⟨mounted, read ▸ other⟩
    · intro fileSystem same
      cases same
    · intro error
      constructor
      · intro same
        cases same
        exact rejects
      · intro other
        rw [← read]
        exact other.mount_eq salt
    · intro error same
      cases same
      exact rejects.error_cases

end Gamecard.FileSystem
