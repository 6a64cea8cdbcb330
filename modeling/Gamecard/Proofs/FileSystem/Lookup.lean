import Gamecard.Proofs.FileSystem.Entries
import Gamecard.Proofs.FileSystem.RoundTrip
import Gamecard.Proofs.Sequence

/-!
# Opening files by name

Of the entries that share a name the first one is opened, while the last one counts
where entries are gone through in turn.  A name without an entry is missing.  What is
opened of a mounted file system is always there: the checks made on mounting leave room
for the data of every entry, so that the sum which places them stays within the storage.
-/

namespace Gamecard.FileSystem

/-- The first entry of a name. -/
structure FirstNamed (entries : List Entry) (name : String) (entry : Entry) : Prop where
  name_eq : entry.name = name
  first : ∃ before after, entries = before ++ entry :: after ∧
    ∀ earlier ∈ before, earlier.name ≠ name

theorem FirstNamed.mem {entries : List Entry} {name : String} {entry : Entry}
    (first : FirstNamed entries name entry) : entry ∈ entries := by
  obtain ⟨before, after, same, _⟩ := first.first
  rw [same]
  exact List.mem_append_right before List.mem_cons_self

theorem firstNamed_iff {entries : List Entry} {name : String} {entry : Entry} :
    entries.find? (fun other => other.name == name) = some entry ↔
      FirstNamed entries name entry := by
  simp only [List.find?_eq_some_iff_append, beq_iff_eq, Bool.not_eq_true', beq_eq_false_iff_ne]
  constructor
  · intro ⟨named, first⟩
    exact ⟨named, first⟩
  · intro first
    exact ⟨first.name_eq, first.first⟩

theorem FirstNamed.unique {entries : List Entry} {name : String} {left right : Entry}
    (leftFirst : FirstNamed entries name left) (rightFirst : FirstNamed entries name right) :
    left = right := by
  have found := firstNamed_iff.mpr leftFirst
  rw [firstNamed_iff.mpr rightFirst] at found
  exact (Option.some.inj found).symm

/-- The last entry of a name. -/
def lastNamed? (entries : List Entry) (name : String) : Option Entry :=
  lastPassing? (fun entry => entry.name == name) entries

theorem mem_of_lastNamed? {entries : List Entry} {name : String} {entry : Entry}
    (last : lastNamed? entries name = some entry) : entry ∈ entries :=
  (mem_of_lastPassing? last).1

theorem isSome_lastNamed?_iff (entries : List Entry) (name : String) :
    (lastNamed? entries name).isSome ↔ ∃ entry ∈ entries, entry.name = name := by
  rw [Option.isSome_iff_ne_none, ne_eq, lastNamed?, lastPassing?_eq_none_iff]
  simp

theorem find?_eq_none_iff {fileSystem : FileSystem} {name : String} :
    fileSystem.find? name = none ↔ ∀ entry ∈ fileSystem.entries, entry.name ≠ name := by
  simp only [find?, List.find?_eq_none, beq_iff_eq, ne_eq]

/-- What comes of opening a file by its name. -/
inductive OpenOutcome (fileSystem : FileSystem) (name : String) :
    Except Error Storage → Prop where
  | first {entry : Entry} {file : Storage} : FirstNamed fileSystem.entries name entry →
      fileSystem.openEntry entry = .ok file → OpenOutcome fileSystem name (.ok file)
  | missing : (∀ entry ∈ fileSystem.entries, entry.name ≠ name) →
      OpenOutcome fileSystem name (.error (.missingFile name))

theorem Contained.openOutcome {fileSystem : FileSystem} (contained : fileSystem.Contained)
    (name : String) : OpenOutcome fileSystem name (fileSystem.openFile name) := by
  unfold openFile
  split
  next missing => exact .missing (find?_eq_none_iff.mp missing)
  next entry found =>
    have first := firstNamed_iff.mp found
    have opened := contained.openEntry_eq first.mem
    rw [opened]
    exact .first first opened

theorem OpenOutcome.exists_ok_iff {fileSystem : FileSystem} {name : String}
    {result : Except Error Storage} (outcome : OpenOutcome fileSystem name result) :
    (∃ file, result = .ok file) ↔ ∃ entry ∈ fileSystem.entries, entry.name = name := by
  cases outcome with
  | first first opened =>
      exact ⟨fun _ => ⟨_, first.mem, first.name_eq⟩, fun _ => ⟨_, rfl⟩⟩
  | missing absent =>
      constructor
      · intro ⟨file, impossible⟩
        cases impossible
      · intro ⟨entry, member, named⟩
        exact absurd named (absent entry member)

theorem OpenOutcome.eq_openEntry {fileSystem : FileSystem} {name : String}
    {result : Except Error Storage} (outcome : OpenOutcome fileSystem name result)
    {entry : Entry} (first : FirstNamed fileSystem.entries name entry) :
    result = fileSystem.openEntry entry := by
  cases outcome with
  | first found opened => rw [first.unique found, opened]
  | missing absent => exact absurd first.name_eq (absent entry first.mem)

theorem OpenOutcome.eq_missing {fileSystem : FileSystem} {name : String}
    {result : Except Error Storage} (outcome : OpenOutcome fileSystem name result)
    (absent : ∀ entry ∈ fileSystem.entries, entry.name ≠ name) :
    result = .error (.missingFile name) := by
  cases outcome with
  | first found => exact absurd found.name_eq (absent _ found.mem)
  | missing => rfl

/-- The file of an entry has all its bytes, and they stand behind the table in what
the storage of the file system shows. -/
structure SafeToOpen (fileSystem : FileSystem) (shown : Bytes) (entry : Entry) : Prop where
  noZero : '\x00' ∉ entry.name.toList
  inside : fileSystem.dataOffset + entry.offset + entry.size ≤ shown.length
  /-- The place of the data can be computed with words of sixty-four bits. -/
  unwrapped : shown.length < 2 ^ 64 →
    (UInt64.ofNat fileSystem.dataOffset + UInt64.ofNat entry.offset).toNat =
      fileSystem.dataOffset + entry.offset
  opens : fileSystem.openEntry entry = .ok (fileSystem.entryStorage entry)
  size_eq : (fileSystem.entryStorage entry).size = entry.size
  read_within : ∀ offset length, offset + length ≤ entry.size →
    ((fileSystem.entryStorage entry).read offset length).result =
      .ok (shown.slice (fileSystem.dataOffset + entry.offset + offset) length)
  contents_eq : (fileSystem.contents entry).result =
    .ok (shown.slice (fileSystem.dataOffset + entry.offset) entry.size)

theorem toNat_add_ofNat {left right : Nat} (fits : left + right < 2 ^ 64) :
    (UInt64.ofNat left + UInt64.ofNat right).toNat = left + right := by
  have small : left < UInt64.size ∧ right < UInt64.size := by
    have size : UInt64.size = 2 ^ 64 := rfl
    omega
  rw [UInt64.toNat_add, UInt64.toNat_ofNat_of_lt' small.1, UInt64.toNat_ofNat_of_lt' small.2,
    Nat.mod_eq_of_lt fits]

theorem safeToOpen_of_mount {storage : Storage} {shown : Bytes} (shows : storage.Shows shown)
    {expected : Option Digest} {salt : Option UInt8} {fileSystem : FileSystem}
    (mounted : (mount storage expected salt).result = .ok fileSystem) {entry : Entry}
    (member : entry ∈ fileSystem.entries) : SafeToOpen fileSystem shown entry := by
  obtain ⟨place, contained⟩ := contained_of_mount mounted
  have inside := contained entry member
  rw [place, shows.size_eq] at inside
  rw [← place] at shows
  have range := shows.whole.window inside
  rw [Nat.zero_add] at range
  have opened := contained.openEntry_eq member
  refine ⟨noZero_of_mount mounted entry member, inside, ?_, opened, rfl, ?_, ?_⟩
  · intro representable
    exact toNat_add_ofNat (by omega)
  · intro offset length within
    exact range.read_within within
  · rw [contents, Access.result_bind_of_eq_ok opened]
    exact Access.result_mapError_of_eq_ok range.shows.contents _

/-- Whatever tower of layers over memory is mounted, with whatever digest and salt: the
entries have names without zero characters and files that open and can be read, and
a name opens the first entry that has it. -/
theorem mounted_safeToOpen {bytes : Bytes} {layers : List Layer} {top : Storage}
    (built : (Storage.memory bytes).tower? layers = some top) {expected : Option Digest}
    {salt : Option UInt8} {fileSystem : FileSystem}
    (mounted : (mount top expected salt).result = .ok fileSystem) :
    ∃ size, Storage.towerOffset layers + size ≤ bytes.length ∧ top.size = size ∧
      (∀ entry ∈ fileSystem.entries,
        SafeToOpen fileSystem (bytes.slice (Storage.towerOffset layers) size) entry) ∧
      (∀ name, (∃ file, fileSystem.openFile name = .ok file) ↔
        ∃ entry ∈ fileSystem.entries, entry.name = name) ∧
      ∀ name, OpenOutcome fileSystem name (fileSystem.openFile name) := by
  obtain ⟨size, fits, shows⟩ := (Storage.shows_memory bytes).tower built
  obtain ⟨_, contained⟩ := contained_of_mount mounted
  refine ⟨size, fits, shows.size_eq.trans (Bytes.length_slice_of_le fits), ?_, ?_, ?_⟩
  · intro entry member
    exact safeToOpen_of_mount shows mounted member
  · intro name
    exact (contained.openOutcome name).exists_ok_iff
  · exact contained.openOutcome

/-- Two files that share a name, and one without a name. -/
def repeatedFiles : List Image.File := [("a", [1, 2]), ("", []), ("a", [3])]

theorem mounted_safeToOpen_repeated :
    ∃ top fileSystem, (Storage.memory (7 :: (Image.build repeatedFiles).data)).tower?
        [.tail 1, .paged 2] = some top ∧
      (mount top none none).result = .ok fileSystem ∧
      (∃ entry file, FirstNamed fileSystem.entries "a" entry ∧ file.size = 2 ∧
        fileSystem.openEntry entry = .ok file ∧ fileSystem.openFile "a" = .ok file) ∧
      fileSystem.openFile "b" = .error (.missingFile "b") := by
  obtain ⟨top, built, shows⟩ :=
    Storage.exists_tower_behind 7 (Image.build repeatedFiles).data
  have mounts := Image.result_mount_built (by simp [repeatedFiles]) (by decide) (by decide)
    (by simp [repeatedFiles]) shows none
  obtain ⟨size, _, _, safe, _, outcome⟩ := mounted_safeToOpen built mounts
  have first : FirstNamed (Image.entries 0 repeatedFiles) "a" (Image.entry 0 ("a", [1, 2])) :=
    ⟨rfl, [], _, rfl, List.forall_mem_nil _⟩
  have opens := (safe _ first.mem).opens
  have absent : ∀ entry ∈ Image.entries 0 repeatedFiles, entry.name ≠ "b" := by decide
  refine ⟨top, _, built, mounts, ⟨_, _, first, (safe _ first.mem).size_eq, opens, ?_⟩, ?_⟩
  · exact ((outcome "a").eq_openEntry first).trans opens
  · exact (outcome "b").eq_missing absent

end Gamecard.FileSystem
