import Gamecard.Proofs.FileSystem.Copying
import Gamecard.Proofs.FileSystem.RoundTrip
import Gamecard.Proofs.Files.Writing
import Gamecard.Proofs.Storage.Draining

/-!
# Copies that are whole

Reading a tower over memory from front to back gives all that it shows, in buffers of
any sizes.  So a copy of it is the file with these bytes, written at once, and copying
the files of a file system that is mounted from it is writing the ranges of these bytes
that the entries stand for.  This holds whether or not the writing ends well.
-/

namespace Gamecard

/-- Writes files one after the other.  The first failure ends it. -/
def FileAccess.writeFiles {m : Type → Type} [Monad m] (files : FileAccess m) :
    List (String × Bytes) → m (Except Error Unit)
  | [] => pure (.ok ())
  | (path, contents) :: rest => do
    match ← files.writeFile path contents with
    | .error error => pure (.error (.file path error))
    | .ok () => files.writeFiles rest

namespace Storage

theorem path?_of_layer {storage upper : Storage} {layer : Layer}
    (built : layer.over? storage = some upper) : upper.path? = storage.path? := by
  rcases layer_cases built with ⟨_, _, same⟩ | ⟨_, _, same⟩
  · simp [same, path?]
  · simp [same, path?]

/-- Layers have the open file of the storage below, or none as it. -/
theorem path?_of_tower {storage top : Storage} {layers : List Layer}
    (built : storage.tower? layers = some top) : top.path? = storage.path? := by
  induction layers generalizing storage with
  | nil =>
      cases built
      rfl
  | cons layer rest induction =>
      obtain ⟨upper, here, later⟩ := Option.bind_eq_some_iff.mp built
      exact (induction later).trans (path?_of_layer here)

end Storage

namespace FileSystem

/-- The bytes of a file among those of the storage of the file system. -/
def bytesOf (fileSystem : FileSystem) (contents : Bytes) (entry : Entry) : Bytes :=
  contents.slice (fileSystem.dataOffset + entry.offset) entry.size

/-- The paths of the copies in a directory, with the bytes of the files. -/
def copiesOf (fileSystem : FileSystem) (contents : Bytes) (directory : String)
    (entries : List Entry) : List (String × Bytes) :=
  entries.map fun entry =>
    (Path.join directory entry.name, fileSystem.bytesOf contents entry)

/-- The files are read and copied as these ranges of the bytes. -/
structure CopiesWhole (fileSystem : FileSystem) (contents : Bytes) : Prop where
  read : ∀ entry ∈ fileSystem.entries, ∃ file,
    fileSystem.openEntry entry = .ok file ∧
      file.contents.result = .ok (fileSystem.bytesOf contents entry)
  copy : ∀ directory tree,
    (fileSystem.copyEntries FileTree.access directory fileSystem.entries).run tree =
      (FileTree.access.writeFiles
        (fileSystem.copiesOf contents directory fileSystem.entries)).run tree
  extract : ∀ directory tree later,
    (fileSystem.extract FileTree.access directory).run tree = (.ok (), later) ↔
      fileSystem.firstRefused? = none ∧ ∃ middle,
        (FileTree.access.createDirectories directory).run tree = (.ok (), middle) ∧
        (FileTree.access.writeFiles
          (fileSystem.copiesOf contents directory fileSystem.entries)).run middle =
            (.ok (), later)

variable {fileSystem : FileSystem} {contents : Bytes} {directory : String}
  {tree later : FileTree}

theorem Contained.run_copyEntries_eq (contained : fileSystem.Contained)
    (shows : fileSystem.storage.Shows contents) (inMemory : fileSystem.storage.path? = none)
    {remaining : List Entry} (members : ∀ entry ∈ remaining, entry ∈ fileSystem.entries)
    (tree : FileTree) :
    (fileSystem.copyEntries FileTree.access directory remaining).run tree =
      (FileTree.access.writeFiles
        (fileSystem.copiesOf contents directory remaining)).run tree := by
  induction remaining generalizing tree with
  | nil => rfl
  | cons entry rest induction =>
      obtain ⟨member, later⟩ := List.forall_mem_cons.mp members
      have read := (contained.shows_entry member shows).contents
      have entryInMemory : (fileSystem.entryStorage entry).path? = none := inMemory
      have copied := FileTree.run_copy_eq entryInMemory read (Path.join directory entry.name)
      simp only [copyEntries, contained.openEntry_eq member, run_bind, copied, copiesOf,
        List.map_cons, FileAccess.writeFiles, bytesOf]
      generalize (FileTree.access.writeFile _ _).run tree = written
      obtain ⟨outcome, middle⟩ := written
      cases outcome with
      | error error => rfl
      | ok _ => exact induction later middle

/-- Extracting ends well exactly if the names are plain, the directory can be made and
every file can be copied. -/
theorem run_extract_eq_ok_iff :
    (fileSystem.extract FileTree.access directory).run tree = (.ok (), later) ↔
      fileSystem.firstRefused? = none ∧ ∃ middle,
        (FileTree.access.createDirectories directory).run tree = (.ok (), middle) ∧
        (fileSystem.copyEntries FileTree.access directory fileSystem.entries).run middle =
          (.ok (), later) := by
  rw [extract]
  cases found : fileSystem.firstRefused? with
  | some entry =>
      simp only [reduceCtorEq, false_and, iff_false]
      intro done
      cases done
  | none =>
      simp only [run_bind, true_and]
      cases making : (FileTree.access.createDirectories directory).run tree with
      | mk outcome middle =>
          cases outcome with
          | error error =>
              constructor
              · intro done
                cases done
              · rintro ⟨_, made, _⟩
                cases made
          | ok _ =>
              constructor
              · intro done
                exact ⟨middle, rfl, done⟩
              · rintro ⟨_, made, done⟩
                cases made
                exact done

theorem Contained.copiesWhole (contained : fileSystem.Contained)
    (shows : fileSystem.storage.Shows contents) (inMemory : fileSystem.storage.path? = none) :
    fileSystem.CopiesWhole contents where
  read entry member :=
    ⟨_, contained.openEntry_eq member, (contained.shows_entry member shows).contents⟩
  copy _ tree := contained.run_copyEntries_eq shows inMemory (fun _ member => member) tree
  extract directory tree later := by
    rw [run_extract_eq_ok_iff]
    simp only [contained.run_copyEntries_eq shows inMemory fun _ member => member]

end FileSystem

namespace Storage

open Reader (Drains)

/-- Reading a tower over memory from front to back loses nothing.  Whatever buffers it is
read into, as long as none is empty, the reads come to an end after giving all that the
tower shows.  Reading a whole storage and copying it into a file get these bytes, and the
files of what is mounted from the tower are extracted as they are. -/
theorem tower_losesNothing {bytes : Bytes} {layers : List Layer} {top : Storage}
    (built : (memory bytes).tower? layers = some top) :
    ∃ contents, contents = bytes.slice (towerOffset layers) top.size ∧ top.Shows contents ∧
      (∀ buffers : Nat → Bytes, (∀ number, buffers number ≠ []) → ∃ pieces,
        (∀ others, Drains buffers 0 (Reader.start top) others ↔ others = pieces) ∧
          pieces.flatten = contents ∧ pieces.length ≤ contents.length) ∧
      top.contents.result = .ok contents ∧
      (∀ path tree, (FileTree.access.copy top path).run tree =
        (FileTree.access.writeFile path contents).run tree) ∧
      ∀ expected salt fileSystem,
        (FileSystem.mount top expected salt).result = .ok fileSystem →
          fileSystem.CopiesWhole contents := by
  obtain ⟨size, fits, shows⟩ := (shows_memory bytes).tower built
  have sized : top.size = size := shows.size_eq.trans (Bytes.length_slice_of_le fits)
  subst sized
  have inMemory : top.path? = none := path?_of_tower built
  have drained : ∀ buffers : Nat → Bytes, (∀ number, buffers number ≠ []) → ∃ pieces,
      Drains buffers 0 (Reader.start top) pieces ∧
        pieces.flatten = bytes.slice (towerOffset layers) top.size ∧
        pieces.length ≤ top.size := by
    intro buffers filling
    have all := shows.exists_drains filling 0 (Nat.zero_le _)
    rwa [List.drop_zero, Nat.sub_zero, ← shows.size_eq] at all
  have read : top.contents.result = .ok (bytes.slice (towerOffset layers) top.size) := by
    have positive : copyLength ≠ 0 := by decide
    obtain ⟨pieces, drains, whole, few⟩ :=
      drained (fun _ => List.replicate copyLength 0) fun _ => by simpa using positive
    rw [← whole]
    exact drains.contents (fun _ => List.length_replicate) few
  refine ⟨_, rfl, shows, ?_, read, FileTree.run_copy_eq inMemory read, ?_⟩
  · intro buffers filling
    obtain ⟨pieces, drains, whole, few⟩ := drained buffers filling
    refine ⟨pieces, ?_, whole, shows.size_eq ▸ few⟩
    intro others
    constructor
    · exact drains.unique
    · rintro rfl
      exact drains
  · intro expected salt fileSystem mounted
    obtain ⟨rfl, contained⟩ := FileSystem.contained_of_mount mounted
    exact contained.copiesWhole shows inMemory

/-- An image with two files behind another byte, read in pages of two bytes. -/
theorem tower_losesNothing_behind :
    ∃ top fileSystem,
      (memory (0 :: (Image.build [("a", [1, 2]), ("b", [3])]).data)).tower?
          [.tail 1, .paged 2] = some top ∧
        (FileSystem.mount top none none).result = .ok fileSystem ∧
        top.contents.result = .ok (Image.build [("a", [1, 2]), ("b", [3])]).data ∧
        ∀ tree, (fileSystem.copyEntries FileTree.access "out" fileSystem.entries).run tree =
          (FileTree.access.writeFiles
            [(Path.join "out" "a", [1, 2]), (Path.join "out" "b", [3])]).run tree := by
  let files : List Image.File := [("a", [1, 2]), ("b", [3])]
  let table := Image.table files
  obtain ⟨top, built, shows⟩ := exists_tower_behind 0 (table ++ [1, 2, 3])
  have mounted : (FileSystem.mount top none none).result =
      .ok ⟨top, Image.entries 0 files, table.length, (Image.build files).headerHash none⟩ :=
    Image.result_mount_built (by decide) (by decide) (by decide) (by decide) shows none
  obtain ⟨contents, -, -, -, read, -, extracted⟩ := tower_losesNothing built
  have whole : contents = table ++ [1, 2, 3] :=
    Except.ok.inj (read.symm.trans shows.contents)
  subst whole
  refine ⟨top, _, built, mounted, read, ?_⟩
  intro tree
  rw [(extracted none none _ mounted).copy "out" tree]
  have behind (offset length : Nat) :
      (table ++ [1, 2, 3]).slice (table.length + offset) length =
        Bytes.slice offset length [1, 2, 3] := by
    rw [Bytes.slice_append_right (Nat.le_add_right _ _), Nat.add_sub_cancel_left]
  simp only [FileSystem.copiesOf, FileSystem.bytesOf, files, Image.entries, Image.entry,
    List.map_cons, List.map_nil, behind]
  rfl

end Storage

end Gamecard
