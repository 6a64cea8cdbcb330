import Gamecard.Proofs.FileSystem.Confinement
import Gamecard.Proofs.FileSystem.Copying
import Gamecard.Proofs.FileSystem.Lookup

/-!
# What an extraction leaves behind

After an extraction that ends well the directory is there, with a file for every name
and no others.  A file that several entries are named after has been written for each of
them, so it holds what the last one has.  Opening the name gives the first one.
-/

namespace Gamecard.FileSystem

open Storage (toOption_eq_some_iff)

variable {fileSystem : FileSystem} {directory : String} {target : Place}
  {remaining : List Entry} {tree later : FileTree}

theorem Copies.place_eq {storage : Storage} {name : String} {found : Place} {bytes : Bytes}
    (copies : Copies storage directory name tree later found bytes)
    (leads : tree.LeadsTo directory target) : found = target :=
  copies.leads.unique leads

theorem Copies.spares {storage : Storage} {name : String} {bytes : Bytes}
    (copies : Copies storage directory name tree later target bytes) :
    FileTree.Spares target tree later := by
  rw [copies.later_eq]
  exact .put copies.free _

theorem Copied.spares (copied : Copied fileSystem directory remaining tree later)
    (leads : tree.LeadsTo directory target) : FileTree.Spares target tree later := by
  induction copied with
  | nil tree => exact ⟨.refl tree, fun _ _ _ there => there⟩
  | cons opened copies rest induction =>
      have same := copies.place_eq leads
      subst same
      exact copies.spares.trans (induction (copies.spares.grows.leadsTo leads))

theorem Copied.opens (copied : Copied fileSystem directory remaining tree later) :
    ∀ entry ∈ remaining, fileSystem.openEntry entry = .ok (fileSystem.entryStorage entry) := by
  induction copied with
  | nil => exact List.forall_mem_nil _
  | cons opened copies rest induction => exact List.forall_mem_cons.mpr ⟨opened, induction⟩

/-- The files of entries are read as before while the open file below them is spared. -/
theorem reads_entryStorage_eq (spares : FileTree.Spares target tree later)
    (elsewhere : tree.BacksElsewhere fileSystem.storage target) (entry : Entry) :
    later.reads (fileSystem.entryStorage entry) = tree.reads (fileSystem.entryStorage entry) :=
  spares.reads_eq elsewhere

/-- What is found at a name after files were written for some entries, with what is
read for each of them. -/
inductive HoldsLast (read : Entry → Except IoError Bytes) (entries : List Entry)
    (target : Place) (tree later : FileTree) (name : String) : Prop where
  | last {entry : Entry} {bytes : Bytes} : lastNamed? entries name = some entry →
      read entry = .ok bytes → later.lookup (target ++ [name]) = some (.file bytes) →
      HoldsLast read entries target tree later name
  | untouched : lastNamed? entries name = none →
      later.lookup (target ++ [name]) = tree.lookup (target ++ [name]) →
      HoldsLast read entries target tree later name

/-- A file written before counts only for its own name, and only if none follows. -/
theorem HoldsLast.cons {read : Entry → Except IoError Bytes} {entry : Entry} {bytes : Bytes}
    {name : String} (given : read entry = .ok bytes)
    (rest : HoldsLast read remaining target (tree.put (target ++ [entry.name]) (.file bytes))
      later name) : HoldsLast read (entry :: remaining) target tree later name := by
  have split := lastPassing?_cons (fun other => other.name == name) entry remaining
  simp only [beq_iff_eq] at split
  change lastNamed? (entry :: remaining) name = (lastNamed? remaining name).or _ at split
  cases rest with
  | last found other holds =>
      rw [found, Option.some_or] at split
      exact .last split other holds
  | untouched absent same =>
      rw [absent, Option.none_or] at split
      by_cases named : entry.name = name
      · subst named
        rw [if_pos rfl] at split
        rw [FileTree.lookup_put_self (by simp)] at same
        exact .last split given same
      · rw [if_neg named] at split
        rw [FileTree.lookup_put_of_ne (by simpa using Ne.symm named)] at same
        exact .untouched split same

theorem Copied.holdsLast {read : Entry → Except IoError Bytes}
    (copied : Copied fileSystem directory remaining tree later)
    (leads : tree.LeadsTo directory target)
    (elsewhere : tree.BacksElsewhere fileSystem.storage target)
    (reads : ∀ entry, tree.reads (fileSystem.entryStorage entry) = read entry) (name : String) :
    HoldsLast read remaining target tree later name := by
  induction copied with
  | nil tree => exact .untouched rfl rfl
  | @cons entry rest tree middle later found bytes opened copies _ induction =>
      have same := copies.place_eq leads
      subst same
      -- No copy touches the card, so each file is read as in the first tree.
      have given := copies.read
      rw [reads_entryStorage_eq (.put copies.free _) elsewhere, reads] at given
      have readsMiddle : ∀ other, middle.reads (fileSystem.entryStorage other) = read other :=
        fun other => (reads_entryStorage_eq copies.spares elsewhere other).trans (reads other)
      have held := induction (copies.spares.grows.leadsTo leads)
        (copies.spares.backsElsewhere elsewhere) readsMiddle
      rw [copies.later_eq] at held
      exact .cons given held

section Files

variable {entries : List Entry} {before after : FileTree} {place : Place} {contents : Bytes}

/-- A file that no entry is named after stays as it is. -/
theorem Confined.file_stays (confined : Confined entries directory before after)
    (leads : after.LeadsTo directory target) (there : before.lookup place = some (.file contents))
    (other : ∀ entry ∈ entries, place ≠ target ++ [entry.name]) :
    after.lookup place = some (.file contents) := by
  by_contra gone
  rw [← there] at gone
  rcases confined.changed place gone with made | written
  · rw [made.missing] at there
    cases there
  · obtain ⟨found, entry, foundLeads, member, _, same⟩ := written.child
    rw [foundLeads.unique leads] at same
    exact other entry member same

/-- A file that an entry is not named after was there before. -/
theorem Confined.file_new (confined : Confined entries directory before after)
    (leads : after.LeadsTo directory target)
    (there : after.lookup place = some (.file contents))
    (missing : before.lookup place ≠ some (.file contents)) :
    ∃ entry ∈ entries, place = target ++ [entry.name] := by
  rw [← there] at missing
  rcases confined.changed place missing.symm with made | written
  · rw [made.made] at there
    cases there
  · obtain ⟨found, entry, foundLeads, member, _, same⟩ := written.child
    rw [foundLeads.unique leads] at same
    exact ⟨entry, member, same⟩

end Files

/-- Making the directory spares all files. -/
theorem spares_of_createDirectories
    (done : (FileTree.access.createDirectories directory).run tree = (.ok (), later))
    (leads : later.LeadsTo directory target) : FileTree.Spares target tree later := by
  have performs : Performs (· ∈ Path.withParents directory) (Target [] directory)
      (FileTree.access.createDirectories directory) :=
    FileTree.faithful_access.performs_makeWithin fun _ member => member
  have changes := performs tree
  rw [done] at changes
  have confined := confined_of_changes changes
  exact ⟨confined.grows, fun place contents _ there =>
    confined.file_stays leads there (List.forall_mem_nil _)⟩

theorem backsElsewhere_of_noFiles {storage : Storage} (backs : tree.Backs storage)
    (empty : ∀ below contents, tree.lookup (target ++ below) ≠ some (.file contents)) :
    tree.BacksElsewhere storage target := by
  intro path bottom
  obtain ⟨place, contents, found⟩ := backs path bottom
  refine ⟨place, contents, found, ?_⟩
  intro name same
  subst same
  exact empty [name] contents (FileTree.lookup_of_find found)

theorem Copied.openFile_eq (copied : Copied fileSystem directory fileSystem.entries tree later)
    {name : String} {first : Entry} (firstNamed : FirstNamed fileSystem.entries name first) :
    fileSystem.openFile name = .ok (fileSystem.entryStorage first) := by
  have found : fileSystem.find? name = some first := firstNamed_iff.mpr firstNamed
  rw [openFile, found]
  exact copied.opens first firstNamed.mem

/-- The target after an extraction. -/
structure Extracted (fileSystem : FileSystem) (target : Place) (tree later : FileTree) :
    Prop where
  reads_eq : ∀ entry, later.reads (fileSystem.entryStorage entry) =
    tree.reads (fileSystem.entryStorage entry)
  holdsLast : ∀ entry ∈ fileSystem.entries, ∃ last bytes,
    lastNamed? fileSystem.entries entry.name = some last ∧
      later.reads (fileSystem.entryStorage last) = .ok bytes ∧
      later.lookup (target ++ [entry.name]) = some (.file bytes)
  /-- A file holds what opening its name gives exactly if the first and the last entry of
  the name have the same. -/
  agrees_iff : ∀ name first last, FirstNamed fileSystem.entries name first →
    lastNamed? fileSystem.entries name = some last →
      ((∃ file bytes, fileSystem.openFile name = .ok file ∧ later.reads file = .ok bytes ∧
        later.lookup (target ++ [name]) = some (.file bytes)) ↔
      later.reads (fileSystem.entryStorage first) = later.reads (fileSystem.entryStorage last))
  onlyNamed : ∀ below contents, later.lookup (target ++ below) = some (.file contents) →
    ∃ entry ∈ fileSystem.entries, below = [entry.name]

theorem HoldsLast.exists_of_mem {read : Entry → Except IoError Bytes} {entries : List Entry}
    {entry : Entry} (held : HoldsLast read entries target tree later entry.name)
    (member : entry ∈ entries) :
    ∃ last bytes, lastNamed? entries entry.name = some last ∧ read last = .ok bytes ∧
      later.lookup (target ++ [entry.name]) = some (.file bytes) := by
  cases held with
  | last found given holds => exact ⟨_, _, found, given, holds⟩
  | untouched absent =>
      have named := (isSome_lastNamed?_iff _ _).mpr ⟨entry, member, rfl⟩
      rw [absent] at named
      cases named

theorem HoldsLast.agrees_iff {read : Entry → Except IoError Bytes} {entries : List Entry}
    {name : String} {first last : Entry} (held : HoldsLast read entries target tree later name)
    (lastNamed : lastNamed? entries name = some last) :
    (∃ bytes, read first = .ok bytes ∧ later.lookup (target ++ [name]) = some (.file bytes)) ↔
      read first = read last := by
  cases held with
  | @last _ bytes found given holds =>
      rw [lastNamed] at found
      cases found
      rw [given]
      constructor
      · intro ⟨contents, readFirst, there⟩
        rw [holds] at there
        cases there
        exact readFirst
      · intro same
        exact ⟨bytes, same, holds⟩
  | untouched absent =>
      rw [lastNamed] at absent
      cases absent

theorem Copied.agrees_iff {read : Storage → Except IoError Bytes} {name : String}
    {first last : Entry} {start : FileTree}
    (copied : Copied fileSystem directory fileSystem.entries start later)
    (held : HoldsLast (fun entry => read (fileSystem.entryStorage entry)) fileSystem.entries
      target tree later name)
    (firstNamed : FirstNamed fileSystem.entries name first)
    (lastNamed : lastNamed? fileSystem.entries name = some last) :
    (∃ file bytes, fileSystem.openFile name = .ok file ∧ read file = .ok bytes ∧
        later.lookup (target ++ [name]) = some (.file bytes)) ↔
      read (fileSystem.entryStorage first) = read (fileSystem.entryStorage last) := by
  have opened := copied.openFile_eq firstNamed
  rw [← held.agrees_iff lastNamed]
  constructor
  · intro ⟨file, bytes, openedFile, given, holds⟩
    rw [opened] at openedFile
    cases openedFile
    exact ⟨bytes, given, holds⟩
  · intro ⟨bytes, given, holds⟩
    exact ⟨_, bytes, opened, given, holds⟩

/-- An extraction that ends well into a target without files leaves one file for each name,
which holds what the last entry of the name has. -/
theorem extract_leaves (current : tree.lookup tree.current = some .directory)
    (backs : tree.Backs fileSystem.storage)
    (done : (fileSystem.extract FileTree.access directory).run tree = (.ok (), later)) :
    ∃ target, later.LeadsTo directory target ∧
      ((∀ below contents, tree.lookup (target ++ below) ≠ some (.file contents)) →
        Extracted fileSystem target tree later) := by
  obtain ⟨middle, making, copied⟩ := extract_eq_ok done
  obtain ⟨target, leads⟩ := FileTree.exists_leadsTo_of_createDirectories current making
  have making := spares_of_createDirectories making leads
  have copying := copied.spares leads
  have leadsLater := copying.grows.leadsTo leads
  refine ⟨target, leadsLater, ?_⟩
  intro empty
  have elsewhere := backsElsewhere_of_noFiles backs empty
  have readsLater := reads_entryStorage_eq copying (making.backsElsewhere elsewhere)
  have held := copied.holdsLast leads (making.backsElsewhere elsewhere)
    (fun entry => (readsLater entry).symm)
  constructor
  · exact reads_entryStorage_eq (making.trans copying) elsewhere
  · intro entry member
    exact (held entry.name).exists_of_mem member
  · intro name first last firstNamed lastNamed
    exact copied.agrees_iff (held name) firstNamed lastNamed
  · intro below contents there
    have changes := performs_extract FileTree.faithful_access fileSystem directory tree
    rw [done] at changes
    obtain ⟨entry, member, same⟩ :=
      (confined_of_changes changes).file_new leadsLater there (empty below contents)
    exact ⟨entry, member, List.append_cancel_left same⟩

/-- Three files of a card that is a file itself, two of one name. -/
def superseded : FileSystem where
  storage := .file "card" 3 [1, 2, 3]
  entries := [⟨"a", 0, 1, 0, Sha256.digest []⟩, ⟨"b", 1, 1, 0, Sha256.digest []⟩,
    ⟨"a", 2, 1, 0, Sha256.digest []⟩]
  dataOffset := 0
  headerHash := Sha256.digest []

/-- The tree with nothing in it but that card. -/
def cardTree : FileTree :=
  (FileTree.ofCurrent []).put ["card"] (.file [1, 2, 3])

theorem extract_leaves_superseded :
    ∃ later, (superseded.extract FileTree.access "out").run cardTree = (.ok (), later) ∧
      later.lookup ["out", "a"] = some (.file [3]) ∧
      later.lookup ["out", "b"] = some (.file [2]) ∧
      Extracted superseded ["out"] cardTree later := by
  have found : (cardTree.find "card").toOption = some (["card"], .file [1, 2, 3]) := by
    decide +kernel
  have backs : cardTree.Backs superseded.storage := by
    intro path bottom
    cases bottom
    exact ⟨_, _, toOption_eq_some_iff.mp found⟩
  let outcome := (superseded.extract FileTree.access "out").run cardTree
  have finished : outcome.1.toOption = some () := by decide +kernel
  have reached : (outcome.2.follow (outcome.2.start "out") (Path.segments "out")).toOption =
      some (["out"], .directory) := by decide +kernel
  have done : outcome = (.ok (), outcome.2) := Prod.ext (toOption_eq_some_iff.mp finished) rfl
  obtain ⟨target, leads, extracted⟩ := extract_leaves rfl backs done
  have place : target = ["out"] := leads.unique (toOption_eq_some_iff.mp reached)
  subst place
  refine ⟨outcome.2, done, by decide +kernel, by decide +kernel, extracted ?_⟩
  intro below contents there
  simp [FileTree.lookup, cardTree, FileTree.put, FileTree.ofCurrent, List.lookup_cons] at there

/-- Two files of one name, laid out in memory and mounted. -/
def namesakes : FileSystem where
  storage := .memory (Image.build [("a", [1]), ("a", [2])]).data
  entries := Image.entries 0 [("a", [1]), ("a", [2])]
  dataOffset := (Image.table [("a", [1]), ("a", [2])]).length
  headerHash := (Image.build [("a", [1]), ("a", [2])]).headerHash none

/-- Extraction into an empty tree ends well, and the file holds something else than what
opening its name gives. -/
theorem extract_differs_from_openFile :
    (mount (.memory (Image.build [("a", [1]), ("a", [2])]).data) none none).result =
        .ok namesakes ∧
      ∃ later file, (namesakes.extract FileTree.access "out").run (.ofCurrent []) =
          (.ok (), later) ∧
        namesakes.openFile "a" = .ok file ∧ file.contents.result = .ok [1] ∧
        later.lookup ["out", "a"] = some (.file [2]) := by
  let outcome := (namesakes.extract FileTree.access "out").run (.ofCurrent [])
  let first := Image.entry 0 ("a", [1])
  have mounted : (mount namesakes.storage none none).result = .ok namesakes :=
    Image.result_mount_built (by decide) (by decide) (by decide) (by decide)
      (Storage.shows_memory _) none
  have contained := (contained_of_mount mounted).2
  have firstNamed : FirstNamed namesakes.entries "a" first :=
    ⟨rfl, [], _, rfl, List.forall_mem_nil _⟩
  have opened := (contained.openOutcome "a").eq_openEntry firstNamed
  rw [contained.openEntry_eq firstNamed.mem] at opened
  have read : (namesakes.entryStorage first).contents.result.toOption = some [1] := by
    decide +kernel
  have finished : outcome.1.toOption = some () := by decide +kernel
  exact ⟨mounted, outcome.2, _, Prod.ext (toOption_eq_some_iff.mp finished) rfl, opened,
    toOption_eq_some_iff.mp read, by decide +kernel⟩

end Gamecard.FileSystem
