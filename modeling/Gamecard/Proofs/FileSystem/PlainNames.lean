import Gamecard.Proofs.FileSystem.Confinement
import Gamecard.Proofs.FileSystem.Copying
import Gamecard.Proofs.FileSystem.RoundTrip

/-!
# Names that stop an extraction

A name is unfit to be made in a directory if it is empty, one of the two dots, or has
a slash in it.  The check finds all unfit names but those that continue a plain name
with a slash behind which nothing leads anywhere.  A name that it finds stops the
extraction before anything is done.  An unfit name that it lets pass makes the
extraction fail as well, but only when the turn of its file comes.
-/

namespace Gamecard

namespace Path

/-- The name is not one that a directory can have something under. -/
def Unfit (name : String) : Prop :=
  name = "" ∨ name = "." ∨ name = ".." ∨ '/' ∈ name.toList

theorem plain_iff_not_unfit {name : String} : Plain name ↔ ¬Unfit name := by
  constructor
  · intro plain unfit
    rcases unfit with empty | dot | parent | slash
    · exact plain.ne_empty empty
    · exact plain.ne_dot dot
    · exact plain.notParent parent
    · exact plain.noSlash slash
  · intro fit
    simp only [Unfit, not_or] at fit
    obtain ⟨notEmpty, notDot, notParent, noSlash⟩ := fit
    exact ⟨by simp [isBlank, notEmpty, notDot], notParent, noSlash⟩

theorem isPlainName_of_not_unfit {name : String} (fit : ¬Unfit name) :
    isPlainName name = true :=
  isPlainName_iff.mpr ⟨name, [], (plain_iff_not_unfit.mpr fit).before⟩

/-- The unfit names that are let pass have a slash behind a plain name. -/
theorem isPlainName_iff_of_unfit {name : String} (unfit : Unfit name) :
    isPlainName name = true ↔ ∃ text rest, PlainBefore text rest name ∧ rest ≠ [] := by
  rw [isPlainName_iff]
  constructor
  · intro ⟨text, rest, before⟩
    refine ⟨text, rest, before, ?_⟩
    intro nothing
    subst nothing
    have same : name = text := by
      rw [← intercalate_segments name, before.segments_eq, String.intercalate_singleton]
    rw [same] at unfit
    exact plain_iff_not_unfit.mp before.plain unfit
  · intro ⟨text, rest, before, _⟩
    exact ⟨text, rest, before⟩

end Path

namespace FileSystem

/-- The first entry whose name is refused. -/
structure FirstRefused (entries : List Entry) (entry : Entry) : Prop where
  refused : Path.isPlainName entry.name = false
  first : ∃ before after, entries = before ++ entry :: after ∧
    ∀ earlier ∈ before, Path.isPlainName earlier.name = true

theorem firstRefused?_eq_some_iff {fileSystem : FileSystem} {entry : Entry} :
    fileSystem.firstRefused? = some entry ↔ FirstRefused fileSystem.entries entry := by
  simp only [firstRefused?, List.find?_eq_some_iff_append, Bool.not_not, Bool.not_eq_eq_eq_not,
    Bool.not_true]
  constructor
  · intro found
    exact ⟨found.1, found.2⟩
  · intro first
    exact ⟨first.refused, first.first⟩

variable {fileSystem : FileSystem}

/-- Nothing at all is done, whatever the files are. -/
theorem extract_of_firstRefused {entry : Entry}
    (refused : FirstRefused fileSystem.entries entry) {m : Type → Type} [Monad m]
    (files : FileAccess m) (directory : String) :
    fileSystem.extract files directory = pure (.error (.unsafeFileName entry.name)) := by
  simp only [extract, firstRefused?_eq_some_iff.mpr refused]

theorem extract_ne_unsafeFileName
    (accepted : ∀ entry ∈ fileSystem.entries, Path.isPlainName entry.name = true)
    (files : FileAccess (StateM FileTree)) (directory name : String) (tree : FileTree) :
    ((fileSystem.extract files directory).run tree).1 ≠ .error (.unsafeFileName name) := by
  unfold extract
  split
  next entry found =>
    have refused := List.find?_some found
    simp [accepted entry (List.mem_of_find?_eq_some found)] at refused
  next =>
    rw [run_bind]
    split
    · intro same
      cases same
    · exact copyEntries_ne_unsafeFileName _ name

theorem Copied.plain {directory : String} {remaining : List Entry} {tree later : FileTree}
    (copied : Copied fileSystem directory remaining tree later) :
    ∀ entry ∈ remaining, Path.Plain entry.name := by
  induction copied with
  | nil => exact List.forall_mem_nil _
  | cons opened copies rest induction => exact List.forall_mem_cons.mpr ⟨copies.plain, induction⟩

/-- What the names alone make of an extraction: the first one that is refused ends it
before anything is done, and with an unfit one that is not refused it fails otherwise. -/
theorem extract_of_unfit (fileSystem : FileSystem) :
    (∀ name, ¬Path.Unfit name → Path.isPlainName name = true) ∧
      (∀ name, Path.Unfit name → (Path.isPlainName name = true ↔
        ∃ text rest, Path.PlainBefore text rest name ∧ rest ≠ [])) ∧
      (∀ entry, FirstRefused fileSystem.entries entry →
        ∀ {m : Type → Type} [Monad m] (files : FileAccess m) (directory : String),
          fileSystem.extract files directory = pure (.error (.unsafeFileName entry.name))) ∧
      ((∀ entry ∈ fileSystem.entries, Path.isPlainName entry.name = true) →
        (∃ entry ∈ fileSystem.entries, Path.Unfit entry.name) → ∀ directory tree,
          ∃ error, ((fileSystem.extract FileTree.access directory).run tree).1 = .error error ∧
            ∀ name, error ≠ .unsafeFileName name) := by
  refine ⟨fun _ => Path.isPlainName_of_not_unfit, fun _ => Path.isPlainName_iff_of_unfit,
    fun _ refused _ _ => extract_of_firstRefused refused, ?_⟩
  intro accepted ⟨entry, member, unfit⟩ directory tree
  cases outcome : ((fileSystem.extract FileTree.access directory).run tree).1 with
  | error error =>
      refine ⟨error, rfl, ?_⟩
      intro name same
      subst same
      exact extract_ne_unsafeFileName accepted FileTree.access directory name tree outcome
  | ok finished =>
      obtain ⟨middle, _, copied⟩ := extract_eq_ok (Prod.ext outcome rfl)
      exact absurd unfit (Path.plain_iff_not_unfit.mp (copied.plain entry member))

/-- Empty files of these names. -/
def named (names : List String) : FileSystem where
  storage := .memory []
  entries := names.map fun name => ⟨name, 0, 0, 0, Sha256.digest []⟩
  dataOffset := 0
  headerHash := Sha256.digest []

theorem extract_of_unfit_slashes :
    (∀ {m : Type → Type} [Monad m] (files : FileAccess m) (directory : String),
        (named ["f", "a/", "../g"]).extract files directory =
          pure (.error (.unsafeFileName "../g"))) ∧
      ∀ directory tree, ∃ error,
        (((named ["f", "a/"]).extract FileTree.access directory).run tree).1 = .error error ∧
          ∀ name, error ≠ .unsafeFileName name := by
  obtain ⟨_, _, refuses, _⟩ := extract_of_unfit (named ["f", "a/", "../g"])
  obtain ⟨_, _, _, fails⟩ := extract_of_unfit (named ["f", "a/"])
  constructor
  · intro m _ files directory
    apply refuses ⟨"../g", 0, 0, 0, Sha256.digest []⟩
    exact ⟨by decide +kernel, (named ["f", "a/"]).entries, [], rfl, by decide +kernel⟩
  · apply fails
    · decide +kernel
    · exact ⟨⟨"a/", 0, 0, 0, Sha256.digest []⟩, by simp [named], by simp [Path.Unfit]⟩

/-- A mounted file system with an unfit name whose extraction makes the directory and the
file before. -/
theorem extract_writes_despite_slash :
    ∃ fileSystem, (mount (.memory (Image.build [("f", [1]), ("a/", [2])]).data) none none).result =
        .ok fileSystem ∧
      (∃ entry ∈ fileSystem.entries, Path.Unfit entry.name) ∧
      ((fileSystem.extract FileTree.access "out").run (.ofCurrent [])).2.nodes =
        [(["out", "f"], .file [1]), (["out"], .directory)] ∧
      ∀ name, ((fileSystem.extract FileTree.access "out").run (.ofCurrent [])).1 ≠
        .error (.unsafeFileName name) := by
  have mounted := Image.result_mount_built (by decide) (by decide) (by decide) (by decide)
    (Storage.shows_memory (Image.build [("f", [1]), ("a/", [2])]).data) none
  refine ⟨_, mounted, ⟨Image.entry 1 ("a/", [2]), by simp [Image.entries], ?_⟩, ?_, ?_⟩
  · simp [Path.Unfit, Image.entry]
  · decide +kernel
  · intro name
    exact extract_ne_unsafeFileName (by decide +kernel) _ _ name _

end FileSystem

end Gamecard
