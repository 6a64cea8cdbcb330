import Gamecard.Proofs.Files.Changes
import Gamecard.Session

/-!
# Loading is all or nothing

Keys are loaded from the given path or from the first default place that can be opened, and
from nowhere else.  The pairs of that file are taken over all at once, after the whole file
was read, so a load that fails leaves the keys as they were, wherever the file goes wrong.

A session computes its next keys from the pairs of a file.  Loading may as well be told as
an action that changes keys in place, with an error on the way out at each place where it
can fail, and then it is a fact that nothing was changed before.
-/

namespace Gamecard

/-- What is found at a path with the files of a tree. -/
def FileAccess.opened (files : FileAccess (StateM FileTree)) (tree : FileTree)
    (path : String) : Except IoError Node :=
  ((files.openPath path).run tree).1

theorem FileAccess.Faithful.run_openPath {files : FileAccess (StateM FileTree)}
    (faithful : files.Faithful) (path : String) (tree : FileTree) :
    (files.openPath path).run tree = (files.opened tree path, tree) :=
  Prod.ext rfl (faithful.openPath path tree)

/-- The error in which a result consists, if it is one. -/
def errorOf? {ε α : Type} : Except ε α → Option ε
  | .error error => some error
  | .ok _ => none

theorem eq_error_of_errorOf? {ε α : Type} {result : Except ε α} {error : ε}
    (found : errorOf? result = some error) : result = .error error := by
  cases result with
  | error other =>
      cases found
      rfl
  | ok value => cases found

namespace KeyFile

section InPlace

variable {m : Type → Type} [Monad m] {κ : Type}

/-- What becomes of keys once it is known which pairs there are. -/
def settle (ingestAll : Takeover κ) (fileName : String) (keys : κ) :
    Except Error (Option (List (String × String))) → Except Error Diagnostics × κ
  | .error error => (.error error, keys)
  | .ok pairs =>
    let (later, warnings) := applyPairs ingestAll keys fileName pairs
    (.ok warnings, later)

variable [LawfulMonad m] (ingestAll : Takeover κ) (fileName : String) (keys : κ)

theorem run_readInto (node : Node) :
    (readInto (m := m) ingestAll node).run keys =
      pure (settle ingestAll fileName keys ((pairsOfNode node).map some)) := by
  rw [readInto]
  cases pairsOfNode node with
  | error error => rfl
  | ok pairs => simp [settle, applyPairs, Except.map]

/-- Keys that change in place come to what the pairs of the file make of them. -/
theorem run_loadInto (files : FileAccess m) (environment : Environment)
    (path : Option String) :
    (loadInto ingestAll files environment path fileName).run keys =
      settle ingestAll fileName keys <$> load files environment path fileName := by
  cases path with
  | some path =>
      simp only [loadInto, load, StateT.run_bind, StateT.run_lift, bind_assoc, pure_bind,
        map_bind]
      congr 1
      funext found
      cases found with
      | error error => simp [settle]
      | ok node => simp [run_readInto ingestAll fileName]
  | none =>
      simp only [loadInto, load, StateT.run_bind, StateT.run_lift, bind_assoc, pure_bind,
        map_bind]
      congr 1
      funext found
      cases found with
      | none => simp [settle, applyPairs]
      | some node => simp [run_readInto ingestAll fileName]

end InPlace

section Search

variable (opened : String → Except IoError Node)

def Refused (place : String) : Prop :=
  ∃ error, opened place = .error error

/-- The node comes from one of these places, and the places ahead of it cannot be opened. -/
def FirstOpened (places : List String) (node : Node) : Prop :=
  ∃ before source after, places = before ++ source :: after ∧
    (∀ place ∈ before, Refused opened place) ∧ opened source = .ok node

/-- What is found in places that are tried one after the other. -/
inductive Search (places : List String) : Option Node → Prop where
  | found {node : Node} : FirstOpened opened places node → Search places (some node)
  | nowhere : (∀ place ∈ places, Refused opened place) → Search places none

variable {opened} {place : String} {rest : List String}

theorem firstOpened_head {node : Node} (here : opened place = .ok node) :
    FirstOpened opened (place :: rest) node :=
  ⟨[], place, rest, rfl, fun _ member => absurd member List.not_mem_nil, here⟩

/-- A place that cannot be opened leaves the search to the others. -/
theorem Search.cons {found : Option Node} (refused : Refused opened place)
    (search : Search opened rest found) : Search opened (place :: rest) found := by
  cases search with
  | nowhere all => exact .nowhere (List.forall_mem_cons.mpr ⟨refused, all⟩)
  | found first =>
      obtain ⟨before, source, after, split, ahead, here⟩ := first
      refine .found ⟨place :: before, source, after, ?_, ?_, here⟩
      · rw [split, List.cons_append]
      · exact List.forall_mem_cons.mpr ⟨refused, ahead⟩

end Search

variable {files : FileAccess (StateM FileTree)}

/-- Places are tried until one can be opened, and the tree stays as it is. -/
theorem exists_run_openFirst (faithful : files.Faithful) (places : List String)
    (tree : FileTree) :
    ∃ found, (openFirst files places).run tree = (found, tree) ∧
      Search (files.opened tree) places found := by
  induction places with
  | nil => exact ⟨none, rfl, .nowhere fun _ member => absurd member List.not_mem_nil⟩
  | cons place rest induction =>
      rw [openFirst, Gamecard.run_bind, faithful.run_openPath]
      cases here : files.opened tree place with
      | ok node => exact ⟨some node, rfl, .found (firstOpened_head here)⟩
      | error error =>
          obtain ⟨found, run, search⟩ := induction
          exact ⟨found, run, search.cons ⟨error, here⟩⟩

/-- The places where a key file may be: the given path, or else the default ones. -/
def places (environment : Environment) (fileName : String) : Option String → List String
  | some path => [path]
  | none => environment.defaultPaths fileName

/-- A file of text that has no pair ahead of its first section. -/
def Pairless (node : Node) : Prop :=
  ∃ contents text, node = .file contents ∧ Utf8.decode? contents = some text ∧
    pairsOfText text = .ok []

/-- A file gives no pairs because it has none, or because it is malformed. -/
theorem pairsOfNode_eq_error {node : Node} {error : Error}
    (failed : pairsOfNode node = .error error) :
    (error = .noPairs ∧ Pairless node) ∨ ∃ cause, error = .keyFile cause := by
  cases node with
  | directory =>
      cases failed
      exact .inr ⟨_, rfl⟩
  | file contents =>
      simp only [pairsOfNode, pairs] at failed
      split at failed
      · cases failed
        exact .inr ⟨_, rfl⟩
      next text decoded =>
        split at failed <;> cases failed
        next cause _ => exact .inr ⟨cause, rfl⟩
        next empty => exact .inl ⟨rfl, contents, text, rfl, decoded, empty⟩

/-- The key file that counts has no pairs. -/
def Empty (opened : String → Except IoError Node) (environment : Environment)
    (fileName : String) (path : Option String) : Prop :=
  ∃ node, FirstOpened opened (places environment fileName path) node ∧ Pairless node

/-- What loading comes to, and the keys that it leaves.  Either the given path cannot be
opened, or the file is no key file, or its pairs are taken over, or there is no file. -/
inductive Loaded {κ : Type} (ingestAll : Takeover κ) (opened : String → Except IoError Node)
    (environment : Environment) (fileName : String) (path : Option String) (keys : κ) :
    Except Error Diagnostics → κ → Prop where
  | unopened {given : String} {error : IoError} : path = some given →
      opened given = .error error →
      Loaded ingestAll opened environment fileName path keys (.error (.file given error)) keys
  | malformed {node : Node} {cause : KeyFileError} :
      FirstOpened opened (places environment fileName path) node →
      pairsOfNode node = .error (.keyFile cause) →
      Loaded ingestAll opened environment fileName path keys (.error (.keyFile cause)) keys
  /-- A file without any pair is the end of the program. -/
  | noPairs : Empty opened environment fileName path →
      Loaded ingestAll opened environment fileName path keys (.error .noPairs) keys
  | applied {node : Node} {pairs : List (String × String)} :
      FirstOpened opened (places environment fileName path) node →
      pairsOfNode node = .ok pairs →
      Loaded ingestAll opened environment fileName path keys
        (.ok (ingestAll keys pairs).2) (ingestAll keys pairs).1
  | missing : path = none → (∀ place ∈ environment.defaultPaths fileName, Refused opened place) →
      Loaded ingestAll opened environment fileName path keys
        (.ok [.keyFileNotFound fileName]) keys

namespace Loaded

variable {κ : Type} {ingestAll : Takeover κ} {opened : String → Except IoError Node}
  {environment : Environment} {fileName : String} {path : Option String} {keys : κ}

theorem of_firstOpened {node : Node}
    (first : FirstOpened opened (places environment fileName path) node) :
    Loaded ingestAll opened environment fileName path keys
      (settle ingestAll fileName keys ((pairsOfNode node).map some)).1
      (settle ingestAll fileName keys ((pairsOfNode node).map some)).2 := by
  cases parsed : pairsOfNode node with
  | ok pairs => exact .applied first parsed
  | error error =>
      rcases pairsOfNode_eq_error parsed with ⟨same, pairless⟩ | ⟨cause, same⟩ <;> subst same
      · exact .noPairs ⟨node, first, pairless⟩
      · exact .malformed first parsed

/-- A load that fails leaves the keys as they were. -/
theorem eq_of_error {result : Except Error Diagnostics} {later : κ}
    (loaded : Loaded ingestAll opened environment fileName path keys result later)
    {error : Error} (failed : result = .error error) : later = keys := by
  cases loaded with
  | applied => cases failed
  | unopened | malformed | noPairs | missing => rfl

theorem empty {result : Except Error Diagnostics} {later : κ}
    (loaded : Loaded ingestAll opened environment fileName path keys result later)
    (failed : result = .error .noPairs) : Empty opened environment fileName path := by
  cases loaded with
  | noPairs empty => exact empty
  | unopened | malformed | applied | missing => cases failed

end Loaded

/-- Loading keys in place, with the files of a tree: the tree stays as it is, and either all
of one file is taken over or nothing changes. -/
structure AllOrNothing {κ : Type} (ingestAll : Takeover κ)
    (files : FileAccess (StateM FileTree)) (environment : Environment) (fileName : String)
    (path : Option String) (keys : κ) (tree : FileTree)
    (ended : (Except Error Diagnostics × κ) × FileTree) : Prop where
  unchanged : ended.2 = tree
  loaded : Loaded ingestAll (files.opened tree) environment fileName path keys
    ended.1.1 ended.1.2
  refused : ∀ error, ended.1.1 = .error error → ended.1.2 = keys

/-- Whatever becomes of a load, its result and the keys come from one search for a file. -/
theorem exists_run_load (faithful : files.Faithful) {κ : Type} (ingestAll : Takeover κ)
    (environment : Environment) (fileName : String) (path : Option String) (keys : κ)
    (tree : FileTree) :
    ∃ parsed, (load files environment path fileName).run tree = (parsed, tree) ∧
      Loaded ingestAll (files.opened tree) environment fileName path keys
        (settle ingestAll fileName keys parsed).1 (settle ingestAll fileName keys parsed).2 := by
  cases path with
  | some path =>
      simp only [load, Gamecard.run_bind, faithful.run_openPath]
      cases here : files.opened tree path with
      | error error => exact ⟨_, rfl, .unopened rfl here⟩
      | ok node => exact ⟨_, rfl, .of_firstOpened (firstOpened_head here)⟩
  | none =>
      obtain ⟨found, run, search⟩ :=
        exists_run_openFirst faithful (environment.defaultPaths fileName) tree
      simp only [load, Gamecard.run_bind, run]
      cases search with
      | found first => exact ⟨_, rfl, .of_firstOpened first⟩
      | nowhere all => exact ⟨_, rfl, .missing rfl all⟩

theorem allOrNothing_loadInto (faithful : files.Faithful) {κ : Type} (ingestAll : Takeover κ)
    (environment : Environment) (fileName : String) (path : Option String) (keys : κ)
    (tree : FileTree) :
    AllOrNothing ingestAll files environment fileName path keys tree
      (((loadInto ingestAll files environment path fileName).run keys).run tree) := by
  obtain ⟨parsed, run, loaded⟩ :=
    exists_run_load faithful ingestAll environment fileName path keys tree
  have ended : ((loadInto ingestAll files environment path fileName).run keys).run tree =
      (settle ingestAll fileName keys parsed, tree) := by
    rw [run_loadInto, StateT.run_map, run]
    rfl
  rw [ended]
  exact ⟨rfl, loaded, fun _ failed => loaded.eq_of_error failed⟩

end KeyFile

namespace Session

section Loads

variable {m : Type → Type} [Monad m]

/-- A session that goes on with the store that a load left, unless the load failed. -/
def withStore (session : Session) :
    Except Error Diagnostics × Store → Except Error (Session × Diagnostics)
  | (result, store) => result.map fun warnings => ({ session with store }, warnings)

def withTitleKeys (session : Session) :
    Except Error Diagnostics × TitleKeys → Except Error (Session × Diagnostics)
  | (result, titleKeys) => result.map fun warnings => ({ session with titleKeys }, warnings)

theorem eq_error_of_withStore {session : Session} {error : Error}
    {loaded : Except Error Diagnostics × Store} (failed : session.withStore loaded = .error error) :
    loaded.1 = .error error := by
  rcases loaded with ⟨result | warnings, store⟩
  · cases failed
    rfl
  · cases failed

theorem eq_error_of_withTitleKeys {session : Session} {error : Error}
    {loaded : Except Error Diagnostics × TitleKeys}
    (failed : session.withTitleKeys loaded = .error error) : loaded.1 = .error error := by
  rcases loaded with ⟨result | warnings, titleKeys⟩
  · cases failed
    rfl
  · cases failed

variable [LawfulMonad m]

theorem loadKeys_eq (session : Session) (files : FileAccess m) (environment : Environment)
    (path : Option String) :
    session.loadKeys files environment path =
      session.withStore <$> session.loadStore files environment path := by
  rw [loadStore, KeyFile.run_loadInto, Functor.map_map, map_eq_pure_bind, loadKeys]
  congr 1
  funext parsed
  cases parsed with
  | error error => rfl
  | ok pairs => rfl

theorem loadTitleKeys_eq (session : Session) (files : FileAccess m) (environment : Environment)
    (path : Option String) :
    session.loadTitleKeys files environment path =
      session.withTitleKeys <$> session.loadTitles files environment path := by
  rw [loadTitles, KeyFile.run_loadInto, Functor.map_map, map_eq_pure_bind, loadTitleKeys]
  congr 1
  funext parsed
  cases parsed with
  | error error => rfl
  | ok pairs => rfl

end Loads

/-- A session loads keys and title keys in place, and each load takes over the whole of one
file or nothing. -/
theorem loads_allOrNothing {files : FileAccess (StateM FileTree)} (faithful : files.Faithful)
    (session : Session) (environment : Environment) (path : Option String) (tree : FileTree) :
    (session.loadKeys files environment path =
        session.withStore <$> session.loadStore files environment path ∧
      KeyFile.AllOrNothing Store.ingestAll files environment (KeyFile.keysName session.isDev)
        path session.store tree ((session.loadStore files environment path).run tree)) ∧
    (session.loadTitleKeys files environment path =
        session.withTitleKeys <$> session.loadTitles files environment path ∧
      KeyFile.AllOrNothing TitleKeys.ingestAll files environment KeyFile.titleKeysName
        path session.titleKeys tree ((session.loadTitles files environment path).run tree)) :=
  ⟨⟨loadKeys_eq session files environment path,
      KeyFile.allOrNothing_loadInto faithful _ _ _ _ _ _⟩,
    ⟨loadTitleKeys_eq session files environment path,
      KeyFile.allOrNothing_loadInto faithful _ _ _ _ _ _⟩⟩

/-- A user's home, with the configuration in it. -/
def plainHome : Environment :=
  .ofVariables (some "home") none

/-- A tree with a title key file in each default place, the first one broken off after a
pair. -/
def brokenFirst : FileTree where
  nodes := [(["home"], .directory), (["home", ".config"], .directory),
    (["home", ".config", "switch"], .directory),
    (["home", ".config", "switch", "title.keys"], .file (Utf8.encode "a=1\nb")),
    (["home", ".switch"], .directory),
    (["home", ".switch", "title.keys"], .file (Utf8.encode "a=1"))]
  current := []

/-- The pair ahead of the break is not taken over, and neither is the file in the second
place. -/
theorem loads_allOrNothing_brokenFirst :
    FileTree.access.Faithful ∧
      ((new false).loadTitles FileTree.access plainHome none brokenFirst).1.1 =
        .error (.keyFile (.malformed 1 1 (.unterminated .assignment))) ∧
      ((new false).loadTitles FileTree.access plainHome none brokenFirst).1.2 =
        (new false).titleKeys := by
  have failed : ((new false).loadTitles FileTree.access plainHome none brokenFirst).1.1 =
      .error (.keyFile (.malformed 1 1 (.unterminated .assignment))) :=
    eq_error_of_errorOf? (by decide +kernel)
  obtain ⟨_, loads⟩ :=
    loads_allOrNothing FileTree.faithful_access (new false) plainHome none brokenFirst
  exact ⟨FileTree.faithful_access, failed, loads.2.refused _ failed⟩

end Session

end Gamecard
