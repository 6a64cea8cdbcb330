import Gamecard.CommandLine
import Gamecard.Proofs.Card.Opening
import Gamecard.Proofs.FileSystem.PlainNames
import Gamecard.Proofs.Key.Loading

/-!
# What the command line refuses

A run asks its questions before it does anything: whether keys and title keys load, whether
the card opens, whether the partition is mounted, and whether all names in it are plain.
The first one that is answered with no ends the run, and files are as they were.  They change
only if the run is an extraction and there is no such question left.

Opening a card fails for one reason only, that something could not be read, and this is
always reported as an error of the file of the card.
-/

namespace Gamecard

namespace Access

variable {ε δ α β : Type} {kind : ε → Prop}

/-- The operation fails with errors of this kind only. -/
def FailsWith (kind : ε → Prop) (access : Access ε α) : Prop :=
  ∀ error, access.result = .error error → kind error

theorem failsWith_of_result_eq_ok {access : Access ε α} {value : α}
    (given : access.result = .ok value) : access.FailsWith kind := by
  intro error failed
  rw [given] at failed
  cases failed

theorem failsWith_pure (value : α) : FailsWith kind (pure value : Access ε α) :=
  failsWith_of_result_eq_ok (result_pure value)

theorem failsWith_mapError (change : δ → ε) (access : Access δ α)
    (each : ∀ error, kind (change error)) : (access.mapError change).FailsWith kind := by
  intro error failed
  rw [result_mapError] at failed
  cases result : access.result with
  | error cause =>
      rw [result] at failed
      cases failed
      exact each cause
  | ok value =>
      rw [result] at failed
      cases failed

theorem FailsWith.bind {access : Access ε α} {next : α → Access ε β}
    (first : access.FailsWith kind)
    (later : ∀ value, access.result = .ok value → (next value).FailsWith kind) :
    (access >>= next).FailsWith kind := by
  intro error failed
  rw [result_bind] at failed
  cases result : access.result with
  | error cause =>
      rw [result] at failed
      cases failed
      exact first error result
  | ok value =>
      rw [result] at failed
      exact later value result error failed

end Access

/-- The error is that of a storage that could not be read. -/
def Error.OfStorage (error : Error) : Prop :=
  ∃ cause, error = .storage cause

section Opening

open Access (failsWith_pure failsWith_mapError failsWith_of_result_eq_ok)

theorem failsWith_storage {α : Type} (access : Access IoError α) :
    (access.mapError Error.storage).FailsWith Error.OfStorage :=
  failsWith_mapError Error.storage access fun cause => ⟨cause, rfl⟩

/-- An image with room for a key area can be cut behind it. -/
theorem SplitImage.failsWith_ofImage (image : Storage) :
    (SplitImage.ofImage image).FailsWith Error.OfStorage := by
  rw [SplitImage.ofImage]
  split
  · exact failsWith_pure _
  next long =>
    have room : SplitImage.keyAreaSize ≤ image.size := Nat.not_lt.mp long
    have front : image.window? 0 SplitImage.keyAreaSize =
        .ok (.window image 0 SplitImage.keyAreaSize) := by
      rw [Storage.window?, if_pos (by omega)]
    have rest := Storage.tail?_eq_ok_iff.mpr ⟨room, rfl⟩
    apply (failsWith_storage _).bind
    intro bytes _
    split
    · rw [front, rest]
      exact failsWith_pure _
    · exact failsWith_pure _

theorem Card.failsWith_readInitialData (keyArea : Option Storage) :
    (Card.readInitialData keyArea).FailsWith Error.OfStorage := by
  cases keyArea with
  | none => exact failsWith_pure none
  | some keyArea => exact (failsWith_storage _).bind fun _ _ => failsWith_pure _

theorem Card.failsWith_mountRoot (body : Storage) (header : Header) :
    (Card.mountRoot body header).FailsWith Error.OfStorage := by
  obtain ⟨root, warnings, mounted, _⟩ := Card.result_mountRoot body header
  exact failsWith_of_result_eq_ok mounted

theorem Card.failsWith_gatherPartitions (root : Partition) :
    (Card.gatherPartitions root).FailsWith Error.OfStorage := by
  obtain ⟨partitions, warnings, gathered⟩ := Card.exists_result_gatherPartitions root
  exact failsWith_of_result_eq_ok gathered

/-- What cannot be read is all that keeps a card from being opened. -/
theorem Card.failsWith_ofImage (image : Storage) (cipher : HeaderCipher) :
    (Card.ofImage image cipher).FailsWith Error.OfStorage := by
  unfold Card.ofImage
  apply (SplitImage.failsWith_ofImage image).bind
  intro parts _
  apply (Card.failsWith_readInitialData parts.keyArea).bind
  intro initialData _
  apply (failsWith_storage _).bind
  intro bytes _
  apply (failsWith_storage _).bind
  intro certificate _
  apply (Card.failsWith_mountRoot parts.body _).bind
  intro rootMounted _
  apply (Card.failsWith_gatherPartitions rootMounted.1).bind
  intro gathered _
  exact failsWith_pure _

theorem Session.failsWith_openImage (session : Session) (image : Storage) :
    (session.openImage image).FailsWith Error.OfStorage :=
  Card.failsWith_ofImage image _

end Opening

/-- The action leaves every tree as it is. -/
def Keeps {α : Type} (action : StateM FileTree α) : Prop :=
  ∀ tree, (action.run tree).2 = tree

section Keeps

variable {α β : Type}

theorem keeps_pure (value : α) : Keeps (pure value : StateM FileTree α) :=
  fun _ => rfl

theorem Keeps.bind {action : StateM FileTree α} {next : α → StateM FileTree β}
    (first : Keeps action) (later : ∀ value, Keeps (next value)) : Keeps (action >>= next) := by
  intro tree
  rw [run_bind, later, first]

/-- What an action that keeps the tree came to decides how to go on, with the same tree. -/
theorem Keeps.run_bind {action : StateM FileTree α} (keeps : Keeps action) {tree : FileTree}
    {value : α} (came : (action.run tree).1 = value) (next : α → StateM FileTree β) :
    (action >>= next).run tree = (next value).run tree := by
  rw [Gamecard.run_bind, came, keeps]

end Keeps

section Asking

variable {files : FileAccess (StateM FileTree)} (faithful : files.Faithful)
include faithful

theorem Session.keeps_loadKeys (session : Session) (environment : Environment)
    (path : Option String) : Keeps (session.loadKeys files environment path) := by
  intro tree
  rw [Session.loadKeys_eq, StateT.run_map]
  exact (KeyFile.allOrNothing_loadInto faithful Store.ingestAll environment _ path
    session.store tree).unchanged

theorem Session.keeps_loadTitleKeys (session : Session) (environment : Environment)
    (path : Option String) : Keeps (session.loadTitleKeys files environment path) := by
  intro tree
  rw [Session.loadTitleKeys_eq, StateT.run_map]
  exact (KeyFile.allOrNothing_loadInto faithful TitleKeys.ingestAll environment _ path
    session.titleKeys tree).unchanged

theorem Session.keeps_openPath (session : Session) (path : String) :
    Keeps (session.openPath files path) := by
  apply Keeps.bind
  · exact Keeps.bind (faithful.openPath path) fun _ => keeps_pure _
  · intro opened
    cases opened with
    | error error => exact keeps_pure _
    | ok image => exact keeps_pure _

end Asking

/-- The image that a command opens. -/
def Command.image? : Command → Option String
  | .keys => none
  | .info image => some image
  | .extract image _ _ => some image

namespace CommandLine

section Questions

variable (files : FileAccess (StateM FileTree)) (environment : Environment) (options : Options)
  (tree : FileTree)

/-- Loading the keys fails, or loading the title keys after them. -/
inductive LoadingFails : Error → Prop where
  | keys {error : Error} :
      (((Session.new options.isDev).loadKeys files environment options.keys).run tree).1 =
        .error error →
      LoadingFails error
  | titleKeys {session : Session} {warnings : Diagnostics} {error : Error} :
      (((Session.new options.isDev).loadKeys files environment options.keys).run tree).1 =
        .ok (session, warnings) →
      ((session.loadTitleKeys files environment options.titleKeys).run tree).1 = .error error →
      LoadingFails error

/-- The session in which the command is carried out, once all keys are loaded. -/
inductive Prepared : Session → Prop where
  | loaded {session next : Session} {warnings titleWarnings : Diagnostics} :
      (((Session.new options.isDev).loadKeys files environment options.keys).run tree).1 =
        .ok (session, warnings) →
      ((session.loadTitleKeys files environment options.titleKeys).run tree).1 =
        .ok (next, titleWarnings) →
      Prepared next.preset.1

/-- The reason for which an extraction is refused. -/
inductive Refused (image : String) (partition : PartitionKind) : Error → Prop where
  | loading {error : Error} : LoadingFails files environment options tree error →
      Refused image partition error
  | opening {session : Session} {error : Error} :
      Prepared files environment options tree session →
      ((session.openPath files image).run tree).1 = .error error →
      Refused image partition (error.inFile image)
  | unmounted {session : Session} {card : Card} :
      Prepared files environment options tree session →
      ((session.openPath files image).run tree).1 = .ok card →
      (card.partition partition).fileSystem = none →
      Refused image partition (.partitionNotMounted partition)
  | name {session : Session} {card : Card} {fileSystem : FileSystem} {entry : Entry} :
      Prepared files environment options tree session →
      ((session.openPath files image).run tree).1 = .ok card →
      (card.partition partition).fileSystem = some fileSystem →
      FileSystem.FirstRefused fileSystem.entries entry →
      Refused image partition (.unsafeFileName entry.name)

/-- Nothing stands against an extraction. -/
inductive Accepted (image : String) (partition : PartitionKind) : Prop where
  | plain {session : Session} {card : Card} {fileSystem : FileSystem} :
      Prepared files environment options tree session →
      ((session.openPath files image).run tree).1 = .ok card →
      (card.partition partition).fileSystem = some fileSystem →
      (∀ entry ∈ fileSystem.entries, Path.isPlainName entry.name = true) →
      Accepted image partition

end Questions

variable {files : FileAccess (StateM FileTree)} {environment : Environment} {options : Options}
  {tree : FileTree} {session : Session} {image : String} {partition : PartitionKind}
  {error : Error}

section Loading

theorem loadingFails_or_prepared (files : FileAccess (StateM FileTree))
    (environment : Environment) (options : Options) (tree : FileTree) :
    (∃ error, LoadingFails files environment options tree error) ∨
      ∃ session, Prepared files environment options tree session := by
  cases keys : (((Session.new options.isDev).loadKeys files environment
      options.keys).run tree).1 with
  | error error => exact .inl ⟨error, .keys keys⟩
  | ok loaded =>
      cases titleKeys : ((loaded.1.loadTitleKeys files environment
          options.titleKeys).run tree).1 with
      | error error => exact .inl ⟨error, .titleKeys keys titleKeys⟩
      | ok all => exact .inr ⟨_, .loaded keys titleKeys⟩

theorem run_prepare_of_loadingFails (faithful : files.Faithful)
    (fails : LoadingFails files environment options tree error) :
    (prepare files environment options).run tree = (.error error, tree) := by
  rw [prepare]
  cases fails with
  | keys failed =>
      rw [(Session.keeps_loadKeys faithful _ _ _).run_bind failed]
      rfl
  | titleKeys loaded failed =>
      rw [(Session.keeps_loadKeys faithful _ _ _).run_bind loaded]
      simp only
      rw [(Session.keeps_loadTitleKeys faithful _ _ _).run_bind failed]
      rfl

theorem run_prepare_of_prepared (faithful : files.Faithful)
    (prepared : Prepared files environment options tree session) :
    (prepare files environment options).run tree = (.ok session, tree) := by
  rw [prepare]
  cases prepared with
  | loaded keys titleKeys =>
      rw [(Session.keeps_loadKeys faithful _ _ _).run_bind keys]
      simp only
      rw [(Session.keeps_loadTitleKeys faithful _ _ _).run_bind titleKeys]
      rfl

end Loading

/-- Loading is cut short for one reason only, a key file without pairs. -/
theorem empty_of_loadingFails (faithful : files.Faithful)
    (fails : LoadingFails files environment options tree .noPairs) :
    KeyFile.Empty (files.opened tree) environment (KeyFile.keysName options.isDev)
        options.keys ∨
      KeyFile.Empty (files.opened tree) environment KeyFile.titleKeysName
        options.titleKeys := by
  cases fails with
  | keys failed =>
      rw [Session.loadKeys_eq, StateT.run_map] at failed
      have loaded := (KeyFile.allOrNothing_loadInto faithful Store.ingestAll environment
        (KeyFile.keysName options.isDev) options.keys Store.empty tree).loaded
      exact .inl (loaded.empty (Session.eq_error_of_withStore failed))
  | @titleKeys session _ _ _ failed =>
      rw [Session.loadTitleKeys_eq, StateT.run_map] at failed
      have loaded := (KeyFile.allOrNothing_loadInto faithful TitleKeys.ingestAll environment
        KeyFile.titleKeysName options.titleKeys session.titleKeys tree).loaded
      exact .inr (loaded.empty (Session.eq_error_of_withTitleKeys failed))

/-- What keeps a card from being opened is told of its file. -/
theorem inFile_of_openPath (failed : ((session.openPath files image).run tree).1 = .error error) :
    ∃ cause, error.inFile image = .file image cause := by
  rw [Session.openPath, run_bind] at failed
  split at failed
  next cause _ =>
    cases failed
    exact ⟨cause, rfl⟩
  next storage _ =>
    obtain ⟨cause, same⟩ := session.failsWith_openImage storage error failed
    rw [same]
    exact ⟨cause, rfl⟩

theorem Refused.loadingFails
    (refused : Refused files environment options tree image partition error)
    (fatal : error = .noPairs) : LoadingFails files environment options tree error := by
  cases refused with
  | loading fails => exact fails
  | opening _ failed =>
      obtain ⟨cause, same⟩ := inFile_of_openPath failed
      rw [same] at fatal
      cases fatal
  | unmounted | name => cases fatal

/-- An extraction for which there is no reason to refuse it is accepted. -/
theorem refused_or_accepted (files : FileAccess (StateM FileTree)) (environment : Environment)
    (options : Options) (tree : FileTree) (image : String) (partition : PartitionKind) :
    (∃ error, Refused files environment options tree image partition error) ∨
      Accepted files environment options tree image partition := by
  rcases loadingFails_or_prepared files environment options tree with
    ⟨error, fails⟩ | ⟨session, prepared⟩
  · exact .inl ⟨error, .loading fails⟩
  cases opened : ((session.openPath files image).run tree).1 with
  | error error => exact .inl ⟨_, .opening prepared opened⟩
  | ok card =>
      cases mounted : (card.partition partition).fileSystem with
      | none => exact .inl ⟨_, .unmounted prepared opened mounted⟩
      | some fileSystem =>
          cases found : fileSystem.firstRefused? with
          | some entry =>
              exact .inl ⟨_, .name prepared opened mounted
                (FileSystem.firstRefused?_eq_some_iff.mp found)⟩
          | none =>
              exact .inr (.plain prepared opened mounted
                (FileSystem.firstRefused?_eq_none_iff.mp found))

section Running

variable (faithful : files.Faithful)
include faithful

theorem keeps_openCard (session : Session) (image : String) :
    Keeps (openCard session files image) :=
  (Session.keeps_openPath faithful session image).bind fun _ => keeps_pure _

theorem run_openCard_of_error
    (failed : ((session.openPath files image).run tree).1 = .error error) :
    (openCard session files image).run tree = (.error (error.inFile image), tree) := by
  rw [openCard, (Session.keeps_openPath faithful session image).run_bind failed]
  rfl

theorem run_openCard_of_ok {card : Card}
    (opened : ((session.openPath files image).run tree).1 = .ok card) :
    (openCard session files image).run tree = (.ok card, tree) := by
  rw [openCard, (Session.keeps_openPath faithful session image).run_bind opened]
  rfl

theorem keeps_prepare (environment : Environment) (options : Options) :
    Keeps (prepare files environment options) := by
  intro tree
  rcases loadingFails_or_prepared files environment options tree with
    ⟨error, fails⟩ | ⟨session, prepared⟩
  · rw [run_prepare_of_loadingFails faithful fails]
  · rw [run_prepare_of_prepared faithful prepared]

theorem run_invoke_of_loadingFails (fails : LoadingFails files environment options tree error)
    (command : Command) :
    (invoke files environment ⟨options, command⟩).run tree = (.failure error, tree) := by
  rw [invoke, run_bind, run_prepare_of_loadingFails faithful fails]
  rfl

theorem run_invoke_of_prepared (prepared : Prepared files environment options tree session)
    (command : Command) :
    (invoke files environment ⟨options, command⟩).run tree =
      (perform session files command).run tree := by
  rw [invoke, run_bind, run_prepare_of_prepared faithful prepared]

theorem run_perform_of_unopened {command : Command} (opens : command.image? = some image)
    (failed : ((session.openPath files image).run tree).1 = .error error) :
    (perform session files command).run tree = (.failure (error.inFile image), tree) := by
  cases command with
  | keys => cases opens
  | info | extract =>
      cases opens
      rw [perform, run_bind, run_openCard_of_error faithful failed]
      rfl

theorem keeps_perform_info (image : String) (session : Session) :
    Keeps (perform session files (.info image)) := by
  apply (keeps_openCard faithful session image).bind
  intro opened
  cases opened with
  | error error => exact keeps_pure _
  | ok card => exact keeps_pure _

/-- The keys are only loaded, and the card is only read. -/
theorem keeps_invoke {command : Command}
    (keeps : ∀ session, Keeps (perform session files command)) :
    Keeps (invoke files environment ⟨options, command⟩) := by
  apply (keeps_prepare faithful environment options).bind
  intro prepared
  cases prepared with
  | error error => exact keeps_pure _
  | ok session => exact keeps session

theorem run_invoke_of_refused
    (refused : Refused files environment options tree image partition error)
    (directory : String) :
    (invoke files environment ⟨options, .extract image partition directory⟩).run tree =
      (.failure error, tree) := by
  cases refused with
  | loading fails => exact run_invoke_of_loadingFails faithful fails _
  | opening prepared failed =>
      rw [run_invoke_of_prepared faithful prepared, run_perform_of_unopened faithful rfl failed]
  | unmounted prepared opened mountless =>
      rw [run_invoke_of_prepared faithful prepared, perform, run_bind,
        run_openCard_of_ok faithful opened]
      simp only [Card.mounted, mountless]
      rfl
  | name prepared opened mounted first =>
      rw [run_invoke_of_prepared faithful prepared, perform, run_bind,
        run_openCard_of_ok faithful opened]
      simp only [Card.mounted, mounted, FileSystem.extract_of_firstRefused first]
      rfl

end Running

theorem exitCode_failure (orderly : error ≠ .noPairs) : (Outcome.failure error).exitCode = 1 := by
  cases error with
  | noPairs => exact absurd rfl orderly
  | _ => rfl

/-- How a run ends that was called with this invocation. -/
structure Cautious (files : FileAccess (StateM FileTree)) (environment : Environment)
    (invocation : Invocation) (tree : FileTree) (ended : Outcome × FileTree) : Prop where
  keys : invocation.command = .keys → ended.2 = tree
  info : ∀ image, invocation.command = .info image → ended.2 = tree
  refused : ∀ image partition directory error,
    invocation.command = .extract image partition directory →
    Refused files environment invocation.options tree image partition error →
    ended = (.failure error, tree) ∧ (error ≠ .noPairs → ended.1.exitCode = 1)
  /-- A key file without pairs is the one thing that a run does not report. -/
  aborted : ∀ image partition directory,
    invocation.command = .extract image partition directory →
    Refused files environment invocation.options tree image partition .noPairs →
    ended.1 = ⟨101, ""⟩ ∧
      (KeyFile.Empty (files.opened tree) environment
          (KeyFile.keysName invocation.options.isDev) invocation.options.keys ∨
        KeyFile.Empty (files.opened tree) environment KeyFile.titleKeysName
          invocation.options.titleKeys)
  unopened : ∀ image session error, invocation.command.image? = some image →
    Prepared files environment invocation.options tree session →
    ((session.openPath files image).run tree).1 = .error error →
    ∃ cause, error.inFile image = .file image cause ∧
      ended = (.failure (.file image cause), tree)
  changed : ended.2 ≠ tree → ∃ image partition directory,
    invocation.command = .extract image partition directory ∧
      Accepted files environment invocation.options tree image partition

theorem accepted_of_changed (faithful : files.Faithful) {command : Command}
    (different : ((invoke files environment ⟨options, command⟩).run tree).2 ≠ tree) :
    ∃ image partition directory, command = .extract image partition directory ∧
      Accepted files environment options tree image partition := by
  cases command with
  | keys => exact absurd (keeps_invoke faithful (fun _ => keeps_pure _) tree) different
  | info image =>
      exact absurd (keeps_invoke faithful (keeps_perform_info faithful image) tree) different
  | extract image partition directory =>
      refine ⟨image, partition, directory, rfl, ?_⟩
      rcases refused_or_accepted files environment options tree image partition with
        ⟨error, refused⟩ | accepted
      · rw [run_invoke_of_refused faithful refused directory] at different
        exact absurd rfl different
      · exact accepted

/-- Files change only once an extraction is accepted, and all that is refused before ends
with the exit code of a reported failure, but for key files without pairs. -/
theorem run_cautious (faithful : files.Faithful) {arguments : List String}
    {invocation : Invocation} (read : Arguments.read? arguments = some invocation)
    (environment : Environment) (tree : FileTree) :
    Cautious files environment invocation tree ((run files environment arguments).run tree) := by
  have invoked : run files environment arguments = invoke files environment invocation := by
    simp only [run, read]
  rw [invoked]
  obtain ⟨options, command⟩ := invocation
  constructor
  case keys =>
    rintro ⟨⟩
    exact keeps_invoke faithful (fun _ => keeps_pure _) tree
  case info =>
    rintro image ⟨⟩
    exact keeps_invoke faithful (keeps_perform_info faithful image) tree
  case refused =>
    rintro image partition directory error ⟨⟩ refused
    rw [run_invoke_of_refused faithful refused directory]
    exact ⟨rfl, exitCode_failure⟩
  case aborted =>
    rintro image partition directory ⟨⟩ refused
    rw [run_invoke_of_refused faithful refused directory]
    exact ⟨rfl, empty_of_loadingFails faithful (refused.loadingFails rfl)⟩
  case unopened =>
    intro image session error opens prepared failed
    obtain ⟨cause, told⟩ := inFile_of_openPath failed
    refine ⟨cause, told, ?_⟩
    rw [run_invoke_of_prepared faithful prepared, run_perform_of_unopened faithful opens failed,
      told]
  case changed =>
    exact accepted_of_changed faithful

/-- A tree with a key file of this text. -/
def withKeyFile (text : String) : FileTree where
  nodes := [(["k"], .file (Utf8.encode text))]
  current := []

/-- Asks for the secure partition of a card, with the key file `k`. -/
def extractArguments : List String :=
  ["-k", "k", "extract", "c.xci", "secure", "out"]

def extractInvocation : Invocation :=
  ⟨⟨false, some "k", none⟩, .extract "c.xci" .secure "out"⟩

theorem read_extractArguments : Arguments.read? extractArguments = some extractInvocation := by
  decide +kernel

/-- The extraction with a key file of this text. -/
def runWithKeyFile (text : String) : Outcome × FileTree :=
  (run FileTree.access Session.plainHome extractArguments).run (withKeyFile text)

/-- A key file that breaks off ends an extraction with a report, before anything is made. -/
theorem run_cautious_malformed :
    FileTree.access.Faithful ∧ Arguments.read? extractArguments = some extractInvocation ∧
      (runWithKeyFile "a=1\nb").1.exitCode = 1 ∧
      (runWithKeyFile "a=1\nb").2 = withKeyFile "a=1\nb" := by
  have failed : (((Session.new false).loadKeys FileTree.access Session.plainHome (some "k")).run
      (withKeyFile "a=1\nb")).1 =
        .error (.keyFile (.malformed 1 1 (.unterminated .assignment))) :=
    eq_error_of_errorOf? (by decide +kernel)
  have cautious := run_cautious FileTree.faithful_access read_extractArguments Session.plainHome
    (withKeyFile "a=1\nb")
  obtain ⟨ended, reported⟩ := cautious.refused "c.xci" .secure "out" _ rfl (.loading (.keys failed))
  refine ⟨FileTree.faithful_access, read_extractArguments, ?_, ?_⟩
  · apply reported
    intro same
    cases same
  · rw [runWithKeyFile, ended]

/-- A key file without any pair makes loading fail, and the exit code is another one. -/
theorem run_aborts_without_pairs :
    Arguments.read? extractArguments = some extractInvocation ∧
      (∃ error, LoadingFails FileTree.access Session.plainHome extractInvocation.options
        (withKeyFile "") error) ∧
      (runWithKeyFile "").1.exitCode = 101 := by
  refine ⟨read_extractArguments, ⟨.noPairs, .keys (eq_error_of_errorOf? ?_)⟩, ?_⟩
  · decide +kernel
  · decide +kernel

end CommandLine

end Gamecard
