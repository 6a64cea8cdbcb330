import Gamecard.Card.Usage
import Gamecard.Proofs.Card.Opening
import Gamecard.Proofs.Storage.Pages

/-!
# Using a card

Once a card is opened its partitions can be read, and their files can be opened,
verified and read, piece by piece or by readers, in any order.  All of this goes
through the page adapter over the body.  So an image is asked for nothing but
whole pages, except that a read which comes to its end stops there.
-/

namespace Gamecard

namespace FileSystem

variable {allowed : Extent → Prop} {fileSystem : FileSystem}

theorem asksOnly_mount {storage : Storage} (asks : storage.AsksOnly allowed)
    (expected : Option Digest) (salt : Option UInt8) :
    (mount storage expected salt).AsksOnly allowed := by
  unfold mount
  simp only
  split
  · exact Access.asksOnly_fail _
  · apply Access.AsksOnly.bind ((asks _ _).mapError _)
    intro header _
    split
    · exact Access.asksOnly_fail _
    · split
      · exact Access.asksOnly_fail _
      · apply Access.AsksOnly.bind ((asks _ _).mapError _)
        intro table _
        split
        · exact Access.asksOnly_fail _
        · refine Access.AsksOnly.bind (Access.asksOnly_ofExcept _) ?_
          intro entries _
          exact Access.asksOnly_pure _

theorem asksOnly_of_openEntry (asks : fileSystem.storage.AsksOnly allowed) {entry : Entry}
    {file : Storage} (opened : fileSystem.openEntry entry = .ok file) :
    file.AsksOnly allowed := by
  obtain ⟨_, same⟩ := Storage.window?_eq_ok_iff.mp opened
  rw [same]
  exact asks.window _ _

theorem asksOnly_of_openFile (asks : fileSystem.storage.AsksOnly allowed) {name : String}
    {file : Storage} (opened : fileSystem.openFile name = .ok file) :
    file.AsksOnly allowed := by
  unfold openFile at opened
  split at opened
  · cases opened
  · exact asksOnly_of_openEntry asks opened

theorem asksOnly_verify (asks : fileSystem.storage.AsksOnly allowed) (entry : Entry) :
    (fileSystem.verify entry).AsksOnly allowed := by
  unfold verify
  refine Access.AsksOnly.bind (Access.asksOnly_ofExcept _) ?_
  intro file opened
  apply Access.AsksOnly.bind ((asksOnly_of_openEntry asks opened _ _).mapError _)
  intro bytes _
  simp only
  split
  · exact Access.asksOnly_pure _
  · exact Access.asksOnly_fail _

/-- What every call of a visitor preserves is preserved by a walk. -/
theorem walk_preserves {σ : Type} {visitor : Visitor σ} {kept : σ → Prop}
    (step : ∀ state visit, kept state → kept (visitor state visit).1) {state : σ}
    (here : kept state) : kept (fileSystem.walk visitor state).1 := by
  have files (entries : List Entry) (state : σ) (here : kept state) :
      kept (walkFiles visitor entries state).1 := by
    induction entries generalizing state with
    | nil => exact step state _ here
    | cons entry rest induction =>
        have next := step state (.file rootPath entry) here
        rw [walkFiles]
        split
        next stopped called =>
          rw [called] at next
          exact next
        next later called =>
          rw [called] at next
          exact induction later next
  have entered := step state (.enter rootPath) here
  rw [walk]
  split
  next stopped called =>
    rw [called] at entered
    exact entered
  next later called =>
    rw [called] at entered
    exact files _ later entered

end FileSystem

/-- Whatever is read from a partition and its files, only ranges of a kind are
asked for. -/
structure Partition.AsksOnly (allowed : Extent → Prop) (partition : Partition) : Prop where
  storage : ∀ storage, partition.storage = some storage → storage.AsksOnly allowed
  fileSystem : ∀ fileSystem, partition.fileSystem = some fileSystem →
    fileSystem.storage.AsksOnly allowed

theorem Partition.asksOnly_absent {allowed : Extent → Prop} :
    Partition.absent.AsksOnly allowed where
  storage _ impossible := by cases impossible
  fileSystem _ impossible := by cases impossible

namespace Card

variable {image : Storage} {parts : SplitImage}

/-- The fixed structures of a card take whole pages. -/
theorem asksOnly_fixed {storage : Storage} {limit : Nat}
    (maps : storage.MapsPages pageSize limit) {offset length : Nat}
    (starts : pageSize ∣ offset) (whole : pageSize ∣ length) :
    (storage.read offset length).AsksOnly (Extent.OnPages pageSize limit) :=
  maps ⟨offset, length⟩ ⟨starts, .inl whole⟩

theorem asksOnly_split (maps : image.MapsPages pageSize image.size) :
    (SplitImage.ofImage image).AsksOnly (Extent.OnPages pageSize image.size) := by
  unfold SplitImage.ofImage
  split
  · exact Access.asksOnly_pure _
  · apply Access.AsksOnly.bind ((asksOnly_fixed maps (by decide) (by decide)).mapError _)
    intro bytes _
    split
    · refine Access.AsksOnly.bind (Access.asksOnly_ofExcept _) ?_
      intro keyArea _
      refine Access.AsksOnly.bind (Access.asksOnly_ofExcept _) ?_
      intro body _
      exact Access.asksOnly_pure _
    · exact Access.asksOnly_pure _

theorem mapsPages_body (maps : image.MapsPages pageSize image.size)
    (split : (SplitImage.ofImage image).result = .ok parts) :
    parts.body.MapsPages pageSize image.size := by
  rcases SplitImage.ofImage_cases split with whole | ⟨long, behind⟩
  · rw [whole]
    exact maps
  · rw [behind]
    exact maps.window (by decide) (Nat.add_sub_cancel' long)

theorem asksOnly_readInitialData (maps : image.MapsPages pageSize image.size)
    (split : (SplitImage.ofImage image).result = .ok parts) :
    (readInitialData parts.keyArea).AsksOnly (Extent.OnPages pageSize image.size) := by
  rcases SplitImage.ofImage_cases split with whole | ⟨_, behind⟩
  · rw [whole]
    exact Access.asksOnly_pure _
  · have inside : 0 + 0x200 ≤ SplitImage.keyAreaSize := by decide
    have front : ((Storage.window image 0 SplitImage.keyAreaSize).read 0 0x200).AsksOnly
        (Extent.OnPages pageSize image.size) := by
      rw [Storage.read, if_pos inside]
      exact asksOnly_fixed maps (by decide) (by decide)
    rw [behind]
    apply Access.AsksOnly.bind (front.mapError _)
    intro bytes _
    exact Access.asksOnly_pure _

section Root

variable {body : Storage} {limit : Nat}

theorem asksOnly_rootStorage (maps : body.MapsPages pageSize limit) (header : Header) :
    (rootStorage body header).AsksOnly (Extent.OnPages pageSize limit) :=
  (maps.paged (by decide)).window _ _

theorem asksOnly_mountRoot (maps : body.MapsPages pageSize limit) (header : Header) :
    (mountRoot body header).AsksOnly (Extent.OnPages pageSize limit) := by
  unfold mountRoot
  split
  · exact Access.asksOnly_pure _
  next storage opened =>
    obtain ⟨_, same⟩ := Storage.tail?_eq_ok_iff.mp opened
    have asks : storage.AsksOnly (Extent.OnPages pageSize limit) := by
      rw [same]
      exact asksOnly_rootStorage maps header
    apply Access.AsksOnly.bind (FileSystem.asksOnly_mount asks _ _).attempt
    intro mounted _
    split
    · exact Access.asksOnly_pure _
    · exact Access.asksOnly_pure _

theorem RootOutcome.asksOnly {header : Header} {root : Partition} {warnings : Diagnostics}
    (outcome : RootOutcome body header root warnings) (maps : body.MapsPages pageSize limit) :
    root.AsksOnly (Extent.OnPages pageSize limit) := by
  have asks := asksOnly_rootStorage maps header
  cases outcome with
  | absent => exact Partition.asksOnly_absent
  | unmounted inside failed =>
      constructor
      · intro storage same
        cases same
        exact asks
      · intro fileSystem impossible
        cases impossible
  | mounted inside read =>
      obtain ⟨place, _⟩ := FileSystem.contained_of_mount read
      constructor
      · intro storage same
        cases same
        exact asks
      · intro fileSystem same
        cases same
        rw [place]
        exact asks

end Root

section Gathering

variable {allowed : Extent → Prop} {root : FileSystem}

theorem reads_openPartition (asks : root.storage.AsksOnly allowed) (entry : Entry) :
    ∀ extent ∈ (openPartition root entry).2.2, allowed extent := by
  unfold openPartition
  split
  · exact List.forall_mem_nil _
  next storage opened =>
    have mounting := FileSystem.asksOnly_mount
      (FileSystem.asksOnly_of_openEntry asks opened) none none
    simp only
    split
    · exact mounting
    · exact mounting

theorem reads_gather (asks : root.storage.AsksOnly allowed) (gathered : Gathered)
    (visit : Visit) (before : ∀ extent ∈ gathered.reads, allowed extent) :
    ∀ extent ∈ (gather root gathered visit).1.reads, allowed extent := by
  cases visit with
  | enter path => exact before
  | leave path => exact before
  | file path entry =>
      simp only [gather]
      split
      · exact before
      · exact List.forall_mem_append.mpr ⟨before, reads_openPartition asks entry⟩

theorem asksOnly_gatherPartitions {root : Partition} (asks : root.AsksOnly allowed) :
    (gatherPartitions root).AsksOnly allowed := by
  unfold gatherPartitions
  split
  · exact Access.asksOnly_pure _
  next fileSystem mounted =>
    exact FileSystem.walk_preserves
      (reads_gather (asks.fileSystem fileSystem mounted)) (List.forall_mem_nil _)

end Gathering

/-- Opening a card asks for pages of its image only. -/
theorem asksOnly_ofImage (maps : image.MapsPages pageSize image.size) (cipher : HeaderCipher) :
    (ofImage image cipher).AsksOnly (Extent.OnPages pageSize image.size) := by
  unfold ofImage
  apply Access.AsksOnly.bind (asksOnly_split maps)
  intro parts split
  have body := mapsPages_body maps split
  apply Access.AsksOnly.bind (asksOnly_readInitialData maps split)
  intro initialData _
  apply Access.AsksOnly.bind ((asksOnly_fixed body (by decide) (by decide)).mapError _)
  intro bytes _
  simp only
  apply Access.AsksOnly.bind ((asksOnly_fixed body (by decide) (by decide)).mapError _)
  intro certificate _
  apply Access.AsksOnly.bind (asksOnly_mountRoot body _)
  intro ⟨root, rootWarnings⟩ mounted
  obtain ⟨other, otherWarnings, result, outcome⟩ := result_mountRoot parts.body _
  rw [mounted] at result
  cases result
  apply Access.AsksOnly.bind (asksOnly_gatherPartitions (outcome.asksOnly body))
  intro partitions _
  exact Access.asksOnly_pure _

theorem asksOnly_entryPartition {allowed : Extent → Prop} {root : FileSystem}
    (asks : root.storage.AsksOnly allowed) (entry : Entry) :
    (entryPartition root entry).AsksOnly allowed := by
  have file : (root.entryStorage entry).AsksOnly allowed := asks.window _ _
  constructor
  · intro storage same
    cases same
    exact file
  · intro fileSystem mounted
    obtain ⟨place, _⟩ := entryPartition_mounted mounted
    rw [place]
    exact file

theorem Assembled.asksOnly_partition {cipher : HeaderCipher} {card : Card}
    (assembled : Assembled image cipher card) (maps : image.MapsPages pageSize image.size)
    {partition : Partition} (member : partition ∈ card.allPartitions) :
    partition.AsksOnly (Extent.OnPages pageSize image.size) := by
  obtain ⟨_, _, outcome, _, _⟩ := assembled.root_eq
  have root := outcome.asksOnly (mapsPages_body maps assembled.parts_eq)
  rcases List.mem_cons.mp member with first | later
  · rw [first]
    exact root
  · obtain ⟨kind, _, same⟩ := List.mem_map.mp later
    rw [← same]
    rcases assembled.partition_cases kind with absent | ⟨fileSystem, entry, mounted, _, made⟩
    · rw [absent]
      exact Partition.asksOnly_absent
    · rw [made]
      exact asksOnly_entryPartition (root.fileSystem _ mounted) entry

namespace Usage

/-- Only ranges of a kind were asked for, and whatever is at hand asks for no others. -/
structure AsksOnly (allowed : Extent → Prop) (usage : Usage) : Prop where
  fileSystems : ∀ fileSystem ∈ usage.fileSystems, fileSystem.storage.AsksOnly allowed
  storages : ∀ storage ∈ usage.storages, storage.AsksOnly allowed
  readers : ∀ reader ∈ usage.readers, reader.storage.AsksOnly allowed
  reads : ∀ extent ∈ usage.reads, allowed extent

namespace AsksOnly

variable {allowed : Extent → Prop} {usage : Usage}

theorem note (asks : usage.AsksOnly allowed) {ε α : Type} {access : Access ε α}
    (more : access.AsksOnly allowed) : (usage.note access).AsksOnly allowed :=
  { asks with reads := List.forall_mem_append.mpr ⟨asks.reads, more⟩ }

theorem add (asks : usage.AsksOnly allowed) {opened : Except Error Storage}
    (file : ∀ storage, opened = .ok storage → storage.AsksOnly allowed) :
    (usage.add opened).AsksOnly allowed := by
  cases opened with
  | error error => exact asks
  | ok storage =>
      have last : ∀ other ∈ [storage], other.AsksOnly allowed :=
        List.forall_mem_singleton.mpr (file storage rfl)
      exact { asks with storages := List.forall_mem_append.mpr ⟨asks.storages, last⟩ }

theorem move {α : Type} (asks : usage.AsksOnly allowed) (place : Nat)
    {step : Reader.Step α} (more : step.AsksOnly allowed)
    (reader : step.reader.storage.AsksOnly allowed) :
    (usage.move place step).AsksOnly allowed := by
  refine { asks.note more with readers := ?_ }
  intro other member
  rcases List.mem_or_eq_of_mem_set member with old | new
  · exact asks.readers other old
  · rw [new]
    exact reader

/-- Nothing happens where there is nothing at hand. -/
theorem elim {α : Type} {items : List α} (asks : usage.AsksOnly allowed) (place : Nat)
    {next : α → Usage} (each : ∀ item ∈ items, (next item).AsksOnly allowed) :
    (items[place]?.elim usage next).AsksOnly allowed := by
  cases found : items[place]? with
  | none => exact asks
  | some item => exact each item (List.mem_of_getElem? found)

theorem step (asks : usage.AsksOnly allowed) (operation : Operation) :
    (usage.step operation).AsksOnly allowed := by
  cases operation with
  | openEntry place entry =>
      apply asks.elim
      intro fileSystem member
      apply asks.add
      intro file opened
      exact FileSystem.asksOnly_of_openEntry (asks.fileSystems _ member) opened
  | openFile place name =>
      apply asks.elim
      intro fileSystem member
      apply asks.add
      intro file opened
      exact FileSystem.asksOnly_of_openFile (asks.fileSystems _ member) opened
  | verify place entry =>
      apply asks.elim
      intro fileSystem member
      exact asks.note (FileSystem.asksOnly_verify (asks.fileSystems _ member) entry)
  | read place offset length =>
      apply asks.elim
      intro storage member
      exact asks.note (asks.storages storage member offset length)
  | readAll place =>
      apply asks.elim
      intro storage member
      exact asks.note (asks.storages storage member).contents
  | startReader place =>
      apply asks.elim
      intro storage member
      have last : ∀ reader ∈ [Reader.start storage], reader.storage.AsksOnly allowed :=
        List.forall_mem_singleton.mpr (asks.storages storage member)
      exact { asks with readers := List.forall_mem_append.mpr ⟨asks.readers, last⟩ }
  | next place length =>
      apply asks.elim
      intro reader member
      have same := asks.readers reader member
      apply asks.move place (Reader.asksOnly_next same length)
      rw [Reader.storage_of_next]
      exact same
  | seek place target =>
      apply asks.elim
      intro reader member
      apply asks.move place (Reader.asksOnly_seek reader target)
      rw [Reader.storage_of_seek]
      exact asks.readers reader member

theorem run (asks : usage.AsksOnly allowed) (operations : List Operation) :
    (usage.run operations).AsksOnly allowed := by
  induction operations generalizing usage with
  | nil => exact asks
  | cons operation rest induction => exact induction (asks.step operation)

end AsksOnly

theorem asksOnly_start {allowed : Extent → Prop} {card : Card}
    (asks : ∀ partition ∈ card.allPartitions, partition.AsksOnly allowed) :
    (start card).AsksOnly allowed where
  fileSystems fileSystem member := by
    obtain ⟨partition, part, mounted⟩ := List.mem_filterMap.mp member
    exact (asks partition part).fileSystem fileSystem mounted
  storages storage member := by
    obtain ⟨partition, part, present⟩ := List.mem_filterMap.mp member
    exact (asks partition part).storage storage present
  readers := List.forall_mem_nil _
  reads := List.forall_mem_nil _

end Usage

/-- Opening a card and whatever is done with it afterwards asks its image for whole
pages only, or for what there is of them up to the end of the image. -/
theorem reads_onPages (image : Bytes) (cipher : HeaderCipher) :
    (∀ extent ∈ (ofImage (.memory image) cipher).reads,
        extent.OnPages 0x200 image.length) ∧
      ∀ card, (ofImage (.memory image) cipher).result = .ok card →
        ∀ operations : List Operation,
          ∀ extent ∈ ((Usage.start card).run operations).reads,
            extent.OnPages 0x200 image.length := by
  have maps : (Storage.memory image).MapsPages pageSize (Storage.memory image).size :=
    Storage.mapsPages_memory image
  refine ⟨asksOnly_ofImage maps cipher, ?_⟩
  intro card opened operations
  have assembled := assembled_of_ofImage opened
  have started : (Usage.start card).AsksOnly (Extent.OnPages pageSize image.length) :=
    Usage.asksOnly_start fun partition member => assembled.asksOnly_partition maps member
  exact (started.run operations).reads

end Card

end Gamecard
