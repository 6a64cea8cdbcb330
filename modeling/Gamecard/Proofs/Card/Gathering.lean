import Gamecard.Card
import Gamecard.Proofs.FileSystem.Lookup

/-!
# Gathering partitions

A step of the walk over a root partition replaces the partition that the entry
is named after by what the entry alone makes of it, and leaves the others.
After the whole walk each partition is that of the last entry of its name, and
every entry, superseded or not, has added its warnings.
-/

namespace Gamecard

namespace Card

variable {root : FileSystem}

/-- The partition that an entry of the root partition makes. -/
def entryPartition (root : FileSystem) (entry : Entry) : Partition where
  storage := some (root.entryStorage entry)
  fileSystem := (FileSystem.mount (root.entryStorage entry) none none).result.toOption

/-- The warning about the partition of a name if its storage does not mount. -/
def mountWarnings (name : String) (storage : Storage) : Diagnostics :=
  match (FileSystem.mount storage none none).result with
  | .ok _ => []
  | .error error => [.partitionMount name error]

/-- The warnings about a file of the root partition. -/
def fileWarnings (name : String) (storage : Storage) : Diagnostics :=
  match PartitionKind.ofName? name with
  | none => [.unrecognizedPartition name]
  | some _ => mountWarnings name storage

/-- The warnings that an entry of the root partition gives rise to. -/
def entryWarnings (root : FileSystem) (entry : Entry) : Diagnostics :=
  fileWarnings entry.name (root.entryStorage entry)

/-- The warnings about partitions when every entry lies where it can be opened. -/
inductive AboutPartitions : Warning → Prop where
  | root (error : Error) : AboutPartitions (.rootPartitionMount error)
  | unrecognized (name : String) : AboutPartitions (.unrecognizedPartition name)
  | unmounted (name : String) (error : Error) : AboutPartitions (.partitionMount name error)

theorem mem_entryWarnings {root : FileSystem} {entry : Entry} {warning : Warning}
    (member : warning ∈ entryWarnings root entry) : AboutPartitions warning := by
  unfold entryWarnings fileWarnings at member
  split at member
  · rw [List.mem_singleton.mp member]
    exact .unrecognized entry.name
  · unfold mountWarnings at member
    split at member
    · cases member
    · rw [List.mem_singleton.mp member]
      exact .unmounted entry.name _

theorem openPartition_eq (contained : root.Contained) {entry : Entry}
    (member : entry ∈ root.entries) :
    (openPartition root entry).1 = entryPartition root entry ∧
      (openPartition root entry).2.1 =
        mountWarnings entry.name (root.entryStorage entry) := by
  simp only [openPartition, contained.openEntry_eq member, entryPartition, mountWarnings]
  cases (FileSystem.mount (root.entryStorage entry) none none).result with
  | error error => exact ⟨rfl, rfl⟩
  | ok fileSystem => exact ⟨rfl, rfl⟩

/-- One entry adds its warnings and replaces the partition of its name. -/
theorem gather_file (contained : root.Contained) {entry : Entry}
    (member : entry ∈ root.entries) (path : String) (gathered : Gathered) :
    ∃ next, gather root gathered (.file path entry) = (next, .next) ∧
      next.diagnostics = gathered.diagnostics ++ entryWarnings root entry ∧
      ∀ kind : PartitionKind, next.partitions.get kind =
        if entry.name = kind.name then entryPartition root entry
        else gathered.partitions.get kind := by
  obtain ⟨partition, warnings⟩ := openPartition_eq contained member
  cases named : PartitionKind.ofName? entry.name with
  | none =>
      simp only [gather, entryWarnings, fileWarnings, named]
      refine ⟨_, rfl, rfl, ?_⟩
      intro kind
      have other : ¬entry.name = kind.name := by
        intro same
        rw [PartitionKind.ofName?_eq_some_iff.mpr same] at named
        cases named
      rw [if_neg other]
  | some found =>
      have name := PartitionKind.ofName?_eq_some_iff.mp named
      simp only [gather, entryWarnings, fileWarnings, named]
      refine ⟨_, rfl, ?_, ?_⟩
      · rw [← warnings]
      · intro kind
        by_cases same : kind = found
        · rw [same, if_pos name, ← partition]
          exact Partitions.get_set_self _ _ _
        · have other : ¬entry.name = kind.name := by
            intro again
            rw [PartitionKind.ofName?_eq_some_iff.mpr again] at named
            exact same (Option.some.inj named)
          rw [if_neg other]
          exact Partitions.get_set_of_ne _ _ same

/-- What the walk over some of the entries makes of what was gathered before. -/
theorem walkFiles_gather (contained : root.Contained) {entries : List Entry}
    (members : ∀ entry ∈ entries, entry ∈ root.entries) (gathered : Gathered) :
    ∃ last, FileSystem.walkFiles (gather root) entries gathered = (last, .next) ∧
      last.diagnostics = gathered.diagnostics ++ entries.flatMap (entryWarnings root) ∧
      ∀ kind : PartitionKind, last.partitions.get kind =
        (FileSystem.lastNamed? entries kind.name).elim (gathered.partitions.get kind)
          (entryPartition root) := by
  induction entries generalizing gathered with
  | nil => exact ⟨gathered, rfl, (List.append_nil _).symm, fun _ => rfl⟩
  | cons entry rest induction =>
      rw [List.forall_mem_cons] at members
      obtain ⟨next, step, stepWarnings, stepPartitions⟩ :=
        gather_file contained members.1 FileSystem.rootPath gathered
      obtain ⟨last, walked, laterWarnings, laterPartitions⟩ := induction members.2 next
      refine ⟨last, ?_, ?_, ?_⟩
      · simp only [FileSystem.walkFiles, step, walked]
      · rw [laterWarnings, stepWarnings, List.append_assoc, List.flatMap_cons]
      · intro kind
        have split := lastPassing?_cons (fun other => other.name == kind.name) entry rest
        simp only [beq_iff_eq] at split
        rw [laterPartitions, stepPartitions, FileSystem.lastNamed?, FileSystem.lastNamed?, split]
        -- The entry counts only if none of its name follows.
        cases lastPassing? (fun other => other.name == kind.name) rest with
        | some later => rfl
        | none =>
            rw [Option.none_or]
            split <;> rfl

/-- The partitions gathered from a mounted root partition, and the warnings. -/
theorem result_gatherPartitions (contained : root.Contained) (storage : Option Storage) :
    ∃ partitions, (gatherPartitions ⟨storage, some root⟩).result =
        .ok (partitions, root.entries.flatMap (entryWarnings root)) ∧
      ∀ kind : PartitionKind, partitions.get kind =
        (FileSystem.lastNamed? root.entries kind.name).elim .absent (entryPartition root) := by
  obtain ⟨last, walked, warnings, partitions⟩ :=
    walkFiles_gather contained (fun _ member => member) ⟨.absent, [], []⟩
  have whole : root.walk (gather root) ⟨.absent, [], []⟩ = (last, .next) := walked
  refine ⟨last.partitions, ?_, ?_⟩
  · simp only [gatherPartitions, whole, warnings, List.nil_append]
  · intro kind
    rw [partitions kind]
    cases kind <;> rfl

end Card

end Gamecard
