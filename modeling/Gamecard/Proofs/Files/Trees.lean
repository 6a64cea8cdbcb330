import Gamecard.Files.Tree
import Gamecard.Proofs.FileSystem.Entries
import Gamecard.Proofs.Files.Paths

/-!
# Places that paths lead to

A path leads to the place that its segments reach one after the other, and the
segments that lead nowhere make no difference.  Making a directory and writing a
file change one place each: the one that their path leads to.  Directories stay
where they are, so what a path led to before it leads to afterwards.
-/

namespace Gamecard.FileTree

open FileSystem (exists_of_bind_eq_ok)

section Put

variable {tree : FileTree} {place other : Place}

theorem lookup_put_self (inside : place ≠ []) (node : Node) :
    (tree.put place node).lookup place = some node := by
  rw [lookup, if_neg inside, put, List.lookup_cons_self]

theorem lookup_filter_of_ne (different : other ≠ place) (nodes : List (Place × Node)) :
    (nodes.filter fun entry => entry.1 != place).lookup other = nodes.lookup other := by
  induction nodes with
  | nil => rfl
  | cons entry rest induction =>
      obtain ⟨found, node⟩ := entry
      by_cases same : found = place
      · have passed : (other == found) = false := by
          rw [same]
          exact beq_false_of_ne different
        rw [List.filter_cons_of_neg (by simp [same]), induction, List.lookup_cons, passed]
      · rw [List.filter_cons_of_pos (by simp [same]), List.lookup_cons, List.lookup_cons,
          induction]

theorem lookup_put_of_ne (different : other ≠ place) (node : Node) :
    (tree.put place node).lookup other = tree.lookup other := by
  by_cases top : other = []
  · rw [lookup, lookup, if_pos top, if_pos top]
  · rw [lookup, lookup, if_neg top, if_neg top, put, List.lookup_cons,
      beq_false_of_ne different]
    exact lookup_filter_of_ne different tree.nodes

theorem put_put (first second : Node) :
    (tree.put place first).put place second = tree.put place second := by
  simp [put, List.filter_filter]

end Put

/-- The segments lead from one place to another one, which is a directory. -/
def Leads (tree : FileTree) (origin : Place) (segments : List String) (place : Place) : Prop :=
  tree.follow origin segments = .ok (place, .directory)

/-- The path leads to this directory. -/
def LeadsTo (tree : FileTree) (path : String) (place : Place) : Prop :=
  tree.Leads (tree.start path) (Path.segments path) place

section Leads

variable {tree : FileTree} {origin place : Place} {segment : String} {rest : List String}

theorem followDirectory_eq_ok_iff {segments : List String} :
    tree.followDirectory origin segments = .ok place ↔ tree.Leads origin segments place := by
  unfold followDirectory Leads
  cases tree.follow origin segments with
  | error error => simp
  | ok found =>
      obtain ⟨reached, node⟩ := found
      cases node with
      | directory => simp
      | file contents => simp [refuse]

theorem leads_nil :
    tree.Leads origin [] place ↔ place = origin ∧ tree.lookup origin = some .directory := by
  unfold Leads follow
  cases tree.lookup origin with
  | none => simp [refuse]
  | some node => simp [eq_comm]

theorem leads_blank (blank : Path.isBlank segment = true) :
    tree.Leads origin (segment :: rest) place ↔
      tree.lookup origin = some .directory ∧ tree.Leads origin rest place := by
  unfold Leads
  rw [follow]
  rw [Path.isBlank] at blank
  cases tree.lookup origin with
  | none => simp [refuse]
  | some node =>
      cases node with
      | file contents => simp [refuse]
      | directory => simp only [if_pos blank, true_and]

theorem leads_parent :
    tree.Leads origin (".." :: rest) place ↔
      tree.lookup origin = some .directory ∧ tree.Leads origin.dropLast rest place := by
  unfold Leads
  rw [follow]
  cases tree.lookup origin with
  | none => simp [refuse]
  | some node =>
      cases node with
      | file contents => simp [refuse]
      | directory => simp

theorem leads_name (leads : Path.isBlank segment = false) (notParent : segment ≠ "..") :
    tree.Leads origin (segment :: rest) place ↔
      tree.lookup origin = some .directory ∧ (Utf8.encode segment).length ≤ nameLimit ∧
        tree.Leads (origin ++ [segment]) rest place := by
  unfold Leads
  rw [follow]
  rw [Path.isBlank] at leads
  cases tree.lookup origin with
  | none => simp [refuse]
  | some node =>
      cases node with
      | file contents => simp [refuse]
      | directory =>
          simp only [leads, Bool.false_eq_true, if_false, if_neg notParent, true_and]
          by_cases long : nameLimit < (Utf8.encode segment).length
          · simp [if_pos long, refuse, Nat.not_le.mpr long]
          · simp [if_neg long, Nat.not_lt.mp long]

/-- What is found by following segments is there. -/
theorem lookup_of_follow {segments : List String} {node : Node}
    (reached : tree.follow origin segments = .ok (place, node)) :
    tree.lookup place = some node := by
  fun_induction tree.follow origin segments with
  | case1 => cases reached
  | case2 origin node found =>
      cases reached
      exact found
  | case3 => cases reached
  | case4 => cases reached
  | case5 origin segment rest found blank induction => exact induction reached
  | case6 origin rest found blank induction => exact induction reached
  | case7 => cases reached
  | case8 origin segment rest found blank notParent short induction => exact induction reached

theorem Leads.origin_directory {segments : List String}
    (leads : tree.Leads origin segments place) : tree.lookup origin = some .directory := by
  unfold Leads at leads
  cases segments with
  | nil => exact (leads_nil.mp leads).2
  | cons segment rest =>
      rw [follow] at leads
      split at leads
      · cases leads
      · cases leads
      next found => exact found

theorem Leads.unique {segments : List String} {other : Place}
    (leads : tree.Leads origin segments place) (again : tree.Leads origin segments other) :
    place = other := by
  unfold Leads at leads again
  rw [leads] at again
  cases again
  rfl

/-- Segments are followed one part after the other. -/
theorem leads_append {front : List String} :
    tree.Leads origin (front ++ rest) place ↔
      ∃ middle, tree.Leads origin front middle ∧ tree.Leads middle rest place := by
  induction front generalizing origin with
  | nil =>
      simp only [List.nil_append, leads_nil]
      constructor
      · intro leads
        exact ⟨origin, ⟨rfl, leads.origin_directory⟩, leads⟩
      · rintro ⟨_, ⟨rfl, _⟩, leads⟩
        exact leads
  | cons segment front induction =>
      rw [List.cons_append]
      cases blank : Path.isBlank segment with
      | true => simp only [leads_blank blank, induction, and_assoc, exists_and_left]
      | false =>
          by_cases parent : segment = ".."
          · subst parent
            simp only [leads_parent, induction, and_assoc, exists_and_left]
          · simp only [leads_name blank parent, induction, and_assoc, exists_and_left]

/-- Segments that lead nowhere can be left out. -/
theorem leads_steps {segments : List String} :
    tree.Leads origin (Path.steps segments) place ↔ tree.Leads origin segments place := by
  induction segments generalizing origin with
  | nil => rfl
  | cons segment rest induction =>
      cases blank : Path.isBlank segment with
      | true =>
          rw [Path.steps, List.filter_cons_of_neg (by simp [blank]), ← Path.steps, induction,
            leads_blank blank]
          constructor
          · intro leads
            exact ⟨leads.origin_directory, leads⟩
          · intro both
            exact both.2
      | false =>
          rw [Path.steps, List.filter_cons_of_pos (by simp [blank]), ← Path.steps]
          by_cases parent : segment = ".."
          · subst parent
            rw [leads_parent, leads_parent, induction]
          · rw [leads_name blank parent, leads_name blank parent, induction]

theorem leads_of_steps_eq {left right : List String}
    (same : Path.steps left = Path.steps right) (leads : tree.Leads origin left place) :
    tree.Leads origin right place := by
  rw [← leads_steps, ← same]
  exact leads_steps.mpr leads

end Leads

/-- What was a directory is one still, and the current directory is the same. -/
structure Grows (tree later : FileTree) : Prop where
  current_eq : later.current = tree.current
  directory : ∀ place, tree.lookup place = some .directory →
    later.lookup place = some .directory

namespace Grows

variable {tree later : FileTree}

theorem refl (tree : FileTree) : tree.Grows tree where
  current_eq := rfl
  directory _ there := there

theorem trans {middle : FileTree} (first : tree.Grows middle) (second : middle.Grows later) :
    tree.Grows later where
  current_eq := second.current_eq.trans first.current_eq
  directory place there := second.directory place (first.directory place there)

theorem put {place : Place} (free : tree.lookup place ≠ some .directory) (node : Node) :
    tree.Grows (tree.put place node) where
  current_eq := rfl
  directory other there := by
    have different : other ≠ place := by
      intro same
      subst same
      exact free there
    rw [lookup_put_of_ne different, there]

theorem start_eq (grows : tree.Grows later) (path : String) :
    later.start path = tree.start path := by
  rw [start, start, grows.current_eq]

/-- Segments lead where they led, as long as what they led to is there. -/
theorem follow (grows : tree.Grows later) {origin place : Place} {segments : List String}
    {node : Node} (reached : tree.follow origin segments = .ok (place, node))
    (stays : later.lookup place = some node) :
    later.follow origin segments = .ok (place, node) := by
  fun_induction tree.follow origin segments with
  | case1 => cases reached
  | case2 origin there found =>
      cases reached
      rw [FileTree.follow, stays]
  | case3 => cases reached
  | case4 => cases reached
  | case5 origin segment rest found blank induction =>
      rw [FileTree.follow, grows.directory origin found]
      simp only [if_pos blank]
      exact induction reached
  | case6 origin rest found leads induction =>
      rw [FileTree.follow, grows.directory origin found]
      simp only [if_neg leads, if_true]
      exact induction reached
  | case7 => cases reached
  | case8 origin segment rest found leads notParent short induction =>
      rw [FileTree.follow, grows.directory origin found]
      simp only [if_neg leads, if_neg notParent, if_neg short]
      exact induction reached

theorem leads (grows : tree.Grows later) {origin place : Place} {segments : List String}
    (reached : tree.Leads origin segments place) : later.Leads origin segments place := by
  exact grows.follow reached (grows.directory place (lookup_of_follow reached))

end Grows

/-- Where a path is cut: its last segment that is not empty, with what is before it
and only empty segments behind it. -/
theorem segments_of_split? {path : String} {split : Split} (cut : split? path = some split) :
    ∃ behind, Path.segments path = split.parent ++ split.last :: behind ∧ split.last ≠ "" ∧
      (∀ segment ∈ behind, segment = "") ∧ (split.slash = false → behind = []) := by
  simp only [split?] at cut
  generalize reversedEq : (Path.segments path).reverse = reversed at cut
  have forwards : Path.segments path = reversed.reverse := by
    rw [← reversedEq, List.reverse_reverse]
  split at cut
  · cases cut
  next last parent remaining =>
    cases cut
    have whole := List.takeWhile_append_dropWhile (p := fun segment => decide (segment = ""))
      (l := reversed)
    have notEmpty := List.head?_dropWhile_not (fun segment => decide (segment = "")) reversed
    rw [remaining] at whole notEmpty
    refine ⟨(reversed.takeWhile fun segment => decide (segment = "")).reverse, ?_, ?_, ?_, ?_⟩
    · rw [forwards, ← congrArg List.reverse whole]
      simp
    · simpa using notEmpty
    · intro segment member
      have all := List.all_eq_true.mp List.all_takeWhile segment (List.mem_reverse.mp member)
      exact of_decide_eq_true all
    · intro noSlash
      cases reversed with
      | nil => rfl
      | cons first others =>
          have leads : first ≠ "" := by simpa using noSlash
          rw [List.takeWhile_cons_of_neg (by simpa using leads), List.reverse_nil]

/-- Behind the segments that lead to a directory a path has one more name, and behind
it nothing that leads anywhere. -/
structure EndsAt (tree : FileTree) (path : String) (parent : Place) (last : String)
    (front behind : List String) : Prop where
  segments_eq : Path.segments path = front ++ last :: behind
  leads : tree.Leads (tree.start path) front parent
  named : Path.isBlank last = false
  notParent : last ≠ ".."
  short : (Utf8.encode last).length ≤ nameLimit
  blank : ∀ segment ∈ behind, Path.isBlank segment = true

section EndsAt

variable {tree changed : FileTree} {path : String}

/-- What is put at the end of a path is what the path leads to. -/
theorem EndsAt.leadsTo {later : FileTree} {parent : Place} {last : String}
    {front behind : List String} (ends : tree.EndsAt path parent last front behind)
    (grows : tree.Grows later)
    (there : later.lookup (parent ++ [last]) = some .directory) :
    later.LeadsTo path (parent ++ [last]) := by
  have nothing : Path.steps behind = [] := by
    simpa [Path.steps] using ends.blank
  have stays : later.Leads (parent ++ [last]) behind (parent ++ [last]) := by
    rw [← leads_steps, nothing]
    exact leads_nil.mpr ⟨rfl, there⟩
  have toParent := grows.leads ends.leads
  rw [LeadsTo, grows.start_eq, ends.segments_eq]
  exact leads_append.mpr ⟨parent, toParent,
    (leads_name ends.named ends.notParent).mpr ⟨lookup_of_follow toParent, ends.short, stays⟩⟩

theorem endsAt_of_split? {split : Split} {parent : Place} (cut : split? path = some split)
    (followed : tree.followDirectory (tree.start path) split.parent = .ok parent)
    (notDot : split.last ≠ ".") (notParent : split.last ≠ "..")
    (short : ¬nameLimit < (Utf8.encode split.last).length) :
    ∃ behind, tree.EndsAt path parent split.last split.parent behind ∧
      (split.slash = false → behind = []) := by
  obtain ⟨behind, segments_eq, notEmpty, empty, noSlash⟩ := segments_of_split? cut
  refine ⟨behind, ?_, noSlash⟩
  exact
    { segments_eq
      leads := followDirectory_eq_ok_iff.mp followed
      named := by simp [Path.isBlank, notEmpty, notDot]
      notParent
      short := Nat.not_lt.mp short
      blank := fun segment member => by simp [Path.isBlank, empty segment member] }

/-- Making a directory puts it at a place where nothing was, and the path leads there. -/
theorem makeDirectory_eq_ok (made : tree.makeDirectory path = .ok changed) :
    ∃ place, place ≠ [] ∧ tree.lookup place = none ∧ changed = tree.put place .directory ∧
      changed.LeadsTo path place := by
  obtain ⟨place, target, put⟩ := exists_of_bind_eq_ok made
  cases put
  unfold directoryTarget at target
  obtain ⟨_, _, cutting⟩ := exists_of_bind_eq_ok target
  split at cutting
  · cases cutting
  next split cut =>
    obtain ⟨parent, followed, placed⟩ := exists_of_bind_eq_ok cutting
    split at placed
    · cases placed
    next notDots =>
      rw [Bool.or_eq_true, decide_eq_true_iff, decide_eq_true_iff, not_or] at notDots
      split at placed
      · cases placed
      next short =>
        obtain ⟨behind, ends, _⟩ := endsAt_of_split? cut followed notDots.1 notDots.2 short
        split at placed
        · cases placed
        next taken =>
          cases placed
          have free : tree.lookup (parent ++ [split.last]) = none := by simpa using taken
          have inside : parent ++ [split.last] ≠ [] := by simp
          refine ⟨_, inside, free, rfl, ends.leadsTo (.put ?_ _) (lookup_put_self inside _)⟩
          rw [free]
          exact (Option.some_ne_none _).symm

/-- Writing a file puts it where the path ends, which is no directory. -/
theorem writeFile_eq_ok {contents : Bytes} (written : tree.writeFile path contents = .ok changed) :
    ∃ parent last front, tree.EndsAt path parent last front [] ∧
      tree.lookup (parent ++ [last]) ≠ some .directory ∧
      changed = tree.put (parent ++ [last]) (.file contents) := by
  obtain ⟨place, target, put⟩ := exists_of_bind_eq_ok written
  cases put
  unfold fileTarget at target
  obtain ⟨_, _, cutting⟩ := exists_of_bind_eq_ok target
  split at cutting
  · cases cutting
  next split cut =>
    obtain ⟨parent, followed, placed⟩ := exists_of_bind_eq_ok cutting
    split at placed
    · cases placed
    next notDots =>
      simp only [Bool.or_eq_true, decide_eq_true_iff, not_or] at notDots
      split at placed
      · cases placed
      next short =>
        obtain ⟨behind, ends, noSlash⟩ :=
          endsAt_of_split? cut followed notDots.1.1 notDots.1.2 short
        have nothing : behind = [] := noSlash (Bool.eq_false_iff.mpr notDots.2)
        subst nothing
        split at placed
        · cases placed
        next free =>
          cases placed
          exact ⟨parent, split.last, split.parent, ends, free, rfl⟩

/-- A path that can be written ends with a name, so what follows a plain name is
nothing. -/
theorem EndsAt.plain {name text last : String} {parent : Place}
    {leading front rest : List String} (ends : tree.EndsAt path parent last front [])
    (joined : Path.segments path = leading ++ Path.segments name)
    (before : Path.PlainBefore text rest name) :
    Path.Plain name ∧ front = leading ∧ last = name := by
  have same : leading ++ text :: rest = front ++ [last] := by
    rw [← before.segments_eq, ← joined, ends.segments_eq]
  rcases List.eq_nil_or_concat rest with nothing | ⟨init, final, more⟩
  · subst nothing
    obtain ⟨leadingEq, textEq⟩ := List.append_inj' same rfl
    have whole : name = text := by
      rw [← Path.intercalate_segments name, before.segments_eq, String.intercalate_singleton]
    rw [whole]
    exact ⟨before.plain, leadingEq.symm, (List.cons.inj textEq).1.symm⟩
  · rw [more, List.concat_eq_append, ← List.cons_append, ← List.append_assoc] at same
    have finalEq : final = last := (List.cons.inj (List.append_inj' same rfl).2).1
    have blank := before.blank final (by simp [more])
    rw [finalEq, ends.named] at blank
    cases blank

/-- What is written at a name in a directory is written to that name alone, and only if
the name is plain. -/
theorem writeFile_join_eq_ok {directory name : String} {contents : Bytes}
    (accepted : Path.isPlainName name = true)
    (written : tree.writeFile (Path.join directory name) contents = .ok changed) :
    Path.Plain name ∧ ∃ target, tree.LeadsTo directory target ∧
      tree.lookup (target ++ [name]) ≠ some .directory ∧
      changed = tree.put (target ++ [name]) (.file contents) := by
  obtain ⟨text, rest, before⟩ := Path.isPlainName_iff.mp accepted
  obtain ⟨parent, last, front, ends, free, same⟩ := writeFile_eq_ok written
  obtain ⟨leading, joined, directoryEq⟩ := Path.segments_join directory name
  obtain ⟨plain, frontEq, lastEq⟩ := ends.plain joined before
  subst lastEq
  have started : tree.start (Path.join directory last) = tree.start directory := by
    rw [start, start, Path.startsWith_join before.not_startsWith]
  have leads := ends.leads
  rw [started, frontEq] at leads
  refine ⟨plain, parent, leads_of_steps_eq ?_ leads, free, same⟩
  rcases directoryEq with whole | slash
  · rw [whole]
  · simp [slash, Path.steps, Path.isBlank]

end EndsAt

/-- A beginning of the path leads to this directory. -/
def OnTheWay (tree : FileTree) (path : String) (place : Place) : Prop :=
  ∃ front, front <+: Path.segments path ∧ tree.Leads (tree.start path) front place

theorem Grows.leadsTo {tree later : FileTree} (grows : tree.Grows later) {path : String}
    {place : Place} (leads : tree.LeadsTo path place) : later.LeadsTo path place := by
  rw [LeadsTo, grows.start_eq]
  exact grows.leads leads

theorem Grows.onTheWay {tree later : FileTree} (grows : tree.Grows later) {path : String}
    {place : Place} (onTheWay : tree.OnTheWay path place) : later.OnTheWay path place := by
  obtain ⟨front, begins, leads⟩ := onTheWay
  refine ⟨front, begins, ?_⟩
  rw [grows.start_eq]
  exact grows.leads leads

/-- The directories that are made for a path lie on its way. -/
theorem onTheWay_of_mem_withParents {tree : FileTree} {directory path : String}
    (member : path ∈ Path.withParents directory) {place : Place}
    (leads : tree.LeadsTo path place) : tree.OnTheWay directory place := by
  obtain ⟨front, begins, steps, started⟩ := Path.exists_front_of_mem_withParents member
  refine ⟨front, begins, leads_of_steps_eq steps ?_⟩
  rw [start, ← started, ← start]
  exact leads

end Gamecard.FileTree
