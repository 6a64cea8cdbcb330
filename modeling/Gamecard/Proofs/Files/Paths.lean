import Gamecard.Files.Path

/-!
# Segments and components of paths

Segments are the parts of a path between its slashes.  Those that are empty or a
dot lead nowhere; the others are the components.  A name that is a component by
its characters is plain.  A name counts as a single component also when nothing but
empty segments and dots follow behind a slash.
-/

namespace Gamecard.Path

theorem segments_append (left right : String) :
    segments (left ++ "/" ++ right) = segments left ++ segments right := by
  have slash : (left ++ "/" ++ right).toList = left.toList ++ '/' :: right.toList := by simp
  rw [segments, slash, List.splitOn_append_cons_self, List.map_append]
  rfl

theorem segments_ne_nil (path : String) : segments path ≠ [] := by
  simp [segments]

theorem segments_of_noSlash {name : String} (noSlash : '/' ∉ name.toList) :
    segments name = [name] := by
  rw [segments, List.splitOn_eq_singleton noSlash, List.map_singleton, String.ofList_toList]

theorem intercalate_segments (path : String) : "/".intercalate (segments path) = path := by
  have lists : ((segments path).map String.toList) = path.toList.splitOn '/' := by
    simp [segments, Function.comp_def]
  rw [← String.toList_inj, String.toList_intercalate, lists]
  exact List.intercalate_splitOn '/'

theorem segments_intercalate {parts : List String} (nonempty : parts ≠ [])
    (noSlash : ∀ part ∈ parts, '/' ∉ part.toList) :
    segments ("/".intercalate parts) = parts := by
  have lists : ("/".intercalate parts).toList.splitOn '/' = parts.map String.toList := by
    rw [String.toList_intercalate]
    apply List.splitOn_intercalate
    · simpa using noSlash
    · simpa using nonempty
  rw [segments, lists, List.map_map]
  simp

theorem notMem_of_mem_splitOn {separator : Char} {characters part : List Char}
    (member : part ∈ characters.splitOn separator) : separator ∉ part := by
  induction characters generalizing part with
  | nil =>
      rw [List.splitOn_nil, List.mem_singleton] at member
      rw [member]
      exact List.not_mem_nil
  | cons character rest induction =>
      obtain ⟨first, later, same⟩ :=
        List.exists_cons_of_ne_nil (List.splitOn_ne_nil separator rest)
      rw [List.splitOn_cons_eq_if_modifyHead, same] at member
      rw [same] at induction
      split at member
      · rcases List.mem_cons.mp member with empty | behind
        · rw [empty]
          exact List.not_mem_nil
        · exact induction behind
      next different =>
        rcases List.mem_cons.mp member with longer | behind
        · rw [longer, List.mem_cons, not_or]
          exact ⟨fun equal => different (by simp [equal]), induction List.mem_cons_self⟩
        · exact induction (List.mem_cons_of_mem first behind)

theorem noSlash_of_mem_segments {path segment : String} (member : segment ∈ segments path) :
    '/' ∉ segment.toList := by
  obtain ⟨part, split, same⟩ := List.mem_map.mp member
  rw [← same, String.toList_ofList]
  exact notMem_of_mem_splitOn split

theorem startsWith_slash_iff {path : String} :
    path.startsWith "/" = true ↔ ∃ rest, rest ≠ [] ∧ segments path = "" :: rest := by
  rw [String.startsWith_string_iff]
  constructor
  · intro ⟨rest, same⟩
    have split : path = "" ++ "/" ++ String.ofList rest := by
      simp [← String.toList_inj, ← same]
    refine ⟨segments (String.ofList rest), segments_ne_nil _, ?_⟩
    rw [split, segments_append]
    rfl
  · intro ⟨rest, nonempty, same⟩
    rw [← intercalate_segments path, same, String.intercalate_cons_of_ne_nil nonempty]
    exact ⟨("/".intercalate rest).toList, by simp⟩

/-- Whether a segment leads nowhere. -/
def isBlank (segment : String) : Bool :=
  segment = "" || segment = "."

/-- A name that is a component of a path by its characters. -/
structure Plain (name : String) : Prop where
  notBlank : isBlank name = false
  notParent : name ≠ ".."
  noSlash : '/' ∉ name.toList

theorem component?_of_isBlank {segment : String} (blank : isBlank segment = true) :
    component? segment = none := by
  rw [component?]
  exact if_pos blank

theorem component?_of_not_isBlank {segment : String} (leads : isBlank segment = false) :
    ∃ component, component? segment = some component ∧ component.text = segment := by
  have skipped : ¬(segment = "" || segment = ".") = true := Bool.eq_false_iff.mp leads
  rw [component?, if_neg skipped]
  by_cases parent : segment = ".."
  · rw [if_pos parent]
    exact ⟨.parent, rfl, parent.symm⟩
  · rw [if_neg parent]
    exact ⟨.name segment, rfl, rfl⟩

theorem component?_eq_none_iff {segment : String} :
    component? segment = none ↔ isBlank segment = true := by
  constructor
  · intro nothing
    cases blank : isBlank segment with
    | true => rfl
    | false =>
        obtain ⟨component, found, _⟩ := component?_of_not_isBlank blank
        rw [nothing] at found
        cases found
  · exact component?_of_isBlank

theorem component?_of_plain {name : String} (plain : Plain name) :
    component? name = some (.name name) := by
  have skipped : ¬(name = "" || name = ".") = true := Bool.eq_false_iff.mp plain.notBlank
  rw [component?, if_neg skipped, if_neg plain.notParent]

theorem map_text_filterMap (segments : List String) :
    (segments.filterMap component?).map Component.text =
      segments.filter fun segment => !isBlank segment := by
  induction segments with
  | nil => rfl
  | cons segment rest induction =>
      cases blank : isBlank segment with
      | true =>
          rw [List.filterMap_cons_none (component?_of_isBlank blank), induction,
            List.filter_cons_of_neg (by simp [blank])]
      | false =>
          obtain ⟨component, found, same⟩ := component?_of_not_isBlank blank
          rw [List.filterMap_cons_some found, List.map_cons, induction, same,
            List.filter_cons_of_pos (by simp [blank])]

section Components

variable {path : String}

theorem components_absolute (absolute : path.startsWith "/" = true) :
    components path = .root :: (segments path).filterMap component? := by
  simp only [components, if_pos absolute, List.singleton_append]

theorem components_current (relative : path.startsWith "/" = false)
    (current : (segments path).head? = some ".") :
    components path = .current :: (segments path).filterMap component? := by
  simp only [components, relative, Bool.false_eq_true, if_false, if_pos current,
    List.singleton_append]

theorem components_relative (relative : path.startsWith "/" = false)
    (notCurrent : (segments path).head? ≠ some ".") :
    components path = (segments path).filterMap component? := by
  simp only [components, relative, Bool.false_eq_true, if_false, if_neg notCurrent,
    List.nil_append]

/-- A relative path with a component in it that has no dot in front starts with it. -/
theorem head_leads {segment : String} {rest : List String}
    (relative : path.startsWith "/" = false)
    (notCurrent : (segments path).head? ≠ some ".")
    (same : segments path = segment :: rest)
    (leads : (segments path).filterMap component? ≠ []) : isBlank segment = false := by
  rw [isBlank, Bool.or_eq_false_iff, decide_eq_false_iff_not, decide_eq_false_iff_not]
  constructor
  · intro empty
    subst empty
    have more : rest ≠ [] := by
      intro nothing
      subst nothing
      rw [same] at leads
      exact leads rfl
    rw [startsWith_slash_iff.mpr ⟨rest, more, same⟩] at relative
    cases relative
  · intro dot
    subst dot
    rw [same] at notCurrent
    exact notCurrent rfl

end Components

/-- A plain name, and behind it nothing that leads anywhere. -/
structure PlainBefore (text : String) (rest : List String) (name : String) : Prop where
  segments_eq : segments name = text :: rest
  plain : Plain text
  blank : ∀ segment ∈ rest, isBlank segment = true

theorem Plain.before {name : String} (plain : Plain name) : PlainBefore name [] name where
  segments_eq := segments_of_noSlash plain.noSlash
  plain := plain
  blank := List.forall_mem_nil _

theorem Plain.ne_empty {name : String} (plain : Plain name) : name ≠ "" := by
  intro empty
  subst empty
  cases plain.notBlank

theorem Plain.ne_dot {name : String} (plain : Plain name) : name ≠ "." := by
  intro dot
  subst dot
  cases plain.notBlank

section PlainBefore

variable {text name : String} {rest : List String}

theorem PlainBefore.not_startsWith (before : PlainBefore text rest name) :
    name.startsWith "/" = false := by
  rw [Bool.eq_false_iff]
  intro absolute
  obtain ⟨later, _, same⟩ := startsWith_slash_iff.mp absolute
  rw [before.segments_eq] at same
  exact before.plain.ne_empty (List.cons.inj same).1

theorem PlainBefore.components_eq (before : PlainBefore text rest name) :
    components name = [.name text] := by
  have notCurrent : (segments name).head? ≠ some "." := by
    rw [before.segments_eq, List.head?_cons]
    intro current
    exact before.plain.ne_dot (Option.some.inj current)
  have nothing : rest.filterMap component? = [] :=
    List.filterMap_eq_nil_iff.mpr fun segment member =>
      component?_of_isBlank (before.blank segment member)
  rw [components_relative before.not_startsWith notCurrent, before.segments_eq,
    List.filterMap_cons_some (component?_of_plain before.plain), nothing]

theorem plainBefore_of_components_eq (single : components name = [.name text]) :
    ∃ rest, PlainBefore text rest name := by
  cases absolute : name.startsWith "/" with
  | true =>
      rw [components_absolute absolute] at single
      cases single
  | false =>
      by_cases current : (segments name).head? = some "."
      · rw [components_current absolute current] at single
        cases single
      · rw [components_relative absolute current] at single
        obtain ⟨segment, rest, same⟩ := List.exists_cons_of_ne_nil (segments_ne_nil name)
        have leads := head_leads absolute current same (by simp [single])
        obtain ⟨component, found, textEq⟩ := component?_of_not_isBlank leads
        rw [same, List.filterMap_cons_some found] at single
        obtain ⟨componentEq, nothing⟩ := List.cons.inj single
        subst componentEq
        subst textEq
        refine ⟨rest, same, ⟨leads, ?_, ?_⟩, ?_⟩
        · intro parent
          subst parent
          cases found
        · exact noSlash_of_mem_segments (same ▸ List.mem_cons_self)
        · intro later member
          exact component?_eq_none_iff.mp (List.filterMap_eq_nil_iff.mp nothing later member)

end PlainBefore

/-- A name counts as plain exactly if its characters make it so up to a slash behind
which nothing leads anywhere. -/
theorem isPlainName_iff {name : String} :
    isPlainName name = true ↔ ∃ text rest, PlainBefore text rest name := by
  constructor
  · intro accepted
    unfold isPlainName at accepted
    split at accepted
    next text single =>
      obtain ⟨rest, before⟩ := plainBefore_of_components_eq single
      exact ⟨text, rest, before⟩
    next => cases accepted
  · intro ⟨text, rest, before⟩
    rw [isPlainName, before.components_eq]

theorem endsWith_slash {path : String} (ends : path.endsWith "/" = true) :
    ∃ before, path = before ++ "/" := by
  rw [String.endsWith_eq_endsWith_toSlice, String.Slice.endsWith_string_iff] at ends
  obtain ⟨before, same⟩ := ends
  refine ⟨String.ofList before, ?_⟩
  rw [← String.toList_inj, String.toList_append, String.toList_ofList, same]
  simp

/-- A name joined to a directory follows the segments of the directory, but for an
empty one at their end. -/
theorem segments_join (directory name : String) :
    ∃ front, segments (join directory name) = front ++ segments name ∧
      (segments directory = front ∨ segments directory = front ++ [""]) := by
  by_cases empty : directory = ""
  · refine ⟨[], ?_, .inr ?_⟩
    · rw [join, if_pos empty, List.nil_append]
    · rw [empty]
      rfl
  · cases slash : directory.endsWith "/" with
    | true =>
        obtain ⟨before, same⟩ := endsWith_slash slash
        refine ⟨segments before, ?_, .inr ?_⟩
        · rw [join, if_neg empty, if_pos slash, same, segments_append]
        · have split := segments_append before ""
          rw [String.append_empty] at split
          rw [same, split]
          rfl
    | false =>
        refine ⟨segments directory, ?_, .inl rfl⟩
        rw [join, if_neg empty, slash, if_neg (by decide), segments_append]

theorem startsWith_append {left : String} (nonempty : left ≠ "") (right : String) :
    (left ++ right).startsWith "/" = left.startsWith "/" := by
  rw [Bool.eq_iff_iff, String.startsWith_string_iff, String.startsWith_string_iff,
    String.toList_append]
  cases characters : left.toList with
  | nil => exact absurd (String.toList_eq_nil_iff.mp characters) nonempty
  | cons character rest => simp

theorem startsWith_join {name : String} (relative : name.startsWith "/" = false)
    (directory : String) :
    (join directory name).startsWith "/" = directory.startsWith "/" := by
  by_cases empty : directory = ""
  · rw [join, if_pos empty, relative, empty]
    rfl
  · cases slash : directory.endsWith "/" with
    | true => rw [join, if_neg empty, if_pos slash, startsWith_append empty]
    | false =>
        rw [join, if_neg empty, slash, if_neg (by decide), String.append_assoc,
          startsWith_append empty]

/-- The segments of a path that lead anywhere. -/
def steps (segments : List String) : List String :=
  segments.filter fun segment => !isBlank segment

theorem steps_ofComponents_eq (components : List Component) :
    steps (segments (ofComponents components)) =
      steps (segments ("/".intercalate (components.map Component.text))) := by
  unfold ofComponents
  split
  · rfl
  · rfl

theorem steps_ofComponents {lead : List Component} {front : List String}
    (blank : ∀ component ∈ lead, isBlank component.text = true)
    (noSlash : ∀ segment ∈ front, '/' ∉ segment.toList)
    (nonempty : lead ++ front.filterMap component? ≠ []) :
    steps (segments (ofComponents (lead ++ front.filterMap component?))) = steps front := by
  have texts : (lead ++ front.filterMap component?).map Component.text =
      lead.map Component.text ++ steps front := by
    rw [List.map_append, map_text_filterMap, steps]
  have leadSteps : steps (lead.map Component.text) = [] := by
    simpa [steps] using blank
  have leadNoSlash : ∀ segment ∈ lead.map Component.text, '/' ∉ segment.toList := by
    intro segment member slash
    obtain ⟨component, inLead, same⟩ := List.mem_map.mp member
    have skipped := blank component inLead
    rw [same, isBlank, Bool.or_eq_true, decide_eq_true_iff, decide_eq_true_iff] at skipped
    rcases skipped with empty | dot
    · simp [empty] at slash
    · simp [dot] at slash
  rw [steps_ofComponents_eq, segments_intercalate]
  · rw [texts, steps, List.filter_append, ← steps, leadSteps, List.nil_append, steps,
      List.filter_filter]
    simp only [Bool.and_self]
  · simpa using nonempty
  · intro part member
    rw [texts] at member
    rcases List.mem_append.mp member with inLead | inFront
    · exact leadNoSlash part inLead
    · exact noSlash part (List.mem_filter.mp inFront).1

theorem startsWith_ofComponents_root (components : List Component) :
    (ofComponents (.root :: components)).startsWith "/" = true := by
  rw [String.startsWith_string_iff]
  cases components with
  | nil => exact List.prefix_rfl
  | cons component rest => simp [ofComponents, Component.text]

theorem startsWith_ofComponents_of_text {component : Component} (rest : List Component)
    (nonempty : component.text ≠ "") (noSlash : '/' ∉ component.text.toList) :
    (ofComponents (component :: rest)).startsWith "/" = false := by
  have alone : component.text.startsWith "/" = false := by
    rw [Bool.eq_false_iff, ne_eq, String.startsWith_string_iff]
    intro ⟨later, same⟩
    exact noSlash (same ▸ by simp)
  have written : ofComponents (component :: rest) =
      "/".intercalate (component.text :: rest.map Component.text) := by
    unfold ofComponents
    split
    next single =>
      rw [(List.cons.inj single).1] at nonempty
      exact absurd rfl nonempty
    · rfl
  cases rest with
  | nil => rw [written, List.map_nil, String.intercalate_singleton, alone]
  | cons next later =>
      rw [written, List.map_cons, String.intercalate_cons_cons, String.append_assoc,
        startsWith_append nonempty, alone]

theorem exists_prefix_of_take (segments : List String) (count : Nat) :
    ∃ front, front <+: segments ∧
      (segments.filterMap component?).take count = front.filterMap component? :=
  List.prefix_filterMap_iff.mp (List.take_prefix count _)

/-- A component of a relative path gives it no slash in front. -/
theorem startsWith_ofComponents_of_mem {front : List String} {component : Component}
    {rest : List Component} (noSlash : ∀ segment ∈ front, '/' ∉ segment.toList)
    (same : front.filterMap component? = component :: rest) :
    (ofComponents (component :: rest)).startsWith "/" = false := by
  have member : component.text ∈ steps front := by
    rw [steps, ← map_text_filterMap, same]
    exact List.mem_cons_self
  obtain ⟨inFront, leads⟩ := List.mem_filter.mp member
  apply startsWith_ofComponents_of_text rest ?_ (noSlash _ inFront)
  intro empty
  rw [empty] at leads
  cases leads

/-- The first components of a path lead where a beginning of its segments does. -/
theorem exists_front_of_take {directory : String} {count : Nat} (positive : 0 < count)
    (within : count ≤ (components directory).length) :
    ∃ front, front <+: segments directory ∧
      steps (segments (ofComponents ((components directory).take count))) = steps front ∧
      (ofComponents ((components directory).take count)).startsWith "/" =
        directory.startsWith "/" := by
  obtain ⟨less, count_eq⟩ := Nat.exists_eq_add_of_lt positive
  rw [Nat.zero_add] at count_eq
  have noSlash {front : List String} (begins : front <+: segments directory) :
      ∀ segment ∈ front, '/' ∉ segment.toList :=
    fun segment member => noSlash_of_mem_segments (begins.subset member)
  cases absolute : directory.startsWith "/" with
  | true =>
      obtain ⟨front, begins, same⟩ := exists_prefix_of_take (segments directory) less
      rw [components_absolute absolute, count_eq, List.take_succ_cons, same]
      refine ⟨front, begins, ?_, startsWith_ofComponents_root _⟩
      exact @steps_ofComponents [.root] front (by decide) (noSlash begins) (by simp)
  | false =>
      by_cases current : (segments directory).head? = some "."
      · obtain ⟨front, begins, same⟩ := exists_prefix_of_take (segments directory) less
        rw [components_current absolute current, count_eq, List.take_succ_cons, same]
        refine ⟨front, begins, ?_, ?_⟩
        · exact @steps_ofComponents [.current] front (by decide) (noSlash begins) (by simp)
        · exact startsWith_ofComponents_of_text _ (by decide) (by decide)
      · obtain ⟨front, begins, same⟩ := exists_prefix_of_take (segments directory) count
        rw [components_relative absolute current] at within ⊢
        have length := congrArg List.length same
        rw [List.length_take, Nat.min_eq_left within] at length
        rw [same]
        cases found : front.filterMap component? with
        | nil =>
            rw [found, List.length_nil] at length
            omega
        | cons component rest =>
            refine ⟨front, begins, ?_, startsWith_ofComponents_of_mem (noSlash begins) found⟩
            rw [← found]
            exact @steps_ofComponents [] front (List.forall_mem_nil _) (noSlash begins)
              (by simp [found])

/-- The directories made for a path are those that its beginnings lead to. -/
theorem exists_front_of_mem_withParents {directory path : String}
    (member : path ∈ withParents directory) :
    ∃ front, front <+: segments directory ∧ steps (segments path) = steps front ∧
      path.startsWith "/" = directory.startsWith "/" := by
  unfold withParents at member
  simp only at member
  split at member
  · cases member
  · rcases List.mem_cons.mp member with same | above
    · rw [same]
      exact ⟨segments directory, List.prefix_rfl, rfl, rfl⟩
    · obtain ⟨dropped, inRange, given⟩ := List.mem_filterMap.mp above
      rw [List.mem_range] at inRange
      split at given
      · cases given
      · cases given
        exact exists_front_of_take (by omega) (Nat.sub_le _ _)

end Gamecard.Path
