import Gamecard.FileSystem.Walk

/-!
# The calls of a walk

The table of a file system plans a tour: the root directory is entered, every file is
visited in turn, and the root directory is left.  A walk makes the calls of the tour up to
the first that is answered with a stop, or all of them.  Any answer may depend on all calls
before, and a stop that answers the last call counts as one.
-/

namespace Gamecard

namespace Visitor

variable {σ : Type}

/-- The state of a visitor after some calls, whatever it answers to them. -/
def fed (visitor : Visitor σ) (state : σ) (calls : List Visit) : σ :=
  calls.foldl (fun state call => (visitor state call).1) state

/-- The answer to a call that comes after some others. -/
def answer (visitor : Visitor σ) (state : σ) (before : List Visit) (call : Visit) : Walk :=
  (visitor (visitor.fed state before) call).2

/-- None of the calls is answered with a stop. -/
def GoesOn (visitor : Visitor σ) (state : σ) (calls : List Visit) : Prop :=
  ∀ before call after, calls = before ++ call :: after →
    visitor.answer state before call = .next

/-- The calls that are made of those planned, and whether the last of them is answered with
a stop. -/
inductive Makes (visitor : Visitor σ) (state : σ) (planned : List Visit) :
    List Visit → Walk → Prop where
  | all : visitor.GoesOn state planned → Makes visitor state planned planned .next
  | upTo {before : List Visit} {call : Visit} {after : List Visit} :
      planned = before ++ call :: after → visitor.GoesOn state before →
      visitor.answer state before call = .stop →
      Makes visitor state planned (before ++ [call]) .stop

/-- Makes calls one after the other until one is answered with a stop. -/
def make (visitor : Visitor σ) : List Visit → σ → σ × Walk
  | [], state => (state, .next)
  | call :: rest, state =>
    match visitor state call with
    | (state, .stop) => (state, .stop)
    | (state, .next) => make visitor rest state

/-- A visitor that also notes the calls it gets. -/
def noting (visitor : Visitor σ) : Visitor (σ × List Visit) := fun noted call =>
  (((visitor noted.1 call).1, noted.2 ++ [call]), (visitor noted.1 call).2)

variable {visitor : Visitor σ} {state : σ} {planned made : List Visit} {last : Walk}

theorem fed_append (visitor : Visitor σ) (state : σ) (before after : List Visit) :
    visitor.fed state (before ++ after) = visitor.fed (visitor.fed state before) after :=
  List.foldl_append

theorem goesOn_nil (visitor : Visitor σ) (state : σ) : visitor.GoesOn state [] := by
  intro before call after split
  exact absurd split.symm (List.append_ne_nil_of_right_ne_nil before (List.cons_ne_nil call after))

theorem goesOn_cons_iff {call : Visit} {rest : List Visit} :
    visitor.GoesOn state (call :: rest) ↔
      (visitor state call).2 = .next ∧ visitor.GoesOn (visitor state call).1 rest := by
  constructor
  · intro goes
    refine ⟨goes [] call rest rfl, ?_⟩
    intro before other after split
    apply goes (call :: before) other after
    rw [split, List.cons_append]
  · rintro ⟨first, later⟩ before other after split
    cases before with
    | nil =>
        cases split
        exact first
    | cons head before =>
        obtain ⟨same, rests⟩ := List.cons.inj split
        subst same
        exact later before other after rests

/-- Either all calls can be made, or there is a first one that is answered with a stop. -/
theorem exists_makes (visitor : Visitor σ) (state : σ) (planned : List Visit) :
    ∃ made last, visitor.Makes state planned made last := by
  induction planned generalizing state with
  | nil => exact ⟨[], .next, .all (visitor.goesOn_nil state)⟩
  | cons call rest induction =>
      cases first : (visitor state call).2 with
      | stop => exact ⟨[call], .stop, .upTo rfl (visitor.goesOn_nil state) first⟩
      | next =>
          obtain ⟨made, last, makes⟩ := induction (visitor state call).1
          cases makes with
          | all goes => exact ⟨call :: rest, .next, .all (goesOn_cons_iff.mpr ⟨first, goes⟩)⟩
          | upTo split goes stops =>
              subst split
              refine ⟨_, .stop, .upTo List.cons_append.symm ?_ stops⟩
              exact goesOn_cons_iff.mpr ⟨first, goes⟩

/-- Calls that are not answered with a stop are made, and then what follows them. -/
theorem GoesOn.make_append {before : List Visit} (goes : visitor.GoesOn state before)
    (after : List Visit) :
    visitor.make (before ++ after) state = visitor.make after (visitor.fed state before) := by
  induction before generalizing state with
  | nil => rfl
  | cons call rest induction =>
      obtain ⟨first, later⟩ := goesOn_cons_iff.mp goes
      have called : visitor state call = ((visitor state call).1, .next) := Prod.ext rfl first
      rw [List.cons_append, make, called]
      exact induction later

theorem Makes.make_eq (makes : visitor.Makes state planned made last) :
    visitor.make planned state = (visitor.fed state made, last) := by
  cases makes with
  | all goes =>
      have whole := goes.make_append []
      rwa [List.append_nil] at whole
  | @upTo before call after split goes stops =>
      have called : visitor (visitor.fed state before) call =
          ((visitor (visitor.fed state before) call).1, .stop) := Prod.ext rfl stops
      rw [split, goes.make_append, make, called, fed_append]
      rfl

theorem Makes.isPrefix (makes : visitor.Makes state planned made last) : made <+: planned := by
  cases makes with
  | all => exact List.prefix_refl planned
  | @upTo before call after split =>
      refine ⟨after, ?_⟩
      rw [split, List.append_assoc, List.singleton_append]

/-- The last answer is a stop exactly if any answer is. -/
theorem Makes.stop_iff (makes : visitor.Makes state planned made last) :
    last = .stop ↔ ∃ before call after, made = before ++ call :: after ∧
      visitor.answer state before call = .stop := by
  cases makes with
  | all goes =>
      constructor
      · intro impossible
        cases impossible
      · rintro ⟨before, call, after, split, stops⟩
        rw [goes before call after split] at stops
        cases stops
  | upTo split goes stops =>
      constructor
      · intro _
        exact ⟨_, _, [], rfl, stops⟩
      · intro _
        rfl

theorem fed_noting (state : σ) (before calls : List Visit) :
    visitor.noting.fed (state, before) calls = (visitor.fed state calls, before ++ calls) := by
  induction calls generalizing state before with
  | nil => exact congrArg (Prod.mk state) (List.append_nil before).symm
  | cons call rest induction =>
      have step := induction (visitor state call).1 (before ++ [call])
      rw [List.append_assoc, List.singleton_append] at step
      exact step

theorem answer_noting (before calls : List Visit) (call : Visit) :
    visitor.noting.answer (state, before) calls call = visitor.answer state calls call := by
  rw [answer, fed_noting]
  rfl

theorem GoesOn.noting (goes : visitor.GoesOn state planned) (before : List Visit) :
    visitor.noting.GoesOn (state, before) planned := by
  intro earlier call after split
  rw [answer_noting]
  exact goes earlier call after split

/-- Noting the calls does not change which are made. -/
theorem Makes.noting (makes : visitor.Makes state planned made last) (before : List Visit) :
    visitor.noting.Makes (state, before) planned made last := by
  cases makes with
  | all goes => exact .all (goes.noting before)
  | upTo split goes stops =>
      refine .upTo split (goes.noting before) ?_
      rw [answer_noting]
      exact stops

end Visitor

namespace FileSystem

variable {σ : Type}

/-- The calls of a walk that nothing stops. -/
def tour (fileSystem : FileSystem) : List Visit :=
  .enter rootPath :: (fileSystem.entries.map (.file rootPath) ++ [.leave rootPath])

theorem walkFiles_eq_make (visitor : Visitor σ) (entries : List Entry) (state : σ) :
    walkFiles visitor entries state =
      visitor.make (entries.map (.file rootPath) ++ [.leave rootPath]) state := by
  induction entries generalizing state with
  | nil =>
      rw [walkFiles, List.map_nil, List.nil_append, Visitor.make]
      cases visitor state (.leave rootPath) with
      | mk later answer => cases answer <;> rfl
  | cons entry rest induction =>
      rw [walkFiles, List.map_cons, List.cons_append, Visitor.make]
      cases visitor state (.file rootPath entry) with
      | mk later answer =>
          cases answer with
          | stop => rfl
          | next => exact induction later

theorem walk_eq_make (fileSystem : FileSystem) (visitor : Visitor σ) (state : σ) :
    fileSystem.walk visitor state = visitor.make fileSystem.tour state := by
  rw [walk, tour, Visitor.make]
  cases visitor state (.enter rootPath) with
  | mk later answer =>
      cases answer with
      | stop => rfl
      | next => exact walkFiles_eq_make visitor fileSystem.entries later

/-- A walk makes the calls of the tour up to the first that is answered with a stop, or all
of them; the visitor ends in the state that these calls lead to, and the walk is stopped
exactly if one of them was answered so. -/
theorem walk_makes (fileSystem : FileSystem) (visitor : Visitor σ) (state : σ) :
    ∃ made last, visitor.Makes state fileSystem.tour made last ∧ made <+: fileSystem.tour ∧
      fileSystem.walk visitor.noting (state, []) = ((visitor.fed state made, made), last) ∧
      fileSystem.walk visitor state = (visitor.fed state made, last) ∧
      (last = .stop ↔ ∃ before call after, made = before ++ call :: after ∧
        visitor.answer state before call = .stop) := by
  obtain ⟨made, last, makes⟩ := visitor.exists_makes state fileSystem.tour
  refine ⟨made, last, makes, makes.isPrefix, ?_, ?_, makes.stop_iff⟩
  · rw [walk_eq_make, (makes.noting []).make_eq, Visitor.fed_noting, List.nil_append]
  · rw [walk_eq_make, makes.make_eq]

end FileSystem

end Gamecard
