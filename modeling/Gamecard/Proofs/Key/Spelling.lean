import Gamecard.Proofs.Key.Names

/-!
# One spelling for every name

A text that is read as a name is the text of that name, and the name is known.
So there is one spelling for every known name, and no other text is read: the
digits of a generation are two, they are in lower case, and nothing stands
before them.
-/

namespace Gamecard.KeyName

/-- What is read as the name of a generation is known, and this is its text. -/
theorem of_readGenerational? {text : List Char} {name : KeyName}
    (read : readGenerational? text = some name) :
    name.isKnown = true ∧ text = name.text.toList := by
  simp only [readGenerational?, Option.bind_eq_bind, Option.bind_eq_some_iff,
    Option.some.injEq] at read
  obtain ⟨⟨base, suffix⟩, split, generation, digits, family, found, same⟩ := read
  dsimp only at digits
  have passes := List.find?_some found
  rw [Bool.and_eq_true, beq_iff_eq] at passes
  obtain ⟨spelled, known⟩ := passes
  subst same
  refine ⟨known, ?_⟩
  calc
    text = base ++ '_' :: suffix := eq_append_of_splitLast split
    _ = family.text.toList ++ '_' :: generationDigits generation := by
      rw [spelled, ← eq_digits_of_readGeneration? digits]
    _ = (KeyName.generational family generation).text.toList := by
      rw [KeyName.text, String.toList_ofList]

theorem of_read? {text : String} {name : KeyName} (read : read? text = some name) :
    name.isKnown = true ∧ text = name.text := by
  unfold read? at read
  split at read
  · rename_i key found
    cases read
    have spelled := List.find?_some found
    exact ⟨rfl, (beq_iff_eq.mp spelled).symm⟩
  · obtain ⟨known, same⟩ := of_readGenerational? read
    exact ⟨known, String.toList_inj.mp same⟩

theorem text_injective {left right : KeyName} (leftKnown : left.isKnown = true)
    (rightKnown : right.isKnown = true) (same : left.text = right.text) : left = right := by
  have leftRead := read?_text leftKnown
  rw [same, read?_text rightKnown] at leftRead
  exact (Option.some.inj leftRead).symm

/-- A number behind the last underscore of a name is a generation as it is printed. -/
theorem eq_digits_of_read? {before suffix : List Char} {name : KeyName}
    (numerals : ∀ character ∈ suffix, isNumeral character = true)
    (read : read? (String.ofList (before ++ '_' :: suffix)) = some name) :
    ∃ generation, suffix = generationDigits generation := by
  obtain ⟨_, same⟩ := of_read? read
  have missing : '_' ∉ suffix := by
    intro member
    exact absurd (numerals '_' member) (by decide)
  have split := splitLast_append missing before
  rw [← String.toList_ofList (l := before ++ '_' :: suffix), same] at split
  cases name with
  | scalar key =>
      have fixed := not_numeral_of_scalar split
      rw [List.all_eq_true.mpr numerals] at fixed
      cases fixed
  | generational family generation =>
      rw [text, String.toList_ofList,
        splitLast_append (underscore_notMem_digits generation)] at split
      cases split
      exact ⟨generation, rfl⟩

theorem generationDigits_two (generation : UInt8) :
    (generationDigits generation).length = 2 ∧
      ∀ character ∈ generationDigits generation,
        character.isDigit || ('a' ≤ character && character ≤ 'f') := by
  constructor
  · rw [generationDigits_eq]
    rfl
  · apply forall_digit
    decide

/-- A text is read as a name exactly if the name is known and the text is what it
is printed as.  So known names are printed differently, a number at the end of a
name has two lower-case digits and no sign, and a generation that is read is one
of its family. -/
theorem read?_eq_some_iff :
    (∀ (text : String) (name : KeyName),
        read? text = some name ↔ name.isKnown = true ∧ text = name.text) ∧
      (∀ left right : KeyName, left.isKnown = true → right.isKnown = true → left ≠ right →
        left.text ≠ right.text) ∧
      (∀ before suffix : List Char, (∀ character ∈ suffix, isNumeral character = true) →
        (read? (String.ofList (before ++ '_' :: suffix))).isSome = true →
          suffix.length = 2 ∧
            ∀ character ∈ suffix,
              character.isDigit || ('a' ≤ character && character ≤ 'f')) ∧
      ∀ (text : String) (family : Family) (generation : UInt8),
        read? text = some (.generational family generation) →
          family.first ≤ generation.toNat ∧ generation.toNat < family.stop := by
  refine ⟨?_, ?_, ?_, ?_⟩
  · intro text name
    constructor
    · exact of_read?
    · rintro ⟨known, same⟩
      rw [same]
      exact read?_text known
  · intro left right leftKnown rightKnown different same
    exact different (text_injective leftKnown rightKnown same)
  · intro before suffix numerals accepted
    obtain ⟨name, read⟩ := Option.isSome_iff_exists.mp accepted
    obtain ⟨generation, same⟩ := eq_digits_of_read? numerals read
    rw [same]
    exact generationDigits_two generation
  · intro text family generation read
    have known := (of_read? read).1
    rw [isKnown, Bool.and_eq_true, decide_eq_true_eq, decide_eq_true_eq] at known
    exact known

end Gamecard.KeyName
