import Gamecard.Key.Cell
import Gamecard.Key.NameReader
import Mathlib.Data.List.Nodup

/-!
# Reading the names that are printed

Every known name is read back from its text.  The text of a generational name
ends in an underscore and two digits, and no fixed name ends like that, so the
two kinds of names are never mistaken for each other.
-/

namespace Gamecard

theorem nodup_scalarTexts : (Scalar.all.map Scalar.text).Nodup := by
  decide +kernel

theorem nodup_familyTexts : (Family.all.map Family.text).Nodup := by
  decide +kernel

theorem Scalar.mem_all (key : Scalar) : key ∈ Scalar.all := by
  cases key <;> simp [Scalar.all]

theorem Family.mem_all (family : Family) : family ∈ Family.all := by
  cases family <;> simp [Family.all]

theorem Scalar.text_injective {left right : Scalar} (same : left.text = right.text) :
    left = right :=
  List.inj_on_of_nodup_map nodup_scalarTexts left.mem_all right.mem_all same

theorem Family.text_injective {left right : Family} (same : left.text = right.text) :
    left = right :=
  List.inj_on_of_nodup_map nodup_familyTexts left.mem_all right.mem_all same

theorem Family.stop_le (family : Family) : family.stop ≤ 32 := by
  cases family <;> decide

namespace KeyName

theorem isKnown_of_cell? {name : KeyName} {cell : Cell} (found : name.cell? = some cell) :
    name.isKnown = true := by
  rw [← isSome_cell?, found]
  rfl

theorem find?_eq_some_of_unique {α : Type} {test : α → Bool} {items : List α} {item : α}
    (member : item ∈ items) (passes : test item = true)
    (unique : ∀ other, test other = true → other = item) : items.find? test = some item := by
  cases found : items.find? test with
  | none =>
      have fails := List.find?_eq_none.mp found item member
      exact absurd passes fails
  | some other => rw [unique other (List.find?_some found)]

theorem splitLast_eq_none {mark : Char} {text : List Char} (missing : mark ∉ text) :
    splitLast mark text = none := by
  induction text with
  | nil => rfl
  | cons character rest induction =>
      have other : character ≠ mark := fun same => missing (same ▸ List.mem_cons_self)
      have later : mark ∉ rest := fun member => missing (List.mem_cons_of_mem character member)
      rw [splitLast, induction later]
      exact if_neg other

theorem splitLast_append {mark : Char} {suffix : List Char} (missing : mark ∉ suffix)
    (base : List Char) : splitLast mark (base ++ mark :: suffix) = some (base, suffix) := by
  induction base with
  | nil =>
      rw [List.nil_append, splitLast, splitLast_eq_none missing]
      exact if_pos rfl
  | cons character rest induction =>
      rw [List.cons_append, splitLast, induction]

theorem eq_append_of_splitLast {mark : Char} {text before later : List Char}
    (found : splitLast mark text = some (before, later)) : text = before ++ mark :: later := by
  induction text generalizing before with
  | nil => cases found
  | cons character rest induction =>
      rw [splitLast] at found
      cases split : splitLast mark rest with
      | some parts =>
          rw [split] at found
          cases found
          rw [List.cons_append, ← induction split]
      | none =>
          rw [split] at found
          by_cases marked : character = mark
          · rw [if_pos marked] at found
            cases found
            rw [marked, List.nil_append]
          · rw [if_neg marked] at found
            cases found

theorem generationDigits_eq (generation : UInt8) :
    generationDigits generation =
      [Nat.digitChar (generation.toNat / 16), Nat.digitChar (generation.toNat % 16)] := by
  have bounded := generation.toNat_lt
  rw [generationDigits, Hex.ofNat, String.toList_ofList]
  by_cases short : generation.toNat < 16
  · rw [Nat.toDigits_of_lt_base short, Nat.div_eq_of_lt short, Nat.mod_eq_of_lt short]
    rfl
  · rw [Nat.toDigits_of_base_le (by decide) (Nat.not_lt.mp short),
      Nat.toDigits_of_lt_base (by omega)]
    rfl

/-- What holds of the sixteen digits holds of those that a generation is printed with. -/
theorem forall_digit {claim : Char → Prop}
    (all : ∀ half : Fin 16, claim (Nat.digitChar half)) (generation : UInt8) :
    ∀ character ∈ generationDigits generation, claim character := by
  have bounded := generation.toNat_lt
  rw [generationDigits_eq, List.forall_mem_cons, List.forall_mem_singleton]
  constructor
  · exact all ⟨generation.toNat / 16, by omega⟩
  · exact all ⟨generation.toNat % 16, Nat.mod_lt _ (by decide)⟩

theorem underscore_notMem_digits (generation : UInt8) :
    '_' ∉ generationDigits generation := by
  have other : ∀ character ∈ generationDigits generation, character ≠ '_' := by
    apply forall_digit
    decide
  exact fun member => other '_' member rfl

theorem map_toLower_digits (generation : UInt8) :
    (generationDigits generation).map Char.toLower = generationDigits generation := by
  have lower : ∀ character ∈ generationDigits generation, character.toLower = id character := by
    apply forall_digit
    decide
  rw [List.map_congr_left lower, List.map_id]

theorem lowerDigit?_digitChar (half : Fin 16) :
    lowerDigit? (Nat.digitChar half) = some half.val := by
  revert half
  decide

theorem readGeneration?_digits (generation : UInt8) :
    readGeneration? (generationDigits generation) = some generation := by
  have bounded := generation.toNat_lt
  have high := lowerDigit?_digitChar ⟨generation.toNat / 16, by omega⟩
  have low := lowerDigit?_digitChar ⟨generation.toNat % 16, Nat.mod_lt _ (by decide)⟩
  simp only [generationDigits_eq, readGeneration?, high, low, Option.bind_eq_bind,
    Option.bind_some, Nat.div_add_mod, UInt8.ofNat_toNat]

/-- A lower-case digit is the one that its value is written with. -/
theorem digitChar_of_lowerDigit? {character : Char} {value : Nat}
    (read : lowerDigit? character = some value) :
    value < 16 ∧ Nat.digitChar value = character := by
  have ascii : character.toNat < 128 := by
    unfold lowerDigit? at read
    split at read
    · rename_i range
      exact Nat.lt_of_le_of_lt range.2 (by decide)
    · split at read
      · rename_i range
        exact Nat.lt_of_le_of_lt range.2 (by decide)
      · cases read
  have each : ∀ code : Fin 128, (lowerDigit? (Char.ofNat code)).all fun value =>
      value < 16 && Nat.digitChar value == Char.ofNat code := by
    decide
  have here := each ⟨character.toNat, ascii⟩
  rw [Char.ofNat_toNat, read, Option.all_some, Bool.and_eq_true, decide_eq_true_eq,
    beq_iff_eq] at here
  exact here

theorem eq_digits_of_readGeneration? {suffix : List Char} {generation : UInt8}
    (read : readGeneration? suffix = some generation) :
    suffix = generationDigits generation := by
  match suffix with
  | [high, low] =>
      simp only [readGeneration?, Option.bind_eq_bind, Option.bind_eq_some_iff,
        Option.some.injEq] at read
      obtain ⟨highValue, highRead, lowValue, lowRead, same⟩ := read
      obtain ⟨highSmall, highWritten⟩ := digitChar_of_lowerDigit? highRead
      obtain ⟨lowSmall, lowWritten⟩ := digitChar_of_lowerDigit? lowRead
      have number : generation.toNat = 16 * highValue + lowValue := by
        rw [← same]
        exact UInt8.toNat_ofNat_of_lt' (by change 16 * highValue + lowValue < 256; omega)
      have quotient : (16 * highValue + lowValue) / 16 = highValue := by omega
      have remainder : (16 * highValue + lowValue) % 16 = lowValue := by omega
      rw [generationDigits_eq, number, quotient, remainder, highWritten, lowWritten]
  | [] => cases read
  | [_] => cases read
  | _ :: _ :: _ :: _ => cases read

/-- The characters of a hexadecimal number in either case, with or without a sign. -/
def isNumeral (character : Char) : Bool :=
  character.isDigit || ('a' ≤ character && character ≤ 'f') ||
    ('A' ≤ character && character ≤ 'F') || character == '+' || character == '-'

theorem isNumeral_digits (generation : UInt8) :
    (generationDigits generation).all isNumeral = true := by
  apply List.all_eq_true.mpr
  apply forall_digit
  decide

/-- A fixed name is in lower case, and what stands behind its last underscore is no
number. -/
theorem exists_letters_scalar (key : Scalar) :
    ∃ letters, key.text = String.ofList letters ∧ letters.map Char.toLower = letters ∧
      ((splitLast '_' letters).any fun parts => parts.2.all isNumeral) = false := by
  cases key <;> exact ⟨_, rfl, by decide, by decide⟩

theorem exists_letters_family (family : Family) :
    ∃ letters, family.text = String.ofList letters ∧
      letters.map Char.toLower = letters := by
  cases family <;> exact ⟨_, rfl, by decide⟩

theorem not_numeral_of_scalar {key : Scalar} {before suffix : List Char}
    (split : splitLast '_' key.text.toList = some (before, suffix)) :
    suffix.all isNumeral = false := by
  obtain ⟨letters, spelled, _, fixed⟩ := exists_letters_scalar key
  rw [spelled, String.toList_ofList] at split
  rwa [split] at fixed

theorem readGenerational?_scalar (key : Scalar) :
    readGenerational? key.text.toList = none := by
  cases read : readGenerational? key.text.toList with
  | none => rfl
  | some name =>
      simp only [readGenerational?, Option.bind_eq_bind, Option.bind_eq_some_iff] at read
      obtain ⟨⟨base, suffix⟩, split, generation, digits, _⟩ := read
      have printed : suffix = generationDigits generation :=
        eq_digits_of_readGeneration? digits
      have fixed := not_numeral_of_scalar split
      rw [printed, isNumeral_digits] at fixed
      cases fixed

theorem readGenerational?_text {family : Family} {generation : UInt8}
    (known : (KeyName.generational family generation).isKnown = true) :
    readGenerational? (family.text.toList ++ '_' :: generationDigits generation) =
      some (.generational family generation) := by
  have found : Family.all.find? (fun other =>
      other.text.toList == family.text.toList &&
        (KeyName.generational other generation).isKnown) = some family := by
    apply find?_eq_some_of_unique family.mem_all
    · rw [beq_self_eq_true, known]
      rfl
    · intro other passes
      rw [Bool.and_eq_true, beq_iff_eq] at passes
      exact Family.text_injective (String.toList_inj.mp passes.1)
  simp only [readGenerational?, splitLast_append (underscore_notMem_digits generation),
    readGeneration?_digits, found, Option.bind_eq_bind, Option.bind_some]

/-- Every known name is read back from its text. -/
theorem read?_text {name : KeyName} (known : name.isKnown = true) :
    read? name.text = some name := by
  cases name with
  | scalar key =>
      have found : Scalar.all.find? (fun other => other.text == key.text) = some key := by
        apply find?_eq_some_of_unique key.mem_all
        · exact beq_self_eq_true key.text
        · intro other passes
          exact Scalar.text_injective (beq_iff_eq.mp passes)
      simp only [read?, text, found]
  | generational family generation =>
      have read := readGenerational?_text known
      have noScalar : Scalar.all.find? (fun key =>
          key.text == (KeyName.generational family generation).text) = none := by
        rw [List.find?_eq_none]
        intro key _ same
        have none := readGenerational?_scalar key
        rw [beq_iff_eq.mp same, text, String.toList_ofList, read] at none
        cases none
      simp only [read?, noScalar]
      rw [text, String.toList_ofList, read]

/-- Names are printed in lower case. -/
theorem map_toLower_text (name : KeyName) : name.text.map Char.toLower = name.text := by
  apply String.toList_inj.mp
  cases name with
  | scalar key =>
      obtain ⟨letters, spelled, lower, _⟩ := exists_letters_scalar key
      rw [String.toList_map, text, spelled, String.toList_ofList, lower]
  | generational family generation =>
      obtain ⟨letters, spelled, lower⟩ := exists_letters_family family
      rw [String.toList_map, text, String.toList_ofList, spelled, String.toList_ofList,
        List.map_append, List.map_cons, lower, map_toLower_digits]
      rfl

theorem mem_all_of_isKnown {name : KeyName} (known : name.isKnown = true) :
    name ∈ KeyName.all := by
  cases name with
  | scalar key =>
      apply List.mem_flatMap.mpr
      refine ⟨.scalar key, ?_, List.mem_singleton_self _⟩
      exact List.mem_append_left _ (List.mem_map_of_mem key.mem_all)
  | generational family generation =>
      rw [isKnown, Bool.and_eq_true, decide_eq_true_eq, decide_eq_true_eq] at known
      apply List.mem_flatMap.mpr
      refine ⟨.perGeneration family, ?_, ?_⟩
      · exact List.mem_append_right _ (List.mem_map_of_mem family.mem_all)
      · have within : generation.toNat ∈
            List.range' family.first (family.stop - family.first) := by
          rw [List.mem_range'_1]
          omega
        have listed := List.mem_map_of_mem (f := UInt8.ofNat) within
        rw [UInt8.ofNat_toNat] at listed
        exact List.mem_map_of_mem listed

theorem isKnown_of_mem_all {name : KeyName} (member : name ∈ KeyName.all) :
    name.isKnown = true := by
  obtain ⟨entry, _, listed⟩ := List.mem_flatMap.mp member
  cases entry with
  | scalar key =>
      rw [List.mem_singleton.mp listed]
      rfl
  | perGeneration family =>
      obtain ⟨generation, generated, same⟩ := List.mem_map.mp listed
      obtain ⟨number, within, numbered⟩ := List.mem_map.mp generated
      rw [List.mem_range'_1] at within
      have bounded := family.stop_le
      have value : generation.toNat = number := by
        rw [← numbered]
        exact UInt8.toNat_ofNat_of_lt' (by change number < 256; omega)
      rw [← same, isKnown, Bool.and_eq_true, decide_eq_true_eq, decide_eq_true_eq, value]
      omega

end KeyName

end Gamecard
