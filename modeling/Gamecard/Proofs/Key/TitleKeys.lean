import Gamecard.Key.TitleKeys
import Gamecard.Proofs.Text.HexReading

/-!
# Title keys taken over without a warning

The digits of a rights id are looked at, those of the value are not: a value of
the right length is taken over in silence whatever it consists of, with zero for
everything that is no digit.  The key is what was meant exactly if there was
nothing but digits.
-/

namespace Gamecard

namespace TitleKeys

theorem lookup_insertEntry (id : RightsId) (key : Key) (entries : List (RightsId × Key)) :
    (insertEntry id key entries).lookup id = some key := by
  induction entries with
  | nil => exact List.lookup_cons_self
  | cons entry rest induction =>
      obtain ⟨other, kept⟩ := entry
      rw [insertEntry]
      by_cases same : id = other
      · rw [if_pos same]
        exact List.lookup_cons_self
      · rw [if_neg same]
        by_cases before : id.bytes < other.bytes
        · rw [if_pos before]
          exact List.lookup_cons_self
        · rw [if_neg before, List.lookup_cons, beq_eq_false_iff_ne.mpr same]
          exact induction

theorem get?_insert (keys : TitleKeys) (id : RightsId) (key : Key) :
    (keys.insert id key).get? id = some key :=
  lookup_insertEntry id key keys.entries

theorem rightsIdFault?_eq_none_iff (rightsId : String) :
    rightsIdFault? rightsId = none ↔ Hex.IsNumber 32 rightsId := by
  rw [Hex.isNumber_iff, rightsIdFault?]
  by_cases odd : (Utf8.encode rightsId).length % 2 ≠ 0
  · have other : (Utf8.encode rightsId).length ≠ 32 := by omega
    simp only [if_pos odd, other, false_and, reduceCtorEq]
  · by_cases long : (Utf8.encode rightsId).length = 32
    · cases hex : Hex.isHexText rightsId with
      | false => simp [long]
      | true => simp [long]
    · simp only [if_neg odd, if_pos (show _ ≠ 32 from long), long, false_and, reduceCtorEq]

/-- What taking over a pair without a fault in its rights id does. -/
theorem ingest_of_isNumber (keys : TitleKeys) {rightsId : String}
    (number : Hex.IsNumber 32 rightsId) (value : String) :
    keys.ingest rightsId value =
      (keys.insert (Hex.decodeText 16 rightsId) (Hex.decodeText 16 value),
        if (Utf8.encode value).length ≠ 32 then some (.malformedTitleKey rightsId)
        else none) := by
  rw [ingest, (rightsIdFault?_eq_none_iff rightsId).mpr number]

theorem ingest_silent (keys : TitleKeys) (rightsId value : String) :
    (keys.ingest rightsId value).2 = none ↔
      Hex.IsNumber 32 rightsId ∧ (Utf8.encode value).length = 32 := by
  by_cases number : Hex.IsNumber 32 rightsId
  · rw [ingest_of_isNumber keys number]
    by_cases long : (Utf8.encode value).length = 32
    · simp [number, long]
    · simp [number, long]
  · cases fault : rightsIdFault? rightsId with
    | none => exact absurd ((rightsIdFault?_eq_none_iff rightsId).mp fault) number
    | some fault =>
        rw [ingest, fault]
        simp [number]

/-- A pair is taken over without a warning exactly if its rights id is a number of
thirty-two digits and its value takes thirty-two bytes.  The key that is kept then
shows how the value was read, and it is the value, but for the case of letters,
exactly if the value is a number of thirty-two digits too. -/
theorem ingest_silent_reads (keys : TitleKeys) (rightsId value : String) :
    ((keys.ingest rightsId value).2 = none ↔
        Hex.IsNumber 32 rightsId ∧ (Utf8.encode value).length = 32) ∧
      ((keys.ingest rightsId value).2 = none →
        ∃ (id : RightsId) (key : Key), (keys.ingest rightsId value).1.get? id = some key ∧
          id.toHex = rightsId.map Char.toUpper ∧
          key.toHex = String.ofList ((Utf8.encode value).map Hex.readAs) ∧
          (key.toHex = value.map Char.toUpper ↔ Hex.IsNumber 32 value)) := by
  refine ⟨ingest_silent keys rightsId value, ?_⟩
  intro silent
  obtain ⟨number, long⟩ := (ingest_silent keys rightsId value).mp silent
  refine ⟨Hex.decodeText 16 rightsId, Hex.decodeText 16 value, ?_, ?_, ?_, ?_⟩
  · rw [ingest_of_isNumber keys number]
    exact get?_insert keys _ _
  · exact Hex.toHex_decodeText_of_isNumber number
  · exact Hex.toHex_decodeText long
  · exact Hex.toHex_decodeText_eq_iff long

theorem ingest_silent_reads_mixedCase :
    (empty.ingest "0100000000001000000000000000000F"
        "000102030405060708090A0b0C0d0E0f").2 = none ∧
      ∃ (id : RightsId) (key : Key),
        (empty.ingest "0100000000001000000000000000000F"
          "000102030405060708090A0b0C0d0E0f").1.get? id = some key ∧
        key.toHex = "000102030405060708090A0b0C0d0E0f".map Char.toUpper := by
  obtain ⟨silent, reads⟩ := ingest_silent_reads empty "0100000000001000000000000000000F"
    "000102030405060708090A0b0C0d0E0f"
  have rightsId : Hex.IsNumber 32 "0100000000001000000000000000000F" :=
    Hex.isNumber_ofList rfl (by decide)
  have value : Hex.IsNumber 32 "000102030405060708090A0b0C0d0E0f" :=
    Hex.isNumber_ofList rfl (by decide)
  have quiet := silent.mpr ⟨rightsId, (Hex.isNumber_iff.mp value).1⟩
  obtain ⟨id, key, kept, _, _, exact⟩ := reads quiet
  exact ⟨quiet, id, key, kept, exact.mpr value⟩

/-- A letter that is no digit is taken for a zero, and nothing is said. -/
theorem ingest_silent_despite_letter :
    (empty.ingest "01000000000010000000000000000000"
        "000102030405060708090a0b0c0d0e0g").2 = none ∧
      ¬Hex.IsNumber 32 "000102030405060708090a0b0c0d0e0g" ∧
      ∃ key : Key,
        (empty.ingest "01000000000010000000000000000000"
          "000102030405060708090a0b0c0d0e0g").1.get?
            (Hex.decodeText 16 "01000000000010000000000000000000") = some key ∧
        key.toHex = "000102030405060708090A0B0C0D0E00" := by
  have rightsId : Hex.IsNumber 32 "01000000000010000000000000000000" :=
    Hex.isNumber_ofList rfl (by decide)
  have long : (Utf8.encode "000102030405060708090a0b0c0d0e0g").length = 2 * 16 :=
    (congrArg List.length (Utf8.encode_ofList _)).trans (by decide)
  have refused : Hex.isHexText "000102030405060708090a0b0c0d0e0g" = false :=
    (congrArg Hex.isHex (Utf8.encode_ofList _)).trans (by decide)
  refine ⟨(ingest_silent _ _ _).mpr ⟨rightsId, long⟩, ?_,
    Hex.decodeText 16 "000102030405060708090a0b0c0d0e0g", ?_, ?_⟩
  · intro number
    have accepted := (Hex.isNumber_iff.mp number).2
    rw [refused] at accepted
    cases accepted
  · rw [ingest_of_isNumber empty rightsId]
    exact get?_insert empty _ _
  · rw [Hex.toHex_decodeText long]
    exact congrArg String.ofList
      ((congrArg (List.map Hex.readAs) (Utf8.encode_ofList _)).trans (by decide))

end TitleKeys

end Gamecard
