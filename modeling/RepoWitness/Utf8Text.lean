import Mathlib.Data.List.Basic
import RepoWitness.ScopedText

namespace RepoWitness

namespace Text

/-!
# UTF-8 texts

A byte string is valid UTF-8 when it is the encoding of a text, and then the
text is unique.  An offset into the bytes is a character boundary when it is the
length of the encoding of some leading part of the text.
-/

/-- `str::as_bytes`. -/
def encodeUtf8 (text : Text) : List UInt8 := text.flatMap String.utf8EncodeChar

/-- `std::str::from_utf8`. -/
def decodeUtf8 (bytes : List UInt8) : Option Text := bytes.toByteArray.utf8Decode?.map Array.toList

theorem toByteArray_injective : Function.Injective (List.toByteArray : List UInt8 → ByteArray) := by
  intro first second same
  have bytes := congrArg (fun array => array.data.toList) same
  simpa using bytes

variable {text : Text}

theorem decodeUtf8_eq_some_iff {bytes : List UInt8} :
    decodeUtf8 bytes = some text ↔ bytes = encodeUtf8 text := by
  unfold decodeUtf8
  constructor
  · intro decoded
    obtain ⟨characters, isDecoded, rfl⟩ := Option.map_eq_some_iff.mp decoded
    have valid : bytes.toByteArray.IsValidUTF8 :=
      ByteArray.isSome_utf8Decode?_iff.mp (by rw [isDecoded]; rfl)
    obtain ⟨original, encoded⟩ := valid
    rw [encoded, List.utf8Decode?_utf8Encode] at isDecoded
    cases isDecoded
    exact toByteArray_injective encoded
  · rintro rfl
    have whole : (encodeUtf8 text).toByteArray = text.utf8Encode := rfl
    rw [whole, List.utf8Decode?_utf8Encode]
    rfl

theorem encodeUtf8_injective : Function.Injective encodeUtf8 := by
  intro first second same
  have decoded := decodeUtf8_eq_some_iff.mpr same
  rw [decodeUtf8_eq_some_iff.mpr rfl] at decoded
  exact Option.some.inj decoded

theorem length_encodeUtf8 (text : Text) : (encodeUtf8 text).length = byteLength text := by
  simp [encodeUtf8, byteLength, List.length_flatMap]

@[simp] theorem byteLength_append (first second : Text) :
    byteLength (first ++ second) = byteLength first + byteLength second := by
  simp [byteLength]

theorem byteLength_stripSuffix_le {pattern rest : Text}
    (stripped : stripSuffix pattern text = some rest) : byteLength rest ≤ byteLength text := by
  unfold stripSuffix at stripped
  split at stripped
  · cases stripped
    conv_rhs => rw [← List.take_append_drop (text.length - pattern.length) text]
    rw [byteLength_append]
    exact Nat.le_add_right _ _
  · cases stripped

/-! ## Character boundaries -/

/-- The offset is the encoded length of a leading part of the text. -/
def CharBoundary (text : Text) (offset : Nat) : Prop :=
  ∃ before after, text = before ++ after ∧ byteLength before = offset

def isCharBoundary : Text → Nat → Bool
  | [], offset => offset == 0
  | first :: rest, offset =>
    if offset = 0 then
      true
    else if offset < first.utf8Size then
      false
    else
      isCharBoundary rest (offset - first.utf8Size)

theorem isCharBoundary_iff (text : Text) (offset : Nat) :
    isCharBoundary text offset = true ↔ CharBoundary text offset := by
  induction text generalizing offset with
  | nil =>
    simp only [isCharBoundary, beq_iff_eq, CharBoundary]
    constructor
    · rintro rfl
      exact ⟨[], [], rfl, rfl⟩
    · rintro ⟨before, after, split, rfl⟩
      obtain ⟨rfl, _⟩ := List.append_eq_nil_iff.mp split.symm
      rfl
  | cons first rest hypothesis =>
    unfold isCharBoundary
    split
    case isTrue zero =>
        subst zero
        exact iff_of_true rfl ⟨[], first :: rest, rfl, rfl⟩
    case isFalse positive =>
        split
        case isTrue inside =>
            simp only [Bool.false_eq_true, false_iff]
            rintro ⟨before, after, split, size⟩
            cases before with
            | nil => exact positive size.symm
            | cons head tail =>
              cases split
              simp only [byteLength, List.map_cons, List.sum_cons] at size
              omega
        case isFalse beyond =>
            rw [hypothesis]
            constructor
            · rintro ⟨before, after, split, size⟩
              refine ⟨first :: before, after, by rw [split]; rfl, ?_⟩
              simp only [byteLength, List.map_cons, List.sum_cons] at size ⊢
              omega
            · rintro ⟨before, after, split, size⟩
              cases before with
              | nil => exact absurd size.symm positive
              | cons head tail =>
                cases split
                refine ⟨tail, after, rfl, ?_⟩
                simp only [byteLength, List.map_cons, List.sum_cons] at size ⊢
                omega

theorem CharBoundary.le {offset : Nat} (boundary : CharBoundary text offset) :
    offset ≤ byteLength text := by
  obtain ⟨before, after, rfl, rfl⟩ := boundary
  rw [byteLength_append]
  omega

end Text

end RepoWitness
