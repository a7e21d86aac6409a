import Mathlib.Data.List.Basic
import RepoWitness.FixedWidthDigits

namespace RepoWitness

/-!
# Framed byte strings

Numbers of a fixed width and byte strings behind their length are read back
from the front of any text that starts with them, so equal concatenations of
such fields have equal fields.
-/

/-- The `width` bytes of a number, the most significant first. -/
def bigEndian (width value : Nat) : List UInt8 := (digitsOf 256 width value).map UInt8.ofNat

/-- A byte string behind its length as an eight-byte number. -/
def lengthPrefixed (bytes : List UInt8) : List UInt8 := bigEndian 8 bytes.length ++ bytes

def encodeEach {α : Type} (encode : Nat → α → List UInt8) : Nat → List α → List UInt8
  | _, [] => []
  | place, item :: rest => encode place item ++ encodeEach encode (place + 1) rest

@[simp] theorem length_bigEndian (width value : Nat) : (bigEndian width value).length = width := by
  simp [bigEndian]

theorem map_toNat_bigEndian (width value : Nat) :
    (bigEndian width value).map UInt8.toNat = digitsOf 256 width value := by
  rw [bigEndian, List.map_map]
  refine (List.map_congr_left fun digit isDigit => ?_).trans (List.map_id _)
  exact UInt8.toNat_ofNat_of_lt (digitsOf_lt (by decide) value digit isDigit)

section Frames

variable {width first second : Nat} {firstRest secondRest : List UInt8}

/-- Two numbers at the front of equal texts. -/
theorem bigEndian_append_inj (firstSmall : first < 256 ^ width) (secondSmall : second < 256 ^ width)
    (same : bigEndian width first ++ firstRest = bigEndian width second ++ secondRest) :
    first = second ∧ firstRest = secondRest := by
  obtain ⟨bytes, rest⟩ := List.append_inj same (by simp)
  refine ⟨?_, rest⟩
  rw [← valueFrom_digitsOf firstSmall, ← map_toNat_bigEndian, bytes, map_toNat_bigEndian,
    valueFrom_digitsOf secondSmall]

/-- Two length-prefixed strings at the front of equal texts. -/
theorem lengthPrefixed_append_inj {firstBytes secondBytes : List UInt8}
    (firstSmall : firstBytes.length < 256 ^ 8) (secondSmall : secondBytes.length < 256 ^ 8)
    (same : lengthPrefixed firstBytes ++ firstRest = lengthPrefixed secondBytes ++ secondRest) :
    firstBytes = secondBytes ∧ firstRest = secondRest := by
  rw [lengthPrefixed, lengthPrefixed, List.append_assoc, List.append_assoc] at same
  obtain ⟨length, rest⟩ := bigEndian_append_inj firstSmall secondSmall same
  exact List.append_inj rest length

/-- Two lists of one length at the front of equal texts. -/
theorem encodeEach_append_inj {α : Type} {encode : Nat → α → List UInt8}
    {firstItems secondItems : List α} {place : Nat}
    (readBack : ∀ place, ∀ firstItem ∈ firstItems, ∀ secondItem ∈ secondItems,
      ∀ firstRest secondRest,
        encode place firstItem ++ firstRest = encode place secondItem ++ secondRest →
          firstItem = secondItem ∧ firstRest = secondRest)
    (sameLength : firstItems.length = secondItems.length)
    (same : encodeEach encode place firstItems ++ firstRest =
      encodeEach encode place secondItems ++ secondRest) :
    firstItems = secondItems ∧ firstRest = secondRest := by
  induction firstItems generalizing secondItems place with
  | nil =>
    obtain rfl := List.length_eq_zero_iff.mp sameLength.symm
    exact ⟨rfl, same⟩
  | cons firstItem firstItems hypothesis =>
    cases secondItems with
    | nil => cases sameLength
    | cons secondItem secondItems =>
      rw [encodeEach, encodeEach, List.append_assoc, List.append_assoc] at same
      obtain ⟨rfl, later⟩ :=
        readBack place _ List.mem_cons_self _ List.mem_cons_self _ _ same
      obtain ⟨rfl, rest⟩ := hypothesis
          (fun place first isFirst second isSecond =>
            readBack place first (List.mem_cons_of_mem _ isFirst) second
              (List.mem_cons_of_mem _ isSecond))
          (Nat.succ.inj sameLength) later
      exact ⟨rfl, rest⟩

end Frames

end RepoWitness
