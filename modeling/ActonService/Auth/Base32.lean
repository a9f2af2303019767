import ActonService.Auth.ApiKeyLookup
import ActonService.Lib.BitString

/-!
# base32 as a code for bit strings

What `base32_encode` of `auth/api_keys/mod.rs` is meant to write: the bits of the bytes in groups
of five, the highest first and the last group filled up with zeros, with a letter of the alphabet
for each group.

## Main definitions

* `base32OfBits` — the letters of the groups.

## Main results

* `base32Encode_eq_base32OfBits` — **the buffer, from which bits are lost at every byte, loses none
  that is still to be written.**
* `base32Encode_rfc4648` — the length, the letters and the code of any bytes.
-/

namespace ActonService

open BitString

/-- The bits of the bytes, eight of each, the highest first. -/
def bytesBits (bytes : List UInt8) : List Bool := bytes.flatMap fun byte => bits 8 byte.toNat

/-- The letters of the groups of five bits. -/
def base32OfBits (bytes : List UInt8) : List Char :=
  (groups 5 (bytesBits bytes)).map fun group => base32Alphabet.getD (value group) 'a'

@[simp] theorem length_bytesBits (bytes : List UInt8) :
    (bytesBits bytes).length = 8 * bytes.length := by
  rw [bytesBits, List.length_flatMap]
  simp [Nat.mul_comm]

@[simp] theorem length_base32OfBits (bytes : List UInt8) :
    (base32OfBits bytes).length = (8 * bytes.length) ⌈/⌉ 5 := by
  rw [base32OfBits, List.length_map, length_groups, length_bytesBits]

/-- The bits of the bytes stand for what the bytes stand for. -/
theorem value_bytesBits (bytes : List UInt8) : value (bytesBits bytes) = bytesValue bytes := by
  have hlength : ∀ g ∈ bytes.map fun byte => bits 8 byte.toNat, g.length = 8 := by
    intro g hg
    obtain ⟨byte, -, rfl⟩ := List.mem_map.mp hg
    exact length_bits 8 byte.toNat
  have hvalue : ∀ byte : UInt8, value (bits 8 byte.toNat) = byte.toNat := fun byte =>
    (value_bits 8 byte.toNat).trans (Nat.mod_eq_of_lt byte.toNat_lt)
  rw [bytesBits, List.flatMap_def, value_flatten hlength, List.map_map]
  simp only [Function.comp_def, hvalue]
  rfl

/-- The place of a group's letter in the alphabet is what the group stands for. -/
theorem idxOf_letter {group : List Bool} (h : group.length = 5) :
    base32Alphabet.getD (value group) 'a' ∈ base32Alphabet ∧
      base32Alphabet.idxOf (base32Alphabet.getD (value group) 'a') = value group := by
  have hlt : value group < base32Alphabet.length := by
    have hvalue := value_lt group
    rw [h] at hvalue
    exact hvalue
  have hnodup : base32Alphabet.Nodup := by decide
  rw [List.getD_eq_getElem _ _ hlt]
  exact ⟨List.getElem_mem hlt, hnodup.idxOf_getElem _ hlt⟩

/-- What the letters of the groups stand for. -/
theorem charsValue_base32OfBits (bytes : List UInt8) :
    charsValue (base32OfBits bytes)
      = bytesValue bytes * 2 ^ (5 * ((8 * bytes.length) ⌈/⌉ 5) - 8 * bytes.length) := by
  have hgroups : ∀ group ∈ groups 5 (bytesBits bytes), group.length = 5 := fun _ hg =>
    length_of_mem_groups hg
  have hdigits : (base32OfBits bytes).map base32Alphabet.idxOf
      = (groups 5 (bytesBits bytes)).map value := by
    rw [base32OfBits, List.map_map]
    exact List.map_congr_left fun group hg => (idxOf_letter (hgroups group hg)).2
  -- the groups are the bits and the zeros behind them
  have hflat := value_flatten hgroups
  rw [flatten_groups (by decide), value_append, List.length_replicate, value_zeros, Nat.add_zero,
    value_bytesBits, length_bytesBits] at hflat
  rw [charsValue, hdigits, hflat]
  rfl

/-- What stands for the same number in as many letters is the same. -/
theorem charsValue_inj {chars chars' : List Char} (hlength : chars.length = chars'.length)
    (h : ∀ c ∈ chars, c ∈ base32Alphabet) (h' : ∀ c ∈ chars', c ∈ base32Alphabet)
    (heq : charsValue chars = charsValue chars') : chars = chars' := by
  have hlt {chars : List Char} (h : ∀ c ∈ chars, c ∈ base32Alphabet) :
      ∀ d ∈ chars.map base32Alphabet.idxOf, d < 32 := by
    intro d hd
    obtain ⟨c, hc, rfl⟩ := List.mem_map.mp hd
    exact List.idxOf_lt_length_of_mem (h c hc)
  have hback {chars : List Char} (h : ∀ c ∈ chars, c ∈ base32Alphabet) :
      (chars.map base32Alphabet.idxOf).map (base32Alphabet.getD · 'a') = chars := by
    rw [List.map_map]
    refine (List.map_congr_left fun c hc => ?_).trans (List.map_id chars)
    have hlt := List.idxOf_lt_length_of_mem (h c hc)
    exact (List.getD_eq_getElem _ _ hlt).trans (List.getElem_idxOf hlt)
  have hdigits := bigEndian_inj (by decide) (by simpa using hlength) (hlt h) (hlt h') heq
  rw [← hback h, ← hback h', hdigits]

/-- The bits that are written for the bytes. -/
theorem five_mul_ceilDiv (bytes : List UInt8) :
    5 * ((8 * bytes.length) ⌈/⌉ 5) = 8 * bytes.length + padding (8 * bytes.length % 5) := by
  rw [Nat.ceilDiv_eq_add_pred_div, padding]
  split <;> omega

/-- There is a letter for every five bits, and one for what is left. -/
theorem length_base32Encode_eq (bytes : List UInt8) :
    (base32Encode bytes).length = (8 * bytes.length) ⌈/⌉ 5 := by
  have hlength := (base32Encode_spec bytes).1
  rw [← five_mul_ceilDiv bytes] at hlength
  exact Nat.eq_of_mul_eq_mul_left (by decide) hlength

/-- **What is written** is what is meant, although the buffer keeps the last bits only. -/
theorem base32Encode_eq_base32OfBits (bytes : List UInt8) :
    base32Encode bytes = base32OfBits bytes := by
  obtain ⟨-, hmem, hvalue⟩ := base32Encode_spec bytes
  have hlength : (base32Encode bytes).length = (base32OfBits bytes).length :=
    (length_base32Encode_eq bytes).trans (length_base32OfBits bytes).symm
  have hletters : ∀ c ∈ base32OfBits bytes, c ∈ base32Alphabet := by
    intro c hc
    obtain ⟨group, hg, rfl⟩ := List.mem_map.mp hc
    exact (idxOf_letter (length_of_mem_groups hg)).1
  -- both stand for the number of the bytes, filled up to the same length
  refine charsValue_inj hlength hmem hletters ?_
  rw [hvalue, charsValue_base32OfBits, five_mul_ceilDiv, Nat.add_sub_cancel_left]

/-- **base32, in small letters and without padding**: the length, the letters, the bits, and that
nothing is lost. -/
theorem base32Encode_rfc4648 (bytes : List UInt8) :
    (base32Encode bytes).length = (8 * bytes.length) ⌈/⌉ 5 ∧
      (∀ c ∈ base32Encode bytes, c ∈ base32Alphabet) ∧
      base32Encode bytes = base32OfBits bytes ∧
      ∀ bytes', bytes'.length = bytes.length → base32Encode bytes' = base32Encode bytes →
        bytes' = bytes :=
  ⟨length_base32Encode_eq bytes, (base32Encode_spec bytes).2.1, base32Encode_eq_base32OfBits bytes,
    fun _ hlength heq => base32Encode_injective hlength heq⟩

end ActonService
