import ActonService.Auth.ApiKeys
import Mathlib.Data.Bool.AllAny
import Mathlib.Data.List.TakeWhile
import Mathlib.Data.Nat.Digits.Lemmas

/-!
# Issuing API keys and finding them again

`ApiKeyGenerator` of `auth/api_keys/mod.rs`: a key is the configured start and 24 random bytes in
base32, and it is looked up by that start and the first eight characters of the rest.  The text
that is looked up comes from a client.

## Main definitions

* `base32Encode` — the bytes in base32.
* `generate`, `lookupStart` — a key, and what it is to be looked up by.
* `RedisApiKeys.create` — storing a key.
* `CutsCharacter` — the eighth byte behind the last underscore ends inside a character.

## Main results

* `base32Encode_injective` — different bytes are encoded differently.
* `generate_injective` — so different random bytes give different keys.
* `keyPrefixForLookup_iff` — **when the lookup start is found without a panic; every key that is
  issued is found again.**
-/

namespace ActonService

open Effect

/-! ### base32 -/

/-- `ALPHABET` -/
def base32Alphabet : List Char := "abcdefghijklmnopqrstuvwxyz234567".toList

theorem toNat_and_lt (group : UInt64) : (group &&& 0x1f).toNat < base32Alphabet.length := by
  rw [UInt64.toNat_and]
  exact Nat.lt_succ_of_le Nat.and_le_right

/-- The character of the last five bits. -/
def base32Char (group : UInt64) : Char :=
  base32Alphabet.get ⟨(group &&& 0x1f).toNat, toNat_and_lt group⟩

/-- `while bits >= 5` -/
def base32Drain (buffer : UInt64) (result : List Char) : ℕ → List Char × ℕ
  | bits + 5 => base32Drain buffer (result ++ [base32Char (buffer >>> UInt64.ofNat bits)]) bits
  | bits => (result, bits)

/-- `result`, `buffer` and `bits` -/
structure Base32State where
  result : List Char
  buffer : UInt64
  bits : ℕ

/-- `for &byte in bytes` -/
def base32Push (s : Base32State) (byte : UInt8) : Base32State :=
  let buffer := (s.buffer <<< 8) ||| byte.toUInt64
  let drained := base32Drain buffer s.result (s.bits + 8)
  ⟨drained.1, buffer, drained.2⟩

/-- `base32_encode` -/
def base32Encode (bytes : List UInt8) : List Char :=
  let s := bytes.foldl base32Push ⟨[], 0, 0⟩
  if s.bits > 0 then s.result ++ [base32Char (s.buffer <<< UInt64.ofNat (5 - s.bits))]
  else s.result

example : base32Encode [0x66, 0x6f, 0x6f] = "mzxw6".toList := by decide

/-! ### Keys -/

/-- `generate`: the key and its hash.  A key that cannot be hashed panics. -/
def generate (hash : String → Option String) (start : String) (randomBytes : Vector UInt8 24) :
    Except ApiKeyError (String × String) :=
  let key := start ++ "_" ++ String.ofList (base32Encode randomBytes.toList)
  match hash key with
  | some h => .ok (key, h)
  | none => .error .panicked

/-- What a key is stored and looked up by: the start and the first eight characters of the rest. -/
def lookupStart (start : String) (randomBytes : Vector UInt8 24) : String :=
  start ++ "_" ++ String.ofList ((base32Encode randomBytes.toList).take 8)

/-- `user_key` -/
def RedisApiKeys.userKey (userId : String) : String := "api_key:user:" ++ userId

/-- `create` -/
def RedisApiKeys.create (key : ApiKey) : ApiKeyProg Unit := do
  connect
  command "Failed to store API key: " (.set (idKey key.id) (.text (.record key)))
  command "Failed to store prefix mapping: "
    (.set (prefixKey key.keyPrefix) (.text (.plain key.id)))
  command "Failed to add to user set: " (.sadd (userKey key.userId) key.id)

/-! ### Bytes of a text -/

/-- `len()` -/
def byteLen (s : List Char) : ℕ := (s.map Char.utf8Size).sum

@[simp] theorem byteLen_nil : byteLen [] = 0 := rfl

@[simp] theorem byteLen_cons (c : Char) (s : List Char) :
    byteLen (c :: s) = c.utf8Size + byteLen s := rfl

theorem utf8ByteSize_ofList (s : List Char) : (String.ofList s).utf8ByteSize = byteLen s := by
  induction s with
  | nil => rfl
  | cons c s ih =>
    rw [byteLen_cons, ← ih, ← List.singleton_append, String.ofList_append,
      String.utf8ByteSize_append]
    simp

/-- A slice whose end lies inside a character fails. -/
theorem takeBytes_eq_none {n : ℕ} {front behind : List Char} {c : Char} (hlt : byteLen front < n)
    (hgt : n < byteLen front + c.utf8Size) : takeBytes n (front ++ c :: behind) = none := by
  induction front generalizing n with
  | nil =>
    obtain _ | n := n
    · exact absurd hlt (Nat.lt_irrefl 0)
    · rw [byteLen_nil, Nat.zero_add] at hgt
      rw [List.nil_append, takeBytes, if_neg (Nat.not_le.mpr hgt)]
  | cons d front ih =>
    rw [byteLen_cons] at hlt hgt
    obtain _ | n := n
    · exact absurd hlt (Nat.not_lt_zero _)
    · rw [List.cons_append, takeBytes, if_pos (by omega), ih (by omega) (by omega)]
      rfl

/-- A slice that fails, of a text that is long enough, ends inside a character. -/
theorem exists_of_takeBytes_eq_none {n : ℕ} {s : List Char} (hlen : n ≤ byteLen s)
    (h : takeBytes n s = none) : ∃ front c behind, s = front ++ c :: behind ∧ byteLen front < n ∧
      n < byteLen front + c.utf8Size := by
  induction s generalizing n with
  | nil =>
    obtain rfl : n = 0 := Nat.le_zero.mp hlen
    cases h
  | cons c s ih =>
    obtain _ | n := n
    · cases h
    · rw [takeBytes] at h
      split at h
      · next hle =>
        rw [byteLen_cons] at hlen
        obtain ⟨front, d, behind, rfl, hlt, hgt⟩ :=
          ih (n := n + 1 - c.utf8Size) (by omega) (by simpa using h)
        refine ⟨c :: front, d, behind, rfl, ?_, ?_⟩
        · rw [byteLen_cons]
          omega
        · rw [byteLen_cons]
          omega
      · next hgt => exact ⟨[], c, s, rfl, Nat.succ_pos n, by simpa using hgt⟩

/-- Of characters that are one byte each, as many are taken. -/
theorem takeBytes_of_ascii {n : ℕ} {s : List Char} (hsize : ∀ c ∈ s, c.utf8Size = 1)
    (hlen : n ≤ s.length) : takeBytes n s = some (s.take n) := by
  induction s generalizing n with
  | nil =>
    obtain rfl : n = 0 := Nat.le_zero.mp hlen
    rfl
  | cons c s ih =>
    obtain _ | n := n
    · rfl
    · have hc : c.utf8Size = 1 := hsize c List.mem_cons_self
      rw [takeBytes, if_pos (by omega), hc, Nat.add_sub_cancel,
        ih (fun d hd => hsize d (List.mem_cons_of_mem c hd)) (Nat.le_of_succ_le_succ hlen)]
      rfl

theorem byteLen_of_ascii {s : List Char} (hsize : ∀ c ∈ s, c.utf8Size = 1) :
    byteLen s = s.length := by
  induction s with
  | nil => rfl
  | cons c s ih =>
    rw [byteLen_cons, hsize c List.mem_cons_self,
      ih fun d hd => hsize d (List.mem_cons_of_mem c hd), List.length_cons, Nat.add_comm]

/-! ### The last underscore -/

theorem splitLast_append {start behind : List Char} (h : '_' ∉ behind) :
    splitLast (start ++ '_' :: behind) = some (start, behind) := by
  have hbehind : ((start ++ '_' :: behind).reverse.takeWhile (· ≠ '_')).reverse = behind := by
    rw [List.reverse_append, List.reverse_cons, List.append_assoc, List.takeWhile_append_of_pos]
    · simp
    · intro c hc
      simpa using fun hc' : c = '_' => h (hc' ▸ List.mem_reverse.mp hc)
  have hlength : (start ++ '_' :: behind).length - behind.length - 1 = start.length := by
    rw [List.length_append, List.length_cons]
    omega
  rw [splitLast, hbehind, if_pos (by simp; omega), hlength, List.take_left]

theorem splitLast_of_not_mem {s : List Char} (h : '_' ∉ s) : splitLast s = none := by
  have hall : (s.reverse.takeWhile (· ≠ '_')).reverse = s := by
    rw [List.takeWhile_eq_self_iff.mpr, List.reverse_reverse]
    intro c hc
    simpa using fun hc' : c = '_' => h (hc' ▸ List.mem_reverse.mp hc)
  rw [splitLast, hall, if_neg (Nat.lt_irrefl _)]

/-- A text without an underscore has no part behind one; any other is split at its last. -/
theorem splitLast_cases (s : List Char) :
    ('_' ∉ s ∧ splitLast s = none) ∨
      ∃ start behind, s = start ++ '_' :: behind ∧ '_' ∉ behind ∧
        splitLast s = some (start, behind) := by
  by_cases h : '_' ∈ s
  · obtain ⟨front, behind, hsplit, hfront⟩ :=
      List.eq_append_cons_of_mem (List.mem_reverse.mpr h)
    have hs : s = behind.reverse ++ '_' :: front.reverse := by
      rw [← List.reverse_reverse s, hsplit, List.reverse_append, List.reverse_cons,
        List.append_assoc, List.singleton_append]
    have hmem : '_' ∉ front.reverse := fun hm => hfront (List.mem_reverse.mp hm)
    exact .inr ⟨_, _, hs, hmem, hs ▸ splitLast_append hmem⟩
  · exact .inl ⟨h, splitLast_of_not_mem h⟩

/-! ### What base32 preserves -/

/-- The number whose digits these are, the first digit highest. -/
def bigEndian (base : ℕ) (digits : List ℕ) : ℕ := digits.foldl (fun v d => v * base + d) 0

theorem bigEndian_append_singleton (base : ℕ) (digits : List ℕ) (d : ℕ) :
    bigEndian base (digits ++ [d]) = bigEndian base digits * base + d := by
  rw [bigEndian, List.foldl_append]
  rfl

theorem bigEndian_eq_ofDigits (base : ℕ) (digits : List ℕ) :
    bigEndian base digits = Nat.ofDigits base digits.reverse := by
  induction digits using List.reverseRecOn with
  | nil => rfl
  | append_singleton digits d ih =>
    rw [bigEndian_append_singleton, ih, List.reverse_append, List.reverse_singleton,
      List.singleton_append, Nat.ofDigits_cons, Nat.add_comm, Nat.mul_comm]

/-- Numbers with as many digits are different if a digit is. -/
theorem bigEndian_inj {base : ℕ} {digits digits' : List ℕ} (hbase : 1 < base)
    (hlength : digits.length = digits'.length) (h : ∀ d ∈ digits, d < base)
    (h' : ∀ d ∈ digits', d < base) (heq : bigEndian base digits = bigEndian base digits') :
    digits = digits' := by
  rw [bigEndian_eq_ofDigits, bigEndian_eq_ofDigits] at heq
  refine List.reverse_injective
    (Nat.ofDigits_inj_of_len_eq hbase (by simpa using hlength) ?_ ?_ heq)
  · simpa using h
  · simpa using h'

/-- The number that bytes stand for. -/
def bytesValue (bytes : List UInt8) : ℕ := bigEndian 256 (bytes.map UInt8.toNat)

/-- The number that characters of the alphabet stand for. -/
def charsValue (chars : List Char) : ℕ := bigEndian 32 (chars.map base32Alphabet.idxOf)

theorem bytesValue_append_singleton (bytes : List UInt8) (b : UInt8) :
    bytesValue (bytes ++ [b]) = bytesValue bytes * 256 + b.toNat := by
  rw [bytesValue, List.map_append, List.map_singleton, bigEndian_append_singleton, bytesValue]

theorem charsValue_append_singleton (chars : List Char) (c : Char) :
    charsValue (chars ++ [c]) = charsValue chars * 32 + base32Alphabet.idxOf c := by
  rw [charsValue, List.map_append, List.map_singleton, bigEndian_append_singleton, charsValue]

theorem bytesValue_inj {bytes bytes' : List UInt8} (hlength : bytes.length = bytes'.length)
    (h : bytesValue bytes = bytesValue bytes') : bytes = bytes' := by
  have hlt (bytes : List UInt8) : ∀ d ∈ bytes.map UInt8.toNat, d < 256 := by
    intro d hd
    obtain ⟨b, -, rfl⟩ := List.mem_map.mp hd
    exact b.toNat_lt
  have hdigits := bigEndian_inj (by decide) (by simpa using hlength) (hlt bytes) (hlt bytes') h
  exact List.map_injective_iff.mpr (fun _ _ => UInt8.toNat_inj.mp) hdigits

theorem base32Char_mem (group : UInt64) : base32Char group ∈ base32Alphabet :=
  List.get_mem _ _

theorem idxOf_base32Char (group : UInt64) :
    base32Alphabet.idxOf (base32Char group) = group.toNat % 32 := by
  have hnodup : base32Alphabet.Nodup := by decide
  rw [base32Char, List.get_eq_getElem, hnodup.idxOf_getElem]
  show (group &&& 0x1f).toNat = group.toNat % 32
  rw [UInt64.toNat_and]
  exact Nat.and_two_pow_sub_one_eq_mod group.toNat 5

/-- What is written and what is left in the buffer. -/
def base32Value (result : List Char) (buffer : UInt64) (bits : ℕ) : ℕ :=
  charsValue result * 2 ^ bits + buffer.toNat % 2 ^ bits

/-- **The inner loop** writes what is in the buffer, but for the last bits. -/
theorem base32Drain_spec (buffer : UInt64) (result : List Char) (bits : ℕ) (hbits : bits < 64)
    (hmem : ∀ c ∈ result, c ∈ base32Alphabet) :
    (base32Drain buffer result bits).2 < 5 ∧
      5 * (base32Drain buffer result bits).1.length + (base32Drain buffer result bits).2
        = 5 * result.length + bits ∧
      (∀ c ∈ (base32Drain buffer result bits).1, c ∈ base32Alphabet) ∧
      base32Value (base32Drain buffer result bits).1 buffer (base32Drain buffer result bits).2
        = base32Value result buffer bits := by
  fun_induction base32Drain buffer result bits with
  | case1 result bits ih =>
    obtain ⟨hlt, hlength, hchars, hvalue⟩ := ih (by omega) (by
      intro c hc
      rcases List.mem_append.mp hc with hc | hc
      · exact hmem c hc
      · rw [List.mem_singleton.mp hc]
        exact base32Char_mem _)
    refine ⟨hlt, ?_, hchars, ?_⟩
    · rw [hlength, List.length_append, List.length_singleton]
      omega
    · -- the five bits that are written move from the buffer to the characters
      have hshift : (buffer >>> UInt64.ofNat bits).toNat = buffer.toNat / 2 ^ bits := by
        rw [UInt64.toNat_shiftRight, UInt64.toNat_ofNat', Nat.shiftRight_eq_div_pow]
        congr 2
        omega
      have hsplit : buffer.toNat % 2 ^ (bits + 5)
          = buffer.toNat % 2 ^ bits + 2 ^ bits * (buffer.toNat / 2 ^ bits % 32) := by
        rw [pow_add, Nat.mod_mul]
        rfl
      have hwidth : bits.succ.succ.succ.succ.succ = bits + 5 := rfl
      rw [hvalue, base32Value, base32Value, charsValue_append_singleton, idxOf_base32Char, hshift,
        hwidth, hsplit, pow_add]
      ring
  | case2 result bits hsmall =>
    refine ⟨?_, rfl, hmem, rfl⟩
    by_contra hge
    exact hsmall (bits - 5) (by omega)

/-- What the outer loop keeps: everything so far is written, but for less than five bits. -/
structure Base32Inv (bytes : List UInt8) (s : Base32State) : Prop where
  bits_lt : s.bits < 5
  length : 5 * s.result.length + s.bits = 8 * bytes.length
  mem : ∀ c ∈ s.result, c ∈ base32Alphabet
  value : base32Value s.result s.buffer s.bits = bytesValue bytes

/-- A byte is put into the buffer below what is in it. -/
theorem buffer_mod (buffer : UInt64) (byte : UInt8) {bits : ℕ} (hbits : bits < 5) :
    ((buffer <<< 8) ||| byte.toUInt64).toNat % 2 ^ (bits + 8)
      = buffer.toNat % 2 ^ bits * 256 + byte.toNat := by
  have hbyte : byte.toNat < 2 ^ 8 := byte.toNat_lt
  have hnat : ((buffer <<< 8) ||| byte.toUInt64).toNat
      = (buffer.toNat * 256 + byte.toNat) % 2 ^ 64 := by
    have hshift : (buffer <<< 8).toNat = (buffer.toNat <<< 8) % 2 ^ 64 := by
      rw [UInt64.toNat_shiftLeft]
      rfl
    rw [UInt64.toNat_or, hshift, UInt8.toNat_toUInt64,
      ← Nat.mod_eq_of_lt (a := byte.toNat) (b := 2 ^ 64) (by omega), ← Nat.or_mod_two_pow,
      Nat.mod_eq_of_lt (a := byte.toNat) (by omega), ← Nat.shiftLeft_add_eq_or_of_lt hbyte,
      Nat.shiftLeft_eq]
  have hdvd : 2 ^ (bits + 8) ∣ 2 ^ 64 := Nat.pow_dvd_pow 2 (by omega)
  have hpow : 2 ^ (bits + 8) = 2 ^ 8 * 2 ^ bits := by
    rw [pow_add, Nat.mul_comm]
  have h256 : (256 : ℕ) = 2 ^ 8 := rfl
  rw [hnat, Nat.mod_mod_of_dvd _ hdvd, hpow, Nat.mod_mul, h256, Nat.mul_comm buffer.toNat,
    Nat.mul_add_mod, Nat.mod_eq_of_lt hbyte, Nat.mul_add_div (by decide),
    Nat.div_eq_of_lt hbyte, Nat.add_zero, Nat.add_comm, Nat.mul_comm]

theorem Base32Inv.push {bytes : List UInt8} {s : Base32State} (h : Base32Inv bytes s)
    (byte : UInt8) : Base32Inv (bytes ++ [byte]) (base32Push s byte) := by
  obtain ⟨hlt, hlength, hmem, hvalue⟩ := base32Drain_spec ((s.buffer <<< 8) ||| byte.toUInt64)
    s.result (s.bits + 8) (by have := h.bits_lt; omega) h.mem
  refine ⟨hlt, ?_, hmem, ?_⟩
  · have := h.length
    rw [List.length_append, List.length_singleton]
    simp only [base32Push]
    omega
  · simp only [base32Push]
    rw [hvalue, base32Value, buffer_mod s.buffer byte h.bits_lt, bytesValue_append_singleton,
      ← h.value, base32Value, pow_add]
    ring

theorem base32Inv_foldl (bytes : List UInt8) :
    Base32Inv bytes (bytes.foldl base32Push ⟨[], 0, 0⟩) := by
  induction bytes using List.reverseRecOn with
  | nil => exact ⟨by decide, rfl, fun _ hc => absurd hc List.not_mem_nil, rfl⟩
  | append_singleton bytes byte ih =>
    rw [List.foldl_append]
    exact ih.push byte

/-- The bits the last character is filled up with. -/
def padding (bits : ℕ) : ℕ := if bits > 0 then 5 - bits else 0

/-- **What base32 writes** is the number of the bytes, filled up to whole characters. -/
theorem base32Encode_spec (bytes : List UInt8) :
    5 * (base32Encode bytes).length = 8 * bytes.length + padding (8 * bytes.length % 5) ∧
      (∀ c ∈ base32Encode bytes, c ∈ base32Alphabet) ∧
      charsValue (base32Encode bytes) = bytesValue bytes * 2 ^ padding (8 * bytes.length % 5) := by
  have h := base32Inv_foldl bytes
  rw [base32Encode]
  generalize bytes.foldl base32Push ⟨[], 0, 0⟩ = s at h ⊢
  have hbits : 8 * bytes.length % 5 = s.bits := by
    have := h.length
    have := h.bits_lt
    omega
  rw [hbits, padding]
  split
  · -- bits are left over, and one more character is made of them
    next hpos =>
    refine ⟨?_, ?_, ?_⟩
    · have := h.length
      have := h.bits_lt
      rw [List.length_append, List.length_singleton]
      omega
    · intro c hc
      rcases List.mem_append.mp hc with hc | hc
      · exact h.mem c hc
      · rw [List.mem_singleton.mp hc]
        exact base32Char_mem _
    · have h32 : (32 : ℕ) = 2 ^ s.bits * 2 ^ (5 - s.bits) := by
        have := h.bits_lt
        rw [← pow_add, show s.bits + (5 - s.bits) = 5 by omega]
        rfl
      -- the bits left in the buffer are the highest of the last character
      have hlast : (s.buffer <<< UInt64.ofNat (5 - s.bits)).toNat % 32
          = s.buffer.toNat % 2 ^ s.bits * 2 ^ (5 - s.bits) := by
        have hsmall : (5 - s.bits) % 2 ^ 64 % 64 = 5 - s.bits := by omega
        have hdvd : 32 ∣ 2 ^ 64 := by decide
        rw [UInt64.toNat_shiftLeft, UInt64.toNat_ofNat', hsmall, Nat.mod_mod_of_dvd _ hdvd,
          Nat.shiftLeft_eq, h32, Nat.mul_mod_mul_right]
      rw [charsValue_append_singleton, idxOf_base32Char, hlast, ← h.value, base32Value, h32]
      ring
  · -- nothing is left over
    next hzero =>
    obtain hzero : s.bits = 0 := Nat.eq_zero_of_not_pos hzero
    refine ⟨by simpa [hzero] using h.length, h.mem, ?_⟩
    simpa [base32Value, hzero, Nat.mod_one] using h.value

/-- **Different bytes are encoded differently**, when they are as many. -/
theorem base32Encode_injective {bytes bytes' : List UInt8} (hlength : bytes.length = bytes'.length)
    (h : base32Encode bytes = base32Encode bytes') : bytes = bytes' := by
  have hvalue := (base32Encode_spec bytes).2.2
  rw [h, (base32Encode_spec bytes').2.2, hlength] at hvalue
  exact bytesValue_inj hlength (Nat.eq_of_mul_eq_mul_right (Nat.two_pow_pos _) hvalue).symm

/-! ### Issued keys -/

theorem base32Char_ascii {c : Char} (h : c ∈ base32Alphabet) : c.utf8Size = 1 ∧ c ≠ '_' := by
  have hall : ∀ c ∈ base32Alphabet, c.utf8Size = 1 ∧ c ≠ '_' :=
    List.all_iff_forall_prop.mp (by decide)
  exact hall c h

/-- 24 bytes make 39 characters. -/
theorem length_base32Encode (randomBytes : Vector UInt8 24) :
    (base32Encode randomBytes.toList).length = 39 := by
  have h := (base32Encode_spec randomBytes.toList).1
  have hpadding : padding (8 * 24 % 5) = 3 := rfl
  rw [Vector.length_toList, hpadding] at h
  omega

/-- **Different random bytes give different keys** under one start, since Base32 loses no bit. -/
theorem generate_injective {hash : String → Option String} {start : String}
    {randomBytes randomBytes' : Vector UInt8 24} {key h h' : String}
    (hkey : generate hash start randomBytes = .ok (key, h))
    (hkey' : generate hash start randomBytes' = .ok (key, h')) : randomBytes = randomBytes' := by
  have hfst {randomBytes : Vector UInt8 24} {h : String}
      (hkey : generate hash start randomBytes = .ok (key, h)) :
      key = start ++ "_" ++ String.ofList (base32Encode randomBytes.toList) := by
    rw [generate] at hkey
    split at hkey
    · exact (congrArg Prod.fst (Except.ok.inj hkey)).symm
    · cases hkey
  have hencoded := (hfst hkey).symm.trans (hfst hkey')
  rw [String.append_right_inj, String.ofList_inj] at hencoded
  apply Vector.toList_inj.mp
  exact base32Encode_injective (by simp) hencoded

/-! ### The lookup start -/

/-- The eighth byte behind the last underscore ends inside a character. -/
def CutsCharacter (key : List Char) : Prop :=
  ∃ start front c behind, key = start ++ '_' :: (front ++ c :: behind) ∧
    '_' ∉ front ++ c :: behind ∧ byteLen front < 8 ∧ 8 < byteLen front + c.utf8Size

/-- **When the lookup start cannot be taken**: the slice would cut a character of several bytes, and
panics. -/
theorem keyPrefixForLookup_eq_panicked_iff (key : String) :
    keyPrefixForLookup key = .error .panicked ↔ CutsCharacter key.toList := by
  rw [keyPrefixForLookup]
  constructor
  · intro h
    rcases splitLast_cases key.toList with ⟨-, hnone⟩ | ⟨start, random, hkey, hmem, hsome⟩
    · rw [hnone] at h
      cases h
    · rw [hsome] at h
      dsimp only at h
      split at h
      · next hlen =>
        rw [utf8ByteSize_ofList] at hlen
        split at h
        · cases h
        · next hnone =>
          obtain ⟨front, c, behind, rfl, hlt, hgt⟩ := exists_of_takeBytes_eq_none hlen hnone
          exact ⟨start, front, c, behind, hkey, hmem, hlt, hgt⟩
      · cases h
  · rintro ⟨start, front, c, behind, hkey, hmem, hlt, hgt⟩
    have hlen : 8 ≤ (String.ofList (front ++ c :: behind)).utf8ByteSize := by
      rw [utf8ByteSize_ofList, byteLen, List.map_append, List.sum_append, List.map_cons,
        List.sum_cons]
      rw [byteLen] at hgt
      omega
    rw [hkey, splitLast_append hmem]
    dsimp only
    rw [if_pos hlen, takeBytes_eq_none hlt hgt]

theorem keyPrefixForLookup_cases (key : String) :
    (∃ r, keyPrefixForLookup key = .ok r) ∨ keyPrefixForLookup key = .error .panicked := by
  rw [keyPrefixForLookup]
  split
  · exact .inl ⟨_, rfl⟩
  · split
    · split
      · exact .inl ⟨_, rfl⟩
      · exact .inr rfl
    · exact .inl ⟨_, rfl⟩

/-- **An issued key is looked up by what it is to be stored by.** -/
theorem keyPrefixForLookup_generate {hash : String → Option String} {start key h : String}
    {randomBytes : Vector UInt8 24} (hkey : generate hash start randomBytes = .ok (key, h)) :
    keyPrefixForLookup key = .ok (some (lookupStart start randomBytes)) := by
  obtain ⟨-, hchars, -⟩ := base32Encode_spec randomBytes.toList
  have hascii : ∀ c ∈ base32Encode randomBytes.toList, c.utf8Size = 1 :=
    fun c hc => (base32Char_ascii (hchars c hc)).1
  have hmem : '_' ∉ base32Encode randomBytes.toList :=
    fun hc => (base32Char_ascii (hchars _ hc)).2 rfl
  have hlength := length_base32Encode randomBytes
  rw [generate] at hkey
  split at hkey
  · obtain rfl := (congrArg Prod.fst (Except.ok.inj hkey)).symm
    have htext : (start ++ "_" ++ String.ofList (base32Encode randomBytes.toList)).toList
        = start.toList ++ '_' :: base32Encode randomBytes.toList := by
      simp
    have hlen : 8 ≤ (String.ofList (base32Encode randomBytes.toList)).utf8ByteSize := by
      rw [utf8ByteSize_ofList, byteLen_of_ascii hascii, hlength]
      decide
    rw [keyPrefixForLookup, htext, splitLast_append hmem]
    dsimp only
    rw [if_pos hlen, takeBytes_of_ascii hascii (by omega), String.ofList_toList]
    rfl
  · cases hkey

/-! ### Finding an issued key again -/

section Redis

open RedisApiKeys

variable {α : Type} {who : ℕ} {context : String} {c : Redis.Command ApiKeyText}
  {f : Redis.Reply c → ApiKeyProg α} {s s' : ApiKeyServer} {inputs : ℕ → RefreshInput} {a : α}

/-- A program that comes through has had its first command carried out. -/
theorem exec_command_bind_ok
    (h : exec apiKeyAnswer who ((command context c).bind f) s inputs = (.ok a, s')) :
    ∃ t now log keys reply, Redis.carryOut t s.keys c = .ok (keys, reply) ∧
      exec apiKeyAnswer who (f reply) ⟨now, keys, log⟩ (fun n => inputs (n + 1)) = (.ok a, s') := by
  rw [command, Prog.call_bind, exec] at h
  simp only [apiKeyAnswer] at h
  generalize hinput : (⟨(s.now.latest (inputs 0).clock).millis, (inputs 0).fault⟩ : Redis.Input)
    = input at h
  cases hreply : (Redis.answer s.keys who input c).2 with
  | ok reply =>
    rw [hreply] at h
    exact ⟨_, _, _, _, reply, Redis.carryOut_of_answer_ok hreply, h⟩
  | error e =>
    rw [hreply] at h
    cases h

/-- A command that meets no fault is carried out. -/
theorem exec_command_bind_fst {keys : Redis.Keyspace ApiKeyText} {reply : Redis.Reply c}
    {r : Except ApiKeyError α} (hfault : ∀ n, (inputs n).fault = .none)
    (hcarry : ∀ t, Redis.carryOut t s.keys c = .ok (keys, reply))
    (h : ∀ now log inputs', (∀ n, (inputs' n).fault = .none) →
      (exec apiKeyAnswer who (f reply) ⟨now, keys, log⟩ inputs').1 = r) :
    (exec apiKeyAnswer who ((command context c).bind f) s inputs).1 = r := by
  rw [command, Prog.call_bind, exec]
  simp only [apiKeyAnswer, hfault 0, Redis.answer_ok (hcarry _)]
  exact h _ _ _ fun n => hfault (n + 1)

/-- A key is stored, and its lookup start leads to it. -/
def IsStored (keys : Redis.Keyspace ApiKeyText) (key : ApiKey) : Prop :=
  keys.entries (idKey key.id) = some ⟨.text (.record key), none⟩ ∧
    keys.entries (prefixKey key.keyPrefix) = some ⟨.text (.plain key.id), none⟩

theorem idKey_ne_prefixKey (id start : String) : idKey id ≠ prefixKey start := by
  intro h
  have hchars := congrArg (fun s => s.toList[8]?) h
  simp [idKey, prefixKey] at hchars

theorem idKey_ne_userKey (id userId : String) : idKey id ≠ RedisApiKeys.userKey userId := by
  intro h
  have hchars := congrArg (fun s => s.toList[8]?) h
  simp [idKey, RedisApiKeys.userKey] at hchars

theorem prefixKey_ne_userKey (start userId : String) :
    prefixKey start ≠ RedisApiKeys.userKey userId := by
  intro h
  have hchars := congrArg (fun s => s.toList[8]?) h
  simp [prefixKey, RedisApiKeys.userKey] at hchars

/-- `SADD` writes its own key. -/
theorem entries_of_carryOut_sadd {keys keys' : Redis.Keyspace ApiKeyText} {t : ℕ}
    {key member other : String} {reply : Unit}
    (h : Redis.carryOut t keys (.sadd key member) = .ok (keys', reply)) (hne : other ≠ key) :
    keys'.entries other = keys.entries other := by
  simp only [Redis.carryOut, Redis.Keyspace.sadd] at h
  split at h
  · cases h
    exact Redis.Keyspace.entries_put_of_ne _ _ hne
  · cases h
    exact Redis.Keyspace.entries_put_of_ne _ _ hne
  · cases h

/-- **A key that `create` has returned for is stored.** -/
theorem isStored_of_create {key : ApiKey}
    (h : exec apiKeyAnswer who (create key) s inputs = (.ok (), s')) : IsStored s'.keys key := by
  rw [create, ← Prog.bind_ret (command "Failed to add to user set: " _)] at h
  simp only [Prog.bind_eq, connect] at h
  obtain ⟨_, _, _, keys₀, _, -, h⟩ := exec_command_bind_ok h
  obtain ⟨_, _, _, keys₁, _, hset, h⟩ := exec_command_bind_ok h
  obtain ⟨_, _, _, keys₂, _, hstart, h⟩ := exec_command_bind_ok h
  obtain ⟨_, _, _, keys₃, _, hadd, h⟩ := exec_command_bind_ok h
  have hkeys₁ : keys₀.put (idKey key.id) ⟨.text (.record key), none⟩ = keys₁ :=
    congrArg Prod.fst (Except.ok.inj hset)
  have hkeys₂ : keys₁.put (prefixKey key.keyPrefix) ⟨.text (.plain key.id), none⟩ = keys₂ :=
    congrArg Prod.fst (Except.ok.inj hstart)
  have hkeys₃ : keys₃ = s'.keys := congrArg (fun r => r.2.keys) h
  have hother {other : String} (hne : other ≠ RedisApiKeys.userKey key.userId) :
      s'.keys.entries other = keys₂.entries other := by
    rw [← hkeys₃]
    exact entries_of_carryOut_sadd hadd hne
  constructor
  · rw [hother (idKey_ne_userKey _ _), ← hkeys₂,
      Redis.Keyspace.entries_put_of_ne _ _ (idKey_ne_prefixKey _ _), ← hkeys₁,
      Redis.Keyspace.entries_put_self]
  · rw [hother (prefixKey_ne_userKey _ _), ← hkeys₂, Redis.Keyspace.entries_put_self]

/-- What `GET` answers for a text that does not expire. -/
theorem carryOut_get {keys : Redis.Keyspace ApiKeyText} {key : String} {text : ApiKeyText}
    (h : keys.entries key = some ⟨.text text, none⟩) (t : ℕ) :
    Redis.carryOut t keys (.get key) = .ok (keys, some (.text text)) := by
  have hfind : keys.find? t key = some ⟨.text text, none⟩ :=
    Redis.Keyspace.find?_eq_some_iff.mpr ⟨h, rfl⟩
  simp only [Redis.carryOut, hfind]

/-- **A stored key is found** by a text with its lookup start, if its hash is of that text. -/
theorem getByKey_of_isStored {codec : ApiKeyCodec} {key : String} {apiKey : ApiKey}
    (hstored : IsStored s.keys apiKey)
    (hlookup : keyPrefixForLookup key = .ok (some apiKey.keyPrefix))
    (hverify : codec.verify key apiKey.keyHash = .ok true)
    (hfault : ∀ n, (inputs n).fault = .none) :
    (exec apiKeyAnswer who (getByKey codec key) s inputs).1 = .ok (some apiKey) := by
  have hconnect (keys : Redis.Keyspace ApiKeyText) (t : ℕ) :
      Redis.carryOut t keys .connect = .ok (keys, ()) := rfl
  rw [getByKey, hlookup]
  simp only [Prog.ofExcept, Prog.bind_eq, Prog.ret_bind, getByPrefix, getById, connect,
    Prog.bind_assoc]
  refine exec_command_bind_fst hfault (hconnect s.keys) ?_
  intro now log inputs hfault
  refine exec_command_bind_fst hfault (carryOut_get hstored.2) ?_
  intro now log inputs hfault
  simp only [Prog.bind_assoc, asString]
  refine exec_command_bind_fst hfault (hconnect s.keys) ?_
  intro now log inputs hfault
  refine exec_command_bind_fst hfault (carryOut_get hstored.1) ?_
  intro now log inputs hfault
  simp only [parseRecord, Prog.ret_bind, verifyFound, hverify]
  rfl

/-- **When the lookup start is taken, and that issued keys are found.**  It is taken of every text
whose eighth byte behind the last underscore does not end inside a character.  Of an issued key it
is what the key is to be stored by, and a key stored by it is found again. -/
theorem keyPrefixForLookup_iff (text : String) :
    ((∃ r, keyPrefixForLookup text = .ok r) ↔ ¬ CutsCharacter text.toList) ∧
      ∀ hash start randomBytes key h, generate hash start randomBytes = .ok (key, h) →
        keyPrefixForLookup key = .ok (some (lookupStart start randomBytes)) ∧
          ∀ (codec : ApiKeyCodec) (apiKey : ApiKey) (who : ℕ) (s s' : ApiKeyServer)
            (inputs inputs' : ℕ → RefreshInput),
            apiKey.keyPrefix = lookupStart start randomBytes → apiKey.keyHash = h →
            codec.verify key h = .ok true →
            exec apiKeyAnswer who (create apiKey) s inputs = (.ok (), s') →
            (∀ n, (inputs' n).fault = .none) →
            (exec apiKeyAnswer who (getByKey codec key) s' inputs').1 = .ok (some apiKey) := by
  constructor
  · rw [← keyPrefixForLookup_eq_panicked_iff]
    constructor
    · rintro ⟨r, hr⟩ hpanic
      rw [hr] at hpanic
      cases hpanic
    · intro hpanic
      rcases keyPrefixForLookup_cases text with h | h
      · exact h
      · exact absurd h hpanic
  · intro hash start randomBytes key h hkey
    have hlookup := keyPrefixForLookup_generate hkey
    refine ⟨hlookup, ?_⟩
    rintro codec apiKey who s s' inputs inputs' hstart rfl hverify hcreate hfault
    exact getByKey_of_isStored (isStored_of_create hcreate) (hstart ▸ hlookup) hverify hfault

theorem keyPrefixForLookup_iff_sample :
    keyPrefixForLookup ("sk_live" ++ "_" ++ String.ofList (base32Encode (List.replicate 24 7)))
      = .ok (some (lookupStart "sk_live" (Vector.replicate 24 7))) :=
  ((keyPrefixForLookup_iff "").2 (fun _ => some "hash") "sk_live" (Vector.replicate 24 7) _ "hash"
    rfl).1

/-- Seven letters and a character of two bytes, which the slice of eight bytes cuts. -/
theorem not_forall_keyPrefixForLookup : ¬ ∀ key, ∃ r, keyPrefixForLookup key = .ok r := by
  intro h
  obtain ⟨r, hr⟩ := h "sk_aaaaaaaé"
  have hpanic : keyPrefixForLookup "sk_aaaaaaaé" = .error .panicked := by decide
  rw [hpanic] at hr
  cases hr

end Redis

end ActonService
