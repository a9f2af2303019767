import ActonService.Lib.PrefixCode
import ActonService.Lib.Bytes
import Mathlib.Data.List.Sort
import Mathlib.Tactic.FinCases

/-!
# JSON values and their texts

`serde_json::Value` and the two texts the service makes of it: the compact text
of `serde_json::to_string`, which writes an object in the order of its map, and
the canonical text of `canonical_json`, which writes the keys of every object in
sorted order.  Both are `writeValue`, at the order an object's entries are
written in.

An object is the list of its entries in map order, so a value of the model is
one value of a build with the `preserve_order` feature, and the sorted ones are
those of a build without it.

How a number is written is a parameter `num`: integers go through `itoa` and
floats through `ryu`.  A string is written by `quote`, character by character.

## Main definitions

* `Number`, `Json` — the values.
* `quote` — a JSON string literal.
* `writeValue`, `canonicalJson`, `jsonText` — the texts.
* `SameUpToKeyOrder` — equality up to the order of object keys.

## Main results

* `quote_append_inj` — a string literal can be read off.
* `writeValue_delimited` — a text determines its value up to key order.
* `sameUpToKeyOrder_of_canonicalJson_eq` — **the canonical text determines the
  value up to key order.**
* `jsonText_injective` — **the text in map order determines the value.**
-/

namespace ActonService

open PrefixCode Bytes

/-! ### Values -/

/-- A `serde_json::Number`: an integer that fits `u64`, a negative one that fits
`i64`, or a finite double, here by its bits. -/
inductive Number
  /-- A nonnegative integer. -/
  | posInt (n : UInt64)
  /-- A negative integer. -/
  | negInt (i : Int64) (neg : i < 0)
  /-- A double whose exponent is not the one of infinities and NaNs. -/
  | float (bits : UInt64) (finite : bits.toNat / 2 ^ 52 % 2 ^ 11 ≠ 2047)
  deriving DecidableEq, Repr

/-- A `serde_json::Value`. -/
inductive Json
  | null
  | bool (b : Bool)
  | number (n : Number)
  | string (s : String)
  | array (items : List Json)
  | object (entries : List (String × Json))
  deriving Repr, Inhabited

/-- Induction over a value with hypotheses for the items of an array and the
values of an object. -/
theorem Json.induction {P : Json → Prop} (null : P .null) (bool : ∀ b, P (.bool b))
    (number : ∀ n, P (.number n)) (string : ∀ s, P (.string s))
    (array : ∀ items, (∀ v ∈ items, P v) → P (.array items))
    (object : ∀ entries, (∀ e ∈ entries, P e.2) → P (.object entries)) (v : Json) : P v :=
  @Json.rec P (fun items => ∀ v ∈ items, P v) (fun entries => ∀ e ∈ entries, P e.2)
    (fun e => P e.2) null bool number string array object (by simp)
    (fun _ _ hv hvs => List.forall_mem_cons.mpr ⟨hv, hvs⟩) (by simp)
    (fun _ _ he hes => List.forall_mem_cons.mpr ⟨he, hes⟩) (fun _ _ h => h) v

/-- Equality of values up to the order of the keys of their objects. -/
inductive SameUpToKeyOrder : Json → Json → Prop
  | null : SameUpToKeyOrder .null .null
  | bool (b : Bool) : SameUpToKeyOrder (.bool b) (.bool b)
  | number (n : Number) : SameUpToKeyOrder (.number n) (.number n)
  | string (s : String) : SameUpToKeyOrder (.string s) (.string s)
  | array {xs ys : List Json} (h : List.Forall₂ SameUpToKeyOrder xs ys) :
      SameUpToKeyOrder (.array xs) (.array ys)
  /-- Two objects whose entries, each side rearranged, have the same keys and the same
  values. -/
  | object {m n m' n' : List (String × Json)} (hm : m'.Perm m) (hn : n'.Perm n)
      (hkeys : m'.map Prod.fst = n'.map Prod.fst)
      (hvals : List.Forall₂ SameUpToKeyOrder (m'.map Prod.snd) (n'.map Prod.snd)) :
      SameUpToKeyOrder (.object m) (.object n)

theorem SameUpToKeyOrder.refl (v : Json) : SameUpToKeyOrder v v := by
  induction v using Json.induction with
  | null => exact .null
  | bool b => exact .bool b
  | number n => exact .number n
  | string s => exact .string s
  | array items ih => exact .array (List.forall₂_same.mpr ih)
  | object entries ih =>
    exact .object (.refl _) (.refl _) rfl (List.forall₂_same.mpr (List.forall_mem_map.mpr ih))

/-! ### String literals -/

/-- The escape of one character in a JSON string literal. -/
def escapeChar (c : Char) : List Char :=
  if c = '"' then ['\\', '"']
  else if c = '\\' then ['\\', '\\']
  else if c = '\x08' then ['\\', 'b']
  else if c = '\t' then ['\\', 't']
  else if c = '\n' then ['\\', 'n']
  else if c = '\x0c' then ['\\', 'f']
  else if c = '\r' then ['\\', 'r']
  else if c.toNat < 32 then ['\\', 'u', '0', '0', hexDigit (c.toNat / 16), hexDigit (c.toNat % 16)]
  else [c]

/-- The literal of a string. -/
def quote (s : String) : List Char := '"' :: (s.toList.flatMap escapeChar ++ ['"'])

/-- The value of a hexadecimal digit. -/
def hexValue (c : Char) : ℕ :=
  ['0', '1', '2', '3', '4', '5', '6', '7', '8', '9', 'a', 'b', 'c', 'd', 'e', 'f'].idxOf c

/-- The character an escape at the front of a text stands for, and the rest of the
text. -/
def unescapeChar : List Char → Option (Char × List Char)
  | '\\' :: '"' :: r => some ('"', r)
  | '\\' :: '\\' :: r => some ('\\', r)
  | '\\' :: 'b' :: r => some ('\x08', r)
  | '\\' :: 't' :: r => some ('\t', r)
  | '\\' :: 'n' :: r => some ('\n', r)
  | '\\' :: 'f' :: r => some ('\x0c', r)
  | '\\' :: 'r' :: r => some ('\r', r)
  | '\\' :: 'u' :: '0' :: '0' :: h :: l :: r =>
      some (Char.ofNat (hexValue h * 16 + hexValue l), r)
  | c :: r => some (c, r)
  | [] => none

theorem hexValue_hexDigit : ∀ n < 16, hexValue (hexDigit n) = n := by decide

theorem unescapeChar_of_ne {c : Char} (hc : c ≠ '\\') (r : List Char) :
    unescapeChar (c :: r) = some (c, r) := by
  unfold unescapeChar
  split <;> simp_all

theorem unescapeChar_escapeChar (c : Char) (r : List Char) :
    unescapeChar (escapeChar c ++ r) = some (c, r) := by
  unfold escapeChar
  split_ifs with h₁ h₂ h₃ h₄ h₅ h₆ h₇ h₈
  iterate 7 · subst c; rfl
  · -- a control character without a short escape
    have hhigh : hexValue (hexDigit (c.toNat / 16)) = c.toNat / 16 :=
      hexValue_hexDigit _ (by omega)
    have hlow : hexValue (hexDigit (c.toNat % 16)) = c.toNat % 16 :=
      hexValue_hexDigit _ (by omega)
    simp only [List.cons_append, List.nil_append, unescapeChar, hhigh, hlow]
    rw [Nat.div_add_mod', Char.ofNat_toNat]
  · exact unescapeChar_of_ne h₂ r

theorem escapeChar_delimited (c : Char) : Delimited (fun _ => True) Eq escapeChar c :=
  delimited_of_decode unescapeChar unescapeChar_escapeChar c

/-- No escape starts with a quotation mark. -/
theorem escapeChar_append_ne (c : Char) (r t : List Char) : escapeChar c ++ r ≠ '"' :: t := by
  unfold escapeChar
  split_ifs with h₁ <;> simp [h₁]

/-- A string literal can be read off whatever follows it. -/
theorem quote_append_inj {s s' : String} {r r' : List Char}
    (h : quote s ++ r = quote s' ++ r') : s = s' ∧ r = r' := by
  simp only [quote, List.cons_append, List.append_assoc, List.nil_append, List.cons.injEq,
    true_and] at h
  obtain ⟨hs, hr⟩ := flatMap_terminated_inj escapeChar_delimited escapeChar_append_ne h
  exact ⟨String.toList_inj.mp hs, hr⟩

/-! ### Texts -/

/-- The entry `key:value` of an object, the value being a text already. -/
def writeEntry (e : String × List Char) : List Char := quote e.1 ++ ':' :: e.2

section Write

variable (num : Number → List Char)
  (order : List (String × List Char) → List (String × List Char))

mutual

/-- The text of a value.  The entries of an object are written in the order
`order` puts them in. -/
def writeValue : Json → List Char
  | .null => ['n', 'u', 'l', 'l']
  | .bool true => ['t', 'r', 'u', 'e']
  | .bool false => ['f', 'a', 'l', 's', 'e']
  | .number n => num n
  | .string s => quote s
  | .array items => bracketed '[' ',' ']' id (writeItems items)
  | .object entries => bracketed '{' ',' '}' writeEntry (order (writeEntries entries))

/-- The texts of the items of an array. -/
def writeItems : List Json → List (List Char)
  | [] => []
  | v :: vs => writeValue v :: writeItems vs

/-- The keys of an object, each with the text of its value. -/
def writeEntries : List (String × Json) → List (String × List Char)
  | [] => []
  | (k, v) :: es => (k, writeValue v) :: writeEntries es

end

end Write

/-- Entries sorted by key. -/
def sortByKey {α : Type} (entries : List (String × α)) : List (String × α) :=
  entries.insertionSort fun a b => a.1 ≤ b.1

/-- `canonical_json`: the text with the keys of every object sorted. -/
def canonicalJson (num : Number → List Char) (v : Json) : String :=
  String.ofList (writeValue num sortByKey v)

/-- `serde_json::to_string`: the text with the keys of every object in map order. -/
def jsonText (num : Number → List Char) (v : Json) : String :=
  String.ofList (writeValue num id v)

/-! ### Reading a canonical text back -/

/-- The characters a JSON number is written with. -/
def NumberChar (c : Char) : Prop :=
  c ∈ ['0', '1', '2', '3', '4', '5', '6', '7', '8', '9', '+', '-', '.', 'e', 'E']

instance : DecidablePred NumberChar := fun c => inferInstanceAs (Decidable (c ∈ _))

/-- How numbers are written: as JSON number tokens, different numbers differently. -/
structure NumberText (num : Number → List Char) : Prop where
  injective : Function.Injective num
  ne_nil : ∀ n, num n ≠ []
  numberChar : ∀ n, ∀ c ∈ num n, NumberChar c

/-- The kinds of value, as the first character of a text tells them. -/
inductive Kind
  | null | true | false | number | string | array | object | none
  deriving DecidableEq

/-- The kind of value a character starts. -/
def Kind.ofChar (c : Char) : Kind :=
  if c = 'n' then .null
  else if c = 't' then .true
  else if c = 'f' then .false
  else if c = '"' then .string
  else if c = '[' then .array
  else if c = '{' then .object
  else if NumberChar c then .number
  else .none

/-- The kind of a value. -/
def Json.kind : Json → Kind
  | .null => .null
  | .bool .true => .true
  | .bool .false => .false
  | .number _ => .number
  | .string _ => .string
  | .array _ => .array
  | .object _ => .object

theorem Kind.ofChar_of_numberChar : ∀ c, NumberChar c → Kind.ofChar c = .number := by
  intro c hc
  unfold NumberChar at hc
  fin_cases hc <;> rfl

theorem Json.kind_ne_none (v : Json) : v.kind ≠ .none := by
  cases v with
  | bool b => cases b <;> simp [Json.kind]
  | _ => simp [Json.kind]

section Read

variable {num : Number → List Char} {order : List (String × List Char) → List (String × List Char)}

theorem writeItems_eq_map (items : List Json) :
    writeItems num order items = items.map (writeValue num order) := by
  induction items with
  | nil => simp [writeItems]
  | cons v vs ih => simp [writeItems, ih]

theorem writeEntries_eq_map (entries : List (String × Json)) :
    writeEntries num order entries
      = entries.map (Prod.map id (writeValue num order)) := by
  induction entries with
  | nil => simp [writeEntries]
  | cons e es ih =>
    obtain ⟨k, v⟩ := e
    simp [writeEntries, ih]

theorem writeValue_array (items : List Json) :
    writeValue num order (.array items)
      = bracketed '[' ',' ']' (writeValue num order) items := by
  rw [writeValue, writeItems_eq_map, bracketed_map]
  rfl

theorem sortByKey_perm {α : Type} (entries : List (String × α)) :
    (sortByKey entries).Perm entries :=
  List.perm_insertionSort _ _

/-- Sorting entries by key does not look at the values. -/
theorem sortByKey_map {α β : Type} (f : α → β) (entries : List (String × α)) :
    sortByKey (entries.map (Prod.map id f)) = (sortByKey entries).map (Prod.map id f) := by
  unfold sortByKey
  rw [List.map_insertionSort _ (fun a b => a.1 ≤ b.1)]
  intro a _ b _
  rfl

theorem writeValue_object (entries : List (String × Json)) :
    writeValue num sortByKey (.object entries)
      = bracketed '{' ',' '}' (fun e => writeEntry (Prod.map id (writeValue num sortByKey) e))
          (sortByKey entries) := by
  rw [writeValue, writeEntries_eq_map, sortByKey_map, bracketed_map]
  rfl

/-- The text of a value starts with a character of its kind. -/
theorem writeValue_cons (hnum : NumberText num)
    (order : List (String × List Char) → List (String × List Char)) (v : Json) :
    ∃ c t, writeValue num order v = c :: t ∧ Kind.ofChar c = v.kind := by
  cases v with
  | null => exact ⟨'n', ['u', 'l', 'l'], by rw [writeValue], rfl⟩
  | bool b =>
    cases b with
    | false => exact ⟨'f', ['a', 'l', 's', 'e'], by rw [writeValue], rfl⟩
    | true => exact ⟨'t', ['r', 'u', 'e'], by rw [writeValue], rfl⟩
  | number n =>
    cases hn : num n with
    | nil => exact absurd hn (hnum.ne_nil n)
    | cons c t =>
      refine ⟨c, t, by rw [writeValue, hn], Kind.ofChar_of_numberChar c ?_⟩
      exact hnum.numberChar n c (by rw [hn]; exact List.mem_cons_self)
  | string s => exact ⟨'"', s.toList.flatMap escapeChar ++ ['"'], by rw [writeValue, quote], rfl⟩
  | array items =>
    rw [writeValue]
    cases writeItems num order items <;> exact ⟨_, _, rfl, rfl⟩
  | object entries =>
    rw [writeValue]
    cases order (writeEntries num order entries) <;> exact ⟨_, _, rfl, rfl⟩

/-- Values whose texts start alike are of the same kind. -/
theorem kind_eq_of_append_eq (hnum : NumberText num) {a b : Json} {r r' : List Char}
    (h : writeValue num order a ++ r = writeValue num order b ++ r') : a.kind = b.kind := by
  obtain ⟨c, t, ha, hc⟩ := writeValue_cons hnum order a
  obtain ⟨d, u, hb, hd⟩ := writeValue_cons hnum order b
  rw [ha, hb, List.cons_append, List.cons_append, List.cons.injEq] at h
  rw [← hc, ← hd, h.1]

/-- No value starts with a closing bracket. -/
theorem writeValue_append_ne (hnum : NumberText num) (v : Json) (r t : List Char) :
    writeValue num order v ++ r ≠ ']' :: t := by
  intro h
  obtain ⟨c, u, hv, hc⟩ := writeValue_cons hnum order v
  rw [hv, List.cons_append, List.cons.injEq] at h
  rw [h.1] at hc
  exact v.kind_ne_none hc.symm

theorem stopsAt_cons {c : Char} (hc : ¬ NumberChar c) (t : List Char) :
    StopsAt NumberChar (c :: t) := by
  rintro d u h
  rw [← (List.cons.inj h).1]
  exact hc

/-- An entry of an object can be read off when its value can. -/
theorem writeEntry_delimited {R : Json → Json → Prop} {e : String × Json}
    (he : Delimited (StopsAt NumberChar) R (writeValue num order) e.2) :
    Delimited (StopsAt NumberChar) (fun e e' => e.1 = e'.1 ∧ R e.2 e'.2)
      (fun e => writeEntry (Prod.map id (writeValue num order) e)) e := by
  intro e' r r' hr hr' h
  simp only [writeEntry, Prod.map_fst, Prod.map_snd, id, List.append_assoc,
    List.cons_append] at h
  obtain ⟨hkey, h⟩ := quote_append_inj h
  obtain ⟨hval, hrest⟩ := he e'.2 r r' hr hr' (List.cons.inj h).2
  exact ⟨⟨hkey, hval⟩, hrest⟩

/-- Objects written alike have the same entries, in the order they are written in. -/
theorem writeEntries_inj {R : Json → Json → Prop} {m n : List (String × Json)}
    {r r' : List Char}
    (hvals : ∀ e ∈ m, Delimited (StopsAt NumberChar) R (writeValue num order) e.2)
    (h : bracketed '{' ',' '}'
        (fun e => writeEntry (Prod.map id (writeValue num order) e)) m ++ r
      = bracketed '{' ',' '}'
        (fun e => writeEntry (Prod.map id (writeValue num order) e)) n ++ r') :
    List.Forall₂ (fun e e' => e.1 = e'.1 ∧ R e.2 e'.2) m n ∧ r = r' :=
  bracketed_inj (by decide) (stopsAt_cons (by decide)) (stopsAt_cons (by decide))
    (fun e r t => by simp [writeEntry, quote]) (fun e he => writeEntry_delimited (hvals e he)) h

/-- Objects whose sorted entries agree are the same up to key order. -/
theorem SameUpToKeyOrder.of_sortByKey {m n : List (String × Json)}
    (h : List.Forall₂ (fun e e' => e.1 = e'.1 ∧ SameUpToKeyOrder e.2 e'.2)
      (sortByKey m) (sortByKey n)) : SameUpToKeyOrder (.object m) (.object n) := by
  refine .object (sortByKey_perm m) (sortByKey_perm n) ?_ ?_
  · rw [← List.forall₂_eq_eq_eq]
    exact List.forall₂_map_left_iff.mpr (List.forall₂_map_right_iff.mpr
      (h.imp fun _ _ he => he.1))
  · exact List.forall₂_map_left_iff.mpr (List.forall₂_map_right_iff.mpr
      (h.imp fun _ _ he => he.2))

/-- What is written can be read off up to `R`, in front of anything that does not continue a
number, if objects can be read off up to `R` when their values can. -/
theorem writeValue_delimited_of (hnum : NumberText num) {R : Json → Json → Prop}
    (null : R .null .null) (bool : ∀ b, R (.bool b) (.bool b))
    (number : ∀ n, R (.number n) (.number n)) (string : ∀ s, R (.string s) (.string s))
    (array : ∀ {xs ys}, List.Forall₂ R xs ys → R (.array xs) (.array ys))
    (object : ∀ {m n : List (String × Json)} {r r' : List Char},
      (∀ e ∈ m, Delimited (StopsAt NumberChar) R (writeValue num order) e.2) →
      writeValue num order (.object m) ++ r = writeValue num order (.object n) ++ r' →
      R (.object m) (.object n) ∧ r = r') (v : Json) :
    Delimited (StopsAt NumberChar) R (writeValue num order) v := by
  -- In every case the first character tells the constructor of the other value, and what
  -- stands behind it is read off by the codes of strings, numbers and lists.
  induction v using Json.induction with
  | null =>
    intro b r r' _ _ h
    have hkind := kind_eq_of_append_eq hnum h
    cases b with
    | null => exact ⟨null, by simpa [writeValue] using h⟩
    | bool b => cases b <;> simp [Json.kind] at hkind
    | _ => simp [Json.kind] at hkind
  | bool b =>
    intro b' r r' _ _ h
    have hkind := kind_eq_of_append_eq hnum h
    cases b' with
    | bool b' => cases b <;> cases b' <;> simp_all [Json.kind, writeValue]
    | _ => cases b <;> simp [Json.kind] at hkind
  | number n =>
    intro b r r' hr hr' h
    have hkind := kind_eq_of_append_eq hnum h
    cases b with
    | number n' =>
      simp only [writeValue] at h
      obtain ⟨hn, hrest⟩ :=
        token_append_inj (hnum.numberChar n) (hnum.numberChar n') hr hr' h
      exact ⟨hnum.injective hn ▸ number n, hrest⟩
    | bool b => cases b <;> simp [Json.kind] at hkind
    | _ => simp [Json.kind] at hkind
  | string s =>
    intro b r r' _ _ h
    have hkind := kind_eq_of_append_eq hnum h
    cases b with
    | string s' =>
      simp only [writeValue] at h
      obtain ⟨hs, hrest⟩ := quote_append_inj h
      exact ⟨hs ▸ string s, hrest⟩
    | bool b => cases b <;> simp [Json.kind] at hkind
    | _ => simp [Json.kind] at hkind
  | array items ih =>
    intro b r r' _ _ h
    have hkind := kind_eq_of_append_eq hnum h
    cases b with
    | array items' =>
      rw [writeValue_array, writeValue_array] at h
      obtain ⟨hitems, hrest⟩ := bracketed_inj (by decide) (stopsAt_cons (by decide))
        (stopsAt_cons (by decide)) (writeValue_append_ne hnum) ih h
      exact ⟨array hitems, hrest⟩
    | bool b => cases b <;> simp [Json.kind] at hkind
    | _ => simp [Json.kind] at hkind
  | object entries ih =>
    intro b r r' _ _ h
    have hkind := kind_eq_of_append_eq hnum h
    cases b with
    | object entries' => exact object ih h
    | bool b => cases b <;> simp [Json.kind] at hkind
    | _ => simp [Json.kind] at hkind

/-- **A canonical text can be read off**, up to the order of the keys, in front of
anything that does not continue a number. -/
theorem writeValue_delimited (hnum : NumberText num) (v : Json) :
    Delimited (StopsAt NumberChar) SameUpToKeyOrder (writeValue num sortByKey) v := by
  refine writeValue_delimited_of hnum .null .bool .number .string .array ?_ v
  intro m n r r' hvals h
  rw [writeValue_object, writeValue_object] at h
  have hsorted : ∀ e ∈ sortByKey m,
      Delimited (StopsAt NumberChar) SameUpToKeyOrder (writeValue num sortByKey) e.2 :=
    fun e he => hvals e ((sortByKey_perm m).mem_iff.mp he)
  obtain ⟨hentries, hrest⟩ := writeEntries_inj hsorted h
  exact ⟨.of_sortByKey hentries, hrest⟩

/-- **A text in map order can be read off.** -/
theorem writeValue_id_delimited (hnum : NumberText num) (v : Json) :
    Delimited (StopsAt NumberChar) Eq (writeValue num id) v := by
  refine writeValue_delimited_of hnum rfl (fun _ => rfl) (fun _ => rfl) (fun _ => rfl) ?_ ?_ v
  · intro xs ys h
    rw [List.forall₂_eq_eq_eq] at h
    rw [h]
  · intro m n r r' hvals h
    rw [writeValue, writeValue, writeEntries_eq_map, writeEntries_eq_map, id, id, bracketed_map,
      bracketed_map] at h
    obtain ⟨hentries, hrest⟩ := writeEntries_inj hvals h
    have heq : m = n := by
      rw [← List.forall₂_eq_eq_eq]
      exact hentries.imp fun _ _ he => Prod.ext he.1 he.2
    exact ⟨heq ▸ rfl, hrest⟩

/-- **The canonical text determines the value up to key order.** -/
theorem sameUpToKeyOrder_of_canonicalJson_eq (hnum : NumberText num) {v w : Json}
    (h : canonicalJson num v = canonicalJson num w) : SameUpToKeyOrder v w := by
  have hend : StopsAt NumberChar ([] : List Char) := by rintro c t h; simp at h
  have htext : writeValue num sortByKey v ++ [] = writeValue num sortByKey w ++ [] := by
    rw [List.append_nil, List.append_nil]
    exact String.ofList_inj.mp h
  exact (writeValue_delimited hnum v w [] [] hend hend htext).1

/-- **The text in map order determines the value.** -/
theorem jsonText_injective (hnum : NumberText num) : Function.Injective (jsonText num) := by
  intro v w h
  have hend : StopsAt NumberChar ([] : List Char) := by rintro c t h; simp at h
  have htext : writeValue num id v ++ [] = writeValue num id w ++ [] := by
    rw [List.append_nil, List.append_nil]
    exact String.ofList_inj.mp h
  exact (writeValue_id_delimited hnum v w [] [] hend hend htext).1

end Read

end ActonService
