import ActonService.Audit.Chain

/-!
# The head hash commits to the chain

Two verified chains with the same last hash are the same chain, as far as the hash
covers events, when one of them is all v2.  The argument runs backwards along the
chain: equal v2 hashes mean equal BLAKE3 inputs, a BLAKE3 input determines the
framed fields, and one of the fields is the hash of the event before.

The legacy scheme does not have to be trusted for it.  A hash that carries the v2
marker is only ever compared with a recomputed v2 hash, and a legacy hash never
carries the marker, so an event cannot be replaced by one hashed under the legacy
scheme without changing the hash the next event names.

## Main definitions

* `CollisionFree h S` — no two inputs of `S` have the same hash.
* `LawfulTexts` — the third-party texts are injective.
* `SameHashedFields` — agreement on everything the v2 scheme covers.

## Main results

* `sameHashedFields_of_hashInputV2_eq` — a BLAKE3 input determines the covered fields.
* `forall₂_sameHashedFields_of_head_eq` — **the head hash commits to the chain.**
-/

namespace ActonService

open Bytes HashChain

/-- The hash `h` has no collision among the inputs in `S`. -/
def CollisionFree (h : List UInt8 → Digest) (S : Set (List UInt8)) : Prop := Set.InjOn h S

/-- The third-party texts tell different values apart: no two times have one text, and no two
numbers. -/
structure LawfulTexts (T : Texts) : Prop where
  toRfc3339 : Function.Injective T.toRfc3339
  numberText : NumberText T.numberText

/-- Every byte string the hash of the event reads is one a program can hold: a Rust
allocation has at most `isize::MAX` bytes.  Strings of the model are not bounded, so
the bound is said here. -/
def AuditEvent.InMemory (T : Texts) (e : AuditEvent) : Prop :=
  ∀ field ∈ hashFields T e, ∀ bytes ∈ field, bytes.length < 2 ^ 63

instance (T : Texts) (e : AuditEvent) : Decidable (e.InMemory T) :=
  inferInstanceAs (Decidable (∀ field ∈ _, ∀ bytes ∈ field, _))

/-- Two events agree on every field the v2 scheme covers; metadata up to the order of
object keys. -/
structure SameHashedFields (a b : AuditEvent) : Prop where
  sequence : a.sequence = b.sequence
  previousHash : a.previousHash = b.previousHash
  id : a.id = b.id
  timestamp : a.timestamp = b.timestamp
  kind : a.kind = b.kind
  severity : a.severity = b.severity
  serviceName : a.serviceName = b.serviceName
  method : a.method = b.method
  path : a.path = b.path
  statusCode : a.statusCode = b.statusCode
  source : a.source = b.source
  durationMs : a.durationMs = b.durationMs
  metadata : Option.Rel SameUpToKeyOrder a.metadata b.metadata

/-! ### Fields -/

theorem strBytes_map_injective : Function.Injective (Option.map strBytes) :=
  Option.map_injective strBytes_injective

theorem leBytes_uint64_injective : Function.Injective fun n : UInt64 => leBytes 8 n.toNat := by
  intro m n h
  exact UInt64.toNat_inj.mp (leBytes_inj m.toNat_lt n.toNat_lt h)

theorem leBytes_uint16_injective : Function.Injective fun n : UInt16 => leBytes 2 n.toNat := by
  intro m n h
  exact UInt16.toNat_inj.mp (leBytes_inj m.toNat_lt n.toNat_lt h)

theorem Uuid.bytes_injective : Function.Injective Uuid.bytes := by
  intro a b h
  cases a
  cases b
  simp_all

/-- Metadata with the same canonical bytes are the same up to key order. -/
theorem metadata_rel_of_bytes_eq {num : Number → List Char} (hnum : NumberText num)
    {m n : Option Json}
    (h : (m.map fun v => strBytes (canonicalJson num v))
      = n.map fun v => strBytes (canonicalJson num v)) :
    Option.Rel SameUpToKeyOrder m n := by
  cases m with
  | none => cases n with
    | none => exact Option.Rel.none
    | some w => simp at h
  | some v => cases n with
    | none => simp at h
    | some w =>
      rw [Option.map_some, Option.map_some, Option.some.injEq] at h
      exact Option.Rel.some (sameUpToKeyOrder_of_canonicalJson_eq hnum (strBytes_injective h))

/-- The framed fields determine the event, as far as they cover it. -/
theorem sameHashedFields_of_hashFields_eq {T : Texts} (hT : LawfulTexts T) {a b : AuditEvent}
    (h : hashFields T a = hashFields T b) : SameHashedFields a b := by
  simp only [hashFields, List.cons.injEq, Option.some.injEq, and_true] at h
  obtain ⟨hseq, hprev, hid, htime, hkind, hsev, hservice, hmethod, hpath, hstatus, hsubject,
    hip, hagent, hrequest, hduration, hmeta⟩ := h
  exact {
    sequence := leBytes_uint64_injective hseq
    previousHash := strBytes_map_injective hprev
    id := Uuid.bytes_injective hid
    timestamp := hT.toRfc3339 (strBytes_injective htime)
    kind := display_injective (strBytes_injective hkind)
    severity := asSyslogSeverity_injective hsev
    serviceName := strBytes_injective hservice
    method := strBytes_map_injective hmethod
    path := strBytes_map_injective hpath
    statusCode := Option.map_injective leBytes_uint16_injective hstatus
    source := by
      cases hs : a.source
      cases hs' : b.source
      simp only [hs, hs'] at hsubject hip hagent hrequest
      rw [strBytes_map_injective hsubject, strBytes_map_injective hip,
        strBytes_map_injective hagent, strBytes_map_injective hrequest]
    durationMs := Option.map_injective leBytes_uint64_injective hduration
    metadata := metadata_rel_of_bytes_eq hT.numberText hmeta }

/-- A BLAKE3 input determines the framed fields, as each is written behind its length. -/
theorem hashFields_eq_of_hashInputV2_eq {T : Texts} {a b : AuditEvent} (ha : a.InMemory T)
    (hb : b.InMemory T) (h : hashInputV2 T a = hashInputV2 T b) :
    hashFields T a = hashFields T b := by
  have hfits : ∀ {e : AuditEvent}, e.InMemory T →
      ∀ field ∈ hashFields T e, ∀ bytes ∈ field, FitsLen bytes := by
    intro e he field hfield bytes hbytes
    exact (he field hfield bytes hbytes).trans (by decide)
  -- both events have the same number of fields, so the frames can be read off one by one
  have hlen : (hashFields T a).length = (hashFields T b).length := rfl
  have hrow : (hashFields T a).flatMap frameField ++ []
      = (hashFields T b).flatMap frameField ++ [] := congrArg (· ++ []) h
  exact (flatMap_frameField_inj hlen (hfits ha) (hfits hb) hrow).1

/-- **A BLAKE3 input determines the fields it covers.** -/
theorem sameHashedFields_of_hashInputV2_eq {T : Texts} (hT : LawfulTexts T) {a b : AuditEvent}
    (ha : a.InMemory T) (hb : b.InMemory T) (h : hashInputV2 T a = hashInputV2 T b) :
    SameHashedFields a b :=
  sameHashedFields_of_hashFields_eq hT (hashFields_eq_of_hashInputV2_eq ha hb h)

/-! ### The samples -/

/-- A table of distinct values tells its keys apart. -/
theorem lookup_inj {α β : Type} [BEq α] [LawfulBEq α] {table : List (α × β)}
    (hvals : (table.map Prod.snd).Nodup) {a b : α} {v : β} (ha : table.lookup a = some v)
    (hb : table.lookup b = some v) : a = b := by
  have hmem : ∀ {a : α}, table.lookup a = some v → (a, v) ∈ table := by
    intro a ha
    obtain ⟨l₁, l₂, htable, -⟩ := List.lookup_eq_some_iff.mp ha
    simp [htable]
  exact (Prod.mk.inj (List.inj_on_of_nodup_map hvals (hmem ha) (hmem hb) rfl)).1

theorem DateTime.rank_lt (t : DateTime) : t.rank < 256 ^ 10 := by
  have h1 := t.nanos_lt
  have h2 := t.secs_ge
  have h3 := t.secs_le
  unfold DateTime.rank
  omega

theorem DateTime.rank_injective : Function.Injective DateTime.rank := by
  intro s t h
  obtain ⟨secs, nanos, h1, h2, h3⟩ := s
  obtain ⟨secs', nanos', h1', h2', h3'⟩ := t
  unfold DateTime.rank at h
  simp only [DateTime.mk.injEq] at h ⊢
  omega

theorem sampleTexts_lawful : LawfulTexts sampleTexts where
  toRfc3339 := by
    have hrank : Function.Injective fun t : DateTime =>
        String.ofList (hexDigits (leBytes 10 t.rank)) := by
      intro s t h
      exact DateTime.rank_injective
        (leBytes_inj s.rank_lt t.rank_lt (hexDigits_injective (String.ofList_inj.mp h)))
    -- a made-up text has twenty characters, fewer than any real one
    have hne : ∀ {s t : DateTime} {text : String}, sampleMoments.lookup s = some text →
        text ≠ String.ofList (hexDigits (leBytes 10 t.rank)) := by
      rintro s t text hs rfl
      obtain ⟨l₁, l₂, htable, -⟩ := List.lookup_eq_some_iff.mp hs
      have hlen : ∀ p ∈ sampleMoments, p.2.toList.length ≠ 20 := by decide
      refine hlen (s, String.ofList (hexDigits (leBytes 10 t.rank))) (by simp [htable]) ?_
      rw [String.toList_ofList, length_hexDigits, length_leBytes]
    intro s t h
    simp only [sampleTexts] at h
    cases hs : sampleMoments.lookup s with
    | none => cases ht : sampleMoments.lookup t with
      | none => exact hrank (by simpa [hs, ht] using h)
      | some text => exact absurd (by simpa [hs, ht] using h.symm) (hne (t := s) ht)
    | some text => cases ht : sampleMoments.lookup t with
      | none => exact absurd (by simpa [hs, ht] using h) (hne (t := t) hs)
      | some text' =>
        have htext : text = text' := by simpa [hs, ht] using h
        exact lookup_inj (by decide) hs (htext ▸ ht)
  numberText := by
    refine ⟨?_, ?_, ?_⟩
    · intro m n h
      cases m with
      | posInt a => cases n with
        | posInt b => simpa [sampleTexts, UInt64.toNat_inj] using h
        | _ => simp [sampleTexts] at h
      | negInt a ha => cases n with
        | negInt b hb =>
          have hab : a.toBitVec.toNat = b.toBitVec.toNat := by simpa [sampleTexts] using h
          simpa using Int64.toBitVec_inj.mp (BitVec.eq_of_toNat_eq hab)
        | _ => simp [sampleTexts] at h
      | float a ha => cases n with
        | float b hb => simpa [sampleTexts, UInt64.toNat_inj] using h
        | _ => simp [sampleTexts] at h
    · intro n
      cases n <;> simp [sampleTexts]
    · intro n c hc
      have hchar : c = '+' ∨ c = '-' ∨ c = '.' ∨ c = '0' := by
        cases n <;> simp only [sampleTexts, List.mem_cons, List.mem_replicate] at hc <;> tauto
      rcases hchar with rfl | rfl | rfl | rfl <;> decide

/-- The digests of the samples differ. -/
theorem sampleExterns_collisionFree :
    CollisionFree sampleExterns.blake3 {x | x ∈ sampleDigests.map Prod.fst} := by
  have hvals : (sampleDigests.map Prod.snd).Nodup := by decide +kernel
  have hsome : ∀ x ∈ sampleDigests.map Prod.fst, ∃ d, sampleDigests.lookup x = some d := by
    intro x hx
    obtain ⟨p, hp, rfl⟩ := List.mem_map.mp hx
    cases hd : sampleDigests.lookup p.1 with
    | none => simpa using List.lookup_eq_none_iff.mp hd p hp
    | some d => exact ⟨d, rfl⟩
  intro x hx y hy hxy
  obtain ⟨d, hd⟩ := hsome x hx
  obtain ⟨d', hd'⟩ := hsome y hy
  simp only [sampleExterns, hd, hd', Option.getD_some] at hxy
  exact lookup_inj hvals hd (hxy ▸ hd')

theorem collisionFree_sampleChain :
    CollisionFree sampleExterns.blake3
      {x | ∃ e ∈ [sampleFirst, sampleSecond], x = hashInputV2 sampleTexts e} := by
  refine sampleExterns_collisionFree.mono ?_
  rintro x ⟨e, he, rfl⟩
  have he : e = sampleFirst ∨ e = sampleSecond := by simpa using he
  rcases he with rfl | rfl
  · exact List.mem_cons_self
  · exact List.mem_cons_of_mem _ List.mem_cons_self

theorem inMemory_sampleChain : ∀ e ∈ [sampleFirst, sampleSecond], e.InMemory sampleTexts := by
  decide +kernel

/-! ### Chains -/

/-- An event whose hash is right and carries the v2 marker is hashed under v2. -/
theorem hashedV2_of_hashValid {X : HashExterns} {e : AuditEvent} {hash : String}
    (hvalid : HashValid X e) (hhash : e.hash = some hash)
    (hv2 : startsWith hash hashV2Prefix = true) : HashedV2 X e := by
  rw [HashValid, recomputeHash, hhash] at hvalid
  rw [HashedV2, hhash, hvalid]
  simp only [hv2, if_pos]

theorem hashInputV2_eq_of_hash_eq {X : HashExterns} {S : Set (List UInt8)}
    (hcf : CollisionFree X.blake3 S) {a b : AuditEvent} (ha : HashedV2 X a) (hb : HashedV2 X b)
    (haS : hashInputV2 X.toTexts a ∈ S) (hbS : hashInputV2 X.toTexts b ∈ S)
    (h : a.hash = b.hash) : hashInputV2 X.toTexts a = hashInputV2 X.toTexts b := by
  unfold HashedV2 computeHashV2 at ha hb
  rw [h, hb, Option.some.injEq] at ha
  have hhex := congrArg String.toList ha
  rw [String.toList_append, String.toList_append] at hhex
  have hdigest := Digest.toHex_injective (String.toList_inj.mp (List.append_cancel_left hhex))
  exact (hcf hbS haS hdigest).symm

/-- An event that carries the hash of a sealed one is valid exactly when its hashed fields
are those of the sealed one. -/
theorem hashValid_iff_hashFields_eq {X : HashExterns} {S : Set (List UInt8)}
    (hcf : CollisionFree X.blake3 S) {a b : AuditEvent} (ha : HashedV2 X a)
    (hhash : b.hash = a.hash) (haS : hashInputV2 X.toTexts a ∈ S)
    (hbS : hashInputV2 X.toTexts b ∈ S) (hma : a.InMemory X.toTexts)
    (hmb : b.InMemory X.toTexts) :
    HashValid X b ↔ hashFields X.toTexts b = hashFields X.toTexts a := by
  constructor
  · intro hb
    have hb := hashedV2_of_hashValid hb (hhash.trans ha) (startsWith_computeHashV2 X a)
    have hinput := hashInputV2_eq_of_hash_eq hcf hb ha hbS haS hhash
    exact hashFields_eq_of_hashInputV2_eq hmb hma hinput
  · intro hfields
    exact (ha.congr hhash hfields).hashValid

/-- **The head hash commits to the chain.**  Let `A` be a verified chain all of whose
hashes carry the v2 marker and `B` any verified chain with the same last hash.  If
BLAKE3 has no collision among the inputs of the two chains, they have the same length
and agree, event by event, on everything the v2 scheme covers. -/
theorem forall₂_sameHashedFields_of_head_eq (X : HashExterns) (hT : LawfulTexts X.toTexts)
    {A B : List AuditEvent}
    (hcf : CollisionFree X.blake3 {x | ∃ e ∈ A ++ B, x = hashInputV2 X.toTexts e})
    (hA : ∀ e ∈ A, e.InMemory X.toTexts) (hB : ∀ e ∈ B, e.InMemory X.toTexts)
    (hv2 : ∀ e ∈ A, ∃ hash, e.hash = some hash ∧ startsWith hash hashV2Prefix = true)
    (hokA : verifyChain X A = .ok ()) (hokB : verifyChain X B = .ok ())
    (hhead : A.getLast?.bind AuditEvent.hash = B.getLast?.bind AuditEvent.hash) :
    A.length = B.length ∧ List.Forall₂ SameHashedFields A B := by
  obtain ⟨hlinkA, hvalidA⟩ := (verifyChain_eq_ok_iff X A).mp hokA
  obtain ⟨hlinkB, hvalidB⟩ := (verifyChain_eq_ok_iff X B).mp hokB
  have hcommit : ∀ a ∈ A, ∀ b ∈ B, a.hash = b.hash →
      SameHashedFields a b ∧ a.previousHash = b.previousHash := by
    intro a ha b hb hab
    -- the marker on `a` is the marker on `b`, so both are hashed under v2
    obtain ⟨hash, hhash, hmark⟩ := hv2 a ha
    have haV2 := hashedV2_of_hashValid (hvalidA a ha) hhash hmark
    have hbV2 := hashedV2_of_hashValid (hvalidB b hb) (hab ▸ hhash) hmark
    have hinput := hashInputV2_eq_of_hash_eq hcf haV2 hbV2
      ⟨a, List.mem_append_left _ ha, rfl⟩ ⟨b, List.mem_append_right _ hb, rfl⟩ hab
    have hsame := sameHashedFields_of_hashInputV2_eq hT (hA a ha) (hB b hb) hinput
    exact ⟨hsame, hsame.previousHash⟩
  have htip : tip AuditEvent.hash none A = tip AuditEvent.hash none B := by
    have hbind : ∀ es : List AuditEvent,
        tip AuditEvent.hash none es = es.getLast?.bind AuditEvent.hash := by
      intro es
      rw [tip_getLast?]
      cases es.getLast? <;> rfl
    rw [hbind, hbind, hhead]
  have hall := forall₂_of_tip_eq hlinkA hlinkB (fun a ha => (hvalidA a ha).hash_ne_none)
    (fun b hb => (hvalidB b hb).hash_ne_none) hcommit htip
  exact ⟨hall.length_eq, hall⟩

/-- A sample with the keys of its metadata the other way round. -/
def sampleReordered (e : AuditEvent) : AuditEvent :=
  { e with metadata := some (.object
      [("action", .string "read"), ("roles", .array [.string "auditor"])]) }

theorem forall₂_sameHashedFields_of_head_eq_sample :
    verifyChain sampleExterns [sampleFirst, sampleSecond] = .ok () ∧
      verifyChain sampleExterns [sampleReordered sampleFirst, sampleReordered sampleSecond]
        = .ok () ∧
      List.Forall₂ SameHashedFields [sampleFirst, sampleSecond]
        [sampleReordered sampleFirst, sampleReordered sampleSecond] := by
  have hfirst : hashFields sampleTexts (sampleReordered sampleFirst)
      = hashFields sampleTexts sampleFirst := by decide
  have hsecond : hashFields sampleTexts (sampleReordered sampleSecond)
      = hashFields sampleTexts sampleSecond := by decide
  have hvalid : ∀ e ∈ [sampleFirst, sampleSecond], HashedV2 sampleExterns e := by
    simpa using ⟨hashedV2_sampleFirst, hashedV2_sampleSecond⟩
  have hvalid' : ∀ e ∈ [sampleReordered sampleFirst, sampleReordered sampleSecond],
      HashedV2 sampleExterns e := by
    simpa using ⟨hashedV2_sampleFirst.congr rfl hfirst, hashedV2_sampleSecond.congr rfl hsecond⟩
  have hok : verifyChain sampleExterns [sampleFirst, sampleSecond] = .ok () :=
    (verifyChain_eq_ok_iff _ _).mpr ⟨⟨rfl, rfl, trivial⟩, fun e he => (hvalid e he).hashValid⟩
  have hok' : verifyChain sampleExterns
      [sampleReordered sampleFirst, sampleReordered sampleSecond] = .ok () :=
    (verifyChain_eq_ok_iff _ _).mpr ⟨⟨rfl, rfl, trivial⟩, fun e he => (hvalid' e he).hashValid⟩
  have hmemory := inMemory_sampleChain
  have hmemory' : ∀ e ∈ [sampleReordered sampleFirst, sampleReordered sampleSecond],
      e.InMemory sampleTexts := by
    simpa [AuditEvent.InMemory, hfirst, hsecond] using hmemory
  have hcf : CollisionFree sampleExterns.blake3 {x | ∃ e ∈ [sampleFirst, sampleSecond]
      ++ [sampleReordered sampleFirst, sampleReordered sampleSecond],
      x = hashInputV2 sampleTexts e} := by
    -- the inputs are those of the first chain
    refine collisionFree_sampleChain.mono ?_
    rintro x ⟨e, he, rfl⟩
    have he : e = sampleFirst ∨ e = sampleSecond ∨ e = sampleReordered sampleFirst ∨
        e = sampleReordered sampleSecond := by simpa using he
    rcases he with rfl | rfl | rfl | rfl
    · exact ⟨sampleFirst, by simp, rfl⟩
    · exact ⟨sampleSecond, by simp, rfl⟩
    · exact ⟨sampleFirst, by simp, by rw [hashInputV2, hfirst, hashInputV2]⟩
    · exact ⟨sampleSecond, by simp, by rw [hashInputV2, hsecond, hashInputV2]⟩
  refine ⟨hok, hok', ?_⟩
  exact (forall₂_sameHashedFields_of_head_eq sampleExterns sampleTexts_lawful hcf hmemory hmemory'
    (fun e he => ⟨_, hvalid e he, startsWith_computeHashV2 _ _⟩) hok hok' rfl).2

end ActonService
