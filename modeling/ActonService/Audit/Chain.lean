import ActonService.Audit.Event
import ActonService.Lib.HashChain

/-!
# The audit hash chain

The hash chain of `audit/chain.rs`.  `AuditChain.seal` fills in the chain fields
of an event and hashes it under the current scheme (v2); `verifyChain` recomputes
every hash, each under the scheme its own text names, and checks that every event
names the hash of the one before it.

`chrono`, `serde_json`'s number texts and BLAKE3 are third-party code and enter
as the parameters of `HashExterns`.  A digest has 32 bytes, so no hash function
is injective on all inputs: where a result needs that BLAKE3 has no collisions,
it says on which inputs (`CollisionFree`).

## Main definitions

* `hashFields`, `hashInputV2`, `computeHashV2` — the current scheme.
* `hashInputV1`, `computeHashV1` — the legacy scheme.
* `AuditChain.seal`, `sealAll`, `sealLifetimes` — sealing one event, the events of one
  process, and those of one process after the other.
* `verifyChain` — the verifier.

## Main results

* `verifyFrom_eq_ok_iff` — what the verifier accepts, as a property of the list.
* `sealAll_spec` — what sealing a list of events does.
* `verifyChain_sealLifetimes` — **what is sealed, across any restarts and behind any
  legacy events, verifies.**
-/

namespace ActonService

open Bytes HashChain

/-! ### Third-party functions -/

/-- A BLAKE3 digest, which has thirty-two bytes. -/
structure Digest where
  bytes : List UInt8
  length_eq : bytes.length = 32
  deriving DecidableEq

/-- `Hash::to_hex`. -/
def Digest.toHex (d : Digest) : String := String.ofList (hexDigits d.bytes)

/-- The third-party texts a hash is computed over. -/
structure Texts where
  /-- `DateTime::to_rfc3339`. -/
  toRfc3339 : DateTime → String
  /-- `serde_json::to_string` of a number. -/
  numberText : Number → List Char

/-- The third-party functions a hash is computed with. -/
structure HashExterns extends Texts where
  /-- The BLAKE3 hash of a byte string. -/
  blake3 : List UInt8 → Digest

theorem Digest.toHex_injective : Function.Injective Digest.toHex := by
  intro d d' h
  have hbytes := hexDigits_injective (String.ofList_inj.mp h)
  cases d
  cases d'
  simp_all

/-! ### Hashes -/

/-- The marker of a hash computed under the v2 scheme, `HASH_V2_PREFIX`. -/
def hashV2Prefix : String := "v2:"

/-- The fields the v2 scheme covers, in order. -/
def hashFields (T : Texts) (e : AuditEvent) : List (Option (List UInt8)) :=
  [some (leBytes 8 e.sequence.toNat),
   e.previousHash.map strBytes,
   some e.id.bytes,
   some (strBytes (T.toRfc3339 e.timestamp)),
   some (strBytes e.kind.display),
   some [e.severity.asSyslogSeverity],
   some (strBytes e.serviceName),
   e.method.map strBytes,
   e.path.map strBytes,
   e.statusCode.map fun code => leBytes 2 code.toNat,
   e.source.subject.map strBytes,
   e.source.ip.map strBytes,
   e.source.userAgent.map strBytes,
   e.source.requestId.map strBytes,
   e.durationMs.map fun ms => leBytes 8 ms.toNat,
   e.metadata.map fun v => strBytes (canonicalJson T.numberText v)]

/-- The bytes the v2 scheme hands to BLAKE3: every field framed. -/
def hashInputV2 (T : Texts) (e : AuditEvent) : List UInt8 := (hashFields T e).flatMap frameField

/-- `compute_hash_v2`. -/
def computeHashV2 (X : HashExterns) (e : AuditEvent) : String :=
  hashV2Prefix ++ (X.blake3 (hashInputV2 X.toTexts e)).toHex

/-- The bytes the v1 scheme hands to BLAKE3: some of the fields, unframed. -/
def hashInputV1 (T : Texts) (e : AuditEvent) : List UInt8 :=
  leBytes 8 e.sequence.toNat
    ++ (e.previousHash.map strBytes).getD []
    ++ e.id.bytes
    ++ strBytes (T.toRfc3339 e.timestamp)
    ++ strBytes e.kind.display
    ++ [e.severity.asSyslogSeverity]
    ++ strBytes e.serviceName
    ++ (e.method.map strBytes).getD []
    ++ (e.path.map strBytes).getD []
    ++ (e.statusCode.map fun code => leBytes 2 code.toNat).getD []
    ++ (e.source.subject.map strBytes).getD []

/-- `compute_hash_v1`, the legacy hash. -/
def computeHashV1 (X : HashExterns) (e : AuditEvent) : String :=
  (X.blake3 (hashInputV1 X.toTexts e)).toHex

/-- `recompute_hash`: the scheme is the one the event's own hash names. -/
def recomputeHash (X : HashExterns) (e : AuditEvent) : String :=
  match e.hash with
  | some hash => if startsWith hash hashV2Prefix then computeHashV2 X e else computeHashV1 X e
  | none => computeHashV2 X e

theorem startsWith_computeHashV2 (X : HashExterns) (e : AuditEvent) :
    startsWith (computeHashV2 X e) hashV2Prefix = true :=
  startsWith_append _ _

/-- A legacy hash is all hexadecimal digits, so it never carries the v2 marker. -/
theorem startsWith_computeHashV1 (X : HashExterns) (e : AuditEvent) :
    startsWith (computeHashV1 X e) hashV2Prefix = false := by
  have hv := v_notMem_hexDigits (X.blake3 (hashInputV1 X.toTexts e)).bytes
  rw [computeHashV1, Digest.toHex, startsWith, String.toList_ofList]
  cases hex : hexDigits (X.blake3 (hashInputV1 X.toTexts e)).bytes with
  | nil => rfl
  | cons c t =>
    have hc : c ≠ 'v' := by
      rintro rfl
      exact hv (by rw [hex]; exact List.mem_cons_self)
    have hne : ('v' == c) = false := by simpa using Ne.symm hc
    show (['v', '2', ':'].isPrefixOf (c :: t)) = false
    rw [List.isPrefixOf, hne, Bool.false_and]

/-! ### Sealing -/

/-- The running state of a chain: the hash and the number of the event sealed last, and the service
it is of. -/
structure AuditChain where
  previousHash : Option String
  sequence : UInt64
  serviceName : String

/-- A chain starting from genesis: nothing is sealed yet, so that the first event gets the number
one and has no predecessor. -/
def AuditChain.new (serviceName : String) : AuditChain where
  previousHash := none
  sequence := 0
  serviceName := serviceName

/-- An existing chain resumed from its last known state. -/
def AuditChain.resume (serviceName previousHash : String) (sequence : UInt64) : AuditChain where
  previousHash := some previousHash
  sequence := sequence
  serviceName := serviceName

/-- The event with every chain field filled in but the hash. -/
def AuditChain.stamp (chain : AuditChain) (event : AuditEvent) : AuditEvent :=
  { event with
    sequence := chain.sequence + 1
    previousHash := chain.previousHash
    serviceName := chain.serviceName }

/-- `AuditChain::seal`: fill in the chain fields and advance the chain. -/
def AuditChain.seal (X : HashExterns) (chain : AuditChain) (event : AuditEvent) :
    AuditEvent × AuditChain :=
  let hash := computeHashV2 X (chain.stamp event)
  ({ chain.stamp event with hash := some hash },
   { chain with sequence := chain.sequence + 1, previousHash := some hash })

/-- Sealing events one after the other, each behind the one sealed before it. -/
def sealAll (X : HashExterns) : AuditChain → List AuditEvent → List AuditEvent × AuditChain
  | chain, [] => ([], chain)
  | chain, event :: events =>
    let (sealed, chain') := AuditChain.seal X chain event
    let (rest, chain'') := sealAll X chain' events
    (sealed :: rest, chain'')

/-- The chain a process starts with, given the last event it finds stored. -/
def startChain (serviceName : String) : Option AuditEvent → AuditChain
  | some last =>
    match last.hash with
    | some hash => AuditChain.resume serviceName hash last.sequence
    | none => AuditChain.new serviceName
  | none => AuditChain.new serviceName

/-- The events sealed by one process after the other, each resuming the chain it
finds behind `stored`. -/
def sealLifetimes (X : HashExterns) (serviceName : String) :
    List AuditEvent → List (List AuditEvent) → List AuditEvent
  | _, [] => []
  | stored, events :: lifetimes =>
    let sealed := (sealAll X (startChain serviceName stored.getLast?) events).1
    sealed ++ sealLifetimes X serviceName (stored ++ sealed) lifetimes

/-! ### Verification -/

/-- `ChainVerificationError`. -/
structure ChainVerificationError where
  sequence : UInt64
  expectedPreviousHash : Option String
  actualPreviousHash : Option String
  deriving DecidableEq

/-- The loop of `verify_chain`, at the hash the next event has to name. -/
def verifyFrom (X : HashExterns) :
    Option String → List AuditEvent → Except ChainVerificationError Unit
  | _, [] => .ok ()
  | expectedPrev, event :: events =>
    if event.previousHash ≠ expectedPrev then
      .error ⟨event.sequence, expectedPrev, event.previousHash⟩
    else if event.hash ≠ some (recomputeHash X event) then
      .error ⟨event.sequence, expectedPrev, event.previousHash⟩
    else verifyFrom X event.hash events

/-- `verify_chain`. -/
def verifyChain (X : HashExterns) (events : List AuditEvent) :
    Except ChainVerificationError Unit :=
  if events.isEmpty then .ok () else verifyFrom X none events

theorem verifyChain_eq_verifyFrom (X : HashExterns) (events : List AuditEvent) :
    verifyChain X events = verifyFrom X none events := by
  cases events <;> rfl

/-- The events continue the chain `p`: each names the hash before it. -/
abbrev Chained (p : Option String) (events : List AuditEvent) : Prop :=
  Linked AuditEvent.previousHash AuditEvent.hash p events

/-- The hash an event carries is the one its scheme gives. -/
def HashValid (X : HashExterns) (e : AuditEvent) : Prop := e.hash = some (recomputeHash X e)

instance (X : HashExterns) (e : AuditEvent) : Decidable (HashValid X e) :=
  inferInstanceAs (Decidable (_ = _))

/-- **What the verifier accepts**: linked events with the right hashes. -/
theorem verifyFrom_eq_ok_iff (X : HashExterns) (p : Option String) (events : List AuditEvent) :
    verifyFrom X p events = .ok () ↔ Chained p events ∧ ∀ e ∈ events, HashValid X e := by
  induction events generalizing p with
  | nil => simp [verifyFrom]
  | cons e es ih =>
    rw [verifyFrom, Chained, linked_cons, List.forall_mem_cons, HashValid]
    split_ifs with hprev hhash
    · simp [hprev]
    · simp [hhash]
    · rw [not_not] at hprev hhash
      rw [ih, and_iff_right hprev, and_iff_right hhash]

theorem verifyChain_eq_ok_iff (X : HashExterns) (events : List AuditEvent) :
    verifyChain X events = .ok () ↔ Chained none events ∧ ∀ e ∈ events, HashValid X e := by
  rw [verifyChain_eq_verifyFrom, verifyFrom_eq_ok_iff]

/-- The sequence number a verification reports as broken. -/
def brokenAt : Except ChainVerificationError Unit → Option UInt64
  | .ok () => none
  | .error err => some err.sequence

theorem brokenAt_eq_none_iff (r : Except ChainVerificationError Unit) :
    brokenAt r = none ↔ r = .ok () := by
  cases r <;> simp [brokenAt]

/-- Where every hash is right, the verifier reports the first break of the links. -/
theorem brokenAt_verifyFrom (X : HashExterns) {events : List AuditEvent}
    (hvalid : ∀ e ∈ events, HashValid X e) (p : Option String) :
    brokenAt (verifyFrom X p events)
      = (firstBreak AuditEvent.previousHash AuditEvent.hash p events).map
          AuditEvent.sequence := by
  induction events generalizing p with
  | nil => rfl
  | cons e es ih =>
    have he : e.hash = some (recomputeHash X e) := hvalid e List.mem_cons_self
    rw [verifyFrom, firstBreak_cons]
    by_cases hprev : e.previousHash = p
    · rw [if_neg (not_not.mpr hprev), if_neg (not_not.mpr he), if_pos hprev]
      exact ih (fun x hx => hvalid x (List.mem_cons_of_mem _ hx)) e.hash
    · rw [if_pos hprev, if_neg hprev]
      rfl

/-! ### What sealing does -/

/-- An event without its chain fields: what its emitter said. -/
def AuditEvent.content (e : AuditEvent) : AuditEvent :=
  { e with serviceName := "", hash := none, previousHash := none, sequence := 0 }

/-- A hash under the v2 scheme: what `AuditChain.seal` leaves on an event. -/
def HashedV2 (X : HashExterns) (e : AuditEvent) : Prop := e.hash = some (computeHashV2 X e)

instance (X : HashExterns) (e : AuditEvent) : Decidable (HashedV2 X e) :=
  inferInstanceAs (Decidable (_ = _))

/-- The events are numbered consecutively behind `s`. -/
abbrev Numbered (s : UInt64) (events : List AuditEvent) : Prop :=
  Linked (fun e => some (e.sequence - 1)) (fun e => some e.sequence) (some s) events

/-- The `n` sequence numbers behind `s`, as the chain counts them, which wraps at the end. -/
def sequencesFrom : UInt64 → ℕ → List UInt64
  | _, 0 => []
  | s, n + 1 => (s + 1) :: sequencesFrom (s + 1) n

theorem sequence_of_numbered {s : UInt64} {events : List AuditEvent} (h : Numbered s events) :
    events.map AuditEvent.sequence = sequencesFrom s events.length := by
  induction events generalizing s with
  | nil => rfl
  | cons e es ih =>
    obtain ⟨hseq, hrest⟩ := h
    have he : e.sequence = s + 1 := by
      rw [← Option.some.inj hseq, UInt64.sub_add_cancel]
    rw [List.map_cons, ih hrest, List.length_cons, sequencesFrom, he]

/-- The hash covers no field that is set after it. -/
theorem HashedV2.hashValid {X : HashExterns} {e : AuditEvent} (h : HashedV2 X e) :
    HashValid X e := by
  rw [HashValid, recomputeHash, h]
  simp only [startsWith_computeHashV2, if_pos]

theorem HashValid.hash_ne_none {X : HashExterns} {e : AuditEvent} (h : HashValid X e) :
    e.hash ≠ none := by
  rw [h]
  exact Option.some_ne_none _

/-- The hash covers an event through its fields. -/
theorem HashedV2.congr {X : HashExterns} {a b : AuditEvent} (ha : HashedV2 X a)
    (hhash : b.hash = a.hash) (hfields : hashFields X.toTexts b = hashFields X.toTexts a) :
    HashedV2 X b := by
  rw [HashedV2, hhash, ha, computeHashV2, computeHashV2, hashInputV2, hashInputV2, hfields]

theorem hashedV2_seal (X : HashExterns) (c : AuditChain) (e : AuditEvent) :
    HashedV2 X (AuditChain.seal X c e).1 := rfl

/-- **What sealing a list of events does**: the events come back linked to the chain and
numbered behind it, hashed under the v2 scheme and otherwise as they were, and the
chain ends where they do. -/
structure SealSpec (X : HashExterns) (c : AuditChain) (events sealed : List AuditEvent)
    (c' : AuditChain) : Prop where
  chained : Chained c.previousHash sealed
  numbered : Numbered c.sequence sealed
  hashed : ∀ e ∈ sealed, HashedV2 X e
  service : ∀ e ∈ sealed, e.serviceName = c.serviceName
  content : sealed.map AuditEvent.content = events.map AuditEvent.content
  previousHash : c'.previousHash = tip AuditEvent.hash c.previousHash sealed
  sequence : some c'.sequence = tip (fun e => some e.sequence) (some c.sequence) sealed
  serviceName : c'.serviceName = c.serviceName

theorem sealAll_spec (X : HashExterns) (c : AuditChain) (events : List AuditEvent) :
    SealSpec X c events (sealAll X c events).1 (sealAll X c events).2 := by
  induction events generalizing c with
  | nil => exact ⟨trivial, trivial, by simp [sealAll], by simp [sealAll], rfl, rfl, rfl, rfl⟩
  | cons e es ih =>
    have hrest := ih (AuditChain.seal X c e).2
    refine ⟨⟨rfl, hrest.chained⟩, ⟨?_, hrest.numbered⟩, ?_, ?_, ?_, hrest.previousHash,
      hrest.sequence, hrest.serviceName⟩
    · show some (c.sequence + 1 - 1) = some c.sequence
      rw [UInt64.add_sub_cancel]
    · exact List.forall_mem_cons.mpr ⟨hashedV2_seal X c e, hrest.hashed⟩
    · exact List.forall_mem_cons.mpr ⟨rfl, hrest.service⟩
    · exact congrArg₂ List.cons rfl hrest.content

theorem length_sealAll (X : HashExterns) (c : AuditChain) (events : List AuditEvent) :
    (sealAll X c events).1.length = events.length := by
  simpa using congrArg List.length (sealAll_spec X c events).content

theorem sealAll_append (X : HashExterns) (c : AuditChain) (xs ys : List AuditEvent) :
    sealAll X c (xs ++ ys)
      = ((sealAll X c xs).1 ++ (sealAll X (sealAll X c xs).2 ys).1,
         (sealAll X (sealAll X c xs).2 ys).2) := by
  induction xs generalizing c with
  | nil => rfl
  | cons x xs ih => simp [sealAll, ih]

/-! ### Restarts -/

/-- The last sequence number of the stored events, zero for none. -/
def lastSequence (stored : List AuditEvent) : UInt64 :=
  (stored.getLast?.map AuditEvent.sequence).getD 0

/-- A process that finds a verified chain stored starts where it ends. -/
theorem startChain_spec {X : HashExterns} {stored : List AuditEvent} (serviceName : String)
    (hstored : verifyChain X stored = .ok ()) :
    (startChain serviceName stored.getLast?).previousHash = tip AuditEvent.hash none stored ∧
      (startChain serviceName stored.getLast?).sequence = lastSequence stored := by
  cases stored using List.reverseRecOn with
  | nil => exact ⟨rfl, rfl⟩
  | append_singleton stored e =>
    obtain ⟨-, hvalid⟩ := (verifyChain_eq_ok_iff X _).mp hstored
    have he : e.hash = some (recomputeHash X e) := hvalid e (by simp)
    rw [tip_concat, lastSequence, List.getLast?_append_cons, List.getLast?_singleton]
    simp [startChain, he, AuditChain.resume]

/-- A legacy chain: linked events hashed under the v1 scheme. -/
structure LegacyChain (X : HashExterns) (legacy : List AuditEvent) : Prop where
  chained : Chained none legacy
  hashed : ∀ e ∈ legacy, e.hash = some (computeHashV1 X e)

theorem LegacyChain.verifyChain_eq_ok {X : HashExterns} {legacy : List AuditEvent}
    (h : LegacyChain X legacy) : verifyChain X legacy = .ok () := by
  rw [verifyChain_eq_ok_iff]
  refine ⟨h.chained, fun e he => ?_⟩
  have hhash := h.hashed e he
  rw [HashValid, recomputeHash, hhash]
  simp only [startsWith_computeHashV1, Bool.false_eq_true, if_false]

theorem verifyChain_append_iff (X : HashExterns) (xs ys : List AuditEvent) :
    verifyChain X (xs ++ ys) = .ok () ↔ verifyChain X xs = .ok () ∧
      Chained (tip AuditEvent.hash none xs) ys ∧ ∀ e ∈ ys, HashValid X e := by
  rw [verifyChain_eq_ok_iff, verifyChain_eq_ok_iff, Chained, linked_append,
    List.forall_mem_append]
  tauto

theorem some_lastSequence (stored : List AuditEvent) :
    some (lastSequence stored) = tip (fun e => some e.sequence) (some 0) stored := by
  rw [tip_getLast?, lastSequence]
  cases stored.getLast? <;> rfl

/-- What one process after the other seals, behind a stored chain that verifies. -/
structure LifetimesSpec (X : HashExterns) (stored : List AuditEvent)
    (lifetimes : List (List AuditEvent)) (sealed : List AuditEvent) : Prop where
  chained : Chained (tip AuditEvent.hash none stored) sealed
  numbered : Numbered (lastSequence stored) sealed
  hashed : ∀ e ∈ sealed, HashedV2 X e
  content : sealed.map AuditEvent.content = lifetimes.flatten.map AuditEvent.content

theorem startChain_serviceName (serviceName : String) (last : Option AuditEvent) :
    (startChain serviceName last).serviceName = serviceName := by
  rcases last with _ | last
  · rfl
  · rw [startChain]
    cases last.hash <;> rfl

/-- Every process seals under the service's name, so that no stored event has another one. -/
theorem serviceName_of_mem_sealLifetimes {X : HashExterns} {serviceName : String}
    {lifetimes : List (List AuditEvent)} {stored : List AuditEvent} {e : AuditEvent}
    (he : e ∈ sealLifetimes X serviceName stored lifetimes) : e.serviceName = serviceName := by
  induction lifetimes generalizing stored with
  | nil => cases he
  | cons events lifetimes ih =>
    rcases List.mem_append.mp he with he | he
    · rw [(sealAll_spec X _ events).service e he, startChain_serviceName]
    · exact ih he

theorem LifetimesSpec.length_eq {X : HashExterns} {stored sealed : List AuditEvent}
    {lifetimes : List (List AuditEvent)} (h : LifetimesSpec X stored lifetimes sealed) :
    sealed.length = lifetimes.flatten.length := by
  have hlen := congrArg List.length h.content
  rwa [List.length_map, List.length_map] at hlen

theorem sealLifetimes_spec (X : HashExterns) (serviceName : String)
    (lifetimes : List (List AuditEvent)) {stored : List AuditEvent}
    (hstored : verifyChain X stored = .ok ()) :
    LifetimesSpec X stored lifetimes (sealLifetimes X serviceName stored lifetimes) := by
  induction lifetimes generalizing stored with
  | nil => exact ⟨trivial, trivial, by simp [sealLifetimes], rfl⟩
  | cons events lifetimes ih =>
    obtain ⟨hprev, hseq⟩ := startChain_spec serviceName hstored
    -- a process that starts picks the chain up at the last stored event
    have hseal := sealAll_spec X (startChain serviceName stored.getLast?) events
    rw [sealLifetimes]
    set sealed := (sealAll X (startChain serviceName stored.getLast?) events).1 with hsealed
    have hchained := hseal.chained
    have hnumbered := hseal.numbered
    rw [hprev] at hchained
    rw [hseq] at hnumbered
    -- what the next process finds verifies as well
    have hstored' : verifyChain X (stored ++ sealed) = .ok () :=
      (verifyChain_append_iff X stored sealed).mpr
        ⟨hstored, hchained, fun e he => (hseal.hashed e he).hashValid⟩
    have hrest := ih hstored'
    refine ⟨?_, ?_, ?_, ?_⟩
    · refine (linked_append _ _ _).mpr ⟨hchained, ?_⟩
      rw [← tip_append]
      exact hrest.chained
    · refine (linked_append _ _ _).mpr ⟨hnumbered, ?_⟩
      rw [some_lastSequence, ← tip_append, ← some_lastSequence]
      exact hrest.numbered
    · exact List.forall_mem_append.mpr ⟨hseal.hashed, hrest.hashed⟩
    · rw [List.map_append, hseal.content, hrest.content, List.flatten_cons, List.map_append]

/-! ### Sample events

One login, sealed behind different chains.  The digests are those BLAKE3 gives for
the inputs of these events, and the texts those `chrono` writes at their times. -/

/-- The bytes hexadecimal digits spell, two digits each; a digit left over is dropped. -/
def bytesOfHex : List Char → List UInt8
  | high :: low :: rest => UInt8.ofNat (16 * hexValue high + hexValue low) :: bytesOfHex rest
  | _ => []

/-- A digest from its hexadecimal text, or zeros if that does not spell thirty-two bytes. -/
def digestOfHex (hex : String) : Digest :=
  if h : (bytesOfHex hex.toList).length = 32 then ⟨bytesOfHex hex.toList, h⟩
  else ⟨List.replicate 32 0, rfl⟩

/-- Nanoseconds can be written as numerals. -/
instance neZero_nanos : NeZero 2000000000 := ⟨by decide⟩

/-- Nanoseconds after 2025-06-15T10:30:00Z. -/
def sampleTime (nanos : Fin 2000000000) : DateTime :=
  ⟨1749983400, nanos, nanos.isLt, by decide, by decide⟩

/-- The texts of the times the samples use. -/
def sampleMoments : List (DateTime × String) :=
  [(sampleTime 0, "2025-06-15T10:30:00+00:00"),
   (sampleTime 123456789, "2025-06-15T10:30:00.123456789+00:00"),
   (sampleTime 123456000, "2025-06-15T10:30:00.123456+00:00"),
   (sampleTime 123000000, "2025-06-15T10:30:00.123+00:00")]

/-- The position of a time among all times. -/
def DateTime.rank (t : DateTime) : ℕ := (t.secs + 8334601228800).toNat * 2000000000 + t.nanos

/-- Texts for the samples.  Other times and all numbers have made-up texts. -/
def sampleTexts : Texts where
  toRfc3339 t := (sampleMoments.lookup t).getD (String.ofList (hexDigits (leBytes 10 t.rank)))
  numberText
    | .posInt n => '+' :: List.replicate n.toNat '0'
    | .negInt i _ => '-' :: List.replicate i.toBitVec.toNat '0'
    | .float bits _ => '.' :: List.replicate bits.toNat '0'

def sampleUuid : Uuid :=
  ⟨bytesOfHex "67e5504410b1426f9247bb680e5fe0c8".toList, by decide⟩

/-- A login at a time, with the metadata given. -/
def sampleLogin (t : DateTime) (metadata : Json) : AuditEvent :=
  { AuditEvent.new sampleUuid t .authLoginSuccess .informational "billing" with
    metadata := some metadata }

def sampleMetadata : Json :=
  .object [("roles", .array [.string "auditor"]), ("action", .string "read")]

/-- The login with its chain fields, but for the hash. -/
def sampleStamped (t : DateTime) (sequence : UInt64) (previousHash : Option String) :
    AuditEvent :=
  { sampleLogin t sampleMetadata with sequence := sequence, previousHash := previousHash }

/-- The digests of the samples: two logins on a new chain; a login hashed under the
legacy scheme and two behind it; a login at a time of full precision and the same
login at the time cut to microseconds and to milliseconds. -/
def sampleDigests : List (List UInt8 × Digest) :=
  [(hashInputV2 sampleTexts (sampleStamped (sampleTime 0) 1 none),
    digestOfHex "44c523b45491708d5c281be395fc855b7ca4eb280602cc60772d8ebcb31a42e6"),
   (hashInputV2 sampleTexts (sampleStamped (sampleTime 0) 2
      (some "v2:44c523b45491708d5c281be395fc855b7ca4eb280602cc60772d8ebcb31a42e6")),
    digestOfHex "4b4c63031485afb519c413a08c65c59a0b11e256f22b088bda672161a7f3d52c"),
   (hashInputV1 sampleTexts (sampleStamped (sampleTime 0) 1 none),
    digestOfHex "9776dcf765bb35b8b3d9b5031ab1e99fc9deccf5f169061b54bec139dbf057ce"),
   (hashInputV2 sampleTexts (sampleStamped (sampleTime 0) 2
      (some "9776dcf765bb35b8b3d9b5031ab1e99fc9deccf5f169061b54bec139dbf057ce")),
    digestOfHex "577f0d25688ecb24f4a58172d9b005bba1ece7f931965d77912792773212a5ba"),
   (hashInputV2 sampleTexts (sampleStamped (sampleTime 0) 3
      (some "v2:577f0d25688ecb24f4a58172d9b005bba1ece7f931965d77912792773212a5ba")),
    digestOfHex "77a0ff07fa9f3a545a0512089a7ede923f4e555ac3390b7942f2d4140f18337e"),
   (hashInputV2 sampleTexts (sampleStamped (sampleTime 123456789) 1 none),
    digestOfHex "716218b5cf0459ab81b4d2bfadb54c6d850c3de5f3f81371f992f143be098f76"),
   (hashInputV2 sampleTexts (sampleStamped (sampleTime 123456000) 1 none),
    digestOfHex "0ce922cbec8dd01fa5502c34d7f0084c973bb5bf91e9b613df44c05dbb90096e"),
   (hashInputV2 sampleTexts (sampleStamped (sampleTime 123000000) 1 none),
    digestOfHex "088f5482342b608c4fdf5954a5cf00e7e3b583a60a0c078e917453565d1cdca4")]

/-- BLAKE3 on the inputs of the samples, with the digests that are listed for them. -/
def sampleExterns : HashExterns where
  toTexts := sampleTexts
  blake3 input := (sampleDigests.lookup input).getD (digestOfHex "")

/-- The first login on a new chain. -/
def sampleFirst : AuditEvent :=
  { sampleStamped (sampleTime 0) 1 none with
    hash := some "v2:44c523b45491708d5c281be395fc855b7ca4eb280602cc60772d8ebcb31a42e6" }

/-- The second login on a new chain. -/
def sampleSecond : AuditEvent :=
  { sampleStamped (sampleTime 0) 2 sampleFirst.hash with
    hash := some "v2:4b4c63031485afb519c413a08c65c59a0b11e256f22b088bda672161a7f3d52c" }

theorem hashedV2_sampleFirst : HashedV2 sampleExterns sampleFirst := by decide +kernel

theorem hashedV2_sampleSecond : HashedV2 sampleExterns sampleSecond := by decide +kernel

/-- The first login as it is sealed. -/
theorem seal_sampleLogin :
    AuditChain.seal sampleExterns (AuditChain.new "billing")
        (sampleLogin (sampleTime 0) sampleMetadata)
      = (sampleFirst, ⟨sampleFirst.hash, 1, "billing"⟩) := by
  have hhash : computeHashV2 sampleExterns (sampleStamped (sampleTime 0) 1 none)
      = "v2:44c523b45491708d5c281be395fc855b7ca4eb280602cc60772d8ebcb31a42e6" :=
    (Option.some.inj hashedV2_sampleFirst).symm
  show (({ sampleStamped (sampleTime 0) 1 none with
      hash := some (computeHashV2 sampleExterns (sampleStamped (sampleTime 0) 1 none)) } :
      AuditEvent), AuditChain.mk
      (some (computeHashV2 sampleExterns (sampleStamped (sampleTime 0) 1 none))) 1 "billing") = _
  rw [hhash]
  rfl

/-- The second login as it is sealed. -/
theorem seal_sampleLogin_second :
    AuditChain.seal sampleExterns ⟨sampleFirst.hash, 1, "billing"⟩
        (sampleLogin (sampleTime 0) sampleMetadata)
      = (sampleSecond, ⟨sampleSecond.hash, 2, "billing"⟩) := by
  have hhash : computeHashV2 sampleExterns (sampleStamped (sampleTime 0) 2 sampleFirst.hash)
      = "v2:4b4c63031485afb519c413a08c65c59a0b11e256f22b088bda672161a7f3d52c" :=
    (Option.some.inj hashedV2_sampleSecond).symm
  show (({ sampleStamped (sampleTime 0) 2 sampleFirst.hash with
      hash := some (computeHashV2 sampleExterns
        (sampleStamped (sampleTime 0) 2 sampleFirst.hash)) } : AuditEvent), AuditChain.mk
      (some (computeHashV2 sampleExterns (sampleStamped (sampleTime 0) 2 sampleFirst.hash)))
      2 "billing") = _
  rw [hhash]
  rfl

/-- A login hashed under the legacy scheme. -/
def sampleLegacy : AuditEvent :=
  { sampleStamped (sampleTime 0) 1 none with
    hash := some "9776dcf765bb35b8b3d9b5031ab1e99fc9deccf5f169061b54bec139dbf057ce" }

/-- **What is sealed verifies**, across any restarts and behind any legacy events: the
events of every process lifetime, sealed one process after the other behind a legacy
chain, verify together with it, are numbered consecutively behind it, name the hash
before them and carry the v2 marker. -/
theorem verifyChain_sealLifetimes (X : HashExterns) (serviceName : String)
    {legacy : List AuditEvent} (hlegacy : LegacyChain X legacy)
    (lifetimes : List (List AuditEvent)) :
    verifyChain X (legacy ++ sealLifetimes X serviceName legacy lifetimes) = .ok () ∧
      (sealLifetimes X serviceName legacy lifetimes).map AuditEvent.content
        = lifetimes.flatten.map AuditEvent.content ∧
      (sealLifetimes X serviceName legacy lifetimes).map AuditEvent.sequence
        = sequencesFrom (lastSequence legacy) lifetimes.flatten.length ∧
      Chained none (legacy ++ sealLifetimes X serviceName legacy lifetimes) ∧
      ∀ e ∈ sealLifetimes X serviceName legacy lifetimes,
        ∃ h, e.hash = some h ∧ startsWith h hashV2Prefix = true := by
  have hverified := hlegacy.verifyChain_eq_ok
  have hspec := sealLifetimes_spec X serviceName lifetimes hverified
  have hall : verifyChain X (legacy ++ sealLifetimes X serviceName legacy lifetimes) = .ok () :=
    (verifyChain_append_iff X _ _).mpr
      ⟨hverified, hspec.chained, fun e he => (hspec.hashed e he).hashValid⟩
  refine ⟨hall, hspec.content, ?_, ((verifyChain_eq_ok_iff X _).mp hall).1, ?_⟩
  · rw [sequence_of_numbered hspec.numbered, hspec.length_eq]
  · intro e he
    exact ⟨computeHashV2 X e, hspec.hashed e he, startsWith_computeHashV2 X e⟩

theorem verifyChain_sealLifetimes_sample :
    LegacyChain sampleExterns [sampleLegacy] ∧
      verifyChain sampleExterns ([sampleLegacy] ++ sealLifetimes sampleExterns "billing"
        [sampleLegacy] [[sampleLogin (sampleTime 0) sampleMetadata],
          [sampleLogin (sampleTime 0) sampleMetadata]]) = .ok () := by
  have hlegacy : LegacyChain sampleExterns [sampleLegacy] := by
    refine ⟨⟨rfl, trivial⟩, fun e he => ?_⟩
    rw [List.mem_singleton.mp he]
    decide +kernel
  exact ⟨hlegacy, (verifyChain_sealLifetimes sampleExterns "billing" hlegacy _).1⟩

end ActonService
