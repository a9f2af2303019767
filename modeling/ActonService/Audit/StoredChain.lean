import ActonService.Audit.Storage

/-!
# Verifying a stored chain

`AuditStorage::verify_chain` starts where it is told to, over what a purge has left,
but the verifier it calls expects the first event it sees to name no predecessor.  So
the verification of an unaltered chain reports no break exactly when it selects
nothing, or the whole chain from its first event on.

A verification reads its events into a `Vec`, so a chain it can verify has fewer than
`2 ^ 63` of them; that is also how far the signed `sequence` columns count.

## Main results

* `selectFrom_sealed` — the events a verification selects from what a purge left.
* `verifyChain_stored_eq_none_iff` — **when the verification of a stored chain reports no
  break.**
-/

namespace ActonService

open HashChain

/-! ### Sequence numbers -/

theorem toNat_sequencesFrom (s : UInt64) (n : ℕ) (h : s.toNat + n < 2 ^ 64) :
    (sequencesFrom s n).map UInt64.toNat = List.range' (s.toNat + 1) n := by
  induction n generalizing s with
  | zero => rfl
  | succ n ih =>
    have hs : (s + 1).toNat = s.toNat + 1 := by
      rw [UInt64.toNat_add, UInt64.toNat_one, Nat.mod_eq_of_lt (by omega)]
    rw [sequencesFrom, List.map_cons, ih (s + 1) (by omega), hs, List.range'_succ]

/-- The events of a numbered chain count from one. -/
theorem toNat_sequence_of_numbered {sealed : List AuditEvent} (h : Numbered 0 sealed)
    (hlen : sealed.length < 2 ^ 63) :
    sealed.map (fun e => e.sequence.toNat) = List.range' 1 sealed.length := by
  have hseq := congrArg (List.map UInt64.toNat) (sequence_of_numbered h)
  rw [List.map_map] at hseq
  exact hseq.trans (toNat_sequencesFrom 0 _ (by simpa using by omega))

theorem toInt_toInt64 {n : UInt64} (h : n.toNat < 2 ^ 63) : n.toInt64.toInt = n.toNat := by
  rw [Int64.toInt, UInt64.toBitVec_toInt64, BitVec.toInt_eq_toNat_of_lt]
  · rfl
  · show 2 * n.toNat < 2 ^ 64
    omega

/-- Every backend's `sequence` column holds the sequence number. -/
theorem sequence_toRow (S : StoreExterns) (R : Reading) (kind : BackendKind) {e : AuditEvent}
    (h : e.sequence.toNat < 2 ^ 63) :
    (auditStorage S R kind).sequence ((auditStorage S R kind).toRow e) = e.sequence.toNat := by
  cases kind with
  | clickHouse => rfl
  | _ => exact toInt_toInt64 h

/-! ### What a verification selects -/

/-- The events of a stored chain, numbered from one as far as a backend counts. -/
structure Counted (sealed : List AuditEvent) : Prop where
  length_lt : sealed.length < 2 ^ 63
  sequence : sealed.map (fun e => e.sequence.toNat) = List.range' 1 sealed.length

theorem Counted.mem_bounds {sealed : List AuditEvent} (h : Counted sealed) {e : AuditEvent}
    (he : e ∈ sealed) : 1 ≤ e.sequence.toNat ∧ e.sequence.toNat ≤ sealed.length := by
  have hmem : e.sequence.toNat ∈ sealed.map fun e => e.sequence.toNat :=
    List.mem_map_of_mem he
  rw [h.sequence, List.mem_range'_1] at hmem
  omega

theorem Counted.pairwise {sealed : List AuditEvent} (h : Counted sealed) :
    sealed.Pairwise fun d e => d.sequence.toNat ≤ e.sequence.toNat := by
  have hrange : (sealed.map fun e => e.sequence.toNat).Pairwise (· ≤ ·) := by
    rw [h.sequence]
    exact List.pairwise_le_range' 1
  exact List.pairwise_map.mp hrange

/-- The events behind a purge of the first `k` whose sequence is at least `start`. -/
def selected (sealed : List AuditEvent) (k : ℕ) (start : ℤ) : List AuditEvent :=
  (sealed.drop k).filter fun e => start ≤ e.sequence.toNat

/-- **What a verification selects from what a purge left.** -/
theorem selectFrom_sealed (S : StoreExterns) (R : Reading) (kind : BackendKind)
    {sealed : List AuditEvent} (h : Counted sealed) (k : ℕ) (fromSequence : UInt64) :
    (auditStorage S R kind).selectFrom fromSequence
        ((sealed.map (auditStorage S R kind).toRow).drop k)
      = (selected sealed k ((auditStorage S R kind).sequenceParam fromSequence)).map
          (auditStorage S R kind).toRow := by
  have hkey : ∀ e ∈ sealed, (auditStorage S R kind).sequence ((auditStorage S R kind).toRow e)
      = e.sequence.toNat := by
    intro e he
    have hbounds := h.mem_bounds he
    have hlen := h.length_lt
    exact sequence_toRow S R kind (by omega)
  rw [Backend.selectFrom, ← List.map_drop, List.filter_map]
  have hfilter : (sealed.drop k).filter ((fun row => decide
        ((auditStorage S R kind).sequenceParam fromSequence ≤ (auditStorage S R kind).sequence row))
        ∘ (auditStorage S R kind).toRow)
      = selected sealed k ((auditStorage S R kind).sequenceParam fromSequence) := by
    refine List.filter_congr fun e he => ?_
    rw [Function.comp_apply, hkey e (List.mem_of_mem_drop he)]
  rw [hfilter, Backend.orderBySequence]
  refine List.Pairwise.insertionSort_eq (List.pairwise_map.mpr ?_)
  have hsorted := (h.pairwise.sublist (List.drop_sublist k sealed)).filter
    fun e => (auditStorage S R kind).sequenceParam fromSequence ≤ e.sequence.toNat
  refine hsorted.imp_of_mem fun {d e} hd he hle => ?_
  rw [hkey d (List.mem_of_mem_drop (List.mem_of_mem_filter hd)),
    hkey e (List.mem_of_mem_drop (List.mem_of_mem_filter he))]
  exact Int.ofNat_le.mpr hle

/-- Nothing is selected exactly when everything was purged or the chain ends before. -/
theorem selected_eq_nil_iff {sealed : List AuditEvent} (h : Counted sealed) (k : ℕ) (start : ℤ) :
    selected sealed k start = [] ↔ sealed.length ≤ k ∨ (sealed.length : ℤ) < start := by
  rw [selected, List.filter_eq_nil_iff]
  constructor
  · intro hnone
    by_contra hsome
    rw [not_or, not_le, not_lt] at hsome
    obtain ⟨hk, hstart⟩ := hsome
    -- the last event is left, and its sequence is the length of the chain
    have hdrop : sealed.drop k ≠ [] := by
      rw [Ne, List.drop_eq_nil_iff]
      omega
    have hlast : ((sealed.drop k).getLast hdrop).sequence.toNat = sealed.length := by
      have hmap : ((sealed.drop k).map fun e => e.sequence.toNat)
          = List.range' (1 + k) (sealed.length - k) := by
        rw [List.map_drop, h.sequence, List.drop_range', Nat.mul_one]
      have hget := List.getLast_map (f := fun e : AuditEvent => e.sequence.toNat)
        (l := sealed.drop k) (by simpa using hdrop)
      rw [← hget]
      simp only [hmap, List.getLast_range']
      omega
    refine hnone _ (List.getLast_mem hdrop) (decide_eq_true ?_)
    rw [hlast]
    exact hstart
  · rintro (hk | hstart) e he
    · rw [List.drop_eq_nil_iff.mpr hk] at he
      exact absurd he (List.not_mem_nil)
    · have := h.mem_bounds (List.mem_of_mem_drop he)
      rw [decide_eq_true_eq]
      omega

/-- The whole chain is selected when nothing was purged and the start is no later than the
first event. -/
theorem selected_zero {sealed : List AuditEvent} (h : Counted sealed) {start : ℤ}
    (hstart : start ≤ 1) : selected sealed 0 start = sealed := by
  rw [selected, List.drop_zero, List.filter_eq_self]
  intro e he
  have := h.mem_bounds he
  exact decide_eq_true (by omega)

/-- Otherwise the first event is not selected: the selection is one of those behind it. -/
theorem selected_subset_tail {first : AuditEvent} {rest : List AuditEvent}
    (h : Counted (first :: rest)) {k : ℕ} {start : ℤ} (hskip : k ≠ 0 ∨ 1 < start) :
    ∀ e ∈ selected (first :: rest) k start, e ∈ rest := by
  intro e he
  obtain ⟨hdrop, hstart⟩ := List.mem_filter.mp he
  rcases hskip with hk | hstart'
  · obtain ⟨k, rfl⟩ := Nat.exists_eq_succ_of_ne_zero hk
    exact List.mem_of_mem_drop hdrop
  · rcases List.mem_cons.mp (List.mem_of_mem_drop hdrop) with rfl | hrest
    · have hfirst : e.sequence.toNat = 1 := by
        have := h.sequence
        rw [List.length_cons, List.map_cons, List.range'_succ, List.cons.injEq] at this
        exact this.1
      rw [hfirst, decide_eq_true_eq] at hstart
      omega
    · exact hrest

/-- A selection that leaves the first event out holds only events with a predecessor. -/
theorem prev_ne_none_of_selected {sealed : List AuditEvent} (h : Counted sealed)
    (hchained : Chained none sealed) (hhash : ∀ e ∈ sealed, e.hash ≠ none) {k : ℕ} {start : ℤ}
    (hskip : k ≠ 0 ∨ 1 < start) : ∀ e ∈ selected sealed k start, e.previousHash ≠ none := by
  intro e he
  cases sealed with
  | nil => simp [selected] at he
  | cons first rest =>
    exact prev_ne_of_mem hchained.2 hhash e (selected_subset_tail h hskip e he)

/-! ### When a verification reports no break -/

/-- What an event needs to survive the columns of a backend: a time without a part below
the unit of its column, and metadata that come back with their canonical text. -/
def BackendKind.Survives (S : StoreExterns) : BackendKind → AuditEvent → Prop
  | .postgres => SurvivesColumns S.toTexts 1000 (jsonbMetadata S)
  | .clickHouse => SurvivesColumns S.toTexts 1000000 (textMetadata S)
  | .turso | .surrealDb => SurvivesColumns S.toTexts 1 (textMetadata S)

section Stored

variable {S : StoreExterns} {R : Reading} {kind : BackendKind} {sealed : List AuditEvent}

/-- Every backend returns a sealed event with its links. -/
theorem exists_reads {e : AuditEvent} (hhash : e.hash ≠ none) (hregular : e.timestamp.Regular)
    (hstamps : kind = .turso ∨ kind = .surrealDb → e.StampsRoundTrip S) :
    ∃ e', (auditStorage S R kind).Reads e e' := by
  cases kind with
  | postgres =>
    obtain ⟨t, -, -, hreads⟩ := pg_hasColumns S hregular
    exact ⟨_, hreads⟩
  | clickHouse =>
    obtain ⟨t, -, -, hreads⟩ := clickHouse_hasColumns S R.now hhash hregular
    exact ⟨_, hreads⟩
  | turso =>
    obtain ⟨t, -, -, hreads⟩ := turso_hasColumns (hstamps (.inl rfl)) hregular
    exact ⟨_, hreads⟩
  | surrealDb =>
    obtain ⟨t, -, -, hreads⟩ :=
      surreal_hasColumns (hstamps (.inr rfl)) hhash hregular R.form R.newId R.now
    exact ⟨_, hreads⟩

/-- A whole chain verifies when every event survives its backend. -/
theorem verifiesReadBack_iff_survives (hchained : Chained none sealed)
    (hhashed : ∀ e ∈ sealed, HashedV2 S.toHashExterns e)
    (hrfc : Set.InjOn S.toRfc3339 {t | t.Regular})
    (hregular : ∀ e ∈ sealed, e.timestamp.Regular)
    (hstamps : kind = .turso ∨ kind = .surrealDb → ∀ e ∈ sealed, e.StampsRoundTrip S)
    (hsound : (auditStorage S R kind).SoundHashing S.toHashExterns sealed) :
    (auditStorage S R kind).VerifiesReadBack S.toHashExterns sealed
      ↔ ∀ e ∈ sealed, kind.Survives S e := by
  have hhash : ∀ e ∈ sealed, e.hash ≠ none :=
    fun e he => (hhashed e he).hashValid.hash_ne_none
  cases kind with
  | postgres =>
    exact Backend.verifiesReadBack_columns_iff (fun e he => pg_hasColumns S (hregular e he)) hrfc
      hregular hsound hchained hhashed
  | clickHouse =>
    exact Backend.verifiesReadBack_columns_iff
      (fun e he => clickHouse_hasColumns S R.now (hhash e he) (hregular e he)) hrfc hregular
      hsound hchained hhashed
  | turso =>
    exact Backend.verifiesReadBack_columns_iff
      (fun e he => turso_hasColumns (hstamps (.inl rfl) e he) (hregular e he)) hrfc hregular
      hsound hchained hhashed
  | surrealDb =>
    exact Backend.verifiesReadBack_columns_iff
      (fun e he => surreal_hasColumns (hstamps (.inr rfl) e he) (hhash e he) (hregular e he)
        R.form R.newId R.now) hrfc hregular hsound hchained hhashed

/-- Without a fault a verification reads all it selects. -/
theorem readFrom_none_eq_ok_iff (fromSequence : UInt64) (table : List (auditStorage S R kind).Row)
    (events : List AuditEvent) :
    (auditStorage S R kind).readFrom fromSequence .none table = .ok events ↔
      (auditStorage S R kind).readRows ((auditStorage S R kind).selectFrom fromSequence table)
        = .ok events := by
  cases kind with
  | postgres => exact mapError_eq_ok_iff.trans fetchAll_none_eq_ok_iff
  | clickHouse => exact mapError_eq_ok_iff.trans fetchAll_none_eq_ok_iff
  | surrealDb =>
    exact surrealQuery_none_eq_ok_iff "Failed to fetch events for verification: "
      "Failed to deserialize audit events: "
  | turso =>
    exact libsqlQuery_none_eq_ok_iff "Failed to connect for chain verify: "
      "Failed to fetch events for verification: "

theorem verifyChain_none_iff_verifiesReadBack (h : Counted sealed) (k : ℕ)
    (fromSequence : UInt64) :
    (auditStorage S R kind).verifyChain S.toHashExterns fromSequence .none
        ((sealed.map (auditStorage S R kind).toRow).drop k) = .ok none
      ↔ (auditStorage S R kind).VerifiesReadBack S.toHashExterns
          (selected sealed k ((auditStorage S R kind).sequenceParam fromSequence)) := by
  rw [AuditStorage.verifyChain_eq_none_iff, Backend.VerifiesReadBack,
    ← selectFrom_sealed S R kind h]
  simp only [readFrom_none_eq_ok_iff]

/-- A reading that starts behind the first event of the chain does not verify: its first
event names a predecessor. -/
theorem not_verifiesReadBack_of_prev {X : HashExterns} {b : Backend} {es : List AuditEvent}
    (hne : es ≠ []) (hprev : ∀ e ∈ es, e.previousHash ≠ none)
    (hread : ∀ e ∈ es, ∃ e', b.Reads e e') : ¬ b.VerifiesReadBack X es := by
  rintro ⟨es', hes', hok⟩
  obtain ⟨es'', hes'', hall⟩ := Backend.readRows_map_toRow hread
  obtain rfl : es' = es'' := Except.ok.inj (hes'.symm.trans hes'')
  cases hall with
  | nil => exact hne rfl
  | cons he _ =>
    have hfirst := ((verifyChain_eq_ok_iff X _).mp hok).1.1
    rw [he.previousHash] at hfirst
    exact hprev _ List.mem_cons_self hfirst

end Stored

theorem survives_content (S : StoreExterns) (kind : BackendKind) (e : AuditEvent) :
    kind.Survives S e.content ↔ kind.Survives S e := by
  cases kind <;> exact survivesColumns_content _ _ _ e

theorem stampsRoundTrip_content (S : StoreExterns) (e : AuditEvent) :
    e.content.StampsRoundTrip S ↔ e.StampsRoundTrip S :=
  ⟨fun h => ⟨h.timestamp, h.id, h.id_colon⟩, fun h => ⟨h.timestamp, h.id, h.id_colon⟩⟩

/-- **When the verification of a stored chain reports no break.**  The events of some
process lifetimes are sealed and appended, and a purge removes the first `k`.  A
verification from `fromSequence` then reports no break exactly when it selects nothing,
because all was purged or the chain ends before, or when nothing was purged, it starts
at the first event, and every event survives the columns of the backend.  Of the texts a
backend writes, only those of the time and the identifier are taken to parse back. -/
theorem verifyChain_stored_eq_none_iff (S : StoreExterns) (R : Reading) (kind : BackendKind)
    (serviceName : String) (lifetimes : List (List AuditEvent)) (k : ℕ) (fromSequence : UInt64)
    (hlen : lifetimes.flatten.length < 2 ^ 63) (hrfc : Set.InjOn S.toRfc3339 {t | t.Regular})
    (hnow : ∀ e ∈ lifetimes.flatten, e.timestamp.Regular)
    (hstamps : kind = .turso ∨ kind = .surrealDb →
      ∀ e ∈ lifetimes.flatten, e.StampsRoundTrip S)
    (hsound : (auditStorage S R kind).SoundHashing S.toHashExterns
      (sealLifetimes S.toHashExterns serviceName [] lifetimes)) :
    (auditStorage S R kind).verifyChain S.toHashExterns fromSequence .none
        (((sealLifetimes S.toHashExterns serviceName [] lifetimes).map
          (auditStorage S R kind).toRow).drop k) = .ok none
      ↔ lifetimes.flatten.length ≤ k ∨
        (lifetimes.flatten.length : ℤ) < (auditStorage S R kind).sequenceParam fromSequence ∨
        (k = 0 ∧ (auditStorage S R kind).sequenceParam fromSequence ≤ 1 ∧
          ∀ e ∈ lifetimes.flatten, kind.Survives S e) := by
  have hempty : verifyChain S.toHashExterns [] = .ok () := rfl
  have hspec := sealLifetimes_spec S.toHashExterns serviceName lifetimes hempty
  set sealed := sealLifetimes S.toHashExterns serviceName [] lifetimes
  set start := (auditStorage S R kind).sequenceParam fromSequence
  rw [← hspec.length_eq] at hlen ⊢
  have hcounted : Counted sealed := ⟨hlen, toNat_sequence_of_numbered hspec.numbered hlen⟩
  have hregular := (forall_content_iff (fun e => e.timestamp.Regular) (fun _ => Iff.rfl)
    hspec.content).mpr hnow
  have hstamps := fun hkind => (forall_content_iff (fun e => e.StampsRoundTrip S)
    (stampsRoundTrip_content S) hspec.content).mpr (hstamps hkind)
  rw [verifyChain_none_iff_verifiesReadBack hcounted]
  by_cases hnil : selected sealed k start = []
  · rw [hnil]
    refine iff_of_true ⟨[], rfl, rfl⟩ ?_
    exact ((selected_eq_nil_iff hcounted k start).mp hnil).imp_right .inl
  · have hrest := hnil
    rw [selected_eq_nil_iff hcounted, not_or] at hrest
    rw [or_iff_right hrest.1, or_iff_right hrest.2]
    by_cases hfirst : k = 0 ∧ start ≤ 1
    · obtain ⟨rfl, hstart⟩ := hfirst
      rw [selected_zero hcounted hstart, verifiesReadBack_iff_survives hspec.chained hspec.hashed
        hrfc hregular hstamps hsound, forall_content_iff _ (survives_content S kind) hspec.content]
      simp [hstart]
    · refine iff_of_false ?_ fun h => hfirst ⟨h.1, h.2.1⟩
      -- the first event selected has a predecessor, and the verifier expects none
      have hhash : ∀ e ∈ sealed, e.hash ≠ none :=
        fun e he => (hspec.hashed e he).hashValid.hash_ne_none
      refine not_verifiesReadBack_of_prev hnil ?_ fun e he => ?_
      · exact prev_ne_none_of_selected hcounted hspec.chained hhash (by omega)
      · have he := List.mem_of_mem_drop (List.mem_of_mem_filter he)
        exact exists_reads (hhash e he) (hregular e he) fun hkind => hstamps hkind e he

theorem sealLifetimes_sampleLogin :
    sealLifetimes sampleExterns "billing" [] [[sampleLogin (sampleTime 0) sampleMetadata,
      sampleLogin (sampleTime 0) sampleMetadata]] = [sampleFirst, sampleSecond] := by
  simp [sealLifetimes, sealAll, startChain, seal_sampleLogin, seal_sampleLogin_second]

theorem verifyChain_stored_eq_none_iff_sample :
    (auditStorage sampleStore ⟨.tagged, sampleUuid, sampleTime 0⟩ .turso).verifyChain
        sampleExterns 1 .none
        (((sealLifetimes sampleExterns "billing" []
          [[sampleLogin (sampleTime 0) sampleMetadata,
            sampleLogin (sampleTime 0) sampleMetadata]]).map
          (tursoRow sampleStore)).drop 0) = .ok none := by
  have htexts := textsRoundTrip_sampleLogin (sampleTime 0) (by decide)
  have hread : ∀ e ∈ [sampleFirst, sampleSecond],
      (tursoBackend sampleStore).readBack e = .ok e := by
    intro e he
    have he : e = sampleFirst ∨ e = sampleSecond := by simpa using he
    have hround : e.TextsRoundTrip sampleStore := by
      rcases he with rfl | rfl <;>
        exact ⟨htexts.timestamp, htexts.metadata, htexts.id, htexts.id_colon⟩
    show tursoEvent sampleStore (tursoRow sampleStore e) = .ok e
    rw [tursoEvent_tursoRow hround.stamps, rereadMetadata_eq hround]
  have hsound : (tursoBackend sampleStore).SoundHashing sampleExterns [sampleFirst, sampleSecond] :=
    Backend.soundHashing_of_readBack_eq hread collisionFree_sampleChain inMemory_sampleChain
  refine (verifyChain_stored_eq_none_iff sampleStore ⟨.tagged, sampleUuid, sampleTime 0⟩ .turso
    "billing" [[sampleLogin (sampleTime 0) sampleMetadata,
      sampleLogin (sampleTime 0) sampleMetadata]] 0 1 (by decide)
    sampleTexts_lawful.toRfc3339.injOn (by decide) (fun _ e he => ?_)
    (sealLifetimes_sampleLogin ▸ hsound)).mpr (.inr (.inr ⟨rfl, by decide, fun e he => ?_⟩))
  · obtain rfl : e = sampleLogin (sampleTime 0) sampleMetadata := by simpa using he
    exact htexts.stamps
  · obtain rfl : e = sampleLogin (sampleTime 0) sampleMetadata := by simpa using he
    refine ⟨one_dvd _, fun v hv => ?_⟩
    rw [textMetadata, htexts.metadata v hv]
    rfl

/-- Two logins are stored and nothing is altered; a verification from the second on, and
one behind a purge of the first, still report a break. -/
theorem verifyChain_stored_false_alarm :
    (auditStorage sampleStore ⟨.tagged, sampleUuid, sampleTime 0⟩ .postgres).verifyChain
        sampleExterns 2 .none
        ((sealLifetimes sampleExterns "billing" []
          [[sampleLogin (sampleTime 0) sampleMetadata,
            sampleLogin (sampleTime 0) sampleMetadata]]).map (pgRow sampleStore))
        = .ok (some 2) ∧
      (auditStorage sampleStore ⟨.tagged, sampleUuid, sampleTime 0⟩ .postgres).verifyChain
        sampleExterns 0 .none
        (((sealLifetimes sampleExterns "billing" []
          [[sampleLogin (sampleTime 0) sampleMetadata,
            sampleLogin (sampleTime 0) sampleMetadata]]).map (pgRow sampleStore)).drop 1)
        = .ok (some 2) := by
  rw [sealLifetimes_sampleLogin]
  decide

end ActonService
