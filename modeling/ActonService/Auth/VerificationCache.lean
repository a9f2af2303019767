import ActonService.Auth.SigningCache

/-!
# What a looked-up verification key is worth

`get_verification_key` answers from the cache of its manager whatever the age of the cache, and
asks the store for a key the cache does not have, of whichever service it is.  A token's author
chooses the identifier.

A run notes the table at every call, when each key of each cache was read, and the keys
returned.

## Main definitions

* `VerificationNotes`, `noteVerification` — what a run notes.
* `VerificationLaw` — a returned key is of the manager's service, and was not retired at some
  moment within the check interval before.
* `FromRecent` — keys are returned soon after they were read, and asked of the store for their
  own service.

## Main results

* `verificationLaw_of_reach` — **the law holds as long as keys are.**
-/

namespace ActonService

open Effect Run

/-! ### What a run notes -/

/-- A key that `get_verification_key` returned: by which manager, when, and the table at that
time. -/
structure ReturnedKey where
  manager : ℕ
  kid : String
  instant : ℕ
  table : KeyTable

/-- What a run notes of the keys for verification. -/
structure VerificationNotes where
  /-- The table at every call, with the instant at which the call was made. -/
  moments : List Moment
  /-- When each program last read all keys of its service. -/
  allAt : ℕ → ℕ
  /-- When each program last read one key. -/
  oneAt : ℕ → ℕ
  /-- When the keys in each manager's cache were read, by their identifier. -/
  entries : ℕ → String → Option ℕ
  returned : List ReturnedKey

/-- The notes of a run that has not begun. -/
def VerificationNotes.start : VerificationNotes :=
  ⟨[], fun _ => 0, fun _ => 0, fun _ _ => none, []⟩

namespace VerificationNotes

variable (notes : VerificationNotes)

def nextAllAt (who instant : ℕ) : (c : KeyCall) → c.Answer → ℕ → ℕ
  | .getVerificationKeys _, .ok _ => Function.update notes.allAt who instant
  | _, _ => notes.allAt

def nextOneAt (who instant : ℕ) : (c : KeyCall) → c.Answer → ℕ → ℕ
  | .getKeyByKid _, .ok _ => Function.update notes.oneAt who instant
  | _, _ => notes.oneAt

def nextEntries (who : ℕ) : KeyCall → ℕ → String → Option ℕ
  | .createCache manager => Function.update notes.entries manager fun _ => none
  | .replaceCache manager _ _ =>
    Function.update notes.entries manager fun _ => some (notes.allAt who)
  | .insertCache manager key =>
    Function.update notes.entries manager
      (Function.update (notes.entries manager) key.kid (some (notes.oneAt who)))
  | _ => notes.entries

/-- A lookup returns at once if the cache has the key, and else once it has put the key there. -/
def nextReturned (instant : ℕ) (table : KeyTable) : (c : KeyCall) → c.Answer → List ReturnedKey
  | .readCache manager (.verificationKey kid), (cache, now) =>
    match findKey cache.verificationKeys kid with
    | some key => notes.returned ++ [⟨manager, key.kid, now, table⟩]
    | none => notes.returned
  | .insertCache manager key, _ => notes.returned ++ [⟨manager, key.kid, instant, table⟩]
  | _, _ => notes.returned

end VerificationNotes

/-- What is noted of a call: the table it has met, what it has read, and what it has put into a
cache. -/
def noteVerification (notes : VerificationNotes) (before : KeyWorld) (who : ℕ)
    (_input : KeyInput) (c : KeyCall) (a : c.Answer) (after : KeyWorld) : VerificationNotes where
  moments := notes.moments ++ [⟨after.instant, before.table⟩]
  allAt := notes.nextAllAt who after.instant c a
  oneAt := notes.nextOneAt who after.instant c a
  entries := notes.nextEntries who c
  returned := notes.nextReturned after.instant before.table c a

/-- The world, and the notes so far. -/
abbrev VerificationState := KeyWorld × VerificationNotes

/-- A run of managers with these notes. -/
def verificationStep (X : KeyExterns) (b : KeyBackend) :
    Pool VerificationState KeyCall KeyCall.Answer KeyError → Action KeyOp KeyInput →
      Pool VerificationState KeyCall KeyCall.Answer KeyError :=
  Pool.step (observed (KeyWorld.answer X b) noteVerification) (KeyOp.program X b)

/-- The store has the key, as one of the service. -/
def InService (service kid : String) (t : KeyTable) : Prop :=
  ∃ r ∈ t.rows, r.kid = kid ∧ r.serviceName = service

/-- The store has the key, and it is not retired. -/
def Unretired (kid : String) (t : KeyTable) : Prop :=
  ∃ r ∈ t.rows, r.kid = kid ∧ r.status ≠ .retired

/-- **Lookups are isolated**: every key returned is one of the manager's service, and was not
retired at some moment within the check interval before. -/
def VerificationLaw (managers : ℕ → KeyManager) (s : VerificationState) : Prop :=
  ∀ key ∈ s.2.returned, InService (managers key.manager).serviceName key.kid key.table ∧
    ∃ moment ∈ s.2.moments, moment.instant ≤ key.instant ∧
      key.instant ≤ moment.instant + (managers key.manager).checkInterval ∧
      Unretired key.kid moment.table

/-- The call returns no key that it should not: one in the cache was read within the check
interval, and so was one that the store had to be asked for, which is of the manager's
service. -/
def KeyCall.FromRecent (managers : ℕ → KeyManager) (s : VerificationState) (who : ℕ)
    (input : KeyInput) : KeyCall → Prop
  | .readCache manager (.verificationKey kid) =>
    (findKey (s.1.caches manager).verificationKeys kid).isSome = true →
      ∃ instant ∈ s.2.entries manager kid,
        max s.1.instant input.instant ≤ instant + (managers manager).checkInterval
  | .insertCache manager key =>
    max s.1.instant input.instant ≤ s.2.oneAt who + (managers manager).checkInterval ∧
      InService (managers manager).serviceName key.kid s.1.table
  | _ => True

/-- The same of the call a program is about to make. -/
def FromRecent (managers : ℕ → KeyManager)
    (pool : Pool VerificationState KeyCall KeyCall.Answer KeyError) :
    Action KeyOp KeyInput → Prop
  | .start _ _ => True
  | .step who input => ∀ c ∈ (pool.threads who).next?, c.FromRecent managers pool.state who input

instance decidableInService (service kid : String) (t : KeyTable) :
    Decidable (InService service kid t) :=
  inferInstanceAs (Decidable (∃ r ∈ t.rows, _))

instance decidableUnretired (kid : String) (t : KeyTable) : Decidable (Unretired kid t) :=
  inferInstanceAs (Decidable (∃ r ∈ t.rows, _))

instance decidableVerificationLaw (managers : ℕ → KeyManager) (s : VerificationState) :
    Decidable (VerificationLaw managers s) :=
  inferInstanceAs (Decidable (∀ key ∈ s.2.returned, _ ∧ ∃ moment ∈ s.2.moments, _))

instance decidableCallFromRecent (managers : ℕ → KeyManager) (s : VerificationState) (who : ℕ)
    (input : KeyInput) : ∀ c : KeyCall, Decidable (c.FromRecent managers s who input)
  | .readCache manager (.verificationKey kid) =>
    inferInstanceAs (Decidable (_ → ∃ instant ∈ s.2.entries manager kid, _))
  | .insertCache _ _ => inferInstanceAs (Decidable (_ ∧ InService _ _ _))
  | .readCache _ .staleness | .readCache _ .signingKey | .readCache _ .allVerificationKeys
  | .getActiveKey _ | .getKeyByKid _ | .getVerificationKeys _ | .updateKeyStatus _ _ _
  | .storeKey _ | .countExpired _ | .retireExpired _ | .createCache _ | .replaceCache _ _ _
  | .utcNow | .freshKey | .bootstrapping _ => .isTrue trivial

instance decidableFromRecent (managers : ℕ → KeyManager)
    (pool : Pool VerificationState KeyCall KeyCall.Answer KeyError) :
    ∀ a, Decidable (FromRecent managers pool a)
  | .start _ _ => .isTrue trivial
  | .step who _ => inferInstanceAs (Decidable (∀ c ∈ (pool.threads who).next?, _))

/-! ### Keys and rows -/

theorem kid_of_decode {X : KeyExterns} {m : SigningKeyMetadata} {key : CachedKey}
    (h : decodeKeyMetadata X m = .ok key) : key.kid = m.kid := by
  rw [decodeKeyMetadata] at h
  split at h
  · cases h
    rfl
  · contradiction

theorem mem_of_findKey {keys : List CachedKey} {kid : String} {key : CachedKey}
    (h : findKey keys kid = some key) : key ∈ keys ∧ key.kid = kid := by
  have hkid := List.find?_some (p := fun key : CachedKey => decide (key.kid = kid)) h
  exact ⟨List.mem_of_find?_eq_some h, of_decide_eq_true hkid⟩

/-- A key of a cache is the new one, or an old one under another identifier. -/
theorem mem_insertKey {keys : List CachedKey} {new key : CachedKey} (h : key ∈ insertKey keys new) :
    key = new ∨ (key ∈ keys ∧ key.kid ≠ new.kid) := by
  rcases List.mem_cons.mp h with h | h
  · exact .inl h
  · obtain ⟨hmem, hkid⟩ := List.mem_filter.mp h
    exact .inr ⟨hmem, of_decide_eq_true hkid⟩

theorem mem_foldl_insertKey {keys acc : List CachedKey} {key : CachedKey}
    (h : key ∈ keys.foldl insertKey acc) : key ∈ keys ∨ key ∈ acc := by
  induction keys generalizing acc with
  | nil => exact .inr h
  | cons first keys ih =>
    rcases ih h with h | h
    · exact .inl (List.mem_cons_of_mem _ h)
    · rcases mem_insertKey h with rfl | ⟨h, -⟩
      · exact .inl List.mem_cons_self
      · exact .inr h

/-- A key of a cache that was filled anew is one that was read. -/
theorem exists_of_mem_filled {X : KeyExterns} {metas : List SigningKeyMetadata}
    {keys : List CachedKey} (hkeys : metas.mapM (decodeKeyMetadata X) = .ok keys)
    {key : CachedKey} (h : key ∈ keys.foldl insertKey []) : ∃ m ∈ metas, m.kid = key.kid := by
  rcases mem_foldl_insertKey h with h | h
  · obtain ⟨m, hm, hdecode⟩ := exists_of_mem_mapM hkeys key h
    exact ⟨m, hm, (kid_of_decode hdecode).symm⟩
  · contradiction

/-- The keys that were read are rows of the service that are not retired. -/
theorem mem_of_getVerificationKeys {b : KeyBackend} {fault : KeyFault} {service : String}
    {t : KeyTable} {metas : List SigningKeyMetadata}
    (h : getVerificationKeys b fault service t = .ok metas) :
    ∀ m ∈ metas, InService service m.kid t ∧ Unretired m.kid t := by
  have hrow : ∀ m ∈ t.rows.filter (verifiesFor service),
      InService service m.kid t ∧ Unretired m.kid t := by
    intro m hm
    obtain ⟨hmem, hverifies⟩ := List.mem_filter.mp hm
    simp only [verifiesFor, Bool.and_eq_true, Bool.or_eq_true, decide_eq_true_eq] at hverifies
    refine ⟨⟨m, hmem, rfl, hverifies.1⟩, m, hmem, rfl, ?_⟩
    rcases hverifies.2 with hstatus | hstatus <;> simp [hstatus]
  cases fault with
  | none =>
    cases h
    exact hrow
  | cut kept e =>
    simp only [getVerificationKeys] at h
    split at h
    · cases h
      exact fun m hm => hrow m (List.mem_filter.mp hm).1
    · contradiction
  | unreachable e => simp [getVerificationKeys] at h
  | lostReply e => simp [getVerificationKeys] at h
  | rejected e => simp [getVerificationKeys] at h

theorem mem_of_getKeyByKid {b : KeyBackend} {fault : KeyFault} {kid : String} {t : KeyTable}
    {m : SigningKeyMetadata} (h : getKeyByKid b fault kid t = .ok (some m)) : m ∈ t.rows := by
  cases fault with
  | none => exact List.mem_of_find?_eq_some (Except.ok.inj h)
  | unreachable e => simp [getKeyByKid] at h
  | lostReply e => simp [getKeyByKid] at h
  | rejected e => simp [getKeyByKid] at h
  | cut kept e => simp [getKeyByKid] at h

/-! ### What is kept -/

variable {X : KeyExterns} {b : KeyBackend} {managers : ℕ → KeyManager}

/-- The key was not retired at the time. -/
def ValidAt (s : VerificationState) (kid : String) (instant : ℕ) : Prop :=
  ∃ moment ∈ s.2.moments, moment.instant = instant ∧ Unretired kid moment.table

/-- The store has the key for the service, and it was not retired at the time. -/
def KnownAt (s : VerificationState) (service kid : String) (instant : ℕ) : Prop :=
  InService service kid s.1.table ∧ ValidAt s kid instant

/-- The invariant of the caches: every key in one was known in the table at the instant it was read.
-/
structure VerificationInv (managers : ℕ → KeyManager) (s : VerificationState) : Prop where
  clock : ∀ moment ∈ s.2.moments, moment.instant ≤ s.1.instant
  cached : ∀ manager, ∀ key ∈ (s.1.caches manager).verificationKeys,
    ∀ instant ∈ s.2.entries manager key.kid,
      KnownAt s (managers manager).serviceName key.kid instant
  law : VerificationLaw managers s

/-- What is kept of a program: the keys it has read for its service are known, and the one it
has read by its identifier was not retired if it is to be returned. -/
def VerificationThread (X : KeyExterns) (managers : ℕ → KeyManager) (s : VerificationState)
    (who : ℕ) (p : KeyProg Unit) : Prop :=
  p.next? = none ∨
  ∃ (mgr : KeyManager) (stage : Stage), mgr = managers mgr.id ∧ mgr.Keeps X stage p ∧
    (∀ metas, stage.verificationMetas = some metas →
      ∀ m ∈ metas, KnownAt s mgr.serviceName m.kid (s.2.allAt who)) ∧
    (∀ m, stage.byKid = some m → m.status ≠ .retired → ValidAt s m.kid (s.2.oneAt who))

section Calls

variable {s : VerificationState} {mgr : KeyManager} {stage : Stage} {c : KeyCall} {who : ℕ}
  {input : KeyInput}

/-- The state after a call: the world that has answered it, and the notes with what this call has
come to. -/
abbrev VerificationState.after (X : KeyExterns) (b : KeyBackend) (s : VerificationState)
    (who : ℕ) (input : KeyInput) (c : KeyCall) : VerificationState :=
  (observed (KeyWorld.answer X b) noteVerification s who input c).1

theorem moments_after : (s.after X b who input c).2.moments
    = s.2.moments ++ [⟨max s.1.instant input.instant, s.1.table⟩] := by
  cases c <;> rfl

theorem instant_after : (s.after X b who input c).1.instant = max s.1.instant input.instant := by
  cases c <;> rfl

theorem ValidAt.after {kid : String} {instant : ℕ} (h : ValidAt s kid instant) :
    ValidAt (s.after X b who input c) kid instant := by
  obtain ⟨moment, hmem, hrest⟩ := h
  refine ⟨moment, ?_, hrest⟩
  rw [moments_after]
  exact List.mem_append_left _ hmem

/-- A key that is not retired now is valid at this time. -/
theorem validAt_now {kid : String} (h : Unretired kid s.1.table) :
    ValidAt (s.after X b who input c) kid (max s.1.instant input.instant) := by
  refine ⟨⟨max s.1.instant input.instant, s.1.table⟩, ?_, rfl, h⟩
  rw [moments_after]
  exact List.mem_append_right _ (List.mem_singleton_self _)

theorem InService.after {service kid : String} (h : InService service kid s.1.table)
    (hmay : mgr.MayCall X stage c) :
    InService service kid (s.after X b who input c).1.table := by
  obtain ⟨r, hr, hkid, hservice⟩ := h
  obtain ⟨r', hr', hkid', hservice', -⟩ := extends_answer (b := b) hmay s.1 who input r hr
  exact ⟨r', hr', hkid'.trans hkid, hservice'.trans hservice⟩

theorem KnownAt.after {service kid : String} {instant : ℕ} (h : KnownAt s service kid instant)
    (hmay : mgr.MayCall X stage c) :
    KnownAt (s.after X b who input c) service kid instant :=
  ⟨h.1.after hmay, h.2.after⟩

/-- A call leaves the readings of other programs as they are. -/
theorem after_readAt_of_ne (X : KeyExterns) (b : KeyBackend) (s : VerificationState)
    (input : KeyInput) (c : KeyCall) {j : ℕ} (hj : j ≠ who) :
    (s.after X b who input c).2.allAt j = s.2.allAt j ∧
      (s.after X b who input c).2.oneAt j = s.2.oneAt j := by
  cases c with
  | getVerificationKeys service =>
    refine ⟨?_, rfl⟩
    simp only [VerificationState.after, observed, noteVerification]
    cases (s.1.answer X b who input (.getVerificationKeys service)).2 with
    | error e => rfl
    | ok metas => exact Function.update_of_ne hj _ _
  | getKeyByKid kid =>
    refine ⟨rfl, ?_⟩
    simp only [VerificationState.after, observed, noteVerification]
    cases (s.1.answer X b who input (.getKeyByKid kid)).2 with
    | error e => rfl
    | ok m => exact Function.update_of_ne hj _ _
  | _ => exact ⟨rfl, rfl⟩

/-- Only a reading of its kind changes the time of a program's last one. -/
theorem after_readAt :
    ((∀ service, c ≠ .getVerificationKeys service) →
      (s.after X b who input c).2.allAt = s.2.allAt) ∧
    ((∀ kid, c ≠ .getKeyByKid kid) → (s.after X b who input c).2.oneAt = s.2.oneAt) := by
  cases c with
  | getVerificationKeys service => exact ⟨fun h => absurd rfl (h service), fun _ => rfl⟩
  | getKeyByKid kid => exact ⟨fun _ => rfl, fun h => absurd rfl (h kid)⟩
  | _ => exact ⟨fun _ => rfl, fun _ => rfl⟩

/-- The keys a program has read for its service are known. -/
theorem verificationMetas_next (hmay : mgr.MayCall X stage c)
    (h : ∀ metas, stage.verificationMetas = some metas →
      ∀ m ∈ metas, KnownAt s mgr.serviceName m.kid (s.2.allAt who))
    {metas : List SigningKeyMetadata}
    (hnext : (stage.next c (s.1.answer X b who input c).2).verificationMetas = some metas) :
    ∀ m ∈ metas, KnownAt (s.after X b who input c) mgr.serviceName m.kid
      ((s.after X b who input c).2.allAt who) := by
  by_cases hc : ∃ service, c = .getVerificationKeys service
  · obtain ⟨service, rfl⟩ := hc
    have hmay' := hmay
    cases hmay
    rcases hread : getVerificationKeys b input.fault mgr.serviceName s.1.table with e | found
    · have hat : (s.after X b who input (.getVerificationKeys mgr.serviceName)).2.allAt
          = s.2.allAt := by
        simp [VerificationState.after, observed, noteVerification, VerificationNotes.nextAllAt,
          KeyWorld.answer, KeyWorld.answerNow, hread]
      simp only [KeyWorld.answer, KeyWorld.answerNow, hread, Stage.next] at hnext
      rw [hat]
      exact fun m hm => (h metas hnext m hm).after hmay'
    · have hat : (s.after X b who input (.getVerificationKeys mgr.serviceName)).2.allAt who
          = max s.1.instant input.instant := by
        simp [VerificationState.after, observed, noteVerification, VerificationNotes.nextAllAt,
          KeyWorld.answer, KeyWorld.answerNow, hread]
      simp only [KeyWorld.answer, KeyWorld.answerNow, hread, Stage.next, Option.some.injEq] at hnext
      subst hnext
      rw [hat]
      intro m hm
      obtain ⟨hservice, hvalid⟩ := mem_of_getVerificationKeys hread m hm
      exact ⟨hservice.after hmay', validAt_now hvalid⟩
  · have hother : ∀ service, c ≠ .getVerificationKeys service :=
      fun service hs => hc ⟨service, hs⟩
    rcases (stage.next_frame c _).2.1 hother with hnone | ⟨hmetas, -⟩
    · rw [hnone] at hnext
      contradiction
    · rw [hmetas] at hnext
      rw [after_readAt.1 hother]
      exact fun m hm => (h metas hnext m hm).after hmay

/-- The key a program has read by its identifier was not retired then, if it says so. -/
theorem byKid_next
    (h : ∀ m, stage.byKid = some m → m.status ≠ .retired → ValidAt s m.kid (s.2.oneAt who))
    {m : SigningKeyMetadata}
    (hnext : (stage.next c (s.1.answer X b who input c).2).byKid = some m)
    (hstatus : m.status ≠ .retired) :
    ValidAt (s.after X b who input c) m.kid ((s.after X b who input c).2.oneAt who) := by
  by_cases hc : ∃ kid, c = .getKeyByKid kid
  · obtain ⟨kid, rfl⟩ := hc
    rcases hread : getKeyByKid b input.fault kid s.1.table with e | found
    · have hat : (s.after X b who input (.getKeyByKid kid)).2.oneAt = s.2.oneAt := by
        simp [VerificationState.after, observed, noteVerification, VerificationNotes.nextOneAt,
          KeyWorld.answer, KeyWorld.answerNow, hread]
      simp only [KeyWorld.answer, KeyWorld.answerNow, hread, Stage.next] at hnext
      rw [hat]
      exact (h m hnext hstatus).after
    · have hat : (s.after X b who input (.getKeyByKid kid)).2.oneAt who
          = max s.1.instant input.instant := by
        simp [VerificationState.after, observed, noteVerification, VerificationNotes.nextOneAt,
          KeyWorld.answer, KeyWorld.answerNow, hread]
      simp only [KeyWorld.answer, KeyWorld.answerNow, hread, Stage.next] at hnext
      subst hnext
      rw [hat]
      exact validAt_now ⟨m, mem_of_getKeyByKid hread, rfl, hstatus⟩
  · have hother : ∀ kid, c ≠ .getKeyByKid kid := fun kid hk => hc ⟨kid, hk⟩
    rw [(stage.next_frame c _).2.2 hother] at hnext
    rw [after_readAt.2 hother]
    exact (h m hnext hstatus).after

/-- The key that is put into a cache is of its service, if the call returns no key it should
not. -/
theorem KeyCall.FromRecent.insert {manager : ℕ} {key : CachedKey}
    (hmay : mgr.MayCall X stage (.insertCache manager key))
    (hone : ∀ m, stage.byKid = some m → m.status ≠ .retired → ValidAt s m.kid (s.2.oneAt who))
    (hc : (KeyCall.insertCache manager key).FromRecent managers s who input) :
    KnownAt s (managers manager).serviceName key.kid (s.2.oneAt who) := by
  obtain ⟨-, m, hbyKid, hstatus, hdecode⟩ := hmay
  refine ⟨hc.2, ?_⟩
  rw [kid_of_decode hdecode]
  apply hone m hbyKid
  rcases hstatus with hstatus | hstatus <;> simp [hstatus]

/-- The keys of every cache stay known, with the instants at which they were read. -/
theorem VerificationInv.cached_after (hI : VerificationInv managers s)
    (hmanager : mgr = managers mgr.id) (hmay : mgr.MayCall X stage c)
    (hall : ∀ metas, stage.verificationMetas = some metas →
      ∀ m ∈ metas, KnownAt s mgr.serviceName m.kid (s.2.allAt who))
    (hone : ∀ m, stage.byKid = some m → m.status ≠ .retired → ValidAt s m.kid (s.2.oneAt who))
    (hc : c.FromRecent managers s who input) (manager : ℕ) :
    ∀ key ∈ ((s.after X b who input c).1.caches manager).verificationKeys,
      ∀ instant ∈ (s.after X b who input c).2.entries manager key.kid,
        KnownAt (s.after X b who input c) (managers manager).serviceName key.kid instant := by
  -- a call that leaves the cache of this manager and its note leaves what was read for it
  have hkept : (s.after X b who input c).1.caches manager = s.1.caches manager →
      (s.after X b who input c).2.entries manager = s.2.entries manager →
      ∀ key ∈ ((s.after X b who input c).1.caches manager).verificationKeys,
        ∀ instant ∈ (s.after X b who input c).2.entries manager key.kid,
          KnownAt (s.after X b who input c) (managers manager).serviceName key.kid instant := by
    intro hcache hentries key hkey instant hinstant
    rw [hcache] at hkey
    rw [hentries] at hinstant
    exact (hI.cached manager key hkey instant hinstant).after hmay
  cases c with
  -- an empty cache says nothing of any key
  | createCache owner =>
    by_cases heq : manager = owner
    · subst heq
      have hcache : (s.after X b who input (.createCache manager)).1.caches manager
          = KeyCache.empty _ := KeyWorld.setCache_caches_self _ _ _
      rw [hcache]
      exact nofun
    · exact hkept (KeyWorld.setCache_caches_of_ne heq _ _) (Function.update_of_ne heq _ _)
  | replaceCache owner activeKey verificationKeys =>
    by_cases heq : manager = owner
    · subst heq
      have hmay' := hmay
      obtain ⟨rfl, -, metas, keys, hmetas, hkeys, rfl⟩ := hmay
      have hcache : (s.after X b who input (.replaceCache mgr.id activeKey
          (keys.foldl insertKey []))).1.caches mgr.id = ⟨activeKey, keys.foldl insertKey [], _⟩ :=
        KeyWorld.setCache_caches_self _ _ _
      have hentries : (s.after X b who input (.replaceCache mgr.id activeKey
          (keys.foldl insertKey []))).2.entries mgr.id = fun _ => some (s.2.allAt who) :=
        Function.update_self _ _ _
      rw [hcache, hentries]
      -- every key of the new cache is one of the rows that were read
      rintro key hkey instant ⟨⟩
      obtain ⟨m, hm, hkid⟩ := exists_of_mem_filled hkeys hkey
      rw [← hmanager, ← hkid]
      exact (hall metas hmetas m hm).after hmay'
    · exact hkept (KeyWorld.setCache_caches_of_ne heq _ _) (Function.update_of_ne heq _ _)
  | insertCache owner new =>
    by_cases heq : manager = owner
    · subst heq
      have hcache : (s.after X b who input (.insertCache manager new)).1.caches manager
          = ⟨(s.1.caches manager).activeKey, insertKey (s.1.caches manager).verificationKeys new,
            (s.1.caches manager).lastRefresh⟩ := KeyWorld.setCache_caches_self _ _ _
      have hentries : (s.after X b who input (.insertCache manager new)).2.entries manager
          = Function.update (s.2.entries manager) new.kid (some (s.2.oneAt who)) :=
        Function.update_self _ _ _
      rw [hcache, hentries]
      intro key hkey instant hinstant
      -- the new key takes the place of the one with its identifier
      rcases mem_insertKey hkey with rfl | ⟨hold, hne⟩
      · rw [Function.update_self] at hinstant
        cases hinstant
        exact (hc.insert hmay hone).after hmay
      · rw [Function.update_of_ne hne] at hinstant
        exact (hI.cached manager key hold instant hinstant).after hmay
    · exact hkept (KeyWorld.setCache_caches_of_ne heq _ _) (Function.update_of_ne heq _ _)
  -- the other calls touch no cache
  | _ => exact hkept rfl rfl

/-- A known key that was read within the check interval may be returned. -/
theorem VerificationLaw.concat (hI : VerificationInv managers s) (key : ReturnedKey)
    {instant : ℕ} (hknown : KnownAt s (managers key.manager).serviceName key.kid instant)
    (htable : key.table = s.1.table) (hnow : key.instant = max s.1.instant input.instant)
    (hage : max s.1.instant input.instant ≤ instant + (managers key.manager).checkInterval)
    (hreturned : (s.after X b who input c).2.returned = s.2.returned ++ [key]) :
    VerificationLaw managers (s.after X b who input c) := by
  have hmem : ∀ moment ∈ s.2.moments, moment ∈ (s.after X b who input c).2.moments := by
    rw [moments_after]
    exact fun moment hmoment => List.mem_append_left _ hmoment
  intro k hk
  rw [hreturned] at hk
  rcases List.mem_append.mp hk with hk | hk
  · obtain ⟨hservice, moment, hmoment, hrest⟩ := hI.law k hk
    exact ⟨hservice, moment, hmem moment hmoment, hrest⟩
  · rw [List.mem_singleton.mp hk]
    obtain ⟨hservice, moment, hmoment, hinstant, hvalid⟩ := hknown
    refine ⟨htable ▸ hservice, moment, hmem moment hmoment, ?_, ?_, hvalid⟩
    · rw [hnow]
      exact (hI.clock moment hmoment).trans (Nat.le_max_left _ _)
    · rw [hnow, hinstant]
      exact hage

/-- A call that returns no key it should not keeps the law. -/
theorem VerificationInv.law_after (hI : VerificationInv managers s)
    (hmay : mgr.MayCall X stage c)
    (hone : ∀ m, stage.byKid = some m → m.status ≠ .retired → ValidAt s m.kid (s.2.oneAt who))
    (hc : c.FromRecent managers s who input) :
    VerificationLaw managers (s.after X b who input c) := by
  have hkept : (s.after X b who input c).2.returned = s.2.returned →
      VerificationLaw managers (s.after X b who input c) := by
    intro hreturned k hk
    rw [hreturned] at hk
    obtain ⟨hservice, moment, hmoment, hrest⟩ := hI.law k hk
    refine ⟨hservice, moment, ?_, hrest⟩
    rw [moments_after]
    exact List.mem_append_left _ hmoment
  cases c with
  | readCache manager use =>
    cases use with
    | verificationKey kid =>
      rcases hfind : findKey (s.1.caches manager).verificationKeys kid with _ | key
      · apply hkept
        simp [VerificationState.after, observed, noteVerification, VerificationNotes.nextReturned,
          KeyWorld.answer, KeyWorld.answerNow, hfind]
      · -- the cache has the key
        obtain ⟨hmem, rfl⟩ := mem_of_findKey hfind
        obtain ⟨instant, hinstant, hage⟩ := hc (by rw [hfind]; rfl)
        have hknown := hI.cached manager key hmem instant hinstant
        refine VerificationLaw.concat hI
          ⟨manager, key.kid, max s.1.instant input.instant, s.1.table⟩ hknown rfl rfl hage ?_
        simp [VerificationState.after, observed, noteVerification, VerificationNotes.nextReturned,
          KeyWorld.answer, KeyWorld.answerNow, hfind]
    | _ => exact hkept rfl
  | insertCache manager key =>
    exact VerificationLaw.concat hI
      ⟨manager, key.kid, max s.1.instant input.instant, s.1.table⟩ (hc.insert hmay hone) rfl rfl
      hc.1 rfl
  | _ => exact hkept rfl

end Calls

/-- **When lookups are isolated.**  In every run of managers of any services that share a
store, whatever the calls meet and however they interleave, the law holds in every state
reached if keys are returned soon after they were read: a key that `get_verification_key` finds
in the cache was read within the check interval, and so was one it asks the store for, which
belongs to the manager's service. -/
theorem verificationLaw_of_reach (X : KeyExterns) (b : KeyBackend) (managers : ℕ → KeyManager)
    (w : KeyWorld) (pool : Pool VerificationState KeyCall KeyCall.Answer KeyError)
    (h : Reach (verificationStep X b)
      (fun pool a => Registered managers pool a ∧ FromRecent managers pool a)
      (Pool.idle (w, VerificationNotes.start)) pool) :
    VerificationLaw managers pool.state := by
  have hinv := Pool.invariant (I := VerificationInv managers)
    (T := VerificationThread X managers) ?_ (fun _ _ => .inl rfl) ?_ ?_ h
  · exact hinv.1.law
  · refine ⟨by simp [VerificationNotes.start], by simp [VerificationNotes.start], ?_⟩
    simp [VerificationLaw, VerificationNotes.start]
  · -- an operation begins at the start of its stage
    rintro pool who op - ⟨hmanager, -⟩
    exact .inr ⟨op.manager, Stage.start, hmanager, keeps_program X b op _,
      by simp [Stage.start], by simp [Stage.start]⟩
  · -- a call keeps the notes, moves its own stage and leaves the others theirs
    rintro pool who input c k hI hthread hprogram ⟨-, hrecent⟩
    rcases hprogram with hnone | ⟨mgr, stage, hmanager, ⟨hmay, hrest⟩, hall, hone⟩
    · contradiction
    have hc : c.FromRecent managers pool.state who input := hrecent c (by rw [hthread]; rfl)
    refine ⟨⟨?_, hI.cached_after hmanager hmay hall hone hc, hI.law_after hmay hone hc⟩, ?_, ?_⟩
    · intro moment hmem
      rw [moments_after] at hmem
      rw [instant_after]
      rcases List.mem_append.mp hmem with hmem | hmem
      · exact (hI.clock moment hmem).trans (Nat.le_max_left _ _)
      · cases List.mem_singleton.mp hmem
        exact le_rfl
    · exact .inr ⟨mgr, _, hmanager, hrest _, fun metas => verificationMetas_next hmay hall,
        fun m => byKid_next hone⟩
    · rintro j p hj (hnone | ⟨mgr', stage', hmanager', hkeeps', hall', hone'⟩)
      · exact .inl hnone
      · obtain ⟨hallAt, honeAt⟩ := after_readAt_of_ne X b pool.state input c hj
        refine .inr ⟨mgr', stage', hmanager', hkeeps', ?_, ?_⟩
        · intro metas hmetas m hm
          rw [hallAt]
          exact (hall' metas hmetas m hm).after hmay
        · intro m hbyKid hstatus
          rw [honeAt]
          exact (hone' m hbyKid hstatus).after

/-- The identifier of a sample key. -/
def sampleKid (n : UInt8) : String := sampleKeyExterns.uuidToString (sampleFresh n).uuid

/-- A new manager looks a key up twice, the second time from its cache. -/
def sampleLookups (mgr : KeyManager) : List (Action KeyOp KeyInput) :=
  [.start 0 (.new mgr)] ++ sampleSteps 0 1 (sampleInput 3600 0)
    ++ [.start 0 (.getVerificationKey mgr (sampleKid 0))] ++ sampleSteps 0 3 (sampleInput 3601 0)
    ++ [.start 0 (.getVerificationKey mgr (sampleKid 0))] ++ sampleSteps 0 1 (sampleInput 3602 0)

theorem verificationLaw_of_reach_sample :
    VerificationLaw sampleManager ((sampleLookups (sampleManager 0)).foldl
      (verificationStep sampleKeyExterns .postgres)
      (Pool.idle (sampleSigning .postgres, VerificationNotes.start))).state := by
  apply verificationLaw_of_reach sampleKeyExterns .postgres sampleManager (sampleSigning .postgres)
  apply Reach.start.foldl
  decide +kernel

/-- The managers of two services. -/
def sampleServices (id : ℕ) : KeyManager :=
  if id = 1 then ⟨1, "payments", sampleConfig⟩ else sampleManager id

/-- An instance rotates the key and, a minute later, has it retired; an hour later another one
looks it up. -/
def sampleLateLookup : List (Action KeyOp KeyInput) :=
  [.start 1 (.new (sampleManager 1))] ++ sampleSteps 1 1 (sampleInput 86400 1)
    ++ [.start 1 (.rotate (sampleManager 1))] ++ sampleSteps 1 8 (sampleInput 86400 1)
    ++ [.start 1 (.retireExpired (sampleManager 1))] ++ sampleSteps 1 6 (sampleInput 86460 1)
    ++ [.start 0 (.getVerificationKey (sampleManager 0) (sampleKid 0))]
    ++ sampleSteps 0 1 (sampleInput 90000 0)

/-- Lookups are not isolated.  On every backend a manager of one service returns the key of
another; and on SurrealDB an instance returns, from its cache, a key that has been retired for
an hour. -/
theorem not_verificationLaw_of_registered :
    (¬ ∃ b : KeyBackend, ∀ pool, Reach (verificationStep sampleKeyExterns b)
      (Registered sampleServices) (Pool.idle (sampleSigning b, VerificationNotes.start)) pool →
        VerificationLaw sampleServices pool.state) ∧
    ¬ ∀ pool, Reach (verificationStep sampleKeyExterns .surrealDb) (Registered sampleManager)
      (Pool.idle (sampleSigning .surrealDb, VerificationNotes.start)) pool →
        VerificationLaw sampleManager pool.state := by
  constructor
  · have hrun : ∀ b, Reach (verificationStep sampleKeyExterns b) (Registered sampleServices)
        (Pool.idle (sampleSigning b, VerificationNotes.start))
        ((sampleLookups (sampleServices 1)).foldl (verificationStep sampleKeyExterns b)
          (Pool.idle (sampleSigning b, VerificationNotes.start))) := by
      intro b
      refine Reach.start.foldl (Allowed.of_forall ?_ _)
      intro a ha pool
      simp only [sampleLookups, sampleSteps, List.mem_append, List.mem_singleton,
        List.mem_replicate] at ha
      rcases ha with ((((rfl | ⟨-, rfl⟩) | rfl) | ⟨-, rfl⟩) | rfl) | ⟨-, rfl⟩ <;> trivial
    rintro ⟨b, hlaw⟩
    have hbroken := hlaw _ (hrun b)
    cases b with
    | postgres => exact absurd hbroken (by decide +kernel)
    | turso => exact absurd hbroken (by decide +kernel)
    | surrealDb => exact absurd hbroken (by decide +kernel)
  · intro hlaw
    have hrun : Allowed (verificationStep sampleKeyExterns .surrealDb) (Registered sampleManager)
        (Pool.idle (sampleSigning .surrealDb, VerificationNotes.start)) sampleLateLookup := by
      decide +kernel
    exact absurd (hlaw _ (Reach.start.foldl hrun)) (by decide +kernel)

end ActonService
