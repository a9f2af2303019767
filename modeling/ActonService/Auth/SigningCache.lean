import ActonService.Auth.Rotation

/-!
# What the cache of signing keys is worth

`get_signing_key` answers from the cache of its manager.  The cache is made empty and as if
just refreshed, is filled with what `get_active_key` read some time before, and is asked until
the check interval is over.  The rotation check takes the answer that there is no key for a
reason to make one.

A run notes the table at every call, the reading of the store each cache and each answer rest
on, and how often a key of each service was stored.

## Main definitions

* `SigningNotes`, `noteSigning` — what a run notes.
* `SigningLaw` — there was no key within the check interval before an answer that there is
  none, and there is none when one is bootstrapped.
* `FromReading` — answers rest on a reading that is not too old.

## Main results

* `signingLaw_of_reach` — **the law holds as long as answers rest on such readings.**
-/

namespace ActonService

open Effect Run

/-! ### What a run notes -/

/-- The check interval of a manager, in nanoseconds. -/
def KeyManager.checkInterval (mgr : KeyManager) : ℕ :=
  mgr.config.checkIntervalSecs.toNat * nanosPerSec

/-- The table as it stood at a time of the monotonic clock. -/
structure Moment where
  instant : ℕ
  table : KeyTable

/-- A reading of the active key: its time, and how often a key of the service had been stored
by then. -/
structure KeyReading where
  instant : ℕ
  stores : ℕ
  deriving DecidableEq

/-- What a run notes of the caches. -/
structure SigningNotes where
  /-- The table at every call, with the instant at which the call was made. -/
  moments : List Moment
  /-- How often a key of each service was stored. -/
  stores : String → ℕ
  /-- Each program's last reading of the active key. -/
  readings : ℕ → KeyReading
  /-- The reading each manager's cache was filled from. -/
  filled : ℕ → Option KeyReading
  /-- The reading behind the last answer of `get_signing_key` to each program. -/
  basis : ℕ → Option KeyReading
  /-- The answers that there is no key: of which manager, and when. -/
  keyless : List (ℕ × ℕ)
  /-- The services a key was bootstrapped for, with the table at that time. -/
  bootstraps : List (String × KeyTable)

/-- The notes of a run that has not begun. -/
def SigningNotes.start : SigningNotes :=
  ⟨[], fun _ => 0, fun _ => ⟨0, 0⟩, fun _ => none, fun _ => none, [], []⟩

namespace SigningNotes

variable (notes : SigningNotes)

def nextStores : KeyCall → String → ℕ
  | .storeKey key =>
    Function.update notes.stores key.serviceName (notes.stores key.serviceName + 1)
  | _ => notes.stores

def nextReadings (who instant : ℕ) : (c : KeyCall) → c.Answer → ℕ → KeyReading
  | .getActiveKey service, .ok _ =>
    Function.update notes.readings who ⟨instant, notes.stores service⟩
  | _, _ => notes.readings

def nextFilled (who : ℕ) : KeyCall → ℕ → Option KeyReading
  | .createCache manager => Function.update notes.filled manager none
  | .replaceCache manager _ _ => Function.update notes.filled manager (some (notes.readings who))
  | _ => notes.filled

def nextBasis (who : ℕ) : KeyCall → ℕ → Option KeyReading
  | .readCache manager .signingKey => Function.update notes.basis who (notes.filled manager)
  | _ => notes.basis

def nextKeyless : (c : KeyCall) → c.Answer → List (ℕ × ℕ)
  | .readCache manager .signingKey, (⟨none, _, _⟩, now) => notes.keyless ++ [(manager, now)]
  | _, _ => notes.keyless

def nextBootstraps (table : KeyTable) : KeyCall → List (String × KeyTable)
  | .bootstrapping service => notes.bootstraps ++ [(service, table)]
  | _ => notes.bootstraps

end SigningNotes

/-- What is noted of a call: the table it has met, the keys it has stored, and what it has read or
put into a cache. -/
def noteSigning (notes : SigningNotes) (before : KeyWorld) (who : ℕ) (_input : KeyInput)
    (c : KeyCall) (a : c.Answer) (after : KeyWorld) : SigningNotes where
  moments := notes.moments ++ [⟨after.instant, before.table⟩]
  stores := notes.nextStores c
  readings := notes.nextReadings who after.instant c a
  filled := notes.nextFilled who c
  basis := notes.nextBasis who c
  keyless := notes.nextKeyless c a
  bootstraps := notes.nextBootstraps before.table c

/-- The world, and the notes so far. -/
abbrev SigningState := KeyWorld × SigningNotes

/-- A run of managers with these notes. -/
def signingStep (X : KeyExterns) (b : KeyBackend) :
    Pool SigningState KeyCall KeyCall.Answer KeyError → Action KeyOp KeyInput →
      Pool SigningState KeyCall KeyCall.Answer KeyError :=
  Pool.step (observed (KeyWorld.answer X b) noteSigning) (KeyOp.program X b)

/-- **The cache is sound**: when `get_signing_key` answers that there is no key, the service
had none at some moment within the check interval before; and when the rotation check
bootstraps a key, the service has none. -/
def SigningLaw (managers : ℕ → KeyManager) (s : SigningState) : Prop :=
  (∀ answer ∈ s.2.keyless, ∃ moment ∈ s.2.moments,
    moment.instant ≤ answer.2 ∧ answer.2 ≤ moment.instant + (managers answer.1).checkInterval ∧
      ¬ HasActive (managers answer.1).serviceName moment.table) ∧
  ∀ bootstrap ∈ s.2.bootstraps, ¬ HasActive bootstrap.1 bootstrap.2

/-- The managers of a run: each goes by its number. -/
def Registered {σ : Type} (managers : ℕ → KeyManager)
    (_pool : Pool σ KeyCall KeyCall.Answer KeyError) : Action KeyOp KeyInput → Prop
  | .start _ op => op.manager = managers op.manager.id
  | .step _ _ => True

/-- The call does not take a cache for what it is not: where the cache has no key, it was filled
by a refresh that read the store within the check interval; and where a key is bootstrapped for
that, none was stored since that reading. -/
def KeyCall.FromReading (managers : ℕ → KeyManager) (s : SigningState) (who : ℕ)
    (input : KeyInput) : KeyCall → Prop
  | .readCache manager .signingKey =>
    (s.1.caches manager).activeKey = none → ∃ r ∈ s.2.filled manager,
      max s.1.instant input.instant ≤ r.instant + (managers manager).checkInterval
  | .bootstrapping service => ∃ r ∈ s.2.basis who, r.stores = s.2.stores service
  | _ => True

/-- The same of the call a program is about to make. -/
def FromReading (managers : ℕ → KeyManager)
    (pool : Pool SigningState KeyCall KeyCall.Answer KeyError) : Action KeyOp KeyInput → Prop
  | .start _ _ => True
  | .step who input => ∀ c ∈ (pool.threads who).next?, c.FromReading managers pool.state who input

instance decidableSigningLaw (managers : ℕ → KeyManager) (s : SigningState) :
    Decidable (SigningLaw managers s) :=
  inferInstanceAs (Decidable ((∀ answer ∈ s.2.keyless, ∃ moment ∈ s.2.moments, _) ∧
    ∀ bootstrap ∈ s.2.bootstraps, _))

instance decidableRegistered {σ : Type} (managers : ℕ → KeyManager)
    (pool : Pool σ KeyCall KeyCall.Answer KeyError) : ∀ a, Decidable (Registered managers pool a)
  | .start _ op => inferInstanceAs (Decidable (op.manager = managers op.manager.id))
  | .step _ _ => .isTrue trivial

instance decidableCallFromReading (managers : ℕ → KeyManager) (s : SigningState) (who : ℕ)
    (input : KeyInput) : ∀ c : KeyCall, Decidable (c.FromReading managers s who input)
  | .readCache manager .signingKey =>
    inferInstanceAs (Decidable ((s.1.caches manager).activeKey = none →
      ∃ r ∈ s.2.filled manager, _))
  | .bootstrapping _ => inferInstanceAs (Decidable (∃ r ∈ s.2.basis who, _))
  | .readCache _ .staleness | .readCache _ (.verificationKey _)
  | .readCache _ .allVerificationKeys
  | .getActiveKey _ | .getKeyByKid _ | .getVerificationKeys _ | .updateKeyStatus _ _ _
  | .storeKey _ | .countExpired _ | .retireExpired _ | .createCache _ | .replaceCache _ _ _
  | .insertCache _ _ | .utcNow | .freshKey => .isTrue trivial

instance decidableFromReading (managers : ℕ → KeyManager)
    (pool : Pool SigningState KeyCall KeyCall.Answer KeyError) :
    ∀ a, Decidable (FromReading managers pool a)
  | .start _ _ => .isTrue trivial
  | .step who _ => inferInstanceAs (Decidable (∀ c ∈ (pool.threads who).next?, _))

/-! ### What is kept -/

variable {X : KeyExterns} {b : KeyBackend} {managers : ℕ → KeyManager}

/-- A reading found no key: there was none at that moment, and there is none unless one was
stored since. -/
structure Vacant (s : SigningState) (service : String) (r : KeyReading) : Prop where
  stores_le : r.stores ≤ s.2.stores service
  moment : ∃ moment ∈ s.2.moments, moment.instant = r.instant ∧ ¬ HasActive service moment.table
  still : r.stores = s.2.stores service → ¬ HasActive service s.1.table

/-- The invariant of the caches: an empty one was filled by a reading that has found no active key.
-/
structure SigningInv (managers : ℕ → KeyManager) (s : SigningState) : Prop where
  clock : ∀ moment ∈ s.2.moments, moment.instant ≤ s.1.instant
  cached : ∀ manager, (s.1.caches manager).activeKey = none → ∀ r ∈ s.2.filled manager,
    Vacant s (managers manager).serviceName r
  law : SigningLaw managers s

/-- What is kept of a program: that it has read that there is no key means that there was none,
and so does that it was told so by the cache. -/
def SigningThread (X : KeyExterns) (managers : ℕ → KeyManager) (s : SigningState) (who : ℕ)
    (p : KeyProg Unit) : Prop :=
  p.next? = none ∨
  ∃ (mgr : KeyManager) (stage : Stage), mgr = managers mgr.id ∧ mgr.Keeps X stage p ∧
    (stage.activeMeta = some none → Vacant s mgr.serviceName (s.2.readings who)) ∧
    (stage.step = .keyless → ∀ r ∈ s.2.basis who, Vacant s mgr.serviceName r)

section Calls

variable {s : SigningState} {mgr : KeyManager} {stage : Stage} {c : KeyCall} {who : ℕ}
  {input : KeyInput}

/-- The state after a call: the world that has answered it, and the notes with what this call has
come to. -/
abbrev SigningState.after (X : KeyExterns) (b : KeyBackend) (s : SigningState) (who : ℕ)
    (input : KeyInput) (c : KeyCall) : SigningState :=
  (observed (KeyWorld.answer X b) noteSigning s who input c).1

theorem after_moments : (s.after X b who input c).2.moments
    = s.2.moments ++ [⟨max s.1.instant input.instant, s.1.table⟩] := by
  cases c <;> rfl

theorem after_instant : (s.after X b who input c).1.instant = max s.1.instant input.instant := by
  cases c <;> rfl

/-- The store of a key is noted for its service only. -/
theorem after_stores (X : KeyExterns) (b : KeyBackend) (s : SigningState) (who : ℕ)
    (input : KeyInput) (c : KeyCall) (service : String) :
    (∃ key, c = .storeKey key ∧ key.serviceName = service ∧
      (s.after X b who input c).2.stores service = s.2.stores service + 1) ∨
    (∀ key, c = .storeKey key → key.serviceName ≠ service) ∧
      (s.after X b who input c).2.stores service = s.2.stores service := by
  cases c with
  | storeKey key =>
    by_cases hservice : key.serviceName = service
    · subst hservice
      exact .inl ⟨key, rfl, rfl, Function.update_self _ _ _⟩
    · refine .inr ⟨?_, Function.update_of_ne (Ne.symm hservice) _ _⟩
      rintro _ ⟨⟩
      exact hservice
  | _ => exact .inr ⟨fun _ h => (nomatch h), rfl⟩

/-- A call leaves a reading that found no key one. -/
theorem Vacant.after {service : String} {r : KeyReading} (h : Vacant s service r)
    (hmay : mgr.MayCall X stage c) : Vacant (s.after X b who input c) service r := by
  have hle := h.stores_le
  obtain ⟨moment, hmem, hinstant, hnone⟩ := h.moment
  have hmoment : ∃ moment ∈ (s.after X b who input c).2.moments,
      moment.instant = r.instant ∧ ¬ HasActive service moment.table := by
    refine ⟨moment, ?_, hinstant, hnone⟩
    rw [after_moments]
    exact List.mem_append_left _ hmem
  rcases after_stores X b s who input c service with
    ⟨key, -, -, hstores⟩ | ⟨hno, hstores⟩
  · exact ⟨by omega, hmoment, by omega⟩
  · refine ⟨by omega, hmoment, ?_⟩
    rw [hstores]
    rintro heq ⟨key, hkey, hactive⟩
    exact h.still heq ⟨key, active_of_answer hmay hno s.1 who input hkey hactive, hactive⟩

/-- A reading that has just found no key. -/
theorem vacant_of_getActiveKey {service : String}
    (hread : getActiveKey b input.fault input.pick service s.1.table = .ok none) :
    Vacant (s.after X b who input (.getActiveKey service)) service
      ⟨max s.1.instant input.instant, s.2.stores service⟩ := by
  have hnone := not_hasActive_of_getActiveKey hread
  refine ⟨le_rfl, ⟨⟨max s.1.instant input.instant, s.1.table⟩, ?_, rfl, hnone⟩, fun _ => hnone⟩
  rw [after_moments]
  exact List.mem_append_right _ (List.mem_singleton_self _)

/-- A call leaves the readings of other programs as they are. -/
theorem after_readings_of_ne (X : KeyExterns) (b : KeyBackend) (s : SigningState)
    (input : KeyInput) (c : KeyCall) {j : ℕ} (hj : j ≠ who) :
    (s.after X b who input c).2.readings j = s.2.readings j ∧
      (s.after X b who input c).2.basis j = s.2.basis j := by
  cases c with
  | getActiveKey service =>
    refine ⟨?_, rfl⟩
    simp only [SigningState.after, observed, noteSigning]
    cases (s.1.answer X b who input (.getActiveKey service)).2 with
    | error e => rfl
    | ok found => exact Function.update_of_ne hj _ _
  | readCache manager use =>
    cases use with
    | signingKey => exact ⟨rfl, Function.update_of_ne hj _ _⟩
    | staleness => exact ⟨rfl, rfl⟩
    | verificationKey kid => exact ⟨rfl, rfl⟩
    | allVerificationKeys => exact ⟨rfl, rfl⟩
  | _ => exact ⟨rfl, rfl⟩

/-- Only a reading of the active key changes a program's reading. -/
theorem after_readings (hc : ∀ service, c ≠ .getActiveKey service) :
    (s.after X b who input c).2.readings = s.2.readings := by
  cases c with
  | getActiveKey service => exact absurd rfl (hc service)
  | _ => rfl

/-- A program that has read that there is no key has just done so, or had before. -/
theorem activeMeta_next (hmay : mgr.MayCall X stage c)
    (h : stage.activeMeta = some none → Vacant s mgr.serviceName (s.2.readings who))
    (hnext : (stage.next c (s.1.answer X b who input c).2).activeMeta = some none) :
    Vacant (s.after X b who input c) mgr.serviceName
      ((s.after X b who input c).2.readings who) := by
  by_cases hc : ∃ service, c = .getActiveKey service
  · obtain ⟨service, rfl⟩ := hc
    cases hmay
    rcases hread : getActiveKey b input.fault input.pick mgr.serviceName s.1.table with
      e | _ | old
    · have hreading : (s.after X b who input (.getActiveKey mgr.serviceName)).2.readings
          = s.2.readings := by
        simp [SigningState.after, observed, noteSigning, SigningNotes.nextReadings,
          KeyWorld.answer, KeyWorld.answerNow, hread]
      simp only [KeyWorld.answer, KeyWorld.answerNow, hread, Stage.next] at hnext
      rw [hreading]
      have hmay : mgr.MayCall X stage (.getActiveKey mgr.serviceName) := rfl
      exact (h hnext).after hmay
    · have hreading : (s.after X b who input (.getActiveKey mgr.serviceName)).2.readings who
          = ⟨max s.1.instant input.instant, s.2.stores mgr.serviceName⟩ := by
        simp [SigningState.after, observed, noteSigning, SigningNotes.nextReadings,
          KeyWorld.answer, KeyWorld.answerNow, hread]
      rw [hreading]
      exact vacant_of_getActiveKey hread
    · simp [KeyWorld.answer, KeyWorld.answerNow, hread, Stage.next] at hnext
  · have hother : ∀ service, c ≠ .getActiveKey service := fun service hs => hc ⟨service, hs⟩
    rw [(stage.next_frame c _).1 hother] at hnext
    rw [after_readings hother]
    exact (h hnext).after hmay

/-- A program that the cache has told that there is no key was told what the cache rests on. -/
theorem keyless_next (hmanager : mgr = managers mgr.id) (hI : SigningInv managers s)
    (hmay : mgr.MayCall X stage c)
    (hnext : (stage.next c (s.1.answer X b who input c).2).step = .keyless) :
    ∀ r ∈ (s.after X b who input c).2.basis who,
      Vacant (s.after X b who input c) mgr.serviceName r := by
  rcases KeyWorld.step_next_cases X b stage c s.1 who input with h | ⟨svc, -, -, h⟩ |
    ⟨svc, key, -, -, h⟩ | ⟨kid, newStatus, timestamp, -, -, h⟩ | ⟨manager, rfl, hkey, -⟩
  case inr.inr.inr.inr =>
    have hid : manager = mgr.id := hmay
    subst hid
    intro r hr
    have hbasis : (s.after X b who input (.readCache mgr.id .signingKey)).2.basis who
        = s.2.filled mgr.id := Function.update_self _ _ _
    rw [hbasis] at hr
    have hvacant := hI.cached mgr.id hkey r hr
    rw [← hmanager] at hvacant
    exact hvacant.after hmay
  all_goals cases h.symm.trans hnext

/-- A cache without a key is empty from the start, or says what its reading found. -/
theorem SigningInv.cached_after (hI : SigningInv managers s) (hmanager : mgr = managers mgr.id)
    (hmay : mgr.MayCall X stage c)
    (hread : stage.activeMeta = some none → Vacant s mgr.serviceName (s.2.readings who))
    (manager : ℕ) (hkey : ((s.after X b who input c).1.caches manager).activeKey = none) :
    ∀ r ∈ (s.after X b who input c).2.filled manager,
      Vacant (s.after X b who input c) (managers manager).serviceName r := by
  -- a call that leaves the cache and its note leaves what was read
  have hkept : ((s.after X b who input c).1.caches manager).activeKey
        = (s.1.caches manager).activeKey →
      (s.after X b who input c).2.filled manager = s.2.filled manager →
      ∀ r ∈ (s.after X b who input c).2.filled manager,
        Vacant (s.after X b who input c) (managers manager).serviceName r := by
    intro hcache hfilled r hr
    rw [hfilled] at hr
    exact (hI.cached manager (hcache.symm.trans hkey) r hr).after hmay
  cases c with
  -- a cache that is only created was filled by nothing
  | createCache owner =>
    by_cases heq : manager = owner
    · subst heq
      intro r hr
      have hnone : (s.after X b who input (.createCache manager)).2.filled manager = none :=
        Function.update_self _ _ _
      rw [hnone] at hr
      contradiction
    · apply hkept
      · exact congrArg KeyCache.activeKey (KeyWorld.setCache_caches_of_ne heq _ _)
      · exact Function.update_of_ne heq _ _
  | replaceCache owner activeKey verificationKeys =>
    by_cases heq : manager = owner
    · subst heq
      obtain ⟨rfl, ⟨m, hmeta, hactive⟩, hrest⟩ := hmay
      have hcache : (s.after X b who input (.replaceCache mgr.id activeKey
          verificationKeys)).1.caches mgr.id = ⟨activeKey, verificationKeys, _⟩ :=
        KeyWorld.setCache_caches_self _ _ _
      have hnone : activeKey = none := by
        rw [hcache] at hkey
        exact hkey
      -- a row that was read is decoded, or the refresh fails before it replaces the cache
      have hm : m = none := by
        cases m with
        | none => rfl
        | some key =>
          rw [hnone, Option.mapM_some] at hactive
          cases hdecode : decodeKeyMetadata X key <;> simp [hdecode] at hactive
      intro r hr
      have hfilled : (s.after X b who input (.replaceCache mgr.id activeKey
          verificationKeys)).2.filled mgr.id = some (s.2.readings who) :=
        Function.update_self _ _ _
      rw [hfilled] at hr
      cases hr
      rw [← hmanager]
      exact (hread (hm ▸ hmeta)).after ⟨rfl, ⟨m, hmeta, hactive⟩, hrest⟩
    · apply hkept
      · exact congrArg KeyCache.activeKey (KeyWorld.setCache_caches_of_ne heq _ _)
      · exact Function.update_of_ne heq _ _
  -- an inserted key is one to verify with, and the signing key stays as it was
  | insertCache owner key =>
    apply hkept _ rfl
    by_cases heq : manager = owner
    · subst heq
      have hcache : (s.after X b who input (.insertCache manager key)).1.caches manager
          = ⟨(s.1.caches manager).activeKey, _, (s.1.caches manager).lastRefresh⟩ :=
        KeyWorld.setCache_caches_self _ _ _
      rw [hcache]
    · exact congrArg KeyCache.activeKey (KeyWorld.setCache_caches_of_ne heq _ _)
  | _ => exact hkept rfl rfl

/-- An answer that there is no key, or a bootstrap, that rests on a reading keeps the law. -/
theorem SigningInv.law_after (hI : SigningInv managers s) (hmay : mgr.MayCall X stage c)
    (hbasis : stage.step = .keyless → ∀ r ∈ s.2.basis who, Vacant s mgr.serviceName r)
    (hc : c.FromReading managers s who input) : SigningLaw managers (s.after X b who input c) := by
  obtain ⟨hkeyless, hbootstraps⟩ := hI.law
  -- the answers of before keep their moments, for moments are only added
  have hold : ∀ answer ∈ s.2.keyless, ∃ moment ∈ (s.after X b who input c).2.moments,
      moment.instant ≤ answer.2 ∧
        answer.2 ≤ moment.instant + (managers answer.1).checkInterval ∧
        ¬ HasActive (managers answer.1).serviceName moment.table := by
    intro answer hanswer
    obtain ⟨moment, hmem, hrest⟩ := hkeyless answer hanswer
    refine ⟨moment, ?_, hrest⟩
    rw [after_moments]
    exact List.mem_append_left _ hmem
  cases c with
  -- only a look into the cache for the signing key adds an answer
  | readCache manager use =>
    cases use with
    | signingKey =>
      refine ⟨?_, hbootstraps⟩
      by_cases hkey : (s.1.caches manager).activeKey = none
      · have hnext : (s.after X b who input (.readCache manager .signingKey)).2.keyless
            = s.2.keyless ++ [(manager, max s.1.instant input.instant)] := by
          rcases hcache : s.1.caches manager with ⟨activeKey, keys, lastRefresh⟩
          rw [hcache] at hkey
          cases hkey
          simp [SigningState.after, observed, noteSigning, SigningNotes.nextKeyless,
            KeyWorld.answer, KeyWorld.answerNow, hcache]
        intro answer hanswer
        rw [hnext] at hanswer
        rcases List.mem_append.mp hanswer with hanswer | hanswer
        · exact hold answer hanswer
        · -- the moment of the reading that filled the cache
          cases List.mem_singleton.mp hanswer
          obtain ⟨r, hr, hage⟩ := hc hkey
          obtain ⟨moment, hmem, hinstant, hnone⟩ := (hI.cached manager hkey r hr).moment
          refine ⟨moment, ?_, ?_, ?_, hnone⟩
          · rw [after_moments]
            exact List.mem_append_left _ hmem
          · exact (hI.clock moment hmem).trans (Nat.le_max_left _ _)
          · rw [hinstant]
            exact hage
      · have hnext : (s.after X b who input (.readCache manager .signingKey)).2.keyless
            = s.2.keyless := by
          rcases hcache : s.1.caches manager with ⟨_ | key, keys, lastRefresh⟩
          · exact absurd (congrArg KeyCache.activeKey hcache) hkey
          · simp [SigningState.after, observed, noteSigning, SigningNotes.nextKeyless,
              KeyWorld.answer, KeyWorld.answerNow, hcache]
        rw [hnext]
        exact hold
    | _ => exact ⟨hold, hbootstraps⟩
  -- a first key is made on the reading before, which found none
  | bootstrapping service =>
    refine ⟨hold, ?_⟩
    obtain ⟨rfl, hstep⟩ := hmay
    obtain ⟨r, hr, hstores⟩ := hc
    intro bootstrap hmem
    rcases List.mem_append.mp hmem with hmem | hmem
    · exact hbootstraps bootstrap hmem
    · cases List.mem_singleton.mp hmem
      exact (hbasis hstep r hr).still hstores
  | _ => exact ⟨hold, hbootstraps⟩

end Calls

/-- **When the cache is sound.**  In every run of managers that share a store, whatever the
calls meet and however they interleave, the law holds in every state reached if the answers
rest on readings: when `get_signing_key` finds a cache without a key, the cache was filled by a
refresh that read the store within the check interval, and when a key is bootstrapped, none of
the service was stored since the reading behind the answer. -/
theorem signingLaw_of_reach (X : KeyExterns) (b : KeyBackend) (managers : ℕ → KeyManager)
    (w : KeyWorld) (pool : Pool SigningState KeyCall KeyCall.Answer KeyError)
    (h : Reach (signingStep X b)
      (fun pool a => Registered managers pool a ∧ FromReading managers pool a)
      (Pool.idle (w, SigningNotes.start)) pool) :
    SigningLaw managers pool.state := by
  have hinv := Pool.invariant (I := SigningInv managers) (T := SigningThread X managers)
    ?_ (fun _ _ => .inl rfl) ?_ ?_ h
  · exact hinv.1.law
  · exact ⟨by simp [SigningNotes.start], by simp [SigningNotes.start],
      by simp [SigningNotes.start], by simp [SigningNotes.start]⟩
  · -- an operation begins at the start of its stage
    rintro pool who op - ⟨hmanager, -⟩
    exact .inr ⟨op.manager, Stage.start, hmanager, keeps_program X b op _,
      by simp [Stage.start], by simp [Stage.start]⟩
  · -- a call keeps the notes, moves its own stage and leaves the others theirs
    rintro pool who input c k hI hthread hprogram ⟨-, hreading⟩
    rcases hprogram with hnone | ⟨mgr, stage, hmanager, ⟨hmay, hrest⟩, hread, hbasis⟩
    · contradiction
    have hc : c.FromReading managers pool.state who input :=
      hreading c (by rw [hthread]; rfl)
    refine ⟨⟨?_, ?_, hI.law_after hmay hbasis hc⟩, ?_, ?_⟩
    · intro moment hmem
      rw [after_moments] at hmem
      rw [after_instant]
      rcases List.mem_append.mp hmem with hmem | hmem
      · exact (hI.clock moment hmem).trans (Nat.le_max_left _ _)
      · cases List.mem_singleton.mp hmem
        exact le_rfl
    · exact fun manager hkey => hI.cached_after hmanager hmay hread manager hkey
    · exact .inr ⟨mgr, _, hmanager, hrest _, activeMeta_next hmay hread,
        keyless_next hmanager hI hmay⟩
    · rintro j p hj (hnone | ⟨mgr', stage', hmanager', hkeeps', hread', hbasis'⟩)
      · exact .inl hnone
      · obtain ⟨hreadings, hbasisEq⟩ := after_readings_of_ne X b pool.state input c hj
        refine .inr ⟨mgr', stage', hmanager', hkeeps', ?_, ?_⟩
        · intro hmeta
          rw [hreadings]
          exact (hread' hmeta).after hmay
        · intro hstep r hr
          rw [hbasisEq] at hr
          exact (hbasis' hstep r hr).after hmay

/-- A manager is made, and some seconds later checks for a rotation. -/
def sampleFirstCheck (madeSecs checkSecs : ℕ) : List (Action KeyOp KeyInput) :=
  [.start 0 (.new (sampleManager 0))] ++ sampleSteps 0 1 (sampleInput madeSecs 1)
    ++ [.start 0 (.rotationCheck (sampleManager 0) false)]
    ++ sampleSteps 0 20 (sampleInput checkSecs 1)

theorem signingLaw_of_reach_sample :
    SigningLaw sampleManager ((sampleFirstCheck 0 61).foldl (signingStep sampleKeyExterns .turso)
      (Pool.idle (sampleWorld, SigningNotes.start))).state := by
  apply signingLaw_of_reach sampleKeyExterns .turso sampleManager sampleWorld
  apply Reach.start.foldl
  decide +kernel

/-- On no backend is the cache of a new manager sound: an hour after the service got its key, a
check a second after the manager was made finds the empty cache fresh, and bootstraps. -/
theorem not_exists_signingLaw_backend :
    ¬ ∃ b : KeyBackend, ∀ pool, Reach (signingStep sampleKeyExterns b) (Registered sampleManager)
      (Pool.idle (sampleSigning b, SigningNotes.start)) pool →
        SigningLaw sampleManager pool.state := by
  have hrun : ∀ b, Reach (signingStep sampleKeyExterns b) (Registered sampleManager)
      (Pool.idle (sampleSigning b, SigningNotes.start)) ((sampleFirstCheck 3600 3601).foldl
        (signingStep sampleKeyExterns b) (Pool.idle (sampleSigning b, SigningNotes.start))) := by
    intro b
    refine Reach.start.foldl (Allowed.of_forall ?_ _)
    intro a ha pool
    simp only [sampleFirstCheck, sampleSteps, List.mem_append, List.mem_singleton,
      List.mem_replicate] at ha
    rcases ha with ((rfl | ⟨-, rfl⟩) | rfl) | ⟨-, rfl⟩ <;> trivial
  rintro ⟨b, hlaw⟩
  have hbroken := hlaw _ (hrun b)
  cases b with
  | postgres => exact absurd hbroken (by decide +kernel)
  | turso => exact absurd hbroken (by decide +kernel)
  | surrealDb => exact absurd hbroken (by decide +kernel)

end ActonService
