import ActonService.Auth.KeyManager

/-!
# The signing key under rotations

What `rotate` does to the active keys of a service.  It demotes the old key before it stores
the new one, in two statements and no transaction; nothing in the store keeps a service to one
active key.  A rotation alone may meet any fault; a run is of any number of managers that share
a store, and their calls interleave in any way.

## Main definitions

* `HasActive`, `SeveralActive`, `AtMostOneActive` — the keys that sign for a service.
* `rotatedTable`, `RotationKeepsKey` — what a rotation does to the table, and when it leaves a
  key behind.
* `AboutToStore`, `FindsNoneAlone` — the rotations that are about to make a key.

## Main results

* `hasActive_rotate_iff` — **a rotation leaves an active key exactly if the new one takes the
  old one's place, or the old one was not demoted, or there was another.**
* `atMostOneActive_of_reach` — **there is at most one as long as no rotation finds none while
  another is about to store one.**
-/

namespace ActonService

open Effect Run

variable {X : KeyExterns} {b : KeyBackend} {t : KeyTable}

/-! ### A rotation that fails -/

/-- Some key of the service signs. -/
def HasActive (service : String) (t : KeyTable) : Prop :=
  ∃ key ∈ t.rows, isActiveFor service key = true

instance decidableHasActive (service : String) (t : KeyTable) : Decidable (HasActive service t) :=
  inferInstanceAs (Decidable (∃ key ∈ t.rows, _))

/-- The statement changes the table, whatever its caller is told. -/
def KeyFault.takesEffect : KeyFault → Bool
  | .none | .lostReply _ | .cut _ _ => true
  | .unreachable _ | .rejected _ => false

/-- The statement changes the table, and its caller is told so. -/
def KeyFault.succeeds : KeyFault → Bool
  | .none | .cut _ _ => true
  | .unreachable _ | .lostReply _ | .rejected _ => false

theorem KeyFault.takesEffect_of_succeeds {fault : KeyFault} (h : fault.succeeds = true) :
    fault.takesEffect = true := by
  cases fault with
  | none => rfl
  | cut kept e => rfl
  | unreachable e => exact absurd h Bool.false_ne_true
  | lostReply e => exact absurd h Bool.false_ne_true
  | rejected e => exact absurd h Bool.false_ne_true

/-- The calls that write no table. -/
def KeyCall.ReadsTable : KeyCall → Prop
  | .updateKeyStatus _ _ _ | .storeKey _ | .retireExpired _ => False
  | _ => True

theorem KeyWorld.answer_table {c : KeyCall} (hc : c.ReadsTable) (w : KeyWorld) (who : ℕ)
    (input : KeyInput) : (w.answer X b who input c).1.table = w.table := by
  cases c <;> first | rfl | exact hc.elim

/-- A refresh of the cache leaves the table as it is. -/
theorem maintains_refreshCache_table (mgr : KeyManager) (t : KeyTable) (who : ℕ) :
    Maintains (KeyWorld.answer X b) (fun _ => True) (fun w => w.table = t) who
      (mgr.refreshCache X) := by
  have hcall : ∀ c : KeyCall, c.ReadsTable → ∀ (w : KeyWorld) (input : KeyInput), True →
      w.table = t → (w.answer X b who input c).1.table = t :=
    fun c hc w input _ hw => (KeyWorld.answer_table hc w who input).trans hw
  refine Maintains.bind (.call (hcall (.getActiveKey _) trivial) .ofExcept) fun activeMeta => ?_
  refine Maintains.bind (.call (hcall (.getVerificationKeys _) trivial) .ofExcept) fun metas => ?_
  refine Maintains.bind (.ofExcept _) fun activeCached => ?_
  refine Maintains.bind (.ofExcept _) fun verificationKeys => ?_
  exact .call (hcall (.replaceCache _ _ _) trivial) .ret

/-- What `rotate` does to the table: it demotes the active key it finds, and stores the new
one if it was told that this succeeded. -/
def rotatedTable (X : KeyExterns) (b : KeyBackend) (mgr : KeyManager) (w : KeyWorld)
    (inputs : ℕ → KeyInput) : KeyTable :=
  let now := w.utc.latest (inputs 0).utc
  let key := mgr.newKey X now (inputs 1).fresh
  match getActiveKey b (inputs 2).fault (inputs 2).pick mgr.serviceName w.table with
  | .error _ => w.table
  | .ok none => (storeKey X b (inputs 3).fault key w.table).1
  | .ok (some old) =>
    match mgr.config.drainExpiresAt now with
    | .error _ => w.table
    | .ok _ =>
      let demoted := updateKeyStatus b (inputs 3).fault old.kid .draining now w.table
      match demoted.2 with
      | .error _ => demoted.1
      | .ok () => (storeKey X b (inputs 4).fault key demoted.1).1

/-- The end of `rotate`: the new key is stored, and the cache refreshed. -/
theorem exec_storeNew_table (mgr : KeyManager) (key : SigningKeyMetadata) (w : KeyWorld) (who : ℕ)
    (inputs : ℕ → KeyInput) :
    (exec (KeyWorld.answer X b) who ((KeyProg.storeKey key).bind fun _ =>
      (mgr.refreshCache X).bind fun _ => Prog.ret key) w inputs).2.table
      = (storeKey X b (inputs 0).fault key w.table).1 := by
  have hrefresh := (maintains_refreshCache_table (X := X) (b := b) mgr
    (storeKey X b (inputs 0).fault key w.table).1 who).bind fun _ => .ret key
  simp only [KeyProg.storeKey, Prog.call_bind, exec, KeyWorld.answer, KeyWorld.answerNow]
  cases (storeKey X b (inputs 0).fault key w.table).2 with
  | error e => rfl
  | ok u => exact hrefresh _ _ rfl fun _ => trivial

theorem exec_rotate_table (mgr : KeyManager) (w : KeyWorld) (who : ℕ) (inputs : ℕ → KeyInput) :
    (exec (KeyWorld.answer X b) who (mgr.rotate X) w inputs).2.table
      = rotatedTable X b mgr w inputs := by
  simp only [KeyManager.rotate, KeyProg.utcNow, KeyProg.freshKey, KeyProg.getActiveKey,
    Prog.bind_eq, Prog.pure_eq, Prog.call_bind, Prog.ret_bind, exec, KeyWorld.answer,
    KeyWorld.answerNow, rotatedTable, zero_add, one_add_one_eq_two]
  rcases getActiveKey b (inputs 2).fault (inputs 2).pick mgr.serviceName w.table with e | _ | old
  · rfl
  · exact exec_storeNew_table mgr _ _ who fun n => inputs (n + 3)
  · simp only [Prog.ofExcept, Prog.ret_bind, KeyManager.demote, Prog.bind_eq]
    cases mgr.config.drainExpiresAt (w.utc.latest (inputs 0).utc) with
    | error e => rfl
    | ok d =>
      simp only [KeyProg.updateKeyStatus, Prog.ret_bind, Prog.call_bind, exec, KeyWorld.answer,
        KeyWorld.answerNow, zero_add]
      cases (updateKeyStatus b (inputs 3).fault old.kid .draining (w.utc.latest (inputs 0).utc)
        w.table).2 with
      | error e => rfl
      | ok u => exact exec_storeNew_table mgr _ _ who fun n => inputs (n + 4)

/-- The service has a choice of active keys. -/
def SeveralActive (service : String) (t : KeyTable) : Prop :=
  ∃ key ∈ t.rows, ∃ other ∈ t.rows, key.kid ≠ other.kid ∧
    isActiveFor service key = true ∧ isActiveFor service other = true

/-- If the demotion of the active key takes effect, the service has another one, or the rotation
is told so, and the insertion of its new key takes effect under an identifier not taken. -/
def RotationKeepsKey (X : KeyExterns) (mgr : KeyManager) (w : KeyWorld)
    (inputs : ℕ → KeyInput) : Prop :=
  (inputs 2).fault = .none →
  (mgr.config.drainDeadline (w.utc.latest (inputs 0).utc)).isSome = true →
  (inputs 3).fault.takesEffect = true →
    SeveralActive mgr.serviceName w.table ∨
      ((inputs 3).fault.succeeds = true ∧ (inputs 4).fault.takesEffect = true ∧
        X.uuidToString (inputs 1).fresh.uuid ∉ w.table.rows.map SigningKeyMetadata.kid)

/-- A demotion leaves the active keys it does not name. -/
theorem hasActive_demoted_iff {service : String} {old : SigningKeyMetadata} (hold : old ∈ t.rows)
    (hactive : isActiveFor service old = true) (now : DateTime) :
    HasActive service (t.update (updatesStatus old.kid .draining) (withStatus b .draining now)
      (withStatus_kid b .draining now)) ↔ SeveralActive service t := by
  constructor
  · rintro ⟨key, hkey, hsigns⟩
    obtain ⟨r, hr, rfl⟩ := KeyTable.mem_update.mp hkey
    split at hsigns
    · simp [isActiveFor, withStatus] at hsigns
    · next hno =>
      refine ⟨old, hold, r, hr, ?_, hactive, hsigns⟩
      rintro heq
      simp only [isActiveFor, Bool.and_eq_true, decide_eq_true_eq] at hsigns
      simp [updatesStatus, heq, hsigns.2] at hno
  · rintro ⟨key, hkey, other, hother, hne, hsigns, hsigns'⟩
    have hkeep : ∀ r ∈ t.rows, r.kid ≠ old.kid → isActiveFor service r = true →
        HasActive service (t.update (updatesStatus old.kid .draining) (withStatus b .draining now)
          (withStatus_kid b .draining now)) := by
      intro r hr hkid hs
      refine ⟨r, KeyTable.mem_update.mpr ⟨r, hr, if_neg ?_⟩, hs⟩
      simp [updatesStatus, hkid]
    by_cases hkid : key.kid = old.kid
    · exact hkeep other hother (fun h => hne (hkid.trans h.symm)) hsigns'
    · exact hkeep key hkey hkid hsigns

/-- Storing an active key of the service makes it active, if it takes effect. -/
theorem hasActive_storeKey_iff {service : String} {key : SigningKeyMetadata}
    (hkey : isActiveFor service key = true) (fault : KeyFault) :
    HasActive service (storeKey X b fault key t).1 ↔ HasActive service t ∨
      (fault.takesEffect = true ∧ key.kid ∉ t.rows.map SigningKeyMetadata.kid) := by
  have hrow : isActiveFor service (b.row key) = true := hkey
  have hstored : ∀ {t'}, t.insert (b.row key) = some t' → HasActive service t' :=
    fun h => ⟨b.row key, (KeyTable.mem_insert h).mpr (.inr rfl), hrow⟩
  have hinsert : (t.insert (b.row key) = none ∧ key.kid ∈ t.rows.map SigningKeyMetadata.kid) ∨
      ∃ t', t.insert (b.row key) = some t' ∧ key.kid ∉ t.rows.map SigningKeyMetadata.kid := by
    by_cases htaken : key.kid ∈ t.rows.map SigningKeyMetadata.kid
    · exact .inl ⟨dif_pos htaken, htaken⟩
    · exact .inr ⟨_, dif_neg htaken, htaken⟩
  rcases hinsert with ⟨hnone, htaken⟩ | ⟨t', hsome, hfree⟩
  · cases fault <;> simp [storeKey, hnone, htaken]
  · have := hstored hsome
    cases fault <;> simp [storeKey, hsome, hfree, this, KeyFault.takesEffect]

theorem not_hasActive_of_getActiveKey {service : String} {fault : KeyFault} {pick : ℕ}
    (h : getActiveKey b fault pick service t = .ok none) : ¬ HasActive service t := by
  rintro ⟨key, hkey, hactive⟩
  rw [getActiveKey_eq_ok_none h key hkey] at hactive
  contradiction

/-- A reading that meets no fault finds an active key if there is one. -/
theorem exists_getActiveKey {service : String} (h : HasActive service t) (pick : ℕ) :
    ∃ old, getActiveKey b .none pick service t = .ok (some old) := by
  cases hfound : getActiveKey b .none pick service t with
  | error e => simp [getActiveKey] at hfound
  | ok found =>
    cases found with
    | some old => exact ⟨old, rfl⟩
    | none => exact absurd h (not_hasActive_of_getActiveKey hfound)

/-- What a demotion does to the active key it names, and what it reports. -/
theorem updateKeyStatus_demote {service : String} {old : SigningKeyMetadata} (hold : old ∈ t.rows)
    (hactive : isActiveFor service old = true) (fault : KeyFault) (now : DateTime) :
    ((updateKeyStatus b fault old.kid .draining now t).2 = .ok () ↔ fault.succeeds = true) ∧
      (updateKeyStatus b fault old.kid .draining now t).1 = if fault.takesEffect then
        t.update (updatesStatus old.kid .draining) (withStatus b .draining now)
          (withStatus_kid b .draining now)
      else t := by
  have hany : t.rows.any (updatesStatus old.kid .draining) = true := by
    simp only [isActiveFor, Bool.and_eq_true, decide_eq_true_eq] at hactive
    exact List.any_eq_true.mpr ⟨old, hold, by simp [updatesStatus, hactive.2]⟩
  cases fault with
  | rejected e =>
    cases b <;> simp [updateKeyStatus, KeyFault.succeeds, KeyFault.takesEffect]
  | none => simp [updateKeyStatus, KeyFault.succeeds, KeyFault.takesEffect, hany]
  | unreachable e => simp [updateKeyStatus, KeyFault.succeeds, KeyFault.takesEffect]
  | lostReply e => simp [updateKeyStatus, KeyFault.succeeds, KeyFault.takesEffect]
  | cut kept e => simp [updateKeyStatus, KeyFault.succeeds, KeyFault.takesEffect, hany]

/-- **When a rotation leaves a signing key behind.**  From a table with an active key of the
service, whatever the calls of `rotate` meet, an active key is left exactly if the demotion
takes no effect, or another key of the service is active, or the new key takes the old one's
place. -/
theorem hasActive_rotate_iff (X : KeyExterns) (b : KeyBackend) (mgr : KeyManager) (w : KeyWorld)
    (who : ℕ) (inputs : ℕ → KeyInput) (h : HasActive mgr.serviceName w.table) :
    HasActive mgr.serviceName (exec (KeyWorld.answer X b) who (mgr.rotate X) w inputs).2.table ↔
      RotationKeepsKey X mgr w inputs := by
  rw [exec_rotate_table, rotatedTable, RotationKeepsKey, KeyRotationConfig.drainDeadline]
  -- a `rotate` that cannot read the active key changes nothing
  by_cases hread : (inputs 2).fault = .none
  swap
  · have herror : ∃ e, getActiveKey b (inputs 2).fault (inputs 2).pick mgr.serviceName w.table
        = .error e := by
      cases hfault : (inputs 2).fault with
      | none => exact absurd hfault hread
      | _ => exact ⟨_, rfl⟩
    obtain ⟨e, he⟩ := herror
    simp only [he]
    exact iff_of_true h fun hno => absurd hno hread
  rw [hread]
  -- it finds one, as there is one, and demotes it if the deadline of the drain can be computed
  obtain ⟨old, hfound⟩ := exists_getActiveKey (b := b) h (inputs 2).pick
  obtain ⟨hold, hactive⟩ := getActiveKey_eq_ok_some hfound
  simp only [hfound]
  cases mgr.config.drainExpiresAt (w.utc.latest (inputs 0).utc) with
  | error e => exact iff_of_true h fun _ hno => absurd hno (by simp [Except.toOption])
  | ok d =>
    rcases updateKeyStatus_demote (b := b) hold hactive (inputs 3).fault
      (w.utc.latest (inputs 0).utc) with ⟨hok, htable⟩
    have hnew : isActiveFor mgr.serviceName
        (mgr.newKey X (w.utc.latest (inputs 0).utc) (inputs 1).fresh) = true := by
      simp [isActiveFor, KeyManager.newKey]
    have hdemoted := hasActive_demoted_iff (b := b) hold hactive (w.utc.latest (inputs 0).utc)
    simp only [Except.toOption, Option.isSome_some, forall_const]
    cases hanswer : (updateKeyStatus b (inputs 3).fault old.kid .draining
      (w.utc.latest (inputs 0).utc) w.table).2 with
    -- the demotion is reported as failed, and no new key is stored
    | error e =>
      have hfailed : ¬ (inputs 3).fault.succeeds = true := by
        rw [← hok, hanswer]
        intro hcontra
        cases hcontra
      rw [htable]
      by_cases htakes : (inputs 3).fault.takesEffect = true
      · rw [if_pos htakes, hdemoted]
        simp [htakes, hfailed]
      · rw [if_neg htakes]
        exact iff_of_true h fun hno => absurd hno htakes
    -- the new key is stored, if that takes effect
    | ok u =>
      have hsucceeds : (inputs 3).fault.succeeds = true := hok.mp hanswer
      have htakes : (inputs 3).fault.takesEffect = true :=
        KeyFault.takesEffect_of_succeeds hsucceeds
      simp only [htable, if_pos htakes]
      rw [hasActive_storeKey_iff hnew, hdemoted, KeyTable.map_kid_update]
      simp [htakes, hsucceeds, KeyManager.newKey]

/-- The sample time, with one active key in the store. -/
def sampleSigning (b : KeyBackend) : KeyWorld :=
  (exec (KeyWorld.answer sampleKeyExterns b) 0 ((sampleManager 0).rotate sampleKeyExterns)
    sampleWorld fun _ => sampleInput 0 0).2

/-- The inputs of a rotation a day later.  The statement that stores the new key meets the
fault. -/
def sampleStoreFault (fault : KeyFault) (n : ℕ) : KeyInput :=
  if n = 4 then { sampleInput 86400 1 with fault := fault } else sampleInput 86400 1

theorem hasActive_rotate_iff_sample :
    HasActive "billing" (exec (KeyWorld.answer sampleKeyExterns .postgres) 0
      ((sampleManager 0).rotate sampleKeyExterns) (sampleSigning .postgres)
      (sampleStoreFault (.lostReply "broken pipe"))).2.table ↔
      RotationKeepsKey sampleKeyExterns (sampleManager 0) (sampleSigning .postgres)
        (sampleStoreFault (.lostReply "broken pipe")) :=
  hasActive_rotate_iff sampleKeyExterns .postgres (sampleManager 0) (sampleSigning .postgres) 0
    (sampleStoreFault (.lostReply "broken pipe")) (by decide +kernel)

/-- On no backend does a service keep a signing key through every failed rotation: when the
database cannot be reached to store the new key, the old one is draining already. -/
theorem not_exists_failed_rotate_hasActive :
    ¬ ∃ b : KeyBackend, ∀ w inputs, HasActive "billing" w.table →
      (∃ e, (exec (KeyWorld.answer sampleKeyExterns b) 0
        ((sampleManager 0).rotate sampleKeyExterns) w inputs).1 = .error e) →
      HasActive "billing" (exec (KeyWorld.answer sampleKeyExterns b) 0
        ((sampleManager 0).rotate sampleKeyExterns) w inputs).2.table := by
  rintro ⟨b, hkeeps⟩
  have hkept := hkeeps (sampleSigning b) (sampleStoreFault (.unreachable "connection refused"))
  cases b with
  | postgres => exact absurd (hkept (by decide +kernel) ⟨_, rfl⟩) (by decide +kernel)
  | turso => exact absurd (hkept (by decide +kernel) ⟨_, rfl⟩) (by decide +kernel)
  | surrealDb => exact absurd (hkept (by decide +kernel) ⟨_, rfl⟩) (by decide +kernel)

/-! ### One signing key -/

/-- **At most one key of the service is active.** -/
def AtMostOneActive (service : String) (t : KeyTable) : Prop :=
  ∀ key ∈ t.rows, ∀ other ∈ t.rows, isActiveFor service key = true →
    isActiveFor service other = true → key = other

instance decidableAtMostOneActive (service : String) (t : KeyTable) :
    Decidable (AtMostOneActive service t) :=
  inferInstanceAs (Decidable (∀ key ∈ t.rows, _))

/-- A run of managers that share a store. -/
def keyStep (X : KeyExterns) (b : KeyBackend) :
    Pool KeyWorld KeyCall KeyCall.Answer KeyError → Action KeyOp KeyInput →
      Pool KeyWorld KeyCall KeyCall.Answer KeyError :=
  Pool.step (KeyWorld.answer X b) (KeyOp.program X b)

/-- The program is a rotation for the service that is about to store its key. -/
def AboutToStore (service : String) (p : KeyProg Unit) : Prop :=
  ∃ key, p.next? = some (.storeKey key) ∧ key.serviceName = service

/-- A rotation that finds no active key, and is about to store one for that, is the only one
of the service about to store. -/
def FindsNoneAlone (X : KeyExterns) (b : KeyBackend) (service : String)
    (pool : Pool KeyWorld KeyCall KeyCall.Answer KeyError) (a : Action KeyOp KeyInput) : Prop :=
  ∀ who, (pool.threads who).next? = some (.getActiveKey service) →
    AboutToStore service ((keyStep X b pool a).threads who) →
    ∀ other, other ≠ who → ¬ AboutToStore service (pool.threads other)

/-- Every row is still there, of the same service and with the same key, and retired if it was. -/
def KeyTable.Extends (t t' : KeyTable) : Prop :=
  ∀ r ∈ t.rows, ∃ r' ∈ t'.rows, r'.kid = r.kid ∧ r'.serviceName = r.serviceName ∧
    r'.keyMaterial = r.keyMaterial ∧ (r.status = .retired → r'.status = .retired)

theorem KeyTable.Extends.refl (t : KeyTable) : t.Extends t :=
  fun r hr => ⟨r, hr, rfl, rfl, rfl, id⟩

theorem withStatus_serviceName (newStatus : KeyStatus) (timestamp : DateTime)
    (r : SigningKeyMetadata) :
    (withStatus b newStatus timestamp r).serviceName = r.serviceName := by
  cases newStatus <;> rfl

theorem withStatus_keyMaterial (newStatus : KeyStatus) (timestamp : DateTime)
    (r : SigningKeyMetadata) :
    (withStatus b newStatus timestamp r).keyMaterial = r.keyMaterial := by
  cases newStatus <;> rfl

theorem extends_answer {mgr : KeyManager} {s : Stage} {c : KeyCall} (hmay : mgr.MayCall X s c)
    (w : KeyWorld) (who : ℕ) (input : KeyInput) :
    w.table.Extends (w.answer X b who input c).1.table := by
  intro r hr
  rcases KeyWorld.answer_table_cases (b := b) hmay w who input with
    h | ⟨key, -, h⟩ | ⟨p, newStatus, timestamp, -, hp, h⟩
  · rw [h]
    exact KeyTable.Extends.refl _ r hr
  · exact ⟨r, (KeyTable.mem_insert h).mpr (.inl hr), rfl, rfl, rfl, id⟩
  · rw [h]
    refine ⟨_, KeyTable.mem_update.mpr ⟨r, hr, rfl⟩, ?_⟩
    split
    · next hyes =>
      exact ⟨withStatus_kid b _ _ r, withStatus_serviceName _ _ r, withStatus_keyMaterial _ _ r,
        fun hretired => absurd hretired (hp r hyes)⟩
    · exact ⟨rfl, rfl, rfl, id⟩

/-- A key that is active after its status may have been taken further was not touched. -/
theorem active_of_update {service : String} {p : SigningKeyMetadata → Bool}
    {newStatus : KeyStatus} {timestamp : DateTime} (hstatus : newStatus ≠ .active)
    {key : SigningKeyMetadata}
    (hkey : key ∈ (t.update p (withStatus b newStatus timestamp)
      (withStatus_kid b newStatus timestamp)).rows)
    (hactive : isActiveFor service key = true) : key ∈ t.rows ∧ p key = false := by
  obtain ⟨r, hr, rfl⟩ := KeyTable.mem_update.mp hkey
  by_cases hp : p r = true
  · rw [if_pos hp] at hactive
    cases newStatus with
    | active => exact absurd rfl hstatus
    | draining => simp [isActiveFor, withStatus] at hactive
    | retired => simp [isActiveFor, withStatus] at hactive
  · rw [if_neg hp]
    exact ⟨hr, Bool.eq_false_iff.mpr hp⟩

/-- Unless a key of the service is stored, no key of it becomes active. -/
theorem active_of_answer {service : String} {mgr : KeyManager} {s : Stage} {c : KeyCall}
    (hmay : mgr.MayCall X s c)
    (hstore : ∀ key, c = .storeKey key → key.serviceName ≠ service) (w : KeyWorld) (who : ℕ)
    (input : KeyInput) {key : SigningKeyMetadata}
    (hkey : key ∈ (w.answer X b who input c).1.table.rows)
    (hactive : isActiveFor service key = true) : key ∈ w.table.rows := by
  rcases KeyWorld.answer_table_cases (b := b) hmay w who input with
    h | ⟨new, hc, h⟩ | ⟨p, newStatus, timestamp, hstatus, -, h⟩
  · rw [h] at hkey
    exact hkey
  · rcases (KeyTable.mem_insert h).mp hkey with hkey | rfl
    · exact hkey
    · simp only [isActiveFor, Bool.and_eq_true, decide_eq_true_eq] at hactive
      exact absurd hactive.1 (hstore new hc)
  · rw [h] at hkey
    exact (active_of_update hstatus hkey hactive).1

/-- The program keeps to a manager's protocol, and the key it has found is of its service. -/
def Underway (X : KeyExterns) (t : KeyTable) (p : KeyProg Unit) : Prop :=
  ∃ (mgr : KeyManager) (s : Stage), mgr.Keeps X s p ∧
    ∀ old, s.step = .found old →
      ∃ r ∈ t.rows, r.kid = old.kid ∧ r.serviceName = mgr.serviceName

/-- What is kept of a run: while a rotation is about to store, there is no active key, and no
other rotation is about to store. -/
structure RotateInv (X : KeyExterns) (service : String) (w : KeyWorld)
    (threads : ℕ → KeyProg Unit) : Prop where
  underway : ∀ who, Underway X w.table (threads who)
  unique : AtMostOneActive service w.table
  vacant : ∀ who, AboutToStore service (threads who) → ¬ HasActive service w.table
  alone : ∀ who other, AboutToStore service (threads who) →
    AboutToStore service (threads other) → other = who

section OneKey

variable {mgr : KeyManager} {s : Stage} {service : String}

/-- Rotations store when they are clear to, and for their own service. -/
theorem clear_of_aboutToStore {p : KeyProg Unit} (hp : mgr.Keeps X s p)
    (habout : AboutToStore service p) : s.step = .clear ∧ mgr.serviceName = service := by
  obtain ⟨key, hnext, rfl⟩ := habout
  cases p with
  | ret a => contradiction
  | fail e => contradiction
  | call c k =>
    cases hnext
    obtain ⟨hclear, now, fresh, rfl⟩ := hp.1
    exact ⟨hclear, rfl⟩

theorem Underway.start (mgr : KeyManager) {p : KeyProg Unit}
    (h : mgr.Keeps X Stage.start p) : Underway X t p := by
  refine ⟨mgr, Stage.start, h, ?_⟩
  rintro old hold
  simp [Stage.start] at hold

theorem Underway.extends {t t' : KeyTable} {p : KeyProg Unit} (h : Underway X t p)
    (ht : t.Extends t') : Underway X t' p := by
  obtain ⟨mgr, s, hkeeps, hfound⟩ := h
  refine ⟨mgr, s, hkeeps, fun old hold => ?_⟩
  obtain ⟨r, hr, hkid, hservice⟩ := hfound old hold
  obtain ⟨r', hr', hkid', hservice', -⟩ := ht r hr
  exact ⟨r', hr', hkid'.trans hkid, hservice'.trans hservice⟩

/-- An active key that a call has found is a row of the manager's service. -/
theorem found_next {c : KeyCall} (hmay : mgr.MayCall X s c) (w : KeyWorld) (who : ℕ)
    (input : KeyInput) {old : SigningKeyMetadata}
    (hold : (s.next c (w.answer X b who input c).2).step = .found old) :
    ∃ r ∈ w.table.rows, r.kid = old.kid ∧ r.serviceName = mgr.serviceName := by
  rcases KeyWorld.step_next_cases X b s c w who input with h | ⟨svc, -, -, h⟩ |
    ⟨svc, key, rfl, hread, h⟩ | ⟨kid, newStatus, timestamp, -, -, h⟩ | ⟨manager, -, -, h⟩
  case inr.inr.inl =>
    cases hmay
    cases h.symm.trans hold
    obtain ⟨hmem, hactive⟩ := getActiveKey_eq_ok_some hread
    simp only [isActiveFor, Bool.and_eq_true, decide_eq_true_eq] at hactive
    exact ⟨old, hmem, rfl, hactive.1⟩
  all_goals cases h.symm.trans hold

/-- A rotation is clear to store after it has found no active key, or has demoted the one it
found. -/
theorem clear_next {c : KeyCall} (hmay : mgr.MayCall X s c) (w : KeyWorld) (who : ℕ)
    (input : KeyInput) (hclear : (s.next c (w.answer X b who input c).2).step = .clear) :
    (c = .getActiveKey mgr.serviceName ∧ ¬ HasActive mgr.serviceName w.table) ∨
      ∃ kid timestamp, c = .updateKeyStatus kid .draining timestamp ∧
        (updateKeyStatus b input.fault kid .draining timestamp w.table).2 = .ok () := by
  rcases KeyWorld.step_next_cases X b s c w who input with h | ⟨svc, rfl, hread, -⟩ |
    ⟨svc, key, -, -, h⟩ | ⟨kid, newStatus, timestamp, rfl, hanswer, -⟩ | ⟨manager, -, -, h⟩
  case inr.inl =>
    cases hmay
    exact .inl ⟨rfl, not_hasActive_of_getActiveKey hread⟩
  case inr.inr.inr.inl =>
    obtain ⟨rfl, -⟩ := hmay
    exact .inr ⟨kid, timestamp, rfl, hanswer⟩
  all_goals cases h.symm.trans hclear

variable {pool : Pool KeyWorld KeyCall KeyCall.Answer KeyError} {who : ℕ} {input : KeyInput}
  {c : KeyCall} {k : c.Answer → KeyProg Unit}

/-- The key a successful demotion names was the active one, and no other is left. -/
theorem RotateInv.demoted (h : RotateInv X service pool.state pool.threads) {kid : String}
    {timestamp : DateTime}
    (hrow : ∃ r ∈ pool.state.table.rows, r.kid = kid ∧ r.serviceName = service)
    (hok : (updateKeyStatus b input.fault kid .draining timestamp pool.state.table).2 = .ok ()) :
    HasActive service pool.state.table ∧
      ¬ HasActive service (updateKeyStatus b input.fault kid .draining timestamp
        pool.state.table).1 := by
  obtain ⟨⟨r, hr, hupdates⟩, htable⟩ := exists_of_updateKeyStatus_ok hok
  obtain ⟨r', hr', hkid', hservice⟩ := hrow
  have hupdates' := hupdates
  simp only [updatesStatus, Bool.and_eq_true, decide_eq_true_eq] at hupdates'
  have heq : r' = r := KeyTable.eq_of_kid_eq hr' hr (hkid'.trans hupdates'.1.symm)
  subst heq
  have hactive : isActiveFor service r' = true := by simp [isActiveFor, hservice, hupdates'.2]
  refine ⟨⟨r', hr, hactive⟩, ?_⟩
  rintro ⟨key, hkey, hsigns⟩
  rw [htable] at hkey
  obtain ⟨hmem, hnot⟩ := active_of_update (by decide) hkey hsigns
  rw [h.unique key hmem r' hr hsigns hactive, hupdates] at hnot
  contradiction

/-- A call that makes its program about to store leaves no active key, and no other program
was about to store. -/
theorem RotateInv.own (h : RotateInv X service pool.state pool.threads)
    (hthread : pool.threads who = .call c k)
    (hallowed : FindsNoneAlone X b service pool (.step who input))
    (habout : AboutToStore service (k (pool.state.answer X b who input c).2)) :
    ¬ HasActive service (pool.state.answer X b who input c).1.table ∧
      ∀ other, other ≠ who → ¬ AboutToStore service (pool.threads other) := by
  obtain ⟨mgr, s, hkeeps, hfound⟩ := h.underway who
  rw [hthread] at hkeeps
  obtain ⟨hclear, rfl⟩ := clear_of_aboutToStore (hkeeps.2 _) habout
  rcases clear_next hkeeps.1 pool.state who input hclear with
    ⟨rfl, hnone⟩ | ⟨kid, timestamp, rfl, hok⟩
  · refine ⟨hnone, hallowed who (by rw [hthread]; rfl) ?_⟩
    simpa [keyStep, Pool.step, hthread] using habout
  · obtain ⟨-, ⟨old, hold, rfl⟩, -⟩ := hkeeps.1
    obtain ⟨hbefore, hafter⟩ := h.demoted (hfound old hold) hok
    exact ⟨hafter, fun other _ hother => h.vacant other hother hbefore⟩

/-- Where no key of the service was active, only the one that was stored is. -/
theorem eq_of_storeKey {t : KeyTable} {fault : KeyFault} {new r : SigningKeyMetadata}
    (hnone : ¬ HasActive service t) (hr : r ∈ (storeKey X b fault new t).1.rows)
    (hsigns : isActiveFor service r = true) : r = b.row new := by
  rcases storeKey_cases X b fault new t with ht | ht
  · rw [ht] at hr
    exact absurd ⟨r, hr, hsigns⟩ hnone
  · rcases (KeyTable.mem_insert ht).mp hr with hr | hr
    · exact absurd ⟨r, hr, hsigns⟩ hnone
    · exact hr

/-- **A call keeps the invariant**, if it does not find the service without a key while another
rotation is about to store one. -/
theorem RotateInv.call (h : RotateInv X service pool.state pool.threads)
    (hthread : pool.threads who = .call c k)
    (hallowed : FindsNoneAlone X b service pool (.step who input)) :
    RotateInv X service (pool.state.answer X b who input c).1
      (Function.update pool.threads who (k (pool.state.answer X b who input c).2)) := by
  obtain ⟨mgr, s, hkeeps, hfound⟩ := h.underway who
  rw [hthread] at hkeeps
  -- rows are added and changed, but none is taken away
  have hextends := extends_answer (b := b) hkeeps.1 pool.state who input
  have hown := fun habout => h.own (b := b) hthread hallowed habout
  -- a key of the service becomes active only when this program was about to store it
  have hnew : (∃ key, c = .storeKey key ∧ key.serviceName = service) →
      AboutToStore service (pool.threads who) := by
    rintro ⟨key, rfl, hservice⟩
    exact ⟨key, by rw [hthread]; rfl, hservice⟩
  -- whatever else a call does, it makes no key active that was not
  have hold : ¬ (∃ key, c = .storeKey key ∧ key.serviceName = service) →
      ∀ key ∈ (pool.state.answer X b who input c).1.table.rows,
        isActiveFor service key = true → key ∈ pool.state.table.rows :=
    fun hno key hkey hactive => active_of_answer hkeeps.1
      (fun new hc hservice => hno ⟨new, hc, hservice⟩) pool.state who input hkey hactive
  -- another program that is about to store still finds no active key
  have hother : ∀ j, j ≠ who → AboutToStore service (pool.threads j) →
      ¬ HasActive service (pool.state.answer X b who input c).1.table := by
    rintro j hj habout ⟨key, hkey, hactive⟩
    have hno : ¬ ∃ key, c = .storeKey key ∧ key.serviceName = service :=
      fun hstore => hj (h.alone who j (hnew hstore) habout)
    exact h.vacant j habout ⟨key, hold hno key hkey hactive, hactive⟩
  -- where the programs are, at most one active key, none while one is stored, and one storing
  -- program
  refine ⟨?_, ?_, ?_, ?_⟩
  · intro j
    by_cases hj : j = who
    · subst hj
      rw [Function.update_self]
      refine ⟨mgr, _, hkeeps.2 _, fun old hstep => ?_⟩
      obtain ⟨r, hr, hkid, hservice⟩ := found_next hkeeps.1 pool.state j input hstep
      obtain ⟨r', hr', hkid', hservice', -⟩ := hextends r hr
      exact ⟨r', hr', hkid'.trans hkid, hservice'.trans hservice⟩
    · rw [Function.update_of_ne hj]
      exact (h.underway j).extends hextends
  · -- two active keys: either both were there, or this call has stored both, which then are one
    intro key hkey other hother' hactive hactive'
    by_cases hstore : ∃ key, c = .storeKey key ∧ key.serviceName = service
    · have hnone := h.vacant who (hnew hstore)
      obtain ⟨new, rfl, -⟩ := hstore
      have hfirst : key = b.row new := eq_of_storeKey hnone hkey hactive
      have hsecond : other = b.row new := eq_of_storeKey hnone hother' hactive'
      exact hfirst.trans hsecond.symm
    · exact h.unique key (hold hstore key hkey hactive) other
        (hold hstore other hother' hactive') hactive hactive'
  · intro j habout
    by_cases hj : j = who
    · subst hj
      rw [Function.update_self] at habout
      exact (hown habout).1
    · rw [Function.update_of_ne hj] at habout
      exact hother j hj habout
  · -- two programs about to store: this one has found no active key alone, and the others were
    -- one before
    intro i j hi hj
    by_cases hiw : i = who <;> by_cases hjw : j = who
    · rw [hiw, hjw]
    · subst hiw
      rw [Function.update_self] at hi
      rw [Function.update_of_ne hjw] at hj
      exact absurd hj ((hown hi).2 j hjw)
    · subst hjw
      rw [Function.update_self] at hj
      rw [Function.update_of_ne hiw] at hi
      exact absurd hi ((hown hj).2 i hiw)
    · rw [Function.update_of_ne hiw] at hi
      rw [Function.update_of_ne hjw] at hj
      exact h.alone i j hi hj

/-- A program that has just been started is not about to store. -/
theorem RotateInv.start (h : RotateInv X service pool.state pool.threads) (b : KeyBackend)
    (who : ℕ) (op : KeyOp) :
    RotateInv X service pool.state
      (Function.update pool.threads who (op.program X b)) := by
  have hnot : ¬ AboutToStore service (op.program X b) := by
    intro habout
    have := (clear_of_aboutToStore (keeps_program X b op .start) habout).1
    contradiction
  have hother : ∀ j, AboutToStore service (Function.update pool.threads who (op.program X b) j) →
      AboutToStore service (pool.threads j) := by
    intro j habout
    by_cases hj : j = who
    · subst hj
      rw [Function.update_self] at habout
      exact absurd habout hnot
    · rwa [Function.update_of_ne hj] at habout
  refine ⟨?_, h.unique, fun j habout => h.vacant j (hother j habout),
    fun i j hi hj => h.alone i j (hother i hi) (hother j hj)⟩
  intro j
  by_cases hj : j = who
  · subst hj
    rw [Function.update_self]
    exact Underway.start op.manager (keeps_program X b op _)
  · rw [Function.update_of_ne hj]
    exact h.underway j

end OneKey

/-- **When at most one key signs.**  Any number of managers share a store that has at most one
active key of the service, and their calls interleave in any way and meet any faults.  As long
as no rotation finds the service without an active key while another one is about to store
one, at most one is active in every state reached. -/
theorem atMostOneActive_of_reach (X : KeyExterns) (b : KeyBackend) (service : String)
    (w : KeyWorld) (hinit : AtMostOneActive service w.table)
    (pool : Pool KeyWorld KeyCall KeyCall.Answer KeyError)
    (h : Reach (keyStep X b) (FindsNoneAlone X b service) (Pool.idle w) pool) :
    AtMostOneActive service pool.state.table := by
  have hidle : ¬ AboutToStore service (.ret ()) := by
    rintro ⟨key, hnext, -⟩
    contradiction
  have hstart : RotateInv X service w fun _ => .ret () :=
    ⟨fun _ => Underway.start ⟨0, "", sampleConfig⟩ trivial, hinit,
      fun _ habout => absurd habout hidle, fun _ _ habout => absurd habout hidle⟩
  refine (h.invariant (I := fun pool => RotateInv X service pool.state pool.threads)
    hstart ?_).unique
  rintro pool (⟨who, op⟩ | ⟨who, input⟩) hI hallowed
  · rcases Pool.step_start_cases (KeyWorld.answer X b) (KeyOp.program X b) pool who op with
      heq | ⟨-, heq⟩
    · rw [keyStep, heq]
      exact hI
    · rw [keyStep, heq]
      exact hI.start b who op
  · rcases Pool.step_step_cases (KeyWorld.answer X b) (KeyOp.program X b) pool who input with
      ⟨-, heq⟩ | ⟨c, k, hthread, heq⟩
    · rw [keyStep, heq]
      exact hI
    · rw [keyStep, heq]
      exact hI.call hthread hallowed

/-- Where one program runs at a time, it is the only one about to store. -/
theorem findsNoneAlone_of_idle {service : String}
    {pool : Pool KeyWorld KeyCall KeyCall.Answer KeyError} {who : ℕ}
    (hidle : ∀ j, j ≠ who → pool.threads j = .ret ()) (a : Action KeyOp KeyInput) :
    FindsNoneAlone X b service pool a := by
  rintro i hreads - j hj ⟨key, hstores, -⟩
  by_cases hi : i = who
  · rw [hidle j (hi ▸ hj)] at hstores
    contradiction
  · rw [hidle i hi] at hreads
    contradiction

/-- The first rotation of a service and one a day later. -/
def sampleTwoRotations : List (Action KeyOp KeyInput) :=
  [.start 0 (.rotate (sampleManager 0))] ++ sampleSteps 0 7 (sampleInput 0 0)
    ++ [.start 0 (.rotate (sampleManager 0))] ++ sampleSteps 0 8 (sampleInput 86400 1)

theorem atMostOneActive_of_reach_sample :
    AtMostOneActive "billing" (sampleTwoRotations.foldl (keyStep sampleKeyExterns .turso)
      (Pool.idle sampleWorld)).state.table := by
  apply atMostOneActive_of_reach sampleKeyExterns .turso "billing" sampleWorld (by decide)
  apply Reach.start.foldl
  apply Allowed.of_invariant (J := fun pool => ∀ j, j ≠ 0 → pool.threads j = .ret ())
  · exact fun _ _ => rfl
  · intro pool a ha hidle
    refine ⟨findsNoneAlone_of_idle hidle a, fun j hj => ?_⟩
    rw [keyStep, Pool.step_threads_of_ne]
    · exact hidle j hj
    · simp only [sampleTwoRotations, sampleSteps, List.mem_append, List.mem_singleton,
        List.mem_replicate] at ha
      rcases ha with ((rfl | ⟨-, rfl⟩) | rfl) | ⟨-, rfl⟩ <;> exact hj

/-- Two instances that find no active key at the same time. -/
def sampleBootstraps : List (Action KeyOp KeyInput) :=
  [.start 0 (.rotate (sampleManager 0)), .start 1 (.rotate (sampleManager 1))]
    ++ sampleSteps 0 3 (sampleInput 0 0) ++ sampleSteps 1 3 (sampleInput 0 1)
    ++ sampleSteps 0 1 (sampleInput 0 0) ++ sampleSteps 1 1 (sampleInput 0 1)

/-- On no backend does the store keep two instances from making an active key each. -/
theorem not_exists_atMostOneActive_backend :
    ¬ ∃ b : KeyBackend, ∀ pool, Reach (keyStep sampleKeyExterns b) (fun _ _ => True)
      (Pool.idle sampleWorld) pool → AtMostOneActive "billing" pool.state.table := by
  have hrun : ∀ b, Reach (keyStep sampleKeyExterns b) (fun _ _ => True) (Pool.idle sampleWorld)
      (sampleBootstraps.foldl (keyStep sampleKeyExterns b) (Pool.idle sampleWorld)) :=
    fun b => Reach.start.foldl (Allowed.of_forall (fun _ _ _ => trivial) _)
  rintro ⟨b, hunique⟩
  have hbroken := hunique _ (hrun b)
  cases b with
  | postgres => exact absurd hbroken (by decide +kernel)
  | turso => exact absurd hbroken (by decide +kernel)
  | surrealDb => exact absurd hbroken (by decide +kernel)

end ActonService
