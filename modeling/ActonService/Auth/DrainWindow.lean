import ActonService.Auth.KeyManager

/-!
# The drain window of demoted keys

A rotation demotes the active key to draining and computes the end of its drain window; the
rotation check is to retire the key behind that end.  The end is never written to the store,
so what a check does to the key depends on what the backend makes of an absent one.  Runs are
of any number of managers, of any services, that share a store, and their calls interleave in
any way.

## Main definitions

* `DrainRecord`, `noteDrains` — the keys demoted in a run and the checks since.
* `DrainLaw` — demoted keys are retired by the first check behind their window, not before.
* `CheckInTime` — a check at a time when the absent end decides right.

## Main results

* `drainLaw_of_reach` — **the law holds as long as every check comes in time.**
-/

namespace ActonService

open Effect Run

/-! ### The end of the drain window -/

/-- A key that was demoted, with the time of the rotation and of the checks since. -/
structure DrainRecord where
  kid : String
  rotatedAt : DateTime
  checks : List DateTime
  deriving DecidableEq

/-- What a run notes of demotions and checks. -/
def noteDrains (log : List DrainRecord) (_before : KeyWorld) (_who : ℕ) (_input : KeyInput) :
    (c : KeyCall) → c.Answer → KeyWorld → List DrainRecord
  | .updateKeyStatus kid .draining timestamp, .ok (), _ => log ++ [⟨kid, timestamp, []⟩]
  | .retireExpired now, _, _ => log.map fun r => { r with checks := r.checks ++ [now] }
  | _, _, _ => log

/-- The world, and the demotions and checks so far. -/
abbrev DrainState := KeyWorld × List DrainRecord

/-- A run of managers whose demotions are noted. -/
def drainStep (X : KeyExterns) (b : KeyBackend) :
    Pool DrainState KeyCall KeyCall.Answer KeyError → Action KeyOp KeyInput →
      Pool DrainState KeyCall KeyCall.Answer KeyError :=
  Pool.step (observed (KeyWorld.answer X b) noteDrains) (KeyOp.program X b)

/-- **Demoted keys are retired in time**: once a check was later than the end of the key's
window the key is retired, and it is retired only if a check was not earlier. -/
def DrainLaw (config : KeyRotationConfig) (s : DrainState) : Prop :=
  ∀ demoted ∈ s.2, ∀ d ∈ config.drainDeadline demoted.rotatedAt,
    ∃ key ∈ s.1.table.rows, key.kid = demoted.kid ∧
      ((∃ now ∈ demoted.checks, d < now) → key.status = .retired) ∧
      (key.status = .retired → ∃ now ∈ demoted.checks, d ≤ now)

/-- All managers have the configuration, and the storage operations succeed. -/
def Succeeding {σ : Type} (config : KeyRotationConfig)
    (_pool : Pool σ KeyCall KeyCall.Answer KeyError) : Action KeyOp KeyInput → Prop
  | .start _ op => op.manager.config = config
  | .step _ input => input.fault = .none

/-- The backend retires a draining key whose window has no recorded end. -/
def KeyBackend.retiresUndated (X : KeyExterns) (b : KeyBackend) : Bool :=
  decide (b = .surrealDb) && X.surrealNoneLe

/-- The check comes when the absent end of a window decides right: where an absent end counts
as past, not before the end of the window of a draining key; elsewhere, not behind it. -/
def CheckInTime (X : KeyExterns) (b : KeyBackend) (config : KeyRotationConfig) (s : DrainState)
    (now : DateTime) : Prop :=
  ∀ demoted ∈ s.2, ∀ d ∈ config.drainDeadline demoted.rotatedAt,
    if b.retiresUndated X then
      (∃ key ∈ s.1.table.rows, key.kid = demoted.kid ∧ key.status = .draining) → d ≤ now
    else ¬ d < now

/-- The time a call checks draining keys at. -/
def KeyCall.checkTime : KeyCall → Option DateTime
  | .retireExpired now => some now
  | _ => none

/-- The check a program is about to make comes in time. -/
def ChecksInTime (X : KeyExterns) (b : KeyBackend) (config : KeyRotationConfig)
    (pool : Pool DrainState KeyCall KeyCall.Answer KeyError) : Action KeyOp KeyInput → Prop
  | .start _ _ => True
  | .step who _ => ∀ now ∈ (pool.threads who).next?.bind KeyCall.checkTime,
      CheckInTime X b config pool.state now

instance decidableDrainLaw (config : KeyRotationConfig) (s : DrainState) :
    Decidable (DrainLaw config s) :=
  inferInstanceAs (Decidable (∀ demoted ∈ s.2, ∀ d ∈ config.drainDeadline demoted.rotatedAt, _))

instance decidableCheckInTime (X : KeyExterns) (b : KeyBackend) (config : KeyRotationConfig)
    (s : DrainState) (now : DateTime) : Decidable (CheckInTime X b config s now) :=
  inferInstanceAs (Decidable (∀ demoted ∈ s.2, ∀ d ∈ config.drainDeadline demoted.rotatedAt, _))

instance decidableSucceeding {σ : Type} (config : KeyRotationConfig)
    (pool : Pool σ KeyCall KeyCall.Answer KeyError) :
    ∀ a, Decidable (Succeeding config pool a)
  | .start _ op => inferInstanceAs (Decidable (op.manager.config = config))
  | .step _ input => inferInstanceAs (Decidable (input.fault = .none))

instance decidableChecksInTime (X : KeyExterns) (b : KeyBackend) (config : KeyRotationConfig)
    (pool : Pool DrainState KeyCall KeyCall.Answer KeyError) :
    ∀ a, Decidable (ChecksInTime X b config pool a)
  | .start _ _ => .isTrue trivial
  | .step who _ => inferInstanceAs (Decidable
      (∀ now ∈ (pool.threads who).next?.bind KeyCall.checkTime, _))

/-- What is kept of a demoted key. -/
def DrainRecord.Kept (config : KeyRotationConfig) (t : KeyTable) (demoted : DrainRecord) : Prop :=
  ∃ key ∈ t.rows, key.kid = demoted.kid ∧ key.status ≠ .active ∧
    ∀ d ∈ config.drainDeadline demoted.rotatedAt,
      (key.status = .draining ∧ ∀ now ∈ demoted.checks, ¬ d < now) ∨
        (key.status = .retired ∧ ∃ now ∈ demoted.checks, d ≤ now)

/-- What is kept of a run: no key has a recorded end of its window. -/
structure DrainInv (config : KeyRotationConfig) (t : KeyTable) (log : List DrainRecord) :
    Prop where
  undated : ∀ key ∈ t.rows, key.drainExpiresAt = none
  kept : ∀ demoted ∈ log, demoted.Kept config t

variable {X : KeyExterns} {b : KeyBackend} {config : KeyRotationConfig} {t t' : KeyTable}
  {log : List DrainRecord}

theorem DrainInv.law {w : KeyWorld} (h : DrainInv config w.table log) :
    DrainLaw config (w, log) := by
  intro demoted hmem d hd
  obtain ⟨key, hkey, hkid, -, hstatus⟩ := h.kept demoted hmem
  refine ⟨key, hkey, hkid, ?_, ?_⟩
  · rintro ⟨now, hnow, hlt⟩
    rcases hstatus d hd with ⟨-, hnone⟩ | ⟨hretired, -⟩
    · exact absurd hlt (hnone now hnow)
    · exact hretired
  · intro hretired
    rcases hstatus d hd with ⟨hdraining, -⟩ | ⟨-, hcheck⟩
    · rw [hretired] at hdraining
      contradiction
    · exact hcheck

/-- Storing a new key touches no other, whatever the fault it meets. -/
theorem DrainInv.storeKey (h : DrainInv config t log) {key : SigningKeyMetadata}
    (hkey : key.drainExpiresAt = none) (fault : KeyFault) :
    DrainInv config (storeKey X b fault key t).1 log := by
  rcases storeKey_cases X b fault key t with ht | ht
  · rw [ht]
    exact h
  · refine ⟨?_, ?_⟩
    · intro r hr
      rw [KeyTable.mem_insert ht] at hr
      rcases hr with hr | rfl
      · exact h.undated r hr
      · simp [KeyBackend.row, hkey]
    · intro demoted hmem
      obtain ⟨r, hr, hrest⟩ := h.kept demoted hmem
      exact ⟨r, (KeyTable.mem_insert ht).mpr (.inl hr), hrest⟩

theorem withStatus_drainExpiresAt (newStatus : KeyStatus) (timestamp : DateTime)
    (r : SigningKeyMetadata) :
    (withStatus b newStatus timestamp r).drainExpiresAt = r.drainExpiresAt := by
  cases newStatus <;> rfl

/-- An update of statuses records no end of a window. -/
theorem undated_update {p : SigningKeyMetadata → Bool} {newStatus : KeyStatus}
    {timestamp : DateTime} (h : ∀ key ∈ t.rows, key.drainExpiresAt = none) :
    ∀ key ∈ (t.update p (withStatus b newStatus timestamp)
      (withStatus_kid b newStatus timestamp)).rows, key.drainExpiresAt = none := by
  intro key hkey
  obtain ⟨r, hr, rfl⟩ := KeyTable.mem_update.mp hkey
  split
  · rw [withStatus_drainExpiresAt]
    exact h r hr
  · exact h r hr

/-- A demotion leaves the keys demoted before it as they are. -/
theorem DrainRecord.Kept.demote {demoted : DrainRecord} (h : demoted.Kept config t) (kid : String)
    (timestamp : DateTime) :
    demoted.Kept config (t.update (updatesStatus kid .draining) (withStatus b .draining timestamp)
      (withStatus_kid b .draining timestamp)) := by
  obtain ⟨key, hkey, hkid, hactive, hstatus⟩ := h
  refine ⟨key, KeyTable.mem_update.mpr ⟨key, hkey, ?_⟩, hkid, hactive, hstatus⟩
  simp [updatesStatus, hactive]

theorem DrainInv.demote (h : DrainInv config t log) (fault : KeyFault) (kid : String)
    (timestamp : DateTime) :
    DrainInv config (updateKeyStatus b fault kid .draining timestamp t).1 log := by
  rcases updateKeyStatus_cases b fault kid .draining timestamp t with ht | ht
  · rw [ht]
    exact h
  · rw [ht]
    exact ⟨undated_update h.undated, fun demoted hmem => (h.kept demoted hmem).demote kid timestamp⟩

/-- A key that was demoted is draining, and no check has come yet. -/
theorem DrainInv.noteDemoted {fault : KeyFault} {kid : String} {timestamp : DateTime}
    (h : DrainInv config (updateKeyStatus b fault kid .draining timestamp t).1 log)
    (hok : (updateKeyStatus b fault kid .draining timestamp t).2 = .ok ()) :
    DrainInv config (updateKeyStatus b fault kid .draining timestamp t).1
      (log ++ [⟨kid, timestamp, []⟩]) := by
  refine ⟨h.undated, ?_⟩
  intro demoted hmem
  rcases List.mem_append.mp hmem with hmem | hmem
  · exact h.kept demoted hmem
  · rw [List.mem_singleton] at hmem
    subst hmem
    obtain ⟨⟨r, hr, hupdates⟩, ht⟩ := exists_of_updateKeyStatus_ok hok
    refine ⟨withStatus b .draining timestamp r, ?_, ?_, by simp [withStatus], ?_⟩
    · rw [ht]
      exact KeyTable.mem_update.mpr ⟨r, hr, if_pos hupdates⟩
    · simp only [updatesStatus, Bool.and_eq_true, decide_eq_true_eq] at hupdates
      rw [withStatus_kid]
      exact hupdates.1
    · exact fun d _ => .inl ⟨rfl, by simp⟩

/-- A check on keys without recorded ends retires all that are draining, or none. -/
theorem retires_of_undated {key : SigningKeyMetadata} (h : key.drainExpiresAt = none)
    (now : DateTime) :
    retires X b now key = (decide (key.status = .draining) && b.retiresUndated X) := by
  rw [retires, KeyBackend.expired, h]
  rfl

/-- A check that comes in time keeps the invariant. -/
theorem DrainInv.check {w : KeyWorld} (h : DrainInv config w.table log) {now : DateTime}
    (hcheck : CheckInTime X b config (w, log) now) :
    DrainInv config (retireExpired X b .none now w.table).1
      (log.map fun r => { r with checks := r.checks ++ [now] }) := by
  have ht : (retireExpired X b .none now w.table).1 = w.table.update (retires X b now)
      (withStatus b .retired now) (withStatus_kid b .retired now) := rfl
  rw [ht]
  refine ⟨undated_update h.undated, ?_⟩
  intro demoted hmem
  -- the row of the key that was demoted, and what the check does to it
  obtain ⟨old, hold, rfl⟩ := List.mem_map.mp hmem
  obtain ⟨key, hkey, hkid, hactive, hstatus⟩ := h.kept old hold
  have hretires := retires_of_undated (X := X) (b := b) (h.undated key hkey) now
  have hin := hcheck old hold
  by_cases hdraining : key.status = .draining
  · by_cases hundated : b.retiresUndated X = true
    · -- an absent end counts as past, and the key is retired now
      have hyes : retires X b now key = true := by simp [hretires, hdraining, hundated]
      refine ⟨withStatus b .retired now key, KeyTable.mem_update.mpr ⟨key, hkey, if_pos hyes⟩,
        hkid, by simp [withStatus], fun d hd => .inr ⟨rfl, now, by simp, ?_⟩⟩
      have := hin d hd
      rw [if_pos hundated] at this
      exact this ⟨key, hkey, hkid, hdraining⟩
    · -- an absent end is never past, and the key goes on draining
      have hno : ¬ retires X b now key = true := by simp [hretires, hundated]
      refine ⟨key, KeyTable.mem_update.mpr ⟨key, hkey, if_neg hno⟩, hkid, hactive,
        fun d hd => .inl ⟨hdraining, ?_⟩⟩
      have hlate := hin d hd
      rw [if_neg hundated] at hlate
      rcases hstatus d hd with ⟨-, hchecks⟩ | ⟨hretired, -⟩
      · intro c hc
        rcases List.mem_append.mp hc with hc | hc
        · exact hchecks c hc
        · rw [List.mem_singleton.mp hc]
          exact hlate
      · rw [hdraining] at hretired
        contradiction
  · -- a key that is retired stays so
    have hno : ¬ retires X b now key = true := by simp [hretires, hdraining]
    refine ⟨key, KeyTable.mem_update.mpr ⟨key, hkey, if_neg hno⟩, hkid, hactive, fun d hd => ?_⟩
    rcases hstatus d hd with ⟨hyes, -⟩ | ⟨hretired, c, hc, hle⟩
    · exact absurd hyes hdraining
    · exact .inr ⟨hretired, c, List.mem_append_left _ hc, hle⟩

/-- A call of a manager keeps the invariant, if the check it may be comes in time. -/
theorem DrainInv.answer {w : KeyWorld} (h : DrainInv config w.table log) {mgr : KeyManager}
    {s : Stage} {c : KeyCall} (hmay : mgr.MayCall X s c) (who : ℕ) {input : KeyInput}
    (hfault : input.fault = .none)
    (hcheck : ∀ now, c = .retireExpired now → CheckInTime X b config (w, log) now) :
    DrainInv config ((observed (KeyWorld.answer X b) noteDrains (w, log) who input c).1.1).table
      (observed (KeyWorld.answer X b) noteDrains (w, log) who input c).1.2 := by
  cases c with
  | storeKey key =>
    obtain ⟨-, now, fresh, rfl⟩ := hmay
    exact h.storeKey rfl input.fault
  | updateKeyStatus kid newStatus timestamp =>
    obtain ⟨rfl, -⟩ := hmay
    have hdemote := h.demote (b := b) input.fault kid timestamp
    cases hanswer : (updateKeyStatus b input.fault kid .draining timestamp w.table).2 with
    | error e =>
      simp only [observed, KeyWorld.answer, KeyWorld.answerNow, hanswer, noteDrains]
      exact hdemote
    | ok u =>
      simp only [observed, KeyWorld.answer, KeyWorld.answerNow, hanswer, noteDrains]
      exact hdemote.noteDemoted hanswer
  | retireExpired now =>
    simp only [observed, KeyWorld.answer, KeyWorld.answerNow, hfault, noteDrains]
    exact h.check (hcheck now rfl)
  | getActiveKey service => exact h
  | getKeyByKid kid => exact h
  | getVerificationKeys service => exact h
  | countExpired now => exact h
  | createCache manager => exact h
  | readCache manager use => exact h
  | replaceCache manager activeKey verificationKeys => exact h
  | insertCache manager key => exact h
  | utcNow => exact h
  | freshKey => exact h
  | bootstrapping service => exact h

/-- **When demoted keys are retired in time.**  In every run of managers on a store in which
no key has a recorded end of its drain window, with every storage operation succeeding, the
law holds in every state reached if every check comes in time: where the backend takes an
absent end for a past one, not before the end of the window of a key that is draining, and
elsewhere not behind the end of the window of any demoted key. -/
theorem drainLaw_of_reach (X : KeyExterns) (b : KeyBackend) (config : KeyRotationConfig)
    (w : KeyWorld) (hundated : ∀ key ∈ w.table.rows, key.drainExpiresAt = none)
    (pool : Pool DrainState KeyCall KeyCall.Answer KeyError)
    (h : Reach (drainStep X b)
      (fun pool a => Succeeding config pool a ∧ ChecksInTime X b config pool a)
      (Pool.idle (w, [])) pool) :
    DrainLaw config pool.state := by
  have hinv := Pool.invariant (I := fun s : DrainState => DrainInv config s.1.table s.2)
    (T := fun _ _ p => ∃ (mgr : KeyManager) (s : Stage), mgr.Keeps X s p)
    ⟨hundated, by simp⟩ (fun _ _ => ⟨⟨0, "", config⟩, Stage.start, trivial⟩)
    (fun _ _ op _ _ => ⟨op.manager, Stage.start, keeps_program X b op _⟩) ?_ h
  · exact hinv.1.law
  · rintro pool who input c k hI hthread ⟨mgr, s, hmay, hrest⟩ ⟨hfault, hcheck⟩
    refine ⟨?_, ⟨mgr, _, hrest _⟩, fun j p _ hp => hp⟩
    apply hI.answer hmay who hfault
    rintro now rfl
    apply hcheck now
    rw [hthread]
    rfl

/-- Two rotations a day apart, and a check some seconds after the first of them. -/
def sampleRotations (checkSecs : ℕ) : List (Action KeyOp KeyInput) :=
  [.start 0 (.rotate (sampleManager 0))] ++ sampleSteps 0 7 (sampleInput 0 0)
    ++ [.start 0 (.rotate (sampleManager 0))] ++ sampleSteps 0 8 (sampleInput 86400 1)
    ++ [.start 0 (.rotationCheck (sampleManager 0) false)]
    ++ sampleSteps 0 20 (sampleInput checkSecs 2)

theorem drainLaw_of_reach_sample :
    DrainLaw sampleConfig ((sampleRotations 90000).foldl (drainStep sampleKeyExterns .postgres)
      (Pool.idle (sampleWorld, []))).state := by
  apply drainLaw_of_reach sampleKeyExterns .postgres sampleConfig sampleWorld (by decide)
  apply Reach.start.foldl
  decide +kernel

/-- On no backend does the law hold in all runs: a check a second behind the window of the first
key leaves it draining in PostgreSQL and Turso, and one an hour after its demotion retires it in
SurrealDB. -/
theorem not_exists_drainLaw_backend :
    ¬ ∃ b : KeyBackend, ∀ pool, Reach (drainStep sampleKeyExterns b) (Succeeding sampleConfig)
      (Pool.idle (sampleWorld, [])) pool → DrainLaw sampleConfig pool.state := by
  have hrun : ∀ b secs, Reach (drainStep sampleKeyExterns b) (Succeeding sampleConfig)
      (Pool.idle (sampleWorld, [])) ((sampleRotations secs).foldl
        (drainStep sampleKeyExterns b) (Pool.idle (sampleWorld, []))) := by
    intro b secs
    refine Reach.start.foldl (Allowed.of_forall ?_ _)
    intro a ha pool
    simp only [sampleRotations, sampleSteps, List.mem_append, List.mem_singleton,
      List.mem_replicate] at ha
    rcases ha with ((((rfl | ⟨-, rfl⟩) | rfl) | ⟨-, rfl⟩) | rfl) | ⟨-, rfl⟩ <;> rfl
  rintro ⟨b, hlaw⟩
  cases b with
  | postgres => exact absurd (hlaw _ (hrun .postgres 173101)) (by decide +kernel)
  | turso => exact absurd (hlaw _ (hrun .turso 173101)) (by decide +kernel)
  | surrealDb => exact absurd (hlaw _ (hrun .surrealDb 90000)) (by decide +kernel)

end ActonService
