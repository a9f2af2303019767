import ActonService.Auth.RefreshTokens

/-!
# Revoking the refresh tokens of a user or a family

What `revoke_all_for_user` and `revoke_family` reach.  They revoke the tokens listed in a set,
and the set lives as long as the token stored last: a token stored earlier with more time left
is no longer listed once the set has expired.  A token whose identifier starts with `family:`
or `user:` overwrites a set.

A run is of calls that succeed one after the other, and of time passing between them.

## Main definitions

* `RefreshState`, `refreshStep` — a run.
* `RevokedAll` — no token of the user or family is returned unrevoked before it expires.
* `KeepsIndex` — a stored token leaves the sets of its user and family in force.

## Main results

* `IndexInv.step` — every token in force is listed where it will be looked for.
* `revokedAll_of_reach` — **revocation is complete in every run whose stores do so.**
-/

namespace ActonService

open Effect Run RedisRefresh

/-! ### Runs -/

/-- The store and the time of the clock that its clients read. -/
structure RefreshState where
  now : Clock
  redis : Redis.Keyspace RefreshTokenData

/-- What happens next: one of the functions of the storage runs, or time passes. -/
inductive RefreshAction
  /-- The time is this, unless it is later already. -/
  | tick (later : Clock)
  | store (new : NewToken)
  | rotate (oldTokenId : String) (new : NewToken)
  | revoke (tokenId : String)
  | revokeFamily (familyId : String)
  | revokeAllForUser (userId : String)

/-- The store after a program that nothing disturbs and whose commands all succeed. -/
def RefreshState.run {α : Type} (s : RefreshState) (p : RefreshProg α) : RefreshState :=
  { s with redis := (runAt s.now p s.redis).2 }

/-- One action: the clock goes on, or the program of the function runs. -/
def refreshStep (start : String) (s : RefreshState) : RefreshAction → RefreshState
  | .tick later => { s with now := s.now.latest later }
  | .store new => s.run (store start new)
  | .rotate oldTokenId new => s.run (rotate start oldTokenId new)
  | .revoke tokenId => s.run (revoke start tokenId)
  | .revokeFamily familyId => s.run (revokeFamily start familyId)
  | .revokeAllForUser userId => s.run (revokeAllForUser start userId)

/-- No token of the set is returned by `get` as unrevoked, unless it has expired. -/
def RevokedAll (start : String) (s : RefreshState) (index : TokenIndex) : Prop :=
  ∀ tokenId data, (runAt s.now (get start tokenId) s.redis).1 = .ok (some data) →
    index.covers data → s.now.utc < data.expiresAt → data.isRevoked = true

/-- No unrevoked token of the same user or family, apart from those the call replaces, will be
kept longer than the new one. -/
def Outlives (start : String) (s : RefreshState) (replaced : String → Prop) (new : NewToken) :
    Prop :=
  ∀ tokenId data x,
    s.redis.find? s.now.millis (tokenKey start tokenId) = some ⟨.text data, some x⟩ →
    data.isRevoked = false → ¬ replaced tokenId →
    (data.familyId = new.familyId ∨ data.userId = new.userId) →
    x ≤ Redis.deadline s.now.millis (ttlSecs new.expiresAt s.now)

/-- A token is stored under a key of its own, and outlives those listed with it. -/
def KeepsIndex (start : String) (s : RefreshState) : RefreshAction → Prop
  | .store new => PlainId new.tokenId ∧ Outlives start s (· = new.tokenId) new
  | .rotate oldTokenId new =>
    PlainId new.tokenId ∧ Outlives start s (fun t => t = new.tokenId ∨ t = oldTokenId) new
  | _ => True

/-! ### The invariant -/

/-- Every token in force is listed where it will be looked for. -/
structure IndexInv (start : String) (now : Clock) (m : Redis.Keyspace RefreshTokenData) :
    Prop where
  tokens : ∀ tokenId e, PlainId tokenId → m.entries (tokenKey start tokenId) = some e →
    ∃ data x, e = ⟨.text data, some x⟩
  sets : ∀ (index : TokenIndex) e, m.entries (index.key start) = some e →
    ∃ l x, e = ⟨.set l, some x⟩ ∧ ∀ t ∈ l, PlainId t
  listed : ∀ tokenId data x, PlainId tokenId →
    m.find? now.millis (tokenKey start tokenId) = some ⟨.text data, some x⟩ →
    data.isRevoked = false → ∀ index : TokenIndex, index.covers data →
    ∃ l y, m.entries (index.key start) = some ⟨.set l, some y⟩ ∧ tokenId ∈ l ∧ x ≤ y

variable {start : String} {now : Clock} {m : Redis.Keyspace RefreshTokenData}

theorem IndexInv.empty (start : String) (now : Clock) :
    IndexInv start now Redis.Keyspace.empty := by
  constructor
  · intro tokenId e _ h
    cases h
  · intro index e h
    cases h
  · intro tokenId data x _ h
    cases h

theorem IndexInv.tokenOrNone (h : IndexInv start now m) {tokenId : String}
    (hid : PlainId tokenId) : TokenOrNone m now (tokenKey start tokenId) := by
  cases hfind : m.find? now.millis (tokenKey start tokenId) with
  | none => exact .inl hfind
  | some e =>
    obtain ⟨data, x, rfl⟩ := h.tokens tokenId e hid (Redis.Keyspace.find?_eq_some_iff.mp hfind).1
    exact .inr ⟨data, some x, hfind⟩

theorem IndexInv.setOrNone (h : IndexInv start now m) (index : TokenIndex) :
    SetOrNone m now (index.key start) := by
  cases hfind : m.find? now.millis (index.key start) with
  | none => exact .inl hfind
  | some e =>
    obtain ⟨l, x, rfl, -⟩ := h.sets index e (Redis.Keyspace.find?_eq_some_iff.mp hfind).1
    exact .inr ⟨l, some x, hfind⟩

/-- A key that is not a set's is a token's, whose identifier is plain. -/
theorem IndexInv.plainId_of_text (h : IndexInv start now m) {tokenId : String}
    {data : RefreshTokenData} {x : Option ℕ}
    (hfind : m.find? now.millis (tokenKey start tokenId) = some ⟨.text data, x⟩) :
    PlainId tokenId := by
  by_contra hid
  obtain ⟨index, hkey⟩ := exists_indexKey_of_not_plainId start hid
  rw [hkey] at hfind
  obtain ⟨l, y, heq, -⟩ := h.sets index _ (Redis.Keyspace.find?_eq_some_iff.mp hfind).1
  cases heq

/-- Time passes, and keys may expire; those that are left are as they were. -/
theorem IndexInv.later (h : IndexInv start now m) {later : Clock}
    (hle : now.millis ≤ later.millis) : IndexInv start later m :=
  ⟨h.tokens, h.sets, fun tokenId data x hid hfind =>
    h.listed tokenId data x hid (Redis.Keyspace.find?_of_le hfind hle)⟩

/-! ### Revoking -/

/-- A token that is revoked changes its own key only. -/
theorem revokedAt_entries_of_ne {key k : String} (h : k ≠ key) :
    (revokedAt now m key).entries k = m.entries k := by
  unfold revokedAt
  split
  · exact Function.update_of_ne h _ _
  · rfl

/-- A key whose token was revoked has a revoked token, or no token. -/
theorem isRevoked_of_revokedAt {key : String} {data : RefreshTokenData} {x : Option ℕ}
    (h : (revokedAt now m key).find? now.millis key = some ⟨.text data, x⟩) :
    data.isRevoked = true := by
  unfold revokedAt at h
  split at h
  · rw [Redis.Keyspace.find?_put_self] at h
    split at h
    · cases h
      rfl
    · cases h
  · next hnone =>
    unfold tokenAt at hnone
    rw [h] at hnone
    cases hnone

/-- What is in force after a revocation was in force before, and is not the token revoked. -/
theorem unrevoked_of_revokedAt {key k : String} {data : RefreshTokenData} {x : Option ℕ}
    (h : (revokedAt now m key).find? now.millis k = some ⟨.text data, x⟩)
    (hdata : data.isRevoked = false) :
    k ≠ key ∧ m.find? now.millis k = some ⟨.text data, x⟩ := by
  have hne : k ≠ key := by
    rintro rfl
    rw [isRevoked_of_revokedAt h] at hdata
    cases hdata
  refine ⟨hne, ?_⟩
  rw [Redis.Keyspace.find?_eq_some_iff, revokedAt_entries_of_ne hne] at h
  exact Redis.Keyspace.find?_eq_some_iff.mpr h

theorem IndexInv.after_revoke (h : IndexInv start now m) {tokenId : String}
    (hid : PlainId tokenId) : IndexInv start now (revokedAt now m (tokenKey start tokenId)) := by
  have hsets : ∀ index : TokenIndex,
      (revokedAt now m (tokenKey start tokenId)).entries (index.key start)
        = m.entries (index.key start) :=
    fun index => revokedAt_entries_of_ne (tokenKey_ne_indexKey hid index).symm
  constructor
  · intro t e ht hentry
    by_cases htoken : t = tokenId
    · subst htoken
      unfold revokedAt at hentry
      split at hentry
      · simp only [Redis.Keyspace.put, Function.update_self, Option.some.injEq] at hentry
        exact ⟨_, _, hentry.symm⟩
      · exact h.tokens t e ht hentry
    · rw [revokedAt_entries_of_ne fun heq => htoken (tokenKey_injective start heq)] at hentry
      exact h.tokens t e ht hentry
  · intro index e hentry
    rw [hsets] at hentry
    exact h.sets index e hentry
  · intro t data x ht hfind hdata index hcovers
    obtain ⟨-, hbefore⟩ := unrevoked_of_revokedAt hfind hdata
    rw [hsets]
    exact h.listed t data x ht hbefore hdata index hcovers

/-- The keys after several tokens were revoked. -/
def revokedEach (start : String) (now : Clock) (m : Redis.Keyspace RefreshTokenData)
    (tokenIds : List String) : Redis.Keyspace RefreshTokenData :=
  tokenIds.foldl (fun m t => revokedAt now m (tokenKey start t)) m

theorem IndexInv.after_revokeEach {tokenIds : List String} (h : IndexInv start now m)
    (hids : ∀ t ∈ tokenIds, PlainId t) : IndexInv start now (revokedEach start now m tokenIds) := by
  induction tokenIds generalizing m with
  | nil => exact h
  | cons t rest ih =>
    exact ih (h.after_revoke (hids t List.mem_cons_self)) fun t' ht' =>
      hids t' (List.mem_cons_of_mem _ ht')

/-- The loop revokes one token after the other. -/
theorem exec_revokeEach {tokenIds : List String} (h : IndexInv start now m)
    (hids : ∀ t ∈ tokenIds, PlainId t) (revoked : ℕ) :
    runAt now (revokeEach start tokenIds revoked) m
      = (.ok (revoked + tokenIds.length), revokedEach start now m tokenIds) := by
  induction tokenIds generalizing m revoked with
  | nil => rfl
  | cons t rest ih =>
    have hfirst := hids t List.mem_cons_self
    rw [revokeEach, Prog.bind_eq, runAt_bind_ok (exec_revoke (h.tokenOrNone hfirst)),
      ih (h.after_revoke hfirst) fun t' ht' => hids t' (List.mem_cons_of_mem _ ht')]
    rw [List.length_cons, Nat.add_assoc, Nat.add_comm 1]
    rfl

/-- What is in force after several revocations was in force before, and is none of those
revoked. -/
theorem unrevoked_of_revokedEach {tokenIds : List String} {key : String}
    {data : RefreshTokenData} {x : Option ℕ}
    (h : (revokedEach start now m tokenIds).find? now.millis key = some ⟨.text data, x⟩)
    (hdata : data.isRevoked = false) :
    (∀ t ∈ tokenIds, key ≠ tokenKey start t) ∧
      m.find? now.millis key = some ⟨.text data, x⟩ := by
  induction tokenIds generalizing m with
  | nil => exact ⟨fun t ht => absurd ht List.not_mem_nil, h⟩
  | cons t rest ih =>
    obtain ⟨hrest, hfind⟩ := ih h
    obtain ⟨hne, hbefore⟩ := unrevoked_of_revokedAt hfind hdata
    refine ⟨fun t' ht' => ?_, hbefore⟩
    rcases List.mem_cons.mp ht' with rfl | ht'
    · exact hne
    · exact hrest t' ht'

/-- `smembers` answers with plain identifiers. -/
theorem IndexInv.members_plain (h : IndexInv start now m) (index : TokenIndex) :
    ∀ t ∈ m.members now.millis (index.key start), PlainId t := by
  intro t ht
  unfold Redis.Keyspace.members at ht
  split at ht
  · next l x hfind =>
    obtain ⟨l', x', heq, hplain⟩ :=
      h.sets index _ (Redis.Keyspace.find?_eq_some_iff.mp hfind).1
    cases heq
    exact hplain t ht
  · cases ht

/-- `revoke_family` and `revoke_all_for_user` revoke what their set lists. -/
theorem exec_revokeIndex (h : IndexInv start now m) (index : TokenIndex) (context : String) :
    (runAt now (revokeIndex start index context) m).2
      = revokedEach start now m (m.members now.millis (index.key start)) := by
  have hmembers : Redis.carryOut now.millis m (.smembers (index.key start))
      = .ok (m, m.members now.millis (index.key start)) := by
    unfold Redis.Keyspace.members
    rcases h.setOrNone index with hset | ⟨l, x, hset⟩ <;> simp only [Redis.carryOut, hset]
  unfold revokeIndex
  rw [Prog.bind_eq, runAt_bind_ok runAt_connect, Prog.bind_eq,
    runAt_bind_ok (runAt_command hmembers _), exec_revokeEach h (h.members_plain index)]

/-- A token in force is found in the set. -/
theorem IndexInv.mem_members (h : IndexInv start now m) {tokenId : String}
    {data : RefreshTokenData} {x : Option ℕ}
    (hfind : m.find? now.millis (tokenKey start tokenId) = some ⟨.text data, x⟩)
    (hdata : data.isRevoked = false) {index : TokenIndex} (hcovers : index.covers data) :
    tokenId ∈ m.members now.millis (index.key start) := by
  have hid := h.plainId_of_text hfind
  obtain ⟨data', x', heq⟩ :=
    h.tokens tokenId _ hid (Redis.Keyspace.find?_eq_some_iff.mp hfind).1
  cases heq
  obtain ⟨l, y, hentry, hmem, hle⟩ := h.listed tokenId data x' hid hfind hdata index hcovers
  have hlive : now.millis < x' := by
    simpa [Redis.Entry.live] using (Redis.Keyspace.find?_eq_some_iff.mp hfind).2
  have hset : m.find? now.millis (index.key start) = some ⟨.set l, some y⟩ := by
    refine Redis.Keyspace.find?_eq_some_iff.mpr ⟨hentry, ?_⟩
    simp only [Redis.Entry.live, decide_eq_true_eq]
    omega
  rw [Redis.Keyspace.members, hset]
  exact hmem

/-! ### Storing -/

section Storing

variable {new : NewToken}

/-- The index a token is listed in, of the two `store` writes. -/
def NewToken.indices (new : NewToken) : List TokenIndex :=
  [.family new.familyId, .user new.userId]

theorem NewToken.mem_indices {index : TokenIndex} :
    index ∈ new.indices ↔ index.covers new.data := by
  cases index <;> simp [NewToken.indices, TokenIndex.covers, NewToken.data, eq_comm]

theorem storedAt_entries_token (hid : PlainId new.tokenId) :
    (storedAt start now m new).entries (tokenKey start new.tokenId)
      = some ⟨.text new.data, some (Redis.deadline now.millis (ttlSecs new.expiresAt now))⟩ := by
  simp only [storedAt, listedAt, Redis.Keyspace.put]
  rw [Function.update_of_ne (tokenKey_ne_indexKey hid _),
    Function.update_of_ne (tokenKey_ne_indexKey hid _), Function.update_self]

theorem storedAt_entries_of_ne {key : String} (htoken : key ≠ tokenKey start new.tokenId)
    (hindex : ∀ index ∈ new.indices, key ≠ index.key start) :
    (storedAt start now m new).entries key = m.entries key := by
  simp only [storedAt, listedAt, Redis.Keyspace.put]
  rw [Function.update_of_ne (hindex _ (by simp [NewToken.indices])),
    Function.update_of_ne (hindex _ (by simp [NewToken.indices])), Function.update_of_ne htoken]

theorem members_put_of_ne {key k : String} {e : Redis.Entry RefreshTokenData} (h : k ≠ key) :
    (m.put key e).members now.millis k = m.members now.millis k := by
  unfold Redis.Keyspace.members
  rw [Redis.Keyspace.find?_put_of_ne _ _ _ h]

/-- Both sets list what they did, and the new token. -/
theorem storedAt_entries_index (hid : PlainId new.tokenId) {index : TokenIndex}
    (hindex : index ∈ new.indices) :
    (storedAt start now m new).entries (index.key start)
      = some ⟨.set (let l := m.members now.millis (index.key start)
          if new.tokenId ∈ l then l else l ++ [new.tokenId]),
          some (Redis.deadline now.millis (ttlSecs new.expiresAt now))⟩ := by
  have hne : ∀ index : TokenIndex, index.key start ≠ tokenKey start new.tokenId :=
    fun index => (tokenKey_ne_indexKey hid index).symm
  have hkeys : TokenIndex.key start (.user new.userId)
      ≠ TokenIndex.key start (.family new.familyId) := TokenIndex.user_key_ne_family_key _ _ _
  simp only [NewToken.indices, List.mem_cons, List.not_mem_nil, or_false] at hindex
  unfold storedAt listedAt
  dsimp only
  rcases hindex with rfl | rfl
  · rw [members_put_of_ne (hne _)]
    simp only [Redis.Keyspace.put, Function.update_of_ne hkeys.symm, Function.update_self]
  · simp only [members_put_of_ne hkeys, members_put_of_ne (hne (.user _))]
    simp only [Redis.Keyspace.put, Function.update_self]

/-- A token that outlives those listed with it leaves all of them listed. -/
theorem IndexInv.after_store (h : IndexInv start now m) (hid : PlainId new.tokenId)
    (hout : Outlives start ⟨now, m⟩ (· = new.tokenId) new) :
    IndexInv start now (storedAt start now m new) := by
  -- the entries of the other tokens stay
  have hother : ∀ t, PlainId t → t ≠ new.tokenId →
      (storedAt start now m new).entries (tokenKey start t)
        = m.entries (tokenKey start t) :=
    fun t ht hne => storedAt_entries_of_ne (fun heq => hne (tokenKey_injective start heq))
      fun index _ => tokenKey_ne_indexKey ht index
  constructor
  · -- a token's key holds a text
    intro t e ht hentry
    by_cases htoken : t = new.tokenId
    · subst htoken
      rw [storedAt_entries_token hid] at hentry
      cases hentry
      exact ⟨_, _, rfl⟩
    · rw [hother t ht htoken] at hentry
      exact h.tokens t e ht hentry
  · -- an index' key holds a set of plain identifiers
    intro index e hentry
    by_cases hindex : index ∈ new.indices
    · rw [storedAt_entries_index hid hindex] at hentry
      cases hentry
      refine ⟨_, _, rfl, fun t ht => ?_⟩
      dsimp only at ht
      split at ht
      · exact h.members_plain index t ht
      · rcases List.mem_append.mp ht with ht | ht
        · exact h.members_plain index t ht
        · rw [List.mem_singleton.mp ht]
          exact hid
    · rw [storedAt_entries_of_ne (tokenKey_ne_indexKey hid index).symm fun i hi heq =>
        hindex (TokenIndex.key_injective start heq ▸ hi)] at hentry
      exact h.sets index e hentry
  · -- a token in force is listed in its sets, and these outlive it
    intro t data x ht hfind hdata index hcovers
    by_cases htoken : t = new.tokenId
    · -- the new token is listed in both sets, which live as long as it does
      subst htoken
      rw [Redis.Keyspace.find?_eq_some_iff, storedAt_entries_token hid] at hfind
      cases hfind.1
      rw [storedAt_entries_index hid (NewToken.mem_indices.mpr hcovers)]
      exact ⟨_, _, rfl, mem_listed _ _, Nat.le_refl _⟩
    · rw [Redis.Keyspace.find?_eq_some_iff, hother t ht htoken,
        ← Redis.Keyspace.find?_eq_some_iff] at hfind
      by_cases hindex : index ∈ new.indices
      · -- the set now lives as long as the new token, and so longer than this one
        rw [storedAt_entries_index hid hindex]
        refine ⟨_, _, rfl, mem_listed_of_mem (h.mem_members hfind hdata hcovers) _, ?_⟩
        refine hout t data x hfind hdata htoken ?_
        have hnew := NewToken.mem_indices.mp hindex
        cases index with
        | family id => exact .inl (hcovers.trans hnew.symm)
        | user id => exact .inr (hcovers.trans hnew.symm)
      · rw [storedAt_entries_of_ne (tokenKey_ne_indexKey hid index).symm fun i hi heq =>
          hindex (TokenIndex.key_injective start heq ▸ hi)]
        exact h.listed t data x ht hfind hdata index hcovers

end Storing

/-! ### Every run -/

/-- What `revoke` leaves: the keys with the token revoked, or the keys as they are. -/
theorem exec_revoke_cases (h : IndexInv start now m) (tokenId : String) :
    (∃ r, runAt now (revoke start tokenId) m = (r, m) ∧ ¬ PlainId tokenId) ∨
      (runAt now (revoke start tokenId) m = (.ok (), revokedAt now m (tokenKey start tokenId)) ∧
        PlainId tokenId) := by
  by_cases hid : PlainId tokenId
  · exact .inr ⟨exec_revoke (h.tokenOrNone hid), hid⟩
  · left
    obtain ⟨index, hkey⟩ := exists_indexKey_of_not_plainId start hid
    rcases h.setOrNone index with hnone | ⟨l, x, hset⟩
    · rw [← hkey] at hnone
      refine ⟨.ok (), ?_, hid⟩
      rw [exec_revoke (.inl hnone)]
      simp only [revokedAt, tokenAt, hnone]
    · rw [← hkey] at hset
      obtain ⟨e, he⟩ := exec_revoke_of_set hset
      exact ⟨.error e, he, hid⟩

/-- **What one action keeps**: the indices list every token that can still be used. -/
theorem IndexInv.step {s : RefreshState} {a : RefreshAction} (h : IndexInv start s.now s.redis)
    (ha : KeepsIndex start s a) :
    IndexInv start (refreshStep start s a).now (refreshStep start s a).redis := by
  cases a with
  -- a deadline that has passed takes entries away, which the invariant allows
  | tick later => exact h.later (s.now.le_latest later)
  | store new =>
    obtain ⟨hid, hout⟩ := ha
    show IndexInv start s.now (runAt s.now (store start new) s.redis).2
    rw [exec_store hid h.setOrNone]
    exact h.after_store hid hout
  | rotate oldTokenId new =>
    obtain ⟨hid, hout⟩ := ha
    show IndexInv start s.now (runAt s.now (rotate start oldTokenId new) s.redis).2
    unfold rotate
    rw [Prog.bind_eq]
    rcases exec_revoke_cases h oldTokenId with ⟨r, hrevoke, hold⟩ | ⟨hrevoke, hold⟩
    · -- the old identifier names no token, so the store is as it was
      cases r with
      | error e =>
        rw [runAt_bind_error hrevoke]
        exact h
      | ok u =>
        rw [runAt_bind_ok hrevoke, exec_store hid h.setOrNone]
        refine h.after_store hid fun t data x hfind hdata hne => ?_
        refine hout t data x hfind hdata ?_
        rintro (heq | rfl)
        · exact hne heq
        · exact hold (h.plainId_of_text hfind)
    · have hrevoked := h.after_revoke hold
      rw [runAt_bind_ok hrevoke, exec_store hid hrevoked.setOrNone]
      refine hrevoked.after_store hid fun t data x hfind hdata hne => ?_
      obtain ⟨hother, hbefore⟩ := unrevoked_of_revokedAt hfind hdata
      refine hout t data x hbefore hdata ?_
      rintro (heq | rfl)
      · exact hne heq
      · exact hother rfl
  -- a single token is revoked, or the identifier names none
  | revoke tokenId =>
    show IndexInv start s.now (runAt s.now (revoke start tokenId) s.redis).2
    rcases exec_revoke_cases h tokenId with ⟨r, hrevoke, -⟩ | ⟨hrevoke, hid⟩
    · rw [hrevoke]
      exact h
    · rw [hrevoke]
      exact h.after_revoke hid
  -- every member of a set is revoked, one after the other
  | revokeFamily familyId =>
    show IndexInv start s.now (runAt s.now (revokeFamily start familyId) s.redis).2
    unfold revokeFamily
    rw [exec_revokeIndex h]
    exact h.after_revokeEach (h.members_plain _)
  | revokeAllForUser userId =>
    show IndexInv start s.now (runAt s.now (revokeAllForUser start userId) s.redis).2
    unfold revokeAllForUser
    rw [exec_revokeIndex h]
    exact h.after_revokeEach (h.members_plain _)

/-- After the tokens of a set were revoked, none of them is in force. -/
theorem IndexInv.revokedAll {s : RefreshState} (h : IndexInv start s.now s.redis)
    (index : TokenIndex) (context : String) :
    RevokedAll start (s.run (revokeIndex start index context)) index := by
  intro tokenId data hget hcovers _
  -- a token in force afterwards was in force before, so it was listed and revoked
  have hafter := h.after_revokeEach (h.members_plain index)
  simp only [RefreshState.run, exec_revokeIndex h] at hget
  by_contra hrevoked
  rw [Bool.not_eq_true] at hrevoked
  have hfind : ∃ x, (revokedEach start s.now s.redis
      (s.redis.members s.now.millis (index.key start))).find? s.now.millis
        (tokenKey start tokenId) = some ⟨.text data, x⟩ := by
    by_cases hid : PlainId tokenId
    · rw [exec_get (hafter.tokenOrNone hid)] at hget
      simp only [Except.ok.injEq, tokenAt] at hget
      split at hget
      · next data' x hfind =>
        cases hget
        exact ⟨x, hfind⟩
      · cases hget
    · obtain ⟨other, hkey⟩ := exists_indexKey_of_not_plainId start hid
      rcases hafter.setOrNone other with hnone | ⟨l, x, hset⟩
      · rw [← hkey] at hnone
        rw [exec_get (.inl hnone)] at hget
        simp only [tokenAt, hnone, Except.ok.injEq] at hget
        cases hget
      · rw [← hkey] at hset
        obtain ⟨e, he⟩ := exec_get_of_set hset
        rw [he] at hget
        cases hget
  obtain ⟨x, hfind⟩ := hfind
  obtain ⟨hnone, hbefore⟩ := unrevoked_of_revokedEach hfind hrevoked
  exact hnone tokenId (h.mem_members hbefore hrevoked hcovers) rfl

/-- **Revocation is complete** in every run from an empty store in which every token that is
stored has a key of its own and outlives the unrevoked tokens of its user and its family. -/
theorem revokedAll_of_reach {init : Clock} {s : RefreshState}
    (h : Reach (refreshStep start) (KeepsIndex start) ⟨init, Redis.Keyspace.empty⟩ s) :
    (∀ userId, RevokedAll start (refreshStep start s (.revokeAllForUser userId)) (.user userId)) ∧
      ∀ familyId,
        RevokedAll start (refreshStep start s (.revokeFamily familyId)) (.family familyId) := by
  have hinv : IndexInv start s.now s.redis :=
    h.invariant (I := fun s => IndexInv start s.now s.redis) (IndexInv.empty start init)
      fun s a hs ha => hs.step ha
  exact ⟨fun userId => hinv.revokedAll (.user userId) _,
    fun familyId => hinv.revokedAll (.family familyId) _⟩

theorem sampleClock_lt (secs : ℕ) :
    1749983400000 + 1000 * (secs % 100000) < 8210266876800000 := by
  omega

/-- A reading of the clock, in seconds after 2025-06-15 10:30. -/
def sampleClock (secs : ℕ) : Clock := ⟨_, sampleClock_lt secs⟩

/-- A token of the user `user:1` that expires that many seconds after 2025-06-15 10:30. -/
def sampleNewToken (tokenId familyId : String) (secs : ℕ) : NewToken :=
  ⟨tokenId, "user:1", familyId, (sampleClock secs).utc, ⟨none, none, none, (sampleClock 0).utc⟩⟩

/-- The store after a run that starts at 10:30. -/
def sampleRefreshRun (actions : List RefreshAction) : RefreshState :=
  actions.foldl (refreshStep "refresh_token") ⟨sampleClock 0, Redis.Keyspace.empty⟩

/-- A token for an hour is stored; eleven seconds later it is in force, and after the tokens of
the user were revoked it is not. -/
theorem revokedAll_of_reach_sample :
    let s := sampleRefreshRun
      [.store (sampleNewToken "a" "family-a" 3600), .tick (sampleClock 11)]
    (runAt s.now (get "refresh_token" "a") s.redis).1
        = .ok (some (sampleNewToken "a" "family-a" 3600).data) ∧
      RevokedAll "refresh_token" (refreshStep "refresh_token" s (.revokeAllForUser "user:1"))
        (.user "user:1") := by
  have hkeeps : KeepsIndex "refresh_token" ⟨sampleClock 0, Redis.Keyspace.empty⟩
      (.store (sampleNewToken "a" "family-a" 3600)) :=
    ⟨by decide, fun tokenId data x hfind => absurd hfind (Option.some_ne_none _).symm⟩
  have hallowed : Allowed (refreshStep "refresh_token") (KeepsIndex "refresh_token")
      ⟨sampleClock 0, Redis.Keyspace.empty⟩
      [.store (sampleNewToken "a" "family-a" 3600), .tick (sampleClock 11)] :=
    ⟨hkeeps, trivial, trivial⟩
  exact ⟨rfl, (revokedAll_of_reach (Reach.foldl .start hallowed)).1 "user:1"⟩

/-- A token for an hour is stored, and one for ten seconds; eleven seconds later the tokens of
the user are revoked. -/
theorem not_forall_revokedAll : ¬ ∀ (start : String) (init : Clock) (s : RefreshState),
    Reach (refreshStep start) (fun _ _ => True) ⟨init, Redis.Keyspace.empty⟩ s →
      (∀ userId,
        RevokedAll start (refreshStep start s (.revokeAllForUser userId)) (.user userId)) ∧
      ∀ familyId,
        RevokedAll start (refreshStep start s (.revokeFamily familyId)) (.family familyId) := by
  intro h
  have hreach : Reach (refreshStep "refresh_token") (fun _ _ => True)
      ⟨sampleClock 0, Redis.Keyspace.empty⟩
      (sampleRefreshRun [.store (sampleNewToken "a" "family-a" 3600),
        .store (sampleNewToken "b" "family-b" 10), .tick (sampleClock 11)]) :=
    Reach.foldl .start (Allowed.of_forall (fun _ _ _ => trivial) _)
  have hrevoked := (h _ _ _ hreach).1 "user:1" "a" (sampleNewToken "a" "family-a" 3600).data
  exact absurd (hrevoked rfl rfl (by decide)) (by decide)

end ActonService
