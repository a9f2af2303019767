import ActonService.Accounts.Invariants

/-!
# Whose address was verified

A verified address should be the one that was verified, and an account that waits for its
verification should not become active another way than by verifying it or being enabled.
`update_account` sets a new address and keeps the verification of the old one.  `unlock_account`
makes every account active whose status allows it.

## Main definitions

* `AddressNote` — what has happened to an account since it was created.
* `Vouched` — the verification and the first activation of an account are accounted for.
* `ReusesVerification`, `UnlocksUnverified` — the two ways around the verification.

## Main results

* `vouched_of_run` — **every account is vouched for after a run that takes neither way.**
-/

namespace ActonService

open Effect Run Tables AccountWorld AccountStorage AccountService

/-! ### Notes -/

/-- The account whose address the operation verifies, if it is one that does. -/
def AccountOp.verified : AccountOp → Option String
  | .verifyEmail id => some id
  | _ => none

/-- What has happened to a stored account, as far as the verification of its address goes. -/
structure AddressNote where
  /-- The account was created with a verification requirement, by its request or by the service. -/
  required : Bool
  /-- Its address has changed since it was created. -/
  changed : Bool
  /-- `verify_email` has verified it since its address was set. -/
  verified : Bool
  /-- What made it active for the first time. -/
  activatedBy : Option AccountOp

section Notes

variable (service : AccountService)

/-- The note of an account that was created. -/
def createdNote (row : Account) : AccountOp → Option AddressNote
  | .createAccount data => some
    { required := data.requireEmailVerification.getD service.config.requireEmailVerification
      changed := false
      verified := false
      activatedBy := if row.status = .active then some (.createAccount data) else none }
  | _ => none

/-- The note after an operation that has turned one row into another. -/
def AddressNote.after (op : AccountOp) (old row : Account) (note : AddressNote) : AddressNote :=
  { note with
    changed := note.changed || decide (old.email ≠ row.email)
    verified := decide (old.email = row.email) &&
      (note.verified || (decide (op.verified = some row.id) && row.emailVerified))
    activatedBy := note.activatedBy.or
      (if old.status ≠ .active ∧ row.status = .active then some op else none) }

/-- The note of an account after an operation, from what was stored of it before and after. -/
def noteAfter (op : AccountOp) (note : Option AddressNote) :
    Option Account → Option Account → Option AddressNote
  | _, none => none
  | none, some row => createdNote service row op
  | some old, some row => note.map (.after op old row)

/-- The store with the changes of status, and a note for each account that was created. -/
abbrev NotedStore := (AccountTable × List StatusChange) × (String → Option AddressNote)

/-- The state after one more operation, with the notes of the accounts it has created or whose
address it has verified. -/
def AccountService.notedStep (X : AccountExterns) (b : KeyBackend) (s : NotedStore)
    (a : AccountAction) : NotedStore :=
  let s' := service.step X b s.1 a
  (s', fun id => noteAfter service a.op (s.2 id) (s.1.1.find id) (s'.1.find id))

end Notes

/-- The verification and the first activation of an account are accounted for. -/
structure Vouched (note : AddressNote) (row : Account) : Prop where
  address : row.emailVerified = true →
    note.required = false ∧ note.changed = false ∨ note.verified = true
  activation : note.required = true → ∀ op, note.activatedBy = some op →
    op = .verifyEmail row.id ∨ op = .enableAccount row.id

/-- The operation sets a new address of an account whose address is verified. -/
def ReusesVerification (X : AccountExterns) (s : NotedStore) (a : AccountAction) : Prop :=
  ∃ id data raw row, a.op = .updateAccount id data ∧ data.email = some raw ∧
    s.1.1.find id = some row ∧ row.emailVerified = true ∧ normalizeEmail X raw ≠ row.email

/-- The operation unlocks an account that was created with a verification requirement and has
never been active. -/
def UnlocksUnverified (s : NotedStore) (a : AccountAction) : Prop :=
  ∃ id row note, a.op = .unlockAccount id ∧ s.1.1.find id = some row ∧ s.2 id = some note ∧
    note.required = true ∧ note.activatedBy = none

section Proofs

variable {X : AccountExterns} {b : KeyBackend} {service : AccountService} {note : AddressNote}
  {old row : Account} {op : AccountOp}

/-- **What keeps an account vouched for**: that its address is still the one that was verified, or
is verified now, and that it does not become active in another way. -/
theorem Vouched.after (h : Vouched note old) (hid : row.id = old.id)
    (haddress : row.emailVerified = true → row.email = old.email ∧
      (old.emailVerified = true ∨ op.verified = some row.id))
    (hactive : old.status ≠ .active → row.status = .active → note.required = true →
      note.activatedBy = none → op = .verifyEmail row.id ∨ op = .enableAccount row.id) :
    Vouched (note.after op old row) row := by
  refine ⟨fun hverified => ?_, fun hrequired first hfirst => ?_⟩
  · obtain ⟨hemail, hold | hop⟩ := haddress hverified
    · rcases h.address hold with ⟨hrequired, hchanged⟩ | hnoted
      · exact .inl ⟨hrequired, by simp [AddressNote.after, hchanged, hemail]⟩
      · exact .inr (by simp [AddressNote.after, hnoted, hemail])
    · exact .inr (by simp [AddressNote.after, hemail, hop, hverified])
  · -- the first activation is the one noted before, or this operation
    rw [AddressNote.after] at hfirst hrequired
    cases hbefore : note.activatedBy with
    | some op' =>
      rw [hbefore, Option.some_or] at hfirst
      rw [hid, ← Option.some.inj hfirst]
      exact h.activation hrequired op' hbefore
    | none =>
      rw [hbefore, Option.none_or] at hfirst
      split at hfirst
      · next hbecomes =>
        rw [← Option.some.inj hfirst]
        exact hactive hbecomes.1 hbecomes.2 hrequired hbefore
      · contradiction

/-- What is noted of an account that was just created vouches for it: it is verified only if no
verification was required, and otherwise waits for one. -/
theorem vouched_created {data : CreateAccount} {email : String} {passwordHash : Option String}
    {id : String} {now : DateTime} :
    ∃ note, createdNote service
        (b.accountRow X (service.newAccount data email passwordHash id now)) (.createAccount data)
        = some note ∧
      Vouched note (b.accountRow X (service.newAccount data email passwordHash id now)) := by
  refine ⟨_, rfl, fun hverified => .inl ⟨?_, rfl⟩, fun hrequired first hfirst => ?_⟩
  · simpa [KeyBackend.accountRow, newAccount] using hverified
  · have hpending : (b.accountRow X (service.newAccount data email passwordHash id now)).status
        = .pendingVerification := if_pos hrequired
    simp [hpending] at hfirst

/-- Only the verification of an account changes whether it is verified. -/
theorem AccountRewrite.emailVerified_cases {account : Account}
    (h : AccountRewrite X row op account) :
    account.emailVerified = row.emailVerified ∨ op.verified = some row.id := by
  cases h with
  | updateAccount data email now hemail => exact .inl rfl
  | changePassword newPassword hash changedAt updatedAt => exact .inl rfl
  | verifyEmail verifiedAt updatedAt hverified => exact .inr rfl

/-- An account that is written back is still at its address, but for an update that sets another
one. -/
theorem AccountRewrite.email_cases {account : Account} (h : AccountRewrite X row op account) :
    account.email = row.email ∨ ∃ data raw, op = .updateAccount row.id data ∧
      data.email = some raw ∧ account.email = normalizeEmail X raw := by
  cases h with
  | verifyEmail verifiedAt updatedAt hverified => exact .inl rfl
  | changePassword newPassword hash changedAt updatedAt => exact .inl rfl
  | updateAccount data email now hemail =>
    rcases hemail with hsame | ⟨raw, hraw, hnew⟩
    · exact .inl hsame
    · exact .inr ⟨data, raw, rfl, hraw, hnew⟩

/-- **An operation keeps a row vouched for** if it takes neither way around the verification. -/
theorem vouched_rowStep {s : NotedStore} {a : AccountAction} {id : String} (hid : row.id = id)
    (hstored : ∀ row, s.1.1.find id = some row → ∃ note, s.2 id = some note ∧ Vouched note row)
    (h : RowStep X b service a.op (s.1.1.find id) row) (hreuses : ¬ ReusesVerification X s a)
    (hunlocks : ¬ UnlocksUnverified s a) :
    ∃ note, noteAfter service a.op (s.2 id) (s.1.1.find id) (some row) = some note ∧
      Vouched note row := by
  rcases a with ⟨op, inputs⟩
  generalize hfind : s.1.1.find id = found at h hstored ⊢
  cases h with
  -- a new account has its own note
  | created hop =>
    cases hop
    exact vouched_created
  -- the row stays as it is, and so do its columns
  | kept row =>
    obtain ⟨note, hnote, hvouched⟩ := hstored row rfl
    refine ⟨note.after op row row, by rw [hnote]; rfl, hvouched.after rfl ?_ ?_⟩
    · exact fun hverified => ⟨rfl, .inl hverified⟩
    · exact fun hne hactive => absurd hactive hne
  -- a login writes its time only
  | loggedIn old now =>
    obtain ⟨note, hnote, hvouched⟩ := hstored old rfl
    refine ⟨note.after op old _, by rw [hnote]; rfl, hvouched.after rfl ?_ ?_⟩
    · exact fun hverified => ⟨rfl, .inl hverified⟩
    · exact fun hne hactive => absurd hactive hne
  | @moved old status reason now hpending hactive =>
    obtain ⟨note, hnote, hvouched⟩ := hstored old rfl
    refine ⟨note.after op old _, by rw [hnote]; rfl, hvouched.after ?_ ?_ ?_⟩
    · exact Account.withStatus_id _ _ _ _ _
    · rw [Account.withStatus_email, Account.withStatus_emailVerified]
      exact fun hverified => ⟨rfl, .inl hverified⟩
    · rw [Account.withStatus_status, Account.withStatus_id] at *
      -- only enabling and unlocking make an account active by its status alone
      intro _ hstatus hrequired hnever
      rcases AccountOp.target_eq_active (hactive hstatus) with rfl | rfl
      · exact .inr rfl
      · exact absurd ⟨_, old, note, rfl, hid ▸ hfind, hid ▸ hnote, hrequired, hnever⟩ hunlocks
  -- an update, a new password or a verification: of these, only the last one verifies an
  -- address
  | @rewritten old account now haccount =>
    obtain ⟨note, hnote, hvouched⟩ := hstored old rfl
    rw [Account.rewritten_id] at hid
    refine ⟨note.after op old _, by rw [hnote]; rfl, hvouched.after ?_ ?_ ?_⟩
    · exact Account.rewritten_id _ _ _ _ _
    · rw [Account.rewritten_email, Account.rewritten_emailVerified, Account.rewritten_id]
      intro hverified
      have hbefore : old.emailVerified = true ∨ op.verified = some old.id := by
        rcases haccount.emailVerified_cases with hsame | hop
        · exact .inl (hsame.symm.trans hverified)
        · exact .inr hop
      refine ⟨?_, hbefore⟩
      -- a new address of a verified account is what the condition excludes
      rcases haccount.email_cases with hsame | ⟨data, raw, rfl, hraw, hnew⟩
      · exact hsame
      · by_contra hne
        rcases hbefore with hold | hop
        · exact hreuses ⟨old.id, data, raw, old, rfl, hraw, hid ▸ hfind, hold, hnew ▸ hne⟩
        · contradiction
    · rw [Account.rewritten_status, Account.rewritten_id]
      intro hne hstatus _ _
      cases haccount with
      | updateAccount data email now hemail => exact absurd hstatus hne
      | changePassword newPassword hash changedAt updatedAt => exact absurd hstatus hne
      | verifyEmail verifiedAt updatedAt hverified => exact .inl rfl

/-- **Verification belongs to the address.**  In every store a run of operations reaches from the
empty one, whatever their calls meet: if no update sets a new address of an account whose address
is verified, and no unlocking meets an account that was created with a verification requirement
and has never been active, then every stored account whose address is verified was created without
the requirement and still has its first address, or was verified since its address was set; and
one created with the requirement became active for the first time by its verification or by being
enabled. -/
theorem vouched_of_run (X : AccountExterns) (b : KeyBackend) (service : AccountService)
    (actions : List AccountAction)
    (h : Allowed (service.notedStep X b)
      (fun s a => ¬ ReusesVerification X s a ∧ ¬ UnlocksUnverified s a)
      ((Table.empty, []), fun _ => none) actions) (id : String) (row : Account)
    (hrow : (actions.foldl (service.notedStep X b) ((Table.empty, []), fun _ => none)).1.1.find id
      = some row) :
    ∃ note, (actions.foldl (service.notedStep X b) ((Table.empty, []), fun _ => none)).2 id
      = some note ∧ Vouched note row := by
  refine (Reach.foldl .start h).invariant (I := fun s => ∀ id row, s.1.1.find id = some row →
    ∃ note, s.2 id = some note ∧ Vouched note row) ?_ ?_ id row hrow
  · exact fun id row hrow => nomatch hrow
  · intro s a hstored hallowed id row hrow
    obtain ⟨t', hs', hstep⟩ := service.step_cases X b s.1 a
    have htable : (service.notedStep X b s a).1.1 = t' := congrArg Prod.fst hs'
    rw [htable] at hrow
    show ∃ note, noteAfter service a.op (s.2 id) (s.1.1.find id)
      ((service.notedStep X b s a).1.1.find id) = some note ∧ Vouched note row
    rw [htable, hrow]
    exact vouched_rowStep (Table.key_of_find hrow) (hstored id) (hstep.rowStep hrow) hallowed.1
      hallowed.2

end Proofs

/-! ### Samples -/

/-- The store and the notes after a run. -/
def sampleNoted (actions : List AccountAction) : NotedStore :=
  actions.foldl (sampleAccounts.notedStep sampleAccountExterns .turso)
    ((Table.empty, []), fun _ => none)

/-- An operation that creates an account whose address has to be verified. -/
def sampleUnverified : AccountAction :=
  sampleAction (.createAccount ⟨"a@example.com", none, some "password", [], none, none, none⟩)
    (sampleTime 0) "acct_1"

/-- An operation that gives the account another address. -/
def sampleNewAddress : AccountOp :=
  .updateAccount "acct_1" ⟨some "b@example.com", none, none, none, none⟩

/-- The address of an account is changed before it is verified. -/
def sampleVerifiedLater : List AccountAction :=
  [sampleUnverified, sampleAction sampleNewAddress (sampleTime 1) "",
    sampleAction (.verifyEmail "acct_1") (sampleTime 2) ""]

theorem vouched_of_run_sample :
    ((sampleNoted sampleVerifiedLater).1.1.find "acct_1").map
        (fun row => (row.email, row.status, row.emailVerified))
      = some ("b@example.com", .active, true) ∧
    ∀ row, (sampleNoted sampleVerifiedLater).1.1.find "acct_1" = some row →
      ∃ note, (sampleNoted sampleVerifiedLater).2 "acct_1" = some note ∧ Vouched note row := by
  have hunverified : ((sampleNoted [sampleUnverified]).1.1.find "acct_1").map Account.emailVerified
      = some false := by
    rfl
  refine ⟨rfl, vouched_of_run sampleAccountExterns .turso sampleAccounts sampleVerifiedLater ?_ _⟩
  refine ⟨⟨?_, ?_⟩, ⟨?_, ?_⟩, ⟨?_, ?_⟩, trivial⟩
  · rintro ⟨id, data, raw, row, hop, -⟩
    contradiction
  · rintro ⟨id, row, note, hop, -⟩
    contradiction
  · rintro ⟨id, data, raw, row, hop, -, hrow, hverified, -⟩
    cases hop
    have hsome : (some row).map Account.emailVerified = some false := hrow ▸ hunverified
    rw [Option.map_some, hverified] at hsome
    contradiction
  · rintro ⟨id, row, note, hop, -⟩
    contradiction
  · rintro ⟨id, data, raw, row, hop, -⟩
    contradiction
  · rintro ⟨id, row, note, hop, -⟩
    contradiction

/-- A new address counts as verified, and unlocking makes an account active that has never been
verified. -/
theorem not_forall_vouched :
    (∃ note row, (sampleNoted [sampleAction (.createAccount (sampleSignup "a@example.com" none))
        (sampleTime 0) "acct_1", sampleAction sampleNewAddress (sampleTime 1) ""]).2 "acct_1"
          = some note ∧
      (sampleNoted [sampleAction (.createAccount (sampleSignup "a@example.com" none))
        (sampleTime 0) "acct_1", sampleAction sampleNewAddress (sampleTime 1) ""]).1.1.find "acct_1"
          = some row ∧ ¬ Vouched note row) ∧
    ∃ note row, (sampleNoted [sampleUnverified, sampleAction (.unlockAccount "acct_1")
        (sampleTime 1) ""]).2 "acct_1" = some note ∧
      (sampleNoted [sampleUnverified, sampleAction (.unlockAccount "acct_1")
        (sampleTime 1) ""]).1.1.find "acct_1" = some row ∧ ¬ Vouched note row := by
  refine ⟨⟨_, _, rfl, rfl, fun h => ?_⟩, ⟨_, _, rfl, rfl, fun h => ?_⟩⟩
  · have haddress := h.address rfl
    revert haddress
    decide
  · rcases h.activation rfl (.unlockAccount "acct_1") rfl with hop | hop
    · contradiction
    · contradiction

end ActonService
