import ActonService.Accounts.Lifecycle

/-!
# Who logs in

An account that was disabled should not be authenticated until it is enabled, and an account that
is past its time not at all.

Enabling and unlocking are one change of status, to `Active`, and the table allows it from every
state an account can be in after it was disabled.  The login looks at the status alone, and only
`get_account` makes an account past its time an expired one.

## Main definitions

* `IsOut` — the account is disabled or expired wherever it is stored.
* `UnlocksDisabled` — an operation unlocks it.
* `LoginAllowed`, `LogsInExpired` — what a login should mean, and when it does not.

## Main results

* `ne_of_authenticate_after_disable` — **a disabled account that is not unlocked stays out.**
* `loginAllowed_iff` — **a login honours the expiry exactly if the account is not past it.**
-/

namespace ActonService

open Effect Run Tables AccountWorld AccountStorage AccountService

/-- The account is disabled or expired, if it is stored. -/
def IsOut (id : String) (t : AccountTable) : Prop :=
  ∀ row, t.find id = some row → row.status = .disabled ∨ row.status = .expired

/-- The operation unlocks the account while it is disabled or expired, and that is stored. -/
def UnlocksDisabled (id : String) (s : AccountTable × List StatusChange) (a : AccountAction) :
    Prop :=
  a.op = .unlockAccount id ∧
    (∃ row, s.1.find id = some row ∧ (row.status = .disabled ∨ row.status = .expired)) ∧
    (a.inputs 0).fault = .none ∧ TakesEffect (a.inputs 1).fault

/-- What a login at a time should mean of the account it returns. -/
structure LoginAllowed (service : AccountService) (t : AccountTable) (password : String)
    (now : DateTime) (account : Account) : Prop where
  stored : account ∈ t.rows
  active : account.status = .active
  password : ∃ hash, account.passwordHash = some hash ∧
    service.hasher.verify password hash = .ok true
  unexpired : ∀ expiresAt, account.expiresAt = some expiresAt → ¬ expiresAt < now

/-- The account of the address is past its time, and everything else allows the login. -/
def LogsInExpired (X : AccountExterns) (service : AccountService) (t : AccountTable)
    (inputs : ℕ → AccountInput) (email password : String) (now : DateTime) : Prop :=
  ∃ row, Authenticates X service t inputs email password row ∧
    ∃ expiresAt, row.expiresAt = some expiresAt ∧ expiresAt < now

section Proofs

variable {X : AccountExterns} {b : KeyBackend} {service : AccountService}

/-! ### A disabled account -/

/-- After a `disable_account` that has succeeded the account is out: whatever is stored of it is
disabled or expired. -/
theorem isOut_disableAccount {s : AccountTable × List StatusChange} {inputs : ℕ → AccountInput}
    {id reason : String} (h : (run X b (disableAccount id reason) s inputs).1 = .ok ())
    (hnoticed : b = .surrealDb → ∀ e, (inputs 1).fault ≠ .rejected e) :
    IsOut id (run X b (disableAccount id reason) s inputs).2.1 := by
  rw [disableAccount] at h ⊢
  rcases run_changeStatus_cases X b s inputs id .disabled (some reason) (.disabled id reason) with
    ⟨e, he⟩ | ⟨row, -, hrow, -, hrun⟩
  · rw [he] at h
    contradiction
  · obtain ⟨t', ht'⟩ := exists_statusUpdated b id .disabled (some reason) (inputs 1).now s.1
    rw [hrun, AccountStorage.updateStatus, ht'] at h ⊢
    -- the caller is told that the update came through, and on SurrealDB it did
    have hok : (execute X b (inputs 1).fault "Failed to update status: " (some t') s.1).2
        = .ok () := by
      cases hexecute : (execute X b (inputs 1).fault "Failed to update status: " (some t')
        s.1).2 with
      | error e =>
        rw [hexecute] at h
        contradiction
      | ok u => rfl
    show IsOut id (execute X b (inputs 1).fault _ (some t') s.1).1
    rw [execute_fst, if_pos (takesEffect_of_execute_ok hok hnoticed), Option.getD_some]
    intro row' hrow'
    rw [Table.find_update ht', if_pos rfl, hrow, Option.map_some, Option.some.injEq] at hrow'
    rw [← hrow', Account.withStatus_status]
    exact .inl rfl

/-- An update keeps an account out if the row it writes is. -/
theorem IsOut.update {t t' : AccountTable} {id key : String} (h : IsOut id t)
    {f : Account → Account} {hf : ∀ a, (f a).id = a.id} (hupdate : t.update key f hf = some t')
    (hrow : ∀ old, key = id → (old.status = .disabled ∨ old.status = .expired) →
      (f old).status = .disabled ∨ (f old).status = .expired) : IsOut id t' := by
  intro row hfind
  rcases Table.find_update_cases hupdate hfind with ⟨rfl, old, hold, rfl⟩ | ⟨-, hbefore⟩
  · exact hrow old rfl (h old hold)
  · exact h row hbefore

/-- A row that is written back keeps an account out: only an account that waits for its
verification becomes active by it. -/
theorem IsOut.rewrite {t : AccountTable} {id : String} (h : IsOut id t) {op : AccountOp}
    {row account : Account} (hfound : t.find row.id = some row)
    (haccount : AccountRewrite X row op account) (hid : account.id = id) :
    account.status = .disabled ∨ account.status = .expired := by
  have hout := h row (hid ▸ haccount.id_eq ▸ hfound)
  rcases haccount.status_eq with hsame | ⟨hpending, -⟩
  · rw [hsame]
    exact hout
  · rw [hpending] at hout
    simp at hout

/-- From where an account that is out is, the table leads to `Active` and `Disabled` only. -/
theorem active_or_disabled_of_canTransitionTo {status target : AccountStatus}
    (hout : status = .disabled ∨ status = .expired)
    (hcan : status.canTransitionTo target = true) : target = .active ∨ target = .disabled := by
  rcases hout with rfl | rfl
  · cases target <;> simp_all [AccountStatus.canTransitionTo]
  · cases target <;> simp_all [AccountStatus.canTransitionTo]

/-- **An operation keeps a disabled account out**, unless it enables or unlocks it or makes a new
account under its identifier. -/
theorem isOut_step {id : String} {s : AccountTable × List StatusChange} {a : AccountAction}
    (h : IsOut id s.1) (henable : a.op ≠ .enableAccount id)
    (hfresh : ∀ n, (a.inputs n).newId ≠ id) (hunlock : ¬ UnlocksDisabled id s a) :
    IsOut id (service.step X b s a).1 := by
  obtain ⟨t', hs', hstep⟩ := service.step_cases X b s a
  rw [hs']
  show IsOut id t'
  rcases a with ⟨op, inputs⟩
  cases hstep with
  | idle => exact h
  -- a new account has an identifier of its own, and a deleted one is gone
  | created hfree hinsert =>
    intro row hrow
    rw [Table.find_insert hinsert] at hrow
    split at hrow
    · next hid => exact absurd hid (hfresh _)
    · exact h row hrow
  | deleted id' =>
    intro row hrow
    rw [Table.find_erase] at hrow
    split at hrow
    · contradiction
    · exact h row hrow
  -- a login keeps the status
  | loggedIn hupdate => exact h.update hupdate fun old _ hout => hout
  | rewritten hfound haccount hupdate =>
    refine h.update hupdate fun old hid _ => ?_
    rw [Account.rewritten_status]
    exact h.rewrite hfound haccount hid
  -- an expired account is out as well
  | expired hexpires heffect hupdate =>
    refine h.update hupdate fun old _ _ => .inr ?_
    exact Account.withStatus_status _ _ _ _ old
  -- a change of status leads back only by enabling or by unlocking, which are excluded
  | moved hop hread hfound hcan heffect hupdate =>
    refine h.update hupdate fun old hid _ => ?_
    subst hid
    rw [Account.withStatus_status]
    have hout := h _ hfound
    rcases active_or_disabled_of_canTransitionTo hout hcan with rfl | rfl
    · rcases AccountOp.target_eq_active hop with rfl | rfl
      · exact absurd rfl henable
      · exact absurd ⟨rfl, ⟨_, hfound, hout⟩, hread, heffect⟩ hunlock
    · exact .inl rfl

/-- **A disabled account stays out.**  For every store and every `disable_account` that succeeds
(on SurrealDB: whose update the database did not refuse), for every run of operations after it
that does not enable the account, creates no account under its identifier and in which no
operation unlocks it: whoever is authenticated at the end of the run is not the account. -/
theorem ne_of_authenticate_after_disable (X : AccountExterns) (b : KeyBackend)
    (service : AccountService) (s : AccountTable × List StatusChange)
    (inputs : ℕ → AccountInput) (id reason : String)
    (hdisabled : (run X b (disableAccount id reason) s inputs).1 = .ok ())
    (hnoticed : b = .surrealDb → ∀ e, (inputs 1).fault ≠ .rejected e)
    (actions : List AccountAction) (henable : ∀ a ∈ actions, a.op ≠ .enableAccount id)
    (hfresh : ∀ a ∈ actions, ∀ n, (a.inputs n).newId ≠ id)
    (hunlock : Allowed (service.step X b) (fun s a => ¬ UnlocksDisabled id s a)
      (run X b (disableAccount id reason) s inputs).2 actions)
    (email password : String) (inputs' : ℕ → AccountInput) (account : Account)
    (hlogin : (run X b (service.authenticate X email password) (actions.foldl (service.step X b)
      (run X b (disableAccount id reason) s inputs).2) inputs').1 = .ok account) :
    account.id ≠ id := by
  have hstart := isOut_disableAccount hdisabled hnoticed
  generalize (run X b (disableAccount id reason) s inputs).2 = s₁ at hstart hunlock hlogin
  have hout : IsOut id (actions.foldl (service.step X b) s₁).1 := by
    clear hlogin
    -- induction on the run, with the store it starts from
    induction actions generalizing s₁ with
    | nil => exact hstart
    | cons a actions ih =>
      have hfirst : IsOut id (service.step X b s₁ a).1 :=
        isOut_step hstart (henable a List.mem_cons_self) (hfresh a List.mem_cons_self) hunlock.1
      exact ih (fun a' ha' => henable a' (List.mem_cons_of_mem _ ha'))
        (fun a' ha' => hfresh a' (List.mem_cons_of_mem _ ha')) _ hfirst hunlock.2
  rintro rfl
  rcases run_authenticate_cases X b service (actions.foldl (service.step X b) s₁) inputs' email
    password with ⟨⟨e, he⟩, -⟩ | ⟨row, hrow, hrun⟩
  · rw [he] at hlogin
    contradiction
  · rw [hrun, Except.ok.injEq] at hlogin
    subst hlogin
    obtain ⟨hactive, -⟩ := (checkCredentials_ok_iff service row password).mp hrow.credentials
    have hstatus := hout row (Table.find_key (List.mem_of_find?_eq_some hrow.found))
    rw [hactive] at hstatus
    simp at hstatus

/-! ### An expired account -/

/-- **When a login honours the expiry.**  For every store, every run of operations and every
time: whoever is authenticated at its end is stored, active, with the right password and not past
its time exactly if the account of the address is not past its time while everything else allows
the login. -/
theorem loginAllowed_iff (X : AccountExterns) (b : KeyBackend) (service : AccountService)
    (t : AccountTable) (actions : List AccountAction) (email password : String)
    (inputs : ℕ → AccountInput) (now : DateTime) :
    (∀ account, (run X b (service.authenticate X email password)
        (actions.foldl (service.step X b) (t, [])) inputs).1 = .ok account →
          LoginAllowed service (actions.foldl (service.step X b) (t, [])).1 password now account)
      ↔ ¬ LogsInExpired X service (actions.foldl (service.step X b) (t, [])).1 inputs email
        password now := by
  generalize actions.foldl (service.step X b) (t, []) = s
  rcases run_authenticate_cases X b service s inputs email password with
    ⟨⟨e, he⟩, hnone⟩ | ⟨row, hrow, hrun⟩
  · rw [he]
    constructor
    · rintro - ⟨row, hrow, -⟩
      exact hnone row hrow
    · rintro - account haccount
      contradiction
  · obtain ⟨hactive, hpassword⟩ := (checkCredentials_ok_iff service row password).mp
      hrow.credentials
    rw [hrun]
    constructor
    · rintro hallowed ⟨row', hrow', expiresAt, hexpires, hpast⟩
      obtain rfl : row = row' := Option.some.inj (hrow.found.symm.trans hrow'.found)
      exact (hallowed row rfl).unexpired expiresAt hexpires hpast
    · intro hnot account haccount
      cases haccount
      refine ⟨List.mem_of_find?_eq_some hrow.found, hactive, hpassword, ?_⟩
      intro expiresAt hexpires hpast
      exact hnot ⟨row, hrow, expiresAt, hexpires, hpast⟩

end Proofs

/-! ### Samples -/

/-- A store with one account, whose time ends. -/
def sampleEnrolled : AccountTable × List StatusChange :=
  sampleRun [sampleAction (.createAccount (sampleSignup "a@example.com" (some (sampleTime 1))))
    (sampleTime 0) "acct_1"]

/-- Inputs under which no call meets a fault, at one time and with one salt. -/
def sampleAccountCalls : ℕ → AccountInput := fun _ => ⟨sampleTime 0, .none, "acct_2", "salt"⟩

/-- The store after the account of the sample was disabled for abuse. -/
def sampleDisabled : AccountTable × List StatusChange :=
  (run sampleAccountExterns .turso (disableAccount "acct_1" "abuse") sampleEnrolled
    sampleAccountCalls).2

/-- The result of a login with the address and the password the sample account was created with. -/
def sampleAccountLogin (s : AccountTable × List StatusChange) : Except AccountError Account :=
  (run sampleAccountExterns .turso (sampleAccounts.authenticate sampleAccountExterns
    " A@Example.com " "password") s sampleAccountCalls).1

/-- Another account logs in after the account was disabled. -/
theorem ne_of_authenticate_after_disable_sample :
    (run sampleAccountExterns .turso (disableAccount "acct_1" "abuse") sampleEnrolled
        sampleAccountCalls).1 = .ok () ∧
    ∀ account, (run sampleAccountExterns .turso (sampleAccounts.authenticate sampleAccountExterns
      "b@example.com" "password") (sampleAccounts.step sampleAccountExterns .turso sampleDisabled
        ⟨.createAccount (sampleSignup "b@example.com" none), sampleAccountCalls⟩)
      sampleAccountCalls).1
          = .ok account → account.id ≠ "acct_1" := by
  have hdisabled : (run sampleAccountExterns .turso (disableAccount "acct_1" "abuse")
      sampleEnrolled sampleAccountCalls).1 = .ok () := by
    rfl
  refine ⟨hdisabled, fun account haccount => ?_⟩
  refine ne_of_authenticate_after_disable sampleAccountExterns .turso sampleAccounts sampleEnrolled
    sampleAccountCalls "acct_1" "abuse" hdisabled nofun
    [⟨.createAccount (sampleSignup "b@example.com" none), sampleAccountCalls⟩] ?_ ?_ ?_
    "b@example.com" "password" sampleAccountCalls account haccount
  · intro a ha
    rw [List.mem_singleton.mp ha]
    nofun
  · intro a ha n
    rw [List.mem_singleton.mp ha]
    show "acct_2" ≠ "acct_1"
    decide
  · refine ⟨?_, trivial⟩
    rintro ⟨hop, -⟩
    contradiction

/-- A disabled account does not always stay out: it is unlocked. -/
theorem not_forall_ne_of_authenticate_after_disable :
    (run sampleAccountExterns .turso (disableAccount "acct_1" "abuse") sampleEnrolled
        sampleAccountCalls).1 = .ok () ∧
    (sampleAccountLogin sampleDisabled).map Account.id
      = .error (.accountInactive .disabled "abuse") ∧
    (sampleAccountLogin (sampleAccounts.step sampleAccountExterns .turso sampleDisabled
      ⟨.unlockAccount "acct_1", sampleAccountCalls⟩)).map Account.id = .ok "acct_1" := by
  refine ⟨rfl, rfl, rfl⟩

/-- A login does not always honour the expiry. -/
theorem not_forall_loginAllowed :
    (sampleAccountLogin sampleEnrolled).map (fun account => (account.id, account.expiresAt))
      = .ok ("acct_1", some (sampleTime 1)) ∧
    ¬ ∀ account, sampleAccountLogin sampleEnrolled = .ok account →
      LoginAllowed sampleAccounts sampleEnrolled.1 "password" (sampleTime 2) account := by
  have hlogin : (sampleAccountLogin sampleEnrolled).map
      (fun account => (account.id, account.expiresAt))
      = .ok ("acct_1", some (sampleTime 1)) := by
    rfl
  refine ⟨hlogin, fun hallowed => ?_⟩
  cases hresult : sampleAccountLogin sampleEnrolled with
  | error e =>
    rw [hresult] at hlogin
    contradiction
  | ok account =>
    rw [hresult] at hlogin
    have hexpires : account.expiresAt = some (sampleTime 1) :=
      congrArg Prod.snd (Except.ok.inj hlogin)
    exact (hallowed account hresult).unexpired _ hexpires (by decide)

end ActonService
