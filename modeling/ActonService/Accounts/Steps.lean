import ActonService.Accounts.Service

/-!
# What an operation does to the stored accounts

Run alone, an operation of the account service writes to the table at most once, behind what it
has read.

## Main definitions

* `AccountWorld.run` — an operation run alone.
* `AccountStep` — what an operation can do to the table.

## Main results

* `run_changeStatus_cases` — what a checked change of status comes to.
* `run_getAccount_of_expires` — when reading an account expires it.
* `accountStep_run` — **every operation does one of the things listed.**
-/

namespace ActonService

open Effect Tables AccountProg AccountService

namespace AccountWorld

/-- The table with a change of it recorded. -/
def record (s : AccountTable × List StatusChange) (t : AccountTable) :
    AccountTable × List StatusChange :=
  (t, s.2 ++ statusChanges s.1 t)

@[simp] theorem record_self (s : AccountTable × List StatusChange) : record s s.1 = s := by
  simp [record]

section Run

variable {α β : Type} (X : AccountExterns) (b : KeyBackend)

/-- A program run alone on a store, with an input for each of its calls and the changes of status
noted. -/
def run (p : AccountProg α) (s : AccountTable × List StatusChange) (inputs : ℕ → AccountInput) :
    Except AccountError α × (AccountTable × List StatusChange) :=
  exec (answer X b) 0 p s inputs

variable {X b} {s : AccountTable × List StatusChange} {inputs : ℕ → AccountInput}

/-- The inputs that are left for the calls behind the first one. -/
def later (inputs : ℕ → AccountInput) : ℕ → AccountInput := fun n => inputs (n + 1)

@[simp] theorem later_apply (inputs : ℕ → AccountInput) (n : ℕ) :
    later inputs n = inputs (n + 1) := rfl

@[simp] theorem run_ret (a : α) : run X b (.ret a) s inputs = (.ok a, s) := rfl

@[simp] theorem run_fail (e : AccountError) :
    run X b (.fail e : AccountProg α) s inputs = (.error e, s) := rfl

/-- A call is answered, and what it did to the table is recorded. -/
theorem run_call (c : AccountCall) (k : c.Answer → AccountProg α) :
    run X b (.call c k) s inputs
      = run X b (k (respond X b s.1 0 (inputs 0) c).2)
        (record s (respond X b s.1 0 (inputs 0) c).1) (later inputs) := rfl

/-! ### Calls that write nothing -/

@[simp] theorem run_utcNow (f : DateTime → AccountProg α) :
    run X b (utcNow.bind f) s inputs = run X b (f (inputs 0).now) s (later inputs) := by
  show run X b (f (inputs 0).now) (record s s.1) (later inputs) = _
  rw [record_self]

@[simp] theorem run_newId (f : String → AccountProg α) :
    run X b (newId.bind f) s inputs = run X b (f (inputs 0).newId) s (later inputs) := by
  show run X b (f (inputs 0).newId) (record s s.1) (later inputs) = _
  rw [record_self]

@[simp] theorem run_salt (f : String → AccountProg α) :
    run X b (salt.bind f) s inputs = run X b (f (inputs 0).salt) s (later inputs) := by
  show run X b (f (inputs 0).salt) (record s s.1) (later inputs) = _
  rw [record_self]

@[simp] theorem run_notify (event : AccountEvent) (f : Unit → AccountProg α) :
    run X b ((notify event).bind f) s inputs = run X b (f ()) s (later inputs) := by
  show run X b (f ()) (record s s.1) (later inputs) = _
  rw [record_self]

@[simp] theorem run_notify_last (event : AccountEvent) :
    run X b (notify event) s inputs = (.ok (), s) := by
  show (Except.ok (), record s s.1) = _
  rw [record_self]

theorem run_ensure_cases (ok : Bool) (e : AccountError) (f : Unit → AccountProg α) :
    run X b ((ensure ok e).bind f) s inputs = (.error e, s) ∨
      ok = true ∧ run X b ((ensure ok e).bind f) s inputs = run X b (f ()) s inputs := by
  cases ok with
  | false => exact .inl rfl
  | true => exact .inr ⟨rfl, rfl⟩

theorem run_call_of_table {c : AccountCall} {k : c.Answer → AccountProg α}
    (htable : (respond X b s.1 0 (inputs 0) c).1 = s.1) :
    run X b (.call c k) s inputs
      = run X b (k (respond X b s.1 0 (inputs 0) c).2) s (later inputs) := by
  rw [run_call, htable, record_self]

/-- A call that reads one row, and what comes behind it. -/
theorem run_readOne_cases {c : AccountCall} {k : c.Answer → AccountProg (Option Account)}
    {what : String} {found : Option Account} (htable : (respond X b s.1 0 (inputs 0) c).1 = s.1)
    (hk : k (respond X b s.1 0 (inputs 0) c).2
      = ofStorage (AccountStorage.readOne b (inputs 0).fault what found))
    (f : Option Account → AccountProg α) :
    (inputs 0).fault ≠ .none ∧ (∃ e, run X b ((Prog.call c k).bind f) s inputs = (.error e, s)) ∨
      (inputs 0).fault = .none ∧
        run X b ((Prog.call c k).bind f) s inputs = run X b (f found) s (later inputs) := by
  rw [Prog.call_bind, run_call_of_table htable, hk]
  cases (inputs 0).fault with
  | none => exact .inr ⟨rfl, rfl⟩
  | unreachable e => exact .inl ⟨nofun, _, rfl⟩
  | lostReply e => exact .inl ⟨nofun, _, rfl⟩
  | rejected e => exact .inl ⟨nofun, _, rfl⟩
  | cut kept e => exact .inl ⟨nofun, _, rfl⟩

variable (X b s inputs) in
theorem run_getById_cases (id : String) (f : Option Account → AccountProg α) :
    (inputs 0).fault ≠ .none ∧ (∃ e, run X b ((getById id).bind f) s inputs = (.error e, s)) ∨
      (inputs 0).fault = .none ∧
        run X b ((getById id).bind f) s inputs = run X b (f (s.1.find id)) s (later inputs) :=
  run_readOne_cases rfl rfl f

variable (X b s inputs) in
theorem run_getByEmail_cases (email : String) (f : Option Account → AccountProg α) :
    (inputs 0).fault ≠ .none ∧
        (∃ e, run X b ((getByEmail email).bind f) s inputs = (.error e, s)) ∨
      (inputs 0).fault = .none ∧
        run X b ((getByEmail email).bind f) s inputs
          = run X b (f (s.1.rows.find? fun a => a.email = email)) s (later inputs) :=
  run_readOne_cases rfl rfl f

variable (X b s inputs) in
theorem run_getByUsername_cases (username : String) (f : Option Account → AccountProg α) :
    (inputs 0).fault ≠ .none ∧
        (∃ e, run X b ((getByUsername username).bind f) s inputs = (.error e, s)) ∨
      (inputs 0).fault = .none ∧
        run X b ((getByUsername username).bind f) s inputs
          = run X b (f (s.1.rows.find? fun a => a.username = some username)) s (later inputs) :=
  run_readOne_cases rfl rfl f

variable (X b s inputs) in
/-- **The account an operation starts from** is the one stored. -/
theorem run_requireAccount_cases (id : String) (f : Account → AccountProg α) :
    (∃ e, run X b ((requireAccount id).bind f) s inputs = (.error e, s)) ∨
      ∃ row, (inputs 0).fault = .none ∧ s.1.find id = some row ∧
        run X b ((requireAccount id).bind f) s inputs = run X b (f row) s (later inputs) := by
  rw [requireAccount, Prog.bind_eq, Prog.bind_assoc]
  rcases run_getById_cases X b s inputs id fun account => (orNotFound id account).bind f with
    ⟨-, e, he⟩ | ⟨hfault, hrun⟩
  · exact .inl ⟨e, he⟩
  · rw [hrun]
    cases hfind : s.1.find id with
    | none => exact .inl ⟨_, rfl⟩
    | some row => exact .inr ⟨row, hfault, rfl, rfl⟩

/-! ### Programs that only read -/

variable (X b) in
/-- The program leaves the table alone: it ends with an error, or what comes behind it runs on
the inputs left and a result of which `Q` holds. -/
def Reads (Q : AccountTable → α → Prop) (p : AccountProg α) : Prop :=
  ∀ (β : Type) (f : α → AccountProg β) (s : AccountTable × List StatusChange)
    (inputs : ℕ → AccountInput),
    (∃ e, run X b (p.bind f) s inputs = (.error e, s)) ∨
      ∃ a used, Q s.1 a ∧
        run X b (p.bind f) s inputs = run X b (f a) s fun n => inputs (n + used)

variable {Q Q' : AccountTable → α → Prop} {R : AccountTable → β → Prop}

theorem Reads.ret {a : α} (h : ∀ t, Q t a) : Reads X b Q (.ret a) :=
  fun _ _ s _ => .inr ⟨a, 0, h s.1, rfl⟩

theorem Reads.fail (e : AccountError) : Reads X b Q (.fail e) := fun _ _ _ _ => .inl ⟨e, rfl⟩

theorem Reads.ofExcept {r : Except AccountError α} (h : ∀ a, r = .ok a → ∀ t, Q t a) :
    Reads X b Q (.ofExcept r) := by
  cases r with
  | error e => exact .fail e
  | ok a => exact .ret (h a rfl)

theorem Reads.ensure {ok : Bool} {Q : AccountTable → Unit → Prop} (e : AccountError)
    (h : ok = true → ∀ t, Q t ()) : Reads X b Q (ensure ok e) := by
  cases ok with
  | false => exact .fail e
  | true => exact .ret (h rfl)

theorem Reads.mono {p : AccountProg α} (hp : Reads X b Q p) (h : ∀ t a, Q t a → Q' t a) :
    Reads X b Q' p := by
  intro β f s inputs
  rcases hp β f s inputs with he | ⟨a, used, hQ, hrun⟩
  · exact .inl he
  · exact .inr ⟨a, used, h s.1 a hQ, hrun⟩

/-- A program behind one that only reads may rest on what that one has found. -/
theorem Reads.bind {p : AccountProg α} {f : α → AccountProg β} (hp : Reads X b Q p)
    (hf : ∀ a, Reads X b (fun t c => Q t a → R t c) (f a)) : Reads X b R (p.bind f) := by
  intro γ g s inputs
  rw [Prog.bind_assoc]
  rcases hp γ (fun a => (f a).bind g) s inputs with ⟨e, he⟩ | ⟨a, used, hQ, h⟩
  · exact .inl ⟨e, he⟩
  · rw [h]
    rcases hf a γ g s fun n => inputs (n + used) with ⟨e, he⟩ | ⟨c, used', hR, h'⟩
    · exact .inl ⟨e, he⟩
    · refine .inr ⟨c, used' + used, hR hQ, ?_⟩
      rw [h']
      simp only [Nat.add_assoc]

theorem reads_getByEmail (email : String) :
    Reads X b (fun t row => row = t.rows.find? fun a => a.email = email) (getByEmail email) := by
  intro β f s inputs
  rcases run_getByEmail_cases X b s inputs email f with ⟨-, he⟩ | ⟨-, hrun⟩
  · exact .inl he
  · exact .inr ⟨_, 1, rfl, hrun⟩

theorem reads_getByUsername (username : String) :
    Reads X b (fun t row => row = t.rows.find? fun a => a.username = some username)
      (getByUsername username) := by
  intro β f s inputs
  rcases run_getByUsername_cases X b s inputs username f with ⟨-, he⟩ | ⟨-, hrun⟩
  · exact .inl he
  · exact .inr ⟨_, 1, rfl, hrun⟩

variable (X b) in
/-- The program makes calls that read, and leaves the table alone. -/
abbrev ReadsOnly (p : AccountProg α) : Prop := Reads X b (fun _ _ => True) p

theorem ReadsOnly.ret (a : α) : ReadsOnly X b (.ret a) := Reads.ret fun _ => trivial

theorem ReadsOnly.ofStorage (r : Except ServiceError α) : ReadsOnly X b (ofStorage r) :=
  Reads.ofExcept fun _ _ _ => trivial

theorem ReadsOnly.call {c : AccountCall} {k : c.Answer → AccountProg α}
    (htable : ∀ t input, (respond X b t 0 input c).1 = t)
    (hk : ∀ answer, ReadsOnly X b (k answer)) : ReadsOnly X b (.call c k) := by
  intro β f s inputs
  rw [Prog.call_bind, run_call_of_table (htable _ _)]
  rcases hk (respond X b s.1 0 (inputs 0) c).2 β f s (later inputs) with
    ⟨e, he⟩ | ⟨a, used, hQ, h⟩
  · exact .inl ⟨e, he⟩
  · exact .inr ⟨a, used + 1, hQ, h⟩

theorem ReadsOnly.bind {p : AccountProg α} {f : α → AccountProg β} (hp : ReadsOnly X b p)
    (hf : ∀ a, ReadsOnly X b (f a)) : ReadsOnly X b (p.bind f) :=
  Reads.bind hp fun a => (hf a).mono fun _ _ _ _ => trivial

theorem reads_notify (event : AccountEvent) : ReadsOnly X b (notify event) :=
  .call (fun _ _ => rfl) .ret

theorem reads_checkEmail (email : String) : ReadsOnly X b (checkEmail email) :=
  Reads.ensure _ fun _ _ => trivial

theorem reads_hashPassword (service : AccountService) (password : String) :
    ReadsOnly X b (service.hashPassword password) :=
  .bind (.call (fun _ _ => rfl) .ret) fun _ => Reads.ofExcept fun _ _ _ => trivial

theorem reads_hashNewPassword (service : AccountService) (password : Option String) :
    ReadsOnly X b (service.hashNewPassword password) := by
  cases password with
  | none => exact .ret none
  | some password => exact .bind (reads_hashPassword service password) fun hash => .ret (some hash)

/-- No stored account has the username, if that is checked. -/
def UsernameFree (service : AccountService) (username : Option String) (t : AccountTable) : Prop :=
  service.config.uniqueUsernames = true → ∀ u, username = some u →
    ∀ row ∈ t.rows, row.username ≠ some u

/-- **A username that passes the check is free.** -/
theorem reads_checkUsername (service : AccountService) (username : Option String) :
    Reads X b (fun t _ => UsernameFree service username t) (service.checkUsername username) := by
  cases username with
  | none =>
    refine .ret fun t _ u hu => ?_
    contradiction
  | some username =>
    rw [checkUsername]
    split
    · refine .bind (reads_getByUsername username) fun existing => .ensure _ ?_
      intro hnone t hexisting _ u hu row hrow heq
      cases hu
      rw [Option.isNone_iff_eq_none] at hnone
      rw [hnone, eq_comm, List.find?_eq_none] at hexisting
      exact hexisting row hrow (decide_eq_true heq)
    · next hunique => exact .ret fun t h => absurd h hunique

/-- **An address that passes the check of `update_account`** is the old one or a valid new one
that no other account has. -/
theorem reads_updatedEmail (account : Account) (email : Option String) :
    Reads X b (fun _ new => new = account.email ∨
      ∃ raw, email = some raw ∧ new = normalizeEmail X raw) (updatedEmail X account email) := by
  cases email with
  | none => exact .ret fun _ => .inl rfl
  | some email =>
    refine .bind (reads_checkEmail _) fun _ => ?_
    refine .bind (reads_getByEmail _) fun existing => ?_
    cases existing with
    | none => exact .ret fun t _ _ => .inr ⟨email, rfl, rfl⟩
    | some existing =>
      refine .bind (Q := fun _ _ => True) (.ensure _ fun _ _ => trivial) fun _ => ?_
      exact .ret fun t _ _ _ => .inr ⟨email, rfl, rfl⟩

theorem reads_notifyRoles (id : String) (account : Account) (roles : Option (List String)) :
    ReadsOnly X b (notifyRoles id account roles) := by
  cases roles with
  | none => exact .ret ()
  | some roles =>
    rw [notifyRoles]
    split
    · exact reads_notify _
    · exact .ret ()

/-- A program that only reads leaves the state as it is. -/
theorem Reads.run_snd {p : AccountProg α} (hp : Reads X b Q p) :
    (run X b p s inputs).2 = s := by
  rcases hp α .ret s inputs with ⟨e, he⟩ | ⟨a, used, -, h⟩
  · rw [Prog.bind_ret] at he
    rw [he]
  · rw [Prog.bind_ret] at h
    rw [h]
    rfl

/-- A call before a program that only reads is the only one that writes. -/
theorem run_snd_call {c : AccountCall} {k : c.Answer → AccountProg α}
    (hk : ∀ a, ReadsOnly X b (k a)) :
    (run X b (.call c k) s inputs).2 = record s (respond X b s.1 0 (inputs 0) c).1 := by
  rw [run_call]
  exact (hk _).run_snd

/-- Leaving out the result of a program leaves what it does. -/
theorem run_snd_void (p : AccountProg α) :
    (run X b (p.bind fun _ => .ret ()) s inputs).2 = (run X b p s inputs).2 := by
  obtain ⟨used, h⟩ := exec_bind (answer X b) 0 p (fun _ => .ret ()) s inputs
  rw [run, h, run]
  split
  · next heq => rw [heq]; rfl
  · next heq => rw [heq]

end Run

end AccountWorld

/-! ### What the operations do -/

open AccountWorld AccountStorage

/-- The account that a `get_account` reads is past its time. -/
structure Expires (t : AccountTable) (id : String) (inputs : ℕ → AccountInput) (row : Account) :
    Prop where
  read : (inputs 0).fault = .none
  found : t.find id = some row
  status : row.status ≠ .expired
  past : ∃ expiresAt, row.expiresAt = some expiresAt ∧ expiresAt < (inputs 1).now

/-- The account whose status the operation changes, and the status. -/
def AccountOp.target : AccountOp → Option (String × AccountStatus)
  | .disableAccount id _ => some (id, .disabled)
  | .enableAccount id | .unlockAccount id => some (id, .active)
  | .lockAccount id _ => some (id, .locked)
  | .suspendAccount id _ => some (id, .suspended)
  | _ => none

/-- Two operations alone make an account active that is not: `enable_account` and `unlock_account`.
-/
theorem AccountOp.target_eq_active {op : AccountOp} {id : String}
    (h : op.target = some (id, .active)) : op = .enableAccount id ∨ op = .unlockAccount id := by
  cases op <;> simp_all [AccountOp.target]

/-- The row an operation writes back as a whole, made from the one it has read. -/
inductive AccountRewrite (X : AccountExterns) (row : Account) : AccountOp → Account → Prop
  | updateAccount (data : UpdateAccount) (email : String) (now : DateTime)
      (hemail : email = row.email ∨ ∃ raw, data.email = some raw ∧ email = normalizeEmail X raw) :
      AccountRewrite X row (.updateAccount row.id data) (updatedAccount row data email now)
  | verifyEmail (verifiedAt updatedAt : DateTime) (hverified : row.emailVerified = false) :
      AccountRewrite X row (.verifyEmail row.id) (verifiedAccount row verifiedAt updatedAt)
  | changePassword (newPassword hash : String) (changedAt updatedAt : DateTime) :
      AccountRewrite X row (.changePassword row.id newPassword)
        (passwordChanged row hash changedAt updatedAt)

theorem AccountRewrite.id_eq {X : AccountExterns} {row account : Account} {op : AccountOp}
    (h : AccountRewrite X row op account) : account.id = row.id := by
  cases h <;> rfl

/-- **A row that is written back** has the status that was read, but for an account that waits for
its verification. -/
theorem AccountRewrite.status_eq {X : AccountExterns} {row account : Account} {op : AccountOp}
    (h : AccountRewrite X row op account) :
    account.status = row.status ∨
      row.status = .pendingVerification ∧ account.status = .active := by
  cases h with
  | updateAccount data email now hemail => exact .inl rfl
  | changePassword newPassword hash changedAt updatedAt => exact .inl rfl
  | verifyEmail verifiedAt updatedAt hverified =>
    by_cases hpending : row.status = .pendingVerification
    · exact .inr ⟨hpending, if_pos hpending⟩
    · exact .inl (if_neg hpending)

/-- What an operation can do to the table, given what its calls meet. -/
inductive AccountStep (X : AccountExterns) (b : KeyBackend) (service : AccountService)
    (inputs : ℕ → AccountInput) (t : AccountTable) : AccountOp → AccountTable → Prop
  | idle (op : AccountOp) : AccountStep X b service inputs t op t
  | created {data : CreateAccount} {passwordHash : Option String} {now : DateTime}
      {t' : AccountTable} {n : ℕ} (hfree : UsernameFree service data.username t)
      (h : t.insert (b.accountRow X (service.newAccount data (normalizeEmail X data.email)
        passwordHash (inputs n).newId now)) = some t') :
      AccountStep X b service inputs t (.createAccount data) t'
  | expired {id : String} {row : Account} {t' : AccountTable} (hexpires : Expires t id inputs row)
      (heffect : TakesEffect (inputs 2).fault)
      (h : statusUpdated b id .expired none (inputs 2).now t = some t') :
      AccountStep X b service inputs t (.getAccount id) t'
  | rewritten {op : AccountOp} {row account : Account} {now : DateTime} {t' : AccountTable}
      (hrow : t.find row.id = some row) (haccount : AccountRewrite X row op account)
      (h : updated X b account now t = some t') :
      AccountStep X b service inputs t op t'
  | moved {op : AccountOp} {id : String} {target : AccountStatus} {reason : Option String}
      {row : Account} {t' : AccountTable} (hop : op.target = some (id, target))
      (hread : (inputs 0).fault = .none) (hrow : t.find id = some row)
      (hcan : row.status.canTransitionTo target = true) (heffect : TakesEffect (inputs 1).fault)
      (h : statusUpdated b id target reason (inputs 1).now t = some t') :
      AccountStep X b service inputs t op t'
  | deleted (id : String) :
      AccountStep X b service inputs t (.deleteAccount id) (t.erase id)
  | loggedIn {email password id : String} {now : DateTime} {t' : AccountTable}
      (h : loginRecorded b id now t = some t') :
      AccountStep X b service inputs t (.authenticate email password) t'

section Steps

variable (X : AccountExterns) (b : KeyBackend) (service : AccountService)
  (s : AccountTable × List StatusChange) (inputs : ℕ → AccountInput)

/-- **What a checked change of status comes to.** -/
theorem run_changeStatus_cases (id : String) (target : AccountStatus) (reason : Option String)
    (event : AccountEvent) :
    (∃ e, run X b (changeStatus id target reason event) s inputs = (.error e, s)) ∨
      ∃ row, (inputs 0).fault = .none ∧ s.1.find id = some row ∧
        row.status.canTransitionTo target = true ∧
        run X b (changeStatus id target reason event) s inputs
          = ((updateStatus X b (inputs 1).fault id target reason (inputs 1).now s.1).2.mapError
              fun e => .storage e.display,
            record s
              (updateStatus X b (inputs 1).fault id target reason (inputs 1).now s.1).1) := by
  rw [changeStatus, Prog.bind_eq]
  rcases run_requireAccount_cases X b s inputs id _ with ⟨e, he⟩ | ⟨row, hread, hrow, hrun⟩
  · exact .inl ⟨e, he⟩
  · rw [hrun]
    simp only [Prog.bind_eq, validateTransition]
    rcases run_ensure_cases _ _ _ with he | ⟨hcan, hrun⟩
    · exact .inl ⟨_, he⟩
    · refine .inr ⟨row, hread, hrow, hcan, ?_⟩
      rw [hrun]
      show run X b ((ofStorage (updateStatus X b (inputs 1).fault id target reason (inputs 1).now
        s.1).2).bind fun _ => notify event) (record s _) _ = _
      cases (updateStatus X b (inputs 1).fault id target reason (inputs 1).now s.1).2 with
      | error e => rfl
      | ok u => exact run_notify_last event

variable {b service inputs} in
/-- An operation that changes a status does one of the things listed. -/
theorem accountStep_changeStatus {op : AccountOp} {id : String} {target : AccountStatus}
    {reason : Option String} {event : AccountEvent} (hop : op.target = some (id, target)) :
    ∃ t', (run X b (changeStatus id target reason event) s inputs).2 = record s t' ∧
      AccountStep X b service inputs s.1 op t' := by
  rcases run_changeStatus_cases X b s inputs id target reason event with
    ⟨e, he⟩ | ⟨row, hread, hrow, hcan, hrun⟩
  · exact ⟨s.1, by rw [he, record_self], .idle op⟩
  · obtain ⟨t', ht'⟩ := exists_statusUpdated b id target reason (inputs 1).now s.1
    refine ⟨_, by rw [hrun], ?_⟩
    rw [AccountStorage.updateStatus, execute_fst, ht', Option.getD_some]
    split
    · next heffect => exact .moved hop hread hrow hcan heffect ht'
    · exact .idle op

/-- The whole row of an account that was read is written back. -/
theorem accountStep_rewrite (op : AccountOp) {row account : Account}
    (hrow : s.1.find row.id = some row) (haccount : AccountRewrite X row op account)
    (input : AccountInput) :
    AccountStep X b service inputs s.1 op (respond X b s.1 0 input (.update account)).1 := by
  show AccountStep X b service inputs s.1 op
    (execute X b input.fault _ (updated X b account input.now s.1) s.1).1
  rw [execute_fst]
  split
  · cases hupdated : updated X b account input.now s.1 with
    | none => exact .idle op
    | some t' => exact .rewritten hrow haccount hupdated
  · exact .idle op

theorem accountStep_updateAccount (id : String) (data : UpdateAccount) :
    ∃ t', (run X b (updateAccount X id data) s inputs).2 = record s t' ∧
      AccountStep X b service inputs s.1 (.updateAccount id data) t' := by
  rw [updateAccount, Prog.bind_eq]
  rcases run_requireAccount_cases X b s inputs id _ with ⟨e, he⟩ | ⟨row, -, hrow, hrun⟩
  · exact ⟨s.1, by rw [he, record_self], .idle _⟩
  · obtain rfl : row.id = id := Table.key_of_find hrow
    rw [hrun]
    rcases reads_updatedEmail row data.email _ _ s _ with ⟨e, he⟩ | ⟨email, used, hemail, hrun⟩
    · exact ⟨s.1, by rw [Prog.bind_eq, he, record_self], .idle _⟩
    · rw [Prog.bind_eq, hrun]
      rcases reads_notifyRoles row.id row data.roles _ _ s _ with ⟨e, he⟩ | ⟨u, used', -, hrun⟩
      · exact ⟨s.1, by rw [Prog.bind_eq, he, record_self], .idle _⟩
      · rw [Prog.bind_eq, hrun, Prog.bind_eq, run_utcNow]
        refine ⟨_, run_snd_call fun r => ?_, ?_⟩
        · exact .bind (.ofStorage r) fun _ => .bind (reads_notify _) fun _ => .ret _
        · exact accountStep_rewrite X b service s inputs _ hrow
            (.updateAccount data email _ hemail) _

theorem accountStep_verifyEmail (id : String) :
    ∃ t', (run X b (verifyEmail id) s inputs).2 = record s t' ∧
      AccountStep X b service inputs s.1 (.verifyEmail id) t' := by
  rw [verifyEmail, Prog.bind_eq]
  rcases run_requireAccount_cases X b s inputs id _ with ⟨e, he⟩ | ⟨row, -, hrow, hrun⟩
  · exact ⟨s.1, by rw [he, record_self], .idle _⟩
  · obtain rfl : row.id = id := Table.key_of_find hrow
    rw [hrun]
    split
    · exact ⟨s.1, by rw [run_ret, record_self], .idle _⟩
    · next hverified =>
      rw [Prog.bind_eq, run_utcNow, Prog.bind_eq, run_utcNow]
      refine ⟨_, run_snd_call fun r => ?_, ?_⟩
      · refine .bind (.ofStorage r) fun _ => .bind (reads_notify _) fun _ => ?_
        split
        · exact reads_notify _
        · exact .ret ()
      · exact accountStep_rewrite X b service s inputs _ hrow
          (.verifyEmail _ _ (Bool.eq_false_iff.mpr hverified)) _

theorem accountStep_changePassword (id newPassword : String) :
    ∃ t', (run X b (service.changePassword id newPassword) s inputs).2 = record s t' ∧
      AccountStep X b service inputs s.1 (.changePassword id newPassword) t' := by
  rw [changePassword, Prog.bind_eq]
  rcases run_requireAccount_cases X b s inputs id _ with ⟨e, he⟩ | ⟨row, -, hrow, hrun⟩
  · exact ⟨s.1, by rw [he, record_self], .idle _⟩
  · obtain rfl : row.id = id := Table.key_of_find hrow
    rw [hrun]
    rcases reads_hashPassword service newPassword _ _ s _ with ⟨e, he⟩ | ⟨hash, used, -, hrun⟩
    · exact ⟨s.1, by rw [Prog.bind_eq, he, record_self], .idle _⟩
    · rw [Prog.bind_eq, hrun, Prog.bind_eq, run_utcNow, Prog.bind_eq, run_utcNow]
      refine ⟨_, run_snd_call fun r => ?_, ?_⟩
      · exact .bind (.ofStorage r) fun _ => reads_notify _
      · exact accountStep_rewrite X b service s inputs _ hrow
          (.changePassword newPassword hash _ _) _

theorem accountStep_createAccount (data : CreateAccount) :
    ∃ t', (run X b (service.createAccount X data) s inputs).2 = record s t' ∧
      AccountStep X b service inputs s.1 (.createAccount data) t' := by
  -- Everything before the clock is read only reads.
  have hreads : Reads X b (fun t _ => UsernameFree service data.username t)
      ((checkEmail (normalizeEmail X data.email)).bind fun _ =>
      (getByEmail (normalizeEmail X data.email)).bind fun existing =>
        (ensure existing.isNone (.alreadyExists (normalizeEmail X data.email))).bind fun _ =>
          (service.checkUsername data.username).bind fun _ =>
            service.hashNewPassword data.password) := by
    refine .bind (reads_checkEmail _) fun _ => ?_
    refine .bind (reads_getByEmail _) fun existing => ?_
    refine .bind (Q := fun _ _ => True) (.ensure _ fun _ _ => trivial) fun _ => ?_
    refine .bind (reads_checkUsername service _) fun _ => ?_
    exact (reads_hashNewPassword service _).mono fun t _ _ hfree _ _ _ => hfree
  have hcreate : service.createAccount X data
      = Prog.bind ((checkEmail (normalizeEmail X data.email)).bind fun _ =>
          (getByEmail (normalizeEmail X data.email)).bind fun existing =>
            (ensure existing.isNone (.alreadyExists (normalizeEmail X data.email))).bind fun _ =>
              (service.checkUsername data.username).bind fun _ =>
                service.hashNewPassword data.password) fun passwordHash =>
        utcNow.bind fun now => newId.bind fun id =>
          let account :=
            service.newAccount data (normalizeEmail X data.email) passwordHash id now
          (create account).bind fun _ =>
            (notify (.created account.id account.email)).bind fun _ => .ret account := by
    simp only [createAccount, Prog.bind_eq, Prog.bind_assoc]
  rw [hcreate]
  rcases hreads _ _ s inputs with ⟨e, he⟩ | ⟨passwordHash, used, hfree, hrun⟩
  · exact ⟨s.1, by rw [he, record_self], .idle _⟩
  · rw [hrun, run_utcNow, run_newId]
    refine ⟨_, run_snd_call fun r => ?_, ?_⟩
    · exact .bind (.ofStorage r) fun _ => .bind (reads_notify _) fun _ => .ret _
    · show AccountStep X b service inputs s.1 (.createAccount data) (execute X b _ _ _ s.1).1
      rw [execute_fst]
      split
      · cases hinsert : s.1.insert (b.accountRow X _) with
        | none => exact .idle _
        | some t' => exact .created hfree hinsert
      · exact .idle _

theorem accountStep_deleteAccount (id : String) :
    ∃ t', (run X b (deleteAccount b id) s inputs).2 = record s t' ∧
      AccountStep X b service inputs s.1 (.deleteAccount id) t' := by
  have hdelete : ∀ (input : AccountInput),
      AccountStep X b service inputs s.1 (.deleteAccount id)
        (respond X b s.1 0 input (.deleteRow id)).1 := by
    intro input
    show AccountStep X b service inputs s.1 _
      (execute X b input.fault _ (some (s.1.erase id)) s.1).1
    rw [execute_fst]
    split
    · exact .deleted id
    · exact .idle _
  rw [deleteAccount, Prog.bind_eq]
  cases b with
  | surrealDb =>
    -- the row is read first, because the deletion does not say whether there was one
    rw [delete, Prog.bind_eq, Prog.bind_assoc]
    rcases run_getById_cases X .surrealDb s inputs id _ with ⟨-, e, he⟩ | ⟨-, hrun⟩
    · exact ⟨s.1, by rw [he, record_self], .idle _⟩
    · rw [hrun]
      cases s.1.find id with
      | none => exact ⟨s.1, by rw [record_self]; rfl, .idle _⟩
      | some row =>
        refine ⟨_, run_snd_call fun r => ?_, hdelete _⟩
        exact .bind (.bind (.ofStorage r) fun _ => .ret true) fun deleted =>
          .bind (Reads.ensure _ fun _ _ => trivial) fun _ => reads_notify _
  | postgres =>
    refine ⟨_, run_snd_call fun r => ?_, hdelete _⟩
    exact .bind (.ofStorage r) fun deleted =>
      .bind (Reads.ensure _ fun _ _ => trivial) fun _ => reads_notify _
  | turso =>
    refine ⟨_, run_snd_call fun r => ?_, hdelete _⟩
    exact .bind (.ofStorage r) fun deleted =>
      .bind (Reads.ensure _ fun _ _ => trivial) fun _ => reads_notify _

/-- **Which credentials pass**: those for an active account with a hash that the password verifies
against. -/
theorem checkCredentials_ok_iff (row : Account) (password : String) :
    service.checkCredentials row password = .ok () ↔ row.status = .active ∧
      ∃ hash, row.passwordHash = some hash ∧ service.hasher.verify password hash = .ok true := by
  rw [checkCredentials]
  by_cases hactive : row.status = .active
  · rw [if_pos hactive]
    cases hhash : row.passwordHash with
    | none => simp
    | some hash =>
      cases hverify : service.hasher.verify password hash with
      | error e => simp [hverify]
      | ok valid => cases valid <;> simp [hactive, hverify]
  · rw [if_neg hactive]
    simp [hactive]

/-- The account that is authenticated: the one of the address, if its credentials pass. -/
structure Authenticates (t : AccountTable) (inputs : ℕ → AccountInput) (email password : String)
    (row : Account) : Prop where
  read : (inputs 0).fault = .none
  found : (t.rows.find? fun a => a.email = normalizeEmail X email) = some row
  credentials : service.checkCredentials row password = .ok ()

/-- **Who is authenticated**: a login fails and changes nothing if no account is authenticated by
these credentials, and otherwise returns that account and records the login. -/
theorem run_authenticate_cases (email password : String) :
    (∃ e, run X b (service.authenticate X email password) s inputs = (.error e, s)) ∧
        (∀ row, ¬ Authenticates X service s.1 inputs email password row) ∨
      ∃ row, Authenticates X service s.1 inputs email password row ∧
        run X b (service.authenticate X email password) s inputs
          = (.ok row, record s (recordLogin X b (inputs 1).fault row.id (inputs 1).now s.1).1) := by
  rw [authenticate, Prog.bind_eq]
  rcases run_getByEmail_cases X b s inputs (normalizeEmail X email) _ with
    ⟨hfault, e, he⟩ | ⟨hread, hrun⟩
  · exact .inl ⟨⟨e, he⟩, fun row h => hfault h.read⟩
  · rw [hrun]
    cases hfound : s.1.rows.find? fun a => a.email = normalizeEmail X email with
    | none =>
      refine .inl ⟨⟨_, rfl⟩, fun row h => ?_⟩
      have hsome := h.found
      rw [hfound] at hsome
      contradiction
    | some row =>
      cases hcheck : service.checkCredentials row password with
      | error e =>
        refine .inl ⟨⟨e, by simp [orNotFound, hcheck, Prog.ofExcept]⟩, fun row' h => ?_⟩
        obtain rfl : row = row' := Option.some.inj (hfound.symm.trans h.found)
        exact nomatch hcheck.symm.trans h.credentials
      | ok u =>
        refine .inr ⟨row, ⟨hread, hfound, hcheck⟩, ?_⟩
        simp only [orNotFound, hcheck, Prog.ofExcept, Prog.bind_eq, Prog.ret_bind]
        rfl

theorem accountStep_authenticate (email password : String) :
    ∃ t', (run X b (service.authenticate X email password) s inputs).2 = record s t' ∧
      AccountStep X b service inputs s.1 (.authenticate email password) t' := by
  rcases run_authenticate_cases X b service s inputs email password with
    ⟨⟨e, he⟩, -⟩ | ⟨row, -, hrun⟩
  · exact ⟨s.1, by rw [he, record_self], .idle _⟩
  · obtain ⟨t', ht'⟩ := exists_loginRecorded b row.id (inputs 1).now s.1
    refine ⟨_, by rw [hrun], ?_⟩
    rw [recordLogin, execute_fst, ht', Option.getD_some]
    split
    · exact .loggedIn ht'
    · exact .idle _

/-- **When reading an account expires it**: a `get_account` that meets it past its expiry, under
another status, writes `Expired`. -/
theorem run_getAccount_of_expires {id : String} {row : Account} (h : Expires s.1 id inputs row) :
    (run X b (getAccount id) s inputs).2
      = record s (updateStatus X b (inputs 2).fault id .expired none (inputs 2).now s.1).1 := by
  obtain ⟨expiresAt, hexpires, hpast⟩ := h.past
  rw [getAccount, Prog.bind_eq]
  rcases run_getById_cases X b s inputs id _ with ⟨hfault, -⟩ | ⟨-, hrun⟩
  · exact absurd h.read hfault
  · rw [hrun, h.found]
    simp only [expireIfPast, if_neg h.status, hexpires, Prog.bind_eq, Prog.bind_assoc, run_utcNow,
      later_apply, Nat.zero_add, if_pos hpast]
    exact run_snd_call fun _ => .bind (.bind (reads_notify _) fun _ => .ret _) fun _ => .ret _

theorem run_getAccount_cases (id : String) :
    (run X b (getAccount id) s inputs).2 = s ∨ ∃ row, Expires s.1 id inputs row := by
  rw [getAccount, Prog.bind_eq]
  rcases run_getById_cases X b s inputs id _ with ⟨-, e, he⟩ | ⟨hread, hrun⟩
  · exact .inl (by rw [he])
  · rw [hrun]
    cases hfound : s.1.find id with
    | none => exact .inl rfl
    | some row =>
      by_cases hstatus : row.status = .expired
      · refine .inl ?_
        simp [expireIfPast, hstatus]
      · cases hexpires : row.expiresAt with
        | none =>
          refine .inl ?_
          simp [expireIfPast, hstatus, hexpires]
        | some expiresAt =>
          by_cases hpast : expiresAt < (inputs 1).now
          · exact .inr ⟨row, hread, hfound, hstatus, expiresAt, hexpires, hpast⟩
          · refine .inl ?_
            simp [expireIfPast, hstatus, hexpires, Prog.bind_assoc, hpast]

theorem accountStep_getAccount (id : String) :
    ∃ t', (run X b (getAccount id) s inputs).2 = record s t' ∧
      AccountStep X b service inputs s.1 (.getAccount id) t' := by
  rcases run_getAccount_cases X b s inputs id with h | ⟨row, hexpires⟩
  · exact ⟨s.1, by rw [h, record_self], .idle _⟩
  · obtain ⟨t', ht'⟩ := exists_statusUpdated b id .expired none (inputs 2).now s.1
    refine ⟨_, run_getAccount_of_expires X b s inputs hexpires, ?_⟩
    rw [AccountStorage.updateStatus, execute_fst, ht', Option.getD_some]
    split
    · next heffect =>
      exact .expired hexpires heffect ht'
    · exact .idle _

/-- **Every operation does one of the things listed**, and writes to the table at most once. -/
theorem accountStep_run (op : AccountOp) :
    ∃ t', (run X b (service.program X b op) s inputs).2 = record s t' ∧
      AccountStep X b service inputs s.1 op t' := by
  cases op with
  -- the operations that write, each by its own lemma; the others leave the table as it is
  | createAccount data =>
    rw [AccountService.program, run_snd_void]
    exact accountStep_createAccount X b service s inputs data
  | getAccount id =>
    rw [AccountService.program, run_snd_void]
    exact accountStep_getAccount X b service s inputs id
  | getAccountByEmail email =>
    have hreads : ReadsOnly X b (getAccountByEmail email) := .call (fun _ _ => rfl) .ofStorage
    rw [AccountService.program, run_snd_void, hreads.run_snd]
    exact ⟨s.1, (record_self s).symm, .idle _⟩
  | updateAccount id data =>
    rw [AccountService.program, run_snd_void]
    exact accountStep_updateAccount X b service s inputs id data
  -- the five changes of status are one operation with another target
  | disableAccount id reason => exact accountStep_changeStatus X s rfl
  | enableAccount id => exact accountStep_changeStatus X s rfl
  | lockAccount id reason => exact accountStep_changeStatus X s rfl
  | unlockAccount id => exact accountStep_changeStatus X s rfl
  | suspendAccount id reason => exact accountStep_changeStatus X s rfl
  | verifyEmail id => exact accountStep_verifyEmail X b service s inputs id
  | changePassword id newPassword =>
    exact accountStep_changePassword X b service s inputs id newPassword
  | deleteAccount id => exact accountStep_deleteAccount X b service s inputs id
  | listAccounts status limit offset =>
    have hreads : ReadsOnly X b (listAccounts status limit offset) :=
      .call (fun _ _ => rfl) .ofStorage
    rw [AccountService.program, run_snd_void, hreads.run_snd]
    exact ⟨s.1, (record_self s).symm, .idle _⟩
  | countAccounts status =>
    have hreads : ReadsOnly X b (countAccounts status) := .call (fun _ _ => rfl) .ofStorage
    rw [AccountService.program, run_snd_void, hreads.run_snd]
    exact ⟨s.1, (record_self s).symm, .idle _⟩
  | authenticate email password =>
    rw [AccountService.program, run_snd_void]
    exact accountStep_authenticate X b service s inputs email password

end Steps

/-! ### Runs -/

/-- An operation of the service, and what its calls meet one after another. -/
structure AccountAction where
  op : AccountOp
  inputs : ℕ → AccountInput

/-- The state after one more operation, which is run to its end before the next one begins. -/
def AccountService.step (X : AccountExterns) (b : KeyBackend) (service : AccountService)
    (s : AccountTable × List StatusChange) (a : AccountAction) : AccountTable × List StatusChange :=
  (run X b (service.program X b a.op) s a.inputs).2

/-- **What an operation does to the state**: it leaves a table that is a step of this operation
away, and the changes of status between the two are noted. -/
theorem AccountService.step_cases (X : AccountExterns) (b : KeyBackend) (service : AccountService)
    (s : AccountTable × List StatusChange) (a : AccountAction) :
    ∃ t', service.step X b s a = record s t' ∧
      AccountStep X b service a.inputs s.1 a.op t' :=
  accountStep_run X b service s a.inputs a.op

/-! ### Samples -/

/-- `str::to_lowercase`, for texts of ASCII characters. -/
def asciiLowercase (s : String) : String := String.ofList (s.toList.map Char.toLower)

def sampleAccountExterns : AccountExterns where
  toStoreExterns := sampleStore
  toLowercase := asciiLowercase
  uniqueViolation := "UNIQUE constraint failed: accounts.email"
  negativePage := "LIMIT must not be negative"

/-- A hash that is the salt and the password. -/
def sampleHasher : PasswordHasher where
  minPasswordLength := 8
  hashPassword salt password := .ok (salt ++ password)
  verifyPassword password hash := if hash = "salt" ++ password then .same else .other

def sampleAccounts : AccountService := ⟨sampleHasher, .standard⟩

/-- An operation at a time whose calls meet no fault. -/
def sampleAction (op : AccountOp) (now : DateTime) (newId : String) : AccountAction :=
  ⟨op, fun _ => ⟨now, .none, newId, "salt"⟩⟩

/-- A request for an account with a password that needs no verification of its address. -/
def sampleSignup (email : String) (expiresAt : Option DateTime) : CreateAccount :=
  ⟨email, none, some "password", [], expiresAt, none, some false⟩

/-- What a run of the sample service on the empty Turso store comes to. -/
def sampleRun (actions : List AccountAction) : AccountTable × List StatusChange :=
  actions.foldl (sampleAccounts.step sampleAccountExterns .turso) (Table.empty, [])

end ActonService
