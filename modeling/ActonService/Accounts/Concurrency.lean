import ActonService.Accounts.Steps

/-!
# Status changes under concurrency

`update_account`, `change_password` and `verify_email` read an account and later write the whole
row back.  What `disable_account`, `lock_account` and `suspend_account` write in between is lost.

## Main definitions

* `Evidence` — what the stops in force of an account have written.
* `StopNotes` — the evidence of every account, and what every caller has read.
* `FreshWrite` — a row is written back under the stops it was read under.

## Main results

* `writesBack_program` — an operation writes back the account it has read.
* `stands_of_reach` — **the stops in force stand in every interleaving whose writes are fresh.**
-/

namespace ActonService

open Effect Run Tables AccountStorage AccountProg AccountService

/-! ### Stops in force -/

/-- What the disabling, locking and suspending of an account that is in force has written: the
status, and the time and reason of the lock and of the disabling. -/
structure Evidence where
  status : Option AccountStatus
  locked : Option (DateTime × Option String)
  disabled : Option (DateTime × Option String)
  deriving DecidableEq

namespace Evidence

/-- Nothing of the kind has been written to the account, or it is over: nothing is in force. -/
def nothing : Evidence := ⟨none, none, none⟩

/-- The evidence after a change of status.  Making an account active ends every stop; another
status, such as the expiry, only takes the place of the one a stop has set. -/
def after (status : AccountStatus) (reason : Option String) (now : DateTime) (e : Evidence) :
    Evidence :=
  match status with
  | .disabled => { e with status := some .disabled, disabled := some (now, reason) }
  | .locked => { e with status := some .locked, locked := some (now, reason) }
  | .suspended => { e with status := some .suspended }
  | .active => nothing
  | .pendingVerification | .expired => { e with status := none }

/-- The row still says what the stops have written. -/
structure Stands (b : KeyBackend) (e : Evidence) (row : Account) : Prop where
  status : ∀ status, e.status = some status → row.status = status
  locked : ∀ now reason, e.locked = some (now, reason) →
    row.lockedAt = some (b.column now) ∧ row.lockedReason = reason
  disabled : ∀ now reason, e.disabled = some (now, reason) →
    row.disabledAt = some (b.column now) ∧ row.disabledReason = reason

/-- Every stop in force was in force earlier. -/
def Within (e earlier : Evidence) : Prop :=
  (e.status = none ∨ e.status = earlier.status) ∧ (e.locked = none ∨ e.locked = earlier.locked) ∧
    (e.disabled = none ∨ e.disabled = earlier.disabled)

instance decidableWithin (e earlier : Evidence) : Decidable (e.Within earlier) :=
  inferInstanceAs (Decidable (_ ∧ _ ∧ _))

theorem nothing_stands (b : KeyBackend) (row : Account) : nothing.Stands b row where
  status _ h := absurd h.symm (Option.some_ne_none _)
  locked _ _ h := absurd h.symm (Option.some_ne_none _)
  disabled _ _ h := absurd h.symm (Option.some_ne_none _)

variable {b : KeyBackend} {e earlier : Evidence} {row account : Account}

theorem Stands.of_within (h : earlier.Stands b row) (hwithin : e.Within earlier) :
    e.Stands b row := by
  obtain ⟨hstatus, hlocked, hdisabled⟩ := hwithin
  refine ⟨fun status hsome => ?_, fun now reason hsome => ?_, fun now reason hsome => ?_⟩
  · rcases hstatus with hnone | heq
    · rw [hnone] at hsome
      contradiction
    · exact h.status status (heq ▸ hsome)
  · rcases hlocked with hnone | heq
    · rw [hnone] at hsome
      contradiction
    · exact h.locked now reason (heq ▸ hsome)
  · rcases hdisabled with hnone | heq
    · rw [hnone] at hsome
      contradiction
    · exact h.disabled now reason (heq ▸ hsome)

/-- A change of status writes what becomes its evidence. -/
theorem Stands.after (h : e.Stands b row) (status : AccountStatus) (reason : Option String)
    (now : DateTime) :
    (e.after status reason now).Stands b (row.withStatus b status reason now) := by
  cases status with
  | active => exact nothing_stands b _
  | disabled =>
    refine ⟨fun status hsome => Option.some.inj hsome, h.locked, fun now' reason' hsome => ?_⟩
    obtain ⟨rfl, rfl⟩ := Prod.mk.inj (Option.some.inj hsome)
    exact ⟨rfl, rfl⟩
  | locked =>
    refine ⟨fun status hsome => Option.some.inj hsome, fun now' reason' hsome => ?_, h.disabled⟩
    obtain ⟨rfl, rfl⟩ := Prod.mk.inj (Option.some.inj hsome)
    exact ⟨rfl, rfl⟩
  | suspended => exact ⟨fun status hsome => Option.some.inj hsome, h.locked, h.disabled⟩
  | pendingVerification =>
    exact ⟨fun _ hsome => absurd hsome.symm (Option.some_ne_none _), h.locked, h.disabled⟩
  | expired =>
    exact ⟨fun _ hsome => absurd hsome.symm (Option.some_ne_none _), h.locked, h.disabled⟩

end Evidence

/-- The account has the identifier of another, and says the same of locks and disabling. -/
structure CopiesStops (account row : Account) : Prop where
  id : account.id = row.id
  lockedAt : account.lockedAt = row.lockedAt
  lockedReason : account.lockedReason = row.lockedReason
  disabledAt : account.disabledAt = row.disabledAt
  disabledReason : account.disabledReason = row.disabledReason

/-- A column returns a time it has returned. -/
theorem KeyBackend.column_column (b : KeyBackend) (t : DateTime) :
    b.column (b.column t) = b.column t := by
  cases b with
  | turso => rfl
  | surrealDb => rfl
  | postgres =>
    show (DateTime.ofTimestamptz (KeyBackend.column .postgres t).toTimestamptz).getD _ = _
    have hcolumn : KeyBackend.column .postgres t
      = (DateTime.ofTimestamptz t.toTimestamptz).getD t := rfl
    cases htime : DateTime.ofTimestamptz t.toTimestamptz with
    | none =>
      rw [htime, Option.getD_none] at hcolumn
      rw [hcolumn, htime, Option.getD_none]
    | some t' =>
      rw [htime, Option.getD_some] at hcolumn
      have hwhole : t'.WholeUnits 1000 := by
        rw [DateTime.ofTimestamptz, DateTime.fromTimestamp_eq_some_iff] at htime
        rw [DateTime.WholeUnits]
        omega
      rw [hcolumn, t'.ofTimestamptz_toTimestamptz_iff.mpr hwhole, Option.getD_some]

section Rows

variable {X : AccountExterns} {b : KeyBackend} {e : Evidence} {account row : Account}

/-- What stands in the account that is written back stands in the row. -/
theorem Evidence.Stands.rewritten (h : e.Stands b row) (hcopies : CopiesStops account row)
    (hstatus : account.status = row.status) (now : DateTime) (old : Account) :
    e.Stands b (account.rewritten X b now old) := by
  refine ⟨fun status hsome => ?_, fun time reason hsome => ?_, fun time reason hsome => ?_⟩
  · rw [Account.rewritten_status, hstatus]
    exact h.status status hsome
  · obtain ⟨hat, hreason⟩ := h.locked time reason hsome
    rw [Account.rewritten_lockedAt, Account.rewritten_lockedReason, hcopies.lockedAt,
      hcopies.lockedReason, hat, Option.map_some, b.column_column]
    exact ⟨rfl, hreason⟩
  · obtain ⟨hat, hreason⟩ := h.disabled time reason hsome
    rw [Account.rewritten_disabledAt, Account.rewritten_disabledReason, hcopies.disabledAt,
      hcopies.disabledReason, hat, Option.map_some, b.column_column]
    exact ⟨rfl, hreason⟩

end Rows

/-! ### Notes -/

/-- The evidence of every account, and what every caller has read: an account, with what was in
force of it then. -/
structure StopNotes where
  inForce : String → Evidence
  held : ℕ → Option (Account × Evidence)

namespace StopNotes

/-- No stop is in force and nothing has been read. -/
def empty : StopNotes := ⟨fun _ => .nothing, fun _ => none⟩

/-- The notes with the evidence of an account set. -/
def setInForce (n : StopNotes) (id : String) (e : Evidence) : StopNotes :=
  { n with inForce := Function.update n.inForce id e }

/-- The notes after a caller has read an account. -/
def read (n : StopNotes) (who : ℕ) (row : Account) : StopNotes :=
  { n with held := Function.update n.held who (some (row, n.inForce row.id)) }

/-- The write of a row changes the status its caller has read. -/
def ChangesStatus (n : StopNotes) (who : ℕ) (account : Account) : Prop :=
  ∃ held ∈ n.held who, account.status ≠ held.1.status

instance decidableChangesStatus (n : StopNotes) (who : ℕ) (account : Account) :
    Decidable (n.ChangesStatus who account) :=
  inferInstanceAs (Decidable (∃ held ∈ n.held who, _))

end StopNotes

section World

variable (X : AccountExterns) (b : KeyBackend)

/-- The notes after a call.  A change of status is evidence from when it takes effect.  The
verification of an account that waits for it is a change of status as well.  A new account has no
evidence. -/
def stopNotes (n : StopNotes) (t : AccountTable) (who : ℕ) (input : AccountInput) :
    (c : AccountCall) → c.Answer → AccountTable → StopNotes
  | .getById _, .ok (some row), _ => n.read who row
  | .updateStatus id status reason, _, _ =>
    if TakesEffect input.fault then
      n.setInForce id ((n.inForce id).after status reason input.now)
    else n
  | .update account, _, _ =>
    if TakesEffect input.fault ∧ (updated X b account input.now t).isSome ∧
        n.ChangesStatus who account then
      n.setInForce account.id .nothing
    else n
  | .create account, _, _ => if (t.find account.id).isNone then n.setInForce account.id .nothing
    else n
  | _, _, _ => n

/-- The table together with the notes of what the calls were answered, which is what the invariant
of a run speaks about. -/
def stopAnswer : AccountTable × StopNotes → ℕ → AccountInput → (c : AccountCall) →
    (AccountTable × StopNotes) × c.Answer :=
  observed (AccountWorld.respond X b) (stopNotes X b)

end World

/-- The service, used by several callers at once. -/
abbrev AccountPool := Pool (AccountTable × StopNotes) AccountCall AccountCall.Answer AccountError

/-- The row a program is about to write back. -/
def pendingWrite : AccountProg Unit → Option Account
  | .call (.update account) _ => some account
  | _ => none

/-- When a row is written back with the status that was read, every stop in force was in force
when it was read. -/
def FreshWrite (pool : AccountPool) : Action AccountOp AccountInput → Prop
  | .start _ _ => True
  | .step who input => ∀ account ∈ pendingWrite (pool.threads who),
    ∀ held ∈ pool.state.2.held who, TakesEffect input.fault → account.status = held.1.status →
      (pool.state.2.inForce account.id).Within held.2

instance decidableFreshWrite (pool : AccountPool) :
    ∀ a : Action AccountOp AccountInput, Decidable (FreshWrite pool a)
  | .start _ _ => .isTrue trivial
  | .step who _ => inferInstanceAs (Decidable (∀ account ∈ pendingWrite (pool.threads who),
    ∀ held ∈ pool.state.2.held who, _))

/-! ### What an operation writes back -/

/-- The accounts a program may write back that has read an account last. -/
def MayWrite (held : Option Account) : AccountCall → Prop
  | .update account => ∃ row, held = some row ∧ CopiesStops account row
  | _ => True

/-- The account a caller has read last by its identifier: it writes the columns of this copy back,
however old it is by then. -/
def nextHeld (held : Option Account) : (c : AccountCall) → c.Answer → Option Account
  | .getById _, .ok (some row) => some row
  | _, _ => held

/-- A call that neither reads an account by its identifier nor writes one back. -/
def AccountCall.IsQuiet : AccountCall → Prop
  | .getById _ | .update _ => False
  | _ => True

/-- The program writes back the account it has read. -/
abbrev WritesBack {α : Type} (held : Option Account) (p : AccountProg α) : Prop :=
  p.Follows MayWrite nextHeld held

/-- The program makes quiet calls only, so that its caller neither gets hold of an account nor
writes one back. -/
abbrev Quiet {α : Type} (p : AccountProg α) : Prop := p.Always fun c _ => c.IsQuiet

section Protocol

variable {α β : Type} {held : Option Account}

theorem Quiet.writesBack_bind {p : AccountProg α} {f : α → AccountProg β} (hp : Quiet p)
    (hf : ∀ a, WritesBack held (f a)) : WritesBack held (p.bind f) := by
  refine Prog.Always.follows_bind AccountCall.IsQuiet ?_ ?_ hp hf
  · rintro t (c | c | c | c | c | c | c | c | c | c | c | c | c | c) hquiet <;> trivial
  · rintro t (c | c | c | c | c | c | c | c | c | c | c | c | c | c) a hquiet <;> trivial

theorem Quiet.writesBack {p : AccountProg α} (hp : Quiet p) : WritesBack held p := by
  rw [← Prog.bind_ret p]
  exact hp.writesBack_bind fun _ => trivial

/-- The account an operation starts from is the one it may write back. -/
theorem writesBack_requireAccount_bind {id : String} {f : Account → AccountProg β}
    (hf : ∀ row, WritesBack (some row) (f row)) :
    WritesBack held ((requireAccount id).bind f) := by
  refine ⟨trivial, fun answer => ?_⟩
  rcases answer with e | _ | row
  · trivial
  · trivial
  · exact hf row

theorem quiet_ofStorage (r : Except ServiceError α) : Quiet (ofStorage r) :=
  Prog.always_ofExcept _

theorem quiet_ensure (ok : Bool) (e : AccountError) : Quiet (ensure ok e) := by
  cases ok <;> trivial

theorem quiet_orNotFound (what : String) (found : Option Account) :
    Quiet (orNotFound what found) := by
  cases found <;> trivial

theorem quiet_getByEmail (email : String) : Quiet (getByEmail email) :=
  ⟨trivial, quiet_ofStorage⟩

theorem quiet_notify (event : AccountEvent) : Quiet (notify event) := ⟨trivial, fun _ => trivial⟩

theorem quiet_hashPassword (service : AccountService) (password : String) :
    Quiet (service.hashPassword password) :=
  ⟨trivial, fun _ => Prog.always_ofExcept _⟩

theorem quiet_checkUsername (service : AccountService) (username : Option String) :
    Quiet (service.checkUsername username) := by
  cases username with
  | none => trivial
  | some username =>
    rw [checkUsername]
    split
    · exact ⟨trivial, fun r => (quiet_ofStorage r).bind fun _ => quiet_ensure _ _⟩
    · trivial

theorem quiet_createAccount (X : AccountExterns) (service : AccountService)
    (data : CreateAccount) : Quiet (service.createAccount X data) := by
  have hhash : Quiet (service.hashNewPassword data.password) := by
    cases data.password with
    | none => trivial
    | some password => exact (quiet_hashPassword service password).bind fun _ => trivial
  refine (quiet_ensure _ _).bind fun _ => ?_
  refine (quiet_getByEmail _).bind fun _ => ?_
  refine (quiet_ensure _ _).bind fun _ => ?_
  refine (quiet_checkUsername service _).bind fun _ => ?_
  refine hhash.bind fun _ => ⟨trivial, fun _ => ⟨trivial, fun _ => ⟨trivial, fun r => ?_⟩⟩⟩
  exact (quiet_ofStorage r).bind fun _ => (quiet_notify _).bind fun _ => trivial

theorem quiet_expireIfPast (id : String) (account : Account) : Quiet (expireIfPast id account) := by
  rw [expireIfPast]
  split
  · trivial
  · cases account.expiresAt with
    | none => trivial
    | some expiresAt =>
      refine ⟨trivial, fun now => ?_⟩
      simp only [Prog.ret_bind]
      split
      · exact ⟨trivial, fun _ => ⟨trivial, fun _ => trivial⟩⟩
      · trivial

theorem quiet_updatedEmail (X : AccountExterns) (account : Account) (email : Option String) :
    Quiet (updatedEmail X account email) := by
  cases email with
  | none => trivial
  | some email =>
    refine (quiet_ensure _ _).bind fun _ => (quiet_getByEmail _).bind fun existing => ?_
    cases existing with
    | none => trivial
    | some existing => exact (quiet_ensure _ _).bind fun _ => trivial

theorem quiet_notifyRoles (id : String) (account : Account) (roles : Option (List String)) :
    Quiet (notifyRoles id account roles) := by
  cases roles with
  | none => trivial
  | some roles =>
    rw [notifyRoles]
    split
    · exact quiet_notify _
    · trivial

theorem writesBack_getById_bind {id : String} {f : Option Account → AccountProg β}
    (hf : ∀ held found, WritesBack held (f found)) : WritesBack held ((getById id).bind f) := by
  refine ⟨trivial, fun answer => ?_⟩
  rcases answer with e | _ | row
  · trivial
  · exact hf _ none
  · exact hf _ (some row)

theorem writesBack_getAccount (id : String) : WritesBack held (getAccount id) := by
  refine writesBack_getById_bind fun held found => ?_
  cases found with
  | none => trivial
  | some row => exact (quiet_expireIfPast id row).writesBack_bind fun _ => trivial

theorem writesBack_updateAccount (X : AccountExterns) (id : String) (data : UpdateAccount) :
    WritesBack held (updateAccount X id data) := by
  refine writesBack_requireAccount_bind fun row => ?_
  refine (quiet_updatedEmail X row data.email).writesBack_bind fun email => ?_
  refine (quiet_notifyRoles id row data.roles).writesBack_bind fun _ => ?_
  refine ⟨trivial, fun now => ⟨⟨row, rfl, ⟨rfl, rfl, rfl, rfl, rfl⟩⟩, fun r => ?_⟩⟩
  exact (quiet_ofStorage r).writesBack_bind fun _ =>
    (quiet_notify _).writesBack_bind fun _ => trivial

theorem writesBack_changeStatus (id : String) (target : AccountStatus) (reason : Option String)
    (event : AccountEvent) : WritesBack held (changeStatus id target reason event) := by
  refine writesBack_requireAccount_bind fun row => ?_
  refine (quiet_ensure _ _).writesBack_bind fun _ => ⟨trivial, fun r => ?_⟩
  exact (quiet_ofStorage r).writesBack_bind fun _ => (quiet_notify event).writesBack

theorem writesBack_verifyEmail (id : String) : WritesBack held (verifyEmail id) := by
  refine writesBack_requireAccount_bind fun row => ?_
  split
  · trivial
  · refine ⟨trivial, fun verifiedAt => ⟨trivial, fun updatedAt => ?_⟩⟩
    refine ⟨⟨row, rfl, ⟨rfl, rfl, rfl, rfl, rfl⟩⟩, fun r => ?_⟩
    refine (quiet_ofStorage r).writesBack_bind fun _ => (quiet_notify _).writesBack_bind fun _ => ?_
    split
    · exact (quiet_notify _).writesBack
    · trivial

theorem writesBack_changePassword (service : AccountService) (id newPassword : String) :
    WritesBack held (service.changePassword id newPassword) := by
  refine writesBack_requireAccount_bind fun row => ?_
  refine (quiet_hashPassword service newPassword).writesBack_bind fun hash => ?_
  refine ⟨trivial, fun changedAt => ⟨trivial, fun updatedAt => ?_⟩⟩
  refine ⟨⟨row, rfl, ⟨rfl, rfl, rfl, rfl, rfl⟩⟩, fun r => ?_⟩
  exact (quiet_ofStorage r).writesBack_bind fun _ => (quiet_notify _).writesBack

theorem writesBack_deleteAccount (b : KeyBackend) (id : String) :
    WritesBack held (deleteAccount b id) := by
  have hdeleted : ∀ deleted : Bool, Quiet (α := Unit)
      ((ensure deleted (.notFound id)).bind fun _ => notify (.deleted id)) :=
    fun deleted => (quiet_ensure deleted _).bind fun _ => quiet_notify _
  have hrow : Quiet (deleteRow id) := ⟨trivial, quiet_ofStorage⟩
  cases b with
  | postgres => exact hrow.writesBack_bind fun deleted => (hdeleted deleted).writesBack
  | turso => exact hrow.writesBack_bind fun deleted => (hdeleted deleted).writesBack
  | surrealDb =>
    rw [deleteAccount, Prog.bind_eq, delete, Prog.bind_eq, Prog.bind_assoc]
    refine writesBack_getById_bind fun held found => ?_
    cases found with
    | none => exact (hdeleted false).writesBack
    | some row =>
      have hdelete : Quiet ((deleteRow id).bind fun _ => (.ret true : AccountProg Bool)) :=
        hrow.bind fun _ => trivial
      exact hdelete.writesBack_bind fun deleted => (hdeleted deleted).writesBack

theorem writesBack_authenticate (X : AccountExterns) (service : AccountService)
    (email password : String) : WritesBack held (service.authenticate X email password) := by
  refine Quiet.writesBack ?_
  refine (quiet_getByEmail _).bind fun found => (quiet_orNotFound _ found).bind fun row => ?_
  exact Prog.Always.bind (Prog.always_ofExcept _) fun _ => ⟨trivial, fun _ => trivial⟩

/-- **An operation writes back the account it has read.** -/
theorem writesBack_program (X : AccountExterns) (b : KeyBackend) (service : AccountService)
    (op : AccountOp) (held : Option Account) : WritesBack held (service.program X b op) := by
  have hdiscard : ∀ {α : Type} {p : AccountProg α}, (∀ held, WritesBack held p) →
      WritesBack held (p.bind fun _ => .ret ()) :=
    fun hp => Prog.Follows.bind hp (fun _ _ => Prog.follows_ret () _) held
  cases op with
  | createAccount data => exact hdiscard fun _ => (quiet_createAccount X service data).writesBack
  | getAccount id => exact hdiscard fun _ => writesBack_getAccount id
  | getAccountByEmail email => exact hdiscard fun _ => (quiet_getByEmail email).writesBack
  | updateAccount id data => exact hdiscard fun _ => writesBack_updateAccount X id data
  | disableAccount id reason => exact writesBack_changeStatus id _ _ _
  | enableAccount id => exact writesBack_changeStatus id _ _ _
  | lockAccount id reason => exact writesBack_changeStatus id _ _ _
  | unlockAccount id => exact writesBack_changeStatus id _ _ _
  | suspendAccount id reason => exact writesBack_changeStatus id _ _ _
  | verifyEmail id => exact writesBack_verifyEmail id
  | changePassword id newPassword => exact writesBack_changePassword service id newPassword
  | deleteAccount id => exact writesBack_deleteAccount b id
  | listAccounts status limit offset =>
    exact hdiscard fun _ => ⟨trivial, fun r => (quiet_ofStorage r).writesBack⟩
  | countAccounts status =>
    exact hdiscard fun _ => ⟨trivial, fun r => (quiet_ofStorage r).writesBack⟩
  | authenticate email password =>
    exact hdiscard fun _ => writesBack_authenticate X service email password

end Protocol

/-! ### What a call does to the stops in force -/

/-- The stops in force stand, and stood in what was read. -/
structure StopsStand (b : KeyBackend) (s : AccountTable × StopNotes) : Prop where
  stored : ∀ id row, s.1.find id = some row → (s.2.inForce id).Stands b row
  held : ∀ who, ∀ held ∈ s.2.held who, held.2.Stands b held.1

section Calls

variable {X : AccountExterns} {b : KeyBackend} {t t' : AccountTable} {n : StopNotes} {id : String}

/-- An update of one row keeps what stands if it does in that row. -/
theorem StopsStand.update {f : Account → Account} {hf : ∀ a, (f a).id = a.id} {e : Evidence}
    (h : StopsStand b (t, n)) (hupdate : t.update id f hf = some t')
    (hrow : ∀ row, t.find id = some row → e.Stands b (f row)) :
    StopsStand b (t', n.setInForce id e) := by
  refine ⟨fun id' row hfind => ?_, h.held⟩
  show (Function.update n.inForce id e id').Stands b row
  rcases Table.find_update_cases hupdate hfind with ⟨rfl, old, hold, rfl⟩ | ⟨hid, hbefore⟩
  · rw [Function.update_self]
    exact hrow old hold
  · rw [Function.update_of_ne hid]
    exact h.stored id' row hbefore

@[simp] theorem StopNotes.setInForce_self (n : StopNotes) (id : String) :
    n.setInForce id (n.inForce id) = n := by
  rw [setInForce, Function.update_eq_self]

/-- What was read is noted with what was in force of it. -/
theorem StopsStand.read {row : Account} (h : StopsStand b (t, n)) (who : ℕ)
    (hrow : t.find id = some row) : StopsStand b (t, n.read who row) := by
  refine ⟨h.stored, fun j held hheld => ?_⟩
  by_cases hj : j = who
  · subst hj
    obtain rfl : (row, n.inForce row.id) = held := by
      simpa [StopNotes.read] using hheld
    obtain rfl : row.id = id := Table.key_of_find hrow
    exact h.stored row.id row hrow
  · refine h.held j held ?_
    simpa [StopNotes.read, Function.update_of_ne hj] using hheld

theorem StopsStand.create (h : StopsStand b (t, n)) {account : Account}
    (hinsert : t.insert (b.accountRow X account) = some t') :
    StopsStand b (t', n.setInForce account.id .nothing) := by
  refine ⟨fun id row hfind => ?_, h.held⟩
  show (Function.update n.inForce account.id .nothing id).Stands b row
  by_cases hid : id = account.id
  · subst hid
    rw [Function.update_self]
    exact Evidence.nothing_stands b row
  · rw [Table.find_insert hinsert, if_neg fun heq => hid heq.symm] at hfind
    rw [Function.update_of_ne hid]
    exact h.stored id row hfind

/-- An identifier that is not stored has no evidence to stand. -/
theorem StopsStand.forget (h : StopsStand b (t, n)) (hnone : t.find id = none) (e : Evidence) :
    StopsStand b (t, n.setInForce id e) := by
  refine ⟨fun id' row hfind => ?_, h.held⟩
  have hid : id' ≠ id := by
    rintro rfl
    exact absurd (hnone.symm.trans hfind) (Option.some_ne_none _).symm
  show (Function.update n.inForce id e id').Stands b row
  rw [Function.update_of_ne hid]
  exact h.stored id' row hfind

theorem StopsStand.erase (h : StopsStand b (t, n)) (id : String) :
    StopsStand b (t.erase id, n) := by
  refine ⟨fun id' row hfind => ?_, h.held⟩
  rw [Table.find_erase] at hfind
  split at hfind
  · contradiction
  · exact h.stored id' row hfind

/-- A read by the identifier finds what is stored, or fails. -/
theorem getById_cases (b : KeyBackend) (fault : KeyFault) (id : String) (t : AccountTable) :
    AccountStorage.getById b fault id t = .ok (t.find id) ∨
      ∃ e, AccountStorage.getById b fault id t = .error e := by
  cases fault with
  | none => exact .inl rfl
  | unreachable e => exact .inr ⟨_, rfl⟩
  | lostReply e => exact .inr ⟨_, rfl⟩
  | rejected e => exact .inr ⟨_, rfl⟩
  | cut kept e => exact .inr ⟨_, rfl⟩

/-- What a read by the identifier finds is noted. -/
theorem StopsStand.answer_getById (h : StopsStand b (t, n)) (who : ℕ) (input : AccountInput)
    (id : String) : StopsStand b (stopAnswer X b (t, n) who input (.getById id)).1 := by
  show StopsStand b (t, stopNotes X b n t who input (.getById id)
    (AccountStorage.getById b input.fault id t) t)
  rcases getById_cases b input.fault id t with hfound | ⟨e, he⟩
  · rw [hfound]
    cases hfind : t.find id with
    | none => exact h
    | some row => exact h.read who hfind
  · rw [he]
    exact h

/-- A new account has nothing in force; one that is refused leaves what there is. -/
theorem StopsStand.answer_create (h : StopsStand b (t, n)) (who : ℕ) (input : AccountInput)
    (account : Account) : StopsStand b (stopAnswer X b (t, n) who input (.create account)).1 := by
  show StopsStand b ((execute X b input.fault _ (t.insert (b.accountRow X account)) t).1,
    if (t.find account.id).isNone then n.setInForce account.id .nothing else n)
  rw [execute_fst]
  cases hinsert : t.insert (b.accountRow X account) with
  | none =>
    rw [Option.getD_none, ite_self]
    split
    · next hnone => exact h.forget (Option.isNone_iff_eq_none.mp hnone) _
    · exact h
  | some t' =>
    have hnone : t.find account.id = none :=
      Table.find_of_insert (a := b.accountRow X account) hinsert
    rw [hnone, if_pos (show (none : Option Account).isNone = true from rfl), Option.getD_some]
    split
    · exact h.create hinsert
    · exact h.forget hnone _

/-- A row that is written back changes the status, and then nothing is in force, or keeps what it
was read under. -/
theorem StopsStand.answer_update (h : StopsStand b (t, n)) (who : ℕ) (input : AccountInput)
    {account : Account} (hc : MayWrite ((n.held who).map Prod.fst) (.update account))
    (hfresh : ∀ held ∈ n.held who, TakesEffect input.fault →
      account.status = held.1.status → (n.inForce account.id).Within held.2) :
    StopsStand b (stopAnswer X b (t, n) who input (.update account)).1 := by
  show StopsStand b ((execute X b input.fault _ (updated X b account input.now t) t).1,
    if TakesEffect input.fault ∧ (updated X b account input.now t).isSome ∧
      n.ChangesStatus who account then n.setInForce account.id .nothing else n)
  rw [execute_fst]
  by_cases heffect : TakesEffect input.fault
  · cases hupdated : updated X b account input.now t with
    | none => simpa using h
    | some t' =>
      rw [if_pos heffect, Option.getD_some]
      split
      · exact h.update hupdated fun row _ => Evidence.nothing_stands b _
      · next hkept =>
        obtain ⟨row, hrow, hcopies⟩ := hc
        obtain ⟨held, hheld, rfl⟩ := Option.map_eq_some_iff.mp hrow
        have hstatus : account.status = held.1.status := by
          by_contra hne
          exact hkept ⟨heffect, rfl, held, hheld, hne⟩
        -- what is in force now was in force when the row was read
        have hstands := (h.held who held hheld).of_within (hfresh held hheld heffect hstatus)
        rw [← n.setInForce_self account.id]
        exact h.update hupdated fun old _ => hstands.rewritten hcopies hstatus input.now old
  · rw [if_neg heffect, if_neg fun hall => heffect hall.1]
    exact h

/-- **A call keeps what stands**, if its write is fresh. -/
theorem StopsStand.answer {s : AccountTable × StopNotes} (h : StopsStand b s) (who : ℕ)
    (input : AccountInput) (c : AccountCall) (hc : MayWrite ((s.2.held who).map Prod.fst) c)
    (hfresh : ∀ account, c = .update account → ∀ held ∈ s.2.held who, TakesEffect input.fault →
      account.status = held.1.status → (s.2.inForce account.id).Within held.2) :
    StopsStand b (stopAnswer X b s who input c).1 := by
  obtain ⟨t, n⟩ := s
  cases c with
  -- a caller that reads a row holds it from then on
  | getById id => exact h.answer_getById who input id
  | create account => exact h.answer_create who input account
  | update account => exact h.answer_update who input hc (hfresh account rfl)
  -- a change of status is put in force where it takes effect
  | updateStatus id status reason =>
    show StopsStand b ((execute X b input.fault _ (statusUpdated b id status reason input.now t)
      t).1, if TakesEffect input.fault then n.setInForce id _ else n)
    obtain ⟨t', ht'⟩ := exists_statusUpdated b id status reason input.now t
    rw [execute_fst, ht', Option.getD_some]
    split
    · exact h.update ht' fun row hrow => (h.stored id row hrow).after status reason input.now
    · exact h
  | deleteRow id =>
    show StopsStand b ((execute X b input.fault _ (some (t.erase id)) t).1, n)
    rw [execute_fst, Option.getD_some]
    split
    · exact h.erase id
    · exact h
  -- a login changes neither the status nor what belongs to it
  | recordLogin id =>
    show StopsStand b ((execute X b input.fault _ (loginRecorded b id input.now t) t).1, n)
    obtain ⟨t', ht'⟩ := exists_loginRecorded b id input.now t
    rw [execute_fst, ht', Option.getD_some]
    split
    · rw [← n.setInForce_self id]
      refine h.update ht' fun row hrow => ?_
      obtain ⟨hstatus, hlocked, hdisabled⟩ := h.stored id row hrow
      exact ⟨hstatus, hlocked, hdisabled⟩
    · exact h
  -- the rest writes no row and gives nobody one to hold
  | getByEmail email => exact h
  | getByUsername username => exact h
  | list status limit offset => exact h
  | count status => exact h
  | utcNow => exact h
  | newId => exact h
  | salt => exact h
  | notify event => exact h

/-- A call changes the copy of its own caller only, and that copy is the row the caller has just
read. -/
theorem held_stopAnswer (s : AccountTable × StopNotes) (who : ℕ) (input : AccountInput)
    (c : AccountCall) :
    (∀ j, j ≠ who → (stopAnswer X b s who input c).1.2.held j = s.2.held j) ∧
      ((stopAnswer X b s who input c).1.2.held who).map Prod.fst
        = nextHeld ((s.2.held who).map Prod.fst) c (stopAnswer X b s who input c).2 := by
  obtain ⟨t, n⟩ := s
  cases c with
  | getById id =>
    show (∀ j, j ≠ who → (stopNotes X b n t who input (.getById id)
      (AccountStorage.getById b input.fault id t) t).held j = n.held j) ∧
      ((stopNotes X b n t who input (.getById id)
        (AccountStorage.getById b input.fault id t) t).held who).map Prod.fst
        = nextHeld _ (.getById id) (AccountStorage.getById b input.fault id t)
    rcases AccountStorage.getById b input.fault id t with e | _ | row
    · exact ⟨fun _ _ => rfl, rfl⟩
    · exact ⟨fun _ _ => rfl, rfl⟩
    · refine ⟨fun j hj => Function.update_of_ne hj _ _, ?_⟩
      simp [stopNotes, StopNotes.read, nextHeld]
  | create account =>
    simp only [stopAnswer, observed, stopNotes]
    split <;> exact ⟨fun _ _ => rfl, rfl⟩
  | update account =>
    simp only [stopAnswer, observed, stopNotes]
    split <;> exact ⟨fun _ _ => rfl, rfl⟩
  | updateStatus id status reason =>
    simp only [stopAnswer, observed, stopNotes]
    split <;> exact ⟨fun _ _ => rfl, rfl⟩
  | deleteRow id => exact ⟨fun _ _ => rfl, rfl⟩
  | recordLogin id => exact ⟨fun _ _ => rfl, rfl⟩
  | getByEmail email => exact ⟨fun _ _ => rfl, rfl⟩
  | getByUsername username => exact ⟨fun _ _ => rfl, rfl⟩
  | list status limit offset => exact ⟨fun _ _ => rfl, rfl⟩
  | count status => exact ⟨fun _ _ => rfl, rfl⟩
  | utcNow => exact ⟨fun _ _ => rfl, rfl⟩
  | newId => exact ⟨fun _ _ => rfl, rfl⟩
  | salt => exact ⟨fun _ _ => rfl, rfl⟩
  | notify event => exact ⟨fun _ _ => rfl, rfl⟩

end Calls

/-- **Status changes are not lost** in an interleaving in which every row is written back under
the stops it was read under: whatever the calls meet, what the disabling, locking and suspending
of an account has written stands in the stored row until the account is made active, expires or
is verified. -/
theorem stands_of_reach (X : AccountExterns) (b : KeyBackend) (service : AccountService)
    (t : AccountTable) {pool : AccountPool}
    (h : Reach (Pool.step (stopAnswer X b) (service.program X b)) FreshWrite
      (Pool.idle (t, StopNotes.empty)) pool) (id : String) (row : Account)
    (hrow : pool.state.1.find id = some row) :
    (pool.state.2.inForce id).Stands b row := by
  have hinit : StopsStand b (t, StopNotes.empty) :=
    ⟨fun _ row _ => Evidence.nothing_stands b row, fun _ _ hheld => nomatch hheld⟩
  have hinv := Pool.invariant (I := StopsStand b)
    (T := fun s who p => WritesBack ((s.2.held who).map Prod.fst) p) hinit (fun _ _ => trivial)
    (fun pool who op _ _ => writesBack_program X b service op _) ?_ h
  · exact hinv.1.stored id row hrow
  · intro pool who input c k hstand hthread hwrites hallowed
    obtain ⟨hothers, hown⟩ := held_stopAnswer (X := X) (b := b) pool.state who input c
    refine ⟨hstand.answer who input c hwrites.1 ?_, ?_, ?_⟩
    · rintro account rfl
      exact hallowed account (by rw [hthread]; rfl)
    · show WritesBack _ _
      rw [hown]
      exact hwrites.2 _
    · intro j p hj hp
      show WritesBack _ _
      rw [hothers j hj]
      exact hp

/-! ### Samples -/

/-- The next calls of a caller meet no fault. -/
def sampleAccountSteps (who n : ℕ) (now : DateTime) : List (Action AccountOp AccountInput) :=
  List.replicate n (.step who ⟨now, .none, "", "salt"⟩)

/-- A store in which one account was created without a verification requirement, so that it is
active. -/
def sampleOneAccount : AccountTable :=
  (sampleRun [sampleAction (.createAccount (sampleSignup "a@example.com" none)) (sampleTime 0)
    "acct_1"]).1

/-- An update of that account that asks for another username and leaves everything else alone. -/
def sampleRename : AccountOp := .updateAccount "acct_1" ⟨none, some "anna", none, none, none⟩

/-- The pool of callers after these actions on the store with the one account, and the notes they
have left. -/
def samplePool (actions : List (Action AccountOp AccountInput)) : AccountPool :=
  actions.foldl (Pool.step (stopAnswer sampleAccountExterns .turso)
    (sampleAccounts.program sampleAccountExterns .turso)) (Pool.idle (sampleOneAccount, .empty))

/-- The account is renamed while it is being disabled, and then its password is changed. -/
def sampleFreshWrites : List (Action AccountOp AccountInput) :=
  .start 0 sampleRename :: .start 1 (.disableAccount "acct_1" "abuse") ::
    sampleAccountSteps 0 1 (sampleTime 1) ++ sampleAccountSteps 1 1 (sampleTime 1) ++
    sampleAccountSteps 0 2 (sampleTime 1) ++ sampleAccountSteps 1 2 (sampleTime 2) ++
    .start 2 (.changePassword "acct_1" "a new password") :: sampleAccountSteps 2 6 (sampleTime 3)

theorem stands_of_reach_sample :
    (samplePool sampleFreshWrites).state.2.inForce "acct_1"
      = ⟨some .disabled, none, some (sampleTime 2, some "abuse")⟩ ∧
    ∀ row, (samplePool sampleFreshWrites).state.1.find "acct_1" = some row →
      ((samplePool sampleFreshWrites).state.2.inForce "acct_1").Stands .turso row := by
  have hallowed : Allowed (Pool.step (stopAnswer sampleAccountExterns .turso)
      (sampleAccounts.program sampleAccountExterns .turso)) FreshWrite
      (Pool.idle (sampleOneAccount, .empty)) sampleFreshWrites := by
    decide +kernel
  exact ⟨by decide +kernel, stands_of_reach sampleAccountExterns .turso sampleAccounts
    sampleOneAccount (Reach.foldl .start hallowed) "acct_1"⟩

/-- The account is disabled between the reading and the writing of its renaming. -/
def sampleLostDisable : List (Action AccountOp AccountInput) :=
  .start 0 sampleRename :: sampleAccountSteps 0 1 (sampleTime 1) ++
    .start 1 (.disableAccount "acct_1" "abuse") :: sampleAccountSteps 1 3 (sampleTime 2) ++
    sampleAccountSteps 0 2 (sampleTime 3)

/-- The disabling has returned, and the renaming makes the account active again. -/
theorem not_forall_stands :
    (samplePool sampleLostDisable).threads 1 = .ret () ∧
    ¬ ∀ (X : AccountExterns) (b : KeyBackend) (service : AccountService) (t : AccountTable)
      (pool : AccountPool),
      Reach (Pool.step (stopAnswer X b) (service.program X b)) (fun _ _ => True)
        (Pool.idle (t, StopNotes.empty)) pool →
      ∀ id row, pool.state.1.find id = some row → (pool.state.2.inForce id).Stands b row := by
  refine ⟨rfl, fun h => ?_⟩
  have hreach : Reach (Pool.step (stopAnswer sampleAccountExterns .turso)
      (sampleAccounts.program sampleAccountExterns .turso)) (fun _ _ => True)
      (Pool.idle (sampleOneAccount, StopNotes.empty)) (samplePool sampleLostDisable) :=
    Reach.foldl .start (Allowed.of_forall (fun _ _ _ => trivial) _)
  have hactive : ((samplePool sampleLostDisable).state.1.find "acct_1").map Account.status
      = some .active := by
    decide +kernel
  have hdisabled : ((samplePool sampleLostDisable).state.2.inForce "acct_1").status
      = some .disabled := by
    decide +kernel
  obtain ⟨row, hrow, hstatus⟩ := Option.map_eq_some_iff.mp hactive
  have hstands := (h _ _ _ _ _ hreach "acct_1" row hrow).status _ hdisabled
  rw [hstatus] at hstands
  contradiction

end ActonService
