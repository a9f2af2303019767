import ActonService.Accounts.Handlers
import ActonService.Lib.TwoRuns

/-!
# Password hashes in account responses

The account handlers answer with `Account` as it is serialized, and that has a field for the
password hash.  Two stores that are equal except for the hashes are compared by what the handlers
answer: the programs go on alike over both, and what they end with are accounts that differ in
their hashes only.

## Main definitions

* `SameButHashes` — the stores are equal except for the password hashes.
* `AccountRequest.accounts` — the stored accounts a request is answered with.
* `HidesHashes` — a request is answered with the same body over both stores.
* `AlikeOn` — two accounts that differ in the hash at most.

## Main results

* `respond_alike` — calls over such stores get answers that differ in hashes only.
* `program_alike` — the handlers go on alike over them.
* `hidesHashes_iff` — **a body hides the hashes exactly if those of the accounts in it are the
  same.**
-/

namespace ActonService

open Effect Tables AccountProg AccountService AccountWorld AccountStorage

/-! ### Stores that differ in hashes -/

/-- An account without its password hash, which is all that two accounts may differ in to be alike.
-/
def Account.withoutHash (account : Account) : Account := { account with passwordHash := none }

/-- The stores are equal except for the password hashes of their accounts. -/
def SameButHashes (t t' : AccountTable) : Prop :=
  t.rows.map Account.withoutHash = t'.rows.map Account.withoutHash

/-- The address an update asks for, if it asks for one, is valid, and no other account has it. -/
def AddressFree (X : AccountExterns) (id : String) (data : UpdateAccount) (t : AccountTable) :
    Prop :=
  ∀ raw ∈ data.email, isValidEmail (normalizeEmail X raw) = true ∧
    ∀ a ∈ t.rows, a.email = normalizeEmail X raw → a.id = id

instance decidableAddressFree (X : AccountExterns) (id : String) (data : UpdateAccount)
    (t : AccountTable) : Decidable (AddressFree X id data t) :=
  inferInstanceAs (Decidable (∀ raw ∈ data.email, _))

/-- The stored accounts a request is answered with when no call fails. -/
def AccountRequest.accounts (X : AccountExterns) (b : KeyBackend) (t : AccountTable) :
    AccountRequest → List Account
  | .create _ => []
  | .get id => (t.find id).toList
  | .update id data => if AddressFree X id data t then (t.find id).toList else []
  | .list query =>
    (page X b query.pageLimit query.pageOffset
      (newestFirst X b (ofStatus query.statusFilter t))).toOption.getD []

/-- Whatever its calls meet, the request is answered with the same body over both stores. -/
def HidesHashes (A : RestExterns) (b : KeyBackend) (service : AccountService)
    (request : AccountRequest) (t t' : AccountTable) : Prop :=
  ∀ inputs, (AccountHandlers.response A b service request t inputs).body
    = (AccountHandlers.response A b service request t' inputs).body

/-! ### Accounts that differ in the hash -/

/-- The accounts differ in the hash at most, and not even in that if the identifier is `known`. -/
def AlikeOn (known : String → Prop) (account account' : Account) : Prop :=
  ∃ hash, account' = { account with passwordHash := hash } ∧
    (known account.id → account' = account)

/-- The tables have such accounts one by one. -/
def TablesAlike (known : String → Prop) (t t' : AccountTable) : Prop :=
  List.Forall₂ (AlikeOn known) t.rows t'.rows

section Alike

variable {known : String → Prop} {account account' row row' : Account}

theorem AlikeOn.refl (account : Account) : AlikeOn known account account :=
  ⟨account.passwordHash, rfl, fun _ => rfl⟩

theorem AlikeOn.of_update {f : Account → Account}
    (hf : ∀ account hash, f { account with passwordHash := hash }
      = { f account with passwordHash := hash })
    (hid : ∀ account, (f account).id = account.id) (h : AlikeOn known account account') :
    AlikeOn known (f account) (f account') := by
  obtain ⟨hash, rfl, hknown⟩ := h
  refine ⟨hash, hf account hash, fun hk => ?_⟩
  rw [hknown (hid account ▸ hk)]

theorem AlikeOn.withoutHash (h : AlikeOn known account account') :
    account'.withoutHash = account.withoutHash := by
  obtain ⟨hash, rfl, -⟩ := h
  rfl

theorem alikeOn_of_withoutHash (h : account.withoutHash = account'.withoutHash)
    (hknown : known account.id → account.passwordHash = account'.passwordHash) :
    AlikeOn known account account' := by
  have heq : account' = { account with passwordHash := account'.passwordHash } :=
    congrArg (fun a : Account => { a with passwordHash := account'.passwordHash }) h.symm
  refine ⟨account'.passwordHash, heq, fun hk => ?_⟩
  rw [heq, ← hknown hk]

/-- Rows that differ in the hash have the same identifier and address. -/
theorem alikeOn_rowRel : Table.RowRel Account.id Account.email (AlikeOn known) where
  key_eq := by
    rintro a _ ⟨hash, rfl, -⟩
    rfl
  unique_eq := by
    rintro a _ ⟨hash, rfl, -⟩
    rfl

theorem AlikeOn.accountRow (X : AccountExterns) (b : KeyBackend)
    (h : AlikeOn known account account') :
    AlikeOn known (b.accountRow X account) (b.accountRow X account') :=
  h.of_update (fun _ _ => rfl) fun _ => rfl

theorem AlikeOn.withStatus (b : KeyBackend) (status : AccountStatus) (reason : Option String)
    (now : DateTime) (h : AlikeOn known row row') :
    AlikeOn known (row.withStatus b status reason now) (row'.withStatus b status reason now) :=
  h.of_update (fun _ _ => by cases status <;> rfl) (Account.withStatus_id b status reason now)

/-- A row that is rewritten has the hash of the account written. -/
theorem AlikeOn.rewritten (X : AccountExterns) (b : KeyBackend) (now : DateTime)
    (h : AlikeOn known account account') (hrow : AlikeOn known row row')
    (hid : row.id = account.id) :
    AlikeOn known (account.rewritten X b now row) (account'.rewritten X b now row') := by
  obtain ⟨hash, rfl, hknown⟩ := h
  obtain ⟨hash', rfl, -⟩ := hrow
  refine ⟨hash, ?_, fun hk => ?_⟩
  · rw [Account.rewritten, Account.rewritten]
    split <;> rfl
  · rw [Account.rewritten_id, hid] at hk
    rw [hknown hk, Account.rewritten, Account.rewritten]

end Alike

/-! ### Statements -/

section Statements

variable {X : AccountExterns} {b : KeyBackend} {known : String → Prop} {t t' : AccountTable}

/-- Tables that are alike have an account under an identifier both or neither, and the two are
alike. -/
theorem find_alike (id : String) (h : TablesAlike known t t') :
    Option.Rel (fun a a' => AlikeOn known a a' ∧ a.id = id) (t.find id) (t'.find id) := by
  have hrel := Table.find_rel alikeOn_rowRel h id
  have hkey : ∀ a, t.find id = some a → a.id = id := fun a ha => Table.key_of_find ha
  generalize t.find id = found at hrel hkey ⊢
  generalize t'.find id = found' at hrel ⊢
  cases hrel with
  | none => exact .none
  | some ha => exact .some ⟨ha, hkey _ rfl⟩

variable (X b) in
/-- A writing statement that would leave related tables. -/
theorem execute_alike (fault : KeyFault) (what : String) {next next' : Option AccountTable}
    (hnext : Option.Rel (TablesAlike known) next next') (h : TablesAlike known t t') :
    (execute X b fault what next t).2 = (execute X b fault what next' t').2 ∧
      TablesAlike known (execute X b fault what next t).1 (execute X b fault what next' t').1 := by
  cases hnext with
  | none => cases fault <;> exact ⟨rfl, h⟩
  | some hnext =>
    cases fault with
    | none => exact ⟨rfl, hnext⟩
    | unreachable e => exact ⟨rfl, h⟩
    | rejected e => exact ⟨rfl, h⟩
    | lostReply e => exact ⟨rfl, hnext⟩
    | cut kept e => exact ⟨rfl, hnext⟩

theorem readOne_alike {fault : KeyFault} {what : String} {found found' : Option Account}
    {R : Account → Account → Prop} (h : Option.Rel R found found') :
    ExceptRel (Option.Rel R) (readOne b fault what found) (readOne b fault what found') := by
  cases fault with
  | none => exact .ok h
  | unreachable e => exact .error _
  | rejected e => exact .error _
  | lostReply e => exact .error _
  | cut kept e => exact .error _

theorem ofStatus_alike (status : Option AccountStatus) (h : TablesAlike known t t') :
    List.Forall₂ (AlikeOn known) (ofStatus status t) (ofStatus status t') := by
  cases status with
  | none => exact h
  | some status =>
    refine forall₂_filter ?_ h
    rintro a _ ⟨hash, rfl, -⟩
    rfl

/-- Tables that are alike list the same page of accounts, each of them alike. -/
theorem page_alike (status : Option AccountStatus) (limit offset : UInt64)
    (h : TablesAlike known t t') :
    ExceptRel (List.Forall₂ (AlikeOn known))
      (page X b limit offset (newestFirst X b (ofStatus status t)))
      (page X b limit offset (newestFirst X b (ofStatus status t'))) := by
  have hsorted : List.Forall₂ (AlikeOn known) (newestFirst X b (ofStatus status t))
      (newestFirst X b (ofStatus status t')) := by
    rw [newestFirst, newestFirst]
    split
    · refine forall₂_mergeSort ?_ (ofStatus_alike status h)
      rintro a _ c _ ⟨hash, rfl, -⟩ ⟨hash', rfl, -⟩
      rfl
    · refine forall₂_mergeSort ?_ (ofStatus_alike status h)
      rintro a _ c _ ⟨hash, rfl, -⟩ ⟨hash', rfl, -⟩
      rfl
  have hrest := List.forall₂_drop offset.toInt64.toNatClampNeg hsorted
  simp only [page]
  split
  · split
    · exact .ok hrest
    · exact .ok (List.forall₂_take _ hrest)
  · split
    · exact .error _
    · exact .ok (List.forall₂_take _ hrest)

theorem list_alike {fault : KeyFault} (status : Option AccountStatus) (limit offset : UInt64)
    (h : TablesAlike known t t') :
    ExceptRel (List.Forall₂ (AlikeOn known)) (list X b fault status limit offset t)
      (list X b fault status limit offset t') := by
  have hpage := page_alike (X := X) (b := b) status limit offset h
  unfold AccountStorage.list
  generalize page X b limit offset (newestFirst X b (ofStatus status t)) = rows at hpage ⊢
  generalize page X b limit offset (newestFirst X b (ofStatus status t')) = rows' at hpage ⊢
  cases hpage with
  | error e =>
    cases fault <;> exact .error _
  | ok hrows =>
    cases fault with
    | none => exact .ok hrows
    | unreachable e => exact .error _
    | rejected e => exact .error _
    | lostReply e => exact .error _
    | cut kept e =>
      dsimp only
      split
      · refine .ok (forall₂_takeWhile ?_ hrows)
        rintro a _ ⟨hash, rfl, -⟩
        rfl
      · exact .error _

theorem count_alike (b : KeyBackend) (fault : KeyFault) (status : Option AccountStatus)
    (h : TablesAlike known t t') : count b fault status t = count b fault status t' := by
  have hlength := (ofStatus_alike status h).length_eq
  cases fault with
  | none => simp only [count, hlength]
  | unreachable e => rfl
  | rejected e => cases b <;> rfl
  | lostReply e => rfl
  | cut kept e => cases b <;> rfl

end Statements

/-! ### Calls -/

/-- The same call, or two that write accounts that differ in the hash. -/
inductive CallsAlike (known : String → Prop) : AccountCall → AccountCall → Prop
  | same (c : AccountCall) : CallsAlike known c c
  | update {account account' : Account} (h : AlikeOn known account account') :
      CallsAlike known (.update account) (.update account')

/-- The answers differ in the hashes of accounts. -/
def AnswersAlike (known : String → Prop) :
    (c : AccountCall) → (c' : AccountCall) → c.Answer → c'.Answer → Prop
  | .getById id, .getById _, r, r' =>
    ExceptRel (Option.Rel fun a a' => AlikeOn known a a' ∧ a.id = id) r r'
  | .getByEmail _, .getByEmail _, r, r' => ExceptRel (Option.Rel (AlikeOn known)) r r'
  | .getByUsername _, .getByUsername _, r, r' => ExceptRel (Option.Rel (AlikeOn known)) r r'
  | .list _ _ _, .list _ _ _, r, r' => ExceptRel (List.Forall₂ (AlikeOn known)) r r'
  | _, _, r, r' => HEq r r'

section Calls

variable (X : AccountExterns) (b : KeyBackend) {known : String → Prop}

/-- **Calls over such stores** get answers that differ in hashes only. -/
theorem respond_alike {t t' : AccountTable} (h : TablesAlike known t t') (input : AccountInput)
    {c c' : AccountCall} (hc : CallsAlike known c c') :
    AnswersAlike known c c' (respond X b t 0 input c).2 (respond X b t' 0 input c').2 ∧
      TablesAlike known (respond X b t 0 input c).1 (respond X b t' 0 input c').1 := by
  -- the two calls are the same one, or updates with accounts that are alike
  cases hc with
  | @update account account' haccount =>
    have hid : account.id = account'.id := alikeOn_rowRel.key_eq _ _ haccount
    -- the rows that are written differ in what the rows they replace differ in
    have hnext : Option.Rel (TablesAlike known) (updated X b account input.now t)
        (updated X b account' input.now t') := by
      rw [updated, updated, ← hid]
      exact Table.update_rel alikeOn_rowRel h account.id
        (fun row row' hrow hrowid => haccount.rewritten X b input.now hrow hrowid) _ _
    obtain ⟨hanswer, htable⟩ := execute_alike X b input.fault "Failed to update account: " hnext h
    exact ⟨heq_of_eq hanswer, htable⟩
  | same c =>
    cases c with
    -- a statement that writes: the tables it makes are alike, and it takes effect on both or on
    -- neither
    | create account =>
      have hnext := Table.insert_rel alikeOn_rowRel h (AlikeOn.refl (b.accountRow X account))
      obtain ⟨hanswer, htable⟩ := execute_alike X b input.fault "Failed to create account: " hnext h
      exact ⟨heq_of_eq hanswer, htable⟩
    -- a statement that reads: it finds accounts that are alike, or none in either table
    | getById id => exact ⟨readOne_alike (find_alike id h), h⟩
    | getByEmail email =>
      refine ⟨readOne_alike (find?_rel ?_ h), h⟩
      rintro a _ ⟨hash, rfl, -⟩
      rfl
    | getByUsername username =>
      refine ⟨readOne_alike (find?_rel ?_ h), h⟩
      rintro a _ ⟨hash, rfl, -⟩
      rfl
    | update account =>
      have hnext : Option.Rel (TablesAlike known) (updated X b account input.now t)
          (updated X b account input.now t') :=
        Table.update_rel alikeOn_rowRel h account.id
          (fun row row' hrow hrowid => (AlikeOn.refl account).rewritten X b input.now hrow hrowid)
          _ _
      obtain ⟨hanswer, htable⟩ := execute_alike X b input.fault "Failed to update account: " hnext h
      exact ⟨heq_of_eq hanswer, htable⟩
    | updateStatus id status reason =>
      have hnext : Option.Rel (TablesAlike known) (statusUpdated b id status reason input.now t)
          (statusUpdated b id status reason input.now t') :=
        Table.update_rel alikeOn_rowRel h id
          (fun row row' hrow _ => hrow.withStatus b status reason input.now) _ _
      obtain ⟨hanswer, htable⟩ := execute_alike X b input.fault "Failed to update status: " hnext h
      exact ⟨heq_of_eq hanswer, htable⟩
    | list status limit offset => exact ⟨list_alike status limit offset h, h⟩
    | count status => exact ⟨heq_of_eq (count_alike b _ status h), h⟩
    | deleteRow id =>
      have hnext : Option.Rel (TablesAlike known) (some (t.erase id)) (some (t'.erase id)) :=
        .some (Table.erase_rel alikeOn_rowRel h id)
      obtain ⟨hanswer, htable⟩ := execute_alike X b input.fault "Failed to delete account: " hnext h
      -- whether a row was there is answered besides
      have hfound := isSome_eq_of_rel (Table.find_rel alikeOn_rowRel h id)
      refine ⟨heq_of_eq ?_, htable⟩
      show (execute X b _ _ _ t).2.map (fun _ => (t.find id).isSome)
        = (execute X b _ _ _ t').2.map fun _ => (t'.find id).isSome
      rw [hanswer, hfound]
    | recordLogin id =>
      have hnext : Option.Rel (TablesAlike known) (loginRecorded b id input.now t)
          (loginRecorded b id input.now t') :=
        Table.update_rel alikeOn_rowRel h id
          (fun row row' hrow _ => hrow.of_update (f := Account.loggedIn b input.now)
            (fun _ _ => rfl) fun _ => rfl) _ _
      obtain ⟨hanswer, htable⟩ := execute_alike X b input.fault "Failed to record login: " hnext h
      exact ⟨heq_of_eq hanswer, htable⟩
    -- what does not touch the table is answered alike by the inputs
    | utcNow => exact ⟨HEq.rfl, h⟩
    | newId => exact ⟨HEq.rfl, h⟩
    | salt => exact ⟨HEq.rfl, h⟩
    | notify event => exact ⟨HEq.rfl, h⟩

end Calls

/-! ### Programs -/

/-- The programs go on alike over such stores. -/
abbrev GoAlike {α α' : Type} (known : String → Prop) (R : α → α' → Prop) (p : AccountProg α)
    (p' : AccountProg α') : Prop :=
  Prog.Alike (CallsAlike known) (AnswersAlike known) R p p'

/-- A call whose answer does not speak of stored accounts. -/
def AccountCall.isSilent : AccountCall → Bool
  | .getById _ | .getByEmail _ | .getByUsername _ | .list _ _ _ => false
  | _ => true

theorem eq_of_isSilent {known : String → Prop} {c : AccountCall} (hc : c.isSilent = true)
    (r r' : c.Answer) (h : AnswersAlike known c c r r') : r = r' := by
  cases c with
  | getById id => contradiction
  | getByEmail email => contradiction
  | getByUsername username => contradiction
  | list status limit offset => contradiction
  | _ => exact eq_of_heq h

section Programs

variable {known : String → Prop} {α : Type} {X : AccountExterns} {service : AccountService}

theorem goAlike_of_isSilent {p : AccountProg α} (h : p.Always fun c _ => c.isSilent = true) :
    GoAlike known Eq p p := by
  refine .of_always ?_
  induction p with
  | ret a => trivial
  | fail e => trivial
  | call c k ih => exact ⟨⟨.same c, eq_of_isSilent h.1⟩, fun a => ih a (h.2 a)⟩

theorem goAlike_ofStorage {R : α → α → Prop} {r r' : Except ServiceError α}
    (h : ExceptRel R r r') : GoAlike known R (ofStorage r) (ofStorage r') :=
  .ofExcept (h.mapError _)

theorem goAlike_ensure {ok ok' : Bool} (hok : ok = ok') (e : AccountError) :
    GoAlike known Eq (ensure ok e) (ensure ok' e) := by
  subst hok
  cases ok with
  | false => exact rfl
  | true => exact rfl

theorem goAlike_getById (id : String) :
    GoAlike known (Option.Rel fun a a' => AlikeOn known a a' ∧ a.id = id) (getById id)
      (getById id) :=
  ⟨.same _, fun _ _ h => goAlike_ofStorage h⟩

theorem goAlike_getByEmail (email : String) :
    GoAlike known (Option.Rel (AlikeOn known)) (getByEmail email) (getByEmail email) :=
  ⟨.same _, fun _ _ h => goAlike_ofStorage h⟩

theorem goAlike_getByUsername (username : String) :
    GoAlike known (Option.Rel (AlikeOn known)) (getByUsername username) (getByUsername username) :=
  ⟨.same _, fun _ _ h => goAlike_ofStorage h⟩

theorem goAlike_checkEmail (email : String) :
    GoAlike known Eq (checkEmail email) (checkEmail email) :=
  goAlike_ensure rfl _

theorem goAlike_notify (event : AccountEvent) : GoAlike known Eq (notify event) (notify event) :=
  goAlike_of_isSilent ⟨rfl, fun _ => trivial⟩

theorem goAlike_utcNow : GoAlike known Eq utcNow utcNow :=
  goAlike_of_isSilent ⟨rfl, fun _ => trivial⟩

theorem goAlike_newId : GoAlike known Eq newId newId :=
  goAlike_of_isSilent ⟨rfl, fun _ => trivial⟩

theorem goAlike_hashNewPassword (password : Option String) :
    GoAlike known Eq (service.hashNewPassword password) (service.hashNewPassword password) := by
  apply goAlike_of_isSilent
  cases password with
  | none => trivial
  | some password =>
    have hhash : (service.hashPassword password).Always fun c _ => c.isSilent = true :=
      ⟨rfl, fun _ => Prog.always_ofExcept _⟩
    exact hhash.bind fun _ => trivial

theorem goAlike_checkUsername (username : Option String) :
    GoAlike known Eq (service.checkUsername username) (service.checkUsername username) := by
  cases username with
  | none => exact rfl
  | some username =>
    rw [checkUsername]
    split
    · refine (goAlike_getByUsername username).bind fun found found' hfound => ?_
      cases hfound with
      | none => exact rfl
      | some h => exact rfl
    · exact rfl

/-- **Creating an account** ends with the same account. -/
theorem goAlike_createAccount (data : CreateAccount) :
    GoAlike known Eq (service.createAccount X data) (service.createAccount X data) := by
  refine (goAlike_checkEmail _).bind fun _ _ _ => ?_
  refine (goAlike_getByEmail _).bind fun found found' hfound => ?_
  have hnone : found.isNone = found'.isNone := by
    cases hfound with
    | none => rfl
    | some h => rfl
  refine (goAlike_ensure hnone _).bind fun _ _ _ => ?_
  refine (goAlike_checkUsername _).bind fun _ _ _ => ?_
  refine (goAlike_hashNewPassword _).bind fun passwordHash _ hhash => ?_
  subst hhash
  refine goAlike_utcNow.bind fun now _ hnow => ?_
  subst hnow
  refine goAlike_newId.bind fun id _ hid => ?_
  subst hid
  refine ⟨.same _, fun r r' h => ?_⟩
  obtain rfl : r = r' := eq_of_heq h
  refine (goAlike_ofStorage (ExceptRel.refl (fun _ => rfl) r)).bind fun _ _ _ => ?_
  exact (goAlike_notify _).bind fun _ _ _ => rfl

/-- **Reading an account** ends with accounts that differ in the hash at most, and have the
identifier. -/
theorem goAlike_getAccount (known : String → Prop) (id : String) :
    GoAlike known (Option.Rel fun a a' => AlikeOn known a a' ∧ a.id = id)
      (AccountService.getAccount id) (AccountService.getAccount id) := by
  refine (goAlike_getById id).bind fun found found' hfound => ?_
  cases hfound with
  | none => exact .none
  | @some account account' h =>
    obtain ⟨halike, hid⟩ := h
    have hexpire : GoAlike known (fun a a' => AlikeOn known a a' ∧ a.id = id) (expire id account)
        (expire id account') := by
      refine ⟨.same _, fun _ _ _ => ?_⟩
      refine (goAlike_notify _).bind fun _ _ _ => ⟨?_, hid⟩
      exact halike.of_update (f := fun a => { a with status := .expired }) (fun _ _ => rfl)
        fun _ => rfl
    have hpast : GoAlike known (fun a a' => AlikeOn known a a' ∧ a.id = id)
        (expireIfPast id account) (expireIfPast id account') := by
      have hsame : account'.status = account.status ∧ account'.expiresAt = account.expiresAt := by
        obtain ⟨hash, rfl, -⟩ := halike
        exact ⟨rfl, rfl⟩
      rw [expireIfPast, expireIfPast, hsame.1, hsame.2]
      split
      · exact ⟨halike, hid⟩
      · cases account.expiresAt with
        | none => exact ⟨halike, hid⟩
        | some expiresAt =>
          refine goAlike_utcNow.bind fun now _ hnow => ?_
          subst hnow
          by_cases hlate : expiresAt < now
          · rw [if_pos hlate, if_pos hlate]
            exact hexpire
          · rw [if_neg hlate, if_neg hlate]
            exact ⟨halike, hid⟩
    exact hpast.bind fun a a' ha => .some ha

theorem goAlike_orNotFound {R : Account → Account → Prop} (what : String)
    {found found' : Option Account} (h : Option.Rel R found found') :
    GoAlike known R (orNotFound what found) (orNotFound what found') := by
  cases h with
  | none => exact rfl
  | some h => exact h

theorem goAlike_updatedEmail {account account' : Account} (h : AlikeOn known account account')
    (email : Option String) :
    GoAlike known Eq (updatedEmail X account email) (updatedEmail X account' email) := by
  obtain ⟨hash, rfl, -⟩ := h
  cases email with
  | none => exact rfl
  | some email =>
    refine (goAlike_checkEmail _).bind fun _ _ _ => ?_
    refine (goAlike_getByEmail _).bind fun found found' hfound => ?_
    cases hfound with
    | none => exact rfl
    | @some existing existing' h =>
      have hid : existing.id = existing'.id := alikeOn_rowRel.key_eq _ _ h
      refine (goAlike_ensure ?_ _).bind fun _ _ _ => rfl
      rw [hid]

/-- **Updating an account** ends with accounts that differ in the hash at most, and have the
identifier. -/
theorem goAlike_updateAccount (id : String) (data : UpdateAccount) :
    GoAlike known (fun a a' => AlikeOn known a a' ∧ a.id = id)
      (AccountService.updateAccount X id data) (AccountService.updateAccount X id data) := by
  have hrequire : GoAlike known (fun a a' => AlikeOn known a a' ∧ a.id = id) (requireAccount id)
      (requireAccount id) :=
    (goAlike_getById id).bind fun _ _ hfound => goAlike_orNotFound id hfound
  refine hrequire.bind fun account account' haccount => ?_
  obtain ⟨halike, hid⟩ := haccount
  refine (goAlike_updatedEmail halike data.email).bind fun email _ hemail => ?_
  subst hemail
  have hroles : GoAlike known Eq (notifyRoles id account data.roles)
      (notifyRoles id account' data.roles) := by
    obtain ⟨hash, rfl, -⟩ := halike
    cases data.roles with
    | none => exact rfl
    | some roles =>
      by_cases hroles : account.roles ≠ roles
      · simp only [notifyRoles, if_pos hroles]
        exact goAlike_notify _
      · simp only [notifyRoles, if_neg hroles]
        exact rfl
  refine hroles.bind fun _ _ _ => ?_
  refine goAlike_utcNow.bind fun now _ hnow => ?_
  subst hnow
  have hupdated : AlikeOn known (updatedAccount account data email now)
      (updatedAccount account' data email now) :=
    halike.of_update (f := fun a => updatedAccount a data email now) (fun _ _ => rfl) fun _ => rfl
  refine ⟨.update hupdated, fun r r' h => ?_⟩
  obtain rfl : r = r' := eq_of_heq h
  refine (goAlike_ofStorage (ExceptRel.refl (fun _ => rfl) r)).bind fun _ _ _ => ?_
  exact (goAlike_notify _).bind fun _ _ _ => ⟨hupdated, hid⟩

end Programs

/-! ### Runs -/

section Runs

variable {X : AccountExterns} {b : KeyBackend} {known : String → Prop} {t t' : AccountTable}

theorem forall₂_of_sameButHashes (h : SameButHashes t t') :
    List.Forall₂ (fun a a' => a.withoutHash = a'.withoutHash) t.rows t'.rows := by
  rw [SameButHashes, ← List.forall₂_eq_eq_eq, List.forall₂_map_left_iff,
    List.forall₂_map_right_iff] at h
  exact h

/-- Stores that are equal except for the hashes are alike, and accounts are known whose hashes are
the same. -/
theorem tablesAlike_of_sameButHashes (h : SameButHashes t t') :
    TablesAlike (fun id => (t.find id).map Account.passwordHash
      = (t'.find id).map Account.passwordHash) t t' := by
  obtain ⟨hlength, hzip⟩ := List.forall₂_iff_zip.mp (forall₂_of_sameButHashes h)
  refine List.forall₂_iff_zip.mpr ⟨hlength, fun {a a'} hpair => ?_⟩
  have hsame := hzip hpair
  have hid : a.withoutHash.id = a'.withoutHash.id := congrArg Account.id hsame
  change a.id = a'.id at hid
  refine alikeOn_of_withoutHash hsame fun hknown => ?_
  obtain ⟨ha, ha'⟩ := List.of_mem_zip hpair
  rw [Table.find_key ha, hid, Table.find_key ha'] at hknown
  exact Option.some.inj hknown

/-- **Programs that go on alike end alike**: run on tables that are alike, with the same inputs,
they return results that are related and leave tables that are alike. -/
theorem run_alike {α α' : Type} {R : α → α' → Prop} {p : AccountProg α} {p' : AccountProg α'}
    (h : GoAlike known R p p') (ht : TablesAlike known t t') (inputs : ℕ → AccountInput) :
    ExceptRel R (run X b p (t, []) inputs).1 (run X b p' (t', []) inputs).1 := by
  refine (exec_alike (I := fun s s' => TablesAlike known s.1 s'.1) (J := Eq) ?_ h ht
    fun _ => rfl).1
  rintro s s' i _ c c' hs rfl hc
  exact respond_alike X b hs i hc

/-! ### Runs without faults -/

variable {s : AccountTable × List StatusChange} {inputs : ℕ → AccountInput}

/-- Reading a stored account gives one with its hash, if nothing fails. -/
theorem run_getAccount_of_faultless (inputs : ℕ → AccountInput) {id : String} {row : Account}
    (hrow : s.1.find id = some row) (hinputs : (inputs 0).fault = .none) :
    ∃ account, (run X b ((AccountService.getAccount id).bind (orNotFound id)) s inputs).1
        = .ok account ∧ account.passwordHash = row.passwordHash := by
  rw [AccountService.getAccount, Prog.bind_eq, Prog.bind_assoc]
  rcases run_getById_cases X b s inputs id _ with ⟨hfault, -⟩ | ⟨-, hrun⟩
  · exact absurd hinputs hfault
  · rw [hrun, hrow]
    by_cases hstatus : row.status = .expired
    · exact ⟨row, by simp [expireIfPast, hstatus, orNotFound], rfl⟩
    · cases hexpires : row.expiresAt with
      | none => exact ⟨row, by simp [expireIfPast, hstatus, hexpires, orNotFound], rfl⟩
      | some expiresAt =>
        by_cases hpast : expiresAt < (inputs 1).now
        · refine ⟨{ row with status := .expired }, ?_, rfl⟩
          simp only [expireIfPast, if_neg hstatus, hexpires, Prog.bind_eq, Prog.bind_assoc,
            run_utcNow, later_apply, Nat.zero_add, if_pos hpast, expire, Prog.call_bind, run_call,
            run_notify, Prog.ret_bind, orNotFound, run_ret]
        · refine ⟨row, ?_, rfl⟩
          simp [expireIfPast, hstatus, hexpires, Prog.bind_assoc, hpast, orNotFound]

/-- **An address that passes the check of `update_account`** is free. -/
theorem reads_updatedEmail_free (account : Account) (data : UpdateAccount) :
    Reads X b (fun t _ => AddressFree X account.id data t) (updatedEmail X account data.email) := by
  cases hemail : data.email with
  | none =>
    refine .ret fun t raw hraw => ?_
    rw [hemail] at hraw
    contradiction
  | some raw =>
    have hvalid : Reads X b (fun _ _ => isValidEmail (normalizeEmail X raw) = true)
        (checkEmail (normalizeEmail X raw)) := .ensure _ fun h _ => h
    refine hvalid.bind fun _ => (reads_getByEmail _).bind fun existing => ?_
    cases existing with
    | none =>
      refine .ret fun t hnone hvalid raw' hraw' => ?_
      obtain rfl : raw = raw' := Option.some.inj (hemail.symm.trans hraw')
      rw [eq_comm, List.find?_eq_none] at hnone
      exact ⟨hvalid, fun a ha heq => absurd (decide_eq_true heq) (hnone a ha)⟩
    | some existing =>
      have hown : Reads X b (fun _ _ => existing.id = account.id)
          (ensure (existing.id = account.id) (.alreadyExists (normalizeEmail X raw))) :=
        .ensure _ fun h _ => of_decide_eq_true h
      refine hown.bind fun _ => .ret fun t hid hfound hvalid raw' hraw' => ?_
      obtain rfl : raw = raw' := Option.some.inj (hemail.symm.trans hraw')
      -- the address has one account only
      refine ⟨hvalid, fun a ha heq => ?_⟩
      have hexisting := List.mem_of_find?_eq_some hfound.symm
      have hemail' : existing.email = normalizeEmail X raw := by
        simpa using List.find?_some hfound.symm
      have hsame : a = existing :=
        List.inj_on_of_nodup_map t.unique_nodup ha hexisting (heq.trans hemail'.symm)
      rw [hsame, hid]

/-- An update that succeeds asks for an address that is free. -/
theorem addressFree_of_run_ok {id : String} {data : UpdateAccount} {account : Account}
    (h : (run X b (AccountService.updateAccount X id data) s inputs).1 = .ok account) :
    AddressFree X id data s.1 := by
  rw [AccountService.updateAccount, Prog.bind_eq] at h
  rcases run_requireAccount_cases X b s inputs id _ with ⟨e, he⟩ | ⟨row, -, hrow, hrun⟩
  · rw [he] at h
    contradiction
  · obtain rfl : row.id = id := Table.key_of_find hrow
    rw [hrun] at h
    rcases reads_updatedEmail_free row data _ _ s _ with ⟨e, he⟩ | ⟨email, used, hfree, -⟩
    · rw [Prog.bind_eq, he] at h
      contradiction
    · exact hfree

/-- A free address passes the check of `update_account`, if nothing fails. -/
theorem run_updatedEmail_of_faultless {α : Type} {row : Account} {data : UpdateAccount}
    (hrow : row ∈ s.1.rows) (hfree : AddressFree X row.id data s.1)
    (hinputs : ∀ n, (inputs n).fault = .none) (f : String → AccountProg α) :
    ∃ email used, (∀ a ∈ s.1.rows, a.email = email → a.id = row.id) ∧
      run X b ((updatedEmail X row data.email).bind f) s inputs
        = run X b (f email) s fun n => inputs (n + used) := by
  cases hemail : data.email with
  | none =>
    refine ⟨row.email, 0, fun a ha heq => ?_, rfl⟩
    rw [List.inj_on_of_nodup_map s.1.unique_nodup ha hrow heq]
  | some raw =>
    obtain ⟨hvalid, hown⟩ := hfree raw hemail
    refine ⟨normalizeEmail X raw, 1, hown, ?_⟩
    simp only [updatedEmail, checkEmail, hvalid, ensure, if_true, Prog.bind_eq, Prog.ret_bind,
      Prog.bind_assoc]
    rcases run_getByEmail_cases X b s inputs (normalizeEmail X raw) _ with ⟨hfault, -⟩ | ⟨-, hrun⟩
    · exact absurd (hinputs 0) hfault
    · rw [hrun]
      cases hfound : s.1.rows.find? fun a => a.email = normalizeEmail X raw with
      | none => rfl
      | some existing =>
        have hexisting : existing.email = normalizeEmail X raw := by
          simpa using List.find?_some hfound
        have hid := hown existing (List.mem_of_find?_eq_some hfound) hexisting
        simp only [hid, decide_true, if_true, Prog.ret_bind]
        rfl

/-- The announcement of new roles does not fail. -/
theorem run_notifyRoles {α : Type} (id : String) (row : Account) (roles : Option (List String))
    (f : Unit → AccountProg α) :
    ∃ used, run X b ((notifyRoles id row roles).bind f) s inputs
      = run X b (f ()) s fun n => inputs (n + used) := by
  cases roles with
  | none => exact ⟨0, rfl⟩
  | some roles =>
    by_cases hroles : row.roles ≠ roles
    · refine ⟨1, ?_⟩
      rw [notifyRoles, if_pos hroles, run_notify]
      rfl
    · refine ⟨0, ?_⟩
      rw [notifyRoles, if_neg hroles]
      rfl

/-- **An update of a stored account to a free address** gives one with its hash, if nothing
fails. -/
theorem run_updateAccount_of_faultless (inputs : ℕ → AccountInput) {id : String}
    {data : UpdateAccount} {row : Account} (hrow : s.1.find id = some row)
    (hfree : AddressFree X id data s.1) (hinputs : ∀ n, (inputs n).fault = .none) :
    ∃ account, (run X b (AccountService.updateAccount X id data) s inputs).1 = .ok account ∧
      account.passwordHash = row.passwordHash := by
  obtain ⟨hmem, rfl⟩ := Table.find_eq_some_iff.mp hrow
  rw [AccountService.updateAccount, Prog.bind_eq, requireAccount, Prog.bind_eq, Prog.bind_assoc]
  rcases run_getById_cases X b s inputs row.id _ with ⟨hfault, -⟩ | ⟨-, hrun⟩
  · exact absurd (hinputs 0) hfault
  rw [hrun, hrow, orNotFound, Prog.ret_bind, Prog.bind_eq]
  have hlater : ∀ n, (later inputs n).fault = .none := fun n => hinputs (n + 1)
  obtain ⟨email, used, hown, hrun⟩ := run_updatedEmail_of_faultless (b := b) hmem hfree hlater _
  rw [hrun, Prog.bind_eq]
  obtain ⟨used', hrun⟩ := run_notifyRoles (X := X) (b := b) row.id row data.roles _
  rw [hrun, Prog.bind_eq, run_utcNow]
  generalize ((later inputs (0 + used' + used)).now) = now
  generalize hrest : later (fun n => later inputs (n + used' + used)) = rest
  have hfault : (rest 0).fault = .none := hrest ▸ hinputs _
  -- the row can be written, because no other account has the address
  obtain ⟨t', ht'⟩ : ∃ t', updated X b (updatedAccount row data email now) (rest 0).now s.1
      = some t' :=
    Table.exists_update_of_free _ (fun a => Account.rewritten_email X b _ _ a) hown
  have hwrite : (respond X b s.1 0 (rest 0) (.update (updatedAccount row data email now))).2
      = .ok () := by
    simp only [respond, AccountStorage.update, ht', hfault, execute]
  refine ⟨updatedAccount row data email now, ?_, rfl⟩
  rw [Prog.bind_eq, AccountProg.update, Prog.call_bind, run_call, hwrite]
  rfl

end Runs

/-! ### Bodies -/

/-- Inputs under which no call meets a fault, with texts that nothing depends on. -/
def faultless : ℕ → AccountInput :=
  fun _ => ⟨sampleTime 0, .none, "", ""⟩

section Bodies

variable {A : RestExterns} {b : KeyBackend} {service : AccountService} {t t' : AccountTable}

/-- **An account as it is serialized shows its hash.** -/
theorem passwordHash_eq_of_json_eq {account account' : Account}
    (h : account.json A = account'.json A) : account.passwordHash = account'.passwordHash := by
  have hfield : optionJson Json.string account.passwordHash
      = optionJson Json.string account'.passwordHash := by
    simp only [Account.json, Json.object.injEq, List.cons.injEq, Prod.mk.injEq, true_and] at h
    exact h.2.2.2.1
  cases hhash : account.passwordHash <;> cases hhash' : account'.passwordHash <;>
    simp_all [optionJson]

/-- Accounts that differ in the hash at most are the same if their hashes are. -/
theorem eq_of_alike {known : String → Prop} {xs ys : List Account}
    (h : List.Forall₂ (AlikeOn known) xs ys)
    (hhash : xs.map Account.passwordHash = ys.map Account.passwordHash) : xs = ys := by
  induction h with
  | nil => rfl
  | @cons a a' xs ys ha _ ih =>
    obtain ⟨hash, rfl, -⟩ := ha
    rw [List.map_cons, List.map_cons, List.cons.injEq] at hhash
    rw [ih hhash.2]
    exact congrArg (· :: ys) (congrArg (fun hash => { a with passwordHash := hash }) hhash.1)

theorem body_sent_eq {α : Type} {R : α → α → Prop} {status : UInt16} {json : α → Json}
    {r r' : Except AccountError α} (h : ExceptRel R r r') (hR : ∀ a a', R a a' → r = .ok a →
      json a = json a') :
    (AccountHandlers.sent status json r).body = (AccountHandlers.sent status json r').body := by
  cases h with
  | error e => rfl
  | ok h => exact hR _ _ h rfl

/-- What is created does not depend on the hashes stored. -/
theorem hidesHashes_create (h : SameButHashes t t') (data : CreateAccount) :
    HidesHashes A b service (.create data) t t' := by
  intro inputs
  rw [AccountHandlers.response_create, AccountHandlers.response_create]
  refine body_sent_eq (run_alike (goAlike_createAccount data) (tablesAlike_of_sameButHashes h)
    inputs) fun a a' ha _ => ?_
  rw [ha]

theorem map_toList_eq_iff {found found' : Option Account} :
    found.toList.map Account.passwordHash = found'.toList.map Account.passwordHash ↔
      found.map Account.passwordHash = found'.map Account.passwordHash := by
  cases found <;> cases found' <;> simp

/-- Both stores have an account with an identifier, or neither has. -/
theorem find_sameButHashes (h : SameButHashes t t') (id : String) :
    (t.find id = none ∧ t'.find id = none) ∨
      ∃ row row', t.find id = some row ∧ t'.find id = some row' := by
  have hrel := find_alike id (tablesAlike_of_sameButHashes h)
  cases hfound : t.find id with
  | none =>
    cases hfound' : t'.find id with
    | none => exact .inl ⟨rfl, rfl⟩
    | some row' =>
      rw [hfound, hfound'] at hrel
      cases hrel
  | some row =>
    cases hfound' : t'.find id with
    | none =>
      rw [hfound, hfound'] at hrel
      cases hrel
    | some row' => exact .inr ⟨row, row', rfl, rfl⟩

/-- **What is read** hides the hash exactly if it is the same in both stores. -/
theorem hidesHashes_get_iff (h : SameButHashes t t') (id : String) :
    HidesHashes A b service (.get id) t t' ↔
      (t.find id).map Account.passwordHash = (t'.find id).map Account.passwordHash := by
  constructor
  · intro hbody
    rcases find_sameButHashes h id with ⟨hnone, hnone'⟩ | ⟨row, row', hrow, hrow'⟩
    · rw [hnone, hnone']
    · have heq := hbody faultless
      rw [AccountHandlers.response_get, AccountHandlers.response_get] at heq
      obtain ⟨account, hrun, hhash⟩ := run_getAccount_of_faultless (X := A.toAccountExterns)
        (b := b) (s := (t, [])) faultless hrow rfl
      obtain ⟨account', hrun', hhash'⟩ := run_getAccount_of_faultless (X := A.toAccountExterns)
        (b := b) (s := (t', [])) faultless hrow' rfl
      rw [hrun, hrun'] at heq
      rw [hrow, hrow', Option.map_some, Option.map_some, ← hhash, ← hhash',
        passwordHash_eq_of_json_eq heq]
  · intro hknown inputs
    rw [AccountHandlers.response_get, AccountHandlers.response_get]
    have hprogram := (goAlike_getAccount (fun id => (t.find id).map Account.passwordHash
      = (t'.find id).map Account.passwordHash) id).bind fun _ _ hfound =>
        goAlike_orNotFound id hfound
    refine body_sent_eq (run_alike hprogram (tablesAlike_of_sameButHashes h) inputs)
      fun a a' ha _ => ?_
    obtain ⟨⟨hash, -, hsame⟩, hid⟩ := ha
    rw [hsame (hid ▸ hknown)]

theorem addressFree_iff (h : SameButHashes t t') (X : AccountExterns) (id : String)
    (data : UpdateAccount) : AddressFree X id data t ↔ AddressFree X id data t' := by
  have hrows : ∀ email, (∀ a ∈ t.rows, a.email = email → a.id = id) ↔
      ∀ a ∈ t'.rows, a.email = email → a.id = id := by
    intro email
    have hall (rows : List Account) : (∀ a ∈ rows, a.email = email → a.id = id) ↔
        ∀ a ∈ rows.map Account.withoutHash, a.email = email → a.id = id := by
      rw [List.forall_mem_map]
      rfl
    rw [hall, h, ← hall]
  simp only [AddressFree, hrows]

/-- **What is updated** hides the hash exactly if the address is refused or the hash is the same in
both stores. -/
theorem hidesHashes_update_iff (h : SameButHashes t t') (id : String) (data : UpdateAccount) :
    HidesHashes A b service (.update id data) t t' ↔
      (AddressFree A.toAccountExterns id data t →
        (t.find id).map Account.passwordHash = (t'.find id).map Account.passwordHash) := by
  constructor
  · intro hbody hfree
    rcases find_sameButHashes h id with ⟨hnone, hnone'⟩ | ⟨row, row', hrow, hrow'⟩
    · rw [hnone, hnone']
    · have heq := hbody faultless
      rw [AccountHandlers.response_update, AccountHandlers.response_update] at heq
      obtain ⟨account, hrun, hhash⟩ := run_updateAccount_of_faultless (b := b) (s := (t, []))
        faultless hrow hfree fun _ => rfl
      obtain ⟨account', hrun', hhash'⟩ := run_updateAccount_of_faultless (b := b) (s := (t', []))
        faultless hrow' ((addressFree_iff h _ id data).mp hfree) fun _ => rfl
      rw [hrun, hrun'] at heq
      rw [hrow, hrow', Option.map_some, Option.map_some, ← hhash, ← hhash',
        passwordHash_eq_of_json_eq heq]
  · intro hknown inputs
    rw [AccountHandlers.response_update, AccountHandlers.response_update]
    refine body_sent_eq (run_alike (goAlike_updateAccount id data) (tablesAlike_of_sameButHashes h)
      inputs) fun a a' ha hrun => ?_
    obtain ⟨⟨hash, -, hsame⟩, hid⟩ := ha
    have hfree : AddressFree A.toAccountExterns id data t :=
      addressFree_of_run_ok (s := (t, [])) hrun
    rw [hsame (hid ▸ hknown hfree)]

/-- The body of a listing has the hashes of its accounts. -/
theorem passwordHash_eq_of_listing {rows rows' : List Account}
    {total total' limit limit' offset offset' : UInt64}
    (h : AccountListResponse.json ⟨rows.map (Account.json A), total, limit, offset⟩
      = AccountListResponse.json ⟨rows'.map (Account.json A), total', limit', offset'⟩) :
    rows.map Account.passwordHash = rows'.map Account.passwordHash := by
  simp only [AccountListResponse.json, Json.object.injEq, List.cons.injEq, Prod.mk.injEq,
    Json.array.injEq, true_and] at h
  have hjson := h.1
  rw [← List.forall₂_eq_eq_eq, List.forall₂_map_left_iff, List.forall₂_map_right_iff] at hjson
  exact map_eq_of_forall₂ (fun _ _ ha => passwordHash_eq_of_json_eq ha) hjson

/-- **What is listed** hides the hashes exactly if those on the page are the same in both
stores. -/
theorem hidesHashes_list_iff (h : SameButHashes t t') (query : ListAccountsQuery) :
    HidesHashes A b service (.list query) t t' ↔
      ((AccountRequest.list query).accounts A.toAccountExterns b t).map Account.passwordHash
        = ((AccountRequest.list query).accounts A.toAccountExterns b t').map
          Account.passwordHash := by
  have hpage := page_alike (X := A.toAccountExterns) (b := b) query.statusFilter query.pageLimit
    query.pageOffset (tablesAlike_of_sameButHashes h)
  have hcounted : ∀ t, count b (faultless 1).fault query.statusFilter t
      = .ok (ofStatus query.statusFilter t).length := by
    intro t
    cases b <;> rfl
  simp only [HidesHashes, AccountHandlers.response_list, AccountHandlers.listing,
    AccountStorage.list, AccountRequest.accounts]
  generalize page A.toAccountExterns b query.pageLimit query.pageOffset
    (newestFirst A.toAccountExterns b (ofStatus query.statusFilter t)) = rows at hpage ⊢
  generalize page A.toAccountExterns b query.pageLimit query.pageOffset
    (newestFirst A.toAccountExterns b (ofStatus query.statusFilter t')) = rows' at hpage ⊢
  constructor
  · intro hbody
    have heq := hbody faultless
    cases hpage with
    | error e => rfl
    | ok hrows =>
      -- both bodies have the page, account by account
      simp only [hcounted] at heq
      exact passwordHash_eq_of_listing heq
  · intro hhash inputs
    have hsame : rows = rows' := by
      cases hpage with
      | error e => rfl
      | ok hrows => exact congrArg Except.ok (eq_of_alike hrows hhash)
    have hcount := count_alike b (inputs 1).fault query.statusFilter
      (tablesAlike_of_sameButHashes h)
    rw [hsame, hcount]

/-- **When the body of a response hides the password hashes.**  For every two stores that are equal
except for the hashes and every request to the handlers that answer with accounts, whatever their
calls meet: the bodies of the two responses are the same exactly if the stored accounts the request
is answered with have the same hashes in both stores. -/
theorem hidesHashes_iff (A : RestExterns) (b : KeyBackend) (service : AccountService)
    (request : AccountRequest) {t t' : AccountTable} (h : SameButHashes t t') :
    HidesHashes A b service request t t' ↔
      (request.accounts A.toAccountExterns b t).map Account.passwordHash
        = (request.accounts A.toAccountExterns b t').map Account.passwordHash := by
  cases request with
  | create data => exact iff_of_true (hidesHashes_create h data) rfl
  | get id =>
    rw [hidesHashes_get_iff h]
    exact map_toList_eq_iff.symm
  | update id data =>
    rw [hidesHashes_update_iff h, AccountRequest.accounts, AccountRequest.accounts]
    by_cases hfree : AddressFree A.toAccountExterns id data t
    · rw [if_pos hfree, if_pos ((addressFree_iff h _ id data).mp hfree), map_toList_eq_iff]
      exact forall_prop_of_true hfree
    · rw [if_neg hfree, if_neg (hfree ∘ (addressFree_iff h _ id data).mpr)]
      exact iff_of_true (fun hfree' => absurd hfree' hfree) rfl
  | list query => exact hidesHashes_list_iff h query

end Bodies

/-! ### Samples -/

/-- A store with two accounts, by the hash of the first. -/
def sampleTwoAccounts (hash : String) : AccountTable where
  rows :=
    [sampleStored "acct_1" "a@example.com" hash none,
     sampleStored "acct_2" "b@example.com" "$argon2id$b" none]
  key_nodup := by simp [sampleStored]
  unique_nodup := by simp [sampleStored]

theorem sampleTwoAccounts_same (hash hash' : String) :
    SameButHashes (sampleTwoAccounts hash) (sampleTwoAccounts hash') := rfl

theorem hidesHashes_iff_sample :
    SameButHashes (sampleTwoAccounts "$argon2id$a") (sampleTwoAccounts "$argon2id$c") ∧
      HidesHashes sampleRest .turso sampleAccounts (.get "acct_2")
        (sampleTwoAccounts "$argon2id$a") (sampleTwoAccounts "$argon2id$c") :=
  ⟨sampleTwoAccounts_same _ _,
    (hidesHashes_iff sampleRest .turso sampleAccounts (.get "acct_2")
      (sampleTwoAccounts_same _ _)).mpr rfl⟩

/-- Reading an account shows its hash: two stores that differ in one hash answer a `GET` of the
account differently. -/
theorem not_forall_hidesHashes :
    ¬ ∀ (A : RestExterns) (b : KeyBackend) (service : AccountService) (request : AccountRequest)
      (t t' : AccountTable), SameButHashes t t' → HidesHashes A b service request t t' := by
  intro h
  have hhidden := h sampleRest .turso sampleAccounts (.get "acct_1") _ _
    (sampleTwoAccounts_same "$argon2id$a" "$argon2id$c")
  have hhash := (hidesHashes_get_iff (sampleTwoAccounts_same _ _) "acct_1").mp hhidden
  revert hhash
  decide

end ActonService
