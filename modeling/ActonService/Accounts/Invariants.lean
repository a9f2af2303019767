import ActonService.Accounts.Steps
import Mathlib.Data.List.DropRight

/-!
# What every stored account keeps to

Starting from the empty store, the status of an account agrees with the times and reasons beside
it, and its address is trimmed, in lower case and its own.  Usernames are only checked when an
account is created, so `update_account` may give one away twice.

## Main definitions

* `RowStep` — what an operation can make of a row.
* `StatusEvidence` — the status and what is stored beside it agree.
* `IsNormalized` — an address is trimmed and in lower case.
* `TakesUsername` — an update sets a username that another account has.

## Main results

* `AccountStep.rowStep` — what an operation does to the table it does to each row.
* `statusEvidence_of_run` — **status and evidence agree in every reachable store.**
* `distinct_of_run` — **addresses are normalised and distinct, and so are usernames as long as no
  update sets one that is taken.**
-/

namespace Text

theorem trim_eq_rdropWhile (s : List Char) :
    trim s = (s.dropWhile isWhitespace).rdropWhile isWhitespace := rfl

/-- Trimming is done once: a text that was trimmed has no white space left at either of its ends. -/
theorem trim_trim (s : List Char) : trim (trim s) = trim s := by
  have hfront : (trim s).dropWhile isWhitespace = trim s := by
    rw [List.dropWhile_eq_self_iff]
    intro hlength
    have hprefix : trim s <+: s.dropWhile isWhitespace := List.rdropWhile_prefix _ _
    rw [List.IsPrefix.getElem hprefix hlength]
    exact List.dropWhile_get_zero_not _ _ (hlength.trans_le hprefix.length_le)
  rw [trim_eq_rdropWhile (trim s), hfront, trim_eq_rdropWhile, List.rdropWhile_idempotent]

end Text

namespace ActonService

open Effect Run Tables AccountWorld AccountStorage AccountService

/-! ### Rows -/

/-- What an operation can make of the row of an identifier, which may be new. -/
inductive RowStep (X : AccountExterns) (b : KeyBackend) (service : AccountService)
    (op : AccountOp) : Option Account → Account → Prop
  | kept (row : Account) : RowStep X b service op (some row) row
  | created {data : CreateAccount} {passwordHash : Option String} {id : String} {now : DateTime}
      (hop : op = .createAccount data) :
      RowStep X b service op none
        (b.accountRow X (service.newAccount data (normalizeEmail X data.email) passwordHash id now))
  | moved {row : Account} {status : AccountStatus} {reason : Option String} {now : DateTime}
      (hpending : status ≠ .pendingVerification)
      (hactive : status = .active → op.target = some (row.id, .active)) :
      RowStep X b service op (some row) (row.withStatus b status reason now)
  | rewritten {row account : Account} {now : DateTime}
      (haccount : AccountRewrite X row op account) :
      RowStep X b service op (some row) (account.rewritten X b now row)
  | loggedIn (row : Account) (now : DateTime) :
      RowStep X b service op (some row) (row.loggedIn b now)

section Rows

variable {X : AccountExterns} {b : KeyBackend} {service : AccountService}
  {inputs : ℕ → AccountInput} {t t' : AccountTable} {op : AccountOp} {id : String} {row : Account}

/-- An update of one row changes that row and keeps the others. -/
theorem RowStep.of_update {key : String} {f : Account → Account} {hf : ∀ a, (f a).id = a.id}
    (hupdate : t.update key f hf = some t')
    (hchanged : ∀ old, t.find key = some old → RowStep X b service op (some old) (f old))
    (hrow : t'.find id = some row) : RowStep X b service op (t.find id) row := by
  rcases Table.find_update_cases hupdate hrow with ⟨rfl, old, hold, rfl⟩ | ⟨-, hbefore⟩
  · rw [hold]
    exact hchanged old hold
  · rw [hbefore]
    exact .kept row

/-- **What an operation does to the table it does to each row.** -/
theorem AccountStep.rowStep (h : AccountStep X b service inputs t op t')
    (hrow : t'.find id = some row) :
    RowStep X b service op (t.find id) row := by
  cases h with
  | idle =>
    rw [hrow]
    exact .kept row
  -- the row of another account is as it was
  | deleted id' =>
    rw [Table.find_erase] at hrow
    split at hrow
    · contradiction
    · rw [hrow]
      exact .kept row
  -- the row is the one that was created, or one that was there
  | created hfree hinsert =>
    rw [Table.find_insert hinsert] at hrow
    split at hrow
    · next hid =>
      cases hrow
      rw [← hid, Table.find_of_insert hinsert]
      exact .created rfl
    · rw [hrow]
      exact .kept row
  -- an expiry moves the row, but neither out of `pending` nor to `active`
  | expired hexpires heffect hupdate =>
    refine .of_update hupdate (fun old _ => .moved ?_ ?_) hrow
    · rintro ⟨⟩
    · rintro ⟨⟩
  | moved hop hread hfound hcan heffect hupdate =>
    refine .of_update hupdate (fun old hold => .moved ?_ ?_) hrow
    · rintro rfl
      cases op <;> simp [AccountOp.target] at hop
    · rintro rfl
      rw [hop, Table.key_of_find hold]
  | loggedIn hupdate => exact .of_update hupdate (fun old _ => .loggedIn old _) hrow
  | rewritten hfound haccount hupdate =>
    refine .of_update hupdate (fun old hold => ?_) hrow
    -- the row that is written is the one that was read
    rw [haccount.id_eq] at hold
    obtain rfl := Option.some.inj (hold.symm.trans hfound)
    exact .rewritten haccount

/-- **What holds of every row** holds after an operation, if it holds of what can become of one. -/
theorem AccountStep.forall_rows {P : Account → Prop} (h : AccountStep X b service inputs t op t')
    (hrows : ∀ row ∈ t.rows, P row)
    (hstep : ∀ old row, (∀ row ∈ old, P row) → RowStep X b service op old row → P row) :
    ∀ row ∈ t'.rows, P row := by
  intro row hrow
  refine hstep _ row (fun old hold => ?_) (h.rowStep (Table.find_key hrow))
  exact hrows old (Table.find_eq_some_iff.mp hold).1

end Rows

/-! ### Status and evidence -/

/-- The status of an account and the times and reasons stored beside it agree. -/
structure StatusEvidence (row : Account) : Prop where
  active : row.status = .active → row.lockedAt = none ∧ row.lockedReason = none ∧
    row.disabledAt = none ∧ row.disabledReason = none
  locked : row.status = .locked → row.lockedAt.isSome
  disabled : row.status = .disabled → row.disabledAt.isSome
  pending : row.status = .pendingVerification → row.lockedAt = none ∧ row.lockedReason = none ∧
    row.disabledAt = none ∧ row.disabledReason = none

section Evidence

variable {X : AccountExterns} {b : KeyBackend} {service : AccountService} {row : Account}

/-- Setting a status sets or clears what goes with it. -/
theorem statusEvidence_withStatus {status : AccountStatus} (hstatus : status ≠ .pendingVerification)
    (reason : Option String) (now : DateTime) (row : Account) :
    StatusEvidence (row.withStatus b status reason now) := by
  cases status with
  | pendingVerification => contradiction
  | active => exact ⟨fun _ => ⟨rfl, rfl, rfl, rfl⟩, nofun, nofun, nofun⟩
  | disabled => exact ⟨nofun, nofun, fun _ => rfl, nofun⟩
  | locked => exact ⟨nofun, fun _ => rfl, nofun, nofun⟩
  | expired => exact ⟨nofun, nofun, nofun, nofun⟩
  | suspended => exact ⟨nofun, nofun, nofun, nofun⟩

/-- The account an operation writes back agrees as the one it has read does. -/
theorem StatusEvidence.of_rewrite (h : StatusEvidence row) {op : AccountOp} {account : Account}
    (haccount : AccountRewrite X row op account) : StatusEvidence account := by
  cases haccount with
  | updateAccount data email now hemail => exact ⟨h.active, h.locked, h.disabled, h.pending⟩
  | changePassword newPassword hash changedAt updatedAt =>
    exact ⟨h.active, h.locked, h.disabled, h.pending⟩
  | verifyEmail verifiedAt updatedAt hverified =>
    by_cases hpending : row.status = .pendingVerification
    · -- nothing was stored beside the status
      have hactive : (verifiedAccount row verifiedAt updatedAt).status = .active := if_pos hpending
      refine ⟨fun _ => h.pending hpending, fun hstatus => ?_, fun hstatus => ?_, fun hstatus => ?_⟩
      · exact nomatch hactive.symm.trans hstatus
      · exact nomatch hactive.symm.trans hstatus
      · exact nomatch hactive.symm.trans hstatus
    · have hsame : (verifiedAccount row verifiedAt updatedAt).status = row.status := if_neg hpending
      exact ⟨fun hstatus => h.active (hsame ▸ hstatus), fun hstatus => h.locked (hsame ▸ hstatus),
        fun hstatus => h.disabled (hsame ▸ hstatus), fun hstatus => h.pending (hsame ▸ hstatus)⟩

/-- A row that is written agrees as the account does. -/
theorem StatusEvidence.rewritten {account : Account} (h : StatusEvidence account) (now : DateTime)
    (row : Account) : StatusEvidence (account.rewritten X b now row) := by
  obtain ⟨hactive, hlocked, hdisabled, hpending⟩ := h
  refine ⟨fun hstatus => ?_, fun hstatus => ?_, fun hstatus => ?_, fun hstatus => ?_⟩
  · rw [Account.rewritten_status] at hstatus
    simpa using hactive hstatus
  · rw [Account.rewritten_status] at hstatus
    simpa using hlocked hstatus
  · rw [Account.rewritten_status] at hstatus
    simpa using hdisabled hstatus
  · rw [Account.rewritten_status] at hstatus
    simpa using hpending hstatus

theorem statusEvidence_newAccount (data : CreateAccount) (email : String)
    (passwordHash : Option String) (id : String) (now : DateTime) :
    StatusEvidence (b.accountRow X (service.newAccount data email passwordHash id now)) := by
  refine ⟨fun _ => ⟨rfl, rfl, rfl, rfl⟩, fun hstatus => ?_, fun hstatus => ?_,
    fun _ => ⟨rfl, rfl, rfl, rfl⟩⟩
  · simp only [KeyBackend.accountRow, newAccount] at hstatus
    split at hstatus <;> contradiction
  · simp only [KeyBackend.accountRow, newAccount] at hstatus
    split at hstatus <;> contradiction

/-- **What becomes of a row** agrees if the row does. -/
theorem statusEvidence_of_rowStep {op : AccountOp} {old : Option Account}
    (hold : ∀ row ∈ old, StatusEvidence row) (h : RowStep X b service op old row) :
    StatusEvidence row := by
  cases h with
  | kept row => exact hold row rfl
  | created hop => exact statusEvidence_newAccount _ _ _ _ _
  | moved hpending hactive => exact statusEvidence_withStatus hpending _ _ _
  | rewritten haccount => exact ((hold _ rfl).of_rewrite haccount).rewritten _ _
  | loggedIn row now =>
    obtain ⟨hactive, hlocked, hdisabled, hpending⟩ := hold row rfl
    exact ⟨hactive, hlocked, hdisabled, hpending⟩

end Evidence

/-- **Status and evidence agree** in every store that a run of operations reaches from the empty
one, whatever their calls meet. -/
theorem statusEvidence_of_run (X : AccountExterns) (b : KeyBackend) (service : AccountService)
    (actions : List AccountAction) :
    ∀ row ∈ (actions.foldl (service.step X b) (Table.empty, [])).1.rows, StatusEvidence row := by
  have hreach : Reach (service.step X b) (fun _ _ => True) (Table.empty, [])
      (actions.foldl (service.step X b) (Table.empty, [])) :=
    Reach.foldl .start (Allowed.of_forall (fun _ _ _ => trivial) _)
  refine hreach.invariant (I := fun s => ∀ row ∈ s.1.rows, StatusEvidence row) ?_ ?_
  · exact fun row hrow => absurd hrow List.not_mem_nil
  · intro s a hrows _
    obtain ⟨t', hs', hstep⟩ := service.step_cases X b s a
    rw [hs']
    exact hstep.forall_rows hrows fun old row => statusEvidence_of_rowStep

/-- A run in which an account is created and then locked by an administrator. -/
def sampleLocked : List AccountAction :=
  [sampleAction (.createAccount (sampleSignup "a@example.com" none)) (sampleTime 0) "acct_1",
   sampleAction (.lockAccount "acct_1" "guessing") (sampleTime 1) ""]

theorem statusEvidence_of_run_sample :
    ∃ row ∈ (sampleRun sampleLocked).1.rows, row.status = .locked ∧ row.lockedAt.isSome := by
  have hrow : ∃ row ∈ (sampleRun sampleLocked).1.rows, row.status = .locked := by
    decide
  obtain ⟨row, hrow, hlocked⟩ := hrow
  have hevidence : StatusEvidence row :=
    statusEvidence_of_run sampleAccountExterns .turso sampleAccounts sampleLocked row hrow
  exact ⟨row, hrow, hlocked, hevidence.locked hlocked⟩

/-! ### Addresses and usernames -/

/-- What is documented of `str::to_lowercase`, as far as the normal form of an address relies on it.
-/
structure Lowercases (X : AccountExterns) : Prop where
  /-- What is in lower case stays as it is. -/
  lower : ∀ s, X.toLowercase (X.toLowercase s) = X.toLowercase s
  /-- No character becomes white space, so that a text without it at its ends has none there in
  lower case. -/
  trimmed : ∀ s, Text.trim s.toList = s.toList →
    Text.trim (X.toLowercase s).toList = (X.toLowercase s).toList

/-- The address is trimmed and in lower case. -/
structure IsNormalized (X : AccountExterns) (email : String) : Prop where
  trimmed : Text.trim email.toList = email.toList
  lower : X.toLowercase email = email

/-- Two stored accounts have a username at most if they are the same. -/
def UsernamesDistinct (t : AccountTable) : Prop :=
  ∀ row ∈ t.rows, ∀ row' ∈ t.rows, ∀ username, row.username = some username →
    row'.username = some username → row.id = row'.id

/-- The operation updates an account with a username that another stored account has. -/
def TakesUsername (s : AccountTable × List StatusChange) (a : AccountAction) : Prop :=
  ∃ id data, a.op = .updateAccount id data ∧ ∃ row ∈ s.1.rows, row.id ≠ id ∧
    row.username.isSome ∧ row.username = data.username

section Identity

variable {X : AccountExterns} {b : KeyBackend} {service : AccountService}

theorem isNormalized_normalizeEmail (hX : Lowercases X) (email : String) :
    IsNormalized X (normalizeEmail X email) := by
  refine ⟨hX.trimmed _ ?_, hX.lower _⟩
  rw [String.toList_ofList]
  exact Text.trim_trim _

/-- The usernames are the column without the absent ones. -/
theorem UsernamesDistinct.nodup {t : AccountTable} (h : UsernamesDistinct t) :
    (t.rows.filterMap Account.username).Nodup := by
  have hkey : t.rows.Pairwise fun row row' => row.id ≠ row'.id :=
    List.pairwise_map.mp t.key_nodup
  rw [List.Nodup, List.pairwise_filterMap]
  refine hkey.imp_of_mem fun {row row'} hrow hrow' hid username hmem username' hmem' => ?_
  rintro rfl
  exact hid (h row hrow row' hrow' username hmem hmem')

/-- A statement that leaves usernames alone keeps them distinct. -/
theorem UsernamesDistinct.update {t t' : AccountTable} (h : UsernamesDistinct t) {id : String}
    {f : Account → Account} {hf : ∀ a, (f a).id = a.id} (hupdate : t.update id f hf = some t')
    (hfree : ∀ row ∈ t.rows, row.id = id → ∀ username, (f row).username = some username →
      row.username = some username ∨
        ∀ other ∈ t.rows, other.id ≠ id → other.username ≠ some username) :
    UsernamesDistinct t' := by
  intro row hrow row' hrow' username husername husername'
  rcases Table.mem_of_update hupdate hrow with hold | ⟨old, hold, hid, rfl⟩
  · rcases Table.mem_of_update hupdate hrow' with hold' | ⟨old', hold', hid', rfl⟩
    · exact h row hold row' hold' username husername husername'
    · rw [hf, hid']
      rcases hfree old' hold' hid' username husername' with hsame | hother
      · rw [← hid']
        exact h row hold old' hold' username husername hsame
      · by_contra hne
        exact hother row hold hne husername
  · rcases Table.mem_of_update hupdate hrow' with hold' | ⟨old', hold', hid', rfl⟩
    · rw [hf, hid]
      rcases hfree old hold hid username husername with hsame | hother
      · rw [← hid]
        exact h old hold row' hold' username hsame husername'
      · by_contra hne
        exact hother row' hold' (Ne.symm hne) husername'
    · rw [hf, hf, hid, hid']

/-- What an operation writes back has the username that was read, or a new one of an update. -/
theorem AccountRewrite.username_cases {row account : Account} {op : AccountOp}
    (h : AccountRewrite X row op account) :
    account.username = row.username ∨
      ∃ data username, op = .updateAccount row.id data ∧ data.username = some username ∧
        account.username = some username := by
  cases h with
  | verifyEmail verifiedAt updatedAt hverified => exact .inl rfl
  | changePassword newPassword hash changedAt updatedAt => exact .inl rfl
  | updateAccount data email now hemail =>
    cases husername : data.username with
    | none =>
      refine .inl ?_
      rw [updatedAccount, husername, Option.none_or]
    | some username =>
      refine .inr ⟨data, username, rfl, husername, ?_⟩
      rw [updatedAccount, husername, Option.some_or]

/-- **An operation keeps the usernames distinct** if it does not take one. -/
theorem UsernamesDistinct.step {s : AccountTable × List StatusChange} {a : AccountAction}
    {t' : AccountTable} (h : UsernamesDistinct s.1)
    (hstep : AccountStep X b service a.inputs s.1 a.op t')
    (hunique : service.config.uniqueUsernames = true) (htakes : ¬ TakesUsername s a) :
    UsernamesDistinct t' := by
  rcases a with ⟨op, inputs⟩
  cases hstep with
  | idle => exact h
  | deleted id =>
    exact fun row hrow row' hrow' =>
      h row (Table.mem_of_erase hrow) row' (Table.mem_of_erase hrow')
  | created hfree hinsert =>
    -- the check has found nobody with the new username
    intro row hrow row' hrow' username husername husername'
    rcases Table.mem_of_insert hinsert hrow with hold | rfl
    · rcases Table.mem_of_insert hinsert hrow' with hold' | rfl
      · exact h row hold row' hold' username husername husername'
      · exact absurd husername (hfree hunique username husername' row hold)
    · rcases Table.mem_of_insert hinsert hrow' with hold' | rfl
      · exact absurd husername' (hfree hunique username husername row' hold')
      · rfl
  | expired hexpires heffect hupdate =>
    exact h.update hupdate fun row _ _ username husername =>
      .inl ((Account.withStatus_username _ _ _ _ row).symm.trans husername)
  | moved hop hread hfound hcan heffect hupdate =>
    exact h.update hupdate fun row _ _ username husername =>
      .inl ((Account.withStatus_username _ _ _ _ row).symm.trans husername)
  | loggedIn hupdate => exact h.update hupdate fun row _ _ username husername => .inl husername
  | rewritten hfound haccount hupdate =>
    refine h.update hupdate fun row hrow hid username husername => ?_
    rw [haccount.id_eq] at hid
    have hread := hid ▸ Table.find_key hrow
    obtain rfl := Option.some.inj (hread.symm.trans hfound)
    rw [Account.rewritten_username] at husername
    rcases haccount.username_cases with hsame | ⟨data, new, rfl, hdata, hnew⟩
    · exact .inl (hsame.symm.trans husername)
    · refine .inr fun other hother hne htaken =>
        htakes ⟨row.id, data, rfl, other, hother, ?_, ?_, ?_⟩
      · rw [← haccount.id_eq]
        exact hne
      · rw [htaken]
        rfl
      · rw [htaken, hdata, ← husername, hnew]

/-- What an operation writes back has the address that was read, or a new one that was
normalised. -/
theorem AccountRewrite.isNormalized (hX : Lowercases X) {row account : Account} {op : AccountOp}
    (h : AccountRewrite X row op account) (hrow : IsNormalized X row.email) :
    IsNormalized X account.email := by
  cases h with
  | verifyEmail verifiedAt updatedAt hverified => exact hrow
  | changePassword newPassword hash changedAt updatedAt => exact hrow
  | updateAccount data email now hemail =>
    rcases hemail with hsame | ⟨raw, -, hnew⟩
    · exact hsame.symm ▸ hrow
    · exact hnew.symm ▸ isNormalized_normalizeEmail hX raw

/-- What becomes of a row has a normalised address if the row does. -/
theorem isNormalized_of_rowStep (hX : Lowercases X) {op : AccountOp} {old : Option Account}
    {row : Account} (hold : ∀ row ∈ old, IsNormalized X row.email)
    (h : RowStep X b service op old row) : IsNormalized X row.email := by
  cases h with
  | kept row => exact hold row rfl
  | created hop => exact isNormalized_normalizeEmail hX _
  | moved hpending hactive =>
    rw [Account.withStatus_email]
    exact hold _ rfl
  | rewritten haccount =>
    rw [Account.rewritten_email]
    exact haccount.isNormalized hX (hold _ rfl)
  | loggedIn row now => exact hold row rfl

/-- **Addresses and usernames are distinct.**  For every run of operations from the empty store,
whatever their calls meet: every stored address is trimmed and in lower case, no two are the same,
and if usernames are to be unique and no update sets one that another account has, no two
usernames are the same. -/
theorem distinct_of_run (X : AccountExterns) (hX : Lowercases X) (b : KeyBackend)
    (service : AccountService) (actions : List AccountAction)
    (h : Allowed (service.step X b)
      (fun s a => service.config.uniqueUsernames = true → ¬ TakesUsername s a) (Table.empty, [])
      actions) :
    let t := (actions.foldl (service.step X b) (Table.empty, [])).1
    (∀ row ∈ t.rows, IsNormalized X row.email) ∧ (t.rows.map Account.email).Nodup ∧
      (service.config.uniqueUsernames = true → (t.rows.filterMap Account.username).Nodup) := by
  have hreach := Reach.foldl .start h
  refine ⟨?_, (actions.foldl (service.step X b) (Table.empty, [])).1.unique_nodup, ?_⟩
  · refine hreach.invariant (I := fun s => ∀ row ∈ s.1.rows, IsNormalized X row.email) ?_ ?_
    · exact fun row hrow => absurd hrow List.not_mem_nil
    · intro s a hrows _
      obtain ⟨t', hs', hstep⟩ := service.step_cases X b s a
      rw [hs']
      exact hstep.forall_rows hrows fun old row => isNormalized_of_rowStep hX
  · intro hunique
    refine UsernamesDistinct.nodup ?_
    refine hreach.invariant (I := fun s => UsernamesDistinct s.1) ?_ ?_
    · exact fun row hrow => absurd hrow List.not_mem_nil
    · intro s a hdistinct htakes
      obtain ⟨t', hs', hstep⟩ := service.step_cases X b s a
      rw [hs']
      exact hdistinct.step hstep hunique (htakes hunique)

end Identity

/-! ### Samples -/

theorem isWhitespace_eq_false {c : Char} (h : 65 ≤ c.toNat) (h' : c.toNat ≤ 122) :
    Text.isWhitespace c = false := by
  simp [Text.isWhitespace]
  omega

/-- Lower case of a character: the character itself, or a small letter. -/
theorem toLower_cases (c : Char) :
    c.toLower = c ∨ 65 ≤ c.toNat ∧ c.toNat ≤ 90 ∧ c.toLower.toNat = c.toNat + 32 := by
  delta Char.toLower
  split
  · next h =>
    have hge : 65 ≤ c.val.toNat := UInt32.le_iff_toNat_le.mp h.1
    have hle : c.val.toNat ≤ 90 := UInt32.le_iff_toNat_le.mp h.2
    refine .inr ⟨hge, hle, ?_⟩
    show (c.val + ('a'.val - 'A'.val)).toNat = c.val.toNat + 32
    rw [UInt32.toNat_add]
    show (c.val.toNat + 32) % 2 ^ 32 = _
    omega
  · exact .inl rfl

theorem isWhitespace_toLower (c : Char) : Text.isWhitespace c.toLower = Text.isWhitespace c := by
  rcases toLower_cases c with hsame | ⟨hge, hle, hlower⟩
  · rw [hsame]
  · rw [isWhitespace_eq_false hge (by omega), isWhitespace_eq_false (by omega) (by omega)]

theorem toLower_toLower (c : Char) : c.toLower.toLower = c.toLower := by
  rcases toLower_cases c with hsame | ⟨hge, hle, hlower⟩
  · rw [hsame, hsame]
  · rcases toLower_cases c.toLower with hsame | ⟨hge', hle', -⟩
    · exact hsame
    · omega

theorem trim_map_toLower (s : List Char) :
    Text.trim (s.map Char.toLower) = (Text.trim s).map Char.toLower := by
  have hcomp : Text.isWhitespace ∘ Char.toLower = Text.isWhitespace := funext isWhitespace_toLower
  simp only [Text.trim, List.dropWhile_map, hcomp, ← List.map_reverse]

theorem lowercases_sample : Lowercases sampleAccountExterns where
  lower s := by
    show asciiLowercase (asciiLowercase s) = asciiLowercase s
    simp only [asciiLowercase, String.toList_ofList, List.map_map]
    congr 2
    exact funext toLower_toLower
  trimmed s hs := by
    show Text.trim (asciiLowercase s).toList = (asciiLowercase s).toList
    rw [asciiLowercase, String.toList_ofList, trim_map_toLower, hs]

/-- A service that is configured to keep usernames unique, with the sample hasher. -/
def sampleUniqueUsernames : AccountService := ⟨sampleHasher, ⟨false, true⟩⟩

/-- A request for an account with a username and a password, with nothing else set. -/
def sampleNamed (email username : String) : CreateAccount :=
  ⟨email, some username, some "password", [], none, none, none⟩

/-- Two accounts are created, with the addresses still to be normalised. -/
def sampleTwoNames : List AccountAction :=
  [sampleAction (.createAccount (sampleNamed " A@example.com" "anna")) (sampleTime 0) "acct_1",
   sampleAction (.createAccount (sampleNamed "b@Example.com " "bert")) (sampleTime 0) "acct_2"]

/-- The store after a run of the service. -/
def sampleNames (actions : List AccountAction) : AccountTable :=
  (actions.foldl (sampleUniqueUsernames.step sampleAccountExterns .turso) (Table.empty, [])).1

theorem distinct_of_run_sample :
    (sampleNames sampleTwoNames).rows.map Account.email = ["a@example.com", "b@example.com"] ∧
      ((sampleNames sampleTwoNames).rows.filterMap Account.username).Nodup := by
  refine ⟨rfl, (distinct_of_run sampleAccountExterns lowercases_sample .turso
    sampleUniqueUsernames sampleTwoNames ?_).2.2 rfl⟩
  refine Allowed.of_forall (fun a ha s _ htakes => ?_) _
  obtain ⟨id, data, hop, -⟩ := htakes
  rcases List.mem_cons.mp ha with rfl | ha
  · contradiction
  · rw [List.mem_singleton.mp ha] at hop
    contradiction

/-- An update sets a username that another account has. -/
theorem not_forall_usernames_nodup :
    ¬ ∀ (X : AccountExterns) (b : KeyBackend) (service : AccountService)
      (actions : List AccountAction), Lowercases X → service.config.uniqueUsernames = true →
      ((actions.foldl (service.step X b) (Table.empty, [])).1.rows.filterMap
        Account.username).Nodup := by
  intro h
  have hnodup := h sampleAccountExterns .turso sampleUniqueUsernames (sampleTwoNames ++
    [sampleAction (.updateAccount "acct_2" ⟨none, some "anna", none, none, none⟩)
      (sampleTime 1) ""])
    lowercases_sample rfl
  revert hnodup
  show ¬ (["anna", "anna"] : List String).Nodup
  decide

end ActonService
