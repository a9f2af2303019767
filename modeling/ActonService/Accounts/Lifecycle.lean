import ActonService.Accounts.Steps

/-!
# The lifecycle of accounts

Every change of a stored account's status should be a transition of the table in
`can_transition_to`.  The operations that are asked for a status check it, and verification only
moves an account that waits for it.  The automatic expiry of `get_account` checks nothing but that
the account has not expired yet.

## Main definitions

* `Conforms` — every change recorded is a transition of the table.
* `ExpiresStopped` — an operation expires an account that is disabled, locked or suspended.

## Main results

* `conforms_iff` — **the changes of a run conform exactly if none of its operations expires a
  stopped account.**
-/

namespace ActonService

open Effect Run Tables AccountWorld AccountStorage AccountService

/-- Every change recorded is a transition of the table. -/
def Conforms (log : List StatusChange) : Prop :=
  ∀ change ∈ log, change.before.canTransitionTo change.after = true

instance decidableConforms (log : List StatusChange) : Decidable (Conforms log) :=
  inferInstanceAs (Decidable (∀ change ∈ log, _))

/-- The operation reads an account that is disabled, locked or suspended and past its time, and
the expiry is stored. -/
def ExpiresStopped (s : AccountTable × List StatusChange) (a : AccountAction) : Prop :=
  ∃ id row, a.op = .getAccount id ∧ Expires s.1 id a.inputs row ∧ row.status.isStopped = true ∧
    TakesEffect (a.inputs 2).fault

section Proofs

variable {X : AccountExterns} {b : KeyBackend} {service : AccountService}

theorem conforms_append {log log' : List StatusChange} :
    Conforms (log ++ log') ↔ Conforms log ∧ Conforms log' :=
  List.forall_mem_append

/-! ### What a statement changes -/

section Statements

variable {t t' : AccountTable}

/-- An update of one row changes at most the status of that row. -/
theorem mem_statusChanges_update {id : String} {f : Account → Account}
    {hf : ∀ a, (f a).id = a.id} {change : StatusChange} (h : t.update id f hf = some t')
    (hchange : change ∈ statusChanges t t') :
    ∃ row, t.find id = some row ∧ change = ⟨id, row.status, (f row).status⟩ ∧
      row.status ≠ (f row).status := by
  obtain ⟨row, row', hrow, hrow', hbefore, hafter, hne⟩ := mem_statusChanges.mp hchange
  rw [Table.find_update h] at hrow'
  split at hrow'
  · next hid =>
    rw [hid] at hrow
    rw [hid, hrow, Option.map_some, Option.some.injEq] at hrow'
    refine ⟨row, hrow, ?_, ?_⟩
    · rw [hrow', hbefore, hafter, ← hid]
    · rw [hrow', hbefore, hafter]
      exact hne
  · rw [hrow, Option.some.injEq] at hrow'
    exact absurd (hbefore.symm.trans (hrow' ▸ hafter)) hne

/-- What setting the status of a stored account changes. -/
theorem mem_statusChanges_statusUpdated {id : String} {status : AccountStatus}
    {reason : Option String} {now : DateTime} {row : Account} (hrow : t.find id = some row)
    (h : statusUpdated b id status reason now t = some t') (change : StatusChange) :
    change ∈ statusChanges t t' ↔ change = ⟨id, row.status, status⟩ ∧ row.status ≠ status := by
  constructor
  · intro hchange
    obtain ⟨row', hrow', rfl, hne⟩ := mem_statusChanges_update h hchange
    rw [hrow, Option.some.injEq] at hrow'
    rw [Account.withStatus_status] at hne ⊢
    rw [hrow']
    exact ⟨rfl, hne⟩
  · rintro ⟨rfl, hne⟩
    refine mem_statusChanges.mpr ⟨row, row.withStatus b status reason now, hrow, ?_, rfl,
      Account.withStatus_status _ _ _ _ _, hne⟩
    rw [Table.find_update h, if_pos rfl, hrow]
    rfl

/-- Adding or removing a row changes no status. -/
theorem statusChanges_insert {account : Account} (h : t.insert account = some t') :
    statusChanges t t' = [] := by
  rw [List.eq_nil_iff_forall_not_mem]
  intro change hchange
  obtain ⟨row, row', hrow, hrow', hbefore, hafter, hne⟩ := mem_statusChanges.mp hchange
  rw [Table.find_insert h] at hrow'
  split at hrow'
  · next hid =>
    have hnone : t.find account.id = none := Table.find_of_insert h
    rw [hid, hrow] at hnone
    contradiction
  · rw [hrow, Option.some.injEq] at hrow'
    exact hne (hbefore.symm.trans (hrow' ▸ hafter))

theorem statusChanges_erase (t : AccountTable) (id : String) :
    statusChanges t (t.erase id) = [] := by
  rw [List.eq_nil_iff_forall_not_mem]
  intro change hchange
  obtain ⟨row, row', hrow, hrow', hbefore, hafter, hne⟩ := mem_statusChanges.mp hchange
  rw [Table.find_erase] at hrow'
  split at hrow'
  · contradiction
  · rw [hrow, Option.some.injEq] at hrow'
    exact hne (hbefore.symm.trans (hrow' ▸ hafter))

end Statements

/-! ### What an operation changes -/

/-- **The changes of one operation** conform unless it expires a stopped account. -/
theorem conforms_statusChanges_iff {s : AccountTable × List StatusChange} {a : AccountAction}
    {t' : AccountTable} (hs' : service.step X b s a = record s t')
    (h : AccountStep X b service a.inputs s.1 a.op t') :
    Conforms (statusChanges s.1 t') ↔ ¬ ExpiresStopped s a := by
  constructor
  · -- If a stopped account expires, that is a change, and it does not conform.
    rintro hconforms ⟨id, row, hop, hexpires, hstopped, heffect⟩
    obtain ⟨t'', ht''⟩ := exists_statusUpdated b id .expired none (a.inputs 2).now s.1
    have hrecord : record s t' = record s t'' := by
      rw [← hs', AccountService.step, hop, AccountService.program, run_snd_void,
        run_getAccount_of_expires X b s a.inputs hexpires, AccountStorage.updateStatus,
        execute_fst, if_pos heffect, ht'', Option.getD_some]
    obtain rfl : t' = t'' := congrArg Prod.fst hrecord
    have hchange := hconforms _
      ((mem_statusChanges_statusUpdated hexpires.found ht'' _).mpr ⟨rfl, hexpires.status⟩)
    have hnot := (AccountStatus.canTransitionTo_expired hexpires.status).mp hchange
    rw [hstopped] at hnot
    contradiction
  · -- conversely, every change is one of a row that was written
    intro hstopped change hchange
    rcases a with ⟨op, inputs⟩
    cases h with
    -- nothing was written, or a row came or went: no row has another status than before
    | idle =>
      rw [statusChanges_self] at hchange
      contradiction
    | created hfree hinsert =>
      rw [statusChanges_insert hinsert] at hchange
      contradiction
    | deleted id =>
      rw [statusChanges_erase] at hchange
      contradiction
    | loggedIn hupdate =>
      obtain ⟨row, -, -, hne⟩ := mem_statusChanges_update hupdate hchange
      exact absurd rfl hne
    | rewritten hrow haccount hupdate =>
      obtain ⟨row', hrow', rfl, hne⟩ := mem_statusChanges_update hupdate hchange
      rw [haccount.id_eq, hrow, Option.some.injEq] at hrow'
      rw [Account.rewritten_status] at hne ⊢
      -- a row that is written back changes its status by the verification only
      rcases haccount.status_eq with hsame | ⟨hpending, hactive⟩
      · exact absurd (hrow' ▸ hsame.symm) hne
      · rw [← hrow', hpending, hactive]
        rfl
    -- an administrator's change is checked before it is made
    | moved hop hread hrow hcan heffect hupdate =>
      obtain ⟨rfl, -⟩ := (mem_statusChanges_statusUpdated hrow hupdate change).mp hchange
      exact hcan
    -- an expiry conforms for an account that is not stopped
    | expired hexpires heffect hupdate =>
      obtain ⟨rfl, hne⟩ :=
        (mem_statusChanges_statusUpdated hexpires.found hupdate change).mp hchange
      refine (AccountStatus.canTransitionTo_expired hne).mpr ?_
      by_contra hnot
      exact hstopped ⟨_, _, rfl, hexpires, Bool.eq_true_of_not_eq_false hnot, heffect⟩

/-- **Which runs keep to the lifecycle.**  For every store to start from and every run of
operations, whatever their calls meet: every change of a stored account's status is a transition
of the table exactly if no operation expires an account that is disabled, locked or suspended. -/
theorem conforms_iff (X : AccountExterns) (b : KeyBackend) (service : AccountService)
    (t : AccountTable) (actions : List AccountAction) :
    Conforms (actions.foldl (service.step X b) (t, [])).2
      ↔ Allowed (service.step X b) (fun s a => ¬ ExpiresStopped s a) (t, []) actions := by
  have hgen : ∀ s, Conforms (actions.foldl (service.step X b) s).2
      ↔ Conforms s.2 ∧ Allowed (service.step X b) (fun s a => ¬ ExpiresStopped s a) s actions := by
    induction actions with
    | nil => exact fun s => (and_iff_left trivial).symm
    | cons a actions ih =>
      intro s
      obtain ⟨t', hs', hstep⟩ := service.step_cases X b s a
      have hfirst := conforms_statusChanges_iff hs' hstep
      have hlog : Conforms (service.step X b s a).2 ↔ Conforms s.2 ∧ ¬ ExpiresStopped s a := by
        rw [hs', ← hfirst]
        exact conforms_append
      rw [List.foldl_cons, ih, hlog, Allowed, and_assoc]
  rw [hgen]
  exact and_iff_right fun change hchange => nomatch hchange

end Proofs

/-! ### Samples -/

/-- An account is disabled and then read after its time. -/
def sampleLateReading : List AccountAction :=
  [sampleAction (.createAccount (sampleSignup "a@example.com" (some (sampleTime 1)))) (sampleTime 0)
    "acct_1",
   sampleAction (.disableAccount "acct_1" "abuse") (sampleTime 0) "",
   sampleAction (.getAccount "acct_1") (sampleTime 2) ""]

/-- Not every run keeps to the lifecycle: an account that was disabled and is read past its expiry
becomes expired. -/
theorem not_forall_conforms :
    (sampleRun sampleLateReading).2
      = [⟨"acct_1", .active, .disabled⟩, ⟨"acct_1", .disabled, .expired⟩] ∧
    ¬ Conforms (sampleRun sampleLateReading).2 := by
  have hlog : (sampleRun sampleLateReading).2
      = [⟨"acct_1", .active, .disabled⟩, ⟨"acct_1", .disabled, .expired⟩] := by
    decide
  refine ⟨hlog, ?_⟩
  rw [hlog]
  decide

end ActonService
