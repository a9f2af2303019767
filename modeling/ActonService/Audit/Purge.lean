import ActonService.Audit.Storage
import ActonService.Lib.Run

/-!
# Purging under delete protection

`purge_before` of the three backends that protect their table against deletes:
PostgreSQL by a rule, Turso by a trigger, SurrealDB by the permissions of the table.
A purge lifts the protection, deletes and reinstates the protection, each by a command
of its own, so the purges of several instances interleave command by command.

A command that fails has no effect.  On SurrealDB a command can also be rejected
without the caller being told, as its response is not looked at.  PostgreSQL's
`CREATE RULE` is refused where the rule exists; the protection is then in force, and
this is not counted as a failure to reinstate it.

## Main definitions

* `PurgeState`, `purgeStep` — the instances, the table and its protection, and what a
  command does to them.
* `Covered` — the runs in which no count query of SurrealDB fails and times have an order
  the table can tell.

## Main results

* `purge_spec` — **between purges the protection is in force, unless reinstating it
  failed, and nothing is deleted that is as young as every cutoff.**
-/

namespace ActonService

open Run

/-! ### Times -/

/-- The times whose year has four digits. -/
def DateTime.FourDigitYear (t : DateTime) : Prop :=
  -62167219200 ≤ t.secs ∧ t.secs ≤ 253402300799

/-- RFC 3339 texts of UTC times with four-digit years sort by time. -/
def TextsSortByTime (T : Texts) : Prop :=
  ∀ s t : DateTime, s.Regular → t.Regular → s.FourDigitYear → t.FourDigitYear →
    T.toRfc3339 s < T.toRfc3339 t → s < t

/-! ### Commands -/

/-- The backends with delete protection. -/
inductive ProtectedKind
  | postgres
  | turso
  | surrealDb
  deriving DecidableEq, Repr

/-- Whether the table takes the event to be before the cutoff. -/
def ProtectedKind.before (S : StoreExterns) (kind : ProtectedKind) (cutoff : DateTime)
    (e : AuditEvent) : Bool :=
  match kind with
  | .postgres => (pgBackend S).before cutoff (pgRow S e)
  | .turso => (tursoBackend S).before cutoff (tursoRow S e)
  | .surrealDb => decide ((surrealRecord S e).timestamp < S.toRfc3339 cutoff)

/-- The error the call of a command returns: `sqlx` and `libsql` return that of a rejected
command, SurrealDB does not. -/
def ProtectedKind.reported : ProtectedKind → Fault → Option String
  | _, .none => none
  | .surrealDb, .rejected _ => none
  | _, .unreachable e | _, .rejected e | _, .stream _ e => some e

/-- The error of the command that lifts the protection. -/
def ProtectedKind.liftError (kind : ProtectedKind) (fault : Fault) (e : String) : StorageError :=
  match kind, fault with
  | .postgres, _ => .internal ("Failed to drop audit_no_delete rule: " ++ e)
  | .turso, .unreachable _ => .internal ("Failed to connect for audit purge: " ++ e)
  | .turso, _ => .internal ("Failed to drop audit_no_delete trigger: " ++ e)
  | .surrealDb, _ =>
    .internal ("Failed to temporarily allow deletes on audit_events: " ++ e)

/-- Where an instance is in `purge_before`. -/
inductive PurgePoint
  | idle
  /-- About to lift the protection. -/
  | lift (cutoff : DateTime)
  /-- About to count the events, on SurrealDB only. -/
  | count (cutoff : DateTime)
  /-- About to delete; `total` is the number SurrealDB has counted. -/
  | delete (cutoff : DateTime) (total : UInt64)
  /-- About to reinstate the protection and to return `result`. -/
  | reinstate (result : Except StorageError UInt64)

/-- The table, its protection and where every instance is. -/
structure PurgeState (ι : Type) where
  point : ι → PurgePoint
  inForce : Bool
  table : List AuditEvent
  /-- The events the purges have deleted. -/
  deleted : List AuditEvent
  /-- The cutoffs the purges were called with. -/
  cutoffs : List DateTime
  /-- What the finished purges have returned. -/
  returned : List (ι × Except StorageError UInt64)
  /-- A command that reinstates the protection has failed. -/
  reinstateFailed : Bool

/-- What can happen next: an instance calls, its next command is carried out or fails, or an event
is appended. -/
inductive PurgeAction (ι : Type)
  /-- An instance calls `purge_before`. -/
  | call (i : ι) (cutoff : DateTime)
  /-- An instance runs its next command. -/
  | command (i : ι) (fault : Fault)
  /-- An event is appended. -/
  | append (e : AuditEvent)

section Purge

variable {ι : Type} [DecidableEq ι] (S : StoreExterns) (kind : ProtectedKind)

def PurgeState.goto (s : PurgeState ι) (i : ι) (p : PurgePoint) : PurgeState ι :=
  { s with point := Function.update s.point i p }

def PurgeState.finish (s : PurgeState ι) (i : ι) (result : Except StorageError UInt64) :
    PurgeState ι :=
  { s with returned := (i, result) :: s.returned }.goto i .idle

/-- `DELETE FROM audit_events WHERE timestamp < cutoff`, which the protection stops. -/
def PurgeState.deleteBefore (s : PurgeState ι) (cutoff : DateTime) : PurgeState ι :=
  if s.inForce then s
  else
    { s with
      table := s.table.filter fun e => !kind.before S cutoff e
      deleted := s.deleted ++ s.table.filter (kind.before S cutoff) }

/-- What the delete makes the purge return.  Against the protection the rule discards the
delete, the trigger aborts it and the permissions leave nothing to it. -/
def PurgeState.deleteResult (s : PurgeState ι) (cutoff : DateTime) (total : UInt64)
    (fault : Fault) : Except StorageError UInt64 :=
  match kind.reported fault with
  | some e => .error (.internal ("Failed to purge audit events: " ++ e))
  | none =>
    let rows := s.table.filter (kind.before S cutoff)
    match kind with
    | .surrealDb => .ok total
    | .postgres => .ok (if s.inForce then 0 else .ofNat rows.length)
    | .turso =>
      if s.inForce then
        if rows.isEmpty then .ok 0
        else .error (.internal ("Failed to purge audit events: " ++ "audit events are immutable"))
      else .ok (.ofNat rows.length)

/-- The next command of an instance, which is carried out or fails; an instance that is idle has
none. -/
def PurgeState.command (s : PurgeState ι) (i : ι) (fault : Fault) : PurgeState ι :=
  match s.point i with
  | .idle => s
  | .lift cutoff =>
    match kind.reported fault with
    | some e => s.finish i (.error (kind.liftError fault e))
    | none =>
      -- a rejected command that SurrealDB does not report leaves the protection on
      let s' := if fault = .none then { s with inForce := false } else s
      s'.goto i (if kind = .surrealDb then .count cutoff else .delete cutoff 0)
  | .count cutoff =>
    match kind.reported fault with
    | some e =>
      -- the early return: nothing reinstates the protection
      s.finish i (.error (.internal ("Failed to count audit events for purge: " ++ e)))
    | none =>
      let total := if fault = .none then (s.table.filter (kind.before S cutoff)).length else 0
      s.goto i (.delete cutoff (.ofNat total))
  | .delete cutoff total =>
    let s' := if fault = .none then s.deleteBefore S kind cutoff else s
    s'.goto i (.reinstate (s.deleteResult S kind cutoff total fault))
  | .reinstate result =>
    let s' := if fault = .none then { s with inForce := true }
      else { s with reinstateFailed := true }
    s'.finish i result

/-- An instance that is not purging calls `purge_before`. -/
def PurgeState.call (s : PurgeState ι) (i : ι) (cutoff : DateTime) : PurgeState ι :=
  match s.point i with
  | .idle => { s with cutoffs := cutoff :: s.cutoffs }.goto i (.lift cutoff)
  | _ => s

/-- What an action does to the table, its protection and the instances. -/
def purgeStep (s : PurgeState ι) : PurgeAction ι → PurgeState ι
  | .call i cutoff => s.call i cutoff
  | .command i fault => s.command S kind i fault
  | .append e => { s with table := s.table ++ [e] }

/-- An initialised table and no purge in progress. -/
def PurgeState.init (table : List AuditEvent) : PurgeState ι where
  point _ := .idle
  inForce := true
  table := table
  deleted := []
  cutoffs := []
  returned := []
  reinstateFailed := false

/-! ### What the table can tell -/

/-- The times whose order the table can tell: outside leap seconds and, where it compares
texts, in years of four digits. -/
def ProtectedKind.Orders (kind : ProtectedKind) (t : DateTime) : Prop :=
  t.Regular ∧ (kind ≠ .postgres → t.FourDigitYear)

/-- `TIMESTAMPTZ` keeps the order of times. -/
theorem DateTime.lt_of_toTimestamptz_lt {s t : DateTime} (hs : s.Regular) (ht : t.Regular)
    (h : s.toTimestamptz < t.toTimestamptz) : s < t := by
  have hsign : Int.sign 1000 = 1 := rfl
  unfold Regular at hs ht
  rw [toTimestamptz, toTimestamptz, Int.tdiv_eq_ediv, Int.tdiv_eq_ediv] at h
  rw [lt_iff]
  split at h <;> split at h <;> omega

/-- What a table takes to be before a cutoff is before it. -/
theorem ProtectedKind.lt_of_before {S : StoreExterns} {kind : ProtectedKind}
    (hsort : kind ≠ .postgres → TextsSortByTime S.toTexts) {cutoff : DateTime} {e : AuditEvent}
    (he : kind.Orders e.timestamp) (hcutoff : kind.Orders cutoff)
    (h : kind.before S cutoff e = true) : e.timestamp < cutoff := by
  cases kind with
  | postgres => exact DateTime.lt_of_toTimestamptz_lt he.1 hcutoff.1 (of_decide_eq_true h)
  | turso =>
    apply hsort (by decide) _ _ he.1 hcutoff.1 (he.2 (by decide)) (hcutoff.2 (by decide))
    exact of_decide_eq_true h
  | surrealDb =>
    apply hsort (by decide) _ _ he.1 hcutoff.1 (he.2 (by decide)) (hcutoff.2 (by decide))
    exact of_decide_eq_true h

/-! ### The invariant -/

/-- The instance has lifted the protection, or is about to reinstate it. -/
def PurgePoint.Owes : PurgePoint → Prop
  | .idle | .lift _ => False
  | .count _ | .delete _ _ | .reinstate _ => True

/-- The cutoff an instance has yet to use. -/
def PurgePoint.cutoff? : PurgePoint → Option DateTime
  | .lift cutoff | .count cutoff | .delete cutoff _ => some cutoff
  | .idle | .reinstate _ => none

/-- **What holds throughout.**  The protection is lifted only while somebody owes to
reinstate it or after reinstating it failed; every cutoff in use is one a purge was
called with; and what was deleted is before such a cutoff. -/
structure PurgeInv (s : PurgeState ι) : Prop where
  owed : s.inForce = false → s.reinstateFailed = true ∨ ∃ i, (s.point i).Owes
  used : ∀ i, ∀ c ∈ (s.point i).cutoff?, c ∈ s.cutoffs
  orders_table : ∀ e ∈ s.table, kind.Orders e.timestamp
  orders_cutoffs : ∀ c ∈ s.cutoffs, kind.Orders c
  deleted_lt : ∀ e ∈ s.deleted, ∃ c ∈ s.cutoffs, e.timestamp < c

/-- The steps under which the protection can be relied on: SurrealDB's count query does not
return an error, and the table can tell the order of the times it is given. -/
def Covered (s : PurgeState ι) : PurgeAction ι → Prop
  | .call _ cutoff => kind.Orders cutoff
  | .append e => kind.Orders e.timestamp
  | .command i fault => ∀ cutoff, s.point i = .count cutoff → kind.reported fault = none

variable {S kind} {s : PurgeState ι}

/-- An instance moves on.  Nothing is forgotten if it owes at its new point or owed
nothing at the old one, and nothing is to be done if the protection is in force or
reinstating it failed. -/
theorem PurgeInv.goto (h : PurgeInv kind s) (i : ι) (p : PurgePoint)
    (howes : p.Owes ∨ ¬ (s.point i).Owes ∨ s.inForce = true ∨ s.reinstateFailed = true)
    (hcutoff : ∀ c ∈ p.cutoff?, c ∈ s.cutoffs) : PurgeInv kind (s.goto i p) := by
  refine ⟨?_, ?_, h.orders_table, h.orders_cutoffs, h.deleted_lt⟩
  · intro hlifted
    rcases howes with howes | hnot | hforce | hfailed
    · exact .inr ⟨i, by simpa [PurgeState.goto] using howes⟩
    · rcases h.owed hlifted with hfailed | ⟨j, hj⟩
      · exact .inl hfailed
      · -- somebody else owes it
        have hji : j ≠ i := fun hji => hnot (hji ▸ hj)
        exact .inr ⟨j, by simpa [PurgeState.goto, hji] using hj⟩
    · exact absurd (hlifted.symm.trans hforce) (by decide)
    · exact .inl hfailed
  · intro j c hc
    by_cases hji : j = i
    · subst hji
      exact hcutoff c (by simpa [PurgeState.goto] using hc)
    · exact h.used j c (by simpa [PurgeState.goto, hji] using hc)

/-- An instance that lifts the protection owes to reinstate it. -/
theorem PurgeInv.lift (h : PurgeInv kind s) (i : ι) (p : PurgePoint) (howes : p.Owes)
    (hcutoff : ∀ c ∈ p.cutoff?, c ∈ s.cutoffs) (lifts : Prop) [Decidable lifts] :
    PurgeInv kind ((if lifts then { s with inForce := false } else s).goto i p) := by
  have hgoto := h.goto i p (.inl howes) hcutoff
  split
  · exact ⟨fun _ => .inr ⟨i, by simpa [PurgeState.goto] using howes⟩, hgoto.used,
      h.orders_table, h.orders_cutoffs, h.deleted_lt⟩
  · exact hgoto

theorem PurgeInv.finish (h : PurgeInv kind s) (i : ι) (result : Except StorageError UInt64)
    (howes : ¬ (s.point i).Owes ∨ s.inForce = true ∨ s.reinstateFailed = true) :
    PurgeInv kind (s.finish i result) := by
  have hreturned : PurgeInv kind { s with returned := (i, result) :: s.returned } :=
    ⟨h.owed, h.used, h.orders_table, h.orders_cutoffs, h.deleted_lt⟩
  exact hreturned.goto i .idle (.inr howes) (by simp [PurgePoint.cutoff?])

omit [DecidableEq ι] in
theorem PurgeInv.deleteBefore (hsort : kind ≠ .postgres → TextsSortByTime S.toTexts)
    (h : PurgeInv kind s) {cutoff : DateTime} (hcutoff : cutoff ∈ s.cutoffs) :
    PurgeInv kind (s.deleteBefore S kind cutoff) := by
  unfold PurgeState.deleteBefore
  split
  · exact h
  · refine ⟨h.owed, h.used, ?_, h.orders_cutoffs, ?_⟩
    · intro e he
      exact h.orders_table e (List.mem_of_mem_filter he)
    · intro e he
      rcases List.mem_append.mp he with he | he
      · exact h.deleted_lt e he
      · obtain ⟨hmem, hbefore⟩ := List.mem_filter.mp he
        exact ⟨cutoff, hcutoff, ProtectedKind.lt_of_before hsort (h.orders_table e hmem)
          (h.orders_cutoffs cutoff hcutoff) hbefore⟩

theorem PurgeInv.command (hsort : kind ≠ .postgres → TextsSortByTime S.toTexts)
    (h : PurgeInv kind s) (i : ι) (fault : Fault)
    (hcount : ∀ cutoff, s.point i = .count cutoff → kind.reported fault = none) :
    PurgeInv kind (s.command S kind i fault) := by
  unfold PurgeState.command
  cases hp : s.point i with
  | idle => exact h
  | lift cutoff =>
    have hused : cutoff ∈ s.cutoffs := h.used i cutoff (by rw [hp]; rfl)
    cases hreported : kind.reported fault with
    | some e => exact h.finish i _ (.inl (by simp [hp, PurgePoint.Owes]))
    | none =>
      by_cases hkind : kind = .surrealDb
      · simp only [if_pos hkind]
        exact h.lift i (.count cutoff) trivial (by simpa [PurgePoint.cutoff?] using hused) _
      · simp only [if_neg hkind]
        exact h.lift i (.delete cutoff 0) trivial (by simpa [PurgePoint.cutoff?] using hused) _
  | count cutoff =>
    have hused : cutoff ∈ s.cutoffs := h.used i cutoff (by rw [hp]; rfl)
    -- an error here would end the purge while it owes; a covered run has none
    rw [hcount cutoff hp]
    exact h.goto i _ (.inl trivial) (by simpa [PurgePoint.cutoff?] using hused)
  | delete cutoff total =>
    have hused : cutoff ∈ s.cutoffs := h.used i cutoff (by rw [hp]; rfl)
    simp only
    split
    · exact (h.deleteBefore hsort hused).goto i _ (.inl trivial) (by simp [PurgePoint.cutoff?])
    · exact h.goto i _ (.inl trivial) (by simp [PurgePoint.cutoff?])
  | reinstate result =>
    simp only
    split
    · have hforce : PurgeInv kind { s with inForce := true } :=
        ⟨by simp, h.used, h.orders_table, h.orders_cutoffs, h.deleted_lt⟩
      exact hforce.finish i result (.inr (.inl rfl))
    · have hfailed : PurgeInv kind { s with reinstateFailed := true } :=
        ⟨fun _ => .inl rfl, h.used, h.orders_table, h.orders_cutoffs, h.deleted_lt⟩
      -- the purge ends without the protection, and the run says so
      exact hfailed.finish i result (.inr (.inr rfl))

theorem PurgeInv.call (h : PurgeInv kind s) (i : ι) {cutoff : DateTime}
    (hcutoff : kind.Orders cutoff) : PurgeInv kind (s.call i cutoff) := by
  unfold PurgeState.call
  cases hp : s.point i with
  | idle =>
    have hcall : PurgeInv kind { s with cutoffs := cutoff :: s.cutoffs } := by
      refine ⟨h.owed, ?_, h.orders_table,
        List.forall_mem_cons.mpr ⟨hcutoff, h.orders_cutoffs⟩, ?_⟩
      · intro j c hc
        exact List.mem_cons_of_mem _ (h.used j c hc)
      · intro e he
        obtain ⟨c, hc, hlt⟩ := h.deleted_lt e he
        exact ⟨c, List.mem_cons_of_mem _ hc, hlt⟩
    exact hcall.goto i (.lift cutoff) (.inr (.inl (by simp [hp, PurgePoint.Owes])))
      (by simp [PurgePoint.cutoff?])
  | _ => exact h

theorem PurgeInv.step (hsort : kind ≠ .postgres → TextsSortByTime S.toTexts)
    (h : PurgeInv kind s) (a : PurgeAction ι) (ha : Covered kind s a) :
    PurgeInv kind (purgeStep S kind s a) := by
  cases a with
  | call i cutoff => exact h.call i ha
  | command i fault => exact h.command hsort i fault ha
  | append e =>
    refine ⟨h.owed, h.used, ?_, h.orders_cutoffs, h.deleted_lt⟩
    intro d hd
    rcases List.mem_append.mp hd with hd | hd
    · exact h.orders_table d hd
    · rw [List.mem_singleton.mp hd]
      exact ha

/-- **Purges keep the protection and the young events.**  In every state that purges of
any number of instances reach, their commands interleaved in any order and failing
anywhere but at SurrealDB's count query: where no purge is in progress the protection
is in force, unless a command that reinstates it failed; and every event the purges
have deleted is before one of their cutoffs. -/
theorem purge_spec (S : StoreExterns) (kind : ProtectedKind)
    (hsort : kind ≠ .postgres → TextsSortByTime S.toTexts) {table : List AuditEvent}
    (htable : ∀ e ∈ table, kind.Orders e.timestamp) {s : PurgeState ι}
    (h : Reach (purgeStep S kind) (Covered kind) (PurgeState.init table) s) :
    ((∀ i, s.point i = .idle) → s.reinstateFailed = false → s.inForce = true) ∧
      ∀ e ∈ s.deleted, ∃ c ∈ s.cutoffs, e.timestamp < c := by
  have hinv : PurgeInv kind s := by
    apply h.invariant
    · exact ⟨by simp [PurgeState.init], by simp [PurgeState.init, PurgePoint.cutoff?], htable,
        by simp [PurgeState.init], by simp [PurgeState.init]⟩
    · intro s a hs ha
      exact hs.step hsort a ha
  refine ⟨fun hidle hok => ?_, hinv.deleted_lt⟩
  by_contra hlifted
  rw [Bool.not_eq_true] at hlifted
  rcases hinv.owed hlifted with hfailed | ⟨i, hi⟩
  · exact absurd (hok.symm.trans hfailed) (by decide)
  · rw [hidle i] at hi
    exact hi

end Purge

/-- Two instances whose purges overlap: both lift the protection before either deletes. -/
def samplePurges : List (PurgeAction Bool) :=
  [.call false (sampleTime 123000000), .call true (sampleTime 123000000),
   .command false .none, .command true .none, .command false .none, .command false .none,
   .command true .none, .command true .none]

theorem purge_spec_sample :
    let s := samplePurges.foldl (purgeStep sampleStore .postgres) (PurgeState.init [sampleFirst])
    s.inForce = true ∧ sampleFirst ∈ s.deleted ∧
      ∀ e ∈ s.deleted, ∃ c ∈ s.cutoffs, e.timestamp < c := by
  intro s
  have horders : ∀ nanos : Fin 1000000000,
      ProtectedKind.postgres.Orders (sampleTime ⟨nanos, by omega⟩) := by
    intro nanos
    exact ⟨nanos.isLt, fun h => absurd rfl h⟩
  have hreach : Reach (purgeStep sampleStore .postgres) (Covered .postgres)
      (PurgeState.init [sampleFirst]) s := by
    apply Reach.start.foldl
    exact ⟨horders 123000000, horders 123000000, fun _ _ => rfl, fun _ _ => rfl, fun _ _ => rfl,
      fun _ _ => rfl, fun _ _ => rfl, fun _ _ => rfl, trivial⟩
  have hspec := purge_spec sampleStore .postgres (fun h => absurd rfl h)
    (List.forall_mem_singleton.mpr (horders 0)) hreach
  refine ⟨hspec.1 ?_ rfl, ?_, hspec.2⟩
  · intro i
    cases i <;> rfl
  · exact List.mem_singleton.mpr rfl

/-- One purge on SurrealDB whose count query fails leaves the table without protection, with
no purge in progress and no command that reinstates it having failed. -/
theorem purge_count_failed_unprotected :
    ∃ s : PurgeState Unit, Reach (purgeStep sampleStore .surrealDb) (fun _ _ => True)
        (PurgeState.init []) s ∧ (∀ i, s.point i = .idle) ∧ s.reinstateFailed = false ∧
      s.inForce = false :=
  ⟨_, .act (.command () (.unreachable "connection reset")) (.act (.command () .none)
    (.act (.call () (sampleTime 0)) .start trivial) trivial) trivial, fun _ => rfl, rfl, rfl⟩

end ActonService
