import ActonService.Lib.Run

/-!
# Channels that every receiver reads

A channel with any number of receivers, each of which reads what is sent after it has subscribed, at
its own pace.  The channel keeps its last values, as many as it has places: a receiver that has
fallen behind them is told how many it has missed and goes on with the oldest that is kept.  A send
fails when there is no receiver.

## Main definitions

* `Fanout` — the values a channel keeps, and where its receivers stand.
* `Fanout.step` — the operations; `Fanout.sendResult`, `Fanout.receipt` — their answers.
* `Fanout.Logs` — the values a channel has taken since it was made.
* `nextReceipt`, `ReadsOff` — what a receiver is to be given, and what it has been given.

## Main results

* `receiptAt_eq` — a channel of few places gives what one that keeps everything would be asked for.
* `read_of_run` — **a receiver is given what was sent since it subscribed, in its order**, but for
  the gaps it is told of.
* `live_of_run` — who is left of those who subscribed.
-/

/-! ### What a receiver is given -/

/-- What a receiver is given: the next message, the number of those it has missed, or nothing as
there is none. -/
inductive Receipt (M : Type)
  | value (message : M)
  | lagged (missed : ℕ)
  | empty
  deriving DecidableEq, Repr

/-- How many values a receipt accounts for. -/
def Receipt.advance {M : Type} : Receipt M → ℕ
  | .value _ => 1
  | .lagged missed => missed
  | .empty => 0

/-- How many values receipts account for. -/
def advanceAll {M : Type} : List (Receipt M) → ℕ
  | [] => 0
  | r :: receipts => r.advance + advanceAll receipts

/-- What a receiver is to be given that has not read these values, of which the last are kept. -/
def nextReceipt {M : Type} (size : ℕ) (unread : List M) : Receipt M :=
  if size < unread.length then .lagged (unread.length - size)
  else unread.head?.elim .empty .value

/-- The receipts account for the first of the values that were sent, and each value stands where
the receipts before it have led. -/
structure ReadsOff {M : Type} (receipts : List (Receipt M)) (sent : List M) : Prop where
  le : advanceAll receipts ≤ sent.length
  value : ∀ before message behind, receipts = before ++ .value message :: behind →
    sent[advanceAll before]? = some message

section Receipts

variable {M : Type} {receipts : List (Receipt M)} {sent : List M} {size : ℕ}

@[simp] theorem advanceAll_nil : advanceAll ([] : List (Receipt M)) = 0 := rfl

@[simp] theorem advanceAll_concat (receipts : List (Receipt M)) (r : Receipt M) :
    advanceAll (receipts ++ [r]) = advanceAll receipts + r.advance := by
  induction receipts with
  | nil => exact Nat.add_comm _ _
  | cons r' receipts ih => rw [List.cons_append, advanceAll, advanceAll, ih, Nat.add_assoc]

theorem readsOff_nil (sent : List M) : ReadsOff [] sent :=
  ⟨Nat.zero_le _, fun before _ _ h => by simp at h⟩

/-- Receipts still account for what they did when more is sent. -/
theorem ReadsOff.send (h : ReadsOff receipts sent) (message : M) :
    ReadsOff receipts (sent ++ [message]) where
  le := by
    rw [List.length_append]
    exact Nat.le_trans h.le (Nat.le_add_right _ _)
  value := fun before m behind heq => by
    have hvalue := h.value before m behind heq
    rw [List.getElem?_append_left (List.getElem?_eq_some_iff.mp hvalue).1, hvalue]

theorem advance_nextReceipt_le (size : ℕ) (unread : List M) :
    (nextReceipt size unread).advance ≤ unread.length := by
  rw [nextReceipt]
  split
  · exact Nat.sub_le _ _
  · cases unread with
    | nil => exact Nat.le_refl 0
    | cons m ms => exact Nat.succ_le_succ (Nat.zero_le _)

/-- Nothing is lost to a receiver that has no more to read than is kept. -/
theorem nextReceipt_ne_lagged {unread : List M} (h : unread.length ≤ size) (missed : ℕ) :
    nextReceipt size unread ≠ .lagged missed := by
  rw [nextReceipt, if_neg (Nat.not_lt.mpr h)]
  cases unread.head? with
  | none => exact fun heq => by cases heq
  | some message => exact fun heq => by cases heq

/-- The next receipt accounts for the values that follow. -/
theorem ReadsOff.receive (h : ReadsOff receipts sent) (size : ℕ) :
    ReadsOff (receipts ++ [nextReceipt size (sent.drop (advanceAll receipts))]) sent where
  le := by
    have hle := advance_nextReceipt_le size (sent.drop (advanceAll receipts))
    rw [List.length_drop] at hle
    rw [advanceAll_concat]
    have := h.le
    omega
  value := by
    -- the receipts before are as they were, and the new one stands at their end
    intro before message behind heq
    rcases List.eq_nil_or_concat behind with rfl | ⟨behind, last, rfl⟩
    · obtain ⟨rfl, hlast⟩ := List.append_inj' heq rfl
      have hvalue := List.singleton_injective hlast
      rw [nextReceipt] at hvalue
      split at hvalue
      · cases hvalue
      · rw [← List.head?_drop]
        rcases hunread : (sent.drop (advanceAll receipts)).head? with _ | m
        · rw [hunread] at hvalue
          cases hvalue
        · rw [hunread] at hvalue
          cases hvalue
          rfl
    · rw [List.concat_eq_append, ← List.cons_append, ← List.append_assoc] at heq
      exact h.value before message behind (List.append_inj' heq rfl).1

end Receipts

/-! ### Channels -/

/-- The last values of a channel, how many it has taken, and where each of its receivers stands.  A
receiver that has gone stands nowhere. -/
structure Fanout (M : Type) where
  size : ℕ
  kept : List M
  tail : ℕ
  receivers : List (Option ℕ)
  deriving DecidableEq, Repr

namespace Fanout

variable {M : Type}

/-- A channel without receivers. -/
def new (size : ℕ) : Fanout M := ⟨size, [], 0, []⟩

/-- What can be done with a channel.  Receivers go by the order they subscribed in. -/
inductive Action (M : Type)
  | subscribe
  | send (message : M)
  | receive (i : ℕ)
  | drop (i : ℕ)
  deriving DecidableEq, Repr

/-- How many receivers there are. -/
def live (c : Fanout M) : ℕ := c.receivers.countP Option.isSome

/-- A new receiver stands behind everything that was sent. -/
def subscribe (c : Fanout M) : Fanout M := { c with receivers := c.receivers ++ [some c.tail] }

/-- What a send comes to: the number of receivers, or the message if there is none. -/
def sendResult (c : Fanout M) (message : M) : Except M ℕ :=
  if c.live = 0 then .error message else .ok c.live

/-- A send.  The oldest value makes room for it. -/
def send (c : Fanout M) (message : M) : Fanout M :=
  if c.live = 0 then c
  else
    { c with
      kept := (c.kept ++ [message]).drop (c.kept.length + 1 - c.size)
      tail := c.tail + 1 }

/-- The place of the oldest value that is kept. -/
def oldest (c : Fanout M) : ℕ := c.tail - c.kept.length

/-- What a receiver is given that stands at a place. -/
def receiptAt (c : Fanout M) (next : ℕ) : Receipt M :=
  if next < c.oldest then .lagged (c.oldest - next)
  else c.kept[next - c.oldest]?.elim .empty .value

/-- Where a receiver stands in the log; `none` for one that has gone. -/
def place? (c : Fanout M) (i : ℕ) : Option ℕ := c.receivers[i]?.join

/-- What a receiver is given, if it is there. -/
def receipt (c : Fanout M) (i : ℕ) : Option (Receipt M) := (c.place? i).map c.receiptAt

/-- A receiver reads on: it is given a receipt, and stands where this leaves it. -/
def receive (c : Fanout M) (i : ℕ) : Fanout M :=
  { c with
    receivers := c.receivers.modify i
      (Option.map fun place => place + (c.receiptAt place).advance) }

/-- A receiver goes, and its number is never given again. -/
def drop (c : Fanout M) (i : ℕ) : Fanout M := { c with receivers := c.receivers.set i none }

/-- What an action does to the channel. -/
def step (c : Fanout M) : Action M → Fanout M
  | .subscribe => c.subscribe
  | .send message => c.send message
  | .receive i => c.receive i
  | .drop i => c.drop i

/-- Only who is there can read or go. -/
def allowed (c : Fanout M) : Action M → Prop
  | .receive i | .drop i => (c.place? i).isSome = true
  | _ => True

instance (c : Fanout M) : DecidablePred c.allowed
  | .subscribe | .send _ => .isTrue trivial
  | .receive _ | .drop _ => inferInstanceAs (Decidable (_ = true))

/-- What an action sends. -/
def Action.sent? : Action M → Option M
  | .send message => some message
  | _ => none

/-- What a receiver is given by an action. -/
def given (i : ℕ) (c : Fanout M) (a : Action M) : List (Receipt M) :=
  match a with
  | .receive j => if j = i then (c.receipt i).toList else []
  | _ => []

/-- What a receiver is given in a run. -/
def receipts (i : ℕ) (c : Fanout M) (as : List (Action M)) : List (Receipt M) :=
  Run.trace step (given i) c as

/-! ### The values of a channel -/

/-- The channel has taken these values, and keeps the last of them. -/
structure Logs (c : Fanout M) (log : List M) : Prop where
  tail : c.tail = log.length
  kept : c.kept = log.drop (log.length - c.size)

variable {c : Fanout M} {log : List M}

theorem logs_new (size : ℕ) : Logs (new size : Fanout M) [] := ⟨rfl, List.drop_nil.symm⟩

theorem Logs.oldest (h : Logs c log) : c.oldest = log.length - c.size := by
  rw [Fanout.oldest, h.tail, h.kept, List.length_drop]
  omega

/-- **What a receiver is given is the next of the values**, or how many of them are lost. -/
theorem receiptAt_eq (h : Logs c log) (next : ℕ) :
    c.receiptAt next = nextReceipt c.size (log.drop next) := by
  rw [receiptAt, h.oldest, h.kept, nextReceipt, List.length_drop, List.getElem?_drop]
  by_cases hlost : next < log.length - c.size
  · have hsize : c.size < log.length - next := by omega
    have hmissed : log.length - c.size - next = log.length - next - c.size := by omega
    rw [if_pos hlost, if_pos hsize, hmissed]
  · have hsize : ¬ c.size < log.length - next := by omega
    have hnext : log.length - c.size + (next - (log.length - c.size)) = next := by omega
    rw [if_neg hlost, if_neg hsize, hnext, List.head?_drop]

theorem Logs.send (h : Logs c log) (hlive : c.live ≠ 0) (message : M) :
    Logs (c.send message) (log ++ [message]) := by
  rw [Fanout.send, if_neg hlive]
  constructor
  · rw [h.tail, List.length_append, List.length_singleton]
  · have hkept : c.kept ++ [message] = (log ++ [message]).drop (log.length - c.size) := by
      rw [h.kept, List.drop_append_of_le_length (Nat.sub_le _ _)]
    have hlength : c.kept.length = log.length - (log.length - c.size) := by
      rw [h.kept, List.length_drop]
    have hplaces : log.length - c.size + (log.length - (log.length - c.size) + 1 - c.size)
        = log.length + 1 - c.size := by
      omega
    rw [hkept, hlength, List.drop_drop, hplaces, List.length_append, List.length_singleton]

/-- What the channel takes in a run follows what it had taken. -/
theorem Logs.run (h : Logs c log) (as : List (Action M)) :
    ∃ log', Logs (as.foldl step c) log' := by
  induction as generalizing c log with
  | nil => exact ⟨log, h⟩
  | cons a as ih =>
    have hstep : ∃ log', Logs (c.step a) log' := by
      cases a with
      | send message =>
        by_cases hlive : c.live = 0
        · refine ⟨log, ?_⟩
          rw [step, Fanout.send, if_pos hlive]
          exact h
        · exact ⟨_, h.send hlive message⟩
      | _ => exact ⟨log, h.tail, h.kept⟩
    obtain ⟨log', hlog⟩ := hstep
    exact ih hlog

/-! ### Where receivers stand -/

variable {i j : ℕ}

theorem place?_eq_some_iff {next : ℕ} :
    c.place? i = some next ↔ c.receivers[i]? = some (some next) := by
  rw [place?]
  rcases c.receivers[i]? with _ | _ | n <;> simp

theorem live_ne_zero (h : (c.place? i).isSome = true) : c.live ≠ 0 := by
  obtain ⟨next, hnext⟩ := Option.isSome_iff_exists.mp h
  have hmem := List.mem_of_getElem? (place?_eq_some_iff.mp hnext)
  exact Nat.ne_of_gt (List.countP_pos_iff.mpr ⟨_, hmem, rfl⟩)

@[simp] theorem receivers_send (message : M) : (c.send message).receivers = c.receivers := by
  rw [send]
  split <;> rfl

@[simp] theorem size_step (a : Action M) : (c.step a).size = c.size := by
  cases a with
  | send message =>
    rw [step, send]
    split <;> rfl
  | _ => rfl

theorem size_run (c : Fanout M) (as : List (Action M)) : (as.foldl step c).size = c.size := by
  induction as generalizing c with
  | nil => rfl
  | cons a as ih => rw [List.foldl_cons, ih, size_step]

theorem place?_subscribe {next : ℕ} (h : c.place? i = some next) :
    c.subscribe.place? i = some next := by
  rw [place?_eq_some_iff] at h ⊢
  rw [subscribe, List.getElem?_append_left (List.getElem?_eq_some_iff.mp h).1, h]

theorem place?_subscribe_self : c.subscribe.place? c.receivers.length = some c.tail := by
  rw [place?_eq_some_iff, subscribe, List.getElem?_concat_length]

theorem place?_receive : (c.receive j).place? i
    = (c.place? i).map fun next => if j = i then next + (c.receiptAt next).advance else next := by
  rw [place?, place?, receive, List.getElem?_modify]
  by_cases h : j = i
  · rcases c.receivers[i]? with _ | _ | n <;> simp [h]
  · rcases c.receivers[i]? with _ | _ | n <;> simp [h]

theorem place?_drop_of_ne (h : j ≠ i) : (c.drop j).place? i = c.place? i := by
  rw [place?, place?, drop, List.getElem?_set_ne h]

/-! ### Runs -/

/-- What holds of a receiver that subscribed when the channel had taken the values of `log`: since
then it has been given `receipts`, and `sent` was sent. -/
structure Reading (log : List M) (size i : ℕ) (receipts : List (Receipt M)) (sent : List M)
    (c : Fanout M) : Prop where
  size : c.size = size
  logs : Logs c (log ++ sent)
  place : c.place? i = some (log.length + advanceAll receipts)
  reads : ReadsOff receipts sent

theorem Reading.receipt {receipts : List (Receipt M)} {sent : List M} {size : ℕ}
    (h : Reading log size i receipts sent c) :
    c.receipt i = some (nextReceipt size (sent.drop (advanceAll receipts))) := by
  rw [Fanout.receipt, h.place, Option.map_some, receiptAt_eq h.logs, h.size,
    List.drop_append, List.drop_eq_nil_of_le (Nat.le_add_right _ _), List.nil_append,
    Nat.add_sub_cancel_left]

/-- One action of the channel, not the receiver's last. -/
theorem Reading.step {receipts : List (Receipt M)} {sent : List M} {size : ℕ}
    (h : Reading log size i receipts sent c) {a : Action M} (ha : a ≠ .drop i) :
    Reading log size i (receipts ++ given i c a) (sent ++ a.sent?.toList) (c.step a) where
  size := by rw [size_step, h.size]
  logs := by
    cases a with
    | send message =>
      have hlive : c.live ≠ 0 := live_ne_zero (by rw [h.place]; rfl)
      rw [← List.append_assoc]
      exact h.logs.send hlive message
    | _ => simpa [Action.sent?] using ⟨h.logs.tail, h.logs.kept⟩
  place := by
    cases a with
    | subscribe => simpa [given, Fanout.step] using place?_subscribe h.place
    | send message =>
      have hplace : (c.send message).place? i = c.place? i := by rw [place?, place?, receivers_send]
      simpa [given, Fanout.step] using hplace.trans h.place
    | receive j =>
      rw [Fanout.step, place?_receive, h.place, given, h.receipt]
      by_cases hj : j = i
      · rw [if_pos hj, Option.toList_some, advanceAll_concat, Option.map_some, if_pos hj,
          receiptAt_eq h.logs, h.size, List.drop_append,
          List.drop_eq_nil_of_le (Nat.le_add_right _ _), List.nil_append,
          Nat.add_sub_cancel_left, Nat.add_assoc]
      · simp [hj]
    | drop j =>
      have hj : j ≠ i := fun heq => ha (congrArg Action.drop heq)
      simpa [given, Fanout.step] using (place?_drop_of_ne hj).trans h.place
  reads := by
    cases a with
    | send message => simpa [given, Action.sent?] using h.reads.send message
    | receive j =>
      rw [given, h.receipt]
      by_cases hj : j = i
      · simpa [hj, Action.sent?] using h.reads.receive size
      · simpa [hj, Action.sent?] using h.reads
    | _ => simpa [given, Action.sent?] using h.reads

/-- What holds of a receiver holds on in every run in which it stays. -/
theorem Reading.run {receipts : List (Receipt M)} {sent : List M} {size : ℕ}
    (h : Reading log size i receipts sent c) {as : List (Action M)} (hstays : .drop i ∉ as) :
    Reading log size i (receipts ++ Fanout.receipts i c as) (sent ++ as.filterMap Action.sent?)
      (as.foldl Fanout.step c) := by
  induction as generalizing receipts sent c with
  | nil => simpa [Fanout.receipts, Run.trace] using h
  | cons a as ih =>
    rw [List.mem_cons, not_or] at hstays
    obtain ⟨hfirst, hrest⟩ := hstays
    have hnext := ih (h.step (fun heq => hfirst heq.symm)) hrest
    have hsent : (a :: as).filterMap Action.sent?
        = a.sent?.toList ++ as.filterMap Action.sent? := by
      cases a <;> rfl
    rw [List.append_assoc, List.append_assoc] at hnext
    rw [hsent]
    exact hnext

/-- **A receiver is given what was sent since it subscribed**, in its order, but for the gaps it is
told of; and it is given the next of it next. -/
theorem read_of_run (h : Logs c log) {as : List (Action M)}
    (hstays : .drop c.receivers.length ∉ as) :
    ReadsOff (receipts c.receivers.length c.subscribe as) (as.filterMap Action.sent?) ∧
      (as.foldl step c.subscribe).receipt c.receivers.length
        = some (nextReceipt c.size ((as.filterMap Action.sent?).drop
            (advanceAll (receipts c.receivers.length c.subscribe as)))) := by
  have hstart : Reading log c.size c.receivers.length [] [] c.subscribe := by
    refine ⟨rfl, ?_, ?_, readsOff_nil _⟩
    · rw [List.append_nil]
      exact ⟨h.tail, h.kept⟩
    · rw [place?_subscribe_self, h.tail]
      rfl
  have hrun := hstart.run hstays
  exact ⟨hrun.reads, hrun.receipt⟩

/-- How many receivers have subscribed. -/
def subscriptions (as : List (Action M)) : ℕ :=
  as.countP fun a => match a with | .subscribe => true | _ => false

/-- How many receivers have gone. -/
def departures (as : List (Action M)) : ℕ :=
  as.countP fun a => match a with | .drop _ => true | _ => false

theorem live_subscribe : c.subscribe.live = c.live + 1 := by
  rw [live, subscribe, List.countP_append]
  rfl

theorem live_receive : (c.receive i).live = c.live := by
  have hmodify : ∀ (l : List (Option ℕ)) (f : ℕ → ℕ) (i : ℕ),
      (l.modify i (Option.map f)).countP Option.isSome = l.countP Option.isSome := by
    intro l f
    induction l with
    | nil => simp
    | cons o l ih =>
      intro i
      cases i with
      | zero => simp [List.countP_cons]
      | succ i => simp [List.countP_cons, ih]
  exact hmodify c.receivers _ i

theorem live_drop (h : (c.place? i).isSome = true) : (c.drop i).live + 1 = c.live := by
  obtain ⟨next, hnext⟩ := Option.isSome_iff_exists.mp h
  have hplace := place?_eq_some_iff.mp hnext
  obtain ⟨hi, heq⟩ := List.getElem?_eq_some_iff.mp hplace
  have hpos : 0 < c.receivers.countP Option.isSome := Nat.pos_of_ne_zero (live_ne_zero h)
  rw [live, drop, List.countP_set hi, heq]
  simp only [Option.isSome_some, if_true, Option.isSome_none]
  exact Nat.sub_add_cancel hpos

/-- **Who is left**: those who have subscribed and not gone. -/
theorem live_of_run {as : List (Action M)} (has : Run.Allowed step allowed c as) :
    (as.foldl step c).live + departures as = c.live + subscriptions as := by
  induction as generalizing c with
  | nil => rfl
  | cons a as ih =>
    have hrest := ih has.2
    have hstep : (c.step a).live + departures [a] = c.live + subscriptions [a] := by
      cases a with
      | subscribe => exact live_subscribe
      | send message => rw [Fanout.step, live, receivers_send]; rfl
      | receive i => exact live_receive (i := i)
      | drop i => exact live_drop has.1
    have hdepartures : departures (a :: as) = departures [a] + departures as := by
      rw [departures, departures, departures, ← List.countP_append, List.singleton_append]
    have hsubscriptions : subscriptions (a :: as) = subscriptions [a] + subscriptions as := by
      rw [subscriptions, subscriptions, subscriptions, ← List.countP_append,
        List.singleton_append]
    rw [List.foldl_cons, hdepartures, hsubscriptions]
    omega

end Fanout
