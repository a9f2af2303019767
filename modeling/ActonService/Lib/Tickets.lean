import ActonService.Lib.Redis
import Mathlib.Data.Finset.Card

/-!
# Counters that give out tickets

Clients count in a Redis server, and some counts are a ticket for what the client does next, once.
While the counter lives it gives out no more tickets than there are such counts, however the
clients' commands interleave and whatever becomes of them: a count that is lost on the way is a
ticket that nobody has.

## Main definitions

* `Tickets` — the counter, its time to live, which counts are tickets and which events spend one.
* `Tickets.MayCall`, `Tickets.next` — the protocol of a client.
* `Tickets.Backed` — the server's counter stands for the tickets that are out or spent.

## Main results

* `Tickets.spent_le` — **in every interleaving, as long as the counter lives, no more events are let
  through than there are tickets.**
-/

namespace Redis

open Effect Run

variable {τ E ε Op : Type}

/-- A counter whose counts may be tickets. -/
structure Tickets (E : Type) where
  key : String
  /-- The time to live it is given, in seconds. -/
  secs : ℤ
  grants : ℤ → Bool
  spends : E → Bool

/-- A world that keeps a log of what it is told. -/
def noteEvent (log : List E) (_ : Server τ) (_ : ℕ) (_ : Moment) :
    (c : Call τ E) → c.Answer → Server τ → List E
  | .notify event, _, _ => log ++ [event]
  | _, _, _ => log

namespace Tickets

variable (K : Tickets E)

/-- The calls of a client with a ticket or without. -/
def MayCall (ticket : Bool) : Call τ E → Prop
  | .redis .connect | .redis (.incr _) | .redis (.ttl _) | .clock => True
  | .redis (.expire key secs) => key = K.key → secs = K.secs
  | .notify event => K.spends event = true → ticket = true
  | .redis _ => False

/-- Whether a client has a ticket after a call. -/
def next (ticket : Bool) : (c : Call τ E) → c.Answer → Bool
  | .redis (.incr key), .ok reply => ticket || (decide (key = K.key) && K.grants reply)
  | .notify event, _ => ticket && !K.spends event
  | _, _ => ticket

/-- The program spends a ticket only if it has one. -/
abbrev Pays {α : Type} (ticket : Bool) (p : Prog (Call τ E) Call.Answer ε α) : Prop :=
  p.Follows K.MayCall K.next ticket

/-- **The counter stands for the tickets given out**, until a time: it counts them, and it does not
expire before. -/
def Backed (limit start stop : ℕ) (s : Server τ) (tickets : ℕ) : Prop :=
  start ≤ s.now ∧
    (s.keys.find? s.now K.key = none ∧ tickets = 0 ∨
      ∃ c expiresAt, s.keys.entries K.key = some ⟨.int c, expiresAt⟩ ∧
        (∀ t ∈ expiresAt, stop ≤ t) ∧ 0 < c ∧ (tickets : ℤ) ≤ c ∧ tickets ≤ limit)

variable {K} {limit start stop : ℕ}

/-! ### One call -/

section Backed

variable {s : Server τ} {tickets : ℕ}

theorem Backed.le (h : K.Backed limit start stop s tickets) : tickets ≤ limit := by
  obtain ⟨-, ⟨-, rfl⟩ | ⟨c, expiresAt, -, -, -, -, hle⟩⟩ := h
  · exact Nat.zero_le _
  · exact hle

/-- The counter stands for fewer tickets, too. -/
theorem Backed.mono (h : K.Backed limit start stop s tickets) {fewer : ℕ} (hle : fewer ≤ tickets) :
    K.Backed limit start stop s fewer := by
  obtain ⟨hstart, ⟨hnone, rfl⟩ | ⟨c, expiresAt, hentry, hlives, hpos, hcount, hlimit⟩⟩ := h
  · exact ⟨hstart, .inl ⟨hnone, Nat.le_zero.mp hle⟩⟩
  · exact ⟨hstart, .inr ⟨c, expiresAt, hentry, hlives, hpos, by omega, by omega⟩⟩

/-- Time passes, and the counter's entry is not written. -/
theorem Backed.later (h : K.Backed limit start stop s tickets) {now : ℕ} {keys : Keyspace τ}
    (hnow : s.now ≤ now) (hkeys : keys.entries K.key = s.keys.entries K.key) :
    K.Backed limit start stop ⟨now, keys⟩ tickets := by
  obtain ⟨hstart, ⟨hnone, rfl⟩ | ⟨c, expiresAt, hentry, hrest⟩⟩ := h
  · refine ⟨Nat.le_trans hstart hnow, .inl ⟨?_, rfl⟩⟩
    rw [Keyspace.find?_congr hkeys, Option.eq_none_iff_forall_ne_some]
    intro e he
    rw [Keyspace.find?_of_le he hnow] at hnone
    cases hnone
  · exact ⟨Nat.le_trans hstart hnow, .inr ⟨c, expiresAt, hkeys.trans hentry, hrest⟩⟩

/-- An entry that does not expire before a time is found until then. -/
theorem find?_of_lives {keys : Keyspace τ} {c : ℤ} {expiresAt : Option ℕ} {now : ℕ}
    (hentry : keys.entries K.key = some ⟨.int c, expiresAt⟩) (hlives : ∀ t ∈ expiresAt, stop ≤ t)
    (hnow : now < stop) : keys.find? now K.key = some ⟨.int c, expiresAt⟩ := by
  refine Keyspace.find?_eq_some_iff.mpr ⟨hentry, ?_⟩
  cases expiresAt with
  | none => rfl
  | some t => exact decide_eq_true (Nat.lt_of_lt_of_le hnow (hlives t rfl))

/-- `EXPIRE` moves the end of the counter behind the time. -/
theorem Backed.expire (h : K.Backed limit start stop s tickets) {keys : Keyspace τ} {key : String}
    {secs : ℤ} (hnow : s.now < stop) (hstop : (stop : ℤ) ≤ start + 1000 * K.secs)
    (hsecs : key = K.key → secs = K.secs) (hexpire : s.keys.expire s.now key secs = .ok keys) :
    K.Backed limit start stop ⟨s.now, keys⟩ tickets := by
  have hstart := h.1
  rw [Keyspace.expire] at hexpire
  split at hexpire
  on_goal 2 => cases hexpire
  by_cases hkey : key = K.key
  · have hpos : 0 < secs := by
      rw [hsecs hkey]
      omega
    subst hkey
    obtain ⟨-, ⟨hnone, rfl⟩ | ⟨c, expiresAt, hentry, hlives, hrest⟩⟩ := h
    · rw [hnone] at hexpire
      cases hexpire
      exact ⟨hstart, .inl ⟨hnone, rfl⟩⟩
    · rw [find?_of_lives hentry hlives hnow] at hexpire
      simp only [if_pos hpos] at hexpire
      cases hexpire
      refine ⟨hstart, .inr ⟨c, some (deadline s.now secs), by simp, fun t ht => ?_, hrest⟩⟩
      rw [Option.mem_some_iff] at ht
      rw [← ht, hsecs rfl, deadline]
      omega
  · have hsame : keys.entries K.key = s.keys.entries K.key := by
      split at hexpire
      · cases hexpire
        rfl
      · cases hexpire
        split_ifs
        · exact Keyspace.entries_put_of_ne _ _ (Ne.symm hkey)
        · exact Keyspace.entries_remove_of_ne _ (Ne.symm hkey)
    exact h.later (Nat.le_refl _) hsame

/-- `INCR` counts the ticket it gives out. -/
theorem Backed.incr (h : K.Backed limit start stop s tickets) {keys : Keyspace τ} {reply : ℤ}
    (hnow : s.now < stop) (hfirst : K.grants 1 = true → 1 ≤ limit)
    (hgrants : ∀ c expiresAt, s.keys.entries K.key = some ⟨.int c, expiresAt⟩ →
      K.grants (c + 1) = true → c + 1 ≤ limit)
    (hincr : s.keys.incr s.now K.key = .ok (keys, reply)) :
    K.Backed limit start stop ⟨s.now, keys⟩ (tickets + (K.grants reply).toNat) := by
  have hstart := h.1
  rw [Keyspace.incr] at hincr
  obtain ⟨-, ⟨hnone, rfl⟩ | ⟨c, expiresAt, hentry, hlives, hpos, hcount, hlimit⟩⟩ := h
  · rw [hnone] at hincr
    cases hincr
    refine ⟨hstart, .inr ⟨1, none, by simp, by simp, by decide, ?_, ?_⟩⟩
    · cases K.grants 1 <;> decide
    · cases hone : K.grants 1 with
      | false => exact Nat.zero_le _
      | true => exact hfirst hone
  · rw [find?_of_lives hentry hlives hnow] at hincr
    simp only at hincr
    split_ifs at hincr
    cases hincr
    refine ⟨hstart, .inr ⟨c + 1, expiresAt, by simp, hlives, by omega, ?_, ?_⟩⟩
    · cases K.grants (c + 1) <;> simp <;> omega
    · cases hnew : K.grants (c + 1) with
      | false => exact hlimit
      | true =>
        have hle := hgrants c expiresAt hentry hnew
        simp only [Bool.toNat_true]
        omega

/-- `INCR` of another key leaves the counter alone. -/
theorem Backed.incr_of_ne (h : K.Backed limit start stop s tickets) {keys : Keyspace τ}
    {key : String} {reply : ℤ} (hkey : key ≠ K.key)
    (hincr : s.keys.incr s.now key = .ok (keys, reply)) :
    K.Backed limit start stop ⟨s.now, keys⟩ tickets := by
  refine h.later (Nat.le_refl _) ?_
  rw [Keyspace.incr] at hincr
  split at hincr
  · cases hincr
    exact Keyspace.entries_put_of_ne _ _ (Ne.symm hkey)
  · split_ifs at hincr
    cases hincr
    exact Keyspace.entries_put_of_ne _ _ (Ne.symm hkey)
  · cases hincr
  · cases hincr

/-- A command that fails gives out no ticket. -/
theorem next_error (c : Command τ) (e : String) :
    K.next false (.redis c : Call τ E) (.error e) = false := by
  cases c <;> rfl

/-- A command that is carried out leaves the counter standing for the tickets, with the one it gives
out. -/
theorem Backed.carryOut (h : K.Backed limit start stop s tickets) {ticket : Bool} {c : Command τ}
    (hcall : K.MayCall ticket (.redis c : Call τ E)) (hnow : s.now < stop)
    (hstop : (stop : ℤ) ≤ start + 1000 * K.secs) (hfirst : K.grants 1 = true → 1 ≤ limit)
    (hgrants : ∀ c expiresAt, s.keys.entries K.key = some ⟨.int c, expiresAt⟩ →
      K.grants (c + 1) = true → c + 1 ≤ limit) {keys : Keyspace τ} {reply : Reply c}
    (hcarry : Redis.carryOut s.now s.keys c = .ok (keys, reply)) :
    K.Backed limit start stop ⟨s.now, keys⟩
      (tickets + (K.next false (.redis c : Call τ E) (.ok reply)).toNat) := by
  cases c with
  | connect =>
    cases hcarry
    exact h
  | ttl key =>
    cases hcarry
    exact h
  -- an expiry of the counter lies at the end of the window or later
  | expire key secs =>
    simp only [Redis.carryOut] at hcarry
    cases hexpire : s.keys.expire s.now key secs with
    | error e =>
      rw [hexpire] at hcarry
      cases hcarry
    | ok m =>
      rw [hexpire] at hcarry
      cases hcarry
      exact h.expire hnow hstop hcall hexpire
  -- an increment of the counter grants a ticket within the limit; any other leaves the counter
  | incr key =>
    by_cases hkey : key = K.key
    · subst hkey
      simpa [next] using h.incr hnow hfirst hgrants hcarry
    · simpa [next, hkey] using h.incr_of_ne hkey hcarry
  -- no caller sends these
  | get key => exact hcall.elim
  | set key v => exact hcall.elim
  | setEx key v secs => exact hcall.elim
  | sadd key member => exact hcall.elim
  | smembers key => exact hcall.elim
  | «exists» key => exact hcall.elim
  | del keys => exact hcall.elim

/-- **A call leaves the counter standing for the tickets**, with the one it may have given out. -/
theorem Backed.serve (h : K.Backed limit start stop s tickets) {ticket : Bool} {c : Call τ E}
    (hcall : K.MayCall ticket c) (who : ℕ) {moment : Moment}
    (hnow : s.now + moment.elapsed < stop) (hstop : (stop : ℤ) ≤ start + 1000 * K.secs)
    (hfirst : K.grants 1 = true → 1 ≤ limit)
    (hgrants : ∀ c expiresAt, s.keys.entries K.key = some ⟨.int c, expiresAt⟩ →
      K.grants (c + 1) = true → c + 1 ≤ limit) :
    K.Backed limit start stop (Redis.serve s who moment c).1
      (tickets + (K.next false c (Redis.serve s who moment c).2).toNat) := by
  have hlater : K.Backed limit start stop ⟨s.now + moment.elapsed, s.keys⟩ tickets :=
    h.later (Nat.le_add_right _ _) rfl
  cases c with
  | clock => exact hlater
  | notify event => exact hlater
  | redis c =>
    rcases answer_cases s.keys who ⟨s.now + moment.elapsed, moment.fault⟩ c with
      ⟨hsame, e, he⟩ | ⟨keys, reply, hcarry, hkeys, hreply⟩
    · simp only [Redis.serve, hsame, he, next_error]
      exact hlater
    · have hbacked := hlater.carryOut hcall hnow hstop hfirst hgrants hcarry
      rcases hreply with hok | ⟨e, he⟩
      · simp only [Redis.serve, hkeys, hok]
        exact hbacked
      · -- the reply is lost, and the ticket with it
        simp only [Redis.serve, hkeys, he, next_error]
        exact hbacked.mono (Nat.le_add_right _ _)

end Backed

/-! ### Pools -/

/-- The tickets that are out, by who has one, and those that are spent. -/
def Counted (K : Tickets E) (limit start stop : ℕ)
    (pool : Pool (Server τ × List E) (Call τ E) Call.Answer ε) (out : Finset ℕ) : Prop :=
  (∀ who, K.Pays (decide (who ∈ out)) (pool.threads who)) ∧
    K.Backed limit start stop pool.state.1 (pool.state.2.countP K.spends + out.card)

/-- A call that spends nothing leaves a client its ticket. -/
theorem next_eq {c : Call τ E} (h : ∀ event, c = .notify event → K.spends event = false)
    (ticket : Bool) (a : c.Answer) : K.next ticket c a = (ticket || K.next false c a) := by
  cases c with
  | clock => exact (Bool.or_false ticket).symm
  | notify event =>
    have hspends := h event rfl
    simp [next, hspends]
  | redis c =>
    cases c with
    | incr key => cases a <;> simp [next]
    | _ => exact (Bool.or_false ticket).symm

variable {pool : Pool (Server τ × List E) (Call τ E) Call.Answer ε} {out : Finset ℕ}
  {program : Op → Prog (Call τ E) Call.Answer ε Unit}

/-- One client goes on, and the others are as they were. -/
theorem Counted.pays_update (h : K.Counted limit start stop pool out) {who : ℕ} {out' : Finset ℕ}
    {p : Prog (Call τ E) Call.Answer ε Unit} (hwho : K.Pays (decide (who ∈ out')) p)
    (hothers : ∀ j, j ≠ who → (j ∈ out' ↔ j ∈ out)) (j : ℕ) :
    K.Pays (decide (j ∈ out')) (Function.update pool.threads who p j) := by
  by_cases hj : j = who
  · subst hj
    rw [Function.update_self]
    exact hwho
  · rw [Function.update_of_ne hj, decide_eq_decide.mpr (hothers j hj)]
    exact h.1 j

/-- A client that starts has no ticket any more. -/
theorem Counted.starts (h : K.Counted limit start stop pool out) (who : ℕ) {op : Op}
    (hprogram : K.Pays false (program op)) :
    ∃ out', K.Counted limit start stop
      (pool.step (observed serve noteEvent) program (.start who op)) out' := by
  rcases Pool.step_start_cases (observed serve noteEvent) program pool who op with heq | ⟨-, heq⟩
  · rw [heq]
    exact ⟨out, h⟩
  · rw [heq]
    have hcard : (out.erase who).card ≤ out.card := Finset.card_erase_le
    refine ⟨out.erase who, h.pays_update ?_ fun j hj => ?_,
      h.2.mono (Nat.add_le_add_left hcard _)⟩
    · simpa using hprogram
    · exact Finset.mem_erase.trans (and_iff_right hj)

/-- The log of a call that spends no ticket. -/
theorem countP_noteEvent {c : Call τ E} (h : ∀ event, c = .notify event → K.spends event = false)
    (log : List E) (s s' : Server τ) (who : ℕ) (moment : Moment) (a : c.Answer) :
    (noteEvent log s who moment c a s').countP K.spends = log.countP K.spends := by
  cases c with
  | notify event => simp [noteEvent, h event rfl]
  | _ => rfl

/-- **A call gives out a ticket, spends one or does neither.** -/
theorem Counted.call (h : K.Counted limit start stop pool out) {who : ℕ} {moment : Moment}
    (hnow : pool.state.1.now + moment.elapsed < stop) (hstop : (stop : ℤ) ≤ start + 1000 * K.secs)
    (hfirst : K.grants 1 = true → 1 ≤ limit)
    (hgrants : ∀ c expiresAt, pool.state.1.keys.entries K.key = some ⟨.int c, expiresAt⟩ →
      K.grants (c + 1) = true → c + 1 ≤ limit) :
    ∃ out', K.Counted limit start stop
      (pool.step (observed serve noteEvent) program (.step who moment)) out' := by
  rcases Pool.step_step_cases (observed serve noteEvent) program pool who moment with
    ⟨-, heq⟩ | ⟨c, k, hthread, heq⟩
  · rw [heq]
    exact ⟨out, h⟩
  have hpays := h.1 who
  rw [hthread] at hpays
  obtain ⟨hcall, hrest⟩ := hpays
  have hbacked := h.2.serve hcall who hnow hstop hfirst hgrants
  have hanswer := hrest (serve pool.state.1 who moment c).2
  rw [heq]
  -- a caller that spends its ticket has held one, and holds none afterwards
  by_cases hspends : ∃ event, c = .notify event ∧ K.spends event = true
  · obtain ⟨event, rfl, hspends⟩ := hspends
    have hmem : who ∈ out := of_decide_eq_true (hcall hspends)
    have hspent : K.next (decide (who ∈ out)) (.notify event) (serve pool.state.1 who moment _).2
        = decide (who ∈ out.erase who) := by
      simp [next, hspends]
    rw [hspent] at hanswer
    refine ⟨out.erase who, h.pays_update hanswer fun j hj => ?_, hbacked.mono ?_⟩
    · exact Finset.mem_erase.trans (and_iff_right hj)
    · have hcard := Finset.card_erase_add_one hmem
      simp only [observed, noteEvent, List.countP_append, List.countP_singleton, hspends, if_true]
      omega
  · have hquiet : ∀ event, c = .notify event → K.spends event = false := by
      intro event hevent
      rw [Bool.eq_false_iff]
      exact fun htrue => hspends ⟨event, hevent, htrue⟩
    rw [next_eq hquiet] at hanswer
    -- any other call: it grants its caller a ticket, or leaves the tickets as they are
    cases hnew : K.next false c (serve pool.state.1 who moment c).2 with
    | false =>
      rw [hnew, Bool.or_false] at hanswer
      rw [hnew] at hbacked
      refine ⟨out, h.pays_update hanswer fun j _ => Iff.rfl, ?_⟩
      simpa only [observed, countP_noteEvent hquiet, Bool.toNat_false, Nat.add_zero] using hbacked
    | true =>
      have hmem : decide (who ∈ insert who out) = true :=
        decide_eq_true (Finset.mem_insert_self _ _)
      rw [hnew, Bool.or_true, ← hmem] at hanswer
      refine ⟨insert who out, h.pays_update hanswer fun j hj => ?_, hbacked.mono ?_⟩
      · exact Finset.mem_insert.trans (or_iff_right hj)
      · have hcard := Finset.card_insert_le who out
        simp only [observed, countP_noteEvent hquiet, hnew, Bool.toNat_true]
        omega

/-- **As long as the counter lives, no more events are let through than there are tickets**, in
every interleaving of clients that start with the counter not there. -/
theorem spent_le {allowed : Pool (Server τ × List E) (Call τ E) Call.Answer ε →
      Action Op Moment → Prop} {keys : Keyspace τ} (hnew : keys.find? start K.key = none)
    (hstop : (stop : ℤ) ≤ start + 1000 * K.secs) (hfirst : K.grants 1 = true → 1 ≤ limit)
    (hstart : ∀ pool who op, allowed pool (.start who op) → K.Pays false (program op))
    (hcall : ∀ pool who moment, allowed pool (.step who moment) →
      pool.state.1.now + moment.elapsed < stop ∧
        ∀ c expiresAt, pool.state.1.keys.entries K.key = some ⟨.int c, expiresAt⟩ →
          K.grants (c + 1) = true → c + 1 ≤ limit)
    (h : Reach (Pool.step (observed serve noteEvent) program) allowed
      (Pool.idle (⟨start, keys⟩, [])) pool) : pool.state.2.countP K.spends ≤ limit := by
  let J (pool : Pool (Server τ × List E) (Call τ E) Call.Answer ε) : Prop :=
    ∃ out, K.Counted limit start stop pool out
  have hinit : J (Pool.idle (⟨start, keys⟩, [])) :=
    ⟨∅, fun _ => trivial, Nat.le_refl _, .inl ⟨hnew, rfl⟩⟩
  have hkeeps : ∀ pool a, J pool → allowed pool a →
      J (Pool.step (observed serve noteEvent) program pool a) := by
    rintro pool a ⟨out, hcounted⟩ hallowed
    cases a with
    | start who op => exact hcounted.starts who (hstart pool who op hallowed)
    | step who moment =>
      obtain ⟨hnow, hgrants⟩ := hcall pool who moment hallowed
      exact hcounted.call hnow hstop hfirst hgrants
  obtain ⟨out, hcounted⟩ := h.invariant hinit hkeeps
  exact Nat.le_trans (Nat.le_add_right _ _) hcounted.2.le

end Tickets

end Redis
