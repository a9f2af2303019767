import ActonService.Lib.Redis

/-!
# Counters that expire

Clients count in a Redis server: they increment a key, and the client that has created it gives
it a time to live with a second command.  Between the two the counter has none, and it keeps
none if the second command does not follow.

`W key secs` says that the key may be given that many seconds to live.

## Main definitions

* `Counts` — the commands a client may send, and that it follows up on a counter it has created.
* `Reliable` — the reply to a creation arrives, and a counter without a time to live gets one.
* `Timed`, `ExpiresWithin` — the entry of a key expires in time.

## Main results

* `timed_of_reach` — **in every interleaving of reliable steps, every key has a time to live that
  it may be given, unless a client is about to set it.**
-/

namespace Redis

open Effect Run

variable {τ E ε α β Op : Type}

/-! ### Clients -/

/-- Programs over the calls. -/
abbrev Client (τ E ε α : Type) := Prog (Call τ E) Call.Answer ε α

/-- What a client that counts may call.  Behind the reply to a creation it sets the time to
live. -/
inductive Counts (W : String → ℤ → Prop) :
    (c : Call τ E) → (c.Answer → Client τ E ε α) → Prop
  | connect (k) : Counts W (.redis .connect) k
  | get (key) (k) : Counts W (.redis (.get key)) k
  | ttl (key) (k) : Counts W (.redis (.ttl key)) k
  | clock (k) : Counts W .clock k
  | notify (event) (k) : Counts W (.notify event) k
  | incr (key secs) (k) (hk : (k (.ok 1)).next? = some (.redis (.expire key secs))) :
      Counts W (.redis (.incr key)) k
  | expire (key secs) (k) (hsecs : W key secs) : Counts W (.redis (.expire key secs)) k
  | setEx (key v secs) (k) (hsecs : W key secs) : Counts W (.redis (.setEx key v secs)) k

/-- What comes behind a program does not change what it follows up on. -/
theorem Counts.bind {W : String → ℤ → Prop} {c : Call τ E} {k : c.Answer → Client τ E ε α}
    (h : Counts W c k) (f : α → Client τ E ε β) : Counts W c fun a => (k a).bind f := by
  cases h with
  | connect => exact .connect _
  | get key => exact .get key _
  | ttl key => exact .ttl key _
  | clock => exact .clock _
  | notify event => exact .notify event _
  | incr key secs k hk =>
    refine .incr key secs _ ?_
    cases hnext : k (.ok 1) with
    | ret a =>
      rw [hnext] at hk
      cases hk
    | fail e =>
      rw [hnext] at hk
      cases hk
    | call d k' =>
      rw [hnext] at hk
      exact hk
  | expire key secs k hsecs => exact .expire key secs _ hsecs
  | setEx key v secs k hsecs => exact .setEx key v secs _ hsecs

/-- Programs that count compose: one behind the other, they count as well. -/
theorem always_counts_bind {W : String → ℤ → Prop} {p : Client τ E ε α} {f : α → Client τ E ε β}
    (hp : p.Always (Counts W)) (hf : ∀ a, (f a).Always (Counts W)) :
    (p.bind f).Always (Counts W) := by
  induction p with
  | ret a => exact hf a
  | fail e => exact trivial
  | call c k ih => exact ⟨hp.1.bind f, fun a => ih a (hp.2 a)⟩

/-- A command that creates no counter. -/
theorem always_ask {W : String → ℤ → Prop} {c : Command τ}
    (h : ∀ k : (Call.redis (E := E) c).Answer → Client τ E ε (Reply c), Counts W (.redis c) k)
    (onError : String → ε) : (ask (E := E) onError c).Always (Counts W) := by
  refine ⟨h _, fun answer => ?_⟩
  cases answer <;> exact trivial

theorem always_askOr {W : String → ℤ → Prop} {c : Command τ}
    (h : ∀ k : (Call.redis (E := E) c).Answer → Client τ E ε (Reply c), Counts W (.redis c) k)
    (default : Reply c) : (askOr (E := E) (ε := ε) c default).Always (Counts W) := by
  refine ⟨h _, fun answer => ?_⟩
  cases answer <;> exact trivial

/-- A command that may create a counter, and what follows it up. -/
theorem always_incr_bind {W : String → ℤ → Prop} {key : String} {secs : ℤ}
    {f : ℤ → Client τ E ε α} (hnext : (f 1).next? = some (.redis (.expire key secs)))
    (hf : ∀ reply, (f reply).Always (Counts W)) (onError : String → ε) :
    ((ask onError (.incr key)).bind f).Always (Counts W) := by
  refine ⟨.incr key secs _ hnext, fun answer => ?_⟩
  cases answer with
  | ok reply => exact hf reply
  | error e => exact trivial

/-- A creation is replied to, and a counter without a time to live gets one. -/
def Reliable (pool : Pool (Server τ) (Call τ E) Call.Answer ε) : Action Op Moment → Prop
  | .start _ _ => True
  | .step who moment =>
    match (pool.threads who).next? with
    | some (.redis (.incr key)) =>
      pool.state.keys.find? (pool.state.now + moment.elapsed) key = none → moment.fault = .none
    | some (.redis (.expire key secs)) =>
      ∀ e, pool.state.keys.find? (pool.state.now + moment.elapsed) key = some e →
        e.expiresAt = none →
        moment.fault.takesEffect = true ∧
          fitsExpire (pool.state.now + moment.elapsed) secs = true
    | _ => True

/-- The entry of the key expires in time. -/
def Timed (W : String → ℤ → Prop) (now : ℕ) (key : String) (e : Entry τ) : Prop :=
  ∃ t secs, e.expiresAt = some t ∧ W key secs ∧ t ≤ deadline now secs

theorem deadline_mono {now later : ℕ} (h : now ≤ later) (secs : ℤ) :
    deadline now secs ≤ deadline later secs := by
  unfold deadline
  omega

variable {W : String → ℤ → Prop}

theorem Timed.later {now later : ℕ} {key : String} {e : Entry τ} (h : Timed W now key e)
    (hle : now ≤ later) : Timed W later key e := by
  obtain ⟨t, secs, ht, hW, hdeadline⟩ := h
  exact ⟨t, secs, ht, hW, Nat.le_trans hdeadline (deadline_mono hle secs)⟩

/-! ### One call -/

/-- Where an entry of a key comes from: it was there with the same time to live, it has been
given one, or the call has created the counter. -/
def Origin (W : String → ℤ → Prop) (c : Call τ E) (keys : Keyspace τ) (now : ℕ) (key : String)
    (e : Entry τ) : Prop :=
  (∃ d, keys.find? now key = some d ∧ d.expiresAt = e.expiresAt) ∨ Timed W now key e ∨
    (c = .redis (.incr key) ∧ keys.find? now key = none ∧ e.expiresAt = none)

theorem timed_deadline {now : ℕ} {key : String} {secs : ℤ} (h : W key secs) (v : Value τ) :
    Timed W now key ⟨v, some (deadline now secs)⟩ :=
  ⟨_, secs, rfl, h, Nat.le_refl _⟩

/-- What a command that is carried out does to the keys. -/
theorem carryOut_cases {c : Command τ} {k : (Call.redis (E := E) c).Answer → Client τ E ε α}
    (hc : Counts W (.redis c) k) {now : ℕ} {keys keys' : Keyspace τ} {reply : Reply c}
    (h : carryOut now keys c = .ok (keys', reply)) :
    keys' = keys ∨ (∃ key, keys' = keys.remove key) ∨
      ∃ key e, keys' = keys.put key e ∧ Origin W (.redis (E := E) c) keys now key e := by
  cases hc with
  | connect k =>
    cases h
    exact .inl rfl
  | get key k =>
    simp only [carryOut] at h
    split at h <;> cases h <;> exact .inl rfl
  | ttl key k =>
    cases h
    exact .inl rfl
  | incr key secs k hk =>
    simp only [carryOut, Keyspace.incr] at h
    split at h
    · next hnone =>
      -- a counter that was not there is created without a time to live
      cases h
      exact .inr (.inr ⟨key, _, rfl, .inr (.inr ⟨rfl, hnone, rfl⟩)⟩)
    · next n expiresAt hsome =>
      split at h <;> cases h
      exact .inr (.inr ⟨key, _, rfl, .inl ⟨_, hsome, rfl⟩⟩)
    · cases h
    · cases h
  | expire key secs k hsecs =>
    simp only [carryOut, Keyspace.expire] at h
    split at h
    · split at h
      · cases h
        exact .inl rfl
      · cases h
        split
        · exact .inr (.inr ⟨key, _, rfl, .inr (.inl (timed_deadline hsecs _))⟩)
        · exact .inr (.inl ⟨key, rfl⟩)
    · cases h
  | setEx key v secs k hsecs =>
    simp only [carryOut] at h
    split at h <;> cases h
    exact .inr (.inr ⟨key, _, rfl, .inr (.inl (timed_deadline hsecs _))⟩)

/-- Where an entry that is found after a call comes from. -/
theorem origin_of_serve {c : Call τ E} {k : c.Answer → Client τ E ε α} (hc : Counts W c k)
    (s : Server τ) (who : ℕ) (moment : Moment) {key : String} {e : Entry τ}
    (hfind : (serve s who moment c).1.keys.find? (s.now + moment.elapsed) key = some e) :
    Origin W c s.keys (s.now + moment.elapsed) key e := by
  cases c with
  | clock => exact .inl ⟨e, hfind, rfl⟩
  | notify event => exact .inl ⟨e, hfind, rfl⟩
  | redis c =>
    simp only [serve] at hfind
    -- a command that is lost leaves the keys, whatever its client is told
    rcases answer_cases s.keys who ⟨s.now + moment.elapsed, moment.fault⟩ c with
      ⟨heq, -⟩ | ⟨keys', reply, hcarry, heq, -⟩
    · rw [heq] at hfind
      exact .inl ⟨e, hfind, rfl⟩
    rw [heq] at hfind
    rcases carryOut_cases hc hcarry with rfl | ⟨other, rfl⟩ | ⟨other, written, rfl, horigin⟩
    · exact .inl ⟨e, hfind, rfl⟩
    · by_cases hkey : key = other
      · subst hkey
        rw [Keyspace.find?_remove_self] at hfind
        cases hfind
      · rw [Keyspace.find?_remove_of_ne _ _ hkey] at hfind
        exact .inl ⟨e, hfind, rfl⟩
    · by_cases hkey : key = other
      · subst hkey
        rw [Keyspace.find?_put_self] at hfind
        split at hfind <;> cases hfind
        exact horigin
      · rw [Keyspace.find?_put_of_ne _ _ _ hkey] at hfind
        exact .inl ⟨e, hfind, rfl⟩

/-- After an `EXPIRE` that takes effect the key's entry has the time to live, or is gone. -/
theorem timed_of_serve_expire {s : Server τ} {who : ℕ} {moment : Moment} {key : String}
    {secs : ℤ} {e : Entry τ} (hsecs : W key secs) (htakes : moment.fault.takesEffect = true)
    (hfits : fitsExpire (s.now + moment.elapsed) secs = true)
    (hfind : (serve (E := E) s who moment (.redis (.expire key secs))).1.keys.find?
      (s.now + moment.elapsed) key = some e) : Timed W (s.now + moment.elapsed) key e := by
  simp only [serve] at hfind
  cases hfound : s.keys.find? (s.now + moment.elapsed) key with
  | none =>
    have hcarry : carryOut (s.now + moment.elapsed) s.keys (.expire key secs)
        = .ok (s.keys, ()) := by
      simp only [carryOut, Keyspace.expire, hfits, hfound, if_true]
      rfl
    rw [answer_fst_of_ok hcarry, if_pos htakes, hfound] at hfind
    cases hfind
  | some d =>
    have hcarry : carryOut (s.now + moment.elapsed) s.keys (.expire key secs)
        = .ok (if 0 < secs then s.keys.put key
            { d with expiresAt := some (deadline (s.now + moment.elapsed) secs) }
          else s.keys.remove key, ()) := by
      simp only [carryOut, Keyspace.expire, hfits, hfound, if_true]
      rfl
    rw [answer_fst_of_ok hcarry, if_pos htakes] at hfind
    split at hfind
    · rw [Keyspace.find?_put_self] at hfind
      split at hfind <;> cases hfind
      exact timed_deadline hsecs _
    · rw [Keyspace.find?_remove_self] at hfind
      cases hfind

/-! ### Interleavings -/

/-- A client is about to give the key a time to live. -/
def Awaited (pool : Pool (Server τ) (Call τ E) Call.Answer ε) (key : String) : Prop :=
  ∃ who secs, (pool.threads who).next? = some (.redis (.expire key secs))

/-- What holds in every interleaving of reliable steps. -/
structure CounterInv (W : String → ℤ → Prop)
    (pool : Pool (Server τ) (Call τ E) Call.Answer ε) : Prop where
  counts : ∀ who, (pool.threads who).Always (Counts W)
  timed : ∀ key e, pool.state.keys.find? pool.state.now key = some e →
    Timed W pool.state.now key e ∨ (e.expiresAt = none ∧ Awaited pool key)

theorem serve_now (s : Server τ) (who : ℕ) (moment : Moment) (c : Call τ E) :
    (serve s who moment c).1.now = s.now + moment.elapsed := by
  cases c <;> rfl

variable {program : Op → Client τ E ε Unit} {pool : Pool (Server τ) (Call τ E) Call.Answer ε}

/-- A client that starts takes the place of one that is not busy. -/
theorem CounterInv.start (hprogram : ∀ op, (program op).Always (Counts W))
    (h : CounterInv W pool) (who : ℕ) (op : Op) :
    CounterInv W (pool.step serve program (.start who op : Action Op Moment)) := by
  -- nobody who is about to make a call is replaced
  have hthreads : ∀ j c, (pool.threads j).next? = some c →
      ((pool.step serve program (.start who op : Action Op Moment)).threads j).next? = some c := by
    intro j c hj
    by_cases hwho : j = who
    · subst hwho
      cases hthread : pool.threads j with
      | ret u =>
        rw [hthread] at hj
        cases hj
      | fail e =>
        rw [hthread] at hj
        cases hj
      | call d k =>
        rw [hthread] at hj
        simpa [Pool.step, hthread] using hj
    · rw [Pool.step_threads_of_ne hwho]
      exact hj
  have hstate : (pool.step serve program (.start who op : Action Op Moment)).state
      = pool.state := by
    rcases Pool.step_start_cases serve program pool who op with heq | ⟨-, heq⟩ <;> rw [heq]
  refine ⟨?_, fun key e hfind => ?_⟩
  · rcases Pool.step_start_cases serve program pool who op with heq | ⟨-, heq⟩
    · rw [heq]
      exact h.counts
    · rw [heq]
      exact (Function.forall_update_iff _ fun _ p => Prog.Always (Counts W) p).mpr
        ⟨hprogram op, fun j _ => h.counts j⟩
  · rw [hstate] at hfind ⊢
    refine (h.timed key e hfind).imp_right ?_
    rintro ⟨hnone, j, secs, hj⟩
    exact ⟨hnone, j, secs, hthreads j _ hj⟩

/-- **A reliable call keeps the invariant.** -/
theorem CounterInv.call (h : CounterInv W pool) {who : ℕ} {moment : Moment}
    (hreliable : Reliable pool (.step who moment : Action Op Moment)) :
    CounterInv W (pool.step serve program (.step who moment : Action Op Moment)) := by
  rcases Pool.step_step_cases serve program pool who moment with
    ⟨-, heq⟩ | ⟨c, k, hthread, heq⟩
  · rw [heq]
    exact h
  rw [heq]
  have hcounts := h.counts who
  rw [hthread] at hcounts
  simp only [Reliable, hthread, Prog.next?] at hreliable
  refine ⟨?_, fun key e hfind => ?_⟩
  · exact (Function.forall_update_iff _ fun _ p => Prog.Always (Counts W) p).mpr
      ⟨hcounts.2 _, fun j _ => h.counts j⟩
  simp only [serve_now] at hfind ⊢
  rcases origin_of_serve hcounts.1 pool.state who moment hfind with
    ⟨d, hd, hexpires⟩ | htimed | ⟨rfl, hnone, hexpires⟩
  · -- the entry was there with the same time to live
    have hbefore := Keyspace.find?_of_le hd (Nat.le_add_right pool.state.now moment.elapsed)
    rcases h.timed key d hbefore with ⟨t, secs, ht, hW, hdeadline⟩ | ⟨hdnone, j, secs, hj⟩
    · refine .inl (Timed.later ⟨t, secs, ?_, hW, hdeadline⟩ (Nat.le_add_right _ _))
      rw [← hexpires, ht]
    · by_cases hwho : j = who
      · -- its client has set it now
        subst hwho
        rw [hthread] at hj
        cases hj
        obtain ⟨htakes, hfits⟩ := hreliable d hd hdnone
        cases hcounts.1 with
        | expire _ _ _ hsecs => exact .inl (timed_of_serve_expire hsecs htakes hfits hfind)
      · refine .inr ⟨by rw [← hexpires, hdnone], j, secs, ?_⟩
        simpa [Function.update_of_ne hwho] using hj
  · exact .inl htimed
  · -- the client that has created the counter sets its time to live next
    have hfault : moment.fault = .none := hreliable hnone
    have hcarry : carryOut (pool.state.now + moment.elapsed) pool.state.keys (.incr key)
        = .ok (pool.state.keys.put key ⟨.int 1, none⟩, 1) := by
      simp only [carryOut, Keyspace.incr, hnone]
    have hanswer : (serve (E := E) pool.state who moment (.redis (.incr key))).2
        = (.ok 1 : Except String ℤ) := by
      obtain ⟨elapsed, fault⟩ := moment
      subst hfault
      exact congrArg Prod.snd (answer_ok hcarry who)
    cases hcounts.1 with
    | incr _ secs _ hk =>
      refine .inr ⟨hexpires, who, secs, ?_⟩
      simpa [hanswer] using hk

theorem not_awaited_of_idle (h : ∀ who, (pool.threads who).next? = none) (key : String) :
    ¬ Awaited pool key := by
  rintro ⟨who, secs, hwho⟩
  rw [h who] at hwho
  cases hwho

/-- **Counters expire.**  In every interleaving of reliable steps of clients that count, from a
server without keys, every key has a time to live that it may be given, unless a client is about
to set it. -/
theorem timed_of_reach (hprogram : ∀ op, (program op).Always (Counts W)) {now : ℕ}
    (h : Reach (Pool.step serve program) Reliable (Pool.idle ⟨now, .empty⟩) pool)
    {key : String} {e : Entry τ} (hawaited : ¬ Awaited pool key)
    (hfind : pool.state.keys.find? pool.state.now key = some e) :
    Timed W pool.state.now key e := by
  have hinit : CounterInv W (Pool.idle ⟨now, .empty⟩ : Pool (Server τ) (Call τ E) Call.Answer ε) :=
    ⟨fun _ => trivial, fun key e hfind => by cases hfind⟩
  have hinv : CounterInv W pool := h.invariant hinit fun pool a hpool ha => by
    cases a with
    | start who op => exact hpool.start hprogram who op
    | step who moment => exact hpool.call ha
  rcases hinv.timed key e hfind with htimed | ⟨-, hclient⟩
  · exact htimed
  · exact absurd hclient hawaited

/-! ### Times to live -/

/-- The key's time to live is at most that many seconds, and when they have passed it is gone. -/
def ExpiresWithin (s : Server τ) (key : String) (secs : ℕ) : Prop :=
  (∀ e, s.keys.find? s.now key = some e → 0 ≤ e.ttl s.now ∧ e.ttl s.now ≤ secs) ∧
    ∀ later, s.now + 1000 * secs ≤ later → s.keys.find? later key = none

/-- A key whose entry expires in time. -/
theorem expiresWithin_of_timed {s : Server τ} {key : String} {secs : ℕ}
    (h : ∀ e, s.keys.find? s.now key = some e → Timed W s.now key e)
    (hW : ∀ n, W key n → n ≤ secs) : ExpiresWithin s key secs := by
  have hexpires : ∀ e, s.keys.find? s.now key = some e →
      ∃ t, e.expiresAt = some t ∧ t ≤ s.now + 1000 * secs := by
    intro e hfind
    obtain ⟨t, n, ht, hn, hle⟩ := h e hfind
    have hsecs := hW n hn
    refine ⟨t, ht, ?_⟩
    unfold deadline at hle
    omega
  refine ⟨fun e hfind => ?_, fun later hlater => ?_⟩
  · obtain ⟨t, ht, hle⟩ := hexpires e hfind
    have hlive := (Keyspace.find?_eq_some_iff.mp hfind).2
    simp only [Entry.live, ht, decide_eq_true_eq] at hlive
    simp only [Entry.ttl, ht]
    omega
  · cases hfind : s.keys.find? later key with
    | none => rfl
    | some e =>
      obtain ⟨t, ht, hle⟩ := hexpires e (Keyspace.find?_of_le hfind (by omega))
      have hlive := (Keyspace.find?_eq_some_iff.mp hfind).2
      simp only [Entry.live, ht, decide_eq_true_eq] at hlive
      omega

end Redis
