import ActonService.Lib.Effect
import Mathlib.Data.Int.Notation
import Mathlib.Data.Nat.Notation

/-!
# A Redis server

Keys with values that may expire, and the commands that read and write them.  Times are
milliseconds.  An expired key is gone for every command, whether or not the server has
already dropped it.

A server keeps a counter as the text of its value; it is `int` here, and any other text is a
`text` of the client's own type.

## Main definitions

* `Value`, `Entry`, `Keyspace` — what a server stores.
* `Keyspace.find?` — the entry of a key at a time.
* `Command`, `Reply`, `carryOut` — the commands, their replies and what they do.
* `Fault`, `Input`, `answer` — what a client is told.
* `Server`, `Call`, `serve` — a server with a clock, and the calls of its clients.
* `ask`, `askOr` — a command as a program.
* `perform` — running a program in an instant.

## Main results

* `find?_put_self`, `find?_put_of_ne`, `find?_remove_self`, `find?_remove_of_ne` — what is found
  after a write.
* `answer_ok`, `answer_cases` — a command is carried out, or leaves everything as it is.
-/

namespace Redis

/-! ### Keys and values -/

/-- The value of a key. -/
inductive Value (τ : Type)
  | text (v : τ)
  /-- The text of an integer. -/
  | int (n : ℤ)
  | set (members : List String)
  deriving DecidableEq, Repr

/-- A value and when it expires, if it does. -/
structure Entry (τ : Type) where
  value : Value τ
  expiresAt : Option ℕ
  deriving DecidableEq, Repr

variable {τ : Type}

/-- The entry has not expired. -/
def Entry.live (e : Entry τ) (now : ℕ) : Bool :=
  match e.expiresAt with
  | some t => decide (now < t)
  | none => true

/-- An entry that is live was live before. -/
theorem Entry.live_of_le {e : Entry τ} {now later : ℕ} (h : e.live later = true)
    (hle : now ≤ later) : e.live now = true := by
  unfold Entry.live at h ⊢
  split at h
  · next t _ =>
    rw [decide_eq_true_eq] at h ⊢
    omega
  · rfl

/-- The keys of a server. -/
structure Keyspace (τ : Type) where
  entries : String → Option (Entry τ)

namespace Keyspace

/-- The server without keys. -/
def empty : Keyspace τ := ⟨fun _ => none⟩

/-- The entry of a key at a time. -/
def find? (m : Keyspace τ) (now : ℕ) (key : String) : Option (Entry τ) :=
  (m.entries key).filter fun e => e.live now

/-- The keys with an entry written. -/
def put (m : Keyspace τ) (key : String) (e : Entry τ) : Keyspace τ :=
  ⟨Function.update m.entries key (some e)⟩

/-- The keys with one taken out. -/
def remove (m : Keyspace τ) (key : String) : Keyspace τ :=
  ⟨Function.update m.entries key none⟩

@[simp] theorem entries_put_self (m : Keyspace τ) (key : String) (e : Entry τ) :
    (m.put key e).entries key = some e :=
  Function.update_self _ _ _

theorem entries_put_of_ne (m : Keyspace τ) {key k : String} (e : Entry τ) (h : k ≠ key) :
    (m.put key e).entries k = m.entries k :=
  Function.update_of_ne h _ _

@[simp] theorem entries_remove_self (m : Keyspace τ) (key : String) :
    (m.remove key).entries key = none :=
  Function.update_self _ _ _

theorem entries_remove_of_ne (m : Keyspace τ) {key k : String} (h : k ≠ key) :
    (m.remove key).entries k = m.entries k :=
  Function.update_of_ne h _ _

@[simp] theorem find?_empty (now : ℕ) (key : String) :
    (empty : Keyspace τ).find? now key = none := rfl

@[simp] theorem find?_put_self (m : Keyspace τ) (now : ℕ) (key : String) (e : Entry τ) :
    (m.put key e).find? now key = if e.live now then some e else none := by
  simp only [find?, put, Function.update_self, Option.filter_some]

theorem find?_put_of_ne (m : Keyspace τ) (now : ℕ) {key k : String} (e : Entry τ) (h : k ≠ key) :
    (m.put key e).find? now k = m.find? now k := by
  simp only [find?, put, Function.update_of_ne h]

@[simp] theorem find?_remove_self (m : Keyspace τ) (now : ℕ) (key : String) :
    (m.remove key).find? now key = none := by
  simp only [find?, remove, Function.update_self, Option.filter_none]

theorem find?_remove_of_ne (m : Keyspace τ) (now : ℕ) {key k : String} (h : k ≠ key) :
    (m.remove key).find? now k = m.find? now k := by
  simp only [find?, remove, Function.update_of_ne h]

@[simp] theorem put_put (m : Keyspace τ) (key : String) (d e : Entry τ) :
    (m.put key d).put key e = m.put key e := by
  simp only [put, Function.update_idem]

theorem find?_eq_some_iff {m : Keyspace τ} {now : ℕ} {key : String} {e : Entry τ} :
    m.find? now key = some e ↔ m.entries key = some e ∧ e.live now = true := by
  unfold find?
  rw [Option.filter_eq_some_iff]

/-- What is found depends on the entry alone. -/
theorem find?_congr {m m' : Keyspace τ} {key : String} (h : m'.entries key = m.entries key)
    (now : ℕ) : m'.find? now key = m.find? now key := by
  unfold find?
  rw [h]

/-- What is found later was found before. -/
theorem find?_of_le {m : Keyspace τ} {now later : ℕ} {key : String} {e : Entry τ}
    (h : m.find? later key = some e) (hle : now ≤ later) : m.find? now key = some e := by
  rw [find?_eq_some_iff] at h ⊢
  exact ⟨h.1, Entry.live_of_le h.2 hle⟩

end Keyspace

/-! ### Commands -/

/-- The commands, as far as the service sends them. -/
inductive Command (τ : Type)
  /-- A connection is taken from the client's pool; the server sees nothing of it. -/
  | connect
  | get (key : String)
  | set (key : String) (v : Value τ)
  /-- `SETEX`, and `SET` with `EX`. -/
  | setEx (key : String) (v : Value τ) (secs : ℤ)
  | sadd (key member : String)
  | smembers (key : String)
  | expire (key : String) (secs : ℤ)
  | incr (key : String)
  | ttl (key : String)
  | exists (key : String)
  | del (keys : List String)

/-- The type of a reply. -/
abbrev Reply {τ : Type} : Command τ → Type
  | .get _ => Option (Value τ)
  | .smembers _ => List String
  | .incr _ => ℤ
  | .ttl _ => ℤ
  | .exists _ => Bool
  | _ => Unit

/-- What a server says of a key that has a value of another kind. -/
def wrongType : String := "WRONGTYPE Operation against a key holding the wrong kind of value"

/-- What it says of a time to live it does not take. -/
def invalidExpire : String := "ERR invalid expire time"

/-- The time that many seconds from now fits a 64-bit number of milliseconds. -/
def fitsExpire (now : ℕ) (secs : ℤ) : Bool :=
  decide (-9223372036854775 ≤ secs ∧ 1000 * secs + now ≤ 9223372036854775807)

/-- The time that many seconds from now. -/
def deadline (now : ℕ) (secs : ℤ) : ℕ := (now + 1000 * secs).toNat

/-- The seconds an entry has left, as `TTL` rounds them. -/
def Entry.ttl (e : Entry τ) (now : ℕ) : ℤ :=
  match e.expiresAt with
  | some t => (t - now + 500) / 1000
  | none => -1

namespace Keyspace

/-- The members of a set; a key without a set has none. -/
def members (m : Keyspace τ) (now : ℕ) (key : String) : List String :=
  match m.find? now key with
  | some ⟨.set l, _⟩ => l
  | _ => []

/-- `SADD` -/
def sadd (m : Keyspace τ) (now : ℕ) (key member : String) : Except String (Keyspace τ) :=
  match m.find? now key with
  | none => .ok (m.put key ⟨.set [member], none⟩)
  | some ⟨.set members, expiresAt⟩ =>
    .ok (m.put key ⟨.set (if member ∈ members then members else members ++ [member]), expiresAt⟩)
  | some _ => .error wrongType

/-- `EXPIRE`.  A time that is not ahead takes the key out. -/
def expire (m : Keyspace τ) (now : ℕ) (key : String) (secs : ℤ) : Except String (Keyspace τ) :=
  if fitsExpire now secs then
    match m.find? now key with
    | none => .ok m
    | some e =>
      .ok (if 0 < secs then m.put key { e with expiresAt := some (deadline now secs) }
        else m.remove key)
  else .error invalidExpire

/-- `INCR`.  It leaves the time to live as it is. -/
def incr (m : Keyspace τ) (now : ℕ) (key : String) : Except String (Keyspace τ × ℤ) :=
  match m.find? now key with
  | none => .ok (m.put key ⟨.int 1, none⟩, 1)
  | some ⟨.int n, expiresAt⟩ =>
    if n < 9223372036854775807 then .ok (m.put key ⟨.int (n + 1), expiresAt⟩, n + 1)
    else .error "ERR increment or decrement would overflow"
  | some ⟨.text _, _⟩ => .error "ERR value is not an integer or out of range"
  | some ⟨.set _, _⟩ => .error wrongType

/-- `TTL` -/
def ttl (m : Keyspace τ) (now : ℕ) (key : String) : ℤ :=
  match m.find? now key with
  | none => -2
  | some e => e.ttl now

end Keyspace

/-- What a server does at a time, and what it replies. -/
def carryOut (now : ℕ) (m : Keyspace τ) : (c : Command τ) → Except String (Keyspace τ × Reply c)
  | .connect => .ok (m, ())
  | .get key =>
    match m.find? now key with
    | none => .ok (m, none)
    | some ⟨.set _, _⟩ => .error wrongType
    | some e => .ok (m, some e.value)
  | .set key v => .ok (m.put key ⟨v, none⟩, ())
  | .setEx key v secs =>
    if fitsExpire now secs && decide (0 < secs) then
      .ok (m.put key ⟨v, some (deadline now secs)⟩, ())
    else .error invalidExpire
  | .sadd key member => (m.sadd now key member).map fun m' => (m', ())
  | .smembers key =>
    match m.find? now key with
    | none => .ok (m, [])
    | some ⟨.set members, _⟩ => .ok (m, members)
    | some _ => .error wrongType
  | .expire key secs => (m.expire now key secs).map fun m' => (m', ())
  | .incr key => m.incr now key
  | .ttl key => .ok (m, m.ttl now key)
  | .exists key => .ok (m, (m.find? now key).isSome)
  | .del keys => .ok (keys.foldl Keyspace.remove m, ())

/-- `GET` changes nothing. -/
theorem carryOut_get {m m' : Keyspace τ} {now : ℕ} {key : String} {reply : Option (Value τ)}
    (h : carryOut now m (.get key) = .ok (m', reply)) : m' = m := by
  simp only [carryOut] at h
  split at h <;> cases h <;> rfl

/-! ### Clients -/

/-- What a command meets on the way to the server. -/
inductive Fault
  | none
  /-- The command fails, and has done nothing. -/
  | refused (e : String)
  /-- It is carried out, but the reply is lost. -/
  | lostReply (e : String)
  deriving DecidableEq, Repr

/-- The command reaches the server. -/
def Fault.takesEffect : Fault → Bool
  | .none | .lostReply _ => true
  | .refused _ => false

/-- What a client cannot know: the time and the fate of the command. -/
structure Input where
  now : ℕ
  fault : Fault
  deriving DecidableEq, Repr

/-- The server after a command, and what the client is told. -/
def answer (m : Keyspace τ) (_who : ℕ) (input : Input) (c : Command τ) :
    Keyspace τ × Except String (Reply c) :=
  match input.fault, carryOut input.now m c with
  | .none, .ok (m', reply) => (m', .ok reply)
  | .none, .error e => (m, .error e)
  | .refused e, _ => (m, .error e)
  | .lostReply e, .ok (m', _) => (m', .error e)
  | .lostReply e, .error _ => (m, .error e)

/-- A command that comes through is carried out. -/
theorem answer_ok {m m' : Keyspace τ} {c : Command τ} {now : ℕ} {reply : Reply c}
    (h : carryOut now m c = .ok (m', reply)) (who : ℕ) :
    answer m who ⟨now, .none⟩ c = (m', .ok reply) := by
  simp only [answer, h]

/-- The server after a command that it takes, if it reaches it. -/
theorem answer_fst_of_ok {m m' : Keyspace τ} {c : Command τ} {now : ℕ} {reply : Reply c}
    (h : carryOut now m c = .ok (m', reply)) (who : ℕ) (fault : Fault) :
    (answer m who ⟨now, fault⟩ c).1 = if fault.takesEffect then m' else m := by
  cases fault with
  | none => simp [answer, h, Fault.takesEffect]
  | refused e => simp [answer, Fault.takesEffect]
  | lostReply e => simp [answer, h, Fault.takesEffect]

/-- A command is carried out, or leaves everything as it is; what the client is told to be the
reply is the reply. -/
theorem answer_cases (m : Keyspace τ) (who : ℕ) (input : Input) (c : Command τ) :
    ((answer m who input c).1 = m ∧ ∃ e, (answer m who input c).2 = .error e) ∨
      ∃ m' reply, carryOut input.now m c = .ok (m', reply) ∧ (answer m who input c).1 = m' ∧
        ((answer m who input c).2 = .ok reply ∨ ∃ e, (answer m who input c).2 = .error e) := by
  unfold answer
  split
  · next m' reply _ h => exact .inr ⟨m', reply, h, rfl, .inl rfl⟩
  · next e _ _ => exact .inl ⟨rfl, e, rfl⟩
  · next e _ => exact .inl ⟨rfl, e, rfl⟩
  · next e m' reply _ h => exact .inr ⟨m', reply, h, rfl, .inr ⟨e, rfl⟩⟩
  · next e _ _ _ => exact .inl ⟨rfl, e, rfl⟩

/-- A command that is answered with a reply was carried out. -/
theorem carryOut_of_answer_ok {m : Keyspace τ} {who : ℕ} {input : Input} {c : Command τ}
    {reply : Reply c} (h : (answer m who input c).2 = .ok reply) :
    carryOut input.now m c = .ok ((answer m who input c).1, reply) := by
  rcases answer_cases m who input c with ⟨-, e, he⟩ | ⟨m', r, hcarry, heq, hr | ⟨e, he⟩⟩
  · rw [he] at h
    cases h
  · rw [hr] at h
    cases h
    rw [hcarry, heq]
  · rw [he] at h
    cases h

/-! ### A server and its clock -/

/-- A server and the time it has. -/
structure Server (τ : Type) where
  now : ℕ
  keys : Keyspace τ

/-- What a client calls: a command, its own clock, or something outside that it tells. -/
inductive Call (τ E : Type)
  | redis (c : Command τ)
  | clock
  | notify (event : E)

/-- The type of an answer. -/
def Call.Answer {E : Type} : Call τ E → Type
  | .redis c => Except String (Reply c)
  | .clock => ℕ
  | .notify _ => Unit

/-- The time that passes before a call, and the fate of the call. -/
structure Moment where
  elapsed : ℕ
  fault : Fault
  deriving DecidableEq, Repr

/-- The server after a call, and the answer. -/
def serve {E : Type} (s : Server τ) (who : ℕ) (moment : Moment) :
    (c : Call τ E) → Server τ × c.Answer
  | .redis c =>
    let r := answer s.keys who ⟨s.now + moment.elapsed, moment.fault⟩ c
    (⟨s.now + moment.elapsed, r.1⟩, r.2)
  | .clock => (⟨s.now + moment.elapsed, s.keys⟩, s.now + moment.elapsed)
  | .notify _ => (⟨s.now + moment.elapsed, s.keys⟩, ())

/-- A command whose error is passed on. -/
def ask {E ε : Type} (onError : String → ε) (c : Command τ) :
    Effect.Prog (Call τ E) Call.Answer ε (Reply c) :=
  .call (.redis c) fun answer =>
    match answer with
    | .ok reply => .ret reply
    | .error e => .fail (onError e)

/-- A command whose error is replaced by a default. -/
def askOr {E ε : Type} (c : Command τ) (default : Reply c) :
    Effect.Prog (Call τ E) Call.Answer ε (Reply c) :=
  .call (.redis c) fun answer =>
    match answer with
    | .ok reply => .ret reply
    | .error _ => .ret default

/-! ### Running a program in an instant -/

section Perform

variable {E ε α β : Type}

/-- The program run alone at the server's time, with every command coming through. -/
def perform (p : Effect.Prog (Call τ E) Call.Answer ε α) (s : Server τ) :
    Except ε α × Server τ :=
  Effect.exec serve 0 p s fun _ => ⟨0, .none⟩

variable {s s' : Server τ} {p : Effect.Prog (Call τ E) Call.Answer ε α}

@[simp] theorem perform_ret (a : α) :
    perform (.ret a : Effect.Prog (Call τ E) Call.Answer ε α) s = (.ok a, s) := rfl

@[simp] theorem perform_notify (event : E) (f : Unit → Effect.Prog (Call τ E) Call.Answer ε α) :
    perform (.call (.notify event) f) s = perform (f ()) s := rfl

/-- What comes behind a program that succeeds. -/
theorem perform_bind_ok {a : α} (h : perform p s = (.ok a, s'))
    (f : α → Effect.Prog (Call τ E) Call.Answer ε β) :
    perform (p.bind f) s = perform (f a) s' := by
  unfold perform at h ⊢
  rw [Effect.exec_bind_const, h]

theorem perform_bind_error {e : ε} (h : perform p s = (.error e, s'))
    (f : α → Effect.Prog (Call τ E) Call.Answer ε β) :
    perform (p.bind f) s = (.error e, s') := by
  unfold perform at h ⊢
  rw [Effect.exec_bind_const, h]

/-- A command that is carried out. -/
theorem perform_ask {c : Command τ} {keys : Keyspace τ} {reply : Reply c}
    (h : carryOut s.now s.keys c = .ok (keys, reply)) (onError : String → ε) :
    perform (ask (E := E) onError c) s = (.ok reply, ⟨s.now, keys⟩) := by
  have hanswer : answer s.keys 0 ⟨s.now + 0, .none⟩ c = (keys, .ok reply) := answer_ok h 0
  simp only [perform, ask, Effect.exec, serve, hanswer]
  rfl

theorem perform_ask_error {c : Command τ} {e : String}
    (h : carryOut s.now s.keys c = .error e) (onError : String → ε) :
    perform (ask (E := E) onError c) s = (.error (onError e), s) := by
  have hanswer : answer s.keys 0 ⟨s.now + 0, .none⟩ c = (s.keys, .error e) := by
    simp only [answer, Nat.add_zero, h]
  simp only [perform, ask, Effect.exec, serve, hanswer]
  rfl

theorem perform_askOr {c : Command τ} {keys : Keyspace τ} {reply : Reply c}
    (h : carryOut s.now s.keys c = .ok (keys, reply)) (default : Reply c) :
    perform (askOr (E := E) (ε := ε) c default) s = (.ok reply, ⟨s.now, keys⟩) := by
  have hanswer : answer s.keys 0 ⟨s.now + 0, .none⟩ c = (keys, .ok reply) := answer_ok h 0
  simp only [perform, askOr, Effect.exec, serve, hanswer]
  rfl

theorem perform_attempt : perform p.attempt s = (.ok (perform p s).1, (perform p s).2) :=
  Effect.exec_attempt serve 0 p s _

end Perform

end Redis
