import ActonService.Lib.Run
import Mathlib.Logic.Function.Basic

/-!
# Programs that make calls

A program computes, and now and then makes a call to what is around it: a store, a clock, a
lock.  Between two calls nothing outside sees it, so a call is its unit of interleaving.
It may fail, and a caller may catch that.

The world answers a call from its state, from the caller and from an input that stands for
what the program cannot know: the time, a fault of the network, random bytes.  Programs that
run side by side make a pool, in which one of them makes its next call at a time.

## Main definitions

* `Prog`, `Prog.bind`, `Prog.attempt`, `Prog.lift` — programs, sequencing, catching and lifting.
* `Prog.Follows` — the calls the program may make keep to a protocol.
* `Prog.Always`, `Prog.FailsOnly` — a contract of every call, and failing with a call only.
* `Prog.eval`, `Prog.ahead` — a program whose calls, or some of them, have known answers.
* `exec`, `Maintains` — running one program alone, and what it keeps.
* `Pool`, `Pool.step` — programs side by side.
* `observed` — a world that keeps notes of the calls it answers.

## Main results

* `Prog.Follows.bind`, `Prog.Follows.attempt` — programs that keep to a protocol compose.
* `Maintains.bind`, `Maintains.attempt` — so do programs that keep a property of the state.
* `Pool.fail_iff_noted` — which programs of a pool have failed.
* `Pool.invariant` — **what every call keeps, of the state and of every program's rest, holds
  in every pool reached.**
-/

namespace Effect

open Run

/-! ### Programs -/

/-- A program with calls `C` answered in `A`, errors `ε` and results `α`. -/
inductive Prog (C : Type) (A : C → Type) (ε α : Type) : Type
  | ret (a : α)
  | fail (e : ε)
  | call (c : C) (k : A c → Prog C A ε α)

variable {C : Type} {A : C → Type} {ε α β : Type}

namespace Prog

/-- Sequencing; an error ends the program. -/
def bind : Prog C A ε α → (α → Prog C A ε β) → Prog C A ε β
  | ret a, f => f a
  | fail e, _ => fail e
  | call c k, f => call c fun a => (k a).bind f

instance instMonad : Monad (Prog C A ε) where
  pure := ret
  bind := bind

/-- A result that may be an error. -/
def ofExcept : Except ε α → Prog C A ε α
  | .ok a => ret a
  | .error e => fail e

/-- The program with its error caught. -/
def attempt : Prog C A ε α → Prog C A ε (Except ε α)
  | ret a => ret (.ok a)
  | fail e => ret (.error e)
  | call c k => call c fun a => (k a).attempt

/-- The program with its calls sent as calls of another kind. -/
def lift {C' : Type} {A' : C' → Type} (f : C → C') (g : (c : C) → A' (f c) → A c) :
    Prog C A ε α → Prog C' A' ε α
  | ret a => ret a
  | fail e => fail e
  | call c k => call (f c) fun a => (k (g c a)).lift f g

/-- The call the program makes next. -/
def next? : Prog C A ε α → Option C
  | call c _ => some c
  | _ => none

@[simp] theorem pure_eq (a : α) : (pure a : Prog C A ε α) = ret a := rfl

@[simp] theorem bind_eq (p : Prog C A ε α) (f : α → Prog C A ε β) : p >>= f = p.bind f := rfl

@[simp] theorem ret_bind (a : α) (f : α → Prog C A ε β) : (ret a).bind f = f a := rfl

@[simp] theorem fail_bind (e : ε) (f : α → Prog C A ε β) : (fail e).bind f = fail e := rfl

@[simp] theorem call_bind (c : C) (k : A c → Prog C A ε α) (f : α → Prog C A ε β) :
    (call c k).bind f = call c fun a => (k a).bind f := rfl

theorem bind_assoc {γ : Type} (p : Prog C A ε α) (f : α → Prog C A ε β) (g : β → Prog C A ε γ) :
    (p.bind f).bind g = p.bind fun a => (f a).bind g := by
  induction p with
  | ret a => rfl
  | fail e => rfl
  | call c k ih => exact congrArg (call c) (funext ih)

@[simp] theorem bind_ret (p : Prog C A ε α) : p.bind ret = p := by
  induction p with
  | ret a => rfl
  | fail e => rfl
  | call c k ih => exact congrArg (call c) (funext ih)

@[simp] theorem attempt_ret (a : α) : (ret a : Prog C A ε α).attempt = ret (.ok a) := rfl

@[simp] theorem attempt_fail (e : ε) : (fail e : Prog C A ε α).attempt = ret (.error e) := rfl

@[simp] theorem attempt_call (c : C) (k : A c → Prog C A ε α) :
    (call c k).attempt = call c fun a => (k a).attempt := rfl

/-! ### Protocols -/

/-- A protocol has stages; `ok` says which calls a stage allows, `next` the stage after a call
and its answer.  The program keeps to it from a stage on. -/
def Follows {τ : Type} (ok : τ → C → Prop) (next : τ → (c : C) → A c → τ) :
    τ → Prog C A ε α → Prop
  | _, ret _ => True
  | _, fail _ => True
  | t, call c k => ok t c ∧ ∀ a, Follows ok next (next t c a) (k a)

variable {τ : Type} {ok : τ → C → Prop} {next : τ → (c : C) → A c → τ}

/-- Programs that keep to the protocol from every stage compose. -/
theorem Follows.bind {p : Prog C A ε α} {f : α → Prog C A ε β}
    (hp : ∀ t, p.Follows ok next t) (hf : ∀ a t, (f a).Follows ok next t) (t : τ) :
    (p.bind f).Follows ok next t := by
  have hgen : ∀ t, p.Follows ok next t → (p.bind f).Follows ok next t := by
    clear hp
    induction p with
    | ret a => exact fun t _ => hf a t
    | fail e => exact fun _ _ => trivial
    | call c k ih => exact fun t h => ⟨h.1, fun a => ih a _ (h.2 a)⟩
  exact hgen t (hp t)

theorem Follows.attempt {p : Prog C A ε α} {t : τ} (h : p.Follows ok next t) :
    p.attempt.Follows ok next t := by
  induction p generalizing t with
  | ret a => trivial
  | fail e => trivial
  | call c k ih => exact ⟨h.1, fun a => ih a (h.2 a)⟩

/-- A program whose first part may fail, with the error caught: what comes behind the whole
keeps to the protocol from where the second part ends, and after an error. -/
theorem Follows.bind_attempt {γ : Type} {p : Prog C A ε α} {f : α → Prog C A ε β}
    {g : Except ε β → Prog C A ε γ} (hp : ∀ t, p.Follows ok next t)
    (hf : ∀ a t, ((f a).attempt.bind g).Follows ok next t)
    (hg : ∀ e t, (g (.error e)).Follows ok next t) (t : τ) :
    ((p.bind f).attempt.bind g).Follows ok next t := by
  have hgen : ∀ t, p.Follows ok next t → ((p.bind f).attempt.bind g).Follows ok next t := by
    clear hp
    induction p with
    | ret a => exact fun t _ => hf a t
    | fail e => exact fun t _ => hg e t
    | call c k ih => exact fun t h => ⟨h.1, fun a => ih a _ (h.2 a)⟩
  exact hgen t (hp t)

theorem follows_ofExcept (r : Except ε α) (t : τ) :
    (ofExcept r : Prog C A ε α).Follows ok next t := by
  cases r <;> trivial

theorem follows_ret (a : α) (t : τ) : (ret a : Prog C A ε α).Follows ok next t := trivial

/-! ### Contracts -/

/-- Every call the program may make, with what comes behind it, meets `P`. -/
def Always (P : (c : C) → (A c → Prog C A ε α) → Prop) : Prog C A ε α → Prop
  | ret _ => True
  | fail _ => True
  | call c k => P c k ∧ ∀ a, (k a).Always P

theorem Always.bind {P : C → Prop} {p : Prog C A ε α} {f : α → Prog C A ε β}
    (hp : p.Always fun c _ => P c) (hf : ∀ a, (f a).Always fun c _ => P c) :
    (p.bind f).Always fun c _ => P c := by
  induction p with
  | ret a => exact hf a
  | fail e => trivial
  | call c k ih => exact ⟨hp.1, fun a => ih a (hp.2 a)⟩

theorem always_ofExcept {P : (c : C) → (A c → Prog C A ε α) → Prop} (r : Except ε α) :
    (ofExcept r : Prog C A ε α).Always P := by
  cases r <;> trivial

/-- A part whose calls every stage allows, and which leave the stage as it is. -/
theorem Always.follows_bind (quiet : C → Prop) (hok : ∀ t c, quiet c → ok t c)
    (hnext : ∀ t c a, quiet c → next t c a = t) {p : Prog C A ε α} {f : α → Prog C A ε β} {t : τ}
    (hp : p.Always fun c _ => quiet c) (hf : ∀ a, (f a).Follows ok next t) :
    (p.bind f).Follows ok next t := by
  induction p with
  | ret a => exact hf a
  | fail e => trivial
  | call c k ih =>
    refine ⟨hok t c hp.1, fun a => ?_⟩
    rw [hnext t c a hp.1]
    exact ih a (hp.2 a)

/-! ### Known answers -/

/-- What the program comes to if every call is answered as `answers` says. -/
def eval (answers : (c : C) → A c) : Prog C A ε α → Except ε α
  | ret a => .ok a
  | fail e => .error e
  | call c k => (k (answers c)).eval answers

theorem eval_bind (answers : (c : C) → A c) (p : Prog C A ε α) (f : α → Prog C A ε β) :
    (p.bind f).eval answers = (p.eval answers).bind fun a => (f a).eval answers := by
  induction p with
  | ret a => rfl
  | fail e => rfl
  | call c k ih => exact ih _

/-- A sequence succeeds only if both of its parts do. -/
theorem eval_bind_eq_ok {answers : (c : C) → A c} {p : Prog C A ε α} {f : α → Prog C A ε β} {b : β}
    (h : (p.bind f).eval answers = .ok b) :
    ∃ a, p.eval answers = .ok a ∧ (f a).eval answers = .ok b := by
  rw [eval_bind] at h
  cases hp : p.eval answers with
  | error e => simp [hp, Except.bind] at h
  | ok a => exact ⟨a, rfl, by simpa [hp, Except.bind] using h⟩

/-- Answers that agree on the calls a program makes lead to the same. -/
theorem eval_congr {answers answers' : (c : C) → A c} {p : Prog C A ε α}
    (h : p.Always fun c _ => answers c = answers' c) : p.eval answers = p.eval answers' := by
  induction p with
  | ret a => rfl
  | fail e => rfl
  | call c k ih =>
    rw [eval, eval, h.1]
    exact ih _ (h.2 _)

/-- The program from the first call on whose answer is not known. -/
def ahead (known : (c : C) → Option (A c)) : Prog C A ε α → Prog C A ε α
  | ret a => ret a
  | fail e => fail e
  | call c k =>
    match known c with
    | some a => (k a).ahead known
    | none => call c k

theorem ahead_call_of_some {known : (c : C) → Option (A c)} {c : C} {a : A c}
    (h : known c = some a) (k : A c → Prog C A ε α) :
    (call c k).ahead known = (k a).ahead known := by
  rw [ahead, h]

theorem ahead_call_of_none {known : (c : C) → Option (A c)} {c : C} (h : known c = none)
    (k : A c → Prog C A ε α) : (call c k).ahead known = call c k := by
  rw [ahead, h]

/-- The program with its calls sent as calls of another kind and its error caught. -/
def caught {C' : Type} {A' : C' → Type} {ε' : Type} (f : C → C') (g : (c : C) → A' (f c) → A c) :
    Prog C A ε α → Prog C' A' ε' (Except ε α)
  | ret a => ret (.ok a)
  | fail e => ret (.error e)
  | call c k => call (f c) fun a => (k (g c a)).caught f g

/-- A program whose error is caught comes to what it did, and does not fail. -/
theorem eval_caught {C' : Type} {A' : C' → Type} {ε' : Type} {f : C → C'}
    {g : (c : C) → A' (f c) → A c} {answers : (c : C) → A c} {answers' : (c : C') → A' c}
    (h : ∀ c, g c (answers' (f c)) = answers c) (p : Prog C A ε α) :
    (p.caught f g : Prog C' A' ε' _).eval answers' = .ok (p.eval answers) := by
  induction p with
  | ret a => rfl
  | fail e => rfl
  | call c k ih =>
    rw [caught, eval, ih, h]
    rfl

/-- A part of a program all of whose calls have known answers. -/
theorem ahead_caught_bind {C' : Type} {A' : C' → Type} {ε' : Type} {f : C → C'}
    {g : (c : C) → A' (f c) → A c} {known : (c : C') → Option (A' c)} {answers : (c : C) → A c}
    (h : ∀ c, ∃ a, known (f c) = some a ∧ g c a = answers c) (p : Prog C A ε α)
    (k : Except ε α → Prog C' A' ε' β) :
    ((p.caught f g).bind k).ahead known = (k (p.eval answers)).ahead known := by
  induction p with
  | ret a => rfl
  | fail e => rfl
  | call c l ih =>
    obtain ⟨a, hknown, ha⟩ := h c
    rw [caught, call_bind, ahead_call_of_some hknown, ih, ha]
    rfl

/-! ### Failing -/

/-- The program fails as soon as one of its calls does, and not otherwise. -/
def FailsOnly (failed : (c : C) → A c → Bool) : Prog C A ε α → Prop
  | ret _ => True
  | fail _ => False
  | call c k => ∀ a, if failed c a then ∃ e, k a = fail e else (k a).FailsOnly failed

theorem FailsOnly.bind {failed : (c : C) → A c → Bool} {p : Prog C A ε α} {f : α → Prog C A ε β}
    (hp : p.FailsOnly failed) (hf : ∀ a, (f a).FailsOnly failed) :
    (p.bind f).FailsOnly failed := by
  induction p with
  | ret a => exact hf a
  | fail e => exact hp.elim
  | call c k ih =>
    intro a
    have ha := hp a
    split at ha
    · next hfailed =>
      obtain ⟨e, he⟩ := ha
      rw [if_pos hfailed]
      exact ⟨e, congrArg (fun p => p.bind f) he⟩
    · next hfailed =>
      rw [if_neg hfailed]
      exact ih a ha

end Prog

/-! ### Running -/

variable {σ ι Op : Type} (answer : σ → ℕ → ι → (c : C) → σ × A c)

/-- Running a program alone, with an input for each of its calls. -/
def exec (who : ℕ) : Prog C A ε α → σ → (ℕ → ι) → Except ε α × σ
  | .ret a, s, _ => (.ok a, s)
  | .fail e, s, _ => (.error e, s)
  | .call c k, s, inputs =>
    let r := answer s who (inputs 0) c
    exec who (k r.2) r.1 fun n => inputs (n + 1)

/-- A sequence runs its first part, and the second on the inputs left. -/
theorem exec_bind (who : ℕ) (p : Prog C A ε α) (f : α → Prog C A ε β) (s : σ) (inputs : ℕ → ι) :
    ∃ used, exec answer who (p.bind f) s inputs =
      match exec answer who p s inputs with
      | (.ok a, s') => exec answer who (f a) s' fun n => inputs (n + used)
      | (.error e, s') => (.error e, s') := by
  induction p generalizing s inputs with
  | ret a => exact ⟨0, rfl⟩
  | fail e => exact ⟨0, rfl⟩
  | call c k ih =>
    rcases ih (answer s who (inputs 0) c).2 (answer s who (inputs 0) c).1
      (fun n => inputs (n + 1)) with ⟨used, hrest⟩
    refine ⟨used + 1, ?_⟩
    rw [Prog.call_bind, exec, hrest]
    rfl

/-- The same where every call gets the same input. -/
theorem exec_bind_const (who : ℕ) (p : Prog C A ε α) (f : α → Prog C A ε β) (s : σ) (input : ι) :
    exec answer who (p.bind f) s (fun _ => input) =
      match exec answer who p s fun _ => input with
      | (.ok a, s') => exec answer who (f a) s' fun _ => input
      | (.error e, s') => (.error e, s') := by
  obtain ⟨used, h⟩ := exec_bind answer who p f s fun _ => input
  exact h

/-- Running a program with its error caught. -/
theorem exec_attempt (who : ℕ) (p : Prog C A ε α) (s : σ) (inputs : ℕ → ι) :
    exec answer who p.attempt s inputs
      = (.ok (exec answer who p s inputs).1, (exec answer who p s inputs).2) := by
  induction p generalizing s inputs with
  | ret a => rfl
  | fail e => rfl
  | call c k ih => exact ih _ _ _

/-- A program whose calls go to one part of a larger world runs as in that part. -/
theorem exec_lift {C' : Type} {A' : C' → Type} {γ ι' : Type} {f : C → C'}
    {g : (c : C) → A' (f c) → A c}
    {answer' : σ × γ → ℕ → ι' → (c : C') → (σ × γ) × A' c} (input : ι' → ι)
    (h : ∀ s rest who i c, (answer' (s, rest) who i (f c)).1
        = ((answer s who (input i) c).1, rest) ∧
      g c (answer' (s, rest) who i (f c)).2 = (answer s who (input i) c).2)
    (who : ℕ) (p : Prog C A ε α) (s : σ) (rest : γ) (inputs : ℕ → ι') :
    exec answer' who (p.lift f g) (s, rest) inputs
      = ((exec answer who p s fun n => input (inputs n)).1,
        ((exec answer who p s fun n => input (inputs n)).2, rest)) := by
  induction p generalizing s inputs with
  | ret a => rfl
  | fail e => rfl
  | call c k ih =>
    have hcall := h s rest who (inputs 0) c
    simp only [Prog.lift, exec, hcall.1, hcall.2]
    exact ih _ _ _

/-- Run alone on good inputs, the program keeps `I`, whether it fails or not. -/
def Maintains (good : ι → Prop) (I : σ → Prop) (who : ℕ) (p : Prog C A ε α) : Prop :=
  ∀ s inputs, I s → (∀ n, good (inputs n)) → I (exec answer who p s inputs).2

section Maintains

variable {answer} {good : ι → Prop} {I : σ → Prop} {who : ℕ}

theorem Maintains.ret (a : α) : Maintains answer good I who (.ret a : Prog C A ε α) :=
  fun _ _ hs _ => hs

theorem Maintains.fail (e : ε) : Maintains answer good I who (.fail e : Prog C A ε α) :=
  fun _ _ hs _ => hs

theorem Maintains.ofExcept (r : Except ε α) :
    Maintains answer good I who (Prog.ofExcept r : Prog C A ε α) := by
  cases r with
  | error e => exact .fail e
  | ok a => exact .ret a

theorem Maintains.call {c : C} {k : A c → Prog C A ε α}
    (hcall : ∀ s input, good input → I s → I (answer s who input c).1)
    (hk : ∀ a, Maintains answer good I who (k a)) :
    Maintains answer good I who (.call c k) :=
  fun s inputs hs hinputs =>
    hk _ _ _ (hcall s (inputs 0) (hinputs 0) hs) fun n => hinputs (n + 1)

theorem Maintains.bind {p : Prog C A ε α} {f : α → Prog C A ε β}
    (hp : Maintains answer good I who p) (hf : ∀ a, Maintains answer good I who (f a)) :
    Maintains answer good I who (p.bind f) := by
  intro s inputs hs hinputs
  obtain ⟨used, hrest⟩ := exec_bind answer who p f s inputs
  have hmiddle := hp s inputs hs hinputs
  rw [hrest]
  rcases hfirst : exec answer who p s inputs with ⟨_ | a, s'⟩
  · rw [hfirst] at hmiddle
    exact hmiddle
  · rw [hfirst] at hmiddle
    exact hf a s' _ hmiddle fun n => hinputs (n + used)

theorem Maintains.attempt {p : Prog C A ε α} (hp : Maintains answer good I who p) :
    Maintains answer good I who p.attempt := by
  have hexec : ∀ s inputs,
      (exec answer who p.attempt s inputs).2 = (exec answer who p s inputs).2 := by
    clear hp
    induction p with
    | ret a => exact fun _ _ => rfl
    | fail e => exact fun _ _ => rfl
    | call c k ih => exact fun s inputs => ih _ _ _
  intro s inputs hs hinputs
  rw [hexec]
  exact hp s inputs hs hinputs

end Maintains

/-- The world with notes of the calls it has answered, which do not change the answers. -/
def observed {γ : Type} (note : γ → σ → ℕ → ι → (c : C) → A c → σ → γ) :
    σ × γ → ℕ → ι → (c : C) → (σ × γ) × A c :=
  fun s who input c =>
    let r := answer s.1 who input c
    ((r.1, note s.2 s.1 who input c r.2 r.1), r.2)

/-- A state and the programs that run in it; one that has returned is idle. -/
structure Pool (σ : Type) (C : Type) (A : C → Type) (ε : Type) where
  state : σ
  threads : ℕ → Prog C A ε Unit

/-- What happens next: a program is started, or one makes its next call. -/
inductive Action (Op ι : Type)
  | start (who : ℕ) (op : Op)
  | step (who : ℕ) (input : ι)

/-- The program the action is about. -/
def Action.who : Action Op ι → ℕ
  | .start who _ => who
  | .step who _ => who

variable (program : Op → Prog C A ε Unit)

/-- One action of the pool: a thread starts an operation or makes its next call; a thread that
cannot leaves the pool as it is. -/
def Pool.step (pool : Pool σ C A ε) : Action Op ι → Pool σ C A ε
  | .start who op =>
    match pool.threads who with
    | .call _ _ => pool
    | _ => { pool with threads := Function.update pool.threads who (program op) }
  | .step who input =>
    match pool.threads who with
    | .call c k =>
      let r := answer pool.state who input c
      ⟨r.1, Function.update pool.threads who (k r.2)⟩
    | _ => pool

/-- The pool with no program running. -/
def Pool.idle (s : σ) : Pool σ C A ε := ⟨s, fun _ => .ret ()⟩

/-- What a start can do: nothing, or make the thread begin with the program of its operation. -/
theorem Pool.step_start_cases (pool : Pool σ C A ε) (who : ℕ) (op : Op) :
    pool.step answer program (.start who op) = pool ∨
      (pool.threads who).next? = none ∧
        pool.step answer program (.start who op)
          = { pool with threads := Function.update pool.threads who (program op) } := by
  rw [Pool.step]
  cases hthread : pool.threads who with
  | ret a => exact .inr ⟨rfl, rfl⟩
  | fail e => exact .inr ⟨rfl, rfl⟩
  | call c k => exact .inl rfl

/-- What a step can do: nothing, or answer the next call of the thread. -/
theorem Pool.step_step_cases (pool : Pool σ C A ε) (who : ℕ) (input : ι) :
    (pool.threads who).next? = none ∧ pool.step answer program (.step who input) = pool ∨
      ∃ c k, pool.threads who = .call c k ∧
        pool.step answer program (.step who input) =
          ⟨(answer pool.state who input c).1,
            Function.update pool.threads who (k (answer pool.state who input c).2)⟩ := by
  rw [Pool.step]
  cases hthread : pool.threads who with
  | ret a => exact .inl ⟨rfl, rfl⟩
  | fail e => exact .inl ⟨rfl, rfl⟩
  | call c k => exact .inr ⟨c, k, rfl, rfl⟩

variable {answer program} {pool : Pool σ C A ε}

/-- An action leaves the other programs as they are. -/
theorem Pool.step_threads_of_ne {a : Action Op ι} {j : ℕ} (hj : j ≠ a.who) :
    (pool.step answer program a).threads j = pool.threads j := by
  cases a with
  | start who op =>
    rcases Pool.step_start_cases answer program pool who op with h | ⟨-, h⟩
    · rw [h]
    · rw [h]
      exact Function.update_of_ne hj _ _
  | step who input =>
    rcases Pool.step_step_cases answer program pool who input with
      ⟨-, h⟩ | ⟨c, k, -, h⟩
    · rw [h]
    · rw [h]
      exact Function.update_of_ne hj _ _

/-- Actions of other programs leave a program as it is. -/
theorem Pool.foldl_threads_of_ne {as : List (Action Op ι)} {j : ℕ} (h : ∀ a ∈ as, j ≠ a.who) :
    (as.foldl (Pool.step answer program) pool).threads j = pool.threads j := by
  induction as generalizing pool with
  | nil => rfl
  | cons a as ih =>
    rw [List.foldl_cons, ih fun b hb => h b (List.mem_cons_of_mem _ hb)]
    exact Pool.step_threads_of_ne (h a List.mem_cons_self)

/-- When one program alone has run and returned, nothing is running. -/
theorem Pool.next?_eq_none_of_alone {as : List (Action Op ι)} {s : σ} {i : ℕ}
    (h : ∀ a ∈ as, a.who = i)
    (hi : ((as.foldl (Pool.step answer program) (Pool.idle s)).threads i).next? = none)
    (who : ℕ) :
    ((as.foldl (Pool.step answer program) (Pool.idle s)).threads who).next? = none := by
  by_cases hwho : who = i
  · rw [hwho]
    exact hi
  · rw [Pool.foldl_threads_of_ne fun a ha => h a ha ▸ hwho]
    rfl

/-- **What an action keeps.**  `I` speaks of the state, `T` of a program's rest in a state.  A
program that starts needs `T` where another has returned, and a call has to keep both, for its own
program and for all others. -/
theorem Pool.keeps {I : σ → Prop} {T : σ → ℕ → Prog C A ε Unit → Prop} {a : Action Op ι}
    (hstart : ∀ who op, a = .start who op → I pool.state → (pool.threads who).next? = none →
      T pool.state who (pool.threads who) → T pool.state who (program op))
    (hstep : ∀ who input c k, a = .step who input → I pool.state → pool.threads who = .call c k →
      T pool.state who (.call c k) →
      I (answer pool.state who input c).1 ∧
        T (answer pool.state who input c).1 who (k (answer pool.state who input c).2) ∧
        ∀ j p, j ≠ who → T pool.state j p → T (answer pool.state who input c).1 j p)
    (h : I pool.state ∧ ∀ who, T pool.state who (pool.threads who)) :
    I (pool.step answer program a).state ∧
      ∀ who, T (pool.step answer program a).state who
        ((pool.step answer program a).threads who) := by
  obtain ⟨hs, ht⟩ := h
  cases a with
  | start who op =>
    rcases Pool.step_start_cases answer program pool who op with heq | ⟨hnext, heq⟩
    · rw [heq]
      exact ⟨hs, ht⟩
    · rw [heq]
      refine ⟨hs, fun j => ?_⟩
      by_cases hj : j = who
      · subst hj
        simpa using hstart j op rfl hs hnext (ht j)
      · simpa [Function.update_of_ne hj] using ht j
  | step who input =>
    rcases Pool.step_step_cases answer program pool who input with
      ⟨-, heq⟩ | ⟨c, k, hthread, heq⟩
    · rw [heq]
      exact ⟨hs, ht⟩
    · rw [heq]
      rcases hstep who input c k rfl hs hthread (hthread ▸ ht who) with ⟨hs', hown, hothers⟩
      refine ⟨hs', fun j => ?_⟩
      -- the mover has its new rest, the others have what the call left them
      by_cases hj : j = who
      · subst hj
        simpa using hown
      · simpa [Function.update_of_ne hj] using hothers j _ hj (ht j)

/-- **The invariant rule for pools**, with `I` and `T` as in `Pool.keeps`. -/
theorem Pool.invariant {allowed : Pool σ C A ε → Action Op ι → Prop} {init : σ}
    {I : σ → Prop} {T : σ → ℕ → Prog C A ε Unit → Prop}
    (hI : I init) (hidle : ∀ s who, T s who (.ret ()))
    (hstart : ∀ pool who op, I pool.state → allowed pool (.start who op) →
      T pool.state who (program op))
    (hstep : ∀ pool who input c k, I pool.state → pool.threads who = .call c k →
      T pool.state who (.call c k) → allowed pool (.step who input) →
      I (answer pool.state who input c).1 ∧
        T (answer pool.state who input c).1 who (k (answer pool.state who input c).2) ∧
        ∀ j p, j ≠ who → T pool.state j p → T (answer pool.state who input c).1 j p)
    (h : Reach (Pool.step answer program) allowed (Pool.idle init) pool) :
    I pool.state ∧ ∀ who, T pool.state who (pool.threads who) := by
  let J (pool : Pool σ C A ε) := I pool.state ∧ ∀ who, T pool.state who (pool.threads who)
  have hinit : J (Pool.idle init) := ⟨hI, fun who => hidle init who⟩
  refine h.invariant hinit fun pool a hpool hallowed => Pool.keeps ?_ ?_ hpool
  · rintro who op rfl hs - -
    exact hstart pool who op hs hallowed
  · rintro who input c k rfl hs hthread ht
    exact hstep pool who input c k hs hthread ht hallowed

/-! ### Calls that fail -/

/-- A note of the programs one of whose calls has failed. -/
def noteFailed (failed : (c : C) → A c → Bool) (noted : ℕ → Bool) (_ : σ) (who : ℕ) (_ : ι)
    (c : C) (a : A c) (_ : σ) : ℕ → Bool :=
  if failed c a then Function.update noted who true else noted

/-- **A program that only fails when a call does** has failed exactly if one of its calls
has. -/
theorem Pool.fail_iff_noted {failed : (c : C) → A c → Bool}
    {threads : ℕ → Prog C A ε Unit} {s : σ} {pool : Pool (σ × (ℕ → Bool)) C A ε}
    (hthreads : ∀ who, (threads who).FailsOnly failed)
    (h : Reach (Pool.step (observed answer (noteFailed (ι := ι) failed)) fun op : Empty => op.elim)
      (fun _ _ => True) ⟨(s, fun _ => false), threads⟩ pool) (who : ℕ) :
    if pool.state.2 who then ∃ e, pool.threads who = .fail e
    else (pool.threads who).FailsOnly failed := by
  let J (pool : Pool (σ × (ℕ → Bool)) C A ε) := ∀ who,
    if pool.state.2 who then ∃ e, pool.threads who = .fail e
    else (pool.threads who).FailsOnly failed
  have hinit : J ⟨(s, fun _ => false), threads⟩ := hthreads
  refine h.invariant hinit ?_ who
  rintro pool (⟨mover, op⟩ | ⟨mover, input⟩) hpool -
  · exact op.elim
  · rcases Pool.step_step_cases (observed answer (noteFailed failed)) (fun op : Empty => op.elim)
      pool mover input with ⟨-, heq⟩ | ⟨c, k, hthread, heq⟩
    · rw [heq]
      exact hpool
    rw [heq]
    intro who
    have hmover := hpool mover
    rw [hthread] at hmover
    -- a program that has failed makes no call any more
    have hunnoted : pool.state.2 mover = false := by
      cases hnoted : pool.state.2 mover with
      | false => rfl
      | true =>
        rw [if_pos hnoted] at hmover
        obtain ⟨e, he⟩ := hmover
        cases he
    rw [hunnoted] at hmover
    by_cases hwho : who = mover
    · -- the program that made the call
      subst hwho
      have hcall := hmover (answer pool.state.1 who input c).2
      simp only [observed, noteFailed, Function.update_self]
      split at hcall
      · next hfailed => simpa [hfailed] using hcall
      · next hfailed => simpa [hfailed, hunnoted] using hcall
    · have hother := hpool who
      simp only [observed, noteFailed, Function.update_of_ne hwho]
      split
      · simpa [Function.update_of_ne hwho] using hother
      · exact hother

end Effect
