import ActonService.Lib.Effect
import Mathlib.Data.Finset.Card

/-!
# Traces of pools

A world that keeps the trace of every call it answers.  What a program's calls keep to depends on
what the program was answered before; if it depends on the last answer only, it can be read off the
trace.

## Main definitions

* `Line`, `traced` — a call that was answered, and the world that keeps them.
* `replay` — the state a trace leads to.
* `last?` — what a program was answered last.
* `Prog.Heeds` — every call of the program is one its last answer allows.

## Main results

* `genuine_of_reach` — **every line of a trace is what the world answers in the state that the
  lines before lead to.**
* `allowed_of_heeds` — **every call in a trace is one that the last answer to its program allows.**
* `exists_of_last?` — where the last answer stands in the trace.
* `countP_le_of_last?` — calls that are each made on an answer of their own.
-/

namespace Effect

open Run

variable {σ ι C Op ε α β : Type} {A : C → Type}

/-- A call that was answered. -/
structure Line (σ ι C : Type) (A : C → Type) where
  who : ℕ
  /-- The state it was made in. -/
  before : σ
  input : ι
  call : C
  answer : A call

/-- The world with a trace of the calls it has answered. -/
def traced (answer : σ → ℕ → ι → (c : C) → σ × A c) :
    σ × List (Line σ ι C A) → ℕ → ι → (c : C) → (σ × List (Line σ ι C A)) × A c :=
  observed answer fun log s who input c a _ => log ++ [⟨who, s, input, c, a⟩]

variable (answer : σ → ℕ → ι → (c : C) → σ × A c)

/-- The state after the calls of a trace. -/
def replay (init : σ) (log : List (Line σ ι C A)) : σ :=
  log.foldl (fun s l => (answer s l.who l.input l.call).1) init

@[simp] theorem replay_nil (init : σ) : replay answer init ([] : List (Line σ ι C A)) = init := rfl

theorem replay_concat (init : σ) (log : List (Line σ ι C A)) (l : Line σ ι C A) :
    replay answer init (log ++ [l])
      = (answer (replay answer init log) l.who l.input l.call).1 := by
  rw [replay, List.foldl_append]
  rfl

/-- The line is what the world answers after the lines before. -/
structure Genuine (init : σ) (before : List (Line σ ι C A)) (l : Line σ ι C A) : Prop where
  before_eq : l.before = replay answer init before
  answer_eq : l.answer = (answer l.before l.who l.input l.call).2

/-! ### The last answer -/

/-- The call a program made last, and its answer. -/
def last? (who : ℕ) (log : List (Line σ ι C A)) : Option ((c : C) × A c) :=
  ((log.filter fun l => decide (l.who = who)).getLast?).map fun l => ⟨l.call, l.answer⟩

@[simp] theorem last?_nil (who : ℕ) : last? who ([] : List (Line σ ι C A)) = none := rfl

@[simp] theorem last?_concat_self (log : List (Line σ ι C A)) (l : Line σ ι C A) :
    last? l.who (log ++ [l]) = some ⟨l.call, l.answer⟩ := by
  simp [last?]

theorem last?_concat_of_ne {who : ℕ} (log : List (Line σ ι C A)) {l : Line σ ι C A}
    (h : who ≠ l.who) : last? who (log ++ [l]) = last? who log := by
  have hne : ¬ l.who = who := fun heq => h heq.symm
  simp [last?, hne]

/-- The last answer stands in a line behind which the program makes no call. -/
theorem exists_of_last? {who : ℕ} {log : List (Line σ ι C A)} {x : (c : C) × A c}
    (h : last? who log = some x) :
    ∃ pre l post, log = pre ++ l :: post ∧ l.who = who ∧ (⟨l.call, l.answer⟩ : (c : C) × A c) = x ∧
      ∀ l' ∈ post, l'.who ≠ who := by
  induction log using List.reverseRecOn with
  | nil => cases h
  | append_singleton log l ih =>
    by_cases hwho : who = l.who
    · subst hwho
      rw [last?_concat_self] at h
      exact ⟨log, l, [], rfl, rfl, Option.some.inj h, by simp⟩
    · rw [last?_concat_of_ne log hwho] at h
      obtain ⟨pre, l₁, post, rfl, hl₁, hx, hpost⟩ := ih h
      refine ⟨pre, l₁, post ++ [l], by simp, hl₁, hx, fun l' hl' => ?_⟩
      rcases List.mem_append.mp hl' with hl' | hl'
      · exact hpost l' hl'
      · rw [List.mem_singleton.mp hl']
        exact Ne.symm hwho

/-- What stands last of some kind stands behind an entry if there is one of the kind behind it. -/
theorem eq_append_of_between {α : Type} {P : α → Prop} {pre mid before between : List α} {a b : α}
    (heq : pre ++ a :: mid = before ++ b :: between) (hmid : ∃ c ∈ mid, P c)
    (hbetween : ∀ c ∈ between, ¬ P c) : ∃ rest, before = pre ++ a :: rest := by
  obtain ⟨c, hc, hP⟩ := hmid
  rcases List.append_eq_append_iff.mp heq with ⟨rest, rfl, hrest⟩ | ⟨rest, rfl, hrest⟩
  · cases rest with
    | nil =>
      cases hrest
      exact (hbetween c hc hP).elim
    | cons a' rest =>
      cases hrest
      exact ⟨rest, rfl⟩
  · -- the entry would stand behind all of the kind
    cases rest with
    | nil =>
      cases hrest
      exact (hbetween c hc hP).elim
    | cons b' rest =>
      cases hrest
      exact (hbetween c (by simp [hc]) hP).elim

/-- **Calls that are each made on an answer of their own** are no more than those answers: if what
comes before every call that is `f` is one that is `g`, there are no more of the one kind than of
the other. -/
theorem countP_le_of_last? {f g : (c : C) × A c → Bool} (hfg : ∀ x, f x = true → g x = false)
    {log : List (Line σ ι C A)}
    (h : ∀ pre l post, log = pre ++ l :: post → f ⟨l.call, l.answer⟩ = true →
      ∃ x, last? l.who pre = some x ∧ g x = true) :
    log.countP (fun l => f ⟨l.call, l.answer⟩) ≤ log.countP fun l => g ⟨l.call, l.answer⟩ := by
  -- the programs whose last answer is one that no call was made on yet
  let out (log : List (Line σ ι C A)) (who : ℕ) : Prop := ∃ x, last? who log = some x ∧ g x = true
  suffices hcount : ∃ waiting : Finset ℕ, (∀ who, who ∈ waiting ↔ out log who) ∧
      log.countP (fun l => f ⟨l.call, l.answer⟩) + waiting.card
        ≤ log.countP fun l => g ⟨l.call, l.answer⟩ by
    obtain ⟨waiting, -, hle⟩ := hcount
    omega
  induction log using List.reverseRecOn with
  | nil => exact ⟨∅, by simp [out], by simp⟩
  | append_singleton log l ih =>
    obtain ⟨waiting, hwaiting, hle⟩ := ih fun pre l' post heq =>
      h pre l' (post ++ [l]) (by simp [heq])
    have hself : out (log ++ [l]) l.who ↔ g ⟨l.call, l.answer⟩ = true := by
      constructor
      · rintro ⟨x, hx, hg⟩
        rw [last?_concat_self] at hx
        cases hx
        exact hg
      · exact fun hg => ⟨_, last?_concat_self log l, hg⟩
    have hother : ∀ who, who ≠ l.who → (out (log ++ [l]) who ↔ out log who) := by
      intro who hwho
      simp only [out, last?_concat_of_ne log hwho]
    simp only [List.countP_append, List.countP_singleton]
    cases hg : g ⟨l.call, l.answer⟩ with
    | true =>
      have hf : f ⟨l.call, l.answer⟩ = false := by
        rw [Bool.eq_false_iff]
        intro hf
        rw [hfg _ hf] at hg
        cases hg
      refine ⟨insert l.who waiting, fun who => ?_, ?_⟩
      · rw [Finset.mem_insert]
        by_cases hwho : who = l.who
        · rw [hwho]
          exact iff_of_true (.inl rfl) (hself.mpr hg)
        · rw [hother who hwho, ← hwaiting who]
          exact or_iff_right hwho
      · have hcard := Finset.card_insert_le l.who waiting
        simp only [hf, Bool.false_eq_true, if_false, if_true]
        omega
    | false =>
      refine ⟨waiting.erase l.who, fun who => ?_, ?_⟩
      · rw [Finset.mem_erase]
        by_cases hwho : who = l.who
        · rw [hwho]
          refine iff_of_false (fun hmem => hmem.1 rfl) fun hout => ?_
          rw [hself, hg] at hout
          cases hout
        · rw [hother who hwho, ← hwaiting who]
          exact and_iff_right hwho
      · simp only [Bool.false_eq_true, if_false]
        cases hf : f ⟨l.call, l.answer⟩ with
        | false =>
          have hcard : (waiting.erase l.who).card ≤ waiting.card := Finset.card_erase_le
          simp only [Bool.false_eq_true, if_false]
          omega
        | true =>
          -- the call was made on an answer that waited for it
          have hmem : l.who ∈ waiting := (hwaiting l.who).mpr (h log l [] rfl hf)
          have hcard := Finset.card_erase_add_one hmem
          simp only [if_true]
          omega

/-! ### Programs that heed their last answer -/

/-- Every call of the program is allowed after the last answer, to begin with `last`. -/
def Prog.Heeds (ok : Option ((c : C) × A c) → C → Prop) (last : Option ((c : C) × A c))
    (p : Prog C A ε α) : Prop :=
  p.Follows ok (fun _ c a => some ⟨c, a⟩) last

variable {ok : Option ((c : C) × A c) → C → Prop} {last : Option ((c : C) × A c)}

variable {answer} {program : Op → Prog C A ε Unit} {init : σ}
  {pool : Pool (σ × List (Line σ ι C A)) C A ε}
  {allowed : Pool (σ × List (Line σ ι C A)) C A ε → Action Op ι → Prop}

/-- What is known of a traced pool: every line is genuine and allowed, and every program heeds its
last answer. -/
theorem traced_invariant
    (hprogram : ∀ pool who op last, allowed pool (.start who op) → (program op).Heeds ok last)
    (h : Reach (Pool.step (traced answer) program) allowed (Pool.idle (init, [])) pool) :
    (pool.state.1 = replay answer init pool.state.2 ∧
      ∀ pre l post, pool.state.2 = pre ++ l :: post →
        Genuine answer init pre l ∧ ok (last? l.who pre) l.call) ∧
      ∀ who, (pool.threads who).Heeds ok (last? who pool.state.2) := by
  refine Pool.invariant (I := fun s => s.1 = replay answer init s.2 ∧
      ∀ pre l post, s.2 = pre ++ l :: post →
        Genuine answer init pre l ∧ ok (last? l.who pre) l.call)
    (T := fun s who p => p.Heeds ok (last? who s.2)) ?_ ?_ ?_ ?_ h
  · exact ⟨rfl, fun pre l post heq => by simp at heq⟩
  · exact fun s who => trivial
  · exact fun pool who op _ hallowed => hprogram pool who op _ hallowed
  · rintro pool who input c k ⟨hstate, hlog⟩ - ⟨hcall, hrest⟩ -
    refine ⟨⟨?_, Run.forall_split_concat hlog ⟨⟨hstate, rfl⟩, hcall⟩⟩, ?_, fun j p hj hp => ?_⟩
    · simp only [traced, observed, replay_concat, ← hstate]
    · have hlast : last? who (traced answer pool.state who input c).1.2
          = some ⟨c, (traced answer pool.state who input c).2⟩ :=
        last?_concat_self pool.state.2 ⟨who, pool.state.1, input, c, _⟩
      rw [hlast]
      exact hrest _
    · have hlast : last? j (traced answer pool.state who input c).1.2 = last? j pool.state.2 :=
        last?_concat_of_ne pool.state.2 hj
      rw [hlast]
      exact hp

/-- **Every line of a trace is genuine.** -/
theorem genuine_of_reach
    (h : Reach (Pool.step (traced answer) program) allowed (Pool.idle (init, [])) pool)
    {pre post : List (Line σ ι C A)} {l : Line σ ι C A} (heq : pool.state.2 = pre ++ l :: post) :
    Genuine answer init pre l := by
  have hfollows : ∀ (op : Op) last, (program op).Heeds (fun _ _ => True) last := by
    intro op
    induction program op with
    | ret a => exact fun _ => trivial
    | fail e => exact fun _ => trivial
    | call c k ih => exact fun _ => ⟨trivial, fun a => ih a _⟩
  have hinv := traced_invariant (fun _ _ op last _ => hfollows op last) h
  exact (hinv.1.2 pre l post heq).1

/-- **Every call in a trace is one that the last answer to its program allows.** -/
theorem allowed_of_heeds
    (hprogram : ∀ pool who op last, allowed pool (.start who op) → (program op).Heeds ok last)
    (h : Reach (Pool.step (traced answer) program) allowed (Pool.idle (init, [])) pool)
    {pre post : List (Line σ ι C A)} {l : Line σ ι C A} (heq : pool.state.2 = pre ++ l :: post) :
    ok (last? l.who pre) l.call :=
  ((traced_invariant hprogram h).1.2 pre l post heq).2

end Effect
