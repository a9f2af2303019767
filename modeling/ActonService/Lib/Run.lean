import Mathlib.Data.List.Basic

/-!
# Runs of a state machine

A state machine is a function `step` that says what an action does to a state.  A
run takes actions one after the other, each of them allowed in the state it is
taken in.

## Main definitions

* `Reach step allowed init s` — `s` is reached by a run from `init`.
* `Allowed step allowed s as` — the actions `as` make a run from `s`.
* `trace step emit s as` — what is seen of a run from outside.

## Main results

* `Reach.invariant` — **what holds at the start and is kept by every allowed action
  holds in every state reached.**
* `foldl_history` — the same for what a state has to do with the actions that led to it.
* `foldlM_history` — the same for a machine that may get stuck: it does not.
* `simulates`, `Allowed.simulates` — **what is seen of a run is a run of the abstract machine.**
-/

namespace Run

variable {σ α : Type*}

/-- The states reached from `init` by actions allowed where they are taken. -/
inductive Reach (step : σ → α → σ) (allowed : σ → α → Prop) (init : σ) : σ → Prop
  | start : Reach step allowed init init
  | act {s : σ} (a : α) (hs : Reach step allowed init s) (ha : allowed s a) :
      Reach step allowed init (step s a)

variable {step : σ → α → σ} {allowed : σ → α → Prop} {init s : σ}

/-- **Invariants hold in every state reached.** -/
theorem Reach.invariant {I : σ → Prop} (h : Reach step allowed init s) (hinit : I init)
    (hstep : ∀ s a, I s → allowed s a → I (step s a)) : I s := by
  induction h with
  | start => exact hinit
  | act a _ ha ih => exact hstep _ a ih ha

/-- The actions are allowed one after the other. -/
def Allowed (step : σ → α → σ) (allowed : σ → α → Prop) : σ → List α → Prop
  | _, [] => True
  | s, a :: as => allowed s a ∧ Allowed step allowed (step s a) as

instance decidableAllowed [∀ s a, Decidable (allowed s a)] :
    ∀ s as, Decidable (Allowed step allowed s as)
  | _, [] => .isTrue trivial
  | s, a :: as =>
    have := decidableAllowed (step s a) as
    inferInstanceAs (Decidable (allowed s a ∧ Allowed step allowed (step s a) as))

/-- Actions are allowed one after the other if something they keep allows each of them. -/
theorem Allowed.of_invariant {J : σ → Prop} {as : List α} (hs : J s)
    (h : ∀ s, ∀ a ∈ as, J s → allowed s a ∧ J (step s a)) : Allowed step allowed s as := by
  induction as generalizing s with
  | nil => trivial
  | cons a as ih =>
    have hfirst := h s a List.mem_cons_self hs
    exact ⟨hfirst.1, ih hfirst.2 fun s b hb => h s b (List.mem_cons_of_mem _ hb)⟩

/-- A run stays a run where more is allowed. -/
theorem Allowed.mono {allowed' : σ → α → Prop} {as : List α} (has : Allowed step allowed s as)
    (h : ∀ s, ∀ a ∈ as, allowed s a → allowed' s a) : Allowed step allowed' s as := by
  induction as generalizing s with
  | nil => trivial
  | cons a as ih =>
    exact ⟨h s a List.mem_cons_self has.1,
      ih has.2 fun s b hb => h s b (List.mem_cons_of_mem _ hb)⟩

/-- Actions allowed in every state are allowed one after the other. -/
theorem Allowed.of_forall {as : List α} (h : ∀ a ∈ as, ∀ s, allowed s a) (s : σ) :
    Allowed step allowed s as :=
  Allowed.of_invariant (J := fun _ => True) trivial fun s a ha _ => ⟨h a ha s, trivial⟩

/-- Actions are allowed one after the other if each is allowed after those before it. -/
theorem Allowed.of_take {as : List α}
    (h : ∀ n < as.length, ∀ a, allowed ((as.take n).foldl step s) a) :
    Allowed step allowed s as := by
  induction as generalizing s with
  | nil => trivial
  | cons a as ih =>
    refine ⟨h 0 (Nat.zero_lt_succ _) a, ih fun n hn b => ?_⟩
    exact h (n + 1) (Nat.succ_lt_succ hn) b

/-- A run is allowed if its first part is, and its second part where the first has led. -/
theorem allowed_append {as bs : List α} : Allowed step allowed s (as ++ bs) ↔
    Allowed step allowed s as ∧ Allowed step allowed (as.foldl step s) bs := by
  induction as generalizing s with
  | nil => exact (and_iff_right trivial).symm
  | cons a as ih => exact (and_congr_right fun _ => ih).trans and_assoc.symm

/-- **A run is allowed exactly if a property holds all along it**, where an action is allowed
exactly if it keeps the property. -/
theorem allowed_iff_forall_take {J P : σ → Prop} (hJ : ∀ s a, J s → J (step s a))
    (hstep : ∀ s a, J s → P s → (allowed s a ↔ P (step s a))) (hs : J s) (hP : P s)
    {as : List α} : Allowed step allowed s as ↔ ∀ n, P ((as.take n).foldl step s) := by
  induction as generalizing s with
  | nil => exact ⟨fun _ n => by simpa using hP, fun _ => trivial⟩
  | cons a as ih =>
    constructor
    · rintro ⟨ha, has⟩ n
      cases n with
      | zero => exact hP
      | succ n => exact (ih (hJ s a hs) ((hstep s a hs hP).mp ha)).mp has n
    · intro h
      have hnext : P (step s a) := by
        simpa using h 1
      exact ⟨(hstep s a hs hP).mpr hnext, (ih (hJ s a hs) hnext).mpr fun n => h (n + 1)⟩

/-- A list of actions allowed one after the other is a run. -/
theorem Reach.foldl (h : Reach step allowed init s) {as : List α}
    (has : Allowed step allowed s as) : Reach step allowed init (as.foldl step s) := by
  induction as generalizing s with
  | nil => exact h
  | cons a as ih => exact ih (h.act a has.1) has.2

/-- **What holds of a state and the actions that led to it** holds at the end of every run,
if every allowed action keeps it. -/
theorem foldl_history {I : List α → σ → Prop} {ok : α → Prop}
    (hstep : ∀ past s a, I past s → ok a → I (past ++ [a]) (step s a)) {past : List α} {s : σ}
    (h : I past s) {as : List α} (has : ∀ a ∈ as, ok a) : I (past ++ as) (as.foldl step s) := by
  induction as generalizing past s with
  | nil => simpa using h
  | cons a as ih =>
    have hnext := hstep past s a h (has a List.mem_cons_self)
    have hrest := ih hnext fun b hb => has b (List.mem_cons_of_mem _ hb)
    rwa [List.append_assoc, List.singleton_append] at hrest

/-- What holds of every entry of a log and the entries before it holds of a longer log, if it
holds of the new entry. -/
theorem forall_split_concat {P : List α → α → Prop} {log : List α} {a : α}
    (h : ∀ pre b post, log = pre ++ b :: post → P pre b) (ha : P log a) :
    ∀ pre b post, log ++ [a] = pre ++ b :: post → P pre b := by
  intro pre b post heq
  rcases List.eq_nil_or_concat post with rfl | ⟨post', last, rfl⟩
  · rcases List.append_inj' heq rfl with ⟨rfl, hab⟩
    rw [← List.singleton_injective hab]
    exact ha
  · rw [List.concat_eq_append, ← List.cons_append, ← List.append_assoc] at heq
    exact h pre b post' (List.append_inj' heq rfl).1

/-- **A machine that never gets stuck.**  If every step from what holds of a state and its
past is possible and keeps it, the whole run is possible and it holds at the end. -/
theorem foldlM_history {step : σ → α → Option σ} {I : List α → σ → Prop}
    {ok : List α → α → Prop}
    (hstep : ∀ past s a, I past s → ok past a → ∃ s', step s a = some s' ∧ I (past ++ [a]) s')
    {past : List α} {s : σ} (h : I past s) {as : List α}
    (has : ∀ pre a post, as = pre ++ a :: post → ok (past ++ pre) a) :
    ∃ s', as.foldlM step s = some s' ∧ I (past ++ as) s' := by
  induction as generalizing past s with
  | nil => exact ⟨s, rfl, by simpa using h⟩
  | cons a as ih =>
    have hok : ok past a := by simpa using has [] a as rfl
    rcases hstep past s a h hok with ⟨s₁, hs₁, hI₁⟩
    have hrest : ∀ pre b post, as = pre ++ b :: post → ok (past ++ [a] ++ pre) b := by
      intro pre b post heq
      simpa using has (a :: pre) b post (by simp [heq])
    rcases ih hI₁ hrest with ⟨s', hs', hI'⟩
    refine ⟨s', ?_, by simpa using hI'⟩
    simp [List.foldlM_cons, hs₁, hs']

/-! ### Simulation -/

section Simulation

variable {τ β : Type*} {emit : σ → α → List β} {step' : τ → β → τ} {allowed' : τ → β → Prop}
  {I : σ → Prop}

/-- What is seen of a run from outside, action by action. -/
def trace (step : σ → α → σ) (emit : σ → α → List β) : σ → List α → List β
  | _, [] => []
  | s, a :: as => emit s a ++ trace step emit (step s a) as

/-- **Simulation of allowed runs.**  If every allowed step keeps the invariant and what is seen of
it is a run of the abstract machine, from the abstract state before it to the one after it, the
same is true of an allowed run as a whole. -/
theorem Allowed.simulates (abs : σ → τ)
    (hstep : ∀ s a, I s → allowed s a → I (step s a) ∧
      Allowed step' allowed' (abs s) (emit s a) ∧
      abs (step s a) = (emit s a).foldl step' (abs s))
    (hs : I s) {as : List α} (has : Allowed step allowed s as) :
    Allowed step' allowed' (abs s) (trace step emit s as) ∧
      abs (as.foldl step s) = (trace step emit s as).foldl step' (abs s) := by
  induction as generalizing s with
  | nil => exact ⟨trivial, rfl⟩
  | cons a as ih =>
    obtain ⟨hnext, hrun, habs⟩ := hstep s a hs has.1
    obtain ⟨hrest, hend⟩ := ih hnext has.2
    rw [habs] at hrest hend
    refine ⟨allowed_append.mpr ⟨hrun, hrest⟩, ?_⟩
    rw [trace, List.foldl_append]
    exact hend

/-- **Simulation.**  If every step keeps the invariant and what is seen of it is a run of the
abstract machine, from the abstract state before it to the one after it, the same is true of the
run as a whole. -/
theorem simulates (abs : σ → τ) (hinv : ∀ s a, I s → I (step s a))
    (hallowed : ∀ s a, I s → Allowed step' allowed' (abs s) (emit s a))
    (habs : ∀ s a, I s → abs (step s a) = (emit s a).foldl step' (abs s)) (hs : I s)
    (as : List α) :
    Allowed step' allowed' (abs s) (trace step emit s as) ∧
      abs (as.foldl step s) = (trace step emit s as).foldl step' (abs s) :=
  Allowed.simulates abs
    (fun s a hI (_ : True) => ⟨hinv s a hI, hallowed s a hI, habs s a hI⟩) hs
    (Allowed.of_forall (fun _ _ _ => trivial) s)

end Simulation

end Run
