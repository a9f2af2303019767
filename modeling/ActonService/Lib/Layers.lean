import Mathlib.Data.List.Basic
import Mathlib.Data.List.Induction

/-!
# Services in layers

A service answers requests.  A layer around it answers a request itself, or passes one on and
treats what comes back.  A call may also end in a panic.  What the layers record on the way is
kept as a trace, and so is the request that reached the innermost service.

## Main definitions

* `Service`, `Layer`, `Layer.wrap` — services, layers, and a service with a layer around it.
* `stack` — a service with layers added one after the other: **the layer added last is the first
  to see a request.**
* `passing` — the request that gets through all of them.
* `Filter`, `catchPanic` — layers that record nothing.
* `Silent`, `KeepsPanic` — layers that record nothing of a kind, and that do not hide a panic.

## Main results

* `handled_stack` — the innermost service gets what gets through the layers.
* `passing_invariant` — what every layer keeps when it passes a request on holds at the end.
* `filter_trace_stack` — what layers that record nothing of a kind add to a trace of it.
* `mem_trace_stack` — what is recorded behind the layers is recorded.
* `panicked_stack` — a panic behind layers that do not hide it.
-/

namespace Layers

variable {α ρ ε : Type}

/-- How a call ends. -/
inductive Outcome (ρ : Type)
  | returned (response : ρ)
  | panicked
  deriving DecidableEq, Repr

/-- What a layer does with a request. -/
inductive Handling (α ρ ε : Type)
  /-- It records something and ends the call itself. -/
  | answer (trace : List ε) (outcome : Outcome ρ)
  /-- It records something, passes a request on and treats what comes back. -/
  | pass (trace : List ε) (request : α) (finish : Outcome ρ → List ε × Outcome ρ)

abbrev Layer (α ρ ε : Type) := α → Handling α ρ ε

/-- What becomes of a request: the events that were logged, how the call ends, and the request that
has reached the service. -/
structure Served (α ρ ε : Type) where
  trace : List ε
  outcome : Outcome ρ
  /-- The request the innermost service got, if it got one. -/
  handled : Option α

abbrev Service (α ρ ε : Type) := α → Served α ρ ε

/-- What comes back is handed on as it is. -/
def unchanged (outcome : Outcome ρ) : List ε × Outcome ρ := ([], outcome)

/-- A layer around a service: it answers on its own, or passes the request on and finishes the
response. -/
def Layer.wrap (l : Layer α ρ ε) (inner : Service α ρ ε) : Service α ρ ε := fun a =>
  match l a with
  | .answer trace outcome => ⟨trace, outcome, none⟩
  | .pass trace a' finish =>
    let s := inner a'
    ⟨trace ++ s.trace ++ (finish s.outcome).1, (finish s.outcome).2, s.handled⟩

/-- The request a layer passes on. -/
def Layer.pass? (l : Layer α ρ ε) (a : α) : Option α :=
  match l a with
  | .answer _ _ => none
  | .pass _ a' _ => some a'

/-- Layers added to a service one after the other. -/
def stack (layers : List (Layer α ρ ε)) (inner : Service α ρ ε) : Service α ρ ε :=
  layers.foldl (fun service l => l.wrap service) inner

/-- The request that gets through layers added one after the other. -/
def passing (layers : List (Layer α ρ ε)) : α → Option α :=
  layers.foldl (fun next l a => (l.pass? a).bind next) some

/-! ### Adding layers -/

@[simp] theorem stack_nil (inner : Service α ρ ε) : stack [] inner = inner := rfl

theorem stack_append (layers layers' : List (Layer α ρ ε)) (inner : Service α ρ ε) :
    stack (layers ++ layers') inner = stack layers' (stack layers inner) :=
  List.foldl_append

@[simp] theorem stack_singleton (l : Layer α ρ ε) (inner : Service α ρ ε) :
    stack [l] inner = l.wrap inner := rfl

@[simp] theorem passing_nil (a : α) : passing ([] : List (Layer α ρ ε)) a = some a := rfl

@[simp] theorem passing_singleton (l : Layer α ρ ε) (a : α) : passing [l] a = l.pass? a := by
  show (l.pass? a).bind some = l.pass? a
  cases l.pass? a <;> rfl

theorem passing_foldl (layers : List (Layer α ρ ε)) (next : α → Option α) (a : α) :
    layers.foldl (fun next l a => (l.pass? a).bind next) next a
      = (passing layers a).bind next := by
  induction layers generalizing next with
  | nil => rfl
  | cons l layers ih =>
    rw [passing, List.foldl_cons, List.foldl_cons, ih, ih]
    cases passing layers a with
    | none => rfl
    | some a' => cases hpass : l.pass? a' <;> simp [hpass]

/-- A request gets through the layers added later first. -/
theorem passing_append (layers layers' : List (Layer α ρ ε)) (a : α) :
    passing (layers ++ layers') a = (passing layers' a).bind (passing layers) := by
  rw [passing, List.foldl_append, passing_foldl]
  rfl

/-- Requests pass on one after the other. -/
theorem passing_concat (layers : List (Layer α ρ ε)) (l : Layer α ρ ε) (a : α) :
    passing (layers ++ [l]) a = (l.pass? a).bind (passing layers) := by
  rw [passing_append, passing_singleton]

/-! ### What reaches the innermost service -/

theorem handled_wrap (l : Layer α ρ ε) (inner : Service α ρ ε) (a : α) :
    (l.wrap inner a).handled = (l.pass? a).bind fun a' => (inner a').handled := by
  rw [Layer.wrap, Layer.pass?]
  cases l a <;> rfl

/-- **The innermost service gets what gets through the layers.** -/
theorem handled_stack (layers : List (Layer α ρ ε)) (inner : Service α ρ ε) (a : α) :
    (stack layers inner a).handled = (passing layers a).bind fun a' => (inner a').handled := by
  induction layers using List.reverseRecOn generalizing a with
  | nil => rfl
  | append_singleton layers l ih =>
    rw [stack_append, stack_singleton, handled_wrap, passing_concat, Option.bind_assoc]
    exact Option.bind_congr fun a' _ => ih a'

/-- **What every layer keeps when it passes a request on** holds of the request that gets
through. -/
theorem passing_invariant {P : α → Prop} {layers : List (Layer α ρ ε)}
    (hkeep : ∀ l ∈ layers, ∀ a a', l.pass? a = some a' → P a → P a') {a a' : α}
    (h : passing layers a = some a') (ha : P a) : P a' := by
  induction layers using List.reverseRecOn generalizing a with
  | nil =>
    rw [passing_nil, Option.some.injEq] at h
    exact h ▸ ha
  | append_singleton layers l ih =>
    rw [passing_concat] at h
    obtain ⟨b, hb, hrest⟩ := Option.bind_eq_some_iff.mp h
    have hPb := hkeep l (by simp) a b hb ha
    exact ih (fun l' hl' => hkeep l' (by simp [hl'])) hrest hPb

/-- **Layers that let everything through** keep what each of them keeps. -/
theorem passing_of_forall {R : α → α → Prop} (hrefl : ∀ a, R a a)
    (htrans : ∀ {a b c}, R a b → R b c → R a c) {layers : List (Layer α ρ ε)}
    (h : ∀ l ∈ layers, ∀ a, ∃ a', l.pass? a = some a' ∧ R a a') (a : α) :
    ∃ a', passing layers a = some a' ∧ R a a' := by
  induction layers using List.reverseRecOn generalizing a with
  | nil => exact ⟨a, passing_nil a, hrefl a⟩
  | append_singleton layers l ih =>
    obtain ⟨b, hb, hab⟩ := h l (by simp) a
    obtain ⟨c, hc, hbc⟩ := ih (fun l' hl' => h l' (by simp [hl'])) b
    exact ⟨c, by rw [passing_concat, hb, Option.bind_some, hc], htrans hab hbc⟩

/-! ### What is recorded -/

/-- A handling that records nothing of a kind. -/
def Handling.Silent (p : ε → Bool) : Handling α ρ ε → Prop
  | .answer trace _ => trace.filter p = []
  | .pass trace _ finish => trace.filter p = [] ∧ ∀ outcome, (finish outcome).1.filter p = []

/-- A layer that records nothing of a kind. -/
def Silent (p : ε → Bool) (l : Layer α ρ ε) : Prop := ∀ a, (l a).Silent p

theorem filter_trace_wrap {p : ε → Bool} {l : Layer α ρ ε} {a : α} (h : (l a).Silent p)
    (inner : Service α ρ ε) :
    (l.wrap inner a).trace.filter p
      = ((l.pass? a).map fun a' => (inner a').trace.filter p).getD [] := by
  rw [Layer.wrap, Layer.pass?]
  cases hla : l a with
  | answer trace outcome =>
    rw [hla] at h
    exact h
  | pass trace a' finish =>
    rw [hla] at h
    simp only [List.filter_append, h.1, h.2, List.nil_append, List.append_nil, Option.map_some,
      Option.getD_some]

/-- **Layers that record nothing of a kind** leave of it what the service behind them records of
the request that gets through. -/
theorem filter_trace_stack {p : ε → Bool} {layers : List (Layer α ρ ε)}
    (hlayers : ∀ l ∈ layers, Silent p l) (inner : Service α ρ ε) (a : α) :
    (stack layers inner a).trace.filter p
      = ((passing layers a).map fun a' => (inner a').trace.filter p).getD [] := by
  induction layers using List.reverseRecOn generalizing a with
  | nil => rfl
  | append_singleton layers l ih =>
    rw [stack_append, stack_singleton, filter_trace_wrap (hlayers l (by simp) a), passing_concat]
    cases l.pass? a with
    | none => rfl
    | some a' => exact ih (fun l' hl' => hlayers l' (by simp [hl'])) a'

/-- What the service behind the layers records of the request that gets through is recorded. -/
theorem mem_trace_stack {layers : List (Layer α ρ ε)} {inner : Service α ρ ε} {a a' : α} {e : ε}
    (h : passing layers a = some a') (he : e ∈ (inner a').trace) :
    e ∈ (stack layers inner a).trace := by
  induction layers using List.reverseRecOn generalizing a with
  | nil =>
    cases h
    exact he
  | append_singleton layers l ih =>
    rw [passing_concat] at h
    obtain ⟨b, hb, hrest⟩ := Option.bind_eq_some_iff.mp h
    have hmem := ih hrest
    rw [stack_append, stack_singleton, Layer.wrap]
    rw [Layer.pass?] at hb
    cases hla : l a with
    | answer trace outcome =>
      rw [hla] at hb
      contradiction
    | pass trace b' finish =>
      rw [hla] at hb
      cases hb
      exact List.mem_append_left _ (List.mem_append_right _ hmem)

/-! ### Panics -/

/-- A handling that neither panics nor hides a panic. -/
def Handling.KeepsPanic : Handling α ρ ε → Prop
  | .answer _ outcome => outcome ≠ .panicked
  | .pass _ _ finish => ∀ outcome, (finish outcome).2 = .panicked ↔ outcome = .panicked

/-- A layer that neither panics nor hides a panic. -/
def KeepsPanic (l : Layer α ρ ε) : Prop := ∀ a, (l a).KeepsPanic

theorem panicked_wrap {l : Layer α ρ ε} (hl : KeepsPanic l) (inner : Service α ρ ε) (a : α) :
    (l.wrap inner a).outcome = .panicked
      ↔ ∃ a', l.pass? a = some a' ∧ (inner a').outcome = .panicked := by
  have h := hl a
  rw [Layer.wrap, Layer.pass?]
  cases hla : l a with
  | answer trace outcome =>
    rw [hla] at h
    constructor
    · intro hpanic
      exact absurd hpanic h
    · rintro ⟨a', ha', -⟩
      contradiction
  | pass trace a' finish =>
    rw [hla] at h
    show (finish (inner a').outcome).2 = .panicked ↔ _
    rw [h]
    constructor
    · intro hpanic
      exact ⟨a', rfl, hpanic⟩
    · rintro ⟨b, hb, hpanic⟩
      cases hb
      exact hpanic

/-- **A panic behind layers that do not hide it.** -/
theorem panicked_stack {layers : List (Layer α ρ ε)} (hlayers : ∀ l ∈ layers, KeepsPanic l)
    (inner : Service α ρ ε) (a : α) :
    (stack layers inner a).outcome = .panicked
      ↔ ∃ a', passing layers a = some a' ∧ (inner a').outcome = .panicked := by
  induction layers using List.reverseRecOn generalizing a with
  | nil => simp
  | append_singleton layers l ih =>
    have hrest := fun a => ih (fun l' hl' => hlayers l' (by simp [hl'])) a
    rw [stack_append, stack_singleton, panicked_wrap (hlayers l (by simp)), passing_concat]
    simp only [hrest, Option.bind_eq_some_iff]
    constructor
    · rintro ⟨b, hb, a', ha', hpanic⟩
      exact ⟨a', ⟨b, hb, ha'⟩, hpanic⟩
    · rintro ⟨a', ⟨b, hb, ha'⟩, hpanic⟩
      exact ⟨b, hb, a', ha', hpanic⟩

/-! ### Layers that record nothing -/

/-- A layer that looks at a request before it passes it on, and at a response before it hands
it back. -/
structure Filter (α ρ : Type) where
  /-- The request to pass on, or the response to answer with. -/
  before : α → Except ρ α
  after : α → ρ → ρ

def Filter.finish (f : Filter α ρ) (a : α) : Outcome ρ → List ε × Outcome ρ
  | .returned response => ([], .returned (f.after a response))
  | .panicked => ([], .panicked)

def Filter.layer (f : Filter α ρ) : Layer α ρ ε := fun a =>
  match f.before a with
  | .error response => .answer [] (.returned response)
  | .ok a' => .pass [] a' (f.finish a)

/-- The filter that does nothing. -/
def Filter.none : Filter α ρ where
  before a := .ok a
  after _ response := response

theorem Filter.silent (p : ε → Bool) (f : Filter α ρ) : Silent p f.layer := by
  intro a
  rw [Filter.layer]
  cases f.before a with
  | error response => rfl
  | ok a' => exact ⟨rfl, fun outcome => by cases outcome <;> rfl⟩

theorem Filter.keepsPanic (f : Filter α ρ) : KeepsPanic (f.layer (ε := ε)) := by
  intro a
  rw [Filter.layer]
  cases f.before a with
  | error response =>
    show Outcome.returned response ≠ .panicked
    simp
  | ok a' => exact fun outcome => by cases outcome <;> simp [Filter.finish]

/-- A response instead of a panic. -/
def rescue (response : ρ) : Outcome ρ → List ε × Outcome ρ
  | .returned response' => ([], .returned response')
  | .panicked => ([], .returned response)

/-- A layer that answers a panic with a response. -/
def catchPanic (response : ρ) : Layer α ρ ε := fun a => .pass [] a (rescue response)

theorem silent_catchPanic (p : ε → Bool) (response : ρ) :
    Silent p (catchPanic response : Layer α ρ ε) := by
  intro a
  exact ⟨rfl, fun outcome => by cases outcome <;> rfl⟩

/-- Nothing panics behind it: a panic becomes the response the layer has for it. -/
theorem outcome_catchPanic (response : ρ) (inner : Service α ρ ε) (a : α) :
    ((catchPanic response).wrap inner a).outcome ≠ .panicked := by
  show (rescue response (inner a).outcome).2 ≠ .panicked
  cases (inner a).outcome <;> simp [rescue]

end Layers
