import ActonService.Lib.Effect
import Mathlib.Data.List.Induction

/-!
# Programs and contracts

What a world does on a call may be known by a contract only: how what its states show may differ
before and after the call, given the answer.  A program is then judged by where the contract lets
its calls lead.  Operations that are run one after another leave a journal of their results, which
an abstract relation allows or not.

## Main definitions

* `CallContract`, `KeepsContract` — contracts, and a world that keeps one.
* `Prog.Ensures` — wherever the contract lets the calls lead, the program ends well.
* `Journal` — the journals an abstract relation allows.

## Main results

* `Prog.Ensures.bind`, `Prog.Ensures.mono` — the rules.
* `exec_of_ensures` — **a program that ends well by the contract ends well in the world.**
* `Journal.concat`, `Journal.split` — a journal grows by what the relation allows next, and every
  entry of it stands between two journals.
* `Journal.of_alike` — states the relation cannot tell apart have the same journals.
* `Journal.history` — what every entry keeps holds of every journal.
-/

namespace Effect

variable {C : Type} {A : C → Type} {ε α β σ ι ν υ : Type}

/-! ### Contracts -/

/-- What may be shown after a call that was answered so. -/
abbrev CallContract (ν C : Type) (A : C → Type) := ν → (c : C) → A c → ν → Prop

/-- The world keeps the contract: every answer it gives is one that the contract allows for what it
shows before and after. -/
def KeepsContract (answer : σ → ℕ → ι → (c : C) → σ × A c) (shown : σ → ν)
    (contract : CallContract ν C A) :
    Prop :=
  ∀ s who input c,
    contract (shown s) c (answer s who input c).2 (shown (answer s who input c).1)

namespace Prog

/-- Wherever the contract lets the calls lead, the program ends as `Q` says. -/
def Ensures (contract : CallContract ν C A) (Q : Except ε α → ν → Prop) : Prog C A ε α → ν → Prop
  | ret a, v => Q (.ok a) v
  | fail e, v => Q (.error e) v
  | call c k, v => ∀ a v', contract v c a v' → (k a).Ensures contract Q v'

variable {contract : CallContract ν C A} {p : Prog C A ε α} {v : ν}

theorem Ensures.mono {Q Q' : Except ε α → ν → Prop} (hp : p.Ensures contract Q v)
    (h : ∀ r v, Q r v → Q' r v) : p.Ensures contract Q' v := by
  induction p generalizing v with
  | ret a => exact h _ _ hp
  | fail e => exact h _ _ hp
  | call c k ih => exact fun a v' hcall => ih a (hp a v' hcall)

/-- A sequence ends well if its second part does wherever the first one ends. -/
theorem Ensures.bind {f : α → Prog C A ε β} {Q : Except ε α → ν → Prop}
    {Q' : Except ε β → ν → Prop} (hp : p.Ensures contract Q v)
    (hok : ∀ a v, Q (.ok a) v → (f a).Ensures contract Q' v)
    (herror : ∀ e v, Q (.error e) v → Q' (.error e) v) : (p.bind f).Ensures contract Q' v := by
  induction p generalizing v with
  | ret a => exact hok a v hp
  | fail e => exact herror e v hp
  | call c k ih => exact fun a v' hcall => ih a (hp a v' hcall)

end Prog

/-- **A program that ends well by the contract ends well in the world.** -/
theorem exec_of_ensures {answer : σ → ℕ → ι → (c : C) → σ × A c} {shown : σ → ν}
    {contract : CallContract ν C A} (hkeeps : KeepsContract answer shown contract)
    {Q : Except ε α → ν → Prop} {p : Prog C A ε α} {s : σ} (hp : p.Ensures contract Q (shown s))
    (who : ℕ) (inputs : ℕ → ι) :
    Q (exec answer who p s inputs).1 (shown (exec answer who p s inputs).2) := by
  induction p generalizing s inputs with
  | ret a => exact hp
  | fail e => exact hp
  | call c k ih => exact ih _ (hp _ _ (hkeeps s who (inputs 0) c)) _

/-! ### Journals -/

variable {Op : Type} {R : Op → Type}

/-- An operation that was run, and what came of it. -/
structure JournalEntry (ε : Type) (R : Op → Type) where
  op : Op
  result : Except ε (R op)

/-- The journals a relation allows. -/
inductive Journal (spec : υ → (op : Op) → Except ε (R op) → υ → Prop) :
    υ → List (JournalEntry ε R) → υ → Prop
  | nil (a : υ) : Journal spec a [] a
  | cons {a b c : υ} {op : Op} {r : Except ε (R op)} {es : List (JournalEntry ε R)}
      (hstep : spec a op r b) (hrest : Journal spec b es c) : Journal spec a (⟨op, r⟩ :: es) c

section Journal

variable {spec : υ → (op : Op) → Except ε (R op) → υ → Prop} {a b c : υ}
  {es fs : List (JournalEntry ε R)}

theorem journal_append :
    Journal spec a (es ++ fs) c ↔ ∃ b, Journal spec a es b ∧ Journal spec b fs c := by
  induction es generalizing a with
  | nil =>
    constructor
    · exact fun h => ⟨a, .nil a, h⟩
    · rintro ⟨b, hnil, h⟩
      cases hnil
      exact h
  | cons e es ih =>
    constructor
    · intro h
      cases h with
      | cons hstep hrest =>
        obtain ⟨b, hes, hfs⟩ := ih.mp hrest
        exact ⟨b, .cons hstep hes, hfs⟩
    · rintro ⟨b, hes, hfs⟩
      cases hes with
      | cons hstep hrest => exact .cons hstep (ih.mpr ⟨b, hrest, hfs⟩)

/-- A journal goes on with what is allowed behind it. -/
theorem Journal.concat {op : Op} {r : Except ε (R op)} (h : Journal spec a es b)
    (hstep : spec b op r c) : Journal spec a (es ++ [⟨op, r⟩]) c :=
  journal_append.mpr ⟨b, h, .cons hstep (.nil c)⟩

/-- What stands between the entries before and behind an entry. -/
theorem Journal.split {e : JournalEntry ε R} (h : Journal spec a (es ++ e :: fs) c) :
    ∃ b b', Journal spec a es b ∧ spec b e.op e.result b' ∧ Journal spec b' fs c := by
  obtain ⟨b, hes, hrest⟩ := journal_append.mp h
  cases hrest with
  | cons hstep hfs => exact ⟨b, _, hes, hstep, hfs⟩

/-- States that the relation cannot tell apart have the same journals. -/
theorem Journal.of_alike {alike : υ → υ → Prop}
    (hstep : ∀ a a' op r b, alike a a' → spec a op r b → ∃ b', alike b b' ∧ spec a' op r b')
    (h : Journal spec a es b) {a' : υ} (ha : alike a a') :
    ∃ b', alike b b' ∧ Journal spec a' es b' := by
  induction h generalizing a' with
  | nil a => exact ⟨a', ha, .nil a'⟩
  | cons hfirst _ ih =>
    obtain ⟨m, hm, hfirst'⟩ := hstep _ _ _ _ _ ha hfirst
    obtain ⟨b', hb', hrest⟩ := ih hm
    exact ⟨b', hb', .cons hfirst' hrest⟩

/-- What every entry keeps, of the entries so far and of what they led to, holds of every
journal. -/
theorem Journal.history {I : List (JournalEntry ε R) → υ → Prop} (hinit : I [] a)
    (hstep : ∀ es b e c, I es b → spec b e.op e.result c → I (es ++ [e]) c)
    (h : Journal spec a es b) : I es b := by
  induction es using List.reverseRecOn generalizing b with
  | nil =>
    cases h
    exact hinit
  | append_singleton es e ih =>
    obtain ⟨m, hes, hlast⟩ := journal_append.mp h
    cases hlast with
    | cons he hnil =>
      cases hnil
      exact hstep es m _ _ (ih hes) he

end Journal

end Effect
