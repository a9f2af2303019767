import ActonService.Lib.Redis
import ActonService.Lib.Traces
import Mathlib.Data.List.Induction

/-!
# Cells that are written and taken

A ledger is the list of what was done to some cells: one was written, with a value that lasts
until a time, or it was emptied.  What stands in a cell is what its last entry left there.

A Redis server whose keys are written by `SETEX` and taken by `GETDEL` only is such a set of cells,
whatever else its clients do to other keys.

## Main definitions

* `Ledger.Entry`, `Ledger.standing` — the entries, and what stands in the cells.
* `Redis.Command.leaves` — a command does not write a key.
* `Redis.Keyspace.getDel`, `Redis.serveGetDel` — `GETDEL`, which is not among the commands of
  `Redis`.
* `Redis.CellCall`, `Redis.serveCells` — a server that takes it too.
* `Redis.ledger`, `Redis.Shows` — the ledger of a trace, and a server that has what stands in it.

## Main results

* `Ledger.standing_eq_some_iff` — what stands in a cell was put there, and the cell was left alone
  since.
* `Ledger.countP_drop_le` — **a cell is not emptied more often than it was written**, where only
  what stands is taken.
* `Redis.Shows.serve`, `Redis.Shows.serveGetDel` — a call keeps the server and the ledger together.
* `Redis.shows_replay` — **after every trace the server has what stands in its ledger.**
* `Redis.countP_takes_le` — **a cell is not taken more often than it was written.**
-/

namespace Ledger

variable {κ α : Type}

/-- What is done to a cell. -/
inductive Entry (κ α : Type)
  | put (key : κ) (v : α) (expiry : ℕ)
  | drop (key : κ)
  deriving DecidableEq, Repr

/-- The cell it is done to. -/
def Entry.key : Entry κ α → κ
  | .put key _ _ => key
  | .drop key => key

/-- What an entry leaves in its cell: a value and its expiry, or nothing. -/
def Entry.cell : Entry κ α → Option (α × ℕ)
  | .put _ v expiry => some (v, expiry)
  | .drop _ => none

variable [DecidableEq κ]

/-- What stands in the cells, and until when. -/
def standing (log : List (Entry κ α)) : κ → Option (α × ℕ) :=
  log.foldl (fun cells e => Function.update cells e.key e.cell) fun _ => none

/-- The entry writes the cell. -/
def Entry.isPut (key : κ) : Entry κ α → Bool
  | .put k _ _ => decide (k = key)
  | .drop _ => false

/-- The entry empties the cell. -/
def Entry.isDrop (key : κ) : Entry κ α → Bool
  | .put _ _ _ => false
  | .drop k => decide (k = key)

@[simp] theorem standing_nil (key : κ) : standing ([] : List (Entry κ α)) key = none := rfl

theorem standing_concat (log : List (Entry κ α)) (e : Entry κ α) :
    standing (log ++ [e]) = Function.update (standing log) e.key e.cell := by
  rw [standing, List.foldl_append]
  rfl

@[simp] theorem standing_concat_self (log : List (Entry κ α)) (e : Entry κ α) :
    standing (log ++ [e]) e.key = e.cell := by
  rw [standing_concat, Function.update_self]

theorem standing_concat_of_ne (log : List (Entry κ α)) {e : Entry κ α} {key : κ}
    (h : key ≠ e.key) : standing (log ++ [e]) key = standing log key := by
  rw [standing_concat, Function.update_of_ne h]

/-- **What stands in a cell** was put there, and the cell was left alone since. -/
theorem standing_eq_some_iff {log : List (Entry κ α)} {key : κ} {v : α} {expiry : ℕ} :
    standing log key = some (v, expiry) ↔
      ∃ pre post, log = pre ++ .put key v expiry :: post ∧ ∀ e ∈ post, e.key ≠ key := by
  induction log using List.reverseRecOn with
  | nil =>
    refine iff_of_false (fun h => ?_) fun h => ?_
    · cases h
    · obtain ⟨pre, post, heq, -⟩ := h
      simp at heq
  | append_singleton log e ih =>
    by_cases hkey : key = e.key
    · subst hkey
      rw [standing_concat_self]
      constructor
      · intro h
        refine ⟨log, [], ?_, by simp⟩
        cases e with
        | put k w t =>
          cases h
          rfl
        | drop k => cases h
      · rintro ⟨pre, post, heq, hpost⟩
        rcases List.eq_nil_or_concat post with rfl | ⟨post, last, rfl⟩
        · rw [List.singleton_injective (List.append_inj' heq rfl).2]
          rfl
        · -- the last entry is of the cell, which was to be left alone
          rw [List.concat_eq_append, ← List.cons_append, ← List.append_assoc] at heq
          have hlast := List.singleton_injective (List.append_inj' heq rfl).2
          exact (hpost last (by simp) (hlast ▸ rfl)).elim
    · rw [standing_concat_of_ne log hkey, ih]
      constructor
      · rintro ⟨pre, post, rfl, hpost⟩
        refine ⟨pre, post ++ [e], by simp, fun e' he' => ?_⟩
        rcases List.mem_append.mp he' with he' | he'
        · exact hpost e' he'
        · rw [List.mem_singleton.mp he']
          exact Ne.symm hkey
      · rintro ⟨pre, post, heq, hpost⟩
        rcases List.eq_nil_or_concat post with rfl | ⟨post, last, rfl⟩
        · have hlast := List.singleton_injective (List.append_inj' heq rfl).2
          exact (hkey (hlast ▸ rfl)).elim
        · rw [List.concat_eq_append, ← List.cons_append, ← List.append_assoc] at heq
          exact ⟨pre, post, (List.append_inj' heq rfl).1, fun e' he' => hpost e' (by simp [he'])⟩

/-- A cell that was only ever written has one of the values written. -/
theorem exists_standing {P : α → ℕ → Prop} {log : List (Entry κ α)} {key : κ}
    (h : ∀ e ∈ log, e.key = key → ∃ v expiry, e = .put key v expiry ∧ P v expiry)
    (hwritten : ∃ e ∈ log, e.key = key) :
    ∃ v expiry, standing log key = some (v, expiry) ∧ P v expiry := by
  induction log using List.reverseRecOn with
  | nil =>
    obtain ⟨e, he, -⟩ := hwritten
    cases he
  | append_singleton log e ih =>
    by_cases hkey : key = e.key
    · obtain ⟨v, expiry, rfl, hP⟩ := h e (by simp) hkey.symm
      exact ⟨v, expiry, standing_concat_self log (.put key v expiry), hP⟩
    · rw [standing_concat_of_ne log hkey]
      refine ih (fun e' he' => h e' (List.mem_append_left _ he')) ?_
      obtain ⟨e', he', hkey'⟩ := hwritten
      rcases List.mem_append.mp he' with he' | he'
      · exact ⟨e', he', hkey'⟩
      · rw [List.mem_singleton.mp he'] at hkey'
        exact (hkey hkey'.symm).elim

/-- **A cell is not emptied more often than it was written**, if it is only emptied while something
stands in it. -/
theorem countP_drop_le {log : List (Entry κ α)} {key : κ}
    (h : ∀ pre post, log = pre ++ .drop key :: post → (standing pre key).isSome) :
    log.countP (Entry.isDrop key) ≤ log.countP (Entry.isPut key) := by
  suffices hcount : log.countP (Entry.isDrop key) + (standing log key).isSome.toNat
      ≤ log.countP (Entry.isPut key) from Nat.le_trans (Nat.le_add_right _ _) hcount
  induction log using List.reverseRecOn with
  | nil => exact Nat.le_refl _
  | append_singleton log e ih =>
    have hle := ih fun pre post heq => h pre (post ++ [e]) (by simp [heq])
    simp only [List.countP_append, List.countP_singleton]
    by_cases hkey : key = e.key
    · subst hkey
      rw [standing_concat_self]
      cases e with
      | put k v expiry =>
        simp only [Entry.isDrop, Entry.isPut, Entry.cell, Entry.key] at hle ⊢
        simp only [Bool.false_eq_true, if_false, decide_true, if_true, Option.isSome_some,
          Bool.toNat_true]
        omega
      | drop k =>
        have hstands := h log [] rfl
        simp only [Entry.key] at hle hstands
        simp only [hstands, Bool.toNat_true] at hle
        simp only [Entry.isDrop, Entry.isPut, Entry.cell, Entry.key, decide_true, if_true,
          Bool.false_eq_true, if_false, Option.isSome_none, Bool.toNat_false]
        exact hle
    · rw [standing_concat_of_ne log hkey]
      have hdrop : e.isDrop key = false := by
        cases e with
        | put k v expiry => rfl
        | drop k => exact decide_eq_false fun heq => hkey heq.symm
      have hput : e.isPut key = false := by
        cases e with
        | put k v expiry => exact decide_eq_false fun heq => hkey heq.symm
        | drop k => rfl
      simp only [hdrop, hput, Bool.false_eq_true, if_false]
      exact hle

end Ledger

namespace Redis

variable {τ E : Type}

/-! ### What a command leaves alone -/

/-- The command does not write the key. -/
def Command.leaves (key : String) : Command τ → Prop
  | .set k _ | .setEx k _ _ | .sadd k _ | .expire k _ | .incr k => k ≠ key
  | .del keys => key ∉ keys
  | _ => True

theorem entries_foldl_remove {key : String} {keys : List String} (h : key ∉ keys)
    (m : Keyspace τ) : (keys.foldl Keyspace.remove m).entries key = m.entries key := by
  induction keys generalizing m with
  | nil => rfl
  | cons k keys ih =>
    obtain ⟨hk, hkeys⟩ := List.ne_and_not_mem_of_not_mem_cons h
    rw [List.foldl_cons, ih hkeys, Keyspace.entries_remove_of_ne m hk]

/-- **What a command does not write is left as it is.** -/
theorem entries_carryOut {m m' : Keyspace τ} {now : ℕ} {key : String} {c : Command τ}
    {reply : Reply c} (h : carryOut now m c = .ok (m', reply)) (hc : c.leaves key) :
    m'.entries key = m.entries key := by
  cases c with
  -- what only reads leaves the keyspace as it is
  | get k => rw [carryOut_get h]
  -- what writes a key writes that key only
  | set k v =>
    cases h
    exact Keyspace.entries_put_of_ne m _ (Ne.symm hc)
  | setEx k v secs =>
    simp only [carryOut] at h
    split at h
    · cases h
      exact Keyspace.entries_put_of_ne m _ (Ne.symm hc)
    · cases h
  | sadd k member =>
    simp only [carryOut, Keyspace.sadd] at h
    split at h <;> cases h
    · exact Keyspace.entries_put_of_ne m _ (Ne.symm hc)
    · exact Keyspace.entries_put_of_ne m _ (Ne.symm hc)
  | smembers k =>
    simp only [carryOut] at h
    split at h <;> cases h <;> rfl
  -- an expiry is a new deadline for the key, or its end where the deadline has passed
  | expire k secs =>
    simp only [carryOut, Keyspace.expire] at h
    split at h
    · split at h
      · cases h
        rfl
      · cases h
        split_ifs
        · exact Keyspace.entries_put_of_ne m _ (Ne.symm hc)
        · exact Keyspace.entries_remove_of_ne m (Ne.symm hc)
    · cases h
  | incr k =>
    simp only [carryOut, Keyspace.incr] at h
    split at h
    · cases h
      exact Keyspace.entries_put_of_ne m _ (Ne.symm hc)
    · split_ifs at h
      cases h
      exact Keyspace.entries_put_of_ne m _ (Ne.symm hc)
    · cases h
    · cases h
  -- `DEL` removes its keys one by one
  | del keys =>
    cases h
    exact entries_foldl_remove hc m
  | connect | ttl | «exists» =>
    cases h
    rfl

/-! ### `GETDEL` -/

/-- `GETDEL` -/
def Keyspace.getDel (m : Keyspace τ) (now : ℕ) (key : String) :
    Except String (Keyspace τ × Option (Value τ)) :=
  match m.find? now key with
  | none => .ok (m, none)
  | some ⟨.set _, _⟩ => .error wrongType
  | some e => .ok (m.remove key, some e.value)

/-- The server after `GETDEL`, and what the client is told. -/
def serveGetDel (s : Server τ) (moment : Moment) (key : String) :
    Server τ × Except String (Option (Value τ)) :=
  let now := s.now + moment.elapsed
  match moment.fault, s.keys.getDel now key with
  | .none, .ok (keys, reply) => (⟨now, keys⟩, .ok reply)
  | .none, .error e => (⟨now, s.keys⟩, .error e)
  | .refused e, _ => (⟨now, s.keys⟩, .error e)
  | .lostReply e, .ok (keys, _) => (⟨now, keys⟩, .error e)
  | .lostReply e, .error _ => (⟨now, s.keys⟩, .error e)

/-! ### Servers that take `GETDEL` too -/

/-- A call, or `GETDEL`. -/
inductive CellCall (τ E : Type)
  | plain (c : Call τ E)
  | getDel (key : String)

/-- The type of an answer. -/
abbrev CellCall.Answer : CellCall τ E → Type
  | .plain c => c.Answer
  | .getDel _ => Except String (Option (Value τ))

/-- The server after a call, and the answer. -/
def serveCells (s : Server τ) (who : ℕ) (moment : Moment) :
    (c : CellCall τ E) → Server τ × c.Answer
  | .plain c => serve s who moment c
  | .getDel key => serveGetDel s moment key

/-- A command whose error is passed on. -/
def askCells {ε : Type} (onError : String → ε) (c : Command τ) :
    Effect.Prog (CellCall τ E) CellCall.Answer ε (Reply c) :=
  .call (.plain (.redis c)) fun answer =>
    match answer with
    | .ok reply => .ret reply
    | .error e => .fail (onError e)

/-! ### Servers and ledgers -/

/-- What a call does to a cell. -/
def CellCall.ledgerEntry (s : Server τ) (moment : Moment) :
    CellCall τ E → Option (Ledger.Entry String (Value τ))
  | .plain (.redis (.setEx key v secs)) =>
    let now := s.now + moment.elapsed
    if moment.fault.takesEffect && (fitsExpire now secs && decide (0 < secs)) then
      some (.put key v (deadline now secs))
    else none
  | .plain _ => none
  | .getDel key =>
    match moment.fault.takesEffect, s.keys.getDel (s.now + moment.elapsed) key with
    | true, .ok (_, some _) => some (.drop key)
    | _, _ => none

/-- The call does nothing to a cell but by `SETEX` and `GETDEL`. -/
def CellCall.KeepsTo (cell : String → Prop) : CellCall τ E → Prop
  | .plain (.redis (.setEx _ _ _)) => True
  | .plain (.redis c) => ∀ key, cell key → c.leaves key
  | _ => True

/-- The server has in the cells what stands in the ledger. -/
def Shows (cell : String → Prop) (keys : Keyspace τ) (log : List (Ledger.Entry String (Value τ))) :
    Prop :=
  ∀ key, cell key → keys.entries key = (Ledger.standing log key).map fun c => ⟨c.1, some c.2⟩

variable {cell : String → Prop} {s : Server τ} {log : List (Ledger.Entry String (Value τ))}

/-- What is found in a cell. -/
theorem Shows.find? {keys : Keyspace τ} (h : Shows cell keys log) {key : String} (hkey : cell key)
    (now : ℕ) : keys.find? now key
      = ((Ledger.standing log key).filter fun c => decide (now < c.2)).map
        fun c => ⟨c.1, some c.2⟩ := by
  rw [Keyspace.find?, h key hkey]
  cases Ledger.standing log key with
  | none => rfl
  | some c =>
    simp only [Option.map_some, Option.filter_some, Entry.live]
    split_ifs <;> rfl

theorem Shows.put {keys : Keyspace τ} (h : Shows cell keys log) (key : String) (v : Value τ)
    (expiry : ℕ) : Shows cell (keys.put key ⟨v, some expiry⟩) (log ++ [.put key v expiry]) := by
  intro k hk
  by_cases hkey : k = key
  · subst hkey
    have hstands : Ledger.standing (log ++ [.put k v expiry]) k = some (v, expiry) :=
      Ledger.standing_concat_self log (.put k v expiry)
    rw [Keyspace.entries_put_self, hstands]
    rfl
  · rw [Keyspace.entries_put_of_ne keys _ hkey,
      Ledger.standing_concat_of_ne log (e := .put key v expiry) hkey]
    exact h k hk

theorem Shows.remove {keys : Keyspace τ} (h : Shows cell keys log) (key : String) :
    Shows cell (keys.remove key) (log ++ [.drop key]) := by
  intro k hk
  by_cases hkey : k = key
  · subst hkey
    have hempty : Ledger.standing (log ++ [.drop k]) k = none :=
      Ledger.standing_concat_self log (.drop k)
    rw [Keyspace.entries_remove_self, hempty]
    rfl
  · rw [Keyspace.entries_remove_of_ne keys hkey,
      Ledger.standing_concat_of_ne log (e := .drop key) hkey]
    exact h k hk

/-- **A call keeps the server and the ledger together.** -/
theorem Shows.serve (h : Shows cell s.keys log) (who : ℕ) (moment : Moment) {c : Call τ E}
    (hc : (CellCall.plain c).KeepsTo cell) :
    Shows cell (Redis.serve s who moment c).1.keys
      (log ++ ((CellCall.plain c).ledgerEntry s moment).toList) := by
  have hquiet : Shows cell s.keys (log ++ []) := by rwa [List.append_nil]
  cases c with
  | clock => exact hquiet
  | notify event => exact hquiet
  | redis c =>
    -- `SETEX` writes an entry if its duration is one, and the ledger takes it down then
    by_cases hset : ∃ key v secs, c = .setEx key v secs
    · obtain ⟨key, v, secs, rfl⟩ := hset
      cases hok : fitsExpire (s.now + moment.elapsed) secs && decide (0 < secs) with
      | false =>
        have hcarry : carryOut (s.now + moment.elapsed) s.keys (.setEx key v secs)
            = .error invalidExpire := by
          simp only [carryOut, hok, Bool.false_eq_true, if_false]
        simp only [Redis.serve, CellCall.ledgerEntry, hok, Bool.and_false, Bool.false_eq_true,
          if_false,
          Option.toList_none]
        rcases answer_cases s.keys who ⟨s.now + moment.elapsed, moment.fault⟩ (.setEx key v secs)
          with ⟨hsame, -⟩ | ⟨m', reply, hcarry', -⟩
        · rw [hsame]
          exact hquiet
        · rw [hcarry] at hcarry'
          cases hcarry'
      | true =>
        have hcarry : carryOut (s.now + moment.elapsed) s.keys (.setEx key v secs)
            = .ok (s.keys.put key ⟨v, some (deadline (s.now + moment.elapsed) secs)⟩, ()) := by
          simp only [carryOut, hok, if_true]
        simp only [Redis.serve, CellCall.ledgerEntry, hok, Bool.and_true,
          answer_fst_of_ok hcarry who moment.fault]
        cases moment.fault.takesEffect with
        | true => exact h.put key v _
        | false => exact hquiet
    · -- the other commands write no cell
      have hentry : (CellCall.plain (.redis c) : CellCall τ E).ledgerEntry s moment = none := by
        cases c with
        | setEx key v secs => exact (hset ⟨key, v, secs, rfl⟩).elim
        | _ => rfl
      have hleaves : ∀ key, cell key → c.leaves key := by
        cases c with
        | setEx key v secs => exact (hset ⟨key, v, secs, rfl⟩).elim
        | _ => exact hc
      rw [hentry]
      rcases answer_cases s.keys who ⟨s.now + moment.elapsed, moment.fault⟩ c
        with ⟨hsame, -⟩ | ⟨m', reply, hcarry, hkeys, -⟩
      · simp only [Redis.serve, hsame]
        exact hquiet
      · simp only [Redis.serve, hkeys]
        intro key hkey
        rw [entries_carryOut hcarry (hleaves key hkey)]
        exact hquiet key hkey

/-- The same for `GETDEL`. -/
theorem Shows.serveGetDel (h : Shows cell s.keys log) (moment : Moment) (key : String) :
    Shows cell (Redis.serveGetDel s moment key).1.keys
      (log ++ ((CellCall.getDel key : CellCall τ E).ledgerEntry s moment).toList) := by
  have hquiet : Shows cell s.keys (log ++ []) := by rwa [List.append_nil]
  have hcases : s.keys.getDel (s.now + moment.elapsed) key = .ok (s.keys, none) ∨
      s.keys.getDel (s.now + moment.elapsed) key = .error wrongType ∨
      ∃ v, s.keys.getDel (s.now + moment.elapsed) key = .ok (s.keys.remove key, some v) := by
    rw [Keyspace.getDel]
    split
    · exact .inl rfl
    · exact .inr (.inl rfl)
    · exact .inr (.inr ⟨_, rfl⟩)
  rcases hcases with hget | hget | ⟨v, hget⟩
  · simp only [Redis.serveGetDel, CellCall.ledgerEntry, hget]
    cases moment.fault <;> exact hquiet
  · simp only [Redis.serveGetDel, CellCall.ledgerEntry, hget]
    cases moment.fault <;> exact hquiet
  · simp only [Redis.serveGetDel, CellCall.ledgerEntry, hget]
    cases moment.fault with
    | none => exact h.remove key
    | refused e => exact hquiet
    | lostReply e => exact h.remove key

/-! ### Traces of servers -/

/-- A call that a server has answered. -/
abbrev ServerLine (τ E : Type) := Effect.Line (Server τ) Moment (CellCall τ E) CellCall.Answer

/-- The time of the server when it carried the call out. -/
def time (l : ServerLine τ E) : ℕ := l.before.now + l.input.elapsed

/-- What a trace has done to the cells. -/
def ledger (lines : List (ServerLine τ E)) : List (Ledger.Entry String (Value τ)) :=
  lines.flatMap fun l => (l.call.ledgerEntry l.before l.input).toList

theorem ledger_append (lines lines' : List (ServerLine τ E)) :
    ledger (lines ++ lines') = ledger lines ++ ledger lines' :=
  List.flatMap_append

theorem mem_ledger {lines : List (ServerLine τ E)} {l : ServerLine τ E} (hl : l ∈ lines)
    {e : Ledger.Entry String (Value τ)} (he : l.call.ledgerEntry l.before l.input = some e) :
    e ∈ ledger lines :=
  List.mem_flatMap.mpr ⟨l, hl, by rw [he]; exact List.mem_singleton_self e⟩

/-- A `SETEX` that was answered has written its cell. -/
theorem ledgerEntry_of_setEx {s : Server τ} {who : ℕ} {moment : Moment} {key : String} {v : Value τ}
    {secs : ℤ}
    (h : (serveCells s who moment
      (.plain (.redis (.setEx key v secs)) : CellCall τ E)).2 = .ok ()) :
    (CellCall.plain (.redis (.setEx key v secs)) : CellCall τ E).ledgerEntry s moment
      = some (.put key v (deadline (s.now + moment.elapsed) secs)) := by
  have hcarry := carryOut_of_answer_ok h
  have hfits : (fitsExpire (s.now + moment.elapsed) secs && decide (0 < secs)) = true := by
    simp only [carryOut] at hcarry
    split at hcarry
    · next hfits => exact hfits
    · cases hcarry
  have hfault : moment.fault.takesEffect = true := by
    cases hf : moment.fault with
    | none => rfl
    | lostReply e => rfl
    | refused e =>
      simp only [serveCells, serve, answer, hf] at h
      cases h
  simp only [CellCall.ledgerEntry, hfits, hfault, Bool.and_self, if_true]

/-- A cell is written by `SETEX`. -/
theorem exists_setEx_of_ledgerEntry {s : Server τ} {moment : Moment} {c : CellCall τ E}
    {key : String}
    {v : Value τ} {expiry : ℕ} (h : c.ledgerEntry s moment = some (.put key v expiry)) :
    ∃ secs, c = .plain (.redis (.setEx key v secs)) := by
  cases c with
  | getDel k =>
    simp only [CellCall.ledgerEntry] at h
    split at h <;> cases h
  | plain c =>
    cases c with
    | redis c =>
      cases c with
      | setEx k w secs =>
        simp only [CellCall.ledgerEntry] at h
        split at h
        · cases h
          exact ⟨secs, rfl⟩
        · cases h
      | _ => cases h
    | _ => cases h

theorem now_serveCells (s : Server τ) (who : ℕ) (moment : Moment) (c : CellCall τ E) :
    (serveCells s who moment c).1.now = s.now + moment.elapsed := by
  cases c with
  | plain c => cases c <;> rfl
  | getDel key =>
    simp only [serveCells, serveGetDel]
    split <;> rfl

/-- Time does not run backwards, however many lines are replayed. -/
theorem now_le_replay (s : Server τ) (lines : List (ServerLine τ E)) :
    s.now ≤ (Effect.replay serveCells s lines).now := by
  induction lines using List.reverseRecOn with
  | nil => exact Nat.le_refl _
  | append_singleton lines l ih =>
    rw [Effect.replay_concat, now_serveCells]
    omega

/-- A line that stands before another one is not later. -/
theorem time_le {init : Server τ} {pre mid : List (ServerLine τ E)} {l l' : ServerLine τ E}
    (hl : Effect.Genuine serveCells init pre l)
    (hl' : Effect.Genuine serveCells init (pre ++ l :: mid) l') : time l ≤ time l' := by
  have hafter : Effect.replay serveCells init (pre ++ l :: mid)
      = Effect.replay serveCells (serveCells l.before l.who l.input l.call).1 mid := by
    rw [Effect.replay, List.foldl_append, List.foldl_cons, hl.before_eq]
    rfl
  have hle := now_le_replay (serveCells l.before l.who l.input l.call).1 mid
  rw [now_serveCells, ← hafter, ← hl'.before_eq] at hle
  exact Nat.le_trans hle (Nat.le_add_right _ _)

/-- **After every trace the server has what stands in its ledger.** -/
theorem shows_replay {init : Server τ} (hinit : ∀ key, cell key → init.keys.entries key = none)
    {lines : List (ServerLine τ E)}
    (hlines : ∀ pre l post, lines = pre ++ l :: post →
      Effect.Genuine serveCells init pre l ∧ l.call.KeepsTo cell) :
    Shows cell (Effect.replay serveCells init lines).keys (ledger lines) := by
  induction lines using List.reverseRecOn with
  | nil => exact hinit
  | append_singleton lines l ih =>
    obtain ⟨hgenuine, hkeeps⟩ := hlines lines l [] rfl
    have hbefore := ih fun pre l' post heq => hlines pre l' (post ++ [l]) (by simp [heq])
    rw [← hgenuine.before_eq] at hbefore
    have hentry : ledger [l] = (l.call.ledgerEntry l.before l.input).toList := List.append_nil _
    rw [Effect.replay_concat, ← hgenuine.before_eq, ledger_append, hentry]
    cases hcall : l.call with
    | plain c =>
      rw [hcall] at hkeeps
      exact hbefore.serve l.who l.input hkeeps
    | getDel key => exact hbefore.serveGetDel l.input key

/-! ### Taking cells -/

/-- A `GETDEL` that came back with a value. -/
def takes (key : String) : ((c : CellCall τ E) × c.Answer) → Bool
  | ⟨.getDel k, .ok (some _)⟩ => decide (k = key)
  | _ => false

theorem getDel_some {m m' : Keyspace τ} {now : ℕ} {key : String} {v : Value τ}
    (h : m.getDel now key = .ok (m', some v)) :
    ∃ expiresAt, m.find? now key = some ⟨v, expiresAt⟩ := by
  rw [Keyspace.getDel] at h
  split at h
  · cases h
  · cases h
  · next e _ hfind =>
    cases h
    exact ⟨e.expiresAt, hfind⟩

/-- What the client is told that `GETDEL` replies is what it replies. -/
theorem getDel_of_serveGetDel {s : Server τ} {moment : Moment} {key : String}
    {reply : Option (Value τ)} (h : (serveGetDel s moment key).2 = .ok reply) :
    moment.fault = .none ∧
      ∃ keys, s.keys.getDel (s.now + moment.elapsed) key = .ok (keys, reply) := by
  rw [serveGetDel] at h
  cases hfault : moment.fault with
  | none =>
    rw [hfault] at h
    cases hget : s.keys.getDel (s.now + moment.elapsed) key with
    | error e =>
      rw [hget] at h
      cases h
    | ok r =>
      rw [hget] at h
      cases h
      exact ⟨rfl, r.1, rfl⟩
  | refused e =>
    rw [hfault] at h
    cases h
  | lostReply e =>
    rw [hfault] at h
    cases hget : s.keys.getDel (s.now + moment.elapsed) key with
    | error e =>
      rw [hget] at h
      cases h
    | ok r =>
      rw [hget] at h
      cases h

/-- A call that takes a cell empties it. -/
theorem ledgerEntry_of_takes {s : Server τ} {who : ℕ} {moment : Moment} {key : String}
    {c : CellCall τ E} {a : c.Answer} (ha : a = (serveCells s who moment c).2)
    (h : takes key ⟨c, a⟩ = true) : c.ledgerEntry s moment = some (.drop key) := by
  cases c with
  | plain c => cases h
  | getDel k =>
    rcases a with e | _ | v
    · cases h
    · cases h
    · have hkey : k = key := of_decide_eq_true h
      subst hkey
      obtain ⟨hfault, keys, hget⟩ := getDel_of_serveGetDel ha.symm
      simp only [CellCall.ledgerEntry, hfault, Fault.takesEffect, hget]

/-- What is emptied stood there: a line that drops a cell has found a value in it. -/
theorem isSome_find?_of_ledgerEntry {s : Server τ} {moment : Moment} {key : String}
    {c : CellCall τ E}
    (h : c.ledgerEntry s moment = some (.drop key)) :
    (s.keys.find? (s.now + moment.elapsed) key).isSome := by
  cases c with
  | plain c =>
    cases c with
    | redis c =>
      cases c with
      | setEx k v secs =>
        simp only [CellCall.ledgerEntry] at h
        split at h <;> cases h
      | _ => cases h
    | _ => cases h
  | getDel k =>
    simp only [CellCall.ledgerEntry] at h
    split at h
    · next m v hget =>
      cases h
      obtain ⟨expiresAt, hfind⟩ := getDel_some hget
      rw [hfind]
      rfl
    · cases h

/-- Only what stands in a cell is taken. -/
theorem isSome_standing_of_drop {init : Server τ}
    (hinit : ∀ key, cell key → init.keys.entries key = none) {lines : List (ServerLine τ E)}
    (hlines : ∀ pre l post, lines = pre ++ l :: post →
      Effect.Genuine serveCells init pre l ∧ l.call.KeepsTo cell) :
    ∀ pre e post, ledger lines = pre ++ e :: post → ∀ key, cell key → e = .drop key →
      (Ledger.standing pre key).isSome := by
  induction lines using List.reverseRecOn with
  | nil => exact fun pre e post heq => by simp [ledger] at heq
  | append_singleton lines l ih =>
    have hbefore : ∀ pre l' post, lines = pre ++ l' :: post →
        Effect.Genuine serveCells init pre l' ∧ l'.call.KeepsTo cell := fun pre l' post heq =>
      hlines pre l' (post ++ [l]) (by simp [heq])
    obtain ⟨hgenuine, -⟩ := hlines lines l [] rfl
    have hledger : ledger (lines ++ [l])
        = ledger lines ++ (l.call.ledgerEntry l.before l.input).toList := by
      rw [ledger_append]
      exact congrArg _ (List.append_nil _)
    rw [hledger]
    cases hentry : l.call.ledgerEntry l.before l.input with
    | none =>
      rw [Option.toList_none, List.append_nil]
      exact ih hbefore
    | some e =>
      refine Run.forall_split_concat (ih hbefore) fun key hkey he => ?_
      subst he
      have hfound := isSome_find?_of_ledgerEntry hentry
      have hshows := shows_replay hinit hbefore
      rw [← hgenuine.before_eq] at hshows
      rw [hshows.find? hkey] at hfound
      cases hstanding : Ledger.standing (ledger lines) key with
      | some c => rfl
      | none =>
        rw [hstanding] at hfound
        cases hfound

/-- **A cell is not taken more often than it was written.** -/
theorem countP_takes_le {init : Server τ}
    (hinit : ∀ key, cell key → init.keys.entries key = none) {lines : List (ServerLine τ E)}
    (hlines : ∀ pre l post, lines = pre ++ l :: post →
      Effect.Genuine serveCells init pre l ∧ l.call.KeepsTo cell) {key : String} (hkey : cell key) :
    lines.countP (fun l => takes key ⟨l.call, l.answer⟩)
      ≤ (ledger lines).countP (Ledger.Entry.isPut key) := by
  have hdrops := Ledger.countP_drop_le fun pre post heq =>
    isSome_standing_of_drop hinit hlines pre _ post heq key hkey rfl
  refine Nat.le_trans ?_ hdrops
  clear hdrops hinit
  induction lines using List.reverseRecOn with
  | nil => exact Nat.le_refl _
  | append_singleton lines l ih =>
    have hle := ih fun pre l' post heq => hlines pre l' (post ++ [l]) (by simp [heq])
    obtain ⟨hgenuine, -⟩ := hlines lines l [] rfl
    have hentry : ledger [l] = (l.call.ledgerEntry l.before l.input).toList := List.append_nil _
    rw [ledger_append, hentry, List.countP_append, List.countP_append, List.countP_singleton]
    cases htakes : takes key ⟨l.call, l.answer⟩ with
    | false =>
      rw [if_neg Bool.false_ne_true]
      omega
    | true =>
      rw [ledgerEntry_of_takes hgenuine.answer_eq htakes, Option.toList_some, List.countP_singleton]
      simp only [Ledger.Entry.isDrop, decide_true, if_true]
      omega

end Redis
