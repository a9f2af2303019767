import ActonService.Lib.Regex

/-!
# The syntax of regular expressions

A parser of the expressions that are written with literal and escaped characters, the dot, `\d`,
classes of ranges, the anchors, groups and alternatives, and with the repetitions `*`, `+`, `?` and
`{n}` of a single character.  It reads one character after the other; what it does not read is
not in the fragment.

## Main definitions

* `Parser`, `Parser.step` — a parser, and what a character does to it.
* `parse` — the expression of a text.

## Main results

* `Parser.read_literal`, `Parser.read_escaped`, `Parser.read_dotStar`, `Parser.read_noneOf` — **what
  a parser reads.**
-/

namespace Regex

/-- Where in an expression a parser stands. -/
inductive Mode
  | outside
  | escaped
  | opened
  | flags
  | bracket
  | inClass (negated : Bool) (spans : List (Char × Char)) (last : Option (Char × Bool))
  | counting (count : Option ℕ)
  deriving DecidableEq, Repr

/-- What has been read of a group: its alternatives and the sequence of the last one. -/
structure Level where
  alternatives : Option Expr
  sequence : Expr
  deriving DecidableEq, Repr

namespace Level

/-- Nothing has been read. -/
def new : Level := ⟨none, .empty⟩

def push (l : Level) (e : Expr) : Level := { l with sequence := .seq l.sequence e }

/-- The expression of a group. -/
def expr (l : Level) : Expr :=
  match l.alternatives with
  | none => l.sequence
  | some a => .alt a l.sequence

end Level

/-- A parser: the groups around, the group it is in, and the class that may be repeated. -/
structure Parser where
  outer : List Level
  level : Level
  last : Option CharClass
  mode : Mode
  deriving DecidableEq, Repr

/-- The characters that are themselves behind a backslash. -/
def metaCharacters : List Char :=
  ['\\', '.', '+', '*', '?', '(', ')', '|', '[', ']', '{', '}', '^', '$', '#', '&', '-', '~']

namespace Parser

/-- Nothing has been read. -/
def start : Parser := ⟨[], .new, none, .outside⟩

/-- The sequence with the last class, which is not repeated. -/
def settled (p : Parser) : Level :=
  match p.last with
  | none => p.level
  | some cls => p.level.push (.repeated cls 1 (some 1))

/-- An expression is read: it joins what the group has so far. -/
def push (p : Parser) (e : Expr) : Parser := ⟨p.outer, p.settled.push e, none, .outside⟩

/-- A class is read, which a repetition may follow. -/
def atom (p : Parser) (cls : CharClass) : Parser := ⟨p.outer, p.settled, some cls, .outside⟩

/-- The last class is repeated; there has to be one. -/
def repeats (p : Parser) (least : ℕ) (most : Option ℕ) : Option Parser :=
  p.last.map fun cls => ⟨p.outer, p.level.push (.repeated cls least most), none, .outside⟩

/-- A group ends, and its expression joins that of the group around it. -/
def close (p : Parser) : Option Parser :=
  match p.outer with
  | [] => none
  | level :: outer => some ⟨outer, level.push p.settled.expr, none, .outside⟩

/-- A character outside of classes and escapes. -/
def stepOutside (p : Parser) (c : Char) : Option Parser :=
  if c = '^' then some (p.push .start)
  else if c = '$' then some (p.push .stop)
  else if c = '.' then some (p.atom .any)
  else if c = '\\' then some { p with mode := .escaped }
  else if c = '[' then some { p with mode := .bracket }
  else if c = '(' then some ⟨p.settled :: p.outer, .new, none, .opened⟩
  else if c = ')' then p.close
  else if c = '|' then some ⟨p.outer, ⟨some p.settled.expr, .empty⟩, none, .outside⟩
  else if c = '*' then p.repeats 0 none
  else if c = '+' then p.repeats 1 none
  else if c = '?' then p.repeats 0 (some 1)
  else if c = '{' then p.last.map fun _ => { p with mode := .counting none }
  else some (p.atom (.single c))

/-- A character of a class; behind a dash it ends a range. -/
def stepClass (p : Parser) (negated : Bool) (spans : List (Char × Char))
    (last : Option (Char × Bool)) (c : Char) : Option Parser :=
  if c ∈ ['[', '\\', '^', '&', '~'] then none
  else
    match last with
    | none =>
      if c = '-' then none
      else if c = ']' then
        if spans = [] then none else some (p.atom (.ranges negated spans))
      else some { p with mode := .inClass negated spans (some (c, false)) }
    | some (d, false) =>
      if c = '-' then some { p with mode := .inClass negated spans (some (d, true)) }
      else if c = ']' then some (p.atom (.ranges negated (spans ++ [(d, d)])))
      else some { p with mode := .inClass negated (spans ++ [(d, d)]) (some (c, false)) }
    | some (d, true) =>
      if c = '-' ∨ c = ']' ∨ c < d then none
      else some { p with mode := .inClass negated (spans ++ [(d, c)]) none }

/-- What a character does to a parser. -/
def step (p : Parser) (c : Char) : Option Parser :=
  match p.mode with
  | .outside => p.stepOutside c
  | .escaped =>
    if c = 'd' then some (p.atom .decimal)
    else if c ∈ metaCharacters then some (p.atom (.single c))
    else none
  | .opened =>
    if c = '?' then some { p with mode := .flags } else { p with mode := .outside }.stepOutside c
  | .flags => if c = ':' then some { p with mode := .outside } else none
  | .bracket =>
    if c = '^' then some { p with mode := .inClass true [] none } else p.stepClass false [] none c
  | .inClass negated spans last => p.stepClass negated spans last c
  | .counting count =>
    if c = '}' then count.bind fun n => p.repeats n (some n)
    else if c.isDigit = true then
      some { p with mode := .counting (some (count.getD 0 * 10 + (c.toNat - '0'.toNat))) }
    else none

/-- A parser reads characters one after the other, and fails at the first it has no use for. -/
def read (p : Parser) (s : List Char) : Option Parser := s.foldlM step p

/-- The expression that has been read. -/
def finish (p : Parser) : Option Expr :=
  if p.outer = [] ∧ p.mode = .outside then some p.settled.expr else none

end Parser

/-- The expression of a text. -/
def parse (text : List Char) : Option Expr := (Parser.start.read text).bind Parser.finish

/-! ### What a parser reads -/

namespace Parser

variable {p : Parser} {c : Char} {s t : List Char}

@[simp] theorem read_nil : p.read [] = some p := rfl

theorem read_cons : p.read (c :: s) = (p.step c).bind fun q => q.read s := by
  rw [read, List.foldlM_cons]
  rfl

theorem read_append : p.read (s ++ t) = (p.read s).bind fun q => q.read t := by
  rw [read, List.foldlM_append]
  rfl

@[simp] theorem settled_push (e : Expr) : (p.push e).settled = p.settled.push e := rfl

@[simp] theorem settled_atom (cls : CharClass) :
    (p.atom cls).settled = p.settled.push (.repeated cls 1 (some 1)) := rfl

/-- A literal character. -/
theorem read_literal (hp : p.mode = .outside) (h : c ∉ ['^', '$', '.', '\\', '[', '(', ')', '|',
    '*', '+', '?', '{']) : p.read [c] = some (p.atom (.single c)) := by
  simp only [List.mem_cons, List.not_mem_nil, or_false, not_or] at h
  rw [read_cons, step, hp]
  simp [stepOutside, h]

/-- An escaped character. -/
theorem read_escaped (hp : p.mode = .outside) (h : c ∈ metaCharacters) :
    p.read ['\\', c] = some (p.atom (.single c)) := by
  have hd : c ≠ 'd' := by
    rintro rfl
    revert h
    decide
  have hfirst : p.step '\\' = some { p with mode := .escaped } := by
    rw [step, hp]
    rfl
  rw [read_cons, hfirst, Option.bind_some, read_cons, step]
  simp only [if_neg hd, if_pos h]
  rfl

/-- `.*` -/
theorem read_dotStar (hp : p.mode = .outside) :
    p.read ['.', '*'] = some (p.push (.repeated .any 0 none)) := by
  have hfirst : p.step '.' = some (p.atom .any) := by
    rw [step, hp]
    rfl
  rw [read_cons, hfirst]
  rfl

/-- `[^/]+`, with any character that is nothing special for the slash. -/
theorem read_noneOf (hp : p.mode = .outside) (h : c ∉ ['[', '\\', '^', '&', '~', '-', ']']) :
    p.read ['[', '^', c, ']', '+'] = some (p.push (.repeated (.ranges true [(c, c)]) 1 none)) := by
  have hfirst : p.step '[' = some { p with mode := .bracket } := by
    rw [step, hp]
    rfl
  have hchar : ({ p with mode := .inClass true [] none } : Parser).step c
      = some { p with mode := .inClass true [] (some (c, false)) } := by
    simp only [List.mem_cons, List.not_mem_nil, or_false, not_or] at h
    rw [step]
    simp [stepClass, h]
  rw [read_cons, hfirst, Option.bind_some, read_cons]
  change ({ p with mode := .inClass true [] none } : Parser).read [c, ']', '+'] = _
  rw [read_cons, hchar]
  rfl

theorem finish_of_outer_eq_nil (houter : p.outer = []) (hp : p.mode = .outside) :
    p.finish = some p.settled.expr := if_pos ⟨houter, hp⟩

end Parser

example : parse "/(\\d+)(?:/|$)".toList
    = some (.seq (.seq (.seq .empty (.repeated (.single '/') 1 (some 1)))
        (.seq .empty (.repeated .decimal 1 none)))
      (.alt (.seq .empty (.repeated (.single '/') 1 (some 1))) (.seq .empty .stop))) := by decide

end Regex
