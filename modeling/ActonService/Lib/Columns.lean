import Mathlib.Data.List.Nodup

/-!
# Rows of named columns

A table has its columns in an order, each with a default.  An `INSERT` names columns and gives a
value for each of them, an `UPDATE` sets some columns of a row to numbered parameters.  A row is
read by the name of a column or by its position.

## Main definitions

* `Row` — the columns of a row with their values, in the order of the table.
* `insert`, `bind`, `set` — what the statements write.
* `named`, `positioned` — reading a column.

## Main results

* `insert_eq_zip` — an `INSERT` that names every column in its order leaves no default.
* `positioned_zip` — what stands at a position.
-/

namespace Columns

variable {V : Type}

/-- The columns of a row with their values, in the order of the table. -/
abbrev Row (V : Type) := List (String × V)

/-- The row of an `INSERT` that names columns: the others have their defaults. -/
def insert (defaults : Row V) (names : List String) (values : List V) : Row V :=
  defaults.map fun column => (column.1, ((names.zip values).lookup column.1).getD column.2)

/-- The columns an `UPDATE` sets, each to the parameter of a number. -/
def bind (params : List V) (assignments : List (String × ℕ)) : List (String × V) :=
  assignments.filterMap fun a => (params[a.2 - 1]?).map fun v => (a.1, v)

/-- A row with some of its columns set, and the others left as they are. -/
def set (assignments : List (String × V)) (row : Row V) : Row V :=
  row.map fun column => (column.1, (assignments.lookup column.1).getD column.2)

/-- The value of a column. -/
def named (row : Row V) (name : String) : Option V := row.lookup name

/-- The value at a position. -/
def positioned (row : Row V) (i : ℕ) : Option V := (row[i]?).map Prod.snd

/-- A name that is not among the columns can be left out of the row. -/
theorem lookup_cons_of_ne {name other : String} (h : name ≠ other) (v : V) (row : Row V) :
    ((other, v) :: row).lookup name = row.lookup name := by
  rw [List.lookup_cons, beq_eq_false_iff_ne.mpr h]

/-- **An `INSERT` that names every column in its order** leaves none to its default. -/
theorem insert_eq_zip {names : List String} (hnodup : names.Nodup) {defaults : Row V}
    (hnames : defaults.map Prod.fst = names) {values : List V}
    (hlength : values.length = names.length) :
    insert defaults names values = names.zip values := by
  subst hnames
  induction defaults generalizing values with
  | nil => rfl
  | cons column defaults ih =>
    obtain ⟨name, default⟩ := column
    cases values with
    | nil => contradiction
    | cons v values =>
      rw [List.map_cons, List.nodup_cons] at hnodup
      have hcons : insert ((name, default) :: defaults) (name :: defaults.map Prod.fst)
          (v :: values) = (name, v) :: insert defaults (defaults.map Prod.fst) values := by
        rw [insert, insert, List.map_cons, List.zip_cons_cons]
        congr 1
        · simp
        · -- the other columns have other names
          apply List.map_congr_left
          intro column hcolumn
          have hne : column.1 ≠ name := by
            rintro rfl
            exact hnodup.1 (List.mem_map.mpr ⟨column, hcolumn, rfl⟩)
          rw [lookup_cons_of_ne hne]
      have hrest := ih hnodup.2 (Nat.succ.inj hlength)
      rw [List.map_cons, List.zip_cons_cons, hcons, hrest]

/-- What stands at a position of such a row. -/
theorem positioned_zip {names : List String} {values : List V}
    (hlength : values.length = names.length) (i : ℕ) :
    positioned (names.zip values) i = values[i]? := by
  have hsnd : (names.zip values).map Prod.snd = values :=
    List.map_snd_zip (Nat.le_of_eq hlength)
  rw [positioned, ← List.getElem?_map, hsnd]

end Columns
