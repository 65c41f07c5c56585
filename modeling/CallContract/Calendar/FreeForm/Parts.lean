import CallContract.Calendar.FreeForm.Token
import CallContract.Calendar.Date

/-!
# Parts — which number is the year, the month and the day

The numbers of a date are collected in order.  Some are labelled by the form in which they stand; the others are told
apart by their sizes, the month coming before the day.
-/

namespace CallContract.Calendar.FreeForm

/-- The role of a number that is known from its form. -/
inductive Role
  | year
  | month
  | day
  deriving DecidableEq

/-- The numbers of a date, the places of those whose role is known, and whether a year was written with its
century. -/
structure Parts where
  values : List Nat := []
  yearAt? : Option Nat := none
  monthAt? : Option Nat := none
  dayAt? : Option Nat := none
  withCentury : Bool := false

namespace Parts

/-- Records the role of the last number; a role is given once. -/
def label? (p : Parts) (place : Nat) : Option Role → Option Parts
  | none => some p
  | some .year => if p.yearAt?.isSome then none else some { p with yearAt? := some place }
  | some .month => if p.monthAt?.isSome then none else some { p with monthAt? := some place }
  | some .day => if p.dayAt?.isSome then none else some { p with dayAt? := some place }

/-- Appends a number.  One that is long or large can only be a year. -/
def append? (p : Parts) (value : Nat) (large : Bool) (role : Option Role) : Option Parts :=
  if large ∧ role ≠ none ∧ role ≠ some .year then none
  else
    let role := if large then some .year else role
    let p := { p with values := p.values ++ [value], withCentury := p.withCentury || large }
    p.label? (p.values.length - 1) role

/-- Appends a number as it is written: more than two digits make a year. -/
def appendToken? (p : Parts) (t : Token) (role : Option Role) : Option Parts := do
  let large := t.all Text.isDigitLike && 2 < t.length
  if large ∧ role ≠ none ∧ role ≠ some .year then none
  let value ← integer? t
  p.append? value large role

/-- Appends a number by its value: more than a hundred makes a year. -/
def appendQuantity? (p : Parts) (q : Quantity) : Option Parts :=
  p.append? q.floor (100 * Nat.pow 10 q.scale < q.units) none

def canBeDay (p : Parts) (q : Quantity) : Bool :=
  let atMost := fun (n : Nat) => Nat.pow 10 q.scale ≤ q.units && q.units ≤ n * Nat.pow 10 q.scale
  if p.dayAt?.isSome then false
  else match p.monthAt? with
    | none => atMost 31
    | some m =>
      let month := p.values.getD m 1
      match p.yearAt? with
      | none => atMost (daysInMonth 2000 month)
      | some y => atMost (daysInMonth (p.values.getD y 1) month)

-- A year, a month and a day, any of which may be missing.
abbrev Resolved := Option Nat × Option Nat × Option Nat

/-- The numbers in the order of three roles. -/
def arrange (p : Parts) (year month day : Nat) : Resolved :=
  (p.values[year]?, p.values[month]?, p.values[day]?)

/-- All roles are known, or two of three. -/
def resolveKnown (p : Parts) : Resolved :=
  let missing := fun (a b : Option Nat) => [0, 1, 2].find? fun x => some x ≠ a ∧ some x ≠ b
  let (y, m, d) :=
    if p.values.length = 3 then
      match p.yearAt?, p.monthAt?, p.dayAt? with
      | none, m, d => (missing m d, m, d)
      | y, none, d => (y, missing y d, d)
      | y, m, none => (y, m, missing y m)
      | y, m, d => (y, m, d)
    else (p.yearAt?, p.monthAt?, p.dayAt?)
  (y.bind (p.values[·]?), m.bind (p.values[·]?), d.bind (p.values[·]?))

/-- Tells the numbers apart; `none` when there are more than three. -/
def resolve? (p : Parts) : Option Resolved :=
  let known := [p.yearAt?, p.monthAt?, p.dayAt?].countP Option.isSome
  if (p.values.length = known ∧ 0 < known) ∨ (p.values.length = 3 ∧ known = 2) then some p.resolveKnown
  else
    match p.values, p.monthAt? with
    | [], _ => some (none, none, none)
    | [a], none => some (if 31 < a then (some a, none, none) else (none, none, some a))
    | [a], some _ => some (none, some a, none)
    | [a, b], some m =>
      let (month, other) := if m = 0 then (a, b) else (b, a)
      some (if 31 < other then (some other, some month, none) else (none, some month, some other))
    | [a, b], none =>
      some (if 31 < a then (some a, some b, none)
        else if 31 < b then (some b, some a, none)
        else (none, some a, some b))
    | [_, b, _], some 0 => some (if 31 < b then p.arrange 1 0 2 else p.arrange 2 0 1)
    | [a, _, _], some 1 => some (if 31 < a then p.arrange 0 1 2 else p.arrange 2 1 0)
    | [_, b, _], some _ => some (if 31 < b then p.arrange 1 2 0 else p.arrange 0 2 1)
    | [a, _, _], none =>
      some (if 31 < a ∨ p.yearAt? = some 0 then p.arrange 0 1 2
        else if 12 < a then p.arrange 2 1 0
        else p.arrange 2 0 1)
    | _, _ => none

end Parts

end CallContract.Calendar.FreeForm
