import CallContract.Calendar.Date

/-!
# TimeOfDay — times and offsets from universal time
-/

namespace CallContract.Calendar

open CallContract.Text

structure TimeOfDay where
  hour : Nat
  minute : Nat
  second : Nat
  micro : Nat
  valid : hour < 24 ∧ minute < 60 ∧ second < 60 ∧ micro < 1000000
  deriving DecidableEq

namespace TimeOfDay

/-- The time with the given parts, if there is one. -/
def ofParts? (hour minute second micro : Nat) : Option TimeOfDay :=
  if h : hour < 24 ∧ minute < 60 ∧ second < 60 ∧ micro < 1000000 then
    some ⟨hour, minute, second, micro, h⟩
  else none

@[simp] theorem ofParts?_self (t : TimeOfDay) : ofParts? t.hour t.minute t.second t.micro = some t := by
  simp [ofParts?, t.valid]

def midnight : TimeOfDay := ⟨0, 0, 0, 0, by decide⟩

def micros (t : TimeOfDay) : Nat := ((t.hour * 60 + t.minute) * 60 + t.second) * 1000000 + t.micro

/-- The time a number of microseconds after midnight, modulo a day. -/
def ofMicros (n : Nat) : TimeOfDay :=
  ⟨n / 3600000000 % 24, n / 60000000 % 60, n / 1000000 % 60, n % 1000000, by omega⟩

/-- Hours, minutes and seconds, and six digits of microseconds unless they are zero. -/
def toText (t : TimeOfDay) : List Char :=
  padded 2 t.hour ++ ':' :: padded 2 t.minute ++ ':' :: padded 2 t.second
    ++ (if t.micro = 0 then [] else '.' :: padded 6 t.micro)

end TimeOfDay

/-- An offset from universal time, in microseconds: a sign, hours and minutes, and seconds and their fraction unless
they are zero. -/
def offsetText (micros : Int) : List Char :=
  let n := micros.natAbs
  let seconds := n / 1000000
  (if micros < 0 then '-' else '+') :: padded 2 (seconds / 3600) ++ ':' :: padded 2 (seconds / 60 % 60)
    ++ (if seconds % 60 = 0 ∧ n % 1000000 = 0 then [] else ':' :: padded 2 (seconds % 60))
    ++ (if n % 1000000 = 0 then [] else '.' :: padded 6 (n % 1000000))

/-- A time of day with an optional offset, in microseconds. -/
structure ClockTime where
  time : TimeOfDay
  offset? : Option Int
  /-- Whether it is the later one of two equal local times. -/
  later : Bool
  deriving DecidableEq

/-- The time, followed by its offset. -/
def ClockTime.toText (t : ClockTime) : List Char :=
  t.time.toText ++ (match t.offset? with
    | some micros => offsetText micros
    | none => [])

end CallContract.Calendar
