import CallContract.Entries
import CallContract.Value

/-!
# Equal — when two values are equal

Numbers of all kinds are compared by value, a boolean being zero or one; collections member by member; timestamps with
zones as instants.  A NaN and an object without identity are equal to nothing.  A signaling NaN cannot be compared
with a number, nor a timestamp whose offset cannot be used with one of another zone.  A set keeps one of each equal
members.  Members that differ are told apart by their hashes; that two are equal takes room to find out, because they
are never taken for one value that is met twice.
-/

namespace CallContract.Value

open CallContract.Calendar CallContract.Number

/-! ## Numbers -/

/-- A number of any kind, in one form for each value. -/
inductive Magnitude
  | finite (negative : Bool) (coefficient : Nat) (exponent : Int)
  | infinite (negative : Bool)
  | nan (signaling : Bool)
  deriving DecidableEq

namespace Magnitude

def ofFinite (negative : Bool) (coefficient : Nat) (exponent : Int) : Magnitude :=
  let (negative, m, e) := Decimal.normalForm negative coefficient exponent
  .finite negative m e

def ofInt (n : Int) : Magnitude := ofFinite (n < 0) n.natAbs 0

def ofValue? : Value → Option Magnitude
  | .bool b => some (ofInt (if b then 1 else 0))
  | .int n => some (ofInt n)
  | .float .nan => some (.nan false)
  | .float (.infinity negative) => some (.infinite negative)
  | .float (.finite negative mantissa exponent) =>
    let (m, e) := Double.decimalForm mantissa exponent
    some (ofFinite negative m e)
  | .decimal (.finite negative coefficient exponent) => some (ofFinite negative coefficient exponent)
  | .decimal (.infinity negative) => some (.infinite negative)
  | .decimal (.nan _ signaling _) => some (.nan signaling)
  | _ => none

/-- Equality of numbers; `none` when one is a signaling NaN. -/
def equal? : Magnitude → Magnitude → Option Bool
  | .nan true, _ | _, .nan true => none
  | .nan _, _ | _, .nan _ => some false
  | x, y => some (x == y)

def isPositive : Magnitude → Bool
  | .finite negative coefficient _ => !negative && coefficient ≠ 0
  | .infinite negative => !negative
  | .nan _ => false

/-- Whether a coefficient with a power of ten is at most a natural number; powers beyond the digits at hand are not
computed. -/
def finiteIsAtMost (coefficient : Nat) (exponent : Int) (n : Nat) : Bool :=
  if coefficient = 0 then true
  else if 0 ≤ exponent then exponent.toNat < (Nat.toDigits 10 n).length && coefficient * Nat.pow 10 exponent.toNat ≤ n
  else if (Nat.toDigits 10 coefficient).length ≤ exponent.natAbs then 0 < n
  else coefficient ≤ n * Nat.pow 10 exponent.natAbs

/-- Whether a number is at most a natural number. -/
def isAtMost (n : Nat) : Magnitude → Bool
  | .finite negative coefficient exponent => negative || finiteIsAtMost coefficient exponent n
  | .infinite negative => negative
  | .nan _ => false

end Magnitude

/-- The magnitude of a value that can be put in order with numbers; a decimal NaN cannot. -/
def ordered? : Value → Option Magnitude
  | .decimal (.nan _ _ _) => none
  | v => Magnitude.ofValue? v

/-! ## Timestamps and times -/

/-- Whether the offset of a timestamp depends on which of two equal local times is meant. -/
def isAmbiguous (t : Timestamp) : Bool :=
  ({ t with later := false } : Timestamp).offset? != ({ t with later := true } : Timestamp).offset?

/-- Equality of timestamps: local times in one zone or without zones, otherwise instants; `none` when instants are
wanted and an offset cannot be used. -/
def equalTimestamps? (x y : Timestamp) : Option Bool :=
  if x.zone? = y.zone? then some (x.wallMicros == y.wallMicros)
  else if !(x.hasUsableOffset && y.hasUsableOffset) then none
  else match x.instant?, y.instant? with
    | some i, some j => some (i == j && !isAmbiguous x && !isAmbiguous y)
    | _, _ => some false

/-- Equality of times of day, moved to universal time when both have an offset. -/
def equalTimes (x y : ClockTime) : Bool :=
  match x.offset?, y.offset? with
  | none, none => x.time == y.time
  | some a, some b =>
    if a = b then x.time == y.time
    else (x.time.micros : Int) - a / 1000000 * 1000000 == y.time.micros - b / 1000000 * 1000000
  | _, _ => false

/-! ## All values -/

mutual

/-- Whether two values are equal; `none` when they cannot be compared. -/
def equal? : Value → Value → Option Bool
  | .null, .null => some true
  | .text s, .text t => some (s == t)
  | .list _ xs, .list _ ys => if xs.length = ys.length then equalAll? xs ys else some false
  | .tuple xs, .tuple ys => if xs.length = ys.length then equalAll? xs ys else some false
  | .set _ xs, .set _ ys => if xs.length = ys.length then includedIn? xs ys else some false
  | .map _ xs, .map _ ys => if xs.length = ys.length then equalEntries? xs ys else some false
  | .date x, .date y => some (x == y)
  | .timestamp x, .timestamp y => equalTimestamps? x y
  | .time x, .time y => some (equalTimes x y)
  | .zone x, .zone y => some (x.equals y)
  | .locale x, .locale y => some (x == y)
  | .bytes x, .bytes y => some (x == y)
  | .object (some i) _, .object (some j) _ => some (i == j)
  | x, y => match Magnitude.ofValue? x, Magnitude.ofValue? y with
    | some m, some n => m.equal? n
    | _, _ => some false

/-- Compares the members of two lists in order, up to the first difference. -/
def equalAll? : List Value → List Value → Option Bool
  | x :: xs, y :: ys => do
    if ← equal? x y then equalAll? xs ys else return false
  | [], [] => some true
  | _, _ => some false

/-- Whether every member of the first collection equals one of the second. -/
def includedIn? : List Value → List Value → Option Bool
  | [], _ => some true
  | x :: xs, ys => do
    if ← equalsOne? x ys then includedIn? xs ys else return false

/-- Whether a value equals a member of a collection. -/
def equalsOne? (x : Value) : List Value → Option Bool
  | [] => some false
  | y :: ys => do
    if ← equal? x y then return true else equalsOne? x ys

/-- Compares the values of two maps at the keys of the first one, up to the first difference. -/
def equalEntries? : List (String × Value) → List (String × Value) → Option Bool
  | [], _ => some true
  | (k, x) :: xs, ys => do
    match Entries.get? k ys with
    | none => return false
    | some y => if ← equal? x y then equalEntries? xs ys else return false

end

/-! ## Sets -/

mutual

/-- The part of a value that keeps it from being a member of a set: a list, a map, a set that is not frozen, a
signaling NaN, a timestamp whose offset cannot be used, or a zone that a text states or that is the zone of the host. -/
def obstacle? : Value → Option Value
  | .list identity items => some (.list identity items)
  | .map readOnly entries => some (.map readOnly entries)
  | .set frozen items => if frozen then none else some (.set frozen items)
  | .tuple items => firstObstacle? items
  | .decimal (.nan negative signaling payload) =>
    if signaling then some (.decimal (.nan negative signaling payload)) else none
  | .timestamp t => if t.hasUsableOffset then none else some (.timestamp t)
  | .zone z => if z.isHashable then none else some (.zone z)
  | _ => none

def firstObstacle? : List Value → Option Value
  | [] => none
  | v :: rest => (obstacle? v).or (firstObstacle? rest)

end

/-- Why values do not make a set. -/
inductive SetFault
  /-- A value cannot be a member, because of a part of it. -/
  | obstacle (part : Value)
  /-- Two equal members have collections too deep within each other. -/
  | tooNested

def equalsAny (seen : List Value) (v : Value) : Bool := seen.any fun w => equal? w v = some true

/-- The values without those that equal an earlier one; `seen` are the ones kept so far, reversed. -/
def distinctFrom (room : Room) (seen : List Value) : List Value → Except SetFault (List Value)
  | [] => .ok seen.reverse
  | v :: rest => match obstacle? v with
    | some part => .error (.obstacle part)
    | none =>
      if equalsAny seen v then
        if v.fits room .comparing then distinctFrom room seen rest else .error .tooNested
      else distinctFrom room (v :: seen) rest

/-- The set of the values of a list, in order of first occurrence. -/
def setOf (room : Room) (frozen : Bool) (items : List Value) : Except SetFault Value :=
  (distinctFrom room [] items).map (.set frozen)

end CallContract.Value
