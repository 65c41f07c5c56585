import CallContract.Calendar.Timestamp
import CallContract.Locale
import CallContract.Number.Decimal
import CallContract.Room

/-!
# Value — what a context can carry

Contexts hold values of many kinds: numbers of three kinds, text, collections, dates and times, zones, locales, bytes
and objects of kinds that are not known here.  A list keeps an identity, because a list that two contexts share is
one list: what is appended through the one is seen through the other.
-/

namespace CallContract

open CallContract.Calendar CallContract.Number

-- The identity of a list or an object; `none` is one that nothing else refers to.
abbrev Identity := Option Nat

inductive Value
  | null
  | bool (b : Bool)
  | int (n : Int)
  | float (x : Double)
  | decimal (d : Decimal)
  | text (s : String)
  | list (identity : Identity) (items : List Value)
  | tuple (items : List Value)
  /-- The items are pairwise different. -/
  | set (frozen : Bool) (items : List Value)
  /-- The keys are pairwise different. -/
  | map (readOnly : Bool) (entries : List (String × Value))
  | date (d : Date)
  | timestamp (t : Timestamp)
  | time (t : ClockTime)
  | zone (z : Zone)
  | locale (l : Locale)
  | bytes (b : List UInt8)
  | object (identity : Identity) (name : String)
  deriving Inhabited

namespace Value

def newList (items : List Value) : Value := .list none items

def ofEntries (entries : List (String × Value)) : Value := .map false entries

/-- The word by which messages name the kind of a zone. -/
def zoneKind : Zone → String
  | .region _ _ => "ZoneInfo"
  | .utc | .fixed _ => "timezone"
  | .statedUtc => "tzutc"
  | .statedOffset _ _ => "tzoffset"
  | .host _ => "tzlocal"

/-- The word by which messages name the kind of a value. -/
def kind : Value → String
  | .null => "NoneType"
  | .bool _ => "bool"
  | .int _ => "int"
  | .float _ => "float"
  | .decimal _ => "Decimal"
  | .text _ => "str"
  | .list _ _ => "list"
  | .tuple _ => "tuple"
  | .set frozen _ => if frozen then "frozenset" else "set"
  | .map readOnly _ => if readOnly then "mappingproxy" else "dict"
  | .date _ => "date"
  | .timestamp _ => "datetime"
  | .time _ => "time"
  | .zone z => zoneKind z
  | .locale _ => "Locale"
  | .bytes _ => "bytes"
  | .object _ _ => "Opaque"

def isNull : Value → Bool
  | .null => true
  | _ => false

/-- Whether a value counts as true: all values do except null, false, zero and empty text and collections. -/
def isTruthy : Value → Bool
  | .null => false
  | .bool b => b
  | .int n => n ≠ 0
  | .float (.finite _ mantissa _) => mantissa ≠ 0
  | .decimal (.finite _ coefficient _) => coefficient ≠ 0
  | .text s => s ≠ ""
  | .list _ items | .tuple items | .set _ items => !items.isEmpty
  | .map _ entries => !entries.isEmpty
  | .bytes b => !b.isEmpty
  | _ => true

/-- The number of elements of a text or collection. -/
def length? : Value → Option Nat
  | .text s => some s.length
  | .list _ items | .tuple items | .set _ items => some items.length
  | .map _ entries => some entries.length
  | .bytes b => some b.length
  | _ => none

def locale? : Value → Option Locale
  | .locale l => some l
  | _ => none

def zone? : Value → Option Zone
  | .zone z => some z
  | _ => none

/-! ## Offsets -/

mutual

/-- Whether every timestamp in a value has an offset that can be used; otherwise the value cannot be shown. -/
def canBeShown : Value → Bool
  | .timestamp t => t.hasUsableOffset
  | .list _ items | .tuple items | .set _ items => canAllBeShown items
  | .map _ entries => canEntriesBeShown entries
  | _ => true

/-- The same for the members of a collection. -/
def canAllBeShown : List Value → Bool
  | [] => true
  | v :: rest => canBeShown v && canAllBeShown rest

def canEntriesBeShown : List (String × Value) → Bool
  | [] => true
  | (_, v) :: rest => canBeShown v && canEntriesBeShown rest

end

/-! ## Room -/

def mapShape (readOnly : Bool) : Shape := if readOnly then .readOnlyMap else .map

mutual

/-- Whether there is room for a walk through all of a value. -/
def fits (room : Room) (walk : Walk) : Value → Bool
  | .list _ items => allFit (room.inside? walk .list) walk items
  | .tuple items => allFit (room.inside? walk .tuple) walk items
  | .set _ items => allFit (room.inside? walk .set) walk items
  | .map readOnly entries => entriesFit (room.inside? walk (mapShape readOnly)) walk entries
  | _ => true

/-- The same for the members of a collection, given the room inside of it. -/
def allFit (inside? : Option Room) (walk : Walk) : List Value → Bool
  | [] => true
  | v :: rest => match inside? with
    | none => false
    | some room => fits room walk v && allFit inside? walk rest

def entriesFit (inside? : Option Room) (walk : Walk) : List (String × Value) → Bool
  | [] => true
  | (_, v) :: rest => match inside? with
    | none => false
    | some room => fits room walk v && entriesFit inside? walk rest

end

/-! ## Lists that are shared -/

mutual

/-- The value with `item` appended to every list of an identity in it. -/
def appendTo (identity : Nat) (item : Value) : Value → Value
  | .list i items =>
    let items := appendToAll identity item items
    .list i (if i = some identity then items ++ [item] else items)
  | .tuple items => .tuple (appendToAll identity item items)
  | .map readOnly entries => .map readOnly (appendToEntries identity item entries)
  | v => v

/-- The same for the members of a collection. -/
def appendToAll (identity : Nat) (item : Value) : List Value → List Value
  | [] => []
  | v :: rest => appendTo identity item v :: appendToAll identity item rest

def appendToEntries (identity : Nat) (item : Value) : List (String × Value) → List (String × Value)
  | [] => []
  | (k, v) :: rest => (k, appendTo identity item v) :: appendToEntries identity item rest

end

mutual

/-- Gives every list and object without an identity one of its own, from `next` on. -/
def place (next : Nat) : Value → Value × Nat
  | .list none items =>
    let (items, following) := placeAll (next + 1) items
    (.list (some next) items, following)
  | .list (some i) items =>
    let (items, following) := placeAll next items
    (.list (some i) items, following)
  | .tuple items =>
    let (items, following) := placeAll next items
    (.tuple items, following)
  | .set frozen items =>
    let (items, following) := placeAll next items
    (.set frozen items, following)
  | .map readOnly entries =>
    let (entries, following) := placeEntries next entries
    (.map readOnly entries, following)
  | .object none name => (.object (some next) name, next + 1)
  | v => (v, next)

/-- The same for the members of a collection. -/
def placeAll (next : Nat) : List Value → List Value × Nat
  | [] => ([], next)
  | v :: rest =>
    let (v, following) := place next v
    let (rest, following) := placeAll following rest
    (v :: rest, following)

def placeEntries (next : Nat) : List (String × Value) → List (String × Value) × Nat
  | [] => ([], next)
  | (k, v) :: rest =>
    let (v, following) := place next v
    let (rest, following) := placeEntries following rest
    ((k, v) :: rest, following)

end

/-! ## Copies -/

/-- Why a value cannot be copied. -/
inductive CopyFault
  | readOnlyMap
  /-- Collections lie too deep within each other. -/
  | tooNested
  deriving DecidableEq

mutual

/-- A copy that shares no list and no object with the value; a read-only map cannot be copied. -/
def copy (room : Room) : Value → Except CopyFault Value
  | .list _ items => (copyAll (room.inside? .copying .list) items).map (.list none)
  | .tuple items => (copyAll (room.inside? .copying .tuple) items).map .tuple
  | .set frozen items => (copyAll (room.inside? .copying .set) items).map (.set frozen)
  | .map readOnly entries =>
    if readOnly then .error .readOnlyMap
    else (copyEntries (room.inside? .copying .map) entries).map (.map false)
  | .object _ name => .ok (.object none name)
  | v => .ok v

/-- The same for the members of a collection, given the room inside of it. -/
def copyAll (inside? : Option Room) : List Value → Except CopyFault (List Value)
  | [] => .ok []
  | v :: rest => match inside? with
    | none => .error .tooNested
    | some room => do
      let v ← copy room v
      let rest ← copyAll inside? rest
      return v :: rest

def copyEntries (inside? : Option Room) : List (String × Value) → Except CopyFault (List (String × Value))
  | [] => .ok []
  | (k, v) :: rest => match inside? with
    | none => .error .tooNested
    | some room => do
      let v ← copy room v
      let rest ← copyEntries inside? rest
      return (k, v) :: rest

end

end Value

end CallContract
