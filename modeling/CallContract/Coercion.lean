import CallContract.Context

/-!
# Coercion — making a context fit a contract

The values for the parameters of a contract are taken from a loosely typed source and converted to their types; a value
that does not convert is taken as it is.  Defaults fill what is missing, and flagged parameters are converted in place.
-/

namespace CallContract.Coercion

open CallContract.Calendar Context

structure Options where
  withInternal : Bool := true
  /-- Stands before the names in the source. -/
  sourceWord? : Option String := none
  /-- Stands before the names in the target. -/
  targetWord? : Option String := none
  locale? : Option Locale := none
  zone? : Option Zone := none

/-- Where values are taken from. -/
inductive Source
  /-- A value that stays as it is. -/
  | value (v : Value)
  /-- The target as it is being filled: the target map itself, or a view that reads through to it. -/
  | target

def Source.read : Source → ContextAction Value
  | .value v => pure (given v)
  | .target => do return .ofEntries (← Context.read)

def Source.entries (source : Source) : ContextAction (Entries Value) := do found (Context.entries (← source.read))

/-- Where conversions are made: the world with the settings of the environment. -/
structure Surroundings extends World where
  settings : Settings := {}

-- What is given, or else what is found.
def givenOr {α : Type} (given? : Option α) (find : ContextAction α) : ContextAction α :=
  match given? with
  | some a => pure a
  | none => find

/-- The locale and the zone to convert by: those that are given, or else those that a context carries. -/
def guidance (around : Surroundings) (locale? : Option Locale) (zone? : Option Zone)
    (source : ContextAction (Entries Value)) : ContextAction (Locale × Zone) := do
  let locale ← givenOr locale? do Context.locale around.settings around.room (← source)
  let zone ← givenOr zone? do Context.timeZone around.settings around.toWorld (← source)
  return (locale, zone)

/-- Converts a value for a parameter; one that does not convert is kept. -/
def convertFor (around : Surroundings) (service : String) (p : Param) (locale : Locale) (zone : Zone) (v : Value) :
    ContextAction Value :=
  orElseNoting (some service) v
    (Conversion.convert { world := around.toWorld, locale? := some locale, zone, field? := some p.name } p.type v)

-- Whether the value of a parameter may be gathered from several keys.
def gathers (p : Param) : Bool := Param.isGiven p.mapPrefix? || Param.isGiven p.listSuffix?

/-- The value that is gathered for a parameter from several keys. -/
def gathered? (options : Options) (p : Param) (source : Entries Value) : Option Value :=
  match p.mapPrefix?.filter (· ≠ "") with
  | some start =>
    let entries := gatherMap (joinedName options.sourceWord? start) source
    if entries.isEmpty then none else some (.ofEntries entries)
  | none => match p.listSuffix?.filter (· ≠ "") with
    | some ending =>
      let items := gatherList ending source
      if items.isEmpty then none else some (.newList items)
    | none => none

/-- Takes the value of one parameter from the source: the one under its name, or else a gathered one. -/
def takeParam (around : Surroundings) (service : String) (options : Options) (locale : Locale) (zone : Zone)
    (source : Source) (p : Param) : ContextAction Unit := do
  let given ← source.read
  let targetKey := joinedName options.targetWord? p.name
  match ← found (lookup? (joinedName options.sourceWord? p.name) given) with
  | some v => write targetKey (← convertFor around service p locale zone v)
  | none =>
    if gathers p then
      match gathered? options p (← source.entries) with
      | some v => write targetKey v
      | none => pure ()

/-- Whether a parameter is taken in a direction. -/
def isTaken (options : Options) (direction : Mode) (p : Param) : Bool :=
  p.mode.takesPartIn direction && (options.withInternal || !p.internal)

-- The parameters for a mode: the reserved ones of a system mode, otherwise all.
def candidates (s : Store) (c : Contract) (mode : Mode) : List Param := (s.reserved? c mode).getD (s.paramsOf c)

/-- Fills a target with the values of the parameters for a mode. -/
def fill (around : Surroundings) (s : Store) (c : Contract) (mode : Mode) (source : Source) (options : Options) :
    ContextAction Unit := do
  if !mode.isListed then throw (.definition (.invalidCoercionMode mode.name c.name))
  let (locale, zone) ← guidance around options.locale? options.zone? source.entries
  ((candidates s c mode).filter (isTaken options mode.base)).forM
    (takeParam around c.name options locale zone source)

/-! ## Defaults -/

/-- The record of a default that was applied. -/
def defaultRecord (service name : String) (written : List Char) : Record :=
  { level := .info
    channel := .coercion
    message := "Set default value [" ++ String.ofList written ++ "] for parameter [" ++ service ++ "." ++ name ++ "]" }

/-- Writes the default of a parameter and records it if wanted. -/
def applyDefault (room : Room) (isRecorded : Bool) (service : String) (p : Param) : ContextAction Unit := do
  match p.produceDefault room (← get).uses with
  | .error fault => throw (.default fault)
  | .ok (v, uses) =>
    modify fun w => { w with uses }
    write p.name v
    if isRecorded then
      match v.written room with
      | .error reason => throw (.conversion (Fault.ofUnwritten reason))
      | .ok written => modify fun w => { w with journal := w.journal ++ [defaultRecord service p.name written] }

/-- Fills every parameter of a direction that is missing or null and has a default. -/
def applyDefaults (around : Surroundings) (s : Store) (c : Contract) (mode : Mode) : ContextAction Unit :=
  let isRecorded := (around.settings.logsDefaults || c.info.debug) && !c.isQuiet
  (s.paramsOf c).forM fun p => do
    if p.mode.takesPartIn mode.base && !p.default.isMissing then
      if (present? p.name (← read)).isNone then applyDefault around.room isRecorded c.name p

/-! ## Conversion in place -/

/-- Converts the value of a parameter in place, if it is there. -/
def convertInPlace (around : Surroundings) (service : String) (locale : Locale) (zone : Zone) (p : Param) :
    ContextAction Unit := do
  match present? p.name (← read) with
  | none => pure ()
  | some v => write p.name (← convertFor around service p locale zone v)

/-- Converts the flagged parameters of a direction in place. -/
def convertFlagged (around : Surroundings) (s : Store) (c : Contract) (mode : Mode) (locale? : Option Locale)
    (zone? : Option Zone) : ContextAction Unit := do
  let params := (s.convertible c).map s.param
  if params.isEmpty then return ()
  let (locale, zone) ← guidance around locale? zone? read
  (params.filter fun p => p.mode.takesPartIn mode.base).forM (convertInPlace around c.name locale zone)

end CallContract.Coercion
