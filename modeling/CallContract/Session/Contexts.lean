import CallContract.Session.Contracts

/-!
# Contexts — contexts under names, and the calls they are made for

A context that a name stands for is changed where it is: every name for it, and every list that it shares with another
context, shows the change.
-/

namespace CallContract

/-- A context to work on: a value, or the context that a name stands for. -/
inductive ContextRef
  | value (v : Value)
  | known (name : String)

namespace Session

/-! ## Slots -/

def contextAt (s : Session) (slot : Slot) : Value := s.slots[slot]?.getD default

/-- A value whose lists and objects have identities. -/
def settle (v : Value) : Step Value := do
  let s ← get
  let (v, nextIdentity) := v.place s.nextIdentity
  set { s with nextIdentity }
  return v

def newSlot (v : Value) : Step Slot := do
  let v ← settle v
  let s ← get
  set { s with slots := s.slots.push v }
  return s.slots.size

def setSlot (slot : Slot) (v : Value) : Step Unit := do
  let v ← settle v
  modify fun s => { s with slots := s.slots.setIfInBounds slot v }

def slotOf : ContextRef → Step Slot
  | .value v => newSlot v
  | .known name => do named name (← get).contexts

def contextOf (ref : ContextRef) : Step Value := do
  let slot ← slotOf ref
  return (← get).contextAt slot

/-- Lets a name stand for the context at a slot. -/
def nameContext (name : String) (slot : Slot) : Step Unit :=
  modify fun s => { s with contexts := Entries.put name slot s.contexts }

/-- Does work on the context at a slot; the failures that it noted are its result. -/
def workAt (slot : Slot) (action : ContextAction Unit) : Step (List Mismatch) := do
  let s ← get
  let v := s.contextAt slot
  let keep := fun (w : ContextWork) => do
    setSlot slot (Context.finished v w)
    modify fun s => { s with uses := w.uses }
    note w.journal
  match action (Context.begin v s.uses) with
  | .ok _ w =>
    keep w
    return w.failures
  | .error fault w =>
    keep w
    throw (.context fault)

/-! ## Contexts under names -/

def keepContext (name : String) (v : Value) : Step Value := do
  nameContext name (← newSlot v)
  contextOf (.known name)

/-- Appends a value to the list at a key of a context. -/
def appendToContext (name key : String) (item : Value) : Step Value := do
  let v ← contextOf (.known name)
  let item ← settle item
  match v with
  | .map _ entries => match Entries.get? key entries with
    | none => throw .noEntry
    | some (.list (some identity) _) =>
      modify fun s => { s with slots := s.slots.map (Value.appendTo identity item) }
      contextOf (.known name)
    | some _ => throw .notAList
  | _ => throw (.context .notWritable)

def setInContext (name key : String) (v : Value) : Step Value := do
  let slot ← slotOf (.known name)
  let v ← settle v
  let _ ← workAt slot (Context.write key v)
  contextOf (.known name)

/-! ## Calls -/

/-- The context that coercion has filled, the failures on the way, and whether it was given as the target. -/
structure Filled where
  target : Value
  failures : List Mismatch
  isGiven : Bool

/-- The slot of the target of coercion: the one given, unless it holds null, or else a new one. -/
def targetSlot (given? : Option String) : Step (Slot × Bool) := do
  match given? with
  | none => return (← newSlot (.ofEntries []), false)
  | some name =>
    let slot ← slotOf (.known name)
    if ((← get).contextAt slot).isNull then return (← newSlot (.ofEntries []), false) else return (slot, true)

/-- Builds a context for a contract from a source, and keeps it under a name if wanted. -/
def makeValid (name : String) (source : ContextRef) (mode : Mode) (options : Coercion.Options)
    (target? keptName? : Option String) : Step Filled := do
  let c ← contract name
  let sourceSlot ← slotOf source
  let (slot, isGiven) ← targetSlot target?
  let s ← get
  let v := s.contextAt sourceSlot
  let source := if slot = sourceSlot ∧ v.isTruthy ∧ Context.access v ≠ .none then .target else .value v
  let failures ← workAt slot (Coercion.fill s.around s.store c mode source options)
  match keptName? with
  | some kept => nameContext kept slot
  | none => pure ()
  return { target := (← get).contextAt slot, failures, isGiven }

def applyDefaults (name : String) (context : ContextRef) (mode : Mode) : Step Value := do
  let c ← contract name
  let slot ← slotOf context
  let s ← get
  let _ ← workAt slot (Coercion.applyDefaults s.around s.store c mode)
  return (← get).contextAt slot

/-- Converts the flagged values of a context in place. -/
def convertFlagged (name : String) (context : ContextRef) (mode : Mode) (locale? : Option Locale)
    (zone? : Option Calendar.Zone) : Step (Value × List Mismatch) := do
  let _ ← contract name
  let slot ← slotOf context
  let _ ← convertible name
  let c ← contract name
  let s ← get
  let failures ← workAt slot (Coercion.convertFlagged s.around s.store c mode locale? zone?)
  return ((← get).contextAt slot, failures)

/-- The values of a context for the parameters that go into a service; they are sought in a map only. -/
def sequence (name : String) (context : ContextRef) : Step (List Value) := do
  let c ← contract name
  let v := Context.given (← contextOf context)
  let store := (← get).store
  if (store.inputs c).isEmpty then return []
  match Context.entries v with
  | .ok entries => return store.sequence c entries
  | .error fault => throw (.context fault)

def check {α : Type} (checking : Validation.Checking α) : Step α := do
  let keep := fun (t : Validation.Trace) => do
    note t.journal
    modify fun s => { s with calls := s.calls ++ t.calls }
  match checking {} with
  | .ok a t =>
    keep t
    return a
  | .error failure t =>
    keep t
    throw (.validation failure)

def validate (name : String) (context : ContextRef) (mode : Mode) (locale? : Option Locale) (isRecorded : Bool) :
    Step Unit := do
  let c ← contract name
  let v ← contextOf context
  let s ← get
  check (Validation.validate s.around.room s.store c v mode locale? isRecorded)

/-- Whether a context is valid for going in. -/
def isValid (name : String) (context : ContextRef) (locale? : Option Locale) : Step Bool := do
  let c ← contract name
  let v ← contextOf context
  let s ← get
  check (Validation.isValid s.around.room s.store c v locale?)

end Session

end CallContract
