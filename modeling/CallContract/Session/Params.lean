import CallContract.Session.Basic

/-!
# Params — parameters under names

A parameter is made from a draft or is the one that a name stands for.  Contracts that hold a named parameter hold the
parameter itself, so a change of it shows in all of them.  A name may also stand for a parameter that was looked for
and not found; nothing can be asked of it.
-/

namespace CallContract

/-- A parameter to be made, or the one that a name stands for. -/
inductive ParamDraft
  | new (p : Param) (policyName? : Option String)
  | unnamed
  | known (name : String)

/-- A patch to be made. -/
structure PatchDraft where
  fields : Fields
  default? : Option Default := none

namespace PatchDraft

def build (d : PatchDraft) : Except BuildFault Patch := Patch.ofFields d.fields d.default?

end PatchDraft

namespace Session

def addParam (p : Param) : Step ParamId := do
  let s ← get
  set { s with store := s.store.pushParam p }
  return s.store.params.size

/-- Makes the parameter of a draft; a name may stand for none. -/
def makeParam : ParamDraft → Step (Option ParamId)
  | .new p policyName? => do return some (← addParam (← built (p.build policyName?)))
  | .unnamed => throw (.build .unnamed)
  | .known name => paramId? name

/-- Lets a name stand for a parameter or for the lack of one. -/
def nameParam (name : String) (id? : Option ParamId) : Step Unit :=
  modify fun s => { s with params := Entries.put name id? s.params }

def buildParam (name : String) (draft : ParamDraft) : Step (Option Param) := do
  nameParam name (← makeParam draft)
  param? name

/-- Puts a copy of a parameter under another name; the flag says whether the copy equals the parameter. -/
def cloneParam (name copyName : String) : Step (Param × Bool) := do
  let p ← param name
  let copy ← built p.clone
  nameParam copyName (← addParam copy)
  return (copy, copy.mode = p.mode)

def changeParam (name : String) (change : Param → Param) : Step Param := do
  let id ← paramId name
  modify fun s => { s with store := s.store.setParam id (change (s.store.param id)) }
  param name

/-- Gives a parameter the markup policy of a name. -/
def setPolicy (name policyName : String) : Step Param := do
  let p := (← param? name).getD default
  let markup ← built (p.policy (some policyName))
  changeParam name fun p => { p with markup }

/-- Sets one field of a parameter without checks, except that a markup policy is named by a text. -/
def setField (name field : String) (d : Default) : Step Param := do
  match field, d with
  | "allow_html", .value (.text policyName) => setPolicy name policyName
  | field, d =>
    let p ← param name
    match p.setField? field d with
    | some p => changeParam name fun _ => p
    | none => throw .unknownName

/-- Applies a patch to a parameter; a patch that sets nothing may also be applied to the lack of one. -/
def patchParam (name : String) (draft : PatchDraft) : Step (Option Param) := do
  let id? ← paramId? name
  let patch ← built draft.build
  if id?.isNone && patch.isEmpty then return none
  return some (← changeParam name patch.apply)

def paramDefault (name : String) : Step Value := do
  let p ← param name
  match p.produceDefault (← get).around.room (← get).uses with
  | .ok (v, uses) =>
    modify fun s => { s with uses }
    return v
  | .error fault => throw (.context (.default fault))

end Session

end CallContract
