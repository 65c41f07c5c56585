import CallContract.Param

/-!
# Patch — changes to an inherited parameter

A patch names a parameter and carries new values for some of its fields.  It is built from named fields, each of which
is checked.
-/

namespace CallContract

/-! ## Checking fields -/

-- Named fields of an object that is being built.
abbrev Fields := List (String × Value)

namespace Fields

-- The faults found so far, with the names of their fields.
abbrev Faults := List (String × FieldFault)

def text (fields : Fields) (key : String) : Except FieldFault String :=
  match Entries.get? key fields with
  | none => .error .missing
  | some (.text s) => .ok s
  | some _ => .error .notText

/-- A field that is text, null or missing. -/
def text? (fields : Fields) (key : String) : Except FieldFault (Option String) :=
  match Entries.get? key fields with
  | none | some .null => .ok none
  | some (.text s) => .ok (some s)
  | some _ => .error .notText

def yesWords : List String := ["1", "on", "t", "true", "y", "yes"]
def noWords : List String := ["0", "off", "f", "false", "n", "no"]

/-- A value that can be read as a flag: a boolean, a word in any case, or one of the numbers 0 and 1. -/
def asFlag (v : Value) : Except FieldFault Bool :=
  let ofInt? := fun (n : Int) => if n = 1 then .ok true else if n = 0 then .ok false else .error .unreadableFlag
  match v with
  | .bool b => .ok b
  | .text s =>
    let word := String.ofList (s.toList.map Char.toLower)
    if yesWords.contains word then .ok true
    else if noWords.contains word then .ok false
    else .error .unreadableFlag
  | .int n => ofInt? n
  | .float x => match x.toInt? with
    | some n => ofInt? n
    | none => .error .notFlag
  | _ => .error .notFlag

def flag? (fields : Fields) (key : String) : Except FieldFault (Option Bool) :=
  match Entries.get? key fields with
  | none | some .null => .ok none
  | some v => (asFlag v).map some

/-- A flag that may be missing but not null. -/
def flag (fields : Fields) (key : String) (standard : Bool) : Except FieldFault Bool :=
  match Entries.get? key fields with
  | none => .ok standard
  | some v => asFlag v

/-- A markup policy that may be null or missing. -/
def policy? (fields : Fields) (key : String) : Except FieldFault (Option MarkupPolicy) :=
  match Entries.get? key fields with
  | none | some .null => .ok none
  | some (.text s) => match MarkupPolicy.ofName? s with
    | some p => .ok (some p)
    | none => .error .notListed
  | some _ => .error .notListed

/-- A direction that may be null or missing; a system mode gives its direction. -/
def mode? (fields : Fields) (key : String) : Except FieldFault (Option Mode) :=
  match text? fields key with
  | .error fault => .error fault
  | .ok none => .ok none
  | .ok (some s) => if (Mode.ofName s).isListed then .ok (some (Mode.ofName s).base) else .error .badValue

/-- The fault of a field, if it has one. -/
def faultOf {α : Type} (key : String) : Except FieldFault α → Faults
  | .ok _ => []
  | .error fault => [(key, fault)]

end Fields

/-! ## Patches -/

structure Patch where
  name : String
  type? : Option String := none
  mode? : Option Mode := none
  entityName? : Option String := none
  fieldName? : Option String := none
  formLabel? : Option String := none
  default? : Option Default := none
  formDisplay? : Option Bool := none
  optional? : Option Bool := none
  markup? : Option MarkupPolicy := none
  /-- The names of the fields that were given. -/
  given : List String := []

namespace Patch

/-- The names of the fields that a patch can have. -/
def fieldNames : List String :=
  ["name", "type", "mode", "entity_name", "field_name", "form_label", "default_value", "form_display", "optional",
    "allow_html"]

/-- Builds a patch from fields; the default is given apart. -/
def ofFields (fields : Fields) (default? : Option Default) : Except BuildFault Patch :=
  let name := fields.text "name"
  let type := fields.text? "type"
  let mode := fields.mode? "mode"
  let entityName := fields.text? "entity_name"
  let fieldName := fields.text? "field_name"
  let formLabel := fields.text? "form_label"
  let formDisplay := fields.flag? "form_display"
  let optional := fields.flag? "optional"
  let markup := fields.policy? "allow_html"
  let unknown := (fields.filter fun p => !fieldNames.contains p.1).map fun p => (p.1, FieldFault.unknownField)
  let given := (if default?.isSome then ["default_value"] else []) ++ fields.map (·.1)
  match name, type, mode, entityName, fieldName, formLabel, formDisplay, optional, markup, unknown with
  | .ok name, .ok type?, .ok mode?, .ok entityName?, .ok fieldName?, .ok formLabel?, .ok formDisplay?, .ok optional?,
      .ok markup?, [] =>
    .ok { name, type?, mode?, entityName?, fieldName?, formLabel?, default?, formDisplay?, optional?, markup?, given }
  | _, _, _, _, _, _, _, _, _, _ =>
    .error (.refusedFields (Fields.faultOf "name" name ++ Fields.faultOf "type" type ++ Fields.faultOf "mode" mode
      ++ Fields.faultOf "entity_name" entityName ++ Fields.faultOf "field_name" fieldName
      ++ Fields.faultOf "form_label" formLabel ++ Fields.faultOf "form_display" formDisplay
      ++ Fields.faultOf "optional" optional ++ Fields.faultOf "allow_html" markup ++ unknown))

-- The new text of a field: the one of the patch unless it is missing or empty.
def newText (new? : Option String) (old : String) : String := (new?.filter (· ≠ "")).getD old

-- The new text of a field that may be missing.
def newText? (new? old? : Option String) : Option String := (new?.filter (· ≠ "")).or old?

-- The default of the patch, unless it is missing or null.
def newDefault (new? : Option Default) (old : Default) : Default := (new?.filter fun d => !d.isMissing).getD old

def isEmpty (patch : Patch) : Bool :=
  [patch.type?, patch.entityName?, patch.fieldName?, patch.formLabel?].all (!Param.isGiven ·) && patch.mode?.isNone
    && patch.default?.all (·.isMissing) && patch.formDisplay?.isNone && patch.optional?.isNone && patch.markup?.isNone

/-- The parameter with the fields that a patch sets. -/
def apply (patch : Patch) (p : Param) : Param :=
  { p with
    type := newText patch.type? p.type
    mode := patch.mode?.getD p.mode
    entityName? := newText? patch.entityName? p.entityName?
    fieldName? := newText? patch.fieldName? p.fieldName?
    formLabel? := newText? patch.formLabel? p.formLabel?
    default := newDefault patch.default? p.default
    formDisplay := patch.formDisplay?.getD p.formDisplay
    optional := patch.optional?.getD p.optional
    markup := patch.markup?.getD p.markup }

-- A patch that sets no field changes nothing.
theorem apply_of_isEmpty {patch : Patch} (h : patch.isEmpty = true) (p : Param) : patch.apply p = p := by
  obtain ⟨name, type?, mode?, entityName?, fieldName?, formLabel?, default?, formDisplay?, optional?, markup?, given⟩ :=
    patch
  simp only [isEmpty, List.all_cons, List.all_nil, Bool.and_true, Bool.and_eq_true, Option.isNone_iff_eq_none] at h
  obtain ⟨⟨⟨⟨⟨⟨ht, he, hf, hl⟩, rfl⟩, hd⟩, rfl⟩, rfl⟩, rfl⟩ := h
  have text : ∀ new? : Option String, (!Param.isGiven new?) = true → new?.filter (· ≠ "") = none := by
    intro new? h
    cases new? <;> simp_all [Param.isGiven]
  have default : default?.filter (fun d => !d.isMissing) = none := by cases default? <;> simp_all
  simp only [apply, newText, newText?, newDefault, text _ ht, text _ he, text _ hf, text _ hl, default]
  rfl

end Patch

end CallContract
