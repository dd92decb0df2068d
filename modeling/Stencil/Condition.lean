import Stencil.Fault
import Stencil.Json.Print

/-!
# Conditions

A condition guards a directive. It asks whether a key is in the data, whether a file is there, or
whether a key has a value; each of the three also exists in the negative. A list of conditions
holds when all of its members do.

This module reads conditions; whether one holds depends on a session.
-/

set_option autoImplicit false

namespace Stencil

/-! ## Fields that directives share -/

/-- The directory that a relative path in a template starts from. -/
inductive RelativeTo where
  | workingDir
  | projectRoot
  | templateDir
  deriving DecidableEq

/-- The directory that a name means. -/
def RelativeTo.ofName? (name : String) : Option RelativeTo :=
  if name = "workingDir" then some .workingDir
  else if name = "projectRoot" then some .projectRoot
  else if name = "templateDir" then some .templateDir
  else none

/-- The text of a field, unless it is absent, empty or no text. -/
def filledField? (spec : Value) (field : String) : Option String :=
  ((spec.field? field).bind Value.asStr?).filter (· != "")

/-- A field that has to hold a text. -/
def requiredText (spec : Value) (kind : SpecKind) (subject field : String) : Except Fault String :=
  match filledField? spec field with
  | some s => .ok s
  | none => .error (.missingField kind subject field)

/-- The `relativeTo` field; the working directory without one. -/
def relativeToField (spec : Value) (kind : SpecKind) : Except Fault RelativeTo :=
  match filledField? spec "relativeTo" with
  | none => .ok .workingDir
  | some name =>
    match RelativeTo.ofName? name with
    | some r => .ok r
    | none =>
      .error (.invalidSpec kind
        s!"relativeTo must be workingDir, projectRoot or templateDir, got '{name}'")

/-! ## Conditions -/

/-- A guard on a directive. -/
inductive Condition where
  | exists (key : String)
  | filePresent (file : String) (relativeTo : RelativeTo)
  | equals (key : String) (value : Value)
  | not (inner : Condition)

namespace Condition

/-- Asks for a key. -/
def readExists (spec : Value) (name : String) : Except Fault Condition :=
  (requiredText spec .condition name "key").map .exists

/-- Asks for a file. -/
def readFilePresent (spec : Value) (name : String) : Except Fault Condition :=
  match requiredText spec .condition name "file" with
  | .error e => .error e
  | .ok file => (relativeToField spec .condition).map fun r => .filePresent file r

/-- Compares with a value, which may be anything but must be there. -/
def readEquals (spec : Value) (name : String) : Except Fault Condition :=
  match spec.field? "value" with
  | none => .error (.missingField .condition name "value")
  | some value => (requiredText spec .condition name "key").map fun key => .equals key value

/-- Reads a condition. -/
def ofValue (spec : Value) : Except Fault Condition :=
  match filledField? spec "condition" with
  | none => .error (.missingField .condition spec.json "condition")
  | some name =>
    if name = "exists" then readExists spec name
    else if name = "notExists" then (readExists spec name).map .not
    else if name = "filePresent" then readFilePresent spec name
    else if name = "fileNotPresent" then (readFilePresent spec name).map .not
    else if name = "equals" then readEquals spec name
    else if name = "notEquals" then (readEquals spec name).map .not
    else .error (.unknownCondition name)

/-- Reads conditions one by one; the first that is wrong counts. -/
def listOfValues : List Value → Except Fault (List Condition)
  | [] => .ok []
  | v :: rest =>
    match ofValue v with
    | .error e => .error e
    | .ok c => (listOfValues rest).map (c :: ·)

/-- Reads a list of conditions, or one alone. -/
def groupOfValue (spec : Value) : Except Fault (List Condition) :=
  match spec with
  | .list items => listOfValues items
  | single => (ofValue single).map ([·])

/-- A value of the data passes for an expected one: the two are the same, or both are scalars
with the same text. -/
def looselyEqual (actual expected : Value) : Bool :=
  actual.agrees expected ||
    (actual.isScalar && expected.isScalar && actual.display == expected.display)

end Condition

end Stencil
