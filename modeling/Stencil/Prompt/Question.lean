import Stencil.Prompt.Spec
import Stencil.Prompt.Truth

/-!
# Questions and answers

A question as the operator sees it, with its default already worked out. An *operator* answers
questions: it sees what was asked before, the answers that were laid out for it, and the question,
and gives a value or a fault, and the answers that are left. Two operators come with the library:
one that takes every default, and one that follows laid-out answers and takes the default when
they run out.
-/

set_option autoImplicit false

namespace Stencil

/-- A question. -/
structure Question where
  name : String
  kind : PromptKind
  message : String
  default : Option Value
  choices : List Choice

/-- The default as the operator sees it. -/
def Question.defaultText (q : Question) : Option String :=
  q.default.map Value.display

/-- A question that yes or no answers; its message is its name. -/
def Question.confirm (message : String) (default : Bool) : Question :=
  ⟨message, .confirm, message, some (.bool default), []⟩

/-- A question for a line of text; its message is its name. -/
def Question.line (message : String) : Question :=
  ⟨message, .input, message, none, []⟩

/-- A laid-out answer: a value, or the wish to stop. -/
inductive Reply where
  | value (v : Value)
  | abort

/-- Laid-out answers by the name of the question, each name's answers in order. -/
abbrev Answers := Fields (List Reply)

namespace Answers

/-- One more answer for a name. -/
def push (answers : Answers) (name : String) (reply : Reply) : Answers :=
  Fields.alter name (fun old => old.getD [] ++ [reply]) answers

/-- The next answer for a name, and the answers without it. -/
def next? (answers : Answers) (name : String) : Option (Reply × Answers) :=
  match Fields.find? name answers with
  | some (reply :: rest) => some (reply, Fields.put name rest answers)
  | _ => none

end Answers

/-- Answers questions. -/
abbrev Operator := List Question → Answers → Question → Except Fault Value × Answers

namespace Operator

/-- The answer of someone who is not there: the default, no for a confirmation without one, and
no choice for checkboxes without one. -/
def defaultAnswer (q : Question) : Except Fault Value :=
  match q.kind, q.default with
  | .confirm, some v => .ok (.bool v.isTruthy)
  | .confirm, none => .ok (.bool false)
  | .checkboxes, none => .ok (.list [])
  | _, some v => .ok v
  | _, none => .error (.noDefault q.name)

/-- Takes every default. -/
def defaults : Operator :=
  fun _ answers q => (defaultAnswer q, answers)

/-- Follows the laid-out answers, then takes the default. -/
def scripted : Operator :=
  fun _ answers q =>
    match answers.next? q.name with
    | some (.value v, rest) => (.ok v, rest)
    | some (.abort, rest) => (.error .userAbort, rest)
    | none => (defaultAnswer q, answers)

end Operator

end Stencil
