/-!
# Messages

Lines for the operator, each with a kind. A console shows the kinds differently and sends
warnings and errors to standard error.
-/

set_option autoImplicit false

namespace Stencil

/-- The kind of a line. -/
inductive MessageKind where
  | out
  | info
  | success
  | warning
  | error
  | notice
  deriving DecidableEq

/-- The kind that a name in a configuration means; an unknown name is plain output. -/
def MessageKind.ofName (name : String) : MessageKind :=
  if name = "info" then .info
  else if name = "success" then .success
  else if name = "warning" ∨ name = "warn" then .warning
  else if name = "error" then .error
  else if name = "notice" then .notice
  else .out

/-- A line for the operator. -/
structure Message where
  kind : MessageKind
  text : String
  deriving DecidableEq

/-- A line for the console: what is written, and whether to standard error. -/
structure ConsoleLine where
  toErrors : Bool
  text : String

/-- A message on a console without colours. -/
def Message.onConsole (m : Message) : ConsoleLine :=
  match m.kind with
  | .out => ⟨false, s!"{m.text}\n"⟩
  | .info => ⟨false, s!"{m.text}\n"⟩
  | .success => ⟨false, s!"✓ {m.text}\n"⟩
  | .notice => ⟨false, s!"{m.text}\n"⟩
  | .warning => ⟨true, s!"warning: {m.text}\n"⟩
  | .error => ⟨true, s!"error: {m.text}\n"⟩

end Stencil
