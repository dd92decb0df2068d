import Stencil.Render.Basic
import Stencil.World

/-!
# Prompt pipelines

The prompts of a template, checked as a whole before the first is asked: every entry is well
formed and every transform it names is registered. A `type` that is not known is pointed out and
counts as plain input.

The prompts are then asked in order. A prompt whose key already has a value is passed over, and
each answer is stored before the next default is worked out, so defaults may build on answers.
-/

set_option autoImplicit false

namespace Stencil

/-- Checked prompts, in order. -/
structure Pipeline where
  specs : List PromptSpec

namespace Pipeline

/-! ## Reading -/

/-- What is pointed out about a prompt of an unknown type. -/
def fallbackWarning (spec : PromptSpec) : String :=
  s!"Prompt type '{spec.typeName}' not found for: {spec.name}; defaulting to 'input'"

/-- Reads an entry and checks its transforms. -/
def readEntry (transforms : Registry) (entry : Value) : Act PromptSpec := do
  let spec ← Step.ofExcept (PromptSpec.ofValue entry)
  if spec.isFallback then World.tell .warning (fallbackWarning spec)
  Step.ofExcept (transforms.ensureKnown spec.transform)
  Step.ofExcept (transforms.ensureKnown spec.transformDefault)
  return spec

/-- Reads the entries of a configuration. -/
def read (transforms : Registry) (entries : List Value) : Act Pipeline := do
  let specs ← Step.collect (readEntry transforms) entries
  return ⟨specs⟩

/-! ## Asking -/

/-- The default of a prompt: a text is rendered, then the transforms for defaults apply. -/
def resolveDefault (c : Render.Context) (spec : PromptSpec) : Except Fault (Option Value) :=
  match spec.default with
  | none => .ok none
  | some default =>
    let rendered : Except Fault Value :=
      match default with
      | .str s => (Render.text c s).map .str
      | other => .ok other
    match rendered with
    | .error e => .error e
    | .ok v => (c.transforms.apply c.files v spec.transformDefault).map some

/-- The question of a prompt. -/
def question (spec : PromptSpec) (default : Option Value) : Question :=
  ⟨spec.name, spec.kind, spec.message, default, spec.options⟩

/-- Data that answers go to, beside the world. -/
abbrev Filling (α : Type) := Step (Store × World) Fault α

/-- A step on the world beside the data. -/
def onWorld {α : Type} (m : Act α) : Filling α :=
  m.on Prod.snd fun w s => (s.1, w)

/-- Asks one prompt and stores the answer. -/
def answer (transforms : Registry) (operator : Operator) (spec : PromptSpec) : Filling Unit := do
  let (data, world) ← Step.get
  let default ← Step.ofExcept (resolveDefault ⟨data, transforms, world.files⟩ spec)
  let answer ← onWorld (World.ask operator (question spec default))
  let value ← Step.ofExcept (transforms.apply world.files answer spec.transform)
  Step.modify fun s => (s.1.set spec.name value, s.2)

/-- Asks one prompt, unless its key has a value. -/
def askOne (transforms : Registry) (operator : Operator) (spec : PromptSpec) : Filling Unit := do
  let (data, _) ← Step.get
  if data.has spec.name then pure () else answer transforms operator spec

/-- Asks the prompts in order. -/
def collect (pipeline : Pipeline) (transforms : Registry) (operator : Operator) : Filling Unit :=
  Step.each (askOne transforms operator) pipeline.specs

end Pipeline

end Stencil
