import Stencil.Files.Tree
import Stencil.Message
import Stencil.Prompt.Question
import Stencil.Step

/-!
# The world around a run

What a run can change and what it leaves behind: the files, the lines shown, the questions asked,
the answers that are still laid out, what spawned commands wrote, and the calls to git. Steps on
the world are the only way in which the rest of the library touches any of these, so "nothing was
written" and "nothing was asked" are equations between two worlds.
-/

set_option autoImplicit false

namespace Stencil

/-- Everything outside a session. -/
structure World where
  files : FileTree
  /-- The lines shown, oldest first. -/
  shown : List Message
  /-- The questions asked, oldest first. -/
  asked : List Question
  answers : Answers
  /-- What spawned commands wrote to standard output. -/
  written : List UInt8
  /-- The arguments of the calls to git, oldest first. -/
  gitCalls : List (List String)

/-- A step on the world. -/
abbrev Act (α : Type) := Step World Fault α

namespace World

/-! ## The operator -/

/-- Shows a line. -/
def tell (kind : MessageKind) (text : String) : Act Unit :=
  Step.modify fun w => { w with shown := w.shown ++ [⟨kind, text⟩] }

/-- Asks a question. It counts as asked also when no answer comes. -/
def ask (operator : Operator) (q : Question) : Act Value :=
  fun w =>
    let (result, answers) := operator w.asked w.answers q
    (result, { w with asked := w.asked ++ [q], answers := answers })

/-- Asks for yes or no. -/
def confirm (operator : Operator) (message : String) (default : Bool) : Act Bool := do
  let v ← ask operator (.confirm message default)
  return v.isTruthy

/-- Asks for a line of text. -/
def askLine (operator : Operator) (message : String) : Act String := do
  let v ← ask operator (.line message)
  return v.display

/-! ## The files -/

/-- A step on the files. -/
def onFiles {α : Type} (m : Step FileTree Fault α) : Act α :=
  m.on World.files fun files w => { w with files := files }

/-- Something is there. -/
def «exists» (p : Path) : Act Bool :=
  Step.asks fun w => w.files.exists p

/-- A directory is there. -/
def isDir (p : Path) : Act Bool :=
  Step.asks fun w => w.files.isDir p

/-- The content of a file. -/
def read (p : Path) : Act ByteArray :=
  fun w =>
    match w.files.read? p with
    | some content => (.ok content, w)
    | none => (.error (.io s!"reading {p.text}"), w)

theorem read_of_some {p : Path} {w : World} {content : ByteArray}
    (h : w.files.read? p = some content) : read p w = (.ok content, w) := by
  unfold read
  rw [h]

theorem read_of_none {p : Path} {w : World} (h : w.files.read? p = none) :
    read p w = (.error (.io s!"reading {p.text}"), w) := by
  unfold read
  rw [h]

/-- The paths of what a directory holds. -/
def list (p : Path) : Act (List Path) :=
  fun w =>
    match w.files.list? p with
    | some paths => (.ok paths, w)
    | none => (.error (.io s!"listing {p.text}"), w)

/-- A directory is listed only under a path that can be asked for at all. -/
theorem admissible_of_list {p : Path} {paths : List Path} {w w' : World}
    (h : list p w = (.ok paths, w')) : FileTree.admissible p := by
  unfold list FileTree.list? FileTree.locate at h
  cases hp : FileTree.admissible p with
  | true => rfl
  | false => simp [hp] at h

/-- Makes a directory and those above it. -/
def makeDirs (p : Path) (e : Fault) : Act Unit :=
  onFiles (Step.attempt e fun t => t.makeDirs p)

/-- Writes a file whose directory is there. -/
def writeHere (p : Path) (content : ByteArray) (e : Fault) : Act Unit :=
  onFiles (Step.attempt e fun t => t.write p content)

/-- Writes a file, after making the directories above it. -/
def write (p : Path) (content : ByteArray) : Act Unit := do
  match p.parent? with
  | some dir =>
    if dir.text ≠ "" then makeDirs dir (.io s!"creating directory {dir.text}")
  | none => pure ()
  writeHere p content (.io s!"writing {p.text}")

/-- Removes a file, or a directory with everything in it. -/
def delete (p : Path) : Act Unit :=
  onFiles (Step.attempt (.io s!"deleting {p.text}") fun t => t.delete p)

end World

end Stencil
