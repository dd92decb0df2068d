import Stencil.CommandLine.Program
import Stencil.Json.Read

/-!
# Running the program

The arguments come from the command line. The surroundings come from standard input as JSON: a map
with the `environment`, the `directory` to start in, the `files` by path (a text, or null for an
empty directory), and lists of `answers` by question. The lines for the console go where they
belong, and the files as they are afterwards follow as one line of JSON.
-/

set_option autoImplicit false

namespace Stencil.CommandLine

/-- The fields of a map, or none. -/
def fieldsOf (v : Value) (key : String) : Fields Value :=
  match v.field? key with
  | some (.map fields) => fields
  | _ => []

/-- A tree with one more file or directory in it. -/
def layOut (t : FileTree) (file : String × Value) : FileTree :=
  let p : Path := ⟨file.1⟩
  match file.2 with
  | .str text => (((p.parent?.map fun dir => (t.makeDirs dir).2).getD t).write p text.toUTF8).2
  | _ => (t.makeDirs p).2

/-- A tree with the given directory as its current one, and the given files. -/
def treeOf (directory : String) (files : Fields Value) : FileTree :=
  let t := ((⟨[], []⟩ : FileTree).makeDirs ⟨directory⟩).2
  let t := match t.locate ⟨directory⟩ with
    | .ok loc => { t with current := loc }
    | .error _ => t
  files.foldl layOut t

/-- The answers that a list holds. -/
def repliesOf : Value → List Reply
  | .list items => items.map .value
  | v => [.value v]

/-- The surroundings that a value describes. -/
def surroundingsOf (v : Value) : Surroundings where
  bindings := (fieldsOf v "environment").map fun e => (e.1, e.2.display)
  files := treeOf (((v.field? "directory").bind Value.asStr?).getD "/") (fieldsOf v "files")
  answers := (fieldsOf v "answers").map fun e => (e.1, repliesOf e.2)

/-- The files of a tree in the order of their paths. -/
def filesValue (t : FileTree) : Value :=
  let files : Fields Value := t.entries.map fun (loc, e) =>
    ((FileTree.absolute loc).text, match e with
      | .file content => .str (Text.decodeLossy content)
      | .dir => .null)
  .map (files.mergeSort fun a b => decide (a.1 ≤ b.1))

/-- Everything up to the end of a stream. -/
partial def readAll (stream : IO.FS.Stream) (front : String) : IO String := do
  let line ← stream.getLine
  if line.isEmpty then return front
  readAll stream (front ++ line)

end Stencil.CommandLine

open Stencil Stencil.CommandLine

/-- Runs the program. -/
def main (args : List String) : IO UInt32 := do
  let stdout ← IO.getStdout
  let stderr ← IO.getStderr
  let text ← readAll (← IO.getStdin) ""
  match Json.read? text with
  | none =>
    stderr.putStrLn "error: standard input is not JSON"
    return 1
  | some v =>
    let outcome := program (surroundingsOf v) args
    for line in outcome.lines do
      (if line.toErrors then stderr else stdout).putStr line.text
    stdout.putStrLn (filesValue outcome.files).json
    return UInt32.ofNat outcome.status
