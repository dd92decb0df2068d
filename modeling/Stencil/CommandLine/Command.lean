import Stencil.CommandLine.Grammar

/-!
# Commands

What the program can be told to do, and the arguments that say so. The option `--defaults`, which
answers every question with its default, may stand anywhere.
-/

set_option autoImplicit false

namespace Stencil.CommandLine

/-- A command. -/
inductive Command where
  | make (template : String) (force : Bool) (data : List (String × String))
  | init (force : Bool)
  | cloneRepo (url name : String) (branch : Option String) (force : Bool)
  | updateRepo (name : String) (branch : Option String) (remote : String)
  | deleteRepo (name : String) (yes : Bool)
  | listRepos
  | createTemplate (force : Bool)
  | listTemplates
  deriving DecidableEq

/-- A command and whether its questions get their defaults. -/
structure Invocation where
  defaults : Bool
  command : Command
  deriving DecidableEq

/-! ## The grammar -/

def helpOption : OptionRule := ⟨"help", some 'h', .help⟩

def versionOption : OptionRule := ⟨"version", some 'V', .version⟩

def defaultsOption : OptionRule := ⟨"defaults", none, .flag⟩

/-- The options that every command has. -/
def commonOptions : List OptionRule := [defaultsOption, helpOption]

def forceOption : OptionRule := ⟨"force", none, .flag⟩

def nameOption : OptionRule := ⟨"as", none, .single⟩

def branchOption : OptionRule := ⟨"branch", none, .single⟩

/-- The commands on repositories. -/
def repoGrammar : Grammar :=
  .mk commonOptions 0 0 [
    ("clone", .mk ([nameOption, branchOption, forceOption] ++ commonOptions) 1 1 []),
    ("update", .mk ([nameOption, branchOption, ⟨"remote", none, .single⟩] ++ commonOptions) 0 0 []),
    ("delete", .mk (⟨"yes", none, .flag⟩ :: commonOptions) 1 0 []),
    ("list", .mk commonOptions 0 0 [])]

/-- The commands on templates. -/
def templateGrammar : Grammar :=
  .mk commonOptions 0 0 [
    ("create", .mk (forceOption :: commonOptions) 0 0 []),
    ("list", .mk commonOptions 0 0 [])]

/-- All commands. -/
def grammar : Grammar :=
  .mk (versionOption :: commonOptions) 0 0 [
    ("make", .mk ([forceOption, ⟨"data", some 'd', .pairs⟩] ++ commonOptions) 1 1 []),
    ("init", .mk (forceOption :: commonOptions) 0 0 []),
    ("repo", repoGrammar),
    ("template", templateGrammar)]

/-! ## From options to commands -/

namespace Reading

/-- The value of an option that takes one. -/
def value? (r : Reading) (long : String) : Option String :=
  r.given.lookup long

/-- The key, without blanks around it, and the value of a pair; the value may hold equals signs. -/
def pairOf (v : String) : String × String :=
  match Text.breakOn ['='] v.toList with
  | some (key, value) => (Unicode.trimText (String.ofList key), String.ofList value)
  | none => (v, "")

/-- The pairs that an option was given. -/
def pairs (r : Reading) (long : String) : List (String × String) :=
  (r.given.filter (·.1 == long)).map fun entry => pairOf entry.2

end Reading

/-- The command at a path of sub-commands. -/
def commandOf (path : List String) (r : Reading) : Option Command :=
  let force := r.has "force"
  match path, r.texts with
  | ["make"], [template] => some (.make template force (r.pairs "data"))
  | ["init"], [] => some (.init force)
  | ["repo", "clone"], [url] =>
    some (.cloneRepo url ((r.value? "as").getD "default") (r.value? "branch") force)
  | ["repo", "update"], [] =>
    some (.updateRepo ((r.value? "as").getD "default") (r.value? "branch")
      ((r.value? "remote").getD "origin"))
  | ["repo", "delete"], [] => some (.deleteRepo "default" (r.has "yes"))
  | ["repo", "delete"], [name] => some (.deleteRepo name (r.has "yes"))
  | ["repo", "list"], [] => some .listRepos
  | ["template", "create"], [] => some (.createTemplate force)
  | ["template", "list"], [] => some .listTemplates
  | _, _ => none

/-- Reads the arguments of the program. -/
def read (args : List String) : Except Usage Invocation :=
  match grammar.read args with
  | .error e => .error e
  | .ok result =>
    match commandOf result.path result.last with
    | some command =>
      .ok ⟨result.outer.any (·.1 == "defaults") || result.last.has "defaults", command⟩
    | none => .error .missingSubcommand

end Stencil.CommandLine
