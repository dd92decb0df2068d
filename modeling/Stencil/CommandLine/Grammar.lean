import Stencil.Text
import Stencil.Unicode.Blank

/-!
# Command line grammars

A command takes options, texts in fixed places, and sub-commands. `Grammar.read` goes through the
arguments once, from the left. An option that takes a value is *pending* until its value has come
and the next thing is read; only then is the value checked. So a fault of a value is reported when
what follows it is looked at, unless that is an option nobody knows.

After `--` every argument is a text. A sub-command takes over all arguments that follow it.
-/

set_option autoImplicit false

namespace Stencil.CommandLine

/-- Why no command results from the arguments: what is wrong with them, or what they ask for
instead of a command. -/
inductive Usage where
  | unknownArgument
  | missingRequiredArgument
  | valueValidation
  | invalidValue
  | argumentConflict
  | tooManyValues
  | invalidSubcommand
  | missingSubcommand
  | help
  | version
  | helpOnMissing
  deriving DecidableEq

/-! ## Grammars -/

/-- What an option takes. -/
inductive OptionKind where
  | flag
  | single
  | pairs
  | help
  | version
  deriving DecidableEq

/-- An option: `--long`, and `-s` if it has a short form. -/
structure OptionRule where
  long : String
  short : Option Char
  kind : OptionKind
  deriving DecidableEq

namespace OptionRule

def takesValue (o : OptionRule) : Bool :=
  o.kind = .single || o.kind = .pairs

end OptionRule

/-- A command: its options, how many texts it takes and how many it needs, its sub-commands. -/
inductive Grammar where
  | mk (options : List OptionRule) (places needed : Nat) (subs : List (String × Grammar))

namespace Grammar

def options : Grammar → List OptionRule
  | .mk options _ _ _ => options

def places : Grammar → Nat
  | .mk _ places _ _ => places

def needed : Grammar → Nat
  | .mk _ _ needed _ => needed

def subs : Grammar → List (String × Grammar)
  | .mk _ _ _ subs => subs

/-- The command has a sub-command of that name; one with sub-commands also has `help`. -/
def hasSub (g : Grammar) (name : String) : Bool :=
  !g.subs.isEmpty && (name == "help" || (g.subs.lookup name).isSome)

end Grammar

/-! ## What has been read -/

/-- The options given so far with their values, the texts, and an option whose value has not come
or has not been checked. -/
structure Reading where
  given : List (String × String)
  texts : List String
  pending : Option (OptionRule × Option String)

namespace Reading

def empty : Reading := ⟨[], [], none⟩

/-- An option still lacks its value. -/
def awaits (r : Reading) : Bool :=
  match r.pending with
  | some (_, none) => true
  | _ => false

/-- The option has been given. -/
def has (r : Reading) (long : String) : Bool :=
  r.given.any (·.1 == long)

/-- A key that is not blank, an equals sign, and a value. -/
def isPair (v : String) : Bool :=
  match Text.breakOn ['='] v.toList with
  | some (key, _) => !(Unicode.trim key).isEmpty
  | none => false

/-- Takes in an option with its value. Only an option of pairs may come twice. -/
def add (r : Reading) (o : OptionRule) (value : String) : Except Usage Reading :=
  if o.kind = .pairs then
    if isPair value then .ok { r with given := r.given ++ [(o.long, value)] }
    else .error .valueValidation
  else if r.has o.long then .error .argumentConflict
  else .ok { r with given := r.given ++ [(o.long, value)] }

/-- Takes in the pending option. -/
def settle (r : Reading) : Except Usage Reading :=
  match r.pending with
  | none => .ok r
  | some (_, none) => .error .invalidValue
  | some (o, some v) => { r with pending := none }.add o v

/-- An option without a value. -/
def meet (r : Reading) (o : OptionRule) : Except Usage Reading := do
  let r ← r.settle
  match o.kind with
  | .help => .error .help
  | .version => .error .version
  | _ => r.add o ""

/-- An option that takes a value, with the value if it came along. -/
def open_ (r : Reading) (o : OptionRule) (value : Option String) : Except Usage Reading := do
  let r ← r.settle
  match value with
  | some v => r.add o v
  | none => .ok { r with pending := some (o, none) }

end Reading

namespace Grammar

/-! ## Single arguments -/

/-- An argument `--name` or `--name=value`. -/
def long (g : Grammar) (r : Reading) (body : List Char) : Except Usage Reading :=
  let (name, value) :=
    match Text.breakOn ['='] body with
    | some (name, value) => (String.ofList name, some (String.ofList value))
    | none => (String.ofList body, none)
  match g.options.find? (·.long == name) with
  | none => .error .unknownArgument
  | some o =>
    if o.takesValue then r.open_ o value
    else if value.isSome then .error .tooManyValues
    else r.meet o

/-- An argument `-abc`: flags one by one, up to an option that takes the rest as its value. -/
def shorts (g : Grammar) (r : Reading) : List Char → Except Usage Reading
  | [] => .ok r
  | c :: rest =>
    match g.options.find? (·.short == some c) with
    | none => .error .unknownArgument
    | some o =>
      if o.takesValue then
        match rest with
        | [] => r.open_ o none
        | '=' :: value => r.open_ o (some (String.ofList value))
        | value => r.open_ o (some (String.ofList value))
      else
        match r.meet o with
        | .error e => .error e
        | .ok r => g.shorts r rest

/-- A text that no place is left for. -/
def surplus (g : Grammar) (literal : Bool) (arg : String) : Usage :=
  if g.subs.isEmpty || (literal && g.hasSub arg) then .unknownArgument else .invalidSubcommand

/-- A text. -/
def text (g : Grammar) (r : Reading) (literal : Bool) (arg : String) : Except Usage Reading :=
  if r.texts.length < g.places then do
    let r ← r.settle
    return { r with texts := r.texts ++ [arg] }
  else .error (g.surplus literal arg)

/-- An argument that is no sub-command. -/
def argument (g : Grammar) (r : Reading) (arg : String) : Except Usage Reading :=
  match arg.toList with
  | '-' :: '-' :: body => g.long r body
  | '-' :: c :: body => g.shorts r (c :: body)
  | _ =>
    match r.pending with
    | some (o, none) => .ok { r with pending := some (o, some arg) }
    | _ => g.text r false arg

/-- The names after `help` have to lead to a command. -/
def helpOn (g : Grammar) : List String → Usage
  | [] => .help
  | name :: rest =>
    if name = "help" && !g.subs.isEmpty then
      match rest with
      | [] => .help
      | _ => .invalidSubcommand
    else
      match g.subs.lookup name with
      | some sub => sub.helpOn rest
      | none => .invalidSubcommand

/-- The end of the arguments. -/
def finish (g : Grammar) (r : Reading) : Except Usage Reading := do
  let r ← r.settle
  if !g.subs.isEmpty then
    if r.given.isEmpty && r.texts.isEmpty then .error .helpOnMissing else .error .missingSubcommand
  else if r.texts.length < g.needed then .error .missingRequiredArgument
  else return r

/-! ## All arguments -/

/-- What the arguments say: the options of the commands on the way, the names of the sub-commands,
and what the last of them was given. -/
structure Result where
  outer : List (String × String)
  path : List String
  last : Reading

/-- Reads the arguments of a command; after `--` they are `literal`. -/
def readFrom (g : Grammar) (r : Reading) (literal : Bool) : List String → Except Usage Result
  | [] => (g.finish r).map fun r => ⟨[], [], r⟩
  | arg :: rest =>
    if literal then
      match g.text r true arg with
      | .error e => .error e
      | .ok r => g.readFrom r true rest
    else if !r.awaits && g.hasSub arg then
      match g.subs.lookup arg with
      | none => .error (g.helpOn rest)
      | some sub =>
        match r.settle, sub.readFrom .empty false rest with
        | _, .error e => .error e
        | .error e, _ => .error e
        | .ok r, .ok inner => .ok ⟨r.given ++ inner.outer, arg :: inner.path, inner.last⟩
    else if arg = "--" then g.readFrom r true rest
    else
      match g.argument r arg with
      | .error e => .error e
      | .ok r => g.readFrom r false rest

/-- Reads the arguments of a command. -/
def read (g : Grammar) (args : List String) : Except Usage Result :=
  g.readFrom .empty false args

end Grammar

end Stencil.CommandLine
