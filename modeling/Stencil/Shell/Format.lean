import Stencil.Shell.Arithmetic

/-!
# Formatted output

The text that `echo` and `printf` write. Both know the escapes with a backslash; a `\c` ends the
output. A format of `printf` is used again as long as arguments are left.

Output is bytes, since an octal escape can stand for any byte.
-/

set_option autoImplicit false

namespace Stencil.Shell

/-- The bytes of a character. -/
def bytesOf (c : Char) : List UInt8 :=
  (String.ofList [c]).toUTF8.data.toList

/-- The bytes of characters. -/
def bytesOfAll (cs : List Char) : List UInt8 :=
  (String.ofList cs).toUTF8.data.toList

/-- Octal digits at the front of a text, `count` at most, and the rest. -/
def octal : (count : Nat) → Nat → List Char → Nat × List Char
  | count + 1, n, c :: cs =>
    match Arithmetic.digit? 8 c with
    | some d => octal count (n * 8 + d) cs
    | none => (n, c :: cs)
  | _, n, cs => (n, cs)

/-- The character of a one-letter escape. -/
def escapeLetters : List (Char × Nat) :=
  [('a', 7), ('b', 8), ('e', 27), ('f', 12), ('n', 10), ('r', 13), ('t', 9), ('v', 11), ('\\', 92)]

/-- The bytes after a backslash, and the rest. -/
def escape (cs : List Char) : List UInt8 × List Char :=
  match cs with
  | [] => ([92], [])
  | c :: rest =>
    match escapeLetters.lookup c with
    | some n => ([UInt8.ofNat n], rest)
    | none =>
      if (Arithmetic.digit? 8 c).isSome then
        let (n, rest) := octal 3 0 (c :: rest)
        ([UInt8.ofNat n], rest)
      else ([92], c :: rest)

/-- The bytes of a text with escapes, and whether the output ends there. An octal escape may have
a zero in front of its three digits. -/
def unescape : (fuel : Nat) → List Char → List UInt8 × Bool
  | 0, _ => ([], false)
  | _, [] => ([], false)
  | fuel + 1, '\\' :: rest =>
    match rest with
    | 'c' :: _ => ([], true)
    | '0' :: digits =>
      let (n, rest) := octal 3 0 digits
      let (bytes, done) := unescape fuel rest
      (UInt8.ofNat n :: bytes, done)
    | rest =>
      let (first, rest) := escape rest
      let (bytes, done) := unescape fuel rest
      (first ++ bytes, done)
  | fuel + 1, c :: rest =>
    let (bytes, done) := unescape fuel rest
    (bytesOf c ++ bytes, done)

/-- What `echo` writes. -/
def echo (arguments : List String) : List UInt8 :=
  let (line, arguments) := match arguments with
    | "-n" :: rest => (false, rest)
    | arguments => (true, arguments)
  let text := (" ".intercalate arguments).toList
  let (bytes, done) := unescape (text.length + 1) text
  if line && !done then bytes ++ [10] else bytes

/-! ## Formats -/

/-- A part of a format. -/
inductive FormatPart where
  | bytes (bs : List UInt8)
  | directive (flags : List Char) (width : Nat) (precision : Option Nat) (conversion : Char)

/-- The parts of a format; nothing for a malformed one. -/
def formatParts : (fuel : Nat) → List Char → Option (List FormatPart)
  | 0, _ => none
  | _, [] => some []
  | fuel + 1, '%' :: '%' :: rest => (formatParts fuel rest).map (.bytes [37] :: ·)
  | fuel + 1, '%' :: rest =>
    let flags := rest.takeWhile fun c => "-+ 0#".toList.contains c
    let (width, rest) := Arithmetic.digits 10 0 (rest.drop flags.length)
    let (precision, rest) : Option Nat × List Char := match rest with
      | '.' :: rest =>
        let (n, rest) := Arithmetic.digits 10 0 rest
        (some n, rest)
      | rest => (none, rest)
    match rest with
    | c :: rest =>
      if "sbcdiuoxX".toList.contains c then
        (formatParts fuel rest).map (.directive flags width precision c :: ·)
      else none
    | [] => none
  | fuel + 1, '\\' :: rest =>
    let (bs, rest) := escape rest
    (formatParts fuel rest).map (.bytes bs :: ·)
  | fuel + 1, c :: rest => (formatParts fuel rest).map (.bytes (bytesOf c) :: ·)

/-- The number that an argument spells, and whether it spells nothing else. -/
def numberArgument (argument : String) : Int × Bool :=
  match Arithmetic.skip argument.toList with
  | [] => (0, argument.isEmpty)
  | '\'' :: c :: _ => (c.toNat, true)
  | '"' :: c :: _ => (c.toNat, true)
  | '-' :: rest =>
    let (n, more) := Arithmetic.number rest
    (-n, more.isEmpty && !rest.isEmpty)
  | '+' :: rest =>
    let (n, more) := Arithmetic.number rest
    (n, more.isEmpty && !rest.isEmpty)
  | cs =>
    let (n, more) := Arithmetic.number cs
    (n, more.isEmpty)

/-- Bytes filled up to a width. -/
def pad (flags : List Char) (width : Nat) (bytes : List UInt8) : List UInt8 :=
  let fill := List.replicate (width - bytes.length) (32 : UInt8)
  if flags.contains '-' then bytes ++ fill else fill ++ bytes

/-- The digits of a number in a base. -/
def digitsIn (base : Nat) (upper : Bool) (n : Nat) : List Char :=
  let cs := Nat.toDigits base n
  if upper then cs.map Char.toUpper else cs

/-- A number in a conversion. -/
def formatNumber (flags : List Char) (width : Nat) (precision : Option Nat) (conversion : Char)
    (n : Int) : List UInt8 :=
  let signed := conversion = 'd' || conversion = 'i'
  let sign :=
    if signed && n < 0 then ['-']
    else if signed && flags.contains '+' then ['+']
    else if signed && flags.contains ' ' then [' ']
    else []
  let magnitude := if signed then n.natAbs else Arithmetic.bits n
  let digits := match conversion with
    | 'o' => digitsIn 8 false magnitude
    | 'x' => digitsIn 16 false magnitude
    | 'X' => digitsIn 16 true magnitude
    | _ => digitsIn 10 false magnitude
  let wanted := match precision with
    | some p => p
    | none => if flags.contains '0' && !flags.contains '-' then width - sign.length else 0
  let zeros := List.replicate (wanted - digits.length) '0'
  pad flags width (bytesOfAll (sign ++ zeros ++ digits))

/-- What a conversion makes of its argument: bytes, whether the argument was in order, and whether
the output ends there. -/
def convert (flags : List Char) (width : Nat) (precision : Option Nat) (conversion : Char)
    (argument : String) : List UInt8 × Bool × Bool :=
  let cut (bytes : List UInt8) : List UInt8 := match precision with
    | some p => bytes.take p
    | none => bytes
  match conversion with
  | 's' => (pad flags width (cut (bytesOfAll argument.toList)), true, false)
  | 'b' =>
    let (bytes, done) := unescape (argument.length + 1) argument.toList
    (pad flags width (cut bytes), true, done)
  | 'c' =>
    let bytes := (bytesOfAll argument.toList).take 1
    (pad flags width (if bytes.isEmpty then [0] else bytes), true, false)
  | conversion =>
    let (n, good) := numberArgument argument
    (formatNumber flags width precision conversion n, good, false)

/-- One use of a format: the bytes, whether all arguments were in order, whether the output ends
there, and the arguments that are left. -/
def formatOnce : List FormatPart → List String → List UInt8 × Bool × Bool × List String
  | [], arguments => ([], true, false, arguments)
  | .bytes bs :: rest, arguments =>
    let (bytes, good, done, left) := formatOnce rest arguments
    (bs ++ bytes, good, done, left)
  | .directive flags width precision conversion :: rest, arguments =>
    let (bs, fine, stop) := convert flags width precision conversion (arguments.head?.getD "")
    if stop then (bs, fine, true, [])
    else
      let (bytes, good, done, left) := formatOnce rest arguments.tail
      (bs ++ bytes, fine && good, done, left)

/-- The uses of a format until no argument is left. -/
def formatAll (parts : List FormatPart) : (fuel : Nat) → List String → List UInt8 × Bool
  | 0, _ => ([], true)
  | fuel + 1, arguments =>
    let (bytes, good, done, left) := formatOnce parts arguments
    if done || left.isEmpty || left.length = arguments.length then (bytes, good)
    else
      let (more, fine) := formatAll parts fuel left
      (bytes ++ more, good && fine)

/-- What `printf` writes, and whether all was in order; nothing for a malformed format. -/
def printf (format : String) (arguments : List String) : Option (List UInt8 × Bool) :=
  (formatParts (format.length + 1) format.toList).map fun parts =>
    formatAll parts (arguments.length + 1) arguments

end Stencil.Shell
