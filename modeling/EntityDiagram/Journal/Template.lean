import EntityDiagram.Decimal.Notation
import EntityDiagram.Json

/-!
Message templates. A slot ends with a letter that says how its argument is written: `s` as text, `r`
quoted, `a` quoted without characters beyond the ASCII range, `c` as a character, `d`, `i` and `u`
as an integer, `o`, `x` and `X` to the base eight or sixteen, `e`, `f` and `g` with their capitals
as a decimal. `%%` stands for a percent sign. Between the percent sign and the letter a slot may
have the key of a member in parentheses, flags, a width and a precision. Every argument is used
once, in order; a template that does not fit its arguments gives no message. A single argument with
members need not be used, and only it has members that a key can name.
-/
namespace EntityDiagram.Journal

inductive Extent where
  | fixed (n : Nat)
  | fromArgument
  deriving DecidableEq, Repr

structure Slot where
  key : Option String := none
  flags : List Char := []
  width : Extent := .fixed 0
  precision : Option Extent := none
  directive : Char := 's'
  deriving DecidableEq, Repr

inductive Piece where
  | char (c : Char)
  | slot (s : Slot)
  deriving DecidableEq, Repr

inductive Stage where
  | flags | width | afterWidth | precision | afterPrecision | letter
  deriving DecidableEq, Repr

inductive Mode where
  | plain
  | percent
  | key (depth : Nat) (read : List Char)
  | slot (stage : Stage) (s : Slot)
  deriving DecidableEq, Repr

def Extent.addDigit (c : Char) : Extent → Extent
  | fixed n => fixed (10 * n + (c.toNat - '0'.toNat))
  | fromArgument => fromArgument

def Slot.extend? (s : Slot) (stage : Stage) (c : Char) : Option (Stage × Slot) :=
  let early := stage = .flags || stage = .width || stage = .afterWidth
  if stage = .flags && "-+ #0".contains c then some (.flags, { s with flags := c :: s.flags })
  else if (stage = .flags || stage = .width) && c.isDigit then
    some (.width, { s with width := s.width.addDigit c })
  else if stage = .flags && c = '*' then some (.afterWidth, { s with width := .fromArgument })
  else if early && c = '.' then some (.precision, { s with precision := some (.fixed 0) })
  else if stage = .precision && c = '*' then
    some (.afterPrecision, { s with precision := some .fromArgument })
  else if stage = .precision && c.isDigit then
    some (.precision, { s with precision := s.precision.map (·.addDigit c) })
  else if stage ≠ .letter && "hlL".contains c then some (.letter, s)
  else none

/-- The parts of a template. Parentheses inside of a key are balanced. -/
def pieces? : Mode → List Char → Option (List Piece)
  | .plain, [] => some []
  | _, [] => none
  | .plain, c :: rest =>
    if c = '%' then pieces? .percent rest else (pieces? .plain rest).map (.char c :: ·)
  | .percent, c :: rest =>
    if c = '%' then (pieces? .plain rest).map (.char '%' :: ·)
    else if c = '(' then pieces? (.key 0 []) rest
    else match Slot.extend? {} .flags c with
      | some (stage, s) => pieces? (.slot stage s) rest
      | none => (pieces? .plain rest).map (.slot { directive := c } :: ·)
  | .key depth read, c :: rest =>
    if c = ')' && depth = 0 then
      pieces? (.slot .flags { key := some (String.ofList read.reverse) }) rest
    else
      let depth := if c = ')' then depth - 1 else if c = '(' then depth + 1 else depth
      pieces? (.key depth (c :: read)) rest
  | .slot stage s, c :: rest =>
    match s.extend? stage c with
    | some (stage, s) => pieces? (.slot stage s) rest
    | none => (pieces? .plain rest).map (.slot { s with directive := c } :: ·)

def exactInteger? : Json → Option Int
  | .int n => some n
  | .bool value => some (if value then 1 else 0)
  | _ => none

def integerArgument? : Json → Option Int
  | .decimal d => d.truncate?
  | argument => exactInteger? argument

def decimalArgument? : Json → Option Decimal
  | .decimal d => some d
  | argument => match (exactInteger? argument).map Decimal.ofInt with
    | some (.infinite _) => none
    | other => other

def charArgument? : Json → Option Char
  | .text value => match value.toList with
    | [c] => some c
    | _ => none
  | argument => match exactInteger? argument with
    | some n => if 0 ≤ n && n < 0x110000 then some (Char.ofNat n.toNat) else none
    | none => none

def signOf (flags : List Char) (negative : Bool) : List Char :=
  if negative then ['-'] else if flags.contains '+' then ['+']
  else if flags.contains ' ' then [' '] else []

def baseMark (flags : List Char) (letter : Char) : List Char :=
  if flags.contains '#' then ['0', letter] else []

def padded (flags : List Char) (width : Nat) (zeros : Bool) (sign body : List Char) : List Char :=
  let missing := width - (sign.length + body.length)
  if flags.contains '-' then sign ++ body ++ List.replicate missing ' '
  else if zeros then sign ++ List.replicate missing '0' ++ body
  else List.replicate missing ' ' ++ sign ++ body

structure Layout where
  flags : List Char
  width : Nat
  precision : Option Nat
  deriving DecidableEq, Repr

namespace Layout

def text (l : Layout) (shown : String) : List Char :=
  let cs := shown.toList
  padded l.flags l.width false [] ((l.precision.map cs.take).getD cs)

def integer (l : Layout) (mark : List Char) (digits : Nat → List Char) (n : Int) : List Char :=
  let ds := digits n.natAbs
  let body := List.replicate (l.precision.getD 0 - ds.length) '0' ++ ds
  padded l.flags l.width (l.flags.contains '0') (signOf l.flags (n < 0) ++ mark) body

def defaultPlaces : Nat := 6

def decimalBody (l : Layout) (letter : Char) (d : Decimal) : List Char :=
  let places := l.precision.getD defaultPlaces
  let keepsPoint := l.flags.contains '#'
  match d.worth? with
  | none => if d = .indeterminate then "nan".toList else "inf".toList
  | some magnitude =>
    if letter = 'e' then magnitude.scientific keepsPoint places
    else if letter = 'f' then magnitude.fixed keepsPoint places
    else magnitude.general keepsPoint places

def decimal (l : Layout) (letter : Char) (d : Decimal) : List Char :=
  let body := l.decimalBody letter.toLower d
  let body := if letter.isUpper then body.map Char.toUpper else body
  padded l.flags l.width (l.flags.contains '0') (signOf l.flags d.isNegative) body

def write? (l : Layout) (letter : Char) (argument : Json) : Option (List Char) :=
  match letter with
  | 's' => some (l.text argument.display)
  | 'r' => some (l.text argument.displayInner)
  | 'a' => some (l.text (Text.asciiOnly argument.displayInner))
  | 'c' => (charArgument? argument).map fun c => padded l.flags l.width false [] [c]
  | 'd' | 'i' | 'u' => (integerArgument? argument).map (l.integer [] Decimal.digits)
  | 'o' => (exactInteger? argument).map (l.integer (baseMark l.flags 'o') (Nat.toDigits 8))
  | 'x' => (exactInteger? argument).map (l.integer (baseMark l.flags 'x') (Nat.toDigits 16))
  | 'X' => (exactInteger? argument).map
      (l.integer (baseMark l.flags 'X') fun n => (Nat.toDigits 16 n).map Char.toUpper)
  | 'e' | 'f' | 'g' | 'E' | 'F' | 'G' => (decimalArgument? argument).map (l.decimal letter)
  | _ => none

end Layout

def Extent.value? (arguments : List Json) : Extent → Option (Int × List Json)
  | fixed n => some (n, arguments)
  | fromArgument => match arguments with
    | argument :: rest => (exactInteger? argument).map fun n => (n, rest)
    | [] => none

def isPrecision (n : Int) : Bool := -2147483648 ≤ n && n ≤ 2147483647

def fillLimit : Nat := 100000000

/-- The layout can be filled. A text is only cut off by its precision, and so has any. -/
def Layout.isFillable (l : Layout) (letter : Char) : Bool :=
  l.width ≤ fillLimit && ("srac".contains letter || l.precision.getD 0 ≤ fillLimit)

/-- The layout of a slot and the arguments left; widths and precisions may be arguments. A negative
width stands for a flag. -/
def Slot.layout? (s : Slot) (arguments : List Json) : Option (Layout × List Json) := do
  let (width, arguments) ← s.width.value? arguments
  let (precision, arguments) ← match s.precision with
    | none => some (none, arguments)
    | some extent => do
      let (n, arguments) ← extent.value? arguments
      if isPrecision n then some (some n.toNat, arguments) else none
  let flags := if width < 0 then '-' :: s.flags else s.flags
  let layout : Layout := ⟨flags, width.natAbs, precision⟩
  if layout.isFillable s.directive then some (layout, arguments) else none

def fill? (named : Option (List (String × Json))) :
    List Piece → List Json → Option (List Char)
  | [], arguments => if arguments.isEmpty || named.isSome then some [] else none
  | .char c :: rest, arguments => (fill? named rest arguments).map (c :: ·)
  | .slot s :: rest, arguments => do
    let arguments ← match s.key with
      | some key => ((← named).lookup key).map ([·])
      | none => some arguments
    let (layout, arguments) ← s.layout? arguments
    match arguments with
    | [] => none
    | argument :: others =>
      let shown ← layout.write? s.directive argument
      let following ← fill? named rest others
      return shown ++ following

def message? (template : String) (arguments : List Json) : Option String :=
  let named := match arguments with
    | [.object (member :: members)] => some (member :: members)
    | _ => none
  if arguments.isEmpty then some template
  else do
    let pieces ← pieces? .plain template.toList
    return String.ofList (← fill? named pieces arguments)

end EntityDiagram.Journal
