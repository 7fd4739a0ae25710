import EntityDiagram.Json
import EntityDiagram.Text.Encoding

/-!
Reading of JSON documents. A text that is no document is refused with what is wrong and the offset,
in characters, at which reading stopped: where a value, a key, a colon or a comma is missing, at a
character that may not stand in a text, at a bad escape, at the quote of a text that does not end,
or at what follows the document. Reading also stops at an integer with too many digits and at too
deep a nesting. Of members with one key the last counts.
-/
namespace EntityDiagram.Json

inductive Problem where
  | noValue | noKey | noColon | noComma | endlessText | control | badEscape | badCode | extra
  deriving DecidableEq, Repr

def Problem.message : Problem → String
  | noValue => "Expecting value"
  | noKey => "Expecting property name enclosed in double quotes"
  | noColon => "Expecting ':' delimiter"
  | noComma => "Expecting ',' delimiter"
  | endlessText => "Unterminated string starting at"
  | control => "Invalid control character at"
  | badEscape => "Invalid \\escape"
  | badCode => "Invalid \\uXXXX escape"
  | extra => "Extra data"

inductive ReadError where
  | malformed (problem : Problem) (offset : Nat)
  | tooManyDigits
  | tooDeep
  deriving DecidableEq, Repr

def place (chars : List Char) (offset : Nat) : String :=
  let before := chars.take offset
  let line := before.count '\n' + 1
  let column := (before.reverse.takeWhile (· ≠ '\n')).length + 1
  s!"line {line} column {column} (char {offset})"

def malformedMessage (chars : List Char) (problem : Problem) (offset : Nat) : String :=
  problem.message ++ ": " ++ place chars offset

def digitLimit : Nat := 4300

structure Rest where
  offset : Nat
  chars : List Char

namespace Rest

def drop (r : Rest) (n : Nat) : Rest := ⟨r.offset + n, r.chars.drop n⟩

def skipSpace (r : Rest) : Rest :=
  r.drop (r.chars.takeWhile fun c => c = ' ' || c = '\t' || c = '\n' || c = '\r').length

end Rest

def hexDigit? (c : Char) : Option Nat :=
  if '0' ≤ c && c ≤ '9' then some (c.toNat - '0'.toNat)
  else if 'a' ≤ c && c ≤ 'f' then some (c.toNat - 'a'.toNat + 10)
  else if 'A' ≤ c && c ≤ 'F' then some (c.toNat - 'A'.toNat + 10)
  else none

def hex4? (a b c d : Char) : Option Nat := do
  return (((← hexDigit? a) * 16 + (← hexDigit? b)) * 16 + (← hexDigit? c)) * 16 + (← hexDigit? d)

def simpleEscape? (c : Char) : Option Char :=
  [('\x22', '\x22'), ('\\', '\\'), ('/', '/'), ('b', '\x08'), ('f', '\x0c'), ('n', '\n'),
   ('r', '\r'), ('t', '\t')].lookup c

/-- The number of an escape by code at the start, when a character follows it; nothing inside for
bad digits. -/
def unitEscape? : List Char → Option (Option Nat)
  | '\\' :: 'u' :: a :: b :: c :: d :: _ :: _ => some (hex4? a b c d)
  | _ => none

structure TextRead where
  text : String
  broken : Bool := false

/-- The rest of a text whose opening quote stands at `start`; `read` holds what has been read of
it, the last character first, and `broken` tells whether half of a character was among it. -/
def readText (start : Nat) (broken : Bool) (read : List Char) (offset : Nat) :
    List Char → Except ReadError (TextRead × Rest)
  | [] => .error (.malformed .endlessText start)
  | ['\\'] => .error (.malformed .endlessText start)
  | '\\' :: 'u' :: a :: b :: c :: d :: next :: rest =>
    let following := next :: rest
    match hex4? a b c d with
    | none => .error (.malformed .badCode (offset + 1))
    | some unit =>
      match if Text.isHighUnit unit then unitEscape? following else none with
      | some none => .error (.malformed .badCode (offset + 7))
      | some (some low) =>
        if Text.isLowUnit low then
          readText start broken (Text.pairChar unit low :: read) (offset + 12) (following.drop 6)
        else readText start true (Text.unitChar unit :: read) (offset + 6) following
      | none =>
        readText start (broken || Text.isHalf unit) (Text.unitChar unit :: read) (offset + 6)
          following
  | '\\' :: 'u' :: _ => .error (.malformed .badCode (offset + 1))
  | '\\' :: c :: rest =>
    match simpleEscape? c with
    | some d => readText start broken (d :: read) (offset + 2) rest
    | none => .error (.malformed .badEscape offset)
  | c :: rest =>
    if c = '\x22' then .ok (⟨String.ofList read.reverse, broken⟩, ⟨offset + 1, rest⟩)
    else if c.toNat < 0x20 then .error (.malformed .control offset)
    else readText start broken (c :: read) (offset + 1) rest
  termination_by cs => cs.length
  decreasing_by all_goals simp <;> omega

def wholeDigits : List Char → List Char
  | '0' :: _ => ['0']
  | cs => cs.takeWhile Char.isDigit

def fractionDigits : List Char → List Char
  | '.' :: rest => rest.takeWhile Char.isDigit
  | _ => []

def exponentPart (cs : List Char) : Option (Int × Nat) :=
  match cs with
  | c :: rest =>
    if c = 'e' || c = 'E' then
      let (negative, signs, rest) := match rest with
        | '-' :: more => (true, 1, more)
        | '+' :: more => (false, 1, more)
        | more => (false, 0, more)
      match rest.takeWhile Char.isDigit with
      | [] => none
      | ds =>
        some (Decimal.signedInt negative (Decimal.ofDigits ds), 1 + signs + ds.length)
    else none
  | [] => none

def readNumber (r : Rest) : Except ReadError (Json × Rest) :=
  let negative := r.chars.head? = some '-'
  let unsigned := if negative then r.drop 1 else r
  match wholeDigits unsigned.chars with
  | [] => .error (.malformed .noValue r.offset)
  | whole =>
    let r := unsigned.drop whole.length
    let fraction := fractionDigits r.chars
    let r := if fraction.isEmpty then r else r.drop (1 + fraction.length)
    match fraction, exponentPart r.chars with
    | [], none =>
      if digitLimit < whole.length then .error .tooManyDigits
      else .ok (.int (Decimal.signedInt negative (Decimal.ofDigits whole)), r)
    | fraction, exponent =>
      let (power, size) := exponent.getD (0, 0)
      .ok (.decimal (.ofDigitText negative (whole ++ fraction) (power - fraction.length)),
        r.drop size)

def literals : List (String × Json) :=
  [("null", .null), ("true", .bool true), ("false", .bool false),
   ("NaN", .decimal .indeterminate), ("Infinity", .decimal (.infinite false)),
   ("-Infinity", .decimal (.infinite true))]

/-- A text with its opening quote at the start. It is also broken when only half of one of its
characters was there; `halves` holds the offsets of such characters. -/
def readQuoted (halves : List Nat) (r : Rest) : Except ReadError (TextRead × Rest) := do
  let (value, next) ← readText r.offset false [] (r.offset + 1) (r.chars.drop 1)
  let halved := halves.any fun place => r.offset < place && place < next.offset
  return ({ value with broken := value.broken || halved }, next)

mutual

/-- A value, with at most `depth` lists and objects around its parts. The fuel bounds the number of
parts. -/
def readValue (halves : List Nat) (depth : Nat) : Nat → Rest → Except ReadError (Json × Rest)
  | 0, r => .error (.malformed .noValue r.offset)
  | fuel + 1, r =>
    match r.chars with
    | [] => .error (.malformed .noValue r.offset)
    | '\x22' :: _ => do
      let (value, r) ← readQuoted halves r
      return (if value.broken then .brokenText value.text else .text value.text, r)
    | '[' :: _ =>
      let r := (r.drop 1).skipSpace
      if depth = 0 then .error .tooDeep
      else match r.chars with
        | ']' :: _ => .ok (.list [], r.drop 1)
        | _ => readItems halves (depth - 1) fuel [] r
    | '\x7b' :: _ =>
      let r := (r.drop 1).skipSpace
      if depth = 0 then .error .tooDeep
      else match r.chars with
        | '\x7d' :: _ => .ok (.object [], r.drop 1)
        | _ => readMembers halves (depth - 1) fuel [] r
    | cs =>
      match literals.find? fun word => word.1.toList.isPrefixOf cs with
      | some (word, value) => .ok (value, r.drop word.length)
      | none => readNumber r

def readItems (halves : List Nat) (depth : Nat) :
    Nat → List Json → Rest → Except ReadError (Json × Rest)
  | 0, _, r => .error (.malformed .noValue r.offset)
  | fuel + 1, read, r => do
    let (item, r) ← readValue halves depth fuel r
    let r := r.skipSpace
    match r.chars with
    | ']' :: _ => return (.list (item :: read).reverse, r.drop 1)
    | ',' :: _ => readItems halves depth fuel (item :: read) (r.drop 1).skipSpace
    | _ => throw (.malformed .noComma r.offset)

/-- The members of an object up to its end; `read` holds those before. A member with a broken key
has no value. -/
def readMembers (halves : List Nat) (depth : Nat) :
    Nat → List (String × Json) → Rest → Except ReadError (Json × Rest)
  | 0, _, r => .error (.malformed .noKey r.offset)
  | fuel + 1, read, r =>
    match r.chars with
    | '\x22' :: _ => do
      let (key, r) ← readQuoted halves r
      let r := r.skipSpace
      match r.chars with
      | ':' :: _ =>
        let (value, r) ← readValue halves depth fuel (r.drop 1).skipSpace
        let read := setMember key.text (if key.broken then .brokenText key.text else value) read
        let r := r.skipSpace
        match r.chars with
        | '\x7d' :: _ => return (.object read, r.drop 1)
        | ',' :: _ => readMembers halves depth fuel read (r.drop 1).skipSpace
        | _ => throw (.malformed .noComma r.offset)
      | _ => throw (.malformed .noColon r.offset)
    | _ => .error (.malformed .noKey r.offset)

end

def readDecoded (depth : Nat) (text : Text.Decoded) : Except ReadError Json := do
  let (value, r) ←
    readValue text.halves depth (2 * text.chars.length + 2) (Rest.mk 0 text.chars).skipSpace
  let r := r.skipSpace
  if r.chars.isEmpty then return value else throw (.malformed .extra r.offset)

def read (depth : Nat) (chars : List Char) : Except ReadError Json := readDecoded depth { chars }

end EntityDiagram.Json
