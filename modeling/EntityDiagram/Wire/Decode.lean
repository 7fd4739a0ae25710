import EntityDiagram.Json
import EntityDiagram.Text.Blank
import EntityDiagram.Text.Scan
import EntityDiagram.Wire.Fault

/-!
Reading of values and fields from JSON documents. Flags and numbers are also read from texts and
from each other, where nothing is lost. A field is found under its primary spelling or, failing
that, under its secondary one; other members of an object are ignored.
-/
namespace EntityDiagram.Wire

open Checked

def text : Json → Checked String
  | .text value | .brokenText value => accepted value
  | _ => fault .notText

/-- A text of at least one character. Unlike a text of any length, it must be whole. -/
def nonEmptyText : Json → Checked String
  | .text "" => fault .tooShort
  | .text value => accepted value
  | .brokenText _ => fault .brokenText
  | _ => fault .notText

def trueWords : List String := ["1", "on", "t", "true", "y", "yes"]

def falseWords : List String := ["0", "f", "false", "n", "no", "off"]

def flagOfWord? (word : String) : Option Bool :=
  let word := word.map Char.toLower
  if trueWords.contains word then some true
  else if falseWords.contains word then some false
  else none

def flagOfInt (n : Int) : Checked Bool :=
  if n = 0 then accepted false else if n = 1 then accepted true else fault .unreadableFlag

def wordBound : Int := 9223372036854775808

def wordOfDecimal? (d : Decimal) : Option Int :=
  d.toInt?.filter fun n => -wordBound < n && n < wordBound

/-- A flag; numbers other than machine words are no flags at all. -/
def flag : Json → Checked Bool
  | .bool value => accepted value
  | .int n => if -wordBound ≤ n && n < wordBound then flagOfInt n else fault .notFlag
  | .decimal d => match wordOfDecimal? d with
    | some n => flagOfInt n
    | none => fault .notFlag
  | .text word => match flagOfWord? word with
    | some value => accepted value
    | none => fault .unreadableFlag
  | .brokenText _ => fault .brokenText
  | _ => fault .notFlag

def isPadding (c : Char) : Bool := Text.isBlank c && !(0x1C ≤ c.toNat && c.toNat ≤ 0x1F)

def trimPadding (cs : List Char) : List Char :=
  ((cs.dropWhile isPadding).reverse.dropWhile isPadding).reverse

def splitSign : List Char → Bool × List Char
  | '-' :: rest => (true, rest)
  | '+' :: rest => (false, rest)
  | cs => (false, cs)

def withoutUnderscores? (cs : List Char) : Option (List Char) :=
  let groups := Text.splitChars '_' cs
  if groups.any List.isEmpty then none else some groups.flatten

/-- What a number goes on with after zeros and underscores, the last of which is `last`; it stays
before a point and at the end. -/
def afterZeros? (last : Char) : List Char → Option (List Char)
  | [] => some [last]
  | c :: rest =>
    if c = '0' || c = '_' then afterZeros? c rest
    else if c.isDigit || c = '-' then some (c :: rest)
    else if c = '.' then some (last :: c :: rest)
    else none

def withoutLeadingZeros? : List Char → Option (List Char)
  | '0' :: rest => afterZeros? '0' rest
  | c :: rest => if c.isDigit || c = '-' then some (c :: rest) else none
  | [] => none

def withoutZeroFraction (cs : List Char) : List Char :=
  let fraction := (cs.dropWhile (· ≠ '.')).drop 1
  if !fraction.isEmpty && fraction.all (· = '0') then cs.takeWhile (· ≠ '.') else cs

def plainDigits (cs : List Char) : List Char :=
  let cs := withoutZeroFraction cs
  (withoutUnderscores? cs).getD cs

/-- Drops what may be left out of an integer: white space around it, a plus sign, zeros at its
start or behind its minus sign, a fraction of zeros and underscores. -/
def plainInteger? (cs : List Char) : Option (List Char) :=
  match trimPadding cs with
  | '+' :: '-' :: _ => none
  | '+' :: rest => (withoutLeadingZeros? rest).map plainDigits
  | '-' :: rest => (withoutLeadingZeros? rest).map fun ds => plainDigits ('-' :: ds)
  | cs => (withoutLeadingZeros? cs).map plainDigits

def integerLimit : Nat := 4300

def integerOfText (value : String) : Checked Int :=
  match plainInteger? value.toList with
  | none => fault .unreadableInteger
  | some cs =>
    let negative := cs.head? = some '-'
    let unsigned := if negative then cs.drop 1 else cs
    let ds := unsigned.takeWhile Char.isDigit
    if ds.isEmpty || (ds.head? = some '0' && 1 < ds.length) then fault .unreadableInteger
    else if integerLimit < ds.length then fault .oversizedInteger
    else if ds.length < unsigned.length then fault .unreadableInteger
    else accepted (Decimal.signedInt negative (Decimal.ofDigits ds))

def integer : Json → Checked Int
  | .int n => accepted n
  | .bool value => accepted (if value then 1 else 0)
  | .decimal d => match d, d.toInt?, wordOfDecimal? d with
    | _, _, some n => accepted n
    | .finite .., some _, none => fault .oversizedInteger
    | .finite .., none, none => fault .fractionalInteger
    | _, _, none => fault .notFinite
  | .text value => integerOfText value
  | .brokenText _ => fault .brokenText
  | _ => fault .notInteger

def powerOfText? : List Char → Option Int
  | [] => some 0
  | c :: rest =>
    let (negative, ds) := splitSign rest
    if (c = 'e' || c = 'E') && !ds.isEmpty && ds.all Char.isDigit then
      some (Decimal.signedInt negative (Decimal.ofDigits ds))
    else none

def magnitudeOfText? (negative : Bool) (cs : List Char) : Option Decimal :=
  let whole := cs.takeWhile Char.isDigit
  let rest := cs.dropWhile Char.isDigit
  let fraction := if rest.head? = some '.' then (rest.drop 1).takeWhile Char.isDigit else []
  let rest := if rest.head? = some '.' then (rest.drop 1).dropWhile Char.isDigit else rest
  if whole.isEmpty && fraction.isEmpty then none
  else (powerOfText? rest).map fun power =>
    .ofDigitText negative (whole ++ fraction) (power - fraction.length)

def plainDecimal? (cs : List Char) : Option Decimal :=
  let (negative, cs) := splitSign cs
  let word := (String.ofList cs).map Char.toLower
  if word = "inf" || word = "infinity" then some (.infinite negative)
  else if word = "nan" then some .indeterminate
  else magnitudeOfText? negative cs

def decimalOfText? (value : String) : Option Decimal :=
  match plainDecimal? (trimPadding value.toList) with
  | some d => some d
  | none => (withoutUnderscores? value.toList).bind plainDecimal?

/-- A number; an integer that no double precision value is near to is none. -/
def number : Json → Checked Decimal
  | .decimal d => accepted d
  | .int n => match Decimal.ofInt n with
    | .infinite _ => fault .notNumber
    | d => accepted d
  | .bool value => accepted (.ofInt (if value then 1 else 0))
  | .text value => match decimalOfText? value with
    | some d => accepted d
    | none => fault .unreadableNumber
  | .brokenText _ => fault .brokenText
  | _ => fault .notNumber

def oneOf {α : Type} (all : List α) (label : α → String) (doc : Json) : Checked α :=
  let found := match doc with
    | .text value => all.find? fun a => label a = value
    | _ => none
  match found with
  | some a => accepted a
  | none => fault (.notOneOf (all.map label))

def nullable {α : Type} (decode : Json → Checked α) : Json → Checked (Option α)
  | .null => accepted none
  | doc => (decode doc).map some

def itemsFrom {α : Type} (decode : Json → Checked α) (position : Nat) :
    List Json → Checked (List α)
  | [] => accepted []
  | doc :: rest =>
    app (((decode doc).under (.index position)).map List.cons)
      (itemsFrom decode (position + 1) rest)

def list {α : Type} (decode : Json → Checked α) : Json → Checked (List α)
  | .list docs => itemsFrom decode 0 docs
  | _ => fault .notList

abbrev Members := List (String × Json)

def record {α : Type} (decode : Members → Checked α) : Json → Checked α
  | .object members => decode members
  | _ => fault .notObject

structure Key where
  primary : String
  secondary : String

def Key.plain (name : String) : Key := ⟨name, name⟩

def Key.find? (key : Key) (members : Members) : Option (String × Json) :=
  match members.lookup key.primary with
  | some doc => some (key.primary, doc)
  | none => (members.lookup key.secondary).map fun doc => (key.secondary, doc)

def field {α : Type} (key : Key) (decode : Json → Checked α) (members : Members) : Checked α :=
  match key.find? members with
  | some (spelling, doc) => (decode doc).under (.key spelling)
  | none => (fault .missing).under (.key key.primary)

def fieldOr {α : Type} (key : Key) (default : α) (decode : Json → Checked α)
    (members : Members) : Checked α :=
  match key.find? members with
  | some (spelling, doc) => (decode doc).under (.key spelling)
  | none => accepted default

end EntityDiagram.Wire
