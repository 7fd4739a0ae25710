import EntityDiagram.Double

/-!
Decimal numbers, kept exactly as they are written. What they are worth is the nearest double
precision value, and a number too large for one counts as infinite. The written form is positional
for moderate magnitudes and scientific beyond; it always shows that the number is not an integer.
-/
namespace EntityDiagram

/-- A signed decimal `mantissa · 10 ^ exponent`, or one of the values without digits. -/
inductive Decimal where
  | finite (negative : Bool) (mantissa : Nat) (exponent : Int)
  | infinite (negative : Bool)
  | indeterminate
  deriving DecidableEq, Repr

namespace Decimal

def digits (n : Nat) : List Char := Nat.toDigits 10 n

def ofDigits (cs : List Char) : Nat := cs.foldl (fun n c => 10 * n + (c.toNat - '0'.toNat)) 0

def signedInt (negative : Bool) (n : Nat) : Int := if negative then -(n : Int) else n

def significant (mantissa : Nat) (exponent : Int) : List Char × Int :=
  let reversed := (digits mantissa).reverse
  let zeros := (reversed.takeWhile (· = '0')).length
  ((reversed.drop zeros).reverse, exponent + zeros)

def ofScientific (negative : Bool) (mantissa : Nat) (exponent : Int) : Decimal :=
  if (Double.ofDecimal? mantissa exponent).isNone then infinite negative
  else finite negative mantissa exponent

/-- How many digits of a decimal are kept. No two doubles have a midpoint with as many. -/
def keptDigits : Nat := 800

/-- The decimal of digits and a power of ten. Of the digits beyond those kept it only matters whether
they are all zero. -/
def ofDigitText (negative : Bool) (ds : List Char) (exponent : Int) : Decimal :=
  let ds := ds.dropWhile (· = '0')
  let beyond := ds.drop keptDigits
  if beyond.isEmpty then ofScientific negative (ofDigits ds) exponent
  else
    let last := if beyond.all (· = '0') then 0 else 1
    ofScientific negative (10 * ofDigits (ds.take keptDigits) + last)
      (exponent + beyond.length - 1)

def ofInt (i : Int) : Decimal := ofScientific (i < 0) i.natAbs 0

def worth? : Decimal → Option Double
  | finite _ mantissa exponent => Double.ofDecimal? mantissa exponent
  | _ => none

def isNegative : Decimal → Bool
  | finite negative _ _ => negative
  | infinite negative => negative
  | indeterminate => false

def toInt? (d : Decimal) : Option Int :=
  (d.worth?.bind Double.toNat?).map (signedInt d.isNegative)

def truncate? (d : Decimal) : Option Int :=
  d.worth?.map fun magnitude => signedInt d.isNegative magnitude.floor

def positional (ds : List Char) (point : Int) : List Char :=
  if point ≤ 0 then '0' :: '.' :: (List.replicate (-point).toNat '0' ++ ds)
  else
    let n := point.toNat
    if ds.length ≤ n then ds ++ List.replicate (n - ds.length) '0' ++ ['.', '0']
    else ds.take n ++ '.' :: ds.drop n

def exponentText (power : Int) : List Char :=
  let ds := digits power.natAbs
  'e' :: (if power < 0 then '-' else '+') :: (if ds.length < 2 then '0' :: ds else ds)

def scientific (ds : List Char) (power : Int) : List Char :=
  let mantissa := match ds with
    | [] => ['0']
    | [d] => [d]
    | d :: rest => d :: '.' :: rest
  mantissa ++ exponentText power

/-- The written form of a magnitude: positional from `10 ^ -4` up to below `10 ^ 16`. -/
def magnitude (mantissa : Nat) (exponent : Int) : List Char :=
  if mantissa = 0 then ['0', '.', '0']
  else
    let (ds, power) := significant mantissa exponent
    let point : Int := ds.length + power
    if -4 < point && point ≤ 16 then positional ds point else scientific ds (point - 1)

def signed (negative : Bool) (cs : List Char) : String :=
  String.ofList (if negative then '-' :: cs else cs)

def display : Decimal → String
  | finite negative mantissa exponent => signed negative (magnitude mantissa exponent)
  | infinite negative => signed negative "inf".toList
  | indeterminate => "nan"

def render : Decimal → String
  | finite negative mantissa exponent => signed negative (magnitude mantissa exponent)
  | infinite negative => signed negative "Infinity".toList
  | indeterminate => "NaN"

end Decimal

end EntityDiagram
