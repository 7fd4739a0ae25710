import EntityDiagram.Decimal

/-!
Notations of double precision magnitudes to a given precision. The digits are those of the exact
value, rounded once; a half goes to the even digit. A number of places follows the point, or, in the
general notation, a number of digits counts in all and zeros at the end are left out. The point
stays without digits behind it only where it is to be kept.
-/
namespace EntityDiagram.Double

def scaled (d : Double) (places : Int) : Nat :=
  roundQuotient (d.significand * Nat.pow 2 d.power.toNat * Nat.pow 10 places.toNat)
    (Nat.pow 2 (-d.power).toNat * Nat.pow 10 (-places).toNat)

def decimalPower (d : Double) : Int :=
  let num := d.significand * Nat.pow 2 d.power.toNat
  let den := Nat.pow 2 (-d.power).toNat
  if den ≤ num then (Decimal.digits (num / den)).length - 1
  else
    let shift := (Decimal.digits den).length - (Decimal.digits num).length
    if den ≤ num * Nat.pow 10 shift then -(shift : Int) else -(shift : Int) - 1

def rounded (d : Double) (count : Nat) : List Char × Int :=
  if d.significand = 0 then (List.replicate count '0', 0)
  else
    let power := d.decimalPower
    let ds := Decimal.digits (d.scaled (count - 1 - power))
    if count < ds.length then (ds.take count, power + 1) else (ds, power)

def withPoint (keepsPoint : Bool) (whole fraction : List Char) : List Char :=
  if fraction.isEmpty && !keepsPoint then whole else whole ++ '.' :: fraction

def fixed (keepsPoint : Bool) (places : Nat) (d : Double) : List Char :=
  let ds := Decimal.digits (d.scaled places)
  let ds := List.replicate (places + 1 - ds.length) '0' ++ ds
  let whole := ds.length - places
  withPoint keepsPoint (ds.take whole) (ds.drop whole)

def scientific (keepsPoint : Bool) (places : Nat) (d : Double) : List Char :=
  let (ds, power) := d.rounded (places + 1)
  withPoint keepsPoint (ds.take 1) (ds.drop 1) ++ Decimal.exponentText power

/-- The notation that suits a magnitude, with a number of digits: positional from `10 ^ -4` up to
where the digits end, scientific beyond. -/
def general (keepsPoint : Bool) (precision : Nat) (d : Double) : List Char :=
  let count := if precision = 0 then 1 else precision
  let (ds, power) := d.rounded count
  let kept (fraction : List Char) : List Char :=
    if keepsPoint then fraction else (fraction.reverse.dropWhile (· = '0')).reverse
  if power < -4 || (count : Int) ≤ power then
    withPoint keepsPoint (ds.take 1) (kept (ds.drop 1)) ++ Decimal.exponentText power
  else if power < 0 then
    withPoint keepsPoint ['0'] (kept (List.replicate (-power - 1).toNat '0' ++ ds))
  else
    let whole := power.toNat + 1
    withPoint keepsPoint (ds.take whole) (kept (ds.drop whole))

end EntityDiagram.Double
