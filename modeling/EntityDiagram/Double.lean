/-!
Double precision magnitudes. A decimal magnitude is rounded to the nearest one; of two at the same
distance the one with the even significand is taken. Magnitudes below the least normal one have
fewer significant binary digits, and there is a largest magnitude.
-/
namespace EntityDiagram

/-- The magnitude `significand · 2 ^ power`. -/
structure Double where
  significand : Nat
  power : Int
  deriving DecidableEq, Repr

namespace Double

/-- A quotient rounded to the nearest whole number, a half to the even one. -/
def roundQuotient (num den : Nat) : Nat :=
  let quotient := num / den
  let doubled := 2 * (num % den)
  if doubled < den then quotient
  else if den < doubled then quotient + 1
  else quotient + quotient % 2

def leadingPower (num den : Nat) : Int :=
  let estimate : Int := (num.log2 : Int) - den.log2
  if num * Nat.pow 2 (-estimate).toNat < den * Nat.pow 2 estimate.toNat then estimate - 1
  else estimate

/-- The magnitude nearest to a quotient: 53 binary digits, fewer near zero. -/
def nearest (num den : Nat) : Double :=
  let leading := leadingPower num den
  let power := if leading < -1022 then -1074 else leading - 52
  ⟨roundQuotient (num * Nat.pow 2 (-power).toNat) (den * Nat.pow 2 power.toNat), power⟩

def floor (d : Double) : Nat :=
  if 0 ≤ d.power then d.significand * Nat.pow 2 d.power.toNat
  else d.significand / Nat.pow 2 (-d.power).toNat

def toNat? (d : Double) : Option Nat :=
  if 0 ≤ d.power || d.significand % Nat.pow 2 (-d.power).toNat = 0 then some d.floor else none

/-- The magnitude nearest to `mantissa · 10 ^ exponent`, unless that is too large. The first two
bounds only keep the powers of ten small: nothing from `10 ^ 310` on has a nearest magnitude, and
everything below `10 ^ -330` is nearest to zero. -/
def ofDecimal? (mantissa : Nat) (exponent : Int) : Option Double :=
  let places := (Nat.toDigits 10 mantissa).length + exponent
  if mantissa = 0 then some ⟨0, 0⟩
  else if 310 < places then none
  else if places < -330 then some ⟨0, 0⟩
  else
    let d := nearest (mantissa * Nat.pow 10 exponent.toNat) (Nat.pow 10 (-exponent).toNat)
    if Nat.pow 2 1024 ≤ d.floor then none else some d

end Double

end EntityDiagram
