/-!
Texts written with letters, digits and hyphens of the ASCII range alone. The characters of that
range come first, and a hyphen after them. The others follow in the order of their code points, each
as the distance from the one before, counted over all places where a character could stand.
Distances have up to 36 digits, whose weights adapt to the distances before.
-/
namespace EntityDiagram.Text.Punycode

def isBasic (c : Char) : Bool := c.toNat < 0x80

def digitChar (n : Nat) : Char :=
  if n < 26 then Char.ofNat ('a'.toNat + n) else Char.ofNat ('0'.toNat + (n - 26))

def digitValue? (c : Char) : Option Nat :=
  let c := c.toLower
  if 'a' ≤ c && c ≤ 'z' then some (c.toNat - 'a'.toNat)
  else if c.isDigit then some (c.toNat - '0'.toNat + 26)
  else none

/-- The number below which the digit at a position ends a distance. Positions count by 36. -/
def threshold (bias position : Nat) : Nat :=
  if position ≤ bias then 1 else if bias + 26 ≤ position then 26 else position - bias

theorem threshold_pos (bias position : Nat) : 0 < threshold bias position := by
  unfold threshold
  split
  · omega
  · split <;> omega

def reduce (distance position : Nat) : Nat × Nat :=
  if 455 < distance then reduce (distance / 35) (position + 36) else (distance, position)
  termination_by distance
  decreasing_by omega

def adapt (distance count : Nat) (isFirst : Bool) : Nat :=
  let distance := if isFirst then distance / 700 else distance / 2
  let (distance, position) := reduce (distance + distance / count) 0
  position + 36 * distance / (distance + 38)

def distanceDigits (bias position distance : Nat) : List Char :=
  let t := threshold bias position
  if distance < t then [digitChar distance]
  else
    digitChar (t + (distance - t) % (36 - t))
      :: distanceDigits bias (position + 36) ((distance - t) / (36 - t))
  termination_by distance
  decreasing_by
    have hpos := threshold_pos bias position
    have hdiv := Nat.div_le_self (distance - threshold bias position)
      (36 - threshold bias position)
    omega

/-- What has been written, the distance since then, the bias, and how many characters are done. -/
structure Progress where
  written : List Char := []
  distance : Nat := 0
  bias : Nat := 72
  done : Nat

def pass (basics point : Nat) (p : Progress) (c : Char) : Progress :=
  if c.toNat < point then { p with distance := p.distance + 1 }
  else if c.toNat = point then
    { written := p.written ++ distanceDigits p.bias 36 p.distance
      distance := 0
      bias := adapt p.distance (p.done + 1) (p.done = basics)
      done := p.done + 1 }
  else p

/-- Writes the code points that are left, which are ascending and not below `next`. -/
def writePoints (text : List Char) (basics next : Nat) (p : Progress) : List Nat → List Char
  | [] => p.written
  | point :: rest =>
    let p := { p with distance := p.distance + (point - next) * (p.done + 1) }
    let p := text.foldl (pass basics point) p
    writePoints text basics (point + 1) { p with distance := p.distance + 1 } rest

def insertPoint (n : Nat) : List Nat → List Nat
  | [] => [n]
  | m :: rest =>
    if n < m then n :: m :: rest else if n = m then m :: rest else m :: insertPoint n rest

def encode (text : List Char) : List Char :=
  let basics := text.filter isBasic
  let points := (text.filter (!isBasic ·)).foldl (fun points c => insertPoint c.toNat points) []
  let written := writePoints text basics.length 0x80 { done := basics.length } points
  if basics.isEmpty then written else basics ++ '-' :: written

def readDistance? (bias position weight sum : Nat) : List Char → Option (Nat × List Char)
  | [] => none
  | c :: rest => match digitValue? c with
    | none => none
    | some digit =>
      let sum := sum + digit * weight
      let t := threshold bias position
      if digit < t then some (sum, rest)
      else readDistance? bias (position + 36) (weight * (36 - t)) sum rest

/-- Puts the characters of written distances into a text. The last one put in was `point`, before
the place `place`. -/
def readPoints? (fuel bias point place : Nat) (isFirst : Bool) (text cs : List Char) :
    Option (List Char) :=
  match fuel, cs with
  | _, [] => some text
  | 0, _ => none
  | fuel + 1, cs => do
    let (distance, rest) ← readDistance? bias 36 1 0 cs
    let places := text.length + 1
    let total := place + distance
    let point := point + total / places
    if 0x10FFFF < point then none
    else
      let place := total % places
      let text := text.take place ++ Char.ofNat point :: text.drop place
      readPoints? fuel (adapt distance text.length isFirst) point (place + 1) false text rest

def decode? (cs : List Char) : Option (List Char) :=
  let written := (cs.reverse.takeWhile (· ≠ '-')).reverse
  let basics := cs.take (cs.length - written.length - 1)
  readPoints? cs.length 72 0x80 0 true basics written

end EntityDiagram.Text.Punycode
