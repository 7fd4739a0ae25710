/-!
Encodings of texts as octets. A text of a data format begins with two characters of the ASCII
range, so the zeros among its first four octets tell how wide its units are and which octet of a
unit comes first.
-/
namespace EntityDiagram.Text

inductive Encoding where
  | utf8
  | utf16 (bigEndian : Bool)
  | utf32 (bigEndian : Bool)
  deriving DecidableEq, Repr

def isHighUnit (n : Nat) : Bool := 0xD800 ≤ n && n ≤ 0xDBFF

def isLowUnit (n : Nat) : Bool := 0xDC00 ≤ n && n ≤ 0xDFFF

def pairChar (high low : Nat) : Char :=
  Char.ofNat (0x10000 + (high - 0xD800) * 0x400 + (low - 0xDC00))

def isHalf (n : Nat) : Bool := isHighUnit n || isLowUnit n

/-- The character of a code unit; half of a pair on its own becomes the replacement character. -/
def unitChar (n : Nat) : Char := if isHalf n then '\ufffd' else Char.ofNat n

def unitPoints : List Nat → List Nat
  | high :: low :: rest =>
    if isHighUnit high && isLowUnit low then (pairChar high low).toNat :: unitPoints rest
    else high :: unitPoints (low :: rest)
  | units => units

def octetsNumber (bigEndian : Bool) (octets : List UInt8) : Nat :=
  (if bigEndian then octets else octets.reverse).foldl (fun n o => 256 * n + o.toNat) 0

def pairs? (bigEndian : Bool) : List UInt8 → Option (List Nat)
  | [] => some []
  | a :: b :: rest => (pairs? bigEndian rest).map (octetsNumber bigEndian [a, b] :: ·)
  | _ => none

def quadruples? (bigEndian : Bool) : List UInt8 → Option (List Nat)
  | [] => some []
  | a :: b :: c :: d :: rest =>
    (quadruples? bigEndian rest).map (octetsNumber bigEndian [a, b, c, d] :: ·)
  | _ => none

namespace Encoding

def detect : List UInt8 → Encoding
  | [a, b] => if a = 0 then utf16 true else if b = 0 then utf16 false else utf8
  | a :: b :: c :: d :: _ =>
    if a = 0 then if b = 0 then utf32 true else utf16 true
    else if b = 0 then if c = 0 && d = 0 then utf32 false else utf16 false
    else utf8
  | _ => utf8

end Encoding

def leadingOctets (text : String) : List UInt8 :=
  (String.ofList (text.toList.take 4)).toUTF8.toList.take 4

/-- Characters read from octets, and the places of those of which only half was there. -/
structure Decoded where
  chars : List Char
  halves : List Nat := []

namespace Decoded

def ofPoints (points : List Nat) : Decoded where
  chars := points.map unitChar
  halves := points.zipIdx.filterMap fun (point, place) => if isHalf point then some place else none

end Decoded

/-- The characters that a text stands for when its octets are read in the encoding they show. A byte
order mark at the start is skipped; octets that are no text of the encoding stand for nothing. -/
def decoded? (text : String) : Option Decoded :=
  match Encoding.detect (leadingOctets text) with
  | .utf8 => match text.toList with
    | '\ufeff' :: rest => some { chars := rest }
    | chars => some { chars }
  | .utf16 bigEndian =>
    (pairs? bigEndian text.toUTF8.toList).map fun units => .ofPoints (unitPoints units)
  | .utf32 bigEndian =>
    match quadruples? bigEndian text.toUTF8.toList with
    | some points => if points.all (· ≤ 0x10FFFF) then some (.ofPoints points) else none
    | none => none

end EntityDiagram.Text
