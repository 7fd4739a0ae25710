import EntityDiagram.Decimal
import EntityDiagram.Service.HostName
import EntityDiagram.Text.Quoted

/-!
Hosts of addresses. What looks like a numeric address must be one: four numbers up to 255 with dots
between them, or, in brackets, eight groups of hexadecimal digits with colons between them. The last
two groups may be written as four numbers, one run of zero groups may be left out, and a zone may
follow a percent sign. A host with characters beyond the ASCII range must be a host name.
-/
namespace EntityDiagram.Service

inductive HostError where
  | badNumbers (host : String)
  | badGroups (host : String)
  | badName (host : String)
  deriving DecidableEq, Repr

def HostError.message : HostError → String
  | badNumbers host => "Invalid IPv4 address: " ++ Text.quoted host
  | badGroups host => "Invalid IPv6 address: " ++ Text.quoted host
  | badName host => "Invalid IDNA hostname: " ++ Text.quoted host

namespace Host

def isOctet (cs : List Char) : Bool :=
  cs.all Char.isDigit && !cs.isEmpty && cs.length ≤ 3 && (cs.length = 1 || cs.head? ≠ some '0')
    && Decimal.ofDigits cs ≤ 255

def isNumeric (cs : List Char) : Bool :=
  let numbers := Text.splitChars '.' cs
  numbers.length = 4 && numbers.all isOctet

def digitRuns : List Char → List (List Char)
  | [] => [[]]
  | c :: rest => match c.isDigit, digitRuns rest with
    | true, run :: runs => (c :: run) :: runs
    | _, runs => [] :: runs

/-- Four runs of digits with one character of any kind between each two of them. Where there are
fewer other characters than three, a digit inside of a run takes the place of one. -/
def looksNumeric (cs : List Char) : Bool :=
  let runs := digitRuns cs
  !runs.any List.isEmpty && runs.length ≤ 4
    && 4 ≤ runs.foldl (fun count run => count + 1 + (run.length - 1) / 2) 0

def isHexDigit (c : Char) : Bool :=
  c.isDigit || ('a' ≤ c && c ≤ 'f') || ('A' ≤ c && c ≤ 'F')

def isGroup (cs : List Char) : Bool :=
  cs.all isHexDigit && !cs.isEmpty && cs.length ≤ 4

def groups? (cs : List Char) : Option (List (List Char)) :=
  let groups := Text.splitChars ':' cs
  let last := (groups.getLast?).getD []
  if groups.length < 3 then none
  else if !last.contains '.' then some groups
  else if isNumeric last then some (groups.dropLast ++ [['0'], ['0']])
  else none

/-- The groups on both sides of the first empty one that is not at an end. -/
def splitAtGap (groups : List (List Char)) : List (List Char) × List (List Char) :=
  let before := groups.take 1 ++ (groups.drop 1).takeWhile (!·.isEmpty)
  (before, groups.drop (before.length + 1))

def isSide (side : List (List Char)) : Bool := side = [[]] || side.all isGroup

def sideLength (side : List (List Char)) : Nat := if side = [[]] then 0 else side.length

def areGroups (groups : List (List Char)) : Bool :=
  let (before, after) := splitAtGap groups
  if after.isEmpty then groups.length = 8 && groups.all isGroup
  else groups.length ≤ 9 && isSide before && isSide after
    && sideLength before + sideLength after ≤ 7

def hasZone (cs : List Char) : Bool :=
  match cs.dropWhile (· ≠ '%') with
  | [] => true
  | _ :: zone => !zone.isEmpty && !zone.contains '%'

def isGrouped (cs : List Char) : Bool :=
  hasZone cs && (groups? (cs.takeWhile (· ≠ '%'))).any areGroups

def check (host : List Char) : Except HostError Unit :=
  let inner := (host.drop 1).dropLast
  if looksNumeric host then
    if isNumeric host then .ok () else .error (.badNumbers (String.ofList host))
  else if host.head? = some '[' && host.getLast? = some ']' && 1 < host.length then
    if isGrouped inner then .ok () else .error (.badGroups (String.ofList host))
  else if host.all Text.Punycode.isBasic || HostName.isValid (String.ofList host) then .ok ()
  else .error (.badName (String.ofList host))

end Host

end EntityDiagram.Service
