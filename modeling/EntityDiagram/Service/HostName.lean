import EntityDiagram.Text.Case
import EntityDiagram.Text.Composition
import EntityDiagram.Text.Direction
import EntityDiagram.Text.Joining
import EntityDiagram.Text.LabelChar
import EntityDiagram.Text.Punycode
import EntityDiagram.Text.Scan
import EntityDiagram.Text.Script

/-!
Host names in any script. A name has labels between dots, and each label is written in the ASCII
range: as it is, or behind a mark as punycode. A label is composed and made of label characters, of
joiners between characters that they join, and of a few characters that need certain neighbours. It
neither begins with a mark nor begins or ends with a hyphen, and letters that are written from right
to left stand among their like.
-/
namespace EntityDiagram.Service.HostName

open Text

def punycodeMark : List Char := "xn--".toList

def labelLimit : Nat := 63

def nameLimit : Nat := 253

def hyphensFit (label : List Char) : Bool :=
  label.head? ≠ some '-' && label.getLast? ≠ some '-' && (label.drop 2).take 2 ≠ ['-', '-']

def followsVirama (before : List Char) : Bool :=
  before.head?.any fun c => combiningClass c = viramaClass

def separatesJoined (before after : List Char) : Bool :=
  ((before.dropWhile isTransparent).head?.any joinsNext)
    && ((after.dropWhile isTransparent).head?.any joinsPrevious)

def isArabicDigit (c : Char) : Bool := 0x660 ≤ c.toNat && c.toNat ≤ 0x669

def isExtendedArabicDigit (c : Char) : Bool := 0x6F0 ≤ c.toNat && c.toNat ≤ 0x6F9

def charFits (before : List Char) (c : Char) (after : List Char) : Bool :=
  isLabelChar c
    || (c = '\u200c' && (followsVirama before || separatesJoined before after))
    || (c = '\u200d' && followsVirama before)
    || (c = '\u00b7' && before.head? = some 'l' && after.head? = some 'l')
    || (c = '\u0375' && after.head?.any isGreek)
    || ((c = '\u05f3' || c = '\u05f4') && before.head?.any isHebrew)
    || (c = '\u30fb' && (before ++ after).any isEastAsian)
    || (isArabicDigit c && !(before ++ after).any isExtendedArabicDigit)
    || (isExtendedArabicDigit c && !(before ++ after).any isArabicDigit)

def charsFit (before : List Char) : List Char → Bool
  | [] => true
  | c :: rest => charFits before c rest && charsFit (c :: before) rest

def isTurning (c : Char) : Bool := direction c = .rightToLeft || direction c = .arabicDigit

/-- A label with characters from right to left begins with one, has none from left to right and only
one kind of digits, and ends, marks aside, with a letter or a digit. -/
def directionsFit (label : List Char) : Bool :=
  let last := (label.reverse.dropWhile fun c => direction c = .mark).head?
  !label.any isTurning
    || ((label.head?.any fun c => direction c = .rightToLeft)
      && (label.all fun c => direction c ≠ .leftToRight)
      && !((label.any fun c => direction c = .digit)
        && label.any fun c => direction c = .arabicDigit)
      && last.any fun c => direction c ≠ .neutral)

def isLabel (label : List Char) : Bool :=
  !label.isEmpty && isComposed label && hyphensFit label && !label.head?.any isMark
    && charsFit [] label && directionsFit label

def labelOfBasic? (label : List Char) : Option (List Char) :=
  if punycodeMark.isPrefixOf label then
    let written := label.drop punycodeMark.length
    if written.isEmpty || written.getLast? = some '-' then none else Punycode.decode? written
  else some label

def writtenLabel? (label : List Char) : Option (List Char) :=
  let basic := label.all Punycode.isBasic
  let written := if basic then label else punycodeMark ++ Punycode.encode label
  let meant := if basic then labelOfBasic? label else some label
  if meant.any isLabel && written.length ≤ labelLimit then some written else none

def isDot (c : Char) : Bool := c = '.' || c = '\u3002' || c = '\uff0e' || c = '\uff61'

def labels (name : List Char) : List (List Char) :=
  let pieces := splitChars '.' (name.map fun c => if isDot c then '.' else c)
  if pieces.getLast? = some [] then pieces.dropLast else pieces

/-- The written form of a name in small letters, without a dot at its end. No written form is
shorter than what it stands for. -/
def written? (name : List Char) : Option (List Char) :=
  if nameLimit + 1 < name.length then none
  else match (labels name).mapM writtenLabel? with
    | some (label :: rest) => some (List.intercalate ['.'] (label :: rest))
    | _ => none

def isValid (name : String) : Bool :=
  (written? (lower name).toList).any fun written => written.length ≤ nameLimit

end EntityDiagram.Service.HostName
