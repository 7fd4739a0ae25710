import EntityDiagram.Text.Blank
import EntityDiagram.Text.Case
import EntityDiagram.Text.WordChar

/-!
Display names: a technical identifier such as `order_line-item` is shown as `Order Line Item`.
-/
namespace EntityDiagram.Text

/-- Puts the first character of every word in upper case; `inWord` tells whether the character
before belongs to a word. -/
def titleWords (inWord : Bool) : List Char → List Char
  | [] => []
  | c :: rest =>
    (if isWordChar c && !inWord then upperChar c else [c]) ++ titleWords (isWordChar c) rest

def separatorToSpace (c : Char) : Char := if c = '_' || c = '-' then ' ' else c

def displayName (name : String) : String :=
  String.ofList (trimChars (titleWords false ((lowerChars name.toList).map separatorToSpace)))

end EntityDiagram.Text
