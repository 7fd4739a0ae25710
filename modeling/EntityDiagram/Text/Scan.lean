/-!
Scanning of character lists: maximal runs, pieces between separators, occurrences of a pattern,
and the end of a line of input, which may be followed by one newline.
-/
namespace EntityDiagram.Text

/-- The longest run of `p` at the start and what follows it, when the run is not empty. -/
def run? (p : Char → Bool) (cs : List Char) : Option (List Char × List Char) :=
  match cs.takeWhile p with
  | [] => none
  | c :: run => some (c :: run, cs.dropWhile p)

/-- The pieces between separators; there is one more piece than there are separators. -/
def splitChars (separator : Char) : List Char → List (List Char)
  | [] => [[]]
  | c :: rest =>
    if c = separator then [] :: splitChars separator rest
    else match splitChars separator rest with
      | [] => [[c]]
      | piece :: pieces => (c :: piece) :: pieces

def split (separator : Char) (text : String) : List String :=
  (splitChars separator text.toList).map String.ofList

def occursIn (pattern : List Char) : List Char → Bool
  | [] => pattern.isEmpty
  | c :: rest => pattern.isPrefixOf (c :: rest) || occursIn pattern rest

def contains (text pattern : String) : Bool := occursIn pattern.toList text.toList

/-- Nothing is left, or only the newline that ends the input. -/
def atEnd : List Char → Bool
  | [] => true
  | ['\n'] => true
  | _ => false

def dropFinalNewline (cs : List Char) : List Char :=
  if cs.getLast? = some '\n' then cs.dropLast else cs

end EntityDiagram.Text
