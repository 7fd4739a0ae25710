import EntityDiagram.Text.CaseTables

/-!
Full case mappings of text. A character may have a longer image: the dotted capital I becomes two
characters in lower case, the sharp s two in upper case. The capital sigma is the one letter whose
lower case depends on its neighbours: at the end of a word it becomes the final sigma.
-/
namespace EntityDiagram.Text

def lowerChar (c : Char) : List Char :=
  if c = '\u0130' then ['i', '\u0307']
  else match imageIn c.toNat lowerRuns with
    | some image => [Char.ofNat image]
    | none => [c]

def upperChar (c : Char) : List Char :=
  match upperExpansions.lookup c.toNat with
  | some images => images.map Char.ofNat
  | none =>
    match imageIn c.toNat upperRuns with
    | some image => [Char.ofNat image]
    | none => [c]

def casedNext (cs : List Char) : Bool :=
  match cs.dropWhile fun c => inRanges c.toNat ignorableRanges with
  | [] => false
  | c :: _ => inRanges c.toNat casedRanges

/-- Lower case of the characters after `before`, which holds the nearest character first. -/
def lowerFrom (before : List Char) : List Char → List Char
  | [] => []
  | c :: rest =>
    (if c = '\u03a3' && casedNext before && !casedNext rest then ['\u03c2'] else lowerChar c)
      ++ lowerFrom (c :: before) rest

def lowerChars (cs : List Char) : List Char := lowerFrom [] cs

def lower (text : String) : String := String.ofList (lowerChars text.toList)

def upper (text : String) : String := String.ofList (text.toList.flatMap upperChar)

def capitalize (text : String) : String :=
  match text.toList with
  | [] => ""
  | c :: rest => String.ofList (upperChar c ++ rest)

end EntityDiagram.Text
