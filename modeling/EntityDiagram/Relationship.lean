import EntityDiagram.Cardinality
import EntityDiagram.Text.DisplayName

/-!
Relationships between entities, written as

    FROM SYMBOLS TO : "label"

where the label is optional. The entities need not be declared. A line may also only look like a
relationship, by one of three shapes, the first of which is this grammar.
-/
namespace EntityDiagram

structure Relationship where
  fromEntity : String
  toEntity : String
  cardinality : Cardinality
  name : String
  displayName : String
  symbols : String
  label : Option String := none
  deriving DecidableEq, Repr

namespace Relationship

def reference (r : Relationship) : String := s!"{r.fromEntity} → {r.toEntity}"

def expectedForeignKey (r : Relationship) : String := s!"{Text.lower r.fromEntity}_id"

def junctionName (r : Relationship) : String := r.fromEntity ++ r.toEntity

def isSymbol (c : Char) : Bool :=
  c = '|' || c = '\x7d' || c = '\x7b' || c = 'o' || c = '-'

def isQuote (c : Char) : Bool := c = '\x22' || c = '\x27'

/-- The parts of a relationship line as they are written; the label keeps its quotes. -/
structure Parts where
  fromEntity : List Char
  symbols : List Char
  toEntity : List Char
  label : List Char
  deriving DecidableEq, Repr

/-- The label after a colon. Blanks before it are skipped, and it reaches to the end of its line,
which is also the end of the input. A label of blanks alone must have a character on the last
line. -/
def labelChars? (cs : List Char) : Option (List Char) :=
  match cs.dropWhile Text.isBlank with
  | [] =>
    match (Text.dropFinalNewline cs).getLast? with
    | some c => if c = '\n' then none else some []
    | none => none
  | c :: rest =>
    let line := Text.dropFinalNewline (c :: rest)
    if line.contains '\n' then none else some line

def tail? (cs : List Char) : Option (List Char) :=
  if Text.atEnd cs then some []
  else match cs.dropWhile Text.isBlank with
    | ':' :: rest => labelChars? rest
    | _ => none

def scan? (line : List Char) : Option Parts := do
  let (fromEntity, rest) ← Text.run? Text.isWordChar line
  let (_, rest) ← Text.run? Text.isBlank rest
  let (symbols, rest) ← Text.run? isSymbol rest
  let (_, rest) ← Text.run? Text.isBlank rest
  let (toEntity, rest) ← Text.run? Text.isWordChar rest
  let label ← tail? rest
  return ⟨fromEntity, symbols, toEntity, label⟩

def unquote (cs : List Char) : List Char :=
  let body := match cs with
    | c :: rest => if isQuote c then rest else cs
    | [] => []
  match body.getLast? with
  | some c => if isQuote c then body.dropLast else body
  | none => body

/-- The relationship that the parts of a line describe. Without a label it is named after its two
entities. -/
def ofParts (parts : Parts) : Relationship :=
  let fromEntity := String.ofList parts.fromEntity
  let toEntity := String.ofList parts.toEntity
  let symbols := String.ofList parts.symbols
  let label := String.ofList (unquote (Text.trimChars parts.label))
  let base := s!"{fromEntity}_{toEntity}"
  { fromEntity
    toEntity
    cardinality := Cardinality.ofSymbols symbols
    name := if label = "" then base else label
    displayName := if label = "" then Text.displayName base else label
    symbols
    label := if label = "" then none else some label }

def ofLine? (line : String) : Option Relationship := (scan? line.toList).map ofParts

def lineText (fromEntity symbols toEntity : String) (label : Option String) : String :=
  let link := s!"{fromEntity} {symbols} {toEntity}"
  match label with
  | some text => if text = "" then link else s!"{link} : \"{text}\""
  | none => link

inductive Shape where
  /-- The line is a relationship. -/
  | grammar
  /-- The line holds a mark of cardinality. -/
  | markers
  /-- The line ends with a colon and quoted text. -/
  | quotedLabel
  deriving DecidableEq, Repr

def markers : List (List Char) :=
  [['|', '|', '-', '-'], ['-', '-', 'o', '\x7b'], ['o', '\x7b'], ['\x7d', '|']]

def isQuotedToEnd (cs : List Char) : Bool :=
  match cs.dropWhile Text.isBlank with
  | c :: rest =>
    isQuote c &&
      match rest.dropWhile fun d => !isQuote d with
      | _ :: after => Text.atEnd after
      | [] => false
  | [] => false

def hasQuotedLabel : List Char → Bool
  | [] => false
  | c :: rest => (c = ':' && isQuotedToEnd rest) || hasQuotedLabel rest

def shape? (line : String) : Option Shape :=
  if (scan? line.toList).isSome then some .grammar
  else if markers.any fun mark => Text.occursIn mark line.toList then some .markers
  else if hasQuotedLabel line.toList then some .quotedLabel
  else none

def isShaped (line : String) : Bool := (shape? line).isSome

end Relationship

end EntityDiagram
