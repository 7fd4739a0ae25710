import EntityDiagram.Text.Scan

/-!
Cardinalities. The symbols between two entities, such as `||--o` and a brace, are classified by
the marks they hold, wherever these stand; the first rule that applies decides.
-/
namespace EntityDiagram

inductive CardinalityKind where
  | oneToOne | oneToMany | manyToMany | zeroToMany | unknown
  deriving DecidableEq, Repr

namespace CardinalityKind

def all : List CardinalityKind := [oneToOne, oneToMany, manyToMany, zeroToMany, unknown]

def label : CardinalityKind → String
  | oneToOne => "one-to-one"
  | oneToMany => "one-to-many"
  | manyToMany => "many-to-many"
  | zeroToMany => "zero-to-many"
  | unknown => "unknown"

def ofLabel? (text : String) : Option CardinalityKind := all.find? (·.label == text)

/-- How many pairs of bars there are, read from the left without overlap. -/
def barPairs : List Char → Nat
  | '|' :: '|' :: rest => barPairs rest + 1
  | _ :: rest => barPairs rest
  | [] => 0

def ofSymbols (symbols : List Char) : CardinalityKind :=
  let many := symbols.contains '\x7b'
  if barPairs symbols ≥ 1 && many then oneToMany
  else if barPairs symbols ≥ 2 then oneToOne
  else if many && symbols.contains '\x7d' then manyToMany
  else if symbols.contains 'o' && many then zeroToMany
  else unknown

def sides : CardinalityKind → String × String
  | oneToMany => ("one", "many")
  | oneToOne => ("one", "one")
  | manyToMany => ("many", "many")
  | zeroToMany => ("zero-or-one", "many")
  | unknown => ("unknown", "unknown")

end CardinalityKind

structure Cardinality where
  kind : CardinalityKind
  fromSide : String
  toSide : String
  deriving DecidableEq, Repr

def Cardinality.ofSymbols (symbols : String) : Cardinality :=
  let kind := CardinalityKind.ofSymbols symbols.toList
  ⟨kind, kind.sides.1, kind.sides.2⟩

end EntityDiagram
