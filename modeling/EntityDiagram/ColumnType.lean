import EntityDiagram.SemanticType
import EntityDiagram.Text.Blank

/-!
Type tokens. A column's type is written as a bare word, as `choice(a, b)` with its options, or as
`lookup(Target)` with the entity it refers to. Words are read through a fixed table without regard
to case, and a word that is not in the table means a string.
-/
namespace EntityDiagram

inductive ColumnType where
  | plain (type : SemanticType)
  | choice (options : List String)
  | lookup (target : String)
  deriving DecidableEq, Repr

namespace ColumnType

def words : List (String × SemanticType) :=
  [("string", .string), ("int", .integer), ("integer", .integer), ("decimal", .decimal),
   ("money", .money), ("boolean", .boolean), ("bool", .boolean), ("datetime", .dateTime),
   ("date", .dateTime), ("dateonly", .dateOnly), ("text", .memo), ("memo", .memo),
   ("guid", .uniqueIdentifier), ("uniqueidentifier", .uniqueIdentifier), ("email", .email),
   ("phone", .phone), ("url", .url), ("ticker", .ticker), ("timezone", .timeZone),
   ("language", .language), ("duration", .duration), ("float", .float), ("double", .float),
   ("file", .file), ("image", .image)]

def supportedTokens : List String :=
  (words.map (·.1)).mergeSort (· ≤ ·) ++ ["choice(...)", "lookup(...)"]

/-- The argument of `keyword(…)`: not empty and without a closing parenthesis, which ends the
token. -/
def argument? (keyword : String) (token : List Char) : Option (List Char) :=
  let opening := keyword.toList ++ ['(']
  if opening.isPrefixOf token then
    match Text.run? (· ≠ ')') (token.drop opening.length) with
    | some (argument, ')' :: after) => if Text.atEnd after then some argument else none
    | _ => none
  else none

def ofToken (token : String) : ColumnType :=
  match argument? "choice" token.toList with
  | some argument =>
    choice ((Text.splitChars ',' argument).map fun option => String.ofList (Text.trimChars option))
  | none =>
    match argument? "lookup" token.toList with
    | some argument => lookup (String.ofList (Text.trimChars argument))
    | none => plain ((words.lookup (Text.lower token)).getD .string)

def refine (type : ColumnType) (column : String) : ColumnType :=
  match type with
  | plain semantic => plain (semantic.refine column)
  | other => other

def resolve (token column : String) : ColumnType := (ofToken token).refine column

def semantic : ColumnType → SemanticType
  | plain type => type
  | choice _ => .choice
  | lookup _ => .lookup

def options? : ColumnType → Option (List String)
  | choice options => some options
  | _ => none

def target? : ColumnType → Option String
  | lookup target => some target
  | _ => none

end ColumnType

end EntityDiagram
