import EntityDiagram.Decimal
import EntityDiagram.Text.Quoted

/-!
JSON documents. Objects keep their members in order and hold each key once; integers and decimals
are different values. A document is written without blanks between its parts. Documents can be read
that cannot be written: numbers without digits, and texts with half of a character in them.
-/
namespace EntityDiagram

inductive Json where
  | null
  | bool (value : Bool)
  | int (value : Int)
  | decimal (value : Decimal)
  | text (value : String)
  /-- A text that holds half of a character, shown with a mark in the place of each half. -/
  | brokenText (shown : String)
  | list (items : List Json)
  | object (members : List (String × Json))
  deriving Repr

namespace Json

def ofText? : Option String → Json
  | some value => text value
  | none => null

def ofTexts (values : List String) : Json := list (values.map text)

def setMember (key : String) (value : Json) : List (String × Json) → List (String × Json)
  | [] => [(key, value)]
  | member :: rest =>
    if member.1 = key then (key, value) :: rest else member :: setMember key value rest

def member? (key : String) : Json → Option Json
  | object members => members.lookup key
  | _ => none

mutual

def isWritable : Json → Bool
  | decimal (.finite ..) => true
  | decimal _ => false
  | brokenText _ => false
  | list items => areWritable items
  | object members => membersWritable members
  | _ => true

def areWritable : List Json → Bool
  | [] => true
  | item :: rest => isWritable item && areWritable rest

def membersWritable : List (String × Json) → Bool
  | [] => true
  | (_, value) :: rest => isWritable value && membersWritable rest

end

mutual

/-- The document has at most so many levels, of which the document itself is the first. -/
def isWithin (levels : Nat) : Json → Bool
  | list items => 0 < levels && areWithin (levels - 1) items
  | object members => 0 < levels && membersWithin (levels - 1) members
  | _ => 0 < levels

def areWithin (levels : Nat) : List Json → Bool
  | [] => true
  | item :: rest => isWithin levels item && areWithin levels rest

def membersWithin (levels : Nat) : List (String × Json) → Bool
  | [] => true
  | (_, value) :: rest => isWithin levels value && membersWithin levels rest

end

mutual

def withoutIndefinite : Json → Json
  | decimal (.finite negative mantissa exponent) => decimal (.finite negative mantissa exponent)
  | decimal _ => null
  | list items => list (itemsWithoutIndefinite items)
  | object members => object (membersWithoutIndefinite members)
  | other => other

def itemsWithoutIndefinite : List Json → List Json
  | [] => []
  | item :: rest => withoutIndefinite item :: itemsWithoutIndefinite rest

def membersWithoutIndefinite : List (String × Json) → List (String × Json)
  | [] => []
  | (key, value) :: rest => (key, withoutIndefinite value) :: membersWithoutIndefinite rest

end

def renderChar (c : Char) : List Char :=
  if c = '\x22' then ['\\', '\x22']
  else if c = '\\' then ['\\', '\\']
  else if c.toNat < 0x20 then '\\' :: 'u' :: Text.hexDigits 4 c.toNat
  else [c]

def renderText (value : String) : String :=
  String.ofList ('\x22' :: value.toList.flatMap renderChar ++ ['\x22'])

mutual

def render : Json → String
  | null => "null"
  | bool true => "true"
  | bool false => "false"
  | int value => toString value
  | decimal value => value.render
  | text value => renderText value
  | brokenText shown => renderText shown
  | list items => "[" ++ String.intercalate "," (renderItems items) ++ "]"
  | object members => "\x7b" ++ String.intercalate "," (renderMembers members) ++ "\x7d"

def renderItems : List Json → List String
  | [] => []
  | item :: rest => render item :: renderItems rest

def renderMembers : List (String × Json) → List String
  | [] => []
  | (key, value) :: rest => (renderText key ++ ":" ++ render value) :: renderMembers rest

end

mutual

def displayInner : Json → String
  | null => "None"
  | bool true => "True"
  | bool false => "False"
  | int value => toString value
  | decimal value => value.display
  | text value => Text.quoted value
  | brokenText shown => Text.quoted shown
  | list items => "[" ++ String.intercalate ", " (displayItems items) ++ "]"
  | object members => "\x7b" ++ String.intercalate ", " (displayMembers members) ++ "\x7d"

def displayItems : List Json → List String
  | [] => []
  | item :: rest => displayInner item :: displayItems rest

def displayMembers : List (String × Json) → List String
  | [] => []
  | (key, value) :: rest =>
    (Text.quoted key ++ ": " ++ displayInner value) :: displayMembers rest

end

def display : Json → String
  | text value | brokenText value => value
  | other => other.displayInner

end Json

end EntityDiagram
