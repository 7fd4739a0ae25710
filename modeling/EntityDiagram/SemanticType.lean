import EntityDiagram.Text.Case
import EntityDiagram.Text.Scan

/-!
Semantic types of columns. A column has one of a fixed list of types, each with the label under
which it is reported. The generic types string and date-time are refined by what the column's
name says; no other type ever changes.
-/
namespace EntityDiagram

inductive SemanticType where
  | string | integer | decimal | money | boolean | dateTime | dateOnly | memo
  | uniqueIdentifier | email | phone | url | duration | file | image | ticker | timeZone
  | language | float | choice | lookup
  deriving DecidableEq, Repr

namespace SemanticType

def all : List SemanticType :=
  [string, integer, decimal, money, boolean, dateTime, dateOnly, memo, uniqueIdentifier, email,
   phone, url, duration, file, image, ticker, timeZone, language, float, choice, lookup]

def label : SemanticType → String
  | string => "String"
  | integer => "Integer"
  | decimal => "Decimal"
  | money => "Money"
  | boolean => "Boolean"
  | dateTime => "DateTime"
  | dateOnly => "DateOnly"
  | memo => "Memo"
  | uniqueIdentifier => "Uniqueidentifier"
  | email => "Email"
  | phone => "Phone"
  | url => "Url"
  | duration => "Duration"
  | file => "File"
  | image => "Image"
  | ticker => "Ticker"
  | timeZone => "TimeZone"
  | language => "Language"
  | float => "Float"
  | choice => "Choice"
  | lookup => "Lookup"

def ofLabel? (text : String) : Option SemanticType := all.find? (·.label == text)

/-- Parts of a column name that refine the string type, first hit first. -/
def stringHints : List (List String × SemanticType) :=
  [(["email"], email), (["phone", "mobile", "tel"], phone), (["url", "website", "link"], url)]

def dateOnlyHints : List String :=
  ["birthdate", "dateofbirth", "startdate", "enddate", "duedate", "orderdate", "deliverydate",
   "createddate", "modifieddate"]

def refine (type : SemanticType) (column : String) : SemanticType :=
  let name := Text.lower column
  match type with
  | string =>
    match stringHints.find? fun hint => hint.1.any (Text.contains name) with
    | some hint => hint.2
    | none => string
  | dateTime => if dateOnlyHints.any (Text.contains name) then dateOnly else dateTime
  | other => other

end SemanticType

end EntityDiagram
