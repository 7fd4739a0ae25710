import EntityDiagram.Text.Case

/-!
Levels of journal records and the words for them. A word is compared in upper case; a word that
names no level means the level of information. Two words are reserved for the layouts of records and
cannot be used for a level.
-/
namespace EntityDiagram.Journal

inductive Level where
  | notSet | debug | info | warning | error | critical
  deriving DecidableEq, Repr

namespace Level

def rank : Level → Nat
  | notSet => 0
  | debug => 10
  | info => 20
  | warning => 30
  | error => 40
  | critical => 50

def label : Level → String
  | notSet => "NOTSET"
  | debug => "DEBUG"
  | info => "INFO"
  | warning => "WARNING"
  | error => "ERROR"
  | critical => "CRITICAL"

def words : List (String × Level) :=
  [("CRITICAL", critical), ("FATAL", critical), ("ERROR", error), ("WARNING", warning),
   ("WARN", warning), ("INFO", info), ("DEBUG", debug), ("NOTSET", notSet)]

end Level

/-- A word was given for a level that stands for something else, shown as it is written. -/
inductive LevelError where
  | layout (text : String)
  | layoutTable (shown : String)
  deriving DecidableEq, Repr

def LevelError.message : LevelError → String
  | layout text => s!"Unknown level: '{text}'"
  | layoutTable shown => "Level not an integer or a valid string: " ++ shown

def percentLayout : String := "%(levelname)s:%(name)s:%(message)s"

def layouts : List (String × String × String) :=
  [("%", "PercentStyle", percentLayout),
   ("\x7b", "StrFormatStyle", "\x7blevelname\x7d:\x7bname\x7d:\x7bmessage\x7d"),
   ("$", "StringTemplateStyle", "$\x7blevelname\x7d:$\x7bname\x7d:$\x7bmessage\x7d")]

def layoutsShown : String :=
  let entry (layout : String × String × String) : String :=
    let (mark, style, text) := layout
    s!"'{mark}': (<class 'logging.{style}'>, '{text}')"
  "\x7b" ++ String.intercalate ", " (layouts.map entry) ++ "\x7d"

def reservedWords : List (String × LevelError) :=
  [("BASIC_FORMAT", .layout percentLayout), ("_STYLES", .layoutTable layoutsShown)]

def Level.ofWord (word : String) : Except LevelError Level :=
  let word := Text.upper word
  match reservedWords.lookup word with
  | some e => .error e
  | none => .ok ((words.lookup word).getD .info)

end EntityDiagram.Journal
