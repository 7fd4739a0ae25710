import EntityDiagram.Repair.Plan
import Std.Data.HashSet

/-!
Repair of the columns of an entity, one after the other. The first primary key is renamed to
`name`, unless the entity is a junction table or the key is, or becomes, a foreign key. A
conflicting column gets a free name. A column with the name of a missing foreign key is marked as
one; the foreign keys that no column has are left over.
-/
namespace EntityDiagram.Repair

def renamesKey (e : Entity) (fixes : List ForeignKeyFix) : Bool :=
  match e.primaryKeys with
  | [] => false
  | key :: _ =>
    !e.isJunctionTable && !key.isForeignKey
      && fixes.all fun fix => fixColumn fix ≠ Text.lower key.name

/-- The names that may stand for a conflicting name column: two plain ones and `count` numbered
ones. -/
def nameCandidates (stem : String) (count : Nat) : List String :=
  let base := s!"{stem}_{Entity.nameColumn}"
  base :: s!"{stem}_display_{Entity.nameColumn}" ::
    (List.range count).map fun k => s!"{base}_{k + 2}"

/-- The first `count` candidates that are not taken. Each taken name rules out one candidate at
most, so there are enough of them. -/
def freeNames (stem : String) (taken : List String) (count : Nat) : List String :=
  let known := Std.HashSet.ofList taken
  ((nameCandidates stem (taken.length + count)).filter fun name => !known.contains name).take count

structure State where
  renamesKey : Bool
  pending : List ForeignKeyFix
  free : List String
  deriving DecidableEq, Repr

def takenNames (e : Entity) (fixes : List ForeignKeyFix) : List String :=
  (e.attributes.map fun a => Text.lower a.name) ++ fixes.map fixColumn

def start (e : Entity) (fixes : List ForeignKeyFix) : State :=
  { renamesKey := renamesKey e fixes
    pending := fixes
    free := freeNames (Text.lower e.name) (takenNames e fixes) e.attributes.length }

structure Column where
  source : Attribute
  name : String
  constraints : String
  changes : List Change
  deriving DecidableEq, Repr

def Column.line (c : Column) : String :=
  Attribute.lineText c.source.typeToken c.name c.constraints c.source.description

def isConflicting (conflicting : List String) (a : Attribute) : Bool :=
  !a.isPrimaryKey && conflicting.contains (Text.lower a.name)

def repairedName (conflicting : List String) (state : State) (a : Attribute) : String :=
  if state.renamesKey && a.isPrimaryKey then Entity.nameColumn
  else if isConflicting conflicting a then state.free.headD ""
  else a.name

def concerns (a : Attribute) (fix : ForeignKeyFix) : Bool := fixColumn fix = Text.lower a.name

def isMarked (state : State) (a : Attribute) : Bool :=
  state.pending.any (concerns a) && !a.isForeignKey

def repairedConstraints (state : State) (a : Attribute) : String :=
  if isMarked state a then Text.trim (a.constraints ++ " FK") else a.constraints

def columnChanges (e : Entity) (conflicting : List String) (state : State) (a : Attribute) :
    List Change :=
  let name := repairedName conflicting state a
  (if name = a.name then [] else [.renamed e.name a.name name])
    ++ if isMarked state a then [.marked e.name a.name] else []

def repairColumn (e : Entity) (conflicting : List String) (state : State) (a : Attribute) :
    Column :=
  ⟨a, repairedName conflicting state a, repairedConstraints state a,
    columnChanges e conflicting state a⟩

def advance (conflicting : List String) (state : State) (a : Attribute) : State :=
  { renamesKey := state.renamesKey && !a.isPrimaryKey
    pending := state.pending.filter fun fix => !concerns a fix
    free := if isConflicting conflicting a then state.free.drop 1 else state.free }

def repairColumns (e : Entity) (conflicting : List String) (state : State) :
    List Attribute → List Column × State
  | [] => ([], state)
  | a :: rest =>
    let others := repairColumns e conflicting (advance conflicting state a) rest
    (repairColumn e conflicting state a :: others.1, others.2)

def entityColumns (plan : Plan) (e : Entity) : List Column × State :=
  repairColumns e (plan.conflictsOf e.name) (start e (plan.foreignKeysOf e.name)) e.attributes

end EntityDiagram.Repair
