import EntityDiagram.Decimal
import EntityDiagram.Diagram

/-!
Entities that the platform already offers. An entity of a diagram matches one of them when the
names agree without regard to case.
-/
namespace EntityDiagram.Platform

def commonEntities : List String :=
  ["Account", "Contact", "Lead", "Opportunity", "Case", "Incident", "Activity", "Email",
   "PhoneCall", "Task", "Appointment", "User", "Team", "BusinessUnit", "SystemUser", "Product",
   "PriceLevel", "Quote", "Order", "Invoice", "Campaign", "MarketingList", "Competitor"]

def systemColumns : List String :=
  ["createdon", "createdby", "modifiedon", "modifiedby", "ownerid", "statecode", "statuscode"]

def commonEntity? (name : String) : Option String :=
  commonEntities.find? fun common => Text.lower common == Text.lower name

structure Match where
  entity : String
  logicalName : String
  displayName : String
  matchType : String := "exact"
  confidence : Decimal := .finite false 1 0
  deriving DecidableEq, Repr

structure Detection where
  found : List Match := []
  analyzed : Int := 0
  custom : Int := 0
  deriving DecidableEq, Repr

def match? (e : Entity) : Option Match :=
  (commonEntity? e.name).map fun common =>
    { entity := e.name, logicalName := Text.lower common, displayName := common }

def detect (entities : List Entity) : Detection :=
  let found := entities.filterMap match?
  { found
    analyzed := entities.length
    custom := entities.length - found.length }

end EntityDiagram.Platform
