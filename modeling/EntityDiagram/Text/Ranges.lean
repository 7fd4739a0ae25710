/-!
Look-up of a code point in ascending tables of intervals and of evenly stepped runs.
-/
namespace EntityDiagram.Text

/-- Membership in one of the inclusive intervals of an ascending list. The search stops at the
first interval that begins beyond `n`. -/
def inRanges (n : Nat) : List (Nat × Nat) → Bool
  | [] => false
  | (first, last) :: rest =>
    if n < first then false else if n ≤ last then true else inRanges n rest

/-- Membership in one of the runs `(first, last, step)` of an ascending list. -/
def inSteppedRuns (n : Nat) : List (Nat × Nat × Nat) → Bool
  | [] => false
  | (first, last, step) :: rest =>
    if n < first then false
    else if n ≤ last then (n - first) % step = 0
    else inSteppedRuns n rest

def labelIn (n : Nat) : List (Nat × Nat × Nat) → Option Nat
  | [] => none
  | (first, last, label) :: rest =>
    if n < first then none else if n ≤ last then some label else labelIn n rest

/-- A run `(first, last, step, image)` of a code point mapping. -/
abbrev Run := Nat × Nat × Nat × Nat

def imageIn (n : Nat) : List Run → Option Nat
  | [] => none
  | (first, last, step, image) :: rest =>
    if n < first then none
    else if n ≤ last then
      if (n - first) % step = 0 then some (image + (n - first)) else none
    else imageIn n rest

end EntityDiagram.Text
