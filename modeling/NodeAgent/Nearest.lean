/-
This file picks the nearest of some candidates. Of equally near ones the first counts.
-/

namespace NodeAgent

/-- Keeps the nearer of the best candidate so far and the next one; at equal distance the one so
far. -/
def nearer {Candidate : Type} (distance : Candidate → Nat) (best : Option Candidate)
    (next : Candidate) : Option Candidate :=
  match best with
  | some current => if distance next < distance current then some next else best
  | none => some next

/-- The nearest of some candidates. -/
def nearest? {Candidate : Type} (distance : Candidate → Nat) (candidates : List Candidate) :
    Option Candidate :=
  candidates.foldl (nearer distance) none

end NodeAgent
