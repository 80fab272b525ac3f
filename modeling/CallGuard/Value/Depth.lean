import CallGuard.Value.Basic

/-!
How deep an activity goes into a value. It starts with a number of levels, every value that holds
others takes up one or two of them, and a value for which no levels are left ends the activity.
-/

namespace CallGuard.Value

/-- The error of an activity that goes deeper into a value than it may. -/
def tooDeep (activity : String) : Raised :=
  ⟨"RecursionError", "maximum recursion depth exceeded while " ++ activity⟩

/-- The levels that are left inside a value that takes up a number of them. -/
def levelsInside (activity : String) (levels taken : Nat) : Except Raised Nat :=
  if levels < taken then .error (tooDeep activity) else .ok (levels - taken)

end CallGuard.Value
