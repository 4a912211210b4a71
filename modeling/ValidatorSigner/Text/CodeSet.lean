/-! # Sets of code points

Properties of characters are kept as tables. A table lists the code points at which membership
changes, so that a range takes two entries however long it is, and a code point belongs to the set
if an odd number of changes lies at or below it.
-/
namespace ValidatorSigner.Text

/-- A set of code points: the points at which membership changes, in ascending order. Before the
first one nothing belongs to the set. -/
structure CodeSet where
  changes : Array Nat

namespace CodeSet

/-- How many changes lie at or below `code`, by bisection between the bounds `lo ≤ answer ≤ hi`. -/
def countChanges (set : CodeSet) (code lo hi : Nat) : Nat :=
  if lo < hi then
    let mid := (lo + hi) / 2
    if set.changes.getD mid 0 ≤ code then set.countChanges code (mid + 1) hi
    else set.countChanges code lo mid
  else lo
termination_by hi - lo

def contains (set : CodeSet) (c : Char) : Bool :=
  set.countChanges c.toNat 0 set.changes.size % 2 == 1

end CodeSet
end ValidatorSigner.Text
