import BpmpPlatform.Library.Outcome

/-! # Work-list graph search

Breadth-first exploration of a graph given by a successor function.
-/
namespace BpmpPlatform.Search
open Std
variable {α : Type} [Ord α] [TransOrd α]

/-- Pops the front of the queue; a vertex met for the first time is marked and its successors are
appended. The fuel bounds the number of pops. -/
def explore (next : α → List α) : Nat → ExtTreeSet α → List α → ExtTreeSet α
  | 0, visited, _ => visited
  | _ + 1, visited, [] => visited
  | fuel + 1, visited, v :: pending =>
    if visited.contains v then explore next fuel visited pending
    else explore next fuel (visited.insert v) (pending ++ next v)

end BpmpPlatform.Search
