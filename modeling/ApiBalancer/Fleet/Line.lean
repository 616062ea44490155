/-!
# Lines

A line in front of something that only one at a time may hold. Whoever comes while it is held waits;
it passes to the waiting in the order in which they came.
-/

namespace ApiBalancer

/-- Who holds the thing, and who waits for it, the first comer first. -/
structure Line where
  holder : Option Nat := none
  waiting : List Nat := []
deriving DecidableEq, Repr

namespace Line

def isFree (line : Line) : Bool := line.holder.isNone

/-- The line once `i` has come to it. -/
def join (line : Line) (i : Nat) : Line :=
  match line.holder with
  | none => { line with holder := some i }
  | some _ => { line with waiting := line.waiting ++ [i] }

/-- The line once its holder has left. -/
def leave (line : Line) : Line := ⟨line.waiting.head?, line.waiting.tail⟩

end Line

end ApiBalancer
