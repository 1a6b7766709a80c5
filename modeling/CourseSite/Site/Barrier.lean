/-
  The meeting point of the children of one node in one build.

  * `Barrier`: whether each position has arrived, and with what outcome; and the
    fragments of text that the children leave for the last of them.
  * `Barrier.standing`: what a child that needs its earlier siblings finds: it
    has to wait, or one of them failed, or all of them succeeded.
  * `Barrier.joinFragments`: the fragments in order of position.
  * `Guard`: the promise of a child to arrive, kept by `Barrier.release` when it ends.
-/

namespace CourseSite

/-- How far one child has come. -/
inductive Arrival where
  | pending
  | done
  | failed
deriving DecidableEq

/-- Arrivals by position, and fragments in ascending order of position. -/
structure Barrier where
  arrivals : List Arrival
  fragments : List (Nat × String)
deriving DecidableEq

/-- What the siblings before a position amount to. -/
inductive Standing where
  /-- One of them has not arrived. -/
  | waiting
  /-- All have arrived, and one of them failed. -/
  | failed
  /-- All have arrived, and none failed. -/
  | ready
deriving DecidableEq

namespace Barrier

/-- The barrier for a number of children, none of them arrived. -/
def ofCount (count : Nat) : Barrier := ⟨List.replicate count .pending, []⟩

/-- The barrier after an arrival; a later arrival of the same child counts
    instead of an earlier one. -/
def arrive (barrier : Barrier) (position : Nat) (success : Bool) : Barrier :=
  { barrier with arrivals := barrier.arrivals.set position (if success then .done else .failed) }

/-- The standing of the siblings before a position. -/
def standing (barrier : Barrier) (position : Nat) : Standing :=
  let before := barrier.arrivals.take position
  if before.contains .pending then .waiting
  else if before.contains .failed then .failed
  else .ready

/-- Fragments with the one of a position set. -/
def putFragment (position : Nat) (text : String) : List (Nat × String) → List (Nat × String)
  | [] => [(position, text)]
  | (other, old) :: fragments =>
    if position = other then (position, text) :: fragments
    else if position < other then (position, text) :: (other, old) :: fragments
    else (other, old) :: putFragment position text fragments

/-- The barrier with the fragment of a position set. -/
def insertFragment (barrier : Barrier) (position : Nat) (text : String) : Barrier :=
  { barrier with fragments := putFragment position text barrier.fragments }

/-- The fragments in order of position, joined, and their number. -/
def joinFragments (barrier : Barrier) (separator : String) : String × Nat :=
  (separator.intercalate (barrier.fragments.map (·.2)), barrier.fragments.length)

end Barrier

/-! ## Guards -/

/-- The promise of a child to arrive.  It arrives when its guard ends, and as failed
    unless the guard was told of success. -/
structure Guard where
  position : Nat
  success : Bool
deriving DecidableEq

namespace Guard

/-- A guard that was just opened. -/
def ofPosition (position : Nat) : Guard := ⟨position, false⟩

/-- The guard told of success. -/
def succeed (guard : Guard) : Guard := { guard with success := true }

end Guard

/-- The barrier after a guard has ended. -/
def Barrier.release (barrier : Barrier) (guard : Guard) : Barrier :=
  barrier.arrive guard.position guard.success

end CourseSite
