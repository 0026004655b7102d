import NodeOpcua.Library.Mealy

set_option autoImplicit false

/-!
# Reassembly of messages

What a receiver of messages sent in parts is for, in general terms: parts are collected, a last
part completes the message, and a sender may give a message up. Nothing here depends on the
program under verification.

## Main definitions

* `Reassembly.Piece`.
* `Reassembly.step`.
-/

namespace Reassembly

variable {α : Type*}

/-- A part of a message, its last part, or the end of a message given up. -/
inductive Piece (α : Type*)
  | part (body : List α)
  | last (body : List α)
  | abandon
  deriving DecidableEq, Repr

/-- One piece: the parts of the message in progress after it, and the message completed by it. -/
def step (parts : List (List α)) : Piece α → List (List α) × List (List α)
  | .part body => (parts ++ [body], [])
  | .last body => ([], [(parts ++ [body]).flatten])
  | .abandon => ([], [])

end Reassembly
