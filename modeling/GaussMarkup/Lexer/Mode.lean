/-!
# Modes of the lexer

What a character means depends on where it stands: in ordinary code, in a string, behind a member
access, in a directive, or in a block that `#if 0` switches off. The lexer keeps a stack of modes,
the current one on top, and each rule may push a mode or pop one. The last mode is never popped.
-/

namespace GaussMarkup

/-- Where the lexer is. -/
inductive Mode
  | root
  | string
  | member
  | directive
  | disabled
  deriving DecidableEq, Repr, Inhabited

/-- What a rule does to the stack of modes. -/
inductive Move
  | stay
  | push (mode : Mode)
  | pop
  deriving DecidableEq, Repr, Inhabited

def currentMode : List Mode → Mode
  | [] => .root
  | mode :: _ => mode

/-- The stack after a move, top first. -/
def Move.apply : Move → List Mode → List Mode
  | .stay, stack => stack
  | .push mode, stack => mode :: stack
  | .pop, _ :: mode :: stack => mode :: stack
  | .pop, stack => stack

/-- Whether a move takes a mode off the stack. -/
def Move.drops : Move → List Mode → Bool
  | .pop, stack => 1 < stack.length
  | _, _ => false

theorem Move.length_apply_le (move : Move) (stack : List Mode) :
    (move.apply stack).length ≤ stack.length + 1 := by
  unfold apply; split <;> simp

theorem Move.length_apply_of_drops {move : Move} {stack : List Mode} (h : move.drops stack = true) :
    (move.apply stack).length + 1 = stack.length := by
  match move, stack, h with
  | .pop, _ :: _ :: _, _ => rfl

end GaussMarkup
