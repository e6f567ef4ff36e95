import LabelPress.Number

/-!
# Orientations

A field is printed in one of four orientations, a quarter turn apart. An angle goes to the nearest
of them, and one halfway between two to the later.
-/

namespace LabelPress

inductive Orientation where
  | normal
  | rotated
  | inverted
  | bottomUp
  deriving DecidableEq

namespace Orientation

def letter : Orientation → Char
  | normal => 'N'
  | rotated => 'R'
  | inverted => 'I'
  | bottomUp => 'B'

def degrees : Orientation → Nat
  | normal => 0
  | rotated => 90
  | inverted => 180
  | bottomUp => 270

end Orientation

namespace Number

def turnRemainder : Number → Number
  | int n => int (n % 360)
  | real x => real (x.mod 360)

def plusTurn : Number → Number
  | int n => int (n + 360)
  | real x => real (x.add (.ofInt 360))

/-- The angle of the same direction from 0 to below 360 degrees. What remains of an angle right below
zero may be rounded to 360 itself, and the second remainder makes zero of it. -/
def normalizedAngle (angle : Number) : Number := angle.turnRemainder.plusTurn.turnRemainder

def orientation (angle : Number) : Orientation :=
  let a := angle.normalizedAngle
  if a.less 45 || (Number.int 315).atMost a then .normal
  else if a.less 135 then .rotated
  else if a.less 225 then .inverted
  else .bottomUp

end Number
end LabelPress
