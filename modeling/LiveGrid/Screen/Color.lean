/-!
Contract: the colors of the grid and of the prompt.

Owns:
- the roles that have a color, in the order in which they get one;
- the colors of a terminal with at least 256 colors, and those of any other;
- which roles get a color when a terminal has few pairs of colors;
- the style of a role, which is zero until it has a color.

Does not own: what is drawn in a role.
-/

namespace LiveGrid

/-- What is drawn in a color of its own. -/
inductive ColorRole where
  | zero
  | positive
  | negative
  | prompt
  | text
  | error
deriving DecidableEq, Repr

namespace ColorRole

/-- The roles in the order in which they get a color. -/
def all : List ColorRole := [.zero, .positive, .negative, .prompt, .text, .error]

/-- The name of a role. -/
def name : ColorRole → String
  | .zero => "zero"
  | .positive => "positive"
  | .negative => "negative"
  | .prompt => "prompt"
  | .text => "text"
  | .error => "error"

/-- The role of a name. -/
def ofName? (name : String) : Option ColorRole := all.find? (·.name == name)

/-- The color of a role on a terminal with at least 256 colors. -/
def richColor : ColorRole → Nat
  | .zero => 16
  | .positive => 183
  | .negative => 158
  | .prompt => 245
  | .text => 231
  | .error => 88

/-- The color of a role on a terminal with few colors: black, magenta, green, white or red. -/
def basicColor : ColorRole → Nat
  | .zero => 0
  | .positive => 5
  | .negative => 2
  | .prompt => 7
  | .text => 7
  | .error => 1

end ColorRole

/-- The role, the number and the color of a pair of colors. -/
structure ColorPair where
  role : ColorRole
  number : Nat
  color : Nat
deriving DecidableEq, Repr

/-- The pairs that roles get on a terminal with a number of colors and of pairs. Pair zero belongs
to the terminal. -/
def colorPairs (colors pairs : Int) : List ColorPair :=
  let numbered := ColorRole.all.zipIdx 1
  let possible := numbered.takeWhile fun (_, number) => (number : Int) < pairs
  possible.map fun (role, number) =>
    ⟨role, number, if 256 ≤ colors then role.richColor else role.basicColor⟩

/-- The styles of the roles. -/
structure ColorMap where
  style : ColorRole → Int

namespace ColorMap

/-- The styles before there are colors. -/
def plain : ColorMap := ⟨fun _ => 0⟩

/-- The style of a pair of colors. -/
def pairStyle (number : Nat) : Int := number * 256

/-- The styles of pairs; a role without a pair has the style zero. -/
def ofPairs (pairs : List ColorPair) : ColorMap :=
  ⟨fun role =>
    match pairs.find? (·.role == role) with
    | some pair => pairStyle pair.number
    | none => 0⟩

end ColorMap

end LiveGrid
