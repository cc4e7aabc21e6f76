/-!
Contract: the plain form of a file's path.

Owns: dropping empty parts and parts that stand for the same place, and the slashes at the front.

Two slashes at the front are kept, since they may have a meaning of their own; any
other number is as good as one. A part that leads upwards is kept.

Does not own: whether the file exists.
-/

namespace LiveGrid.CommandLine

/-- The parts between slashes, given the reversed beginning of the first one. -/
def partsFrom (current : List Char) : List Char → List (List Char)
  | [] => [current.reverse]
  | '/' :: rest => current.reverse :: partsFrom [] rest
  | character :: rest => partsFrom (character :: current) rest

/-- The slashes at the front of a plain path. -/
def rootOf (path : List Char) : String :=
  match (path.takeWhile (· == '/')).length with
  | 0 => ""
  | 2 => "//"
  | _ => "/"

/-- The plain form of a path. -/
def plainPath (path : String) : String :=
  let parts := (partsFrom [] path.toList).map String.ofList
  let kept := parts.filter fun part => !part.isEmpty && part != "."
  let plain := rootOf path.toList ++ String.intercalate "/" kept
  if plain.isEmpty then "." else plain

end LiveGrid.CommandLine
