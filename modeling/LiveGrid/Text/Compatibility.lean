import LiveGrid.Text.Compatibility.Composition
import LiveGrid.Text.Compatibility.Decomposition

/-!
Contract: the compatibility normal form of a text, decomposed and then composed.

Owns:
- the order of combining marks by their class, equal classes in the order given;
- composition of each mark with the character that it belongs to, unless another
  mark of the same or a higher class stands between them.

Does not own: the character tables, which lie beside this module.
-/

namespace LiveGrid.Text.Compatibility

/-- The code points in reverse, every run of marks ordered by class. -/
private def orderedReverse (codes : List Nat) : List Nat :=
  codes.foldl
    (fun reversed code =>
      if combiningClass code = 0 then code :: reversed else insertLast reversed code) []
where
  /-- Adds a mark to a reversed run, behind those of a higher class. -/
  insertLast (reversed : List Nat) (code : Nat) : List Nat :=
    match reversed with
    | [] => [code]
    | last :: rest =>
        if combiningClass code < combiningClass last then last :: insertLast rest code
        else code :: reversed

/-- Composes the rest of a text with the character `starter` that began last. The marks that
stayed beside it are kept in reverse. -/
private def composeFrom (starter : Nat) (kept : List Nat) : List Nat → List Nat
  | [] => starter :: kept.reverse
  | code :: rest =>
      let blocked :=
        match kept with
        | [] => false
        | last :: _ => decide (combiningClass code ≤ combiningClass last)
      match (if blocked then none else composition? starter code) with
      | some composite => composeFrom composite kept rest
      | none =>
          if combiningClass code = 0 then
            starter :: kept.reverse ++ composeFrom code [] rest
          else composeFrom starter (code :: kept) rest

/-- Composes a whole text; marks before its first character stay as they are. -/
private def compose : List Nat → List Nat
  | [] => []
  | code :: rest =>
      if combiningClass code = 0 then composeFrom code [] rest else code :: compose rest

/-- The compatibility normal form of a text. -/
def normalForm (text : String) : String :=
  if text.toList.all fun character => character.toNat < 128 then text
  else
    let codes := text.toList.flatMap fun character => decomposition character.toNat
    String.ofList ((compose (orderedReverse codes).reverse).map Char.ofNat)

end LiveGrid.Text.Compatibility
