import LiveGrid.Script.Syntax

/-!
Contract: the tokens of a script.

Owns:
- the token type, with line ends and changes of indentation as tokens;
- the reserved words.

Does not own: how a text is cut into tokens.
-/

namespace LiveGrid.Script

/-- Tokens. Literals carry their value, and a formatted text the tokens of each of its
embedded expressions. -/
inductive Token where
  | name (text : String)
  | keyword (text : String)
  | number (value : Literal)
  | text (codes : List Nat)
  | bytes (codes : List Nat)
  | formatted (expressions : List (List Token))
  | mark (text : String)
  | lineEnd
  | indent
  | dedent

instance : Inhabited Token := ⟨.lineEnd⟩

/-- The words that are never names. -/
def reservedWords : List String :=
  ["False", "None", "True", "and", "as", "assert", "async", "await", "break", "class",
   "continue", "def", "del", "elif", "else", "except", "finally", "for", "from", "global",
   "if", "import", "in", "is", "lambda", "nonlocal", "not", "or", "pass", "raise", "return",
   "try", "while", "with", "yield"]

namespace Token

/-- Whether the token is the given reserved word. -/
def isKeyword (word : String) : Token → Bool
  | .keyword own => own == word
  | _ => false

/-- Whether the token is the given mark. -/
def isMark (written : String) : Token → Bool
  | .mark own => own == written
  | _ => false

/-- Whether the token is the given name. -/
def isName (word : String) : Token → Bool
  | .name own => own == word
  | _ => false

end Token

end LiveGrid.Script
