import LiveGrid.Script.Token

/-!
Contract: reading trees from a list of tokens.

Owns:
- the reading monad, which consumes tokens from the front and fails without a reason;
- choice between readings, lists with commas, and expected marks and words.

Does not own: any rule of the language.
-/

namespace LiveGrid.Script.Grammar

/-- A reading of tokens: it fails, or it gives a result and the tokens that are left. -/
abbrev Reading := StateT (List Token) Option

namespace Reading

variable {α β : Type}

/-- The next token, which stays where it is. -/
def peek : Reading (Option Token) :=
  fun tokens => some (tokens.head?, tokens)

/-- Whether the next token has a property; nothing is consumed. -/
def nextIs (property : Token → Bool) : Reading Bool :=
  fun tokens => some ((tokens.head?.map property).getD false, tokens)

/-- Whether the next two tokens have two properties; nothing is consumed. -/
def nextAre (first second : Token → Bool) : Reading Bool :=
  fun tokens =>
    match tokens with
    | left :: right :: _ => some (first left && second right, tokens)
    | _ => some (false, tokens)

/-- Consumes the next token if it has a property, and tells whether it did. -/
def accept (property : Token → Bool) : Reading Bool :=
  fun tokens =>
    match tokens with
    | token :: rest => if property token then some (true, rest) else some (false, tokens)
    | [] => some (false, [])

/-- Consumes the next token, which has to have a property. -/
def need (property : Token → Bool) : Reading Unit := do
  if ← accept property then pure () else failure

/-- Consumes a mark, which has to come next. -/
def mark (text : String) : Reading Unit :=
  need (Token.isMark text)

/-- Consumes a mark if it comes next, and tells whether it did. -/
def acceptMark (text : String) : Reading Bool :=
  accept (Token.isMark text)

/-- Consumes a reserved word, which has to come next. -/
def keyword (word : String) : Reading Unit :=
  need (Token.isKeyword word)

/-- Consumes a reserved word if it comes next, and tells whether it did. -/
def acceptKeyword (word : String) : Reading Bool :=
  accept (Token.isKeyword word)

/-- Consumes a name, which has to come next. -/
def name : Reading String :=
  fun tokens =>
    match tokens with
    | .name text :: rest => some (text, rest)
    | _ => none

/-- The result of a reading, or nothing and no tokens consumed if it fails. -/
def attempt (reading : Reading α) : Reading (Option α) :=
  fun tokens =>
    match reading tokens with
    | some (result, rest) => some (some result, rest)
    | none => some (none, tokens)

/-- The first of two readings that does not fail. -/
def orElse (first second : Reading α) : Reading α :=
  fun tokens =>
    match first tokens with
    | some result => some result
    | none => second tokens

/-- Fails unless a condition holds. -/
def require (condition : Bool) : Reading Unit :=
  if condition then pure () else failure

/-- Further items, each after a comma. A comma that no item follows is consumed too, and the
flag tells whether there was one. -/
def moreItems (item : Reading α) : Nat → Reading (List α × Bool)
  | 0 => failure
  | fuel + 1 => do
      if ← acceptMark "," then
        match ← attempt item with
        | some result => do
            let (more, trailing) ← moreItems item fuel
            pure (result :: more, trailing)
        | none => pure ([], true)
      else pure ([], false)

/-- One item or more with commas between them and perhaps one at the end, which the flag
tells. -/
def items (item : Reading α) (fuel : Nat) : Reading (List α × Bool) := do
  let first ← item
  let (more, trailing) ← moreItems item fuel
  pure (first :: more, trailing)

/-- One item or more with commas between them and none at the end. -/
def strictItems (item : Reading α) (fuel : Nat) : Reading (List α) := do
  let (results, trailing) ← items item fuel
  require !trailing
  pure results

/-- Items as long as a condition on the next token holds. -/
def whileNext (property : Token → Bool) (item : Reading α) : Nat → Reading (List α)
  | 0 => failure
  | fuel + 1 => do
      if ← nextIs property then do
        let result ← item
        let more ← whileNext property item fuel
        pure (result :: more)
      else pure []

end Reading

end LiveGrid.Script.Grammar
