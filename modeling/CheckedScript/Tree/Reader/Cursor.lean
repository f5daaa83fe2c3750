import CheckedScript.Diagnostic
import CheckedScript.Tree

/-!
# Reading tokens

A reader consumes tokens from the front of a list.  Its state is the token
consumed last, which diagnostics about something missing point at, the tokens
still to come, and the diagnostics recorded so far.  A reader that fails leaves
the tokens where it stood; `attempt` then records the diagnostic and resumes at
the next statement border.
-/

namespace CheckedScript

namespace Reader

/-- Where a reader stands and what it has recorded.  Before anything has been
consumed, `previous` is the first token. -/
structure Cursor where
  previous : Token
  rest : List Token
  diagnostics : List Diagnostic := []

/-- Why a reader does not return. -/
inductive Stop where
  | failed (diagnostic : Diagnostic)
  /-- The bound on the number of steps was too small. -/
  | exhausted

end Reader

/-- Computations that read tokens. -/
abbrev Reader := EStateM Reader.Stop Reader.Cursor

namespace Reader

namespace Cursor

/-- Note a diagnostic without failing. -/
def record (cursor : Cursor) (diagnostic : Diagnostic) : Cursor :=
  { cursor with diagnostics := cursor.diagnostics ++ [diagnostic] }

/-- Step over one token, if there is one. -/
def advance (cursor : Cursor) : Cursor :=
  match cursor.rest with
  | [] => cursor
  | token :: rest => { cursor with previous := token, rest := rest }

/-- Step over one token, but not over an end marker. -/
def skip (cursor : Cursor) : Cursor :=
  if cursor.rest.head?.any (·.kind = .endOfInput) then cursor else cursor.advance

/-- Drop tokens up to and including a semicolon, or up to a token that starts a
statement or marks the end. -/
def dropToBorder (previous : Token) : List Token → Token × List Token
  | [] => (previous, [])
  | token :: rest =>
      if token.kind = .symbol .semicolon then (token, rest)
      else if token.kind.startsStatement ∨ token.kind = .endOfInput then (previous, token :: rest)
      else dropToBorder token rest

/-- Move to the next statement border.  At least one token is consumed since
`before` tokens were left, unless the end is reached. -/
def resume (before : Nat) (cursor : Cursor) : Cursor :=
  let (previous, rest) := dropToBorder cursor.previous cursor.rest
  let resumed := { cursor with previous := previous, rest := rest }
  if rest.length = before then resumed.skip else resumed

end Cursor

/-- Fail with a cause charged to a token. -/
def fail {α : Type} (cause : Cause) (token : Token) : Reader α :=
  throw (.failed { cause := cause, token := token })

/-- Fail with a cause charged to the token consumed last. -/
def failAfter {α : Type} (cause : Cause) : Reader α := do
  fail cause (← get).previous

/-- The kind of the next token. -/
def nextKind? : Reader (Option Kind) := do
  return (← get).rest.head?.map (·.kind)

/-- Whether the next token has a given kind. -/
def nextIs (kind : Kind) : Reader Bool := do
  return (← nextKind?) = some kind

/-- Consume the next token if its kind is chosen. -/
def acceptWhere? {α : Type} (choose : Kind → Option α) : Reader (Option (α × Token)) := do
  let cursor ← get
  match cursor.rest with
  | [] => return none
  | token :: _ =>
      match choose token.kind with
      | none => return none
      | some chosen =>
          set cursor.advance
          return some (chosen, token)

/-- Consume the next token if it has a given kind. -/
def accept? (kind : Kind) : Reader (Option Token) := do
  match ← acceptWhere? fun next => if next = kind then some () else none with
  | none => return none
  | some (_, token) => return some token

/-- Consume a token of a given kind or fail. -/
def expect (kind : Kind) : Reader Token := do
  match ← accept? kind with
  | some token => return token
  | none => failAfter (.missingToken kind.name)

/-- Consume an identifier or fail. -/
def expectName : Reader Token := do
  match ← accept? .identifier with
  | some token => return token
  | none => failAfter .missingIdentifier

/-- Run a reader.  If it fails, record the diagnostic and resume at the next
statement border. -/
def attempt {α : Type} (reader : Reader α) : Reader (Option α) := fun cursor =>
  match reader cursor with
  | .ok value after => .ok (some value) after
  | .error (.failed diagnostic) after =>
      .ok none ((after.record diagnostic).resume cursor.rest.length)
  | .error .exhausted after => .error .exhausted after

end Reader

end CheckedScript
