import ScriptHost.Shell.Numeral
import ScriptHost.Shell.Script

/-!
# Arithmetic expressions

Expressions over integers of 64 bits that wrap around, with variables, assignments and the
usual operators. An expression is evaluated while it is read, so that of two mistakes the
first one counts.

## Main definitions

* `Arithmetic.tokens` — the tokens of an expression.
* `Arithmetic.evaluate` — the value of an expression and what it assigns.

## Precedence

From the loosest to the tightest: assignment, `?:`, `||`, `&&`, then the binary operators
by `Binary.rank`, then the signs and negations.
-/

namespace ScriptHost.Shell.Arithmetic

/-- A binary operator. -/
inductive Binary where
  | mul | div | rem | add | sub | shiftLeft | shiftRight
  | lt | le | gt | ge | eq | ne | bitAnd | bitXor | bitOr
  deriving DecidableEq, Repr

/-- How tightly an operator binds; the tighter the smaller. -/
def Binary.rank : Binary → Nat
  | .mul | .div | .rem => 0
  | .add | .sub => 1
  | .shiftLeft | .shiftRight => 2
  | .lt | .le | .gt | .ge => 3
  | .eq | .ne => 4
  | .bitAnd => 5
  | .bitXor => 6
  | .bitOr => 7

/-- A token. -/
inductive Token where
  | number (n : Int64)
  | variable (name : String)
  | binary (op : Binary)
  /-- An assignment, possibly of the result of an operator. -/
  | assign (op : Option Binary)
  | not
  | complement
  | andAnd
  | orOr
  | question
  | colon
  | openParen
  | closeParen
  /-- A character that begins no token. -/
  | stray
  deriving DecidableEq, Repr

/-- What is wrong with an expression. -/
inductive Problem where
  | expecting (what : String)
  | divisionByZero
  | number (text : String)
  deriving DecidableEq, Repr

/-- The words for what is wrong with an expression. -/
def Problem.message (expression : String) : Problem → String
  | .expecting what => "arithmetic expression: expecting " ++ what ++ ": \"" ++ expression ++ "\""
  | .divisionByZero => "arithmetic expression: division by zero: \"" ++ expression ++ "\""
  | .number text => "Illegal number: " ++ text

/-! ### Tokens -/

/-- An operator, or the assignment of its result if an equals sign follows. -/
def operator (op : Binary) : List Char → Token × List Char
  | '=' :: cs => (.assign (some op), cs)
  | cs => (.binary op, cs)

/-- The token at the front of characters that are not blank. -/
def token (c : Char) (cs : List Char) : Token × List Char :=
  match c, cs with
  | '<', '<' :: cs => operator .shiftLeft cs
  | '<', '=' :: cs => (.binary .le, cs)
  | '<', cs => (.binary .lt, cs)
  | '>', '>' :: cs => operator .shiftRight cs
  | '>', '=' :: cs => (.binary .ge, cs)
  | '>', cs => (.binary .gt, cs)
  | '|', '|' :: cs => (.orOr, cs)
  | '|', cs => operator .bitOr cs
  | '&', '&' :: cs => (.andAnd, cs)
  | '&', cs => operator .bitAnd cs
  | '=', '=' :: cs => (.binary .eq, cs)
  | '=', cs => (.assign none, cs)
  | '!', '=' :: cs => (.binary .ne, cs)
  | '!', cs => (.not, cs)
  | '*', cs => operator .mul cs
  | '/', cs => operator .div cs
  | '%', cs => operator .rem cs
  | '+', cs => operator .add cs
  | '-', cs => operator .sub cs
  | '^', cs => operator .bitXor cs
  | '~', cs => (.complement, cs)
  | '(', cs => (.openParen, cs)
  | ')', cs => (.closeParen, cs)
  | '?', cs => (.question, cs)
  | ':', cs => (.colon, cs)
  | c, cs =>
    if c.isDigit then
      match Numeral.readUnsigned 0 (c :: cs) with
      | some (n, rest) => (.number (Int64.ofInt (Numeral.clamp n)), rest)
      | none => (.stray, cs)
    else if isNameStart c then
      (.variable (String.ofList ((c :: cs).takeWhile isNameChar)), (c :: cs).dropWhile isNameChar)
    else (.stray, cs)

/-- The tokens of an expression. -/
def tokensFrom : Nat → List Char → List Token
  | 0, _ => []
  | fuel + 1, cs =>
    match cs with
    | [] => []
    | c :: rest =>
      if c = ' ' || c = '\t' || c = '\n' then tokensFrom fuel rest
      else
        let (t, rest) := token c rest
        t :: tokensFrom fuel rest

/-- The tokens of an expression. -/
def tokens (expression : String) : List Token :=
  tokensFrom (expression.length + 1) expression.toList

/-! ### Evaluation -/

/-- What evaluation has to keep in mind. -/
structure State where
  rest : List Token
  value : String → Option String
  /-- What was assigned, the last assignment first. -/
  assigned : List (String × Int64)

/-- A step of evaluation. -/
abbrev Step := StateT State (Except Problem)

/-- The next token. -/
def next? : Step (Option Token) := do
  return (← get).rest.head?

/-- Steps over a token. -/
def advance : Step Unit :=
  modify fun s => { s with rest := s.rest.drop 1 }

/-- Steps over a token if it is the next one, and says whether it was. -/
def takes (t : Token) : Step Bool := do
  if (← next?) = some t then
    advance
    return true
  else return false

/-- The number that a variable holds; one without a value holds zero. -/
def lookUp (name : String) : Step Int64 := do
  let s ← get
  match s.assigned.lookup name with
  | some n => return n
  | none =>
    let text := (s.value name).getD ""
    match Numeral.whole? 0 text with
    | some n => return Int64.ofInt n
    | none => throw (.number text)

/-- The number for a truth value. -/
def truth (b : Bool) : Int64 :=
  if b then 1 else 0

/-- The result of a binary operator. -/
def Binary.apply (op : Binary) (a b : Int64) : Except Problem Int64 :=
  match op with
  | .mul => .ok (a * b)
  | .div => if b = 0 then .error .divisionByZero else .ok (a / b)
  | .rem => if b = 0 then .error .divisionByZero else .ok (a % b)
  | .add => .ok (a + b)
  | .sub => .ok (a - b)
  | .shiftLeft => .ok (a <<< b)
  | .shiftRight => .ok (a >>> b)
  | .lt => .ok (truth (a < b))
  | .le => .ok (truth (a ≤ b))
  | .gt => .ok (truth (b < a))
  | .ge => .ok (truth (b ≤ a))
  | .eq => .ok (truth (a = b))
  | .ne => .ok (truth (a ≠ b))
  | .bitAnd => .ok (a &&& b)
  | .bitXor => .ok (a ^^^ b)
  | .bitOr => .ok (a ||| b)

/-- Looser than any binary operator. -/
def loosest : Nat := 8

mutual

/-- An assignment, or anything that binds more tightly. What is `idle` is read, but not
evaluated. -/
def assignment (idle : Bool) : Nat → Step Int64
  | 0 => throw (.expecting "primary")
  | fuel + 1 => do
    match (← get).rest with
    | .variable name :: .assign op :: rest =>
      modify fun s => { s with rest := rest }
      let value ← assignment idle fuel
      if idle then return value
      else
        let value ← match op with
          | none => pure value
          | some op => do op.apply (← lookUp name) value
        modify fun s => { s with assigned := (name, value) :: s.assigned }
        return value
    | _ => conditional idle fuel

/-- A choice between two values. -/
def conditional (idle : Bool) : Nat → Step Int64
  | 0 => throw (.expecting "primary")
  | fuel + 1 => do
    let a ← disjunction idle fuel
    if ← takes .question then
      let b ← assignment (idle || a = 0) fuel
      if ← takes .colon then
        let c ← conditional (idle || a ≠ 0) fuel
        return if a ≠ 0 then b else c
      else throw (.expecting "':'")
    else return a

/-- Values joined by `||`. -/
def disjunction (idle : Bool) : Nat → Step Int64
  | 0 => throw (.expecting "primary")
  | fuel + 1 => do
    let a ← conjunction idle fuel
    if ← takes .orOr then
      let b ← disjunction (idle || a ≠ 0) fuel
      return truth (a ≠ 0 || b ≠ 0)
    else return a

/-- Values joined by `&&`. -/
def conjunction (idle : Bool) : Nat → Step Int64
  | 0 => throw (.expecting "primary")
  | fuel + 1 => do
    let a ← primary idle fuel
    let a ← chain idle a loosest fuel
    if ← takes .andAnd then
      let b ← conjunction (idle || a = 0) fuel
      return truth (a ≠ 0 && b ≠ 0)
    else return a

/-- What binary operators that bind more tightly than a rank make of a value. -/
def chain (idle : Bool) (a : Int64) (rank : Nat) : Nat → Step Int64
  | 0 => throw (.expecting "primary")
  | fuel + 1 => do
    match ← next? with
    | some (.binary op) =>
      if op.rank < rank then
        advance
        let b ← primary idle fuel
        let b ← chain idle b op.rank fuel
        let a ← if idle then pure b else op.apply a b
        chain idle a rank fuel
      else return a
    | _ => return a

/-- A number, a variable, a value in parentheses, or one with a sign. -/
def primary (idle : Bool) : Nat → Step Int64
  | 0 => throw (.expecting "primary")
  | fuel + 1 => do
    match ← next? with
    | some .openParen =>
      advance
      let value ← assignment idle fuel
      if ← takes .closeParen then return value else throw (.expecting "')'")
    | some (.number n) =>
      advance
      return n
    | some (.variable name) =>
      advance
      if idle then return 0 else lookUp name
    | some (.binary .add) =>
      advance
      primary idle fuel
    | some (.binary .sub) =>
      advance
      return -(← primary idle fuel)
    | some .not =>
      advance
      return truth ((← primary idle fuel) = 0)
    | some .complement =>
      advance
      return ~~~(← primary idle fuel)
    | _ => throw (.expecting "primary")

end

/-- The value of an expression, and what it assigns, in order. -/
def evaluate (value : String → Option String) (expression : String) :
    Except Problem (Int64 × List (String × Int64)) := do
  let ts := tokens expression
  let (n, s) ← (assignment false (8 * ts.length + 8)).run ⟨ts, value, []⟩
  if s.rest.isEmpty then .ok (n, s.assigned.reverse) else .error (.expecting "EOF")

end ScriptHost.Shell.Arithmetic
