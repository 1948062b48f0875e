import ScriptHost.Shell.Session

/-!
# Conditions

The conditions of `test`: texts, integers and files are compared, and conditions are
negated, joined and put in parentheses.

## Grammar

```
either  ::= both (-o both)*
both    ::= negated (-a negated)*
negated ::= ! negated | primary
primary ::= ( either ) | unary operand | operand binary operand | operand
```

An operator of one operand is an operand itself if nothing follows it, or if an operator of
two operands stands in the middle of three arguments that are left.

## Main definitions

* `Condition.holds` — whether arguments are a condition that holds.
-/

namespace ScriptHost.Shell.Condition

/-- The operators of one operand. -/
def unary : List String :=
  ["-r", "-w", "-x", "-e", "-f", "-d", "-c", "-b", "-p", "-u", "-g", "-k", "-s", "-t", "-z", "-n",
    "-h", "-O", "-G", "-L", "-S"]

/-- The operators of two operands. -/
def binary : List String :=
  ["=", "!=", "<", ">", "-eq", "-ne", "-ge", "-gt", "-le", "-lt", "-nt", "-ot", "-ef"]

/-- What an argument is taken for. -/
inductive Kind where
  | nothing
  | operand
  | unary
  | binary
  | negation
  | andWord
  | orWord
  | openParen
  | closeParen
  deriving DecidableEq, Repr

/-- What an argument would be taken for by itself. -/
def kindOf (a : Octets) : Kind :=
  if unary.contains a then .unary
  else if binary.contains a then .binary
  else
    match a with
    | "!" => .negation
    | "-a" => .andWord
    | "-o" => .orWord
    | "(" => .openParen
    | ")" => .closeParen
    | _ => .operand

/-- An operator of one operand is an operand itself in front of these arguments. -/
def isOperandBefore : List Octets → Bool
  | [] => true
  | [_] => false
  | a :: _ => kindOf a = .binary

/-- What the first argument is taken for. -/
def kind : List Octets → Kind
  | [] => .nothing
  | a :: rest =>
    match kindOf a with
    | .unary => if isOperandBefore rest then .operand else .unary
    | .openParen => if rest.isEmpty then .operand else .openParen
    | k => k

/-! ### Operands -/

/-- The integer that an operand is. -/
def integer (text : Octets) : Act Int := do
  match Numeral.whole? 10 text with
  | some n => return n
  | none => fail ("Illegal number: " ++ text)

/-- A program may execute what lies there. -/
def isExecutable : Entry → Bool
  | .file _ executable => executable
  | .utility _ | .directory => true
  | .device _ => false

/-- What holds of a file. -/
def fileHolds (s : Session) (op : String) (path : Octets) : Bool :=
  match s.toRunning.entry? path with
  | none => false
  | some e =>
    match op with
    | "-e" | "-r" | "-w" | "-O" | "-G" => true
    | "-x" => isExecutable e
    | "-d" => e = .directory
    | "-f" =>
      match e with
      | .file .. | .utility _ => true
      | _ => false
    | "-s" =>
      match e with
      | .file content _ => !content.isEmpty
      | .directory | .utility _ => true
      | .device _ => false
    | "-c" =>
      match e with
      | .device _ => true
      | _ => false
    | _ => false

/-- A condition on one operand. -/
def unaryHolds (op : String) (a : Octets) : Act Bool := do
  match op with
  | "-z" => return a.isEmpty
  | "-n" => return !a.isEmpty
  | "-t" =>
    let _ ← integer a
    return false
  | op => return fileHolds (← get) op a

/-- A condition on two operands. -/
def binaryHolds (op : String) (a b : Octets) : Act Bool := do
  let compare := fun (f : Int → Int → Bool) => do
    let x ← integer a
    let y ← integer b
    return f x y
  match op with
  | "=" => return a = b
  | "!=" => return a ≠ b
  | "<" => return a < b
  | ">" => return b < a
  | "-eq" => compare fun x y => x = y
  | "-ne" => compare fun x y => x ≠ y
  | "-lt" => compare fun x y => x < y
  | "-le" => compare fun x y => x ≤ y
  | "-gt" => compare fun x y => y < x
  | "-ge" => compare fun x y => y ≤ x
  | "-ef" =>
    let s ← get
    match s.toRunning.lookUp a, s.toRunning.lookUp b with
    | .ok (l, _), .ok (k, _) => return l = k
    | _, _ => return false
  | _ => return false

/-- Refuses a condition because of an argument. -/
def refuse {α : Type} (argument message : Octets) : Act α :=
  fail (if argument.isEmpty then message else argument ++ ": " ++ message)

/-! ### Conditions

Each reader gets the arguments from the one it begins with, and what that one is taken for.
It answers with the arguments from the last one it has used. -/

mutual

/-- Conditions joined by `-o`. -/
def either (fuel : Nat) (k : Kind) (args : List Octets) : Act (Bool × List Octets) :=
  match fuel with
  | 0 => return (false, args)
  | fuel + 1 => do
    let (a, args) ← both fuel k args
    if kind (args.drop 1) = .orWord then
      let args := args.drop 2
      let (b, args) ← either fuel (kind args) args
      return (a || b, args)
    else return (a, args)

/-- Conditions joined by `-a`. -/
def both (fuel : Nat) (k : Kind) (args : List Octets) : Act (Bool × List Octets) :=
  match fuel with
  | 0 => return (false, args)
  | fuel + 1 => do
    let (a, args) ← negated fuel k args
    if kind (args.drop 1) = .andWord then
      let args := args.drop 2
      let (b, args) ← both fuel (kind args) args
      return (a && b, args)
    else return (a, args)

/-- A condition with negations in front. -/
def negated (fuel : Nat) (k : Kind) (args : List Octets) : Act (Bool × List Octets) :=
  match fuel with
  | 0 => return (false, args)
  | fuel + 1 => do
    if k = .negation then
      let next := kind (args.drop 1)
      let (a, args) ← negated fuel next (if next = .nothing then args else args.drop 1)
      return (!a, args)
    else primary fuel k args

/-- A condition that is not joined to others. -/
def primary (fuel : Nat) (k : Kind) (args : List Octets) : Act (Bool × List Octets) :=
  match fuel with
  | 0 => return (false, args)
  | fuel + 1 => do
    match k, args with
    | .nothing, args => return (false, args)
    | .openParen, args =>
      let args := args.drop 1
      if kind args = .closeParen then return (false, args)
      else
        let (a, args) ← either fuel (kind args) args
        let args := args.drop 1
        if kind args = .closeParen then return (a, args)
        else refuse "" "closing paren expected"
    | .unary, op :: rest =>
      match rest with
      | [] => refuse op "argument expected"
      | a :: _ => return (← unaryHolds op a, rest)
    | _, a :: rest =>
      match kind rest, rest with
      | .binary, op :: rest =>
        match rest with
        | [] => refuse op "argument expected"
        | b :: _ => return (← binaryHolds op a b, rest)
      | _, _ => return (!a.isEmpty, args)
    | _, [] => return (false, [])

end

/-- A condition whose first argument is taken for something. -/
def evaluate (k : Kind) (args : List Octets) : Act Bool := do
  let (holds, args) ← either (4 * args.length + 8) k args
  match args with
  | a :: _ :: _ => refuse a "unexpected operator"
  | _ => return holds

/-- Whether arguments are a condition that holds. Of three arguments the one in the middle is an
operator of two operands if it can be; else a negation or parentheses around three or four
arguments come first. -/
def holdsFrom (positive : Bool) : Nat → List Octets → Act Bool
  | 0, _ => return false
  | fuel + 1, args => do
    let isTriple : Bool := match args with
      | [_, op, _] => decide (kindOf op = .binary)
      | _ => false
    if args.isEmpty then return !positive
    else if isTriple then return (← evaluate .operand args) = positive
    else
      let isShort := args.length = 3 || args.length = 4
      if isShort && args.head? = some "(" && args.getLast? = some ")" then
        let inner := args.dropLast.drop 1
        return (← evaluate (kind inner) inner) = positive
      else if isShort && args.head? = some "!" then holdsFrom false fuel (args.drop 1)
      else return (← evaluate (kind args) args) = positive

/-- Whether arguments are a condition that holds. -/
def holds (args : List Octets) : Act Bool :=
  holdsFrom true (args.length + 1) args

end ScriptHost.Shell.Condition
