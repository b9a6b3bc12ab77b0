import FormulaSql.Expr
import FormulaSql.Fault
import FormulaSql.Token

/-!
# Parsing

Four ranks of binary operators associate to the left, powers associate to the right and bind tighter, signs bind tighter
still. Nothing is refused: an operand that is missing is replaced by the number zero, a parenthesis that is not closed
ends with the tokens, and a sheet name before anything but a cell or a range is dropped.

Behind the last token the parser goes on seeing that token. On a list that ends with the finishing token it always stops;
on other lists it may run in circles. Each call uses up one unit of `fuel`, and `parse` supplies more than any run that
stops can use; running out of it is the fault `Fault.endless`.
-/

namespace FormulaSql

/-- The ranks of binary operators that associate to the left, loosest first. -/
inductive Rank where
  | comparison
  | concat
  | sum
  | product
  deriving Repr, DecidableEq

namespace Rank

/-- The operators of a rank. -/
def symbols : Rank → List String
  | comparison => ["=", "<>", "<", ">", "<=", ">="]
  | concat => ["&"]
  | sum => ["+", "-"]
  | product => ["*", "/"]

/-- The next tighter rank; operands of the tightest one are powers. -/
def tighter : Rank → Option Rank
  | comparison => some concat
  | concat => some sum
  | sum => some product
  | product => none

end Rank

namespace Parser

/-- A fault and the position that was reached. -/
structure Failure where
  fault : Fault
  pos : Nat
  deriving Repr, DecidableEq

/-- The token at a position; behind the end the last one. -/
def tokenAt (tokens : Array Token) (pos : Nat) : Except Failure Token :=
  match tokens[pos]?.or tokens.back? with
  | some t => .ok t
  | none => .error ⟨.noToken, pos⟩

/-- The lexeme at a position. -/
def lexemeAt (tokens : Array Token) (pos : Nat) : Except Failure Lexeme :=
  (tokenAt tokens pos).map Token.lexeme

/-- The operator among `symbols` at a position. -/
def operatorAt (tokens : Array Token) (symbols : List String) (pos : Nat) : Except Failure (Option String) := do
  match ← lexemeAt tokens pos with
  | .operator s => return if symbols.contains s then some s else none
  | _ => return none

/-- One part of a table reference. -/
def part (name : String) (value : Option String) : Except Fault Datum :=
  match value with
  | some s => .ok s
  | none => .error (.missingPart name)

/-- The node of a table reference. -/
def tableExpr : Option TableParts → Except Fault Expr
  | none => .error (.noParts .null)
  | some parts => do
    let table ← part "table" parts.table
    let column ← part "column" parts.column
    let whole ← part "full" parts.whole
    return .table table column whole

mutual

/-- An expression of a rank: operands of the next tighter rank, joined from left to right. -/
def level (tokens : Array Token) (fuel : Nat) (rank : Rank) (pos : Nat) : Except Failure (Expr × Nat) :=
  match fuel with
  | 0 => .error ⟨.endless, pos⟩
  | fuel + 1 => do
    let (left, pos) ← operand tokens fuel rank pos
    chain tokens fuel rank left pos
termination_by structural fuel

/-- An operand of a rank. -/
def operand (tokens : Array Token) (fuel : Nat) (rank : Rank) (pos : Nat) : Except Failure (Expr × Nat) :=
  match fuel with
  | 0 => .error ⟨.endless, pos⟩
  | fuel + 1 =>
    match rank.tighter with
    | some rank => level tokens fuel rank pos
    | none => power tokens fuel pos
termination_by structural fuel

/-- Goes on behind the left operand as long as operators of the rank follow. -/
def chain (tokens : Array Token) (fuel : Nat) (rank : Rank) (left : Expr) (pos : Nat) : Except Failure (Expr × Nat) :=
  match fuel with
  | 0 => .error ⟨.endless, pos⟩
  | fuel + 1 => do
    match ← operatorAt tokens rank.symbols pos with
    | none => return (left, pos)
    | some s =>
      let (right, pos) ← operand tokens fuel rank (pos + 1)
      chain tokens fuel rank (.binary s left right) pos
termination_by structural fuel

/-- A signed operand, with a power of its own behind a power sign. -/
def power (tokens : Array Token) (fuel : Nat) (pos : Nat) : Except Failure (Expr × Nat) :=
  match fuel with
  | 0 => .error ⟨.endless, pos⟩
  | fuel + 1 => do
    let (left, pos) ← unary tokens fuel pos
    match ← operatorAt tokens ["^"] pos with
    | none => return (left, pos)
    | some s =>
      let (right, pos) ← power tokens fuel (pos + 1)
      return (.binary s left right, pos)
termination_by structural fuel

/-- A primary expression behind any number of signs. -/
def unary (tokens : Array Token) (fuel : Nat) (pos : Nat) : Except Failure (Expr × Nat) :=
  match fuel with
  | 0 => .error ⟨.endless, pos⟩
  | fuel + 1 => do
    match ← operatorAt tokens ["-", "+"] pos with
    | none => primary tokens fuel pos
    | some s =>
      let (operand, pos) ← unary tokens fuel (pos + 1)
      return (.unary s operand, pos)
termination_by structural fuel

/-- A literal, a reference, a call or an expression in parentheses. -/
def primary (tokens : Array Token) (fuel : Nat) (pos : Nat) : Except Failure (Expr × Nat) :=
  match fuel with
  | 0 => .error ⟨.endless, pos⟩
  | fuel + 1 => do
    match ← lexemeAt tokens pos with
    | .number value => return (.number value, pos + 1)
    | .text value => return (.text value, pos + 1)
    | .sheet name => reference tokens fuel (.sheet name : Lexeme).value (pos + 1)
    | _ => reference tokens fuel .null pos
termination_by structural fuel

/-- What may follow a sheet name: a cell or a range of that sheet, or any expression that starts with no literal. -/
def reference (tokens : Array Token) (fuel : Nat) (sheet : Datum) (pos : Nat) : Except Failure (Expr × Nat) :=
  match fuel with
  | 0 => .error ⟨.endless, pos⟩
  | fuel + 1 => do
    match ← lexemeAt tokens pos with
    | .cell name => return (.cell name sheet, pos + 1)
    | .range name => return (.range name sheet, pos + 1)
    | .table parts =>
      match tableExpr parts with
      | .ok e => return (e, pos + 1)
      | .error fault => throw ⟨fault, pos + 1⟩
    | .function _ => call tokens fuel pos
    | .openParen =>
      let (e, pos) ← level tokens fuel .comparison (pos + 1)
      match ← lexemeAt tokens pos with
      | .closeParen => return (e, pos + 1)
      | _ => return (e, pos)
    | _ => return (.missing, pos + 1)
termination_by structural fuel

/-- A call. The value of the current token is its name, whatever kind of token that is. -/
def call (tokens : Array Token) (fuel : Nat) (pos : Nat) : Except Failure (Expr × Nat) :=
  match fuel with
  | 0 => .error ⟨.endless, pos⟩
  | fuel + 1 => do
    let name := (← lexemeAt tokens pos).value
    match ← lexemeAt tokens (pos + 1) with
    | .openParen =>
      let (args, pos) ← arguments tokens fuel (pos + 2)
      return (.call name args, pos)
    | _ => return (.call name [], pos + 1)
termination_by structural fuel

/-- The arguments of a call and its closing parenthesis. A comma may stand behind each argument. -/
def arguments (tokens : Array Token) (fuel : Nat) (pos : Nat) : Except Failure (List Expr × Nat) :=
  match fuel with
  | 0 => .error ⟨.endless, pos⟩
  | fuel + 1 => do
    match ← lexemeAt tokens pos with
    | .closeParen => return ([], pos + 1)
    | .finish => return ([], pos)
    | _ =>
      let (arg, pos) ← level tokens fuel .comparison pos
      let next := match ← lexemeAt tokens pos with
        | .comma => pos + 1
        | _ => pos
      let (args, pos) ← arguments tokens fuel next
      return (arg :: args, pos)
termination_by structural fuel

end

/-- Fuel for any run over a list of tokens that stops: no more than fifteen calls are nested per token. -/
def enough (tokens : Array Token) : Nat :=
  16 * (tokens.size + 2)

/-- The things that can be parsed by themselves. -/
inductive Goal where
  | level (rank : Rank)
  | power
  | unary
  | primary
  | call
  deriving Repr, DecidableEq

/-- Parses one thing that starts at a position. -/
def parseAt (tokens : Array Token) (goal : Goal) (pos : Nat) : Except Failure (Expr × Nat) :=
  let fuel := enough tokens
  match goal with
  | .level rank => level tokens fuel rank pos
  | .power => power tokens fuel pos
  | .unary => unary tokens fuel pos
  | .primary => primary tokens fuel pos
  | .call => call tokens fuel pos

/-- Parses an expression from the first token on; tokens behind it are not looked at. -/
def parse (tokens : List Token) : Except Failure (Expr × Nat) :=
  parseAt tokens.toArray (.level .comparison) 0

end Parser

end FormulaSql
