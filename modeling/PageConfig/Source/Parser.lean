import PageConfig.Source.Grammar.Statements

/-!
# Parser

The rules of the grammar are tied together in rounds: in round `n + 1` a rule
refers to the rules of round `n`.  A reference without any token between can
only go from one rule to a tighter one, so a text of some length is read in a
number of rounds that is a multiple of its length.
-/

namespace PageConfig.Source

namespace Grammar

/-- The grammar whose rules refer to those of another. -/
def step (G : Grammar) : Grammar
  | .expression c => Expressions.sequence G c
  | .assignment c => Expressions.assignment G c
  | .operation c level => Expressions.operation G c level
  | .unary c => Expressions.unary G c
  | .operand c => Expressions.operand G c
  | .chain c calls computed e => Expressions.chain G c calls computed e
  | .parameters c => parameterList G c
  | .pattern c noLet => bindingPattern G c noLet
  | .type conditional => Types.type G conditional
  | .element c isChild => Elements.element G c isChild
  | .statement c isBody => Statements.statement G c isBody

/-- The grammar after some rounds. -/
def rounds : Nat → Grammar
  | 0 => fun _ => Parse.fail .exhausted
  | n + 1 => step (rounds n)

end Grammar

/-- The text without the mark of its encoding. -/
def withoutMark (cs : List Char) : List Char :=
  match cs with
  | c :: rest => if c.toNat = 0xFEFF then rest else cs
  | [] => []

/-- The text after a first line that names an interpreter. -/
def withoutInterpreter (cs : List Char) : List Char :=
  match cs with
  | '#' :: '!' :: rest => rest.dropWhile fun c => !isLineEnd c
  | _ => cs

/-- The items of a module up to the end of its text. -/
def moduleItems (G : Grammar) : Parse Module :=
  Parse.several (return (← Parse.token) ≠ .eof) (Statements.item G Context.top)

/-- A module, read from its text. -/
def parseChars (cs : List Char) : Except Fault Module :=
  let G := Grammar.rounds (8 * cs.length + 16)
  match moduleItems G (Cursor.ofText true (withoutInterpreter cs)) with
  | .ok items _ => .ok items
  | .error f _ => .error f

/-- A module, or why its text was refused. -/
def parse (code : String) : Except String Module :=
  let cs := withoutMark code.toList
  (parseChars cs).mapError (Fault.message cs)

end PageConfig.Source
