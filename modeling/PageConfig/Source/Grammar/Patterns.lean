import PageConfig.Source.Tree

/-!
# Expressions as patterns

Whether a list in brackets, an object or a list in parentheses is a pattern is
known only from the mark after it.  So it is read as an expression first, and
then taken as a pattern: of a pattern only the expressions written in it are
kept, in order.  A method is the one form that no pattern can hold; any other
form that is no target is left out.
-/

namespace PageConfig.Source

/-- The expressions written in a key. -/
def Key.parts : Key → List Expr
  | .computed e => [e]
  | _ => []

namespace Patterns

/-- What a pattern is for: to bind names, or to assign to places. -/
inductive Role where
  | bound
  | assigned
deriving DecidableEq

/-- Whether an expression inside a pattern that assigns is kept as the place it is. -/
def isPlace : Expr → Bool
  | .member _ _ | .compound .superMember _ | .compound .call _ | .literal _ | .function false _ _
  | .classExpr _ | .wrapped .parens _ | .wrapped (.cast _) _ | .template _ _ => true
  | _ => false

mutual

/-- The expressions of an expression taken as a pattern, or the text from a method in it on. -/
def parts (role : Role) : Expr → Except (List Char) (List Expr)
  | .object members => membersParts role members
  | .array slots => slotsParts role slots
  | .assign true (.compound .pattern inner) value => pure (inner ++ [value])
  | .assign true target value => do
    let inner ← parts role target
    pure (inner ++ [value])
  | e => pure (if role = .assigned && isPlace e then [e] else [])

/-- The expressions of the members of an object taken as a pattern. -/
def membersParts (role : Role) : List Member → Except (List Char) (List Expr)
  | [] => pure []
  | m :: ms => do
    let first ← memberParts role m
    let rest ← membersParts role ms
    pure (first ++ rest)

/-- The expressions of a member of an object taken as a pattern. -/
def memberParts (role : Role) : Member → Except (List Char) (List Expr)
  | .pair key value => do
    let inner ← parts role value
    pure (key.parts ++ inner)
  | .shorthand _ => pure []
  | .shorthandDefault _ value => pure [value]
  | .method _ _ _ place => throw place
  | .spread value => if role = .assigned then parts role value else pure []

/-- The expressions of the places of a list taken as a pattern.  Only the last place can stand for
all that are left. -/
def slotsParts (role : Role) : List Slot → Except (List Char) (List Expr)
  | [] => pure []
  | [.spread value] => parts role value
  | .spread _ :: rest => slotsParts role rest
  | .hole :: rest => slotsParts role rest
  | .item value :: rest => do
    let first ← parts role value
    let more ← slotsParts role rest
    pure (first ++ more)

end

end Patterns

end PageConfig.Source
