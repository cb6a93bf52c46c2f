import PageConfig.Extract.Reduce
import PageConfig.Source.Parser

/-!
# Values of variables

The value that a text gives to a variable, as a config value.
-/

namespace PageConfig.Extract

open PageConfig.Source (Declarator Expr Module Stmt)

/-- The value of a variable. -/
def declaratorValue? : Declarator → Option Expr
  | .plain _ value => value
  | .pattern _ value => value

/-- The value of the first variable that the first item of a module declares. -/
def initialValue? : Module → Option Expr
  | .vars (d :: _) :: _ => declaratorValue? d
  | _ => none

/-- The declaration of a variable whose value is some text. -/
def declaration (text : String) : String := "const value = " ++ text ++ ";"

/-- The config value that some text has as the value of a variable. -/
def reduceText (text : String) : Except String Reduced := do
  let m ← Source.parse (declaration text)
  pure (((initialValue? m).map reduce).getD ⟨.empty, []⟩)

end PageConfig.Extract
