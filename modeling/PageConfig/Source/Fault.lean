import PageConfig.Text.Listing
import PageConfig.Text.Width

/-!
# Why source text does not parse

A fault is a cause and the text from the offending token on.  Its line and
column are worked out against the whole text when the message is written:
lines end at line feeds, and a column is one more than the columns taken by
what stands before it on the line.  A character takes as many columns as it is
wide, and one more if it is written as two code units.
-/

namespace PageConfig.Source

/-- Why source text was refused. -/
inductive Cause where
  /-- No expression or statement starts here. -/
  | expressionExpected
  /-- A statement that is an expression does not end here. -/
  | statementEnd
  /-- A name is missing. -/
  | nameExpected
  /-- The text ends inside a construct. -/
  | endOfText
  /-- A token that is none of those wanted. -/
  | unexpected (found wanted : String)
  /-- One definite token is missing. -/
  | missing (wanted found : String)
  /-- A closing tag with another name than its opening tag. -/
  | closingTag (name : String)
  | unterminatedTemplate
  | unterminatedRegex
  | unicodeEscape
  /-- A character given by its code, without the digits that are wanted. -/
  | badCode (wanted : String)
  /-- A code in braces without its closing brace. -/
  | unclosedCode
  | octalEscape
  | loneBackslash
  /-- A word of the grammar that is written with escapes. -/
  | escapedWord (word : String)
  | nameAfterNumber
  /-- A number without the digits of its base. -/
  | digitExpected (base : Nat)
  | exponentEnd
  | spaceAfterHash
  | strayCharacter (c : Char)
  | conflictMarker
  | emptyParens
  | spreadInParens
  | breakBeforeArrow
  | arrowNotAllowed
  | emptyAttribute
  | attributeValue
  | badTarget
  | notPattern
  | optionalPattern
  | parameterField
  /-- A variable that is a pattern and has no value. -/
  | patternValue
  | fieldConstructor
  | asyncConstructor
  | readOnlyMethod
  | unaryPower
  | awaitStar
  | awaitName
  | optionalConstructor
  | badSuper
  | badSuperCall
  | badImport
  /-- A mark that a keyword cannot take. -/
  | nonNullKeyword (word : String)
  | textImport (text : String)
  | breakAfterThrow
  | awaitLoop
  | twoDefaults
  | exportDecorators
  /-- An import or export that is no item of a module. -/
  | itemInside
  /-- The text nests deeper than it is long. -/
  | exhausted
deriving DecidableEq, Inhabited

/-- A cause, and the text from the offending token on. -/
structure Fault where
  cause : Cause
  rest : List Char
deriving DecidableEq, Inhabited

/-- The digits of a base, in words. -/
def digitWords (base : Nat) : String :=
  if base = 2 then "a binary"
  else if base = 8 then "an octal"
  else if base = 16 then "a hexadecimal"
  else "a decimal"

/-- The cause in words. -/
def Cause.words : Cause → String
  | expressionExpected => "Expression expected"
  | statementEnd => "Expected ';', '\x7d' or <eof>"
  | nameExpected => "Expected ident"
  | endOfText => "Unexpected eof"
  | unexpected found wanted => "Unexpected token `" ++ found ++ "`. Expected " ++ wanted
  | missing wanted found => "Expected '" ++ wanted ++ "', got '" ++ found ++ "'"
  | closingTag name => "Expected corresponding JSX closing tag for <" ++ name ++ ">"
  | unterminatedTemplate => "Unterminated template"
  | unterminatedRegex => "Unterminated regexp literal"
  | unicodeEscape => "Expected unicode escape"
  | badCode wanted => "Bad character escape sequence, expected " ++ wanted
  | unclosedCode => "Invalid unicode escape"
  | octalEscape => "Legacy octal escape is not permitted in strict mode"
  | loneBackslash => "Invalid string escape"
  | escapedWord word => "Unexpected escape sequence in reserved word: " ++ word
  | nameAfterNumber => "Identifier cannot follow number"
  | digitExpected base => "Expected " ++ digitWords base ++ " digit"
  | exponentEnd => "Expected +, - or decimal digit after e"
  | spaceAfterHash => "Unexpected space between # and identifier"
  | strayCharacter c => "Unexpected character '" ++ Text.listed c ++ "'"
  | conflictMarker => "Merge conflict marker encountered."
  | emptyParens => "Parenthesized expression cannot be empty"
  | spreadInParens => "Parenthesized expression cannot contain spread operator"
  | breakBeforeArrow => "Unexpected line break between arrow head and arrow"
  | arrowNotAllowed => "An arrow function is not allowed here"
  | emptyAttribute => "JSX attributes must only be assigned a non-empty expression"
  | attributeValue => "JSX value should be either an expression or a quoted JSX text"
  | badTarget => "Invalid assignment target"
  | notPattern => "Not a pattern"
  | optionalPattern =>
    "A binding pattern parameter cannot be optional in an implementation signature."
  | parameterField => "Typescript parameter property must be an identifier or assignment pattern"
  | patternValue => "Destructuring bindings require initializers"
  | fieldConstructor => "Classes may not have a non-static field named 'constructor'"
  | asyncConstructor => "Constructor can't be an async function"
  | readOnlyMethod => "A method cannot be readonly"
  | unaryPower => "'**' cannot be applied to unary/await expression."
  | awaitStar =>
    "`await*` has been removed from the async functions proposal. Use Promise.all() instead."
  | awaitName => "`await` cannot be used as an identifier in an async context"
  | optionalConstructor => "Constructor in/after an optional chaining is not allowed."
  | badSuper => "Invalid access to super"
  | badSuperCall => "Invalid `super()`"
  | badImport => "Import is not allowed here"
  | nonNullKeyword word =>
    "Typescript non-null assertion operator is not allowed with '" ++ word ++ "'"
  | textImport text =>
    "A string literal cannot be used as an imported binding.\n- Did you mean `import \x7b \"" ++ text
      ++ "\" as foo \x7d`?"
  | breakAfterThrow => "LineBreak cannot follow 'throw'"
  | awaitLoop => "for await syntax is valid only for for-of statement"
  | twoDefaults => "A switch block cannot have multiple defaults"
  | exportDecorators =>
    "Decorators may not appear after 'export' or 'export default' if they also appear before 'export'."
  | itemInside => "'import', and 'export' cannot be used outside of module code"
  | exhausted => "Nested too deeply"

/-- The columns a character takes. -/
def columns (c : Char) : Nat := Text.width c + (if c.toNat < 0x10000 then 0 else 1)

/-- The line and column reached after some text. -/
def place (text : List Char) : Nat × Nat :=
  text.foldl (fun (line, column) c =>
    if c = '\n' then (line + 1, 1) else (line, column + columns c)) (1, 1)

/-- The fault in words, against the text it was found in. -/
def Fault.message (text : List Char) (f : Fault) : String :=
  let (line, column) := place (text.take (text.length - f.rest.length))
  f.cause.words ++ " (at " ++ toString line ++ ":" ++ toString column ++ ")"

end PageConfig.Source
