/-!
# Styled text

Text with terminal styles.  Without color it is plain; with color, a styled
piece is put between its codes and a reset, and a reset inside it is followed
by its codes again.
-/

namespace PageConfig.Report

/-- A style of a piece of text. -/
inductive Style where
  | bold
  | dimmed
  | underline
  | red
  | green
  | yellow
  | blue
  | cyan
deriving DecidableEq, Inhabited

/-- The code of a style. -/
def Style.code : Style → String
  | bold => "1"
  | dimmed => "2"
  | underline => "4"
  | red => "31"
  | green => "32"
  | yellow => "33"
  | blue => "34"
  | cyan => "36"

/-- The code that ends all styles. -/
def resetCode : String := "\x1b[0m"

/-- The code that begins some styles. -/
def styleCode (styles : List Style) : String :=
  "\x1b[" ++ ";".intercalate (styles.map Style.code) ++ "m"

/-- The characters of a text, where each code that ends all styles has another code behind it. -/
def resume (code : List Char) : List Char → List Char
  | '\x1b' :: '[' :: '0' :: 'm' :: cs => resetCode.toList ++ code ++ resume code cs
  | c :: cs => c :: resume code cs
  | [] => []

/-- A piece of text in some styles. -/
def paint (color : Bool) (styles : List Style) (text : String) : String :=
  if color then
    styleCode styles ++ String.ofList (resume (styleCode styles).toList text.toList) ++ resetCode
  else text

/-- The marks in front of lines. -/
structure Symbols where
  info : String
  success : String
  warning : String
  error : String
deriving DecidableEq, Inhabited

namespace Symbols

/-- The marks for a terminal that can show them. -/
def full : Symbols := ⟨"ℹ", "✔", "⚠", "✖"⟩

/-- The marks for any other terminal. -/
def fallback : Symbols := ⟨"i", "√", "‼", "×"⟩

/-- The marks for a terminal, by the system, whether a build server runs the program, and the
terminal's name. -/
def forTerminal (windows ci : Bool) (term : Option String) : Symbols :=
  if !windows || ci || term = some "xterm-256color" then full else fallback

end Symbols

end PageConfig.Report
