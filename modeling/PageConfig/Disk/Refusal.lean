/-!
# Refusals

Why a disk does not do what it is asked.
-/

namespace PageConfig

/-- Why a disk refused. -/
inductive Refusal where
  | missing
  | notDirectory
  | isDirectory
  /-- A name, or a whole path, has more bytes than a disk takes. -/
  | nameTooLong
  /-- The bytes of a file are no text. -/
  | notText
  /-- Anything else, in the words of the system. -/
  | other (words : String)
deriving DecidableEq, Inhabited

/-- The refusal in words. -/
def Refusal.words : Refusal → String
  | missing => "No such file or directory (os error 2)"
  | notDirectory => "Not a directory (os error 20)"
  | isDirectory => "Is a directory (os error 21)"
  | nameTooLong => "File name too long (os error 36)"
  | notText => "stream did not contain valid UTF-8"
  | other words => words

end PageConfig
