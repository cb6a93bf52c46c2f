/-!
# Patterns for paths

A pattern matches a whole text.  `?` stands for one character, `*` for any
text, slashes included, and brackets for one of some characters.  `**` has to
be a path component of its own; it stands for nothing, for text that ends in a
slash, or for all that is left.
-/

namespace PageConfig

namespace Glob

/-- Characters in brackets: a single one, or all between two. -/
inductive Choice where
  | single (c : Char)
  | range (first last : Char)
deriving DecidableEq, Inhabited

/-- Whether a choice has a character. -/
def Choice.has : Choice → Char → Bool
  | single d, c => c = d
  | range first last, c => first ≤ c && c ≤ last

/-- A part of a pattern. -/
inductive Token where
  | char (c : Char)
  | anyChar
  | within (choices : List Choice)
  | except (choices : List Choice)
  | sequence
  | recursive
deriving DecidableEq, Inhabited

/-! ### Reading patterns -/

/-- What is wrong with a pattern. -/
inductive Cause where
  | wildcards
  | recursiveWildcards
  | invalidRange
deriving DecidableEq, Inhabited

/-- The cause in words. -/
def Cause.words : Cause → String
  | wildcards => "wildcards are either regular `*` or recursive `**`"
  | recursiveWildcards => "recursive wildcards must form a single path component"
  | invalidRange => "invalid range pattern"

/-- A cause and the position of the character it was noticed at. -/
structure Fault where
  position : Nat
  cause : Cause
deriving DecidableEq, Inhabited

/-- The fault in words. -/
def Fault.message (f : Fault) : String :=
  "Pattern syntax error near position " ++ toString f.position ++ ": " ++ f.cause.words

/-- The choices in brackets: a hyphen between two characters makes a range. -/
def choices : List Char → List Choice
  | a :: '-' :: b :: rest => .range a b :: choices rest
  | a :: rest => .single a :: choices rest
  | [] => []

/-- The characters up to the closing bracket and those after it; the first one is never the
closing bracket. -/
def bracket? : List Char → Option (List Char × List Char)
  | [] => none
  | c :: rest =>
    match rest.dropWhile (· ≠ ']') with
    | [] => none
    | _ :: after => some (c :: rest.takeWhile (· ≠ ']'), after)

theorem length_bracket? {cs inside after : List Char} (h : bracket? cs = some (inside, after)) :
    after.length < cs.length := by
  cases cs with
  | nil => simp [bracket?] at h
  | cons c rest =>
    have hle := (List.dropWhile_suffix (fun x => decide (x ≠ ']')) (l := rest)).length_le
    revert h
    simp only [bracket?]
    split
    · simp
    · rename_i d after' hd
      rw [hd] at hle
      simp only [Option.some.injEq, Prod.mk.injEq, List.length_cons] at hle ⊢
      rintro ⟨_, rfl⟩
      omega

/-- Whether a component can start after a character. -/
def opens : Option Char → Bool
  | none => true
  | some c => c = '/'

/-- The tokens of the rest of a pattern, given its position and the character before it. -/
def tokensFrom (i : Nat) (before : Option Char) (cs : List Char) : Except Fault (List Token) :=
  match cs with
  | [] => .ok []
  | '?' :: rest => (.anyChar :: ·) <$> tokensFrom (i + 1) (some '?') rest
  | '*' :: '*' :: '*' :: _ => .error ⟨i + 2, .wildcards⟩
  | '*' :: '*' :: rest =>
    if opens before then
      match rest with
      | [] => .ok [.recursive]
      | '/' :: rest => (.recursive :: ·) <$> tokensFrom (i + 3) (some '/') rest
      | _ => .error ⟨i + 2, .recursiveWildcards⟩
    else .error ⟨i - 1, .recursiveWildcards⟩
  | '*' :: rest => (.sequence :: ·) <$> tokensFrom (i + 1) (some '*') rest
  | '[' :: '!' :: rest =>
    match h : bracket? rest with
    | some (inside, after) =>
      (.except (choices inside) :: ·) <$> tokensFrom (i + inside.length + 3) (some ']') after
    | none => .error ⟨i, .invalidRange⟩
  | '[' :: rest =>
    match h : bracket? rest with
    | some (inside, after) =>
      (.within (choices inside) :: ·) <$> tokensFrom (i + inside.length + 2) (some ']') after
    | none => .error ⟨i, .invalidRange⟩
  | c :: rest => (.char c :: ·) <$> tokensFrom (i + 1) (some c) rest
termination_by cs.length
decreasing_by
  all_goals try have hlen := length_bracket? h
  all_goals simp only [List.length_cons]
  all_goals omega

/-! ### Matching -/

/-- Whether a token that stands for one character stands for this one. -/
def Token.admits : Token → Char → Bool
  | char d, c => c = d
  | anyChar, _ => true
  | within cs, c => cs.any fun choice => choice.has c
  | except cs, c => !cs.any fun choice => choice.has c
  | sequence, _ => false
  | recursive, _ => false

/-- The ends of a text, itself first. -/
def ends : List Char → List (List Char)
  | [] => [[]]
  | c :: cs => (c :: cs) :: ends cs

/-- The ends of a text that come after a slash. -/
def endsAfterSlash : List Char → List (List Char)
  | [] => []
  | c :: cs => if c = '/' then cs :: endsAfterSlash cs else endsAfterSlash cs

/-- Whether a text is matched by tokens. -/
def accepts : List Token → List Char → Bool
  | [], cs => cs.isEmpty
  | .sequence :: ts, cs => (ends cs).any (accepts ts)
  | .recursive :: ts, cs => (cs :: endsAfterSlash cs ++ [[]]).any (accepts ts)
  | t :: ts, c :: cs => t.admits c && accepts ts cs
  | _ :: _, [] => false

end Glob

/-- A pattern for paths: its text and its parts. -/
structure Glob where
  text : String
  tokens : List Glob.Token
deriving DecidableEq, Inhabited

namespace Glob

/-- A pattern from its text. -/
def parse (text : String) : Except Fault Glob := do
  return ⟨text, ← tokensFrom 0 none text.toList⟩

/-- Whether a pattern matches the whole of a text. -/
def isMatch (g : Glob) (text : String) : Bool := accepts g.tokens text.toList

end Glob

end PageConfig
