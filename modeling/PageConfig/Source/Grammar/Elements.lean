import PageConfig.Source.Grammar.Functions

/-!
# Elements

Inside a tag text is cut differently: names may hold hyphens and strings have
no escapes.  Between tags text is plain up to the next brace or angle bracket.
A parser of an element starts at its opening angle bracket and stops at the
bracket that closes it, so that the text after it can be read either way.
-/

namespace PageConfig.Source.Elements

open Parse
open PageConfig.Text (isNameStart isNamePart)

/-! ### Tags -/

/-- A token inside a tag. -/
inductive TagToken where
  | name (s : String)
  | mark (c : Char)
  | string
  | eof
deriving DecidableEq, Inhabited

/-- The next token of a tag: the token, the text from it on, and the text after it.  A string that
is not closed runs to the end of the text. -/
def tagToken (cs : List Char) : TagToken × List Char × List Char :=
  let (_, start) := skipGap .between false cs
  match start with
  | [] => (.eof, [], [])
  | c :: rest =>
    if c = '"' || c = '\'' then (.string, start, (rest.dropWhile (· ≠ c)).drop 1)
    else if isNameStart c || c = '\\' then
      match wordAt start with
      | (.word w, after) =>
        let inName := fun d => isNamePart d || d = '-'
        (.name (w ++ String.ofList (after.takeWhile inName)), start, after.dropWhile inName)
      | _ => (.mark c, start, rest)
    else (.mark c, start, rest)

/-- Fails at a place in the text, for want of a definite token. -/
def missingAt {α : Type} (wanted : String) (place : List Char) : Parse α := do
  seek place
  missing wanted

/-- A name in a tag and the text after it. -/
def word (cs : List Char) : Parse (String × List Char) := do
  match tagToken cs with
  | (.name s, _, rest) => pure (s, rest)
  | (_, start, _) => do
    seek start
    unexpected "jsx identifier"

/-- A name in a tag, or two joined by a colon, and the text after it.  The flag tells whether it
has one part only. -/
def spaced (cs : List Char) : Parse (String × Bool × List Char) := do
  let (s, rest) ← word cs
  match tagToken rest with
  | (.mark ':', _, after) => do
    let (t, rest) ← word after
    pure (s ++ ":" ++ t, false, rest)
  | _ => pure (s, true, rest)

/-- The names after points, joined to those before them. -/
def dotted : Nat → String × Bool × List Char → Parse (String × Bool × List Char)
  | 0, whole => pure whole
  | fuel + 1, (s, plain, cs) => do
    match tagToken cs with
    | (.mark '.', _, after) => do
      let (t, rest) ← word after
      dotted fuel (s ++ "." ++ t, false, rest)
    | _ => pure (s, plain, cs)

/-- The name of an element and the text after it. -/
def name (cs : List Char) : Parse (String × Bool × List Char) := do
  dotted cs.length (← spaced cs)

/-! ### Attributes -/

/-- An expression in braces, given the text after the opening one; the text after the closing one
is left. -/
def braced (cs : List Char) (body : Parse (List Expr)) : Parse (List Expr × List Char) := do
  seek cs
  let es ← body
  let c ← get
  if c.token = .punct "\x7d" then pure (es, c.rest) else missing "\x7d"

/-- What stands in braces: an expression, which may be spread, or nothing. -/
def content (G : Grammar) (c : Context) : Parse (List Expr) := do
  if ← atMark "\x7d" then pure []
  else do
    let _ ← eat "..."
    return [← G.expression c.inner]

/-- The value of an attribute, given the text after the equals sign. -/
def attributeValue (G : Grammar) (c : Context) (cs : List Char) :
    Parse (List Expr × List Char) := do
  match tagToken cs with
  | (.string, _, rest) => pure ([], rest)
  | (.mark '\x7b', start, rest) => do
    let (es, rest) ← braced rest (content G c)
    if es.isEmpty then
      seek rest
      failAt .emptyAttribute start
    pure (es, rest)
  | (.mark '<', start, _) => do
    seek start
    let e ← G.element c.inner
    pure ([e], (← get).rest)
  | (_, start, _) => do
    seek start
    fail .attributeValue

/-- How an opening tag ends. -/
inductive TagEnd where
  /-- The element has no children. -/
  | empty
  /-- Children follow. -/
  | children

/-- The attributes of a tag up to its end, and the text from the closing bracket on. -/
def attributes (G : Grammar) (c : Context) :
    Nat → List Char → Parse (List Expr × TagEnd × List Char)
  | 0, cs => failAt .exhausted cs
  | fuel + 1, cs => do
    match tagToken cs with
    | (.mark '>', start, _) => pure ([], .children, start)
    | (.mark '/', _, rest) =>
      match tagToken rest with
      | (.mark '>', start, _) => pure ([], .empty, start)
      | (_, start, _) => missingAt ">" start
    | (.mark '\x7b', _, rest) => do
      let (es, rest) ← braced rest do
        expect "..."
        return [← G.assignment c.inner]
      let (more, ending, rest) ← attributes G c fuel rest
      pure (es ++ more, ending, rest)
    | _ => do
      let (_, _, rest) ← spaced cs
      let (es, rest) ← match tagToken rest with
        | (.mark '=', _, after) => attributeValue G c after
        | _ => pure ([], rest)
      let (more, ending, rest) ← attributes G c fuel rest
      pure (es ++ more, ending, rest)

/-! ### Children -/

/-- Stands at a single mark, whatever follows it. -/
def standAt (m : String) (cs : List Char) : Parse Unit :=
  set (Cursor.mk (.punct m) cs (cs.drop 1) false)

/-- The mark that opens a closing tag. -/
def closingMark : String := "</"

/-- The cursor at what comes next between tags. -/
def betweenTags (cs : List Char) : Cursor :=
  match cs with
  | [] => ⟨.eof, [], [], false⟩
  | '<' :: '/' :: rest => ⟨.punct closingMark, cs, rest, false⟩
  | '<' :: rest => ⟨.punct "<", cs, rest, false⟩
  | '\x7b' :: rest => ⟨.punct "\x7b", cs, rest, false⟩
  | _ => ⟨.text, cs, cs.dropWhile fun ch => ch ≠ '\x7b' && ch ≠ '<', false⟩

/-- A closing tag: the name in it, its place, and the text from its closing bracket on. -/
structure Closing where
  name : String
  place : List Char
  close : List Char

/-- The bracket that closes a tag, and the text from it on. -/
def closingBracket (cs : List Char) : Parse (List Char) := do
  match tagToken cs with
  | (.mark '>', close, _) => pure close
  | (_, start, _) => missingAt ">" start

/-- A closing tag, given the text after its slash.  That of a fragment has no name, any other has
one. -/
def closingTag (isFragment : Bool) (cs : List Char) : Parse Closing := do
  let place := (tagToken cs).2.1
  if isFragment then return ⟨"", place, ← closingBracket cs⟩
  else
    let (s, _, rest) ← name cs
    return ⟨s, place, ← closingBracket rest⟩

/-- The closing tag after a child that could not be read, which is the last one. -/
def closingAfter (isFragment : Bool) : Parse Closing := do
  let cur ← get
  if cur.token = .punct closingMark then closingTag isFragment cur.rest else missing closingMark

/-- Children up to the closing tag: their expressions, and the closing tag.  A child that cannot be
read is left out, and is the last one. -/
def children (G : Grammar) (c : Context) (isFragment : Bool) :
    Nat → List Char → Parse (List Expr × Closing)
  | 0, cs => failAt .exhausted cs
  | fuel + 1, cs => do
    match cs.dropWhile (fun ch => ch ≠ '\x7b' && ch ≠ '<') with
    | [] => missingAt closingMark []
    | '<' :: '/' :: after => return ([], ← closingTag isFragment after)
    | '<' :: rest => do
      standAt "<" ('<' :: rest)
      match ← asFarAs (G.child c) with
      | none => return ([], ← closingAfter isFragment)
      | some e => do
        let (more, closing) ← children G c isFragment fuel (← get).rest
        pure (e :: more, closing)
    | _ :: rest => do
      match ← asFarAs (braced rest (content G c)) with
      | none => return ([], ← closingAfter isFragment)
      | some (es, rest) => do
        let (more, closing) ← children G c isFragment fuel rest
        pure (es ++ more, closing)

/-! ### Elements -/

/-- What is written in the type arguments of an element, if there are some, and the text after
them. -/
def typeArguments (G : Grammar) (cs : List Char) : Parse (List Expr × List Char) := do
  match tagToken cs with
  | (.mark '<', start, _) => do
    seek start
    match ← attempt (Types.arguments G) with
    | some es => return (es, (← get).start)
    | none => pure ([], cs)
  | _ => pure ([], cs)

/-- An element or a fragment.  Its closing tag has to have its name. -/
def element (G : Grammar) (c : Context) (isChild : Bool) : Parse Expr := do
  let text := (← get).start.drop 1
  match tagToken text with
  | (.mark '>', _, rest) => do
    let (kids, closing) ← children G c true (rest.length + 1) rest
    standAt ">" closing.close
    pure (.element .fragment [] kids)
  | _ => do
    let (tag, plain, rest) ← name text
    let (types, rest) ← typeArguments G rest
    let (values, ending, close) ← attributes G c (rest.length + 1) rest
    let attrs := values ++ types
    let tagName := if plain then Tag.plain tag else Tag.other tag
    match ending with
    | .empty => do
      standAt ">" close
      pure (.element tagName attrs [])
    | .children => do
      let body := close.drop 1
      let (kids, closing) ← children G c false (body.length + 1) body
      if closing.name ≠ tag then
        let after := closing.close.drop 1
        set (if isChild then betweenTags after else Cursor.at after)
        failAt (.closingTag tag) closing.place
      standAt ">" closing.close
      pure (.element tagName attrs kids)

/-- Whether an element starts with what follows an angle bracket. -/
def opensElement (cs : List Char) : Bool :=
  match (Cursor.at cs).token with
  | .word _ => true
  | .punct m => m.startsWith ">"
  | _ => false

end PageConfig.Source.Elements
