import PageConfig.Project.Locate

/-!
# Arguments

What a command line asks for.  Arguments are read from left to right.  An
option that wants a value is settled when the next option is met or the line
ends, so a bad value is noticed only then, unless it is attached to its option.
-/

namespace PageConfig.Command

open PageConfig.Project (Options)

/-- What a command line asks for. -/
inductive Request where
  | overview
  | init
  | migrate (options : Options)
deriving DecidableEq, Inhabited

/-- Why a command line asks for nothing that can be run. -/
inductive Usage where
  | help
  | version
  | unknownCommand
  | unknownArgument
  /-- A value is missing or empty. -/
  | missingValue
  /-- A value is not of its type. -/
  | badValue
  /-- A value where none is taken. -/
  | extraValue
  /-- An option given twice. -/
  | repeated
deriving DecidableEq, Inhabited

/-- An option that takes a value. -/
inductive Setting where
  | appRoot
  | sourceRoot
  | target
  | platform
deriving DecidableEq, Inhabited

/-- An option that takes no value. -/
inductive Switch where
  | dryRun
  | verbose
  | help
deriving DecidableEq, Inhabited

/-- An option of either sort. -/
inductive Opt where
  | setting (s : Setting)
  | switch (s : Switch)
deriving DecidableEq, Inhabited

/-- What a subcommand knows: options by their names and by their letters. -/
structure Vocabulary where
  long : List (String × Opt)
  short : List (Char × Switch)

/-- What `migrate` knows. -/
def Vocabulary.migrate : Vocabulary where
  long := [("app-root", .setting .appRoot), ("source-root", .setting .sourceRoot),
    ("target-version", .setting .target), ("platform", .setting .platform),
    ("dry-run", .switch .dryRun), ("verbose", .switch .verbose), ("help", .switch .help)]
  short := [('v', .verbose), ('h', .help)]

/-- What `init` knows. -/
def Vocabulary.init : Vocabulary where
  long := [("help", .switch .help)]
  short := [('h', .help)]

/-! ### Values -/

/-- A version: a whole number that fits 32 bits. -/
def version? (s : String) : Option Nat :=
  let (negative, ds) := match s.toList with
    | '+' :: ds => (false, ds)
    | '-' :: ds => (true, ds)
    | ds => (false, ds)
  let n := Json.Reader.natOf ds
  if ds.isEmpty || !ds.all Char.isDigit || (negative && n ≠ 0) || n ≥ Decimal.pow2 32 then none
  else some n

/-- What has been read of a subcommand. -/
structure Draft where
  options : Options
  given : List Opt
  /-- An option that is not settled yet, with its value if that was there. -/
  pending : Option (Setting × Option String)
deriving Inhabited

namespace Draft

/-- The options of a line that gives none. -/
def empty : Draft := ⟨⟨none, none, 3, none, false, false⟩, [], none⟩

/-- Notes that an option is given, unless it was before. -/
def note (d : Draft) (o : Opt) : Except Usage Draft :=
  if d.given.contains o then .error .repeated else .ok { d with given := o :: d.given }

/-- Gives an option its value. -/
def assign (d : Draft) (s : Setting) (v : String) : Except Usage Draft := do
  let d ← d.note (.setting s)
  let o := d.options
  match s with
  | .appRoot =>
    if v.isEmpty then .error .missingValue
    else .ok { d with options := { o with appRoot := some v } }
  | .sourceRoot =>
    if v.isEmpty then .error .missingValue
    else .ok { d with options := { o with sourceRoot := some v } }
  | .target =>
    match version? v with
    | some n => .ok { d with options := { o with target := n } }
    | none => .error .badValue
  | .platform => .ok { d with options := { o with platform := some v } }

/-- Settles the option that is not settled yet. -/
def settle (d : Draft) : Except Usage Draft :=
  match d.pending with
  | none => .ok d
  | some (_, none) => .error .missingValue
  | some (s, some v) => { d with pending := none }.assign s v

/-- Turns a switch on. -/
def turnOn (d : Draft) (s : Switch) : Except Usage Draft := do
  let d ← d.settle
  match s with
  | .help => .error .help
  | .dryRun =>
    let d ← d.note (.switch .dryRun)
    return { d with options := { d.options with dryRun := true } }
  | .verbose =>
    let d ← d.note (.switch .verbose)
    return { d with options := { d.options with verbose := true } }

/-- An option by its name, with the value attached to it. -/
def long (v : Vocabulary) (d : Draft) (name : String) (value : Option String) :
    Except Usage Draft :=
  match v.long.lookup name, value with
  | none, _ => .error .unknownArgument
  | some (.switch s), none => d.turnOn s
  | some (.switch _), some _ => .error .extraValue
  | some (.setting s), some text => do (← d.settle).assign s text
  | some (.setting s), none => do
    let d ← d.settle
    return { d with pending := some (s, none) }

/-- Switches by their letters. -/
def short (v : Vocabulary) : List Char → Draft → Except Usage Draft
  | [], d => .ok d
  | c :: cs, d =>
    match v.short.lookup c with
    | some s => do short v cs (← d.turnOn s)
    | none => .error .unknownArgument

/-- An argument that is no option: the value that an option waits for. -/
def plain (d : Draft) (text : String) : Except Usage Draft :=
  match d.pending with
  | some (s, none) => .ok { d with pending := some (s, some text) }
  | _ => .error .unknownArgument

end Draft

/-- How an argument is to be read. -/
inductive Word where
  /-- What ends the options. -/
  | dashes
  | long (name : String) (value : Option String)
  | short (letters : List Char)
  | plain

/-- How an argument is to be read. -/
def wordOf (arg : String) : Word :=
  match arg.toList with
  | ['-', '-'] => .dashes
  | '-' :: '-' :: cs =>
    let name := String.ofList (cs.takeWhile (· ≠ '='))
    match cs.dropWhile (· ≠ '=') with
    | [] => .long name none
    | _ :: value => .long name (some (String.ofList value))
  | ['-'] => .plain
  | '-' :: cs => .short cs
  | _ => .plain

/-- The arguments of a subcommand. -/
def subcommand (v : Vocabulary) : List String → Draft → Except Usage Options
  | [], d => do return (← d.settle).options
  | arg :: args, d =>
    match wordOf arg with
    | .dashes => if args.isEmpty then do return (← d.settle).options else .error .unknownArgument
    | .long name value => do subcommand v args (← d.long v name value)
    | .short letters => do subcommand v args (← d.short v letters)
    | .plain => do subcommand v args (← d.plain arg)

/-! ### Commands -/

/-- The names of subcommands. -/
def commandNames : List String := ["migrate", "init", "help"]

/-- What asking for help on subcommands comes to. -/
def helpOn : List String → Usage
  | [] => .help
  | [name] => if commandNames.contains name then .help else .unknownCommand
  | _ => .unknownCommand

/-- Letters in front of a subcommand. -/
def topShort : List Char → Usage
  | 'h' :: _ => .help
  | 'V' :: _ => .version
  | _ => .unknownArgument

/-- A name in front of a subcommand. -/
def topLong (name : String) (value : Option String) : Usage :=
  if name = "help" then (if value.isSome then .extraValue else .help)
  else if name = "version" then (if value.isSome then .extraValue else .version)
  else .unknownArgument

/-- What a command line asks for. -/
def request : List String → Except Usage Request
  | [] => .ok .overview
  | arg :: args =>
    if arg = "migrate" then Request.migrate <$> subcommand .migrate args .empty
    else if arg = "init" then (fun _ => .init) <$> subcommand .init args .empty
    else if arg = "help" then .error (helpOn args)
    else match wordOf arg with
      | .dashes =>
        match args with
        | [] => .ok .overview
        | name :: _ =>
          .error (if commandNames.contains name then .unknownArgument else .unknownCommand)
      | .long name value => .error (topLong name value)
      | .short letters => .error (topShort letters)
      | .plain => .error .unknownCommand

end PageConfig.Command
