import PageConfig.Extract.Reduce
import PageConfig.Source.Parser
import PageConfig.Job.Basic

/-!
# Build configs

The build config of a project is looked at, never changed.  Its object is
reduced like a page config, but what is no literal counts as set; from the
keys that are set follows what the user is advised to change.
-/

namespace PageConfig.Project

open PageConfig.Extract (Reduced reduce)
open PageConfig.Json (Value)
open PageConfig.Source (Access Declarator Expr Module Stmt)

/-- An option of the build config that needs attention. -/
inductive Advisory where
  | weappRenamed
  | weappModuleFlattened
  | h5ModuleFlattened
  | frameworkMissing
  | babelDeprecated
deriving DecidableEq, Inhabited

/-- The advice in words. -/
def Advisory.message (framework : String) : Advisory → String
  | weappRenamed => "config has \"weapp\", which was renamed to \"mini\" in Taro 2"
  | weappModuleFlattened =>
    "\"weapp.module\" is deprecated, options such as postcss move directly under \"mini\""
  | h5ModuleFlattened =>
    "\"h5.module\" is deprecated, options such as postcss move directly under \"h5\""
  | frameworkMissing => "add framework: '" ++ framework ++ "' to the project config for Taro 3"
  | babelDeprecated => "the \"babel\" option is deprecated and can be removed"

/-! ### The object that holds the config -/

/-- Whether an expression is an object. -/
def isObject (e : Expr) : Bool :=
  match e.unwrap with
  | .object _ => true
  | _ => false

/-- The value of a variable named `config`, if it is an object. -/
def configVariable? : Declarator → Option Expr
  | .plain name (some e) => if name = "config" && isObject e then some e else none
  | _ => none

/-- The variables an item of a module declares. -/
def variablesOf : Stmt → List Declarator
  | .vars ds => ds
  | .exported (.vars ds) => ds
  | _ => []

/-- Whether an expression is `module.exports`. -/
def isModuleExports : Expr → Bool
  | .member (.ident "module") (.name "exports") => true
  | _ => false

/-- The object an item of a module exports. -/
def exportedObject? : Stmt → Option Expr
  | .expr (.assign true target value) =>
    if isModuleExports target && isObject value then some value else none
  | .exportExpr e => if isObject e then some e else none
  | _ => none

/-- The object that holds the config: the first variable of that name, or else the last export. -/
def configObject? (m : Module) : Option Expr :=
  ((m.flatMap variablesOf).findSome? configVariable?).or (m.filterMap exportedObject?).getLast?

/-! ### Advice -/

/-- The value at a path of keys. -/
def valueAt (v : Value) : List String → Option Value
  | [] => some v
  | k :: ks => (v.get? k).bind fun w => valueAt w ks

/-- Whether a path of omitted values leads through a path. -/
def leadsThrough (omitted path : List Char) : Bool :=
  path.isPrefixOf omitted && match omitted.drop path.length with
    | [] => true
    | c :: _ => c = '.' || c = '['

/-- Whether a path of keys is set, to a value other than null or to something that is no
literal. -/
def isSet (r : Reduced) (keys : List String) : Bool :=
  ((valueAt r.value keys).any fun v => !v.isNull)
    || r.omitted.any fun o => leadsThrough o.path.toList (".".intercalate keys).toList

/-- The major version whose layout artifacts belong to. -/
def fileVersion : Nat := 3

/-- What is advised about a config. -/
def advisories (r : Reduced) (target : Nat) : List Advisory :=
  (if isSet r ["weapp"] then
      .weappRenamed :: (if isSet r ["weapp", "module"] then [.weappModuleFlattened] else [])
    else [])
  ++ (if isSet r ["h5", "module"] then [.h5ModuleFlattened] else [])
  ++ (if target = fileVersion then
      (if isSet r ["framework"] then [] else [.frameworkMissing])
        ++ (if isSet r ["babel"] then [.babelDeprecated] else [])
    else [])

/-! ### Inspection -/

/-- What was seen in a build config: why it could not be parsed, or what is advised. -/
structure Inspection where
  path : Path
  failure : Option String
  advisories : List Advisory
deriving Inhabited

/-- What is advised about the text of a build config. -/
def inspectText (path : Path) (target : Nat) (code : String) : Inspection :=
  match Source.parse code with
  | .error e => ⟨path, some e, []⟩
  | .ok m =>
    match configObject? m with
    | none => ⟨path, none, []⟩
    | some e => ⟨path, none, advisories (reduce e) target⟩

/-- Why a file could not be read, with its path. -/
def readFailure (path : Path) (r : Refusal) : String :=
  "Failed to read file: " ++ path.text ++ ": " ++ r.words

/-- Looks at a build config. -/
def inspect (path : Path) (target : Nat) : Job Inspection := do
  match ← Job.askText path with
  | .error r => pure ⟨path, some (readFailure path r), []⟩
  | .ok code => pure (inspectText path target code)

/-! ### The compiler config -/

/-- The compiler config for a framework, with or without types. -/
def babelConfig (framework : String) (typed : Bool) : String :=
  "// babel-preset-taro options and defaults:\n" ++
  "// https://github.com/NervJS/taro/blob/next/packages/babel-preset-taro/README.md\n" ++
  "module.exports = \x7b\n  presets: [\n    ['taro', \x7b\n      framework: '" ++ framework ++
  "',\n      ts: " ++ (if typed then "true" else "false") ++ "\n    \x7d]\n  ]\n\x7d\n"

end PageConfig.Project
