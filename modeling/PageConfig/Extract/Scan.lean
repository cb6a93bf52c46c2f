import PageConfig.Extract.Marks
import PageConfig.Job.Basic
import PageConfig.Source.Parser

/-!
# Scans

The scan of a module: its config, what was omitted from it, and the components
of the project that it uses.  All three are read off the marks of the module,
so they do not depend on where its imports and its default export stand.

A file that cannot be read or parsed has no scan but a reason, so that one bad
file never stops a run.
-/

namespace PageConfig.Extract

open PageConfig.Json (Value Fields)
open PageConfig.Source (Expr Module)

/-! ### What the marks say -/

/-- The name of the default export: the last one given. -/
def exportNameOf (marks : List Mark) : Option String :=
  (marks.filterMap fun m => match m with
    | .exportName name => some name
    | _ => none).getLast?.join

/-- The values assigned to the config of a name, in order. -/
def assignedTo (name : String) (marks : List Mark) : List Expr :=
  marks.filterMap fun m => match m with
    | .assignment object value => if object = name then some value else none
    | _ => none

/-- The values of fields named `config`, in order. -/
def fieldValues (marks : List Mark) : List Expr :=
  marks.filterMap fun m => match m with
    | .field value => some value
    | _ => none

/-- The expression that declares the config: the last assignment to the config of the default
export, or else the first class field. -/
def configExpr? (marks : List Mark) : Option Expr :=
  ((exportNameOf marks).bind fun name => (assignedTo name marks).getLast?).or
    (fieldValues marks).head?

/-- The plain tags, each where it is first met. -/
def tagsOf (marks : List Mark) : List String :=
  (marks.filterMap fun m => match m with
    | .tag name => some name
    | _ => none).foldl (fun seen name => if seen.contains name then seen else seen ++ [name]) []

/-- The module that a name was last imported from, as a default or otherwise. -/
def importedFrom (isDefault : Bool) (name : String) (marks : List Mark) : Option String :=
  (marks.filterMap fun m => match m with
    | .binding d n source => if d = isDefault && n = name then some source else none
    | _ => none).getLast?

/-- The module that a tag stands for; default imports go first. -/
def sourceOf (name : String) (marks : List Mark) : Option String :=
  (importedFrom true name marks).or (importedFrom false name marks)

/-! ### Components -/

/-- The tags of the components that the framework itself provides.  They are never components of a
project, wherever they were imported from. -/
def builtinTags : List String :=
  ["View", "ScrollView", "Swiper", "CoverView", "CoverImage", "Icon", "Text", "RichText",
   "Progress", "Button", "Checkbox", "Form", "Input", "Label", "Picker", "PickerView",
   "PickerViewColumn", "Radio", "RadioGroup", "CheckboxGroup", "Slider", "Switch", "Textarea",
   "Navigator", "Audio", "Image", "Video", "Camera", "LivePlayer", "LivePusher", "Map", "Canvas",
   "OpenData", "WebView", "SwiperItem", "MovableArea", "MovableView", "FunctionalPageNavigator",
   "Ad", "Block", "Import", "OfficialAccount", "Template", "Editor"]

/-- Whether a tag is built in. -/
def isBuiltin (tag : String) : Bool := builtinTags.contains tag

/-- A component used in a module: its tag and the module it was imported from. -/
structure Usage where
  name : String
  specifier : String
deriving DecidableEq, Inhabited

/-- The components a module uses, in the order of their first use. -/
def usagesOf (marks : List Mark) : List Usage :=
  (tagsOf marks).filterMap fun tag =>
    if isBuiltin tag then none else (sourceOf tag marks).map fun source => ⟨tag, source⟩

/-! ### Scans -/

/-- What a module says about itself. -/
structure Scan where
  config : Value
  omitted : List Omission
  usages : List Usage
deriving Inhabited

/-- The config in force: the declared one, or the empty mapping. -/
def configOf (marks : List Mark) : Reduced :=
  match configExpr? marks with
  | some e => reduce e
  | none => ⟨.empty, []⟩

/-- The scan that marks give. -/
def scanMarks (marks : List Mark) : Scan :=
  let reduced := configOf marks
  ⟨reduced.value, reduced.omitted, usagesOf marks⟩

/-- The scan of a module. -/
def scan (m : Module) : Scan := scanMarks (stmtsMarks m)

/-- The components declared in the config, if they are a mapping. -/
def Scan.declared? (s : Scan) : Option Fields :=
  (s.config.get? "usingComponents").bind Value.fields?

/-- The scan of source text, or why it does not parse. -/
def scanText (code : String) : Except String Scan := scan <$> Source.parse code

/-- Why a file has no scan, when it could not be read. -/
def unreadable : Refusal → String
  | .notText => "file is not valid UTF-8"
  | r => "file could not be read: " ++ r.words

/-- The scan of a file, or why it has none. -/
def scanFile (p : Path) : Job (Except String Scan) := do
  match ← Job.askText p with
  | .ok code => pure (scanText code)
  | .error r => pure (.error (unreadable r))

end PageConfig.Extract
