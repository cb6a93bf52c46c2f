import PageConfig.Proofs.Extract.Occurrences

/-!
# The declaration that a config comes from

A config may be declared more than once: by assignments to the `config` of a
name and by class fields, at whatever depth.  Default exports may give a name
and take it back.  `ConfigDeclared` says which declaration is in force, in terms
of the nodes of a module only: the last assignment to the config of the default
export, or else the first field.

There is always exactly one answer, and both the config of a scan and what is
reported as omitted come from it (`scan_config_of_declared`).  In particular
they never come from two different declarations.
-/

namespace PageConfig.Source

/-! ### First and last -/

section

variable {α β : Type}

/-- The first element of a list that gives something gives this. -/
def IsFirst (R : α → β → Prop) (l : List α) (b : β) : Prop :=
  ∃ before a after, l = before ++ a :: after ∧ R a b ∧ ∀ a' ∈ before, ∀ b', ¬R a' b'

/-- The last element of a list that gives something gives this. -/
def IsLast (R : α → β → Prop) (l : List α) (b : β) : Prop :=
  ∃ before a after, l = before ++ a :: after ∧ R a b ∧ ∀ a' ∈ after, ∀ b', ¬R a' b'

variable {R : α → β → Prop} {f : α → List β} {l : List α} {b : β}

lemma isLast_iff_isFirst_reverse : IsLast R l b ↔ IsFirst R l.reverse b := by
  constructor
  · rintro ⟨before, a, after, rfl, hab, hafter⟩
    exact ⟨after.reverse, a, before.reverse, by simp, hab, by simpa using hafter⟩
  · rintro ⟨before, a, after, hl, hab, hbefore⟩
    refine ⟨after.reverse, a, before.reverse, ?_, hab, by simpa using hbefore⟩
    rw [← List.reverse_reverse l, hl]
    simp

lemma isFirst_iff_findSome? {g : α → Option β} (hR : ∀ a b, R a b ↔ g a = some b) :
    IsFirst R l b ↔ l.findSome? g = some b := by
  rw [List.findSome?_eq_some_iff]
  simp only [IsFirst, hR, Option.eq_none_iff_forall_ne_some, ne_eq]

/-- What comes first is the head of all that is given. -/
lemma isFirst_iff_head? (hR : ∀ a b, R a b ↔ (f a).head? = some b) :
    IsFirst R l b ↔ (l.flatMap f).head? = some b := by
  rw [List.head?_flatMap, isFirst_iff_findSome? hR]

/-- What comes last is the end of all that is given. -/
lemma isLast_iff_getLast? (hR : ∀ a b, R a b ↔ (f a).getLast? = some b) :
    IsLast R l b ↔ (l.flatMap f).getLast? = some b := by
  rw [List.getLast?_flatMap, isLast_iff_isFirst_reverse, isFirst_iff_findSome? hR]

lemma absent_iff_findSome? {g : α → Option β} (hR : ∀ a b, R a b ↔ g a = some b) :
    (∀ a ∈ l, ∀ b, ¬R a b) ↔ l.findSome? g = none := by
  rw [List.findSome?_eq_none_iff]
  simp only [hR, Option.eq_none_iff_forall_ne_some, ne_eq]

lemma absent_iff_head? (hR : ∀ a b, R a b ↔ (f a).head? = some b) :
    (∀ a ∈ l, ∀ b, ¬R a b) ↔ (l.flatMap f).head? = none := by
  rw [List.head?_flatMap, absent_iff_findSome? hR]

lemma absent_iff_getLast? (hR : ∀ a b, R a b ↔ (f a).getLast? = some b) :
    (∀ a ∈ l, ∀ b, ¬R a b) ↔ (l.flatMap f).getLast? = none := by
  rw [List.getLast?_flatMap, ← absent_iff_findSome? hR]
  simp only [List.mem_reverse]

end

end PageConfig.Source

namespace PageConfig.Extract

open PageConfig.Source

/-! ### Declarations -/

/-- A node names the default export, or takes its name back. -/
inductive NamesExport : Node → Option String → Prop where
  /-- A class or a function, which may have no name. -/
  | decl (name : Option String) (decl : Stmt) : NamesExport (.stmt (.exportDecl name decl)) name
  | expr {e : Expr} {name : String} (he : e.unwrap = .ident name) :
    NamesExport (.stmt (.exportExpr e)) (some name)
  /-- Names in braces: the last one exported as the default. -/
  | listed (before : List String) (name : String) :
    NamesExport (.stmt (.exportNames (before ++ [name]))) (some name)

/-- A node assigns a value to the config of a name: plainly, and with the name bare. -/
inductive AssignsConfig (object : String) : Node → Expr → Prop where
  | dotted (value : Expr) :
    AssignsConfig object
      (.expr (.assign true (.member (.ident object) (.name "config")) value)) value
  | bracketed {e : Expr} (value : Expr) (he : e.unwrap = .literal (.string "config")) :
    AssignsConfig object
      (.expr (.assign true (.member (.ident object) (.computed e)) value)) value

/-- A node is a class field named `config` that has a value. -/
inductive DeclaresField : Node → Expr → Prop where
  | mk {key : Key} (value : Expr) (annotations : List Expr) (hkey : keyText? key = some "config") :
    DeclaresField (.classMember (.field key (some value) annotations)) value

/-- The name of the default export at the end of the walk. -/
def NameInForce (m : Module) (name : String) : Prop := IsLast NamesExport (nodesOf m) (some name)

/-- The expression that declares the config of a module, if there is one. -/
inductive ConfigDeclared (m : Module) : Option Expr → Prop where
  | assignment {name : String} {value : Expr} (hname : NameInForce m name)
    (hvalue : IsLast (AssignsConfig name) (nodesOf m) value) : ConfigDeclared m (some value)
  | field {value : Expr}
    (hnone : ∀ name, NameInForce m name → ∀ n ∈ nodesOf m, ∀ v, ¬AssignsConfig name n v)
    (hvalue : IsFirst DeclaresField (nodesOf m) value) : ConfigDeclared m (some value)
  | nothing
    (hnone : ∀ name, NameInForce m name → ∀ n ∈ nodesOf m, ∀ v, ¬AssignsConfig name n v)
    (hfield : ∀ n ∈ nodesOf m, ∀ v, ¬DeclaresField n v) : ConfigDeclared m none

/-- What a declaration reduces to; without one, the empty mapping. -/
def reduceDeclared : Option Expr → Reduced
  | some e => reduce e
  | none => ⟨.empty, []⟩

/-! ### Declarations and marks -/

/-- The names that a node gives to the default export. -/
def exportNames (n : Node) : List (Option String) :=
  (ownMarks n).filterMap fun k => match k with
    | .exportName name => some name
    | _ => none

lemma namesExport_iff (n : Node) (name : Option String) :
    NamesExport n name ↔ (exportNames n).getLast? = some name := by
  constructor
  · rintro (_ | he | _)
    · rfl
    · simp [exportNames, ownMarks, exportMark, he]
    · simp [exportNames, ownMarks]
  · intro h
    obtain ⟨k, hk, hname⟩ := List.mem_filterMap.mp (List.mem_of_getLast? h)
    cases mem_ownMarks_iff.mp hk with
    | exportDecl => cases hname; exact .decl _ _
    | exportExpr he => cases hname; exact .expr he
    | @exportNames defaults =>
      have hnames : exportNames (.stmt (.exportNames defaults)) = defaults.map some := by
        simp [exportNames, ownMarks]
      rw [hnames, List.getLast?_map, Option.map_eq_some_iff] at h
      obtain ⟨name, hlast, rfl⟩ := h
      obtain ⟨before, rfl⟩ := List.getLast?_eq_some_iff.mp hlast
      exact .listed before name
    | _ => cases hname

lemma assignsConfig_of_isConfigAccess {object : String} {key : Access} {value : Expr}
    (hkey : isConfigAccess key = true) :
    AssignsConfig object (.expr (.assign true (.member (.ident object) key) value)) value := by
  fun_cases isConfigAccess key with
  | case1 s =>
    obtain rfl : s = "config" := of_decide_eq_true hkey
    exact .dotted value
  | case2 => cases hkey
  | case3 e s he =>
    rw [isConfigAccess, he] at hkey
    obtain rfl : s = "config" := of_decide_eq_true hkey
    exact .bracketed value he
  | case4 => simp_all [isConfigAccess]

lemma assignsConfig_iff (object : String) (n : Node) (value : Expr) :
    AssignsConfig object n value ↔ (assignedTo object (ownMarks n)).getLast? = some value := by
  constructor
  · rintro (_ | ⟨_, he⟩)
    · simp [assignedTo, ownMarks, assignmentMark, isConfigAccess, configName]
    · simp [assignedTo, ownMarks, assignmentMark, isConfigAccess, configName, he]
  · intro h
    obtain ⟨k, hk, hvalue⟩ := List.mem_filterMap.mp (List.mem_of_getLast? h)
    cases mem_ownMarks_iff.mp hk with
    | @assignment object' key value' hkey =>
      obtain ⟨rfl, rfl⟩ : object' = object ∧ value' = value := by simpa using hvalue
      exact assignsConfig_of_isConfigAccess hkey
    | _ => cases hvalue

lemma declaresField_iff (n : Node) (value : Expr) :
    DeclaresField n value ↔ (fieldValues (ownMarks n)).head? = some value := by
  constructor
  · rintro ⟨_, _, hkey⟩
    simp [fieldValues, ownMarks, fieldMark, configName, hkey]
  · intro h
    obtain ⟨k, hk, hvalue⟩ := List.mem_filterMap.mp (List.mem_of_head? h)
    cases mem_ownMarks_iff.mp hk with
    | field hkey => cases hvalue; exact .mk _ _ hkey
    | _ => cases hvalue

/-! ### The declaration in force -/

section

variable {m : Module}

lemma nameInForce_iff {name : String} :
    NameInForce m name ↔ exportNameOf (stmtsMarks m) = some name := by
  rw [NameInForce, isLast_iff_getLast? namesExport_iff, exportNameOf, stmtsMarks_eq,
    List.filterMap_flatMap, Option.join_eq_some_iff]
  rfl

lemma assignedTo_stmtsMarks (name : String) :
    assignedTo name (stmtsMarks m) = (nodesOf m).flatMap fun n => assignedTo name (ownMarks n) := by
  rw [assignedTo, stmtsMarks_eq, List.filterMap_flatMap]
  rfl

lemma fieldValues_stmtsMarks :
    fieldValues (stmtsMarks m) = (nodesOf m).flatMap fun n => fieldValues (ownMarks n) := by
  rw [fieldValues, stmtsMarks_eq, List.filterMap_flatMap]
  rfl

/-- The value assigned last to the config of the default export. -/
def lastAssigned (m : Module) : Option Expr :=
  (exportNameOf (stmtsMarks m)).bind fun name => (assignedTo name (stmtsMarks m)).getLast?

lemma lastAssigned_eq_some_iff {value : Expr} :
    lastAssigned m = some value ↔
      ∃ name, NameInForce m name ∧ IsLast (AssignsConfig name) (nodesOf m) value := by
  simp only [lastAssigned, Option.bind_eq_some_iff, nameInForce_iff, assignedTo_stmtsMarks,
    isLast_iff_getLast? (assignsConfig_iff _)]

lemma lastAssigned_eq_none_iff :
    lastAssigned m = none ↔
      ∀ name, NameInForce m name → ∀ n ∈ nodesOf m, ∀ v, ¬AssignsConfig name n v := by
  simp only [lastAssigned, Option.bind_eq_none_iff, nameInForce_iff, assignedTo_stmtsMarks,
    absent_iff_getLast? (assignsConfig_iff _)]

lemma fieldValues_head?_eq_some_iff {value : Expr} :
    (fieldValues (stmtsMarks m)).head? = some value ↔
      IsFirst DeclaresField (nodesOf m) value := by
  rw [fieldValues_stmtsMarks, isFirst_iff_head? declaresField_iff]

lemma fieldValues_head?_eq_none_iff :
    (fieldValues (stmtsMarks m)).head? = none ↔ ∀ n ∈ nodesOf m, ∀ v, ¬DeclaresField n v := by
  rw [fieldValues_stmtsMarks, absent_iff_head? declaresField_iff]

/-- Exactly one declaration is in force, and it is the one that the marks give. -/
theorem configDeclared_iff {d : Option Expr} :
    ConfigDeclared m d ↔ d = configExpr? (stmtsMarks m) := by
  have hmarks : configExpr? (stmtsMarks m) =
      (lastAssigned m).or (fieldValues (stmtsMarks m)).head? := rfl
  rw [hmarks]
  constructor
  · rintro (⟨hname, hvalue⟩ | ⟨hnone, hvalue⟩ | ⟨hnone, hfield⟩)
    · rw [lastAssigned_eq_some_iff.mpr ⟨_, hname, hvalue⟩, Option.some_or]
    · rw [lastAssigned_eq_none_iff.mpr hnone, Option.none_or,
        fieldValues_head?_eq_some_iff.mpr hvalue]
    · rw [lastAssigned_eq_none_iff.mpr hnone, Option.none_or,
        fieldValues_head?_eq_none_iff.mpr hfield]
  · rintro rfl
    cases hassigned : lastAssigned m with
    | some value =>
      obtain ⟨name, hname, hvalue⟩ := lastAssigned_eq_some_iff.mp hassigned
      exact .assignment hname hvalue
    | none =>
      have hnone := lastAssigned_eq_none_iff.mp hassigned
      cases hfield : (fieldValues (stmtsMarks m)).head? with
      | some value => exact .field hnone (fieldValues_head?_eq_some_iff.mp hfield)
      | none => exact .nothing hnone (fieldValues_head?_eq_none_iff.mp hfield)

end

/-- The config of a module and what is omitted from it come from one declaration.

Exactly one expression is declared in the sense of `ConfigDeclared`, or none; the config is what
this expression reduces to, and the omissions are those of this expression.  With no declaration
the config is empty and nothing is omitted. -/
theorem scan_config_of_declared (m : Module) :
    ∃ declared, (∀ d, ConfigDeclared m d ↔ d = declared) ∧
      (scan m).config = (reduceDeclared declared).value ∧
      (scan m).omitted = (reduceDeclared declared).omitted := by
  have hconfig : configOf (stmtsMarks m) = reduceDeclared (configExpr? (stmtsMarks m)) := by
    rw [configOf]
    cases configExpr? (stmtsMarks m) <;> rfl
  refine ⟨configExpr? (stmtsMarks m), fun d => configDeclared_iff, ?_⟩
  rw [← hconfig]
  exact ⟨rfl, rfl⟩

end PageConfig.Extract
