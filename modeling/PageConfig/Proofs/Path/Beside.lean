import PageConfig.Proofs.Path.Places
import PageConfig.Proofs.Path.Tidy

/-!
# Files beside their sources

The config of a source goes to a file beside it whose name keeps the stem of the
source, and of the extension only whether the source has types.  So the path of
that file is told by three things, the directory, the stem and the types, and
two sources share it exactly when they are *twins*: when they have all three in
common (`steps_artifact_iff`).

A source that is reached from the root without a detour has its config there as
well (`Straight.artifact`).
-/

namespace PageConfig.Path

variable {p q : Path}

/-- A source with types. -/
def isTyped (p : Path) : Bool :=
  match p.extension? with
  | some "ts" | some "tsx" => true
  | _ => false

/-- The stem of the file name, or nothing. -/
def stem (p : Path) : String := p.fileStem?.getD ""

/-- The directory that takes the config of a source: the one that holds it, if it is a file. -/
def folder (p : Path) : Path := if p.fileName?.isSome then p.parent else p

/-- The name of the file that takes the config of a source. -/
def configName (stem : String) (typed : Bool) : String :=
  stem ++ ".config." ++ (if typed then "ts" else "js")

/-- Sources whose configs go to the same file: they are in the same directory, have the same stem,
and both have types or neither has. -/
structure Twins (p q : Path) : Prop where
  folder : p.folder.steps = q.folder.steps
  stem : p.stem = q.stem
  typed : p.isTyped = q.isTyped

lemma Twins.symm (h : Twins p q) : Twins q p := ⟨h.folder.symm, h.stem.symm, h.typed.symm⟩

/-- The file that takes the config of a source, by directory and name. -/
lemma artifact_eq (p : Path) : p.artifact = p.folder.join ⟨configName p.stem p.isTyped⟩ := by
  have hext : (match p.extension? with
      | some "ts" | some "tsx" => "ts"
      | _ => "js") = if p.isTyped then "ts" else "js" := by
    unfold isTyped
    cases p.extension? with
    | none => rfl
    | some ext =>
      by_cases hts : ext = "ts"
      · rw [hts]
        rfl
      · by_cases htsx : ext = "tsx"
        · rw [htsx]
          rfl
        · simp [hts, htsx]
  rw [configName, ← hext]
  rfl

/-- The name of the file that takes the config of a source is one. -/
lemma isName_configName {s : String} (hs : '/' ∉ s.toList) (typed : Bool) :
    IsName (configName s typed) := by
  have hlength : (".config." : String).toList.length = 8 := by decide
  apply isName_of_length
  · cases typed <;> simp [configName, hs]
  · simp only [configName, String.toList_append, List.length_append]
    omega

/-- The stem and the types can be told from the name. -/
lemma configName_inj {s t : String} {typed typed' : Bool}
    (h : configName s typed = configName t typed') : s = t ∧ typed = typed' := by
  have htoList : ∀ (s : String) (typed : Bool), (configName s typed).toList
      = s.toList ++ (".config." ++ if typed then "ts" else "js").toList := by
    intro s typed
    simp [configName, String.toList_append]
  have hlength : ∀ typed : Bool,
      (".config." ++ if typed then "ts" else "js").toList.length = 10 := by
    decide
  have hlist := congrArg String.toList h
  rw [htoList, htoList] at hlist
  obtain ⟨hstem, hend⟩ := List.append_inj' hlist (by rw [hlength, hlength])
  refine ⟨String.toList_inj.mp hstem, ?_⟩
  revert hend
  cases typed <;> cases typed' <;> decide

/-- The file that takes the config of a source is one step below the directory. -/
lemma steps_artifact (p : Path) :
    p.artifact.steps = p.folder.steps ++ [.name (configName p.stem p.isTyped)] := by
  have hname : IsName (configName p.stem p.isTyped) :=
    isName_configName (not_slash_mem_fileStem p) p.isTyped
  have hhead : (⟨configName p.stem p.isTyped⟩ : Path).text.toList.head? ≠ some '/' := hname.head?
  rw [artifact_eq, steps_join hhead, hname.steps]

/-- A source has its config in the file of a name in a directory exactly when it is in that
directory and has the stem and the types of the name. -/
lemma steps_artifact_eq {base : Path} {s : String} {typed : Bool} :
    p.artifact.steps = base.steps ++ [.name (configName s typed)] ↔
      p.folder.steps = base.steps ∧ p.stem = s ∧ p.isTyped = typed := by
  rw [steps_artifact]
  constructor
  · intro h
    obtain ⟨hfolder, hlast⟩ := List.append_inj' h rfl
    have hname : configName p.stem p.isTyped = configName s typed := by simpa using hlast
    obtain ⟨hstem, htyped⟩ := configName_inj hname
    exact ⟨hfolder, hstem, htyped⟩
  · rintro ⟨hfolder, rfl, rfl⟩
    rw [hfolder]

/-- **Sources share the file of their configs exactly when they are twins.** -/
theorem steps_artifact_iff : p.artifact.steps = q.artifact.steps ↔ Twins p q := by
  rw [steps_artifact q, steps_artifact_eq]
  exact ⟨fun ⟨hfolder, hstem, htyped⟩ => ⟨hfolder, hstem, htyped⟩,
    fun h => ⟨h.folder, h.stem, h.typed⟩⟩

/-! ### Straight paths -/

/-- A path that goes from the root down to a place. -/
def Straight (p : Path) : Prop := ∃ names : Place, p.steps = .root :: names.map .name

lemma Plain.straight (hp : p.Plain) : p.Straight := by
  obtain ⟨names, hnames, rfl⟩ := hp
  exact ⟨names, hnames.steps_path⟩

lemma Straight.rooted (hp : p.Straight) : p.Rooted := by
  obtain ⟨names, hnames⟩ := hp
  rw [Rooted, hnames, List.head?_cons]

/-- The directory that takes the config of a straight source is straight. -/
lemma Straight.folder (hp : p.Straight) : p.folder.Straight := by
  obtain ⟨names, hnames⟩ := hp
  rw [Path.folder]
  split
  · rename_i hfile
    rcases List.eq_nil_or_concat' names with rfl | ⟨init, n, rfl⟩
    · -- the root has no file name
      have hlast : p.components.getLast? = some .root := getLast?_components (by rw [hnames]; rfl)
      simp [fileName?, hlast] at hfile
    · refine ⟨init, ?_⟩
      rw [steps_parent, hnames, List.map_append, List.map_singleton, ← List.cons_append,
        List.dropLast_concat]
  · exact ⟨names, hnames⟩

/-- The file that takes the config of a straight source is straight. -/
lemma Straight.artifact (hp : p.Straight) : p.artifact.Straight := by
  obtain ⟨names, hnames⟩ := hp.folder
  refine ⟨names ++ [configName p.stem p.isTyped], ?_⟩
  rw [steps_artifact, hnames, List.map_append, List.map_singleton, List.cons_append]

end PageConfig.Path
