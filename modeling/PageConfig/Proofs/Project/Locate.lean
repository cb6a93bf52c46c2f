import PageConfig.Project.Locate
import PageConfig.Proofs.Files
import PageConfig.Proofs.Path.Ancestors

/-!
# Which settings file counts

The settings of a directory stand in the nearest settings file among its own and
those of the directories above it, unless a repository is marked before one is
found.  `Governs` says this of a list of directories, nearest first, and
`locate_nearest` that looking for settings finds just that file.
-/

namespace PageConfig.Project

/-- A directory contains something of this name. -/
def Contains (f : Files) (dir : Path) (name : String) : Prop := f.present (dir.join ⟨name⟩) = true

/-- A directory with neither settings nor the mark of a repository. -/
def Unmarked (f : Files) (dir : Path) : Prop :=
  ¬ Contains f dir settingsFile ∧ ¬ Contains f dir repositoryMark

/-- The nearest of some directories that has settings, with no repository marked before it. -/
def Governs (f : Files) (dirs : List Path) (dir : Path) : Prop :=
  ∃ nearer farther, dirs = nearer ++ dir :: farther ∧ Contains f dir settingsFile ∧
    ∀ q ∈ nearer, Unmarked f q

variable {f : Files} {dir : Path} {dirs nearer : List Path}

/-! ### One directory after another -/

/-- What is found in some directories, by the answers about the first one. -/
lemma ask_locateIn_cons (f : Files) (dir : Path) (dirs : List Path) :
    (locateIn (dir :: dirs)).ask f
      = if f.present (dir.join ⟨settingsFile⟩) then some (dir.join ⟨settingsFile⟩)
        else if f.present (dir.join ⟨repositoryMark⟩) then none
        else (locateIn dirs).ask f := by
  have hask : (locateIn (dir :: dirs)).ask f
      = (if f.present (dir.join ⟨settingsFile⟩) then Job.done (some (dir.join ⟨settingsFile⟩))
        else Job.present (dir.join ⟨repositoryMark⟩) fun marked =>
          if marked then Job.done none else locateIn dirs).ask f := rfl
  rw [hask]
  split
  · rfl
  · rw [Job.ask]
    split <;> rfl

lemma ask_locateIn_of_settings (h : Contains f dir settingsFile) (dirs : List Path) :
    (locateIn (dir :: dirs)).ask f = some (dir.join ⟨settingsFile⟩) := by
  rw [ask_locateIn_cons]
  exact if_pos h

lemma ask_locateIn_of_mark (hsettings : ¬ Contains f dir settingsFile)
    (hmark : Contains f dir repositoryMark) (dirs : List Path) :
    (locateIn (dir :: dirs)).ask f = none := by
  rw [ask_locateIn_cons]
  exact (if_neg hsettings).trans (if_pos hmark)

lemma ask_locateIn_of_unmarked (h : Unmarked f dir) (dirs : List Path) :
    (locateIn (dir :: dirs)).ask f = (locateIn dirs).ask f := by
  rw [ask_locateIn_cons]
  exact (if_neg h.1).trans (if_neg h.2)

/-- Directories with neither settings nor a mark are passed by. -/
lemma ask_locateIn_append (h : ∀ q ∈ nearer, Unmarked f q) (dirs : List Path) :
    (locateIn (nearer ++ dirs)).ask f = (locateIn dirs).ask f := by
  induction nearer with
  | nil => rfl
  | cons q nearer ih =>
    rw [List.cons_append, ask_locateIn_of_unmarked (h q List.mem_cons_self)]
    exact ih fun r hr => h r (List.mem_cons_of_mem q hr)

/-- The directory that governs has its settings found. -/
lemma Governs.ask_locateIn (h : Governs f dirs dir) :
    (locateIn dirs).ask f = some (dir.join ⟨settingsFile⟩) := by
  obtain ⟨nearer, farther, rfl, hsettings, hnearer⟩ := h
  rw [ask_locateIn_append hnearer, ask_locateIn_of_settings hsettings]

/-- Settings that are found stand in a directory that governs. -/
lemma exists_governs_of_ask {file : Path} (h : (locateIn dirs).ask f = some file) :
    ∃ dir, Governs f dirs dir ∧ file = dir.join ⟨settingsFile⟩ := by
  induction dirs with
  | nil => cases h
  | cons dir dirs ih =>
    by_cases hsettings : Contains f dir settingsFile
    · rw [ask_locateIn_of_settings hsettings] at h
      exact ⟨dir, ⟨[], dirs, rfl, hsettings, by simp⟩, (Option.some.inj h).symm⟩
    · by_cases hmark : Contains f dir repositoryMark
      · rw [ask_locateIn_of_mark hsettings hmark] at h
        cases h
      · have hunmarked : Unmarked f dir := ⟨hsettings, hmark⟩
        rw [ask_locateIn_of_unmarked hunmarked] at h
        obtain ⟨d, ⟨nearer, farther, rfl, hd, hnearer⟩, rfl⟩ := ih h
        refine ⟨d, ⟨dir :: nearer, farther, rfl, hd, ?_⟩, rfl⟩
        exact List.forall_mem_cons.mpr ⟨hunmarked, hnearer⟩

/-! ### All directories above -/

/-- **The nearest settings count.**  From every directory the way up comes to an end: the
directories on it are finitely many.  What is found are the settings of the nearest of them that has
settings, provided that no directory before it is marked as a repository; and if there is no such
directory, nothing is found.

So in the first directory that is marked, settings are still found, and none are found above it. -/
theorem locate_nearest (f : Files) (start : Path) :
    ∃ dirs, Path.Ancestry start dirs ∧ dirs.length ≤ start.text.length + 1 ∧
      (∀ file, (locate start).ask f = some file ↔
        ∃ dir, Governs f dirs dir ∧ file = dir.join ⟨settingsFile⟩) ∧
      ((locate start).ask f = none ↔ ∀ dir, ¬ Governs f dirs dir) ∧
      ∀ nearer dir farther, dirs = nearer ++ dir :: farther → (∀ q ∈ nearer, Unmarked f q) →
        Contains f dir repositoryMark →
        (Contains f dir settingsFile → (locate start).ask f = some (dir.join ⟨settingsFile⟩)) ∧
          (¬ Contains f dir settingsFile → (locate start).ask f = none) := by
  have hdirs := Path.ancestry_ancestors start
  have hsome : ∀ file, (locate start).ask f = some file ↔
      ∃ dir, Governs f start.ancestors dir ∧ file = dir.join ⟨settingsFile⟩ := by
    intro file
    constructor
    · exact exists_governs_of_ask
    · rintro ⟨dir, hdir, rfl⟩
      exact hdir.ask_locateIn
  refine ⟨start.ancestors, hdirs, hdirs.length_le, hsome, ⟨?_, ?_⟩, ?_⟩
  · intro hnone dir hdir
    have hfound := (hsome _).mpr ⟨dir, hdir, rfl⟩
    rw [hnone] at hfound
    cases hfound
  · intro hno
    rw [Option.eq_none_iff_forall_ne_some]
    intro file hfile
    obtain ⟨dir, hdir, -⟩ := (hsome file).mp hfile
    exact hno dir hdir
  · intro nearer dir farther hsplit hnearer hmark
    rw [locate, hsplit, ask_locateIn_append hnearer]
    exact ⟨fun hsettings => ask_locateIn_of_settings hsettings farther,
      fun hsettings => ask_locateIn_of_mark hsettings hmark farther⟩

end PageConfig.Project
