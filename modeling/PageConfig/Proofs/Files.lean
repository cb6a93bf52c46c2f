import PageConfig.Extract.Scan
import PageConfig.Resolve.Script
import PageConfig.Disk.Access
import PageConfig.Proofs.Path.Spelling

/-!
# Files as a job sees them

A job that writes nothing gets the same answer whenever it asks the same
question.  `Files` are such answers: any files whatever, on a disk or not.  The
only law is that a path is a path in all its spellings: two spellings under
which a file is found lead to the same text.

`Job.ask` is the result of a job on files, and `Job.reads` are the paths whose
text it asks for, in order.  Both follow a job through `bind`, and a disk that
a job does not write to answers it as its files do.
-/

namespace PageConfig

/-- The answers to every question a job can ask, whatever was asked before. -/
structure Files where
  present : Path → Bool
  isFile : Path → Bool
  read : Path → Except Refusal String
  canonical : Path → Except Refusal Path
  write : Path → String → Except Refusal Unit
  /-- Two spellings of a path, under both of which a file is found, lead to the same text. -/
  read_same : ∀ {p q : Path}, p.same q = true → (isFile p = true ∨ ∃ s, read p = .ok s) →
    (isFile q = true ∨ ∃ s, read q = .ok s) → read p = read q

namespace Files

/-- A path under which a file is found: it is said to be one, or its text can be read. -/
def Found (f : Files) (p : Path) : Prop := f.isFile p = true ∨ ∃ s, f.read p = .ok s

/-- The text of a file does not depend on how its path is spelled. -/
lemma read_congr {f : Files} {p q : Path} (h : p.same q = true) (hp : f.Found p)
    (hq : f.Found q) : f.read p = f.read q :=
  f.read_same h hp hq

/-- The text kept for a path, in whatever spelling. -/
def textOf (texts : List (Path × String)) (p : Path) : Option String :=
  (texts.find? fun e => e.1.same p).map Prod.snd

/-- Spellings of one path have the same text. -/
lemma textOf_congr (texts : List (Path × String)) {p q : Path} (h : p.same q = true) :
    textOf texts p = textOf texts q := by
  have hsame : (fun e : Path × String => e.1.same p) = fun e => e.1.same q := by
    funext e
    rw [Bool.eq_iff_iff]
    exact ⟨fun hp => Path.same_trans hp h, fun hq => Path.same_trans hq (Path.same_symm h)⟩
  rw [textOf, textOf, hsame]

/-- Files that are given by their paths and texts, and cannot be written. -/
def ofTexts (texts : List (Path × String)) : Files where
  present p := (textOf texts p).isSome
  isFile p := (textOf texts p).isSome
  read p := ((textOf texts p).map Except.ok).getD (.error .missing)
  canonical p := if (textOf texts p).isSome then .ok p.normalize else .error .missing
  write _ _ := .error (.other "read only")
  read_same h _ _ := by rw [textOf_congr texts h]

/-- Files that are given by their texts are among the paths given. -/
lemma among_of_isFile_ofTexts {texts : List (Path × String)} {p : Path}
    (h : (ofTexts texts).isFile p = true) : Path.Among (texts.map Prod.fst) p := by
  obtain ⟨text, htext⟩ := Option.isSome_iff_exists.mp h
  obtain ⟨e, he, -⟩ := Option.map_eq_some_iff.mp htext
  have hsame : e.1.same p = true := by simpa using List.find?_some he
  exact ⟨e.1, List.mem_map_of_mem (List.mem_of_find?_eq_some he), hsame⟩

end Files

/-! ### Jobs on files -/

namespace Job

variable {α β : Type}

/-- The result of a job on files. -/
def ask (f : Files) : Job α → α
  | done a => a
  | present p next => (next (f.present p)).ask f
  | isFile p next => (next (f.isFile p)).ask f
  | read p next => (next (f.read p)).ask f
  | write p text next => (next (f.write p text)).ask f
  | canonical p next => (next (f.canonical p)).ask f

/-- The paths whose text a job on files asks for, in order. -/
def reads (f : Files) : Job α → List Path
  | done _ => []
  | present p next => (next (f.present p)).reads f
  | isFile p next => (next (f.isFile p)).reads f
  | read p next => p :: (next (f.read p)).reads f
  | write p text next => (next (f.write p text)).reads f
  | canonical p next => (next (f.canonical p)).reads f

@[simp] lemma ask_done (f : Files) (a : α) : (done a).ask f = a := rfl

@[simp] lemma reads_done (f : Files) (a : α) : (done a).reads f = [] := rfl

/-- The result of one job after another. -/
@[simp] lemma ask_bind (f : Files) (t : Job α) (g : α → Job β) :
    (t.bind g).ask f = (g (t.ask f)).ask f := by
  induction t with
  | done a => rfl
  | present p next ih => exact ih (f.present p)
  | isFile p next ih => exact ih (f.isFile p)
  | read p next ih => exact ih (f.read p)
  | write p text next ih => exact ih (f.write p text)
  | canonical p next ih => exact ih (f.canonical p)

/-- What one job after another reads. -/
@[simp] lemma reads_bind (f : Files) (t : Job α) (g : α → Job β) :
    (t.bind g).reads f = t.reads f ++ (g (t.ask f)).reads f := by
  induction t with
  | done a => rfl
  | present p next ih => exact ih (f.present p)
  | isFile p next ih => exact ih (f.isFile p)
  | read p next ih => exact congrArg (p :: ·) (ih (f.read p))
  | write p text next ih => exact ih (f.write p text)
  | canonical p next ih => exact ih (f.canonical p)

@[simp] lemma ask_askFile (f : Files) (p : Path) : (askFile p).ask f = f.isFile p := rfl

@[simp] lemma reads_askFile (f : Files) (p : Path) : (askFile p).reads f = [] := rfl

@[simp] lemma ask_askText (f : Files) (p : Path) : (askText p).ask f = f.read p := rfl

@[simp] lemma reads_askText (f : Files) (p : Path) : (askText p).reads f = [p] := rfl

end Job

/-! ### Scans and scripts -/

namespace Files

/-- The scan of a file, or why it has none. -/
def scan (f : Files) (p : Path) : Except String Extract.Scan := (Extract.scanFile p).ask f

/-- The file that a module path stands for. -/
def script (f : Files) (platform : Option String) (logical : Path) : Option Path :=
  (Resolve.script platform logical).ask f

@[simp] lemma ask_scanFile (f : Files) (p : Path) : (Extract.scanFile p).ask f = f.scan p := rfl

@[simp] lemma ask_script (f : Files) (platform : Option String) (logical : Path) :
    (Resolve.script platform logical).ask f = f.script platform logical := rfl

/-- The scan of a file is that of its text. -/
lemma scan_eq (f : Files) (p : Path) :
    f.scan p = match f.read p with
      | .ok code => Extract.scanText code
      | .error r => .error (Extract.unreadable r) := by
  simp only [scan, Extract.scanFile, Job.bind_eq, Job.ask_bind, Job.ask_askText]
  cases f.read p <;> rfl

/-- A scan reads its file and nothing else. -/
lemma reads_scanFile (f : Files) (p : Path) : (Extract.scanFile p).reads f = [p] := by
  simp only [Extract.scanFile, Job.bind_eq, Job.reads_bind, Job.reads_askText, Job.ask_askText]
  cases f.read p <;> rfl

/-- A file with a scan is found. -/
lemma found_of_scan {f : Files} {p : Path} {s : Extract.Scan} (h : f.scan p = .ok s) :
    f.Found p := by
  rw [scan_eq] at h
  cases hr : f.read p with
  | ok code => exact Or.inr ⟨code, hr⟩
  | error r =>
    rw [hr] at h
    cases h

/-- The scan of a file does not depend on how its path is spelled. -/
lemma scan_congr {f : Files} {p q : Path} (h : p.same q = true) (hp : f.Found p)
    (hq : f.Found q) : f.scan p = f.scan q := by
  rw [scan_eq, scan_eq, read_congr h hp hq]

/-- The first of some paths that is a file. -/
lemma ask_firstFile (f : Files) (ps : List Path) :
    (Resolve.firstFile ps).ask f = ps.find? f.isFile := by
  induction ps with
  | nil => rfl
  | cons p ps ih =>
    change (if f.isFile p then Job.done (some p) else Resolve.firstFile ps).ask f = _
    by_cases hp : f.isFile p = true
    · rw [if_pos hp, List.find?_cons_of_pos hp, Job.ask_done]
    · rw [if_neg hp, List.find?_cons_of_neg hp, ih]

/-- Looking for a file reads nothing. -/
lemma reads_firstFile (f : Files) (ps : List Path) : (Resolve.firstFile ps).reads f = [] := by
  induction ps with
  | nil => rfl
  | cons p ps ih =>
    change (if f.isFile p then Job.done (some p) else Resolve.firstFile ps).reads f = _
    by_cases hp : f.isFile p = true
    · rw [if_pos hp, Job.reads_done]
    · rw [if_neg hp, ih]

/-- A module path stands for the first of its candidates that is a file. -/
lemma script_eq (f : Files) (platform : Option String) (logical : Path) :
    f.script platform logical
      = (Resolve.candidates platform logical.normalize).find? f.isFile :=
  ask_firstFile f _

/-- Looking for a script reads nothing. -/
lemma reads_script (f : Files) (platform : Option String) (logical : Path) :
    (Resolve.script platform logical).reads f = [] :=
  reads_firstFile f _

/-- What a module path stands for is a file. -/
lemma isFile_of_script {f : Files} {platform : Option String} {logical p : Path}
    (h : f.script platform logical = some p) : f.isFile p = true := by
  rw [script_eq] at h
  exact List.find?_some h

end Files

end PageConfig
