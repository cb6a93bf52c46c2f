import PageConfig.Proofs.Disk.Answers
import PageConfig.Proofs.Resolve.Walk

/-!
# Pages on a disk

Looking for the components of a page writes nothing.  On a disk, the job of a
page is therefore answered by the files of the disk.  As only finitely many
paths of a disk are files, there is a depth from which on the job gives what
the search for the page gives.
-/

namespace PageConfig.Resolve

open PageConfig.Extract (Usage)
open PageConfig.Json (Fields)

/-! ### Steps that write nothing -/

/-- Looking for a file writes nothing. -/
lemma readOnly_firstFile (ps : List Path) : (firstFile ps).ReadOnly := by
  induction ps with
  | nil => exact .done none
  | cons p ps ih =>
    refine .isFile p fun b => ?_
    cases b with
    | true => exact .done (some p)
    | false => exact ih

/-- A scan writes nothing. -/
lemma readOnly_scanned (l : Lookup) (file : Path) : (scanned l file).ReadOnly := by
  refine .bind ?_ fun r => ?_
  · refine .read file fun r => ?_
    cases r with
    | ok code => exact .done _
    | error r => exact .done _
  · cases r with
    | ok scan => exact .done _
    | error e => exact .done _

/-- Looking for the file of a specifier writes nothing. -/
lemma readOnly_target (l : Lookup) (file : Path) (name specifier : String) :
    (target l file name specifier).ReadOnly := by
  refine .bind (readOnly_firstFile _) fun found? => ?_
  cases found? with
  | some found => exact .done _
  | none => exact .done _

/-- Collecting what a file declares writes nothing. -/
lemma readOnly_collect (l : Lookup) (pageDir file : Path) (declared : Fields) (t : Trail) :
    (collect l pageDir file declared t).ReadOnly := by
  induction declared generalizing t with
  | nil => exact .done t
  | cons entry rest ih =>
    rw [collect]
    split
    · exact ih t
    · split
      · refine .bind (readOnly_target l file _ _) fun r => ?_
        obtain ⟨found?, found⟩ := r
        cases found? with
        | some goal => exact ih _
        | none => exact ih _
      · exact ih _

/-- Following components writes nothing if following one does not. -/
lemma readOnly_follow (l : Lookup) {visit : Path → Trail → Job Trail}
    (hvisit : ∀ goal t, (visit goal t).ReadOnly) (file : Path) (us : List Usage) (t : Trail) :
    (follow l visit file us t).ReadOnly := by
  induction us generalizing t with
  | nil => exact .done t
  | cons u us ih =>
    rw [follow]
    split
    · refine .bind (readOnly_target l file _ _) fun r => ?_
      obtain ⟨found?, found⟩ := r
      cases found? with
      | some goal => exact .bind (hvisit goal _) ih
      | none => exact ih _
    · exact ih t

/-- Following a component writes nothing. -/
lemma readOnly_component (l : Lookup) (pageDir : Path) (depth : Nat) (file : Path) (t : Trail) :
    (component l pageDir depth file t).ReadOnly := by
  induction depth generalizing file t with
  | zero => exact .done t
  | succ depth ih =>
    rw [component]
    split
    · exact .done _
    · split
      · exact .done t
      · refine .bind (readOnly_scanned l file) fun r => ?_
        obtain ⟨scan?, found⟩ := r
        cases scan? with
        | none => exact .done _
        | some scan =>
          refine .bind (readOnly_collect l pageDir file _ _) fun t => ?_
          exact .bind (readOnly_follow l ih file _ _) fun t => .done t.pop

/-- The job of a page writes nothing. -/
lemma readOnly_page (l : Lookup) (depth : Nat) (file : Path) (before : List Finding) :
    (page l depth file before).ReadOnly := by
  refine .bind (readOnly_scanned l file) fun r => ?_
  obtain ⟨scan?, found⟩ := r
  cases scan? with
  | none => exact .done _
  | some scan =>
    exact .bind (readOnly_follow l (readOnly_component l file.parent depth) file _ _) fun _ => .done _

/-! ### Pages -/

/-- **The depth is no limit on a disk.**  Whatever is on a disk, the search for a page that can be
scanned ends; and at every depth above some bound, the job of the page gives what the search gives
and leaves the disk as it was. -/
theorem run_page_eq_search (d : Disk) (l : Lookup) (file : Path) (scan : Extract.Scan)
    (hscan : d.answers.scan file = .ok scan) (before : List Finding) :
    ∃ t, Walks d.answers l file.parent (.usages file scan.usages) (startTrail l file scan before) t ∧
      ∃ bound, ∀ depth, bound < depth →
        d.run (page l depth file before) = ((some (t.inUse.into scan.config), t.findings), d) := by
  obtain ⟨known, hknown⟩ := d.exists_among_of_isFile
  obtain ⟨t, hwalks, hjob⟩ := walks_page hscan (covers_of_isFile hknown) before
  refine ⟨t, hwalks, known.length, fun depth hdepth => ?_⟩
  rw [d.run_of_readOnly (readOnly_page l depth file before), (hjob depth hdepth).1]

end PageConfig.Resolve
