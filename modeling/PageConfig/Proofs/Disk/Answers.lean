import Mathlib.Data.FinEnum
import Mathlib.Data.Set.Finite.List
import PageConfig.Proofs.Files

/-!
# The files of a disk

A walk that comes to its end has gone where its steps lead, whatever stood on
the way, so two spellings of a path that both lead somewhere lead to the same
place.  This is the law of `Files`, and a job that does not write is answered by
a disk as by its files, and leaves the disk as it was.  As long paths lead
nowhere, only finitely many paths are files.
-/

namespace PageConfig

namespace Disk

/-- The place that one step leads to, whatever stands there. -/
def step (place : Place) : Path.Component → Place
  | .root => []
  | .here => place
  | .up => place.dropLast
  | .name s => place ++ [s]

/-- A walk ends where its steps lead. -/
lemma walk_eq {d : Disk} {place dest : Place} {segments : List (List Char)}
    (h : d.walk place segments = .ok dest) :
    dest = (segments.filterMap Path.segment?).foldl step place := by
  induction segments generalizing place with
  | nil =>
    cases h
    rfl
  | cons s segments ih =>
    rw [walk] at h
    split at h
    · cases hs : Path.segment? s with
      | none =>
        rw [hs] at h
        rw [List.filterMap_cons_none hs]
        exact ih h
      | some c =>
        rw [hs] at h
        rw [List.filterMap_cons_some hs, List.foldl_cons]
        cases c with
        | root => exact absurd hs (Path.segment?_ne_root s)
        | here => exact absurd hs (Path.segment?_ne_here s)
        | up => exact ih h
        | name n =>
          simp only at h
          split at h
          · cases h
          · split at h
            · exact ih h
            · cases h
    · cases h

/-- A path that leads somewhere leads where its steps do. -/
lemma find_eq {d : Disk} {p : Path} {dest : Place} (h : d.find p = .ok dest) :
    dest = p.steps.foldl step d.home := by
  rw [Path.steps_eq]
  unfold find start? at h
  split at h
  · cases h
  · split at h
    · cases h
    · rename_i cs hcs
      have hblank : Path.segment? [] = none := rfl
      have hsteps : Path.stepsOf ('/' :: cs) = .root :: (Path.cut cs).filterMap Path.segment? := by
        simp [Path.stepsOf, Path.cut, List.filterMap_cons_none hblank]
      rw [hcs, hsteps]
      exact walk_eq h
    · rename_i hslash
      rw [walk_eq h, Path.stepsOf_of_head?]
      intro hhead
      obtain ⟨cs, hcs⟩ := List.head?_eq_some_iff.mp hhead
      exact hslash cs hcs

/-- A path under which a file is found leads somewhere. -/
lemma exists_find {d : Disk} {p : Path} (h : d.isFile p = true ∨ ∃ s, d.read p = .ok s) :
    ∃ dest, d.find p = .ok dest := by
  cases hfind : d.find p with
  | ok dest => exact ⟨dest, rfl⟩
  | error r =>
    rcases h with h | ⟨s, h⟩
    · simp [isFile, entry?, hfind] at h
    · rw [read, hfind] at h
      cases h

/-- The answers of a disk. -/
def answers (d : Disk) : Files where
  present := d.present
  isFile := d.isFile
  read := d.read
  canonical := d.canonical
  write p text := (d.write p text).map fun _ => ()
  read_same := by
    intro p q hsame hp hq
    obtain ⟨a, ha⟩ := exists_find hp
    obtain ⟨b, hb⟩ := exists_find hq
    have hplace : a = b := by rw [find_eq ha, find_eq hb, Path.steps_congr hsame]
    rw [read, read, ha, hb, hplace]

/-- There are only finitely many texts of so many bytes. -/
lemma finite_utf8ByteSize_le (n : Nat) : {s : String | s.utf8ByteSize ≤ n}.Finite := by
  have hbytes : {bs : List UInt8 | bs.length ≤ n}.Finite := List.finite_length_le UInt8 n
  have hinj : Function.Injective fun s : String => s.toByteArray.data.toList := by
    intro s t h
    exact String.toByteArray_inj.mp (ByteArray.ext (Array.toList_inj.mp h))
  exact (hbytes.preimage hinj.injOn).subset fun s hs => hs

/-- Only finitely many paths of a disk are files. -/
lemma exists_among_of_isFile (d : Disk) :
    ∃ known, ∀ p, d.answers.isFile p = true → Path.Among known p := by
  have hfinite := finite_utf8ByteSize_le pathLimit
  refine ⟨hfinite.toFinset.toList.map Path.mk, fun p hp => ?_⟩
  refine Path.among_of_mem (List.mem_map.mpr ⟨p.text, ?_, rfl⟩)
  rw [Finset.mem_toList, Set.Finite.mem_toFinset]
  obtain ⟨dest, hdest⟩ := exists_find (Or.inl hp)
  unfold find start? at hdest
  split at hdest
  · cases hdest
  · rename_i hshort
    exact Nat.le_of_not_lt hshort

end Disk

/-! ### Jobs that write nothing -/

/-- A job that writes nothing, whatever it is answered. -/
inductive Job.ReadOnly {α : Type} : Job α → Prop where
  | done (a : α) : ReadOnly (.done a)
  | present (p : Path) {next : Bool → Job α} (h : ∀ b, ReadOnly (next b)) :
      ReadOnly (.present p next)
  | isFile (p : Path) {next : Bool → Job α} (h : ∀ b, ReadOnly (next b)) :
      ReadOnly (.isFile p next)
  | read (p : Path) {next : Except Refusal String → Job α} (h : ∀ r, ReadOnly (next r)) :
      ReadOnly (.read p next)
  | canonical (p : Path) {next : Except Refusal Path → Job α} (h : ∀ r, ReadOnly (next r)) :
      ReadOnly (.canonical p next)

/-- One job after another writes nothing if neither does. -/
lemma Job.ReadOnly.bind {α β : Type} {t : Job α} {f : α → Job β} (ht : t.ReadOnly)
    (hf : ∀ a, (f a).ReadOnly) : (t.bind f).ReadOnly := by
  induction ht with
  | done a => exact hf a
  | present p _ ih => exact .present p ih
  | isFile p _ ih => exact .isFile p ih
  | read p _ ih => exact .read p ih
  | canonical p _ ih => exact .canonical p ih

/-- A disk answers a job that writes nothing as its files do, and stays as it was. -/
lemma Disk.run_of_readOnly {α : Type} (d : Disk) {t : Job α} (h : t.ReadOnly) :
    d.run t = (t.ask d.answers, d) := by
  induction h with
  | done a => rfl
  | present p _ ih => exact ih (d.present p)
  | isFile p _ ih => exact ih (d.isFile p)
  | read p _ ih => exact ih (d.read p)
  | canonical p _ ih => exact ih (d.canonical p)

end PageConfig
