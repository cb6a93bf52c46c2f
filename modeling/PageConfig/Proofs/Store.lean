import PageConfig.Proofs.Disk.Answers
import PageConfig.Job.Rehearsal

/-!
# Runs on a store

`Files` answer the questions of a job, but they stay as they are.  A `Store` is
whatever a job can be run on: in each of its states there are files, which
also say whether a write is accepted, and a write leads to another state,
accepted or refused.  Nothing is said about which writes are refused, nor
about what a refused write leaves behind.

The run of a job has a result, a final state, and the writes that were tried,
in order and each with its answer.  All three follow a job through `bind`.  Two
stores matter most: the disk itself, and a rehearsal, whose states are the
writes kept back so far.
-/

namespace PageConfig

/-- Files that can be written to. -/
structure Store (σ : Type) where
  /-- The files in a state; they say whether a write is accepted. -/
  files : σ → Files
  /-- The state after a write, accepted or refused. -/
  after : σ → Path → String → σ

/-- A write that was tried, and the answer to it. -/
structure Attempt where
  path : Path
  text : String
  answer : Except Refusal Unit
deriving DecidableEq

/-- What an attempt asked for: the path and the text. -/
def Attempt.call (a : Attempt) : Path × String := (a.path, a.text)

@[simp] lemma Attempt.call_mk (p : Path) (text : String) (r : Except Refusal Unit) :
    (Attempt.mk p text r).call = (p, text) := rfl

/-- How a run came out: its result, the writes that were tried, in order, and the state it left. -/
@[ext]
structure Run (σ α : Type) where
  result : α
  attempts : List Attempt
  final : σ

/-- A run that goes on with its result from where it came to. -/
def Run.andThen {σ α β : Type} (r : Run σ α) (next : α → σ → Run σ β) : Run σ β :=
  let r' := next r.result r.final
  ⟨r'.result, r.attempts ++ r'.attempts, r'.final⟩

namespace Store

variable {σ α β : Type}

/-- The run of a job from a state. -/
def run (m : Store σ) : Job α → σ → Run σ α
  | .done a, s => ⟨a, [], s⟩
  | .present p next, s => m.run (next ((m.files s).present p)) s
  | .isFile p next, s => m.run (next ((m.files s).isFile p)) s
  | .read p next, s => m.run (next ((m.files s).read p)) s
  | .write p text next, s =>
    Run.andThen ⟨(m.files s).write p text, [⟨p, text, (m.files s).write p text⟩], m.after s p text⟩
      fun r s => m.run (next r) s
  | .canonical p next, s => m.run (next ((m.files s).canonical p)) s

@[simp] lemma run_done (m : Store σ) (a : α) (s : σ) : m.run (.done a) s = ⟨a, [], s⟩ := rfl

/-- A write is tried once, and answered by the files of the state. -/
@[simp] lemma run_put (m : Store σ) (p : Path) (text : String) (s : σ) :
    m.run (Job.put p text) s
      = ⟨(m.files s).write p text, [⟨p, text, (m.files s).write p text⟩], m.after s p text⟩ := rfl

/-- The run of one job after another. -/
@[simp] lemma run_bind (m : Store σ) (t : Job α) (g : α → Job β) (s : σ) :
    m.run (t.bind g) s = (m.run t s).andThen fun a s => m.run (g a) s := by
  induction t generalizing s with
  | done a => rfl
  | present p next ih => exact ih _ s
  | isFile p next ih => exact ih _ s
  | read p next ih => exact ih _ s
  | write p text next ih =>
    rw [Job.bind, run, run, Run.andThen, ih]
    rfl
  | canonical p next ih => exact ih _ s

/-- A job that writes nothing is answered by the files of the state, and leaves the state. -/
lemma run_of_readOnly (m : Store σ) {t : Job α} (h : t.ReadOnly) (s : σ) :
    m.run t s = ⟨t.ask (m.files s), [], s⟩ := by
  induction h with
  | done a => rfl
  | present p _ ih => exact ih _
  | isFile p _ ih => exact ih _
  | read p _ ih => exact ih _
  | canonical p _ ih => exact ih _

/-- **What every write of a run leaves alone, the run leaves alone.**  A view of the states that is
kept by each write the run tries, from whatever state, is the same at the end as at the start. -/
theorem view_final {γ : Type} (m : Store σ) (view : σ → γ) (t : Job α) (s : σ)
    (h : ∀ a ∈ (m.run t s).attempts, ∀ s, view (m.after s a.path a.text) = view s) :
    view (m.run t s).final = view s := by
  induction t generalizing s with
  | done a => rfl
  | present p next ih => exact ih _ s h
  | isFile p next ih => exact ih _ s h
  | read p next ih => exact ih _ s h
  | write p text next ih =>
    have hfirst : view (m.after s p text) = view s := h _ List.mem_cons_self s
    have hrest := ih _ (m.after s p text) fun a ha => h a (List.mem_cons_of_mem _ ha)
    exact hrest.trans hfirst
  | canonical p next ih => exact ih _ s h

end Store

/-! ### The disk -/

/-- A disk that is written to.  A write that is refused leaves it as it was. -/
def Disk.store : Store Disk where
  files := Disk.answers
  after d p text := (d.write p text).toOption.getD d

/-- A write that a disk accepts leads to the disk written. -/
lemma Disk.store_of_ok {d d' : Disk} {p : Path} {text : String} (h : d.write p text = .ok d') :
    (Disk.store.files d).write p text = .ok () ∧ Disk.store.after d p text = d' := by
  constructor
  · simp [Disk.store, Disk.answers, h, Except.map]
  · simp [Disk.store, h, Except.toOption]

/-- A write that a disk refuses leaves the disk. -/
lemma Disk.store_of_error {d : Disk} {p : Path} {text : String} {r : Refusal}
    (h : d.write p text = .error r) :
    (Disk.store.files d).write p text = .error r ∧ Disk.store.after d p text = d := by
  constructor
  · simp [Disk.store, Disk.answers, h, Except.map]
  · simp [Disk.store, h, Except.toOption]

/-- To run a job on a disk is to run it on the store of the disk. -/
theorem Disk.run_eq {α : Type} (d : Disk) (t : Job α) :
    d.run t = ((Disk.store.run t d).result, (Disk.store.run t d).final) := by
  induction t generalizing d with
  | done a => rfl
  | present p next ih => exact ih _ d
  | isFile p next ih => exact ih _ d
  | read p next ih => exact ih _ d
  | write p text next ih =>
    rw [Disk.run, Store.run, Run.andThen]
    cases hwrite : d.write p text with
    | ok d' =>
      obtain ⟨haccepted, hafter⟩ := Disk.store_of_ok hwrite
      rw [haccepted, hafter]
      exact ih _ d'
    | error r =>
      obtain ⟨hrefused, hafter⟩ := Disk.store_of_error hwrite
      rw [hrefused, hafter]
      exact ih _ d
  | canonical p next ih => exact ih _ d

/-- If no write of a run is refused, the writes that were tried, one after another, make the disk
that the run leaves. -/
lemma Disk.foldlM_write {α : Type} (d : Disk) (t : Job α)
    (h : ∀ a ∈ (Disk.store.run t d).attempts, a.answer = .ok ()) :
    ((Disk.store.run t d).attempts.map Attempt.call).foldlM (fun d w => d.write w.1 w.2) d
      = .ok (Disk.store.run t d).final := by
  induction t generalizing d with
  | done a => rfl
  | present p next ih => exact ih _ d h
  | isFile p next ih => exact ih _ d h
  | read p next ih => exact ih _ d h
  | write p text next ih =>
    have hfirst : (Disk.store.files d).write p text = .ok () := h _ List.mem_cons_self
    cases hwrite : d.write p text with
    | error r =>
      rw [(Disk.store_of_error hwrite).1] at hfirst
      cases hfirst
    | ok d' =>
      have hafter := (Disk.store_of_ok hwrite).2
      have hrest := ih _ (Disk.store.after d p text) fun a ha => h a (List.mem_cons_of_mem _ ha)
      rw [hafter] at hrest
      rw [Store.run, Run.andThen, hafter, List.map_append, List.map_singleton, Attempt.call_mk,
        List.singleton_append, List.foldlM_cons, hwrite]
      exact hrest
  | canonical p next ih => exact ih _ d h

/-! ### Rehearsals -/

/-- Spellings of one path have the same text kept for them. -/
lemma Pending.find?_congr (writes : Pending) {p q : Path} (h : p.same q = true) :
    writes.find? p = writes.find? q := by
  have hsame : (fun w : Path × String => w.1.same p) = fun w => w.1.same q := by
    funext w
    rw [Bool.eq_iff_iff]
    exact ⟨fun hp => Path.same_trans hp h, fun hq => Path.same_trans hq (Path.same_symm h)⟩
  rw [Pending.find?, Pending.find?, hsame]

/-- Files with writes laid over them: a path that was written answers as a file with the text last
written, and no write is refused. -/
def Files.overlay (f : Files) (writes : Pending) : Files where
  present p := (writes.find? p).isSome || f.present p
  isFile p := (writes.find? p).isSome || f.isFile p
  read p := ((writes.find? p).map Except.ok).getD (f.read p)
  canonical := f.canonical
  write _ _ := .ok ()
  read_same := by
    intro p q hsame hp hq
    rw [Pending.find?_congr writes hsame]
    cases hfind : writes.find? q with
    | some text => rfl
    | none =>
      rw [Pending.find?_congr writes hsame] at hp
      simp only [hfind, Option.isSome_none, Bool.false_or, Option.map_none,
        Option.getD_none] at hp hq ⊢
      exact f.read_same hsame hp hq

/-- Files that are not written to: writes are accepted and kept back. -/
def Files.rehearsal (f : Files) : Store Pending where
  files := f.overlay
  after writes p text := writes ++ [(p, text)]

/-- A rehearsal refuses nothing. -/
lemma Files.answer_of_rehearsal {α : Type} (f : Files) (t : Job α) (writes : Pending) :
    ∀ a ∈ (f.rehearsal.run t writes).attempts, a.answer = .ok () := by
  induction t generalizing writes with
  | done a => simp
  | present p next ih => exact ih _ writes
  | isFile p next ih => exact ih _ writes
  | read p next ih => exact ih _ writes
  | write p text next ih =>
    intro a ha
    rcases List.mem_cons.mp ha with rfl | ha
    · rfl
    · exact ih _ _ a ha
  | canonical p next ih => exact ih _ writes

/-- With nothing laid over them, files answer a job that writes nothing as before. -/
lemma Files.ask_overlay_nil {α : Type} (f : Files) {t : Job α} (h : t.ReadOnly) :
    t.ask (f.overlay []) = t.ask f := by
  induction h with
  | done a => rfl
  | present p _ ih => exact ih _
  | isFile p _ ih => exact ih _
  | read p _ ih => exact ih _
  | canonical p _ ih => exact ih _

namespace Job

variable {α : Type}

/-- A rehearsed job writes nothing. -/
lemma readOnly_rehearse (t : Job α) (writes : Pending) : (t.rehearse writes).ReadOnly := by
  induction t generalizing writes with
  | done a => exact .done _
  | present p next ih =>
    rw [rehearse]
    split
    · exact ih _ writes
    · exact .present p fun b => ih b writes
  | isFile p next ih =>
    rw [rehearse]
    split
    · exact ih _ writes
    · exact .isFile p fun b => ih b writes
  | read p next ih =>
    rw [rehearse]
    split
    · exact ih _ writes
    · exact .read p fun r => ih r writes
  | write p text next ih => exact ih _ _
  | canonical p next ih => exact .canonical p fun r => ih r writes

/-- A rehearsed job does on files what the job does on their rehearsal, and keeps the writes that
are tried there. -/
theorem ask_rehearse (f : Files) (t : Job α) (writes : Pending) :
    (t.rehearse writes).ask f
      = ((f.rehearsal.run t writes).result,
          writes ++ (f.rehearsal.run t writes).attempts.map Attempt.call) := by
  induction t generalizing writes with
  | done a => simp [rehearse]
  | present p next ih =>
    rw [rehearse, Store.run]
    cases hfind : Pending.find? writes p with
    | some text => simpa [Files.rehearsal, Files.overlay, hfind] using ih true writes
    | none => simpa [Files.rehearsal, Files.overlay, hfind, ask] using ih (f.present p) writes
  | isFile p next ih =>
    rw [rehearse, Store.run]
    cases hfind : Pending.find? writes p with
    | some text => simpa [Files.rehearsal, Files.overlay, hfind] using ih true writes
    | none => simpa [Files.rehearsal, Files.overlay, hfind, ask] using ih (f.isFile p) writes
  | read p next ih =>
    rw [rehearse, Store.run]
    cases hfind : Pending.find? writes p with
    | some text => simpa [Files.rehearsal, Files.overlay, hfind] using ih (.ok text) writes
    | none => simpa [Files.rehearsal, Files.overlay, hfind, ask] using ih (f.read p) writes
  | write p text next ih =>
    rw [rehearse, ih, Store.run, Run.andThen, List.map_append, List.append_assoc]
    rfl
  | canonical p next ih => exact ih (f.canonical p) writes

end Job

end PageConfig
