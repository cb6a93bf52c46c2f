import PageConfig.Job.Basic

/-!
# Rehearsals

A rehearsed job writes nothing.  What it would have written is kept, in
order, and answers later questions about the same paths, so that the job goes
on as it would for real.
-/

namespace PageConfig

/-- Writes kept back, in order. -/
abbrev Pending := List (Path × String)

/-- The last text kept for a path. -/
def Pending.find? (writes : Pending) (p : Path) : Option String :=
  (writes.reverse.find? fun w => w.1.same p).map Prod.snd

namespace Job

/-- A job with its writes kept back after those given. -/
def rehearse {α : Type} : Job α → Pending → Job (α × Pending)
  | done a, writes => done (a, writes)
  | present p next, writes =>
    match Pending.find? writes p with
    | some _ => (next true).rehearse writes
    | none => present p fun b => (next b).rehearse writes
  | isFile p next, writes =>
    match Pending.find? writes p with
    | some _ => (next true).rehearse writes
    | none => isFile p fun b => (next b).rehearse writes
  | read p next, writes =>
    match Pending.find? writes p with
    | some text => (next (.ok text)).rehearse writes
    | none => read p fun r => (next r).rehearse writes
  | write p text next, writes => (next (.ok ())).rehearse (writes ++ [(p, text)])
  | canonical p next, writes => canonical p fun r => (next r).rehearse writes

end Job

end PageConfig
