import PageConfig.Disk.Refusal
import PageConfig.Path.Basic

/-!
# Jobs

A job is what a program does with a disk: a tree of questions and writes,
each followed by what is done with the answer.  It says nothing about the disk
itself, so one job can be run on a disk, rehearsed without writing, or asked
which paths it depends on.
-/

namespace PageConfig

/-- A computation that asks a disk and writes to it. -/
inductive Job (α : Type) where
  | done (a : α)
  /-- Whether there is anything at a path. -/
  | present (p : Path) (next : Bool → Job α)
  /-- Whether there is a file at a path. -/
  | isFile (p : Path) (next : Bool → Job α)
  /-- The text of a file. -/
  | read (p : Path) (next : Except Refusal String → Job α)
  /-- Writes a file. -/
  | write (p : Path) (text : String) (next : Except Refusal Unit → Job α)
  /-- The path of a place from the root. -/
  | canonical (p : Path) (next : Except Refusal Path → Job α)

namespace Job

/-- One job after another. -/
def bind {α β : Type} : Job α → (α → Job β) → Job β
  | done a, f => f a
  | present p next, f => present p fun b => (next b).bind f
  | isFile p next, f => isFile p fun b => (next b).bind f
  | read p next, f => read p fun r => (next r).bind f
  | write p text next, f => write p text fun r => (next r).bind f
  | canonical p next, f => canonical p fun r => (next r).bind f

instance : Monad Job where
  pure := done
  bind := bind

@[simp] theorem pure_eq {α : Type} (a : α) : (pure a : Job α) = done a := rfl

@[simp] theorem bind_eq {α β : Type} (t : Job α) (f : α → Job β) : t >>= f = t.bind f := rfl

/-- Asks whether there is anything at a path. -/
def askPresent (p : Path) : Job Bool := present p done

/-- Asks whether there is a file at a path. -/
def askFile (p : Path) : Job Bool := isFile p done

/-- Asks for the text of a file. -/
def askText (p : Path) : Job (Except Refusal String) := read p done

/-- Writes a file. -/
def put (p : Path) (text : String) : Job (Except Refusal Unit) := write p text done

/-- Asks for the path of a place from the root. -/
def askCanonical (p : Path) : Job (Except Refusal Path) := canonical p done

end Job

end PageConfig
