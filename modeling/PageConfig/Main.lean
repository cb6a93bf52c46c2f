import PageConfig.Command.Run

/-!
# The program

Runs a command line on the disk of the machine.
-/

namespace PageConfig

/-- The refusal that an error of the system stands for. -/
def Refusal.ofError : IO.Error → Refusal
  | .noFileOrDirectory _ _ _ => .missing
  | .inappropriateType _ 20 _ => .notDirectory
  | .inappropriateType _ 21 _ => .isDirectory
  | e => .other e.toString

/-- An answer of the system, or its refusal. -/
def answer {α : Type} (act : IO α) : IO (Except Refusal α) := do
  match ← act.toBaseIO with
  | .ok a => pure (.ok a)
  | .error e => pure (.error (.ofError e))

/-- The text of a file. -/
def readText (p : Path) : IO (Except Refusal String) := do
  match ← answer (IO.FS.readBinFile p.text) with
  | .error r => pure (.error r)
  | .ok bytes =>
    match String.fromUTF8? bytes with
    | some s => pure (.ok s)
    | none => pure (.error .notText)

/-- The path of a place from the root. -/
def realPath (p : Path) : IO (Except Refusal Path) := do
  match ← answer (IO.FS.realPath p.text) with
  | .error r => pure (.error r)
  | .ok q => pure (.ok ⟨q.toString⟩)

/-- Whether there is anything at a path, and whether it is a directory. -/
def kind (p : Path) : IO (Option Bool) := do
  match ← answer (IO.FS.realPath p.text) with
  | .error _ => pure none
  | .ok q => if ← q.pathExists then return some (← q.isDir) else pure none

/-- Runs a job on the disk of the machine. -/
def Job.perform {α : Type} : Job α → IO α
  | .done a => pure a
  | .present p next => do (next (← kind p).isSome).perform
  | .isFile p next => do (next ((← kind p) == some false)).perform
  | .read p next => do (next (← readText p)).perform
  | .write p text next => do (next (← answer (IO.FS.writeFile p.text text))).perform
  | .canonical p next => do (next (← realPath p)).perform

/-- Whether a variable of the environment is set, and not to zero. -/
def switchOf (v : Option String) : Option Bool := v.map (· ≠ "0")

/-- Whether text is colored: as told, or else on a terminal. -/
def wantsColor (force plain allow : Option String) (terminal : Bool) : Bool :=
  if switchOf force = some true then true
  else if plain.isSome then false
  else (switchOf allow).getD true && terminal

/-- A disk has fewer files than this. -/
def depthLimit : Nat := Decimal.pow2 64

/-- What a run depends on, from the environment of the process. -/
def environment : IO Command.Environment := do
  let terminal ← (← IO.getStdout).isTty
  let color := wantsColor (← IO.getEnv "CLICOLOR_FORCE") (← IO.getEnv "NO_COLOR")
    (← IO.getEnv "CLICOLOR") terminal
  let ci := (← IO.getEnv "CI").isSome
  let symbols := Report.Symbols.forTerminal false ci (← IO.getEnv "TERM")
  return ⟨← IO.getEnv "TARO_ENV", color, symbols, depthLimit⟩

end PageConfig

/-- Does what the command line asks for. -/
def main (args : List String) : IO UInt32 := do
  let reply ← (PageConfig.Command.run (← PageConfig.environment) args).perform
  IO.print reply.output.out
  IO.eprint reply.output.err
  return reply.exit.toUInt32
