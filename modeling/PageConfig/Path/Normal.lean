import PageConfig.Path.Basic

/-!
# Normal form and relative paths

Normalisation works on components alone and never asks the disk.  A name
followed by `..` cancels, a `..` at the root stays at the root, and the `..`
that open a relative path are kept.
-/

namespace PageConfig.Path

/-- One more component on a walk; the walk is kept with its last step first. -/
def walk (done : List Component) : Component → List Component
  | .here => done
  | .up =>
    match done with
    | .name _ :: rest => rest
    | .root :: _ => done
    | _ => .up :: done
  | c => c :: done

/-- The components left once every cancelling pair is gone. -/
def settle (cs : List Component) : List Component := (cs.foldl walk []).reverse

/-- The normal form of a path; a path that leads nowhere is a single dot. -/
def normalize (p : Path) : Path :=
  match settle p.components with
  | [] => ⟨"."⟩
  | cs => ofComponents cs

/-- Drops the steps two walks have in common. -/
def diverge : List Component → List Component → List Component × List Component
  | a :: as, b :: bs => if a = b then diverge as bs else (a :: as, b :: bs)
  | as, bs => (as, bs)

/-- The components that lead from one settled place to another. -/
def lead (start goal : List Component) : List Component :=
  let (behind, ahead) := diverge start goal
  behind.map (fun _ => .up) ++ ahead

/-- The path that leads from the directory `start` to `goal`; both are normalised first. -/
def relative (start goal : Path) : Path :=
  ofComponents (lead (settle start.components) (settle goal.components))

end PageConfig.Path
