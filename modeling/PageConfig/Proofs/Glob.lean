import Mathlib.Data.List.Basic
import Mathlib.Tactic.Lemma
import PageConfig.Glob

/-!
# Patterns for all that is in a directory

Characters that have no meaning of their own in a pattern stand for themselves,
so a pattern that starts with them matches only text that does, and goes on
with what is left of it (`accepts_chars`).  A recursive wildcard at the end of a
pattern matches whatever is left.  Together: a directory followed by `/**`
matches just the text that starts with the directory and a slash
(`isMatch_insideOf`).
-/

namespace PageConfig.Glob

/-- Characters that stand for themselves in a pattern. -/
def Verbatim (w : List Char) : Prop := ∀ c ∈ w, c ≠ '?' ∧ c ≠ '*' ∧ c ≠ '['

instance (w : List Char) : Decidable (Verbatim w) := List.decidableBAll _ w

/-- The pattern for all that is in a directory. -/
def insideOf (dir : String) : Glob :=
  ⟨dir ++ "/**", (dir.toList ++ ['/']).map Token.char ++ [.recursive]⟩

variable {w : List Char}

/-! ### Reading -/

/-- A character that has no meaning of its own is a token. -/
lemma tokensFrom_cons {c : Char} (hc : c ≠ '?' ∧ c ≠ '*' ∧ c ≠ '[') (i : Nat)
    (before : Option Char) (rest : List Char) :
    tokensFrom i before (c :: rest) = (.char c :: ·) <$> tokensFrom (i + 1) (some c) rest := by
  obtain ⟨hany, hstar, hopen⟩ := hc
  rw [tokensFrom]
  · exact hany
  · exact fun _ h _ => hstar h
  · exact fun _ h _ => hstar h
  · exact hstar
  · exact fun _ h _ => hopen h
  · exact hopen

/-- Characters that stand for themselves are read one by one. -/
lemma tokensFrom_append (hw : Verbatim w) (i : Nat) (before : Option Char) {rest : List Char}
    {ts : List Token} (h : tokensFrom (i + w.length) (w.getLast?.or before) rest = .ok ts) :
    tokensFrom i before (w ++ rest) = .ok (w.map Token.char ++ ts) := by
  induction w generalizing i before with
  | nil => exact h
  | cons c w ih =>
    have hrest : tokensFrom (i + 1) (some c) (w ++ rest) = .ok (w.map Token.char ++ ts) := by
      refine ih (fun d hd => hw d (List.mem_cons_of_mem c hd)) (i + 1) (some c) ?_
      have hlast : (c :: w).getLast?.or before = w.getLast?.or (some c) := by
        rw [List.getLast?_cons]
        cases w.getLast? <;> rfl
      rwa [List.length_cons, hlast, ← Nat.add_assoc, Nat.add_right_comm] at h
    rw [List.cons_append, tokensFrom_cons (hw c List.mem_cons_self), hrest]
    rfl

/-- A directory followed by `/**` is the pattern for all that is in it. -/
theorem parse_insideOf {dir : String} (hdir : Verbatim dir.toList) :
    parse (dir ++ "/**") = .ok (insideOf dir) := by
  have hslash : Verbatim (dir.toList ++ ['/']) := by
    intro c hc
    rcases List.mem_append.mp hc with hc | hc
    · exact hdir c hc
    · obtain rfl := List.mem_singleton.mp hc
      decide
  have hend : ∀ i, tokensFrom i (some '/') ['*', '*'] = .ok [.recursive] := by
    intro i
    simp [tokensFrom, opens]
  have htext : (dir ++ "/**").toList = dir.toList ++ ['/'] ++ ['*', '*'] := by
    rw [String.toList_append, List.append_assoc]
    rfl
  have htokens : tokensFrom 0 none (dir ++ "/**").toList = .ok (insideOf dir).tokens := by
    rw [htext]
    refine tokensFrom_append hslash 0 none ?_
    rw [List.getLast?_concat]
    exact hend _
  rw [parse, htokens]
  rfl

/-! ### Matching -/

/-- Characters that stand for themselves have to be there. -/
lemma accepts_chars (w : List Char) (ts : List Token) (cs : List Char) :
    accepts (w.map Token.char ++ ts) cs = true
      ↔ ∃ rest, cs = w ++ rest ∧ accepts ts rest = true := by
  induction w generalizing cs with
  | nil => simp
  | cons c w ih =>
    cases cs with
    | nil => simp [accepts]
    | cons d cs =>
      have hchar : accepts (.char c :: (w.map Token.char ++ ts)) (d :: cs)
          = (decide (d = c) && accepts (w.map Token.char ++ ts) cs) := by
        simp [accepts, Token.admits]
      rw [List.map_cons, List.cons_append, hchar, Bool.and_eq_true, decide_eq_true_eq, ih]
      constructor
      · rintro ⟨rfl, rest, rfl, hrest⟩
        exact ⟨rest, rfl, hrest⟩
      · rintro ⟨rest, hcs, hrest⟩
        obtain ⟨rfl, rfl⟩ := List.cons.inj hcs
        exact ⟨rfl, rest, rfl, hrest⟩

/-- A recursive wildcard at the end matches whatever is left. -/
lemma accepts_recursive (cs : List Char) : accepts [.recursive] cs = true := by
  rw [accepts, List.any_eq_true]
  exact ⟨[], by simp, rfl⟩

/-- **The pattern for all that is in a directory** matches what starts with the directory and a
slash. -/
theorem isMatch_insideOf (dir text : String) :
    (insideOf dir).isMatch text = true ↔ dir.toList ++ ['/'] <+: text.toList := by
  rw [isMatch, insideOf, accepts_chars]
  constructor
  · rintro ⟨rest, hrest, -⟩
    exact ⟨rest, hrest.symm⟩
  · rintro ⟨rest, hrest⟩
    exact ⟨rest, hrest.symm, accepts_recursive rest⟩

end PageConfig.Glob
