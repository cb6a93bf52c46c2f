import PageConfig.Proofs.Source.Lexing
import PageConfig.Source.Parser

/-!
# Runs of the grammar on literals

A literal is read by going down the whole grammar: from an assignment through
conditionals, operators, prefixes, calls and members to a value that stands on
its own, and back up, each rule looking at the token after the value and finding
nothing that goes on with it.  After what the printer writes that token is a
comma, a semicolon or a closing mark (`Closing`), at which every rule stops.

The rules refer to one another in rounds, and four rounds lead from an
assignment to a value that stands on its own, so that a text that nests deeper
takes four rounds more for each level.
-/

namespace PageConfig.Source

open Parse

variable {α β : Type} {cur cur' : Cursor}

/-! ### Single steps -/

/-- A parser after one that succeeds. -/
lemma bind_ok {p : Parse α} {a : α} (h : p cur = .ok a cur') (f : α → Parse β) :
    (p >>= f) cur = f a cur' := by
  change EStateM.bind p f cur = f a cur'
  rw [EStateM.bind, h]

lemma atMark_run (m : String) (cur : Cursor) :
    atMark m cur = .ok (decide (cur.token = .punct m)) cur := rfl

lemma atMark_of_eq {m : String} (h : cur.token = .punct m) : atMark m cur = .ok true cur := by
  rw [atMark_run, h, decide_eq_true rfl]

lemma atMark_of_ne {m : String} (h : cur.token ≠ .punct m) : atMark m cur = .ok false cur := by
  rw [atMark_run, decide_eq_false h]

lemma eat_of_ne {m : String} (h : cur.token ≠ .punct m) : eat m cur = .ok false cur := by
  rw [eat, bind_ok (atMark_of_ne h)]
  rfl

lemma expect_of_eq {m : String} (h : cur.token = .punct m) : expect m cur = .ok () cur.next := by
  rw [expect, bind_ok (atMark_of_eq h)]
  rfl

lemma eatWord_of_ne {w : String} (h : cur.token ≠ .word w) : eatWord w cur = .ok false cur := by
  have hat : atWord w cur = .ok false cur := by
    change EStateM.Result.ok (decide (cur.token = .word w)) cur = _
    rw [decide_eq_false h]
  rw [eatWord, bind_ok hat]
  rfl

lemma remaining_run (cur : Cursor) : remaining cur = .ok (cur.start.length + 1) cur := rfl

/-! ### Tokens before and after a literal -/

/-- Tokens that a literal without a sign starts with. -/
inductive Starts : Token → Prop where
  | string (s : String) : Starts (.string s)
  | number (x : Decimal.Binary64) : Starts (.number x)
  | null : Starts (.word "null")
  | true : Starts (.word "true")
  | false : Starts (.word "false")
  | bracket : Starts (.punct "[")
  | brace : Starts (.punct "\x7b")

/-- Tokens that a literal starts with, signs included. -/
def StartsSigned (t : Token) : Prop := t = .punct "-" ∨ Starts t

/-- A literal starts with no word but its own. -/
lemma Starts.ne_word {t : Token} (h : Starts t) {w : String} (hw : w ∉ ["null", "true", "false"]) :
    t ≠ .word w := by
  rintro rfl
  generalize ht : Token.word w = t at h
  cases h <;> simp_all

/-- A literal starts with no mark but its own. -/
lemma StartsSigned.ne_punct {t : Token} (h : StartsSigned t) {m : String}
    (hm : m ∉ ["-", "[", "\x7b"]) : t ≠ .punct m := by
  rintro rfl
  rcases h with h | h
  · obtain rfl : m = "-" := by injection h
    exact hm (by decide)
  · generalize ht : Token.punct m = t at h
    cases h <;> simp_all

/-- The marks that can follow a literal where it is printed. -/
def closers : List String := [",", ";", "]", "\x7d"]

/-- No literal starts with a mark that closes one. -/
lemma not_mem_of_closer {m : String} (h : m ∈ closers) : m ∉ ["-", "[", "\x7b"] := by
  have hall : ∀ m ∈ closers, m ∉ ["-", "[", "\x7b"] := by decide
  exact hall m h

/-- A cursor at a mark that closes what was before it. -/
def Closing (cur : Cursor) : Prop := ∃ m ∈ closers, cur.token = .punct m

/-- What follows a printed literal: it ends there, and a mark that closes it comes next. -/
structure Closes (rest : List Char) : Prop where
  ends : Ends rest
  closing : Closing (Cursor.at rest)

/-- What holds at each of the marks that close a literal holds at all of them. -/
@[elab_as_elim] lemma Closing.elim {motive : Cursor → Prop} (h : Closing cur)
    (hall : ∀ start rest broken,
      motive ⟨.punct ",", start, rest, broken⟩ ∧ motive ⟨.punct ";", start, rest, broken⟩ ∧
        motive ⟨.punct "]", start, rest, broken⟩ ∧ motive ⟨.punct "\x7d", start, rest, broken⟩) :
    motive cur := by
  obtain ⟨m, hm, htoken⟩ := h
  obtain ⟨t, start, rest, broken⟩ := cur
  obtain rfl : t = .punct m := htoken
  obtain ⟨hcomma, hsemicolon, hbracket, hbrace⟩ := hall start rest broken
  simp only [closers, List.mem_cons, List.not_mem_nil, or_false] at hm
  rcases hm with rfl | rfl | rfl | rfl
  · exact hcomma
  · exact hsemicolon
  · exact hbracket
  · exact hbrace

/-- No other mark stands where a literal is closed. -/
lemma Closing.ne_punct (h : Closing cur) {m : String} (hm : m ∉ closers) :
    cur.token ≠ .punct m := by
  obtain ⟨m', hm', htoken⟩ := h
  rw [htoken]
  rintro ⟨rfl⟩
  exact hm hm'

lemma closes_comma (cs : List Char) : Closes (',' :: cs) :=
  ⟨.comma cs, ",", by decide, rfl⟩

lemma closes_semicolon (cs : List Char) : Closes (';' :: cs) :=
  ⟨.semicolon cs, ";", by decide, rfl⟩

/-- A closing mark on a line of its own closes a literal. -/
lemma closes_newline {m : String} {cs rest : List Char} (h : Opens (.punct m) cs rest)
    (hm : m ∈ closers) (level : Nat) : Closes ((Json.newline level).toList ++ cs) := by
  refine ⟨?_, m, hm, ?_⟩
  · have hline : (Json.newline level).toList = '\n' :: List.replicate (2 * level) ' ' := by
      simp [Json.newline]
    rw [hline, List.cons_append]
    exact .newline _
  · rw [at_newline, h.ofText]

/-- A literal that has no sign, as it is read. -/
inductive Unsigned : Expr → Prop where
  | literal (l : Literal) : Unsigned (.literal l)
  | array (slots : List Slot) : Unsigned (.array slots)
  | object (members : List Member) : Unsigned (.object members)

/-! ### Down the grammar and back -/

namespace Expressions

variable {G : Grammar} {c : Context} {e : Expr}

/-- Neither a member nor a call follows where a literal is closed. -/
lemma chain_of_closing (G : Grammar) (c : Context) (e : Expr) (hclose : Closing cur) :
    chain G c false true e cur = .ok e cur := by
  rw [chain, bind_ok (remaining_run cur)]
  exact hclose.elim fun _ _ _ => ⟨rfl, rfl, rfl, rfl⟩

/-- No type arguments follow where a literal is closed. -/
lemma instantiate_of_closing (G : Grammar) (e : Expr) (hclose : Closing cur) :
    instantiate G e cur = .ok e cur :=
  hclose.elim fun _ _ _ => ⟨rfl, rfl, rfl, rfl⟩

/-- A literal is no construction. -/
lemma construction_of_primary (hstart : Starts cur.token) (he : Unsigned e) (hclose : Closing cur')
    (hprimary : primary G c cur = .ok e cur') (fuel : Nat) :
    construction G c (fuel + 1) cur = .ok (e, false) cur' := by
  have hnew : cur.token ≠ .word "new" := hstart.ne_word (by decide)
  have hsuper : cur.token ≠ .word "super" := hstart.ne_word (by decide)
  have himport : cur.token ≠ .word "import" := hstart.ne_word (by decide)
  have hchain : chain G c.onward false true e cur' = .ok e cur' := chain_of_closing G _ e hclose
  have hrest : (do return (← chain G c.onward false true (← instantiate G e), false)) cur'
      = .ok (e, false) cur' := by
    rw [bind_ok (instantiate_of_closing G e hclose), bind_ok hchain]
    rfl
  rw [construction, bind_ok (eatWord_of_ne hnew)]
  change (eatWord "super" >>= _) cur = _
  rw [bind_ok (eatWord_of_ne hsuper)]
  change (eatWord "import" >>= _) cur = _
  rw [bind_ok (eatWord_of_ne himport)]
  change (primary G c >>= _) cur = _
  rw [bind_ok hprimary]
  cases he <;> exact hrest

/-- A literal is an operand as it stands. -/
lemma operand_of_primary (hstart : Starts cur.token) (he : Unsigned e) (hclose : Closing cur')
    (hprimary : primary G c cur = .ok e cur') : operand G c cur = .ok e cur' := by
  have hsuper : cur.token ≠ .word "super" := hstart.ne_word (by decide)
  have himport : cur.token ≠ .word "import" := hstart.ne_word (by decide)
  rw [operand, bind_ok (eatWord_of_ne hsuper)]
  change (eatWord "import" >>= _) cur = _
  rw [bind_ok (eatWord_of_ne himport)]
  change (remaining >>= _) cur = _
  rw [bind_ok (remaining_run cur), bind_ok (construction_of_primary hstart he hclose hprimary _)]
  cases he <;> exact hclose.elim fun _ _ _ => ⟨rfl, rfl, rfl, rfl⟩

/-- Nothing stands in front of a literal without a sign, and nothing after it. -/
lemma unary_of_operand (hstart : Starts cur.token) (he : Unsigned e) (hclose : Closing cur')
    (hoperand : G.operand c cur = .ok e cur') : unary G c cur = .ok e cur' := by
  have hpost : postfixed G c cur = .ok e cur' := by
    rw [postfixed, bind_ok hoperand]
    cases he <;> exact hclose.elim fun _ _ _ => ⟨rfl, rfl, rfl, rfl⟩
  rw [← hpost]
  obtain ⟨t, start, rest, broken⟩ := cur
  cases hstart <;> rfl

/-- A minus in front of a literal. -/
lemma unary_minus {start rest : List Char} {broken : Bool}
    (hunary : G.unary c.onward (Cursor.at rest) = .ok e cur') :
    unary G c ⟨.punct "-", start, rest, broken⟩ = .ok (.unary .minus e) cur' := by
  have hfar : asFarAs (G.unary c.onward) (Cursor.at rest) = .ok (some e) cur' := by
    rw [asFarAs, hunary]
  change (asFarAs (G.unary c.onward) >>= _) (Cursor.at rest) = _
  rw [bind_ok hfar]
  rfl

/-- No operator follows where a literal is closed. -/
lemma operation_of_unary (he : isArrow e = false) (hclose : Closing cur')
    (hunary : G.unary c cur = .ok e cur') : operation G c 0 cur = .ok e cur' := by
  have hfirst : firstOperand G c cur = .ok e cur' := by rw [firstOperand, hunary]
  have hoperators : operators G c.onward 0 (cur'.start.length + 1) e cur' = .ok e cur' :=
    hclose.elim fun _ _ _ => ⟨rfl, rfl, rfl, rfl⟩
  change (firstOperand G c >>= _) cur = _
  rw [bind_ok hfirst]
  simp only [he]
  change (remaining >>= _) cur' = _
  rw [bind_ok (remaining_run cur')]
  exact hoperators

/-- No condition follows where a literal is closed. -/
lemma conditional_of_operation (he : isArrow e = false) (hclose : Closing cur')
    (hoperation : G.operation c 0 cur = .ok e cur') : conditional G c cur = .ok e cur' := by
  have heat : eat "?" cur' = .ok false cur' := eat_of_ne (hclose.ne_punct (by decide))
  rw [conditional, bind_ok hoperation]
  simp only [he]
  change (eat "?" >>= _) cur' = _
  rw [bind_ok heat]
  rfl

/-- No assignment follows where a literal is closed. -/
lemma finishAssignment_of_closing (G : Grammar) (c : Context) (start : List Char) (e : Expr)
    (hclose : Closing cur) : finishAssignment G c start e cur = .ok e cur :=
  hclose.elim fun _ _ _ => ⟨rfl, rfl, rfl, rfl⟩

/-- A literal is an assignment that assigns nothing. -/
lemma assignment_of_operation (hstart : StartsSigned cur.token) (he : isArrow e = false)
    (hclose : Closing cur') (hoperation : ∀ c, G.operation c 0 cur = .ok e cur') :
    assignment G c cur = .ok e cur' := by
  have hword : atWord "yield" cur = .ok false cur := by
    obtain ⟨t, start, rest, broken⟩ := cur
    rcases hstart with rfl | hstart
    · rfl
    · cases hstart <;> rfl
  have hfinish : ∀ c' : Context, (do
      let e ← conditional G c'
      if isComplete e then pure e else finishAssignment G c cur.start e) cur = .ok e cur' := by
    intro c'
    rw [bind_ok (conditional_of_operation he hclose (hoperation c'))]
    cases isComplete e
    · exact finishAssignment_of_closing G c cur.start e hclose
    · rfl
  have hplain : plainAssignment G c cur = .ok e cur' := by
    rw [plainAssignment, bind_ok hword]
    simp only [Bool.and_false]
    obtain ⟨t, start, rest, broken⟩ := cur
    rcases hstart with rfl | hstart
    · exact hfinish _
    · cases hstart <;> exact hfinish _
  obtain ⟨t, start, rest, broken⟩ := cur
  rcases hstart with rfl | hstart
  · exact hplain
  · cases hstart <;> exact hplain

end Expressions

open Expressions

/-- Four rounds after it is read where it stands, a literal without a sign is read as an
assignment. -/
lemma rounds_assignment {n : Nat} {e : Expr} (hstart : Starts cur.token) (he : Unsigned e)
    (hclose : Closing cur') (hprimary : ∀ c, primary (Grammar.rounds n) c cur = .ok e cur')
    (c : Context) : (Grammar.rounds (n + 4)).assignment c cur = .ok e cur' := by
  have harrow : isArrow e = false := by cases he <;> rfl
  have hunary : ∀ c, unary (Grammar.rounds (n + 1)) c cur = .ok e cur' := fun c =>
    unary_of_operand hstart he hclose (operand_of_primary hstart he hclose (hprimary c))
  have hoperation : ∀ c, operation (Grammar.rounds (n + 2)) c 0 cur = .ok e cur' := fun c =>
    operation_of_unary harrow hclose (hunary c)
  exact assignment_of_operation (Or.inr hstart) harrow hclose hoperation

/-- A literal with a minus in front takes one round more. -/
lemma rounds_assignment_minus {n : Nat} {e : Expr} {start rest : List Char} {broken : Bool}
    (hstart : Starts (Cursor.at rest).token) (he : Unsigned e) (hclose : Closing cur')
    (hprimary : ∀ c, primary (Grammar.rounds n) c (Cursor.at rest) = .ok e cur') (c : Context) :
    (Grammar.rounds (n + 5)).assignment c ⟨.punct "-", start, rest, broken⟩
      = .ok (.unary .minus e) cur' := by
  have hunary : ∀ c, unary (Grammar.rounds (n + 1)) c (Cursor.at rest) = .ok e cur' := fun c =>
    unary_of_operand hstart he hclose (operand_of_primary hstart he hclose (hprimary c))
  have hminus : ∀ c, unary (Grammar.rounds (n + 2)) c ⟨.punct "-", start, rest, broken⟩
      = .ok (.unary .minus e) cur' := fun c => unary_minus (hunary c.onward)
  have hoperation : ∀ c, operation (Grammar.rounds (n + 3)) c 0 ⟨.punct "-", start, rest, broken⟩
      = .ok (.unary .minus e) cur' := fun c => operation_of_unary rfl hclose (hminus c)
  exact assignment_of_operation (Or.inl rfl) rfl hclose hoperation

end PageConfig.Source
