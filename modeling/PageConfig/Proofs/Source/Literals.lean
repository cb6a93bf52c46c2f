import PageConfig.Proofs.Source.Running

/-!
# Lists, objects and declarations

Items on lines of their own, with commas between them, are read one after
another up to the closing mark.  Arrays and objects are such lists, and a
literal that is the value of a variable is the whole text of a module.
-/

namespace PageConfig.Source

open Parse Expressions

variable {α : Type} {cur cur' : Cursor}

/-! ### Lists -/

/-- A text is read as a result wherever a literal can be closed after it. -/
def Reads (item : Parse α) (t : List Char) (a : α) : Prop :=
  ∀ broken rest, Closes rest → item (Cursor.ofText broken (t ++ rest)) = .ok a (Cursor.at rest)

/-- A text starts with a token of a literal wherever it can end. -/
def Fronts (t : List Char) : Prop :=
  ∀ rest, Ends rest → ∃ tok after, StartsSigned tok ∧ Opens tok (t ++ rest) after

/-- A text that starts with a token of a literal is not empty. -/
lemma Fronts.length_pos {t : List Char} (h : Fronts t) : 0 < t.length := by
  obtain ⟨tok, after, hstart, hopens⟩ := h [','] (.comma [])
  rcases t with - | ⟨ch, t⟩
  · have htoken : (Token.punct ",", []) = (tok, after) := hopens.token
    exact absurd (congrArg Prod.fst htoken).symm (hstart.ne_punct (by decide))
  · exact Nat.succ_pos _

/-- Texts on lines of their own, with commas between them. -/
def lines (level : Nat) : List (List Char) → List Char
  | [] => []
  | [t] => (Json.newline level).toList ++ t
  | t :: ts => (Json.newline level).toList ++ t ++ ',' :: lines level ts

/-- A text is shorter than the lines that it is one of. -/
lemma length_lt_length_lines {ts : List (List Char)} {t : List Char} (h : t ∈ ts) (level : Nat) :
    t.length < (lines level ts).length := by
  have hline : 1 ≤ (Json.newline level).toList.length := by simp [Json.newline]
  fun_induction lines level ts with
  | case1 => simp at h
  | case2 u =>
    obtain rfl : t = u := by simpa using h
    simp only [List.length_append]
    omega
  | case3 u ts _ ih =>
    simp only [List.length_append, List.length_cons]
    rcases List.mem_cons.mp h with rfl | h
    · omega
    · have hlt := ih h
      omega

/-- There are at least as many characters as lines. -/
lemma length_le_length_lines (level : Nat) (ts : List (List Char)) :
    ts.length ≤ (lines level ts).length := by
  have hline : 1 ≤ (Json.newline level).toList.length := by simp [Json.newline]
  fun_induction lines level ts with
  | case1 => exact Nat.le_refl _
  | case2 t =>
    simp only [List.length_append, List.length_cons, List.length_nil]
    omega
  | case3 t ts _ ih =>
    simp only [List.length_append, List.length_cons]
    omega

/-- An item of a list with the comma after it, which the last one has not. -/
def separated (close : String) (item : Parse α) : Parse α := do
  let x ← item
  if ← atMark close then pure () else expect ","
  pure x

variable {item : Parse α} {close : String} {t closing after : List Char} {a : α}

/-- An item that is not the last. -/
lemma separated_comma (hread : Reads item t a) (hne : "," ≠ close) (broken : Bool)
    (cs : List Char) :
    separated close item (Cursor.ofText broken (t ++ ',' :: cs)) = .ok a (Cursor.at cs) := by
  have hcomma : Cursor.at (',' :: cs) = ⟨.punct ",", ',' :: cs, cs, false⟩ :=
    (opens_comma cs).ofText false
  have hnot : atMark close ⟨.punct ",", ',' :: cs, cs, false⟩
      = .ok false ⟨.punct ",", ',' :: cs, cs, false⟩ := by
    refine atMark_of_ne ?_
    rintro ⟨rfl⟩
    exact hne rfl
  rw [separated, bind_ok (hread broken _ (closes_comma cs)), hcomma, bind_ok hnot]
  rfl

/-- The last item. -/
lemma separated_close (hread : Reads item t a) (hopens : Opens (.punct close) closing after)
    (hclose : close ∈ closers) (broken : Bool) (level : Nat) :
    separated close item (Cursor.ofText broken (t ++ ((Json.newline level).toList ++ closing)))
      = .ok a ⟨.punct close, closing, after, true⟩ := by
  have hat : Cursor.at ((Json.newline level).toList ++ closing)
      = ⟨.punct close, closing, after, true⟩ := by rw [at_newline, hopens.ofText]
  have hmark : atMark close ⟨.punct close, closing, after, true⟩
      = .ok true ⟨.punct close, closing, after, true⟩ := atMark_of_eq rfl
  rw [separated, bind_ok (hread broken _ (closes_newline hopens hclose level)), hat, bind_ok hmark]
  rfl

/-- Whether a list goes on. -/
lemma goesOn_run (close : String) (cur : Cursor) :
    (do return !(← atMark close) : Parse Bool) cur
      = .ok (!decide (cur.token = .punct close)) cur := rfl

/-- A list goes on where a literal starts. -/
lemma goesOn_of_fronts (hfront : Fronts t) (hclose : close ∈ closers) {rest : List Char}
    (hends : Ends rest) (broken : Bool) :
    (do return !(← atMark close) : Parse Bool) (Cursor.ofText broken (t ++ rest))
      = .ok true (Cursor.ofText broken (t ++ rest)) := by
  obtain ⟨tok, after, hstart, hopens⟩ := hfront rest hends
  rw [goesOn_run, hopens.ofText, decide_eq_false (hstart.ne_punct (not_mem_of_closer hclose))]
  rfl

/-- A list does not go on at its closing mark. -/
lemma repeatWhile_closing (close : String) (p : Parse α) (fuel : Nat) (start rest : List Char)
    (broken : Bool) :
    repeatWhile (do return !(← atMark close)) p fuel ⟨.punct close, start, rest, broken⟩
      = .ok [] ⟨.punct close, start, rest, broken⟩ := by
  cases fuel with
  | zero => rfl
  | succ fuel =>
    rw [repeatWhile, bind_ok (goesOn_run close _), decide_eq_true rfl]
    rfl

/-- The cursor before items on lines of their own has more text ahead than there are items. -/
lemma length_le_start {ts : List (List Char)} (hfronts : ∀ t ∈ ts, Fronts t) (level : Nat)
    (cs : List Char) : ts.length ≤ (Cursor.at (lines level ts ++ cs)).start.length + 1 := by
  match ts, hfronts with
  | [], _ => simp
  | [t], _ => simp
  | t :: u :: ts, hfronts =>
    obtain ⟨tok, after, -, hopens⟩ :=
      hfronts t List.mem_cons_self (',' :: (lines level (u :: ts) ++ cs)) (.comma _)
    have hlines := length_le_length_lines level (u :: ts)
    rw [lines, List.append_assoc, List.append_assoc, List.cons_append, at_newline, hopens.ofText]
    · simp only [List.length_append, List.length_cons] at hlines ⊢
      omega
    · simp

/-- Items on lines of their own are read one after another. -/
lemma repeatWhile_lines {ps : List (List Char × α)} (hne : ps ≠ [])
    (hreads : ∀ p ∈ ps, Reads item p.1 p.2) (hfronts : ∀ p ∈ ps, Fronts p.1)
    (hopens : Opens (.punct close) closing after) (hclose : close ∈ closers) (hcomma : "," ≠ close)
    (level outer : Nat) {fuel : Nat} (hfuel : ps.length ≤ fuel) :
    repeatWhile (do return !(← atMark close)) (separated close item) fuel
        (Cursor.at (lines level (ps.map Prod.fst) ++ ((Json.newline outer).toList ++ closing)))
      = .ok (ps.map Prod.snd) ⟨.punct close, closing, after, true⟩ := by
  induction ps generalizing fuel with
  | nil => exact absurd rfl hne
  | cons p ps ih =>
    obtain ⟨fuel, rfl⟩ : ∃ k, fuel = k + 1 := ⟨fuel - 1, by simp at hfuel; omega⟩
    have hread := hreads p List.mem_cons_self
    have hfront := hfronts p List.mem_cons_self
    cases ps with
    | nil =>
      have hends := (closes_newline hopens hclose outer).ends
      rw [List.map_singleton, lines, List.append_assoc, at_newline, repeatWhile,
        bind_ok (goesOn_of_fronts hfront hclose hends true)]
      change (separated close item >>= _) _ = _
      rw [bind_ok (separated_close hread hopens hclose true outer),
        bind_ok (repeatWhile_closing close _ fuel closing after true)]
      rfl
    | cons q ps =>
      have hless : (q :: ps).length ≤ fuel := by simpa using hfuel
      have hmore := ih (by simp) (fun r hr => hreads r (List.mem_cons_of_mem p hr))
        (fun r hr => hfronts r (List.mem_cons_of_mem p hr)) hless
      rw [List.map_cons, List.map_cons] at hmore ⊢
      rw [lines, List.append_assoc, List.append_assoc, List.cons_append, at_newline, repeatWhile,
        bind_ok (goesOn_of_fronts hfront hclose (.comma _) true)]
      · change (separated close item >>= _) _ = _
        rw [bind_ok (separated_comma hread hcomma true _), bind_ok hmore]
        rfl
      · simp

/-- A list that is closed at once is empty. -/
lemma listUntil_closing (item : Parse α) (hopens : Opens (.punct close) closing after) :
    listUntil close item (Cursor.at closing) = .ok [] (Cursor.at after) := by
  have hat : Cursor.at closing = ⟨.punct close, closing, after, false⟩ := hopens.ofText false
  have hnone : several (do return !(← atMark close)) (separated close item)
      ⟨.punct close, closing, after, false⟩ = .ok [] ⟨.punct close, closing, after, false⟩ := by
    rw [several, bind_ok (remaining_run _)]
    exact repeatWhile_closing ..
  have hend : expect close ⟨.punct close, closing, after, false⟩ = .ok () (Cursor.at after) :=
    expect_of_eq rfl
  change (several _ (separated close item) >>= _) (Cursor.at closing) = _
  rw [hat, bind_ok hnone, bind_ok hend]
  rfl

/-- A list of items on lines of their own is read up to its closing mark. -/
lemma listUntil_lines {ps : List (List Char × α)} (hne : ps ≠ [])
    (hreads : ∀ p ∈ ps, Reads item p.1 p.2) (hfronts : ∀ p ∈ ps, Fronts p.1)
    (hopens : Opens (.punct close) closing after) (hclose : close ∈ closers) (hcomma : "," ≠ close)
    (level outer : Nat) :
    listUntil close item
        (Cursor.at (lines level (ps.map Prod.fst) ++ ((Json.newline outer).toList ++ closing)))
      = .ok (ps.map Prod.snd) (Cursor.at after) := by
  set cur := Cursor.at (lines level (ps.map Prod.fst) ++ ((Json.newline outer).toList ++ closing))
    with hcur
  have hfuel : ps.length ≤ cur.start.length + 1 := by
    have hlength := @length_le_start (ps.map Prod.fst) (fun t ht => ?_) level
      ((Json.newline outer).toList ++ closing)
    · rwa [List.length_map, ← hcur] at hlength
    · obtain ⟨p, hp, rfl⟩ := List.mem_map.mp ht
      exact hfronts p hp
  have hitems : several (do return !(← atMark close)) (separated close item) cur
      = .ok (ps.map Prod.snd) ⟨.punct close, closing, after, true⟩ := by
    rw [several, bind_ok (remaining_run cur)]
    exact repeatWhile_lines hne hreads hfronts hopens hclose hcomma level outer hfuel
  have hend : expect close ⟨.punct close, closing, after, true⟩ = .ok () (Cursor.at after) :=
    expect_of_eq rfl
  change (several _ (separated close item) >>= _) cur = _
  rw [bind_ok hitems, bind_ok hend]
  rfl

/-- What stands between the marks of a list: nothing, or lines and the indentation of the closing
mark. -/
def enclosed (level : Nat) : List (List Char) → List Char
  | [] => []
  | t :: ts => lines (level + 1) (t :: ts) ++ (Json.newline level).toList

/-- A text is shorter than the list that it is an item of. -/
lemma length_lt_length_enclosed {ts : List (List Char)} (h : t ∈ ts) (level : Nat) :
    t.length < (enclosed level ts).length := by
  cases ts with
  | nil => simp at h
  | cons u ts =>
    have hlines := length_lt_length_lines h (level + 1)
    rw [enclosed, List.length_append]
    omega

/-- A list is read up to its closing mark. -/
lemma listUntil_enclosed {ps : List (List Char × α)} (hreads : ∀ p ∈ ps, Reads item p.1 p.2)
    (hfronts : ∀ p ∈ ps, Fronts p.1) (hopens : Opens (.punct close) closing after)
    (hclose : close ∈ closers) (hcomma : "," ≠ close) (level : Nat) :
    listUntil close item (Cursor.at (enclosed level (ps.map Prod.fst) ++ closing))
      = .ok (ps.map Prod.snd) (Cursor.at after) := by
  cases ps with
  | nil => exact listUntil_closing item hopens
  | cons p ps =>
    rw [List.map_cons, enclosed, List.append_assoc, ← List.map_cons]
    exact listUntil_lines (by simp) hreads hfronts hopens hclose hcomma (level + 1) level

/-! ### Arrays and objects -/

variable {G : Grammar} {c : Context} {e : Expr}

/-- A literal is an item of an array. -/
lemma slot_reads (hread : Reads (G.assignment c.inner) t e) (hfront : Fronts t) :
    Reads (slot G c) t (.item e) := by
  intro broken rest hclose
  have hitem := hread broken rest hclose
  obtain ⟨tok, after, hstart, hopens⟩ := hfront rest hclose.ends
  rw [hopens.ofText] at hitem ⊢
  have hcomma : tok ≠ .punct "," := hstart.ne_punct (by decide)
  have hdots : tok ≠ .punct "..." := hstart.ne_punct (by decide)
  rw [slot, bind_ok (atMark_of_ne hcomma)]
  change (eat "..." >>= _) _ = _
  rw [bind_ok (eat_of_ne hdots)]
  change (G.assignment c.inner >>= _) _ = _
  rw [bind_ok hitem]
  rfl

/-- A quoted key and a literal after a colon are a member of an object. -/
lemma objectMember_reads (hread : Reads (G.assignment c.inner) t e) (k : String) :
    Reads (objectMember G c) ((Json.quote k).toList ++ ':' :: ' ' :: t) (.pair (.string k) e) := by
  intro broken rest hclose
  have hvalue : G.assignment c.inner (Cursor.at (t ++ rest)) = .ok e (Cursor.at rest) :=
    hread false rest hclose
  have hkey := (opens_quote k (':' :: ' ' :: (t ++ rest))).ofText broken
  rw [List.append_assoc, List.cons_append, List.cons_append, hkey]
  change (G.assignment c.inner >>= _) (Cursor.at (t ++ rest)) = _
  rw [bind_ok hvalue]
  rfl

/-- What follows an opening bracket makes an array. -/
lemma primary_bracket {rest : List Char} {slots : List Slot}
    (hlist : listUntil "]" (slot G c) (Cursor.at rest) = .ok slots cur') (start : List Char)
    (broken : Bool) : primary G c ⟨.punct "[", start, rest, broken⟩ = .ok (.array slots) cur' := by
  change (listUntil "]" (slot G c) >>= _) (Cursor.at rest) = _
  rw [bind_ok hlist]
  rfl

/-- What follows an opening brace makes an object. -/
lemma primary_brace {rest : List Char} {members : List Member}
    (hlist : listUntil "\x7d" (objectMember G c) (Cursor.at rest) = .ok members cur')
    (start : List Char) (broken : Bool) :
    primary G c ⟨.punct "\x7b", start, rest, broken⟩ = .ok (.object members) cur' := by
  change (listUntil "\x7d" (objectMember G c) >>= _) (Cursor.at rest) = _
  rw [bind_ok hlist]
  rfl

/-! ### Literals -/

/-- A text is read as a literal without a sign if it is one where it stands, after its first
token. -/
lemma reads_of_primary {n : Nat} {tok : Token} (body : List Char → List Char) (hstart : Starts tok)
    (he : Unsigned e) (hopens : ∀ rest, Ends rest → Opens tok (t ++ rest) (body rest))
    (hprimary : ∀ c start rest broken, Closes rest →
      primary (Grammar.rounds n) c ⟨tok, start, body rest, broken⟩ = .ok e (Cursor.at rest))
    (c : Context) : Reads ((Grammar.rounds (n + 4)).assignment c) t e := by
  intro broken rest hclose
  rw [(hopens rest hclose.ends).ofText]
  exact rounds_assignment hstart he hclose.closing (fun c => hprimary c _ rest broken hclose) c

/-- Digits are read as a number. -/
lemma reads_toDigits (n k : Nat) (c : Context) :
    Reads ((Grammar.rounds (n + 4)).assignment c) (Nat.toDigits 10 k)
      (.literal (.number (Decimal.Binary64.ofDecimal false k 0))) :=
  reads_of_primary id (.number _) (.literal _) (fun _ hends => opens_toDigits k hends)
    (fun _ _ _ _ _ => rfl) c

/-- Digits after a minus are read as a number with a sign. -/
lemma reads_minus (n k : Nat) (c : Context) :
    Reads ((Grammar.rounds (n + 5)).assignment c) ('-' :: Nat.toDigits 10 k)
      (.unary .minus (.literal (.number (Decimal.Binary64.ofDecimal false k 0)))) := by
  intro broken rest hclose
  have hdigits : Cursor.at (Nat.toDigits 10 k ++ rest) = _ :=
    (opens_toDigits k hclose.ends).ofText false
  rw [List.cons_append, (opens_minus k rest).ofText]
  refine rounds_assignment_minus ?_ (.literal _) hclose.closing (fun c => ?_) c
  · rw [hdigits]
    exact .number _
  · rw [hdigits]
    rfl

/-! ### Declarations -/

section

variable {n : Nat}

/-- The text from the name of a variable on, when a literal is its value. -/
def variableText (t : List Char) : List Char :=
  'v' :: 'a' :: 'l' :: 'u' :: 'e' :: ' ' :: '=' :: ' ' :: (t ++ [';'])

/-- A variable whose value is a literal. -/
lemma declarator_reads (c : Context) (hread : Reads ((Grammar.rounds (n + 1)).assignment c) t e) :
    Statements.declarator (Grammar.rounds (n + 1)) c (Statements.binderOf "const" false)
        (Cursor.at (variableText t))
      = .ok (.plain "value" (some e)) (Cursor.at [';']) := by
  have hvalue : (Grammar.rounds (n + 1)).assignment c (Cursor.at (t ++ [';']))
      = .ok e (Cursor.at [';']) := hread false [';'] (closes_semicolon [])
  have hinitial : initial (Grammar.rounds (n + 1)) c
      ⟨.punct "=", '=' :: ' ' :: (t ++ [';']), ' ' :: (t ++ [';']), false⟩
        = .ok (some e) (Cursor.at [';']) := by
    change ((Grammar.rounds (n + 1)).assignment c >>= _) (Cursor.at (t ++ [';'])) = _
    rw [bind_ok hvalue]
    rfl
  change (initial (Grammar.rounds (n + 1)) c >>= _)
    ⟨.punct "=", '=' :: ' ' :: (t ++ [';']), ' ' :: (t ++ [';']), false⟩ = _
  rw [bind_ok hinitial]
  rfl

/-- One variable whose value is a literal, up to the end of the declaration. -/
lemma declarators_reads (c : Context) (hread : Reads ((Grammar.rounds (n + 1)).assignment c) t e)
    (fuel : Nat) :
    Statements.declarators (Grammar.rounds (n + 1)) c (Statements.binderOf "const" false) (fuel + 1)
        (Cursor.at (variableText t))
      = .ok [.plain "value" (some e)] (Cursor.at [';']) := by
  have hsemicolon : atMark ";" (Cursor.at (variableText t))
      = .ok false (Cursor.at (variableText t)) := rfl
  have hcomma : eat "," (Cursor.at [';']) = .ok false (Cursor.at [';']) := rfl
  rw [Statements.declarators, bind_ok hsemicolon]
  change (Statements.declarator _ c _ >>= _) _ = _
  rw [bind_ok (declarator_reads c hread), bind_ok hcomma]
  rfl

/-- A declaration of a variable whose value is a literal. -/
lemma variableStatement_reads (c : Context)
    (hread : Reads ((Grammar.rounds (n + 1)).assignment c) t e) (start : List Char)
    (broken : Bool) :
    Statements.variableStatement (Grammar.rounds (n + 1)) c "const"
        ⟨.word "const", start, ' ' :: variableText t, broken⟩
      = .ok (.vars [.plain "value" (some e)]) (Cursor.at []) := by
  have hadvance : advance ⟨.word "const", start, ' ' :: variableText t, broken⟩
      = .ok () (Cursor.at (variableText t)) := rfl
  have hend : Statements.endVariables (Grammar.rounds (n + 1)) c (Cursor.at [';'])
      = .ok () (Cursor.at []) := rfl
  rw [Statements.variableStatement, bind_ok hadvance, bind_ok (remaining_run _),
    bind_ok (declarators_reads c hread _), bind_ok hend]
  rfl

/-- No other statement starts with the keyword of a declaration. -/
lemma wordStatement_const (G : Grammar) (c : Context) (item : Context → Parse Stmt) (isBody : Bool)
    (ds : List Expr) :
    Statements.wordStatement G c item isBody ds "const"
      = Statements.ambiguous G c item isBody ds "const" := by
  rw [Statements.wordStatement] <;> decide

/-- What starts with the keyword of a declaration and a name declares variables. -/
lemma undecorated_const (G : Grammar) (c : Context) (item : Context → Parse Stmt)
    (ds : List Expr) (t start : List Char) (broken : Bool) :
    Statements.undecorated G c item false ds ⟨.word "const", start, ' ' :: variableText t, broken⟩
      = Statements.variableStatement G c "const"
        ⟨.word "const", start, ' ' :: variableText t, broken⟩ := by
  have hword : Statements.undecorated G c item false ds
      ⟨.word "const", start, ' ' :: variableText t, broken⟩
        = Statements.wordStatement G c item false ds "const"
          ⟨.word "const", start, ' ' :: variableText t, broken⟩ := rfl
  rw [hword, wordStatement_const]
  rfl

/-- A declaration of a variable whose value is a literal is an item of a module. -/
lemma item_reads (hread : ∀ c, Reads ((Grammar.rounds (n + 1)).assignment c) t e)
    (start : List Char) (broken : Bool) :
    Statements.item (Grammar.rounds (n + 1)) Context.top
        ⟨.word "const", start, ' ' :: variableText t, broken⟩
      = .ok (.vars [.plain "value" (some e)]) (Cursor.at []) := by
  have hdecorators : decorators (Grammar.rounds (n + 1)) Context.top
      ⟨.word "const", start, ' ' :: variableText t, broken⟩
        = .ok [] ⟨.word "const", start, ' ' :: variableText t, broken⟩ := rfl
  rw [← variableStatement_reads Context.top (hread Context.top) start broken,
    ← undecorated_const _ _ (Statements.itemWithin (Grammar.rounds (n + 1)) start.length) [],
    Statements.item, bind_ok (remaining_run _), Statements.itemWithin, bind_ok hdecorators]
  rfl

/-- A module that declares a variable whose value is a literal. -/
lemma moduleItems_reads (hread : ∀ c, Reads ((Grammar.rounds (n + 1)).assignment c) t e)
    (start : List Char) (broken : Bool) :
    moduleItems (Grammar.rounds (n + 1)) ⟨.word "const", start, ' ' :: variableText t, broken⟩
      = .ok [.vars [.plain "value" (some e)]] (Cursor.at []) := by
  have hmore : (do return (← token) ≠ .eof : Parse Bool)
      ⟨.word "const", start, ' ' :: variableText t, broken⟩
        = .ok true ⟨.word "const", start, ' ' :: variableText t, broken⟩ := rfl
  have hnone : ∀ fuel, repeatWhile (do return (← token) ≠ .eof : Parse Bool)
      (Statements.item (Grammar.rounds (n + 1)) Context.top) fuel (Cursor.at [])
        = .ok [] (Cursor.at []) := by
    intro fuel
    cases fuel <;> rfl
  rw [moduleItems, several, bind_ok (remaining_run _), repeatWhile, bind_ok hmore]
  change (Statements.item _ _ >>= _) _ = _
  rw [bind_ok (item_reads hread start broken), bind_ok (hnone _)]
  rfl

/-- The text of a declaration whose value is a literal is parsed as that declaration, if the literal
is read in half of the rounds. -/
lemma parse_declaration {text : String}
    (hread : ∀ n c, 4 * text.toList.length < n →
      Reads ((Grammar.rounds n).assignment c) text.toList e) :
    parse ("const value = " ++ text ++ ";") = .ok [.vars [.plain "value" (some e)]] := by
  have hchars : withoutMark ("const value = " ++ text ++ ";").toList
      = 'c' :: 'o' :: 'n' :: 's' :: 't' :: ' ' :: variableText text.toList := by
    simp [variableText, withoutMark]
  set cs := 'c' :: 'o' :: 'n' :: 's' :: 't' :: ' ' :: variableText text.toList with hcs
  have hlength : text.toList.length < cs.length := by
    simp only [hcs, variableText, List.length_cons, List.length_append]
    omega
  have hcursor : Cursor.ofText true (withoutInterpreter cs)
      = ⟨.word "const", cs, ' ' :: variableText text.toList, true⟩ := rfl
  have hmodule := moduleItems_reads (n := 8 * cs.length + 15) (t := text.toList) (e := e)
    (fun c => hread _ c (by omega)) cs true
  rw [parse, hchars]
  simp only [parseChars, hcursor, hmodule]
  rfl

end

end PageConfig.Source
