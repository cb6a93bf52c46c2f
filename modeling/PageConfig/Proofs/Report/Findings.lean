import Mathlib.Data.List.Forall2
import Mathlib.Data.String.Basic
import PageConfig.Report.Outcome

/-!
# No finding is lost in a report

A report shows the findings that a user asked for and counts the others.  Those
that are shown are `Grouped`: file by file, the files in ascending order, and
the findings of one file as they were found.  There is only one such order
(`Grouped.unique`), so a report does not depend on how the findings of
different files were mixed.

A finding is shown as an `Entry`: its severity, its message and its rule, the
file below, and a note for the kinds that have one.  `Tells` says for each kind
of finding what stands there, and `Entry.text` how it is set.

`report_accounts_for_findings` puts this together with the numbers: what is
shown and what the hint counts are all findings, and the summary counts what is
shown.
-/

namespace PageConfig.Report

open PageConfig.Project

/-! ### The order of findings -/

/-- Findings in the order of a report: all of them, file by file, those of one file as they were
found. -/
structure Grouped (found shown : List Finding) : Prop where
  perm : shown.Perm found
  ascending : shown.Pairwise fun a b => a.file ≤ b.file
  stable : ∀ file, (shown.filter fun f => f.file = file) = found.filter fun f => f.file = file

variable {found shown l m : List Finding}

/-- The order of files is total, and sorting by it keeps the findings of one file in order. -/
theorem grouped_byFile (found : List Finding) : Grouped found (byFile found) := by
  have htrans : ∀ a b c : Finding, decide (a.file ≤ b.file) = true →
      decide (b.file ≤ c.file) = true → decide (a.file ≤ c.file) = true := by
    intro a b c hab hbc
    simp only [decide_eq_true_eq] at hab hbc ⊢
    exact le_trans hab hbc
  have htotal : ∀ a b : Finding,
      (decide (a.file ≤ b.file) || decide (b.file ≤ a.file)) = true := by
    intro a b
    simpa using le_total a.file b.file
  have hperm : (byFile found).Perm found := List.mergeSort_perm _ _
  refine ⟨hperm, ?_, fun file => ?_⟩
  · have hsorted := List.pairwise_mergeSort htrans htotal found
    exact hsorted.imp fun hab => of_decide_eq_true hab
  · set own := found.filter fun f => f.file = file with hown
    have hfile : ∀ f ∈ own, f.file = file := by
      intro f hf
      simpa using (List.mem_filter.mp hf).2
    -- the findings of one file are in order already, so sorting leaves them in that order
    have hordered : own.Pairwise fun a b => decide (a.file ≤ b.file) = true := by
      refine List.pairwise_of_forall_mem_list fun a ha b hb => ?_
      rw [decide_eq_true_eq, hfile a ha, hfile b hb]
    have hsublist : own.Sublist (byFile found) :=
      List.sublist_mergeSort htrans htotal hordered List.filter_sublist
    have hkept : own.Sublist ((byFile found).filter fun f => f.file = file) := by
      have hfiltered := hsublist.filter fun f => f.file = file
      rwa [List.filter_eq_self.mpr fun f hf => by simpa using hfile f hf] at hfiltered
    exact (hkept.eq_of_length (hperm.filter _).length_eq.symm).symm

/-- A file has a finding in two lists, or in neither, if its findings are the same in both. -/
lemma exists_file_of_filter_eq
    (h : ∀ file, (l.filter fun f => f.file = file) = m.filter fun f => f.file = file)
    {a : Finding} (ha : a ∈ l) : ∃ b ∈ m, b.file = a.file := by
  have hmem : a ∈ l.filter fun f => f.file = a.file := List.mem_filter.mpr ⟨ha, by simp⟩
  rw [h] at hmem
  exact ⟨a, (List.mem_filter.mp hmem).1, rfl⟩

/-- Findings that ascend by file are determined by the findings of each file. -/
theorem eq_of_ascending (hl : l.Pairwise fun a b => a.file ≤ b.file)
    (hm : m.Pairwise fun a b => a.file ≤ b.file)
    (h : ∀ file, (l.filter fun f => f.file = file) = m.filter fun f => f.file = file) :
    l = m := by
  induction l generalizing m with
  | nil =>
    cases m with
    | nil => rfl
    | cons b m =>
      obtain ⟨a, ha, -⟩ := exists_file_of_filter_eq (fun file => (h file).symm) List.mem_cons_self
      cases ha
  | cons a l ih =>
    cases m with
    | nil =>
      obtain ⟨b, hb, -⟩ := exists_file_of_filter_eq h List.mem_cons_self
      cases hb
    | cons b m =>
      obtain ⟨hleast, hltail⟩ := List.pairwise_cons.mp hl
      obtain ⟨hleast', hmtail⟩ := List.pairwise_cons.mp hm
      -- each of the two first findings has a file that comes no later than that of the other
      have hab : a.file ≤ b.file := by
        obtain ⟨c, hc, hfile⟩ :=
          exists_file_of_filter_eq (fun file => (h file).symm) (List.mem_cons_self (a := b))
        rcases List.mem_cons.mp hc with rfl | hc
        · exact le_of_eq hfile
        · exact hfile ▸ hleast c hc
      have hba : b.file ≤ a.file := by
        obtain ⟨c, hc, hfile⟩ := exists_file_of_filter_eq h (List.mem_cons_self (a := a))
        rcases List.mem_cons.mp hc with rfl | hc
        · exact le_of_eq hfile
        · exact hfile ▸ hleast' c hc
      have hfile : a.file = b.file := le_antisymm hab hba
      obtain rfl : a = b := by
        have hown := h a.file
        rw [List.filter_cons_of_pos (by simp), List.filter_cons_of_pos (by simp [hfile])] at hown
        exact (List.cons.inj hown).1
      have hrest : l = m := by
        refine ih hltail hmtail fun file => ?_
        have hown := h file
        by_cases ha : a.file = file
        · rw [List.filter_cons_of_pos (by simpa using ha),
            List.filter_cons_of_pos (by simpa using ha)] at hown
          exact (List.cons.inj hown).2
        · rwa [List.filter_cons_of_neg (by simpa using ha),
            List.filter_cons_of_neg (by simpa using ha)] at hown
      rw [hrest]

/-- Findings that agree file by file are shown in one order. -/
theorem Grouped.unique {found' shown' : List Finding} (hshown : Grouped found shown)
    (hshown' : Grouped found' shown')
    (h : ∀ file, (found.filter fun f => f.file = file) = found'.filter fun f => f.file = file) :
    shown = shown' := by
  refine eq_of_ascending hshown.ascending hshown'.ascending fun file => ?_
  rw [hshown.stable, h, hshown'.stable]

/-! ### Numbers -/

/-- Every finding is an error or a warning. -/
lemma length_eq_errors_add_warnings (fs : List Finding) :
    fs.length = errorCount fs + fs.countP fun f => f.severity = .warning := by
  have hsplit := List.length_eq_countP_add_countP (fun f : Finding => f.severity = .error) (l := fs)
  have hwarning : ∀ f : Finding, (¬ decide (f.severity = .error) = true) ↔
      f.severity = .warning := by
    intro f
    cases f.severity <;> simp
  simpa only [errorCount, hwarning] using hsplit

/-! ### Entries -/

/-- A piece of text in the ink that some codes stand for.  Without color it is plain. -/
def inked (color : Bool) (codes text : String) : String :=
  if color then "\x1b[" ++ codes ++ "m" ++ text ++ "\x1b[0m" else text

/-- What a report shows for a finding: how bad it is and in which ink, what it says and by which
rule, the file it belongs to, and perhaps a note. -/
structure Entry where
  severity : String
  ink : String
  message : String
  rule : String
  file : String
  note? : Option String

/-- The entry of a finding, for each kind of findings. -/
inductive Tells : Finding → Entry → Prop where
  | parseError (file error : String) : Tells (.parseError file error)
      ⟨"error", "1;31", "file could not be parsed", "parse-error", file, some error⟩
  | invalidEntry (file reason : String) : Tells (.invalidEntry file reason)
      ⟨"warning", "1;33", reason, "invalid-entry-config", file, none⟩
  | missingPage (page tried : String) : Tells (.missingPage page tried)
      ⟨"warning", "1;33", "page \"" ++ page ++ "\" not found, skipped", "missing-page", tried, none⟩
  | missingComponent (file name specifier : String) :
      Tells (.missingComponent file name specifier)
        ⟨"warning", "1;33", "component \"" ++ name ++ "\" (" ++ specifier ++ ") not found, skipped",
          "missing-component", file, none⟩
  | cycle (page : String) (chain : List String) : Tells (.cycle page chain)
      ⟨"warning", "1;33", "component usage cycle, resolution truncated", "component-cycle", page,
        some (" -> ".intercalate chain)⟩
  | nonLiteral (file path kind : String) : Tells (.nonLiteral file path kind)
      ⟨"warning", "1;33", "config value at \"" ++ path ++ "\" is not a literal, omitted",
        "non-literal-config", file, some ("found " ++ kind)⟩

/-- The findings that are shown to every user: a file that cannot be read, and page lists that are
missing or malformed. -/
inductive Loud : Finding → Prop where
  | parseError (file error : String) : Loud (.parseError file error)
  | invalidEntry (file reason : String) : Loud (.invalidEntry file reason)

/-- The lines of an entry, and a blank one. -/
def Entry.text (color : Bool) (e : Entry) : String :=
  inked color e.ink e.severity ++ ": " ++ e.message ++ "  " ++ inked color "2;36" e.rule ++ "\n"
    ++ "  " ++ inked color "34" "-->" ++ " " ++ e.file ++ "\n"
    ++ (match e.note? with
      | some note => "   " ++ inked color "34" "=" ++ " " ++ inked color "1" "note:" ++ " " ++ note
        ++ "\n"
      | none => "")
    ++ "\n"

/-- The text about findings: the entry of each of them, how many they are, and how many of them are
errors and how many warnings.  Nothing is said if there are none. -/
def accountText (color : Bool) (entries : List Entry) (errors warnings : Nat) : String :=
  if entries.isEmpty then ""
  else "\n" ++ (String.join (entries.map (Entry.text color))
    ++ (toString (errors + warnings) ++ " problems (" ++ toString errors ++ " "
      ++ inked color "31" (if errors = 1 then "error" else "errors") ++ ", "
      ++ toString warnings ++ " "
      ++ inked color "33" (if warnings = 1 then "warning" else "warnings") ++ ")\n"))

/-- The hint that some findings are not shown. -/
def hintText (color : Bool) (hidden : Nat) : String :=
  if hidden = 0 then ""
  else inked color "1;36" "note:" ++ " " ++ toString hidden ++ " recovered issue(s) not shown (use "
    ++ inked color "36" "-v" ++ " for details)\n"

/-- Nothing goes behind a code that does not stand there. -/
lemma resume_of_not_mem {code cs : List Char} (h : '\x1b' ∉ cs) : resume code cs = cs := by
  fun_induction resume code cs with
  | case1 cs => simp at h
  | case2 c cs _ ih => rw [ih fun hcs => h (List.mem_cons_of_mem c hcs)]
  | case3 => rfl

/-- A text without codes is painted by putting it between two of them. -/
lemma paint_eq_inked (color : Bool) (styles : List Style) {text : String}
    (htext : '\x1b' ∉ text.toList) :
    paint color styles text = inked color (";".intercalate (styles.map Style.code)) text := by
  cases color with
  | false => rfl
  | true =>
    change styleCode styles ++ String.ofList (resume _ text.toList) ++ resetCode = _
    rw [resume_of_not_mem htext, String.ofList_toList]
    rfl

/-- The names of the rules have no codes in them. -/
lemma not_mem_rule (f : Finding) : '\x1b' ∉ f.rule.toList := by
  cases f <;> simp [Finding.rule]

/-- A finding is shown as its entry. -/
lemma findingText_of_tells (color : Bool) {f : Finding} {e : Entry} (h : Tells f e) :
    findingText color f = e.text color := by
  have harrow : paint color [.blue] "-->" = inked color "34" "-->" :=
    paint_eq_inked color _ (by decide)
  have hequals : paint color [.blue] "=" = inked color "34" "=" :=
    paint_eq_inked color _ (by decide)
  have hnote : paint color [.bold] "note:" = inked color "1" "note:" :=
    paint_eq_inked color _ (by decide)
  have herror : paint color [.bold, .red] "error" = inked color "1;31" "error" :=
    paint_eq_inked color _ (by decide)
  have hwarning : paint color [.bold, .yellow] "warning" = inked color "1;33" "warning" :=
    paint_eq_inked color _ (by decide)
  have hrule : paint color [.dimmed, .cyan] f.rule = inked color "2;36" f.rule :=
    paint_eq_inked color _ (not_mem_rule f)
  rw [findingText, Entry.text, harrow, hequals, hnote, hrule]
  cases h <;> simp only [Finding.severity, severityStyles, Severity.words, herror, hwarning] <;> rfl

/-- The severity of a finding is shown in words. -/
lemma Tells.severity_eq {f : Finding} {e : Entry} (h : Tells f e) :
    e.severity = f.severity.words := by
  cases h <;> rfl

/-- Every finding has an entry. -/
lemma exists_tells (f : Finding) : ∃ e, Tells f e := by
  cases f with
  | parseError file error => exact ⟨_, .parseError file error⟩
  | invalidEntry file reason => exact ⟨_, .invalidEntry file reason⟩
  | missingPage page tried => exact ⟨_, .missingPage page tried⟩
  | missingComponent file name specifier => exact ⟨_, .missingComponent file name specifier⟩
  | cycle page chain => exact ⟨_, .cycle page chain⟩
  | nonLiteral file path kind => exact ⟨_, .nonLiteral file path kind⟩

/-- Findings have entries, one for each. -/
lemma exists_entries (fs : List Finding) : ∃ entries, List.Forall₂ Tells fs entries := by
  induction fs with
  | nil => exact ⟨[], .nil⟩
  | cons f fs ih =>
    obtain ⟨e, he⟩ := exists_tells f
    obtain ⟨entries, hentries⟩ := ih
    exact ⟨e :: entries, .cons he hentries⟩

/-- Findings are shown as their entries. -/
lemma map_findingText (color : Bool) {fs : List Finding} {entries : List Entry}
    (h : List.Forall₂ Tells fs entries) :
    fs.map (findingText color) = entries.map (Entry.text color) := by
  induction h with
  | nil => rfl
  | cons he _ ih => rw [List.map_cons, List.map_cons, ih, findingText_of_tells color he]

/-- As many entries have a severity as findings. -/
lemma countP_severity (s : Severity) {fs : List Finding} {entries : List Entry}
    (h : List.Forall₂ Tells fs entries) :
    (fs.countP fun f => f.severity = s) = entries.countP fun e => e.severity = s.words := by
  induction h with
  | nil => rfl
  | @cons f e fs entries he _ ih =>
    have hsame : f.severity = s ↔ e.severity = s.words := by
      rw [he.severity_eq]
      cases f.severity <;> cases s <;> decide
    rw [List.countP_cons, List.countP_cons, ih]
    simp only [hsame]

/-- The findings that are shown to every user are the prominent ones. -/
lemma isProminent_iff {f : Finding} : f.isProminent = true ↔ Loud f := by
  constructor
  · intro h
    cases f with
    | parseError file error => exact .parseError file error
    | invalidEntry file reason => exact .invalidEntry file reason
    | _ => cases h
  · rintro (_ | _) <;> rfl

/-- Whether a finding is shown to every user can be decided. -/
instance decidableLoud : DecidablePred Loud := fun _ => decidable_of_iff _ isProminent_iff

/-- The summary counts errors and warnings in words. -/
lemma summaryLine_eq (color : Bool) (fs : List Finding) :
    summaryLine color fs = toString fs.length ++ " problems (" ++ toString (errorCount fs) ++ " "
      ++ inked color "31" (if errorCount fs = 1 then "error" else "errors") ++ ", "
      ++ toString (fs.length - errorCount fs) ++ " "
      ++ inked color "33" (if fs.length - errorCount fs = 1 then "warning" else "warnings")
      ++ ")\n" := by
  have herrors : ∀ n, '\x1b' ∉ (counted n "error" "errors").toList := by
    intro n
    unfold counted
    split <;> decide
  have hwarnings : ∀ n, '\x1b' ∉ (counted n "warning" "warnings").toList := by
    intro n
    unfold counted
    split <;> decide
  rw [summaryLine, paint_eq_inked color _ (herrors _), paint_eq_inked color _ (hwarnings _)]
  rfl

/-- The hint counts the findings that are not shown. -/
lemma hiddenHint_eq (color : Bool) (hidden : Nat) :
    hiddenHint color hidden = hintText color hidden := by
  rw [hiddenHint, hintText, paint_eq_inked color _ (by decide), paint_eq_inked color _ (by decide)]
  rfl

/-- What is said about findings is the account of the findings sorted by file. -/
lemma findingsText_eq (color : Bool) (found : List Finding) {entries : List Entry}
    (h : List.Forall₂ Tells (byFile found) entries) :
    (if found.isEmpty then "" else "\n" ++ findingsText color found)
      = accountText color entries (entries.countP fun e => e.severity = "error")
        (entries.countP fun e => e.severity = "warning") := by
  have hperm : (byFile found).Perm found := (grouped_byFile found).perm
  have herrors : (entries.countP fun e => e.severity = "error") = errorCount found :=
    (countP_severity .error h).symm.trans (hperm.countP_eq _)
  have hwarnings : (entries.countP fun e => e.severity = "warning")
      = found.countP fun f => f.severity = .warning :=
    (countP_severity .warning h).symm.trans (hperm.countP_eq _)
  have htotal := length_eq_errors_add_warnings found
  have hempty : entries.isEmpty = found.isEmpty := by
    have hlength : entries.length = found.length := h.length_eq.symm.trans hperm.length_eq
    rw [Bool.eq_iff_iff, List.isEmpty_iff, List.isEmpty_iff, ← List.length_eq_zero_iff,
      ← List.length_eq_zero_iff, hlength]
  rw [accountText, hempty, herrors, hwarnings, ← htotal, ← map_findingText color h]
  split
  · rfl
  · rename_i hne
    rw [findingsText, if_neg hne, summaryLine_eq, htotal, Nat.add_sub_cancel_left]

/-! ### The report -/

lemma Output.eq_of_channels {o p : Output} (hout : o.out = p.out) (herr : o.err = p.err) :
    o = p := by
  cases o
  cases p
  simp_all only

/-- Lines that say what was done leave the second channel empty. -/
lemma err_all {os : List Output} (h : ∀ o ∈ os, o.err = "") : (Output.all os).err = "" := by
  have hfold : ∀ (before : Output), before.err = "" → (os.foldl Output.append before).err = "" := by
    induction os with
    | nil => exact fun before hbefore => hbefore
    | cons o os ih =>
      intro before hbefore
      rw [List.foldl_cons]
      refine ih (fun p hp => h p (List.mem_cons_of_mem o hp)) _ ?_
      rw [Output.append, hbefore, h o List.mem_cons_self]
      rfl
  exact hfold Output.empty rfl

lemma err_written (m : Manner) (path : Path) : (m.written path).err = "" := by
  unfold Manner.written
  split <;> rfl

/-- What is said about findings goes behind what is said without them, and the second channel has
only the hint. -/
lemma artifacts_eq (m : Manner) (a : Artifacts) :
    (m.artifacts a).out = (m.artifacts { a with findings := [] }).out
        ++ (if (visible m.context.verbose a.findings).isEmpty then ""
          else "\n" ++ findingsText m.color (visible m.context.verbose a.findings)) ∧
      (m.artifacts a).err = hintText m.color
        (a.findings.length - (visible m.context.verbose a.findings).length) := by
  set written := Output.all ((a.pages ++ [a.entry]).map fun artifact => m.written artifact.output)
    with hwritten
  set ignored := Output.all (a.ignored.map fun page => m.info (page ++ " ignored")) with hignored
  have hwrittenErr : written.err = "" := by
    refine err_all fun o ho => ?_
    obtain ⟨artifact, -, rfl⟩ := List.mem_map.mp ho
    exact err_written m artifact.output
  have hignoredErr : ignored.err = "" := by
    refine err_all fun o ho => ?_
    obtain ⟨page, -, rfl⟩ := List.mem_map.mp ho
    rfl
  constructor
  · change written.out ++ ignored.out ++ _ = written.out ++ ignored.out ++ "" ++ _
    rw [String.append_empty]
  · change written.err ++ ignored.err ++ hiddenHint m.color _ = _
    rw [hwrittenErr, hignoredErr, hiddenHint_eq]
    rfl

/-- Findings that agree file by file are shown alike. -/
lemma byFile_visible_congr (verbose : Bool)
    (h : ∀ file, (l.filter fun f => f.file = file) = m.filter fun f => f.file = file) :
    byFile (visible verbose l) = byFile (visible verbose m) := by
  refine (grouped_byFile _).unique (grouped_byFile _) fun file => ?_
  rw [visible, visible, List.filter_comm, h, List.filter_comm]

/-- A report of findings in another order, those of one file in the same, is the same report. -/
lemma artifacts_congr (m : Manner) (a : Artifacts) (hperm : found.Perm a.findings)
    (h : ∀ file, (found.filter fun f => f.file = file)
      = a.findings.filter fun f => f.file = file) :
    m.artifacts { a with findings := found } = m.artifacts a := by
  have hshown := byFile_visible_congr m.context.verbose h
  have hlength : (visible m.context.verbose found).length
      = (visible m.context.verbose a.findings).length :=
    (hperm.filter _).length_eq
  obtain ⟨entries, htells⟩ := exists_entries (byFile (visible m.context.verbose a.findings))
  have htells' : List.Forall₂ Tells (byFile (visible m.context.verbose found)) entries := by
    rwa [hshown]
  apply Output.eq_of_channels
  · rw [(artifacts_eq m { a with findings := found }).1, (artifacts_eq m a).1,
      findingsText_eq m.color _ htells', findingsText_eq m.color _ htells]
  · rw [(artifacts_eq m { a with findings := found }).2, (artifacts_eq m a).2, hlength,
      hperm.length_eq]

/-- The findings that a user is shown, told by their kinds. -/
lemma visible_eq (verbose : Bool) (fs : List Finding) :
    visible verbose fs = fs.filter fun f => verbose = true ∨ Loud f := by
  refine List.filter_congr fun f _ => ?_
  rw [Bool.eq_iff_iff, decide_eq_true_iff, Bool.or_eq_true, isProminent_iff]

/-- **No finding is lost in a report.**  What a report says about findings stands behind what it
says without them: the entry of each finding that is shown to every user, or of each finding if the
user asked for all, once, file by file in ascending order, and those of one file as they were found.
The total of the summary is the number of errors and warnings among the entries, and of findings
shown.  Those that are not shown are counted in the hint, and there is no hint if all are shown.

The report stays the same when the findings come in another order, as long as those of one file
keep theirs. -/
theorem report_accounts_for_findings (m : Manner) (a : Artifacts) :
    (∃ (shown : List Finding) (entries : List Entry) (errors warnings hidden : Nat),
      Grouped (a.findings.filter fun f => m.context.verbose = true ∨ Loud f) shown ∧
      List.Forall₂ Tells shown entries ∧
      (m.artifacts a).out = (m.artifacts { a with findings := [] }).out
        ++ accountText m.color entries errors warnings ∧
      errors = (entries.countP fun e => e.severity = "error") ∧
      warnings = (entries.countP fun e => e.severity = "warning") ∧
      errors + warnings = shown.length ∧
      (m.artifacts a).err = hintText m.color hidden ∧
      shown.length + hidden = a.findings.length ∧
      (m.context.verbose = true → hidden = 0 ∧ (m.artifacts a).err = "")) ∧
    ∀ found : List Finding, found.Perm a.findings →
      (∀ file, (found.filter fun f => f.file = file)
        = a.findings.filter fun f => f.file = file) →
      m.artifacts { a with findings := found } = m.artifacts a := by
  refine ⟨?_, fun found hperm hfiles => artifacts_congr m a hperm hfiles⟩
  set verbose := m.context.verbose
  set shown := byFile (visible verbose a.findings)
  have hgrouped : Grouped (visible verbose a.findings) shown := grouped_byFile _
  obtain ⟨entries, htells⟩ := exists_entries shown
  have herrors : errorCount shown = entries.countP fun e => e.severity = "error" :=
    countP_severity .error htells
  have hwarnings : (shown.countP fun f => f.severity = .warning)
      = entries.countP fun e => e.severity = "warning" :=
    countP_severity .warning htells
  refine ⟨shown, entries, _, _, a.findings.length - (visible verbose a.findings).length, ?_,
    htells, ?_, rfl, rfl, ?_, (artifacts_eq m a).2, ?_, ?_⟩
  · rwa [← visible_eq]
  · rw [(artifacts_eq m a).1, findingsText_eq m.color _ htells]
  · rw [← herrors, ← hwarnings, length_eq_errors_add_warnings]
  · rw [hgrouped.perm.length_eq]
    exact Nat.add_sub_cancel' (List.length_filter_le _ _)
  · intro hverbose
    have hall : visible verbose a.findings = a.findings := by
      simp [visible, hverbose]
    have hnone : a.findings.length - (visible verbose a.findings).length = 0 := by
      rw [hall, Nat.sub_self]
    refine ⟨hnone, ?_⟩
    rw [(artifacts_eq m a).2, hnone]
    rfl

end PageConfig.Report
