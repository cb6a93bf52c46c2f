import PageConfig.Proofs.Path.Display
import PageConfig.Proofs.Resolve.Calls
import PageConfig.Proofs.Resolve.Independent

/-!
# What findings show of files

A finding shows files by text: the file it belongs to, and for a cycle all files
of it.  Every such text is that of a file that the search has come to
(`showsReached_of_mem_findingsAlone`), to whatever depth it went.

Text tells paths apart as long as no backslash is in them, since seen from the
root it leads back to the path that is shown (`Path.same_join_display`).  So a
text in a finding stands for one file only, be it below the root or not.
-/

namespace PageConfig

/-- The paths that a finding shows: that of its file, and those of a cycle. -/
def Finding.shown : Finding → List String
  | .cycle page chain => page :: chain
  | x => [x.file]

namespace Resolve

variable {f : Files} {l : Lookup} {page : Path}

/-! ### Texts in findings -/

/-- All that a finding shows are files that can be reached from a page. -/
def ShowsReached (f : Files) (l : Lookup) (page : Path) (x : Finding) : Prop :=
  ∀ s ∈ x.shown, ∃ p, Reaches f l page p ∧ l.display p = s

/-- A finding that shows one file only. -/
lemma showsReached_of_shown {x : Finding} {file : Path} (hfile : Reaches f l page file)
    (hx : x.shown = [l.display file]) : ShowsReached f l page x := by
  intro s hs
  rw [hx, List.mem_singleton] at hs
  exact ⟨file, hfile, hs.symm⟩

/-- The finding for a cycle shows the page and files on the stack, and the file that is met. -/
lemma showsReached_cycleAt {t : Trail} {file : Path} {chain : List Path} (ht : t.Sound f l page)
    (hfit : Errand.Fits f l t (.visit file)) (hon : t.since? file = some chain) :
    ShowsReached f l page (cycleAt l t chain file) := by
  obtain ⟨before, first, rest, hstack, -, rfl⟩ := Trail.since?_eq_some hon
  intro s hs
  rw [cycleAt, ht.headD_stack, Finding.shown, List.mem_cons, List.mem_append, List.mem_singleton] at hs
  rcases hs with rfl | hs | rfl
  · exact ⟨page, .refl, rfl⟩
  · obtain ⟨p, hp, rfl⟩ := List.mem_map.mp hs
    have hmem : p ∈ t.stack := by
      rw [hstack]
      exact List.mem_append_right before hp
    exact ⟨p, ht.stack_reached p hmem, rfl⟩
  · exact ⟨file, ht.reaches hfit, rfl⟩

/-- A search records nothing that shows other files than those it can come to. -/
lemma records_showsReached (f : Files) (l : Lookup) (page : Path) :
    Records f l page (ShowsReached f l page) where
  missing hfile name specifier := showsReached_of_shown hfile rfl
  unscanned hfile e := showsReached_of_shown hfile rfl
  omitted hfile omitted x hx := by
    obtain ⟨o, -, rfl⟩ := List.mem_map.mp hx
    exact showsReached_of_shown hfile rfl
  gaps hfile fields x hx := by
    obtain ⟨d, -, hd⟩ := List.mem_filterMap.mp hx
    obtain ⟨s, -, hs⟩ := Option.bind_eq_some_iff.mp hd
    split at hs
    · obtain rfl := Option.some.inj hs
      exact showsReached_of_shown hfile rfl
    · cases hs
  cycle ht hfit hon := showsReached_cycleAt ht hfit hon

/-- What holds of all findings that can be recorded holds of those for a page. -/
lemma Records.of_mem_findingsAlone {K : Finding → Prop} (hK : Records f l page K) {depth : Nat}
    {x : Finding} (hx : x ∈ findingsAlone f l depth page) : K x := by
  rw [findingsAlone] at hx
  cases hscan : f.scan page with
  | error e =>
    rw [ask_page_of_error hscan, List.nil_append, List.mem_singleton] at hx
    rw [hx]
    exact hK.unscanned .refl e
  | ok scan =>
    rw [ask_page_of_ok hscan] at hx
    have hstart : (startTrail l page scan []).SoundWith f l page K :=
      ⟨sound_startTrail .., fun x hx => hK.omitted .refl _ x hx⟩
    have hend : (searched f l depth page scan []).SoundWith f l page K :=
      soundWith_follow hK ((keptBySearch_extends f l page.parent).component depth)
        (fun goal t hgoal ht => soundWith_component hK page.parent depth hgoal ht)
        (fits_startTrail hscan []) hstart
    exact hend.recorded x hx

/-- What is found for a page shows files that can be reached from it. -/
lemma showsReached_of_mem_findingsAlone {depth : Nat} {x : Finding}
    (hx : x ∈ findingsAlone f l depth page) : ShowsReached f l page x :=
  (records_showsReached f l page).of_mem_findingsAlone hx

/-! ### Files by their texts -/

/-- Two paths without backslashes that are shown in the same way are the same. -/
lemma same_of_display_eq (hroot : l.root.isAbsolute = true) {p q : Path}
    (hp : p.isAbsolute = true) (hq : q.isAbsolute = true) (hbackp : '\\' ∉ p.text.toList)
    (hbackq : '\\' ∉ q.text.toList) (h : l.display p = l.display q) : p.same q = true := by
  have hleadsp : (l.root.join ⟨l.display p⟩).same p = true :=
    Path.same_join_display hroot hp hbackp
  have hleadsq : (l.root.join ⟨l.display q⟩).same q = true :=
    Path.same_join_display hroot hq hbackq
  rw [h] at hleadsp
  exact Path.same_trans (Path.same_symm hleadsp) hleadsq

/-- **What is shown tells files apart.**  Let paths be shown below an absolute root.  Then any
absolute path without backslashes is, component by component, the one that its text leads to from
the root, and two such paths with one text are the same.  In whatever is found for a page, at
whatever depth, each text that is shown is that of a file that can be reached from the page, and no
other file is shown by this text, below the root or outside. -/
theorem shown_paths_identify_files (l : Lookup) (hroot : l.root.isAbsolute = true) :
    (∀ p : Path, p.isAbsolute = true → '\\' ∉ p.text.toList →
      (l.root.join ⟨l.display p⟩).components = p.components) ∧
    (∀ p q : Path, p.isAbsolute = true → q.isAbsolute = true → '\\' ∉ p.text.toList →
      '\\' ∉ q.text.toList → l.display p = l.display q → p.same q = true) ∧
    (∀ (f : Files) (depth : Nat) (page : Path), ∀ x ∈ findingsAlone f l depth page, ∀ s ∈ x.shown,
      ∃ p, Reaches f l page p ∧ l.display p = s ∧
        (p.isAbsolute = true → '\\' ∉ p.text.toList → ∀ q : Path, q.isAbsolute = true →
          '\\' ∉ q.text.toList → p.same q = false → l.display q ≠ s)) := by
  refine ⟨?_, ?_, ?_⟩
  · intro p hp hbackslash
    exact Path.same_iff.mp (Path.same_join_display hroot hp hbackslash)
  · intro p q hp hq hbackp hbackq heq
    exact same_of_display_eq hroot hp hq hbackp hbackq heq
  · intro f depth page x hx s hs
    obtain ⟨p, hreached, rfl⟩ := showsReached_of_mem_findingsAlone hx s hs
    refine ⟨p, hreached, rfl, ?_⟩
    intro hp hbackp q hq hbackq hne heq
    rw [same_of_display_eq hroot hp hq hbackp hbackq heq.symm] at hne
    cases hne

/-- Below another directory the files of the ring are shown as they are, and a file that lies there
is shown without what it takes to spell the directory. -/
theorem shown_paths_identify_files_outside :
    Lookup.display ⟨none, ⟨"/app/"⟩⟩ ⟨"/app//src/./a.js"⟩ = "src/./a.js" ∧
    (Path.join ⟨"/app/"⟩ ⟨"src/./a.js"⟩).components = (⟨"/app//src/./a.js"⟩ : Path).components ∧
    findingsAlone ring ⟨none, ⟨"/app/"⟩⟩ 2 ⟨"/a.js"⟩
      = [.cycle "/a.js" ["/a.js", "/b.js", "/a.js"]] ∧
    ∃ p, Reaches ring ⟨none, ⟨"/app/"⟩⟩ ⟨"/a.js"⟩ p ∧
      Lookup.display ⟨none, ⟨"/app/"⟩⟩ p = "/b.js" := by
  have hroot : (⟨none, ⟨"/app/"⟩⟩ : Lookup).root.isAbsolute = true := by decide +kernel
  have hshown : Lookup.display ⟨none, ⟨"/app/"⟩⟩ ⟨"/app//src/./a.js"⟩ = "src/./a.js" := by
    decide +kernel
  have hfound : findingsAlone ring ⟨none, ⟨"/app/"⟩⟩ 2 ⟨"/a.js"⟩
      = [.cycle "/a.js" ["/a.js", "/b.js", "/a.js"]] := by decide +kernel
  obtain ⟨hback, -, hfindings⟩ := shown_paths_identify_files _ hroot
  have hpath := hback ⟨"/app//src/./a.js"⟩ (by decide +kernel) (by decide)
  rw [hshown] at hpath
  obtain ⟨p, hreached, hp, -⟩ := hfindings ring 2 ⟨"/a.js"⟩ _
    (hfound ▸ List.mem_singleton_self _) "/b.js" (by simp [Finding.shown])
  exact ⟨hshown, hpath, hfound, p, hreached, hp⟩

-- a directory whose name only starts with that of the root is another one
example : Lookup.display ⟨none, ⟨"/app"⟩⟩ ⟨"/app2/a.js"⟩ = "/app2/a.js" ∧
    Lookup.display ⟨none, ⟨"/app"⟩⟩ ⟨"/app/2/a.js"⟩ = "2/a.js" := by decide +kernel

end Resolve

end PageConfig
