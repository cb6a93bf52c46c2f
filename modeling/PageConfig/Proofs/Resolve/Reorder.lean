import PageConfig.Proofs.Resolve.Agreement
import PageConfig.Proofs.Resolve.Isolation
import PageConfig.Proofs.Resolve.Merge

/-!
# The order of usages

Files are compared with files that differ only in the order in which components
are used.  A search may go through them in quite another order: a shared file is
entered from another branch, and a circle is cut at another place.  But the
usage graph is the same, and so are the files that can be reached and what each
of them contributes and lacks.  Since a search meets exactly these files, each
once, what it collects and what it finds can only change in order.

Two things are left that the order can decide: which of several contributions
to a name is the last, and under which spelling a file is met first.  The first
needs a name that two files contribute.  The second needs a file with two
spellings, which normal forms rule out unless the name of the platform has a
slash in it.
-/

namespace PageConfig

namespace Resolve

open PageConfig.Extract (Scan Usage)
open PageConfig.Json (Value Fields)

variable {f g : Files} {l : Lookup} {pageDir page : Path}

/-! ### Files with usages in another order -/

/-- Scans that differ at most in the order of the components used. -/
inductive SameButOrder : Except String Scan → Except String Scan → Prop where
  | error (e : String) : SameButOrder (.error e) (.error e)
  | ok (config : Value) (omitted : List Extract.Omission) {us us' : List Usage}
    (h : us.Perm us') : SameButOrder (.ok ⟨config, omitted, us⟩) (.ok ⟨config, omitted, us'⟩)

/-- Files that differ at most in the order in which each uses its components. -/
structure Reordered (f g : Files) : Prop where
  isFile : ∀ p, g.isFile p = f.isFile p
  scan : ∀ p, SameButOrder (f.scan p) (g.scan p)

namespace SameButOrder

lemma refl (s : Except String Scan) : SameButOrder s s := by
  cases s with
  | error e => exact .error e
  | ok scan => exact .ok scan.config scan.omitted (List.Perm.refl _)

lemma symm {s s' : Except String Scan} (h : SameButOrder s s') : SameButOrder s' s := by
  cases h with
  | error e => exact .error e
  | ok config omitted h => exact .ok config omitted h.symm

end SameButOrder

/-- Putting another text with the same usages in another order into a file reorders the files. -/
lemma reordered_replace {file : Path} {text : String} (hfile : f.isFile file = true)
    (h : SameButOrder (f.scan file) (Extract.scanText text)) :
    Reordered f (f.replace file text) := by
  refine ⟨fun _ => rfl, fun p => ?_⟩
  by_cases hsame : file.same p = true
  · by_cases hp : f.finds p = true
    · have hscan : (f.replace file text).scan p = Extract.scanText text := by
        have hread : (f.replace file text).read p = .ok text := by
          simp [Files.replace, Files.readReplaced, hsame, hp]
        rw [Files.scan_eq, hread]
      rwa [hscan, ← Files.scan_congr hsame (Or.inl hfile) (Files.finds_iff.mp hp)]
    · have hread : (f.replace file text).read p = f.read p := by
        simp [Files.replace, Files.readReplaced, hp]
      rw [Files.scan_eq, Files.scan_eq, hread]
      exact .refl _
  · rw [Files.scan_replace_of_apart hsame]
    exact .refl _

namespace Reordered

lemma symm (h : Reordered f g) : Reordered g f :=
  ⟨fun p => (h.isFile p).symm, fun p => (h.scan p).symm⟩

/-- Specifiers stand for the same files. -/
lemma goalOf_eq (h : Reordered f g) : goalOf g l = goalOf f l := by
  have hisFile : g.isFile = f.isFile := funext h.isFile
  funext p specifier
  rw [goalOf, goalOf, Files.script_eq, Files.script_eq, hisFile]

/-- What one file uses on one side it uses on the other. -/
lemma uses (h : Reordered f g) {p q : Path} (huse : Uses f l p q) : Uses g l p q := by
  obtain ⟨scan, hscan, u, hu, hrel, hgoal⟩ := huse
  have hscans := h.scan p
  rw [hscan] at hscans
  generalize hg : g.scan p = s at hscans
  cases hscans with
  | ok config omitted hperm =>
    exact ⟨_, hg, u, hperm.mem_iff.mp hu, hrel, by rw [h.goalOf_eq, hgoal]⟩

/-- The usage graph is the same. -/
lemma uses_eq (h : Reordered f g) : Uses g l = Uses f l := by
  funext p q
  exact propext ⟨h.symm.uses, h.uses⟩

/-- Every file contributes the same. -/
lemma contributedBy_eq (h : Reordered f g) (p : Path) :
    contributedBy g l pageDir p = contributedBy f l pageDir p := by
  have hgoal : goalOf g l = goalOf f l := h.goalOf_eq
  have hscans := h.scan p
  unfold contributedBy
  generalize f.scan p = s at hscans ⊢
  generalize g.scan p = s' at hscans ⊢
  cases hscans with
  | error e => rfl
  | ok config omitted hperm => simp only [contributions, referenceOf, hgoal, Scan.declared?]

lemma contributes_iff (h : Reordered f g) {p : Path} {name reference : String} :
    Contributes g l pageDir p name reference ↔ Contributes f l pageDir p name reference := by
  rw [← mem_contributedBy, h.contributedBy_eq, mem_contributedBy]

/-- What component files contribute for a page is the same. -/
lemma collected_iff (h : Reordered f g) {name reference : String} :
    Collected g l page name reference ↔ Collected f l page name reference := by
  simp only [Collected, h.contributes_iff, Reaches, h.uses_eq]

/-- The components without a file are the same up to order. -/
lemma unmet_perm (h : Reordered f g) (p : Path) {us us' : List Usage} (hperm : us.Perm us') :
    (unmet g l p us').Perm (unmet f l p us) := by
  rw [unmet, unmet, h.goalOf_eq]
  exact hperm.symm.filterMap _

/-- What is found for a component file is the same up to order. -/
lemma ownFindings_perm (h : Reordered f g) (p : Path) :
    (ownFindings g l p).Perm (ownFindings f l p) := by
  have hgoal : goalOf g l = goalOf f l := h.goalOf_eq
  have hscans := h.scan p
  unfold ownFindings
  generalize f.scan p = s at hscans ⊢
  generalize g.scan p = s' at hscans ⊢
  cases hscans with
  | error e => exact List.Perm.refl _
  | ok config omitted hperm =>
    have hgaps : ∀ fields, gaps g l p fields = gaps f l p fields := by
      intro fields
      rw [gaps, gaps, hgoal]
    simp only [hgaps, Scan.declared?]
    exact (h.unmet_perm p hperm).append_left _

/-- What is found for a page itself is the same up to order. -/
lemma pageFindings_perm (h : Reordered f g) (p : Path) :
    (pageFindings g l p).Perm (pageFindings f l p) := by
  have hscans := h.scan p
  unfold pageFindings
  generalize f.scan p = s at hscans ⊢
  generalize g.scan p = s' at hscans ⊢
  cases hscans with
  | error e => exact List.Perm.refl _
  | ok config omitted hperm => exact (h.unmet_perm p hperm).append_left _

/-- The files that can be reached from a page are the same. -/
lemma eachOnce (h : Reordered f g) {files : List Path} (hfiles : EachOnce g l page files) :
    EachOnce f l page files := by
  refine ⟨hfiles.apart, ?_, ?_⟩
  · intro p hp
    have hreached := hfiles.reached p hp
    rwa [Reaches, h.uses_eq] at hreached
  · intro p hp
    apply hfiles.all p
    rwa [Reaches, h.uses_eq]

/-- The files that a page uses are the same. -/
lemma covers (h : Reordered f g) {known : List Path} (hknown : Covers f l page known) :
    Covers g l page known := by
  rwa [Covers, h.uses_eq]

end Reordered

/-! ### Files met in another order -/

/-- Lists of pairwise different files in which the same files stand, in whatever spelling and order,
give the same items up to order, if a file gives the same in all its spellings. -/
lemma flatMap_perm_of_apart {α : Type} {k : Path → List α} {ps qs : List Path}
    (hps : ps.Pairwise Apart) (hqs : qs.Pairwise Apart) (hsub : ∀ p ∈ ps, Path.Among qs p)
    (hsup : ∀ q ∈ qs, Path.Among ps q)
    (hk : ∀ p ∈ ps, ∀ q ∈ qs, q.same p = true → k p = k q) :
    (ps.flatMap k).Perm (qs.flatMap k) := by
  have hsymm : ∀ {p q : Path}, Apart p q → Apart q p := fun h hs => h (Path.same_symm hs)
  induction ps generalizing qs with
  | nil =>
    obtain rfl : qs = [] := by
      apply List.eq_nil_iff_forall_not_mem.mpr
      intro q hq
      obtain ⟨p, hp, -⟩ := hsup q hq
      cases hp
    exact List.Perm.refl _
  | cons p ps ih =>
    -- the file that stands for `p` is taken out of the other list, and the rest matches the rest
    obtain ⟨q, hq, hsame⟩ := hsub p List.mem_cons_self
    have hperm : qs.Perm (q :: qs.erase q) := List.perm_cons_erase hq
    obtain ⟨hp, hps⟩ := List.pairwise_cons.mp hps
    obtain ⟨hq', hrest⟩ := List.pairwise_cons.mp ((hperm.pairwise_iff hsymm).mp hqs)
    have hmatch : (ps.flatMap k).Perm ((qs.erase q).flatMap k) := by
      refine ih hps hrest ?_ ?_ ?_
      · intro r hr
        obtain ⟨s, hs, hsr⟩ := hsub r (List.mem_cons_of_mem p hr)
        rcases List.mem_cons.mp (hperm.subset hs) with rfl | hs
        · exact absurd (Path.same_trans (Path.same_symm hsame) hsr) (hp r hr)
        · exact ⟨s, hs, hsr⟩
      · intro r hr
        rcases Path.among_cons.mp (hsup r (List.erase_subset hr)) with hpr | hr'
        · exact absurd (Path.same_trans hsame hpr) (hq' r hr)
        · exact hr'
      · exact fun r hr s hs => hk r (List.mem_cons_of_mem p hr) s (List.erase_subset hs)
    have hhead : k p = k q := hk p List.mem_cons_self q hq hsame
    rw [List.flatMap_cons, hhead]
    refine (hmatch.append_left _).trans ?_
    rw [← List.flatMap_cons]
    exact (hperm.flatMap_right k).symm

/-- Two searches that meet all that can be reached from a page, each file once, give the same items
up to order, if a file gives the same in all its spellings. -/
lemma EachOnce.flatMap_perm {α : Type} {k : Path → List α} {ps qs : List Path}
    (hps : EachOnce f l page (page :: ps)) (hqs : EachOnce f l page (page :: qs))
    (hk : ∀ p ∈ ps, ∀ q ∈ qs, q.same p = true → k p = k q) :
    (ps.flatMap k).Perm (qs.flatMap k) := by
  have hamong : ∀ {rs ss : List Path}, EachOnce f l page (page :: rs) →
      EachOnce f l page (page :: ss) → ∀ r ∈ rs, Path.Among ss r := by
    intro rs ss hrs hss r hr
    have hreached := hrs.reached r (List.mem_cons_of_mem page hr)
    rcases Path.among_cons.mp (hss.all r hreached) with hpage | hr'
    · exact absurd hpage ((List.pairwise_cons.mp hrs.apart).1 r hr)
    · exact hr'
  exact flatMap_perm_of_apart (List.pairwise_cons.mp hps.apart).2
    (List.pairwise_cons.mp hqs.apart).2
    (hamong hps hqs) (hamong hqs hps) hk

/-- Every component file of a page is used by some file. -/
lemma EachOnce.uses {ps : List Path} (hps : EachOnce f l page (page :: ps)) {p : Path}
    (hp : p ∈ ps) : ∃ q, Uses f l q p := by
  have hreached := hps.reached p (List.mem_cons_of_mem page hp)
  rcases Relation.ReflTransGen.cases_tail hreached with rfl | ⟨q, -, hstep⟩
  · exact absurd (Path.same_refl p) ((List.pairwise_cons.mp hps.apart).1 p hp)
  · exact ⟨q, hstep⟩

/-! ### Findings in another order -/

/-- A finding about a file without the file that it is shown for. -/
def unplaced : Finding → Finding
  | .parseError _ e => .parseError "" e
  | .missingComponent _ name specifier => .missingComponent "" name specifier
  | .nonLiteral _ path kind => .nonLiteral "" path kind
  | x => x

/-- What a file declares and cannot be found does not depend on how its path is spelled, but for the
file that is shown. -/
lemma map_unplaced_gaps {p q : Path} (h : p.same q = true) (fields : Fields) :
    (gaps f l p fields).map unplaced = (gaps f l q fields).map unplaced := by
  rw [gaps, gaps, List.map_filterMap, List.map_filterMap]
  apply List.filterMap_congr
  intro d _
  cases d.2.string? with
  | none => simp
  | some s =>
    by_cases hrel : Path.isRelativeSpecifier s = true
    · cases hgoal : goalOf f l q s <;> simp [hrel, goalOf_congr h hrel, hgoal, unplaced]
    · simp [hrel]

/-- Nor does what a file uses and has no file. -/
lemma map_unplaced_unmet {p q : Path} (h : p.same q = true) (us : List Usage) :
    (unmet f l p us).map unplaced = (unmet f l q us).map unplaced := by
  rw [unmet, unmet, List.map_filterMap, List.map_filterMap]
  apply List.filterMap_congr
  intro u _
  by_cases hrel : Path.isRelativeSpecifier u.specifier = true
  · cases hgoal : goalOf f l q u.specifier <;>
      simp [hrel, goalOf_congr h hrel, hgoal, unplaced, missingAt]
  · simp [hrel]

/-- So what is found for a component file does not depend on how its path is spelled, but for the
file that is shown. -/
lemma map_unplaced_ownFindings {p q : Path} (h : p.same q = true) (hp : f.Found p)
    (hq : f.Found q) :
    (ownFindings f l p).map unplaced = (ownFindings f l q).map unplaced := by
  have hscan : f.scan p = f.scan q := Files.scan_congr h hp hq
  cases hs : f.scan q with
  | error e =>
    rw [hs] at hscan
    simp [ownFindings_of_error hscan, ownFindings_of_error hs, unplaced]
  | ok scan =>
    rw [hs] at hscan
    have homissions : (omissions l p scan.omitted).map unplaced
        = (omissions l q scan.omitted).map unplaced := by
      simp [omissions, unplaced]
    rw [ownFindings_of_ok hscan, ownFindings_of_ok hs, List.map_append, List.map_append,
      List.map_append, List.map_append, homissions, map_unplaced_gaps h, map_unplaced_unmet h]

/-! ### Contributions in another order -/

/-- What a file contributes does not depend on how its path is spelled. -/
lemma contributedBy_congr {p q : Path} (h : p.same q = true) (hp : f.Found p) (hq : f.Found q) :
    contributedBy f l pageDir p = contributedBy f l pageDir q := by
  have hreference : referenceOf f l pageDir p = referenceOf f l pageDir q := by
    funext v
    unfold referenceOf
    cases v.string? with
    | none => simp
    | some s =>
      by_cases hrel : Path.isRelativeSpecifier s = true
      · simp [hrel, goalOf_congr h hrel]
      · simp [hrel]
  unfold contributedBy contributions
  rw [Files.scan_congr h hp hq, hreference]

/-- What a name ends up with depends on what it had and on the entries for this name only. -/
lemma Using.get?_insertAll_filter {u v : Using} {key : String}
    (h : Fields.get? u.entries key = Fields.get? v.entries key) (es : List (String × String)) :
    Fields.get? (u.insertAll es).entries key
      = Fields.get? (v.insertAll (es.filter fun e => e.1 = key)).entries key := by
  induction es generalizing u v with
  | nil => exact h
  | cons e es ih =>
    obtain ⟨name, reference⟩ := e
    by_cases hname : name = key
    · rw [List.filter_cons_of_pos (by simpa using hname), insertAll_cons, insertAll_cons]
      apply ih
      rw [insert, insert, Fields.get?_insert, Fields.get?_insert, if_pos hname.symm,
        if_pos hname.symm]
    · rw [List.filter_cons_of_neg (by simpa using hname), insertAll_cons]
      apply ih
      rw [insert, Fields.get?_insert, if_neg fun hkey => hname hkey.symm, h]

/-- Of pairwise different files only one gives anything. -/
lemma flatMap_eq_of_sole {α : Type} {k : Path → List α} {ps : List Path} (hps : ps.Pairwise Apart)
    {p : Path} (hp : p ∈ ps) (hsole : ∀ q ∈ ps, k q ≠ [] → p.same q = true) :
    ps.flatMap k = k p := by
  induction ps with
  | nil => cases hp
  | cons r rs ih =>
    obtain ⟨hr, hrs⟩ := List.pairwise_cons.mp hps
    rw [List.flatMap_cons]
    rcases List.mem_cons.mp hp with rfl | hp
    · have hrest : rs.flatMap k = [] := by
        rw [List.flatMap_eq_nil_iff]
        intro q hq
        by_contra hne
        exact hr q hq (hsole q (List.mem_cons_of_mem p hq) hne)
      rw [hrest, List.append_nil]
    · have hnone : k r = [] := by
        by_contra hne
        exact hr p hp (Path.same_symm (hsole r List.mem_cons_self hne))
      rw [hnone, List.nil_append, ih hrs hp fun q hq => hsole q (List.mem_cons_of_mem r hq)]

/-- At most one component file of a page contributes a name. -/
def ContributedOnce (f : Files) (l : Lookup) (page : Path) (name : String) : Prop :=
  ∀ p q reference reference', Reaches f l page p → Apart page p →
    Contributes f l page.parent p name reference → Reaches f l page q → Apart page q →
      Contributes f l page.parent q name reference' → p.same q = true

/-- A name that one component file of a page contributes alone ends up as if nothing else were
contributed, whenever in the search that file is met. -/
lemma Walks.get?_of_contributedOnce {t : Trail} {scan : Scan} {before : List Finding}
    (hscan : f.scan page = .ok scan)
    (h : Walks f l page.parent (.usages page scan.usages) (startTrail l page scan before) t)
    {name : String} (honce : ContributedOnce f l page name) {p : Path} {reference : String}
    (hp : Reaches f l page p) (hapart : Apart page p)
    (hentry : Contributes f l page.parent p name reference) :
    Fields.get? t.inUse.entries name
      = Fields.get? ((Using.ofDeclared scan.declared?).insertAll
          ((contributedBy f l page.parent p).filter fun e => e.1 = name)).entries name := by
  obtain ⟨new, hvisited, hinUse⟩ := h.inUse_eq
  have hsound : t.Sound f l page := h.sound (fits_startTrail hscan before) (sound_startTrail ..)
  have hpage : f.Found page := Files.found_of_scan hscan
  have hmem : ∀ q, q ∈ new ↔ q ∈ t.visited := by simp [hvisited, startTrail]
  have hnew : new.Pairwise Apart := by
    have hreverse : t.visited = new.reverse := by simp [hvisited, startTrail]
    have hapart := hsound.visited_apart
    rw [hreverse, List.pairwise_reverse] at hapart
    exact hapart.imp fun hqr hsame => hqr (Path.same_symm hsame)
  obtain ⟨q, hq, hsame⟩ := (h.among_visited_iff hscan hp).mpr hapart
  have hfound : f.Found q := (hsound.visited_reached q hq).found hpage
  have hsole : ∀ r ∈ new, (contributedBy f l page.parent r).filter (fun e => e.1 = name) ≠ [] →
      q.same r = true := by
    intro r hr hne
    obtain ⟨e, hkept⟩ := List.exists_mem_of_ne_nil _ hne
    obtain ⟨he, hname⟩ := List.mem_filter.mp hkept
    obtain rfl : e.1 = name := by simpa using hname
    have hr' := (hmem r).mp hr
    exact Path.same_trans hsame (honce p r reference e.2 hp hapart hentry
      (hsound.visited_reached r hr') (hsound.visited_page r hr') (mem_contributedBy.mp he))
  have hstart : (startTrail l page scan before).inUse = Using.ofDeclared scan.declared? := rfl
  rw [hinUse, hstart, Using.get?_insertAll_filter rfl, List.filter_flatMap,
    flatMap_eq_of_sole hnew ((hmem q).mpr hq) hsole,
    contributedBy_congr hsame hfound (hp.found hpage)]

/-! ### Pages -/

/-- The components in use that a config has under their key: none, unless they are a mapping. -/
def inUseIn (config : Option Value) : Fields :=
  ((config.bind fun v => v.get? usingKey).bind Value.fields?).getD []

/-- The components in use of a mapping are those that its fields declare. -/
lemma inUseIn_object (fields : Fields) : inUseIn (some (.object fields)) = declaredIn fields := rfl

/-- The components in use of a page whose config is a mapping: their names, the value of a name that
no component file contributes, and that of a name that one file contributes alone. -/
lemma inUseIn_configAlone {scan : Scan} {fields : Fields} (hscan : f.scan page = .ok scan)
    (hconfig : scan.config = .object fields) {known : List Path} (hknown : Covers f l page known)
    {depth : Nat} (hdepth : known.length < depth) :
    (∀ name, name ∈ (inUseIn (configAlone f l depth page)).keys ↔
      name ∈ (declaredIn fields).keys ∨ ∃ reference, Collected f l page name reference) ∧
    (∀ name, (¬ ∃ reference, Collected f l page name reference) →
      Fields.get? (inUseIn (configAlone f l depth page)) name
        = Fields.get? (declaredIn fields) name) ∧
    ∀ name p reference, ContributedOnce f l page name → Reaches f l page p → Apart page p →
      Contributes f l page.parent p name reference →
      Fields.get? (inUseIn (configAlone f l depth page)) name
        = Fields.get? ((⟨declaredIn fields⟩ : Using).insertAll
            ((contributedBy f l page.parent p).filter fun e => e.1 = name)).entries name := by
  obtain ⟨t, hwalks, hjob⟩ := walks_page hscan hknown []
  obtain ⟨es, hinUse, hes⟩ := hwalks.exists_entries hscan
  have hstart : Using.ofDeclared scan.declared? = ⟨declaredIn fields⟩ := by
    simp [Using.ofDeclared, declaredIn, Scan.declared?, hconfig, Value.get?, Value.fields?,
      usingKey]
  have hin : inUseIn (configAlone f l depth page) = t.inUse.entries := by
    rw [configAlone, (hjob depth hdepth).1, hconfig, Using.into_object, inUseIn_object]
    apply declaredIn_written
    rw [hinUse, hstart]
    exact Using.keys_prefix_insertAll _ _
  rw [hin]
  refine ⟨?_, ?_, ?_⟩
  · intro name
    simp only [hinUse, hstart, Using.mem_keys_insertAll, hes]
  · intro name hnone
    rw [hinUse, hstart, Using.get?_insertAll_of_not_mem]
    exact fun reference hentry => hnone ⟨reference, (hes name reference).mp hentry⟩
  · intro name p reference honce hp hapart hentry
    rw [hwalks.get?_of_contributedOnce hscan honce hp hapart hentry, hstart]

/-- What is contributed once is contributed once with usages in another order. -/
lemma Reordered.contributedOnce (h : Reordered f g) {name : String}
    (honce : ContributedOnce f l page name) : ContributedOnce g l page name := by
  simpa only [ContributedOnce, h.contributes_iff, Reaches, h.uses_eq] using honce

/-- On files with usages in another order a page has the same components in use, and the same value
for each that is contributed at most once. -/
lemma Reordered.inUse (h : Reordered f g) {known : List Path} (hknown : Covers f l page known)
    {depth : Nat} (hdepth : known.length < depth) :
    (configAlone g l depth page).isSome = (configAlone f l depth page).isSome ∧
    (∀ name, name ∈ (inUseIn (configAlone g l depth page)).keys ↔
      name ∈ (inUseIn (configAlone f l depth page)).keys) ∧
    ∀ name, ContributedOnce f l page name →
      Fields.get? (inUseIn (configAlone g l depth page)) name
        = Fields.get? (inUseIn (configAlone f l depth page)) name := by
  have hknown' := h.covers hknown
  have hscans := h.scan page
  generalize hscan : f.scan page = s at hscans
  generalize hscan' : g.scan page = s' at hscans
  cases hscans with
  | error e => simp [configAlone, ask_page_of_error hscan, ask_page_of_error hscan']
  | ok config omitted hperm =>
    refine ⟨by simp [configAlone, ask_page_of_ok hscan, ask_page_of_ok hscan'], ?_⟩
    cases config with
    | object fields =>
      obtain ⟨hkeys, hnone, hsole⟩ := inUseIn_configAlone hscan rfl hknown hdepth
      obtain ⟨hkeys', hnone', hsole'⟩ := inUseIn_configAlone hscan' rfl hknown' hdepth
      refine ⟨?_, ?_⟩
      · intro name
        rw [hkeys, hkeys']
        simp only [h.collected_iff]
      · intro name honce
        by_cases hname : ∃ reference, Collected f l page name reference
        · obtain ⟨reference, p, hp, hapart, hentry⟩ := hname
          have hp' : Reaches g l page p := by rwa [Reaches, h.uses_eq]
          rw [hsole name p reference honce hp hapart hentry, hsole' name p reference
            (h.contributedOnce honce) hp' hapart (h.contributes_iff.mpr hentry), h.contributedBy_eq]
        · rw [hnone name hname, hnone' name (by simpa only [h.collected_iff] using hname)]
    | _ =>
      -- nothing is written into a config that is no mapping
      simp [configAlone, ask_page_of_ok hscan, ask_page_of_ok hscan', Using.into]

/-- What is found for a page on files with usages in another order, file by file. -/
lemma Reordered.exists_components (h : Reordered f g) {known : List Path}
    (hknown : Covers f l page known) {depth : Nat} (hdepth : known.length < depth) :
    ∃ components, EachOnce f l page (page :: components) ∧
      (remarks (findingsAlone g l depth page)).Perm
        (pageFindings f l page ++ components.flatMap (ownFindings f l)) := by
  obtain ⟨components, honce, hperm⟩ := findingsAlone_perm (h.covers hknown) hdepth
  refine ⟨components, h.eachOnce honce, hperm.trans ?_⟩
  exact (h.pageFindings_perm page).append
    (List.Perm.flatMap_left components fun p _ => h.ownFindings_perm p)

/-- **The order of usages does not decide what is found.**  Let the files that a page uses be known,
directly or through others, and compare them with files that differ only in the order in which each
uses its components.  At every depth above the number of the known files,

* the page has a config on both or on none, and the same components in use;
* a component that at most one file contributes has the same value;
* cycles apart, what is found is on both sides what is found for the page and for every other file
  that can be reached from it, each file once;
* so it is the same up to order, but for the spelling in which a file is shown;
* and if the platform has no slash in its name, the spelling is the same too. -/
theorem usage_order_immaterial (f g : Files) (l : Lookup) (page : Path) (known : List Path)
    (hknown : Covers f l page known) (depth : Nat) (hdepth : known.length < depth)
    (hreordered : Reordered f g) :
    (configAlone g l depth page).isSome = (configAlone f l depth page).isSome ∧
    (∀ name, name ∈ (inUseIn (configAlone g l depth page)).keys ↔
      name ∈ (inUseIn (configAlone f l depth page)).keys) ∧
    (∀ name, ContributedOnce f l page name →
      Fields.get? (inUseIn (configAlone g l depth page)) name
        = Fields.get? (inUseIn (configAlone f l depth page)) name) ∧
    (∃ components components', EachOnce f l page (page :: components) ∧
      EachOnce f l page (page :: components') ∧
      (remarks (findingsAlone f l depth page)).Perm
        (pageFindings f l page ++ components.flatMap (ownFindings f l)) ∧
      (remarks (findingsAlone g l depth page)).Perm
        (pageFindings f l page ++ components'.flatMap (ownFindings f l))) ∧
    ((remarks (findingsAlone g l depth page)).map unplaced).Perm
      ((remarks (findingsAlone f l depth page)).map unplaced) ∧
    ((∀ name ∈ l.platform, '/' ∉ name.toList) →
      (remarks (findingsAlone g l depth page)).Perm (remarks (findingsAlone f l depth page))) := by
  obtain ⟨hsome, hkeys, hvalues⟩ := hreordered.inUse hknown hdepth
  obtain ⟨components, honce, hperm⟩ := findingsAlone_perm hknown hdepth
  obtain ⟨components', honce', hperm'⟩ := hreordered.exists_components hknown hdepth
  refine ⟨hsome, hkeys, hvalues, ⟨components, components', honce, honce', hperm, hperm'⟩, ?_, ?_⟩
  · refine (hperm'.map unplaced).trans (List.Perm.trans ?_ (hperm.map unplaced).symm)
    rw [List.map_append, List.map_append, List.map_flatMap, List.map_flatMap]
    refine (honce'.flatMap_perm honce ?_).append_left _
    intro p hp q hq hsame
    obtain ⟨_, hp'⟩ := honce'.uses hp
    obtain ⟨_, hq'⟩ := honce.uses hq
    exact map_unplaced_ownFindings (Path.same_symm hsame) hp'.found hq'.found
  · intro hplatform
    refine hperm'.trans (List.Perm.trans ?_ hperm.symm)
    refine (honce'.flatMap_perm honce ?_).append_left _
    intro p hp q hq hsame
    obtain ⟨_, hp'⟩ := honce'.uses hp
    obtain ⟨_, hq'⟩ := honce.uses hq
    have heq : q = p := (hq'.tidy hplatform).eq_of_same (hp'.tidy hplatform) hsame
    rw [heq]

/-! ### A file with two spellings -/

/-- A page that uses two modules, and a broken file that is below a directory named like an ending
of the first. -/
def forked : Files :=
  .ofTexts [
    (⟨"/app/src/p.js"⟩, "import A from './a'\nimport B from './a.x/y'\n<A/>;<B/>"),
    (⟨"/app/src/a.x/y.js"⟩, "(")]

/-- The same files, where the page uses its components in the other order. -/
def forkedBack : Files :=
  forked.replace ⟨"/app/src/p.js"⟩ "import A from './a'\nimport B from './a.x/y'\n<B/>;<A/>"

lemma reordered_forked : Reordered forked forkedBack := by
  have hforth : forked.scan ⟨"/app/src/p.js"⟩
      = .ok ⟨.object [], [], [⟨"A", "./a"⟩, ⟨"B", "./a.x/y"⟩]⟩ :=
    scan_eq_of_usages (by decide +kernel)
  have hback : Extract.scanText "import A from './a'\nimport B from './a.x/y'\n<B/>;<A/>"
      = .ok ⟨.object [], [], [⟨"B", "./a.x/y"⟩, ⟨"A", "./a"⟩]⟩ :=
    scan_eq_of_usages (by decide +kernel)
  apply reordered_replace (by decide +kernel)
  rw [hforth, hback]
  exact .ok _ _ (List.Perm.swap _ _ _)

/-- Without a platform the first module has no file, and the page gets the same two findings in
whichever order it uses the modules. -/
theorem usage_order_immaterial_forked :
    findingsAlone forked ⟨none, ⟨"/app"⟩⟩ 3 ⟨"/app/src/p.js"⟩
        = [.missingComponent "src/p.js" "A" "./a",
          .parseError "src/a.x/y.js" "Expression expected (at 1:2)"] ∧
      (remarks (findingsAlone forkedBack ⟨none, ⟨"/app"⟩⟩ 3 ⟨"/app/src/p.js"⟩)).Perm
        (remarks (findingsAlone forked ⟨none, ⟨"/app"⟩⟩ 3 ⟨"/app/src/p.js"⟩)) := by
  have hfiles : ∀ p, forked.isFile p = true →
      Path.Among [⟨"/app/src/p.js"⟩, ⟨"/app/src/a.x/y.js"⟩] p :=
    fun p hp => Files.among_of_isFile_ofTexts hp
  obtain ⟨-, -, -, -, -, hperm⟩ := usage_order_immaterial forked forkedBack ⟨none, ⟨"/app"⟩⟩
    ⟨"/app/src/p.js"⟩ [⟨"/app/src/p.js"⟩, ⟨"/app/src/a.x/y.js"⟩] (covers_of_isFile hfiles) 3
    (by decide) reordered_forked
  exact ⟨by decide +kernel, hperm (by simp)⟩

/-- With a platform that has two slashes in its name, both modules stand for the broken file, and
which of its spellings is shown depends on which module the page uses first. -/
theorem usage_order_shows_spelling :
    Reordered forked forkedBack ∧
      remarks (findingsAlone forked ⟨some "x//y", ⟨"/app"⟩⟩ 3 ⟨"/app/src/p.js"⟩)
        = [.parseError "src/a.x//y.js" "Expression expected (at 1:2)"] ∧
      remarks (findingsAlone forkedBack ⟨some "x//y", ⟨"/app"⟩⟩ 3 ⟨"/app/src/p.js"⟩)
        = [.parseError "src/a.x/y.js" "Expression expected (at 1:2)"] ∧
      ¬ (remarks (findingsAlone forkedBack ⟨some "x//y", ⟨"/app"⟩⟩ 3 ⟨"/app/src/p.js"⟩)).Perm
        (remarks (findingsAlone forked ⟨some "x//y", ⟨"/app"⟩⟩ 3 ⟨"/app/src/p.js"⟩)) := by
  have hforth : remarks (findingsAlone forked ⟨some "x//y", ⟨"/app"⟩⟩ 3 ⟨"/app/src/p.js"⟩)
      = [.parseError "src/a.x//y.js" "Expression expected (at 1:2)"] := by decide +kernel
  have hback : remarks (findingsAlone forkedBack ⟨some "x//y", ⟨"/app"⟩⟩ 3 ⟨"/app/src/p.js"⟩)
      = [.parseError "src/a.x/y.js" "Expression expected (at 1:2)"] := by decide +kernel
  refine ⟨reordered_forked, hforth, hback, ?_⟩
  rw [hforth, hback]
  intro hperm
  have hshown := List.singleton_perm_singleton.mp hperm
  exact absurd hshown (by decide)

end Resolve

end PageConfig
