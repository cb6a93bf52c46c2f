import PageConfig.Proofs.Extract.Declarations
import PageConfig.Proofs.FirstMet

/-!
# The components that a module uses

A module uses a component where an element has its tag, and the tag is a plain
name that an import binds.  Both may stand anywhere: the element at whatever
depth, the import below the element.  `StandsFor` says which import decides if
there are several, in terms of the nodes of a module only: the last one that
binds the name as the default of its module, or else the last one that binds it
otherwise.  Imports of types bind no value, nor do names that are marked as
names of types.

`usages_exact` is the whole of it: a scan lists each such tag once, where it is
first met on the walk, and with the module that it stands for.
-/

namespace PageConfig.Extract

open PageConfig.Source
open PageConfig.Source.Items (Specifier importOf)

/-! ### Tags -/

/-- The plain tag of a node, if it is an element that has one. -/
def tag? : Node → Option String
  | .expr (.element (.plain name) _ _) => some name
  | _ => none

/-- The plain tags of a module, in the order of the walk and as often as they are met. -/
def tagsMet (m : Module) : List String := (nodesOf m).filterMap tag?

lemma tag?_eq_some_iff {n : Node} {name : String} :
    tag? n = some name ↔
      ∃ attributes children, n = .expr (.element (.plain name) attributes children) := by
  constructor
  · intro h
    fun_cases tag? n with
    | case1 name' attributes children =>
      obtain rfl : name' = name := Option.some.inj h
      exact ⟨attributes, children, rfl⟩
    | case2 n hne => simp_all [tag?]
  · rintro ⟨attributes, children, rfl⟩
    rfl

/-- The tag that a mark tells of. -/
def Mark.tag? : Mark → Option String
  | .tag name => some name
  | _ => none

/-- The marks of a node tell of its tag. -/
lemma filterMap_tag?_ownMarks (n : Node) : (ownMarks n).filterMap Mark.tag? = (tag? n).toList := by
  cases htag : tag? n with
  | some name =>
    obtain ⟨attributes, children, rfl⟩ := tag?_eq_some_iff.mp htag
    rfl
  | none =>
    rw [Option.toList_none, List.filterMap_eq_nil_iff]
    intro k hk
    cases mem_ownMarks_iff.mp hk with
    | tag => cases htag
    | _ => rfl

/-- The tags of a module are collected from its nodes. -/
lemma tagsOf_stmtsMarks (m : Module) : tagsOf (stmtsMarks m) = (tagsMet m).foldl addNew [] := by
  have hmarks : (stmtsMarks m).filterMap Mark.tag? = tagsMet m := by
    rw [stmtsMarks_eq, List.filterMap_flatMap]
    simp only [filterMap_tag?_ownMarks]
    rw [tagsMet, List.filterMap_eq_flatMap_toList]
  rw [← hmarks]
  rfl

/-! ### Imports -/

/-- A node imports a name as a value: neither the import nor the name is marked as one of types. -/
inductive ImportsValue (isDefault : Bool) (name : String) : Node → String → Prop where
  | mk {specifiers : List Specifier} {s : Specifier} {source : String} (hs : s ∈ specifiers)
    (hbinding : s.binding = ⟨isDefault, name⟩) (hvalue : s.typeOnly = false) :
    ImportsValue isDefault name (.stmt (importOf false specifiers source)) source

/-- The module that a name stands for where it is used as a tag. -/
inductive StandsFor (m : Module) (name : String) : String → Prop where
  | default {source : String} (h : IsLast (ImportsValue true name) (nodesOf m) source) :
    StandsFor m name source
  | other {source : String} (hnone : ∀ n ∈ nodesOf m, ∀ s, ¬ImportsValue true name n s)
    (h : IsLast (ImportsValue false name) (nodesOf m) source) : StandsFor m name source

section

variable {isDefault : Bool} {name source : String} {n : Node}

/-- Values are kept apart from types in the tree. -/
lemma importsValue_iff_exists :
    ImportsValue isDefault name n source ↔
      ∃ bindings types, n = .stmt (.imports bindings source types) ∧
        ⟨isDefault, name⟩ ∈ bindings := by
  constructor
  · rintro ⟨hs, hbinding, hvalue⟩
    refine ⟨_, _, rfl, List.mem_map.mpr ⟨_, List.mem_filter.mpr ⟨hs, ?_⟩, hbinding⟩⟩
    rw [hvalue]
    rfl
  · rintro ⟨bindings, types, rfl, hmem⟩
    -- the tree of an import does not say in which order values and types were written
    set specifiers := bindings.map (Specifier.mk · false) ++ types.map (Specifier.mk · true)
      with hspecifiers
    have himport : importOf false specifiers source = .imports bindings source types := by
      simp [importOf, hspecifiers, List.filter_map, Function.comp_def]
    rw [← himport]
    refine .mk (s := ⟨⟨isDefault, name⟩, false⟩) ?_ rfl rfl
    exact List.mem_append_left _ (List.mem_map.mpr ⟨_, hmem, rfl⟩)

/-- The modules that a node imports a name from. -/
def sources (isDefault : Bool) (name : String) (n : Node) : List String :=
  (ownMarks n).filterMap fun k => match k with
    | .binding d x source => if d = isDefault && x = name then some source else none
    | _ => none

lemma mem_sources_iff :
    source ∈ sources isDefault name n ↔ ImportsValue isDefault name n source := by
  rw [sources, List.mem_filterMap, importsValue_iff_exists]
  constructor
  · rintro ⟨k, hk, hsource⟩
    cases mem_ownMarks_iff.mp hk with
    | @binding bindings types b source' hb =>
      obtain ⟨⟨rfl, rfl⟩, rfl⟩ : (b.isDefault = isDefault ∧ b.name = name) ∧ source' = source := by
        simpa using hsource
      exact ⟨bindings, types, rfl, hb⟩
    | _ => cases hsource
  · rintro ⟨bindings, types, rfl, hmem⟩
    exact ⟨_, mem_ownMarks_iff.mpr (.binding hmem), by simp⟩

/-- All that a node imports comes from one module. -/
lemma ImportsValue.unique {other : String} (h : ImportsValue isDefault name n source)
    (h' : ImportsValue isDefault name n other) : source = other := by
  obtain ⟨bindings, types, rfl, -⟩ := importsValue_iff_exists.mp h
  obtain ⟨bindings', types', heq, -⟩ := importsValue_iff_exists.mp h'
  injection heq with heq
  injection heq

lemma importsValue_iff (isDefault : Bool) (name : String) (n : Node) (source : String) :
    ImportsValue isDefault name n source ↔
      (sources isDefault name n).getLast? = some source := by
  constructor
  · intro h
    have hmem : source ∈ sources isDefault name n := mem_sources_iff.mpr h
    cases hlast : (sources isDefault name n).getLast? with
    | none =>
      rw [List.getLast?_eq_none_iff.mp hlast] at hmem
      cases hmem
    | some other => rw [h.unique (mem_sources_iff.mp (List.mem_of_getLast? hlast))]
  · exact fun h => mem_sources_iff.mp (List.mem_of_getLast? h)

variable {m : Module}

lemma importedFrom_stmtsMarks (isDefault : Bool) (name : String) :
    importedFrom isDefault name (stmtsMarks m) =
      ((nodesOf m).flatMap (sources isDefault name)).getLast? := by
  rw [importedFrom, stmtsMarks_eq, List.filterMap_flatMap]
  rfl

lemma importedFrom_eq_some_iff :
    importedFrom isDefault name (stmtsMarks m) = some source ↔
      IsLast (ImportsValue isDefault name) (nodesOf m) source := by
  rw [importedFrom_stmtsMarks, isLast_iff_getLast? (importsValue_iff isDefault name)]

lemma importedFrom_eq_none_iff :
    importedFrom isDefault name (stmtsMarks m) = none ↔
      ∀ n ∈ nodesOf m, ∀ s, ¬ImportsValue isDefault name n s := by
  rw [importedFrom_stmtsMarks, absent_iff_getLast? (importsValue_iff isDefault name)]

/-- The marks of a module give the module that a name stands for. -/
lemma standsFor_of_sourceOf (h : sourceOf name (stmtsMarks m) = some source) :
    StandsFor m name source := by
  rw [sourceOf, Option.or_eq_some_iff] at h
  rcases h with hdefault | ⟨hnone, hother⟩
  · exact .default (importedFrom_eq_some_iff.mp hdefault)
  · exact .other (importedFrom_eq_none_iff.mp hnone) (importedFrom_eq_some_iff.mp hother)

/-- A name stands for a module as soon as some import binds it. -/
lemma isSome_sourceOf_iff :
    (sourceOf name (stmtsMarks m)).isSome = true ↔
      ∃ isDefault source, ∃ n ∈ nodesOf m, ImportsValue isDefault name n source := by
  constructor
  · intro h
    obtain ⟨source, hsource⟩ := Option.isSome_iff_exists.mp h
    cases standsFor_of_sourceOf hsource with
    | default hlast =>
      obtain ⟨before, n, after, hnodes, hn, -⟩ := hlast
      exact ⟨true, source, n, by simp [hnodes], hn⟩
    | other _ hlast =>
      obtain ⟨before, n, after, hnodes, hn, -⟩ := hlast
      exact ⟨false, source, n, by simp [hnodes], hn⟩
  · rintro ⟨isDefault, source, n, hn, himport⟩
    by_contra hnone
    have hsource : sourceOf name (stmtsMarks m) = none := by simpa using hnone
    rw [sourceOf, Option.or_eq_none_iff] at hsource
    cases isDefault with
    | true => exact importedFrom_eq_none_iff.mp hsource.1 n hn source himport
    | false => exact importedFrom_eq_none_iff.mp hsource.2 n hn source himport

end

/-! ### Usages -/

/-- Whether a tag is that of a component of the project. -/
def isUsage (marks : List Mark) (tag : String) : Bool :=
  !isBuiltin tag && (sourceOf tag marks).isSome

/-- The names of the usages are the tags of components, in the order of the tags. -/
lemma map_name_usagesOf (marks : List Mark) :
    (usagesOf marks).map Usage.name = (tagsOf marks).filter (isUsage marks) := by
  rw [usagesOf, List.map_filterMap, ← List.filterMap_eq_filter]
  refine List.filterMap_congr fun tag _ => ?_
  cases hbuiltin : isBuiltin tag with
  | true => simp [Option.guard, isUsage, hbuiltin]
  | false => cases hsource : sourceOf tag marks <;> simp [Option.guard, isUsage, hbuiltin, hsource]

lemma sourceOf_of_mem_usagesOf {marks : List Mark} {u : Usage} (h : u ∈ usagesOf marks) :
    sourceOf u.name marks = some u.specifier := by
  obtain ⟨tag, -, htag⟩ := List.mem_filterMap.mp h
  split at htag
  · cases htag
  · obtain ⟨source, hsource, rfl⟩ := Option.map_eq_some_iff.mp htag
    exact hsource

/-- **The components of a scan.**  The names of the components that a module uses are pairwise
distinct.  They are the plain tags of its elements, at whatever depth, that are not built in and
that some import binds as a value.  They come in the order in which the tags are first met on the
walk, and each with the module it stands for: that of the last import which binds the name as a
default, or else that of the last import which binds it otherwise. -/
theorem usages_exact (m : Module) :
    ((scan m).usages.map Usage.name).Nodup ∧
      (∀ name, name ∈ (scan m).usages.map Usage.name ↔
        (∃ attributes children,
          Node.expr (.element (.plain name) attributes children) ∈ nodesOf m) ∧
        name ∉ builtinTags ∧
        ∃ isDefault source, ∃ n ∈ nodesOf m, ImportsValue isDefault name n source) ∧
      ((scan m).usages.map Usage.name).Pairwise (MetBefore (tagsMet m)) ∧
      ∀ u ∈ (scan m).usages, StandsFor m u.name u.specifier := by
  obtain ⟨tags, hfold, hfirst⟩ := exists_firstMet_foldl [] (tagsMet m)
  have htags : tagsOf (stmtsMarks m) = tags := by
    rw [tagsOf_stmtsMarks, hfold, List.nil_append]
  have hnames : (scan m).usages.map Usage.name = tags.filter (isUsage (stmtsMarks m)) := by
    rw [← htags]
    exact map_name_usagesOf (stmtsMarks m)
  rw [hnames]
  refine ⟨hfirst.nodup.filter _, fun name => ?_, hfirst.ordered.filter _, fun u hu => ?_⟩
  · have hmet : name ∈ tags ↔ ∃ attributes children,
        Node.expr (.element (.plain name) attributes children) ∈ nodesOf m := by
      rw [hfirst.mem_iff, tagsMet, List.mem_filterMap]
      constructor
      · rintro ⟨⟨n, hn, htag⟩, -⟩
        obtain ⟨attributes, children, rfl⟩ := tag?_eq_some_iff.mp htag
        exact ⟨attributes, children, hn⟩
      · rintro ⟨attributes, children, hn⟩
        exact ⟨⟨_, hn, rfl⟩, List.not_mem_nil⟩
    have husage : isUsage (stmtsMarks m) name = true ↔ name ∉ builtinTags ∧
        ∃ isDefault source, ∃ n ∈ nodesOf m, ImportsValue isDefault name n source := by
      rw [isUsage, Bool.and_eq_true, isSome_sourceOf_iff, isBuiltin, Bool.not_eq_true',
        ← Bool.not_eq_true, List.contains_iff_mem]
    rw [List.mem_filter, hmet, husage]
  · exact standsFor_of_sourceOf (sourceOf_of_mem_usagesOf hu)

end PageConfig.Extract
