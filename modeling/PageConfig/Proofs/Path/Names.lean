import PageConfig.Path.Reference
import PageConfig.Proofs.Path.Spelling

/-!
# File names

A name is what one segment of a path can stand for: it has no slash, and it is
neither empty nor made of one or two dots.  A path that a name is joined to
has that name as its file name, however the path is spelled.  The file beside a
source that takes its config is such a path, so its file name is known: it ends
as a config file does.
-/

namespace PageConfig.Path

/-! ### Names -/

/-- Text that a segment of a path can stand for. -/
structure IsName (s : String) : Prop where
  not_slash : '/' ∉ s.toList
  segment : segment? s.toList = some (.name s)

/-- A segment of three or more characters stands for a name. -/
lemma segment?_of_length {w : List Char} (h : 3 ≤ w.length) :
    segment? w = some (.name (String.ofList w)) := by
  unfold segment?
  split
  · simp at h
  · simp at h
  · simp at h
  · rfl

/-- Text of three or more characters without a slash is a name. -/
lemma isName_of_length {s : String} (hslash : '/' ∉ s.toList) (h : 3 ≤ s.toList.length) :
    IsName s := by
  refine ⟨hslash, ?_⟩
  rw [segment?_of_length h, String.ofList_toList]

/-- A segment that stands for a name is that name. -/
lemma toList_of_segment? {w : List Char} {s : String} (h : segment? w = some (.name s)) :
    s.toList = w := by
  unfold segment? at h
  split at h
  · cases h
  · cases h
  · cases h
  · cases h
    exact String.toList_ofList

/-- A segment without a slash that stands for a name stands for one. -/
lemma isName_of_segment? {w : List Char} {s : String} (hw : '/' ∉ w)
    (h : segment? w = some (.name s)) : IsName s := by
  have hs : s.toList = w := toList_of_segment? h
  exact ⟨by rwa [hs], by rwa [hs]⟩

/-- A name is not empty. -/
lemma IsName.ne_nil {s : String} (h : IsName s) : s.toList ≠ [] := by
  intro hnil
  have hseg := h.segment
  rw [hnil] at hseg
  cases hseg

/-- No slash opens a name. -/
lemma IsName.head? {s : String} (h : IsName s) : s.toList.head? ≠ some '/' := by
  intro hhead
  exact h.not_slash (List.mem_of_mem_head? hhead)

/-- A name on its own is one step. -/
lemma IsName.steps {s : String} (h : IsName s) : (⟨s⟩ : Path).steps = [.name s] := by
  rw [steps_eq, stepsOf_of_head? h.head?, cut_eq_singleton h.not_slash]
  simp [h.segment]

/-! ### File names -/

/-- Only the first component of a path can be an opening dot. -/
lemma here_not_mem_tail_components (p : Path) : ∀ c ∈ p.components.tail, c ≠ .here := by
  have hsegments : ∀ ws : List (List Char), ∀ c ∈ ws.filterMap segment?, c ≠ .here := by
    rintro ws c hc rfl
    obtain ⟨w, -, hw⟩ := List.mem_filterMap.mp hc
    exact segment?_ne_here w hw
  intro c hc
  unfold components Layout.components at hc
  split at hc
  · exact hsegments _ c hc
  · exact hsegments _ c (List.mem_of_mem_tail hc)

/-- The last step of a path is its last component. -/
lemma getLast?_components {p : Path} {c : Component} (h : p.steps.getLast? = some c) :
    p.components.getLast? = some c := by
  have htail := here_not_mem_tail_components p
  rw [steps] at h
  cases hcs : p.components with
  | nil => simp [hcs] at h
  | cons d cs =>
    rw [hcs] at h htail
    have hcs' : cs.filter (· ≠ .here) = cs := by
      rw [List.filter_eq_self]
      intro e he
      simpa using htail e he
    by_cases hd : d = .here
    · rw [List.filter_cons_of_neg (by simp [hd]), hcs'] at h
      rw [List.getLast?_cons, h, Option.getD_some]
    · rwa [List.filter_cons_of_pos (by simp [hd]), hcs'] at h

/-- The file name of a path is its last step, if that is a name. -/
lemma fileName?_of_steps {p : Path} {s : String} (h : p.steps.getLast? = some (.name s)) :
    p.fileName? = some s := by
  rw [fileName?, getLast?_components h]

/-- A path that a name is joined to has that file name. -/
lemma fileName?_join (p : Path) {s : String} (h : IsName s) : (p.join ⟨s⟩).fileName? = some s := by
  apply fileName?_of_steps
  rw [steps_join h.head?, h.steps, List.getLast?_concat]

/-- A file name has no slash. -/
lemma not_slash_mem_of_fileName? {p : Path} {s : String} (h : p.fileName? = some s) :
    '/' ∉ s.toList := by
  have hlast : p.components.getLast? = some (.name s) := by
    unfold fileName? at h
    split at h
    · rename_i n hn
      cases h
      exact hn
    · cases h
  have hmem : Component.name s ∈ p.steps := by
    rw [steps, List.mem_filter]
    exact ⟨List.mem_of_getLast? hlast, by simp⟩
  rw [steps, components, Layout.filter_components, Layout.steps] at hmem
  rcases List.mem_append.mp hmem with hmem | hmem
  · split at hmem
    · simp at hmem
    · cases hmem
  · obtain ⟨w, hw, hseg⟩ := List.mem_filterMap.mp hmem
    rw [toList_of_segment? hseg]
    exact not_slash_mem_of_mem_segments hw

/-! ### Specifiers -/

/-- A relative specifier starts with a dot. -/
lemma head?_of_isRelativeSpecifier {s : String} (h : isRelativeSpecifier s = true) :
    s.toList.head? = some '.' := by
  simp only [isRelativeSpecifier, Bool.or_eq_true, beq_iff_eq,
    String.startsWith_string_iff] at h
  rcases h with ((rfl | rfl) | ⟨rest, hrest⟩) | ⟨rest, hrest⟩
  · rfl
  · rfl
  · rw [← hrest]
    rfl
  · rw [← hrest]
    rfl

/-! ### Config files -/

/-- A file name that ends as that of a config file. -/
def IsConfigName (s : String) : Prop :=
  ".config.js".toList <:+ s.toList ∨ ".config.ts".toList <:+ s.toList

instance : DecidablePred IsConfigName := fun s =>
  inferInstanceAs (Decidable (".config.js".toList <:+ s.toList ∨ ".config.ts".toList <:+ s.toList))

/-- A path with the file name of a config file. -/
def HasConfigName (p : Path) : Prop := ∃ s, p.fileName? = some s ∧ IsConfigName s

/-- The stem of a file name is its first part. -/
lemma splitName_fst_prefix_self (name : List Char) : (splitName name).1 <+: name := by
  simp only [splitName]
  split
  · exact List.prefix_rfl
  · exact List.take_prefix _ _

/-- A file name with an extension is its stem, a dot and the extension, which has no dot. -/
lemma splitName_eq_some {name stem ext : List Char} (h : splitName name = (stem, some ext)) :
    stem ≠ [] ∧ name = stem ++ '.' :: ext ∧ '.' ∉ ext := by
  set last := name.reverse.takeWhile (· ≠ '.') with hlast
  have hsplit : last ++ name.reverse.dropWhile (· ≠ '.') = name.reverse :=
    List.takeWhile_append_dropWhile
  simp only [splitName, ← hlast] at h
  split at h
  · cases (Prod.mk.inj h).2
  · rename_i hstem
    obtain ⟨rfl, hext⟩ := Prod.mk.inj h
    obtain rfl := Option.some.inj hext
    have hne : name.take (name.length - last.reverse.length - 1) ≠ [] := by simpa using hstem
    refine ⟨hne, ?_, ?_⟩
    · cases hrest : name.reverse.dropWhile (· ≠ '.') with
      | nil =>
        rw [hrest, List.append_nil] at hsplit
        simp [hsplit] at hne
      | cons c rest =>
        obtain rfl : c = '.' := by
          have hhead := List.head?_dropWhile_not (· ≠ '.') name.reverse
          rw [hrest] at hhead
          simpa using hhead
        have hname : name = rest.reverse ++ '.' :: last.reverse := by
          rw [← List.reverse_reverse name, ← hsplit, hrest]
          simp
        have hlength : name.length - last.reverse.length - 1 = rest.reverse.length := by
          rw [hname]
          simp only [List.length_append, List.length_cons]
          omega
        rw [hlength]
        nth_rewrite 2 [hname]
        rw [List.take_left, ← hname]
    · intro hdot
      have hall : last.all (· ≠ '.') = true := List.all_takeWhile
      simpa using List.all_eq_true.mp hall '.' (List.mem_reverse.mp hdot)

/-- The stem of a file name has no slash. -/
lemma not_slash_mem_fileStem (p : Path) : '/' ∉ (p.fileStem?.getD "").toList := by
  rw [fileStem?]
  cases hname : p.fileName? with
  | none => simp
  | some s =>
    have hs := not_slash_mem_of_fileName? hname
    simp only [Option.map_some, Option.getD_some, String.toList_ofList]
    exact fun hmem => hs ((splitName_fst_prefix_self s.toList).subset hmem)

/-- The file that takes the config of a source has the file name of a config file. -/
lemma hasConfigName_artifact (source : Path) : source.artifact.HasConfigName := by
  set stem := source.fileStem?.getD "" with hstem
  have hname : ∀ ext : String, '/' ∉ ext.toList → IsName (stem ++ ".config." ++ ext) := by
    intro ext hext
    have hlength : (".config." : String).toList.length = 8 := by decide
    apply isName_of_length
    · simp only [String.toList_append, List.mem_append, not_or]
      exact ⟨⟨not_slash_mem_fileStem source, by decide⟩, hext⟩
    · simp only [String.toList_append, List.length_append]
      omega
  have hts : (source.withFileName (stem ++ ".config." ++ "ts")).HasConfigName :=
    ⟨_, fileName?_join _ (hname "ts" (by decide)), Or.inr ⟨stem.toList, by simp⟩⟩
  have hjs : (source.withFileName (stem ++ ".config." ++ "js")).HasConfigName :=
    ⟨_, fileName?_join _ (hname "js" (by decide)), Or.inl ⟨stem.toList, by simp⟩⟩
  unfold artifact
  split
  · exact hts
  · exact hts
  · exact hjs

end PageConfig.Path
