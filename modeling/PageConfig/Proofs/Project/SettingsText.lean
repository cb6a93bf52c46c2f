import PageConfig.Project.Settings.Reader
import PageConfig.Proofs.Json.Printing
import PageConfig.Proofs.Json.Skipping

/-!
# Settings as text

Settings are written as an object, and read back as what was written.  The
object need not be the printed one: its fields may come in any order, a field may
be left out where it has its default, fields that are not known may stand between
them, with any JSON value, and each string may be written in any way that JSON
allows (`Describes`).

Fields are read one after another.  At any time the settings read so far are
those that are meant, as far as their fields were met, and the default in all
others (`blend`).
-/

namespace PageConfig.Project.Settings

open PageConfig.Json
open PageConfig.Json.Reader

variable {s : Settings} {f : Field} {text rest : List Char}

/-! ### Objects that describe settings -/

/-- The fields that settings are written with. -/
def fields (s : Settings) : Fields := s.value.fields?.getD []

/-- A field of an object: its name, and how it is laid out. -/
structure Entry where
  name : String
  layout : Member

/-- The field of the settings that an entry is for, if it is known. -/
def Entry.field? (e : Entry) : Option Field := Field.ofKey? e.name

/-- An entry that can stand in an object for settings. -/
structure Entry.Gives (e : Entry) (s : Settings) : Prop where
  padded : e.layout.Padded
  key : Quoted true e.layout.key.inner e.name.toList
  /-- A field that is known has the value that the settings are written with. -/
  known : ∀ f, e.field? = some f → ∃ v, (f.key, v) ∈ s.fields ∧ Writes v e.layout.value.inner
  /-- Any other field has any value. -/
  unknown : e.field? = none → IsValue e.layout.value.inner

/-- Entries that make up an object for settings. -/
structure Lists (entries : List Entry) (s : Settings) : Prop where
  gives : ∀ e ∈ entries, e.Gives s
  /-- No field that is known is there twice. -/
  once : (entries.filterMap Entry.field?).Nodup
  /-- A field that is not there has its default. -/
  others : ∀ f ∉ entries.filterMap Entry.field?, ∀ v, (f.key, v) ∈ s.fields →
    (f.key, v) ∈ default.fields

/-- A text that is an object for settings. -/
def Describes (text : String) (s : Settings) : Prop :=
  ∃ (entries : List Entry) (before blank after : List Char), Lists entries s ∧
    Blanks before ∧ Blanks blank ∧ Blanks after ∧
    text.toList = before ++
      (enclosed '\x7b' (entries.map fun e => e.layout.text) blank '\x7d' ++ after)

/-! ### Values -/

/-- A string is read. -/
lemma readString_quoted {x : String} (h : Quoted true text x.toList) {before : List Char}
    (hbefore : Blanks before) (rest : List Char) :
    readString (before ++ (text ++ rest)) = .ok (x, rest) := by
  obtain ⟨inner, hinner, hbody⟩ := stringBody_quoted h rest
  rw [hinner, readString, bind_ok (peekToken_blanks hbefore rfl inner)]
  simp only []
  rw [bind_ok (skip_run _ _), hbody]

/-- What writes a string is the string in quotes. -/
lemma quoted_of_writes {x : String} (h : Writes (.string x) text) : Quoted true text x.toList := by
  cases h with
  | string hquoted => exact hquoted

/-- Items that are written as strings, with these strings. -/
lemma exists_items_of_strings {xs : List String} {items : List (Item × Value)}
    (h : xs.map Value.string = items.map Prod.snd) :
    ∃ ys : List (Item × String), items = ys.map (fun y => (y.1, .string y.2)) ∧
      ys.map Prod.snd = xs := by
  induction xs generalizing items with
  | nil => exact ⟨[], by simpa using h.symm, rfl⟩
  | cons x xs ih =>
    cases items with
    | nil => simp at h
    | cons i items =>
      rw [List.map_cons, List.map_cons, List.cons.injEq] at h
      obtain ⟨ys, rfl, rfl⟩ := ih h.2
      exact ⟨(i.1, x) :: ys, by rw [List.map_cons, h.1], rfl⟩

/-- A list of strings is read. -/
lemma readStrings_writes {xs : List String} (h : Writes (.array (xs.map .string)) text)
    {before : List Char} (hbefore : Blanks before) (rest : List Char) :
    readStrings (before ++ (text ++ rest)) = .ok (xs, rest) := by
  generalize hv : Value.array (xs.map .string) = v at h
  cases h with
  | string => cases hv
  | @array items blank hblank hpadded hitems =>
    obtain ⟨ys, rfl, rfl⟩ := exists_items_of_strings (Value.array.inj hv)
    have hys : ∀ y ∈ ys, y.1.Padded := fun y hy => hpadded _ (List.mem_map_of_mem hy)
    have hquoted : ∀ y ∈ ys, Quoted true y.1.inner y.2.toList := fun y hy =>
      quoted_of_writes (hitems _ (List.mem_map_of_mem hy))
    have hstart : ∀ y ∈ ys, ∃ c cs, y.1.inner = c :: cs ∧ isBlank c = false ∧ c ≠ ']' := by
      intro y hy
      obtain ⟨body, -, hbody⟩ := hquoted y hy
      exact ⟨'"', _, hbody, rfl, by decide⟩
    have hread : ∀ y ∈ ys, ∀ after, readString (y.1.inner ++ after) = .ok (y.2, after) := by
      intro y hy after
      exact readString_quoted (hquoted y hy) (List.forall_mem_nil _) after
    have htexts : (ys.map fun y => (y.1, Value.string y.2)).map (fun i => i.1.text)
        = ys.map fun y => y.1.text := by
      simp
    have hlength : ys.length
        < (separated (ys.map fun y => y.1.text) ++ (blank ++ ']' :: rest)).length + 1 := by
      have hle := length_le_separated (ys.map fun y => y.1.text)
      rw [List.length_map] at hle
      simp only [List.length_append, List.length_cons]
      omega
    rw [htexts, enclosed_append, readStrings, bind_ok (peekToken_blanks hbefore rfl _)]
    simp only []
    rw [bind_ok (skip_run _ _), bind_ok (remaining_run _),
      bind_ok (items_true hys hstart hread hblank hlength rest), bind_ok (endList_run rest)]
    rfl

/-- A string or null is read as the string. -/
lemma readOptional_quoted {x : String} (h : Quoted true text x.toList) {before : List Char}
    (hbefore : Blanks before) (rest : List Char) :
    readOptional (before ++ (text ++ rest)) = .ok (some x, rest) := by
  have hread : readString (text ++ rest) = .ok (x, rest) :=
    readString_quoted h (List.forall_mem_nil _) rest
  have hquote : some '"' ≠ some 'n' := by decide
  obtain ⟨body, -, rfl⟩ := h
  rw [List.cons_append] at hread ⊢
  rw [readOptional, bind_ok (peekToken_blanks hbefore rfl _)]
  simp only []
  rw [bind_ok hread]
  rfl

/-! ### Fields -/

/-- The value that a field is written with, if it is written. -/
def value? (s : Settings) : Field → Option Value
  | .sourceRoot => some (.string s.sourceRoot)
  | .entry => some (.string s.entry)
  | .projectConfig => some (.string s.projectConfig)
  | .ignores => some (.array (s.ignores.map .string))
  | .platform => s.platform.map .string
  | .framework => some (.string s.framework)

/-- The values that settings are written with. -/
lemma mem_fields_iff {v : Value} : (f.key, v) ∈ s.fields ↔ s.value? f = some v := by
  cases f <;> simp [fields, value, Value.fields?, Field.key, value?, eq_comm]

/-- The settings with the given fields, and the defaults in all others. -/
def blend (s : Settings) (seen : List Field) : Settings where
  sourceRoot := if .sourceRoot ∈ seen then s.sourceRoot else default.sourceRoot
  entry := if .entry ∈ seen then s.entry else default.entry
  projectConfig := if .projectConfig ∈ seen then s.projectConfig else default.projectConfig
  ignores := if .ignores ∈ seen then s.ignores else default.ignores
  platform := if .platform ∈ seen then s.platform else default.platform
  framework := if .framework ∈ seen then s.framework else default.framework

/-- Without any field, these are the defaults. -/
lemma blend_nil (s : Settings) : s.blend [] = default := by
  simp [blend]

/-- The settings themselves, if all other fields have their defaults. -/
lemma blend_eq_self {seen : List Field}
    (h : ∀ f ∉ seen, ∀ v, (f.key, v) ∈ s.fields → (f.key, v) ∈ default.fields) :
    s.blend seen = s := by
  have hvalue : ∀ f ∉ seen, ∀ v, s.value? f = some v → default.value? f = some v := by
    intro f hf v hv
    exact mem_fields_iff.mp (h f hf v (mem_fields_iff.mpr hv))
  have hstring : ∀ f ∉ seen, ∀ x y : String, s.value? f = some (.string x) →
      default.value? f = some (.string y) → y = x := by
    intro f hf x y hx hy
    have heq := (hvalue f hf _ hx).symm.trans hy
    simpa using heq.symm
  have hignores : .ignores ∉ seen → default.ignores = s.ignores := by
    intro hf
    have heq := hvalue .ignores hf _ rfl
    simpa [value?, default, eq_comm] using heq
  have hplatform : .platform ∉ seen → default.platform = s.platform := by
    intro hf
    cases hp : s.platform with
    | none => rfl
    | some p =>
      have heq := hvalue .platform hf (.string p) (by simp [value?, hp])
      simp [value?, default] at heq
  obtain ⟨sourceRoot, entry, projectConfig, ignores, platform, framework⟩ := s
  simp only [blend, mk.injEq, ite_eq_left_iff]
  exact ⟨fun hf => hstring .sourceRoot hf _ _ rfl rfl, fun hf => hstring .entry hf _ _ rfl rfl,
    fun hf => hstring .projectConfig hf _ _ rfl rfl, hignores, hplatform,
    fun hf => hstring .framework hf _ _ rfl rfl⟩

/-- The settings `t` with one field as it is in others. -/
def take (t s : Settings) : Field → Settings
  | .sourceRoot => { t with sourceRoot := s.sourceRoot }
  | .entry => { t with entry := s.entry }
  | .projectConfig => { t with projectConfig := s.projectConfig }
  | .ignores => { t with ignores := s.ignores }
  | .platform => { t with platform := s.platform }
  | .framework => { t with framework := s.framework }

/-- One more field is taken over. -/
lemma blend_cons (s : Settings) (f : Field) (seen : List Field) :
    s.blend (f :: seen) = (s.blend seen).take s f := by
  cases f <;> simp [blend, take]

/-- The value of a field is read into settings. -/
lemma readField_writes {v : Value} (hv : (f.key, v) ∈ s.fields) (h : Writes v text)
    {before : List Char} (hbefore : Blanks before) (t : Settings) (rest : List Char) :
    t.readField f (before ++ (text ++ rest)) = .ok (t.take s f, rest) := by
  have hstring : ∀ x : String, some (Value.string x) = some v →
      readString (before ++ (text ++ rest)) = .ok (x, rest) := by
    rintro x ⟨⟩
    exact readString_quoted (quoted_of_writes h) hbefore rest
  have hvalue := mem_fields_iff.mp hv
  cases f with
  | sourceRoot =>
    rw [readField, bind_ok (hstring _ hvalue)]
    rfl
  | entry =>
    rw [readField, bind_ok (hstring _ hvalue)]
    rfl
  | projectConfig =>
    rw [readField, bind_ok (hstring _ hvalue)]
    rfl
  | ignores =>
    obtain rfl := Option.some.inj hvalue
    rw [readField, bind_ok (readStrings_writes h hbefore rest)]
    rfl
  | platform =>
    obtain ⟨p, hp, rfl⟩ := Option.map_eq_some_iff.mp hvalue
    rw [readField, bind_ok (readOptional_quoted (quoted_of_writes h) hbefore rest), take, hp]
    rfl
  | framework =>
    rw [readField, bind_ok (hstring _ hvalue)]
    rfl

/-! ### Objects -/

/-- The text of an entry, from the quote of its key on. -/
def Entry.opened (e : Entry) (rest : List Char) : List Char :=
  e.layout.key.inner ++ (e.layout.key.after ++ ':' :: (e.layout.value.text ++ rest))

/-- An entry is its blanks and the text from the quote of its key on. -/
lemma Entry.text_append (e : Entry) (rest : List Char) :
    e.layout.text ++ rest = e.layout.key.before ++ e.opened rest := by
  simp [Member.text, Item.text, Entry.opened]

/-- The text of an entry from there on starts with a quote. -/
lemma Entry.Gives.exists_opened {e : Entry} (h : e.Gives s) (rest : List Char) :
    ∃ inner, e.opened rest = '"' :: inner := by
  obtain ⟨body, -, hbody⟩ := h.key
  exact ⟨_, by rw [Entry.opened, hbody, List.cons_append]⟩

/-- One field of an object is read: if it is known, into the settings; else it is passed over. -/
lemma readFields_entry {e : Entry} (h : e.Gives s) {seen : List Field}
    (hseen : ∀ f, e.field? = some f → f ∉ seen) {first : Bool} (hrest : Ends rest)
    (hmore : moreFields first text = .ok (true, e.opened rest)) (fuel : Nat) :
    readFields (fuel + 1) first seen (s.blend seen) text
      = readFields fuel false (e.field?.toList ++ seen) (s.blend (e.field?.toList ++ seen))
          (e.layout.value.after ++ rest) := by
  obtain ⟨inner, hinner, hbody⟩ := stringBody_quoted h.key _
  rw [Entry.opened, hinner] at hmore
  have hcolon := colon_append h.padded.key.after (e.layout.value.text ++ rest)
  rw [readFields, bind_ok hmore]
  simp only [if_true]
  rw [bind_ok (skip_run _ _), bind_ok hbody]
  cases hf : e.field? with
  | some f =>
    have hkey : Field.ofKey? e.name = some f := hf
    have hnew : seen.contains f = false := by simpa using hseen f hf
    obtain ⟨v, hv, hwrites⟩ := h.known f hf
    have hread := readField_writes hv hwrites h.padded.value.before (s.blend seen)
      (e.layout.value.after ++ rest)
    simp only [hkey, hnew, Bool.false_eq_true, if_false]
    rw [bind_ok hcolon, Item.text, List.append_assoc, List.append_assoc, bind_ok hread,
      ← blend_cons]
    rfl
  | none =>
    have hkey : Field.ofKey? e.name = none := hf
    have hvalue := h.unknown hf
    have hlength : e.layout.value.inner.length
        ≤ 2 * (e.layout.value.text ++ rest).length + 2 := by
      simp only [Item.text, List.length_append]
      omega
    have hitem : SkipsItem e.layout.value := ⟨h.padded.value, hvalue, skips_of_isValue hvalue⟩
    have hskip := hitem.skipValue hlength hrest
    simp only [hkey]
    rw [bind_ok hcolon, bind_ok (remaining_run _), bind_ok hskip]
    rfl

/-- More entries, or the end of the object, can follow a value. -/
lemma ends_entries (entries : List Entry) {blank : List Char} (hblank : Blanks blank)
    (rest : List Char) :
    Ends ((entries.map fun e => e.layout.text).flatMap (',' :: ·) ++ (blank ++ '\x7d' :: rest)) := by
  cases entries with
  | nil => exact (ends_cons (by decide) rest).append hblank
  | cons e entries => exact ends_cons (by decide) _

/-- The fields of an object are read one after another.  Blanks may come first: those behind a field
that was read before. -/
lemma readFields_false {entries : List Entry} (h : ∀ e ∈ entries, e.Gives s)
    (hnodup : (entries.filterMap Entry.field?).Nodup) {seen : List Field}
    (hseen : ∀ f ∈ entries.filterMap Entry.field?, f ∉ seen) {before blank : List Char}
    (hbefore : Blanks before) (hblank : Blanks blank) {fuel : Nat} (hfuel : entries.length < fuel)
    (rest : List Char) :
    readFields fuel false seen (s.blend seen) (before
        ++ ((entries.map fun e => e.layout.text).flatMap (',' :: ·) ++ (blank ++ '\x7d' :: rest)))
      = .ok (s.blend ((entries.filterMap Entry.field?).reverse ++ seen), '\x7d' :: rest) := by
  induction entries generalizing fuel before seen with
  | nil =>
    obtain ⟨n, rfl⟩ : ∃ n, fuel = n + 1 := ⟨fuel - 1, by omega⟩
    rw [List.map_nil, List.flatMap_nil, List.nil_append, ← List.append_assoc, readFields,
      bind_ok (moreFields_end false (hbefore.append hblank) rest)]
    rfl
  | cons e entries ih =>
    obtain ⟨n, rfl⟩ : ∃ n, fuel = n + 1 := ⟨fuel - 1, by omega⟩
    have he := h e List.mem_cons_self
    set tail := (entries.map fun e => e.layout.text).flatMap (',' :: ·) ++ (blank ++ '\x7d' :: rest)
      with htail
    have htext : before ++ (((e :: entries).map fun e => e.layout.text).flatMap (',' :: ·)
        ++ (blank ++ '\x7d' :: rest)) = before ++ ',' :: (e.layout.key.before ++ e.opened tail) := by
      rw [← e.text_append]
      simp [htail]
    have hmore : moreFields false (before ++ ',' :: (e.layout.key.before ++ e.opened tail))
        = .ok (true, e.opened tail) := by
      obtain ⟨inner, hinner⟩ := he.exists_opened tail
      rw [hinner, moreFields_comma hbefore he.padded.key.before]
    have hsplit : (e :: entries).filterMap Entry.field?
        = e.field?.toList ++ entries.filterMap Entry.field? := by
      cases hf : e.field? <;> simp [hf]
    rw [hsplit] at hnodup hseen
    obtain ⟨-, hnodup', hdisjoint⟩ := List.nodup_append.mp hnodup
    have hfirst : ∀ f, e.field? = some f → f ∉ seen := by
      intro f hf
      exact hseen f (List.mem_append_left _ (by simp [hf]))
    have hothers : ∀ f ∈ entries.filterMap Entry.field?, f ∉ e.field?.toList ++ seen := by
      intro f hf hmem
      rcases List.mem_append.mp hmem with hmem | hmem
      · exact hdisjoint f hmem f hf rfl
      · exact hseen f (List.mem_append_right _ hf) hmem
    rw [htext, readFields_entry he hfirst (ends_entries entries hblank rest) hmore,
      ih (fun d hd => h d (List.mem_cons_of_mem e hd)) hnodup' hothers he.padded.value.after
        (by rw [List.length_cons] at hfuel; omega), hsplit, List.reverse_append, List.append_assoc]
    have hreverse : e.field?.toList.reverse = e.field?.toList := by cases e.field? <;> rfl
    rw [hreverse]

/-- The fields of an object are read from the first one on, as they would be after a comma. -/
lemma readFields_true {entries : List Entry} (h : Lists entries s) {blank : List Char}
    (hblank : Blanks blank) {fuel : Nat} (hfuel : entries.length < fuel) (rest : List Char) :
    readFields fuel true [] default (separated (entries.map fun e => e.layout.text)
        ++ (blank ++ '\x7d' :: rest)) = .ok (s, '\x7d' :: rest) := by
  have hnil : Blanks [] := List.forall_mem_nil _
  have hself : s.blend ((entries.filterMap Entry.field?).reverse ++ []) = s := by
    refine blend_eq_self fun f hf v hv => h.others f ?_ v hv
    rwa [List.append_nil, List.mem_reverse] at hf
  have hfalse := readFields_false h.gives h.once (fun f _ => List.not_mem_nil) hnil hblank hfuel rest
  rw [hself, blend_nil] at hfalse
  obtain ⟨n, rfl⟩ : ∃ n, fuel = n + 1 := ⟨fuel - 1, by omega⟩
  rw [readFields] at hfalse ⊢
  rw [← hfalse]
  apply bind_run_congr
  cases entries with
  | nil => exact (moreFields_end true hblank rest).trans (moreFields_end false hblank rest).symm
  | cons e entries =>
    have he := h.gives e List.mem_cons_self
    set tail := (entries.map fun e => e.layout.text).flatMap (',' :: ·) ++ (blank ++ '\x7d' :: rest)
      with htail
    obtain ⟨inner, hinner⟩ := he.exists_opened tail
    have hfirst : separated ((e :: entries).map fun e => e.layout.text)
        ++ (blank ++ '\x7d' :: rest) = e.layout.key.before ++ '"' :: inner := by
      rw [← hinner, ← e.text_append]
      simp [separated, htail]
    have hcomma : ((e :: entries).map fun e => e.layout.text).flatMap (',' :: ·)
        ++ (blank ++ '\x7d' :: rest) = ',' :: (e.layout.key.before ++ '"' :: inner) := by
      rw [← hfirst]
      simp [separated]
    rw [hfirst, hcomma, moreFields_first he.padded.key.before,
      moreFields_comma hnil he.padded.key.before]

/-- An object for settings is read as these settings. -/
theorem read_of_describes {text : String} (h : Describes text s) : read text = .ok s := by
  obtain ⟨entries, before, blank, after, hlists, hbefore, hblank, hafter, htext⟩ := h
  have hlength : entries.length < (separated (entries.map fun e => e.layout.text)
      ++ (blank ++ '\x7d' :: after)).length + 1 := by
    have hle := length_le_separated (entries.map fun e => e.layout.text)
    rw [List.length_map] at hle
    simp only [List.length_append, List.length_cons]
    omega
  have hreader : reader text.toList = .ok (s, after) := by
    rw [htext, enclosed_append, reader, bind_ok (peekToken_blanks hbefore rfl _)]
    simp only []
    rw [bind_ok (skip_run _ _), bind_ok (remaining_run _),
      bind_ok (readFields_true hlists hblank hlength after), bind_ok (endObject_run after)]
    rfl
  have hread : (do let s ← reader; finish; pure s : Reader Settings) text.toList = .ok (s, []) := by
    rw [bind_ok hreader, bind_ok (finish_blanks hafter)]
    rfl
  rw [read, StateT.run', hread]
  rfl

/-! ### Printed settings -/

/-- The field of its key. -/
lemma ofKey?_key (f : Field) : Field.ofKey? f.key = some f := by
  cases f <;> rfl

/-- The field that a key is for. -/
lemma key_of_ofKey? {k : String} (h : Field.ofKey? k = some f) : f.key = k := by
  simpa using List.find?_some h

/-- Settings are written with fields that are known, each with a value that it is printed as. -/
lemma exists_of_mem_fields {d : String × Value} (h : d ∈ s.fields) (level : Nat) :
    (∃ f : Field, d.1 = f.key) ∧ Writes d.2 (d.2.prettyAt level).toList := by
  simp only [fields, value, Value.fields?, Option.getD_some, List.mem_append, List.mem_cons,
    List.mem_map, Option.mem_toList, List.not_mem_nil, or_false] at h
  rcases h with ((rfl | rfl | rfl | rfl) | ⟨p, -, rfl⟩) | rfl
  · exact ⟨⟨.sourceRoot, rfl⟩, writes_string level _⟩
  · exact ⟨⟨.entry, rfl⟩, writes_string level _⟩
  · exact ⟨⟨.projectConfig, rfl⟩, writes_string level _⟩
  · exact ⟨⟨.ignores, rfl⟩, writes_strings level _⟩
  · exact ⟨⟨.platform, rfl⟩, writes_string level _⟩
  · exact ⟨⟨.framework, rfl⟩, writes_string level _⟩

/-- The fields that settings are written with are there once. -/
lemma nodup_fields (s : Settings) : (s.fields.filterMap fun d => Field.ofKey? d.1).Nodup := by
  have hmap : s.fields.filterMap (fun d => Field.ofKey? d.1)
      = s.fields.keys.filterMap Field.ofKey? := by
    rw [Fields.keys, List.filterMap_map]
    rfl
  rw [hmap]
  cases hp : s.platform with
  | none =>
    have hkeys : s.fields.keys = ["sourceRoot", "entry", "projectConfig", "ignores", "framework"] := by
      simp [fields, value, Value.fields?, Fields.keys, hp]
    rw [hkeys]
    decide
  | some p =>
    have hkeys : s.fields.keys
        = ["sourceRoot", "entry", "projectConfig", "ignores", "platform", "framework"] := by
      simp [fields, value, Value.fields?, Fields.keys, hp]
    rw [hkeys]
    decide

/-- What settings are printed as is an object for them. -/
lemma describes_text (s : Settings) : Describes s.text s := by
  set entries : List Entry := s.fields.map fun d => ⟨d.1, printedMember 1 d⟩ with hentries
  have hfields : entries.filterMap Entry.field? = s.fields.filterMap fun d => Field.ofKey? d.1 := by
    rw [hentries, List.filterMap_map]
    rfl
  have hlists : Lists entries s := by
    refine ⟨?_, by rw [hfields]; exact nodup_fields s, ?_⟩
    · intro e he
      obtain ⟨d, hd, rfl⟩ := List.mem_map.mp he
      obtain ⟨⟨f, hf⟩, hwrites⟩ := exists_of_mem_fields hd 1
      have hfield : (⟨d.1, printedMember 1 d⟩ : Entry).field? = some f := by
        rw [Entry.field?, hf, ofKey?_key]
      refine ⟨padded_printedMember 1 d, quoted_quote d.1, ?_, ?_⟩
      · intro g hg
        refine ⟨d.2, ?_, hwrites⟩
        rwa [key_of_ofKey? hg]
      · intro hnone
        rw [hfield] at hnone
        cases hnone
    · intro f hf v hv
      refine absurd ?_ hf
      rw [hfields]
      exact List.mem_filterMap.mpr ⟨_, hv, ofKey?_key f⟩
  refine ⟨entries, [], (newline 0).toList, [], hlists, List.forall_mem_nil _, blanks_newline 0,
    List.forall_mem_nil _, ?_⟩
  obtain ⟨d, ds, hcons⟩ : ∃ d ds, s.fields = d :: ds := ⟨_, _, rfl⟩
  have hvalue : s.value = .object (d :: ds) := by
    rw [← hcons]
    rfl
  rw [text, Value.pretty, hvalue, Value.prettyAt, String.toList_append, String.toList_append,
    String.toList_append, toList_prettyFields, ← hcons]
  simp [enclosed, hentries, Function.comp_def]

/-- **Settings are read back as they were written.**  What they are printed as is read as they are;
and so is every JSON object with these fields, in any order and with any of the spellings that JSON
allows, where fields that have their default may be missing and any others may be there. -/
theorem read_text (s : Settings) :
    read s.text = .ok s ∧ ∀ text, Describes text s → read text = .ok s :=
  ⟨read_of_describes (describes_text s), fun _ h => read_of_describes h⟩

/-- Settings with an entry of their own and an empty platform. -/
def sample : Settings := { default with entry := "main", platform := some "" }

/-- Their fields in another order and with an escape, behind a field that is not known. -/
def sampleText : String :=
  "\x7b\"x\": [-1.5e+3 ,\n\x7b\"\\uD800\":null\x7d], \"platform\":\"\",\"entry\" :\"m\\u0061in\"\x7d\n"

/-- An object whose key is no character. -/
def sampleMember : Member := ⟨⟨[], "\"\\uD800\"".toList, []⟩, ⟨[], "null".toList, []⟩⟩

/-- A number and an object. -/
def sampleItems : List Item :=
  [⟨[], "-1.5e+3".toList, [' ']⟩, ⟨['\n'], enclosed '\x7b' [sampleMember.text] [] '\x7d', []⟩]

/-- The fields of the text. -/
def sampleEntries : List Entry :=
  [⟨"x", ⟨[], (quote "x").toList, []⟩, [' '], enclosed '[' (sampleItems.map Item.text) [] ']', []⟩,
    ⟨"platform", ⟨[' '], (quote "platform").toList, []⟩, [], (quote "").toList, []⟩,
    ⟨"entry", ⟨[], (quote "entry").toList, [' ']⟩, [], "\"m\\u0061in\"".toList, []⟩]

/-- The list in the field that is not known is a JSON value. -/
lemma isValue_sampleItems : IsValue (enclosed '[' (sampleItems.map Item.text) [] ']') := by
  have hnumber : IsValue "-1.5e+3".toList :=
    .number (@IsNumber.mk ['-'] ['1'] ['.', '5'] ['e', '+', '3'] (by decide)
      (Or.inr ⟨by decide, by decide⟩) (Or.inr ⟨['5'], by decide, rfl⟩)
      (Or.inr ⟨'e', by decide, ['+'], by decide, ['3'], by decide, rfl⟩))
  have hcode : HexFour ['D', '8', '0', '0'] 0xD800 :=
    @HexFour.mk 'D' '8' '0' '0' 13 8 0 0 ⟨by decide, by decide⟩ ⟨by decide, by decide⟩
      ⟨by decide, by decide⟩ ⟨by decide, by decide⟩
  have hkey : Quoted false sampleMember.key.inner [' '] := ⟨_, .cons (.loose rfl hcode) .nil, rfl⟩
  have hobject : IsValue (enclosed '\x7b' [sampleMember.text] [] '\x7d') :=
    @IsValue.object [sampleMember] [] (by decide) (by decide)
      (List.forall_mem_singleton.mpr ⟨_, hkey⟩) (List.forall_mem_singleton.mpr (.word (by decide)))
  exact @IsValue.array sampleItems [] (by decide) (by decide)
    (List.forall_mem_cons.mpr ⟨hnumber, List.forall_mem_singleton.mpr hobject⟩)

/-- The text is read as the settings. -/
theorem read_text_sample : Describes sampleText sample ∧ read sampleText = .ok sample := by
  have hcode : HexFour ['0', '0', '6', '1'] 'a'.toNat :=
    @HexFour.mk '0' '0' '6' '1' 0 0 6 1 ⟨by decide, by decide⟩ ⟨by decide, by decide⟩
      ⟨by decide, by decide⟩ ⟨by decide, by decide⟩
  have hmain : Spells true "m\\u0061in".toList "main".toList :=
    .cons (spelling_escape 'm') (.cons (.code rfl hcode) (spells_escape "in".toList))
  have hunknown : Field.ofKey? "x" = none := by decide
  have hdescribes : Describes sampleText sample := by
    refine ⟨sampleEntries, [], [], ['\n'], ⟨?_, by decide, ?_⟩, by decide, by decide, by decide,
      by decide⟩
    · refine List.forall_mem_cons.mpr ⟨?_, List.forall_mem_cons.mpr ⟨?_,
        List.forall_mem_singleton.mpr ?_⟩⟩
      · refine ⟨by decide, quoted_quote "x", fun f hf => ?_, fun _ => isValue_sampleItems⟩
        cases hunknown.symm.trans hf
      · refine ⟨by decide, quoted_quote "platform", fun f hf => ?_, fun hf => by cases hf⟩
        obtain rfl : Field.platform = f := Option.some.inj hf
        exact ⟨_, mem_fields_iff.mpr rfl, .string (quoted_quote "")⟩
      · refine ⟨by decide, quoted_quote "entry", fun f hf => ?_, fun hf => by cases hf⟩
        obtain rfl : Field.entry = f := Option.some.inj hf
        exact ⟨_, mem_fields_iff.mpr rfl, .string ⟨_, hmain, rfl⟩⟩
    · intro f hf v hv
      rw [mem_fields_iff] at hv ⊢
      cases f with
      | platform => exact absurd (by decide) hf
      | entry => exact absurd (by decide) hf
      | _ => exact hv
  exact ⟨hdescribes, (read_text sample).2 _ hdescribes⟩

end PageConfig.Project.Settings
