import PageConfig.Proofs.Path.Places
import PageConfig.Proofs.Store

/-!
# Writes to a disk

What stands at a plain path is told by the place of the path: there is something
if directories lead to the place and it has an entry (`entry?_path`).  A write
that is accepted puts a file where no directory was.  It makes and removes no
directory, so what leads where is as before, and at plain paths the disk
differs from what it was at the path written only (`entry?_write`).
-/

namespace PageConfig.Disk

variable {d d' : Disk} {names front : Place} {p q : Path} {text : String}

/-! ### Entries -/

/-- One entry is set and the others stay. -/
lemma lookup_setEntry (entries : List (Place × Entry)) (place other : Place) (e : Entry) :
    (setEntry entries place e).lookup other
      = if other = place then some e else entries.lookup other := by
  induction entries with
  | nil =>
    by_cases hother : other = place
    · simp [setEntry, hother]
    · have hbeq : (other == place) = false := beq_eq_false_iff_ne.mpr hother
      simp [setEntry, List.lookup_cons, hother, hbeq]
  | cons entry entries ih =>
    obtain ⟨at', old⟩ := entry
    by_cases hother : other = at'
    · by_cases hat : at' = place
      · simp [setEntry, hat, hother]
      · simp [setEntry, hat, hother]
    · have hbeq : (other == at') = false := beq_eq_false_iff_ne.mpr hother
      by_cases hat : at' = place
      · rw [hat] at hother hbeq
        simp [setEntry, hat, List.lookup_cons, hother, hbeq]
      · simp [setEntry, hat, List.lookup_cons, hbeq, ih]

/-- What stands at a place once something is set; the root is always a directory. -/
lemma at?_set {place : Place} (hroot : place ≠ []) (other : Place) (e : Entry) :
    (d.set place e).at? other = if other = place then some e else d.at? other := by
  by_cases hother : other = []
  · simp [at?, hother, Ne.symm hroot]
  · simp [at?, set, hother, lookup_setEntry]

/-- A place that is no directory is not the root. -/
lemma ne_nil_of_isDirectory (h : d.isDirectory names = false) : names ≠ [] := by
  rintro rfl
  cases h

/-- A file that is set where no directory was leaves the directories. -/
lemma isDirectory_set {place : Place} (h : d.isDirectory place = false) (content : Content)
    (other : Place) : (d.set place (.file content)).isDirectory other = d.isDirectory other := by
  have hset := at?_set (d := d) (ne_nil_of_isDirectory h) other (.file content)
  by_cases hother : other = place
  · rw [if_pos hother] at hset
    rw [isDirectory, hset, hother, h]
    rfl
  · rw [if_neg hother] at hset
    rw [isDirectory, isDirectory, hset]

/-! ### The way to a place -/

/-- Directories lead from a place on, by names that are not too long. -/
def Leads (d : Disk) : Place → List String → Prop
  | _, [] => True
  | front, n :: ns =>
    d.isDirectory front = true ∧ n.utf8ByteSize ≤ nameLimit ∧ d.Leads (front ++ [n]) ns

/-- Disks with the same directories lead to the same places. -/
lemma leads_congr (h : ∀ place, d'.isDirectory place = d.isDirectory place) :
    d'.Leads front names ↔ d.Leads front names := by
  induction names generalizing front with
  | nil => exact Iff.rfl
  | cons n ns ih => rw [Leads, Leads, h, ih]

/-- The way goes on from a directory. -/
lemma Leads.concat {n : String} (h : d.Leads front names)
    (hdirectory : d.isDirectory (front ++ names) = true) (hn : n.utf8ByteSize ≤ nameLimit) :
    d.Leads front (names ++ [n]) := by
  induction names generalizing front with
  | nil => exact ⟨by simpa using hdirectory, hn, trivial⟩
  | cons m ms ih =>
    obtain ⟨hfront, hm, hrest⟩ := h
    exact ⟨hfront, hm, ih hrest (by simpa using hdirectory)⟩

/-- If there is something at the end of a way, there is something at its start. -/
lemma Leads.isSome_at? (h : d.Leads front names) (hend : (d.at? (front ++ names)).isSome = true) :
    (d.at? front).isSome = true := by
  cases names with
  | nil => simpa using hend
  | cons n ns =>
    have hfront : d.at? front = some .directory := beq_iff_eq.mp h.1
    simp [hfront]

/-- Names lead a walk to something exactly when directories lead there. -/
lemma walk_names (h : names.Named) {dest : Place} {e : Entry} :
    d.walk front (names.map String.toList) = .ok dest ∧ d.at? dest = some e ↔
      dest = front ++ names ∧ d.Leads front names ∧ d.at? dest = some e := by
  induction names generalizing front with
  | nil =>
    rw [List.map_nil, walk, List.append_nil, Leads]
    constructor
    · rintro ⟨hdest, hat⟩
      exact ⟨(Except.ok.inj hdest).symm, trivial, hat⟩
    · rintro ⟨rfl, -, hat⟩
      exact ⟨rfl, hat⟩
  | cons n ns ih =>
    have hn : Path.IsName n := h n List.mem_cons_self
    have hns : Place.Named ns := fun m hm => h m (List.mem_cons_of_mem n hm)
    have happend : front ++ n :: ns = front ++ [n] ++ ns := by simp
    rw [List.map_cons, walk, hn.segment, Leads, happend]
    constructor
    · rintro ⟨hwalk, hat⟩
      split at hwalk
      · rename_i hfront
        simp only at hwalk
        split at hwalk
        · cases hwalk
        · rename_i hshort
          split at hwalk
          · obtain ⟨hdest, hleads, -⟩ := (ih hns).mp ⟨hwalk, hat⟩
            exact ⟨hdest, ⟨hfront, Nat.le_of_not_lt hshort, hleads⟩, hat⟩
          · cases hwalk
      · cases hwalk
    · rintro ⟨hdest, ⟨hfront, hshort, hleads⟩, hat⟩
      obtain ⟨hwalk, -⟩ := (ih hns).mpr ⟨hdest, hleads, hat⟩
      obtain ⟨at', hat'⟩ : ∃ at', d.at? (front ++ [n]) = some at' := by
        rw [← Option.isSome_iff_exists]
        apply hleads.isSome_at?
        rw [← hdest, hat]
        rfl
      refine ⟨?_, hat⟩
      simp only [hfront, if_true, Nat.not_lt.mpr hshort, if_false, hat']
      exact hwalk

/-! ### Plain paths -/

/-- A plain path is not too long, and directories lead to its place. -/
def LeadsTo (d : Disk) (names : Place) : Prop :=
  names.path.text.utf8ByteSize ≤ pathLimit ∧ d.Leads [] names

/-- The walk along a plain path starts at the root. -/
lemma start?_path (names : Place) (hshort : names.path.text.utf8ByteSize ≤ pathLimit) :
    d.start? names.path = .ok ([], Path.cut (Path.glue (names.map String.toList))) := by
  rw [start?, if_neg (Nat.not_lt.mpr hshort), Place.toList_path]
  rfl

/-- A plain path that is too long leads nowhere. -/
lemma start?_path_of_lt (names : Place) (hlong : pathLimit < names.path.text.utf8ByteSize) :
    d.start? names.path = .error .nameTooLong := by
  rw [start?, if_pos hlong]

/-- What stands at a plain path is what stands at its place, if directories lead there. -/
lemma entry?_path (h : names.Named) {e : Entry} :
    d.entry? names.path = some e ↔ d.LeadsTo names ∧ d.at? names = some e := by
  by_cases hshort : names.path.text.utf8ByteSize ≤ pathLimit
  · have hfind : d.find names.path = d.walk [] (names.map String.toList) := by
      rw [find, start?_path names hshort, h.cut_glue]
      split
      · rename_i hnil
        rw [hnil]
        rfl
      · rfl
    have hentry : d.entry? names.path = some e ↔
        ∃ dest, d.walk [] (names.map String.toList) = .ok dest ∧ d.at? dest = some e := by
      unfold entry?
      rw [hfind]
      cases d.walk [] (names.map String.toList) with
      | ok dest => simp
      | error r => simp
    rw [hentry, LeadsTo]
    constructor
    · rintro ⟨dest, hdest⟩
      obtain ⟨rfl, hleads, hat⟩ := (walk_names h).mp hdest
      exact ⟨⟨hshort, hleads⟩, hat⟩
    · rintro ⟨⟨-, hleads⟩, hat⟩
      exact ⟨names, (walk_names h).mpr ⟨rfl, hleads, hat⟩⟩
  · have hnone : d.entry? names.path = none := by
      unfold entry? find
      rw [start?_path_of_lt names (Nat.lt_of_not_le hshort)]
      rfl
    simp [hnone, LeadsTo, hshort]

/-- There is a file at a path when a file stands there. -/
lemma isFile_iff : d.isFile p = true ↔ ∃ content, d.entry? p = some (.file content) := by
  rw [isFile]
  cases d.entry? p with
  | none => simp
  | some e =>
    cases e with
    | file content => simp
    | directory => simp

/-- What reading a file gives, by what the file holds. -/
def textOf : Content → Except Refusal String
  | .text s => .ok s
  | .bytes _ => .error .notText

/-- The text of a file is told by what stands at its path. -/
lemma read_of_entry {content : Content} (h : d.entry? p = some (.file content)) :
    d.read p = textOf content := by
  unfold entry? at h
  cases hfind : d.find p with
  | error r => simp [hfind] at h
  | ok dest =>
    rw [hfind] at h
    have hat : d.at? dest = some (.file content) := h
    rw [read, hfind]
    cases content with
    | text s => simp [bind, Except.bind, hat, textOf]
    | bytes bs => simp [bind, Except.bind, hat, textOf]

/-- The root is no file. -/
lemma isFile_root (d : Disk) : d.isFile (Place.path []) = false := by
  rw [Bool.eq_false_iff]
  intro hfile
  obtain ⟨content, hentry⟩ := isFile_iff.mp hfile
  obtain ⟨-, hat⟩ := (entry?_path Place.named_nil).mp hentry
  cases hat

/-! ### Writes -/

/-- A write that is accepted sets a file at its target. -/
lemma exists_target (h : d.write p text = .ok d') :
    ∃ place, d.target p = .ok place ∧ d.set place (.file (.text text)) = d' := by
  rw [write] at h
  cases htarget : d.target p with
  | error r =>
    rw [htarget] at h
    cases h
  | ok place =>
    rw [htarget] at h
    exact ⟨place, rfl, Except.ok.inj h⟩

/-- How a path leads to the place of a file that is written: once empty segments are dropped at the
end, the last segment is the name of the file, and the others lead to a directory; the name is not
too long, and no directory is in the way. -/
lemma target_cases {place : Place} (h : d.target p = .ok place) :
    ∃ front segments init last n parent, d.start? p = .ok (front, segments) ∧
      (segments.reverse.dropWhile List.isEmpty).reverse = init ++ [last] ∧
      Path.segment? last = some (.name n) ∧ d.walk front init = .ok parent ∧
      d.isDirectory parent = true ∧ n.utf8ByteSize ≤ nameLimit ∧
      d.isDirectory (parent ++ [n]) = false ∧ place = parent ++ [n] := by
  rw [target] at h
  cases hstart : d.start? p with
  | error r =>
    rw [hstart] at h
    cases h
  | ok found =>
    obtain ⟨front, segments⟩ := found
    simp only [hstart, bind, Except.bind] at h
    split at h
    · cases h
    · rename_i last hlast
      obtain ⟨init, hnamed⟩ := List.getLast?_eq_some_iff.mp hlast
      rw [hnamed, List.dropLast_concat] at h
      split at h
      · cases h
      · rename_i parent hwalk
        split at h
        · cases h
        · rename_i hparent
          split at h
          · rename_i n hn
            split at h
            · cases h
            · rename_i hshort
              split at h
              · cases h
              · rename_i hfree
                refine ⟨front, segments, init, last, n, parent, rfl, hnamed, hn, hwalk, ?_, ?_, ?_,
                  ?_⟩
                · simpa using hparent
                · exact Nat.le_of_not_lt hshort
                · simp only [Bool.or_eq_true, not_or, Bool.not_eq_true] at hfree
                  exact hfree.2
                · exact (Except.ok.inj h).symm
          · cases h

/-- A file that can be written at a plain path goes to the place of the path; directories lead
there, and none is in its place. -/
lemma target_path (h : names.Named) {place : Place} (htarget : d.target names.path = .ok place) :
    place = names ∧ d.LeadsTo names ∧ d.isDirectory names = false := by
  obtain ⟨front, segments, init, last, n, parent, hstart, hnamed, hn, hwalk, hparent, hlength,
    hfree, rfl⟩ := target_cases htarget
  have hshort : names.path.text.utf8ByteSize ≤ pathLimit := by
    apply Nat.le_of_not_lt
    intro hlong
    rw [start?_path_of_lt names hlong] at hstart
    cases hstart
  rw [start?_path names hshort, h.cut_glue] at hstart
  obtain ⟨rfl, rfl⟩ := Prod.mk.inj (Except.ok.inj hstart)
  rcases List.eq_nil_or_concat' names with rfl | ⟨above, m, rfl⟩
  · simp at hnamed
  · have hm : Path.IsName m := h m (by simp)
    have habove : Place.Named above := by simpa using h.dropLast
    have hempty : m.toList.isEmpty = false := by simpa using hm.ne_nil
    -- the last name is not empty, so all segments count
    obtain ⟨rfl, rfl⟩ : above.map String.toList = init ∧ m.toList = last := by
      simpa [hempty] using hnamed
    obtain rfl : m = n := by simpa [hm.segment] using hn
    obtain ⟨rfl, hleads, -⟩ := (walk_names habove).mp ⟨hwalk, beq_iff_eq.mp hparent⟩
    exact ⟨rfl, ⟨hshort, hleads.concat hparent hlength⟩, hfree⟩

/-- **At plain paths a write changes what stands at the path written, and nothing else.** -/
theorem entry?_write (hp : p.Plain) (hwrite : d.write p text = .ok d') (hq : q.Plain) :
    d'.entry? q = if q = p then some (.file (.text text)) else d.entry? q := by
  obtain ⟨names, hnames, rfl⟩ := hp
  obtain ⟨others, hothers, rfl⟩ := hq
  obtain ⟨place, htarget, hset⟩ := exists_target hwrite
  obtain ⟨rfl, hleads, hfree⟩ := target_path hnames htarget
  have hleads' : ∀ names, d'.LeadsTo names ↔ d.LeadsTo names := by
    intro names
    rw [← hset, LeadsTo, LeadsTo, leads_congr (isDirectory_set hfree _)]
  have hat : d'.at? others
      = if others = place then some (.file (.text text)) else d.at? others := by
    rw [← hset, at?_set (ne_nil_of_isDirectory hfree)]
  apply Option.ext
  intro e
  rw [entry?_path hothers, hleads', hat]
  by_cases heq : others = place
  · subst heq
    simp [hleads]
  · have hne : others.path ≠ place.path := by
      intro hpath
      exact heq (hothers.eq_of_same hnames (by rw [hpath, Path.same_refl]))
    rw [if_neg heq, if_neg hne, entry?_path hothers]

/-! ### Names of what is written -/

/-- The segments that a walk starts with stand for the steps of the path, but for the root. -/
lemma steps_of_start? {segments : List (List Char)} (h : d.start? p = .ok (front, segments)) :
    ∃ opening, p.steps = opening ++ segments.filterMap Path.segment? := by
  rw [Path.steps_eq]
  unfold start? at h
  split at h
  · cases h
  · split at h
    · cases h
    · rename_i cs hcs
      obtain ⟨-, rfl⟩ := Prod.mk.inj (Except.ok.inj h)
      refine ⟨[.root], ?_⟩
      rw [hcs]
      rfl
    · obtain ⟨-, rfl⟩ := Prod.mk.inj (Except.ok.inj h)
      exact ⟨_, rfl⟩

/-- A file that is written takes a place with the file name of its path. -/
lemma fileName?_of_target {place : Place} (h : d.target p = .ok place) :
    ∃ n, place.getLast? = some n ∧ p.fileName? = some n := by
  obtain ⟨front, segments, init, last, n, parent, hstart, hnamed, hn, -, -, -, -, rfl⟩ :=
    target_cases h
  obtain ⟨opening, hsteps⟩ := steps_of_start? hstart
  have hsilent : ∀ w : List Char, w.isEmpty = true → Path.segment? w = none := by
    intro w hw
    rw [List.isEmpty_iff.mp hw]
    rfl
  refine ⟨n, List.getLast?_concat, Path.fileName?_of_steps ?_⟩
  rw [hsteps, ← Path.filterMap_dropWhile hsilent, hnamed, List.filterMap_append,
    List.filterMap_cons_some hn, List.filterMap_nil, ← List.append_assoc, List.getLast?_concat]

/-- A write leaves every place alone that has another name. -/
lemma at?_after {place : Place} (hname : place.getLast? ≠ p.fileName?) :
    (store.after d p text).at? place = d.at? place := by
  cases hwrite : d.write p text with
  | error r => rw [(store_of_error hwrite).2]
  | ok d' =>
    rw [(store_of_ok hwrite).2]
    obtain ⟨written, htarget, rfl⟩ := exists_target hwrite
    obtain ⟨n, hlast, hfile⟩ := fileName?_of_target htarget
    have hroot : written ≠ [] := by
      rintro rfl
      cases hlast
    have hne : place ≠ written := by
      rintro rfl
      exact hname (hlast.trans hfile.symm)
    rw [at?_set hroot, if_neg hne]

end PageConfig.Disk
