import PageConfig.Proofs.Disk.Writes
import PageConfig.Proofs.Path.Beside

/-!
# Running a job again

A job that is run again on the disk it left may find its own files.  If none of
them stands where the job has looked, it finds what it found the first time,
makes the same writes, and leaves the disk exactly as it was (`Disk.run_again`).

Where a path leads is told by its steps alone, so that "where the job has
looked" needs no disk.  What a write may still change is the reason for which
another path leads nowhere: a path through a file that was written is refused in
another way than one through nothing.  A job does not see this as long as it is
*careful*, that is, reads only what it has been told to be a file.

That the disk is the same in the end is a fact about overwriting: a list of
writes that is made twice in a row is made once.
-/

namespace PageConfig

/-! ### Writes made twice -/

namespace Disk

/-- Entries with a list of writes made to them. -/
def overwrite (entries : List (Place × Entry)) (ws : List (Place × Entry)) : List (Place × Entry) :=
  ws.foldl (fun entries w => setEntry entries w.1 w.2) entries

/-- What a place holds after a list of writes, if it held something else before. -/
def lastAt (ws : List (Place × Entry)) (place : Place) (e : Entry) : Entry :=
  ws.foldl (fun e w => if place = w.1 then w.2 else e) e

/-- The first entry takes the writes to its own place, and the others take the rest. -/
lemma overwrite_cons (place : Place) (e : Entry) (entries ws : List (Place × Entry)) :
    overwrite ((place, e) :: entries) ws
      = (place, lastAt ws place e) :: overwrite entries (ws.filter fun w => place ≠ w.1) := by
  induction ws generalizing e entries with
  | nil => rfl
  | cons w ws ih =>
    obtain ⟨other, e'⟩ := w
    rw [overwrite, List.foldl_cons, ← overwrite]
    by_cases hplace : place = other
    · rw [setEntry, if_pos hplace, ih, lastAt, lastAt, List.foldl_cons, if_pos hplace,
        List.filter_cons_of_neg (by simpa using hplace)]
    · rw [setEntry, if_neg hplace, ih, lastAt, lastAt, List.foldl_cons, if_neg hplace,
        List.filter_cons_of_pos (by simpa using hplace), overwrite, overwrite, List.foldl_cons]

/-- The last write to a place does not depend on what was there, if there is one; and making the
writes again does not change it. -/
lemma lastAt_lastAt (ws : List (Place × Entry)) (place : Place) (e : Entry) :
    lastAt ws place (lastAt ws place e) = lastAt ws place e := by
  have hcases : (∀ e, lastAt ws place e = e) ∨ ∃ e', ∀ e, lastAt ws place e = e' := by
    induction ws with
    | nil => exact Or.inl fun e => rfl
    | cons w ws ih =>
      rcases ih with hnone | ⟨e', hlast⟩
      · by_cases hplace : place = w.1
        · refine Or.inr ⟨w.2, fun e => ?_⟩
          rw [lastAt, List.foldl_cons, if_pos hplace]
          exact hnone w.2
        · refine Or.inl fun e => ?_
          rw [lastAt, List.foldl_cons, if_neg hplace]
          exact hnone e
      · exact Or.inr ⟨e', fun e => hlast _⟩
  rcases hcases with hnone | ⟨e', hlast⟩
  · exact hnone _
  · rw [hlast, hlast]

/-- Writes that are made twice in a row to no entries are made once. -/
lemma overwrite_overwrite_nil (ws : List (Place × Entry)) :
    overwrite (overwrite [] ws) ws = overwrite [] ws := by
  induction hlength : ws.length using Nat.strong_induction_on generalizing ws with
  | _ n ih =>
    cases ws with
    | nil => rfl
    | cons w ws =>
      obtain ⟨place, e⟩ := w
      -- the first write makes an entry, which takes all writes to its place
      have hfirst : overwrite [] ((place, e) :: ws)
          = overwrite [(place, e)] ((place, e) :: ws) := by
        simp [overwrite, setEntry]
      have hrest : (((place, e) :: ws).filter fun w => place ≠ w.1).length < n := by
        rw [List.filter_cons_of_neg (by simp), ← hlength, List.length_cons]
        exact Nat.lt_succ_of_le (List.length_filter_le _ _)
      rw [hfirst, overwrite_cons, overwrite_cons, lastAt_lastAt, ih _ hrest _ rfl]

/-- **Writes that are made twice in a row are made once.** -/
theorem overwrite_overwrite (entries ws : List (Place × Entry)) :
    overwrite (overwrite entries ws) ws = overwrite entries ws := by
  induction entries generalizing ws with
  | nil => exact overwrite_overwrite_nil ws
  | cons entry entries ih =>
    obtain ⟨place, e⟩ := entry
    rw [overwrite_cons, overwrite_cons, lastAt_lastAt, ih]

variable {d d' e : Disk} {W : List Place} {p q : Path}

/-! ### Where a path leads -/

/-- The place that the steps of a path lead to, whatever stands on the way. -/
def destination (d : Disk) (p : Path) : Place := p.steps.foldl step d.home

/-- Straight paths that lead to one place are the same. -/
lemma same_of_destination (hp : p.Straight) (hq : q.Straight)
    (h : d.destination p = d.destination q) : p.same q = true := by
  have hdown : ∀ names front : Place,
      (names.map Path.Component.name).foldl step front = front ++ names := by
    intro names
    induction names with
    | nil => simp
    | cons n names ih =>
      intro front
      rw [List.map_cons, List.foldl_cons, ih, step, List.append_assoc, List.singleton_append]
  refine hp.rooted.same_of_steps hq.rooted ?_
  obtain ⟨names, hnames⟩ := hp
  obtain ⟨others, hothers⟩ := hq
  rw [destination, destination, hnames, hothers, List.foldl_cons, List.foldl_cons, hdown,
    hdown] at h
  rw [hnames, hothers, List.append_cancel_left h]

/-- What a walk starts with leads where the path leads. -/
lemma destination_of_start? {front : Place} {segments : List (List Char)}
    (h : d.start? p = .ok (front, segments)) :
    d.destination p = (segments.filterMap Path.segment?).foldl step front := by
  rw [destination, Path.steps_eq]
  unfold start? at h
  split at h
  · cases h
  · split at h
    · cases h
    · rename_i cs hcs
      obtain ⟨rfl, rfl⟩ := Prod.mk.inj (Except.ok.inj h)
      have hblank : Path.segment? [] = none := rfl
      simp [hcs, Path.stepsOf, Path.cut, List.filterMap_cons_none hblank, step]
    · rename_i hslash
      obtain ⟨rfl, rfl⟩ := Prod.mk.inj (Except.ok.inj h)
      rw [Path.stepsOf_of_head?]
      intro hhead
      obtain ⟨cs, hcs⟩ := List.head?_eq_some_iff.mp hhead
      exact hslash cs hcs

/-- A file that is written goes where its path leads. -/
lemma destination_of_target {place : Place} (h : d.target p = .ok place) :
    place = d.destination p := by
  obtain ⟨front, segments, init, last, n, parent, hstart, hnamed, hn, hwalk, -, -, -, rfl⟩ :=
    target_cases h
  have hsilent : ∀ w : List Char, w.isEmpty = true → Path.segment? w = none := by
    intro w hw
    rw [List.isEmpty_iff.mp hw]
    rfl
  rw [destination_of_start? hstart, ← Path.filterMap_dropWhile hsilent, hnamed,
    List.filterMap_append, List.foldl_append, ← walk_eq hwalk, List.filterMap_cons_some hn]
  rfl

/-- A write that is accepted sets a file where its path leads. -/
lemma eq_set_of_write {text : String} (h : d.write p text = .ok d') :
    d' = d.set (d.destination p) (.file (.text text)) ∧
      d.isDirectory (d.destination p) = false := by
  obtain ⟨place, htarget, rfl⟩ := exists_target h
  obtain ⟨-, -, -, -, n, parent, -, -, -, -, -, -, hfree, hplace⟩ := target_cases htarget
  rw [← destination_of_target htarget]
  exact ⟨rfl, by rwa [hplace]⟩

/-! ### Disks that differ at some places -/

/-- Disks with the same directories that hold the same at all places but some. -/
structure AlikeBut (W : List Place) (d e : Disk) : Prop where
  home : e.home = d.home
  isDirectory : ∀ place, e.isDirectory place = d.isDirectory place
  at? : ∀ place, place ∉ W → e.at? place = d.at? place

namespace AlikeBut

lemma refl (d : Disk) : AlikeBut W d d := ⟨rfl, fun _ => rfl, fun _ _ => rfl⟩

lemma symm (h : AlikeBut W d e) : AlikeBut W e d :=
  ⟨h.home.symm, fun place => (h.isDirectory place).symm, fun place hp => (h.at? place hp).symm⟩

lemma trans (h : AlikeBut W d d') (h' : AlikeBut W d' e) : AlikeBut W d e :=
  ⟨h'.home.trans h.home, fun place => (h'.isDirectory place).trans (h.isDirectory place),
    fun place hp => (h'.at? place hp).trans (h.at? place hp)⟩

/-- Paths lead to the same places. -/
lemma destination (h : AlikeBut W d e) (p : Path) : e.destination p = d.destination p := by
  rw [Disk.destination, Disk.destination, h.home]

lemma start? (h : AlikeBut W d e) (p : Path) : e.start? p = d.start? p := by
  rw [Disk.start?, Disk.start?, h.home]

/-- A walk that comes to its end on one disk does so on the other, if there is something at the
end. -/
lemma walk (h : AlikeBut W d e) {place dest : Place} {segments : List (List Char)}
    (hwalk : d.walk place segments = .ok dest) (hdest : (e.at? dest).isSome = true) :
    e.walk place segments = .ok dest := by
  induction segments generalizing place with
  | nil => exact hwalk
  | cons s rest ih =>
    rw [Disk.walk] at hwalk ⊢
    rw [h.isDirectory]
    split at hwalk
    · rename_i hdirectory
      rw [if_pos hdirectory]
      cases hs : Path.segment? s with
      | none =>
        rw [hs] at hwalk
        exact ih hwalk
      | some c =>
        rw [hs] at hwalk
        cases c with
        | root => exact ih hwalk
        | here => exact ih hwalk
        | up => exact ih hwalk
        | name n =>
          simp only at hwalk ⊢
          split at hwalk
          · cases hwalk
          · rename_i hshort
            rw [if_neg hshort]
            split at hwalk
            · -- what stands at the next place is the end, or a directory
              have hnext : (e.at? (place ++ [n])).isSome = true := by
                cases rest with
                | nil =>
                  obtain rfl := Except.ok.inj hwalk
                  exact hdest
                | cons s' rest' =>
                  rw [Disk.walk] at hwalk
                  split at hwalk
                  · rename_i hdir
                    rw [← h.isDirectory] at hdir
                    rw [beq_iff_eq.mp hdir]
                    rfl
                  · cases hwalk
              obtain ⟨x, hx⟩ := Option.isSome_iff_exists.mp hnext
              rw [hx]
              exact ih hwalk
            · cases hwalk
    · cases hwalk

/-- What stands at a path stands there on the other disk, if the path leads to a place where they do
not differ. -/
lemma entry?_of_some (h : AlikeBut W d e) (hp : d.destination p ∉ W) {x : Entry}
    (hx : d.entry? p = some x) : e.entry? p = some x := by
  unfold Disk.entry? at hx
  cases hfind : d.find p with
  | error r => simp [hfind] at hx
  | ok dest =>
    rw [hfind] at hx
    have hat : d.at? dest = some x := hx
    have hdest : dest = d.destination p := find_eq hfind
    have hat' : e.at? dest = some x := by rw [h.at? dest (by rwa [hdest]), hat]
    have hfind' : e.find p = .ok dest := by
      unfold Disk.find at hfind ⊢
      rw [h.start?]
      cases hstart : d.start? p with
      | error r =>
        rw [hstart] at hfind
        cases hfind
      | ok found =>
        rw [hstart] at hfind
        exact h.walk hfind (by rw [hat']; rfl)
    rw [Disk.entry?, hfind']
    exact hat'

lemma entry?_eq (h : AlikeBut W d e) (hp : d.destination p ∉ W) : e.entry? p = d.entry? p := by
  apply Option.ext
  intro x
  refine ⟨fun hx => h.symm.entry?_of_some ?_ hx, fun hx => h.entry?_of_some hp hx⟩
  rwa [h.destination]

lemma isFile_eq (h : AlikeBut W d e) (hp : d.destination p ∉ W) : e.isFile p = d.isFile p := by
  rw [Disk.isFile, Disk.isFile, h.entry?_eq hp]

/-- The text of a file is the same. -/
lemma read_eq (h : AlikeBut W d e) (hp : d.destination p ∉ W) (hfile : d.isFile p = true) :
    e.read p = d.read p := by
  obtain ⟨content, hentry⟩ := isFile_iff.mp hfile
  rw [read_of_entry hentry, read_of_entry (h.entry?_of_some hp hentry)]

/-- A file that can be written to one disk can be written to the other. -/
lemma target (h : AlikeBut W d e) {place : Place} (htarget : d.target p = .ok place) :
    e.target p = .ok place := by
  rw [Disk.target] at htarget ⊢
  rw [h.start?]
  cases hstart : d.start? p with
  | error r =>
    rw [hstart] at htarget
    cases htarget
  | ok found =>
    obtain ⟨front, segments⟩ := found
    simp only [hstart, bind, Except.bind] at htarget ⊢
    split at htarget
    · cases htarget
    · split at htarget
      · cases htarget
      · rename_i parent hwalk
        by_cases hparent : d.isDirectory parent = true
        · have hparent' : e.at? parent = some .directory := by
            rw [← h.isDirectory] at hparent
            exact beq_iff_eq.mp hparent
          have hwalk' := h.walk hwalk (by rw [hparent']; rfl)
          simp only [hwalk', h.isDirectory]
          exact htarget
        · simp [hparent] at htarget

/-- A file that is set on both disks leaves them alike. -/
lemma set (h : AlikeBut W d e) {place : Place} (hfree : d.isDirectory place = false)
    (content : Content) :
    AlikeBut W (d.set place (.file content)) (e.set place (.file content)) := by
  have hfree' : e.isDirectory place = false := by rw [h.isDirectory, hfree]
  refine ⟨h.home, ?_, ?_⟩
  · intro other
    rw [isDirectory_set hfree, isDirectory_set hfree', h.isDirectory]
  · intro other hother
    rw [at?_set (ne_nil_of_isDirectory hfree), at?_set (ne_nil_of_isDirectory hfree'),
      h.at? other hother]

end AlikeBut

/-- A file that is set at one of some places leaves a disk as it was but there. -/
lemma alikeBut_set {place : Place} (hfree : d.isDirectory place = false) (hplace : place ∈ W)
    (content : Content) : AlikeBut W d (d.set place (.file content)) := by
  refine ⟨rfl, fun other => isDirectory_set hfree content other, ?_⟩
  intro other hother
  have hne : other ≠ place := by
    rintro rfl
    exact hother hplace
  rw [at?_set (ne_nil_of_isDirectory hfree), if_neg hne]

end Disk

/-! ### Careful jobs -/

/-- The paths that the run of a job asks about, in order. -/
def Store.asked {σ α : Type} (m : Store σ) : Job α → σ → List Path
  | .done _, _ => []
  | .present p next, s => p :: m.asked (next ((m.files s).present p)) s
  | .isFile p next, s => p :: m.asked (next ((m.files s).isFile p)) s
  | .read p next, s => p :: m.asked (next ((m.files s).read p)) s
  | .write p text next, s => m.asked (next ((m.files s).write p text)) (m.after s p text)
  | .canonical p next, s => p :: m.asked (next ((m.files s).canonical p)) s

/-- A path at which some disk has a file. -/
def Path.CanBeFile (p : Path) : Prop := ∃ d : Disk, d.isFile p = true

/-- A job that asks only about paths of one kind, and reads only what it was told to be a file.  The
list holds the paths that it was told so of, and the condition is about the list and the result at
the end. -/
inductive Job.Careful {α : Type} (asks : Path → Prop) (post : List Path → α → Prop) :
    List Path → Job α → Prop where
  | done {known : List Path} {a : α} (h : post known a) : Careful asks post known (.done a)
  | present {known : List Path} {p : Path} {next : Bool → Job α} (hp : asks p)
      (h : ∀ b, Careful asks post known (next b)) :
      Careful asks post known (.present p next)
  | isFile {known : List Path} {p : Path} {next : Bool → Job α} (hp : asks p)
      (hfile : p.CanBeFile → Careful asks post (p :: known) (next true))
      (hnone : Careful asks post known (next false)) :
      Careful asks post known (.isFile p next)
  | read {known : List Path} {p : Path} {next : Except Refusal String → Job α} (hp : p ∈ known)
      (h : ∀ r, Careful asks post known (next r)) :
      Careful asks post known (.read p next)
  | write {known : List Path} (p : Path) (text : String) {next : Except Refusal Unit → Job α}
      (h : ∀ r, Careful asks post known (next r)) :
      Careful asks post known (.write p text next)

section

variable {α β : Type} {asks : Path → Prop} {post : List Path → β → Prop} {known : List Path}
  {t : Job α} {g : α → Job β}

/-- One job after another is careful if the first is, and the second is with what the first has
found out. -/
lemma Job.Careful.bind {mid : List Path → α → Prop} (ht : t.Careful asks mid known)
    (hg : ∀ known a, mid known a → (g a).Careful asks post known) :
    (t.bind g).Careful asks post known := by
  induction ht with
  | done h => exact hg _ _ h
  | present hp _ ih => exact .present hp ih
  | isFile hp _ _ ihfile ihnone => exact .isFile hp ihfile ihnone
  | read hp _ ih => exact .read hp ih
  | write p text _ ih => exact .write p text ih

/-- A job after one of which nothing is needed. -/
lemma Job.Careful.andThen (ht : t.Careful asks (fun _ _ => True) known)
    (hg : ∀ known a, (g a).Careful asks post known) :
    (t.bind g).Careful asks post known :=
  ht.bind fun known a _ => hg known a

end

namespace Disk

variable {α : Type} {asks : Path → Prop} {post : List Path → α → Prop} {W : List Place}
  {d e : Disk}

/-- A run goes on from the disk that an accepted write has made. -/
lemma run_write {d' : Disk} {p : Path} {text : String} (h : d.write p text = .ok d')
    (next : Except Refusal Unit → Job α) :
    store.run (.write p text next) d
      = ⟨(store.run (next (.ok ())) d').result,
          ⟨p, text, .ok ()⟩ :: (store.run (next (.ok ())) d').attempts,
          (store.run (next (.ok ())) d').final⟩ := by
  rw [Store.run, (store_of_ok h).1, (store_of_ok h).2]
  rfl

/-- So it asks what it asks from there. -/
lemma asked_write {d' : Disk} {p : Path} {text : String} (h : d.write p text = .ok d')
    (next : Except Refusal Unit → Job α) :
    store.asked (.write p text next) d = store.asked (next (.ok ())) d' := by
  rw [Store.asked, (store_of_ok h).1, (store_of_ok h).2]

/-- A write whose answer is good leads to another disk. -/
lemma exists_write {p : Path} {text : String} (h : (store.files d).write p text = .ok ()) :
    ∃ d', d.write p text = .ok d' := by
  cases hwrite : d.write p text with
  | ok d' => exact ⟨d', rfl⟩
  | error r =>
    rw [(store_of_error hwrite).1] at h
    cases h

/-- A careful job asks about paths of its kind only. -/
lemma asks_of_mem_asked {t : Job α} {known : List Path} (ht : t.Careful asks post known)
    (hknown : ∀ p ∈ known, asks p) : ∀ q ∈ store.asked t d, asks q := by
  induction ht generalizing d with
  | done => simp [Store.asked]
  | present hp _ ih =>
    intro q hq
    rcases List.mem_cons.mp hq with rfl | hq
    · exact hp
    · exact ih _ hknown q hq
  | @isFile known p next hp _ _ ihfile ihnone =>
    intro q hq
    rcases List.mem_cons.mp hq with rfl | hq
    · exact hp
    · change q ∈ store.asked (next (d.isFile p)) d at hq
      cases hfile : d.isFile p with
      | false =>
        rw [hfile] at hq
        exact ihnone hknown q hq
      | true =>
        rw [hfile] at hq
        refine ihfile ⟨d, hfile⟩ ?_ q hq
        intro r hr
        rcases List.mem_cons.mp hr with rfl | hr
        · exact hp
        · exact hknown r hr
  | read hp _ ih =>
    intro q hq
    rcases List.mem_cons.mp hq with rfl | hq
    · exact hknown q hp
    · exact ih _ hknown q hq
  | write p text _ ih => exact ih _ hknown

/-- **A careful job does the same on disks that are alike where it looks**, if its writes are
accepted on the first and go to places where they may differ. -/
theorem run_congr {t : Job α} {known : List Path} (ht : t.Careful asks post known)
    (h : AlikeBut W d e) (hknown : ∀ p ∈ known, d.isFile p = true ∧ d.destination p ∉ W)
    (hasked : ∀ q ∈ store.asked t d, d.destination q ∉ W)
    (hwrites : ∀ a ∈ (store.run t d).attempts, a.answer = .ok () ∧ d.destination a.path ∈ W) :
    (store.run t e).result = (store.run t d).result ∧
      (store.run t e).attempts = (store.run t d).attempts := by
  induction ht generalizing d e with
  | done => exact ⟨rfl, rfl⟩
  | @present known p next _ _ ih =>
    have hp : d.destination p ∉ W := hasked p List.mem_cons_self
    have hrun : store.run (.present p next) e = store.run (next (d.present p)) e := by
      have hsame : e.present p = d.present p := by rw [Disk.present, Disk.present, h.entry?_eq hp]
      rw [← hsame]
      rfl
    rw [hrun]
    exact ih _ h hknown (fun q hq => hasked q (List.mem_cons_of_mem p hq)) hwrites
  | @isFile known p next _ _ _ ihfile ihnone =>
    have hp : d.destination p ∉ W := hasked p List.mem_cons_self
    have hrun : store.run (.isFile p next) e = store.run (next (d.isFile p)) e := by
      rw [← h.isFile_eq hp]
      rfl
    have hrest : ∀ q ∈ store.asked (next (d.isFile p)) d, d.destination q ∉ W :=
      fun q hq => hasked q (List.mem_cons_of_mem p hq)
    change (store.run _ e).result = (store.run (next (d.isFile p)) d).result ∧
      (store.run _ e).attempts = (store.run (next (d.isFile p)) d).attempts
    change ∀ a ∈ (store.run (next (d.isFile p)) d).attempts, _ at hwrites
    rw [hrun]
    cases hfile : d.isFile p with
    | false =>
      rw [hfile] at hrest hwrites
      exact ihnone h hknown hrest hwrites
    | true =>
      rw [hfile] at hrest hwrites
      refine ihfile ⟨d, hfile⟩ h ?_ hrest hwrites
      intro q hq
      rcases List.mem_cons.mp hq with rfl | hq
      · exact ⟨hfile, hp⟩
      · exact hknown q hq
  | @read known p next hp _ ih =>
    obtain ⟨hfile, hplace⟩ := hknown p hp
    have hrun : store.run (.read p next) e = store.run (next (d.read p)) e := by
      rw [← h.read_eq hplace hfile]
      rfl
    rw [hrun]
    exact ih _ h hknown (fun q hq => hasked q (List.mem_cons_of_mem p hq)) hwrites
  | @write known p text next _ ih =>
    obtain ⟨haccepted, hplace⟩ := hwrites _ List.mem_cons_self
    obtain ⟨d', hwrite⟩ := exists_write haccepted
    obtain ⟨place, htarget, hset⟩ := exists_target hwrite
    have hwrite' : e.write p text = .ok (e.set place (.file (.text text))) := by
      rw [Disk.write, h.target htarget]
      rfl
    obtain ⟨hd', hfree⟩ := eq_set_of_write hwrite
    have hchange : AlikeBut W d d' := by
      rw [hd']
      exact alikeBut_set hfree hplace _
    have halike : AlikeBut W d' (e.set place (.file (.text text))) := by
      rw [hd', destination_of_target htarget]
      exact h.set hfree _
    rw [run_write hwrite] at hwrites ⊢
    rw [run_write hwrite']
    rw [asked_write hwrite] at hasked
    have hrest := ih (.ok ()) halike
      (by
        intro q hq
        obtain ⟨hfile, hq'⟩ := hknown q hq
        exact ⟨by rw [hchange.isFile_eq hq', hfile], by rwa [hchange.destination]⟩)
      (by
        intro q hq
        rw [hchange.destination]
        exact hasked q hq)
      (by
        intro a ha
        rw [hchange.destination]
        exact hwrites a (List.mem_cons_of_mem _ ha))
    exact ⟨hrest.1, congrArg (List.cons _) hrest.2⟩

/-! ### The second run -/

/-- If no write of a run is refused, the run leaves the disk as it was but where its writes lead. -/
lemma alikeBut_final (t : Job α)
    (hwrites : ∀ a ∈ (store.run t d).attempts, a.answer = .ok () ∧ d.destination a.path ∈ W) :
    AlikeBut W d (store.run t d).final := by
  induction t generalizing d with
  | done a => exact .refl d
  | present p next ih => exact ih _ hwrites
  | isFile p next ih => exact ih _ hwrites
  | read p next ih => exact ih _ hwrites
  | write p text next ih =>
    obtain ⟨haccepted, hplace⟩ := hwrites _ List.mem_cons_self
    obtain ⟨d', hwrite⟩ := exists_write haccepted
    obtain ⟨hd', hfree⟩ := eq_set_of_write hwrite
    have hchange : AlikeBut W d d' := by
      rw [hd']
      exact alikeBut_set hfree hplace _
    rw [run_write hwrite] at hwrites ⊢
    refine hchange.trans (ih _ ?_)
    intro a ha
    rw [hchange.destination]
    exact hwrites a (List.mem_cons_of_mem _ ha)
  | canonical p next ih => exact ih _ hwrites

/-- The entries that attempts set, if none is refused. -/
def settings (d : Disk) (tried : List Attempt) : List (Place × Entry) :=
  tried.map fun a => (d.destination a.path, .file (.text a.text))

/-- If no write of a run is refused, the run makes its writes to the entries of the disk. -/
lemma final_eq (t : Job α) (hwrites : ∀ a ∈ (store.run t d).attempts, a.answer = .ok ()) :
    (store.run t d).final
      = { d with entries := overwrite d.entries (d.settings (store.run t d).attempts) } := by
  induction t generalizing d with
  | done a => rfl
  | present p next ih => exact ih _ hwrites
  | isFile p next ih => exact ih _ hwrites
  | read p next ih => exact ih _ hwrites
  | write p text next ih =>
    obtain ⟨d', hwrite⟩ := exists_write (hwrites _ List.mem_cons_self)
    obtain ⟨rfl, -⟩ := eq_set_of_write hwrite
    rw [run_write hwrite] at hwrites ⊢
    exact ih _ fun a ha => hwrites a (List.mem_cons_of_mem _ ha)
  | canonical p next ih => exact ih _ hwrites

/-- **A careful job that is run again does the same again.**  Let no write of the first run be
refused, and let none lead to a place where the run has looked.  Then the run from the disk that it
left has the same result and makes the same writes, and it leaves that disk exactly as it is. -/
theorem run_again {t : Job α} (ht : t.Careful asks post [])
    (haccepted : ∀ a ∈ (store.run t d).attempts, a.answer = .ok ())
    (hapart : ∀ a ∈ (store.run t d).attempts, ∀ q ∈ store.asked t d,
      d.destination a.path ≠ d.destination q) :
    store.run t (store.run t d).final = store.run t d := by
  set first := store.run t d with hfirst
  set W := first.attempts.map fun a => d.destination a.path with hW
  have hwrites : ∀ a ∈ first.attempts, a.answer = .ok () ∧ d.destination a.path ∈ W :=
    fun a ha => ⟨haccepted a ha, List.mem_map.mpr ⟨a, ha, rfl⟩⟩
  have hasked : ∀ q ∈ store.asked t d, d.destination q ∉ W := by
    intro q hq hmem
    obtain ⟨a, ha, heq⟩ := List.mem_map.mp hmem
    exact hapart a ha q hq heq
  have halike : AlikeBut W d first.final := alikeBut_final t hwrites
  obtain ⟨hresult, hattempts⟩ := run_congr ht halike (by simp) hasked hwrites
  have hfinal : first.final
      = { d with entries := overwrite d.entries (d.settings first.attempts) } :=
    final_eq t haccepted
  have hsecond : (store.run t first.final).final = first.final := by
    rw [final_eq t (by rw [hattempts]; exact haccepted), hattempts]
    have hsettings : first.final.settings first.attempts = d.settings first.attempts := by
      simp only [settings, halike.destination]
    rw [hsettings, hfinal, overwrite_overwrite]
  exact Run.ext hresult hattempts hsecond

end Disk

end PageConfig
