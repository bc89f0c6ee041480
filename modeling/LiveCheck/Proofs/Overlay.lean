import Mathlib.Logic.Function.Basic
import LiveCheck.Proofs.Discarding
import LiveCheck.Proofs.Disk.Listing
import LiveCheck.Proofs.Encoding
import LiveCheck.Proofs.Saving

/-!
# Documents as an overlay

Without the disk an editor is two tables: every path may have a text that is pending, and a text
that is saved.  An edit sets the pending text, discarding drops it, and a save makes it the saved
one.  Documents on a disk are such an overlay as long as the files that are edited have different
places and their texts can be read.  `Holds` is the relation between the two.  Every change that
succeeds keeps it (`Holds.step`), so it holds after any number of them (`Holds.run`), and what the
documents answer is read off it (`Holds.refines`).

What a change leaves alone needs no overlay.  Only the place of its file is written, so whatever
leads elsewhere looks the same, and so does every directory that does not hold the file.
-/

namespace LiveCheck

/-- The texts that are pending and the texts that are saved, by path. -/
structure Overlay where
  pending : String → Option String
  saved : String → Option String

namespace Overlay

/-! ### Changes -/

/-- A change of one file. -/
inductive Change where
  | edit (path text : String)
  | discard (path : String)
  | save (path : String)
deriving DecidableEq, Repr

/-- The path that is named by a change. -/
def Change.path : Change → String
  | .edit path _ | .discard path | .save path => path

/-- The text under a path: the pending one, or else the saved one. -/
def text? (o : Overlay) (path : String) : Option String := (o.pending path).or (o.saved path)

/-- A pending text differs from what is saved. -/
def Modified (o : Overlay) (path : String) : Prop :=
  ∃ text, o.pending path = some text ∧ o.saved path ≠ some text

/-- The overlay after a change. -/
def after (cwd : String) (o : Overlay) : Change → Overlay
  | .edit path text =>
    { o with pending := Function.update o.pending (Path.normalize cwd path) (some text) }
  | .discard path => { o with pending := Function.update o.pending (Path.normalize cwd path) none }
  | .save path =>
    { pending := Function.update o.pending (Path.normalize cwd path) none
      saved := Function.update o.saved (Path.normalize cwd path)
        (o.text? (Path.normalize cwd path)) }

section After

variable {o : Overlay} (cwd path p : String)

/-- The pending texts after an edit. -/
theorem pending_after_edit (text : String) : (o.after cwd (.edit path text)).pending p =
    if p = Path.normalize cwd path then some text else o.pending p :=
  Function.update_apply _ _ _ _

/-- The pending texts after an edit was discarded. -/
theorem pending_after_discard : (o.after cwd (.discard path)).pending p =
    if p = Path.normalize cwd path then none else o.pending p :=
  Function.update_apply _ _ _ _

/-- The pending texts after a save. -/
theorem pending_after_save : (o.after cwd (.save path)).pending p =
    if p = Path.normalize cwd path then none else o.pending p :=
  Function.update_apply _ _ _ _

/-- The saved texts after a save. -/
theorem saved_after_save : (o.after cwd (.save path)).saved p =
    if p = Path.normalize cwd path then o.text? p else o.saved p := by
  unfold after
  dsimp only
  rw [Function.update_apply]
  split
  · next here => rw [here]
  · rfl

/-- A save does not change the text that is shown. -/
theorem text?_after_save : (o.after cwd (.save path)).text? p = o.text? p := by
  have unfolded : (o.after cwd (.save path)).text? p =
      ((o.after cwd (.save path)).pending p).or ((o.after cwd (.save path)).saved p) := rfl
  rw [unfolded, pending_after_save, saved_after_save]
  by_cases here : p = Path.normalize cwd path
  · rw [if_pos here, if_pos here, Option.none_or]
  · rw [if_neg here, if_neg here]
    rfl

/-- A change leaves what is saved under other paths as it is. -/
theorem saved_after_of_ne {p : String} {change : Change}
    (other : p ≠ Path.normalize cwd change.path) : (o.after cwd change).saved p = o.saved p := by
  cases change with
  | edit | discard => rfl
  | save path => exact (saved_after_save cwd path p).trans (if_neg other)

end After

/-- Change documents on a disk. -/
def Change.perform (cwd : String) (docs : Documents) (disk : Disk) :
    Change → Except Fault (Documents × Disk)
  | .edit path text => .ok ((docs.edit cwd path text none).2, disk)
  | .discard path => .ok (docs.discard (Handle.forPath cwd path), disk)
  | .save path =>
    match docs.save disk cwd (Handle.forPath cwd path) with
    | (.ok (), docs, disk) => .ok (docs, disk)
    | (.error fault, _) => .error fault

/-- One change after the other, as long as they succeed. -/
def performAll (cwd : String) :
    Documents → Disk → List Change → Except Fault (Documents × Disk)
  | docs, disk, [] => .ok (docs, disk)
  | docs, disk, change :: rest => do
    let (docs, disk) ← change.perform cwd docs disk
    performAll cwd docs disk rest

variable {cwd path : String} {docs docs' : Documents} {disk disk' : Disk} {change : Change}

/-- What a change that succeeds has done. -/
inductive Performed (cwd : String) (docs : Documents) (disk : Disk) :
    Change → Documents → Disk → Prop where
  | edited (path text : String) :
      Performed cwd docs disk (.edit path text) (docs.edit cwd path text none).2 disk
  | discarded (path : String) :
      Performed cwd docs disk (.discard path) (docs.discard (Handle.forPath cwd path)) disk
  | idle {path : String} (closed : docs.buffers.get? (Path.normalize cwd path) = none) :
      Performed cwd docs disk (.save path) docs disk
  | saved {path text : String} {place : Place} {opened : Disk} {codec : Encoding.Codec}
      {bytes : List UInt8} (unsaved : docs.buffers.get? (Path.normalize cwd path) = some text)
      (opening : disk.openEmpty cwd (Path.normalize cwd path) = .ok (place, opened))
      (found : docs.codecs.find (docs.encodingOf (Handle.forPath cwd path)) = .ok codec)
      (fits : codec.encode text.toList = .ok bytes) :
      Performed cwd docs disk (.save path) (docs.discard (Handle.forPath cwd path))
        (opened.fill place bytes)

/-- A change that succeeds has done one of these. -/
theorem performed_of_perform (done : change.perform cwd docs disk = .ok (docs', disk')) :
    Performed cwd docs disk change docs' disk' := by
  cases change with
  | edit path text =>
    cases done
    exact .edited path text
  | discard path =>
    cases done
    exact .discarded path
  | save path =>
    unfold Change.perform at done
    dsimp only at done
    rcases Documents.save_cases docs disk cwd (Handle.forPath cwd path) with
      ⟨closed, same⟩ | ⟨text, unsaved, saved⟩
    · rw [same] at done
      cases done
      exact .idle closed
    · generalize docs.save disk cwd (Handle.forPath cwd path) = result at saved done
      cases saved with
      | unopened fault shut => cases done
      | emptied fault opens eq unfit => cases done
      | written opens opening fit =>
        cases done
        obtain ⟨codec, found, fits⟩ := bind_eq_ok.1 (show _ >>= _ = _ from fit)
        exact .saved unsaved opening found fits

/-- No change makes an encoding known or unknown. -/
theorem Performed.codecs_eq (done : Performed cwd docs disk change docs' disk') :
    docs'.codecs = docs.codecs := by
  cases done <;> rfl

/-- No change declares an encoding. -/
theorem Performed.encodingOf (done : Performed cwd docs disk change docs' disk') (h : Handle) :
    docs'.encodingOf h = docs.encodingOf h := by
  cases done <;> rfl

/-- The unsaved texts of other files stay. -/
theorem Performed.buffers_of_ne (done : Performed cwd docs disk change docs' disk') {p : String}
    (other : p ≠ Path.normalize cwd change.path) :
    docs'.buffers.get? p = docs.buffers.get? p := by
  cases done with
  | edited path text => exact Table.get?_put_of_ne _ _ other
  | discarded | saved => exact (Table.get?_remove _ _ _).trans (if_neg other)
  | idle => rfl

/-- The same for a selection of all unsaved files. -/
theorem Performed.filter_keys (done : Performed cwd docs disk change docs' disk')
    {selected : String → Bool} (out : selected (Path.normalize cwd change.path) = false) :
    docs'.buffers.keys.filter selected = docs.buffers.keys.filter selected := by
  cases done with
  | edited path text => exact Table.filter_keys_put _ out text
  | discarded | saved => exact Table.filter_keys_remove _ out
  | idle => rfl

/-- Every path leads to the same place as before. -/
theorem Performed.ways (done : Performed cwd docs disk change docs' disk') :
    Disk.SameWays disk disk' := by
  cases done with
  | edited | discarded | idle => exact .refl disk
  | saved unsaved opening found fits =>
    obtain ⟨-, ways, -⟩ := Disk.fill_of_openEmpty opening _
    exact ways

/-- Only the place of the file is written. -/
theorem Performed.entry?_of_ne (done : Performed cwd docs disk change docs' disk') {q : Place}
    (elsewhere : disk.target? cwd (Path.normalize cwd change.path) ≠ some q) :
    disk'.entry? q = disk.entry? q := by
  cases done with
  | edited | discarded | idle => rfl
  | saved unsaved opening found fits =>
    obtain ⟨leads, -, entries⟩ := Disk.fill_of_openEmpty opening _
    rw [entries]
    apply if_neg
    rintro rfl
    exact elsewhere leads

/-! ### What a change leaves alone -/

/-- What can be seen of one file. -/
structure Sight where
  current : Except Fault String
  onDisk : Except Fault (Option String)
  modified : Except Fault Bool
  encoding : String
  resolved : Option Handle

/-- What is seen of the file under a path. -/
def sight (docs : Documents) (disk : Disk) (cwd path : String) : Sight where
  current := docs.currentText disk cwd (Handle.forPath cwd path)
  onDisk := docs.diskText disk cwd (Handle.forPath cwd path)
  modified := docs.isModified disk cwd (Handle.forPath cwd path)
  encoding := docs.encodingOf (Handle.forPath cwd path)
  resolved := docs.resolve disk cwd path

/-- A file looks the same with the same buffer and encoding, if its path leads to the same. -/
theorem sight_congr (codecs : docs'.codecs = docs.codecs)
    (buffer : docs'.buffers.get? (Handle.forPath cwd path).path =
      docs.buffers.get? (Handle.forPath cwd path).path)
    (encoding : docs'.encodingOf (Handle.forPath cwd path) =
      docs.encodingOf (Handle.forPath cwd path))
    (there : disk'.lookUp? cwd (Handle.forPath cwd path).path =
      disk.lookUp? cwd (Handle.forPath cwd path).path) :
    sight docs' disk' cwd path = sight docs disk cwd path := by
  have onDisk : docs'.diskText disk' cwd (Handle.forPath cwd path) =
      docs.diskText disk cwd (Handle.forPath cwd path) :=
    (Documents.diskText_of_encoding codecs encoding).trans (Documents.diskText_congr there)
  have current : docs'.currentText disk' cwd (Handle.forPath cwd path) =
      docs.currentText disk cwd (Handle.forPath cwd path) :=
    (Documents.currentText_of_encoding codecs buffer encoding).trans
      (Documents.currentText_congr there)
  have modified : docs'.isModified disk' cwd (Handle.forPath cwd path) =
      docs.isModified disk cwd (Handle.forPath cwd path) :=
    (Documents.isModified_of_encoding codecs buffer fun _ => encoding).trans
      (Documents.isModified_congr there)
  have file : disk'.isFile cwd (Handle.forPath cwd path).path =
      disk.isFile cwd (Handle.forPath cwd path).path := by
    unfold Disk.isFile
    rw [there]
  have unsaved : docs'.buffers.has (Handle.forPath cwd path).path =
      docs.buffers.has (Handle.forPath cwd path).path := by
    rw [Table.has_eq_isSome_get?, buffer, Table.has_eq_isSome_get?]
  have resolved : docs'.resolve disk' cwd path = docs.resolve disk cwd path := by
    unfold Documents.resolve
    dsimp only
    rw [file, unsaved]
  unfold sight
  rw [onDisk, current, modified, resolved, encoding]

/-- A change leaves the files under other paths that lead elsewhere as they were. -/
theorem Performed.sight_eq (done : Performed cwd docs disk change docs' disk')
    (other : Path.normalize cwd path ≠ Path.normalize cwd change.path)
    (elsewhere : ∀ place, disk.target? cwd (Path.normalize cwd path) = some place →
      disk.target? cwd (Path.normalize cwd change.path) ≠ some place) :
    sight docs' disk' cwd path = sight docs disk cwd path := by
  apply sight_congr done.codecs_eq (done.buffers_of_ne other) (done.encodingOf _)
  apply done.ways.lookUp?_eq
  intro place leads
  exact done.entry?_of_ne (elsewhere place leads)

/-- The directory does not hold the file that is changed, neither by the path nor on the disk. -/
structure Outside (cwd : String) (disk : Disk) (change : Change) (directory : String) : Prop where
  path : Path.directory (Path.normalize cwd change.path) ≠ directory
  place : ∀ place, disk.target? cwd (Path.normalize cwd change.path) = some place →
    disk.target? cwd directory ≠ some place.dropLast

/-- A directory that does not hold the file is listed as before. -/
theorem Performed.children_eq (done : Performed cwd docs disk change docs' disk')
    (directory : disk.isDirectory cwd (Path.normalize cwd path) = true)
    (outside : Outside cwd disk change (Path.normalize cwd path)) :
    docs'.children disk' cwd path = docs.children disk cwd path := by
  obtain ⟨place, leads, there⟩ := Disk.isDirectory_iff.1 directory
  have listed : disk.list cwd (Path.normalize cwd path) = .ok (disk.namesIn place) :=
    Disk.list_eq_ok.2 ⟨place, leads, there, rfl⟩
  have listed' : disk'.list cwd (Path.normalize cwd path) = .ok (disk.namesIn place) := by
    refine Disk.list_eq_ok.2 ⟨place, ?_, ?_, ?_⟩
    · rw [done.ways.target?_eq, leads]
    · exact (done.ways place .directory (by simp)).2 there
    · cases done with
      | edited | discarded | idle => rfl
      | @saved _ _ target _ _ _ unsaved opening found fits =>
        have leads' := (Disk.target?_of_openEmpty opening).1
        have other : target.dropLast ≠ place := by
          rintro rfl
          exact outside.place target leads' leads
        exact (Disk.namesIn_of_openEmpty opening other _).symm
  unfold Documents.children
  dsimp only
  rw [listed, listed']
  refine congrArg (fun unsaved => Except.ok (_ ++ unsaved)) (done.filter_keys ?_)
  exact decide_eq_false fun inside => outside.path inside.1

/-! ### The overlay that documents are -/

variable {files : String → Prop} {o : Overlay}

/-- Different files have different places, as far as their paths lead to any. -/
def Apart (cwd : String) (files : String → Prop) (disk : Disk) : Prop :=
  ∀ p q, files p → files q → p ≠ q →
    ∀ place, disk.target? cwd p = some place → disk.target? cwd q ≠ some place

/-- Documents on a disk have the texts of an overlay: all that are pending, and of the files those
that are saved. -/
structure Holds (cwd : String) (files : String → Prop) (o : Overlay) (docs : Documents)
    (disk : Disk) : Prop where
  faithful : docs.codecs.Faithful
  sound : disk.Sound
  apart : Apart cwd files disk
  nodup : docs.buffers.keys.Nodup
  pending : ∀ p, docs.buffers.get? p = o.pending p
  saved : ∀ p, files p → docs.diskText disk cwd { path := p } = .ok (o.saved p)

/-- The pending texts after a change. -/
theorem Performed.pending_eq (done : Performed cwd docs disk change docs' disk')
    (pending : ∀ p, docs.buffers.get? p = o.pending p) (p : String) :
    docs'.buffers.get? p = (o.after cwd change).pending p := by
  have removed (path : String) : (docs.buffers.remove (Path.normalize cwd path)).get? p =
      if p = Path.normalize cwd path then none else o.pending p := by
    rw [Table.get?_remove, pending]
  cases done with
  | edited path text =>
    have buffers : (docs.edit cwd path text none).2.buffers =
        docs.buffers.put (Path.normalize cwd path) text := rfl
    rw [pending_after_edit, buffers]
    by_cases here : p = Path.normalize cwd path
    · rw [if_pos here, here, Table.get?_put_self]
    · rw [if_neg here, Table.get?_put_of_ne _ _ here, pending]
  | discarded path =>
    rw [pending_after_discard]
    exact removed path
  | @saved path =>
    rw [pending_after_save]
    exact removed path
  | @idle path closed =>
    rw [pending_after_save]
    by_cases here : p = Path.normalize cwd path
    · rw [if_pos here, here, closed]
    · rw [if_neg here, pending]

/-- A file that is saved has its text on the disk. -/
theorem diskText_written {place : Place} {opened : Disk} {codec : Encoding.Codec} {text : String}
    {bytes : List UInt8} (faithful : docs.codecs.Faithful)
    (opening : disk.openEmpty cwd (Path.normalize cwd path) = .ok (place, opened))
    (found : docs.codecs.find (docs.encodingOf (Handle.forPath cwd path)) = .ok codec)
    (fits : codec.encode text.toList = .ok bytes) :
    docs.diskText (opened.fill place bytes) cwd (Handle.forPath cwd path) = .ok (some text) := by
  obtain ⟨leads, ways, entries⟩ := Disk.fill_of_openEmpty opening bytes
  have written : (opened.fill place bytes).lookUp? cwd (Path.normalize cwd path) =
      some (.file bytes) := by
    rw [Disk.lookUp?_eq_bind, ways.target?_eq, leads, Option.bind_some, entries, if_pos rfl]
  have decoded := faithful.decode_of_encode found fits
  exact Documents.diskText_eq_some.2 ⟨bytes, codec, written, found, decoded⟩

/-- The saved text of the file after a change: only a save of a pending text makes another one. -/
theorem Performed.saved_eq (done : Performed cwd docs disk change docs' disk')
    (faithful : docs.codecs.Faithful)
    (pending : ∀ p, docs.buffers.get? p = o.pending p)
    (saved : docs.diskText disk cwd (Handle.forPath cwd change.path) =
      .ok (o.saved (Path.normalize cwd change.path))) :
    docs'.diskText disk' cwd (Handle.forPath cwd change.path) =
      .ok ((o.after cwd change).saved (Path.normalize cwd change.path)) := by
  cases done with
  | edited path text =>
    have encoding : (docs.edit cwd path text none).2.encodingOf (Handle.forPath cwd path) =
        docs.encodingOf (Handle.forPath cwd path) := rfl
    exact (Documents.diskText_of_encoding rfl encoding).trans saved
  | discarded path =>
    have encoding : (docs.discard (Handle.forPath cwd path)).encodingOf (Handle.forPath cwd path) =
        docs.encodingOf (Handle.forPath cwd path) := rfl
    exact (Documents.diskText_of_encoding rfl encoding).trans saved
  | @idle path closed =>
    have kept : o.text? (Path.normalize cwd path) = o.saved (Path.normalize cwd path) := by
      rw [text?, ← pending, closed, Option.none_or]
    have same : Path.normalize cwd (Change.save path).path = Path.normalize cwd path := rfl
    rw [same, saved_after_save, if_pos rfl, kept]
    exact saved
  | @saved path text place opened codec bytes unsaved opening found fits =>
    have moved : o.text? (Path.normalize cwd path) = some text := by
      rw [text?, ← pending, unsaved, Option.some_or]
    have same : Path.normalize cwd (Change.save path).path = Path.normalize cwd path := rfl
    rw [same, saved_after_save, if_pos rfl, moved]
    exact diskText_written faithful opening found fits

/-- A disk stays sound. -/
theorem Performed.sound (done : Performed cwd docs disk change docs' disk') (sound : disk.Sound) :
    disk'.Sound := by
  cases done with
  | edited | discarded | idle => exact sound
  | saved unsaved opening found fits => exact sound.written opening _

/-- No file gets a second buffer. -/
theorem Performed.nodup (done : Performed cwd docs disk change docs' disk')
    (nodup : docs.buffers.keys.Nodup) : docs'.buffers.keys.Nodup := by
  cases done with
  | edited => exact Table.nodup_keys_put nodup _ _
  | discarded | saved => exact Table.nodup_keys_remove nodup _
  | idle => exact nodup

/-- After a change of one of the files documents have the texts that the overlay has. -/
theorem Holds.step (holds : Holds cwd files o docs disk)
    (file : files (Path.normalize cwd change.path))
    (done : Performed cwd docs disk change docs' disk') :
    Holds cwd files (o.after cwd change) docs' disk' where
  faithful := done.codecs_eq ▸ holds.faithful
  sound := done.sound holds.sound
  nodup := done.nodup holds.nodup
  pending := done.pending_eq holds.pending
  apart p q hp hq other place leads := by
    rw [done.ways.target?_eq] at leads ⊢
    exact holds.apart p q hp hq other place leads
  saved p hp := by
    by_cases here : p = Path.normalize cwd change.path
    · subst here
      exact done.saved_eq holds.faithful holds.pending (holds.saved _ file)
    · have there : disk'.lookUp? cwd p = disk.lookUp? cwd p := by
        apply done.ways.lookUp?_eq
        intro place leads
        exact done.entry?_of_ne (holds.apart p _ hp file here place leads)
      rw [saved_after_of_ne cwd here, ← holds.saved p hp]
      exact (Documents.diskText_of_encoding done.codecs_eq (done.encodingOf _)).trans
        (Documents.diskText_congr there)

/-- An editor in which nothing is open has no pending texts. -/
theorem holds_fresh {codecs : Encoding.Codecs} {encoding : String} {saved : String → Option String}
    (faithful : codecs.Faithful) (sound : disk.Sound) (apart : Apart cwd files disk)
    (shows : ∀ p, files p →
      (Documents.fresh encoding codecs).diskText disk cwd { path := p } = .ok (saved p)) :
    Holds cwd files { pending := fun _ => none, saved } (Documents.fresh encoding codecs) disk where
  faithful := faithful
  sound := sound
  apart := apart
  nodup := List.nodup_nil
  pending := fun _ => rfl
  saved := shows

/-- And so after any number of changes. -/
theorem Holds.run (holds : Holds cwd files o docs disk) {changes : List Change}
    (known : ∀ change ∈ changes, files (Path.normalize cwd change.path))
    (done : performAll cwd docs disk changes = .ok (docs', disk')) :
    Holds cwd files (changes.foldl (after cwd) o) docs' disk' := by
  induction changes generalizing o docs disk with
  | nil =>
    cases done
    exact holds
  | cons change rest ih =>
    obtain ⟨⟨docs₁, disk₁⟩, first, others⟩ := bind_eq_ok.1 (show _ >>= _ = _ from done)
    have next := holds.step (known change List.mem_cons_self) (performed_of_perform first)
    exact ih next (fun c hc => known c (List.mem_cons_of_mem _ hc)) others

/-! ### What documents answer -/

/-- The text that is shown under a path, or the fault that there is none. -/
def current (o : Overlay) (path : String) : Except Fault String :=
  match o.text? path with
  | some text => .ok text
  | none => .error (.noSuchDocument path)

/-- Documents on a disk answer what an overlay tells of the files, and list a directory as what the
disk has in it and the pending files of it, all of them once. -/
structure Refines (cwd : String) (files : String → Prop) (o : Overlay) (docs : Documents)
    (disk : Disk) : Prop where
  current : ∀ path, files (Path.normalize cwd path) →
    docs.currentText disk cwd (Handle.forPath cwd path) = o.current (Path.normalize cwd path)
  onDisk : ∀ path, files (Path.normalize cwd path) →
    docs.diskText disk cwd (Handle.forPath cwd path) = .ok (o.saved (Path.normalize cwd path))
  modified : ∀ path, files (Path.normalize cwd path) →
    ∃ b, docs.isModified disk cwd (Handle.forPath cwd path) = .ok b ∧
      (b = true ↔ o.Modified (Path.normalize cwd path))
  resolved : ∀ path, files (Path.normalize cwd path) →
    docs.resolve disk cwd path =
      if (o.text? (Path.normalize cwd path)).isSome then some (Handle.forPath cwd path) else none
  children : ∀ path, disk.isDirectory cwd (Path.normalize cwd path) = true →
    ∃ names listed, disk.list cwd (Path.normalize cwd path) = .ok names ∧
      docs.children disk cwd path = .ok listed ∧ listed.Nodup ∧
      ∀ p, p ∈ listed ↔
        p ∈ names.map (fun name => Path.join (Path.normalize cwd path) (String.ofList name)) ∨
          (o.pending p).isSome = true ∧ Path.directory p = Path.normalize cwd path

/-- The text that is shown is the pending one, or else the saved one. -/
theorem Holds.current_eq (holds : Holds cwd files o docs disk) {p : String} (file : files p) :
    docs.currentText disk cwd { path := p } = o.current p := by
  unfold Documents.currentText Overlay.current text?
  dsimp only
  rw [holds.pending, holds.saved p file]
  cases o.pending p with
  | some text => rfl
  | none => cases o.saved p <;> rfl

/-- A file is modified if its pending text differs from the saved one. -/
theorem Holds.modified_iff (holds : Holds cwd files o docs disk) {p : String} (file : files p) :
    ∃ b, docs.isModified disk cwd { path := p } = .ok b ∧ (b = true ↔ o.Modified p) := by
  unfold Documents.isModified Modified
  dsimp only
  rw [holds.pending, holds.saved p file]
  cases pending : o.pending p with
  | none => exact ⟨false, rfl, by simp⟩
  | some text =>
    refine ⟨_, rfl, ?_⟩
    rw [decide_eq_true_iff]
    constructor
    · intro differs
      exact ⟨text, rfl, differs.symm⟩
    · rintro ⟨_, ⟨⟩, differs⟩
      exact differs.symm

/-- A path leads to a file that has a text. -/
theorem Holds.resolve_eq (holds : Holds cwd files o docs disk)
    (file : files (Path.normalize cwd path)) :
    docs.resolve disk cwd path =
      if (o.text? (Path.normalize cwd path)).isSome then some (Handle.forPath cwd path)
      else none := by
  have on_disk := Documents.isFile_of_diskText (holds.saved _ file)
  unfold Documents.resolve Handle.forPath text?
  dsimp only at on_disk ⊢
  rw [Table.has_eq_isSome_get?, holds.pending, on_disk, Option.isSome_or]

/-- A directory has what stands in it on the disk, and the pending files in it. -/
theorem Holds.children_of_directory (holds : Holds cwd files o docs disk)
    (directory : disk.isDirectory cwd (Path.normalize cwd path) = true) :
    ∃ names listed, disk.list cwd (Path.normalize cwd path) = .ok names ∧
      docs.children disk cwd path = .ok listed ∧ listed.Nodup ∧
      ∀ p, p ∈ listed ↔
        p ∈ names.map (fun name => Path.join (Path.normalize cwd path) (String.ofList name)) ∨
          (o.pending p).isSome = true ∧ Path.directory p = Path.normalize cwd path := by
  obtain ⟨names, listed⟩ := Disk.exists_list directory
  have children : docs.children disk cwd path = _ := bind_eq_ok.2 ⟨names, listed, rfl⟩
  refine ⟨names, _, listed, children, ?_, fun p => ?_⟩
  · apply List.Nodup.append (holds.sound.nodup_paths listed _) (holds.nodup.filter _)
    intro p on_disk unsaved
    have kept := (List.mem_filter.1 unsaved).2
    rw [decide_eq_true_iff] at kept
    exact kept.2 on_disk
  · rw [List.mem_append, List.mem_filter, Table.mem_keys_iff, holds.pending, decide_eq_true_iff]
    constructor
    · rintro (on_disk | ⟨unsaved, inside, -⟩)
      · exact .inl on_disk
      · exact .inr ⟨unsaved, inside⟩
    · rintro (on_disk | ⟨unsaved, inside⟩)
      · exact .inl on_disk
      · by_cases both :
          p ∈ names.map fun name => Path.join (Path.normalize cwd path) (String.ofList name)
        · exact .inl both
        · exact .inr ⟨unsaved, inside, both⟩

/-- Documents that have the texts of an overlay answer accordingly. -/
theorem Holds.refines (holds : Holds cwd files o docs disk) : Refines cwd files o docs disk where
  current _ file := holds.current_eq file
  onDisk _ file := holds.saved _ file
  modified _ file := holds.modified_iff file
  resolved _ file := holds.resolve_eq file
  children _ directory := holds.children_of_directory directory

/-- Whatever changes of the files succeed, from an editor in which nothing is open: documents answer
what the overlay tells after these changes.  Whatever change succeeds next, they answer what the
overlay tells then; a save leaves the text that is shown; every other file looks the same, and
every directory that does not hold the file is listed as before.

All encodings read back what they write, whatever encodings there are and whichever of them is the
default one.  The files have different places, all texts that are saved at first can be read, and
the disk is sound. -/
theorem refines_of_performAll {codecs : Encoding.Codecs} {encoding : String}
    {saved : String → Option String} {changes : List Change} (faithful : codecs.Faithful)
    (sound : disk.Sound) (apart : Apart cwd files disk)
    (shows : ∀ p, files p →
      (Documents.fresh encoding codecs).diskText disk cwd { path := p } = .ok (saved p))
    (known : ∀ change ∈ changes, files (Path.normalize cwd change.path))
    (done : performAll cwd (Documents.fresh encoding codecs) disk changes = .ok (docs, disk')) :
    let o := changes.foldl (after cwd) { pending := fun _ => none, saved }
    Refines cwd files o docs disk' ∧
    ∀ change docs₂ disk₂, files (Path.normalize cwd change.path) →
      change.perform cwd docs disk' = .ok (docs₂, disk₂) →
        Refines cwd files (o.after cwd change) docs₂ disk₂ ∧
        (∀ path, change = .save path →
          docs₂.currentText disk₂ cwd (Handle.forPath cwd path) =
            docs.currentText disk' cwd (Handle.forPath cwd path)) ∧
        (∀ path, files (Path.normalize cwd path) →
          Path.normalize cwd path ≠ Path.normalize cwd change.path →
            sight docs₂ disk₂ cwd path = sight docs disk' cwd path) ∧
        ∀ path, disk'.isDirectory cwd (Path.normalize cwd path) = true →
          Outside cwd disk' change (Path.normalize cwd path) →
            docs₂.children disk₂ cwd path = docs.children disk' cwd path := by
  intro o
  have start := holds_fresh faithful sound apart shows
  have holds : Holds cwd files o docs disk' := start.run known done
  refine ⟨holds.refines, fun change docs₂ disk₂ file next => ?_⟩
  have performed := performed_of_perform next
  have holds₂ := holds.step file performed
  refine ⟨holds₂.refines, ?saves, ?others, ?directories⟩
  case saves =>
    rintro path rfl
    have after := holds₂.refines.current path file
    have before := holds.refines.current path file
    rw [after, before, Overlay.current, text?_after_save]
    rfl
  case others =>
    intro path hpath other
    apply performed.sight_eq other
    intro place leads
    exact holds.apart _ _ hpath file other place leads
  case directories =>
    intro path directory outside
    exact performed.children_eq directory outside

/-- A directory with one file. -/
def oneFile : Disk :=
  { entries := [(["p".toList], .directory), (["p".toList, "a.py".toList], .file [0x78])] }

/-- The file, and one that is made. -/
def TwoPaths (p : String) : Prop := p = "/p/a.py" ∨ p = "/p/b.py"

/-- What is saved at first. -/
def savedFirst (p : String) : Option String := if p = "/p/a.py" then some "x" else none

/-- One edit is discarded and made again, and the other one is saved. -/
def someChanges : List Change :=
  [.edit "a.py" "y", .edit "/p/b.py" "z", .save "b.py", .discard "/p/a.py", .edit "a.py" "w"]

/-- The first file is modified, and the second one is on the disk. -/
theorem refines_someChanges :
    oneFile.Sound ∧ Apart "/p" TwoPaths oneFile ∧
    ∃ docs disk, performAll "/p" (Documents.fresh "utf-8") oneFile someChanges = .ok (docs, disk) ∧
      docs.currentText disk "/p" { path := "/p/a.py" } = .ok "w" ∧
      docs.diskText disk "/p" { path := "/p/a.py" } = .ok (some "x") ∧
      docs.currentText disk "/p" { path := "/p/b.py" } = .ok "z" ∧
      docs.diskText disk "/p" { path := "/p/b.py" } = .ok (some "z") := by
  have sound : oneFile.Sound := ⟨by decide, by decide⟩
  have first : oneFile.target? "/p" "/p/a.py" = some ["p".toList, "a.py".toList] := by
    decide +kernel
  have second : oneFile.target? "/p" "/p/b.py" = some ["p".toList, "b.py".toList] := by
    decide +kernel
  have apart : Apart "/p" TwoPaths oneFile := by
    rintro p q (rfl | rfl) (rfl | rfl) other place leads
    · exact absurd rfl other
    · rw [← leads, first, second]
      decide
    · rw [← leads, first, second]
      decide
    · exact absurd rfl other
  have shows : ∀ p, TwoPaths p →
      (Documents.fresh "utf-8").diskText oneFile "/p" { path := p } = .ok (savedFirst p) := by
    rintro p (rfl | rfl) <;> decide +kernel
  have known : ∀ change ∈ someChanges, TwoPaths (Path.normalize "/p" change.path) := by
    unfold TwoPaths
    decide +kernel
  have succeeds : (performAll "/p" (Documents.fresh "utf-8") oneFile someChanges).isOk = true := by
    decide +kernel
  cases done : performAll "/p" (Documents.fresh "utf-8") oneFile someChanges with
  | error fault =>
    rw [done] at succeeds
    cases succeeds
  | ok result =>
    obtain ⟨docs, disk⟩ := result
    obtain ⟨answers, -⟩ :=
      refines_of_performAll Encoding.Codecs.builtin_faithful sound apart shows known done
    have current := answers.current
    have onDisk := answers.onDisk
    refine ⟨sound, apart, docs, disk, rfl, ?_, ?_, ?_, ?_⟩
    · exact (current "/p/a.py" (.inl (by decide +kernel))).trans (by decide +kernel)
    · exact (onDisk "/p/a.py" (.inl (by decide +kernel))).trans (by decide +kernel)
    · exact (current "/p/b.py" (.inr (by decide +kernel))).trans (by decide +kernel)
    · exact (onDisk "/p/b.py" (.inr (by decide +kernel))).trans (by decide +kernel)

end Overlay

end LiveCheck
