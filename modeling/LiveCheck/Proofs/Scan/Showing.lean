import Mathlib.Data.List.TakeWhile
import LiveCheck.Proofs.Encoding
import LiveCheck.Proofs.Reading
import LiveCheck.Proofs.Scan.Snapshots

/-!
# What snapshots show

The tool reads the bytes at the paths of snapshots.  Decoded in the encoding of the file they are
the text that the editor shows: of a file that is read where it is because this text is on the
disk, and of a copy because it was written to it and what an encoding writes it also reads.

While snapshots are made the disk only gains the copies (`Gains`).  So a copy that is made keeps
its bytes, and a file whose path leads to none of the copies looks the same throughout.  One file
is dealt with in `shows_of_make`, all of them by induction in `shows_of_makeEach`.
-/

namespace LiveCheck

open Program

/-! ### The text under a path -/

/-- The text that the bytes under a path stand for in an encoding. -/
def Workspace.textAt (w : Workspace) (path encoding : String) : Except Fault String := do
  let bytes ← w.disk.read w.cwd path
  let codec ← w.documents.codecs.find encoding
  let text ← codec.decode bytes
  .ok (String.ofList text)

section Texts

variable {w w' : Workspace} {path encoding text : String} {h : Handle}

/-- The texts under a path: those of a file whose bytes a known encoding can decode. -/
theorem Workspace.textAt_eq_ok :
    w.textAt path encoding = .ok text ↔ ∃ bytes codec,
      w.disk.lookUp? w.cwd path = some (.file bytes) ∧
      w.documents.codecs.find encoding = .ok codec ∧ codec.decode bytes = .ok text.toList := by
  unfold textAt
  constructor
  · intro shown
    obtain ⟨bytes, read, finding⟩ := bind_eq_ok.1 shown
    obtain ⟨codec, found, decoding⟩ := bind_eq_ok.1 finding
    obtain ⟨chars, decoded, last⟩ := bind_eq_ok.1 decoding
    obtain rfl := Except.ok.inj last
    exact ⟨bytes, codec, Disk.read_eq_ok.1 read, found, by rw [decoded, String.toList_ofList]⟩
  · rintro ⟨bytes, codec, there, found, decoded⟩
    refine bind_eq_ok.2 ⟨bytes, Disk.read_eq_ok.2 there, ?_⟩
    refine bind_eq_ok.2 ⟨codec, found, bind_eq_ok.2 ⟨_, decoded, ?_⟩⟩
    rw [String.ofList_toList]

/-- A text of a file on the disk is the text under its path. -/
theorem Workspace.textAt_of_saved (onDisk : w.saved h = .ok (some text)) :
    w.textAt h.path (w.documents.encodingOf h) = .ok text :=
  textAt_eq_ok.2 (Documents.diskText_eq_some.1 onDisk)

/-- A text that is written is the text under the path, if the encodings read what they write. -/
theorem Workspace.textAt_of_fits {bytes : List UInt8} (faithful : w.documents.codecs.Faithful)
    (there : w.disk.lookUp? w.cwd path = some (.file bytes))
    (fits : (Copy.written text encoding).Fits w.documents.codecs bytes) :
    w.textAt path encoding = .ok text := by
  obtain ⟨codec, found, encoded⟩ := bind_eq_ok.1 (show _ >>= _ = _ from fits)
  exact textAt_eq_ok.2 ⟨bytes, codec, there, found, faithful.decode_of_encode found encoded⟩

/-- A file is modified if the text in the editor is not the one on the disk. -/
theorem Workspace.isModified_eq {onDisk : Option String} (current : w.text h = .ok text)
    (saved : w.saved h = .ok onDisk) :
    w.documents.isModified w.disk w.cwd h = .ok (decide (onDisk ≠ some text)) := by
  unfold Workspace.text Documents.currentText at current
  unfold Workspace.saved at saved
  unfold Documents.isModified
  cases unsaved : w.documents.buffers.get? h.path with
  | some buffer =>
    rw [unsaved] at current
    obtain rfl := Except.ok.inj current
    dsimp only
    rw [saved]
    exact congrArg Except.ok (decide_eq_decide.2 ne_comm)
  | none =>
    rw [unsaved] at current
    dsimp only at current ⊢
    rw [saved] at current
    cases onDisk with
    | none => cases current
    | some text' =>
      obtain rfl : text' = text := Except.ok.inj current
      simp

end Texts

/-! ### Names of copies -/

/-- The name of a file has the extension of its path. -/
theorem Path.splitExtension_baseName (path : String) :
    (splitExtension (baseName path)).2 = (splitExtension path).2 := by
  have again : baseNameChars (baseNameChars path.toList) = baseNameChars path.toList := by
    unfold baseNameChars
    rw [List.reverse_reverse, List.takeWhile_idem]
  unfold splitExtension baseName
  rw [String.toList_ofList]
  unfold splitExtensionChars
  dsimp only
  rw [again]
  split
  · split <;> rfl
  · rfl

/-- A path ends with its name. -/
theorem Path.baseNameChars_suffix (s : List Char) : baseNameChars s <:+ s := by
  have first := List.reverse_suffix.2 (List.takeWhile_prefix (l := s.reverse) (· ≠ '/'))
  rwa [List.reverse_reverse] at first

/-- Has a temporary file that is created a name that begins and ends as it was asked for? -/
def Program.Exchange.isNamed : Exchange → Bool
  | ⟨.createTemporary stem extension _, .ok path⟩ =>
    stem.toList.isPrefixOf (Path.baseName path).toList &&
      extension.toList.isSuffixOf (Path.baseName path).toList
  | _ => true

/-- All temporary files that are created are named as it was asked for. -/
def Trace.Named (t : Trace) : Prop := ∀ e ∈ t, e.isNamed = true

/-- In a part of a trace they are, too. -/
theorem Trace.Named.mono {t t' : Trace} (named : t.Named) (part : t' ⊆ t) : t'.Named :=
  fun e he => named e (part he)

/-- The path of a copy ends with the extension of the file. -/
theorem Trace.Named.extension {t : Trace} (named : t.Named) {h : Handle} {stem path : String}
    {directory : Option String}
    (created : ⟨.createTemporary stem (Path.splitExtension h.name).2 directory, .ok path⟩ ∈ t) :
    ∃ front, path = front ++ (Path.splitExtension h.path).2 := by
  have same : (Path.splitExtension h.name).2 = (Path.splitExtension h.path).2 :=
    Path.splitExtension_baseName h.path
  have ends := (Bool.and_eq_true_iff.1 (named _ created)).2
  rw [same, List.isSuffixOf_iff_suffix, Path.baseName, String.toList_ofList] at ends
  obtain ⟨front, whole⟩ := ends.trans (Path.baseNameChars_suffix path.toList)
  refine ⟨String.ofList front, String.toList_injective ?_⟩
  rw [String.toList_append, String.toList_ofList, whole]

/-! ### What the disk gains -/

namespace Snapshot

variable {scratch : Option String} {cancellable : Bool} {w v w' : Workspace} {t : Trace}
  {h : Handle} {s : Snapshot} {made others : List Snapshot}

/-- The path leads to where a copy of the set is made. -/
def Hits (w : Workspace) (made : List Snapshot) (path : String) : Prop :=
  ∃ s ∈ made, s.temporary = true ∧ w.disk.target? w.cwd s.path = w.disk.target? w.cwd path

/-- In the second workspace the disk has the copies of a set and is otherwise the same, and so is
everything else. -/
structure Gains (made : List Snapshot) (w w' : Workspace) : Prop where
  cwd : w'.cwd = w.cwd
  documents : w'.documents = w.documents
  ways : w.disk.SameWays w'.disk
  keeps : ∀ place e, w.disk.entry? place = some e → w'.disk.entry? place = some e
  only : ∀ place, (∀ s ∈ made, s.temporary = true →
    w.disk.target? w.cwd s.path ≠ some place) → w'.disk.entry? place = w.disk.entry? place

/-- Without copies nothing is gained. -/
theorem Gains.refl (w : Workspace) : Gains [] w w :=
  ⟨rfl, rfl, .refl _, fun _ _ => id, fun _ _ => rfl⟩

/-- Paths lead to the same places. -/
theorem Gains.target?_eq (gains : Gains made w w') (path : String) :
    w'.disk.target? w'.cwd path = w.disk.target? w.cwd path := by
  rw [gains.cwd, gains.ways.target?_eq]

/-- First the copies of one set are gained and then those of another one. -/
theorem Gains.trans (first : Gains made w v) (second : Gains others v w') :
    Gains (made ++ others) w w' where
  cwd := second.cwd.trans first.cwd
  documents := second.documents.trans first.documents
  ways := first.ways.trans second.ways
  keeps place e there := second.keeps place e (first.keeps place e there)
  only place none_there := by
    have none_first := fun s hs => none_there s (List.mem_append_left _ hs)
    have none_second : ∀ s ∈ others, s.temporary = true →
        v.disk.target? v.cwd s.path ≠ some place := by
      intro s hs is
      rw [first.target?_eq]
      exact none_there s (List.mem_append_right _ hs) is
    rw [second.only place none_second, first.only place none_first]

/-- What is under a path stays under it. -/
theorem Gains.lookUp?_eq_some (gains : Gains made w w') {path : String} {e : Entry}
    (there : w.disk.lookUp? w.cwd path = some e) : w'.disk.lookUp? w'.cwd path = some e := by
  rw [Disk.lookUp?_eq_bind] at there ⊢
  rw [gains.target?_eq]
  obtain ⟨place, leads, stands⟩ := Option.bind_eq_some_iff.1 there
  rw [leads]
  exact gains.keeps place e stands

/-- A text stays under its path. -/
theorem Gains.textAt_eq_ok (gains : Gains made w w') {path encoding text : String}
    (shown : w.textAt path encoding = .ok text) : w'.textAt path encoding = .ok text := by
  obtain ⟨bytes, codec, there, found, decoded⟩ := Workspace.textAt_eq_ok.1 shown
  rw [← gains.documents] at found
  exact Workspace.textAt_eq_ok.2 ⟨bytes, codec, gains.lookUp?_eq_some there, found, decoded⟩

/-- Files whose paths lead to none of the copies look the same. -/
theorem Gains.same (gains : Gains made w w') {handles : List Handle}
    (apart : ∀ h ∈ handles, ¬ Hits w made h.path) : Same handles w w' where
  cwd := gains.cwd
  documents := gains.documents
  files h hh := by
    refine gains.ways.lookUp?_eq fun place leads => gains.only place fun s hs is hits => ?_
    exact apart h hh ⟨s, hs, is, hits.trans leads.symm⟩

/-! ### One snapshot -/

/-- A copy that is created and written: where nothing stood there is the text in the encoding of
the file, and everything else is as it was. -/
theorem gains_of_copy {stem extension path text encoding : String}
    (faithful : w.documents.codecs.Faithful)
    (follows : Follows w [⟨.createTemporary stem extension scratch, .ok path⟩,
      ⟨.encoding h, .ok encoding⟩, ⟨.writeTemporary path text encoding, .ok ()⟩] w') :
    Gains [{ handle := h, path, temporary := true }] w w' ∧
      w'.textAt path (w.documents.encodingOf h) = .ok text := by
  cases follows with
  | cons created rest =>
  cases rest with
  | cons asked rest =>
  cases rest with
  | cons written rest =>
  cases rest
  obtain ⟨place, disk, nextTemporary, create, rfl⟩ := created.create_eq
  obtain ⟨told, rfl⟩ := asked.encoding_eq
  obtain rfl : encoding = w.documents.encodingOf h := Except.ok.inj told
  have leads := Disk.target?_of_create create
  obtain ⟨missing, rfl, -, found⟩ := Disk.create_eq create
  have there : Workspace.Leads
      { w with disk := w.disk.putEntry place (.file []), nextTemporary } path place := found
  obtain ⟨bytes, fits, rfl⟩ := there.written written.write_eq
  have before : w.disk.FileOrNothing place := .inl missing
  have entries := before.lookup_written bytes
  have ways := before.sameWays_written bytes
  refine ⟨⟨rfl, rfl, ways, fun q e stands => ?keeps, fun q other => ?only⟩, ?text⟩
  case keeps =>
    refine (entries q).trans (Eq.trans (if_neg ?_) stands)
    rintro rfl
    exact absurd (missing.symm.trans stands) nofun
  case only =>
    refine (entries q).trans (if_neg ?_)
    rintro rfl
    exact other _ (List.mem_singleton_self _) rfl leads
  case text =>
    refine Workspace.textAt_of_fits faithful ?_ fits
    rw [Disk.lookUp?_eq_bind, ways.target?_eq, leads]
    exact (entries place).trans (if_pos rfl)

/-- The snapshot shows, in the second workspace, the text that its file has in the first one. -/
structure Shown (w w' : Workspace) (s : Snapshot) : Prop where
  text : ∃ text, w.text s.handle = .ok text ∧
    w'.textAt s.path (w.documents.encodingOf s.handle) = .ok text
  modified : w.documents.isModified w.disk w.cwd s.handle = .ok s.temporary
  extension : s.temporary = true → ∃ front, s.path = front ++ (Path.splitExtension s.handle.path).2

/-- What is shown stays shown while other copies are made. -/
theorem Shown.later (shown : Shown w v s) (gains : Gains others v w') : Shown w w' s := by
  obtain ⟨text, current, under⟩ := shown.text
  exact ⟨⟨text, current, gains.textAt_eq_ok under⟩, shown.modified, shown.extension⟩

/-- What is shown was so before if the file has looked the same since. -/
theorem Shown.earlier (shown : Shown v w' s) {handles : List Handle} (same : Same handles w v)
    (hs : s.handle ∈ handles) : Shown w w' s := by
  obtain ⟨text, current, under⟩ := shown.text
  refine ⟨⟨text, ?text, ?under⟩, ?modified, shown.extension⟩
  case text => rw [← same.text_eq hs, current]
  case under => rw [← same.documents, under]
  case modified =>
    have modified := shown.modified
    rw [same.documents, same.cwd, Documents.isModified_congr (same.files _ hs)] at modified
    exact modified

/-- The snapshot that is made of a file shows its text, and the disk has gained nothing but the
copy, if there is one. -/
theorem shows_of_make {unsaved unsaved' : Table String Handle}
    (faithful : w.documents.codecs.Faithful)
    (run : Runs (make scratch cancellable unsaved h).attempt t (.ok (s, unsaved')))
    (follows : Follows w t w') (named : t.Named) : Gains [s] w w' ∧ Shown w w' s := by
  obtain ⟨t₁, t₂, current, onDisk, about, rfl, placing⟩ := runs_make_parts run
  obtain ⟨v, follows₁, follows₂⟩ := Follows.append_iff.1 follows
  obtain rfl := (follows₁.reads (about.mono (by simp))).1.symm
  obtain ⟨v, reading, copying⟩ := Follows.append_iff.1 follows₂
  obtain ⟨rfl, now, before⟩ := reading.texts
  have modified := Workspace.isModified_eq now before
  rcases runs_place_ok placing with ⟨same, rfl, rfl⟩ | ⟨differs, path, encoding, rfl, rfl⟩
  · -- The file is read where it is.
    cases copying
    have shown := Workspace.textAt_of_saved (before.trans (congrArg Except.ok same))
    refine ⟨⟨rfl, rfl, .refl _, fun _ _ => id, fun _ _ => rfl⟩, ⟨current, now, shown⟩, ?_,
      nofun⟩
    rw [modified]
    simpa using same
  · obtain ⟨gains, shown⟩ := gains_of_copy faithful copying
    refine ⟨gains, ⟨current, now, shown⟩, ?_, fun _ => ?_⟩
    · rw [modified]
      simpa using differs
    · exact named.extension (List.mem_append_right _ (List.mem_append_right _ List.mem_cons_self))

/-! ### A set of snapshots -/

/-- The snapshots that are made of files show their texts, and the disk has gained nothing but the
copies.  None of the files may lead to a copy. -/
theorem shows_of_makeEach {unsaved : Table String Handle} {files : List Handle}
    (faithful : w.documents.codecs.Faithful)
    (run : Runs (makeEach scratch cancellable unsaved files) t (made, .ok ()))
    (follows : Follows w t w') (named : t.Named) {handles : List Handle}
    (sub : ∀ h ∈ files, h ∈ handles) (apart : ∀ h ∈ handles, ¬ Hits w made h.path) :
    Gains made w w' ∧ ∀ s ∈ made, Shown w w' s := by
  induction files generalizing unsaved made t w with
  | nil =>
    obtain ⟨rfl, same⟩ := runs_pure.1 run
    cases same
    cases follows
    exact ⟨.refl _, nofun⟩
  | cons h rest ih =>
    obtain ⟨s, others, unsaved', t₁, t₂, rfl, rfl, make, makeRest⟩ := runs_makeEach_cons run
    obtain ⟨v, follows₁, follows₂⟩ := Follows.append_iff.1 follows
    obtain ⟨gains, shown⟩ :=
      shows_of_make faithful make follows₁ (named.mono (List.subset_append_left _ _))
    have same : Same handles w v := gains.same fun k hk ⟨s', hs', hit⟩ =>
      apart k hk ⟨s', List.mem_cons.2 (.inl (List.mem_singleton.1 hs')), hit⟩
    have apart' : ∀ k ∈ handles, ¬ Hits v others k.path := by
      rintro k hk ⟨s', hs', is, hit⟩
      rw [gains.target?_eq, gains.target?_eq] at hit
      exact apart k hk ⟨s', List.mem_cons_of_mem _ hs', is, hit⟩
    have faithful' : v.documents.codecs.Faithful := gains.documents ▸ faithful
    obtain ⟨gains', shown'⟩ := ih faithful' makeRest follows₂
      (named.mono (List.subset_append_right _ _))
      (fun k hk => sub k (List.mem_cons_of_mem _ hk)) apart'
    refine ⟨gains.trans gains', List.forall_mem_cons.2 ⟨shown.later gains', fun s' hs' => ?_⟩⟩
    have of_rest : s'.handle ∈ rest := by
      rw [← map_handle_of_makeEach makeRest]
      exact List.mem_map_of_mem hs'
    exact (shown' s' hs').earlier same (sub _ (List.mem_cons_of_mem _ of_rest))

/-- The path of a copy is not the path of any other snapshot. -/
theorem Apart.pairwise {files : List Handle} (placed : Apart w files made)
    (apart : ∀ h ∈ files, ¬ Hits w made h.path) :
    made.Pairwise fun s s' => s.temporary = true ∨ s'.temporary = true → s.path ≠ s'.path := by
  have copies : made.Pairwise fun s s' =>
      s.temporary = true → s'.temporary = true → s.path ≠ s'.path :=
    List.pairwise_filter.1 (List.pairwise_map.1 placed.distinct)
  -- A file that is read where it is does not lead to a copy.
  have itself {s s' : Snapshot} (hs : s ∈ made) (hs' : s' ∈ made) (is : s.temporary = true)
      (not : s'.temporary = false) : s.path ≠ s'.path := by
    intro same
    have file : s'.handle ∈ files := by
      rw [← placed.handles]
      exact List.mem_map_of_mem hs'
    refine apart _ file ⟨s, hs, is, ?_⟩
    rw [same, placed.itself s' hs' not]
  refine copies.imp_of_mem fun {s s'} hs hs' distinct some_copy => ?_
  cases is : s.temporary with
  | false => exact (itself hs' hs (some_copy.resolve_left (by simp [is])) is).symm
  | true =>
    cases is' : s'.temporary with
    | false => exact itself hs hs' is is'
    | true => exact distinct is is'

/-- Snapshots that are made show the tool exactly the texts that the editor shows.  There is one for
each file, in their order.  The bytes at its path, decoded in the encoding of the file, are the
text of the file.  It is a copy if and only if the file is modified; otherwise its path is the one
of the file.  A copy is at a new path with the extension of the file, and at a path of its own.
The files themselves look the same all the while.

All encodings read back what they write, whatever encodings there are.  Temporary files get the
names that they are asked for, and no file of the set leads to one. -/
theorem shows_current_texts {handles : List Handle}
    (faithful : w.documents.codecs.Faithful)
    (run : Runs (makeAll scratch cancellable handles) t (made, .ok ()))
    (follows : Follows w t w') (named : t.Named)
    (apart : ∀ h ∈ handles, ¬ Hits w made h.path) :
    made.map handle = handles ∧ Same handles w w' ∧
    (∀ s ∈ made,
      (∃ text, w.text s.handle = .ok text ∧
        w'.textAt s.path (w.documents.encodingOf s.handle) = .ok text) ∧
      w.documents.isModified w.disk w.cwd s.handle = .ok s.temporary ∧
      (s.temporary = false → s.path = s.handle.path) ∧
      (s.temporary = true → ¬ w.disk.Occupied w.cwd s.path ∧
        ∃ front, s.path = front ++ (Path.splitExtension s.handle.path).2)) ∧
    made.Pairwise fun s s' => s.temporary = true ∨ s'.temporary = true → s.path ≠ s'.path := by
  have placed := apart_of_makeAll run follows
  obtain ⟨t₁, rfl, each⟩ := runs_makeAll_ok run
  have named₁ : Trace.Named t₁ := named.mono fun e he =>
    List.mem_cons_of_mem _ (List.mem_append_left _ he)
  obtain ⟨gains, shown⟩ : Gains made w w' ∧ ∀ s ∈ made, Shown w w' s := by
    cases follows with
    | cons locked rest =>
      obtain ⟨v, making, unlocking⟩ := Follows.append_iff.1 rest
      cases unlocking with
      | cons unlocked none_left =>
        cases none_left
        obtain rfl := (locked.eq (by simp [Request.concern])).symm
        obtain rfl := (unlocked.eq (by simp [Request.concern])).symm
        exact shows_of_makeEach faithful each making named₁ (fun _ => id) apart
  refine ⟨placed.handles, gains.same apart, fun s hs => ?_, ?_⟩
  · have shown := shown s hs
    exact ⟨shown.text, shown.modified, placed.itself s hs,
      fun is => ⟨placed.free s hs is, shown.extension is⟩⟩
  · exact placed.pairwise apart

/-- A file with an unsaved text in an encoding of its own, one that is shown as it is on the disk,
and one that is not on the disk. -/
def threeFiles : Workspace where
  disk := { entries :=
    [(["p".toList], .directory), (["p".toList, "a.py".toList], .file [0x78]),
      (["p".toList, "b.py".toList], .file [0x79, 0x0D, 0x0A]), (["t".toList], .directory)] }
  documents := { defaultEncoding := "utf-8", buffers := [("/p/a.py", "é\r\n"), ("/p/c.py", "z")],
                 encodings := [("/p/a.py", "latin-1")] }
  cwd := "/p"
  temporaryDirectory := "/t"

/-- Their handles. -/
def threeHandles : List Handle :=
  [{ path := "/p/a.py" }, { path := "/p/b.py" }, { path := "/p/c.py" }]

/-- What the tool reads of them. -/
def threeSnapshots : List Snapshot :=
  [{ handle := { path := "/p/a.py" }, path := "/t/a_00000000.py", temporary := true },
    { handle := { path := "/p/b.py" }, path := "/p/b.py", temporary := false },
    { handle := { path := "/p/c.py" }, path := "/t/c_00000001.py", temporary := true }]

/-- Two copies are made and one file is read where it is; all line ends are kept. -/
theorem shows_three_texts : ∃ t w',
    Runs (makeAll none false threeHandles) t
      (threeSnapshots, .ok ()) ∧
    Follows threeFiles t w' ∧
    w'.textAt "/t/a_00000000.py" "latin-1" = .ok "é\r\n" ∧
    w'.textAt "/p/b.py" "utf-8" = .ok "y\r\n" ∧
    w'.textAt "/t/c_00000001.py" "utf-8" = .ok "z" := by
  have run := runs_record (Workspace.reply Request.nothing) threeFiles
    (makeAll none false threeHandles)
  have follows := threeFiles.follows_record Request.nothing (makeAll none false threeHandles)
  have made : (record (Workspace.reply Request.nothing) threeFiles
      (makeAll none false threeHandles)).2.1 =
      (threeSnapshots, .ok ()) := by
    decide +kernel
  have named : Trace.Named (record (Workspace.reply Request.nothing) threeFiles
      (makeAll none false threeHandles)).1 := by
    unfold Trace.Named
    decide +kernel
  rw [made] at run
  generalize record (Workspace.reply Request.nothing) threeFiles
    (makeAll none false threeHandles) = recorded at run follows named
  obtain ⟨t, result, w'⟩ := recorded
  have apart : ∀ h ∈ threeHandles, ¬ Hits threeFiles threeSnapshots h.path := by
    unfold Hits
    decide +kernel
  obtain ⟨-, -, shown, -⟩ :=
    shows_current_texts Encoding.Codecs.builtin_faithful run follows named apart
  have under {s : Snapshot} {text : String} (now : threeFiles.text s.handle = .ok text)
      (hs : s ∈ threeSnapshots) :
      w'.textAt s.path (threeFiles.documents.encodingOf s.handle) = .ok text := by
    obtain ⟨⟨text', current, under⟩, -⟩ := shown s hs
    obtain rfl := Except.ok.inj (now.symm.trans current)
    exact under
  refine ⟨t, w', run, follows, ?a, ?b, ?c⟩
  case a => exact under (s := threeSnapshots[0]) (by decide +kernel) (List.getElem_mem _)
  case b => exact under (s := threeSnapshots[1]) (by decide +kernel) (List.getElem_mem _)
  case c => exact under (s := threeSnapshots[2]) (by decide +kernel) (List.getElem_mem _)

end Snapshot

end LiveCheck
