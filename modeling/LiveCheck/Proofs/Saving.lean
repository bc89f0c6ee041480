import LiveCheck.Documents
import LiveCheck.Proofs.Disk

/-!
# What a failed save leaves behind

To save, a file is opened for writing, and only then is the text turned into bytes.  `save_cases`
lists how this may go.  Whatever fails, the buffers and the declared encodings stay as they were,
and if the file was not opened, so does the disk.  But once it is open it is empty, and when the
text cannot be encoded it is left so: `save_fails` says when a save fails and what is on the disk
then.  What stood under the path stands there again only if the file was not opened or held
nothing before.
-/

namespace LiveCheck.Documents

variable {docs : Documents} {disk : Disk} {cwd : String} {h : Handle}

/-- The file can be opened for writing: its encoding has a name without null characters, and its
path leads to a file or to where one can be made. -/
def Opens (docs : Documents) (disk : Disk) (cwd : String) (h : Handle) : Prop :=
  Encoding.checkName (docs.encodingOf h) = .ok () ∧
    ∃ place opened, disk.openEmpty cwd h.path = .ok (place, opened)

/-- The bytes of a text in the encoding of a file. -/
def bytesFor (docs : Documents) (h : Handle) (text : String) : Except Fault (List UInt8) :=
  (docs.codecs.find (docs.encodingOf h)).bind fun codec => codec.encode text.toList

/-- How a save of an unsaved text goes. -/
inductive Saved (docs : Documents) (disk : Disk) (cwd : String) (h : Handle) (text : String) :
    Except Fault Unit × Documents × Disk → Prop where
  | unopened (fault : Fault) (shut : ¬ docs.Opens disk cwd h) :
      Saved docs disk cwd h text (.error fault, docs, disk)
  | emptied (fault : Fault) {place : Place} {opened : Disk} (opens : docs.Opens disk cwd h)
      (eq : disk.openEmpty cwd h.path = .ok (place, opened))
      (unfit : docs.bytesFor h text = .error fault) :
      Saved docs disk cwd h text (.error fault, docs, opened)
  | written {place : Place} {opened : Disk} {bytes : List UInt8} (opens : docs.Opens disk cwd h)
      (eq : disk.openEmpty cwd h.path = .ok (place, opened))
      (fit : docs.bytesFor h text = .ok bytes) :
      Saved docs disk cwd h text (.ok (), docs.discard h, opened.fill place bytes)

/-- A file without an unsaved text is not touched, and a file with one is saved in one of these
ways. -/
theorem save_cases (docs : Documents) (disk : Disk) (cwd : String) (h : Handle) :
    (docs.buffers.get? h.path = none ∧ docs.save disk cwd h = (.ok (), docs, disk)) ∨
      ∃ text, docs.buffers.get? h.path = some text ∧
        Saved docs disk cwd h text (docs.save disk cwd h) := by
  unfold save
  cases unsaved : docs.buffers.get? h.path with
  | none => exact .inl ⟨rfl, rfl⟩
  | some text =>
    refine .inr ⟨text, rfl, ?_⟩
    dsimp only
    cases checked : Encoding.checkName (docs.encodingOf h) with
    | error fault =>
      exact .unopened fault fun opens => nomatch checked.symm.trans opens.1
    | ok _ =>
      dsimp only
      cases opening : disk.openEmpty cwd h.path with
      | error fault =>
        refine .unopened fault fun opens => ?_
        obtain ⟨-, place, opened, eq⟩ := opens
        rw [opening] at eq
        cases eq
      | ok found =>
        obtain ⟨place, opened⟩ := found
        have opens : docs.Opens disk cwd h := ⟨checked, place, opened, opening⟩
        dsimp only
        split
        · next fault unfit => exact .emptied fault opens opening unfit
        · next bytes fit => exact .written opens opening fit

/-- A save fails if and only if there is something to save and the file cannot be opened or the
text cannot be encoded.  Then the buffers and the declared encodings are as before, and so is all
that stands elsewhere.  The disk is as before if the file was not opened; otherwise an empty file
stands under the path, which is what stood there before only if that was an empty file. -/
theorem save_fails (docs : Documents) (disk : Disk) (cwd : String) (h : Handle) :
    ((∃ fault, (docs.save disk cwd h).1 = .error fault) ↔
      ∃ text, docs.buffers.get? h.path = some text ∧
        (docs.Opens disk cwd h → ∃ fault, docs.bytesFor h text = .error fault)) ∧
    ∀ fault, (docs.save disk cwd h).1 = .error fault →
      (docs.save disk cwd h).2.1 = docs ∧
      (¬ docs.Opens disk cwd h → (docs.save disk cwd h).2.2 = disk) ∧
      (docs.Opens disk cwd h →
        (docs.save disk cwd h).2.2.lookUp? cwd h.path = some (.file []) ∧
        ∃ place, (docs.save disk cwd h).2.2.locate cwd h.path true = .ok (.found place) ∧
          ∀ q, q ≠ place → Disk.entry? (docs.save disk cwd h).2.2 q = disk.entry? q) ∧
      ((docs.save disk cwd h).2.2.lookUp? cwd h.path = disk.lookUp? cwd h.path ↔
        ¬ docs.Opens disk cwd h ∨ disk.lookUp? cwd h.path = some (.file [])) := by
  rcases save_cases docs disk cwd h with ⟨unsaved, same⟩ | ⟨text, unsaved, saved⟩
  · rw [same, unsaved]
    exact ⟨⟨nofun, nofun⟩, nofun⟩
  rw [unsaved]
  generalize docs.save disk cwd h = result at saved ⊢
  cases saved with
  | unopened fault shut =>
    refine ⟨⟨fun _ => ⟨text, rfl, fun opens => absurd opens shut⟩, fun _ => ⟨fault, rfl⟩⟩, ?_⟩
    rintro _ -
    exact ⟨rfl, fun _ => rfl, fun opens => absurd opens shut, fun _ => .inl shut, fun _ => rfl⟩
  | emptied fault opens eq unfit =>
    obtain ⟨opened_eq, leads, empty⟩ := Disk.openEmpty_eq eq
    refine ⟨⟨fun _ => ⟨text, rfl, fun _ => ⟨fault, unfit⟩⟩, fun _ => ⟨fault, rfl⟩⟩, ?_⟩
    rintro _ -
    refine ⟨rfl, fun shut => absurd opens shut, fun _ => ⟨empty, _, leads, fun q hq => ?_⟩, ?_⟩
    · rw [opened_eq, Disk.lookup_putEntry]
      by_cases root : q = []
      · rw [if_pos root, root]
        rfl
      · rw [if_neg root, if_neg hq]
    · rw [empty]
      constructor
      · intro same
        exact .inr same.symm
      · rintro (shut | was_empty)
        · exact absurd opens shut
        · exact was_empty.symm
  | written opens eq fit =>
    constructor
    · constructor
      · rintro ⟨_, ⟨⟩⟩
      · rintro ⟨_, ⟨⟩, unfit⟩
        obtain ⟨fault, unfit⟩ := unfit opens
        rw [fit] at unfit
        cases unfit
    · rintro _ ⟨⟩

/-- A file whose unsaved text has an accent, under an encoding without accents. -/
def accented : Documents where
  defaultEncoding := "ascii"
  buffers := [("/a.py", "é")]
  encodings := []

/-- The file as it was saved before. -/
def savedBefore : Disk := { entries := [(["a.py".toList], .file [0x78])] }

/-- The fault of the text with the accent. -/
def accentFault : Fault :=
  ({ codec := "ascii", char := 'é', start := 0, length := 1
     reason := "ordinal not in range(128)" } : Encoding.Unencodable).mistake.fault

/-- The unsaved text is still there, and the file is empty. -/
theorem accented_emptied :
    (accented.save savedBefore "/" { path := "/a.py" }).1 = .error accentFault ∧
    (accented.save savedBefore "/" { path := "/a.py" }).2.1 = accented ∧
    (accented.save savedBefore "/" { path := "/a.py" }).2.2.lookUp? "/" "/a.py" =
      some (.file []) := by
  have failed : (accented.save savedBefore "/" { path := "/a.py" }).1 = .error accentFault := by
    decide +kernel
  have opens : accented.Opens savedBefore "/" { path := "/a.py" } :=
    ⟨rfl, ["a.py".toList], { entries := [(["a.py".toList], .file [])] }, by decide +kernel⟩
  obtain ⟨kept, -, emptied, -⟩ := (save_fails accented savedBefore "/" _).2 _ failed
  exact ⟨failed, kept, (emptied opens).1⟩

/-- A save that fails may lose what was saved before. -/
theorem not_all_or_nothing :
    ¬ ∀ (docs : Documents) (disk : Disk) (cwd : String) (h : Handle) (fault : Fault),
      (docs.save disk cwd h).1 = .error fault →
        (docs.save disk cwd h).2.1 = docs ∧
        (docs.save disk cwd h).2.2.lookUp? cwd h.path = disk.lookUp? cwd h.path := by
  intro claimed
  have kept := (claimed accented savedBefore "/" { path := "/a.py" } accentFault
    (by decide +kernel)).2
  revert kept
  decide +kernel

end LiveCheck.Documents
