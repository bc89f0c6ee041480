import LiveCheck.Documents
import LiveCheck.Proofs.Table

/-!
# What is left of an edit that is discarded

An edit writes two tables: the unsaved text of a file, and the encoding that is declared with it.
To discard the edit takes back the text only.  `discard_edit_eq` says what documents are left:
those from before with one declaration more.  So whatever does not hang on the encoding of the
file is as it was before the edit (`discard_edit`), and everything is if and only if the edit
declared no other encoding than the file had.
-/

namespace LiveCheck.Documents

/-! ### What can be seen of documents -/

/-- All that documents answer, for every file and every path, with all faults. -/
structure View where
  current : Handle → Except Fault String
  saved : Handle → Except Fault (Option String)
  modified : Handle → Except Fault Bool
  encoding : Handle → String
  resolved : String → Option Handle
  children : String → Except Fault (List String)

/-- What documents answer on top of a disk. -/
def view (docs : Documents) (disk : Disk) (cwd : String) : View where
  current := docs.currentText disk cwd
  saved := docs.diskText disk cwd
  modified := docs.isModified disk cwd
  encoding := docs.encodingOf
  resolved := docs.resolve disk cwd
  children := docs.children disk cwd

section Views

variable {docs docs' : Documents} {disk : Disk} {cwd : String} {h : Handle}

/-- The text on the disk hangs on the documents by the known encodings and the one of the file
alone. -/
theorem diskText_of_encoding (codecs : docs'.codecs = docs.codecs)
    (same : docs'.encodingOf h = docs.encodingOf h) :
    docs'.diskText disk cwd h = docs.diskText disk cwd h := by
  unfold diskText
  rw [codecs, same]

/-- The text in the editor hangs on the buffer of the file besides. -/
theorem currentText_of_encoding (codecs : docs'.codecs = docs.codecs)
    (buffer : docs'.buffers.get? h.path = docs.buffers.get? h.path)
    (same : docs'.encodingOf h = docs.encodingOf h) :
    docs'.currentText disk cwd h = docs.currentText disk cwd h := by
  unfold currentText
  rw [buffer, diskText_of_encoding codecs same]

/-- Whether a file is modified hangs on its encoding only if it has a buffer. -/
theorem isModified_of_encoding (codecs : docs'.codecs = docs.codecs)
    (buffer : docs'.buffers.get? h.path = docs.buffers.get? h.path)
    (same : docs.buffers.get? h.path ≠ none → docs'.encodingOf h = docs.encodingOf h) :
    docs'.isModified disk cwd h = docs.isModified disk cwd h := by
  unfold isModified
  rw [buffer]
  cases unsaved : docs.buffers.get? h.path with
  | none => rfl
  | some text =>
    have same := same (by simp [unsaved])
    rw [diskText_of_encoding codecs same]

/-- Which paths lead to files hangs on the buffers alone. -/
theorem resolve_of_buffers (buffers : docs'.buffers = docs.buffers) :
    docs'.resolve disk cwd = docs.resolve disk cwd := by
  funext path
  unfold resolve
  rw [buffers]

/-- What a directory holds hangs on the buffers alone. -/
theorem children_of_buffers (buffers : docs'.buffers = docs.buffers) :
    docs'.children disk cwd = docs.children disk cwd := by
  funext path
  unfold children
  rw [buffers]

/-- Documents with the same buffers and the same encodings, known ones and those of all files, look
the same. -/
theorem view_congr (codecs : docs'.codecs = docs.codecs)
    (buffers : docs'.buffers = docs.buffers)
    (same : ∀ h, docs'.encodingOf h = docs.encodingOf h) :
    docs'.view disk cwd = docs.view disk cwd := by
  unfold view
  have buffer (h : Handle) : docs'.buffers.get? h.path = docs.buffers.get? h.path := by
    rw [buffers]
  have current : docs'.currentText disk cwd = docs.currentText disk cwd :=
    funext fun h => currentText_of_encoding codecs (buffer h) (same h)
  have saved : docs'.diskText disk cwd = docs.diskText disk cwd :=
    funext fun h => diskText_of_encoding codecs (same h)
  have modified : docs'.isModified disk cwd = docs.isModified disk cwd :=
    funext fun h => isModified_of_encoding codecs (buffer h) fun _ => same h
  rw [current, saved, modified, funext same, resolve_of_buffers buffers,
    children_of_buffers buffers]

end Views

/-! ### An edit that is discarded -/

/-- The encoding that an edit declares, if it does. -/
def declared (encoding : Option String) : Option String := encoding.filter (· ≠ "")

/-- The documents with one more declaration, or with none. -/
def declare (docs : Documents) (path : String) : Option String → Documents
  | none => docs
  | some name => { docs with encodings := docs.encodings.put path name }

/-- The documents after an edit of a file and its discarding. -/
def editDiscard (docs : Documents) (cwd path text : String) (encoding : Option String) :
    Documents :=
  let (h, edited) := docs.edit cwd path text encoding
  edited.discard h

variable {docs : Documents} {disk : Disk} {cwd path text : String} {encoding : Option String}

/-- Of an edit that is discarded the declaration is left, and nothing else. -/
theorem discard_edit_eq (closed : docs.buffers.get? (Path.normalize cwd path) = none) :
    docs.editDiscard cwd path text encoding =
      docs.declare (Path.normalize cwd path) (declared encoding) := by
  have fresh : Path.normalize cwd path ∉ docs.buffers.keys := fun mem => by
    obtain ⟨text', found⟩ := Table.exists_get? mem
    rw [closed] at found
    cases found
  have restored := Table.remove_put fresh text
  unfold editDiscard edit discard Handle.forPath
  dsimp only
  rw [restored]
  split
  · rfl
  · rfl
  · next name named =>
    have kept : declared (some name) = some name := by simpa [declared] using named
    rw [kept]
    rfl

/-- A declaration leaves the buffers alone. -/
theorem declare_buffers (docs : Documents) (path : String) (name : Option String) :
    (docs.declare path name).buffers = docs.buffers := by
  cases name <;> rfl

/-- So it does with the known encodings. -/
theorem declare_codecs (docs : Documents) (path : String) (name : Option String) :
    (docs.declare path name).codecs = docs.codecs := by
  cases name <;> rfl

/-- The encoding of a file after a declaration. -/
theorem declare_encodingOf (docs : Documents) (path : String) (name : Option String)
    (h : Handle) :
    (docs.declare path name).encodingOf h =
      if h.path = path then name.getD (docs.encodingOf h) else docs.encodingOf h := by
  cases name with
  | none => simp [declare]
  | some name =>
    unfold declare encodingOf
    dsimp only
    split
    · next here =>
      rw [here, Table.get?_put_self]
      rfl
    · next other => rw [Table.get?_put_of_ne _ _ other]

/-- After an edit and its discarding, every file is as little modified as before, every path leads
to what it led to, and every directory holds what it held.  Files under other paths are seen as
before; the file itself has the encoding that the edit declared, if it did.  All that can be seen
is as before if and only if this is the encoding that the file had. -/
theorem discard_edit (closed : docs.buffers.get? (Path.normalize cwd path) = none) :
    let after := docs.editDiscard cwd path text encoding
    (after.view disk cwd).modified = (docs.view disk cwd).modified ∧
    (after.view disk cwd).resolved = (docs.view disk cwd).resolved ∧
    (after.view disk cwd).children = (docs.view disk cwd).children ∧
    (∀ h : Handle, h.path ≠ Path.normalize cwd path →
      after.currentText disk cwd h = docs.currentText disk cwd h ∧
      after.diskText disk cwd h = docs.diskText disk cwd h ∧
      after.encodingOf h = docs.encodingOf h) ∧
    (∀ h : Handle, h.path = Path.normalize cwd path →
      after.encodingOf h = (declared encoding).getD (docs.encodingOf h)) ∧
    (after.view disk cwd = docs.view disk cwd ↔
      ∀ name, declared encoding = some name →
        name = docs.encodingOf (Handle.forPath cwd path)) := by
  intro after
  have left : after = docs.declare (Path.normalize cwd path) (declared encoding) :=
    discard_edit_eq closed
  have buffers : after.buffers = docs.buffers := by rw [left, declare_buffers]
  have codecs : after.codecs = docs.codecs := by rw [left, declare_codecs]
  have buffer (h : Handle) : after.buffers.get? h.path = docs.buffers.get? h.path := by
    rw [buffers]
  have encodings (h : Handle) : after.encodingOf h =
      if h.path = Path.normalize cwd path then (declared encoding).getD (docs.encodingOf h)
      else docs.encodingOf h := by
    rw [left, declare_encodingOf]
  have others (h : Handle) (other : h.path ≠ Path.normalize cwd path) :
      after.encodingOf h = docs.encodingOf h := by
    rw [encodings, if_neg other]
  refine ⟨?modified, resolve_of_buffers buffers, children_of_buffers buffers, ?others, ?own,
    ?same⟩
  case modified =>
    funext h
    apply isModified_of_encoding codecs (buffer h)
    intro unsaved
    apply others h
    intro here
    rw [here] at unsaved
    exact unsaved closed
  case others =>
    intro h other
    exact ⟨currentText_of_encoding codecs (buffer h) (others h other),
      diskText_of_encoding codecs (others h other), others h other⟩
  case own =>
    intro h here
    rw [encodings, if_pos here]
  case same =>
    constructor
    · intro same name names
      have encoding_eq := congrFun (congrArg View.encoding same) (Handle.forPath cwd path)
      have here := encodings (Handle.forPath cwd path)
      rw [if_pos (show (Handle.forPath cwd path).path = Path.normalize cwd path from rfl),
        names] at here
      exact here.symm.trans encoding_eq
    · intro same
      refine view_congr codecs buffers fun h => ?_
      by_cases here : h.path = Path.normalize cwd path
      · have own : docs.encodingOf h = docs.encodingOf (Handle.forPath cwd path) := by
          unfold encodingOf
          rw [here]
          rfl
        rw [encodings, if_pos here]
        cases names : declared encoding with
        | none => rfl
        | some name => exact (same name names).trans own.symm
      · exact others h here

/-- A file with an accent, saved in UTF-8. -/
def accentSaved : Disk := { entries := [(["a.py".toList], .file [0xC3, 0xA9, 0x0A])] }

/-- An edit under an encoding without accents is discarded: the file has no buffer and counts as
not modified, but it is in that encoding from then on. -/
theorem discarded_under_ascii :
    ((fresh "utf-8").editDiscard "/" "/a.py" "x" (some "ascii")).isModified accentSaved "/"
        { path := "/a.py" } = .ok false ∧
    ((fresh "utf-8").editDiscard "/" "/a.py" "x" (some "ascii")).encodingOf { path := "/a.py" } =
      "ascii" := by
  have closed : (fresh "utf-8").buffers.get? (Path.normalize "/" "/a.py") = none := rfl
  obtain ⟨modified, -, -, -, own, -⟩ :=
    @discard_edit (fresh "utf-8") accentSaved "/" "/a.py" "x" (some "ascii") closed
  exact ⟨(congrFun modified { path := "/a.py" }).trans rfl,
    (own { path := "/a.py" } (by decide +kernel)).trans (by decide +kernel)⟩

/-- To discard an edit does not always undo it: the text of the file cannot be read any more. -/
theorem not_discard_undoes :
    ¬ ∀ (docs : Documents) (disk : Disk) (cwd path text : String) (encoding : Option String),
      docs.buffers.get? (Path.normalize cwd path) = none →
        (docs.editDiscard cwd path text encoding).view disk cwd = docs.view disk cwd := by
  intro claimed
  have same := claimed (fresh "utf-8") accentSaved "/" "/a.py" "x" (some "ascii") rfl
  have text := congrFun (congrArg View.current same) { path := "/a.py" }
  have before : (fresh "utf-8").currentText accentSaved "/" { path := "/a.py" } = .ok "é\n" := by
    decide +kernel
  have after : ((fresh "utf-8").editDiscard "/" "/a.py" "x" (some "ascii")).currentText accentSaved
      "/" { path := "/a.py" } ≠ .ok "é\n" := by
    decide +kernel
  exact after (text.trans before)

end LiveCheck.Documents
