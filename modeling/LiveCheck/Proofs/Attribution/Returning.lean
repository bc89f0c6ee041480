import LiveCheck.Proofs.Attribution
import LiveCheck.Proofs.Disk.Elsewhere
import LiveCheck.Proofs.Numeral
import LiveCheck.Proofs.Requests
import LiveCheck.Proofs.Surroundings

/-!
# When attribution returns

A line that names no known file is passed over, and so is a file that cannot be read.  Two things
are left that end the whole attribution: a number with too many digits, and a file whose encoding
is not known.  `Returns` says of an action under which condition it has a result, and there is one
lemma for each part of attribution.  `attributed_returns` puts them together: in a workspace lines
are attributed if and only if no line about a file has one of the two, and then every line has its
diagnostic.
-/

namespace LiveCheck

open Program

/-! ### Columns -/

/-- Where tabs have a width every column is found. -/
theorem Column.exists_seek {tabWidth : Int} (tabs : tabWidth ≠ 0) (target : Int) (index : Nat)
    (width : Int) (line : List Char) : ∃ n, seek tabWidth target index width line = .ok n := by
  induction line generalizing index width with
  | nil => exact ⟨index, rfl⟩
  | cons c rest ih =>
    rw [seek]
    split
    · exact ⟨index, rfl⟩
    · split
      · exact ih _ _
      · exact ih _ _

/-- Where tabs have a width every column has an index. -/
theorem Column.exists_toIndex {tabWidth : Int} (tabs : tabWidth ≠ 0) (line : List Char)
    (column : Int) : ∃ n, toIndex line column tabWidth = .ok n := by
  unfold toIndex
  dsimp only
  split
  · exact exists_seek tabs _ _ _ _
  · exact ⟨_, rfl⟩

/-- Where tabs have a width every place has an offset. -/
theorem DocumentText.exists_offset {tabWidth : Int} (tabs : tabWidth ≠ 0) (d : DocumentText)
    (line column : Int) : ∃ n, d.offset line column tabWidth = .ok n := by
  obtain ⟨index, found⟩ := Column.exists_toIndex tabs (d.lines.getD (d.lineIndex line) []) column
  unfold offset
  dsimp only
  rw [found]
  exact ⟨_, rfl⟩

/-! ### Texts that can be read -/

/-- The fault of a failed system call is one. -/
theorem SystemError.isSystem_fault (number : Nat) (path : String) :
    (SystemError.fault number path).isSystem = true := by
  have known : ∀ entry ∈ SystemError.classes,
      Fault.familyOf entry.1 = .missing ∨ Fault.familyOf entry.1 = .system := by decide +kernel
  have family : Fault.familyOf (SystemError.className number) = .missing ∨
      Fault.familyOf (SystemError.className number) = .system := by
    unfold SystemError.className
    split
    · next name numbers found => exact known _ (List.mem_of_find?_eq_some found)
    · exact .inr (by decide +kernel)
  unfold SystemError.fault SystemError.faultWith Fault.isSystem Fault.isIn
  dsimp only
  rcases family with family | family <;> rw [family] <;> rfl

/-- A failed system call is passed over. -/
theorem SystemError.isUnreadable_fault (number : Nat) (path : String) :
    (SystemError.fault number path).isUnreadable = true := by
  unfold Fault.isUnreadable
  rw [isSystem_fault, Bool.true_or]

/-- What an encoding reports is passed over. -/
theorem Encoding.isUnreadable_of_mapError {α : Type} {e : Except Encoding.Mistake α} {fault : Fault}
    (h : e.mapError Encoding.Mistake.fault = .error fault) : fault.isUnreadable = true := by
  cases e with
  | ok value => cases h
  | error mistake =>
    cases h
    rfl

/-- Bytes that cannot be decoded are passed over. -/
theorem Encoding.Codec.isUnreadable_of_decode {codec : Encoding.Codec} {bytes : List UInt8}
    {fault : Fault} (h : codec.decode bytes = .error fault) : fault.isUnreadable = true :=
  isUnreadable_of_mapError h

/-- A text that cannot be encoded is a fault of the same family. -/
theorem Encoding.Codec.isUnreadable_of_encode {codec : Encoding.Codec} {s : List Char}
    {fault : Fault} (h : codec.encode s = .error fault) : fault.isUnreadable = true :=
  isUnreadable_of_mapError h

/-- A file that is there and cannot be read is passed over. -/
theorem Disk.isUnreadable_of_read {d : Disk} {cwd path : String} {fault : Fault}
    (there : d.has cwd path = true) (h : d.read cwd path = .error fault) :
    fault.isUnreadable = true := by
  obtain ⟨e, found⟩ := Option.isSome_iff_exists.1 there
  rw [read_of_lookUp? found] at h
  cases e with
  | file content => cases h
  | directory | link =>
    cases h
    exact SystemError.isUnreadable_fault _ _

/-- There is a file without a buffer, and its encoding is not known.  A name with a null character
is not even looked up, and any other name only after the file was opened. -/
def Documents.Garbled (docs : Documents) (disk : Disk) (cwd : String) (h : Handle) : Prop :=
  docs.buffers.get? h.path = none ∧ disk.has cwd h.path = true ∧
    ('\x00' ∈ (docs.encodingOf h).toList ∨
      (∃ bytes, disk.read cwd h.path = .ok bytes) ∧
        docs.codecs.ofName? (docs.encodingOf h) = none)

namespace Documents

variable {docs : Documents} {disk : Disk} {cwd : String} {h : Handle}

/-- A file whose encoding is not known cannot be read, and it is not passed over. -/
theorem Garbled.raises (garbled : docs.Garbled disk cwd h) :
    ∃ fault, docs.currentText disk cwd h = .error fault ∧ fault.isUnreadable = false := by
  obtain ⟨unsaved, there, unknown⟩ := garbled
  unfold currentText diskText Encoding.Codecs.find Encoding.checkName
  rw [unsaved, if_pos there]
  by_cases named : '\x00' ∈ (docs.encodingOf h).toList
  · rw [if_pos named]
    exact ⟨_, rfl, rfl⟩
  · obtain ⟨⟨bytes, read⟩, unknown⟩ := unknown.resolve_left named
    rw [if_neg named, read, unknown]
    exact ⟨_, rfl, rfl⟩

/-- Any other file that cannot be read is passed over. -/
theorem isUnreadable_of_not_garbled {fault : Fault} (clear : ¬ docs.Garbled disk cwd h)
    (failed : docs.currentText disk cwd h = .error fault) : fault.isUnreadable = true := by
  unfold currentText at failed
  split at failed
  · cases failed
  next unsaved =>
  unfold diskText Encoding.Codecs.find Encoding.checkName at failed
  by_cases there : disk.has cwd h.path = true
  · have named : '\x00' ∉ (docs.encodingOf h).toList :=
      fun null => clear ⟨unsaved, there, .inl null⟩
    rw [if_pos there, if_neg named] at failed
    cases bytes : disk.read cwd h.path with
    | error fault' =>
      rw [bytes] at failed
      cases failed
      exact Disk.isUnreadable_of_read there bytes
    | ok content =>
      cases known : docs.codecs.ofName? (docs.encodingOf h) with
      | none => exact absurd ⟨unsaved, there, .inr ⟨⟨content, bytes⟩, known⟩⟩ clear
      | some codec =>
        rw [bytes, known] at failed
        dsimp only [Bind.bind, Except.bind] at failed
        cases decoded : codec.decode content with
        | error fault' =>
          rw [decoded] at failed
          cases failed
          exact Encoding.Codec.isUnreadable_of_decode decoded
        | ok s =>
          rw [decoded] at failed
          cases failed
  · rw [if_neg there] at failed
    cases failed
    rfl

/-- A text that cannot be read is passed over unless its encoding is not known. -/
theorem isUnreadable_iff (docs : Documents) (disk : Disk) (cwd : String) (h : Handle) :
    (∀ fault, docs.currentText disk cwd h = .error fault → fault.isUnreadable = true) ↔
      ¬ docs.Garbled disk cwd h := by
  constructor
  · intro passed garbled
    obtain ⟨fault, failed, raised⟩ := garbled.raises
    rw [passed fault failed] at raised
    cases raised
  · intro clear fault failed
    exact isUnreadable_of_not_garbled clear failed

end Documents

namespace Attribution

variable {text : Handle → Except Fault String} {setup : Setup} {α β : Type}

/-! ### Actions that return -/

/-- The text of a file is there, or the file is passed over. -/
def Shows (text : Handle → Except Fault String) (h : Handle) : Prop :=
  ∀ fault, text h = .error fault → fault.isUnreadable = true

/-- Only files that are passed over are stored without a text. -/
def Tolerates (text : Handle → Except Fault String) (texts : Texts) : Prop :=
  ∀ h found, texts.get? h = some found → Shows text h

/-- What is found together with a store of that kind. -/
def Keeps (text : Handle → Except Fault String) (found : α × Texts) : Prop :=
  Tolerates text found.2

/-- One more file is stored. -/
theorem Tolerates.put {texts : Texts} (known : Tolerates text texts) {h : Handle}
    (shows : Shows text h) (found : Option DocumentText) :
    Tolerates text (texts.put h found) := by
  intro k found' there
  by_cases hk : k = h
  · rw [hk]
    exact shows
  · rw [Table.get?_put_of_ne texts _ hk] at there
    exact known k found' there

/-- With these texts the action has a result if and only if `P` holds, and `Q` holds of the
result. -/
def Returns (text : Handle → Except Fault String) (a : Action α) (P : Prop) (Q : α → Prop) :
    Prop :=
  ∀ t r, Runs a.attempt t r → Reads text t →
    ((∃ x, r = .ok x) ↔ P) ∧ ∀ x, r = .ok x → Q x

/-- An action without requests. -/
theorem returns_pure {x : α} {Q : α → Prop} (hx : Q x) :
    Returns text (pure x : Action α) True Q := by
  intro t r run _
  obtain ⟨-, rfl⟩ := runs_attempt_pure.1 run
  refine ⟨⟨fun _ => trivial, fun _ => ⟨x, rfl⟩⟩, ?_⟩
  rintro _ ⟨⟩
  exact hx

/-- An action that fails. -/
theorem returns_throw (fault : Fault) (Q : α → Prop) :
    Returns text (throw fault : Action α) False Q := by
  intro t r run _
  obtain ⟨-, rfl⟩ := runs_attempt_throw.1 run
  refine ⟨⟨?_, False.elim⟩, ?_⟩
  · rintro ⟨_, ⟨⟩⟩
  · rintro _ ⟨⟩

/-- A computation without requests. -/
theorem returns_ofExcept (e : Except Fault α) :
    Returns text (Action.ofExcept e) (∃ x, e = .ok x) (fun _ => True) := by
  intro t r run _
  obtain ⟨-, rfl⟩ := runs_attempt_ofExcept.1 run
  exact ⟨Iff.rfl, fun _ _ => trivial⟩

/-- Two actions one after the other return if both do. -/
theorem Returns.bind {a : Action α} {f : α → Action β} {P R : Prop} {Q : α → Prop}
    {S : β → Prop} (first : Returns text a P Q)
    (second : ∀ x, Q x → Returns text (f x) R S) : Returns text (a >>= f) (P ∧ R) S := by
  intro t r run reads
  rcases runs_attempt_bind.1 run with ⟨t₁, t₂, x, rfl, run₁, run₂⟩ | ⟨fault, rfl, failed⟩
  · obtain ⟨returns, holds⟩ := first t₁ _ run₁ reads.of_append.1
    obtain ⟨returns', holds'⟩ := second x (holds x rfl) t₂ r run₂ reads.of_append.2
    have here : P := returns.1 ⟨x, rfl⟩
    exact ⟨returns'.trans ⟨fun h => ⟨here, h⟩, fun h => h.2⟩, holds'⟩
  · obtain ⟨returns, -⟩ := first t _ failed reads
    refine ⟨⟨?_, fun h => ?_⟩, ?_⟩
    · rintro ⟨_, ⟨⟩⟩
    · obtain ⟨_, ⟨⟩⟩ := returns.2 h.1
    · rintro _ ⟨⟩

/-- The same condition in other words. -/
theorem Returns.congr {a : Action α} {P R : Prop} {Q : α → Prop} (h : Returns text a P Q)
    (same : P ↔ R) : Returns text a R Q :=
  fun t r run reads => (h t r run reads).imp (fun returns => returns.trans same) id

/-! ### The parts of attribution -/

/-- A text is found unless its encoding is not known. -/
theorem returns_textOf {texts : Texts} (known : Tolerates text texts) (h : Handle) :
    Returns text (textOf texts h) (Shows text h) (Keeps text) := by
  have found {shown : Option DocumentText} {texts' : Texts} (shows : Shows text h)
      (known' : Tolerates text texts') :
      Returns text (pure (shown, texts')) (Shows text h) (Keeps text) :=
    Returns.congr (returns_pure known') ⟨fun _ => shows, fun _ => trivial⟩
  unfold textOf
  split
  · next shown there => exact found (known h shown there) known
  · intro t r run reads
    obtain ⟨_, t₂, reply, rfl, ask, rest⟩ := runs_attempt_ofTotal_bind.1 run
    cases runs_request.1 ask
    have same : reply = text h := reads h reply List.mem_cons_self
    have reads' : Reads text t₂ := (Reads.of_append reads).2
    match reply with
    | .ok s =>
      have shows : Shows text h := fun fault bad => nomatch same.trans bad
      exact found shows (known.put shows _) _ _ rest reads'
    | .error fault =>
      dsimp only at rest
      split at rest
      · next passed =>
        have shows : Shows text h := by
          intro fault' bad
          cases same.trans bad
          exact passed
        exact found shows (known.put shows _) _ _ rest reads'
      · next raised =>
        have fails : Returns text (throw fault : Action (Option DocumentText × Texts))
            (Shows text h) (Keeps text) :=
          Returns.congr (returns_throw fault _)
            ⟨False.elim, fun shows => raised (shows fault same.symm)⟩
        exact fails _ _ rest reads'

/-- A place is found unless the encoding of the file is not known. -/
theorem returns_offset {texts : Texts} (tabs : setup.tabWidth ≠ 0)
    (known : Tolerates text texts) (h : Handle) (line column : Int) :
    Returns text (offset setup texts h line column)
      (setup.withDocuments = true → Shows text h) (Keeps text) := by
  unfold offset
  split
  · next documents =>
    refine Returns.congr (Returns.bind (R := True) (returns_textOf known h) ?_)
      ⟨fun shows _ => shows.1, fun shows => ⟨shows documents, trivial⟩⟩
    rintro ⟨_ | document, texts'⟩ known'
    · exact returns_pure known'
    · refine Returns.congr ((returns_ofExcept _).bind fun place _ => returns_pure known') ?_
      exact ⟨fun _ => trivial, fun _ => ⟨document.exists_offset tabs line column, trivial⟩⟩
  · next documents =>
    exact Returns.congr (returns_pure known)
      ⟨fun _ on => absurd on documents, fun _ => trivial⟩

end Attribution

/-- The numbers of the line are not too long to be read. -/
structure ReportLine.Countable (parts : ReportLine) : Prop where
  line : parts.line.length ≤ Text.maxDigits
  column : ∀ digits ∈ parts.column, digits.length ≤ Text.maxDigits

namespace Attribution

variable {text : Handle → Except Fault String} {setup : Setup}

/-- The numbers of a line are read if and only if they are not too long. -/
theorem countable_iff {parts : ReportLine} :
    parts.Countable ↔ (∃ n, readNumber parts.line = .ok n) ∧
      ∃ n, readColumn parts.column = .ok n := by
  have number (digits : List Char) :
      (∃ n, readNumber digits = .ok n) ↔ digits.length ≤ Text.maxDigits :=
    ⟨fun ⟨_, read⟩ => (readNumber_eq_ok_iff.1 read).1,
      fun short => ⟨_, readNumber_eq_ok_iff.2 ⟨short, rfl⟩⟩⟩
  constructor
  · intro countable
    refine ⟨(number _).2 countable.line, ?_⟩
    cases column : parts.column with
    | none => exact ⟨1, rfl⟩
    | some digits => exact (number _).2 (countable.column digits column)
  · rintro ⟨line, column⟩
    refine ⟨(number _).1 line, fun digits hdigits => (number _).1 ?_⟩
    rw [hdigits] at column
    exact column

/-- A diagnostic is made unless a number is too long or the encoding of the file is not known. -/
theorem returns_diagnostic {texts : Texts} (tabs : setup.tabWidth ≠ 0)
    (known : Tolerates text texts) (h : Handle) (parts : ReportLine) :
    Returns text (diagnostic setup texts h parts)
      (parts.Countable ∧ (setup.withDocuments = true → Shows text h)) (Keeps text) := by
  unfold diagnostic
  refine Returns.congr ((returns_ofExcept _).bind fun line _ =>
    (returns_ofExcept _).bind fun column _ =>
      (returns_offset tabs known h line column).bind (R := True) ?_) ?_
  · rintro ⟨place, texts'⟩ known'
    exact returns_pure known'
  · rw [countable_iff, and_assoc, and_true]

/-- Lines are attributed unless one of those about a file has a number that is too long, or is
about a file whose encoding is not known. -/
theorem returns_addLines (files : Table String Handle) {texts : Texts}
    (problems : Table Handle (List Diagnostic)) (tabs : setup.tabWidth ≠ 0)
    (known : Tolerates text texts) (lines : List String) :
    Returns text (addLines setup files texts problems lines)
      (∀ line ∈ lines, ∀ h parts, target? setup files line = some (h, parts) →
        parts.Countable ∧ (setup.withDocuments = true → Shows text h)) fun _ => True := by
  induction lines generalizing texts problems with
  | nil => exact (returns_pure trivial).congr ⟨fun _ => nofun, fun _ => trivial⟩
  | cons line rest ih =>
    rw [addLines_cons]
    cases target : target? setup files line with
    | none =>
      refine (ih problems known).congr ?_
      rw [List.forall_mem_cons, target]
      exact ⟨fun others => ⟨nofun, others⟩, fun all => all.2⟩
    | some about =>
      obtain ⟨h, parts⟩ := about
      refine ((returns_diagnostic tabs known h parts).bind fun found known' =>
        ih _ known').congr ?_
      rw [List.forall_mem_cons, target]
      constructor
      · rintro ⟨first, others⟩
        refine ⟨?_, others⟩
        rintro _ _ ⟨⟩
        exact first
      · rintro ⟨first, others⟩
        exact ⟨first h parts rfl, others⟩

/-! ### The whole attribution in a workspace -/

/-- The lock is given, and given back. -/
def Granted (t : Trace) : Prop :=
  ∀ reply : Except Fault Unit, ⟨.lock, reply⟩ ∈ t ∨ ⟨.unlock, reply⟩ ∈ t → reply = .ok ()

/-- Where the lock is granted printed lines are attributed unless one of them stands against it. -/
theorem returns_ofLines {mapping : Table String Handle} {lines : List String} {t : Trace}
    {r : Except Fault (Table Handle (List Diagnostic))} (tabs : setup.tabWidth ≠ 0)
    (run : Runs (ofLines setup mapping lines).attempt t r) (reads : Reads text t)
    (granted : Granted t) :
    (∃ out, r = .ok out) ↔ ∀ line ∈ lines, ∀ h parts,
      target? setup (normalPaths setup mapping) line = some (h, parts) →
        parts.Countable ∧ (setup.withDocuments = true → Shows text h) := by
  have nothing : Tolerates text [] := fun _ _ there => by cases there
  have returns := returns_addLines (normalPaths setup mapping) (noProblems mapping) tabs
    nothing lines
  unfold ofLines at run
  dsimp only at run
  split at run
  · obtain ⟨reply, t₂, rfl, locked⟩ := runs_request_bind.1 run
    obtain rfl := granted reply (.inl List.mem_cons_self)
    obtain ⟨t₃, t₄, result, rfl, adding, unlocking⟩ := runs_bind.1 locked
    obtain ⟨unlocked, t₅, rfl, last⟩ := runs_request_bind.1 unlocking
    obtain rfl := granted unlocked (.inr (by simp))
    obtain ⟨-, rfl⟩ := runs_pure.1 last
    have reads' : Reads text t₃ := fun h reply hmem =>
      reads h reply (List.mem_cons_of_mem _ (List.mem_append_left _ hmem))
    exact (returns t₃ r adding reads').1
  · exact (returns t r run reads).1

end Attribution

/-- What comes of printed lines in a workspace, and the workspace afterwards. -/
def Workspace.attributed (w : Workspace) (setup : Attribution.Setup)
    (mapping : Table String Handle) (lines : List String) :
    Except Fault (Table Handle (List Diagnostic)) × Workspace :=
  ((Attribution.ofLines setup mapping lines).attempt.runWith Workspace.answer).run w

/-- A workspace tells its texts and grants the lock, and it stays as it is. -/
theorem Workspace.exists_runs_attributed (w : Workspace) (setup : Attribution.Setup)
    (mapping : Table String Handle) (lines : List String) :
    ∃ t, Runs (Attribution.ofLines setup mapping lines).attempt t
        (w.attributed setup mapping lines).1 ∧
      Attribution.Reads w.text t ∧ Attribution.Granted t ∧
      (w.attributed setup mapping lines).2 = w := by
  have keeps : ∀ r : Request, r.concern ∈ [Concern.lock, .text] →
      ((Workspace.answer r).run w).2 = w := by
    intro r asked
    cases r with
    | lock | unlock | currentText | diskText => rfl
    | _ => simp [Request.concern] at asked
  obtain ⟨state, replies⟩ := record_of_unchanged
    (fun w r => (Workspace.answer r).run w) (Attribution.ofLines_asks setup mapping lines) keeps
  have run := runs_record (fun w r => (Workspace.answer r).run w) w
    (Attribution.ofLines setup mapping lines).attempt
  have same := record_eq_runWith Workspace.answer w
    (Attribution.ofLines setup mapping lines).attempt
  unfold attributed
  rw [← same]
  refine ⟨_, run, fun h reply asked => replies _ asked, fun reply asked => ?_, state⟩
  rcases asked with asked | asked <;> exact replies _ asked

namespace Attribution

/-- In a workspace lines are attributed if and only if the numbers of those about a file are not
too long and, where there are documents, the encodings of the files are known.  The workspace stays
as it is, and every file gets the diagnostics of all lines about it, whatever stands between
them. -/
theorem attributed_returns {setup : Setup} (tabs : 1 ≤ setup.tabWidth) (w : Workspace)
    (mapping : Table String Handle) (lines : List String) :
    (w.attributed setup mapping lines).2 = w ∧
    ((∃ out, (w.attributed setup mapping lines).1 = .ok out) ↔
      ∀ line ∈ lines, ∀ h parts,
        target? setup (normalPaths setup mapping) line = some (h, parts) →
          parts.Countable ∧
          (setup.withDocuments = true → ¬ w.documents.Garbled w.disk w.cwd h)) ∧
    ∀ out, (w.attributed setup mapping lines).1 = .ok out →
      ∃ found : Handle → List Diagnostic,
        out = (noProblems mapping).map (fun e => (e.1, found e.1)) ∧
        ∀ h, (lines.filterMap (partsFor? setup (normalPaths setup mapping) h)).mapM
          (diagnosticOf setup (shownText (w.text h)) h) = .ok (found h) := by
  obtain ⟨t, run, reads, granted, state⟩ := w.exists_runs_attributed setup mapping lines
  refine ⟨state, ?_, fun out returned => ?_⟩
  · have shows (h : Handle) : Shows w.text h ↔ ¬ w.documents.Garbled w.disk w.cwd h :=
      w.documents.isUnreadable_iff w.disk w.cwd h
    rw [returns_ofLines (by omega) run reads granted]
    simp only [shows]
  · rw [returned] at run
    exact runs_ofLines run reads

/-- A workspace with one file, whose encoding nobody knows, and one that is only in a buffer. -/
def garbledWorkspace : Workspace where
  disk := { entries := [(["a.py".toList], .file [0x78])] }
  documents :=
    { defaultEncoding := "utf-8", buffers := [("/b.py", "x\ty\n")]
      encodings := [("/a.py", "nope")] }
  cwd := "/"
  temporaryDirectory := "/tmp"

/-- Attribution with documents. -/
def withTexts : Setup := { tabWidth := 4, cwd := "/", base := none, withDocuments := true }

/-- Lines about other files and lines that are no report do no harm. -/
theorem garbled_returns :
    (1 : Int) ≤ withTexts.tabWidth ∧
    (garbledWorkspace.attributed withTexts [("/b.py", { path := "/b.py" })]
      ["Found 1 error", "/a.py:1: error: here", "/b.py:1:3: error: there"]).2 = garbledWorkspace ∧
    ∃ out, (garbledWorkspace.attributed withTexts [("/b.py", { path := "/b.py" })]
      ["Found 1 error", "/a.py:1: error: here", "/b.py:1:3: error: there"]).1 = .ok out := by
  have tabs : (1 : Int) ≤ withTexts.tabWidth := by decide
  obtain ⟨state, returns, -⟩ := attributed_returns tabs garbledWorkspace
    [("/b.py", { path := "/b.py" })]
    ["Found 1 error", "/a.py:1: error: here", "/b.py:1:3: error: there"]
  refine ⟨tabs, state, returns.2 ?_⟩
  intro line hline h parts target
  have foreign : ∀ line ∈ ["Found 1 error", "/a.py:1: error: here"],
      target? withTexts (normalPaths withTexts [("/b.py", { path := "/b.py" })]) line = none := by
    decide +kernel
  have about : target? withTexts (normalPaths withTexts [("/b.py", { path := "/b.py" })])
      "/b.py:1:3: error: there" = some ({ path := "/b.py" },
        { path := "/b.py".toList, line := ['1'], column := some ['3'], severity := "error".toList
          message := "there".toList, code := none }) := by decide +kernel
  rcases List.mem_append.1 (show line ∈ ["Found 1 error", "/a.py:1: error: here"] ++
    ["/b.py:1:3: error: there"] from hline) with other | last
  · rw [foreign line other] at target
    cases target
  · obtain rfl := List.mem_singleton.1 last
    rw [about] at target
    cases target
    refine ⟨⟨by decide, by decide⟩, ?_⟩
    rintro - ⟨unsaved, -⟩
    revert unsaved
    decide

/-- Attribution without documents. -/
def withoutTexts : Setup := { withTexts with withDocuments := false }

/-- A line about a file with a number of more digits than are read. -/
def farLine : String :=
  "/p/a.py" ++
    String.ofList (':' :: (List.replicate (Text.maxDigits + 1) '9' ++ ": error: far".toList))

/-- The pieces of the line. -/
theorem exists_farTail : ∃ tail : ReportLine.Tail, tail.lineAt "/p/a.py" = farLine ∧
    tail.line.length = Text.maxDigits + 1 ∧ Text.allBlank tail.message = false := by
  have digits : ReportLine.IsRun Text.isDigit (List.replicate (Text.maxDigits + 1) '9') := by
    refine ⟨List.cons_ne_nil _ _, fun c hc => ?_⟩
    rw [List.eq_of_mem_replicate hc]
    decide +kernel
  have said : Text.allBlank "far".toList = false := by decide +kernel
  refine ⟨{ line := List.replicate (Text.maxDigits + 1) '9', column := none, gap := [' ']
            severity := "error".toList, blank := ' ', message := "far".toList
            line_digits := digits
            column_digits := nofun
            gap_blank := ⟨by decide, List.all_eq_true.1 (by decide +kernel)⟩
            severity_word := ⟨by decide, List.all_eq_true.1 (by decide +kernel)⟩
            blank_isBlank := by decide +kernel
            message_oneLine := by decide }, rfl, List.length_replicate, said⟩

/-- A line about a file may end the whole attribution. -/
theorem not_always_returns :
    ¬ ∀ (setup : Setup) (w : Workspace) (mapping : Table String Handle) (lines : List String),
      1 ≤ setup.tabWidth → ∃ out, (w.attributed setup mapping lines).1 = .ok out := by
  intro claimed
  have returned := claimed withoutTexts garbledWorkspace [("/p/a.py", { path := "/p/a.py" })]
    [farLine, "/p/a.py:1: error: near"] (by decide)
  obtain ⟨t, run, reads, granted, -⟩ := garbledWorkspace.exists_runs_attributed withoutTexts
    [("/p/a.py", { path := "/p/a.py" })] [farLine, "/p/a.py:1: error: near"]
  have all := (returns_ofLines (by decide) run reads granted).1 returned
  obtain ⟨tail, line_eq, digits, said⟩ := exists_farTail
  have about : target? withoutTexts (normalPaths withoutTexts [("/p/a.py", { path := "/p/a.py" })])
      farLine = some ({ path := "/p/a.py" }, tail.parts "/p/a.py".toList) := by
    have known : (normalPaths withoutTexts [("/p/a.py", { path := "/p/a.py" })]).get? "/p/a.py" =
        some { path := "/p/a.py" } := by decide +kernel
    rw [← line_eq, target?_lineAt (by decide +kernel) (by decide +kernel) said, known]
    rfl
  have short : tail.line.length ≤ Text.maxDigits :=
    (all farLine List.mem_cons_self _ _ about).1.line
  omega

end Attribution

end LiveCheck
