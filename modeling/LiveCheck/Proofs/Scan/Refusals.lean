import LiveCheck.Proofs.Attribution.Returning
import LiveCheck.Proofs.Encoding
import LiveCheck.Proofs.Reading
import LiveCheck.Proofs.Scan.Snapshots
import LiveCheck.Proofs.Scan.Telling

/-!
# When snapshots cannot be made

A set of snapshots is given up at the first file of which none can be made.  The fault names the
file and has the fault that brought it about as its cause: `Refused` lists the ways.  One file is
not refused so.  Its bytes are on the disk and can be read, but no encoding has the name that is
declared for it; what is raised then is not expected of reading, and it leaves the set as it is
(`Workspace.Unknown`).

The fault of each step of the making is found first, for whatever is answered.  In a workspace
`refused_of_make` says which of them one file meets, and `refused_of_makeEach` finds the file by
induction over the set.
-/

namespace LiveCheck

open Program

/-! ### Texts that cannot be read -/

/-- The file is on the disk and can be opened, and its encoding has a name that no encoding has. -/
def Workspace.Unknown (w : Workspace) (h : Handle) : Prop :=
  (∃ bytes, w.disk.lookUp? w.cwd h.path = some (.file bytes)) ∧
    w.documents.codecs.ofName? (w.documents.encodingOf h) = none

namespace Workspace

variable {w : Workspace} {h : Handle} {fault : Fault}

/-- A text on the disk that cannot be read: its encoding is unknown, or the fault is one that
reading may have. -/
theorem saved_error (named : '\x00' ∉ (w.documents.encodingOf h).toList)
    (failed : w.saved h = .error fault) :
    w.Unknown h ∧ fault = w.documents.codecs.unknown (w.documents.encodingOf h) ∨
      ¬ w.Unknown h ∧ fault.isUnreadable = true := by
  unfold Workspace.saved Documents.diskText at failed
  split at failed
  swap
  · cases failed
  next there =>
  have checked : Encoding.checkName (w.documents.encodingOf h) = .ok () := if_neg named
  rw [checked] at failed
  obtain fault' | ⟨_, -, reading⟩ := bind_eq_error.1 failed
  · cases fault'
  obtain unread | ⟨bytes, read, finding⟩ := bind_eq_error.1 reading
  · refine .inr ⟨?_, Disk.isUnreadable_of_read there unread⟩
    rintro ⟨⟨bytes, file⟩, -⟩
    rw [Disk.read_eq_ok.2 file] at unread
    cases unread
  rw [Encoding.Codecs.find_of_named named] at finding
  cases known : w.documents.codecs.ofName? (w.documents.encodingOf h) with
  | none =>
    rw [known] at finding
    cases finding
    exact .inl ⟨⟨⟨bytes, Disk.read_eq_ok.1 read⟩, known⟩, rfl⟩
  | some codec =>
    rw [known] at finding
    refine .inr ⟨fun unknown => (nomatch known.symm.trans unknown.2), ?_⟩
    obtain undecoded | ⟨chars, -, last⟩ :=
      bind_eq_error.1 (show codec.decode bytes >>= _ = _ from finding)
    · exact Encoding.Codec.isUnreadable_of_decode undecoded
    · cases last

/-- A file whose encoding is unknown has no text on the disk. -/
theorem Unknown.saved_eq (unknown : w.Unknown h)
    (named : '\x00' ∉ (w.documents.encodingOf h).toList) :
    w.saved h = .error (w.documents.codecs.unknown (w.documents.encodingOf h)) := by
  obtain ⟨bytes, file⟩ := unknown.1
  cases there : w.saved h with
  | error fault =>
    obtain ⟨-, same⟩ | ⟨known, -⟩ := saved_error named there
    · rw [same]
    · exact absurd unknown known
  | ok onDisk =>
    cases onDisk with
    | none =>
      rw [Documents.diskText_eq_none.1 there] at file
      cases file
    | some text =>
      obtain ⟨_, codec, -, found, -⟩ := Documents.diskText_eq_some.1 there
      rw [Encoding.Codecs.find_of_named named, unknown.2] at found
      cases found

/-- A text in the editor that cannot be read: the one on the disk cannot, or there is none. -/
theorem text_error (failed : w.text h = .error fault) :
    w.saved h = .error fault ∨ w.saved h = .ok none ∧ fault = .noSuchDocument h.path := by
  unfold Workspace.text Documents.currentText at failed
  unfold Workspace.saved
  split at failed
  · cases failed
  obtain unread | ⟨onDisk, there, missing⟩ := bind_eq_error.1 failed
  · exact .inl unread
  · cases onDisk with
    | none =>
      cases missing
      exact .inr ⟨there, rfl⟩
    | some text => cases missing

end Workspace

namespace Snapshot

variable {scratch : Option String} {cancellable : Bool} {h : Handle} {t : Trace} {fault : Fault}

/-! ### The faults of the steps -/

/-- Only a token that has tripped stops the making of snapshots. -/
theorem runs_checkCancelled_error
    (run : Runs (checkCancelled cancellable).attempt t (.error fault)) :
    fault = .scanCancelled ∧ t = [⟨.isCancelled, true⟩] := by
  unfold checkCancelled at run
  cases cancellable with
  | false => exact nomatch (runs_attempt_pure.1 run).2
  | true =>
    rw [if_pos rfl] at run
    obtain ⟨_, t₂, stop, rfl, ask, rest⟩ := runs_attempt_ofTotal_bind.1 run
    cases runs_request.1 ask
    cases stop with
    | false => exact nomatch (runs_attempt_pure.1 rest).2
    | true =>
      obtain ⟨rfl, thrown⟩ := runs_attempt_throw.1 rest
      exact ⟨Except.error.inj thrown, rfl⟩

/-- What the fault of a text that could not be read becomes. -/
def unread (h : Handle) (fault : Fault) : Fault :=
  if fault.isUnreadable then
    validationFailure h ("Cannot read " ++ h.path ++ ": " ++ fault.message) (some fault)
  else fault

/-- Texts cannot be read because the text in the editor cannot, or the text on the disk. -/
theorem runs_readTexts_error (run : Runs (readTexts h).attempt t (.error fault)) :
    ∃ cause, fault = unread h cause ∧ (t = [⟨.currentText h, .error cause⟩] ∨
      ∃ text, t = [⟨.currentText h, .ok text⟩, ⟨.diskText h, .error cause⟩]) := by
  unfold readTexts at run
  rcases runs_attempt_tryCatch.1 run with ⟨_, same, -⟩ | ⟨t₁, t₂, cause, rfl, reading, handling⟩
  · cases same
  have handled : t₂ = [] ∧ fault = unread h cause := by
    unfold unread
    split at handling
    · obtain ⟨rfl, thrown⟩ := runs_attempt_throw.1 handling
      exact ⟨rfl, by rw [if_pos ‹_›]; exact Except.error.inj thrown⟩
    · obtain ⟨rfl, thrown⟩ := runs_attempt_throw.1 handling
      exact ⟨rfl, by rw [if_neg ‹_›]; exact Except.error.inj thrown⟩
  obtain ⟨rfl, rfl⟩ := handled
  refine ⟨cause, rfl, ?_⟩
  rw [List.append_nil]
  rcases runs_attempt_bind.1 reading with ⟨t₃, t₄, text, rfl, ask, last⟩ | ⟨_, same, ask⟩
  · obtain rfl := runs_request.1 (runs_attempt_ofProgram.1 ask)
    rcases runs_attempt_bind.1 last with ⟨t₅, t₆, onDisk, rfl, -, pure⟩ | ⟨_, same, ask'⟩
    · exact nomatch (runs_attempt_pure.1 pure).2
    · cases same
      obtain rfl := runs_request.1 (runs_attempt_ofProgram.1 ask')
      exact .inr ⟨text, rfl⟩
  · cases same
    obtain rfl := runs_request.1 (runs_attempt_ofProgram.1 ask)
    exact .inl rfl

/-- A path is taken by another file that is not on the disk either. -/
theorem claim_error {unsaved : Table String Handle} {onDisk : Option String}
    (taken : claim unsaved h onDisk = .error fault) :
    onDisk = none ∧ ∃ other, unsaved.get? h.path = some other ∧ other ≠ h ∧
      fault = validationFailure h
        ("Unsaved files collide on path: " ++ other.path ++ " / " ++ h.path) none := by
  cases onDisk with
  | some text => cases taken
  | none =>
    refine ⟨rfl, ?_⟩
    unfold claim claimPath at taken
    cases found : unsaved.get? h.path with
    | none =>
      rw [found] at taken
      cases taken
    | some other =>
      rw [found] at taken
      dsimp only at taken
      split at taken
      · cases taken
      · next differs => exact ⟨other, rfl, differs, (Except.error.inj taken).symm⟩

/-- A copy is not written because its encoding is not told, or the text cannot be written. -/
theorem runs_fillCopy_error {s : Snapshot} {text : String}
    (run : Runs (s.fillCopy text).attempt t (.error fault)) :
    ∃ cause t₁ t₂, t = t₁ ++ t₂ ∧ (t₁ = [⟨.encoding s.handle, .error cause⟩] ∨
        ∃ encoding, t₁ = [⟨.encoding s.handle, .ok encoding⟩,
          ⟨.writeTemporary s.path text encoding, .error cause⟩]) ∧
      (cause.isUnwritable = false ∧ t₂ = [] ∧ fault = cause ∨
        cause.isUnwritable = true ∧ ∃ removed, Runs s.delete.attempt t₂ removed ∧
          (removed = .ok () → fault = validationFailure s.handle
            ("Cannot write snapshot for " ++ s.handle.path ++ ": " ++ cause.message)
            (some cause))) := by
  unfold fillCopy at run
  rcases runs_attempt_tryCatch.1 run with ⟨_, same, -⟩ | ⟨t₁, t₂, cause, rfl, writing, handling⟩
  · cases same
  refine ⟨cause, t₁, t₂, rfl, ?asked, ?handled⟩
  case asked =>
    rcases runs_attempt_bind.1 writing with ⟨t₃, t₄, encoding, rfl, ask, write⟩ | ⟨_, same, ask⟩
    · obtain rfl := runs_request.1 (runs_attempt_ofProgram.1 ask)
      obtain rfl := runs_request.1 (runs_attempt_ofProgram.1 write)
      exact .inr ⟨encoding, rfl⟩
    · cases same
      obtain rfl := runs_request.1 (runs_attempt_ofProgram.1 ask)
      exact .inl rfl
  case handled =>
    split at handling
    · next expected =>
      refine .inr ⟨expected, ?_⟩
      rcases runs_attempt_bind.1 handling with ⟨t₃, t₄, _, rfl, delete, raise⟩ | ⟨_, same, delete⟩
      · obtain ⟨rfl, thrown⟩ := runs_attempt_throw.1 raise
        rw [List.append_nil]
        exact ⟨_, delete, fun _ => Except.error.inj thrown⟩
      · exact ⟨_, delete, nofun⟩
    · next unexpected =>
      obtain ⟨rfl, thrown⟩ := runs_attempt_throw.1 handling
      exact .inl ⟨by simpa using unexpected, rfl, Except.error.inj thrown⟩

/-- A copy whose removal fails with a failed system call at most counts as removed. -/
theorem runs_delete_copy {s : Snapshot} {r : Except Fault Unit} (pending : s.isPending = true)
    (run : Runs s.delete.attempt t r) :
    ∃ reply t', t = ⟨.remove s.path, reply⟩ :: t' ∧
      ((∀ fault, reply = .error fault → fault.isSystem = true) → r = .ok ()) := by
  unfold delete at run
  rw [if_pos pending] at run
  obtain ⟨_, t₂, reply, rfl, remove, rest⟩ := runs_attempt_ofTotal_bind.1 run
  cases runs_request.1 remove
  refine ⟨reply, t₂, rfl, fun system => ?_⟩
  match reply with
  | .ok () => exact (runs_attempt_pure.1 rest).2
  | .error fault =>
    dsimp only at rest
    split at rest
    · exact (runs_attempt_pure.1 rest).2
    · rw [if_pos (system fault rfl)] at rest
      obtain ⟨_, same, -⟩ := runs_attempt_ofTotal.1 rest
      exact same

/-- A snapshot cannot be placed because no copy is created, or because it is not written. -/
theorem runs_place_error {current : String} {onDisk : Option String}
    (run : Runs (place scratch h current onDisk).attempt t (.error fault)) :
    ∃ stem extension,
      (∃ cause, t = [⟨.createTemporary stem extension scratch, .error cause⟩] ∧
        fault = uncreated h cause) ∨
      ∃ path t', t = ⟨.createTemporary stem extension scratch, .ok path⟩ :: t' ∧
        Runs (fillCopy { handle := h, path, temporary := true } current).attempt t'
          (.error fault) := by
  unfold place at run
  split at run
  · exact nomatch (runs_attempt_pure.1 run).2
  unfold writeCopy at run
  rcases runs_attempt_bind.1 run with ⟨t₁, t₂, path, rfl, create, filling⟩ | ⟨_, same, create⟩
  · obtain ⟨reply, rfl, created, -⟩ := runs_createCopy create
    obtain rfl := (created path).1 rfl
    rcases runs_attempt_bind.1 filling with ⟨t₃, t₄, _, rfl, -, last⟩ | ⟨_, same, fill⟩
    · exact nomatch (runs_attempt_pure.1 last).2
    · cases same
      exact ⟨_, _, .inr ⟨path, t₂, rfl, fill⟩⟩
  · cases same
    obtain ⟨reply, rfl, created, refused⟩ := runs_createCopy create
    cases reply with
    | ok path => exact nomatch (created path).2 rfl
    | error cause => exact ⟨_, _, .inl ⟨cause, rfl, Except.error.inj (refused cause rfl)⟩⟩

/-! ### What is answered in a workspace -/

variable {w w' : Workspace}

/-- A text is not written only because its encoding is unknown or has no bytes for it. -/
theorem isUnwritable_of_write {path text encoding : String} {cause : Fault}
    (named : '\x00' ∉ encoding.toList)
    (failed : w.writeTemporary path text encoding = (.error cause, w')) :
    cause.isUnwritable = true := by
  unfold Workspace.writeTemporary at failed
  split at failed
  swap
  · split at failed <;> cases failed
  next fault' unencoded =>
  cases failed
  obtain unfound | ⟨codec, -, unfit⟩ := bind_eq_error.1 (show _ >>= _ = _ from unencoded)
  · rw [Encoding.Codecs.find_of_named named] at unfound
    cases known : w.documents.codecs.ofName? encoding with
    | none =>
      rw [known] at unfound
      cases unfound
      rfl
    | some codec =>
      rw [known] at unfound
      cases unfound
  · unfold Fault.isUnwritable
    rw [Encoding.Codec.isUnreadable_of_encode unfit, Bool.true_or]

/-- A file is not removed only because a system call fails. -/
theorem isSystem_of_remove {path : String} {cause : Fault} (named : '\x00' ∉ path.toList)
    (failed : w.remove path = (.error cause, w')) : cause.isSystem = true := by
  have refused : w.disk.remove w.cwd path = .error cause := by
    unfold Workspace.remove at failed
    split at failed
    · cases failed
    · next fault' refused =>
      cases failed
      exact refused
  unfold Disk.remove at refused
  obtain unlocated | ⟨target, -, kept⟩ := bind_eq_error.1 refused
  · unfold Disk.locateOrFault at unlocated
    rw [if_neg named] at unlocated
    cases located : w.disk.locate w.cwd path false with
    | error number =>
      rw [located] at unlocated
      cases unlocated
      exact SystemError.isSystem_fault _ _
    | ok target =>
      rw [located] at unlocated
      cases unlocated
  · cases target with
    | absent directory name =>
      cases kept
      exact SystemError.isSystem_fault _ _
    | found place =>
      dsimp only at kept
      split at kept <;> cases kept <;> exact SystemError.isSystem_fault _ _

/-- A text that cannot be read in a workspace: the encoding of the file is unknown, or the fault is
one that reading may have. -/
theorem unreadable_or_unknown {cause : Fault}
    (named : '\x00' ∉ (w.documents.encodingOf h).toList)
    (failed : w.text h = .error cause ∨ w.saved h = .error cause) :
    w.Unknown h ∧ cause = w.documents.codecs.unknown (w.documents.encodingOf h) ∨
      ¬ w.Unknown h ∧ cause.isUnreadable = true := by
  rcases failed with now | onDisk
  · rcases w.text_error now with onDisk | ⟨missing, rfl⟩
    · exact w.saved_error named onDisk
    · refine .inr ⟨fun unknown => ?_, rfl⟩
      rw [unknown.saved_eq named] at missing
      cases missing
  · exact w.saved_error named onDisk

/-! ### One file -/

/-- How a file is refused, on the way that a trace tells: the failure names the file and has the
underlying fault as its cause, but where the file has the path of one that came before it. -/
inductive Refused (scratch : Option String) (earlier : List Handle) (h : Handle) (t : Trace) :
    Fault → Prop where
  | unread {cause : Fault}
      (told : ⟨.currentText h, .error cause⟩ ∈ t ∨ ⟨.diskText h, .error cause⟩ ∈ t) :
      Refused scratch earlier h t (validationFailure h
        ("Cannot read " ++ h.path ++ ": " ++ cause.message) (some cause))
  | collides {other : Handle} (before : other ∈ earlier) (path : other.path = h.path)
      (differs : other ≠ h) (told : ⟨.diskText h, .ok none⟩ ∈ t) :
      Refused scratch earlier h t (validationFailure h
        ("Unsaved files collide on path: " ++ other.path ++ " / " ++ h.path) none)
  | uncreated {stem extension : String} {cause : Fault}
      (told : ⟨.createTemporary stem extension scratch, .error cause⟩ ∈ t) :
      Refused scratch earlier h t (validationFailure h
        ("Cannot create snapshot for " ++ h.path ++ ": " ++ cause.message) (some cause))
  | unwritten {path text encoding : String} {cause : Fault}
      (told : ⟨.writeTemporary path text encoding, .error cause⟩ ∈ t)
      (removed : ∃ reply, ⟨.remove path, reply⟩ ∈ t) :
      Refused scratch earlier h t (validationFailure h
        ("Cannot write snapshot for " ++ h.path ++ ": " ++ cause.message) (some cause))

/-- How no snapshot of a file can be made in a workspace: the token has tripped, the file is
refused, or its encoding is unknown. -/
inductive GivenUp (scratch : Option String) (earlier : List Handle) (w : Workspace) (h : Handle)
    (t : Trace) : Fault → Prop where
  | cancelled (tripped : ⟨.isCancelled, true⟩ ∈ t) :
      GivenUp scratch earlier w h t .scanCancelled
  | refused {fault : Fault} (known : ¬ w.Unknown h) (refused : Refused scratch earlier h t fault) :
      GivenUp scratch earlier w h t fault
  | unknown (unknown : w.Unknown h) :
      GivenUp scratch earlier w h t (w.documents.codecs.unknown (w.documents.encodingOf h))

variable {t₂ : Trace} {earlier : List Handle}

/-- What a part of a trace tells the whole trace tells. -/
theorem Refused.mono (refused : Refused scratch earlier h t fault) (part : t ⊆ t₂) :
    Refused scratch earlier h t₂ fault := by
  cases refused with
  | unread told => exact .unread (told.imp (@part _) (@part _))
  | collides before path differs told => exact .collides before path differs (part told)
  | uncreated told => exact .uncreated (part told)
  | unwritten told removed =>
    obtain ⟨reply, removed⟩ := removed
    exact .unwritten (part told) ⟨reply, part removed⟩

/-- The same for all ways. -/
theorem GivenUp.mono (given : GivenUp scratch earlier w h t fault) (part : t ⊆ t₂) :
    GivenUp scratch earlier w h t₂ fault := by
  cases given with
  | cancelled tripped => exact .cancelled (part tripped)
  | refused known refused => exact .refused known (refused.mono part)
  | unknown unknown => exact .unknown unknown

/-- A temporary file is not created only because a system call fails. -/
def OnlySystemRefuses (t : Trace) : Prop :=
  ∀ stem extension directory fault,
    ⟨.createTemporary stem extension directory, .error fault⟩ ∈ t → fault.isSystem = true

/-- In a part of a trace the same holds. -/
theorem OnlySystemRefuses.mono (system : OnlySystemRefuses t₂) (part : t ⊆ t₂) :
    OnlySystemRefuses t :=
  fun stem extension directory fault refused => system stem extension directory fault (part refused)

/-- The copy of a file that is not written is removed again. -/
theorem refused_of_fillCopy {path text : String}
    (run : Runs (fillCopy { handle := h, path, temporary := true } text).attempt t (.error fault))
    (follows : Follows w t w') (named : '\x00' ∉ (w.documents.encodingOf h).toList)
    (named' : '\x00' ∉ path.toList) : Refused scratch earlier h t fault := by
  obtain ⟨cause, t₁, t₂, rfl, asked, handled⟩ := runs_fillCopy_error run
  obtain ⟨v, follows₁, follows₂⟩ := Follows.append_iff.1 follows
  rcases asked with rfl | ⟨encoding, rfl⟩
  · -- The documents always tell the encoding.
    cases follows₁ with
    | cons ask => exact nomatch ask.encoding_eq.1
  cases follows₁ with
  | cons ask rest =>
  cases rest with
  | cons write rest =>
  cases rest
  obtain ⟨told, rfl⟩ := ask.encoding_eq
  obtain rfl := Except.ok.inj told
  have unwritable := isUnwritable_of_write named write.write_eq
  rcases handled with ⟨writable, -⟩ | ⟨-, removed, delete, failure⟩
  · rw [unwritable] at writable
    cases writable
  obtain ⟨reply, t', rfl, deleted⟩ := runs_delete_copy rfl delete
  cases follows₂ with
  | cons remove rest =>
  have system : ∀ fault, reply = .error fault → fault.isSystem = true := by
    rintro fault rfl
    have failed := Option.some.inj (remove.answer_eq (by simp [Request.concern]) (by simp))
    exact isSystem_of_remove named' failed
  rw [failure (deleted system)]
  exact .unwritten (List.mem_append_left _ (List.mem_cons_of_mem _ List.mem_cons_self))
    ⟨reply, List.mem_append_right _ List.mem_cons_self⟩

/-- A file whose texts cannot be read is refused, unless its encoding is unknown. -/
theorem givenUp_of_readTexts (run : Runs (readTexts h).attempt t (.error fault))
    (follows : Follows w t w') (named : '\x00' ∉ (w.documents.encodingOf h).toList) :
    GivenUp scratch earlier w h t fault := by
  obtain ⟨cause, rfl, asked⟩ := runs_readTexts_error run
  have told : ⟨.currentText h, .error cause⟩ ∈ t ∧ w.text h = .error cause ∨
      ⟨.diskText h, .error cause⟩ ∈ t ∧ w.saved h = .error cause := by
    rcases asked with rfl | ⟨text, rfl⟩
    · cases follows with
      | cons ask rest => exact .inl ⟨List.mem_singleton_self _, ask.text_eq.symm⟩
    · cases follows with
      | cons ask rest =>
      cases rest with
      | cons ask' rest =>
      obtain rfl := (ask.eq (by simp [Request.concern])).symm
      exact .inr ⟨List.mem_cons_of_mem _ (List.mem_singleton_self _), ask'.saved_eq.symm⟩
  rcases unreadable_or_unknown named (told.imp And.right And.right) with
    ⟨unknown, rfl⟩ | ⟨known, unreadable⟩
  · have passed : unread h (w.documents.codecs.unknown (w.documents.encodingOf h)) =
        w.documents.codecs.unknown (w.documents.encodingOf h) := if_neg Bool.false_ne_true
    rw [passed]
    exact .unknown unknown
  · rw [unread, if_pos unreadable]
    exact .refused known (.unread (told.imp And.left And.left))

/-- A file whose snapshot cannot be placed is refused. -/
theorem refused_of_place {current : String} {onDisk : Option String}
    (run : Runs (place scratch h current onDisk).attempt t (.error fault))
    (follows : Follows w t w') (named : '\x00' ∉ (w.documents.encodingOf h).toList)
    (system : OnlySystemRefuses t) : Refused scratch earlier h t fault := by
  obtain ⟨stem, extension, ⟨cause, rfl, rfl⟩ | ⟨path, t', rfl, fill⟩⟩ := runs_place_error run
  · have created := List.mem_singleton_self
      (⟨.createTemporary stem extension scratch, .error cause⟩ : Exchange)
    rw [uncreated, if_pos (system _ _ _ _ created)]
    exact .uncreated created
  · cases follows with
    | cons answered rest =>
    obtain ⟨place, disk, nextTemporary, create, rfl⟩ := answered.create_eq
    obtain ⟨target, located, -⟩ := bind_eq_ok.1 (show _ >>= _ = _ from create)
    have refused : Refused scratch earlier h t' fault :=
      refused_of_fillCopy fill rest named (Disk.null_notMem_of_locateOrFault located)
    exact refused.mono (List.subset_cons_self _ _)

/-- No snapshot of a file is made in one of these ways. -/
theorem givenUp_of_make {unsaved : Table String Handle}
    (run : Runs (make scratch cancellable unsaved h).attempt t (.error fault))
    (follows : Follows w t w') (named : '\x00' ∉ (w.documents.encodingOf h).toList)
    (system : OnlySystemRefuses t)
    (table : ∀ k, unsaved.get? h.path = some k → k.path = h.path ∧ k ∈ earlier) :
    GivenUp scratch earlier w h t fault := by
  -- As long as texts are read the workspace stays as it is.
  have same {t₁ : Trace} {v : Workspace} {u : Unit}
      (check : Runs (checkCancelled cancellable).attempt t₁ (.ok u)) (first : Follows w t₁ v) :
      v = w :=
    (first.reads ((check.about (checkCancelled_asks _)).mono (by simp))).1
  have known {onDisk : Option String} (there : w.saved h = .ok onDisk) : ¬ w.Unknown h :=
    fun unknown => nomatch there.symm.trans (unknown.saved_eq named)
  cases runs_make run with
  | stopped check =>
    obtain ⟨rfl, rfl⟩ := runs_checkCancelled_error check
    exact .cancelled (List.mem_singleton_self _)
  | unread check read =>
    obtain ⟨v, first, second⟩ := Follows.append_iff.1 follows
    obtain rfl := (same check first).symm
    exact (givenUp_of_readTexts read second named).mono (List.subset_append_right _ _)
  | collides check taken =>
    obtain ⟨v, first, second⟩ := Follows.append_iff.1 follows
    obtain rfl := (same check first).symm
    obtain ⟨-, -, there⟩ := second.texts
    obtain ⟨rfl, other, found, differs, rfl⟩ := claim_error taken
    obtain ⟨path, before⟩ := table other found
    refine .refused (known there) (.collides before path differs ?_)
    exact List.mem_append_right _ (List.mem_cons_of_mem _ (List.mem_singleton_self _))
  | unplaced check claimed place =>
    obtain ⟨v, first, second⟩ := Follows.append_iff.1 follows
    obtain rfl := (same check first).symm
    obtain ⟨v, reading, placing⟩ := Follows.append_iff.1 second
    obtain ⟨rfl, -, there⟩ := reading.texts
    have refused : Refused scratch earlier h _ fault := refused_of_place place placing named
      (system.mono fun e he => List.mem_append_right _ (List.mem_append_right _ he))
    exact .refused (known there)
      (refused.mono fun e he => List.mem_append_right _ (List.mem_append_right _ he))

/-! ### A set of files -/

/-- The table of files that were never saved holds files that came before, under their paths. -/
def Tracks (unsaved : Table String Handle) (earlier : List Handle) : Prop :=
  ∀ path k, unsaved.get? path = some k → k.path = path ∧ k ∈ earlier

/-- It does so after one more file. -/
theorem Tracks.claim {unsaved unsaved' : Table String Handle} {onDisk : Option String}
    (tracks : Tracks unsaved earlier) (claimed : claim unsaved h onDisk = .ok unsaved') :
    Tracks unsaved' (earlier ++ [h]) := by
  have longer : Tracks unsaved (earlier ++ [h]) := fun path k found =>
    ⟨(tracks path k found).1, List.mem_append_left _ (tracks path k found).2⟩
  cases onDisk with
  | some text =>
    obtain rfl : unsaved = unsaved' := Except.ok.inj claimed
    exact longer
  | none =>
    unfold Snapshot.claim claimPath at claimed
    cases found : unsaved.get? h.path with
    | some other =>
      rw [found] at claimed
      dsimp only at claimed
      split at claimed
      · obtain rfl := Except.ok.inj claimed
        exact longer
      · cases claimed
    | none =>
      rw [found] at claimed
      obtain rfl := Except.ok.inj claimed
      intro path k there
      by_cases here : path = h.path
      · rw [here, Table.get?_put_self] at there
        obtain rfl := Option.some.inj there
        exact ⟨here.symm, List.mem_append_right _ (List.mem_singleton_self _)⟩
      · rw [Table.get?_put_of_ne _ _ here] at there
        exact longer path k there

/-- The snapshots of files are not all made: not that of the first, or not those of the others. -/
theorem runs_makeEach_error {unsaved : Table String Handle} {files : List Handle}
    {made : List Snapshot}
    (run : Runs (makeEach scratch cancellable unsaved files) t (made, .error fault)) :
    ∃ h rest, files = h :: rest ∧
      (made = [] ∧ Runs (make scratch cancellable unsaved h).attempt t (.error fault) ∨
        ∃ s others unsaved' t₁ t₂, made = s :: others ∧ t = t₁ ++ t₂ ∧
          Runs (make scratch cancellable unsaved h).attempt t₁ (.ok (s, unsaved')) ∧
          Runs (makeEach scratch cancellable unsaved' rest) t₂ (others, .error fault)) := by
  cases files with
  | nil => exact nomatch (runs_pure.1 run).2
  | cons h rest =>
    refine ⟨h, rest, rfl, ?_⟩
    rcases runs_makeEach run with ⟨_, rfl, same, make⟩ | parts
    · cases same
      exact .inl ⟨rfl, make⟩
    · exact .inr parts

/-- The files before the one of which no snapshot can be made all have theirs. -/
theorem givenUp_of_makeEach {unsaved : Table String Handle} {files : List Handle}
    {made : List Snapshot}
    (run : Runs (makeEach scratch cancellable unsaved files) t (made, .error fault))
    (follows : Follows w t w')
    (named : ∀ h ∈ files, '\x00' ∉ (w.documents.encodingOf h).toList)
    (system : OnlySystemRefuses t) (tracks : Tracks unsaved earlier) :
    ∃ h rest a b v, files = made.map handle ++ h :: rest ∧ t = a ++ b ∧ Follows w a v ∧
      GivenUp scratch (earlier ++ made.map handle) v h b fault := by
  induction files generalizing unsaved earlier made t w with
  | nil =>
    obtain ⟨h, rest, same, -⟩ := runs_makeEach_error run
    cases same
  | cons h rest ih =>
    obtain ⟨_, _, same, parts⟩ := runs_makeEach_error run
    cases same
    rcases parts with ⟨rfl, make⟩ | ⟨s, others, unsaved', t₁, t₂, rfl, rfl, make, makeRest⟩
    · have given := givenUp_of_make make follows (named h List.mem_cons_self) system
        fun k found => tracks h.path k found
      refine ⟨h, rest, [], t, w, rfl, rfl, .nil w, ?_⟩
      rwa [List.map_nil, List.append_nil]
    · obtain ⟨v, first, second⟩ := Follows.append_iff.1 follows
      have documents : v.documents = w.documents :=
        first.documents_eq ((make.about (make_asks _ _ _ _)).mono (by simp))
      have handle : s.handle = h := (runs_make_ok make).handle_eq
      have tracks' : Tracks unsaved' (earlier ++ [h]) := by
        cases runs_make make with
        | placed check claimed place => exact tracks.claim claimed
      have named' : ∀ k ∈ rest, '\x00' ∉ (v.documents.encodingOf k).toList := by
        rw [documents]
        exact fun k hk => named k (List.mem_cons_of_mem _ hk)
      obtain ⟨k, rest', a, b, u, rfl, rfl, before, given⟩ :=
        ih makeRest second named' (system.mono (List.subset_append_right _ _)) tracks'
      refine ⟨k, rest', t₁ ++ a, b, u, ?files, (List.append_assoc _ _ _).symm,
        Follows.append_iff.2 ⟨v, first, before⟩, ?given⟩
      case files => rw [List.map_cons, handle, List.cons_append]
      case given =>
        rw [List.map_cons, handle]
        rwa [List.append_assoc, List.singleton_append] at given

/-- Where the lock is granted, snapshots that are not all made under the lock are not all made. -/
theorem runs_makeAll_error {files : List Handle} {made : List Snapshot}
    (run : Runs (makeAll scratch cancellable files) t (made, .error fault))
    (granted : Attribution.Granted t) :
    ∃ t₁, t = ⟨.lock, .ok ()⟩ :: (t₁ ++ [⟨.unlock, .ok ()⟩]) ∧
      Runs (makeEach scratch cancellable [] files) t₁ (made, .error fault) := by
  rcases runs_makeAll run with ⟨_, -, -, rfl⟩ | ⟨t₁, ending, unlocked, rfl, ended, each⟩
  · exact nomatch granted _ (.inl List.mem_cons_self)
  · obtain rfl := granted unlocked
      (.inr (List.mem_cons_of_mem _ (List.mem_append_right _ List.mem_cons_self)))
    obtain rfl : .error fault = ending := ended
    exact ⟨t₁, rfl, each⟩

/-- Where not all snapshots of a set are made there is one file at which the making stopped.  All
files before it have their snapshots, and the set has these.  What is raised is the cancellation of
the scan, or a failure that names the file and has the underlying fault as its cause, if no other
file has its path; but when the file is on the disk, can be opened, and its encoding has a name that
no encoding has, the fault of that name itself is raised.

The lock is granted, a temporary file is refused only by a failed system call, and no name of an
encoding has a null character. -/
theorem givenUp_of_makeAll {files : List Handle} {made : List Snapshot}
    (run : Runs (makeAll scratch cancellable files) t (made, .error fault))
    (follows : Follows w t w') (granted : Attribution.Granted t) (system : OnlySystemRefuses t)
    (named : ∀ h ∈ files, '\x00' ∉ (w.documents.encodingOf h).toList) :
    ∃ h rest a b v, files = made.map handle ++ h :: rest ∧
      t = ⟨.lock, .ok ()⟩ :: (a ++ b ++ [⟨.unlock, .ok ()⟩]) ∧ Follows w a v ∧
      GivenUp scratch (made.map handle) v h b fault := by
  obtain ⟨t₁, rfl, each⟩ := runs_makeAll_error run granted
  cases follows with
  | cons locked after =>
    obtain rfl := (locked.eq (by simp [Request.concern])).symm
    obtain ⟨v, making, -⟩ := Follows.append_iff.1 after
    have inside : t₁ ⊆ ⟨.lock, .ok ()⟩ :: (t₁ ++ [⟨.unlock, .ok ()⟩]) := fun e he =>
      List.mem_cons_of_mem _ (List.mem_append_left _ he)
    have tracks : Tracks [] [] := by
      intro path k found
      cases found
    obtain ⟨h, rest, a, b, u, files, rfl, before, given⟩ :=
      givenUp_of_makeEach each making named (system.mono inside) tracks
    exact ⟨h, rest, a, b, u, files, rfl, before, given⟩

/-- A file with an unsaved text, and one whose encoding is unknown. -/
def misnamed : Workspace where
  disk := { entries :=
    [(["p".toList], .directory), (["p".toList, "a.py".toList], .file [0x78]),
      (["p".toList, "b.py".toList], .file [0x79]), (["t".toList], .directory)] }
  documents := { defaultEncoding := "utf-8", buffers := [("/p/a.py", "z"), ("/p/b.py", "z")],
                 encodings := [("/p/b.py", "nope")] }
  cwd := "/p"
  temporaryDirectory := "/t"

/-- The making of snapshots there. -/
def madeOfMisnamed (files : List Handle) :
    Trace × (List Snapshot × Except Fault Unit) × Workspace :=
  record (Workspace.reply Request.nothing) misnamed (makeAll none false files)

/-- The lock is granted. -/
theorem granted_madeOfMisnamed (files : List Handle) :
    Attribution.Granted (madeOfMisnamed files).1 := by
  intro reply asked
  have replies := replies_record (Workspace.reply Request.nothing) misnamed
    (makeAll none false files)
  rcases asked with asked | asked
  · obtain ⟨_, told⟩ := replies _ asked
    exact told
  · obtain ⟨_, told⟩ := replies _ asked
    exact told

/-- Is it not answered that no temporary file can be created? -/
def creates : Exchange → Bool
  | ⟨.createTemporary _ _ _, .error _⟩ => false
  | _ => true

/-- Where every temporary file is created none is refused. -/
theorem onlySystemRefuses_of_creates (created : t.all creates = true) : OnlySystemRefuses t := by
  intro stem extension directory fault refused
  exact nomatch List.all_eq_true.1 created _ refused

/-- What comes of it is a run in the workspace, in which the lock is granted and no temporary file
is refused. -/
theorem exists_run_of_misnamed {files : List Handle} {result : List Snapshot × Except Fault Unit}
    (ended : (madeOfMisnamed files).2.1 = result)
    (created : (madeOfMisnamed files).1.all creates = true) :
    ∃ t w', Runs (makeAll none false files) t result ∧ Follows misnamed t w' ∧
      Attribution.Granted t ∧ OnlySystemRefuses t := by
  have run := runs_record (Workspace.reply Request.nothing) misnamed (makeAll none false files)
  have follows := misnamed.follows_record Request.nothing (makeAll none false files)
  have granted := granted_madeOfMisnamed files
  have system := onlySystemRefuses_of_creates created
  rw [← ended]
  exact ⟨_, _, run, follows, granted, system⟩

/-- The snapshot of the first file. -/
def firstCopy : Snapshot :=
  { handle := { path := "/p/a.py" }, path := "/t/a_00000000.py", temporary := true }

/-- The failure of a file that is nowhere. -/
def nowhere : Fault :=
  validationFailure { path := "/p/d.py" } "Cannot read /p/d.py: /p/d.py"
    (some (.noSuchDocument "/p/d.py"))

/-- A second file that is nowhere is refused, and the set has the snapshot of the first one. -/
theorem givenUp_at_nowhere : ∃ t w',
    Runs (makeAll none false [{ path := "/p/a.py" }, { path := "/p/d.py" }]) t
      ([firstCopy], .error nowhere) ∧
    Follows misnamed t w' ∧ Attribution.Granted t ∧ OnlySystemRefuses t ∧
    ∃ v b, GivenUp none [{ path := "/p/a.py" }] v { path := "/p/d.py" } b nowhere := by
  have ended : (madeOfMisnamed [{ path := "/p/a.py" }, { path := "/p/d.py" }]).2.1 =
      ([firstCopy], .error nowhere) := by
    decide +kernel
  obtain ⟨t, w', run, follows, granted, system⟩ := exists_run_of_misnamed ended (by decide +kernel)
  have named : ∀ h ∈ [({ path := "/p/a.py" } : Handle), { path := "/p/d.py" }],
      '\x00' ∉ (misnamed.documents.encodingOf h).toList := by
    decide +kernel
  obtain ⟨h, rest, a, b, v, files, -, -, given⟩ :=
    givenUp_of_makeAll run follows granted system named
  obtain ⟨rfl, rfl⟩ : ({ path := "/p/d.py" } : Handle) = h ∧ [] = rest := by
    simpa [firstCopy] using files
  exact ⟨t, w', run, follows, granted, system, v, b, given⟩

/-- What is raised need not be the cancellation of the scan or a failure that names the file. -/
theorem not_always_validated :
    ¬ ∀ (scratch : Option String) (cancellable : Bool) (files : List Handle) (w w' : Workspace)
      (t : Trace) (made : List Snapshot) (fault : Fault),
      Runs (makeAll scratch cancellable files) t (made, .error fault) → Follows w t w' →
      Attribution.Granted t → OnlySystemRefuses t →
      (∀ h ∈ files, '\x00' ∉ (w.documents.encodingOf h).toList) →
      fault = .scanCancelled ∨ ∃ h rest message cause, files = made.map handle ++ h :: rest ∧
        fault = validationFailure h message cause := by
  intro claimed
  have ended : (madeOfMisnamed [{ path := "/p/a.py" }, { path := "/p/b.py" }]).2.1 =
      ([firstCopy], .error (Encoding.Codecs.builtin.unknown "nope")) := by
    decide +kernel
  obtain ⟨t, w', run, follows, granted, system⟩ := exists_run_of_misnamed ended (by decide +kernel)
  have named : ∀ h ∈ [({ path := "/p/a.py" } : Handle), { path := "/p/b.py" }],
      '\x00' ∉ (misnamed.documents.encodingOf h).toList := by
    decide +kernel
  rcases claimed _ _ _ _ _ _ _ _ run follows granted system named with
    cancelled | ⟨h, rest, message, cause, -, failed⟩
  · exact absurd cancelled (by decide)
  · cases cause <;> cases failed

end Snapshot

end LiveCheck
