import Mathlib.Data.List.DropRight
import LiveCheck.Proofs.Attribution
import LiveCheck.Proofs.Numeral
import LiveCheck.Proofs.ReportLine.Grammar

/-!
# Diagnostics that are printed and read again

A diagnostic is printed on one line with its message in the middle, and nothing in the message is
escaped.  `Printable` says what that asks for: the path holds no colon, the message is of one line
and has no blanks around it, and without a code the message does not look as if it ended with one.
Such a diagnostic is read again from its line (`parse?_format`).  Every diagnostic that was read
from a report is printable (`printable_of_target?`), if the path of its file is.  So to print and
to read once more changes nothing but the offset, which `attempt_format` says of whole reports.
-/

namespace LiveCheck

open Text ReportLine Program

/-! ### Trimming -/

namespace Text

/-- There are no blanks left to cut off at the end. -/
theorem trimEnd_trimEnd (s : List Char) : trimEnd (trimEnd s) = trimEnd s :=
  List.rdropWhile_idempotent isBlank s

/-- A text that begins with something else than a blank is not cut at its start. -/
theorem trimStart_of_head? {s : List Char} (h : ∀ c ∈ s.head?, isBlank c = false) :
    trimStart s = s := by
  cases s with
  | nil => rfl
  | cons c rest => exact List.dropWhile_cons_of_neg (by rw [h c rfl]; decide)

/-- What is left without the blanks at the start begins with something else. -/
theorem head?_trimStart (s : List Char) : ∀ c ∈ (trimStart s).head?, isBlank c = false := by
  intro c hc
  have first := List.head?_dropWhile_not isBlank s
  rw [show (s.dropWhile isBlank).head? = some c from hc] at first
  simpa using first

/-- There are no blanks left to cut off. -/
theorem trim_trim (s : List Char) : trim (trim s) = trim s := by
  have start : trimStart (trim s) = trim s := by
    refine trimStart_of_head? fun c hc => head?_trimStart s c ?_
    obtain ⟨blanks, split⟩ := trimEnd_starts (trimStart s)
    rw [← split]
    exact List.mem_head?_append_of_mem_head? hc
  change trimEnd (trimStart (trim s)) = trim s
  rw [start]
  exact trimEnd_trimEnd _

/-- A text without blanks at its end is cut at its start only. -/
theorem exists_eq_append_trim {s : List Char} (h : trimEnd s = s) : ∃ lead, s = lead ++ trim s := by
  have split : s.takeWhile isBlank ++ trimStart s = s := List.takeWhile_append_dropWhile
  refine ⟨s.takeWhile isBlank, ?_⟩
  cases blank : allBlank (trimStart s) with
  | true =>
    have nothing : trimStart s = [] := by
      rw [← trimStart_of_head? (head?_trimStart s)]
      exact (trimStart_eq_nil_iff _).2 blank
    unfold trim
    rw [nothing] at split ⊢
    exact split.symm
  | false =>
    unfold trim
    rw [← trimEnd_append blank, split, h]

/-- What is left of a text without the blanks around it stands in it. -/
theorem mem_of_mem_trim {s : List Char} {c : Char} (h : c ∈ trim s) : c ∈ s :=
  (List.dropWhile_suffix _).mem (mem_of_mem_trimEnd h)

/-- A text with something else than blanks is not empty once trimmed. -/
theorem trim_ne_nil {s : List Char} (h : allBlank s = false) : trim s ≠ [] := by
  intro hnil
  have blank : allBlank (trimStart s) = true := by
    obtain ⟨blanks, hblanks, split⟩ := exists_trimEnd (trimStart s)
    rw [show trimEnd (trimStart s) = [] from hnil] at split
    rw [split]
    exact List.all_eq_true.2 hblanks
  have start : trimStart s = [] := by
    rw [← trimStart_of_head? (head?_trimStart s)]
    exact (trimStart_eq_nil_iff _).2 blank
  rw [(trimStart_eq_nil_iff s).1 start] at h
  cases h

end Text

/-- The severity that is printed is read. -/
theorem Severity.parse_word (s : Severity) : Severity.parse (some s.word) = s := by
  cases s <;> decide +kernel

/-- A file can be named in a line if its path is normal and holds no colon. -/
structure Handle.Printable (h : Handle) : Prop where
  normal : ∃ cwd, Path.normalize cwd h.path = h.path
  plain : ':' ∉ h.path.toList

/-- A normal path is normal everywhere. -/
theorem Handle.Printable.normalize_path {h : Handle} (printable : h.Printable) (cwd : String) :
    Path.normalize cwd h.path = h.path := by
  obtain ⟨cwd', normal⟩ := printable.normal
  rw [← normal]
  exact Path.normalize_normalize cwd' cwd h.path

/-- A normal path starts with a slash. -/
theorem Handle.Printable.isAbsoluteChars {h : Handle} (printable : h.Printable) :
    Path.isAbsoluteChars h.path.toList = true :=
  printable.normalize_path "/" ▸ Path.isAbsoluteChars_normalize "/" h.path

/-! ### What stands behind the severity -/

namespace ReportLine

/-- A text ends with a code whatever stands before it. -/
theorem EndsCoded.append {s front code : List Char} (h : EndsCoded s front code)
    (lead : List Char) : EndsCoded (lead ++ s) (lead ++ front) code := by
  obtain ⟨gap, hgap, hcode, rfl⟩ := h
  exact ⟨gap, hgap, hcode, (List.append_assoc lead front _).symm⟩

namespace Spelling

/-- In a line without blanks at its end there are none at the end of what stands behind the
severity, and something else stands there. -/
theorem rest_of_trimEnd {l : Spelling} (h : trimEnd l.text = l.text) :
    trimEnd l.rest = l.rest ∧ allBlank l.rest = false := by
  have split : l.text = (l.path ++ l.toTail.printed []) ++ l.blank :: l.rest := by
    unfold text
    rw [Tail.printed_eq, List.append_assoc]
  rw [split] at h
  have not_blank : allBlank l.rest = false := by
    cases blank : allBlank l.rest with
    | false => rfl
    | true =>
      have all : allBlank (l.blank :: l.rest) = true := by
        rw [allBlank, List.all_cons, l.blank_isBlank]
        exact blank
      rw [trimEnd_append_blank all] at h
      have shorter := (trimEnd_starts (l.path ++ l.toTail.printed [])).length_le
      rw [h, List.length_append, List.length_cons] at shorter
      omega
  have front := trimEnd_append (a := l.path ++ l.toTail.printed [] ++ [l.blank]) not_blank
  rw [List.append_cons, front] at h
  exact ⟨List.append_cancel_left h, not_blank⟩

/-- A chosen spelling without a code has the whole text as its message, which ends with no code. -/
theorem Chosen.of_code_none {l : Spelling} (h : l.Chosen) (none : l.ending.code = none) :
    (∀ front code, ¬ EndsCoded (trimEnd l.rest) front code) ∧ l.message = trimEnd l.rest := by
  have plain : ∀ front code, ¬ EndsCoded (trimEnd l.rest) front code := by
    intro front code coded
    obtain ⟨e, shortest, code_eq⟩ := shortest_of_endsCoded coded l.reads
    obtain ⟨-, rfl⟩ := h.shortest.unique shortest
    rw [none] at code_eq
    cases code_eq
  obtain ⟨e, shortest, -⟩ := shortest_of_not_endsCoded plain l.reads
  exact ⟨plain, (h.shortest.unique shortest).1⟩

end Spelling

end ReportLine

namespace Diagnostic

/-! ### Printing -/

/-- What a diagnostic needs to be read again from the line that it is printed on. -/
structure Printable (d : Diagnostic) : Prop where
  file : d.file.Printable
  line : ∃ n : Nat, d.line = n ∧ (natChars n).length ≤ maxDigits
  column : ∃ n : Nat, d.column = n ∧ (natChars n).length ≤ maxDigits
  oneLine : '\n' ∉ d.message.toList
  trimmed : trimString d.message = d.message
  coded : ∀ code ∈ d.code, IsRun isCodeChar code.toList
  uncoded : d.code = none →
    d.message ≠ "" ∧ ∀ front code, ¬ EndsCoded d.message.toList front code

/-- The parts that a diagnostic is printed with. -/
def printed (d : Diagnostic) : ReportLine where
  path := d.file.path.toList
  line := intChars d.line
  column := some (intChars d.column)
  severity := d.severity.word.toList
  message := d.message.toList
  code := d.code.map String.toList

/-- The diagnostic without its place in a text. -/
def unplaced (d : Diagnostic) : Diagnostic := { d with offset := none }

/-- A natural number is written without a sign. -/
theorem intChars_natCast (n : Nat) : intChars n = natChars n := by
  unfold intChars
  rw [if_neg (by omega), Int.natAbs_natCast]

/-- A number is a run of digits. -/
theorem isRun_natChars (n : Nat) : IsRun isDigit (natChars n) :=
  ⟨natChars_ne_nil n, fun _ hc => isDigit_of_mem_natChars hc⟩

/-- The word for a severity is a run of word characters. -/
theorem isRun_word (s : Severity) : IsRun isWord s.word.toList := by
  cases s <;> exact ⟨by decide, List.all_eq_true.1 (by decide +kernel)⟩

/-- A message without blanks around it has none at its end. -/
theorem Printable.trimEnd_message {d : Diagnostic} (h : d.Printable) :
    trimEnd d.message.toList = d.message.toList := by
  have trimmed : trim d.message.toList = d.message.toList := by
    have same := congrArg String.toList h.trimmed
    rwa [trimString, String.toList_ofList] at same
  rw [← trimmed]
  exact trimEnd_trimEnd _

/-- A number that is not negative is a run of digits. -/
theorem isRun_intChars {i : Int} (h : ∃ n : Nat, i = n ∧ (natChars n).length ≤ maxDigits) :
    IsRun isDigit (intChars i) := by
  obtain ⟨n, rfl, -⟩ := h
  rw [intChars_natCast]
  exact isRun_natChars n

/-- A space is blank. -/
theorem isBlank_space : isBlank ' ' = true := by decide +kernel

/-- One space is a run of blanks. -/
theorem isRun_space : IsRun isBlank [' '] :=
  ⟨List.cons_ne_nil _ _, List.forall_mem_singleton.2 isBlank_space⟩

/-- The tail of the line of a diagnostic. -/
def Printable.tail {d : Diagnostic} (h : d.Printable) : Tail where
  line := intChars d.line
  column := some (intChars d.column)
  gap := [' ']
  severity := d.severity.word.toList
  blank := ' '
  message := d.message.toList
  line_digits := isRun_intChars h.line
  column_digits := by rintro _ ⟨⟩; exact isRun_intChars h.column
  gap_blank := isRun_space
  severity_word := isRun_word d.severity
  blank_isBlank := isBlank_space
  message_oneLine := h.oneLine

/-- What stands behind the severity in the line of a diagnostic. -/
def body (d : Diagnostic) : List Char :=
  d.message.toList ++ d.code.elim [] fun code => ' ' :: ' ' :: '[' :: (code.toList ++ [']'])

/-- The line of a diagnostic is its path, its tail and what stands behind the severity. -/
theorem Printable.toList_format {d : Diagnostic} (h : d.Printable) :
    d.format.toList = d.file.path.toList ++ h.tail.printed (h.tail.blank :: d.body) := by
  unfold format body
  cases hc : d.code with
  | none => simp [Printable.tail, Tail.printed, intString]
  | some code =>
    have named : code ≠ "" :=
      fun same => (h.coded code hc).ne_nil (String.toList_eq_nil_iff.2 same)
    dsimp only
    rw [if_neg named]
    simp [Printable.tail, Tail.printed, intString]

/-- What stands behind the severity ends with something else than a blank. -/
theorem Printable.trimEnd_body {d : Diagnostic} (h : d.Printable) :
    trimEnd d.body = d.body ∧ allBlank d.body = false := by
  unfold body
  cases hc : d.code with
  | none =>
    rw [Option.elim_none, List.append_nil]
    refine ⟨h.trimEnd_message, ?_⟩
    cases blank : allBlank d.message.toList with
    | false => rfl
    | true =>
      have nothing : trimEnd d.message.toList = [] := trimEnd_append_blank (a := []) blank
      rw [h.trimEnd_message] at nothing
      exact absurd (String.toList_eq_nil_iff.1 nothing) (h.uncoded hc).1
  | some code =>
    have split : d.message.toList ++ (' ' :: ' ' :: '[' :: (code.toList ++ [']'])) =
        (d.message.toList ++ ' ' :: ' ' :: '[' :: code.toList) ++ [']'] := by simp
    rw [Option.elim_some, split]
    refine ⟨trimEnd_concat isBlank_bracket.2, List.all_eq_false.2 ⟨']', by simp, ?_⟩⟩
    rw [isBlank_bracket.2]
    decide

/-- Message and code are found again behind the severity. -/
theorem Printable.messageAndCode?_body {d : Diagnostic} (h : d.Printable) :
    messageAndCode? d.body = some (d.message.toList, d.code.map String.toList) := by
  have whole := h.trimEnd_body.1
  cases hc : d.code with
  | none =>
    have body_eq : d.body = d.message.toList := by
      rw [body, hc, Option.elim_none, List.append_nil]
    have reads : ReadsAs d.body d.message.toList (.plain [] nofun) :=
      ⟨by simp [body_eq, LineEnd.plain, LineEnd.text], h.oneLine⟩
    have plain : ∀ front code, ¬ EndsCoded (trimEnd d.body) front code := by
      rw [whole, body_eq]
      exact (h.uncoded hc).2
    obtain ⟨e, shortest, code_eq⟩ := shortest_of_not_endsCoded plain reads
    rw [shortest.messageAndCode?, whole, body_eq, code_eq]
    rfl
  | some code =>
    have gap : IsRun isBlank [' ', ' '] :=
      ⟨by decide, List.all_eq_true.1 (by decide +kernel)⟩
    let e : LineEnd := .coded [' ', ' '] code.toList [] gap (h.coded code hc) nofun
    have reads : ReadsAs d.body d.message.toList e := by
      refine ⟨?_, h.oneLine⟩
      rw [body, hc]
      rfl
    obtain ⟨e', shortest, code_eq⟩ := shortest_of_endsCoded (reads.ends.1 _ rfl) reads
    rw [shortest.messageAndCode?, h.trimEnd_message, code_eq]
    rfl

/-- A printable diagnostic is read again from its line, part by part. -/
theorem parse?_format {d : Diagnostic} (h : d.Printable) :
    parse? (trim d.format.toList) = some d.printed := by
  have absolute := h.file.isAbsoluteChars
  obtain ⟨whole, not_blank⟩ := h.trimEnd_body
  have cut : trim d.format.toList =
      d.file.path.toList ++ h.tail.printed (h.tail.blank :: d.body) := by
    rw [h.toList_format, trim_of_isAbsolute (isAbsoluteChars_append absolute _), Tail.printed_eq]
    have front := trimEnd_append (a := d.file.path.toList ++ h.tail.printed [] ++ [h.tail.blank])
      not_blank
    rw [whole] at front
    simpa using front
  rw [cut, parse?_path absolute h.file.plain, afterPath?_printed]
  dsimp only
  rw [if_pos h.tail.blank_isBlank, h.messageAndCode?_body]
  rfl

end Diagnostic

/-! ### Reading -/

namespace Attribution

variable {setup : Setup} {files : Table String Handle} {h : Handle} {line : String}
  {parts : ReportLine} {d : Diagnostic}

/-- The line of a diagnostic is about its file. -/
theorem target?_format (printable : d.Printable) :
    target? setup [(d.file.path, d.file)] d.format = some (d.file, d.printed) := by
  unfold target?
  rw [Diagnostic.parse?_format printable]
  dsimp only [Diagnostic.printed]
  rw [String.ofList_toList, resolvePath_of_normal (printable.file.normalize_path setup.cwd)]
  simp [Table.get?]

/-- Without documents the parts of the line of a diagnostic make the diagnostic again. -/
theorem diagnosticOf_printed (off : setup.withDocuments = false) (printable : d.Printable) :
    diagnosticOf setup none d.file d.printed = .ok d.unplaced := by
  obtain ⟨n, line_eq, line_short⟩ := printable.line
  obtain ⟨m, column_eq, column_short⟩ := printable.column
  refine diagnosticOf_eq_ok_iff.2 ⟨?_, ?_, ?_, rfl, ?_, ?_, ?_⟩
  · change readNumber (intChars d.line) = .ok d.line
    rw [line_eq, Diagnostic.intChars_natCast, readNumber_natChars line_short]
  · change readNumber (intChars d.column) = .ok d.column
    rw [column_eq, Diagnostic.intChars_natCast, readNumber_natChars column_short]
  · unfold offsetIn
    rw [off]
    rfl
  · change d.severity = .parse (some (String.ofList d.severity.word.toList))
    rw [String.ofList_toList, Severity.parse_word]
  · change d.message = trimString (String.ofList d.message.toList)
    rw [String.ofList_toList, printable.trimmed]
  · change d.code = (d.code.map String.toList).map String.ofList
    cases d.code with
    | none => rfl
    | some code => exact congrArg some String.ofList_toList.symm

/-- Without documents nothing is asked for a diagnostic. -/
theorem attempt_diagnostic (texts : Texts) (off : setup.withDocuments = false)
    (made : diagnosticOf setup none h parts = .ok d) :
    (diagnostic setup texts h parts).attempt = pure (.ok (d, texts)) := by
  obtain ⟨hline, hcolumn, hoffset, hfile, hseverity, hmessage, hcode⟩ :=
    diagnosticOf_eq_ok_iff.1 made
  have unplaced : d.offset = none := by
    unfold offsetIn at hoffset
    rw [off] at hoffset
    exact (Except.ok.inj hoffset).symm
  have place : offset setup texts h d.line d.column = pure (none, texts) := by
    unfold offset
    rw [off]
    rfl
  subst hfile
  unfold diagnostic
  rw [hline, hcolumn, ← hseverity, ← hmessage, ← hcode]
  change (offset setup texts d.file d.line d.column >>= _).attempt = _
  rw [place, ← unplaced]
  rfl

/-- Without documents one line about the one file makes one diagnostic. -/
theorem attempt_ofLines_one {path : String} (off : setup.withDocuments = false)
    (normal : Path.normalize setup.cwd path = path)
    (target : target? setup [(path, h)] line = some (h, parts))
    (made : diagnosticOf setup none h parts = .ok d) :
    (ofLines setup [(path, h)] [line]).attempt = pure (.ok [(h, [d])]) := by
  have paths : normalPaths setup [(path, h)] = [(path, h)] := by
    unfold normalPaths
    rw [List.map_singleton, normal]
    rfl
  have one := attempt_diagnostic [] off made
  unfold ofLines
  rw [off, paths]
  dsimp only
  rw [addLines_cons, target]
  change (diagnostic setup [] h parts >>= _).attempt = _
  rw [Program.attempt_bind, one]
  simp [addLines, Table.modify, noProblems, Table.ofPairs, Table.put, Action.attempt]

/-- A number that is read is written with as few digits. -/
theorem exists_natChars_of_readNumber {digits : List Char} {n : Int}
    (h : readNumber digits = .ok n) :
    ∃ m : Nat, n = m ∧ (natChars m).length ≤ maxDigits := by
  obtain ⟨short, rfl⟩ := readNumber_eq_ok_iff.1 h
  exact ⟨_, rfl, length_natChars_le (by decide) short⟩

/-- What is read as a column is a number. -/
theorem exists_natChars_of_readColumn {digits : Option (List Char)} {n : Int}
    (h : readColumn digits = .ok n) :
    ∃ m : Nat, n = m ∧ (natChars m).length ≤ maxDigits := by
  cases digits with
  | none => exact ⟨1, (Except.ok.inj h).symm, by decide⟩
  | some digits => exact exists_natChars_of_readNumber h

/-- A line that is about a file is read, without the blanks around it. -/
theorem parse?_of_target? (target : target? setup files line = some (h, parts)) :
    parse? (trim line.toList) = some parts := by
  unfold target? at target
  split at target
  · cases target
  · next parts' read =>
    obtain ⟨_, _, same⟩ := Option.map_eq_some_iff.1 target
    cases same
    exact read

/-- Every diagnostic of a report is printable, if the path of its file is. -/
theorem printable_of_target? {text : Option DocumentText} (printable : h.Printable)
    (target : target? setup files line = some (h, parts))
    (made : diagnosticOf setup text h parts = .ok d) : d.Printable := by
  obtain ⟨hline, hcolumn, -, rfl, -, message, code⟩ := diagnosticOf_eq_ok_iff.1 made
  obtain ⟨l, spelled, chosen, rfl⟩ := Spelling.exists_chosen (parse?_of_target? target)
  have message_eq : d.message.toList = trim l.message := by
    rw [message, trimString, String.toList_ofList]
    exact congrArg trim String.toList_ofList
  have code_eq : d.code = (l.ending.code.map Prod.snd).map String.ofList := code
  obtain ⟨whole, not_blank⟩ := l.rest_of_trimEnd (spelled ▸ trimEnd_trimEnd _)
  refine { file := printable, line := exists_natChars_of_readNumber hline
           column := exists_natChars_of_readColumn hcolumn, oneLine := ?_, trimmed := ?_
           coded := ?_, uncoded := ?_ }
  · rw [message_eq]
    exact fun hmem => l.message_oneLine (mem_of_mem_trim hmem)
  · rw [message, trimString, trimString, String.toList_ofList, trim_trim]
  · intro found hfound
    rw [code_eq] at hfound
    obtain ⟨_, behind, rfl⟩ := Option.map_eq_some_iff.1 hfound
    obtain ⟨c, ended, rfl⟩ := Option.map_eq_some_iff.1 behind
    rw [String.toList_ofList]
    exact (l.ending.code_run c ended).2
  · intro absent
    have ended : l.ending.code = none := by
      rw [code_eq] at absent
      exact Option.map_eq_none_iff.1 (Option.map_eq_none_iff.1 absent)
    obtain ⟨plain, all⟩ := chosen.of_code_none ended
    rw [whole] at plain all
    obtain ⟨lead, split⟩ := exists_eq_append_trim whole
    rw [← all] at split
    constructor
    · intro empty
      refine trim_ne_nil not_blank ?_
      rw [← all, ← message_eq, empty]
      rfl
    · intro front code coded
      rw [message_eq] at coded
      refine plain (lead ++ front) code ?_
      rw [← all, split]
      exact coded.append lead

/-- A printable diagnostic is read from the line that it is printed on, without its offset. -/
theorem attempt_printed (off : setup.withDocuments = false) (printable : d.Printable) :
    (ofLines setup [(d.file.path, d.file)] [d.format]).attempt =
      pure (.ok [(d.file, [d.unplaced])]) :=
  attempt_ofLines_one off (printable.file.normalize_path setup.cwd) (target?_format printable)
    (diagnosticOf_printed off printable)

/-- The diagnostics of a file in a report are printable, if the path of the file is. -/
theorem printable_of_runs {mapping : Table String Handle} {lines : List String} {t : Trace}
    {out : Table Handle (List Diagnostic)} {ds : List Diagnostic}
    (run : Runs (ofLines setup mapping lines).attempt t (.ok out)) (there : (h, ds) ∈ out)
    (printable : h.Printable) : ∀ d ∈ ds, d.Printable ∧ d.file = h := by
  obtain ⟨text, reads⟩ := exists_reads_ofLines run
  obtain ⟨found, rfl, each⟩ := runs_ofLines run reads
  obtain ⟨e, -, same⟩ := List.mem_map.1 there
  cases same
  intro d hd
  obtain ⟨parts, hparts, made⟩ := mem_of_mapM_ok (each e.1) hd
  obtain ⟨line, -, about⟩ := List.mem_filterMap.1 hparts
  have target := partsFor?_eq_some_iff.1 about
  exact ⟨printable_of_target? printable target made, (diagnosticOf_eq_ok_iff.1 made).2.2.2.1⟩

/-- Without documents a printable diagnostic without an offset is read from its line, and nothing
else is; and every diagnostic that was ever read about a file whose path can be printed, from
whatever report, is read again from the line that it is printed on, offsets apart. -/
theorem attempt_format (setup : Setup) (off : setup.withDocuments = false) :
    (∀ d : Diagnostic, d.Printable → d.offset = none →
      (ofLines setup [(d.file.path, d.file)] [d.format]).attempt = pure (.ok [(d.file, [d])])) ∧
    ∀ (setup' : Setup) (mapping : Table String Handle) (lines : List String) (t : Trace)
      (out : Table Handle (List Diagnostic)),
      Runs (ofLines setup' mapping lines).attempt t (.ok out) →
      ∀ h ds, (h, ds) ∈ out → h.Printable → ∀ d ∈ ds,
        (ofLines setup [(h.path, h)] [d.format]).attempt = pure (.ok [(h, [d.unplaced])]) := by
  constructor
  · intro d printable unplaced
    have read := attempt_printed off printable
    rwa [show d.unplaced = d by rw [Diagnostic.unplaced, ← unplaced]] at read
  · intro setup' mapping lines t out run h ds there printable d hd
    obtain ⟨printable', rfl⟩ := printable_of_runs run there printable d hd
    exact attempt_printed off printable'

/-- A report about one file in `/p`, without documents. -/
def oneFile : Setup := { tabWidth := 8, cwd := "/p", base := none, withDocuments := false }

/-- A diagnostic with brackets and a colon in its message. -/
def bracketed : Diagnostic :=
  { file := { path := "/p/a.py" }, line := 7, column := 1, severity := .warning
    message := "List [a] needs: b", code := some "type-arg", offset := none }

/-- A line about the same with blanks, a capital and zeros that are not printed again. -/
def bracketedLine : String := " a.py:007:\tWarning: List [a] needs: b [type-arg] "

/-- The diagnostic is read from a line of the tool, and again from the line that it is printed
on. -/
theorem bracketed_again :
    bracketed.format = "/p/a.py:7:1: warning: List [a] needs: b  [type-arg]" ∧
    bracketed.Printable ∧
    (ofLines oneFile [("/p/a.py", bracketed.file)] [bracketedLine]).attempt =
      pure (.ok [(bracketed.file, [bracketed])]) ∧
    (ofLines oneFile [(bracketed.file.path, bracketed.file)] [bracketed.format]).attempt =
      pure (.ok [(bracketed.file, [bracketed])]) ∧
    (ofLines oneFile [(bracketed.file.path, bracketed.file)] [bracketed.format]).attempt =
      pure (.ok [(bracketed.file, [bracketed.unplaced])]) := by
  have plain : bracketed.file.Printable := ⟨⟨"/", by decide +kernel⟩, by decide +kernel⟩
  have target : target? oneFile [("/p/a.py", bracketed.file)] bracketedLine =
      some (bracketed.file,
        { path := "a.py".toList, line := "007".toList, column := none
          severity := "Warning".toList, message := "List [a] needs: b".toList
          code := some "type-arg".toList }) := by decide +kernel
  have made : diagnosticOf oneFile none bracketed.file
      { path := "a.py".toList, line := "007".toList, column := none
        severity := "Warning".toList, message := "List [a] needs: b".toList
        code := some "type-arg".toList } = .ok bracketed := by
    refine diagnosticOf_eq_ok_iff.2 ⟨?_, rfl, rfl, rfl, ?_, ?_, ?_⟩ <;> decide +kernel
  have printable := printable_of_target? plain target made
  have first := attempt_ofLines_one rfl (by decide +kernel) target made
  have run : Runs (ofLines oneFile [("/p/a.py", bracketed.file)] [bracketedLine]).attempt []
      (.ok [(bracketed.file, [bracketed])]) := by
    rw [first]
    exact runs_pure.2 ⟨rfl, rfl⟩
  refine ⟨by decide +kernel, printable, first, ?_, ?_⟩
  · exact (attempt_format oneFile rfl).1 bracketed printable rfl
  · exact (attempt_format oneFile rfl).2 oneFile _ _ _ _ run bracketed.file [bracketed]
      List.mem_cons_self plain bracketed List.mem_cons_self

end Attribution

end LiveCheck
