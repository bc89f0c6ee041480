import Mathlib.Data.List.TakeDrop
import Mathlib.Tactic.Common
import LiveCheck.Diagnostic.Line
import LiveCheck.Proofs.Path

/-!
# Reading the line of a report

A printed line is a path and a tail, and the tail is made of numbers, blanks, a severity and a
message.  `parse?_path_tail` says that the parts of such a line are found again, if the path
starts with a slash and holds no colon and the message is not blank.  Both conditions are needed:
the blanks at the end of a line are cut off before it is read, and with a message of blanks the
form of a report is lost (`parse?_path_tail_blank`); and no path that is read from a line with a
slash at its start holds a colon (`path_of_parse?`).
-/

namespace LiveCheck

open Text

/-! ### Classes of characters -/

namespace Text

/-- Two classes whose ranges lie apart have no character in common. -/
theorem Ranges.not_has {a b : Ranges}
    (apart : (a.all fun r => b.all fun s => r.2 < s.1 || s.2 < r.1) = true) {code : Nat}
    (h : a.has code = true) : b.has code = false := by
  unfold Ranges.has at h ⊢
  obtain ⟨r, hr, inside⟩ := List.any_eq_true.1 h
  refine List.any_eq_false.2 fun s hs => ?_
  have disjoint := List.all_eq_true.1 (List.all_eq_true.1 apart r hr) s hs
  simp only [Bool.and_eq_true, Bool.or_eq_true, decide_eq_true_eq] at inside disjoint ⊢
  omega

/-- A word character is not blank. -/
theorem isBlank_of_isWord {c : Char} (h : isWord c = true) : isBlank c = false :=
  Ranges.not_has (by decide +kernel) h

/-- A blank character is no digit. -/
theorem isDigit_of_isBlank {c : Char} (h : isBlank c = true) : isDigit c = false :=
  Ranges.not_has (by decide +kernel) h

/-! ### Trimming -/

/-- Only the blanks at the end of the second of two texts are cut off, if it has anything else. -/
theorem trimEnd_append {a b : List Char} (h : allBlank b = false) :
    trimEnd (a ++ b) = a ++ trimEnd b := by
  have rest : (b.reverse.dropWhile isBlank).isEmpty = false := by
    rw [← Bool.not_eq_true, List.isEmpty_iff]
    intro hnil
    have all : allBlank b.reverse = true := (trimStart_eq_nil_iff b.reverse).1 hnil
    unfold allBlank at all h
    rw [List.all_reverse, h] at all
    cases all
  unfold trimEnd
  rw [List.reverse_append, List.dropWhile_append, rest]
  simp

/-- A text of blanks at the end is cut off. -/
theorem trimEnd_append_blank {a b : List Char} (h : allBlank b = true) :
    trimEnd (a ++ b) = trimEnd a := by
  have all : allBlank b.reverse = true := by
    unfold allBlank at h ⊢
    rw [List.all_reverse, h]
  have none : b.reverse.dropWhile isBlank = [] := (trimStart_eq_nil_iff b.reverse).2 all
  unfold trimEnd
  rw [List.reverse_append, List.dropWhile_append, none]
  simp

/-- A text that ends with a character that is not blank is left as it is. -/
theorem trimEnd_concat {a : List Char} {c : Char} (h : isBlank c = false) :
    trimEnd (a ++ [c]) = a ++ [c] := by
  unfold trimEnd
  rw [List.reverse_append]
  simp [h]

/-- What is left of a text of one line is of one line. -/
theorem mem_of_mem_trimEnd {s : List Char} {c : Char} (h : c ∈ trimEnd s) : c ∈ s := by
  unfold trimEnd at h
  exact List.mem_reverse.1 ((List.dropWhile_suffix _).mem (List.mem_reverse.1 h))

end Text

namespace ReportLine

/-! ### Runs of one class -/

/-- A text of one class that is not empty. -/
structure IsRun (p : Char → Bool) (s : List Char) : Prop where
  ne_nil : s ≠ []
  all : ∀ c ∈ s, p c = true

/-- A run is read up to the first character that does not belong to it. -/
theorem run?_append {p : Char → Bool} {s : List Char} (hs : IsRun p s) (rest : List Char)
    (hrest : ∀ c ∈ rest.head?, p c = false) : run? p (s ++ rest) = some (s, rest) := by
  have stop : rest.takeWhile p = [] ∧ rest.dropWhile p = rest := by
    cases rest with
    | nil => exact ⟨rfl, rfl⟩
    | cons c rest => simp [hrest c rfl]
  have split : (s ++ rest).span p = (s, rest) := by
    rw [List.span_eq_takeWhile_dropWhile, List.takeWhile_append_of_pos hs.all,
      List.dropWhile_append_of_pos hs.all, stop.1, stop.2, List.append_nil]
  unfold run?
  rw [split]
  cases s with
  | nil => exact absurd rfl hs.ne_nil
  | cons c s => rfl

/-- No run is read where the first character does not belong to the class. -/
theorem run?_eq_none {p : Char → Bool} {s : List Char} (h : ∀ c ∈ s.head?, p c = false) :
    run? p s = none := by
  unfold run?
  rw [List.span_eq_takeWhile_dropWhile]
  cases s with
  | nil => rfl
  | cons c s => simp [h c rfl]

/-- What is read as a run belongs to the class and is not empty. -/
theorem isRun_of_run? {p : Char → Bool} {s start rest : List Char}
    (h : run? p s = some (start, rest)) : IsRun p start ∧ s = start ++ rest := by
  have split : s.takeWhile p ++ s.dropWhile p = s := List.takeWhile_append_dropWhile
  have all : ∀ c ∈ s.takeWhile p, p c = true := List.all_eq_true.1 List.all_takeWhile
  unfold run? at h
  rw [List.span_eq_takeWhile_dropWhile] at h
  generalize s.takeWhile p = first at h split all
  cases first with
  | nil => cases h
  | cons c first =>
    cases h
    exact ⟨⟨List.cons_ne_nil c first, all⟩, split.symm⟩

/-- A text that starts with a run starts with a character of its class. -/
theorem IsRun.head?_append {p : Char → Bool} {s : List Char} (hs : IsRun p s) (rest : List Char) :
    ∀ c ∈ (s ++ rest).head?, p c = true := by
  intro c hc
  cases s with
  | nil => exact absurd rfl hs.ne_nil
  | cons d s =>
    cases hc
    exact hs.all _ List.mem_cons_self

/-- A colon is no word character. -/
theorem isWord_colon : isWord ':' = false := by decide +kernel

/-- A colon is no digit. -/
theorem isDigit_colon : isDigit ':' = false := by decide +kernel

/-! ### Tails -/

/-- What stands behind the path in the line of a report: the digits of the line and perhaps of a
column, blanks, the severity, one more blank, and a message of one line. -/
structure Tail where
  line : List Char
  column : Option (List Char)
  gap : List Char
  severity : List Char
  blank : Char
  message : List Char
  line_digits : IsRun isDigit line
  column_digits : ∀ digits ∈ column, IsRun isDigit digits
  gap_blank : IsRun isBlank gap
  severity_word : IsRun isWord severity
  blank_isBlank : isBlank blank = true
  message_oneLine : '\n' ∉ message

namespace Tail

/-- The tail as it is printed, with this text behind the severity and its colon. -/
def printed (tail : Tail) (rest : List Char) : List Char :=
  ':' :: (tail.line ++ ':' :: (tail.column.elim id (fun digits s => digits ++ ':' :: s)
    (tail.gap ++ (tail.severity ++ ':' :: rest))))

/-- The tail as it is printed. -/
def text (tail : Tail) : List Char := tail.printed (tail.blank :: tail.message)

/-- The line of a report about a path. -/
def lineAt (tail : Tail) (path : String) : String := path ++ String.ofList tail.text

/-- The message of the tail without the blanks at its end, and its code. -/
def ending (tail : Tail) : List Char × Option (List Char) :=
  (messageAndCode? (trimEnd tail.message)).getD ([], none)

/-- The parts of a line with this path and this tail. -/
def parts (tail : Tail) (path : List Char) : ReportLine where
  path := path
  line := tail.line
  column := tail.column
  severity := tail.severity
  message := tail.ending.1
  code := tail.ending.2

end Tail

/-- A text of one line can be read as a message. -/
theorem messageAndCode?_isSome {s : List Char} (h : '\n' ∉ s) :
    ∃ found, messageAndCode? s = some found := by
  induction s with
  | nil => exact ⟨_, rfl⟩
  | cons c rest ih =>
    rw [messageAndCode?]
    cases ending? (c :: rest) with
    | some code => exact ⟨_, rfl⟩
    | none =>
      have hc : c ≠ '\n' := fun heq => h (heq ▸ List.mem_cons_self)
      obtain ⟨found, hfound⟩ := ih fun hmem => h (List.mem_cons_of_mem _ hmem)
      dsimp only
      rw [if_neg hc, hfound]
      exact ⟨_, rfl⟩

/-- The column of a tail is read, if it has one. -/
theorem column?_printed (tail : Tail) (rest : List Char) :
    column? (tail.column.elim id (fun digits s => digits ++ ':' :: s)
      (tail.gap ++ rest)) = some (tail.column, tail.gap ++ rest) := by
  unfold column?
  cases hc : tail.column with
  | none =>
    have none : run? isDigit (tail.gap ++ rest) = none :=
      run?_eq_none fun c hc => isDigit_of_isBlank (tail.gap_blank.head?_append rest c hc)
    rw [Option.elim_none, id, none]
  | some digits =>
    have run := run?_append (tail.column_digits digits hc) (':' :: (tail.gap ++ rest))
      (by rintro c ⟨⟩; exact isDigit_colon)
    rw [Option.elim_some, run]
    rfl

/-- What stands behind the path is read part by part, up to the colon behind the severity. -/
theorem afterPath?_printed (path : List Char) (tail : Tail) (rest : List Char) :
    afterPath? path (tail.printed rest) =
      match rest with
      | [] => none
      | c :: s =>
        if isBlank c then (messageAndCode? s).map fun found =>
          { path, line := tail.line, column := tail.column, severity := tail.severity
            message := found.1, code := found.2 }
        else none := by
  have severity := run?_append tail.severity_word (':' :: rest)
    (by rintro c ⟨⟩; exact isWord_colon)
  have gap := run?_append tail.gap_blank (tail.severity ++ ':' :: rest)
    fun c hc => isBlank_of_isWord (tail.severity_word.head?_append _ c hc)
  have column := column?_printed tail (tail.severity ++ ':' :: rest)
  unfold Tail.printed
  generalize tail.column.elim id (fun digits s => digits ++ ':' :: s)
    (tail.gap ++ (tail.severity ++ ':' :: rest)) = s at column ⊢
  have line := run?_append tail.line_digits (':' :: s)
    (by rintro c ⟨⟩; exact isDigit_colon)
  unfold afterPath?
  simp only [after?, line, column, gap, severity, if_true, Option.bind_eq_bind, Option.bind_some]
  cases rest with
  | nil => rfl
  | cons c s =>
    dsimp only
    split
    · cases messageAndCode? s <;> rfl
    · rfl

/-! ### Whole lines -/

/-- A line that starts with a slash has no drive. -/
theorem parse?_slash (s : List Char) : parse? ('/' :: s) = withoutDrive? ('/' :: s) := by
  have none : withDrive? ('/' :: s) = none := by
    unfold withDrive?
    split
    · next letter rest h =>
      obtain ⟨rfl, -⟩ := List.cons.inj h
      rfl
    · rfl
  unfold parse?
  rw [none]

/-- A path that starts with a slash and holds no colon is read up to the tail. -/
theorem parse?_path {path : List Char} (absolute : Path.isAbsoluteChars path = true)
    (plain : ':' ∉ path) (tail : Tail) (rest : List Char) :
    parse? (path ++ tail.printed rest) = afterPath? path (tail.printed rest) := by
  obtain ⟨p, rfl⟩ := Path.exists_of_isAbsoluteChars absolute
  have run : IsRun (· ≠ ':') ('/' :: p) :=
    ⟨List.cons_ne_nil _ _, fun c hc => decide_eq_true fun heq => plain (heq ▸ hc)⟩
  have split := run?_append run (tail.printed rest) (by rintro c ⟨⟩; decide)
  rw [List.cons_append, parse?_slash, ← List.cons_append]
  unfold withoutDrive?
  rw [split]

/-- The text behind the severity stands at the end of the tail. -/
theorem Tail.printed_eq (tail : Tail) (rest : List Char) :
    tail.printed rest = tail.printed [] ++ rest := by
  unfold Tail.printed
  cases tail.column <;> simp

/-- Without anything behind the severity a tail ends with a colon. -/
theorem Tail.exists_printed_nil (tail : Tail) : ∃ front, tail.printed [] = front ++ [':'] := by
  refine ⟨':' :: (tail.line ++ ':' :: (tail.column.elim id (fun digits s => digits ++ ':' :: s)
    (tail.gap ++ tail.severity))), ?_⟩
  unfold Tail.printed
  cases tail.column <;> simp

/-- A line that starts with a slash has no blanks at its start. -/
theorem trim_of_isAbsolute {s : List Char} (absolute : Path.isAbsoluteChars s = true) :
    trim s = trimEnd s := by
  obtain ⟨rest, rfl⟩ := Path.exists_of_isAbsoluteChars absolute
  have slash : isBlank '/' = false := by decide +kernel
  unfold trim trimStart
  rw [List.dropWhile_cons_of_neg (by rw [slash]; decide)]

/-- A line that starts with a slash does so without the blanks at its end. -/
theorem isAbsoluteChars_trim {s : List Char} (absolute : Path.isAbsoluteChars s = true) :
    Path.isAbsoluteChars (trim s) = true := by
  rw [trim_of_isAbsolute absolute]
  obtain ⟨rest, rfl⟩ := Path.exists_of_isAbsoluteChars absolute
  change Path.isAbsoluteChars (trimEnd (['/'] ++ rest)) = true
  cases blank : allBlank rest with
  | true =>
    have slash : trimEnd ['/'] = ['/'] := trimEnd_concat (a := []) (by decide +kernel)
    rw [trimEnd_append_blank blank, slash]
    rfl
  | false =>
    rw [trimEnd_append blank]
    rfl

/-- Something behind a path that starts with a slash does not change how it starts. -/
theorem isAbsoluteChars_append {path : List Char} (absolute : Path.isAbsoluteChars path = true)
    (rest : List Char) : Path.isAbsoluteChars (path ++ rest) = true := by
  obtain ⟨rest', rfl⟩ := Path.exists_of_isAbsoluteChars absolute
  rfl

/-- The parts of a printed line are found again. -/
theorem parse?_path_tail {path : List Char} {tail : Tail}
    (absolute : Path.isAbsoluteChars path = true) (plain : ':' ∉ path)
    (said : allBlank tail.message = false) :
    parse? (trim (path ++ tail.text)) = some (tail.parts path) := by
  have cut : trim (path ++ tail.text) =
      path ++ tail.printed (tail.blank :: trimEnd tail.message) := by
    rw [trim_of_isAbsolute (isAbsoluteChars_append absolute _)]
    unfold Tail.text
    rw [tail.printed_eq, tail.printed_eq (tail.blank :: trimEnd tail.message)]
    have front := trimEnd_append (a := path ++ tail.printed [] ++ [tail.blank]) said
    simpa using front
  have oneLine : '\n' ∉ trimEnd tail.message := fun h =>
    tail.message_oneLine (mem_of_mem_trimEnd h)
  obtain ⟨found, hfound⟩ := messageAndCode?_isSome oneLine
  rw [cut, parse?_path absolute plain, afterPath?_printed]
  dsimp only
  rw [if_pos tail.blank_isBlank, hfound]
  unfold Tail.parts Tail.ending
  rw [hfound]
  rfl

/-- A line with a message of blanks has lost the form of a report when it is read. -/
theorem parse?_path_tail_blank {path : List Char} {tail : Tail}
    (absolute : Path.isAbsoluteChars path = true) (plain : ':' ∉ path)
    (silent : allBlank tail.message = true) : parse? (trim (path ++ tail.text)) = none := by
  have blanks : allBlank (tail.blank :: tail.message) = true := by
    unfold allBlank at silent ⊢
    rw [List.all_cons, tail.blank_isBlank, silent]
    rfl
  obtain ⟨front, hfront⟩ := tail.exists_printed_nil
  have colon : isBlank ':' = false := by decide +kernel
  have cut : trim (path ++ tail.text) = path ++ tail.printed [] := by
    rw [trim_of_isAbsolute (isAbsoluteChars_append absolute _)]
    unfold Tail.text
    rw [tail.printed_eq, ← List.append_assoc, trimEnd_append_blank blanks, hfront,
      ← List.append_assoc, trimEnd_concat colon]
  rw [cut, parse?_path absolute plain, afterPath?_printed]

/-- The path of the parts is the path that was read. -/
theorem path_of_afterPath? {path s : List Char} {parts : ReportLine}
    (h : afterPath? path s = some parts) : parts.path = path := by
  unfold afterPath? at h
  simp only [Option.bind_eq_bind, Option.bind_eq_some_iff] at h
  obtain ⟨s₁, -, s₂, -, s₃, -, s₄, -, s₅, -, s₆, -, s₇, -, h⟩ := h
  split at h
  · cases h
  · split at h
    · obtain ⟨found, -, h⟩ := Option.bind_eq_some_iff.1 h
      cases h
      rfl
    · cases h

/-- A path that is read from a line with a slash at its start starts with the slash and holds no
colon. -/
theorem path_of_parse? {s : List Char} {parts : ReportLine}
    (absolute : Path.isAbsoluteChars s = true) (h : parse? s = some parts) :
    Path.isAbsoluteChars parts.path = true ∧ ':' ∉ parts.path := by
  obtain ⟨rest, rfl⟩ := Path.exists_of_isAbsoluteChars absolute
  rw [parse?_slash] at h
  unfold withoutDrive? at h
  split at h
  · next path others hrun =>
    obtain ⟨run, heq⟩ := isRun_of_run? hrun
    rw [path_of_afterPath? h]
    refine ⟨?_, fun hmem => ?_⟩
    · cases path with
      | nil => exact absurd rfl run.ne_nil
      | cons c path =>
        obtain ⟨rfl, -⟩ := List.cons.inj heq
        rfl
    · exact of_decide_eq_true (run.all ':' hmem) rfl
  · cases h

end ReportLine

end LiveCheck
