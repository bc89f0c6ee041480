import LiveCheck.Proofs.ReportLine

/-!
# The grammar of the line of a report

A line of a report is a path, a tail and what ends the line.  `Spelling` writes down such a line
piece by piece, and does not say how it is read: a line may have several spellings, since a letter
and a colon in front may belong to the path or not, and since the message may end sooner or later.
`parse?_spellings` says that the lines with a spelling are those that are read, and that of all
spellings of a line the chosen one is read: the one with a drive if there is one, and among those
the one with the shortest message.

The message is all that is left to choose once the drive is settled, and `EndsCoded` says without
any search where it ends.
-/

namespace LiveCheck

open Text

/-! ### Blanks at the end -/

namespace Text

/-- Behind what is left of a text without the blanks at its end stand those blanks. -/
theorem exists_trimEnd (s : List Char) :
    ∃ blanks, (∀ c ∈ blanks, isBlank c = true) ∧ s = trimEnd s ++ blanks := by
  refine ⟨(s.reverse.takeWhile isBlank).reverse, fun c hc => ?_, ?_⟩
  · exact List.all_eq_true.1 List.all_takeWhile c (List.mem_reverse.1 hc)
  · unfold trimEnd
    rw [← List.reverse_append, List.takeWhile_append_dropWhile, List.reverse_reverse]

/-- What is left of a text without the blanks at its end is a start of it. -/
theorem trimEnd_starts (s : List Char) : trimEnd s <+: s := by
  obtain ⟨blanks, -, split⟩ := exists_trimEnd s
  exact ⟨blanks, split.symm⟩

end Text

namespace ReportLine

/-! ### Runs of one class -/

/-- Where a run ends is settled by what stands behind it. -/
theorem IsRun.append_inj {p : Char → Bool} {s s' rest rest' : List Char} (hs : IsRun p s)
    (hs' : IsRun p s') (hrest : ∀ c ∈ rest.head?, p c = false)
    (hrest' : ∀ c ∈ rest'.head?, p c = false) (same : s ++ rest = s' ++ rest') :
    s = s' ∧ rest = rest' := by
  have read := run?_append hs rest hrest
  rw [same, run?_append hs' rest' hrest'] at read
  obtain ⟨rfl, rfl⟩ := Prod.mk.inj (Option.some.inj read)
  exact ⟨rfl, rfl⟩

/-- A text before a run of blanks has the same start without blanks at the end as both together. -/
theorem IsRun.trimEnd_append {gap : List Char} (hgap : IsRun isBlank gap) (front : List Char) :
    trimEnd (front ++ gap) = trimEnd front :=
  trimEnd_append_blank (List.all_eq_true.2 hgap.all)

/-- What stands behind a character. -/
theorem eq_of_after? {c : Char} {s rest : List Char} (h : after? c s = some rest) :
    s = c :: rest := by
  cases s with
  | nil => cases h
  | cons d s =>
    rw [after?] at h
    split at h
    · next same =>
      rw [same, Option.some.inj h]
    · cases h

/-! ### Endings -/

/-- A bracket is not blank. -/
theorem isBlank_bracket : isBlank '[' = false ∧ isBlank ']' = false := by decide +kernel

/-- A bracket does not stand in a code. -/
theorem isCodeChar_bracket : isCodeChar '[' = false ∧ isCodeChar ']' = false := by decide +kernel

/-- What stands behind the message of a line: perhaps blanks and a code in brackets, and blanks. -/
structure LineEnd where
  code : Option (List Char × List Char)
  blanks : List Char
  code_run : ∀ c ∈ code, IsRun isBlank c.1 ∧ IsRun isCodeChar c.2
  blanks_blank : ∀ c ∈ blanks, isBlank c = true

namespace LineEnd

/-- The ending as it is printed. -/
def text (e : LineEnd) : List Char :=
  e.code.elim id (fun c s => c.1 ++ '[' :: (c.2 ++ ']' :: s)) e.blanks

/-- An ending without a code. -/
def plain (blanks : List Char) (h : ∀ c ∈ blanks, isBlank c = true) : LineEnd where
  code := none
  blanks := blanks
  code_run := by rintro c ⟨⟩
  blanks_blank := h

/-- An ending with a code. -/
def coded (gap code blanks : List Char) (hgap : IsRun isBlank gap) (hcode : IsRun isCodeChar code)
    (h : ∀ c ∈ blanks, isBlank c = true) : LineEnd where
  code := some (gap, code)
  blanks := blanks
  code_run := by rintro c ⟨⟩; exact ⟨hgap, hcode⟩
  blanks_blank := h

/-- An ending without a code is blank, and one with a code is not. -/
theorem allBlank_text (e : LineEnd) : allBlank e.text = e.code.isNone := by
  obtain ⟨code, blanks, code_run, blanks_blank⟩ := e
  cases code with
  | none => exact List.all_eq_true.2 blanks_blank
  | some c =>
    refine List.all_eq_false.2 ⟨'[', List.mem_append_right _ List.mem_cons_self, ?_⟩
    rw [isBlank_bracket.1]
    decide

/-- An ending is read. -/
theorem ending?_text (e : LineEnd) : ending? e.text = some (e.code.map Prod.snd) := by
  obtain ⟨code, blanks, code_run, blanks_blank⟩ := e
  have blank : allBlank blanks = true := List.all_eq_true.2 blanks_blank
  cases code with
  | none =>
    change ending? blanks = some none
    unfold ending?
    cases blanks with
    | nil => rfl
    | cons c rest =>
      have run : IsRun isBlank (c :: rest) := ⟨List.cons_ne_nil c rest, blanks_blank⟩
      have split := run?_append run [] (by rintro _ ⟨⟩)
      rw [List.append_nil] at split
      simp only [split, after?, blank, if_true, Option.bind_eq_bind, Option.bind_some,
        Option.bind_none]
  | some c =>
    obtain ⟨gap, code⟩ := c
    obtain ⟨hgap, hcode⟩ := code_run _ rfl
    have split := run?_append hgap ('[' :: (code ++ ']' :: blanks))
      (by rintro _ ⟨⟩; exact isBlank_bracket.1)
    have inner := run?_append hcode (']' :: blanks) (by rintro _ ⟨⟩; exact isCodeChar_bracket.2)
    change ending? (gap ++ '[' :: (code ++ ']' :: blanks)) = some (some code)
    unfold ending?
    simp only [split, inner, after?, blank, if_true, Option.bind_eq_bind, Option.bind_some]

/-- What is read as an ending is one. -/
theorem exists_of_ending? {s : List Char} {code : Option (List Char)} (h : ending? s = some code) :
    ∃ e : LineEnd, e.text = s ∧ e.code.map Prod.snd = code := by
  unfold ending? at h
  dsimp only at h
  split at h
  · next found coded =>
    cases h
    simp only [Option.bind_eq_bind, Option.bind_eq_some_iff] at coded
    obtain ⟨⟨gap, s₁⟩, hgap, s₂, opened, ⟨code, s₃⟩, hcode, s₄, closed, last⟩ := coded
    obtain ⟨gap_run, rfl⟩ := isRun_of_run? hgap
    obtain ⟨code_run, rfl⟩ := isRun_of_run? hcode
    split at last
    · next blank =>
      cases last
      obtain rfl := eq_of_after? opened
      obtain rfl := eq_of_after? closed
      exact ⟨.coded gap code s₄ gap_run code_run (List.all_eq_true.1 blank), rfl, rfl⟩
    · cases last
  · split at h
    · next blank =>
      cases h
      exact ⟨.plain s (List.all_eq_true.1 blank), rfl, rfl⟩
    · cases h

/-- An ending is spelled in one way. -/
theorem text_inj {e e' : LineEnd} (same : e.text = e'.text) : e = e' := by
  have both : e.code.isNone = e'.code.isNone := by rw [← allBlank_text, ← allBlank_text, same]
  obtain ⟨code, blanks, code_run, blanks_blank⟩ := e
  obtain ⟨code', blanks', code_run', blanks_blank'⟩ := e'
  cases code with
  | none =>
    cases code' with
    | none =>
      obtain rfl : blanks = blanks' := same
      rfl
    | some c' => cases both
  | some c =>
    cases code' with
    | none => cases both
    | some c' =>
      obtain ⟨gap, code⟩ := c
      obtain ⟨gap', code'⟩ := c'
      obtain ⟨hgap, hcode⟩ := code_run _ rfl
      obtain ⟨hgap', hcode'⟩ := code_run' _ rfl
      obtain ⟨rfl, behind⟩ := hgap.append_inj hgap' (by rintro _ ⟨⟩; exact isBlank_bracket.1)
        (by rintro _ ⟨⟩; exact isBlank_bracket.1) same
      obtain ⟨rfl, last⟩ := hcode.append_inj hcode'
        (by rintro _ ⟨⟩; exact isCodeChar_bracket.2) (by rintro _ ⟨⟩; exact isCodeChar_bracket.2)
        (List.cons.inj behind).2
      obtain rfl := (List.cons.inj last).2
      rfl

end LineEnd

/-! ### Messages -/

/-- The text can be read as a message of one line and an ending. -/
structure ReadsAs (s message : List Char) (e : LineEnd) : Prop where
  split : s = message ++ e.text
  oneLine : '\n' ∉ message

/-- No other reading of the text has a shorter message. -/
structure Shortest (s message : List Char) (e : LineEnd) : Prop extends ReadsAs s message e where
  least : ∀ message' e', ReadsAs s message' e' → message.length ≤ message'.length

/-- A text has one shortest reading. -/
theorem Shortest.unique {s m m' : List Char} {e e' : LineEnd} (h : Shortest s m e)
    (h' : Shortest s m' e') : m = m' ∧ e = e' := by
  have length : m.length = m'.length := Nat.le_antisymm (h.least m' e' h'.toReadsAs)
    (h'.least m e h.toReadsAs)
  obtain ⟨rfl, text⟩ := List.append_inj (h.split.symm.trans h'.split) length
  exact ⟨rfl, LineEnd.text_inj text⟩

/-- The message that is found has the shortest reading. -/
theorem exists_shortest {s message : List Char} {code : Option (List Char)}
    (h : messageAndCode? s = some (message, code)) :
    ∃ e, Shortest s message e ∧ e.code.map Prod.snd = code := by
  induction s generalizing message with
  | nil =>
    cases h
    exact ⟨.plain [] (by rintro _ ⟨⟩), ⟨⟨rfl, List.not_mem_nil⟩, fun _ _ _ => Nat.zero_le _⟩, rfl⟩
  | cons c rest ih =>
    rw [messageAndCode?] at h
    cases ended : ending? (c :: rest) with
    | some code' =>
      rw [ended] at h
      cases h
      obtain ⟨e, text, heq⟩ := LineEnd.exists_of_ending? ended
      exact ⟨e, ⟨⟨text.symm, List.not_mem_nil⟩, fun _ _ _ => Nat.zero_le _⟩, heq⟩
    | none =>
      rw [ended] at h
      dsimp only at h
      split at h
      · cases h
      next hc =>
      obtain ⟨⟨m, found⟩, read, same⟩ := Option.map_eq_some_iff.1 h
      cases same
      obtain ⟨e, shortest, heq⟩ := ih read
      refine ⟨e, ⟨⟨?_, ?_⟩, fun message' e' reads => ?_⟩, heq⟩
      · rw [shortest.split, List.cons_append]
      · exact List.not_mem_cons_of_ne_of_not_mem (Ne.symm hc) shortest.oneLine
      · -- The empty message is no reading, since the line does not end here.
        obtain ⟨split, oneLine⟩ := reads
        cases message' with
        | nil =>
          rw [List.nil_append] at split
          rw [split, e'.ending?_text] at ended
          cases ended
        | cons c' m' =>
          obtain ⟨rfl, rest_eq⟩ := List.cons.inj split
          exact Nat.succ_le_succ (shortest.least m' e'
            ⟨rest_eq, fun hmem => oneLine (List.mem_cons_of_mem _ hmem)⟩)

/-- A text that can be read as a message and an ending is read. -/
theorem messageAndCode?_isSome_of_reads {s message : List Char} {e : LineEnd}
    (h : ReadsAs s message e) : ∃ found, messageAndCode? s = some found := by
  obtain ⟨rfl, oneLine⟩ := h
  induction message with
  | nil =>
    refine ⟨([], e.code.map Prod.snd), ?_⟩
    unfold messageAndCode?
    rw [List.nil_append, e.ending?_text]
  | cons c rest ih =>
    have hc : c ≠ '\n' := fun same => oneLine (same ▸ List.mem_cons_self)
    obtain ⟨found, hfound⟩ := ih fun hmem => oneLine (List.mem_cons_of_mem _ hmem)
    rw [List.cons_append, messageAndCode?]
    cases ending? (c :: (rest ++ e.text)) with
    | some code => exact ⟨_, rfl⟩
    | none =>
      dsimp only
      rw [if_neg hc, hfound]
      exact ⟨_, rfl⟩

/-- The shortest reading is the one that is found. -/
theorem Shortest.messageAndCode? {s message : List Char} {e : LineEnd} (h : Shortest s message e) :
    messageAndCode? s = some (message, e.code.map Prod.snd) := by
  obtain ⟨⟨m, code⟩, found⟩ := messageAndCode?_isSome_of_reads h.toReadsAs
  obtain ⟨e', shortest, rfl⟩ := exists_shortest found
  obtain ⟨rfl, rfl⟩ := h.unique shortest
  exact found

/-! ### Where the message ends -/

/-- The text ends with blanks and this code in brackets, behind `front`. -/
def EndsCoded (s front code : List Char) : Prop :=
  ∃ gap, IsRun isBlank gap ∧ IsRun isCodeChar code ∧ s = front ++ (gap ++ '[' :: (code ++ [']']))

/-- A text without the blanks at its end, where they stand behind a bracket. -/
theorem trimEnd_bracket {front blanks : List Char} (h : ∀ c ∈ blanks, isBlank c = true) :
    trimEnd (front ++ ']' :: blanks) = front ++ [']'] := by
  have split : front ++ ']' :: blanks = (front ++ [']']) ++ blanks := by simp
  rw [split, trimEnd_append_blank (List.all_eq_true.2 h), trimEnd_concat isBlank_bracket.2]

/-- With a code in the ending the text ends with it, and otherwise the message is all but the
blanks. -/
theorem ReadsAs.ends {s message : List Char} {e : LineEnd} (h : ReadsAs s message e) :
    (∀ c ∈ e.code, EndsCoded (trimEnd s) message c.2) ∧
      (e.code = none → trimEnd s = trimEnd message) := by
  obtain ⟨rfl, -⟩ := h
  obtain ⟨code, blanks, code_run, blanks_blank⟩ := e
  constructor
  · rintro ⟨gap, code⟩ rfl
    obtain ⟨hgap, hcode⟩ := code_run _ rfl
    refine ⟨gap, hgap, hcode, ?_⟩
    have cut : trimEnd ((message ++ (gap ++ '[' :: code)) ++ ']' :: blanks) =
        (message ++ (gap ++ '[' :: code)) ++ [']'] := trimEnd_bracket blanks_blank
    simpa [LineEnd.text] using cut
  · rintro rfl
    exact trimEnd_append_blank (List.all_eq_true.2 blanks_blank)

/-- A text ends with one code at most, and behind one text, up to blanks. -/
theorem EndsCoded.unique {s front front' code code' : List Char} (h : EndsCoded s front code)
    (h' : EndsCoded s front' code') : trimEnd front = trimEnd front' ∧ code = code' := by
  obtain ⟨gap, hgap, hcode, rfl⟩ := h
  obtain ⟨gap', hgap', hcode', same⟩ := h'
  have reversed : code.reverse ++ '[' :: (front ++ gap).reverse =
      code'.reverse ++ '[' :: (front' ++ gap').reverse := by
    have flipped := congrArg List.reverse same
    simpa using flipped
  have run {code : List Char} (h : IsRun isCodeChar code) : IsRun isCodeChar code.reverse :=
    ⟨fun hnil => h.ne_nil (List.reverse_eq_nil_iff.1 hnil), fun c hc => h.all c
      (List.mem_reverse.1 hc)⟩
  obtain ⟨codes, behind⟩ := (run hcode).append_inj (run hcode')
    (by rintro _ ⟨⟩; exact isCodeChar_bracket.1) (by rintro _ ⟨⟩; exact isCodeChar_bracket.1)
    reversed
  have fronts := List.reverse_inj.1 (List.cons.inj behind).2
  refine ⟨?_, List.reverse_inj.1 codes⟩
  rw [← hgap.trimEnd_append front, ← hgap'.trimEnd_append front', fronts]

/-- Where the text ends with a code, the message is what stands before the blanks. -/
theorem shortest_of_endsCoded {s front code message : List Char} {e : LineEnd}
    (coded : EndsCoded (trimEnd s) front code) (h : ReadsAs s message e) :
    ∃ e', Shortest s (trimEnd front) e' ∧ e'.code.map Prod.snd = some code := by
  -- Every message begins with what stands before the blanks.
  have start {m : List Char} {e : LineEnd} (reads : ReadsAs s m e) : trimEnd front <+: m := by
    cases hcode : e.code with
    | none =>
      have same := reads.ends.2 hcode
      obtain ⟨gap, -, -, split⟩ := coded
      have first : front <+: m := by
        refine List.IsPrefix.trans ?_ (trimEnd_starts m)
        rw [← same, split]
        exact List.prefix_append _ _
      exact (trimEnd_starts front).trans first
    | some c =>
      rw [(coded.unique (reads.ends.1 c hcode)).1]
      exact trimEnd_starts m
  have oneLine : '\n' ∉ trimEnd front := fun hmem => h.oneLine ((start h).mem hmem)
  obtain ⟨gap, hgap, hcode, split⟩ := coded
  obtain ⟨blanks, hblanks, whole⟩ := exists_trimEnd s
  obtain ⟨more, hmore, cut⟩ := exists_trimEnd front
  have gaps : IsRun isBlank (more ++ gap) := by
    refine ⟨fun hnil => hgap.ne_nil (List.append_eq_nil_iff.1 hnil).2, fun c hc => ?_⟩
    exact (List.mem_append.1 hc).elim (hmore c) (hgap.all c)
  refine ⟨.coded (more ++ gap) code blanks gaps hcode hblanks, ⟨⟨?_, oneLine⟩, fun m e reads =>
    (start reads).length_le⟩, rfl⟩
  calc s = front ++ (gap ++ '[' :: (code ++ [']'])) ++ blanks := by rw [← split]; exact whole
    _ = trimEnd front ++ more ++ (gap ++ '[' :: (code ++ [']'])) ++ blanks := by rw [← cut]
    _ = trimEnd front ++ (more ++ gap ++ '[' :: (code ++ ']' :: blanks)) := by simp

/-- Where the text ends with no code, the message is all but the blanks at its end. -/
theorem shortest_of_not_endsCoded {s message : List Char} {e : LineEnd}
    (plain : ∀ front code, ¬ EndsCoded (trimEnd s) front code) (h : ReadsAs s message e) :
    ∃ e', Shortest s (trimEnd s) e' ∧ e'.code = none := by
  have start {m : List Char} {e : LineEnd} (reads : ReadsAs s m e) : trimEnd s <+: m := by
    cases hcode : e.code with
    | none =>
      rw [reads.ends.2 hcode]
      exact trimEnd_starts m
    | some c => exact absurd (reads.ends.1 c hcode) (plain m c.2)
  have oneLine : '\n' ∉ trimEnd s := fun hmem => h.oneLine ((start h).mem hmem)
  obtain ⟨blanks, hblanks, whole⟩ := exists_trimEnd s
  exact ⟨.plain blanks hblanks, ⟨⟨whole, oneLine⟩, fun m e reads => (start reads).length_le⟩, rfl⟩

/-! ### Tails -/

/-- What is read as a column stands in the text, with a colon behind it. -/
theorem eq_of_column? {s rest : List Char} {column : Option (List Char)}
    (h : column? s = some (column, rest)) : (∀ digits ∈ column, IsRun isDigit digits) ∧
      s = column.elim id (fun digits s => digits ++ ':' :: s) rest := by
  unfold column? at h
  split at h
  · cases h
    exact ⟨nofun, rfl⟩
  · next digits s' number =>
    obtain ⟨_, behind, same⟩ := Option.map_eq_some_iff.1 h
    cases same
    obtain ⟨run, rfl⟩ := isRun_of_run? number
    obtain rfl := eq_of_after? behind
    refine ⟨?_, rfl⟩
    rintro _ ⟨⟩
    exact run

/-- What stands behind the path in a line that is read: a tail whose message and ending are the
shortest reading of what stands behind its blank. -/
theorem exists_tail {path s : List Char} {parts : ReportLine}
    (h : afterPath? path s = some parts) :
    ∃ (tail : Tail) (e : LineEnd), s = tail.printed (tail.blank :: (tail.message ++ e.text)) ∧
      Shortest (tail.message ++ e.text) tail.message e ∧
      parts = { path, line := tail.line, column := tail.column, severity := tail.severity
                message := tail.message, code := e.code.map Prod.snd } := by
  unfold afterPath? at h
  simp only [Option.bind_eq_bind, Option.bind_eq_some_iff] at h
  obtain ⟨s₁, first, ⟨line, s₂⟩, digits, s₃, second, ⟨column, s₄⟩, columned, ⟨gap, s₅⟩, blanks,
    ⟨severity, s₆⟩, word, s₇, third, h⟩ := h
  obtain rfl := eq_of_after? first
  obtain ⟨line_run, rfl⟩ := isRun_of_run? digits
  obtain rfl := eq_of_after? second
  obtain ⟨column_run, rfl⟩ := eq_of_column? columned
  obtain ⟨gap_run, rfl⟩ := isRun_of_run? blanks
  obtain ⟨severity_run, rfl⟩ := isRun_of_run? word
  obtain rfl := eq_of_after? third
  cases s₇ with
  | nil => cases h
  | cons blank rest =>
    dsimp only at h
    split at h
    · next isBlank_blank =>
      obtain ⟨⟨message, code⟩, found, same⟩ := Option.bind_eq_some_iff.1 h
      cases same
      obtain ⟨e, shortest, rfl⟩ := exists_shortest found
      obtain rfl := shortest.split
      exact ⟨{ line, column, gap, severity, blank, message
               line_digits := line_run, column_digits := column_run
               gap_blank := gap_run, severity_word := severity_run, blank_isBlank := isBlank_blank
               message_oneLine := shortest.oneLine }, e, rfl, shortest, rfl⟩
    · cases h

/-- The pieces of a tail before its blank are settled by the text. -/
theorem Tail.printed_inj {tail tail' : Tail} {rest rest' : List Char}
    (same : tail.printed rest = tail'.printed rest') :
    tail.line = tail'.line ∧ tail.column = tail'.column ∧ tail.gap = tail'.gap ∧
      tail.severity = tail'.severity ∧ rest = rest' := by
  have word_first (tail : Tail) (rest : List Char) :
      ∀ c ∈ (tail.severity ++ ':' :: rest).head?, isBlank c = false :=
    fun c hc => isBlank_of_isWord (tail.severity_word.head?_append _ c hc)
  obtain ⟨line, behind_line⟩ := tail.line_digits.append_inj tail'.line_digits
    (by rintro _ ⟨⟩; exact isDigit_colon) (by rintro _ ⟨⟩; exact isDigit_colon)
    (List.cons.inj same).2
  have column := column?_printed tail (tail.severity ++ ':' :: rest)
  rw [(List.cons.inj behind_line).2, column?_printed tail'] at column
  obtain ⟨column_eq, behind_column⟩ := Prod.mk.inj (Option.some.inj column)
  obtain ⟨gap, behind_gap⟩ := tail'.gap_blank.append_inj tail.gap_blank (word_first tail' rest')
    (word_first tail rest) behind_column
  obtain ⟨severity, behind_severity⟩ := tail'.severity_word.append_inj tail.severity_word
    (by rintro _ ⟨⟩; exact isWord_colon) (by rintro _ ⟨⟩; exact isWord_colon) behind_gap
  exact ⟨line, column_eq.symm, gap.symm, severity.symm, (List.cons.inj behind_severity).2.symm⟩

/-! ### Spellings -/

/-- A line of a report, piece by piece: perhaps a letter and a colon, a name without colons, a tail
with the message, and what ends the line. -/
@[ext] structure Spelling extends Tail where
  drive : Option Char
  name : List Char
  ending : LineEnd
  drive_letter : ∀ c ∈ drive, isLetter c = true
  name_plain : IsRun (· ≠ ':') name

namespace Spelling

/-- The path of the line. -/
def path (l : Spelling) : List Char := l.drive.elim id (fun c s => c :: ':' :: s) l.name

/-- What stands in the line behind the one blank after the severity. -/
def rest (l : Spelling) : List Char := l.message ++ l.ending.text

/-- The line as it is printed. -/
def text (l : Spelling) : List Char := l.path ++ l.toTail.printed (l.blank :: l.rest)

/-- The parts of the line. -/
def parts (l : Spelling) : ReportLine where
  path := l.path
  line := l.line
  column := l.column
  severity := l.severity
  message := l.message
  code := l.ending.code.map Prod.snd

/-- The spelling has a drive if any spelling of its line has one, and no other one of the same
drive has a shorter message. -/
structure Chosen (l : Spelling) : Prop where
  drive : l.drive = none → ∀ l' : Spelling, l'.text = l.text → l'.drive = none
  message : ∀ l' : Spelling, l'.text = l.text → l'.drive = l.drive →
    l.message.length ≤ l'.message.length

/-- The same line with another reading of what stands behind the blank. -/
def withMessage (l : Spelling) {message : List Char} {e : LineEnd} (h : ReadsAs l.rest message e) :
    Spelling :=
  { l with message, ending := e, message_oneLine := h.oneLine }

/-- Another reading does not change the line. -/
theorem text_withMessage (l : Spelling) {message : List Char} {e : LineEnd}
    (h : ReadsAs l.rest message e) : (l.withMessage h).text = l.text := by
  have rest : (l.withMessage h).rest = l.rest := h.split.symm
  unfold text
  rw [rest]
  rfl

/-- A spelling reads what stands behind its blank. -/
theorem reads (l : Spelling) : ReadsAs l.rest l.message l.ending := ⟨rfl, l.message_oneLine⟩

/-- The text behind the severity begins with a colon, so a name ends before it. -/
theorem name_ends (tail : Tail) (rest : List Char) :
    ∀ c ∈ (tail.printed rest).head?, decide (c ≠ ':') = false := by
  rintro _ ⟨⟩
  rfl

/-- Spellings of one line with the same drive differ at most in the message and the ending. -/
theorem pieces_inj {l l' : Spelling} (same : l.text = l'.text) (drive : l.drive = l'.drive) :
    l.name = l'.name ∧ l.line = l'.line ∧ l.column = l'.column ∧ l.gap = l'.gap ∧
      l.severity = l'.severity ∧ l.blank = l'.blank ∧ l.rest = l'.rest := by
  have names : l.name ++ l.toTail.printed (l.blank :: l.rest) =
      l'.name ++ l'.toTail.printed (l'.blank :: l'.rest) := by
    unfold text path at same
    rw [drive] at same
    cases hd : l'.drive with
    | none =>
      rw [hd] at same
      exact same
    | some c =>
      rw [hd] at same
      exact (List.cons.inj (List.cons.inj same).2).2
  obtain ⟨name, tails⟩ := l.name_plain.append_inj l'.name_plain (name_ends _ _) (name_ends _ _)
    names
  obtain ⟨line, column, gap, severity, behind⟩ := Tail.printed_inj tails
  obtain ⟨blank, rest⟩ := List.cons.inj behind
  exact ⟨name, line, column, gap, severity, blank, rest⟩

/-- A chosen spelling reads the shortest message. -/
theorem Chosen.shortest {l : Spelling} (h : l.Chosen) : Shortest l.rest l.message l.ending :=
  ⟨l.reads, fun _ _ reads => h.message (l.withMessage reads) (l.text_withMessage reads) rfl⟩

/-- A spelling is chosen if it reads the shortest message, and has a drive where that is
possible. -/
theorem chosen_of_shortest {l : Spelling} (shortest : Shortest l.rest l.message l.ending)
    (drive : l.drive = none → ∀ l' : Spelling, l'.text = l.text → l'.drive = none) : l.Chosen where
  drive := drive
  message l' same drive' := by
    obtain ⟨-, -, -, -, -, -, rest⟩ := pieces_inj same drive'
    exact shortest.least l'.message l'.ending (rest ▸ l'.reads)

/-- A line has one chosen spelling. -/
theorem Chosen.unique {l l' : Spelling} (h : l.Chosen) (h' : l'.Chosen)
    (same : l.text = l'.text) : l = l' := by
  have drive : l.drive = l'.drive := by
    cases hd : l.drive with
    | none => exact (h.drive hd l' same.symm).symm
    | some c =>
      cases hd' : l'.drive with
      | none =>
        rw [h'.drive hd' l same] at hd
        cases hd
      | some c' =>
        unfold text path at same
        rw [hd, hd'] at same
        rw [(List.cons.inj same).1]
  obtain ⟨name, line, column, gap, severity, blank, rest⟩ := pieces_inj same drive
  obtain ⟨message, ending⟩ := h.shortest.unique (rest ▸ h'.shortest)
  exact Spelling.ext line column gap severity blank message drive name ending

/-! ### Reading a line -/

/-- What stands behind the path of a spelling is read. -/
theorem afterPath?_isSome (l : Spelling) (path : List Char) :
    ∃ parts, afterPath? path (l.toTail.printed (l.blank :: l.rest)) = some parts := by
  obtain ⟨found, hfound⟩ := messageAndCode?_isSome_of_reads l.reads
  rw [afterPath?_printed]
  dsimp only
  rw [if_pos l.blank_isBlank, hfound]
  exact ⟨_, rfl⟩

/-- A line whose spelling has a drive is read with it, and the other lines without one. -/
theorem read_text (l : Spelling) :
    (∀ c ∈ l.drive, withDrive? l.text =
      afterPath? l.path (l.toTail.printed (l.blank :: l.rest))) ∧
    (l.drive = none → withoutDrive? l.text =
      afterPath? l.path (l.toTail.printed (l.blank :: l.rest))) := by
  have split := run?_append l.name_plain (l.toTail.printed (l.blank :: l.rest)) (name_ends _ _)
  constructor
  · intro c hc
    have letter := l.drive_letter c hc
    have path : l.path = c :: ':' :: l.name := by
      unfold Spelling.path
      rw [hc]
      rfl
    unfold text
    rw [path]
    change withDrive? (c :: ':' :: (l.name ++ l.toTail.printed (l.blank :: l.rest))) = _
    rw [withDrive?, if_pos letter, split]
  · intro hnone
    have path : l.path = l.name := by
      unfold Spelling.path
      rw [hnone]
      rfl
    unfold text withoutDrive?
    rw [path, split]

/-- A line that is read with a drive has a spelling with one, which reads the shortest message. -/
theorem exists_of_withDrive? {s : List Char} {parts : ReportLine}
    (h : withDrive? s = some parts) : ∃ l : Spelling, l.text = s ∧ l.drive.isSome = true ∧
      Shortest l.rest l.message l.ending ∧ l.parts = parts := by
  unfold withDrive? at h
  split at h
  · next letter s =>
    split at h
    · next isLetter_letter =>
      split at h
      · next name s' run =>
        obtain ⟨name_run, rfl⟩ := isRun_of_run? run
        obtain ⟨tail, e, rfl, shortest, rfl⟩ := exists_tail h
        exact ⟨{ tail with
                 drive := some letter, name, ending := e
                 drive_letter := by rintro _ ⟨⟩; exact isLetter_letter
                 name_plain := name_run }, rfl, rfl, shortest, rfl⟩
      · cases h
    · cases h
  · cases h

/-- A line that is read without a drive has a spelling without one, which reads the shortest
message. -/
theorem exists_of_withoutDrive? {s : List Char} {parts : ReportLine}
    (h : withoutDrive? s = some parts) : ∃ l : Spelling, l.text = s ∧ l.drive = none ∧
      Shortest l.rest l.message l.ending ∧ l.parts = parts := by
  unfold withoutDrive? at h
  split at h
  · next name s' run =>
    obtain ⟨name_run, rfl⟩ := isRun_of_run? run
    obtain ⟨tail, e, rfl, shortest, rfl⟩ := exists_tail h
    exact ⟨{ tail with
             drive := none, name, ending := e
             drive_letter := by rintro _ ⟨⟩
             name_plain := name_run }, rfl, rfl, shortest, rfl⟩
  · cases h

/-- The chosen spelling of a line that is read. -/
theorem exists_chosen {s : List Char} {parts : ReportLine} (h : parse? s = some parts) :
    ∃ l : Spelling, l.text = s ∧ l.Chosen ∧ l.parts = parts := by
  unfold parse? at h
  split at h
  · next read =>
    cases h
    obtain ⟨l, rfl, drive, shortest, rfl⟩ := exists_of_withDrive? read
    refine ⟨l, rfl, chosen_of_shortest shortest fun hnone => ?_, rfl⟩
    rw [hnone] at drive
    cases drive
  · next unread =>
    obtain ⟨l, rfl, drive, shortest, rfl⟩ := exists_of_withoutDrive? h
    refine ⟨l, rfl, chosen_of_shortest shortest fun _ l' same => ?_, rfl⟩
    -- A spelling with a drive would have been read before.
    cases hd : l'.drive with
    | none => rfl
    | some c =>
      obtain ⟨parts, read⟩ := l'.afterPath?_isSome l'.path
      rw [← same, l'.read_text.1 c hd, read] at unread
      cases unread

/-- A line with a spelling is read. -/
theorem parse?_text_isSome (l : Spelling) : ∃ parts, parse? l.text = some parts := by
  obtain ⟨parts, read⟩ := l.afterPath?_isSome l.path
  unfold parse?
  cases hw : withDrive? l.text with
  | some parts' => exact ⟨parts', rfl⟩
  | none =>
    refine ⟨parts, ?_⟩
    cases hd : l.drive with
    | none => exact (l.read_text.2 hd).trans read
    | some c =>
      rw [l.read_text.1 c hd, read] at hw
      cases hw

end Spelling

/-- The lines that are read are those with a spelling, and what is read of a line are the parts of
its chosen spelling, of which there is one.  Its message and its code can be told from what stands
behind the blank, without the blanks at the end: if that ends with blanks and a code in brackets,
they are the code and what stands before the blanks, and otherwise there is no code and all of it
is the message. -/
theorem parse?_spellings (s : List Char) :
    ((parse? s).isSome = true ↔ ∃ l : Spelling, l.text = s) ∧
    (∀ parts, parse? s = some parts ↔ ∃ l : Spelling, l.text = s ∧ l.Chosen ∧ l.parts = parts) ∧
    (∀ l l' : Spelling, l.text = s → l'.text = s → l.Chosen → l'.Chosen → l = l') ∧
    ∀ l : Spelling, l.text = s → l.Chosen →
      (∀ front code, EndsCoded (trimEnd l.rest) front code →
        l.message = trimEnd front ∧ l.parts.code = some code) ∧
      ((∀ front code, ¬ EndsCoded (trimEnd l.rest) front code) →
        l.message = trimEnd l.rest ∧ l.parts.code = none) := by
  have isSome_iff : (parse? s).isSome = true ↔ ∃ l : Spelling, l.text = s := by
    constructor
    · intro h
      obtain ⟨parts, read⟩ := Option.isSome_iff_exists.1 h
      obtain ⟨l, text, -, -⟩ := Spelling.exists_chosen read
      exact ⟨l, text⟩
    · rintro ⟨l, rfl⟩
      exact Option.isSome_iff_exists.2 l.parse?_text_isSome
  refine ⟨isSome_iff, fun parts => ⟨Spelling.exists_chosen, ?_⟩, ?_, ?_⟩
  · rintro ⟨l, rfl, chosen, rfl⟩
    obtain ⟨parts, read⟩ := l.parse?_text_isSome
    obtain ⟨l', same, chosen', rfl⟩ := Spelling.exists_chosen read
    rw [chosen.unique chosen' same.symm]
    exact same ▸ read
  · rintro l l' rfl same chosen chosen'
    exact chosen.unique chosen' same.symm
  · intro l _ chosen
    constructor
    · intro front code coded
      obtain ⟨e, shortest, code_eq⟩ := shortest_of_endsCoded coded l.reads
      obtain ⟨message, ending⟩ := chosen.shortest.unique shortest
      exact ⟨message, (congrArg (fun e => e.code.map Prod.snd) ending).trans code_eq⟩
    · intro plain
      obtain ⟨e, shortest, code_eq⟩ := shortest_of_not_endsCoded plain l.reads
      obtain ⟨message, ending⟩ := chosen.shortest.unique shortest
      refine ⟨message, ?_⟩
      change l.ending.code.map Prod.snd = none
      rw [ending, code_eq]
      rfl

-- The first letter is a drive where it can be one, and only the last brackets hold the code.
example : parse? "a:1:2: note: b [c] [d]".toList =
    some { path := "a:1".toList, line := "2".toList, column := none, severity := "note".toList
           message := "b [c]".toList, code := some "d".toList } := by decide +kernel

end ReportLine

end LiveCheck
