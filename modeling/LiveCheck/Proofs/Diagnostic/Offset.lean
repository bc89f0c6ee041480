import Mathlib.Data.List.GetD
import LiveCheck.Proofs.Diagnostic.Column

/-!
# The lines of a document and the offsets in it

A document is cut into lines, each with the characters that end it.  `Text.Cut` says what a good cut
is: the last line has no end and the others have one of three, no line holds a line feed or a
carriage return, and a carriage return ends a line on its own only if no line feed follows.
Nothing is lost by the cut, so the place where a line starts is the length of all that stands before
it (`lineStartsFrom_append`), and a line can be found in the text by the places where it and the
next one start.

An offset is such a place and an index in the line.  Therefore it never lies inside the end of a
line, wherever a report points to, and the column of a place in a line leads back to the place
(`offset_lands`).
-/

namespace LiveCheck

namespace Text

/-! ### Cuts -/

/-- What a line can end with. -/
def lineEnds : List (List Char) := [['\r', '\n'], ['\r'], ['\n']]

/-- No character ends a line. -/
def OneLine (s : List Char) : Prop := '\r' ∉ s ∧ '\n' ∉ s

/-- A line with what ends it. -/
def piece (line : List Char × List Char) : List Char := line.1 ++ line.2

/-- Lines with their ends, cut at the right places. -/
inductive Cut : List (List Char × List Char) → Prop where
  | last {text : List Char} (plain : OneLine text) : Cut [(text, [])]
  | ended {text stop : List Char} {more : List (List Char × List Char)} (plain : OneLine text)
      (ends : stop ∈ lineEnds) (whole : stop = ['\r'] → (more.flatMap piece).head? ≠ some '\n')
      (rest : Cut more) : Cut ((text, stop) :: more)

/-- A text with a line in front of the others. -/
theorem flatMap_piece_cons (line : List Char × List Char) (more : List (List Char × List Char)) :
    (line :: more).flatMap piece = line.1 ++ line.2 ++ more.flatMap piece :=
  List.flatMap_cons

/-- A line gets longer at its start if the character ends no line. -/
theorem Cut.cons {c : Char} {text stop : List Char} {more : List (List Char × List Char)}
    (cut : Cut ((text, stop) :: more)) (hr : c ≠ '\r') (hn : c ≠ '\n') :
    Cut ((c :: text, stop) :: more) := by
  have longer (plain : OneLine text) : OneLine (c :: text) := by
    refine ⟨?_, ?_⟩
    · rw [List.mem_cons]
      exact not_or.2 ⟨hr.symm, plain.1⟩
    · rw [List.mem_cons]
      exact not_or.2 ⟨hn.symm, plain.2⟩
  cases cut with
  | last plain => exact .last (longer plain)
  | ended plain ends whole rest => exact .ended (longer plain) ends whole rest

/-- The lines of a document make it up, and they are cut at the right places. -/
theorem documentLines_spec (s : List Char) :
    (documentLines s).flatMap piece = s ∧ Cut (documentLines s) := by
  have empty : OneLine [] := ⟨List.not_mem_nil, List.not_mem_nil⟩
  fun_induction documentLines s with
  | case1 => exact ⟨rfl, .last empty⟩
  | case2 rest ih =>
    obtain ⟨same, cut⟩ := ih
    refine ⟨?_, .ended empty (by decide) nofun cut⟩
    rw [flatMap_piece_cons, same]
    rfl
  | case3 rest other ih =>
    obtain ⟨same, cut⟩ := ih
    refine ⟨?_, .ended empty (by decide) ?_ cut⟩
    · rw [flatMap_piece_cons, same]
      rfl
    · intro _ feed
      rw [same] at feed
      obtain ⟨tail, rfl⟩ := List.head?_eq_some_iff.1 feed
      exact other tail rfl
  | case4 rest ih =>
    obtain ⟨same, cut⟩ := ih
    refine ⟨?_, .ended empty (by decide) nofun cut⟩
    rw [flatMap_piece_cons, same]
    rfl
  | case5 c rest _ hr hn text stop more found ih =>
    obtain ⟨same, cut⟩ := ih
    rw [found] at same cut
    refine ⟨?_, cut.cons hr hn⟩
    rw [flatMap_piece_cons] at same ⊢
    rw [← same]
    rfl
  | case6 c rest _ hr hn none ih =>
    rw [none] at ih
    cases ih.2

/-- What a line that is not the last one ends with is not empty. -/
theorem length_pos_of_mem_lineEnds {stop : List Char} (ends : stop ∈ lineEnds) :
    0 < stop.length := by
  have all : ∀ stop ∈ lineEnds, 0 < stop.length := by decide
  exact all stop ends

/-- A cut has at least one line. -/
theorem Cut.ne_nil {lines : List (List Char × List Char)} (cut : Cut lines) : lines ≠ [] := by
  cases cut <;> exact List.cons_ne_nil _ _

/-- Lines at the end of a cut are a cut. -/
theorem Cut.of_append {before after : List (List Char × List Char)} {line : List Char × List Char}
    (cut : Cut (before ++ line :: after)) : Cut (line :: after) := by
  induction before with
  | nil => exact cut
  | cons first before ih =>
    rw [List.cons_append] at cut
    generalize rest_eq : before ++ line :: after = rest at cut ih
    cases cut with
    | last => exact absurd rest_eq (by simp)
    | ended _ _ _ rest_cut => exact ih rest_cut

/-- What a cut says of its first line.  A carriage return ends it on its own only if no line feed
follows. -/
theorem Cut.first {after : List (List Char × List Char)} {line : List Char × List Char}
    (cut : Cut (line :: after)) : OneLine line.1 ∧ (after = [] → line.2 = []) ∧
      (after ≠ [] → line.2 ∈ lineEnds) ∧
      (line.2 = ['\r'] → (after.flatMap piece).head? ≠ some '\n') := by
  cases cut with
  | last plain =>
    refine ⟨plain, ?_, ?_, ?_⟩
    · intro _
      rfl
    · intro more
      exact absurd rfl more
    · intro alone
      cases alone
  | ended plain ends whole rest =>
    refine ⟨plain, ?_, ?_, whole⟩
    · intro last
      exact absurd last rest.ne_nil
    · intro _
      exact ends

/-! ### The places where lines start -/

/-- Each line has a place where it starts. -/
theorem length_lineStartsFrom (start : Nat) (lines : List (List Char × List Char)) :
    (lineStartsFrom start lines).length = lines.length := by
  induction lines generalizing start with
  | nil => rfl
  | cons line more ih => exact congrArg (· + 1) (ih _)

/-- A line starts behind all that stands before it. -/
theorem lineStartsFrom_append (start : Nat) (before after : List (List Char × List Char)) :
    lineStartsFrom start (before ++ after) = lineStartsFrom start before ++
      lineStartsFrom (start + (before.flatMap piece).length) after := by
  induction before generalizing start with
  | nil => rfl
  | cons line more ih =>
    have further : start + line.1.length + line.2.length + (more.flatMap piece).length =
        start + ((line :: more).flatMap piece).length := by
      rw [flatMap_piece_cons, List.length_append, List.length_append]
      omega
    change start :: lineStartsFrom (start + line.1.length + line.2.length) (more ++ after) = _
    rw [ih, further]
    rfl

/-- No line starts before the first one. -/
theorem le_of_mem_lineStartsFrom {start place : Nat} {lines : List (List Char × List Char)}
    (mem : place ∈ lineStartsFrom start lines) : start ≤ place := by
  induction lines generalizing start with
  | nil => cases mem
  | cons line more ih =>
    rcases List.mem_cons.1 mem with rfl | later
    · exact Nat.le_refl place
    · have behind := ih later
      omega

/-- A line starts behind the starts of those before it. -/
theorem Cut.pairwise_lineStartsFrom {lines : List (List Char × List Char)} (cut : Cut lines)
    (start : Nat) : (lineStartsFrom start lines).Pairwise (· < ·) := by
  induction cut generalizing start with
  | last => exact List.pairwise_singleton _ _
  | @ended text stop more plain ends whole rest ih =>
    refine List.pairwise_cons.2 ⟨?_, ih _⟩
    intro place later
    have behind := le_of_mem_lineStartsFrom later
    have some := length_pos_of_mem_lineEnds ends
    omega

end Text

namespace DocumentText

open Text Column

/-! ### Lines by their numbers -/

/-- The place where a line starts, counted from zero; behind the last line, the end of the text. -/
def startOf (d : DocumentText) (k : Nat) : Nat := d.starts.getD k d.length

/-- A line, counted from zero. -/
def lineText (d : DocumentText) (k : Nat) : List Char := d.lines.getD k []

/-- The part of the text between the start of a line and that of the next one. -/
def slice (d : DocumentText) (s : List Char) (k : Nat) : List Char :=
  (s.drop (d.startOf k)).take (d.startOf (k + 1) - d.startOf k)

variable {s : List Char} {k : Nat} {tabWidth : Int}

/-- As many places as lines. -/
theorem lineCount_ofChars (s : List Char) :
    (ofChars s).lineCount = (documentLines s).length :=
  length_lineStartsFrom 0 (documentLines s)

/-- A text has at least one line. -/
theorem lineCount_pos (s : List Char) : 0 < (ofChars s).lineCount := by
  rw [lineCount_ofChars]
  exact List.length_pos_iff.2 (documentLines_spec s).2.ne_nil

/-- A line starts where what stands before it ends. -/
theorem startOf_of_append {before after : List (List Char × List Char)}
    (split : documentLines s = before ++ after) :
    (ofChars s).startOf before.length = (before.flatMap piece).length := by
  have starts : (ofChars s).starts = lineStartsFrom 0 before ++
      lineStartsFrom (before.flatMap piece).length after := by
    have both := lineStartsFrom_append 0 before after
    rw [Nat.zero_add] at both
    change lineStarts s = _
    unfold lineStarts
    rw [split, both]
  have behind : before.length = (lineStartsFrom 0 before).length :=
    (length_lineStartsFrom 0 before).symm
  unfold startOf
  rw [starts, behind, List.getD_append_right _ _ _ _ (Nat.le_refl _), Nat.sub_self]
  cases after with
  | nil =>
    have whole := (documentLines_spec s).1
    rw [split, List.append_nil] at whole
    change s.length = _
    rw [whole]
  | cons line more => rfl

/-- A line stands between what is before and what is behind it. -/
structure Stands (s : List Char) (k : Nat) (before after : List (List Char × List Char))
    (line : List Char × List Char) : Prop where
  split : documentLines s = before ++ line :: after
  number : before.length = k
  text : (ofChars s).lineText k = line.1
  start : (ofChars s).startOf k = (before.flatMap piece).length
  next : (ofChars s).startOf (k + 1) = (ofChars s).startOf k + (piece line).length
  slice : (ofChars s).slice s k = piece line

/-- Every line stands somewhere. -/
theorem exists_stands (inside : k < (ofChars s).lineCount) :
    ∃ before after line, Stands s k before after line := by
  rw [lineCount_ofChars] at inside
  have split : documentLines s = (documentLines s).take k ++
      (documentLines s)[k] :: (documentLines s).drop (k + 1) := by
    rw [← List.drop_eq_getElem_cons inside, List.take_append_drop]
  have number : ((documentLines s).take k).length = k := by
    rw [List.length_take]
    omega
  generalize (documentLines s).take k = before at split number
  generalize (documentLines s).drop (k + 1) = after at split
  generalize (documentLines s)[k] = line at split
  have start := startOf_of_append split
  rw [number] at start
  have next : (ofChars s).startOf (k + 1) = (ofChars s).startOf k + (piece line).length := by
    have joined : documentLines s = (before ++ [line]) ++ after := by
      rw [split, List.append_assoc]
      rfl
    have behind := startOf_of_append joined
    rw [List.length_append, number, List.flatMap_append, List.length_append, ← start] at behind
    rw [List.flatMap_cons, List.flatMap_nil, List.append_nil] at behind
    exact behind
  refine ⟨before, after, line, split, number, ?_, start, next, ?_⟩
  · have lines : (ofChars s).lines = (before ++ line :: after).map Prod.fst :=
      congrArg (List.map Prod.fst) split
    unfold lineText
    rw [lines, List.map_append, List.getD_append_right]
    · rw [List.length_map, number, Nat.sub_self]
      rfl
    · rw [List.length_map, number]
  · have whole := (documentLines_spec s).1
    rw [split, List.flatMap_append, List.flatMap_cons] at whole
    unfold DocumentText.slice
    rw [next, Nat.add_sub_cancel_left, start, ← whole, List.drop_left, List.take_left]

/-- How the lines of a text are laid out in it. -/
structure Layout (s : List Char) (d : DocumentText) : Prop where
  first : d.starts.head? = some 0
  increasing : d.starts.Pairwise (· < ·)
  line : ∀ k < d.lineCount, ∃ stop, d.slice s k = d.lineText k ++ stop ∧ OneLine (d.lineText k) ∧
    (k + 1 = d.lineCount → stop = []) ∧ (k + 1 < d.lineCount → stop ∈ lineEnds) ∧
    (stop = ['\r'] → s[d.startOf (k + 1)]? ≠ some '\n')
  whole : (List.range d.lineCount).flatMap (d.slice s) = s

/-- What stands behind a line begins where the next one starts. -/
theorem Stands.getElem?_next {before after : List (List Char × List Char)}
    {line : List Char × List Char} (stands : Stands s k before after line) :
    s[(ofChars s).startOf (k + 1)]? = (after.flatMap piece).head? := by
  have whole := (documentLines_spec s).1
  rw [stands.split, List.flatMap_append, List.flatMap_cons, ← List.append_assoc] at whole
  have place : (ofChars s).startOf (k + 1) = (before.flatMap piece ++ piece line).length := by
    rw [stands.next, stands.start, List.length_append]
  rw [place, ← whole, List.getElem?_append_right (Nat.le_refl _), Nat.sub_self,
    List.head?_eq_getElem?]

/-- The parts between the places where lines start make up the text. -/
theorem flatMap_slice (s : List Char) :
    (List.range (ofChars s).lineCount).flatMap ((ofChars s).slice s) = s := by
  have slices : ∀ k < (documentLines s).length,
      some ((ofChars s).slice s k) = ((documentLines s).map piece)[k]? := by
    intro k inside
    obtain ⟨before, after, line, stands⟩ := exists_stands (s := s) (k := k)
      (by rwa [lineCount_ofChars])
    rw [stands.slice, stands.split, List.getElem?_map, ← stands.number,
      List.getElem?_append_right (Nat.le_refl _), Nat.sub_self]
    rfl
  have pieces : (List.range (documentLines s).length).map ((ofChars s).slice s) =
      (documentLines s).map piece := by
    apply List.ext_getElem?
    intro k
    by_cases inside : k < (documentLines s).length
    · rw [← slices k inside, List.getElem?_map, List.getElem?_range inside]
      rfl
    · rw [List.getElem?_eq_none (by simpa using inside),
        List.getElem?_eq_none (by simpa using inside)]
  rw [lineCount_ofChars, List.flatMap_def, pieces, ← List.flatMap_def]
  exact (documentLines_spec s).1

/-- The lines of a text are laid out in it one behind the other. -/
theorem layout_ofChars (s : List Char) : Layout s (ofChars s) := by
  have cut := (documentLines_spec s).2
  refine ⟨?_, cut.pairwise_lineStartsFrom 0, ?_, ?_⟩
  · cases lines : documentLines s with
    | nil => exact absurd lines cut.ne_nil
    | cons line more =>
      change (lineStarts s).head? = some 0
      unfold lineStarts
      rw [lines]
      rfl
  · intro k inside
    obtain ⟨before, after, line, stands⟩ := exists_stands inside
    have lines := stands.split
    rw [lines] at cut
    obtain ⟨plain, last, more, whole⟩ := cut.of_append.first
    have count : (ofChars s).lineCount = k + 1 + after.length := by
      rw [lineCount_ofChars, lines, List.length_append, List.length_cons, stands.number]
      omega
    rw [stands.text, stands.slice, stands.getElem?_next, count]
    refine ⟨line.2, rfl, plain, ?_, ?_, whole⟩
    · intro ends
      exact last (List.length_eq_zero_iff.1 (by omega))
    · intro goes
      exact more (List.length_pos_iff.1 (by omega))
  · exact flatMap_slice s

/-! ### Offsets -/

/-- A line ends before the text does. -/
theorem startOf_add_length_le (inside : k < (ofChars s).lineCount) :
    (ofChars s).startOf k + ((ofChars s).lineText k).length ≤ s.length := by
  obtain ⟨before, after, line, stands⟩ := exists_stands inside
  have whole := congrArg List.length (documentLines_spec s).1
  rw [stands.split, List.flatMap_append, List.flatMap_cons, List.length_append,
    List.length_append, ← stands.start] at whole
  have longer : line.1.length ≤ (piece line).length := by
    unfold piece
    rw [List.length_append]
    omega
  rw [stands.text]
  omega

/-- The line that is meant by a number is the nearest one. -/
theorem lineIndex_spec (s : List Char) (line : Int) :
    (ofChars s).lineIndex line < (ofChars s).lineCount ∧
      ((ofChars s).lineIndex line : Int) + 1 = min (max line 1) ((ofChars s).lineCount : Int) := by
  have some := lineCount_pos s
  unfold lineIndex
  omega

/-- An offset is the start of the line and the index of the column in it. -/
theorem offset_eq {line column : Int} {i : Nat} (meant : (ofChars s).lineIndex line = k)
    (found : toIndex ((ofChars s).lineText k) column tabWidth = .ok i)
    (inside : i ≤ ((ofChars s).lineText k).length) :
    (ofChars s).offset line column tabWidth = .ok ((ofChars s).startOf k + i) := by
  subst meant
  have there := (lineIndex_spec s line).1
  have bound := startOf_add_length_le there
  have start : (ofChars s).starts.getD ((ofChars s).lineIndex line) 0 =
      (ofChars s).startOf ((ofChars s).lineIndex line) := by
    have listed : (ofChars s).lineIndex line < (ofChars s).starts.length := there
    unfold startOf
    rw [List.getD_eq_getElem _ _ listed, List.getD_eq_getElem _ _ listed]
  have fits : min ((ofChars s).startOf ((ofChars s).lineIndex line) + i) (ofChars s).length =
      (ofChars s).startOf ((ofChars s).lineIndex line) + i := by
    change min _ s.length = _
    omega
  unfold lineText at found
  unfold DocumentText.offset
  dsimp only
  rw [found, start]
  change Except.ok (min _ _) = _
  rw [fits]

/-- The lines of a text are laid out in it one behind the other, whatever ends them.  An offset
lies in the nearest line or just behind it, and never in what ends a line or behind that.  For a
place in a line the column at which it stands leads back to it. -/
theorem offset_lands (tabs : 1 ≤ tabWidth) (s : List Char) :
    Layout s (ofChars s) ∧
    (∀ line column, ∃ k o, k < (ofChars s).lineCount ∧
      (k : Int) + 1 = min (max line 1) ((ofChars s).lineCount : Int) ∧
      (ofChars s).offset line column tabWidth = .ok o ∧ (ofChars s).startOf k ≤ o ∧
      o ≤ (ofChars s).startOf k + ((ofChars s).lineText k).length ∧ o ≤ s.length) ∧
    ∀ k < (ofChars s).lineCount, ∀ i ≤ ((ofChars s).lineText k).length,
      (ofChars s).offset (k + 1) (1 + width tabWidth (((ofChars s).lineText k).take i)) tabWidth =
        .ok ((ofChars s).startOf k + i) := by
  refine ⟨layout_ofChars s, ?_, ?_⟩
  · intro line column
    obtain ⟨there, nearest⟩ := lineIndex_spec s line
    obtain ⟨i, found, inside, -⟩ :=
      toIndex_isIndexOf tabs ((ofChars s).lineText ((ofChars s).lineIndex line)) column
    have bound := startOf_add_length_le there
    exact ⟨(ofChars s).lineIndex line, (ofChars s).startOf ((ofChars s).lineIndex line) + i, there,
      nearest, offset_eq rfl found inside, by omega, by omega, by omega⟩
  · intro k there i inside
    have same : (ofChars s).lineIndex (k + 1) = k := by
      have nearest := (lineIndex_spec s (k + 1)).2
      omega
    exact offset_eq same (toIndex_width_add_one tabs inside) inside

/-- A text with all three ends, an empty line, a tab, and a last line without an end. -/
def mixed : List Char := ['a', '\t', 'b', '\r', '\n', '\r', 'c', '\n', 'd']

/-- A line number that is too large means the last line, a column behind a line its end, and the
column of a place behind a tab leads there. -/
theorem offset_lands_mixed :
    (1 : Int) ≤ 4 ∧ Layout mixed (ofChars mixed) ∧ (ofChars mixed).starts = [0, 5, 6, 8] ∧
    (∃ k o, k < (ofChars mixed).lineCount ∧
      (k : Int) + 1 = min (max 1 1) ((ofChars mixed).lineCount : Int) ∧
      (ofChars mixed).offset 1 99 4 = .ok o ∧ (ofChars mixed).startOf k ≤ o ∧
      o ≤ (ofChars mixed).startOf k + ((ofChars mixed).lineText k).length ∧ o ≤ mixed.length) ∧
    (ofChars mixed).offset 1 99 4 = .ok 3 ∧ (ofChars mixed).offset 9 (-2) 4 = .ok 8 ∧
    (ofChars mixed).offset 1 (1 + width 4 ['a', '\t']) 4 = .ok 2 := by
  have tabs : (1 : Int) ≤ 4 := by decide
  obtain ⟨layout, lands, inverts⟩ := offset_lands tabs mixed
  exact ⟨tabs, layout, by decide, lands 1 99, by decide, by decide,
    inverts 0 (by decide) 2 (by decide)⟩

end DocumentText

end LiveCheck
