import LiveCheck.Tool

/-!
# The lines of an output

What a tool prints is cut at every line boundary, and a carriage return is not cut from the line
feed behind it.  The ends of the lines belong to no line.  What is left behind the last end is a
line if it is not empty, so an output that is empty has no lines, and one that ends with an end has
no empty line there.

`Printed` says this without saying how an output is read, and `outputLines_eq_iff` that every output
is cut in this one way.
-/

namespace LiveCheck

namespace Text

/-! ### Where an output is cut -/

/-- No character is a line boundary. -/
def Unbroken (line : List Char) : Prop := ∀ c ∈ line, isLineBoundary c = false

/-- What ends a line in front of `rest`. -/
inductive EndsLine : (stop rest : List Char) → Prop where
  | pair (rest : List Char) : EndsLine ['\r', '\n'] rest
  | single {c : Char} {rest : List Char} (boundary : isLineBoundary c = true)
      (whole : c = '\r' → rest.head? ≠ some '\n') : EndsLine [c] rest

/-- The output consists of these lines and their ends. -/
inductive Printed : (output : List Char) → (lines : List (List Char)) → Prop where
  | nothing : Printed [] []
  | unended {line : List Char} (unbroken : Unbroken line) (some_ : line ≠ []) :
      Printed line [line]
  | ended {line stop rest : List Char} {lines : List (List Char)} (unbroken : Unbroken line)
      (ends : EndsLine stop rest) (others : Printed rest lines) :
      Printed (line ++ (stop ++ rest)) (line :: lines)

variable {line stop rest : List Char}

/-- A character in front of an unbroken line. -/
theorem Unbroken.cons {c : Char} (plain : isLineBoundary c = false) (unbroken : Unbroken line) :
    Unbroken (c :: line) :=
  List.forall_mem_cons.2 ⟨plain, unbroken⟩

/-! ### How an output is read -/

/-- A character that is no boundary is taken into the line. -/
theorem outputLinesFrom_plain {c : Char} (plain : isLineBoundary c = false)
    (read rest : List Char) :
    outputLinesFrom read (c :: rest) = outputLinesFrom (c :: read) rest := by
  have other : c ≠ '\r' := by
    rintro rfl
    cases plain
  rw [outputLinesFrom]
  · rw [if_neg (by rw [plain]; exact Bool.false_ne_true)]
  · rintro tail rfl
    exact absurd rfl other

/-- So is an unbroken line. -/
theorem outputLinesFrom_unbroken (unbroken : Unbroken line) (read rest : List Char) :
    outputLinesFrom read (line ++ rest) = outputLinesFrom (line.reverse ++ read) rest := by
  induction line generalizing read with
  | nil => rfl
  | cons c line ih =>
    obtain ⟨plain, others⟩ := List.forall_mem_cons.1 unbroken
    rw [List.cons_append, outputLinesFrom_plain plain, ih others, List.reverse_cons,
      List.append_assoc, List.singleton_append]

/-- An end ends the line that was read. -/
theorem outputLinesFrom_ends (ends : EndsLine stop rest) (read : List Char) :
    outputLinesFrom read (stop ++ rest) = read.reverse :: outputLinesFrom [] rest := by
  cases ends with
  | pair => rfl
  | @single c _ boundary whole =>
    rw [List.singleton_append, outputLinesFrom, if_pos boundary]
    rintro tail rfl rfl
    exact whole rfl rfl

/-- The lines of an output are those that are read. -/
theorem Printed.outputLines_eq {output : List Char} {lines : List (List Char)}
    (printed : Printed output lines) : outputLines output = lines := by
  induction printed with
  | nothing => rfl
  | @unended line unbroken some_ =>
    have read := outputLinesFrom_unbroken unbroken [] []
    rw [List.append_nil, List.append_nil] at read
    have last : line.reverse ≠ [] := fun none_ => some_ (List.reverse_eq_nil_iff.1 none_)
    rw [outputLines, read, outputLinesFrom, if_neg last, List.reverse_reverse]
  | ended unbroken ends others ih =>
    rw [outputLines, outputLinesFrom_unbroken unbroken, outputLinesFrom_ends ends,
      List.append_nil, List.reverse_reverse]
    exact congrArg _ ih

/-- What is read are lines of which the output consists, with the line that was begun before. -/
theorem printed_outputLinesFrom (read output : List Char) (unbroken : Unbroken read.reverse) :
    Printed (read.reverse ++ output) (outputLinesFrom read output) := by
  have none_ : Unbroken ([] : List Char).reverse := nofun
  fun_induction outputLinesFrom read output with
  | case1 => exact .nothing
  | case2 read some_ =>
    rw [List.append_nil]
    exact .unended unbroken fun none_ => some_ (List.reverse_eq_nil_iff.1 none_)
  | case3 read rest ih =>
    change Printed (read.reverse ++ (['\r', '\n'] ++ rest)) _
    exact .ended unbroken (.pair rest) (ih none_)
  | case4 read c rest other boundary ih =>
    change Printed (read.reverse ++ ([c] ++ rest)) _
    refine .ended unbroken (.single boundary ?_) (ih none_)
    rintro rfl feed
    obtain ⟨tail, rfl⟩ := List.head?_eq_some_iff.1 feed
    exact other tail rfl rfl
  | case5 read c rest _ plain ih =>
    have longer : (c :: read).reverse ++ rest = read.reverse ++ c :: rest := by simp
    rw [← longer]
    refine ih ?_
    rw [List.reverse_cons]
    exact List.forall_mem_append.2 ⟨unbroken, Unbroken.cons (Bool.eq_false_iff.2 plain) nofun⟩

/-- Every output consists of the lines that are read, and of no others. -/
theorem outputLines_eq_iff {output : List Char} {lines : List (List Char)} :
    outputLines output = lines ↔ Printed output lines := by
  constructor
  · rintro rfl
    exact printed_outputLinesFrom [] output nofun
  · exact Printed.outputLines_eq

/-- A line feed behind a carriage return ends no line of its own. -/
example : outputLines "a\r\n\nb".toList = ["a".toList, [], "b".toList] := rfl

end Text

namespace Tool

/-- A text was printed, and these are its lines. -/
def Printed (output : String) (lines : List String) : Prop :=
  Text.Printed output.toList (lines.map String.toList)

/-- The lines of a tool are those of which its output consists. -/
theorem lines_eq_iff {c : Completion} {ls : List String} :
    lines c = ls ↔ Printed c.stdout ls := by
  unfold lines Printed
  rw [← Text.outputLines_eq_iff]
  constructor
  · rintro rfl
    rw [List.map_map]
    exact (List.map_id'' (fun s => String.toList_ofList) _).symm
  · intro same
    rw [same, List.map_map]
    exact List.map_id'' (fun s => String.ofList_toList) _

end Tool

end LiveCheck
