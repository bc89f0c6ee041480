import LiveCheck.Proofs.Attribution.Returning
import LiveCheck.Proofs.Diagnostic

/-!
# The diagnostics of one file

Attribution goes through all lines with a store of texts and a table of lists.  What it leaves for
one file can be said without either: `projected` picks the lines whose path leads to the file and
makes a diagnostic of each, from the line, the text of the file and the tab width.  A run that finds
the texts as they are has this result, whatever is stored before it, as long as what is stored is
true (`eq_projected`); so it does not matter whether one parser is used several times or a new one
each time.

From this it is clear what other lines do to the diagnostics of a file: nothing.  Tabs need a width
for it, since a tab of no width is no place to count from.
-/

namespace LiveCheck

open Program

/-! ### Keys -/

/-- The keys of pairs stand in the order in which they come first. -/
theorem Table.keys_ofPairs {κ ν : Type} [DecidableEq κ] (pairs : List (κ × ν)) :
    (Table.ofPairs pairs).keys = (pairs.map Prod.fst).eraseDups := by
  induction pairs using List.reverseRecOn with
  | nil => rfl
  | append_singleton rest p ih =>
    have longer : ofPairs (rest ++ [p]) = put (ofPairs rest) p.1 p.2 := List.foldl_append
    rw [longer, keys_put, ih, List.map_append, List.eraseDups_append]
    by_cases known : p.1 ∈ rest.map Prod.fst
    · have old : (List.map Prod.fst [p]).removeAll (rest.map Prod.fst) = [] := by
        simp [List.removeAll, known]
      rw [if_pos (List.mem_eraseDups.2 known), old]
      exact (List.append_nil _).symm
    · have new : (List.map Prod.fst [p]).removeAll (rest.map Prod.fst) = [p.1] := by
        simp [List.removeAll, known]
      rw [if_neg (mt List.mem_eraseDups.1 known), new]
      rfl

namespace Attribution

variable {text : Handle → Except Fault String} {setup : Setup} {mapping : Table String Handle}
  {lines xs ys : List String} {h : Handle}

/-! ### Lines about a file -/

/-- The files that paths lead to, in the order in which they come first. -/
def handles (mapping : Table String Handle) : List Handle := (mapping.map Prod.snd).eraseDups

/-- The file behind a path in a report.  Of the paths with the same normal form the last one
counts. -/
def owner? (setup : Setup) (mapping : Table String Handle) (path : String) : Option Handle :=
  (mapping.reverse.find? fun e => Path.normalize setup.cwd e.1 = setup.resolvePath path).map
    Prod.snd

/-- The file that a line is about, and the parts of the line. -/
def about? (setup : Setup) (mapping : Table String Handle) (line : String) :
    Option (Handle × ReportLine) :=
  (ReportLine.parse? (Text.trim line.toList)).bind fun parts =>
    (owner? setup mapping (String.ofList parts.path)).map fun h => (h, parts)

/-- Is the line about this file? -/
def isAbout (setup : Setup) (mapping : Table String Handle) (h : Handle) (line : String) : Bool :=
  (about? setup mapping line).any fun about => about.1 = h

/-- The numbers of all lines can be read. -/
def Legible (lines : List String) : Prop :=
  ∀ line ∈ lines, ∀ parts, ReportLine.parse? (Text.trim line.toList) = some parts →
    parts.Countable

/-- The column of a line, the first one if it has none. -/
def columnOf (parts : ReportLine) : Int :=
  match parts.column with
  | none => 1
  | some digits => Text.numeralValue digits

/-- The diagnostic of a line about a file with this text. -/
def diagnosticAt (tabWidth : Int) (text : Option DocumentText) (h : Handle) (parts : ReportLine) :
    Diagnostic :=
  { file := h
    line := Text.numeralValue parts.line
    column := columnOf parts
    offset := text.bind fun d =>
      (d.offset (Text.numeralValue parts.line) (columnOf parts) tabWidth).toOption.map Int.ofNat
    severity := .parse (some (String.ofList parts.severity))
    message := Text.trimString (String.ofList parts.message)
    code := parts.code.map String.ofList }

/-- The diagnostic of a line, if it is about the file. -/
def diagnosticFor? (setup : Setup) (mapping : Table String Handle) (text : Option DocumentText)
    (h : Handle) (line : String) : Option Diagnostic :=
  match about? setup mapping line with
  | some (h', parts) => if h' = h then some (diagnosticAt setup.tabWidth text h parts) else none
  | none => none

/-- The text of a file as offsets are counted in it, if there are documents. -/
def countedText (setup : Setup) (text : Handle → Except Fault String) (h : Handle) :
    Option DocumentText :=
  if setup.withDocuments then shownText (text h) else none

/-- Each file with the diagnostics of the lines about it. -/
def projected (setup : Setup) (text : Handle → Except Fault String)
    (mapping : Table String Handle) (lines : List String) : Table Handle (List Diagnostic) :=
  (handles mapping).map fun h =>
    (h, lines.filterMap (diagnosticFor? setup mapping (countedText setup text h) h))

/-- The normal forms of the paths lead to the last file that has them. -/
theorem target?_normalPaths (setup : Setup) (mapping : Table String Handle) (line : String) :
    target? setup (normalPaths setup mapping) line = about? setup mapping line := by
  have known (key : String) : (normalPaths setup mapping).get? key =
      (mapping.reverse.find? fun e => Path.normalize setup.cwd e.1 = key).map Prod.snd := by
    unfold normalPaths
    rw [Table.get?_ofPairs, ← List.map_reverse]
    unfold Table.get?
    rw [List.find?_map, Option.map_map]
    rfl
  unfold target? about? owner?
  cases ReportLine.parse? (Text.trim line.toList) with
  | none => rfl
  | some parts =>
    dsimp only
    rw [known]
    rfl

/-- A line is about a file that some path leads to. -/
theorem mem_handles_of_about? {line : String} {parts : ReportLine}
    (about : about? setup mapping line = some (h, parts)) : h ∈ handles mapping := by
  obtain ⟨parts', -, owned⟩ := Option.bind_eq_some_iff.1 about
  obtain ⟨h', owner, same⟩ := Option.map_eq_some_iff.1 owned
  obtain ⟨e, found, rfl⟩ := Option.map_eq_some_iff.1 owner
  have entry : e ∈ mapping := List.mem_reverse.1 (List.mem_of_find?_eq_some found)
  obtain ⟨rfl, -⟩ := Prod.mk.inj same
  exact List.mem_eraseDups.2 (List.mem_map_of_mem entry)

/-- All files are there from the start. -/
theorem keys_noProblems (mapping : Table String Handle) :
    (noProblems mapping).keys = handles mapping := by
  unfold noProblems handles
  rw [Table.keys_ofPairs, List.map_map]
  rfl

/-! ### The result of a run -/

/-- The offset of a place is what it should be. -/
theorem offsetIn_eq (tabs : setup.tabWidth ≠ 0) (h : Handle) (line column : Int) :
    offsetIn setup (shownText (text h)) line column =
      .ok ((countedText setup text h).bind fun d =>
        (d.offset line column setup.tabWidth).toOption.map Int.ofNat) := by
  unfold offsetIn countedText
  by_cases documents : setup.withDocuments = true
  · rw [if_pos documents, if_pos documents]
    cases shownText (text h) with
    | none => rfl
    | some d =>
      obtain ⟨place, found⟩ := d.exists_offset tabs line column
      dsimp only [Option.bind_some]
      rw [found]
      rfl
  · rw [if_neg documents, if_neg documents]
    rfl

/-- The column of a line is read if its number can be. -/
theorem readColumn_eq {parts : ReportLine} (countable : parts.Countable) :
    readColumn parts.column = .ok (columnOf parts) := by
  unfold columnOf
  cases column : parts.column with
  | none => rfl
  | some digits => exact readNumber_eq_ok_iff.2 ⟨countable.column digits column, rfl⟩

/-- The diagnostic of a line is what it should be if its numbers can be read. -/
theorem diagnosticOf_eq (tabs : setup.tabWidth ≠ 0) {parts : ReportLine}
    (countable : parts.Countable) : diagnosticOf setup (shownText (text h)) h parts =
      .ok (diagnosticAt setup.tabWidth (countedText setup text h) h parts) := by
  have line := readNumber_eq_ok_iff.2 ⟨countable.line, rfl⟩
  refine diagnosticOf_eq_ok_iff.2
    ⟨line, readColumn_eq countable, offsetIn_eq tabs h _ _, rfl, ?_, rfl, rfl⟩
  dsimp only [diagnosticAt]

/-- A function that succeeds on each member of a list succeeds on the list. -/
theorem mapM_eq_ok {α β ε : Type} {f : α → Except ε β} {g : α → β} {as : List α}
    (each : ∀ a ∈ as, f a = .ok (g a)) : as.mapM f = .ok (as.map g) := by
  induction as with
  | nil => rfl
  | cons a rest ih =>
    obtain ⟨first, others⟩ := List.forall_mem_cons.1 each
    rw [List.mapM_cons, first, ih others]
    rfl

/-- The diagnostics of all lines about a file are those that they should be. -/
theorem mapM_diagnosticOf (tabs : setup.tabWidth ≠ 0) (legible : Legible lines) (h : Handle) :
    (lines.filterMap (partsFor? setup (normalPaths setup mapping) h)).mapM
        (diagnosticOf setup (shownText (text h)) h) =
      .ok (lines.filterMap (diagnosticFor? setup mapping (countedText setup text h) h)) := by
  have readable : ∀ parts ∈ lines.filterMap (partsFor? setup (normalPaths setup mapping) h),
      parts.Countable := by
    intro parts mem
    obtain ⟨line, inside, found⟩ := List.mem_filterMap.1 mem
    exact legible line inside parts (parse?_of_target? (partsFor?_eq_some_iff.1 found))
  have picked (line : String) : (partsFor? setup (normalPaths setup mapping) h line).map
      (diagnosticAt setup.tabWidth (countedText setup text h) h) =
        diagnosticFor? setup mapping (countedText setup text h) h line := by
    unfold partsFor? diagnosticFor?
    rw [target?_normalPaths]
    cases about? setup mapping line with
    | none => rfl
    | some about =>
      dsimp only
      split <;> rfl
  rw [mapM_eq_ok fun parts mem => diagnosticOf_eq tabs (readable parts mem), List.map_filterMap]
  exact congrArg Except.ok (congrArg (lines.filterMap ·) (funext picked))

/-- Whatever is stored before, lines are attributed to the files that they are about. -/
theorem eq_projected (tabs : setup.tabWidth ≠ 0) (shown : ∀ h, Shows text h)
    (legible : Legible lines) {texts : Texts} (stored : Stores text texts) {t : Trace}
    {r : Except Fault (Table Handle (List Diagnostic))}
    (run : Runs (addLines setup (normalPaths setup mapping) texts (noProblems mapping)
      lines).attempt t r) (reads : Reads text t) :
    r = .ok (projected setup text mapping lines) := by
  have tolerates : Tolerates text texts := fun h _ _ => shown h
  obtain ⟨out, rfl⟩ := (returns_addLines (normalPaths setup mapping) (noProblems mapping) tabs
    tolerates lines t r run reads).1.2 (by
      intro line inside h parts target
      exact ⟨legible line inside parts (parse?_of_target? target), fun _ => shown h⟩)
  obtain ⟨found, rfl, each⟩ := runs_addLines run reads stored
  have same (h : Handle) : found h =
      lines.filterMap (diagnosticFor? setup mapping (countedText setup text h) h) := by
    have one := each h
    rw [mapM_diagnosticOf tabs legible h] at one
    exact (Except.ok.inj one).symm
  unfold projected
  rw [← keys_noProblems]
  unfold Table.keys
  rw [List.map_map]
  refine congrArg Except.ok (List.map_congr_left ?_)
  intro e mem
  rw [eq_nil_of_mem_noProblems mem, List.nil_append, same]
  rfl

/-- So they are under the lock. -/
theorem ofLines_eq_projected (tabs : setup.tabWidth ≠ 0) (shown : ∀ h, Shows text h)
    (legible : Legible lines) {t : Trace} {r : Except Fault (Table Handle (List Diagnostic))}
    (run : Runs (ofLines setup mapping lines).attempt t r) (reads : Reads text t)
    (granted : Granted t) : r = .ok (projected setup text mapping lines) := by
  obtain ⟨out, rfl⟩ := (returns_ofLines tabs run reads granted).2 (by
    intro line inside h parts target
    exact ⟨legible line inside parts (parse?_of_target? target), fun _ => shown h⟩)
  obtain ⟨t', adding, same⟩ := exists_addLines run
  have nothing : Stores text [] := fun _ _ stored => by cases stored
  exact eq_projected tabs shown legible nothing adding ((same text).2 reads)

/-! ### Fixed texts -/

/-- Documents with these texts, and nothing else. -/
def reply (text : Handle → Except Fault String) : (r : Request) → r.Reply
  | .currentText h => text h
  | r => r.nothing

/-- What comes of lines where the files have these texts. -/
def parsed (setup : Setup) (text : Handle → Except Fault String) (mapping : Table String Handle)
    (lines : List String) : Except Fault (Table Handle (List Diagnostic)) :=
  (Program.answered (reply text) (ofLines setup mapping lines).attempt).2

/-- The diagnostics that a file has then. -/
def found (setup : Setup) (text : Handle → Except Fault String) (mapping : Table String Handle)
    (lines : List String) (h : Handle) : List Diagnostic :=
  ((parsed setup text mapping lines).toOption.bind fun out => out.get? h).getD []

/-- One parser is given several batches of lines, one after the other. -/
def inTurn (setup : Setup) : List (Table String Handle × List String) →
    Action (List (Table Handle (List Diagnostic)))
  | [] => pure []
  | (mapping, lines) :: rest => do
    let out ← ofLines setup mapping lines
    let others ← inTurn setup rest
    pure (out :: others)

/-- The texts are as they are. -/
theorem reads_answered {α : Type} (text : Handle → Except Fault String) (p : Program α) :
    Reads text (answered (reply text) p).1 := by
  intro h answer mem
  obtain ⟨-, same⟩ := replies_record (fun (_ : Unit) r => (reply text r, ())) () p _ mem
  exact same

/-- The lock is there for everybody. -/
theorem granted_answered {α : Type} (text : Handle → Except Fault String) (p : Program α) :
    Granted (answered (reply text) p).1 := by
  rintro answer (mem | mem)
  all_goals
    obtain ⟨-, same⟩ := replies_record (fun (_ : Unit) r => (reply text r, ())) () p _ mem
    exact same

/-- Lines are attributed to the files that they are about. -/
theorem parsed_eq (tabs : setup.tabWidth ≠ 0) (shown : ∀ h, Shows text h)
    (mapping : Table String Handle) (legible : Legible lines) :
    parsed setup text mapping lines = .ok (projected setup text mapping lines) :=
  ofLines_eq_projected tabs shown legible (runs_answered (reply text) _) (reads_answered text _)
    (granted_answered text _)

/-- A line that is not about a file has no diagnostic for it. -/
theorem isSome_diagnosticFor? (document : Option DocumentText) (line : String) :
    (diagnosticFor? setup mapping document h line).isSome = isAbout setup mapping h line := by
  unfold diagnosticFor? isAbout
  cases about? setup mapping line with
  | none => rfl
  | some about =>
    dsimp only [Option.any_some]
    by_cases same : about.1 = h <;> simp [same]

/-- A line is about a file if it is the one that the line's path leads to. -/
theorem isAbout_iff {line : String} : isAbout setup mapping h line = true ↔
    ∃ parts, about? setup mapping line = some (h, parts) := by
  unfold isAbout
  cases about : about? setup mapping line with
  | none => exact ⟨nofun, nofun⟩
  | some found =>
    rw [Option.any_some, decide_eq_true_iff]
    constructor
    · rintro rfl
      exact ⟨found.2, rfl⟩
    · rintro ⟨parts, same⟩
      rw [Option.some.inj same]

/-- A line is about one file at most. -/
theorem isAbout_unique {k : Handle} {line : String} (about : isAbout setup mapping h line = true)
    (about' : isAbout setup mapping k line = true) : h = k := by
  obtain ⟨parts, found⟩ := isAbout_iff.1 about
  obtain ⟨parts', found'⟩ := isAbout_iff.1 about'
  rw [found] at found'
  exact congrArg Prod.fst (Option.some.inj found')

/-- A file that no path leads to has no lines about it. -/
theorem isAbout_of_notMem (other : h ∉ handles mapping) (line : String) :
    isAbout setup mapping h line = false := by
  rw [← Bool.not_eq_true]
  intro about
  obtain ⟨parts, found⟩ := isAbout_iff.1 about
  exact other (mem_handles_of_about? found)

/-- A line is about one of the files if its path leads to one. -/
theorem any_isAbout (line : String) :
    ((handles mapping).any fun h => isAbout setup mapping h line) =
      (about? setup mapping line).isSome := by
  rw [Bool.eq_iff_iff, List.any_eq_true, Option.isSome_iff_exists]
  constructor
  · rintro ⟨h, -, about⟩
    obtain ⟨parts, found⟩ := isAbout_iff.1 about
    exact ⟨(h, parts), found⟩
  · rintro ⟨⟨h, parts⟩, found⟩
    exact ⟨h, mem_handles_of_about? found, isAbout_iff.2 ⟨parts, found⟩⟩

/-- No file is there twice. -/
theorem nodup_handles (mapping : Table String Handle) : (handles mapping).Nodup := by
  rw [← keys_noProblems]
  exact Table.nodup_keys_ofPairs _

/-- A file has the diagnostics of the lines about it. -/
theorem found_eq (tabs : setup.tabWidth ≠ 0) (shown : ∀ h, Shows text h)
    (mapping : Table String Handle) (legible : Legible lines) (h : Handle) :
    found setup text mapping lines h =
      lines.filterMap (diagnosticFor? setup mapping (countedText setup text h) h) := by
  have keys : (projected setup text mapping lines).keys = handles mapping := by
    unfold projected Table.keys
    rw [List.map_map]
    exact List.map_id _
  unfold found
  rw [parsed_eq tabs shown mapping legible]
  by_cases known : h ∈ handles mapping
  · have nodup : (projected setup text mapping lines).keys.Nodup := by
      rw [keys]
      exact nodup_handles mapping
    have entry : (h, lines.filterMap (diagnosticFor? setup mapping (countedText setup text h) h)) ∈
        projected setup text mapping lines := List.mem_map_of_mem known
    exact congrArg (Option.getD · []) (Table.get?_of_mem nodup entry)
  · have missing : (projected setup text mapping lines).get? h = none :=
      Table.get?_eq_none (keys ▸ known)
    have none_about : lines.filterMap
        (diagnosticFor? setup mapping (countedText setup text h) h) = [] := by
      rw [List.filterMap_eq_nil_iff]
      intro line _
      rw [← Option.isNone_iff_eq_none, ← Option.not_isSome, isSome_diagnosticFor?,
        isAbout_of_notMem known]
      rfl
    rw [none_about]
    exact congrArg (Option.getD · []) missing

/-! ### The laws -/

/-- More lines after these ones are legible if they are. -/
theorem Legible.append (hx : Legible xs) (hy : Legible ys) : Legible (xs ++ ys) :=
  List.forall_mem_append.2 ⟨hx, hy⟩

/-- Lines that are not about a file can be left out. -/
theorem filterMap_filter_isAbout (document : Option DocumentText) (lines : List String) :
    (lines.filter (isAbout setup mapping h)).filterMap (diagnosticFor? setup mapping document h) =
      lines.filterMap (diagnosticFor? setup mapping document h) := by
  rw [List.filterMap_filter]
  refine congrArg (lines.filterMap ·) (funext fun line => ?_)
  by_cases about : isAbout setup mapping h line = true
  · exact if_pos about
  · rw [if_neg about]
    rw [← isSome_diagnosticFor? document, Option.not_isSome_iff_eq_none] at about
    exact about.symm

/-- What is counted for one of two reasons that exclude each other is counted once. -/
theorem countP_add_countP {α : Type} {p q : α → Bool} (apart : ∀ a, p a = true → q a = false)
    (as : List α) : as.countP p + as.countP q = as.countP fun a => p a || q a := by
  induction as with
  | nil => rfl
  | cons a rest ih =>
    rw [List.countP_cons, List.countP_cons, List.countP_cons, ← ih]
    cases hp : p a with
    | true =>
      rw [apart a hp]
      change _ + 1 + (_ + 0) = _ + 1
      omega
    | false =>
      rw [Bool.false_or]
      change _ + 0 + _ = _
      omega

/-- Each line that is about one of some files is counted for that file alone. -/
theorem length_flatMap_diagnosticFor? (documents : Handle → Option DocumentText)
    (lines : List String) {files : List Handle} (nodup : files.Nodup) :
    (files.flatMap fun h => lines.filterMap (diagnosticFor? setup mapping (documents h) h)).length =
      lines.countP fun line => files.any fun h => isAbout setup mapping h line := by
  induction files with
  | nil => simp
  | cons h rest ih =>
    obtain ⟨new, others⟩ := List.nodup_cons.1 nodup
    have own : (lines.filterMap (diagnosticFor? setup mapping (documents h) h)).length =
        lines.countP (isAbout setup mapping h) := by
      rw [List.length_filterMap_eq_countP]
      refine List.countP_congr ?_
      intro line _
      rw [isSome_diagnosticFor?]
    have apart : ∀ line, isAbout setup mapping h line = true →
        (rest.any fun k => isAbout setup mapping k line) = false := by
      intro line about
      rw [List.any_eq_false]
      intro k mem about'
      exact new (isAbout_unique about about' ▸ mem)
    rw [List.flatMap_cons, List.length_append, own, ih others, countP_add_countP apart]
    rfl

/-- The lock is granted in both parts of a trace. -/
theorem Granted.of_append {t₁ t₂ : Trace} (granted : Granted (t₁ ++ t₂)) :
    Granted t₁ ∧ Granted t₂ := by
  constructor
  · intro answer mem
    exact granted answer (mem.imp (List.mem_append_left t₂) (List.mem_append_left t₂))
  · intro answer mem
    exact granted answer (mem.imp (List.mem_append_right t₁) (List.mem_append_right t₁))

/-- What was parsed before does not matter. -/
theorem inTurn_eq (tabs : setup.tabWidth ≠ 0) (shown : ∀ h, Shows text h)
    {calls : List (Table String Handle × List String)} (legible : ∀ call ∈ calls, Legible call.2)
    {t : Trace} {r : Except Fault (List (Table Handle (List Diagnostic)))}
    (run : Runs (inTurn setup calls).attempt t r) (reads : Reads text t) (granted : Granted t) :
    r = .ok (calls.map fun call => projected setup text call.1 call.2) := by
  induction calls generalizing t r with
  | nil =>
    obtain ⟨-, rfl⟩ := runs_attempt_pure.1 run
    rfl
  | cons call rest ih =>
    obtain ⟨now, later⟩ := List.forall_mem_cons.1 legible
    unfold inTurn at run
    rcases runs_attempt_bind.1 run with ⟨t₁, t₂, out, rfl, first, others⟩ | ⟨fault, rfl, failed⟩
    · have one := ofLines_eq_projected tabs shown now first reads.of_append.1 granted.of_append.1
      obtain rfl := Except.ok.inj one
      rcases runs_attempt_bind.1 others with ⟨t₃, t₄, outs, rfl, more, last⟩ | ⟨fault, rfl, failed⟩
      · have all := ih later more reads.of_append.2.of_append.1 granted.of_append.2.of_append.1
        obtain rfl := Except.ok.inj all
        obtain ⟨-, rfl⟩ := runs_attempt_pure.1 last
        rfl
      · cases ih later failed reads.of_append.2 granted.of_append.2
    · cases ofLines_eq_projected tabs shown now failed reads granted

/-- Where tabs have a width, the numbers in the lines can be read and the texts that are asked for
are there or can be passed over, each file has the diagnostics of the lines whose path leads to it,
in their order, each made from the line, the file's text and the tab width.  So lines that are
appended append their diagnostics, each line with a known path has one diagnostic, and the lines
about other files change nothing.  Nor does it matter what was parsed or stored before. -/
theorem parsed_projects (tabs : setup.tabWidth ≠ 0) (shown : ∀ h, Shows text h) :
    (∀ mapping lines, Legible lines →
      parsed setup text mapping lines = .ok (projected setup text mapping lines)) ∧
    (∀ mapping xs ys h, Legible xs → Legible ys → found setup text mapping (xs ++ ys) h =
      found setup text mapping xs h ++ found setup text mapping ys h) ∧
    (∀ mapping lines, Legible lines →
      ((handles mapping).flatMap (found setup text mapping lines)).length =
        lines.countP fun line => (about? setup mapping line).isSome) ∧
    (∀ mapping xs ys h, Legible xs → Legible ys →
      xs.filter (isAbout setup mapping h) = ys.filter (isAbout setup mapping h) →
        found setup text mapping xs h = found setup text mapping ys h) ∧
    (∀ calls, (∀ call ∈ calls, Legible call.2) → ∀ t r,
      Runs (inTurn setup calls).attempt t r → Reads text t → Granted t →
        r = .ok (calls.map fun call => projected setup text call.1 call.2)) ∧
    ∀ mapping lines texts, Legible lines → Stores text texts → ∀ t r,
      Runs (addLines setup (normalPaths setup mapping) texts (noProblems mapping) lines).attempt
        t r → Reads text t → r = .ok (projected setup text mapping lines) := by
  have each (mapping : Table String Handle) {lines : List String} (legible : Legible lines)
      (h : Handle) := found_eq tabs shown mapping legible h
  refine ⟨?projection, ?append, ?count, ?others, ?reuse, ?stored⟩
  case projection =>
    intro mapping lines legible
    exact parsed_eq tabs shown mapping legible
  case append =>
    intro mapping xs ys h hx hy
    rw [each mapping (hx.append hy), each mapping hx, each mapping hy, List.filterMap_append]
  case count =>
    intro mapping lines legible
    rw [funext (each mapping legible), length_flatMap_diagnosticFor? _ _ (nodup_handles mapping)]
    exact List.countP_congr fun line _ => by rw [any_isAbout]
  case others =>
    intro mapping xs ys h hx hy same
    rw [each mapping hx, each mapping hy, ← filterMap_filter_isAbout, same,
      filterMap_filter_isAbout]
  case reuse =>
    intro calls legible t r run reads granted
    exact inTurn_eq tabs shown legible run reads granted
  case stored =>
    intro mapping lines texts legible stored t r run reads
    exact eq_projected tabs shown legible stored run reads

/-- One file can be read, and any other one is missing. -/
def oneText (h : Handle) : Except Fault String :=
  if h.path = "/a.py" then .ok "\tx\n" else .error (.noSuchDocument h.path)

/-- All missing files are passed over. -/
theorem shows_oneText (h : Handle) : Shows oneText h := by
  intro fault failed
  unfold oneText at failed
  split at failed
  · cases failed
  · cases failed
    rfl

/-- The later one of two paths with one normal form leads to another file. -/
def twicePaths : Table String Handle :=
  [("/a.py", { path := "/a.py" }), ("/b.py", { path := "/b.py" }),
    ("/x/../b.py", { path := "/a.py" })]

/-- Lines about two paths, and one that is no report. -/
def twoReports : List String :=
  ["/a.py:1:3: error: one", "Found 2 errors", "./b.py:1:9: note: two  [code]"]

/-- Their numbers can be read. -/
theorem legible_twoReports : Legible twoReports := by
  have all : ∀ line ∈ twoReports, ∀ parts ∈ ReportLine.parse? (Text.trim line.toList),
      parts.line.length ≤ Text.maxDigits ∧
        ∀ digits ∈ parts.column, digits.length ≤ Text.maxDigits := by
    decide +kernel
  intro line mem parts read
  obtain ⟨number, column⟩ := all line mem parts read
  exact ⟨number, column⟩

/-- Both diagnostics are those of the file that the last path leads to, and the offset of the second
one is the end of the line. -/
theorem twoReports_projected :
    withTexts.tabWidth ≠ 0 ∧ (∀ h, Shows oneText h) ∧ Legible twoReports ∧
    parsed withTexts oneText twicePaths twoReports = .ok
      [({ path := "/a.py" },
        [{ file := { path := "/a.py" }, line := 1, column := 3, severity := .error
           message := "one", code := none, offset := some 1 },
         { file := { path := "/a.py" }, line := 1, column := 9, severity := .note
           message := "two", code := some "code", offset := some 2 }]),
       ({ path := "/b.py" }, [])] := by
  have tabs : withTexts.tabWidth ≠ 0 := by decide
  obtain ⟨projection, -⟩ := parsed_projects tabs shows_oneText
  refine ⟨tabs, shows_oneText, legible_twoReports, ?_⟩
  rw [projection twicePaths twoReports legible_twoReports]
  decide +kernel

/-- Without a tab width a tab before the column ends everything. -/
theorem not_projected_without_width :
    ¬ ∀ (setup : Setup) (text : Handle → Except Fault String) (mapping : Table String Handle)
      (lines : List String), (∀ h, Shows text h) → Legible lines →
        parsed setup text mapping lines = .ok (projected setup text mapping lines) := by
  intro all
  have fault : parsed { withTexts with tabWidth := 0 } oneText twicePaths twoReports =
      .error .zeroModulus := by
    decide +kernel
  have projection := all { withTexts with tabWidth := 0 } oneText twicePaths twoReports
    shows_oneText legible_twoReports
  rw [fault] at projection
  cases projection

end Attribution

end LiveCheck
