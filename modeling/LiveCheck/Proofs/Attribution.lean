import Mathlib.Data.List.Forall2
import LiveCheck.Attribution
import LiveCheck.Proofs.ReportLine
import LiveCheck.Proofs.Runs
import LiveCheck.Proofs.Table

/-!
# Which lines become diagnostics of which files

Attribution goes through the printed lines once, with a table of diagnostics and a store of texts
in its hands.  Seen from one file there is much less to it: the lines that name the file are
picked, in their order, and each becomes a diagnostic that depends on nothing but the line and the
text of the file.  `runs_addLines` says that a run which succeeds does this for every file at
once, whatever stands between the lines of the file.

A path in a report is made normal before it is looked up.  A line that consists of a normal path
and a tail is therefore about the file behind the path, provided that the path holds no colon and
that there is a message: `target?_lineAt` and its companions say what becomes of a line in each
case.
-/

namespace LiveCheck.Attribution

open Program

/-! ### One file at a time -/

/-- The file that a line is about, and the parts of the line. -/
def target? (setup : Setup) (files : Table String Handle) (line : String) :
    Option (Handle × ReportLine) :=
  match ReportLine.parse? (Text.trim line.toList) with
  | none => none
  | some parts =>
    (files.get? (setup.resolvePath (String.ofList parts.path))).map fun h => (h, parts)

/-- The parts of a line, if it is about this file. -/
def partsFor? (setup : Setup) (files : Table String Handle) (h : Handle) (line : String) :
    Option ReportLine :=
  match target? setup files line with
  | some (h', parts) => if h' = h then some parts else none
  | none => none

/-- The text of a file as offsets are counted in it, if it can be read. -/
def shownText : Except Fault String → Option DocumentText
  | .ok s => some (DocumentText.ofChars s.toList)
  | .error _ => none

/-- The offset of a place in a text that may be missing. -/
def offsetIn (setup : Setup) (text : Option DocumentText) (line column : Int) :
    Except Fault (Option Int) :=
  if setup.withDocuments then
    match text with
    | none => .ok none
    | some text => (text.offset line column setup.tabWidth).map fun offset => some (offset : Int)
  else .ok none

/-- The diagnostic of a line about a file with this text. -/
def diagnosticOf (setup : Setup) (text : Option DocumentText) (h : Handle) (parts : ReportLine) :
    Except Fault Diagnostic := do
  let line ← readNumber parts.line
  let column ← readColumn parts.column
  let offset ← offsetIn setup text line column
  pure { file := h, line, column, offset
         severity := .parse (some (String.ofList parts.severity))
         message := Text.trimString (String.ofList parts.message)
         code := parts.code.map String.ofList }

/-- A calculation in two steps succeeds if each step does. -/
theorem bind_eq_ok_iff {α β ε : Type} {x : Except ε α} {f : α → Except ε β} {b : β} :
    x >>= f = .ok b ↔ ∃ a, x = .ok a ∧ f a = .ok b := by
  cases x with
  | error e => exact ⟨nofun, fun ⟨_, h, _⟩ => nomatch h⟩
  | ok a => exact ⟨fun h => ⟨a, rfl, h⟩, fun ⟨_, same, h⟩ => Except.ok.inj same ▸ h⟩

/-- A diagnostic is one of the file, with what the line says, and with its offset in the text of the
file. -/
theorem diagnosticOf_eq_ok_iff {setup : Setup} {text : Option DocumentText} {h : Handle}
    {parts : ReportLine} {d : Diagnostic} : diagnosticOf setup text h parts = .ok d ↔
      readNumber parts.line = .ok d.line ∧ readColumn parts.column = .ok d.column ∧
      offsetIn setup text d.line d.column = .ok d.offset ∧ d.file = h ∧
      d.severity = .parse (some (String.ofList parts.severity)) ∧
      d.message = Text.trimString (String.ofList parts.message) ∧
      d.code = parts.code.map String.ofList := by
  obtain ⟨file, line, column, severity, message, code, offset⟩ := d
  simp only [diagnosticOf, bind_eq_ok_iff]
  constructor
  · rintro ⟨line', hline, column', hcolumn, offset', hoffset, made⟩
    have same := Except.ok.inj made
    simp only [Diagnostic.mk.injEq] at same
    obtain ⟨rfl, rfl, rfl, hseverity, hmessage, hcode, rfl⟩ := same
    exact ⟨hline, hcolumn, hoffset, rfl, hseverity.symm, hmessage.symm, hcode.symm⟩
  · rintro ⟨hline, hcolumn, hoffset, hfile, hseverity, hmessage, hcode⟩
    refine ⟨line, hline, column, hcolumn, offset, hoffset, ?_⟩
    rw [← hfile, ← hseverity, ← hmessage, ← hcode]
    rfl

/-- If a function succeeds on all of a list, the results are those of its members, in order. -/
theorem forall₂_of_mapM_ok {α β ε : Type} {f : α → Except ε β} {as : List α} {bs : List β}
    (h : as.mapM f = .ok bs) : List.Forall₂ (fun a b => f a = .ok b) as bs := by
  induction as generalizing bs with
  | nil =>
    cases h
    exact .nil
  | cons x rest ih =>
    rw [List.mapM_cons] at h
    obtain ⟨b, hx, h⟩ := bind_eq_ok_iff.1 h
    obtain ⟨bs', hrest, h⟩ := bind_eq_ok_iff.1 h
    cases h
    exact .cons hx (ih hrest)

/-- If a function succeeds on all of a list, each of them has its result in the list of results. -/
theorem exists_of_mapM_ok {α β ε : Type} {f : α → Except ε β} {as : List α} {bs : List β} {a : α}
    (h : as.mapM f = .ok bs) (ha : a ∈ as) : ∃ b ∈ bs, f a = .ok b := by
  have each := forall₂_of_mapM_ok h
  obtain ⟨i, hi, rfl⟩ := List.getElem_of_mem ha
  have bound : i < bs.length := each.length_eq ▸ hi
  exact ⟨bs[i], List.getElem_mem bound, each.get hi bound⟩

/-- If a function succeeds on all of a list, each of the results is that of a member. -/
theorem mem_of_mapM_ok {α β ε : Type} {f : α → Except ε β} {as : List α} {bs : List β} {b : β}
    (h : as.mapM f = .ok bs) (hb : b ∈ bs) : ∃ a ∈ as, f a = .ok b := by
  have each := forall₂_of_mapM_ok h
  obtain ⟨i, hi, rfl⟩ := List.getElem_of_mem hb
  have bound : i < as.length := each.length_eq.symm ▸ hi
  exact ⟨as[i], List.getElem_mem bound, each.get bound hi⟩

/-! ### Lines about a path -/

section Paths

open ReportLine

variable {setup : Setup} {files : Table String Handle} {path : String} {tail : Tail}

/-- A normal path starts with a slash. -/
theorem isAbsoluteChars_of_normal (normal : Path.normalize setup.cwd path = path) :
    Path.isAbsoluteChars path.toList = true :=
  normal ▸ Path.isAbsoluteChars_normalize setup.cwd path

/-- A normal path in a report stands for itself. -/
theorem resolvePath_of_normal (normal : Path.normalize setup.cwd path = path) :
    setup.resolvePath path = path := by
  unfold Setup.resolvePath
  have joined := Path.join_normalize setup.baseDirectory setup.cwd path
  rw [normal] at joined
  rw [joined, normal]

/-- The characters of a line about a path. -/
theorem toList_lineAt (tail : Tail) (path : String) :
    (tail.lineAt path).toList = path.toList ++ tail.text := by
  unfold Tail.lineAt
  rw [String.toList_append, String.toList_ofList]

/-- A line about a path without a colon, with a message, is about the file behind the path. -/
theorem target?_lineAt (normal : Path.normalize setup.cwd path = path) (plain : ':' ∉ path.toList)
    (said : Text.allBlank tail.message = false) :
    target? setup files (tail.lineAt path) =
      (files.get? path).map fun h => (h, tail.parts path.toList) := by
  have read := parse?_path_tail (isAbsoluteChars_of_normal normal) plain said
  unfold target?
  rw [toList_lineAt, read]
  dsimp only [Tail.parts]
  rw [String.ofList_toList, resolvePath_of_normal normal]

/-- A line about a path without a colon, with a message of blanks, is about no file. -/
theorem target?_lineAt_blank (normal : Path.normalize setup.cwd path = path)
    (plain : ':' ∉ path.toList) (silent : Text.allBlank tail.message = true) :
    target? setup files (tail.lineAt path) = none := by
  have read := parse?_path_tail_blank (isAbsoluteChars_of_normal normal) plain silent
  unfold target?
  rw [toList_lineAt, read]

/-- Whatever file a line about a path is about, it is one behind a path without a colon. -/
theorem colon_notMem_of_target? (normal : Path.normalize setup.cwd path = path) {h : Handle}
    {parts : ReportLine} (target : target? setup files (tail.lineAt path) = some (h, parts)) :
    ∃ other : String, files.get? other = some h ∧ ':' ∉ other.toList := by
  have absolute : Path.isAbsoluteChars (tail.lineAt path).toList = true := by
    rw [toList_lineAt]
    exact isAbsoluteChars_append (isAbsoluteChars_of_normal normal) _
  unfold target? at target
  split at target
  · cases target
  · next parts' read =>
    obtain ⟨h', found, same⟩ := Option.map_eq_some_iff.1 target
    cases same
    obtain ⟨absolute', plain⟩ := path_of_parse? (isAbsoluteChars_trim absolute) read
    refine ⟨_, found, fun colon => ?_⟩
    unfold Setup.resolvePath Path.join at colon
    have joined : Path.joinChars setup.baseDirectory.toList parts.path = parts.path :=
      Path.joinChars_of_isAbsolute absolute' _
    rw [String.toList_ofList, joined] at colon
    have chars : (String.ofList parts.path).toList = parts.path := String.toList_ofList
    rcases Path.mem_normalize (by rw [chars]; exact absolute') colon with slash | colon
    · cases slash
    · exact plain (chars ▸ colon)

end Paths

/-! ### The texts that are read -/

/-- Every file has one text throughout the trace. -/
def Reads (text : Handle → Except Fault String) (t : Trace) : Prop :=
  ∀ h (reply : Except Fault String), ⟨.currentText h, reply⟩ ∈ t → reply = text h

/-- The store holds texts as they are. -/
def Stores (text : Handle → Except Fault String) (texts : Texts) : Prop :=
  ∀ h found, texts.get? h = some found → found = shownText (text h)

variable {text : Handle → Except Fault String} {setup : Setup}

/-- A text that is read in a longer trace is read in its parts. -/
theorem Reads.of_append {t₁ t₂ : Trace} (h : Reads text (t₁ ++ t₂)) :
    Reads text t₁ ∧ Reads text t₂ :=
  ⟨fun k reply hmem => h k reply (List.mem_append_left _ hmem),
    fun k reply hmem => h k reply (List.mem_append_right _ hmem)⟩

/-- A text that is read in two parts of a trace is read in the trace. -/
theorem Reads.append {t₁ t₂ : Trace} (h₁ : Reads text t₁) (h₂ : Reads text t₂) :
    Reads text (t₁ ++ t₂) := fun k reply hmem =>
  (List.mem_append.1 hmem).elim (h₁ k reply) (h₂ k reply)

/-- One more text is stored. -/
theorem Stores.put {texts : Texts} (stored : Stores text texts) (h : Handle) :
    Stores text (texts.put h (shownText (text h))) := by
  intro k found hfound
  by_cases hk : k = h
  · subst hk
    rw [Table.get?_put_self] at hfound
    exact (Option.some.inj hfound).symm
  · rw [Table.get?_put_of_ne texts _ hk] at hfound
    exact stored k found hfound

/-- The text of a file is the stored one or the one that is read. -/
theorem runs_textOf {texts : Texts} {h : Handle} {t : Trace} {found : Option DocumentText}
    {texts' : Texts} (run : Runs (textOf texts h).attempt t (.ok (found, texts')))
    (reads : Reads text t) (stored : Stores text texts) :
    found = shownText (text h) ∧ Stores text texts' := by
  unfold textOf at run
  split at run
  · next there =>
    obtain ⟨rfl, heq⟩ := runs_attempt_pure.1 run
    cases heq
    exact ⟨stored h _ there, stored⟩
  · obtain ⟨_, t₂, reply, rfl, ask, rest⟩ := runs_attempt_ofTotal_bind.1 run
    cases runs_request.1 ask
    have same : reply = text h := reads h reply List.mem_cons_self
    match reply with
    | .ok s =>
      obtain ⟨rfl, heq⟩ := runs_attempt_pure.1 rest
      cases heq
      have shown : some (DocumentText.ofChars s.toList) = shownText (text h) := by
        rw [← same]
        rfl
      exact ⟨shown, shown ▸ stored.put h⟩
    | .error fault =>
      dsimp only at rest
      split at rest
      · obtain ⟨rfl, heq⟩ := runs_attempt_pure.1 rest
        cases heq
        have shown : none = shownText (text h) := by
          rw [← same]
          rfl
        exact ⟨shown, shown ▸ stored.put h⟩
      · obtain ⟨-, heq⟩ := runs_attempt_throw.1 rest
        cases heq

/-- The offset of a place is the one in the text of the file. -/
theorem runs_offset {texts : Texts} {h : Handle} {line column : Int} {t : Trace}
    {found : Option Int} {texts' : Texts}
    (run : Runs (offset setup texts h line column).attempt t (.ok (found, texts')))
    (reads : Reads text t) (stored : Stores text texts) :
    offsetIn setup (shownText (text h)) line column = .ok found ∧ Stores text texts' := by
  unfold offset at run
  unfold offsetIn
  split at run
  · next documents =>
    rw [if_pos documents]
    obtain ⟨t₁, t₂, ⟨shown, texts₁⟩, rfl, read, rest⟩ := runs_attempt_bind_ok.1 run
    obtain ⟨rfl, stored₁⟩ := runs_textOf read reads.of_append.1 stored
    generalize shownText (text h) = shown at rest
    match shown with
    | none =>
      obtain ⟨rfl, heq⟩ := runs_attempt_pure.1 rest
      cases heq
      exact ⟨rfl, stored₁⟩
    | some document =>
      obtain ⟨t₃, t₄, place, rfl, seek, last⟩ := runs_attempt_bind_ok.1 rest
      obtain ⟨rfl, place_eq⟩ := runs_attempt_ofExcept.1 seek
      obtain ⟨rfl, heq⟩ := runs_attempt_pure.1 last
      cases heq
      dsimp only
      rw [← place_eq]
      exact ⟨rfl, stored₁⟩
  · next documents =>
    rw [if_neg documents]
    obtain ⟨rfl, heq⟩ := runs_attempt_pure.1 run
    cases heq
    exact ⟨rfl, stored⟩

/-- The diagnostic of a line depends on the line and on the text of the file. -/
theorem runs_diagnostic {texts : Texts} {h : Handle} {parts : ReportLine} {t : Trace}
    {found : Diagnostic} {texts' : Texts}
    (run : Runs (diagnostic setup texts h parts).attempt t (.ok (found, texts')))
    (reads : Reads text t) (stored : Stores text texts) :
    diagnosticOf setup (shownText (text h)) h parts = .ok found ∧ Stores text texts' := by
  unfold diagnostic at run
  obtain ⟨t₁, t₂, line, rfl, number, rest⟩ := runs_attempt_bind_ok.1 run
  obtain ⟨rfl, line_eq⟩ := runs_attempt_ofExcept.1 number
  obtain ⟨t₃, t₄, column, rfl, number', rest'⟩ := runs_attempt_bind_ok.1 rest
  obtain ⟨rfl, column_eq⟩ := runs_attempt_ofExcept.1 number'
  obtain ⟨t₅, t₆, ⟨place, texts₁⟩, rfl, seek, last⟩ := runs_attempt_bind_ok.1 rest'
  obtain ⟨place_eq, stored₁⟩ := runs_offset seek reads.of_append.2.of_append.2.of_append.1 stored
  obtain ⟨rfl, heq⟩ := runs_attempt_pure.1 last
  cases heq
  refine ⟨?_, stored₁⟩
  unfold diagnosticOf
  rw [← line_eq, ← column_eq]
  change (offsetIn setup (shownText (text h)) line column >>= _) = _
  rw [place_eq]
  rfl

/-! ### All lines -/

/-- The parts of a line about a file are those of a line that is about it. -/
theorem partsFor?_eq_some_iff {files : Table String Handle} {h : Handle} {line : String}
    {parts : ReportLine} :
    partsFor? setup files h line = some parts ↔ target? setup files line = some (h, parts) := by
  unfold partsFor?
  cases target? setup files line with
  | none => exact ⟨nofun, nofun⟩
  | some found =>
    obtain ⟨h', parts'⟩ := found
    by_cases same : h' = h <;> simp [same]

/-- A line that is about no file is about none in particular. -/
theorem partsFor?_of_target?_none {files : Table String Handle} {line : String}
    (h : target? setup files line = none) (k : Handle) : partsFor? setup files k line = none := by
  unfold partsFor?
  rw [h]

/-- A line that is about a file adds its diagnostic, and any other line nothing. -/
theorem addLines_cons (setup : Setup) (files : Table String Handle) (texts : Texts)
    (problems : Table Handle (List Diagnostic)) (line : String) (rest : List String) :
    addLines setup files texts problems (line :: rest) =
      match target? setup files line with
      | none => addLines setup files texts problems rest
      | some (h, parts) => (do
        let (found, texts) ← diagnostic setup texts h parts
        addLines setup files texts (problems.modify h (· ++ [found])) rest) := by
  rw [addLines]
  unfold target?
  cases ReportLine.parse? (Text.trim line.toList) with
  | none => rfl
  | some parts =>
    dsimp only
    cases files.get? (setup.resolvePath (String.ofList parts.path)) <;> rfl

/-- The diagnostics that one more line adds in front. -/
def consFor (h : Handle) (d : Diagnostic) (found : Handle → List Diagnostic) (k : Handle) :
    List Diagnostic :=
  if k = h then d :: found k else found k

/-- If lines are attributed without a fault, every file gets the diagnostics of the lines about
it, in their order, after those that it had. -/
theorem runs_addLines {files : Table String Handle} {texts : Texts}
    {problems : Table Handle (List Diagnostic)} {lines : List String} {t : Trace}
    {out : Table Handle (List Diagnostic)}
    (run : Runs (addLines setup files texts problems lines).attempt t (.ok out))
    (reads : Reads text t) (stored : Stores text texts) :
    ∃ found : Handle → List Diagnostic, out = problems.map (fun e => (e.1, e.2 ++ found e.1)) ∧
      ∀ h, (lines.filterMap (partsFor? setup files h)).mapM
        (diagnosticOf setup (shownText (text h)) h) = .ok (found h) := by
  induction lines generalizing texts problems t with
  | nil =>
    obtain ⟨rfl, heq⟩ := runs_attempt_pure.1 run
    cases heq
    exact ⟨fun _ => [], by simp, fun _ => rfl⟩
  | cons line rest ih =>
    rw [addLines_cons] at run
    cases target : target? setup files line with
    | none =>
      -- Nothing is added by a line that is about no file.
      rw [target] at run
      obtain ⟨found, same, each⟩ := ih run reads stored
      refine ⟨found, same, fun h => ?_⟩
      rw [List.filterMap_cons_none (partsFor?_of_target?_none target h)]
      exact each h
    | some about =>
      obtain ⟨h, parts⟩ := about
      rw [target] at run
      obtain ⟨t₁, t₂, ⟨d, texts₁⟩, rfl, make, others⟩ := runs_attempt_bind_ok.1 run
      obtain ⟨made, stored₁⟩ := runs_diagnostic make reads.of_append.1 stored
      obtain ⟨found, rfl, each⟩ := ih others reads.of_append.2 stored₁
      refine ⟨consFor h d found, ?_, fun k => ?_⟩
      · unfold Table.modify
        rw [List.map_map]
        refine List.map_congr_left fun e _ => ?_
        by_cases he : e.1 = h <;> simp [consFor, he]
      · by_cases hk : k = h
        · subst hk
          have here : partsFor? setup files k line = some parts :=
            partsFor?_eq_some_iff.2 target
          have tail := each k
          rw [List.filterMap_cons_some here, List.mapM_cons, made, tail, consFor, if_pos rfl]
          rfl
        · have elsewhere : partsFor? setup files k line = none := by
            unfold partsFor?
            rw [target]
            exact if_neg fun heq => hk heq.symm
          rw [List.filterMap_cons_none elsewhere, consFor, if_neg hk]
          exact each k

/-! ### No text is read twice -/

/-- The file whose text is read in an exchange. -/
def asked? : Exchange → Option Handle
  | ⟨.currentText h, _⟩ => some h
  | _ => none

/-- The files whose texts are read. -/
def asked (t : Trace) : List Handle := t.filterMap asked?

/-- A part of attribution that reads no text twice and no text that is stored, and stores what it
reads. -/
structure ReadsOnce (texts texts' : Texts) (t : Trace) : Prop where
  nodup : (asked t).Nodup
  fresh : ∀ h ∈ asked t, h ∉ texts.keys
  kept : ∀ h ∈ texts.keys, h ∈ texts'.keys
  stored : ∀ h ∈ asked t, h ∈ texts'.keys

/-- Where nothing is asked nothing is read. -/
theorem ReadsOnce.refl (texts : Texts) : ReadsOnce texts texts [] :=
  ⟨List.nodup_nil, fun _ h => (List.not_mem_nil h).elim, fun _ h => h,
    fun _ h => (List.not_mem_nil h).elim⟩

/-- Two parts one after the other. -/
theorem ReadsOnce.trans {texts texts' texts'' : Texts} {t₁ t₂ : Trace}
    (h₁ : ReadsOnce texts texts' t₁) (h₂ : ReadsOnce texts' texts'' t₂) :
    ReadsOnce texts texts'' (t₁ ++ t₂) := by
  have both : asked (t₁ ++ t₂) = asked t₁ ++ asked t₂ := List.filterMap_append
  constructor
  · rw [both]
    refine List.nodup_append.2 ⟨h₁.nodup, h₂.nodup, ?_⟩
    rintro h ha _ hb rfl
    exact h₂.fresh h hb (h₁.stored h ha)
  · intro h hmem hold
    rcases List.mem_append.1 (both ▸ hmem) with hmem | hmem
    · exact h₁.fresh h hmem hold
    · exact h₂.fresh h hmem (h₁.kept h hold)
  · exact fun h hold => h₂.kept h (h₁.kept h hold)
  · intro h hmem
    rcases List.mem_append.1 (both ▸ hmem) with hmem | hmem
    · exact h₂.kept h (h₁.stored h hmem)
    · exact h₂.stored h hmem

/-- A text that is read when it is not stored is stored then. -/
theorem ReadsOnce.put {texts : Texts} {h : Handle} (missing : texts.get? h = none)
    (reply : Except Fault String) (text : Option DocumentText) :
    ReadsOnce texts (texts.put h text) [⟨.currentText h, reply⟩] := by
  have stored (k : Handle) (hk : k ∈ texts.keys ∨ k = h) : k ∈ (texts.put h text).keys := by
    rw [Table.keys_put]
    split
    · next there => exact hk.elim id fun heq => heq ▸ there
    · exact List.mem_append.2 (hk.imp id List.mem_singleton.2)
  refine ⟨List.pairwise_singleton _ h, fun k hk there => ?_, fun k hk => stored k (.inl hk),
    fun k hk => stored k (.inr (List.mem_singleton.1 hk))⟩
  obtain rfl := List.mem_singleton.1 hk
  obtain ⟨found, heq⟩ := Table.exists_get? there
  rw [missing] at heq
  cases heq

/-- The text of a file is read if it is not stored. -/
theorem once_textOf {texts texts' : Texts} {h : Handle} {t : Trace} {found : Option DocumentText}
    (run : Runs (textOf texts h).attempt t (.ok (found, texts'))) : ReadsOnce texts texts' t := by
  unfold textOf at run
  split at run
  · obtain ⟨rfl, heq⟩ := runs_attempt_pure.1 run
    cases heq
    exact .refl texts
  · next missing =>
    obtain ⟨_, t₂, reply, rfl, ask, rest⟩ := runs_attempt_ofTotal_bind.1 run
    cases runs_request.1 ask
    match reply with
    | .ok s =>
      obtain ⟨rfl, heq⟩ := runs_attempt_pure.1 rest
      cases heq
      exact .put missing _ _
    | .error fault =>
      dsimp only at rest
      split at rest
      · obtain ⟨rfl, heq⟩ := runs_attempt_pure.1 rest
        cases heq
        exact .put missing _ _
      · obtain ⟨-, heq⟩ := runs_attempt_throw.1 rest
        cases heq

/-- For an offset no text is read but the one of the file, and only if it is not stored. -/
theorem once_offset {texts texts' : Texts} {h : Handle} {line column : Int} {t : Trace}
    {found : Option Int}
    (run : Runs (offset setup texts h line column).attempt t (.ok (found, texts'))) :
    ReadsOnce texts texts' t := by
  unfold offset at run
  split at run
  · obtain ⟨t₁, t₂, ⟨shown, texts₁⟩, rfl, read, rest⟩ := runs_attempt_bind_ok.1 run
    have once := once_textOf read
    match shown with
    | none =>
      obtain ⟨rfl, heq⟩ := runs_attempt_pure.1 rest
      cases heq
      rwa [List.append_nil]
    | some document =>
      obtain ⟨t₃, t₄, place, rfl, seek, last⟩ := runs_attempt_bind_ok.1 rest
      obtain ⟨rfl, -⟩ := runs_attempt_ofExcept.1 seek
      obtain ⟨rfl, heq⟩ := runs_attempt_pure.1 last
      cases heq
      rwa [List.append_nil, List.append_nil]
  · obtain ⟨rfl, heq⟩ := runs_attempt_pure.1 run
    cases heq
    exact .refl texts

/-- For a diagnostic no text is read but the one of the file, and only if it is not stored. -/
theorem once_diagnostic {texts texts' : Texts} {h : Handle} {parts : ReportLine} {t : Trace}
    {found : Diagnostic}
    (run : Runs (diagnostic setup texts h parts).attempt t (.ok (found, texts'))) :
    ReadsOnce texts texts' t := by
  unfold diagnostic at run
  obtain ⟨t₁, t₂, line, rfl, number, rest⟩ := runs_attempt_bind_ok.1 run
  obtain ⟨rfl, -⟩ := runs_attempt_ofExcept.1 number
  obtain ⟨t₃, t₄, column, rfl, number', rest'⟩ := runs_attempt_bind_ok.1 rest
  obtain ⟨rfl, -⟩ := runs_attempt_ofExcept.1 number'
  obtain ⟨t₅, t₆, ⟨place, texts₁⟩, rfl, seek, last⟩ := runs_attempt_bind_ok.1 rest'
  obtain ⟨rfl, heq⟩ := runs_attempt_pure.1 last
  cases heq
  rw [List.append_nil]
  exact once_offset seek

/-- While lines are attributed no text is read twice. -/
theorem once_addLines {files : Table String Handle} {texts : Texts}
    {problems out : Table Handle (List Diagnostic)} {lines : List String} {t : Trace}
    (run : Runs (addLines setup files texts problems lines).attempt t (.ok out)) :
    ∃ texts', ReadsOnce texts texts' t := by
  induction lines generalizing texts problems t with
  | nil =>
    obtain ⟨rfl, -⟩ := runs_attempt_pure.1 run
    exact ⟨texts, .refl texts⟩
  | cons line rest ih =>
    rw [addLines_cons] at run
    split at run
    · exact ih run
    · obtain ⟨t₁, t₂, ⟨d, texts₁⟩, rfl, make, others⟩ := runs_attempt_bind_ok.1 run
      obtain ⟨texts', once⟩ := ih others
      exact ⟨texts', (once_diagnostic make).trans once⟩

/-- Where no text is read twice, every file has one text. -/
theorem exists_reads {t : Trace} (nodup : (asked t).Nodup) : ∃ text, Reads text t := by
  induction t with
  | nil => exact ⟨fun _ => .ok "", fun _ _ h => (List.not_mem_nil h).elim⟩
  | cons e rest ih =>
    cases he : asked? e with
    | none =>
      have same : asked (e :: rest) = asked rest := List.filterMap_cons_none he
      obtain ⟨text, reads⟩ := ih (same ▸ nodup)
      refine ⟨text, fun h reply hmem => ?_⟩
      rcases List.mem_cons.1 hmem with rfl | hmem
      · cases he
      · exact reads h reply hmem
    | some k =>
      have same : asked (e :: rest) = k :: asked rest := List.filterMap_cons_some he
      obtain ⟨fresh, nodup'⟩ := List.nodup_cons.1 (same ▸ nodup)
      obtain ⟨text, reads⟩ := ih nodup'
      obtain ⟨r, answer⟩ := e
      cases r with
      | currentText k' =>
        cases he
        refine ⟨fun h => if h = k then answer else text h, fun h reply hmem => ?_⟩
        rcases List.mem_cons.1 hmem with heq | later
        · cases heq
          exact (if_pos rfl).symm
        · have other : h ≠ k := by
            intro heq
            exact fresh (heq ▸ List.mem_filterMap.2 ⟨⟨.currentText h, reply⟩, later, rfl⟩)
          exact (reads h reply later).trans (if_neg other).symm
      | _ => cases he

/-! ### The whole attribution -/

/-- Where there are documents lines are attributed under the lock. -/
theorem runs_ofLines_locked {mapping : Table String Handle} {lines : List String} {t : Trace}
    {out : Table Handle (List Diagnostic)} (documents : setup.withDocuments = true)
    (run : Runs (ofLines setup mapping lines).attempt t (.ok out)) :
    ∃ t', t = ⟨.lock, .ok ()⟩ :: (t' ++ [⟨.unlock, .ok ()⟩]) ∧
      Runs (addLines setup (normalPaths setup mapping) [] (noProblems mapping) lines).attempt t'
        (.ok out) := by
  unfold ofLines at run
  dsimp only at run
  rw [if_pos documents] at run
  obtain ⟨reply, t₂, rfl, locked⟩ := runs_request_bind.1 run
  match reply with
  | .error fault => exact nomatch (runs_pure.1 locked).2
  | .ok () =>
    obtain ⟨t₃, t₄, result, rfl, adding, unlocking⟩ := runs_bind.1 locked
    obtain ⟨unlocked, t₅, rfl, last⟩ := runs_request_bind.1 unlocking
    obtain ⟨rfl, heq⟩ := runs_pure.1 last
    obtain ⟨rfl, rfl⟩ := eq_ok_of_unlockedWith heq.symm
    exact ⟨t₃, rfl, adding⟩

/-- Lines are attributed one after the other, under the lock where there are documents. -/
theorem exists_addLines {mapping : Table String Handle} {lines : List String} {t : Trace}
    {out : Table Handle (List Diagnostic)}
    (run : Runs (ofLines setup mapping lines).attempt t (.ok out)) :
    ∃ t', Runs (addLines setup (normalPaths setup mapping) [] (noProblems mapping) lines).attempt t'
      (.ok out) ∧ ∀ text, Reads text t' ↔ Reads text t := by
  by_cases documents : setup.withDocuments = true
  · obtain ⟨t', rfl, adding⟩ := runs_ofLines_locked documents run
    refine ⟨t', adding, fun text => ?_⟩
    unfold Reads
    simp
  · unfold ofLines at run
    dsimp only at run
    rw [if_neg documents] at run
    exact ⟨t, run, fun _ => Iff.rfl⟩

/-- While printed lines are attributed every file has one text. -/
theorem exists_reads_ofLines {mapping : Table String Handle} {lines : List String} {t : Trace}
    {out : Table Handle (List Diagnostic)}
    (run : Runs (ofLines setup mapping lines).attempt t (.ok out)) : ∃ text, Reads text t := by
  obtain ⟨t', adding, same⟩ := exists_addLines run
  obtain ⟨texts', once⟩ := once_addLines adding
  obtain ⟨text, reads⟩ := exists_reads once.nodup
  exact ⟨text, (same text).1 reads⟩

/-- All files start without diagnostics. -/
theorem eq_nil_of_mem_noProblems {mapping : Table String Handle} {e : Handle × List Diagnostic}
    (h : e ∈ noProblems mapping) : e.2 = [] := by
  obtain ⟨entry, -, rfl⟩ := List.mem_map.1 (Table.mem_of_mem_ofPairs h)
  rfl

/-- If printed lines are attributed without a fault, every file gets the diagnostics of the lines
about it, in their order. -/
theorem runs_ofLines {mapping : Table String Handle} {lines : List String} {t : Trace}
    {out : Table Handle (List Diagnostic)}
    (run : Runs (ofLines setup mapping lines).attempt t (.ok out)) (reads : Reads text t) :
    ∃ found : Handle → List Diagnostic,
      out = (noProblems mapping).map (fun e => (e.1, found e.1)) ∧
      ∀ h, (lines.filterMap (partsFor? setup (normalPaths setup mapping) h)).mapM
        (diagnosticOf setup (shownText (text h)) h) = .ok (found h) := by
  obtain ⟨t', adding, same_reads⟩ := exists_addLines run
  have reads' := (same_reads text).2 reads
  have stored : Stores text [] := fun _ _ h => by cases h
  obtain ⟨found, same, each⟩ := runs_addLines adding reads' stored
  refine ⟨found, ?_, each⟩
  rw [same]
  refine List.map_congr_left fun e he => ?_
  rw [eq_nil_of_mem_noProblems he, List.nil_append]

end LiveCheck.Attribution
