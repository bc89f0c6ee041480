import LiveCheck.Proofs.Reading
import LiveCheck.Proofs.Scan.LostErrors

/-!
# One state is seen

The texts of a set of snapshots are read one after the other, two requests for every file, and
copies are written between them; the texts that offsets are counted in are read whenever a line
needs one.  Both happen in one section of the lock, so whatever editors do meanwhile, a set of
snapshots mirrors the files as they were at one moment of the run, and so do the offsets of one
attribution (`Desk.sees_one_state`).
-/

namespace LiveCheck

open Program (Exchange Runs)

/-! ### Snapshots and what their files were said to hold -/

namespace Snapshot

/-- How a snapshot comes from what was said of its file: it is the file itself if both texts are
the same, and else a copy to which the text of the editor was written. -/
inductive Drawn (t : Trace) : Snapshot → Prop where
  | itself {h : Handle} {text : String} (current : ⟨.currentText h, .ok text⟩ ∈ t)
      (saved : ⟨.diskText h, .ok (some text)⟩ ∈ t) :
      Drawn t { handle := h, path := h.path, temporary := false }
  | copied {h : Handle} {text path : String} {onDisk : Option String} (encoding : String)
      (current : ⟨.currentText h, .ok text⟩ ∈ t) (saved : ⟨.diskText h, .ok onDisk⟩ ∈ t)
      (differs : onDisk ≠ some text) (encoded : ⟨.encoding h, .ok encoding⟩ ∈ t)
      (written : ⟨.writeTemporary path text encoding, .ok ()⟩ ∈ t) :
      Drawn t { handle := h, path, temporary := true }

variable {scratch : Option String} {cancellable : Bool} {t t' : Trace} {s : Snapshot}

/-- What was said is said in a longer trace. -/
theorem Drawn.mono (drawn : Drawn t s) (more : t ⊆ t') : Drawn t' s := by
  cases drawn with
  | itself current saved => exact .itself (more current) (more saved)
  | copied encoding current saved differs encoded written =>
    exact .copied encoding (more current) (more saved) differs (more encoded) (more written)

/-- A snapshot that is made comes from what was said of its file. -/
theorem drawn_of_make {h : Handle} {unsaved unsaved' : Table String Handle}
    (run : Runs (make scratch cancellable unsaved h).attempt t (.ok (s, unsaved'))) :
    Drawn t s := by
  obtain ⟨t₁, t₂, current, onDisk, -, rfl, placing⟩ := runs_make_parts run
  -- What is told of the file is told in front of what is told of the copy.
  have current_told : ⟨.currentText h, .ok current⟩ ∈ t₁ ++
      ([⟨.currentText h, .ok current⟩, ⟨.diskText h, .ok onDisk⟩] ++ t₂) := by simp
  have saved_told : ⟨.diskText h, .ok onDisk⟩ ∈ t₁ ++
      ([⟨.currentText h, .ok current⟩, ⟨.diskText h, .ok onDisk⟩] ++ t₂) := by simp
  rcases runs_place_ok placing with ⟨rfl, -, rfl⟩ | ⟨differs, path, encoding, rfl, rfl⟩
  · exact .itself current_told saved_told
  · exact .copied encoding current_told saved_told differs (by simp) (by simp)

/-- All snapshots of a set come from what was said of their files. -/
theorem drawn_of_makeEach {files : List Handle} {unsaved : Table String Handle}
    {made : List Snapshot}
    (run : Runs (makeEach scratch cancellable unsaved files) t (made, .ok ())) :
    ∀ s ∈ made, Drawn t s := by
  induction files generalizing unsaved made t with
  | nil =>
    obtain ⟨-, same⟩ := Program.runs_pure.1 run
    cases same
    exact fun _ h => nomatch h
  | cons h rest ih =>
    obtain ⟨s, others, unsaved', t₁, t₂, rfl, rfl, make, makeRest⟩ := runs_makeEach_cons run
    refine List.forall_mem_cons.2 ⟨?first, fun s' hs' => ?others⟩
    case first => exact (drawn_of_make make).mono (List.subset_append_left _ _)
    case others => exact (ih makeRest s' hs').mono (List.subset_append_right _ _)

end Snapshot

/-! ### Sections -/

/-- A trace without a lock asks for no end of a section. -/
theorem Trace.About.not_unlock {t : Trace} {cs : List Concern} (about : About cs t)
    (other : Concern.lock ∉ cs) : ∀ e ∈ t, e.request ≠ .unlock := by
  intro e he same
  exact about.concern_ne other e he (by rw [same]; rfl)

namespace Desk

variable {θ α : Type} [DecidableEq θ] {me : θ} {handles : List Handle} {w : Workspace}

/-- The text was written to the copy in this encoding, in some step between the two states. -/
def Wrote (me : θ) (handles : List Handle) (d s : Desk θ α) (path text encoding : String) :
    Prop :=
  ∃ u v bytes, Leads me handles d u ∧ Leads me handles v s ∧
    v.past = u.past ++ [⟨.writeTemporary path text encoding, .ok ()⟩] ∧
    (Copy.written text encoding).Fits u.world.documents.codecs bytes ∧
    ∀ place, u.world.Leads path place →
      v.world = { u.world with disk := u.world.disk.fill place bytes }

/-- The snapshot is the one that its file asks for in a workspace: its own path if the text of the
editor is on the disk, and else a copy to which this text was written in the encoding of the
file. -/
def Mirrors (me : θ) (handles : List Handle) (d s : Desk θ α) (w : Workspace) (x : Snapshot) :
    Prop :=
  ∃ text onDisk, w.text x.handle = .ok text ∧ w.saved x.handle = .ok onDisk ∧
    (x.temporary = true ↔ onDisk ≠ some text) ∧
    (x.temporary = false → x.path = x.handle.path) ∧
    (x.temporary = true →
      Wrote me handles d s x.path text (w.documents.encodingOf x.handle))

/-- What was said to be written was written. -/
theorem Leads.wrote {p : Program α} {s : Desk θ α} {path text encoding : String}
    (reached : Leads me handles (start w p) s)
    (told : ⟨.writeTemporary path text encoding, .ok ()⟩ ∈ s.past) :
    Wrote me handles (start w p) s path text encoding := by
  obtain ⟨x, y, done⟩ := List.append_of_mem told
  obtain ⟨u, v, before, step, after, -, told⟩ := reached.exists_step done
  have write := (step.attends told (by simp [Request.concern])).writes
  obtain ⟨bytes, fits, filled⟩ := Workspace.writeTemporary_spec write
  refine ⟨u, v, bytes, before, after, told, fits, fun place leads => ?_⟩
  rcases filled with ⟨place', leads', same⟩ | ⟨missing, -⟩
  · obtain rfl := leads.unique leads'
    exact same
  · exact absurd leads (missing place)

/-- A snapshot that comes from what was said of its file mirrors the workspace that was shown. -/
theorem Leads.mirrors {p : Program α} {s : Desk θ α} {v : Workspace} {x : Snapshot}
    (reached : Leads me handles (start w p) s) (drawn : Snapshot.Drawn s.past x)
    (shown : ∀ e ∈ s.past, v.Shows handles e) (file : x.handle ∈ handles) :
    Mirrors me handles (start w p) s v x := by
  cases drawn with
  | @itself h text current saved =>
    have shown_current : .ok text = v.text h := shown _ current file
    have shown_saved : .ok (some text) = v.saved h := shown _ saved file
    refine ⟨text, some text, shown_current.symm, shown_saved.symm, by simp, ?_, ?_⟩
    · exact fun _ => rfl
    · exact fun copied => nomatch copied
  | @copied h text path onDisk encoding current saved differs encoded written =>
    have shown_current : .ok text = v.text h := shown _ current file
    have shown_saved : .ok onDisk = v.saved h := shown _ saved file
    have shown_encoding : .ok encoding = Except.ok (v.documents.encodingOf h) := shown _ encoded
    cases shown_encoding
    refine ⟨text, onDisk, shown_current.symm, shown_saved.symm, by simp [differs], ?_, ?_⟩
    · exact fun itself => nomatch itself
    · exact fun _ => reached.wrote written

/-- All that a thread is told in a program of one section shows the files as they were at one
moment. -/
theorem Leads.shown {p : Program α} {s : Desk θ α} {t : Trace}
    (reached : Leads me handles (start w p) s)
    (past : s.past = ⟨.lock, .ok ()⟩ :: (t ++ [⟨.unlock, .ok ()⟩]))
    (stays : ∀ e ∈ t, e.request ≠ .unlock) :
    ∃ u, Leads me handles (start w p) u ∧ Leads me handles u s ∧
      ∀ e ∈ s.past, u.world.Shows handles e := by
  obtain ⟨u, before, after, shown⟩ := reached.one_state (a := []) past stays
  refine ⟨u, before, after, fun e he => ?_⟩
  rw [past] at he
  rcases List.mem_cons.1 he with rfl | he
  · exact True.intro
  rcases List.mem_append.1 he with he | he
  · exact shown e he
  · obtain rfl := List.mem_singleton.1 he
    exact True.intro

/-- The texts that the files have in a workspace, and those that a trace gives to all others, are
the texts of the trace. -/
theorem reads_of_shown {v : Workspace} {t : Trace} {text : Handle → Except Fault String}
    (reads : Attribution.Reads text t) (shown : ∀ e ∈ t, v.Shows handles e) :
    Attribution.Reads (fun h => if h ∈ handles then v.text h else text h) t := by
  intro h reply told
  dsimp only
  split
  · next file => exact shown _ told file
  · exact reads h reply told

/-- A thread that takes snapshots of files, or attributes lines to them, sees one state of the
files, whatever editors do meanwhile: there is one moment of the run such that the texts that it
was told are those of the moment, every snapshot mirrors the files as they were then, and every
offset is one in the text that the file had then. -/
theorem sees_one_state :
    (∀ (scratch : Option String) (cancellable : Bool) (made : List Snapshot)
      (s : Desk θ (List Snapshot × Except Fault Unit)),
      Leads me handles (start w (Snapshot.makeAll scratch cancellable handles)) s →
      s.rest = .done (made, .ok ()) →
      made.map Snapshot.handle = handles ∧
      ∃ u, Leads me handles (start w (Snapshot.makeAll scratch cancellable handles)) u ∧
        Leads me handles u s ∧ (∀ e ∈ s.past, u.world.Shows handles e) ∧
        ∀ x ∈ made, Mirrors me handles
          (start w (Snapshot.makeAll scratch cancellable handles)) s u.world x) ∧
    ∀ (setup : Attribution.Setup) (mapping : Table String Handle) (lines : List String)
      (out : Table Handle (List Diagnostic)) (s : Desk θ (Except Fault (Table Handle (List Diagnostic)))),
      setup.withDocuments = true → (∀ entry ∈ mapping, entry.2 ∈ handles) →
      Leads me handles (start w (Attribution.ofLines setup mapping lines).attempt) s →
      s.rest = .done (.ok out) →
      ∃ u, Leads me handles (start w (Attribution.ofLines setup mapping lines).attempt) u ∧
        Leads me handles u s ∧ (∀ e ∈ s.past, u.world.Shows handles e) ∧
        ∀ entry ∈ out, ∀ d ∈ entry.2, d.file = entry.1 ∧
          Attribution.offsetIn setup (Attribution.shownText (u.world.text entry.1)) d.line
            d.column = .ok d.offset := by
  constructor
  · intro scratch cancellable made s reached ended
    have run := reached.run_past ended
    obtain ⟨t, past, each⟩ := Snapshot.runs_makeAll_ok run
    have files := Snapshot.map_handle_of_makeEach each
    have stays := (each.about (Snapshot.makeEach_asks scratch cancellable [] handles)).not_unlock
      (by decide)
    obtain ⟨u, before, after, shown⟩ := reached.shown past stays
    refine ⟨files, u, before, after, shown, fun x hx => ?_⟩
    have inside : t ⊆ s.past := by
      rw [past]
      exact List.subset_cons_of_subset _ (List.subset_append_left _ _)
    exact reached.mirrors ((Snapshot.drawn_of_makeEach each x hx).mono inside) shown
      (files ▸ List.mem_map_of_mem hx)
  · intro setup mapping lines out s documents known reached ended
    have run := reached.run_past ended
    obtain ⟨t, past, adding⟩ := Attribution.runs_ofLines_locked documents run
    have stays := (adding.about (Attribution.addLines_asks _ _ _ _ _)).not_unlock (by decide)
    obtain ⟨u, before, after, shown⟩ := reached.shown past stays
    refine ⟨u, before, after, shown, fun entry he d hd => ?_⟩
    obtain ⟨text, reads⟩ := Attribution.exists_reads_ofLines run
    obtain ⟨found, rfl, each⟩ := Attribution.runs_ofLines run (reads_of_shown reads shown)
    obtain ⟨e, he', rfl⟩ := List.mem_map.1 he
    have file : e.1 ∈ handles := by
      obtain ⟨entry, hentry, rfl⟩ := List.mem_map.1 (Table.mem_of_mem_ofPairs he')
      exact known entry hentry
    obtain ⟨parts, -, made⟩ := Attribution.mem_of_mapM_ok (each e.1) hd
    rw [if_pos file] at made
    obtain ⟨-, -, offset, same, -⟩ := Attribution.diagnosticOf_eq_ok_iff.1 made
    exact ⟨same, offset⟩

/-! ### An editor who has to wait -/

/-- What is to happen next in a run that is tried out. -/
inductive Turn (θ : Type) where
  /-- The thread that reads goes on. -/
  | goes
  /-- Another thread asks to write. -/
  | asks (t : θ)
  /-- Another thread looks again. -/
  | looks (t : θ)
  /-- Another thread edits. -/
  | edits (t : θ) (path text : String)
  /-- Another thread leaves. -/
  | leaves (t : θ)

/-- The thread looks at the lock, if it is its turn to look. -/
def look? (me : θ) (l : Lock θ) : Option (Lock θ) :=
  match l.stance? me with
  | none => some (l.askRead me)
  | some .readerAwake => some (l.recheck me)
  | some _ => none

/-- The thread that reads goes on, answered from the workspace. -/
def go? (me : θ) (handles : List Handle) (s : Desk θ α) : Option (Desk θ α) :=
  match s.rest with
  | .done _ => none
  | .ask .lock next =>
    (look? me s.lock).map fun l =>
      if l.stance? me = some .reading then
        { s with lock := l }.after ⟨.lock, .ok ()⟩ (next (.ok ()))
      else { s with lock := l }
  | .ask .unlock next =>
    some ({ s with lock := s.lock.leave me }.after ⟨.unlock, .ok ()⟩ (next (.ok ())))
  | .ask r next =>
    let (reply, w) := s.world.reply Request.nothing r
    if r.concern ∈ [Concern.text, .copy, .token, .log] ∧
        ∀ path ∈ Exchange.copy? ⟨r, reply⟩,
          s.world.keepsApart handles path = true ∧ w.keepsApart handles path = true then
      some ({ s with world := w }.after ⟨r, reply⟩ (next reply))
    else none

/-- A turn is taken, if it can be taken. -/
def take? (me : θ) (handles : List Handle) (s : Desk θ α) : Turn θ → Option (Desk θ α)
  | .goes => go? me handles s
  | .asks t =>
    if t ≠ me ∧ s.lock.stance? t = none then some { s with lock := s.lock.askWrite t } else none
  | .looks t => if t ≠ me then some { s with lock := s.lock.recheck t } else none
  | .edits t path text =>
    if t ≠ me ∧ s.lock.stance? t = some .writing then
      some { s with world := { s.world with
        documents := (s.world.documents.edit s.world.cwd path text none).2 } }
    else none
  | .leaves t => if t ≠ me then some { s with lock := s.lock.leave t } else none

/-- Surroundings that answer from a workspace attend to a thread that reads. -/
theorem attends_reply {r : Request} (asked : r.concern ∈ [Concern.text, .copy, .token, .log])
    (apart : ∀ path ∈ Exchange.copy? ⟨r, (w.reply Request.nothing r).1⟩,
      w.keepsApart handles path = true ∧
        (w.reply Request.nothing r).2.keepsApart handles path = true) :
    Attends handles w ⟨r, (w.reply Request.nothing r).1⟩ (w.reply Request.nothing r).2 := by
  cases touches : Exchange.copy? ⟨r, (w.reply Request.nothing r).1⟩ with
  | some path =>
    obtain ⟨before, after⟩ := apart path touches
    exact .copy touches (w.served_reply Request.nothing r) before after
  | none =>
    cases r with
    | currentText | diskText | encoding => exact .document rfl
    | isCancelled | log => exact .quiet (by simp [Request.concern])
    | writeTemporary | remove => cases touches
    | createTemporary stem extension directory =>
      unfold Workspace.reply at touches ⊢
      dsimp only at touches ⊢
      split
      · split
        · simp_all [Exchange.copy?]
        · exact .uncreated
      · exact .uncreated
    | _ => simp [Request.concern] at asked

/-- A thread that looks at the lock may do so. -/
theorem looks_of_look? {l l' : Lock θ} (looked : look? me l = some l') : Lock.Looks me l l' := by
  unfold look? at looked
  split at looked
  · next outside =>
    cases looked
    exact .first outside
  · next awake =>
    cases looked
    exact .again awake
  · cases looked

/-- When the thread goes on a step is made. -/
theorem step_of_go? {s s' : Desk θ α} (went : go? me handles s = some s') :
    Step me handles s s' := by
  unfold go? at went
  split at went
  · cases went
  · next next asks =>
    obtain ⟨l, looked, rfl⟩ := Option.map_eq_some_iff.1 went
    split
    · next reads => exact .enters asks (looks_of_look? looked) reads
    · next waits => exact .waits asks (looks_of_look? looked) waits
  · next next asks =>
    cases went
    exact .leaves asks
  · next r next _ _ asks =>
    dsimp only at went
    split at went
    · next may =>
      cases went
      exact .answered asks (attends_reply may.1 may.2)
    · cases went

/-- When a turn is taken a step is made. -/
theorem step_of_take? {s s' : Desk θ α} {turn : Turn θ} (took : take? me handles s turn = some s') :
    Step me handles s s' := by
  cases turn with
  | goes => exact step_of_go? took
  | asks t =>
    obtain ⟨⟨other, outside⟩, same⟩ := Option.ite_none_right_eq_some.1 took
    cases same
    exact .moves other (.askWrite outside)
  | looks t =>
    obtain ⟨other, same⟩ := Option.ite_none_right_eq_some.1 took
    cases same
    exact .moves other (.recheck _)
  | edits t path text =>
    obtain ⟨⟨other, writes⟩, same⟩ := Option.ite_none_right_eq_some.1 took
    cases same
    exact .edits other writes (.edit _ _ _ _)
  | leaves t =>
    obtain ⟨other, same⟩ := Option.ite_none_right_eq_some.1 took
    cases same
    exact .moves other (.leave _)

/-- Whatever turns are taken, the state is reached. -/
theorem leads_of_turns {turns : List (Turn θ)} {s s' : Desk θ α}
    (took : turns.foldlM (take? me handles) s = some s') : Leads me handles s s' := by
  induction turns generalizing s with
  | nil =>
    cases took
    exact .refl
  | cons turn rest ih =>
    rw [List.foldlM_cons] at took
    obtain ⟨next, first, others⟩ := Option.bind_eq_some_iff.1 took
    exact (ih others).head (step_of_take? first)

/-- The result of a program that is over. -/
def result? : Program α → Option α
  | .done a => some a
  | .ask _ _ => none

omit [DecidableEq θ] in
/-- A program that has a result is over. -/
theorem rest_of_result? {s : Desk θ α} {a : α} (finished : result? s.rest = some a) :
    s.rest = .done a := by
  cases rest : s.rest with
  | done b =>
    rw [rest] at finished
    cases finished
    rfl
  | ask r next =>
    rw [rest] at finished
    cases finished

/-- The file whose text is told in an exchange, and the text. -/
def textTold? : Exchange → Option (Handle × String)
  | ⟨.currentText h, .ok text⟩ => some (h, text)
  | _ => none

/-- A file whose text is told has this text in a workspace that was shown. -/
theorem text_of_told {t : Trace} {v : Workspace} {h : Handle} {text : String}
    (shown : ∀ e ∈ t, v.Shows handles e) (told : t.filterMap textTold? = [(h, text)])
    (file : h ∈ handles) : v.text h = .ok text := by
  have once : (h, text) ∈ t.filterMap textTold? := told ▸ List.mem_singleton_self _
  obtain ⟨⟨r, reply⟩, he, same⟩ := List.mem_filterMap.1 once
  cases r with
  | currentText k =>
    cases reply with
    | ok s =>
      cases same
      exact (shown _ he file).symm
    | error fault => cases same
  | _ => cases same

/-- A file that an editor is at work on. -/
def edited : Handle := { path := "/p/b.py" }

/-- The editor is inside when the thread comes, edits, and leaves; he comes again while the thread
is inside, has to wait, and edits when it has left.  Meanwhile the thread goes on. -/
def aroundEdits (middle : List (Turn Nat)) : List (Turn Nat) :=
  [.asks 1, .goes, .edits 1 "/p/b.py" "new", .leaves 1, .goes, .goes, .asks 1] ++ middle ++
    [.goes, .looks 1, .edits 1 "/p/b.py" "later"]

deriving instance DecidableEq for Except

/-- What the thread does: it takes a snapshot of the file. -/
def takesSnapshot : Desk Nat (List Snapshot × Except Fault Unit) :=
  start (Scan.twoBefore false) (Snapshot.makeAll none false [edited])

/-- Documents are at hand. -/
def withDocuments : Attribution.Setup :=
  { tabWidth := 4, cwd := "/p", base := none, withDocuments := true }

/-- What the thread does: it attributes a line to the file. -/
def attributesLine : Desk Nat (Except Fault (Table Handle (List Diagnostic))) :=
  start (Scan.twoBefore false)
    (Attribution.ofLines withDocuments [("/p/b.py", edited)] ["b.py:1:2: error: x [y]"]).attempt

/-- The result of a thread, the texts that it was told, and the text of the file now. -/
structure Glimpse (α : Type) where
  result : Option α
  told : List (Handle × String)
  now : Except Fault String
deriving DecidableEq

omit [DecidableEq θ] in
/-- What can be seen of a state. -/
def glimpse (s : Desk θ α) : Glimpse α where
  result := result? s.rest
  told := s.past.filterMap textTold?
  now := s.world.text edited

/-- A thread that is told the text of the file between two edits. -/
structure Between (d s u : Desk Nat α) : Prop where
  reached : Leads 0 [edited] d s
  before : d.world.text edited = .ok "y\nz"
  seen : u.world.text edited = .ok "new"
  after : s.world.text edited = .ok "later"

/-- A snapshot and an offset of a file are those of the text that it had when the thread was
inside, not of the one that it had before or has now. -/
theorem edits_wait_for_reader :
    (∃ s u made, Between takesSnapshot s u ∧ s.rest = .done (made, .ok ()) ∧
      made.map Snapshot.path = ["/tmp/b_00000000.py"] ∧
      ∀ x ∈ made, Mirrors 0 [edited] takesSnapshot s u.world x) ∧
    ∃ s u out, Between attributesLine s u ∧ s.rest = .done (.ok out) ∧
      out.map (fun entry => (entry.1, entry.2.map Diagnostic.offset)) = [(edited, [some 1])] ∧
      ∀ entry ∈ out, ∀ d ∈ entry.2, d.file = entry.1 ∧
        Attribution.offsetIn withDocuments (Attribution.shownText (u.world.text entry.1)) d.line
          d.column = .ok d.offset := by
  have before : (Scan.twoBefore false).text edited = .ok "y\nz" := by decide +kernel
  have only : edited ∈ [edited] := List.mem_singleton_self edited
  constructor
  · have played : ((aroundEdits [.goes, .goes, .goes, .goes]).foldlM (take? 0 [edited])
        takesSnapshot).map glimpse = some
          { result := some ([{ handle := edited, path := "/tmp/b_00000000.py", temporary := true }],
              .ok ())
            told := [(edited, "new")], now := .ok "later" } := by
      decide +kernel
    obtain ⟨s, took, all⟩ := Option.map_eq_some_iff.1 played
    have ended := rest_of_result? (congrArg Glimpse.result all)
    have told : s.past.filterMap textTold? = [(edited, "new")] := congrArg Glimpse.told all
    have reached := leads_of_turns took
    obtain ⟨-, u, -, -, shown, mirrors⟩ := sees_one_state.1 none false _ s reached ended
    exact ⟨s, u, _, ⟨reached, before, text_of_told shown told only, congrArg Glimpse.now all⟩,
      ended, rfl, mirrors⟩
  · have played : ((aroundEdits []).foldlM (take? 0 [edited]) attributesLine).map glimpse = some
          { result := some (.ok [(edited, [{ file := edited, line := 1, column := 2
                                             offset := some 1, severity := .error
                                             message := "x", code := some "y" }])])
            told := [(edited, "new")], now := .ok "later" } := by
      decide +kernel
    obtain ⟨s, took, all⟩ := Option.map_eq_some_iff.1 played
    have ended := rest_of_result? (congrArg Glimpse.result all)
    have told : s.past.filterMap textTold? = [(edited, "new")] := congrArg Glimpse.told all
    have reached := leads_of_turns took
    obtain ⟨u, -, -, shown, offsets⟩ :=
      sees_one_state.2 withDocuments _ _ _ s rfl (by simp) reached ended
    exact ⟨s, u, _, ⟨reached, before, text_of_told shown told only, congrArg Glimpse.now all⟩,
      ended, rfl, offsets⟩

end Desk

end LiveCheck
