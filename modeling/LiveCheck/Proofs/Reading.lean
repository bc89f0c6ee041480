import Mathlib.Logic.Relation
import LiveCheck.Proofs.Disk.Elsewhere
import LiveCheck.Proofs.Lock.Threads
import LiveCheck.Proofs.Scratch

/-!
# Reading among editors

A thread reads documents under their lock, one request after the other, and makes copies of files
on the way.  Between any two of its requests other threads may come to the lock, wait there and
leave it; those that are inside alone edit, discard and save; and on the rest of the disk anything
may happen, as long as nobody but an editor who saves changes the files that are read.

While the thread is in its section nobody else writes, so the files stay as they were when it came
in (`Leads.same`), and all that the thread is told in one section shows the state of one moment of
the run (`Leads.one_state`).
-/

namespace LiveCheck

open Program (Exchange Runs)

/-! ### What is read, and what is done to it -/

/-- The text of a file on the disk. -/
def Workspace.saved (w : Workspace) (h : Handle) : Except Fault (Option String) :=
  w.documents.diskText w.disk w.cwd h

/-- The text of a file on the disk is the one that is there. -/
theorem Answered.saved_eq {w w' : Workspace} {h : Handle} {reply : Except Fault (Option String)}
    (answered : Answered w ⟨.diskText h, reply⟩ w') : reply = w.saved h :=
  (congrArg Prod.fst
    (Option.some.inj (answered.answer_eq (by simp [Request.concern]) (by simp)))).symm

/-- The two texts of a file that are told are those that it has. -/
theorem Follows.texts {w w' : Workspace} {h : Handle} {current : String} {onDisk : Option String}
    (follows : Follows w [⟨.currentText h, .ok current⟩, ⟨.diskText h, .ok onDisk⟩] w') :
    w' = w ∧ w.text h = .ok current ∧ w.saved h = .ok onDisk := by
  cases follows with
  | cons first rest =>
  cases rest with
  | cons second rest =>
  cases rest
  have now : .ok current = w.text h := first.text_eq
  obtain rfl := (first.eq (by simp [Request.concern])).symm
  exact ⟨second.eq (by simp [Request.concern]), now.symm, second.saved_eq.symm⟩

/-- The files are the same in both workspaces: in the editor, and on the disk. -/
structure Same (handles : List Handle) (w w' : Workspace) : Prop where
  cwd : w'.cwd = w.cwd
  documents : w'.documents = w.documents
  files : ∀ h ∈ handles, w'.disk.lookUp? w.cwd h.path = w.disk.lookUp? w.cwd h.path

namespace Same

variable {handles : List Handle} {h : Handle} {u v w : Workspace}

/-- Files are the same as themselves. -/
theorem refl (w : Workspace) : Same handles w w := ⟨rfl, rfl, fun _ _ => rfl⟩

/-- Files that stay the same twice stay the same. -/
theorem trans (h₁ : Same handles u v) (h₂ : Same handles v w) : Same handles u w where
  cwd := h₂.cwd.trans h₁.cwd
  documents := h₂.documents.trans h₁.documents
  files h hh := by
    have second := h₂.files h hh
    rw [h₁.cwd] at second
    exact second.trans (h₁.files h hh)

/-- The same file has the same text on the disk. -/
theorem saved_eq (same : Same handles u v) (hh : h ∈ handles) : v.saved h = u.saved h := by
  unfold Workspace.saved
  rw [same.documents, same.cwd]
  exact Documents.diskText_congr (same.files h hh)

/-- The same file has the same text in the editor. -/
theorem text_eq (same : Same handles u v) (hh : h ∈ handles) : v.text h = u.text h := by
  unfold Workspace.text
  rw [same.documents, same.cwd]
  exact Documents.currentText_congr (same.files h hh)

end Same

/-- What an editor does in his section. -/
inductive Edits : Workspace → Workspace → Prop where
  | edit (w : Workspace) (path text : String) (encoding : Option String) :
      Edits w { w with documents := (w.documents.edit w.cwd path text encoding).2 }
  | discard (w : Workspace) (h : Handle) :
      Edits w { w with documents := w.documents.discard h }
  | save (w : Workspace) (h : Handle) :
      Edits w { w with documents := (w.documents.save w.disk w.cwd h).2.1
                       disk := (w.documents.save w.disk w.cwd h).2.2 }

/-- Have the files nothing to do with a path?  What it leads to, if anything, is a file, and not one
of theirs. -/
def Workspace.keepsApart (w : Workspace) (handles : List Handle) (path : String) : Bool :=
  match w.disk.locate w.cwd path false with
  | .ok (.found place) =>
    (match w.disk.entry? place with
      | some (.file _) => true
      | _ => false) &&
      handles.all fun h => w.disk.locate w.cwd h.path true ≠ .ok (.found place)
  | _ => true

/-- What a path leads to that the files have nothing to do with. -/
theorem Workspace.keepsApart_spec {w : Workspace} {handles : List Handle} {path : String}
    {place : Place} (apart : w.keepsApart handles path = true) (leads : w.Leads path place) :
    (∃ bytes, w.disk.entry? place = some (.file bytes)) ∧
      ∀ h ∈ handles, w.disk.locate w.cwd h.path true ≠ .ok (.found place) := by
  have found : w.disk.locate w.cwd path false = .ok (.found place) := leads
  unfold keepsApart at apart
  rw [found] at apart
  obtain ⟨file, others⟩ := Bool.and_eq_true_iff.1 apart
  constructor
  · split at file
    · exact ⟨_, ‹_›⟩
    · cases file
  · intro h hh
    exact of_decide_eq_true (List.all_eq_true.1 others h hh)

/-- The path of the copy that an exchange creates, writes or removes. -/
def Program.Exchange.copy? : Exchange → Option String
  | ⟨.createTemporary _ _ _, .ok path⟩ => some path
  | ⟨.writeTemporary path _ _, _⟩ | ⟨.remove path, _⟩ => some path
  | _ => none

/-- How a request is answered while files are read, and the workspace afterwards.  Documents answer
for themselves.  Copies are made and removed on the disk, under paths that the files have nothing
to do with. -/
inductive Attends (handles : List Handle) : Workspace → Exchange → Workspace → Prop where
  | document {w : Workspace} {r : Request} {reply : r.Reply}
      (answer : w.answer? r = some (reply, w)) : Attends handles w ⟨r, reply⟩ w
  | copy {w w' : Workspace} {e : Exchange} {path : String} (touches : e.copy? = some path)
      (served : Served (fun _ => True) Eq w e w') (before : w.keepsApart handles path = true)
      (after : w'.keepsApart handles path = true) : Attends handles w e w'
  | uncreated {w : Workspace} {stem extension : String} {directory : Option String}
      {fault : Fault} :
      Attends handles w ⟨.createTemporary stem extension directory, .error fault⟩ w
  | quiet {w : Workspace} {r : Request} {reply : r.Reply}
      (asked : r.concern ∈ [Concern.token, .log]) : Attends handles w ⟨r, reply⟩ w

/-- An exchange that shows the files as they are in this workspace. -/
def Workspace.Shows (w : Workspace) (handles : List Handle) : Exchange → Prop
  | ⟨.currentText h, reply⟩ => h ∈ handles → reply = w.text h
  | ⟨.diskText h, reply⟩ => h ∈ handles → reply = w.saved h
  | ⟨.encoding h, reply⟩ => reply = .ok (w.documents.encodingOf h)
  | _ => True

section Answers

variable {handles : List Handle} {e : Exchange} {u v w w' : Workspace} {path : String}

/-- A file that is filled leaves all other files alone. -/
theorem same_fill {place : Place} (leads : w.Leads path place)
    (apart : w.keepsApart handles path = true) (content : List UInt8) :
    Same handles w { w with disk := w.disk.fill place content } := by
  obtain ⟨⟨bytes, file⟩, others⟩ := Workspace.keepsApart_spec apart leads
  have filled := Disk.lookup_fill file content
  have but : Disk.SameBut place w.disk (w.disk.fill place content) :=
    { file := ⟨bytes, file⟩
      left := .inr ⟨content, (filled place).trans (if_pos rfl)⟩
      same := fun q other => (filled q).trans (if_neg other) }
  exact ⟨rfl, rfl, fun h hh => but.lookUp?_eq (others h hh)⟩

/-- A file that is created leaves all other files alone. -/
theorem same_create {place : Place} {disk : Disk} {nextTemporary : Nat}
    (create : w.disk.create w.cwd path = .ok (place, disk))
    (apart : { w with disk, nextTemporary }.keepsApart handles path = true) :
    Same handles w { w with disk, nextTemporary } := by
  obtain ⟨missing, rfl, -, there⟩ := Disk.create_eq create
  obtain ⟨file, others⟩ := Workspace.keepsApart_spec apart there
  have root : place ≠ [] := by
    rintro rfl
    cases missing
  have but : Disk.SameBut place (w.disk.putEntry place (.file [])) w.disk :=
    { file
      left := .inl missing
      same := fun q other => by
        rw [Disk.lookup_putEntry, if_neg other]
        split
        · next here =>
          rw [here]
          rfl
        · rfl }
  exact ⟨rfl, rfl, fun h hh => (but.lookUp?_eq (others h hh)).symm⟩

/-- A file that is removed leaves all other files alone. -/
theorem same_remove {disk : Disk} (remove : w.disk.remove w.cwd path = .ok disk)
    (apart : w.keepsApart handles path = true) : Same handles w { w with disk } := by
  obtain ⟨place, leads, gone⟩ := Disk.remove_eq remove
  obtain ⟨file, others⟩ := Workspace.keepsApart_spec apart leads
  have missing : disk.entry? place = none := (gone place).trans (if_pos rfl)
  have but : Disk.SameBut place w.disk disk :=
    { file, left := .inl missing, same := fun q other => (gone q).trans (if_neg other) }
  exact ⟨rfl, rfl, fun h hh => but.lookUp?_eq (others h hh)⟩

/-- What a thread is answered while it reads leaves the files alone. -/
theorem Attends.same (attends : Attends handles w e w') : Same handles w w' := by
  cases attends with
  | document | uncreated | quiet => exact .refl w
  | copy touches served before after =>
    cases served with
    | created inside create =>
      cases touches
      exact same_create create after
    | uncreated | encoding => cases touches
    | written write =>
      cases touches
      obtain ⟨bytes, -, ⟨place, leads, rfl⟩ | ⟨-, rfl⟩⟩ := Workspace.writeTemporary_spec write
      · exact same_fill leads before bytes
      · exact .refl _
    | unwritten | unremoved => exact .refl w
    | spoilt leads =>
      cases touches
      exact same_fill leads before _
    | removed remove =>
      cases touches
      exact same_remove remove before
    | other asked outside =>
      obtain rfl := outside
      exact .refl w

/-- What a thread is answered shows the files as they are. -/
theorem Attends.shows (attends : Attends handles w e w') : w.Shows handles e := by
  cases attends with
  | @document r reply answer =>
    cases r with
    | currentText h => exact fun _ => (congrArg Prod.fst (Option.some.inj answer)).symm
    | diskText h => exact fun _ => (congrArg Prod.fst (Option.some.inj answer)).symm
    | encoding h => exact (congrArg Prod.fst (Option.some.inj answer)).symm
    | _ => exact True.intro
  | copy touches served =>
    obtain ⟨r, reply⟩ := e
    cases r with
    | currentText | diskText | encoding => cases touches
    | _ => exact True.intro
  | uncreated => exact True.intro
  | @quiet r reply asked =>
    cases r with
    | currentText | diskText | encoding => simp [Request.concern] at asked
    | _ => exact True.intro

/-- What is said to be written is written. -/
theorem Attends.writes {text encoding : String}
    (attends : Attends handles w ⟨.writeTemporary path text encoding, .ok ()⟩ w') :
    w.writeTemporary path text encoding = (.ok (), w') := by
  cases attends with
  | document answer => exact Option.some.inj answer
  | copy touches served =>
    cases served with
    | written write => exact write
    | other asked => exact absurd rfl asked
  | quiet asked => simp [Request.concern] at asked

/-- The lock is not asked of the documents. -/
theorem Attends.concern_ne (attends : Attends handles w e w') : e.request.concern ≠ .lock := by
  cases attends with
  | @document r reply answer =>
    cases r with
    | lock | unlock => cases answer
    | _ => simp [Request.concern]
  | copy touches served =>
    obtain ⟨r, reply⟩ := e
    cases r with
    | lock | unlock => cases touches
    | _ => simp [Request.concern]
  | uncreated => simp [Request.concern]
  | quiet asked =>
    intro lock
    rw [lock] at asked
    simp at asked

/-- An exchange that shows the files shows all files that are the same. -/
theorem Same.shows (same : Same handles u v) (shows_ : v.Shows handles e) :
    u.Shows handles e := by
  obtain ⟨r, reply⟩ := e
  cases r with
  | currentText h => exact fun hh => (shows_ hh).trans (same.text_eq hh)
  | diskText h => exact fun hh => (shows_ hh).trans (same.saved_eq hh)
  | encoding h =>
    change reply = .ok (u.documents.encodingOf h)
    rw [← same.documents]
    exact shows_
  | _ => exact True.intro

end Answers

/-! ### Steps -/

/-- A thread at work: the lock and the workspace that it shares with others, what it has been
answered, and what it goes on with. -/
structure Desk (θ α : Type) where
  lock : Lock θ
  world : Workspace
  past : Trace
  rest : Program α

namespace Desk

variable {θ α : Type} [DecidableEq θ]

omit [DecidableEq θ] in
/-- In the beginning nobody is at the lock. -/
def start (w : Workspace) (p : Program α) : Desk θ α :=
  { lock := {}, world := w, past := [], rest := p }

omit [DecidableEq θ] in
/-- The thread is answered and goes on. -/
def after (s : Desk θ α) (e : Exchange) (rest : Program α) : Desk θ α :=
  { s with past := s.past ++ [e], rest }

/-- What happens next, to the thread or around it. -/
inductive Step (me : θ) (handles : List Handle) : Desk θ α → Desk θ α → Prop where
  /-- Another thread does something at the lock. -/
  | moves {s : Desk θ α} {t : θ} {l : Lock θ} (other : t ≠ me) (moves : Lock.Moves t s.lock l) :
      Step me handles s { s with lock := l }
  /-- Another thread edits in its section. -/
  | edits {s : Desk θ α} {t : θ} {w : Workspace} (other : t ≠ me)
      (writes : s.lock.stance? t = some .writing) (edits : Edits s.world w) :
      Step me handles s { s with world := w }
  /-- Something happens that does not touch the files. -/
  | others {s : Desk θ α} {w : Workspace} (same : Same handles s.world w) :
      Step me handles s { s with world := w }
  /-- The thread wants to read and has to wait. -/
  | waits {s : Desk θ α} {l : Lock θ} {next : Except Fault Unit → Program α}
      (asks : s.rest = .ask .lock next) (looks : Lock.Looks me s.lock l)
      (waits : l.stance? me ≠ some .reading) : Step me handles s { s with lock := l }
  /-- The thread wants to read and comes in. -/
  | enters {s : Desk θ α} {l : Lock θ} {next : Except Fault Unit → Program α}
      (asks : s.rest = .ask .lock next) (looks : Lock.Looks me s.lock l)
      (reads : l.stance? me = some .reading) :
      Step me handles s ({ s with lock := l }.after ⟨.lock, .ok ()⟩ (next (.ok ())))
  /-- The thread ends its section. -/
  | leaves {s : Desk θ α} {next : Except Fault Unit → Program α}
      (asks : s.rest = .ask .unlock next) :
      Step me handles s
        ({ s with lock := s.lock.leave me }.after ⟨.unlock, .ok ()⟩ (next (.ok ())))
  /-- The thread is answered. -/
  | answered {s : Desk θ α} {r : Request} {reply : r.Reply} {next : r.Reply → Program α}
      {w : Workspace} (asks : s.rest = .ask r next)
      (attends : Attends handles s.world ⟨r, reply⟩ w) :
      Step me handles s ({ s with world := w }.after ⟨r, reply⟩ (next reply))

/-- What can happen from one state to another. -/
def Leads (me : θ) (handles : List Handle) : Desk θ α → Desk θ α → Prop :=
  Relation.ReflTransGen (Step me handles)

variable {me : θ} {handles : List Handle} {s s' : Desk θ α} {w : Workspace} {p : Program α}

/-! ### One step -/

/-- The lock does nothing, or one of its own steps. -/
theorem Step.lock (step : Step me handles s s') :
    s'.lock = s.lock ∨ Lock.Step s.lock s'.lock := by
  cases step with
  | moves other moves => exact .inr moves.step
  | waits asks looks | enters asks looks => exact .inr looks.moves.1.step
  | leaves => exact .inr (.leave me)
  | edits | others | answered => exact .inl rfl

/-- The thread is told one thing, or nothing. -/
theorem Step.past (step : Step me handles s s') :
    s'.past = s.past ∨ ∃ e, s'.past = s.past ++ [e] := by
  cases step with
  | moves | edits | others | waits => exact .inl rfl
  | enters | leaves | answered => exact .inr ⟨_, rfl⟩

/-- A thread that is told that it may read is inside. -/
theorem Step.reads (step : Step me handles s s')
    (told : s'.past = s.past ++ [⟨.lock, .ok ()⟩]) : s'.lock.stance? me = some .reading := by
  cases step with
  | moves | edits | others | waits => simp at told
  | enters asks looks reads => exact reads
  | leaves => simp [after] at told
  | @answered r reply next w asks attends =>
    have same := List.head_eq_of_cons_eq (List.append_cancel_left told)
    have asked := attends.concern_ne
    rw [same] at asked
    exact absurd rfl asked

/-- Whatever happens around a thread that is inside, and whatever it is answered, it stays inside
and the files stay the same, unless it leaves. -/
theorem Step.inside (step : Step me handles s s') (sound : s.lock.Sound)
    (reads : s.lock.stance? me = some .reading) :
    s'.past = s.past ++ [⟨.unlock, .ok ()⟩] ∨
      s'.lock.stance? me = some .reading ∧ Same handles s.world s'.world ∧
        ∀ e, s'.past = s.past ++ [e] → s.world.Shows handles e := by
  cases step with
  | moves other moves =>
    refine .inr ⟨(moves.undisturbed (Ne.symm other)).reading_iff.2 reads, .refl _, ?_⟩
    simp
  | edits other writes => exact absurd writes (sound.not_writing reads _)
  | others same =>
    refine .inr ⟨reads, same, ?_⟩
    simp
  | waits asks looks | enters asks looks => exact absurd reads looks.moves.2
  | leaves => exact .inl rfl
  | answered asks attends =>
    refine .inr ⟨reads, attends.same, fun e told => ?_⟩
    obtain rfl := List.head_eq_of_cons_eq (List.append_cancel_left told)
    exact attends.shows

/-- Whatever a thread is told of documents and copies was answered by the workspace. -/
theorem Step.attends {e : Exchange} (step : Step me handles s s')
    (told : s'.past = s.past ++ [e]) (asked : e.request.concern ≠ .lock) :
    Attends handles s.world e s'.world := by
  cases step with
  | moves | edits | others | waits => simp at told
  | enters | leaves =>
    obtain rfl := List.head_eq_of_cons_eq (List.append_cancel_left told)
    exact absurd rfl asked
  | answered asks attends =>
    obtain rfl := List.head_eq_of_cons_eq (List.append_cancel_left told)
    exact attends

/-! ### A run -/

/-- The lock stays in order. -/
theorem Leads.sound (reached : Leads me handles (start w p) s) : s.lock.Sound := by
  induction reached with
  | refl => exact Lock.Reachable.sound .refl
  | tail _ step ih =>
    rcases step.lock with same | moved
    · rw [same]
      exact ih
    · exact ih.step moved

/-- What the thread has been told, and what it will be told, is a run of its program. -/
theorem Leads.run (reached : Leads me handles (start w p) s) {t : Trace} {a : α}
    (run : Runs s.rest t a) : Runs p (s.past ++ t) a := by
  induction reached generalizing t with
  | refl => exact run
  | tail _ step ih =>
    cases step with
    | moves | edits | others | waits => exact ih run
    | enters asks | leaves asks | answered asks =>
      change Runs p (_ ++ [_] ++ t) a
      rw [List.append_assoc]
      exact ih (asks ▸ Runs.ask _ run)

/-- When its program is over, what the thread has been told is a run of it. -/
theorem Leads.run_past (reached : Leads me handles (start w p) s) {a : α}
    (ended : s.rest = .done a) : Runs p s.past a := by
  have last : Runs s.rest [] a := by
    rw [ended]
    exact .done a
  have run := reached.run last
  rwa [List.append_nil] at run

/-- Whatever the thread was told it was told in some step. -/
theorem Leads.exists_step {x y : Trace} {e : Exchange} (reached : Leads me handles (start w p) s)
    (done : s.past = x ++ e :: y) :
    ∃ u v, Leads me handles (start w p) u ∧ Step me handles u v ∧ Leads me handles v s ∧
      u.past = x ∧ v.past = u.past ++ [e] := by
  induction reached generalizing y with
  | refl =>
    change [] = x ++ e :: y at done
    simp at done
  | @tail r s before step ih =>
    rcases step.past with same | ⟨e', told⟩
    · rw [same] at done
      obtain ⟨u, v, reached, next, rest, past⟩ := ih done
      exact ⟨u, v, reached, next, rest.tail step, past⟩
    · rw [told] at done
      rcases List.eq_nil_or_concat y with rfl | ⟨y', e'', rfl⟩
      · obtain ⟨rfl, same⟩ := List.append_inj' done rfl
        obtain rfl := List.head_eq_of_cons_eq same
        exact ⟨r, s, before, step, .refl, rfl, told⟩
      · have earlier : r.past = x ++ e :: y' := by
          rw [List.concat_eq_append, ← List.cons_append, ← List.append_assoc] at done
          exact (List.append_inj' done rfl).1
        obtain ⟨u, v, reached, next, rest, past⟩ := ih earlier
        exact ⟨u, v, reached, next, rest.tail step, past⟩

/-- Whatever the thread was told first was once all that it had been told. -/
theorem Leads.exists_past {x y : Trace} (reached : Leads me handles (start w p) s)
    (done : s.past = x ++ y) :
    ∃ u, Leads me handles (start w p) u ∧ Leads me handles u s ∧ u.past = x := by
  cases y with
  | nil =>
    rw [List.append_nil] at done
    exact ⟨s, reached, .refl, done⟩
  | cons e y =>
    obtain ⟨u, v, before, step, after, past, -⟩ := reached.exists_step done
    exact ⟨u, before, after.head step, past⟩

/-- Since the thread came in it is inside, the files are the same, and it was shown these files. -/
theorem Leads.same {a b : Trace} (reached : Leads me handles (start w p) s)
    (inside : s.past = a ++ ⟨.lock, .ok ()⟩ :: b) (stays : ∀ e ∈ b, e.request ≠ .unlock) :
    s.lock.stance? me = some .reading ∧
      ∃ u, Leads me handles (start w p) u ∧ Leads me handles u s ∧ Same handles u.world s.world ∧
        ∀ e ∈ b, u.world.Shows handles e := by
  induction reached generalizing b with
  | refl =>
    change [] = a ++ _ :: b at inside
    simp at inside
  | @tail r s before step ih =>
    have sound := Leads.sound before
    -- While nothing is told the thread stays where it is.
    rcases step.past with same | ⟨e, told⟩
    · obtain ⟨reads, u, reached, rest, files, shown⟩ := ih (same ▸ inside) stays
      rcases step.inside sound reads with left | ⟨reads', files', -⟩
      · rw [same] at left
        simp at left
      · exact ⟨reads', u, reached, rest.tail step, files.trans files', shown⟩
    rw [told] at inside
    rcases List.eq_nil_or_concat b with rfl | ⟨b', e', rfl⟩
    · -- It has just come in.
      obtain ⟨-, same⟩ := List.append_inj' inside rfl
      obtain rfl := List.head_eq_of_cons_eq same
      exact ⟨step.reads told, s, before.tail step, .refl, .refl _, by simp⟩
    · -- It was inside and was told something.
      rw [List.concat_eq_append] at inside stays ⊢
      rw [← List.cons_append, ← List.append_assoc] at inside
      obtain ⟨earlier, same⟩ := List.append_inj' inside rfl
      obtain rfl := List.head_eq_of_cons_eq same
      obtain ⟨stays', last⟩ := List.forall_mem_append.1 stays
      obtain ⟨reads, u, reached, rest, files, shown⟩ := ih earlier stays'
      rcases step.inside sound reads with left | ⟨reads', files', shows_⟩
      · have same := List.head_eq_of_cons_eq (List.append_cancel_left (told.symm.trans left))
        exact absurd (congrArg Exchange.request same) (last _ (List.mem_singleton_self _))
      · refine ⟨reads', u, reached, rest.tail step, files.trans files', ?_⟩
        refine List.forall_mem_append.2 ⟨shown, fun e' he' => ?_⟩
        obtain rfl := List.mem_singleton.1 he'
        exact files.shows (shows_ _ told)

/-- All that the thread is told in one section shows the files as they were at one moment. -/
theorem Leads.one_state {a b c : Trace} (reached : Leads me handles (start w p) s)
    (done : s.past = a ++ ⟨.lock, .ok ()⟩ :: (b ++ c)) (stays : ∀ e ∈ b, e.request ≠ .unlock) :
    ∃ u, Leads me handles (start w p) u ∧ Leads me handles u s ∧
      ∀ e ∈ b, u.world.Shows handles e := by
  rw [← List.cons_append, ← List.append_assoc] at done
  obtain ⟨v, before, after, past⟩ := reached.exists_past done
  obtain ⟨-, u, reached', rest, -, shown⟩ := before.same past stays
  exact ⟨u, reached', rest.trans after, shown⟩

end Desk

end LiveCheck
