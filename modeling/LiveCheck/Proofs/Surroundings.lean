import LiveCheck.Proofs.Attribution
import LiveCheck.Proofs.Disk
import LiveCheck.Proofs.Observed
import LiveCheck.Workspace

/-!
# Surroundings with a workspace

A trace says what a scan was answered, and most statements about scans hold for all answers.  Some
do not: that an editor names a file by its normal path, or that two temporary files never have one
name, is known of a workspace.  `Follows` relates a trace to the workspace that stood behind the
answers.  Documents and the disk answer for themselves.  A new temporary file may have any normal
path at which nothing stands.  Whoever else is asked, a listener, the tool or the user, may do
anything to the workspace meanwhile but change the current directory.
-/

namespace LiveCheck

open Program (Exchange)

/-- One answer of surroundings with a workspace, which may be another one afterwards. -/
inductive Answered : Workspace → Exchange → Workspace → Prop where
  /-- Documents and the disk answer for themselves. -/
  | file {w w' : Workspace} {r : Request} {reply : r.Reply}
      (asked : r.concern ∈ [Concern.tree, .text, .copy])
      (other : ∀ stem extension directory, r ≠ .createTemporary stem extension directory)
      (answer : w.answer? r = some (reply, w')) : Answered w ⟨r, reply⟩ w'
  /-- A temporary file is created where nothing stood. -/
  | created {w : Workspace} {stem extension : String} {directory : Option String} {path : String}
      {place : Place} {disk : Disk} {nextTemporary : Nat}
      (normal : Path.normalize w.cwd path = path)
      (create : w.disk.create w.cwd path = .ok (place, disk)) :
      Answered w ⟨.createTemporary stem extension directory, .ok path⟩
        { w with disk, nextTemporary }
  /-- No temporary file can be created. -/
  | uncreated {w : Workspace} {stem extension : String} {directory : Option String}
      {fault : Fault} {nextTemporary : Nat} :
      Answered w ⟨.createTemporary stem extension directory, .error fault⟩ { w with nextTemporary }
  /-- Nothing happens to the workspace. -/
  | quiet {w : Workspace} {r : Request} {reply : r.Reply}
      (asked : r.concern ∈ [Concern.lock, .token, .log, .phase, .call]) : Answered w ⟨r, reply⟩ w
  /-- Somebody else is asked. -/
  | outside {w w' : Workspace} {r : Request} {reply : r.Reply}
      (asked : r.concern ∈ [Concern.choice, .tool, .registry, .listener, .user])
      (cwd : w'.cwd = w.cwd) : Answered w ⟨r, reply⟩ w'

/-- A trace whose answers come from a workspace, and the workspace that is left. -/
inductive Follows : Workspace → Trace → Workspace → Prop where
  | nil (w : Workspace) : Follows w [] w
  | cons {w v w' : Workspace} {e : Exchange} {t : Trace} (head : Answered w e v)
      (tail : Follows v t w') : Follows w (e :: t) w'

/-- A trace in which nothing is removed and nobody else is asked. -/
def Trace.Adds (t : Trace) : Prop :=
  ∀ e ∈ t, e.request.concern ∈ [Concern.lock, .token, .text, .copy, .log] ∧
    ∀ path, e.request ≠ .remove path

/-- Two traces one after the other in which nothing is removed. -/
theorem Trace.adds_append {t₁ t₂ : Trace} : Trace.Adds (t₁ ++ t₂) ↔ Trace.Adds t₁ ∧ Trace.Adds t₂ :=
  List.forall_mem_append

/-- To read texts removes nothing. -/
theorem Trace.About.adds {t : Trace} {cs : List Concern} (h : Trace.About cs t)
    (hcs : (cs.all fun c => [Concern.lock, .token, .text, .log].elem c) = true) :
    Trace.Adds t := by
  intro e he
  have about : e.request.concern ∈ [Concern.lock, .token, .text, .log] :=
    List.mem_of_elem_eq_true (List.all_eq_true.1 hcs _ (h e he))
  refine ⟨?_, fun path same => ?_⟩
  · revert about
    cases e.request.concern <;> decide
  · rw [same] at about
    simp [Request.concern] at about

/-! ### One answer -/

/-- Of what a scan and the files have in common, everything but the copies is reading. -/
theorem Concern.read {c : Concern}
    (asked : c ∈ [Concern.tree, .text, .lock, .token, .log, .phase, .call])
    (file : c ∈ [Concern.tree, .text, .copy]) : c ∈ [Concern.tree, .text] := by
  revert asked file
  cases c <;> decide

/-- No request is filed under two lists that have no head in common. -/
theorem Concern.apart {c : Concern} {as bs : List Concern} (ha : c ∈ as) (hb : c ∈ bs)
    (apart : (as.all fun a => !bs.elem a) = true) : False := by
  have not := List.all_eq_true.1 apart c ha
  rw [List.elem_eq_true_of_mem hb] at not
  cases not

/-- The current directory stays as it is. -/
theorem Workspace.cwd_answer? {w w' : Workspace} {r : Request} {reply : r.Reply}
    (other : ∀ stem extension directory, r ≠ .createTemporary stem extension directory)
    (h : w.answer? r = some (reply, w')) : w'.cwd = w.cwd := by
  cases r with
  | createTemporary stem extension directory => exact absurd rfl (other stem extension directory)
  | writeTemporary path text encoding =>
    have same : (w.writeTemporary path text encoding).2 = w' :=
      congrArg Prod.snd (Option.some.inj h)
    rw [← same]
    unfold Workspace.writeTemporary
    split
    · rfl
    · split <;> rfl
  | remove path =>
    have same : (w.remove path).2 = w' := congrArg Prod.snd (Option.some.inj h)
    rw [← same]
    unfold Workspace.remove
    split <;> rfl
  | _ => cases h <;> rfl

/-- To read files leaves the workspace as it is. -/
theorem Workspace.eq_of_answer? {w w' : Workspace} {r : Request} {reply : r.Reply}
    (asked : r.concern ∈ [Concern.tree, .text]) (h : w.answer? r = some (reply, w')) : w' = w := by
  cases r with
  | children | isDirectory | resolve | realPath | directoryBound | currentText | diskText =>
    exact (congrArg Prod.snd (Option.some.inj h)).symm
  | _ => simp [Request.concern] at asked

/-- The current directory stays as it is. -/
theorem Answered.cwd_eq {w w' : Workspace} {e : Exchange} (h : Answered w e w') :
    w'.cwd = w.cwd := by
  cases h with
  | file asked other answer => exact Workspace.cwd_answer? other answer
  | created | uncreated | quiet => rfl
  | outside asked cwd => exact cwd

/-- To make and to remove copies leaves the documents as they are, too. -/
theorem Answered.documents_eq {w w' : Workspace} {e : Exchange} (h : Answered w e w')
    (asked : e.request.concern ∈ [Concern.tree, .text, .copy, .lock, .token, .log]) :
    w'.documents = w.documents := by
  cases h with
  | @file w' r reply asked' other answer =>
    cases r with
    | createTemporary stem extension directory => exact absurd rfl (other stem extension directory)
    | writeTemporary path text encoding =>
      have same : (w.writeTemporary path text encoding).2 = w' :=
        congrArg Prod.snd (Option.some.inj answer)
      rw [← same]
      unfold Workspace.writeTemporary
      split
      · rfl
      · split <;> rfl
    | remove path =>
      have same : (w.remove path).2 = w' := congrArg Prod.snd (Option.some.inj answer)
      rw [← same]
      unfold Workspace.remove
      split <;> rfl
    | _ => cases answer <;> rfl
  | created | uncreated | quiet => rfl
  | outside asked' cwd => exact (Concern.apart asked asked' (by decide)).elim

/-- What is neither about copies nor asked of somebody else leaves the workspace as it is. -/
theorem Answered.eq {w w' : Workspace} {e : Exchange} (h : Answered w e w')
    (asked : e.request.concern ∈ [Concern.tree, .text, .lock, .token, .log, .phase, .call]) :
    w' = w := by
  cases h with
  | file asked' other answer => exact Workspace.eq_of_answer? (Concern.read asked asked') answer
  | created | uncreated => simp [Request.concern] at asked
  | quiet => rfl
  | outside asked' cwd => exact (Concern.apart asked asked' (by decide)).elim

/-- What is neither a removal nor asked of somebody else leaves everything on the disk. -/
theorem Answered.extends {w w' : Workspace} {e : Exchange} (h : Answered w e w')
    (asked : e.request.concern ∈ [Concern.lock, .token, .text, .copy, .log])
    (keeps : ∀ path, e.request ≠ .remove path) : Disk.Extends w.disk w'.disk := by
  cases h with
  | @file w' r reply asked' other answer =>
    cases r with
    | createTemporary stem extension directory => exact absurd rfl (other stem extension directory)
    | remove path => exact absurd rfl (keeps path)
    | writeTemporary path text encoding =>
      have same : (w.writeTemporary path text encoding).2 = w' :=
        congrArg Prod.snd (Option.some.inj answer)
      rw [← same]
      unfold Workspace.writeTemporary
      split
      · exact Disk.Extends.refl _
      · split
        · exact Disk.extends_fill _ _ _
        · exact Disk.Extends.refl _
    | encoding k =>
      have same : w = w' := congrArg Prod.snd (Option.some.inj answer)
      rw [same]
      exact Disk.Extends.refl _
    | currentText | diskText | children | isDirectory | resolve | realPath | directoryBound =>
      rw [Workspace.eq_of_answer? (by simp [Request.concern]) answer]
      exact Disk.Extends.refl _
    | _ => simp [Request.concern] at asked'
  | created normal create => exact (Disk.create_spec create).2.2
  | uncreated | quiet => exact Disk.Extends.refl _
  | outside asked' cwd => exact (Concern.apart asked asked' (by decide)).elim

/-- A path resolves to the workspace's handle of it. -/
theorem Answered.resolved {w w' : Workspace} {path : String} {h : Handle}
    (answered : Answered w ⟨.resolve path, .ok (some h)⟩ w') : h = Handle.forPath w.cwd path := by
  cases answered with
  | file asked other answer =>
    have reply : w.documents.resolve w.disk w.cwd path = some h := by
      have same := congrArg Prod.fst (Option.some.inj answer)
      exact Except.ok.inj same
    unfold Documents.resolve at reply
    dsimp only at reply
    split at reply
    · exact (Option.some.inj reply).symm
    · cases reply
  | quiet asked => simp [Request.concern] at asked
  | outside asked cwd => simp [Request.concern] at asked

/-- A temporary file is created at a normal path where nothing stood, and stands there then. -/
theorem Answered.created_spec {w w' : Workspace} {stem extension path : String}
    {directory : Option String}
    (answered : Answered w ⟨.createTemporary stem extension directory, .ok path⟩ w') :
    Path.normalize w.cwd path = path ∧ ¬ w.disk.Occupied w.cwd path ∧
      w'.disk.Occupied w'.cwd path := by
  cases answered with
  | file asked other answer => exact absurd rfl (other stem extension directory)
  | created normal create =>
    obtain ⟨free, there, -⟩ := Disk.create_spec create
    exact ⟨normal, free, there⟩
  | quiet asked => simp [Request.concern] at asked
  | outside asked cwd => simp [Request.concern] at asked

/-- What is asked of documents and of the disk is answered from the workspace. -/
theorem Answered.answer_eq {w w' : Workspace} {r : Request} {reply : r.Reply}
    (answered : Answered w ⟨r, reply⟩ w') (asked : r.concern ∈ [Concern.tree, .text, .copy])
    (other : ∀ stem extension directory, r ≠ .createTemporary stem extension directory) :
    w.answer? r = some (reply, w') := by
  cases answered with
  | file _ _ answer => exact answer
  | created | uncreated => exact absurd rfl (other _ _ _)
  | quiet asked' => exact (Concern.apart asked asked' (by decide)).elim
  | outside asked' => exact (Concern.apart asked asked' (by decide)).elim

/-- The encoding of a file is the one that the documents know. -/
theorem Answered.encoding_eq {w w' : Workspace} {h : Handle} {reply : Except Fault String}
    (answered : Answered w ⟨.encoding h, reply⟩ w') :
    reply = .ok (w.documents.encodingOf h) ∧ w' = w := by
  have told := Option.some.inj (answered.answer_eq (by simp [Request.concern]) (by simp))
  exact ⟨(congrArg Prod.fst told).symm, (congrArg Prod.snd told).symm⟩

/-- A text is written to a temporary file on the disk. -/
theorem Answered.write_eq {w w' : Workspace} {path text encoding : String}
    {reply : Except Fault Unit}
    (answered : Answered w ⟨.writeTemporary path text encoding, reply⟩ w') :
    w.writeTemporary path text encoding = (reply, w') :=
  Option.some.inj (answered.answer_eq (by simp [Request.concern]) (by simp))

/-- A temporary file is created on the disk. -/
theorem Answered.create_eq {w w' : Workspace} {stem extension path : String}
    {directory : Option String}
    (answered : Answered w ⟨.createTemporary stem extension directory, .ok path⟩ w') :
    ∃ place disk nextTemporary, w.disk.create w.cwd path = .ok (place, disk) ∧
      w' = { w with disk, nextTemporary } := by
  cases answered with
  | file asked other answer => exact absurd rfl (other stem extension directory)
  | created normal create => exact ⟨_, _, _, create, rfl⟩
  | quiet asked => simp [Request.concern] at asked
  | outside asked => simp [Request.concern] at asked

/-- The text of a file as the editor shows it. -/
def Workspace.text (w : Workspace) (h : Handle) : Except Fault String :=
  w.documents.currentText w.disk w.cwd h

/-- The text of a file is the one that the editor shows. -/
theorem Answered.text_eq {w w' : Workspace} {h : Handle} {reply : Except Fault String}
    (answered : Answered w ⟨.currentText h, reply⟩ w') : reply = w.text h := by
  cases answered with
  | file asked other answer => exact (congrArg Prod.fst (Option.some.inj answer)).symm
  | quiet asked => simp [Request.concern] at asked
  | outside asked cwd => simp [Request.concern] at asked

/-! ### Whole traces -/

namespace Follows

variable {w w' : Workspace} {t t₁ t₂ : Trace}

/-- A workspace follows two traces one after the other. -/
theorem append_iff : Follows w (t₁ ++ t₂) w' ↔ ∃ v, Follows w t₁ v ∧ Follows v t₂ w' := by
  induction t₁ generalizing w with
  | nil =>
    constructor
    · intro h
      exact ⟨w, Follows.nil w, h⟩
    · rintro ⟨v, h₁, h₂⟩
      cases h₁
      exact h₂
  | cons e rest ih =>
    constructor
    · intro h
      cases h with
      | cons head tail =>
        obtain ⟨v, h₁, h₂⟩ := ih.1 tail
        exact ⟨v, Follows.cons head h₁, h₂⟩
    · rintro ⟨v, h₁, h₂⟩
      cases h₁ with
      | cons head tail => exact Follows.cons head (ih.2 ⟨v, tail, h₂⟩)

/-- The current directory stays as it is. -/
theorem cwd_eq (h : Follows w t w') : w'.cwd = w.cwd := by
  induction h with
  | nil => rfl
  | cons head tail ih => rw [ih, head.cwd_eq]

/-- To make and to remove copies leaves the documents as they are. -/
theorem documents_eq (h : Follows w t w')
    (about : Trace.About [.tree, .text, .copy, .lock, .token, .log] t) :
    w'.documents = w.documents := by
  induction h with
  | nil => rfl
  | cons head tail ih =>
    have first := head.documents_eq (about _ List.mem_cons_self)
    rw [ih fun e he => about e (List.mem_cons_of_mem _ he), first]

/-- Every path resolves to the workspace's handle of it. -/
theorem resolved (h : Follows w t w') {path : String} {k : Handle}
    (hmem : ⟨.resolve path, .ok (some k)⟩ ∈ t) : k = Handle.forPath w.cwd path := by
  induction h with
  | nil => cases hmem
  | cons head tail ih =>
    rcases List.mem_cons.1 hmem with rfl | hmem
    · exact head.resolved
    · rw [ih hmem, head.cwd_eq]

/-- While files are only read the workspace stays as it is, and so do the texts of files. -/
theorem reads (h : Follows w t w')
    (about : Trace.About [.tree, .text, .lock, .token, .log, .phase, .call] t) :
    w' = w ∧ Attribution.Reads w.text t := by
  induction h with
  | nil => exact ⟨rfl, fun _ _ h => by cases h⟩
  | cons head tail ih =>
    obtain rfl := head.eq (about _ List.mem_cons_self)
    obtain ⟨rfl, reads⟩ := ih fun e he => about e (List.mem_cons_of_mem _ he)
    refine ⟨rfl, fun k reply hmem => ?_⟩
    rcases List.mem_cons.1 hmem with rfl | hmem
    · exact head.text_eq
    · exact reads k reply hmem

/-- A path stays occupied where nothing is removed. -/
theorem occupied (h : Follows w t w') (adds : Trace.Adds t) {path : String}
    (there : w.disk.Occupied w.cwd path) : w'.disk.Occupied w'.cwd path := by
  induction h with
  | nil => exact there
  | cons head tail ih =>
    obtain ⟨⟨asked, keeps⟩, adds⟩ := List.forall_mem_cons.1 adds
    have next := there.mono (head.extends asked keeps)
    rw [← head.cwd_eq] at next
    exact ih adds next

end Follows

/-! ### Surroundings that answer -/

/-- A temporary file that is made is created at a path where nothing stood. -/
theorem Workspace.createTemporary_spec {w w' : Workspace} {directory stem extension path : String}
    {tries : Nat} (h : w.createTemporary directory stem extension tries = (.ok path, w')) :
    ∃ place disk nextTemporary, w.disk.create w.cwd path = .ok (place, disk) ∧
      w' = { w with disk, nextTemporary } := by
  induction tries generalizing w with
  | zero => cases h
  | succ tries ih =>
    unfold createTemporary at h
    dsimp only at h
    split at h
    · obtain ⟨place, disk, next, create, same⟩ := ih h
      exact ⟨place, disk, next, create, same⟩
    · split at h
      · next place disk create =>
        cases h
        exact ⟨place, disk, _, create, rfl⟩
      · cases h

/-- Answer a request from a workspace, and by a rule what a workspace cannot answer.  A temporary
file without a normal path is refused. -/
def Workspace.reply (others : (r : Request) → r.Reply) (w : Workspace) (r : Request) :
    r.Reply × Workspace :=
  match r with
  | .createTemporary stem extension directory =>
    let directory := Path.normalize w.cwd (directory.getD w.temporaryDirectory)
    match w.createTemporary directory stem extension Workspace.maxTries with
    | (.ok path, w') =>
      if Path.normalize w.cwd path = path then (.ok path, w')
      else (.error (.badValue path), w)
    | (.error fault, _) => (.error fault, w)
  | r => (w.answer? r).getD (others r, w)

/-- Surroundings that answer from a workspace have one. -/
theorem Workspace.answered_reply (others : (r : Request) → r.Reply) (w : Workspace) (r : Request) :
    Answered w ⟨r, (w.reply others r).1⟩ (w.reply others r).2 := by
  cases r with
  | createTemporary stem extension directory =>
    unfold reply
    dsimp only
    split
    · next path w' made =>
      split
      · next normal =>
        obtain ⟨place, disk, next, create, rfl⟩ := createTemporary_spec made
        exact .created normal create
      · exact .uncreated
    · exact .uncreated
  | children | isDirectory | resolve | realPath | directoryBound | currentText | diskText
      | encoding | writeTemporary | remove =>
    exact .file (by simp [Request.concern]) (by simp) rfl
  | lock | unlock | isCancelled | log | enter | freshId | conclude =>
    exact .quiet (by simp [Request.concern])
  | _ => exact .outside (by simp [Request.concern]) rfl

/-- Surroundings that answer a program from a workspace follow it. -/
theorem Workspace.follows_record {α : Type} (others : (r : Request) → r.Reply) (w : Workspace)
    (p : Program α) :
    Follows w (Program.record (reply others) w p).1 (Program.record (reply others) w p).2.2 := by
  induction p generalizing w with
  | done a => exact .nil w
  | ask r next ih => exact .cons (w.answered_reply others r) (ih _ _)

/-! ### Programs that end -/

/-- From a workspace a program may end with this result and leave that workspace. -/
def Ends {α : Type} (w : Workspace) (p : Program α) (a : α) (w' : Workspace) : Prop :=
  ∃ t, Program.Runs p t a ∧ Follows w t w'

/-- A program ends with what it ends with where it is answered from the workspace. -/
theorem ends_record {α : Type} (others : (r : Request) → r.Reply) {w w' : Workspace}
    {p : Program α} {a : α} (h : (Program.record (Workspace.reply others) w p).2 = (a, w')) :
    Ends w p a w' := by
  have run := Program.runs_record (Workspace.reply others) w p
  have follows := w.follows_record others p
  rw [h] at run follows
  exact ⟨_, run, follows⟩

/-- The workspaces differ in their disks and in the number of temporary files at most. -/
structure Workspace.SameDesk (w w' : Workspace) : Prop where
  documents : w'.documents = w.documents
  cwd : w'.cwd = w.cwd
  temporaryDirectory : w'.temporaryDirectory = w.temporaryDirectory

/-- Surroundings that answer from a workspace change nothing else. -/
theorem Workspace.sameDesk_reply (others : (r : Request) → r.Reply) (w : Workspace) (r : Request) :
    SameDesk w (w.reply others r).2 := by
  cases r with
  | createTemporary stem extension directory =>
    unfold reply
    dsimp only
    split
    · next path w' made =>
      split
      · obtain ⟨place, disk, next, -, rfl⟩ := createTemporary_spec made
        exact ⟨rfl, rfl, rfl⟩
      · exact ⟨rfl, rfl, rfl⟩
    · exact ⟨rfl, rfl, rfl⟩
  | writeTemporary path text encoding =>
    change SameDesk w (w.writeTemporary path text encoding).2
    unfold writeTemporary
    split
    · exact ⟨rfl, rfl, rfl⟩
    · split <;> exact ⟨rfl, rfl, rfl⟩
  | remove path =>
    change SameDesk w (w.remove path).2
    unfold remove
    split <;> exact ⟨rfl, rfl, rfl⟩
  | _ => exact ⟨rfl, rfl, rfl⟩

/-- Nor do they while they answer a program. -/
theorem Workspace.sameDesk_record {α : Type} (others : (r : Request) → r.Reply) (w : Workspace)
    (p : Program α) : SameDesk w (Program.record (reply others) w p).2.2 := by
  induction p generalizing w with
  | done a => exact ⟨rfl, rfl, rfl⟩
  | ask r next ih =>
    have first := w.sameDesk_reply others r
    have rest := ih (w.reply others r).1 (w.reply others r).2
    exact ⟨rest.documents.trans first.documents, rest.cwd.trans first.cwd,
      rest.temporaryDirectory.trans first.temporaryDirectory⟩

/-- A program ends with what it ends with where it is answered from the workspace.  What it leaves
there is known by the disk and by the number of temporary files. -/
theorem ends_of_disk {α : Type} (others : (r : Request) → r.Reply) {w w' : Workspace}
    {p : Program α} {a : α} (same : w.SameDesk w')
    (ends : (Program.record (Workspace.reply others) w p).2.map id
      (fun v => (v.disk, v.nextTemporary)) = (a, w'.disk, w'.nextTemporary)) :
    Ends w p a w' := by
  have kept := w.sameDesk_record others p
  obtain ⟨result, files⟩ := Prod.mk.inj ends
  obtain ⟨disk, next⟩ := Prod.mk.inj files
  refine ends_record others (Prod.ext result ?_)
  generalize (Program.record (Workspace.reply others) w p).2.2 = v at kept disk next
  obtain ⟨_, _, _, _, _⟩ := v
  obtain ⟨_, _, _, _, _⟩ := w'
  obtain ⟨rfl, rfl, rfl⟩ := kept
  obtain ⟨rfl, rfl, rfl⟩ := same
  cases disk
  cases next
  rfl

/-- An action without requests leaves the workspace as it is. -/
theorem ends_pure {α : Type} (w : Workspace) (a : α) :
    Ends w (pure a : Action α).attempt (.ok a) w :=
  ⟨[], Program.runs_attempt_pure.2 ⟨rfl, rfl⟩, .nil w⟩

/-- Two actions one after the other. -/
theorem Ends.bind {α β : Type} {w v w' : Workspace} {a : Action α}
    {f : α → Action β} {x : α} {r : Except Fault β} (first : Ends w a.attempt (.ok x) v)
    (second : Ends v (f x).attempt r w') : Ends w (a >>= f).attempt r w' := by
  obtain ⟨t₁, run₁, follows₁⟩ := first
  obtain ⟨t₂, run₂, follows₂⟩ := second
  exact ⟨t₁ ++ t₂, Program.runs_attempt_bind.2 (Or.inl ⟨t₁, t₂, x, rfl, run₁, run₂⟩),
    Follows.append_iff.2 ⟨v, follows₁, follows₂⟩⟩

end LiveCheck
