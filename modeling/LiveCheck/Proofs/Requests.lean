import LiveCheck.Proofs.Runs
import LiveCheck.Scan

/-!
# What the parts of a scan ask for

Every part of a scan makes requests of a few sorts only: a walk asks about the tree, attribution
about texts, the tool about processes.  A request is filed under what it is about, and for each
part of a scan it is stated under which heads its requests fall.  What does not happen in a part,
such as a phase that is entered or a listener that is told, is read off from there, and nothing
about the runs of the part has to be known.
-/

namespace LiveCheck

/-- What a request is about. -/
inductive Concern where
  /-- Which files there are. -/
  | tree
  /-- What stands in a file. -/
  | text
  /-- The lock of the documents. -/
  | lock
  /-- Temporary copies. -/
  | copy
  /-- The choice of the files to scan. -/
  | choice
  /-- Whether the scan is cancelled. -/
  | token
  /-- The tool and its process. -/
  | tool
  /-- The list of those who follow the scan, and its lock. -/
  | registry
  /-- Those who follow the scan. -/
  | listener
  /-- What the user is shown. -/
  | user
  /-- The log. -/
  | log
  /-- Where the scan stands. -/
  | phase
  /-- The name of the scan and its outcome. -/
  | call
deriving DecidableEq

namespace Request

/-- The head under which a request is filed. -/
def concern : Request → Concern
  | children _ | isDirectory _ | resolve _ | realPath _ | directoryBound => .tree
  | currentText _ | diskText _ => .text
  | Request.lock | unlock => .lock
  | encoding _ | createTemporary _ _ _ | writeTemporary _ _ _ | remove _ => .copy
  | pick _ => .choice
  | isCancelled => .token
  | isFile _ | invoke _ _ | start _ _ | wait | collect | kill => .tool
  | lockListeners | Request.listeners | unlockListeners => .registry
  | tellStart _ _ | tellEnd _ _ => .listener
  | present _ _ _ => .user
  | Request.log _ => .log
  | enter _ => .phase
  | freshId | conclude _ => .call

end Request

/-- Does the program ask for these things alone? -/
abbrev AsksAbout {α : Type} (concerns : List Concern) (p : Program α) : Prop :=
  p.AsksOnly fun r => r.concern ∈ concerns

namespace Program

variable {α β : Type}

/-- A program that asks about less. -/
theorem AsksOnly.about {cs cs' : List Concern} {p : Program α} (h : AsksAbout cs p)
    (hcs : (cs.all fun c => cs'.elem c) = true) : AsksAbout cs' p :=
  h.mono fun r hr => List.mem_of_elem_eq_true (List.all_eq_true.1 hcs r.concern hr)

/-- A single request. -/
theorem asks_request (r : Request) {cs : List Concern} (h : cs.elem r.concern = true) :
    AsksAbout cs (request r) :=
  asksOnly_request (List.mem_of_elem_eq_true h)

/-- Steps that are done one after the other, each on the result of the one before. -/
theorem asksOnly_attempt_foldlM {S : Request → Prop} {f : β → α → Action β}
    (hf : ∀ b a, AsksOnly S (f b a).attempt) (as : List α) (b : β) :
    AsksOnly S (as.foldlM f b : Action β).attempt := by
  induction as generalizing b with
  | nil => exact asksOnly_attempt_pure b
  | cons a as ih => exact (hf b a).attempt_bind fun b' => ih b'

end Program

open Program

/-! ### Cancellation and the log -/

/-- A check for cancellation asks for the token alone. -/
theorem checkCancelled_asks (cancellable : Bool) :
    AsksAbout [.token] (checkCancelled cancellable).attempt := by
  unfold checkCancelled
  cases cancellable with
  | false => exact asksOnly_attempt_pure ()
  | true =>
    refine AsksOnly.attempt_bind (AsksOnly.ofTotal (asks_request _ rfl)) fun stop => ?_
    cases stop
    · exact asksOnly_attempt_pure ()
    · exact asksOnly_attempt_throw _

/-- To write a line of the log asks for the log alone. -/
theorem logLine_asks (level : LogLevel) (source : LogSource) (text : String) :
    AsksAbout [.log] (logLine level source text) :=
  asks_request _ rfl

/-! ### Discovery -/

namespace Discovery

/-- To look at the children of a directory asks about the tree. -/
theorem look_asks (children : List String) (inner : List String) (found : Discovered) :
    AsksAbout [.tree] (look inner found children).attempt := by
  induction children generalizing inner found with
  | nil => exact asksOnly_attempt_pure _
  | cons child rest ih =>
    unfold look
    refine AsksOnly.attempt_bind (asks_request _ rfl) fun isDirectory => ?_
    cases isDirectory with
    | true => exact ih _ _
    | false =>
      exact AsksOnly.attempt_bind (asks_request _ rfl) fun resolved => ih _ _

/-- A walk asks about the tree and for the token. -/
theorem walk_asks (cwd : String) (cancellable : Bool) (depth : Nat) (ancestors : List String)
    (found : Discovered) (directory : String) :
    AsksAbout [.tree, .token] (walk cwd cancellable depth ancestors found directory).attempt := by
  induction depth generalizing ancestors found directory with
  | zero => exact asksOnly_attempt_throw _
  | succ depth ih =>
    unfold walk
    refine AsksOnly.attempt_bind ((checkCancelled_asks _).about rfl) fun _ => ?_
    refine AsksOnly.attempt_bind (asks_request _ rfl) fun real => ?_
    split
    · exact asksOnly_attempt_pure _
    · refine AsksOnly.attempt_bind (AsksOnly.ofTotal (asks_request _ rfl)) fun
        | .error fault => ?_
        | .ok children => ?_
      · dsimp only
        split
        · exact asksOnly_attempt_pure _
        · exact asksOnly_attempt_throw _
      · refine AsksOnly.attempt_bind ((look_asks _ _ _).about rfl) fun (inner, found) => ?_
        exact asksOnly_attempt_foldlM (fun found directory => ih _ found directory) inner found

/-- To walk one root asks about the tree and for the token. -/
theorem walkRoot_asks (cwd : String) (cancellable : Bool) (depth : Nat) (found : Discovered)
    (root : Root) :
    AsksAbout [.tree, .token] (walkRoot cwd cancellable depth found root).attempt := by
  unfold walkRoot
  refine AsksOnly.attempt_bind ((checkCancelled_asks _).about rfl) fun _ => ?_
  refine AsksOnly.attempt_bind (asks_request _ rfl) fun isDirectory => ?_
  cases isDirectory with
  | true => exact walk_asks _ _ _ _ _ _
  | false =>
    exact AsksOnly.attempt_bind (asks_request _ rfl) fun _ => asksOnly_attempt_pure _

/-- Discovery asks about the tree and for the token. -/
theorem discover_asks (cwd : String) (cancellable : Bool) (roots : List Root) :
    AsksAbout [.tree, .token] (discover cwd cancellable roots).attempt := by
  unfold discover
  refine AsksOnly.attempt_bind (AsksOnly.ofTotal (asks_request _ rfl)) fun depth => ?_
  exact asksOnly_attempt_foldlM (fun found root => walkRoot_asks _ _ _ found root) roots _

/-- To find the files under roots asks about the tree and for the token. -/
theorem flatten_asks (cwd : String) (cancellable : Bool) (roots : List Root) :
    AsksAbout [.tree, .token] (flatten cwd cancellable roots).attempt := by
  unfold flatten
  exact AsksOnly.attempt_bind (discover_asks cwd cancellable roots) fun _ => asksOnly_attempt_pure _

end Discovery

/-! ### Snapshots -/

namespace Snapshot

/-- To read the texts of a file asks about texts. -/
theorem readTexts_asks (h : Handle) : AsksAbout [.text] (readTexts h).attempt := by
  unfold readTexts
  refine AsksOnly.attempt_tryCatch ?_ fun fault => ?_
  · refine AsksOnly.attempt_bind (asks_request _ rfl) fun current => ?_
    exact AsksOnly.attempt_bind (asks_request _ rfl) fun onDisk => asksOnly_attempt_pure _
  · split <;> exact asksOnly_attempt_throw _

/-- A request that removes a copy or writes to the log. -/
def Removes (r : Request) : Prop := r.concern ∈ [Concern.copy, .log] ∧ ∀ h, r ≠ .encoding h

/-- To remove a copy is to remove it and to write to the log. -/
theorem delete_removes (s : Snapshot) : AsksOnly Removes s.delete.attempt := by
  unfold delete
  split
  · refine AsksOnly.attempt_bind (AsksOnly.ofTotal
        (asksOnly_request ⟨by simp [Request.concern], by simp⟩)) fun
      | .ok () => asksOnly_attempt_pure ()
      | .error fault => ?_
    dsimp only
    split
    · exact asksOnly_attempt_pure ()
    · split
      · exact AsksOnly.ofTotal (asksOnly_request ⟨by simp [Request.concern], by simp⟩)
      · exact asksOnly_attempt_throw _
  · exact asksOnly_attempt_pure ()

/-- To remove a copy asks about copies and the log. -/
theorem delete_asks (s : Snapshot) : AsksAbout [.copy, .log] s.delete.attempt :=
  (delete_removes s).mono fun _ => And.left

/-- To remove the copies of a set is to remove them and to write to the log. -/
theorem deleteAll_removes (made : List Snapshot) : AsksOnly Removes (deleteAll made).attempt := by
  induction made with
  | nil => exact asksOnly_attempt_pure ()
  | cons s rest ih =>
    unfold deleteAll
    refine AsksOnly.attempt_bind (AsksOnly.ofTotal (delete_removes s)) fun
      | .ok () => ih
      | .error fault => ?_
    dsimp only
    split
    · exact AsksOnly.attempt_bind (asksOnly_attempt_throw _) fun _ => ih
    · exact AsksOnly.attempt_bind (AsksOnly.ofTotal
        (asksOnly_request ⟨by simp [Request.concern], by simp⟩)) fun _ => ih

/-- To remove the copies of a set asks about copies and the log. -/
theorem deleteAll_asks (made : List Snapshot) :
    AsksAbout [.copy, .log] (deleteAll made).attempt :=
  (deleteAll_removes made).mono fun _ => And.left

/-- To write a copy asks about copies and the log. -/
theorem writeCopy_asks (scratch : Option String) (h : Handle) (text : String) :
    AsksAbout [.copy, .log] (writeCopy scratch h text).attempt := by
  unfold writeCopy
  refine AsksOnly.attempt_bind ?_ fun path => ?_
  · unfold createCopy
    obtain ⟨stem, extension⟩ := Path.splitExtension h.name
    refine AsksOnly.attempt_bind (AsksOnly.ofTotal (asks_request _ rfl)) fun
      | .ok path => asksOnly_attempt_pure path
      | .error fault => ?_
    dsimp only
    split <;> exact asksOnly_attempt_throw _
  · refine AsksOnly.attempt_bind (AsksOnly.attempt_tryCatch ?_ fun fault => ?_) fun _ =>
      asksOnly_attempt_pure _
    · exact AsksOnly.attempt_bind (asks_request _ rfl) fun encoding => asks_request _ rfl
    · split
      · exact AsksOnly.attempt_bind (delete_asks _) fun _ => asksOnly_attempt_throw _
      · exact asksOnly_attempt_throw _

/-- To make the snapshot of a file asks for the token, texts, copies and the log. -/
theorem make_asks (scratch : Option String) (cancellable : Bool) (unsaved : Table String Handle)
    (h : Handle) :
    AsksAbout [.token, .text, .copy, .log] (make scratch cancellable unsaved h).attempt := by
  unfold make
  refine AsksOnly.attempt_bind ((checkCancelled_asks _).about rfl) fun _ => ?_
  refine AsksOnly.attempt_bind ((readTexts_asks _).about rfl) fun (current, onDisk) => ?_
  refine AsksOnly.attempt_bind (asksOnly_attempt_ofExcept _) fun unsaved => ?_
  refine AsksOnly.attempt_bind ?_ fun _ => asksOnly_attempt_pure _
  unfold place
  split
  · exact asksOnly_attempt_pure _
  · exact (writeCopy_asks _ _ _).about rfl

/-- To make the snapshots of files one by one asks for what one snapshot asks for. -/
theorem makeEach_asks (scratch : Option String) (cancellable : Bool)
    (unsaved : Table String Handle) (handles : List Handle) :
    AsksAbout [.token, .text, .copy, .log] (makeEach scratch cancellable unsaved handles) := by
  induction handles generalizing unsaved with
  | nil => exact asksOnly_pure _
  | cons h rest ih =>
    unfold makeEach
    refine AsksOnly.bind (make_asks _ _ _ _) fun
      | .error fault => asksOnly_pure _
      | .ok (s, unsaved) => AsksOnly.bind (ih unsaved) fun _ => asksOnly_pure _

/-- To make a set of snapshots asks for the lock besides. -/
theorem makeAll_asks (scratch : Option String) (cancellable : Bool) (handles : List Handle) :
    AsksAbout [.lock, .token, .text, .copy, .log] (makeAll scratch cancellable handles) := by
  unfold makeAll
  refine AsksOnly.bind (asks_request _ rfl) fun
    | .error fault => asksOnly_pure _
    | .ok () => ?_
  refine AsksOnly.bind ((makeEach_asks _ _ _ _).about rfl) fun (made, ending) => ?_
  exact AsksOnly.bind (asks_request _ rfl) fun _ => asksOnly_pure _

end Snapshot

/-! ### The tool -/

namespace Tool

/-- A request that is made to put the command together: whether a file is there, or a line of the
log. -/
def Looks : Request → Prop
  | .isFile _ | .log _ => True
  | _ => False

/-- To look for the first file of several is to look for files. -/
theorem firstFile_looks (paths : List String) : AsksOnly Looks (firstFile paths) := by
  induction paths with
  | nil => exact asksOnly_pure _
  | cons path rest ih =>
    unfold firstFile
    refine AsksOnly.bind (asksOnly_request trivial) fun isFile => ?_
    split
    · exact asksOnly_pure _
    · exact ih

/-- To look for the configuration file may write to the log. -/
theorem locateConfig_looks (root : String) (configured : Option String) :
    AsksOnly Looks (locateConfig root configured) := by
  unfold locateConfig
  split
  · exact firstFile_looks _
  · exact firstFile_looks _
  · refine AsksOnly.bind (asksOnly_request trivial) fun isFile => ?_
    split
    · exact asksOnly_pure _
    · exact AsksOnly.bind (asksOnly_request trivial) fun _ => asksOnly_pure _

/-- To put the command together is to look for the configuration file. -/
theorem command_looks (settings : Settings) (root : String) (paths : List String) :
    AsksOnly Looks (command settings root paths).attempt := by
  unfold command words
  refine AsksOnly.attempt_bind (asksOnly_attempt_ofExcept _) fun start => ?_
  refine AsksOnly.attempt_bind (AsksOnly.ofTotal (locateConfig_looks _ _)) fun config => ?_
  dsimp only
  split
  · exact AsksOnly.attempt_bind (asksOnly_attempt_pure _) fun _ => asksOnly_attempt_pure _
  · exact AsksOnly.attempt_bind (asksOnly_attempt_ofExcept _) fun _ => asksOnly_attempt_pure _

/-- To put the command together asks for the configuration file. -/
theorem command_asks (settings : Settings) (root : String) (paths : List String) :
    AsksAbout [.tool, .log] (command settings root paths).attempt := by
  refine (command_looks settings root paths).mono fun r looks => ?_
  cases r <;> first | exact looks.elim | simp [Request.concern]

/-- To wait for the process asks about it, for the token and for the log. -/
theorem await_asks (cancellable : Bool) (waits : Nat) :
    AsksAbout [.tool, .token, .log] (await cancellable waits).attempt := by
  have kill : AsksAbout [.tool, .token, .log] killCancelled.attempt := by
    unfold killCancelled
    refine AsksOnly.attempt_bind (AsksOnly.ofTotal (asks_request _ rfl)) fun stuck => ?_
    cases stuck with
    | none => exact asksOnly_attempt_throw _
    | some number =>
      exact AsksOnly.attempt_bind (AsksOnly.ofTotal ((logLine_asks _ _ _).about rfl)) fun _ =>
        asksOnly_attempt_throw _
  have guarded (next : Action Completion) (hn : AsksAbout [.tool, .token, .log] next.attempt) :
      AsksAbout [.tool, .token, .log] (unlessCancelled cancellable next).attempt := by
    unfold unlessCancelled
    cases cancellable with
    | false => exact hn
    | true =>
      refine AsksOnly.attempt_bind (AsksOnly.ofTotal (asks_request _ rfl)) fun stop => ?_
      cases stop
      · exact hn
      · exact kill
  induction waits with
  | zero => exact guarded _ (AsksOnly.ofTotal (asks_request _ rfl))
  | succ waits ih =>
    exact guarded _ (AsksOnly.attempt_bind (AsksOnly.ofTotal (asks_request _ rfl)) fun _ => ih)

/-- To run the tool asks about it, for the token and for the log. -/
theorem run_asks (settings : Settings) (root : String) (paths : List String)
    (cancellable : Bool) :
    AsksAbout [.tool, .token, .log] (run settings root paths cancellable).attempt := by
  unfold run
  refine AsksOnly.attempt_bind ((command_asks _ _ _).about rfl) fun words => ?_
  refine AsksOnly.attempt_bind ((checkCancelled_asks _).about rfl) fun _ => ?_
  refine AsksOnly.attempt_bind (AsksOnly.ofTotal (asks_request _ rfl)) fun
    | .error fault => ?_
    | .ok waits => ?_
  · dsimp only
    split <;> exact asksOnly_attempt_throw _
  · exact AsksOnly.attempt_bind (await_asks _ _) fun _ => asksOnly_attempt_ofExcept _

end Tool

/-! ### Attribution -/

namespace Attribution

/-- The offset of a place asks about the text of the file. -/
theorem offset_asks (setup : Setup) (texts : Texts) (h : Handle) (line column : Int) :
    AsksAbout [.text] (offset setup texts h line column).attempt := by
  have read : AsksAbout [.text] (textOf texts h).attempt := by
    unfold textOf
    split
    · exact asksOnly_attempt_pure _
    · refine AsksOnly.attempt_bind (AsksOnly.ofTotal (asks_request _ rfl)) fun
        | .ok s => asksOnly_attempt_pure _
        | .error fault => ?_
      dsimp only
      split
      · exact asksOnly_attempt_pure _
      · exact asksOnly_attempt_throw _
  unfold offset
  split
  · refine AsksOnly.attempt_bind read fun
      | (none, texts) => asksOnly_attempt_pure _
      | (some text, texts) => ?_
    exact AsksOnly.attempt_bind (asksOnly_attempt_ofExcept _) fun _ => asksOnly_attempt_pure _
  · exact asksOnly_attempt_pure _

/-- The diagnostic of a line asks about the text of the file. -/
theorem diagnostic_asks (setup : Setup) (texts : Texts) (h : Handle) (parts : ReportLine) :
    AsksAbout [.text] (diagnostic setup texts h parts).attempt := by
  unfold diagnostic
  refine AsksOnly.attempt_bind (asksOnly_attempt_ofExcept _) fun line => ?_
  refine AsksOnly.attempt_bind (asksOnly_attempt_ofExcept _) fun column => ?_
  exact AsksOnly.attempt_bind (offset_asks _ _ _ _ _) fun _ => asksOnly_attempt_pure _

/-- To add the diagnostics of lines asks about the texts of files. -/
theorem addLines_asks (setup : Setup) (files : Table String Handle) (texts : Texts)
    (problems : Table Handle (List Diagnostic)) (lines : List String) :
    AsksAbout [.text] (addLines setup files texts problems lines).attempt := by
  induction lines generalizing texts problems with
  | nil => exact asksOnly_attempt_pure _
  | cons line rest ih =>
    unfold addLines
    split
    · exact ih _ _
    · split
      · exact ih _ _
      · exact AsksOnly.attempt_bind (diagnostic_asks _ _ _ _) fun _ => ih _ _

/-- To attribute lines asks about the texts of files and for the lock. -/
theorem ofLines_asks (setup : Setup) (mapping : Table String Handle) (lines : List String) :
    AsksAbout [.lock, .text] (ofLines setup mapping lines).attempt := by
  unfold ofLines
  dsimp only
  split
  · refine AsksOnly.bind (asks_request _ rfl) fun
      | .error fault => asksOnly_pure _
      | .ok () => ?_
    refine AsksOnly.bind ((addLines_asks _ _ _ _ _).about rfl) fun result => ?_
    exact AsksOnly.bind (asks_request _ rfl) fun _ => asksOnly_pure _
  · exact (addLines_asks _ _ _ _ _).about rfl

end Attribution

/-! ### The parts of a scan -/

namespace Scan

/-- To choose the files of a scan asks about the tree, for the token and for the choice. -/
theorem resolveFiles_asks (scan : Scan) :
    AsksAbout [.tree, .token, .choice] scan.resolveFiles.attempt := by
  unfold resolveFiles
  refine AsksOnly.attempt_bind ?_ fun handles => ?_
  · unfold candidates
    split
    · exact asksOnly_attempt_pure _
    · exact (Discovery.flatten_asks _ _ _).about rfl
  · unfold pick
    split
    · exact asksOnly_attempt_pure _
    · exact asks_request _ rfl

/-- To get the lines of the runner asks about the tool, for the token and for the log. -/
theorem invoke_asks (scan : Scan) (paths : List String) :
    AsksAbout [.tool, .token, .log] (scan.invoke paths).attempt := by
  unfold invoke
  split
  · exact Tool.run_asks _ _ _ _
  · exact asks_request _ rfl

/-- To go on after a listener may write to the log. -/
theorem settle_asks (listener : Listener) (event : Event) (reply : Except Fault Unit) :
    AsksAbout [.log] (settle listener event reply).attempt := by
  unfold settle
  split
  · exact asksOnly_attempt_pure _
  · split
    · exact asksOnly_attempt_throw _
    · exact AsksOnly.ofTotal (logLine_asks _ _ _)

/-- To tell listeners of the start asks them and may write to the log. -/
theorem tellStart_asks (files : List Handle) (ls : List Listener) :
    AsksAbout [.listener, .log] (tellStart files ls).attempt := by
  induction ls generalizing files with
  | nil => exact asksOnly_attempt_pure _
  | cons l rest ih =>
    unfold tellStart
    refine AsksOnly.attempt_bind (AsksOnly.ofTotal (asks_request _ rfl)) fun (left, reply) => ?_
    exact AsksOnly.attempt_bind ((settle_asks _ _ _).about rfl) fun _ => ih left

/-- To tell listeners of the end asks them and may write to the log. -/
theorem tellEnd_asks (ending : Ending) (ls : List Listener) :
    AsksAbout [.listener, .log] (tellEnd ending ls).attempt := by
  induction ls with
  | nil => exact asksOnly_attempt_pure _
  | cons l rest ih =>
    unfold tellEnd
    refine AsksOnly.attempt_bind (AsksOnly.ofTotal (asks_request _ rfl)) fun reply => ?_
    exact AsksOnly.attempt_bind ((settle_asks _ _ _).about rfl) fun _ => ih

/-- To copy the list of listeners asks for the list and its lock. -/
theorem registered_asks : AsksAbout [.registry] registered := by
  unfold registered
  refine AsksOnly.bind (asks_request _ rfl) fun _ => ?_
  refine AsksOnly.bind (asks_request _ rfl) fun ls => ?_
  exact AsksOnly.bind (asks_request _ rfl) fun _ => asksOnly_pure _

/-- To tell the listeners that are registered asks for them, asks them and may write to the log. -/
theorem tellEnd_listeners_asks (ending : Ending) :
    AsksAbout [.registry, .listener, .log]
      (do tellEnd ending (← listeners) : Action Unit).attempt :=
  AsksOnly.attempt_bind (AsksOnly.ofTotal (registered_asks.about rfl)) fun ls =>
    (tellEnd_asks ending ls).about rfl

/-- To enter a phase asks nothing else. -/
theorem enter_asks (phase : Phase) : AsksAbout [.phase] (enter phase).attempt :=
  AsksOnly.ofTotal (asks_request _ rfl)

/-- The start of a scan asks for its files and its listeners. -/
theorem start_asks (scan : Scan) :
    AsksAbout [.phase, .tree, .token, .choice, .registry, .listener, .log]
      scan.start.attempt := by
  unfold start
  refine AsksOnly.attempt_bind ((enter_asks _).about rfl) fun _ => ?_
  refine AsksOnly.attempt_bind ((checkCancelled_asks _).about rfl) fun _ => ?_
  refine AsksOnly.attempt_bind ((resolveFiles_asks _).about rfl) fun files => ?_
  refine AsksOnly.attempt_bind (AsksOnly.ofTotal (registered_asks.about rfl)) fun ls => ?_
  refine AsksOnly.attempt_bind ((tellStart_asks _ _).about rfl) fun _ => ?_
  exact asksOnly_attempt_pure _

/-- To get the printed lines asks what the runner asks, in a phase of its own. -/
theorem print_asks (scan : Scan) (paths : List String) :
    AsksAbout [.phase, .tool, .token, .log] (scan.print paths).attempt := by
  unfold print
  refine AsksOnly.attempt_bind ((enter_asks _).about rfl) fun _ => ?_
  refine AsksOnly.attempt_bind ((checkCancelled_asks _).about rfl) fun _ => ?_
  exact (invoke_asks _ _).about rfl

/-- To report on printed lines asks about texts, in a phase of its own. -/
theorem report_asks (scan : Scan) (id : String) (mapping : Table String Handle)
    (lines : List String) :
    AsksAbout [.phase, .token, .lock, .text] (scan.report id mapping lines).attempt := by
  unfold report
  refine AsksOnly.attempt_bind ((enter_asks _).about rfl) fun _ => ?_
  refine AsksOnly.attempt_bind ((checkCancelled_asks _).about rfl) fun _ => ?_
  refine AsksOnly.attempt_bind ((Attribution.ofLines_asks _ _ _).about rfl) fun _ => ?_
  exact asksOnly_attempt_pure _

/-- A check of snapshots asks what the runner asks and about texts. -/
theorem check_asks (scan : Scan) (id : String) (made : List Snapshot) :
    AsksAbout [.phase, .tool, .token, .log, .lock, .text] (scan.check id made).attempt := by
  unfold check
  refine AsksOnly.attempt_bind ((print_asks _ _).about rfl) fun lines => ?_
  exact (report_asks _ _ _ _).about rfl

/-- To show a fault asks the user and may write to the log. -/
theorem ofFault_asks (error : Fault) :
    AsksAbout [.user, .log] (Notification.ofFault error).attempt := by
  unfold Notification.ofFault Notification.show_
  refine AsksOnly.attempt_bind (AsksOnly.ofTotal (asks_request _ rfl)) fun
    | .ok () => asksOnly_attempt_pure _
    | .error fault => ?_
  dsimp only
  split
  · exact asksOnly_attempt_throw _
  · exact AsksOnly.ofTotal ((logLine_asks _ _ _).about rfl)

/-- To announce an outcome asks the user, the listeners and the log. -/
theorem announce_asks (outcome : Outcome) :
    AsksAbout [.phase, .log, .user, .registry, .listener] (announce outcome).attempt := by
  cases outcome with
  | failed id error =>
    refine AsksOnly.attempt_bind ((enter_asks _).about rfl) fun _ => ?_
    refine AsksOnly.attempt_bind (AsksOnly.ofTotal ((logLine_asks _ _ _).about rfl)) fun _ => ?_
    refine AsksOnly.attempt_bind ((ofFault_asks error).about rfl) fun _ => ?_
    exact (tellEnd_listeners_asks _).about rfl
  | cancelled id =>
    refine AsksOnly.attempt_bind ((enter_asks _).about rfl) fun _ => ?_
    exact (tellEnd_listeners_asks _).about rfl
  | success report =>
    refine AsksOnly.attempt_bind ((enter_asks _).about rfl) fun _ => ?_
    exact (tellEnd_listeners_asks _).about rfl

/-- Up to its report a scan asks for all that it needs, and tells nothing but its start. -/
theorem perform_asks (scan : Scan) (id : String) :
    AsksAbout
      [.phase, .tree, .text, .lock, .copy, .choice, .token, .tool, .registry, .listener, .log]
      (scan.perform id) := by
  unfold perform
  refine AsksOnly.bind ((start_asks _).about rfl) fun
    | .error _ => asksOnly_pure _
    | .ok [] => asksOnly_pure _
    | .ok (h :: rest) => ?_
  refine AsksOnly.bind (asks_request _ rfl) fun _ => ?_
  refine AsksOnly.bind ((Snapshot.makeAll_asks _ _ _).about rfl) fun
    | (made, .error _) => asksOnly_pure _
    | (made, .ok ()) => ?_
  exact AsksOnly.bind ((check_asks _ _ _).about rfl) fun _ => asksOnly_pure _

/-- The same up to the outcome. -/
theorem obtain_asks (scan : Scan) (id : String) :
    AsksAbout
      [.phase, .tree, .text, .lock, .copy, .choice, .token, .tool, .registry, .listener, .log]
      (scan.obtain id).attempt := by
  unfold obtain
  refine AsksOnly.bind (perform_asks _ _) fun (made, result) => ?_
  refine AsksOnly.bind ((Snapshot.deleteAll_asks _).about rfl) fun
    | .error _ => asksOnly_pure _
    | .ok () => asksOnly_pure _

end Scan

end LiveCheck
