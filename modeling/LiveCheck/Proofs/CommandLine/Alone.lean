import LiveCheck.Proofs.Attribution.Returning
import LiveCheck.Proofs.CommandLine.Recording
import LiveCheck.Proofs.Discovery
import LiveCheck.Proofs.Scan.Untold

/-!
# The command line alone with its scan

In an editor a scan can be cancelled, and its documents are somebody else's.  The command line has
documents of its own, and it hands the token of its scan to nobody.  `Alone` says what follows for
its answers: paths resolve to handles of the workspace, and no answer is a cancellation.

A workspace alone sees to most of it.  Whatever is on the disk and in the documents, files are
resolved so and no question about them is answered by a cancellation (`Workspace.answer?_untold`);
so a command line that is answered from a workspace is alone unless somebody else cancels its scan
(`Alone.of_follows`).
-/

namespace LiveCheck

open Program Trace

/-! ### Faults of files -/

/-- A text that cannot be read is no cancellation. -/
theorem Fault.isCancellation_of_isUnreadable {fault : Fault} (unread : fault.isUnreadable = true) :
    fault.isCancellation = false := by
  cases fault with
  | cancelled => cases unread
  | failure | failureFrom | raised => rfl

namespace Disk

variable (d : Disk) (cwd path : String)

/-- A path is not sought in vain because of a cancellation. -/
theorem locateOrFault_unstopped (followLast : Bool) :
    stopped (d.locateOrFault cwd path followLast) = false := by
  unfold locateOrFault
  split
  · rfl
  · cases d.locate cwd path followLast <;> rfl

/-- A file is not left unread because of a cancellation. -/
theorem read_unstopped : stopped (d.read cwd path) = false := by
  unfold read
  refine stopped_bind (d.locateOrFault_unstopped cwd path true) fun target => ?_
  cases target with
  | absent => rfl
  | found place =>
    dsimp only
    split <;> rfl

/-- Nor is a directory. -/
theorem list_unstopped : stopped (d.list cwd path) = false := by
  unfold list
  refine stopped_bind (d.locateOrFault_unstopped cwd path true) fun target => ?_
  cases target with
  | absent => rfl
  | found place =>
    dsimp only
    split <;> rfl

end Disk

namespace Encoding

/-- The name of an encoding is not refused because of a cancellation. -/
theorem checkName_unstopped (name : String) : stopped (checkName name) = false := by
  unfold checkName
  split <;> rfl

/-- An encoding is not unknown because of a cancellation. -/
theorem Codecs.find_unstopped (codecs : Codecs) (name : String) :
    stopped (codecs.find name) = false := by
  unfold find
  refine stopped_bind (checkName_unstopped name) fun _ => ?_
  split <;> rfl

/-- Bytes are not left undecoded because of a cancellation. -/
theorem Codec.decode_unstopped (codec : Codec) (bytes : List UInt8) :
    stopped (codec.decode bytes) = false := by
  cases decoded : codec.decode bytes with
  | error fault => exact Fault.isCancellation_of_isUnreadable (isUnreadable_of_decode decoded)
  | ok s => rfl

end Encoding

namespace Documents

variable (docs : Documents) (d : Disk) (cwd : String)

/-- The text of a file is not missed on the disk because of a cancellation. -/
theorem diskText_unstopped (h : Handle) : stopped (docs.diskText d cwd h) = false := by
  unfold diskText
  split
  · refine stopped_bind (Encoding.checkName_unstopped _) fun _ => ?_
    refine stopped_bind (d.read_unstopped _ _) fun bytes => ?_
    refine stopped_bind (docs.codecs.find_unstopped _) fun codec => ?_
    exact stopped_bind (codec.decode_unstopped _) fun _ => rfl
  · rfl

/-- The text that an editor shows is not missed because of a cancellation. -/
theorem currentText_unstopped (h : Handle) : stopped (docs.currentText d cwd h) = false := by
  unfold currentText
  split
  · rfl
  · refine stopped_bind (docs.diskText_unstopped d cwd h) fun onDisk => ?_
    cases onDisk <;> rfl

/-- Children are not missed because of a cancellation. -/
theorem children_unstopped (path : String) : stopped (docs.children d cwd path) = false := by
  unfold children
  exact stopped_bind (d.list_unstopped _ _) fun _ => rfl

end Documents

/-- No question about the tree or about texts is answered by a cancellation. -/
theorem Workspace.answer?_untold {w w' : Workspace} {r : Request} {reply : r.Reply}
    (asked : r.concern ∈ [Concern.tree, .text]) (answer : w.answer? r = some (reply, w')) :
    Exchange.tells ⟨r, reply⟩ = false := by
  cases r with
  | children path =>
    cases answer
    have listed := w.documents.children_unstopped w.disk w.cwd path
    change stopped ((w.documents.children w.disk w.cwd path).map _) = false
    cases found : w.documents.children w.disk w.cwd path with
    | error fault =>
      rw [found] at listed
      exact listed
    | ok paths => rfl
  | isDirectory | resolve | directoryBound =>
    cases answer
    rfl
  | realPath path =>
    cases answer
    change stopped (if '\x00' ∈ path.toList then _ else _) = false
    split <;> rfl
  | currentText h =>
    cases answer
    exact w.documents.currentText_unstopped w.disk w.cwd h
  | diskText h =>
    cases answer
    exact w.documents.diskText_unstopped w.disk w.cwd h
  | _ => simp [Request.concern] at asked

/-- If nobody else tells a scan in a workspace that it is cancelled, nobody does. -/
theorem Follows.not_told {w w' : Workspace} {t : Trace} (follows : Follows w t w')
    (others : ∀ e ∈ t, e.request.concern ∉ [Concern.tree, .text] → e.tells = false) :
    ¬ Told t := by
  induction follows with
  | nil => exact not_told_nil
  | @cons w v w' e t head tail ih =>
    obtain ⟨first, later⟩ := List.forall_mem_cons.1 others
    rw [told_cons, not_or, Bool.not_eq_true]
    refine ⟨?_, ih later⟩
    by_cases asked : e.request.concern ∈ [Concern.tree, .text]
    · obtain ⟨r, reply⟩ := e
      refine Workspace.answer?_untold asked (head.answer_eq ?_ ?_)
      · revert asked
        cases r.concern <;> decide
      · rintro stem extension directory rfl
        simp [Request.concern] at asked
    · exact first asked

namespace CommandLine

/-- The command line is alone with its scan: its documents resolve paths to handles of the
workspace, and nobody tells the scan that it is cancelled. -/
structure Alone (cwd : String) (t : Trace) : Prop where
  resolves : ∀ e ∈ t, e.ResolvesTo fun h => ∃ path, h = Handle.forPath cwd path
  untold : ¬ Told t

/-- A command line that is answered from a workspace is alone unless somebody else tells it that its
scan is cancelled. -/
theorem Alone.of_follows {w w' : Workspace} {t : Trace} (follows : Follows w t w')
    (others : ∀ e ∈ t, e.request.concern ∉ [Concern.tree, .text] → e.tells = false) :
    Alone w.cwd t where
  resolves _ mem path _ same := ⟨path, follows.resolved (same ▸ mem)⟩
  untold := follows.not_told others

/-- A scan is as alone as what is handed on of it. -/
theorem Alone.of_opened {cwd : String} {e : Exchange} {t : Trace}
    (alone : Alone cwd (e :: opened t)) : Alone cwd t := by
  constructor
  · rintro e mem path h rfl
    exact alone.resolves _ (List.mem_cons_of_mem _ (mem_opened.2 ⟨mem, rfl⟩)) path h rfl
  · rintro ⟨⟨r, reply⟩, mem, tells⟩
    refine alone.untold ⟨_, List.mem_cons_of_mem _ (mem_opened.2 ⟨mem, ?_⟩), tells⟩
    cases r with
    | present | listeners => cases tells
    | _ => rfl

end CommandLine

end LiveCheck
