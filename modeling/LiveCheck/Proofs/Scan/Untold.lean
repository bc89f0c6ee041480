import LiveCheck.Proofs.Scan.Heeding

/-!
# Scans that nobody cancels

A scan does not cancel itself: where it ends cancelled, its token has tripped or somebody whom it
asked has said so.  Up to the lines of the tool this is part of heeding a cancellation; the
attribution heeds it as well, and only the lock of the documents can take a cancellation away, not
make one.  So a scan that is told nothing concludes with a success or with a failure
(`told_of_concluded`).
-/

namespace LiveCheck

open Program Trace

/-! ### Calculations -/

namespace Program

variable {α β : Type}

/-- What is calculated, and not given up because of a cancellation. -/
theorem heeds_ofExcept {r : Except Fault α} (unstopped : stopped r = false) :
    Heeds (Action.ofExcept r).attempt := heeds_pure unstopped

/-- A calculation in two steps is not given up because of a cancellation if neither step is. -/
theorem stopped_bind {x : Except Fault α} {f : α → Except Fault β} (first : stopped x = false)
    (second : ∀ a, stopped (f a) = false) : stopped (x >>= f) = false := by
  cases x with
  | error fault => exact first
  | ok a => exact second a

end Program

/-! ### The attribution -/

/-- A column is not sought because of a cancellation, nor given up because of one. -/
theorem Column.toIndex_unstopped (line : List Char) (column tabWidth : Int) :
    stopped (toIndex line column tabWidth) = false := by
  have sought (target : Int) (index : Nat) (width : Int) (s : List Char) :
      stopped (seek tabWidth target index width s) = false := by
    induction s generalizing index width with
    | nil => rfl
    | cons c rest ih =>
      unfold seek
      split
      · rfl
      · split
        · split
          · rfl
          · exact ih _ _
        · exact ih _ _
  unfold toIndex
  split
  · exact sought _ _ _ _
  · rfl

/-- An offset is not given up because of a cancellation. -/
theorem DocumentText.offset_unstopped (d : DocumentText) (line column tabWidth : Int) :
    stopped (d.offset line column tabWidth) = false := by
  unfold offset
  exact stopped_bind (Column.toIndex_unstopped _ _ _) fun _ => rfl

namespace Attribution

variable {setup : Setup}

/-- A number is not given up because of a cancellation. -/
theorem readNumber_unstopped (digits : List Char) : stopped (readNumber digits) = false := by
  unfold readNumber
  split <;> rfl

/-- Nor is a column. -/
theorem readColumn_unstopped (column : Option (List Char)) :
    stopped (readColumn column) = false := by
  cases column with
  | none => rfl
  | some digits => exact readNumber_unstopped digits

/-- To get the text of a file. -/
theorem textOf_heeds (texts : Texts) (h : Handle) : Heeds (textOf texts h).attempt := by
  unfold textOf
  split
  · exact heeds_attempt_pure _
  · refine Heeds.attempt_match (heeds_request fun _ => rfl) (fun r unstopped => ?_) fun _ => rfl
    cases r with
    | ok s => exact heeds_attempt_pure _
    | error fault =>
      dsimp only
      split
      · exact heeds_attempt_pure _
      · exact heeds_attempt_throw unstopped

/-- To get the offset of a place. -/
theorem offset_heeds (texts : Texts) (h : Handle) (line column : Int) :
    Heeds (offset setup texts h line column).attempt := by
  unfold offset
  split
  · refine (textOf_heeds texts h).attempt_bind fun (text, texts) => ?_
    cases text with
    | none => exact heeds_attempt_pure _
    | some text =>
      refine (heeds_ofExcept (text.offset_unstopped _ _ _)).attempt_bind fun _ => ?_
      exact heeds_attempt_pure _
  · exact heeds_attempt_pure _

/-- To make the diagnostic of a line. -/
theorem diagnostic_heeds (texts : Texts) (h : Handle) (parts : ReportLine) :
    Heeds (diagnostic setup texts h parts).attempt := by
  unfold diagnostic
  refine (heeds_ofExcept (readNumber_unstopped _)).attempt_bind fun line => ?_
  refine (heeds_ofExcept (readColumn_unstopped _)).attempt_bind fun column => ?_
  exact (offset_heeds _ _ _ _).attempt_bind fun _ => heeds_attempt_pure _

/-- To add the diagnostics of lines. -/
theorem addLines_heeds (files : Table String Handle) (texts : Texts)
    (problems : Table Handle (List Diagnostic)) (lines : List String) :
    Heeds (addLines setup files texts problems lines).attempt := by
  induction lines generalizing texts problems with
  | nil => exact heeds_attempt_pure _
  | cons line rest ih =>
    unfold addLines
    split
    · exact ih _ _
    · split
      · exact ih _ _
      · exact (diagnostic_heeds _ _ _).attempt_bind fun _ => ih _ _

/-- An attribution that ends cancelled was told of it: where a text was asked for, or by the lock
of the documents. -/
theorem told_of_ofLines {mapping : Table String Handle} {lines : List String} {t : Trace}
    {r : Except Fault (Table Handle (List Diagnostic))}
    (run : Runs (ofLines setup mapping lines).attempt t r) (stops : stopped r = true) : Told t := by
  unfold ofLines at run
  dsimp only at run
  split at run
  · obtain ⟨locked, t₁, rfl, rest⟩ := runs_request_bind.1 run
    cases locked with
    | error fault =>
      obtain ⟨rfl, rfl⟩ := runs_pure.1 rest
      exact told_cons.2 (.inl stops)
    | ok _ =>
      obtain ⟨t₂, t₃, result, rfl, adding, unlocking⟩ := runs_bind.1 rest
      obtain ⟨unlocked, t₄, rfl, last⟩ := runs_request_bind.1 unlocking
      obtain ⟨rfl, rfl⟩ := runs_pure.1 last
      cases unlocked with
      | error fault => exact told_cons.2 (.inr (told_append.2 (.inr (told_cons.2 (.inl stops)))))
      | ok _ =>
        have heeded := (addLines_heeds _ _ _ _ _ _ adding).2 stops
        exact told_cons.2 (.inr (told_append.2 (.inl heeded)))
  · exact (addLines_heeds _ _ _ _ _ _ run).2 stops

end Attribution

namespace Scan

variable {scan : Scan} {id : String} {t : Trace}

/-- A report that is given up because of a cancellation. -/
theorem told_of_report {mapping : Table String Handle} {lines : List String}
    {r : Except Fault Report} (run : Runs (scan.report id mapping lines).attempt t r)
    (stops : stopped r = true) : Told t := by
  unfold Scan.report at run
  obtain ⟨t₁, t₂, _, rfl, entering, checking⟩ := runs_attempt_ofTotal_bind.1 run
  obtain ⟨t₃, t₄, _, rfl, check, attributing⟩ | ⟨fault, rfl, check⟩ := runs_attempt_bind.1 checking
  · obtain ⟨t₅, t₆, problems, rfl, -, last⟩ | ⟨fault, rfl, attributed⟩ :=
      runs_attempt_bind.1 attributing
    · obtain ⟨-, rfl⟩ := runs_attempt_pure.1 last
      cases stops
    · have told := Attribution.told_of_ofLines attributed stops
      simp [told]
  · have told := (checkCancelled_heeds true _ _ check).2 stops
    simp [told]

/-- The stages of a scan that are given up because of a cancellation. -/
theorem told_of_perform {made : List Snapshot} {r : Except Fault Report}
    (run : Runs (scan.perform id) t (made, r)) (stops : stopped r = true) : Told t := by
  cases runs_perform run with
  | unstarted start => exact (start_heeds _ _ _ start).2 stops
  | nothing => cases stops
  | unprepared start make =>
    have told := ((Snapshot.makeAll_heeds make).1.2 stops).1
    simp [told]
  | prepared start make checking =>
    unfold check at checking
    obtain ⟨t₄, t₅, lines, rfl, -, report⟩ | ⟨fault, rfl, print⟩ := runs_attempt_bind.1 checking
    · have told := told_of_report report stops
      simp [told]
    · have told := (print_heeds _ _ _ _ print).2 stops
      simp [told]

/-- An outcome that is a cancellation was told. -/
theorem told_of_cancelled {id' : String}
    (run : Runs (scan.obtain id).attempt t (.ok (.cancelled id'))) : Told t := by
  obtain ⟨t₁, t₂, made, ended, removed, rfl, perform, delete, judged⟩ := runs_obtain.1 run
  have stops := (judge_eq_ok judged.symm).1.1 ⟨id', rfl⟩
  cases removed with
  | ok _ => exact told_append.2 (.inl (told_of_perform perform stops))
  | error fault =>
    -- a fault of the removal leaves the scan, and then there is no outcome
    rw [show unlockedWith ended (.error fault) = .error fault from rfl,
      judge_of_leaves (Snapshot.leaves_of_deleteAll delete)] at judged
    cases judged

/-- A scan that concludes that it was cancelled was told of it. -/
theorem told_of_concluded {r : Except Fault Report} (run : Runs scan.run t r)
    (concluded : ⟨.conclude (.cancelled id), ()⟩ ∈ t) : Told t := by
  obtain ⟨_, t₁, t₂, _, obtained, -, -, rfl⟩ := exists_of_concluded run concluded
  exact told_cons.2 (.inr (told_append.2 (.inl (told_of_cancelled obtained))))

end Scan

end LiveCheck
