import LiveCheck.Proofs.Scan.Telling

/-!
# The calls of a scan

A scan may be called again and again, and every call adds one word to the history of its phases:
discovering, some first part of the three stages that follow, at most one phase of telling, and
idle.  `Call` takes the trace of a call apart into the stage up to the outcome and the telling of
the outcome, and `Call.Sound` says what each of them shows.  `exists_call` finds such a call
behind every run, and `history_calls` puts the words of all calls together.

Exactly one terminal event reaches every registered listener, with one exception that has to be
named: a fault that leaves the scan may come out of the display or of a listener while the end is
told.  Then the telling stops there, and whoever stands behind in the registry hears nothing.
-/

namespace LiveCheck.Scan

open Program Trace

/-! ### What the stages show -/

/-- The stages that follow the discovery of the files, in their order. -/
def laterStages : List Phase := [.snapshotting, .invoking, .parsing]

/-- While the tool is run nothing is seen but the phase. -/
theorem sights_print {scan : Scan} {paths : List String} {t : Trace}
    {r : Except Fault (List String)} (run : Runs (scan.print paths).attempt t r) :
    sights t = [.entered .invoking] := by
  unfold print at run
  obtain ⟨t₁, rfl, checking⟩ := runs_enter_bind.1 run
  have quiet : sights t₁ = [] := by
    rcases runs_attempt_bind.1 checking with ⟨t₂, t₃, _, rfl, check, invoke⟩ | ⟨_, rfl, check⟩
    · have quiet₂ := (check.about (checkCancelled_asks _)).sights_eq_nil (by simp)
      have quiet₃ := (invoke.about (invoke_asks _ _)).sights_eq_nil (by simp)
      rw [sights_append, quiet₂, quiet₃, List.append_nil]
    · exact (check.about (checkCancelled_asks _)).sights_eq_nil (by simp)
  simp [quiet, Exchange.sight?]

/-- While lines are attributed nothing is seen but the phase. -/
theorem sights_report {scan : Scan} {id : String} {mapping : Table String Handle}
    {lines : List String} {t : Trace} {r : Except Fault Report}
    (run : Runs (scan.report id mapping lines).attempt t r) :
    sights t = [.entered .parsing] := by
  unfold report at run
  obtain ⟨t₁, rfl, checking⟩ := runs_enter_bind.1 run
  have quiet : sights t₁ = [] := by
    have asks : AsksAbout [.token, .lock, .text] (do
        checkCancelled true
        let problems ← Attribution.ofLines scan.setup mapping lines
        pure ({ id, problems } : Report) : Action Report).attempt := by
      refine AsksOnly.attempt_bind ((checkCancelled_asks _).about rfl) fun _ => ?_
      refine AsksOnly.attempt_bind ((Attribution.ofLines_asks _ _ _).about rfl) fun _ => ?_
      exact asksOnly_attempt_pure _
    exact (checking.about asks).sights_eq_nil (by simp)
  simp [quiet, Exchange.sight?]

/-- A check enters its two stages in order, and both of them if it ends with a report. -/
theorem sights_check {scan : Scan} {id : String} {made : List Snapshot} {t : Trace}
    {r : Except Fault Report} (run : Runs (scan.check id made).attempt t r) :
    ∃ entered, entered <+: [.invoking, .parsing] ∧ sights t = entered.map .entered ∧
      ∀ report, r = .ok report → entered = [.invoking, .parsing] := by
  unfold check at run
  rcases runs_attempt_bind.1 run with ⟨t₁, t₂, lines, rfl, print, report⟩ | ⟨fault, rfl, print⟩
  · refine ⟨_, List.prefix_rfl, ?_, fun _ _ => rfl⟩
    rw [sights_append, sights_print print, sights_report report]
    rfl
  · exact ⟨[.invoking], by simp, sights_print print, by simp⟩

/-- Up to the report a scan enters its stages in order.  It ends with a report only after the last
of them, or straight after it has found that there are no files. -/
theorem sights_perform {scan : Scan} {id : String} {t : Trace} {made : List Snapshot}
    {r : Except Fault Report} (run : Runs (scan.perform id) t (made, r)) :
    ∃ (opening : Option Opening) (entered : List Phase), entered <+: laterStages ∧
      sights t = .entered .discovering ::
        (opening.elim [] Opening.sights ++ entered.map .entered) ∧
      ∀ report, r = .ok report → entered = laterStages ∨
        entered = [] ∧ made = [] ∧ Runs scan.start.attempt t (.ok []) := by
  cases runs_perform run with
  | unstarted start =>
    obtain ⟨opening, seen, _⟩ := sights_start start
    exact ⟨opening, [], List.nil_prefix, by simpa using seen, by simp⟩
  | nothing start =>
    obtain ⟨opening, seen, _⟩ := sights_start start
    exact ⟨opening, [], List.nil_prefix, by simpa using seen,
      fun _ _ => Or.inr ⟨rfl, rfl, start⟩⟩
  | unprepared start make =>
    obtain ⟨opening, seen, _⟩ := sights_start start
    have quiet := (make.about (Snapshot.makeAll_asks _ _ _)).sights_eq_nil (by simp)
    refine ⟨opening, [.snapshotting], by simp [laterStages], ?_, by simp⟩
    simp [seen, quiet, Exchange.sight?]
  | prepared start make check =>
    obtain ⟨opening, seen, _⟩ := sights_start start
    have quiet := (make.about (Snapshot.makeAll_asks _ _ _)).sights_eq_nil (by simp)
    obtain ⟨entered, first, seen', all⟩ := sights_check check
    refine ⟨opening, .snapshotting :: entered, List.cons_prefix_cons.2 ⟨rfl, first⟩, ?_,
      fun report h => ?_⟩
    · simp [seen, seen', quiet, Exchange.sight?]
    · exact Or.inl (by rw [all report h]; rfl)

/-- A scan shows the same up to its outcome. -/
theorem sights_obtain {scan : Scan} {id : String} {t : Trace} {r : Except Fault Outcome}
    (run : Runs (scan.obtain id).attempt t r) :
    ∃ (opening : Option Opening) (entered : List Phase), entered <+: laterStages ∧
      sights t = .entered .discovering ::
        (opening.elim [] Opening.sights ++ entered.map .entered) ∧
      (∀ fault, r = .error fault → fault.leaves = true) ∧
      ∀ report, r = .ok (.success report) → entered = laterStages ∨
        entered = [] ∧ Runs scan.start.attempt t (.ok []) := by
  obtain ⟨t₁, t₂, made, ended, removed, rfl, perform, delete, rfl⟩ := runs_obtain.1 run
  obtain ⟨opening, entered, first, seen, success⟩ := sights_perform perform
  have quiet := (delete.about (Snapshot.deleteAll_asks _)).sights_eq_nil (by simp)
  refine ⟨opening, entered, first, ?_, fun _ h => leaves_of_judge h, fun report h => ?_⟩
  · rw [sights_append, seen, quiet, List.append_nil]
  · obtain ⟨rfl, rfl⟩ := eq_ok_of_unlockedWith (eq_ok_of_judge h)
    rcases success report rfl with all | ⟨none, rfl, start⟩
    · exact Or.inl all
    · obtain ⟨rfl, -⟩ := runs_attempt_pure.1 delete
      exact Or.inr ⟨none, by simpa using start⟩

/-- An outcome with which a run concludes is the one that the scan obtained and announced. -/
theorem exists_of_concluded {scan : Scan} {t : Trace} {r : Except Fault Report} {outcome : Outcome}
    (run : Runs scan.run t r) (concluded : ⟨.conclude outcome, ()⟩ ∈ t) :
    ∃ id t₁ t₂ told, Runs (scan.obtain id).attempt t₁ (.ok outcome) ∧
      Runs (announce outcome).attempt t₂ told ∧ r = told.map (fun _ => outcome.report) ∧
      t = ⟨.freshId, id⟩ :: (t₁ ++ ⟨.conclude outcome, ()⟩ :: (t₂ ++ [⟨.enter .idle, ()⟩])) := by
  obtain ⟨id, t₁, ⟨fault, obtained, rfl, rfl⟩ |
    ⟨outcome', t₂, told, obtained, announced, rfl, rfl⟩⟩ := runs_run run
  all_goals
    have undecided := (obtained.about (obtain_asks scan id)).concern_ne (c := .call) (by decide)
  · have before : ⟨.conclude outcome, ()⟩ ∈ t₁ := by simpa using concluded
    exact absurd rfl (undecided _ before)
  · have decided := (announced.about (announce_asks outcome')).concern_ne (c := .call) (by decide)
    have once : ⟨.conclude outcome, ()⟩ ∈ t₁ ∨ outcome = outcome' ∨
        ⟨.conclude outcome, ()⟩ ∈ t₂ := by
      simpa using concluded
    rcases once with before | rfl | after
    · exact absurd rfl (undecided _ before)
    · exact ⟨id, t₁, t₂, told, obtained, announced, rfl, rfl⟩
    · exact absurd rfl (decided _ after)

/-- A call that returns after it concluded returns the report of its outcome. -/
theorem report_of_concluded {scan : Scan} {t : Trace} {report : Report} {outcome : Outcome}
    (run : Runs scan.run t (.ok report)) (concluded : ⟨.conclude outcome, ()⟩ ∈ t) :
    outcome.report = report := by
  obtain ⟨-, -, -, told, -, -, returned, -⟩ := exists_of_concluded run concluded
  cases told with
  | error fault => cases returned
  | ok u => exact (Except.ok.inj returned).symm

/-! ### Calls -/

/-- What a call consists of: the name of the scan, the trace of the stage up to the outcome with
the start that listeners were told of and the later stages that were entered, and the trace of the
telling with its closing.  A fault may take the place of the closing. -/
structure Call where
  id : String
  stage : Trace
  opening : Option Opening
  entered : List Phase
  telling : Trace
  closing : Except Fault Closing

namespace Call

/-- The trace of the call. -/
def trace (c : Call) : Trace :=
  ⟨.freshId, c.id⟩ :: (c.stage ++ (match c.closing with
    | .ok e => ⟨.conclude e.outcome, ()⟩ :: c.telling
    | .error _ => []) ++ [⟨.enter .idle, ()⟩])

/-- The phases that the call enters. -/
def word (c : Call) : List Phase :=
  .discovering :: (c.entered ++ (match c.closing with
    | .ok e => [e.outcome.phase]
    | .error _ => []) ++ [.idle])

/-- What is seen of the telling in the call. -/
def closingSights (c : Call) : List Sight :=
  match c.closing with
  | .ok e => e.sights
  | .error _ => []

/-- The call is one of the scan with this result.  Up to the outcome its stages are seen in order,
and it is a success only after the last of them or when there are no files.  Only a fault that
leaves the scan takes the place of the closing; otherwise the result is the report of the outcome,
or the fault with which the telling ended. -/
structure Sound (scan : Scan) (result : Except Fault Report) (c : Call) : Prop where
  ran : Runs (scan.obtain c.id).attempt c.stage (c.closing.map Closing.outcome)
  inOrder : c.entered <+: laterStages
  stageSeen : sights c.stage = .entered .discovering ::
    (c.opening.elim [] Opening.sights ++ c.entered.map .entered)
  success : ∀ e report, c.closing = .ok e → e.outcome = .success report →
    c.entered = laterStages ∨ c.entered = [] ∧ Runs scan.start.attempt c.stage (.ok [])
  left : ∀ fault, c.closing = .error fault → fault.leaves = true ∧ result = .error fault
  closed : ∀ e, c.closing = .ok e → sights c.telling = e.sights ∧
    ∃ told, e.Ends c.telling told ∧ result = told.map fun _ => e.outcome.report

/-- Listeners hear of the call at most once before its later stages and at most once at its end:
those who are told, and nobody else.  A registry holds nobody twice. -/
structure HeardOnce (c : Call) : Prop where
  starts : ∀ l, (∀ o, c.opening = some o → o.registered.Nodup) →
    (startsFor l c.trace).length ≤ 1
  ends : ∀ e h l, c.closing = .ok e → e.hearing = some h → h.registered.Nodup →
    endsFor l c.trace = if l ∈ h.told then [e.outcome.ending] else []
  silent : ∀ l, (∀ e, c.closing = .ok e → e.hearing = none) → endsFor l c.trace = []

variable {scan : Scan} {result : Except Fault Report} {c : Call}

/-- What is seen of a call from its beginning to its end. -/
theorem Sound.sights_trace (h : c.Sound scan result) :
    sights c.trace = .entered .discovering :: (c.opening.elim [] Opening.sights ++
      c.entered.map .entered ++ c.closingSights ++ [.entered .idle]) := by
  have telling : sights (match c.closing with
      | .ok e => ⟨.conclude e.outcome, ()⟩ :: c.telling
      | .error _ => []) = c.closingSights := by
    unfold closingSights
    cases hc : c.closing with
    | ok e => simp [(h.closed e hc).1, Exchange.sight?]
    | error fault => rfl
  unfold trace
  rw [sights_cons, sights_append, sights_append, h.stageSeen, telling]
  simp [Exchange.sight?]

/-- A view of a call that does not look at the start of the listeners. -/
theorem filterMap_opening {α : Type} {f : Sight → Option α} (c : Call)
    (registered : ∀ ls, f (.registered ls) = none)
    (started : ∀ l files, f (.started l files) = none) :
    (c.opening.elim [] Opening.sights).filterMap f = [] := by
  cases c.opening with
  | none => rfl
  | some o =>
    refine List.filterMap_eq_nil_iff.2 fun sight hs => ?_
    rcases List.mem_cons.1 hs with rfl | hs
    · exact registered _
    · obtain ⟨e, _, rfl⟩ := List.mem_map.1 hs
      exact started _ _

/-- A view of a call that does not look at phases. -/
theorem filterMap_entered {α : Type} {f : Sight → Option α} (phases : List Phase)
    (entered : ∀ phase, f (.entered phase) = none) :
    (phases.map Sight.entered).filterMap f = [] := by
  refine List.filterMap_eq_nil_iff.2 fun sight hs => ?_
  obtain ⟨phase, _, rfl⟩ := List.mem_map.1 hs
  exact entered phase

/-- The phases of a call are its word. -/
theorem Sound.phases_trace (h : c.Sound scan result) : phases c.trace = c.word := by
  have inner : (c.entered.map Sight.entered).filterMap Sight.phase? = c.entered := by
    rw [List.filterMap_map]
    exact List.filterMap_some
  have closing : c.closingSights.filterMap Sight.phase? = match c.closing with
      | .ok e => [e.outcome.phase]
      | .error _ => [] := by
    unfold closingSights
    cases c.closing with
    | error fault => rfl
    | ok e =>
      cases hh : e.hearing <;> cases ho : e.outcome.error? <;>
        simp [Closing.sights, Hearing.sights, Sight.phase?, hh, ho]
  unfold phases word
  rw [h.sights_trace, List.filterMap_cons, List.filterMap_append, List.filterMap_append,
    List.filterMap_append, inner, closing, c.filterMap_opening (fun _ => rfl) fun _ _ => rfl]
  rfl

/-- A listener is told of the start as often as it stands among those who are told. -/
theorem length_startsFor_started (l : Listener) (started : List (Listener × List Handle)) :
    ((started.map fun e => Sight.started e.1 e.2).filterMap (Sight.startFor? l)).length =
      (started.map Prod.fst).count l := by
  induction started with
  | nil => rfl
  | cons e rest ih =>
    rw [List.map_cons, List.filterMap_cons, List.map_cons, List.count_cons, ← ih]
    by_cases he : e.1 = l <;> simp [Sight.startFor?, he]

/-- A listener is told of the end as often as it stands among those who are told. -/
theorem endsFor_ended (l : Listener) (ending : Ending) (told : List Listener) :
    (told.map fun l => Sight.ended l ending).filterMap (Sight.endFor? l) =
      List.replicate (told.count l) ending := by
  induction told with
  | nil => rfl
  | cons l' rest ih =>
    rw [List.map_cons, List.filterMap_cons, List.count_cons, ih]
    by_cases hl : l' = l <;> simp [Sight.endFor?, hl, List.replicate_succ]

/-- What a listener is told of the start is told before the later stages. -/
theorem Sound.startsFor_trace (h : c.Sound scan result) (l : Listener) :
    startsFor l c.trace = (c.opening.elim [] Opening.sights).filterMap (Sight.startFor? l) := by
  have closing : c.closingSights.filterMap (Sight.startFor? l) = [] := by
    unfold closingSights
    cases c.closing with
    | error fault => rfl
    | ok e =>
      cases hh : e.hearing <;> cases ho : e.outcome.error? <;>
        simp [Closing.sights, Hearing.sights, Sight.startFor?, hh, ho]
  unfold startsFor
  rw [h.sights_trace, List.filterMap_cons, List.filterMap_append, List.filterMap_append,
    List.filterMap_append, closing, filterMap_entered _ fun _ => rfl, List.append_nil,
    List.append_nil]
  exact List.append_nil _

/-- What a listener is told of the end is told in the closing. -/
theorem Sound.endsFor_trace (h : c.Sound scan result) (l : Listener) :
    endsFor l c.trace = c.closingSights.filterMap (Sight.endFor? l) := by
  unfold endsFor
  rw [h.sights_trace, List.filterMap_cons, List.filterMap_append, List.filterMap_append,
    List.filterMap_append, filterMap_entered _ fun _ => rfl,
    c.filterMap_opening (fun _ => rfl) fun _ _ => rfl]
  exact List.append_nil _

/-- What a listener is told in the telling of an outcome. -/
theorem endsFor_closing (e : Closing) (l : Listener) :
    e.sights.filterMap (Sight.endFor? l) = match e.hearing with
      | some h => List.replicate (h.told.count l) e.outcome.ending
      | none => [] := by
  unfold Closing.sights
  cases e.hearing with
  | none => cases e.outcome.error? <;> rfl
  | some h =>
    have heard : (h.sights e.outcome.ending).filterMap (Sight.endFor? l) =
        List.replicate (h.told.count l) e.outcome.ending := endsFor_ended l _ h.told
    cases e.outcome.error? <;> exact heard

/-- Nobody hears twice of the start or of the end of a call. -/
theorem Sound.heardOnce (h : c.Sound scan result) : c.HeardOnce where
  starts l nodup := by
    rw [h.startsFor_trace]
    cases ho : c.opening with
    | none => exact Nat.zero_le 1
    | some o =>
      have once : (o.started.map Prod.fst).Nodup := (nodup o ho).sublist o.first.sublist
      calc (o.sights.filterMap (Sight.startFor? l)).length
          = (o.started.map Prod.fst).count l := length_startsFor_started l o.started
        _ ≤ 1 := List.nodup_iff_count.1 once l
  ends e hearing l hc hh nodup := by
    have once : hearing.told.Nodup := nodup.sublist hearing.first.sublist
    rw [h.endsFor_trace, closingSights, hc]
    dsimp only
    rw [endsFor_closing, hh]
    dsimp only
    rw [once.count]
    split <;> rfl
  silent l none := by
    rw [h.endsFor_trace, closingSights]
    cases hc : c.closing with
    | error fault => rfl
    | ok e =>
      dsimp only
      rw [endsFor_closing, none e hc]

end Call

/-- Behind every run of a scan there is a call that says what is seen of it. -/
theorem exists_call {scan : Scan} {t : Trace} {result : Except Fault Report}
    (run : Runs scan.run t result) : ∃ c : Call, c.trace = t ∧ c.Sound scan result := by
  obtain ⟨id, t₁, ⟨fault, obtained, rfl, rfl⟩ |
    ⟨outcome, t₂, told, obtained, announced, rfl, rfl⟩⟩ := runs_run run
  · obtain ⟨opening, entered, first, seen, leaves, _⟩ := sights_obtain obtained
    refine ⟨⟨id, t₁, opening, entered, [], .error fault⟩, by simp [Call.trace], ?_⟩
    exact {
      ran := obtained
      inOrder := first
      stageSeen := seen
      success := fun _ _ h => by cases h
      left := fun _ h => by cases h; exact ⟨leaves fault rfl, rfl⟩
      closed := fun _ h => by cases h }
  · obtain ⟨opening, entered, first, seen, _, success⟩ := sights_obtain obtained
    obtain ⟨hearing, ends, told_seen⟩ := runs_announce announced
    refine ⟨⟨id, t₁, opening, entered, t₂, .ok ⟨outcome, hearing⟩⟩, by simp [Call.trace], ?_⟩
    exact {
      ran := obtained
      inOrder := first
      stageSeen := seen
      success := fun e report h ho => by
        cases h
        exact success report (congrArg Except.ok ho)
      left := fun _ h => by cases h
      closed := fun e h => by
        cases h
        exact ⟨told_seen, told, ends, rfl⟩ }

/-! ### The history of a scan -/

/-- The phases that a scan has been in after calls with these traces. -/
def history (traces : List Trace) : List Phase := .idle :: traces.flatMap phases

/-- Every call adds one word to the history of a scan, and listeners hear of it once. -/
theorem history_calls {scan : Scan} {runs : List (Trace × Except Fault Report)}
    (hruns : ∀ run ∈ runs, Runs scan.run run.1 run.2) :
    ∃ calls : List Call,
      List.Forall₂ (fun run c => c.trace = run.1 ∧ c.Sound scan run.2 ∧ c.HeardOnce) runs calls ∧
      history (runs.map Prod.fst) = .idle :: calls.flatMap Call.word := by
  induction runs with
  | nil => exact ⟨[], List.Forall₂.nil, rfl⟩
  | cons run rest ih =>
    obtain ⟨calls, sound, same⟩ := ih fun run h => hruns run (List.mem_cons_of_mem _ h)
    obtain ⟨c, trace, h⟩ := exists_call (hruns run List.mem_cons_self)
    refine ⟨c :: calls, List.Forall₂.cons ⟨trace, h, h.heardOnce⟩ sound, ?_⟩
    have tail : (rest.map Prod.fst).flatMap phases = calls.flatMap Call.word :=
      (List.cons.inj same).2
    unfold history
    rw [List.map_cons, List.flatMap_cons, List.flatMap_cons, tail, ← trace, h.phases_trace]

/-! ### A listener that hears nothing -/

/-- A scan of files for which everything else is provided. -/
def provided (files : List Handle) : Scan where
  project := { base := "/p", sourceRoots := ["/p"], excludedRoots := [] }
  settings := Settings.default
  targets := .files files
  picker := .provided
  runner := .provided
  cwd := "/"

/-- Two listeners are registered, and the first has no memory for the end of a scan. -/
def exhausted : (r : Request) → r.Reply
  | .listeners => [⟨"first"⟩, ⟨"second"⟩]
  | .tellEnd ⟨"first"⟩ _ => .error (.raised .memory "MemoryError" "")
  | r => r.nothing

/-- Two calls of a scan: one that comes to its end, and one whose telling is cut short. -/
theorem history_two_calls :
    let ended := answered Request.nothing (provided [{ path := "/p/a.py" }]).run
    let cut := answered exhausted (provided [{ path := "/p/a.py" }]).run
    let word : List Phase :=
      [.discovering, .snapshotting, .invoking, .parsing, .notifyingSuccess, .idle]
    history [ended.1, cut.1] = .idle :: (word ++ word) ∧
      ∃ calls : List Call,
        List.Forall₂ (fun run c => c.trace = run.1 ∧
          c.Sound (provided [{ path := "/p/a.py" }]) run.2 ∧ c.HeardOnce) [ended, cut] calls ∧
        history [ended.1, cut.1] = .idle :: calls.flatMap Call.word := by
  intro ended cut word
  refine ⟨by decide +kernel, history_calls fun run h => ?_⟩
  rcases List.mem_cons.1 h with rfl | h
  · exact runs_answered _ _
  · obtain rfl := List.mem_singleton.1 h
    exact runs_answered _ _

/-- Not every registered listener is told of the outcome of every scan that has one, even when the
registry is the same all the time: one listener without memory keeps the next from hearing of it. -/
theorem not_all_registered_told :
    ¬ ∀ (scan : Scan) (t : Trace) (result : Except Fault Report), Runs scan.run t result →
      ∀ outcome, ⟨.conclude outcome, ()⟩ ∈ t → ∀ ls : List Listener, ls.Nodup →
        (∀ ls', .registered ls' ∈ sights t → ls' = ls) →
        ∀ l ∈ ls, endsFor l t = [outcome.ending] := by
  intro all
  have concluded : ⟨.conclude (.success (.empty "")), ()⟩ ∈
      (answered exhausted (provided []).run).1 :=
    List.mem_of_getElem? (i := 9) rfl
  have seen : sights (answered exhausted (provided []).run).1 =
      [.entered .discovering, .registered [⟨"first"⟩, ⟨"second"⟩], .started ⟨"first"⟩ [],
        .started ⟨"second"⟩ [], .entered .notifyingSuccess,
        .registered [⟨"first"⟩, ⟨"second"⟩],
        .ended ⟨"first"⟩ (.completed (.empty "")), .entered .idle] := by
    decide +kernel
  have told := all (provided []) _ _ (runs_answered exhausted _) _ concluded
    [⟨"first"⟩, ⟨"second"⟩] (by decide) (by simp [seen]) ⟨"second"⟩ (by simp)
  unfold endsFor at told
  rw [seen] at told
  cases told

end LiveCheck.Scan
