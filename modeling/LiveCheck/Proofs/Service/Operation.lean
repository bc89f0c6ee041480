import Mathlib.Data.List.Range
import Mathlib.Logic.Relation
import LiveCheck.Proofs.Scan.Calls
import LiveCheck.Proofs.Table
import LiveCheck.Session.Moving

/-!
# A service in operation

Many threads are at work on one service: those who submit scans, its workers, those who take scans
back, and those who cancel all scans or shut the service down.  Whatever one of them does under the
lock of the service is one step, and so is whatever it does to a future or to a token; between two
steps of one thread any others may come.  `Step` lists the steps, in terms of the same functions
that change a service and its pool everywhere else, and says nothing about the order of the queue
or the number of workers, so it allows more than any pool does.

A scan has one number, and the table of scans in flight, its future and its token are known by it.
How far everybody has come who is in the middle of something is part of the state: for every scan
its worker (`Stage`) and the note to forget it (`Note`), and for every caller who cancels all scans
the tokens that he has still to trip (`Sweep`).

`numbered` says that the futures, in the order of their submission, have the numbers 1, 2, 3 and so
on.  The last part shows that what a session does to its service at once, `cancelAll` and `close`,
is a run of these steps.
-/

namespace LiveCheck

open Program (Runs)

namespace Service

/-- Accept nothing any more. -/
def shut (s : Service) : Service := { s with closed := true }

/-- Trip the token of a scan. -/
def trip (s : Service) (number : ScanNumber) : Service :=
  { s with cancelled := s.cancelled ++ [number] }

/-- What is kept after a scan is recorded: the scan itself, if it succeeded and is newer than the
one that was kept, and else what was kept before. -/
theorem last_record (s : Service) (number : ScanNumber) (report : Report) (outcome : Outcome) :
    (s.record number report outcome).last =
      if outcome.isSuccess ∧ s.lastNumber < number then some { number, report, outcome }
      else s.last :=
  apply_ite Service.last _ _ _

/-- To record a scan does not lower the number of the scan that is kept. -/
theorem lastNumber_le_record (s : Service) (number : ScanNumber) (report : Report)
    (outcome : Outcome) : s.lastNumber ≤ (s.record number report outcome).lastNumber := by
  unfold lastNumber
  rw [last_record]
  split
  · next counts => exact counts.2.le
  · exact le_rfl

/-- After a success is recorded, a scan is kept that is at least as new. -/
theorem le_lastNumber_record (s : Service) (number : ScanNumber) (report : Report)
    {outcome : Outcome} (success : outcome.isSuccess = true) :
    number ≤ (s.record number report outcome).lastNumber := by
  unfold lastNumber
  rw [last_record]
  split
  · exact le_rfl
  · next older => exact not_lt.1 fun newer => older ⟨success, newer⟩

/-- To record a scan changes nothing else. -/
theorem record_eq (s : Service) (number : ScanNumber) (report : Report) (outcome : Outcome) :
    s.record number report outcome =
      { s with last := (s.record number report outcome).last } := by
  unfold record
  split <;> rfl

section Record

variable (s : Service) (number number' : ScanNumber) (report : Report) (outcome : Outcome)

@[simp] theorem closed_record : (s.record number report outcome).closed = s.closed := by
  rw [record_eq]

@[simp] theorem accepted_record : (s.record number report outcome).accepted = s.accepted := by
  rw [record_eq]

@[simp] theorem inFlight_record : (s.record number report outcome).inFlight = s.inFlight := by
  rw [record_eq]

@[simp] theorem isCancelled_record :
    (s.record number report outcome).isCancelled number' = s.isCancelled number' := by
  rw [record_eq]
  rfl

end Record

/-- To trip the token of a scan cancels it and no other. -/
theorem isCancelled_trip (s : Service) {number number' : ScanNumber} :
    (s.trip number).isCancelled number' = true ↔
      number' = number ∨ s.isCancelled number' = true := by
  unfold isCancelled trip
  rw [List.contains_iff_mem, List.contains_iff_mem, List.mem_append, List.mem_singleton, or_comm]

/-- To trip tokens one after the other is to trip them all. -/
theorem foldl_trip (s : Service) (numbers : List ScanNumber) :
    numbers.foldl trip s = { s with cancelled := s.cancelled ++ numbers } := by
  induction numbers generalizing s with
  | nil => simp
  | cons number rest ih => rw [List.foldl_cons, ih, trip, List.append_assoc]; rfl

/-- To cancel all scans is to read the table and to trip the tokens in it. -/
theorem cancelAll_eq (s : Service) :
    s.cancelAll = (s.inFlight.length, s.inFlight.foldl trip s) := by
  rw [foldl_trip]
  rfl

/-- To close a service is to shut it, and to cancel all scans if that is wanted. -/
theorem close_eq (s : Service) (cancel : Bool) (unshut : s.closed = false) :
    s.close cancel = if cancel then s.shut.cancelAll.2 else s.shut := by
  unfold close
  rw [unshut]
  rfl

/-- A scan is accepted by a service that is not shut, and has the next number. -/
theorem submit_eq_ok {s s' : Service} {number : ScanNumber}
    (accepted : s.submit = .ok (number, s')) :
    s.closed = false ∧ number = s.accepted + 1 ∧
      s' = { s with accepted := s.accepted + 1, inFlight := s.inFlight ++ [s.accepted + 1] } := by
  unfold submit at accepted
  split at accepted
  · cases accepted
  · next unshut =>
    cases accepted
    exact ⟨by simpa using unshut, rfl, rfl⟩

/-- A service that is shut accepts nothing. -/
theorem submit_eq_error {s : Service} (shut : s.closed = true) : s.submit = .error closedFault := by
  unfold submit
  rw [if_pos shut]

end Service

/-- A scan that waits and is taken back. -/
theorem Pool.futures_withdraw {p : Pool} {number : ScanNumber}
    (waits : p.futures.get? number = some .pending) :
    (p.withdraw number).2.futures = p.futures.put number .withdrawn := by
  unfold withdraw
  rw [waits]

/-- Is a future done, so that nothing more happens to it? -/
def Future.isOver : Future → Bool
  | pending | running => false
  | withdrawn | done _ | failed _ => true

/-- How far the worker of a scan has come. -/
inductive Stage where
  /-- The call of the scan has not ended. -/
  | unended
  /-- The call has returned a report and has had an outcome, which is not recorded yet. -/
  | returned (report : Report) (outcome : Outcome)
  /-- The outcome is recorded, or was found not to count. -/
  | recorded (report : Report) (outcome : Outcome)
  /-- A fault has left the call. -/
  | left (fault : Fault)

/-- What the future of a scan is given when its worker is done with it. -/
def Stage.result? : Stage → Option (Except Fault Report)
  | recorded report _ => some (.ok report)
  | left fault => some (.error fault)
  | _ => none

/-- What has become of the note to forget a scan when its future is done. -/
inductive Note where
  | unattached
  | attached
  /-- The future is done, and whoever has found it so is about to forget the scan. -/
  | due
  | heeded
deriving DecidableEq

/-- The note after the future is done. -/
def Note.atEnd : Note → Note
  | attached => due
  | note => note

/-- How far a caller has come who cancels all scans, perhaps because he shuts the service down. -/
inductive Sweep where
  | unbegun
  /-- He has shut the service and has not read the table yet. -/
  | closing
  /-- He has read these scans, and these are left whose tokens he has to trip. -/
  | under (read left : List ScanNumber) (closes : Bool)
  /-- He has tripped the tokens of so many scans. -/
  | swept (count : Nat) (closes : Bool)

/-- A service, its pool, and how far everybody has come. -/
structure Operation (κ : Type) where
  service : Service
  pool : Pool
  stages : ScanNumber → Stage
  notes : ScanNumber → Note
  sweeps : κ → Sweep

namespace Operation

variable {κ : Type}

/-- A new service. -/
def start (κ : Type) (workers : Nat) : Operation κ where
  service := {}
  pool := { workers }
  stages := fun _ => .unended
  notes := fun _ => .unattached
  sweeps := fun _ => .unbegun

variable [DecidableEq κ]

/-- A caller reads the table of scans in flight. -/
def read (s : Operation κ) (c : κ) (closes : Bool) : Operation κ :=
  let sweep := .under s.service.inFlight s.service.inFlight closes
  { s with sweeps := Function.update s.sweeps c sweep }

/-- What the caller has to do afterwards. -/
@[simp] theorem sweeps_read_self (s : Operation κ) (c : κ) (closes : Bool) :
    (s.read c closes).sweeps c = .under s.service.inFlight s.service.inFlight closes :=
  Function.update_self ..

/-- What one thread does in one piece. -/
inductive Step (scans : ScanNumber → Scan) : Operation κ → Operation κ → Prop where
  /-- A scan is accepted: it is numbered, queued and put into the table. -/
  | submit {s : Operation κ} {number : ScanNumber} {service : Service}
      (accepted : s.service.submit = .ok (number, service)) :
      Step scans s { s with service, pool := s.pool.enqueue number }
  /-- Whoever has submitted a scan attaches the note to its future. -/
  | attach {s : Operation κ} {number : ScanNumber} {future : Future}
      (known : s.pool.futures.get? number = some future)
      (unattached : s.notes number = .unattached) :
      Step scans s { s with
        notes := Function.update s.notes number (if future.isOver then .due else .attached) }
  /-- A worker begins a scan. -/
  | begins {s : Operation κ} {number : ScanNumber}
      (waits : s.pool.futures.get? number = some .pending) :
      Step scans s { s with pool := s.pool.begin_ number }
  /-- The call of a scan returns. -/
  | returns {s : Operation κ} {number : ScanNumber} {t : Trace} {report : Report}
      {outcome : Outcome} (running : s.pool.futures.get? number = some .running)
      (unended : s.stages number = .unended) (run : Runs (scans number).run t (.ok report))
      (concluded : ⟨.conclude outcome, ()⟩ ∈ t) :
      Step scans s { s with
        stages := Function.update s.stages number (.returned report outcome) }
  /-- A fault leaves the call of a scan. -/
  | leaves {s : Operation κ} {number : ScanNumber} {t : Trace} {fault : Fault}
      (running : s.pool.futures.get? number = some .running)
      (unended : s.stages number = .unended) (run : Runs (scans number).run t (.error fault)) :
      Step scans s { s with stages := Function.update s.stages number (.left fault) }
  /-- A worker records the outcome of a call that has returned. -/
  | records {s : Operation κ} {number : ScanNumber} {report : Report} {outcome : Outcome}
      (returned : s.stages number = .returned report outcome) :
      Step scans s { s with
        service := s.service.record number report outcome
        stages := Function.update s.stages number (.recorded report outcome) }
  /-- A worker gives the future its result. -/
  | resolves {s : Operation κ} {number : ScanNumber} {result : Except Fault Report}
      (running : s.pool.futures.get? number = some .running)
      (ended : (s.stages number).result? = some result) :
      Step scans s { s with
        pool := s.pool.finish number result
        notes := Function.update s.notes number (s.notes number).atEnd }
  /-- Somebody takes back a scan that has not begun. -/
  | withdraws {s : Operation κ} {number : ScanNumber}
      (waits : s.pool.futures.get? number = some .pending) :
      Step scans s { s with
        pool := (s.pool.withdraw number).2
        notes := Function.update s.notes number (s.notes number).atEnd }
  /-- Somebody forgets a scan whose future he has found done. -/
  | forgets {s : Operation κ} {number : ScanNumber} (due : s.notes number = .due) :
      Step scans s { s with
        service := s.service.forget number
        notes := Function.update s.notes number .heeded }
  /-- Somebody shuts the service down without cancelling anything. -/
  | shuts {s : Operation κ} (unshut : s.service.closed = false) :
      Step scans s { s with service := s.service.shut }
  /-- A caller shuts the service down and is going to cancel all scans. -/
  | closes {s : Operation κ} {c : κ} (unshut : s.service.closed = false)
      (unbegun : s.sweeps c = .unbegun) :
      Step scans s { s with
        service := s.service.shut, sweeps := Function.update s.sweeps c .closing }
  /-- A caller who cancels all scans reads the table. -/
  | reads {s : Operation κ} {c : κ} {closes : Bool}
      (ready : s.sweeps c = if closes then .closing else .unbegun) : Step scans s (s.read c closes)
  /-- He trips the next token. -/
  | trips {s : Operation κ} {c : κ} {read left : List ScanNumber} {number : ScanNumber}
      {closes : Bool} (under : s.sweeps c = .under read (number :: left) closes) :
      Step scans s { s with
        service := s.service.trip number
        sweeps := Function.update s.sweeps c (.under read left closes) }
  /-- No token is left, and he learns how many scans he has read. -/
  | counts {s : Operation κ} {c : κ} {read : List ScanNumber} {closes : Bool}
      (under : s.sweeps c = .under read [] closes) :
      Step scans s { s with sweeps := Function.update s.sweeps c (.swept read.length closes) }

/-- The states that come after some steps. -/
abbrev Leads (scans : ScanNumber → Scan) : Operation κ → Operation κ → Prop :=
  Relation.ReflTransGen (Step scans)

/-- The states that a new service comes to. -/
def Reachable (scans : ScanNumber → Scan) (workers : Nat) (s : Operation κ) : Prop :=
  Leads scans (start κ workers) s

variable {scans : ScanNumber → Scan} {workers : Nat} {s s' : Operation κ}

/-! ### The numbers of scans -/

/-- The futures have the numbers that were given to scans, in the order of their submission. -/
def Numbered (accepted : ScanNumber) (futures : Table ScanNumber Future) : Prop :=
  futures.keys = List.range' 1 accepted

/-- Only numbers that were given are known. -/
theorem Numbered.bounds {accepted number : ScanNumber} {futures : Table ScanNumber Future}
    {future : Future} (h : Numbered accepted futures)
    (known : futures.get? number = some future) : 0 < number ∧ number ≤ accepted := by
  have key : number ∈ futures.keys := Table.mem_keys_of_get? known
  rw [h, List.mem_range'_1] at key
  exact ⟨key.1, Nat.lt_one_add_iff.1 key.2⟩

/-- The next number is not known. -/
theorem Numbered.notMem_keys_succ {accepted : ScanNumber} {futures : Table ScanNumber Future}
    (h : Numbered accepted futures) : accepted + 1 ∉ futures.keys := by
  rw [h, List.mem_range'_1, Nat.add_comm 1]
  exact fun bounds => Nat.lt_irrefl _ bounds.2

/-- A known future is changed. -/
theorem Numbered.put {accepted number : ScanNumber} {futures : Table ScanNumber Future}
    {future : Future} (h : Numbered accepted futures)
    (known : futures.get? number = some future) (future' : Future) :
    Numbered accepted (futures.put number future') := by
  unfold Numbered
  rw [Table.keys_put, if_pos (Table.mem_keys_of_get? known)]
  exact h

/-- One step. -/
theorem Numbered.step (h : Numbered s.service.accepted s.pool.futures) (step : Step scans s s') :
    Numbered s'.service.accepted s'.pool.futures := by
  cases step with
  | submit accepted =>
    obtain ⟨-, rfl, rfl⟩ := Service.submit_eq_ok accepted
    change (Table.put _ _ _).keys = List.range' 1 (s.service.accepted + 1)
    rw [Table.keys_put, if_neg h.notMem_keys_succ, h, List.range'_concat, Nat.one_mul,
      Nat.add_comm 1]
  | begins waits => exact h.put waits _
  | resolves running ended => exact h.put running _
  | withdraws waits =>
    have put := h.put waits .withdrawn
    rwa [← Pool.futures_withdraw waits] at put
  | records returned => simpa using h
  | attach | returns | leaves | forgets | shuts | closes | reads | trips | counts => exact h

/-- Many steps. -/
theorem Numbered.leads (h : Numbered s.service.accepted s.pool.futures)
    (leads : Leads scans s s') : Numbered s'.service.accepted s'.pool.futures := by
  induction leads with
  | refl => exact h
  | tail _ step ih => exact ih.step step

/-- The futures of a service in operation have the numbers 1, 2, 3 and so on, in the order in which
their scans were submitted. -/
theorem Reachable.numbered (reached : Reachable scans workers s) :
    Numbered s.service.accepted s.pool.futures :=
  Numbered.leads (show Numbered (start κ workers).service.accepted _ from rfl) reached

/-- A scan whose number was given is known. -/
theorem Numbered.exists_get? {accepted number : ScanNumber} {futures : Table ScanNumber Future}
    (h : Numbered accepted futures) (positive : 0 < number) (le : number ≤ accepted) :
    ∃ future, futures.get? number = some future := by
  refine Table.exists_get? ?_
  rw [h, List.mem_range'_1]
  exact ⟨positive, Nat.lt_one_add_iff.2 le⟩

/-- One step gives no number back. -/
theorem Step.accepted_le (step : Step scans s s') : s.service.accepted ≤ s'.service.accepted := by
  cases step with
  | submit accepted =>
    obtain ⟨-, -, rfl⟩ := Service.submit_eq_ok accepted
    exact Nat.le_succ _
  | records returned => simp
  | attach | begins | returns | leaves | resolves | withdraws | forgets | shuts | closes | reads
  | trips | counts => exact le_rfl

/-- Numbers are not given back. -/
theorem Leads.accepted_le (leads : Leads scans s s') :
    s.service.accepted ≤ s'.service.accepted := by
  induction leads with
  | refl => exact le_rfl
  | tail _ step ih => exact ih.trans step.accepted_le

/-! ### What is done at once -/

/-- A caller who has read the table trips the tokens that are left and learns their number. -/
theorem leads_trips {c : κ} {read left : List ScanNumber} {closes : Bool}
    (under : s.sweeps c = .under read left closes) :
    Leads scans s { s with
      service := left.foldl Service.trip s.service
      sweeps := Function.update s.sweeps c (.swept read.length closes) } := by
  induction left generalizing s with
  | nil => exact .single (.counts under)
  | cons number rest ih =>
    refine .head (.trips under) ?_
    have on := ih (s := { s with
      service := s.service.trip number
      sweeps := Function.update s.sweeps c (.under read rest closes) }) (Function.update_self ..)
    rwa [Function.update_idem] at on

/-- A caller cancels all scans at once. -/
def cancelAll (s : Operation κ) (c : κ) (closes : Bool) : Operation κ :=
  { s with
    service := s.service.cancelAll.2
    sweeps := Function.update s.sweeps c (.swept s.service.cancelAll.1 closes) }

/-- A caller shuts the service down and cancels all scans at once. -/
def close (s : Operation κ) (c : κ) : Operation κ :=
  { s with
    service := s.service.close true
    sweeps := Function.update s.sweeps c (.swept s.service.inFlight.length true) }

/-- To cancel all scans at once is a run of a caller that begins when he reads the table. -/
theorem leads_cancelAll (s : Operation κ) (c : κ) (closes : Bool) :
    Leads scans (s.read c closes) (s.cancelAll c closes) := by
  have on : Leads scans (s.read c closes) _ := leads_trips (Function.update_self ..)
  unfold cancelAll
  rw [Service.cancelAll_eq]
  unfold read at on ⊢
  rwa [Function.update_idem] at on

/-- To shut a service down at once and cancel its scans is a run of a caller. -/
theorem leads_close {c : κ} (unshut : s.service.closed = false) (unbegun : s.sweeps c = .unbegun) :
    Leads scans s (s.close c) := by
  let shut : Operation κ := { s with
    service := s.service.shut
    sweeps := Function.update s.sweeps c .closing }
  have ready : shut.sweeps c = if true then .closing else .unbegun := Function.update_self ..
  have on : Leads scans shut (shut.cancelAll c true) := .head (.reads ready) (leads_cancelAll ..)
  refine .head (.closes unshut unbegun) ?_
  unfold cancelAll at on
  rw [Function.update_idem] at on
  unfold close
  rwa [Service.close_eq _ _ unshut]

/-- What a session does at once when a scan has returned is a run of its worker: the outcome is
recorded, the future gets its result, and the scan is forgotten. -/
theorem leads_afterScan {number : ScanNumber} {report : Report} {outcome : Outcome}
    {b : Background} (service : b.service = s.service) (pool : b.pool = s.pool)
    (noted : (b.planned.get? number).bind (·.outcome) = some outcome)
    (running : s.pool.futures.get? number = some .running)
    (returned : s.stages number = .returned report outcome)
    (attached : s.notes number = .attached) :
    Leads scans s { s with
      service := (Session.afterScan b number (.ok report)).service
      pool := (Session.afterScan b number (.ok report)).pool
      stages := Function.update s.stages number (.recorded report outcome)
      notes := Function.update s.notes number .heeded } := by
  let stages := Function.update s.stages number (.recorded report outcome)
  have ended : (stages number).result? = some (.ok report) := by
    change (Function.update s.stages number _ number).result? = _
    rw [Function.update_self]
    rfl
  have due : Function.update s.notes number (s.notes number).atEnd number = .due := by
    rw [Function.update_self, attached]
    rfl
  have recorded : Leads scans s _ := .single (.records returned)
  have resolved : Leads scans s _ := recorded.tail (.resolves running ended)
  have forgotten : Leads scans s _ := resolved.tail (.forgets due)
  unfold Session.afterScan
  rw [noted, service, pool]
  dsimp only at forgotten ⊢
  rwa [Function.update_idem] at forgotten

/-! ### Two scans of nothing -/

/-- Every scan has nothing to scan. -/
def idleScans (_ : ScanNumber) : Scan := .provided []

/-- Two scans were accepted. -/
def twoAccepted : Operation Unit where
  service := { accepted := 2, inFlight := [1, 2] }
  pool := { workers := 2, futures := [(1, .pending), (2, .pending)] }
  stages := fun _ => .unended
  notes := fun _ => .unattached
  sweeps := fun _ => .unbegun

/-- A new service comes there. -/
theorem reachable_twoAccepted : Reachable idleScans 2 twoAccepted := by
  have first : Reachable idleScans 2 (_ : Operation Unit) := .single (.submit rfl)
  have second : Reachable idleScans 2 (_ : Operation Unit) := first.tail (.submit rfl)
  exact second

end Operation

end LiveCheck
