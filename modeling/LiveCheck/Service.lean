import LiveCheck.Report
import LiveCheck.Program

namespace LiveCheck

/-! ### The service: scans in the background

A service accepts scans and numbers them in the order in which they are submitted. Every accepted
scan can be cancelled on its own, and is in flight until its future is done. The report that the
service keeps is that of the newest scan that succeeded: an older scan that ends late never
replaces it. A service that was shut down accepts nothing. -/

/-- The number of an accepted scan. -/
abbrev ScanNumber := Nat

/-- A successful scan, as it was recorded. -/
structure Recorded where
  number : ScanNumber
  /-- What the call of the scan returned. -/
  report : Report
  outcome : Outcome
deriving DecidableEq, Repr

/-- The state of a service. -/
structure Service where
  closed : Bool := false
  listeners : List Listener := []
  /-- The number of the last accepted scan. -/
  accepted : ScanNumber := 0
  inFlight : List ScanNumber := []
  /-- The scans that are cancelled. -/
  cancelled : List ScanNumber := []
  last : Option Recorded := none
deriving DecidableEq, Repr

namespace Service

/-- The fault of a scan that comes too late. -/
def closedFault : Fault := .raised .other "RuntimeError" "MypyPlugin has been shut down"

/-- A list with one more listener, unless it is there. -/
def withListener (listeners : List Listener) (l : Listener) : List Listener :=
  if l ∈ listeners then listeners else listeners ++ [l]

/-- Add a listener to the scans that are accepted from now on. -/
def addListener (s : Service) (l : Listener) : Service :=
  { s with listeners := withListener s.listeners l }

/-- Remove a listener from the scans that are accepted from now on. -/
def removeListener (s : Service) (l : Listener) : Service :=
  { s with listeners := s.listeners.erase l }

/-- Accept a scan: its number. -/
def submit (s : Service) : Except Fault (ScanNumber × Service) :=
  if s.closed then .error closedFault
  else
    let number := s.accepted + 1
    .ok (number, { s with accepted := number, inFlight := s.inFlight ++ [number] })

/-- The number of the scan whose report is kept, and zero if there is none. -/
def lastNumber (s : Service) : ScanNumber := (s.last.map (·.number)).getD 0

/-- The report that is kept. -/
def lastReport (s : Service) : Option Report := s.last.map (·.report)

/-- The outcome of the scan whose report is kept. -/
def lastOutcome (s : Service) : Option Outcome := s.last.map (·.outcome)

/-- Record what a scan returned and its outcome: they count if the scan succeeded and is newer than
the one whose report is kept. -/
def record (s : Service) (number : ScanNumber) (report : Report) (outcome : Outcome) : Service :=
  if outcome.isSuccess ∧ s.lastNumber < number then
    { s with last := some { number, report, outcome } }
  else s

/-- Forget a scan whose future is done. -/
def forget (s : Service) (number : ScanNumber) : Service :=
  { s with inFlight := s.inFlight.erase number }

/-- Is a scan in flight? -/
def isScanning (s : Service) : Bool := s.inFlight ≠ []

/-- Is this scan cancelled? -/
def isCancelled (s : Service) (number : ScanNumber) : Bool := s.cancelled.contains number

/-- Cancel all scans in flight: their number. -/
def cancelAll (s : Service) : Nat × Service :=
  (s.inFlight.length, { s with cancelled := s.cancelled ++ s.inFlight })

/-- Accept nothing any more, and cancel all scans in flight if that is wanted. A second time this
does nothing. -/
def close (s : Service) (cancel : Bool) : Service :=
  if s.closed then s
  else
    let s := { s with closed := true }
    if cancel then s.cancelAll.2 else s

end Service

/-! ### The workers

Accepted scans wait in a queue for one of a fixed number of workers. A scan that waits can be
taken back; one that runs cannot. -/

/-- What has become of an accepted scan. -/
inductive Future where
  | pending
  | running
  /-- Taken back before it ran. -/
  | withdrawn
  | done (report : Report)
  /-- A fault left the scan. -/
  | failed (fault : Fault)
deriving DecidableEq, Repr

/-- The workers and what has become of the scans given to them, oldest first. -/
structure Pool where
  workers : Nat
  futures : Table ScanNumber Future := []
deriving DecidableEq, Repr

namespace Pool

/-- Add a scan to the queue. -/
def enqueue (p : Pool) (number : ScanNumber) : Pool :=
  { p with futures := p.futures.put number .pending }

/-- The number of busy workers. -/
def busy (p : Pool) : Nat := p.futures.countP fun entry => entry.2 = .running

/-- The next scan that a worker can begin. -/
def next? (p : Pool) : Option ScanNumber :=
  if p.busy < p.workers then (p.futures.find? fun entry => entry.2 = .pending).map (·.1) else none

/-- A worker begins a scan. -/
def begin_ (p : Pool) (number : ScanNumber) : Pool :=
  { p with futures := p.futures.put number .running }

/-- A worker ends a scan. -/
def finish (p : Pool) (number : ScanNumber) (result : Except Fault Report) : Pool :=
  { p with futures := p.futures.put number (match result with
      | .ok report => .done report
      | .error fault => .failed fault) }

/-- Take back a scan that has not begun: whether it is taken back now or was before. -/
def withdraw (p : Pool) (number : ScanNumber) : Bool × Pool :=
  match p.futures.get? number with
  | some .pending => (true, { p with futures := p.futures.put number .withdrawn })
  | some .withdrawn => (true, p)
  | _ => (false, p)

end Pool

end LiveCheck
