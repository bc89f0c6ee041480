import LiveCheck.Session.Surroundings

namespace LiveCheck

/-! ### Scans that move in the background

The scans of a service move between two steps, until every one of them is done, stands before a
closed gate, or has no worker. They move one after the other: first those whose gates have opened,
oldest first, then the ones that wait for a worker, in the order in which they were submitted. A
scan leaves a gate that stays closed only when somebody waits for all scans to end and it is
cancelled. -/

namespace Session

/-- How far a scan has come. -/
inductive Progress where
  | ended (result : Except Fault Report)
  | gated (at_ : Gated)

/-- Is there a closed gate before these paths? -/
def gateIsClosed (b : Background) (paths : List String) : Bool :=
  b.gates.any fun gate => !b.opened.contains gate &&
    paths.any fun path => ('/' :: gate.toList).isSuffixOf path.toList

/-- Move a scan until it ends or stands before a closed gate. -/
def advance (play : Player) (number : ScanNumber) :
    Program (Except Fault Report) → SessionM Progress
  | .done result => pure (.ended result)
  | .ask (.invoke root paths) next => do
    let plan ← beginRunner (.service number) root paths
    if ((← get).background.map (gateIsClosed · paths)).getD false then
      pure (.gated { number, plan, root, paths, next })
    else
      let reply ← finishRunner play (.service number) plan root paths
      advance play number (next reply)
  | .ask r next => do
    let reply ← answer play (.service number) r
    advance play number (next reply)

/-- The service after a scan has ended: a result is recorded, and the scan is forgotten. -/
def afterScan (b : Background) (number : ScanNumber) (result : Except Fault Report) :
    Background :=
  let service := match result, (b.planned.get? number).bind (·.outcome) with
    | .ok report, some outcome => b.service.record number report outcome
    | _, _ => b.service
  { b with service := service.forget number, pool := b.pool.finish number result }

/-- Note how far a scan has come. -/
def note (number : ScanNumber) : Progress → SessionM Unit
  | .gated at_ => modifyBackground fun b => { b with gated := b.gated ++ [at_] }
  | .ended result => modifyBackground fun b => afterScan b number result

/-- Move a scan on that stood before a gate. -/
def leaveGate (play : Player) (at_ : Gated) : SessionM Unit := do
  let asker := Asker.service at_.number
  let reply ← if (← get).isCancelled asker then pure (.error .scanCancelled)
    else finishRunner play asker at_.plan at_.root at_.paths
  note at_.number (← advance play at_.number (at_.next reply))

/-- Can a scan leave its gate? -/
def canLeave (b : Background) (waiting : Bool) (at_ : Gated) : Bool :=
  !gateIsClosed b at_.paths || (waiting && b.service.isCancelled at_.number)

/-- Begin the next scan, if there is one and a worker for it. -/
def beginNext (play : Player) : SessionM Bool := do
  match (← get).background.bind (·.pool.next?) with
  | none => pure false
  | some number =>
    modifyBackground fun b => { b with pool := b.pool.begin_ number }
    match (← get).planned? (.service number) with
    | some planned => note number (← advance play number planned.scan.run)
    | none => pure ()
    pure true

/-- Move scans, at most `rounds` times. -/
def moveFor (play : Player) (waiting : Bool) : (rounds : Nat) → SessionM Unit
  | 0 => pure ()
  | rounds + 1 => do
    match (← get).background with
    | none => pure ()
    | some b =>
      match b.gated.filter (canLeave b waiting) with
      | [] => if ← beginNext play then moveFor play waiting rounds
      | going =>
        modifyBackground fun b =>
          { b with gated := b.gated.filter fun at_ => !canLeave b waiting at_ }
        going.forM (leaveGate play)
        moveFor play waiting rounds

/-- Move scans until none can. Every scan is begun once and leaves at most one gate, so two rounds
for each of them are enough. -/
def move (play : Player) (waiting : Bool) : SessionM Unit := do
  let count := ((← get).background.map (·.pool.futures.length)).getD 0
  moveFor play waiting (2 * count + 1)

/-- Shut the service down; the scans end before this is over if somebody waits for them. -/
def shutDown (play : Player) (wait cancel : Bool) : SessionM Unit := do
  let closed := ((← get).background.map (·.service.closed)).getD true
  modifyBackground fun b => { b with service := b.service.close cancel }
  if wait && !closed then move play true

end Session

end LiveCheck
