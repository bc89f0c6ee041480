import LiveCheck.Table

namespace LiveCheck

/-! ### The lock of the documents

Many may read at a time, or one may write. A writer that waits keeps new readers out. Each move of
a thread is one step: it looks at the counters, and then either enters or falls asleep; a thread
that leaves may wake all sleepers, and each of them looks again. -/

/-- Where a thread stands. -/
inductive Stance where
  /-- Asleep, wants to read. -/
  | readerAsleep
  /-- Woken up, wants to read and has not looked again. -/
  | readerAwake
  | reading
  /-- Asleep, wants to write. -/
  | writerAsleep
  /-- Woken up, wants to write and has not looked again. -/
  | writerAwake
  | writing
deriving DecidableEq, Repr

namespace Stance

/-- The stance after all are woken up. -/
def woken : Stance → Stance
  | readerAsleep => readerAwake
  | writerAsleep => writerAwake
  | stance => stance

/-- Is the thread inside? -/
def holds : Stance → Bool
  | reading | writing => true
  | _ => false

end Stance

/-- The lock: its counters, and the threads that are inside or wait. -/
structure Lock (θ : Type) where
  readers : Nat := 0
  writer : Bool := false
  writersWaiting : Nat := 0
  threads : Table θ Stance := []
deriving DecidableEq, Repr

namespace Lock

variable {θ : Type} [DecidableEq θ]

/-- The lock with a thread in a stance. -/
def place (l : Lock θ) (t : θ) (s : Stance) : Lock θ := { l with threads := l.threads.put t s }

/-- The lock without a thread. -/
def drop (l : Lock θ) (t : θ) : Lock θ := { l with threads := l.threads.remove t }

omit [DecidableEq θ] in
/-- Wake up all sleepers. -/
def wakeAll (l : Lock θ) : Lock θ :=
  { l with threads := l.threads.map fun entry => (entry.1, entry.2.woken) }

/-- A thread that wants to read looks at the counters. -/
def tryRead (l : Lock θ) (t : θ) : Lock θ :=
  if l.writer ∨ l.writersWaiting ≠ 0 then l.place t .readerAsleep
  else { l with readers := l.readers + 1 }.place t .reading

/-- A thread that is counted as a waiting writer looks at the counters. -/
def tryWrite (l : Lock θ) (t : θ) : Lock θ :=
  if l.writer ∨ l.readers ≠ 0 then l.place t .writerAsleep
  else { l with writer := true, writersWaiting := l.writersWaiting - 1 }.place t .writing

/-- A thread asks to read. -/
def askRead (l : Lock θ) (t : θ) : Lock θ := l.tryRead t

/-- A thread asks to write: from now on it is counted. -/
def askWrite (l : Lock θ) (t : θ) : Lock θ :=
  { l with writersWaiting := l.writersWaiting + 1 }.tryWrite t

/-- A thread that was woken up looks again; any other thread does nothing. -/
def recheck (l : Lock θ) (t : θ) : Lock θ :=
  match l.threads.get? t with
  | some .readerAwake => l.tryRead t
  | some .writerAwake => l.tryWrite t
  | _ => l

/-- A thread that is inside leaves, whether it ends well or not; any other thread does nothing. -/
def leave (l : Lock θ) (t : θ) : Lock θ :=
  match l.threads.get? t with
  | some .reading =>
    let l := { l with readers := l.readers - 1 }.drop t
    if l.readers = 0 then l.wakeAll else l
  | some .writing => ({ l with writer := false }.drop t).wakeAll
  | _ => l

/-- Every thread that was woken up looks again, one after the other. -/
def settle (l : Lock θ) : Lock θ := l.threads.keys.foldl recheck l

omit [DecidableEq θ] in
/-- The threads inside. -/
def holding (l : Lock θ) : List θ := Table.keys (l.threads.filter fun entry => entry.2.holds)

omit [DecidableEq θ] in
/-- The threads that wait. -/
def waiting (l : Lock θ) : List θ := Table.keys (l.threads.filter fun entry => !entry.2.holds)

end Lock

end LiveCheck
