import Mathlib.Logic.Relation
import LiveCheck.Lock
import LiveCheck.Proofs.Table

/-!
# The lock of the documents is safe

Threads come to the lock, wait, enter and leave in any order.  What a thread does to the counters
it does in one piece, under the mutex of the lock: it asks, or looks again after it was woken up,
or leaves.  `Step` has one constructor for each of these, and `Reachable` is the closure.

The counters say where the threads stand.  `Sound` is the inductive invariant: the readers are the
threads that read, the flag of the writer is set while one thread writes and then nobody reads,
and the waiting writers are those that have asked and not entered.  To ask is to be counted as
somebody who was woken up, and then to look (`askRead_eq`, `askWrite_eq`).  So it is enough to
follow one thread that looks and one thread that leaves.
-/

namespace LiveCheck

namespace Stance

/-- Is the thread inside a read section? -/
def reads : Stance → Bool
  | reading => true
  | _ => false

/-- Is the thread inside a write section? -/
def writes : Stance → Bool
  | writing => true
  | _ => false

/-- Has the thread asked for the write side and not got it yet? -/
def awaitsWriting : Stance → Bool
  | writerAsleep | writerAwake => true
  | _ => false

end Stance

namespace Lock

variable {θ : Type} [DecidableEq θ] {l l' : Lock θ} {t : θ}

/-- Where a thread stands, if it is inside or waits. -/
def stance? (l : Lock θ) (t : θ) : Option Stance := l.threads.get? t

omit [DecidableEq θ] in
/-- The number of threads whose stance is of a sort. -/
def count (l : Lock θ) (p : Stance → Bool) : Nat := l.threads.countP fun entry => p entry.2

/-- What one thread does under the mutex.  Only a thread that is neither inside nor waits asks.  A
thread that leaves does the same whether its section ended well or with an exception. -/
inductive Step : Lock θ → Lock θ → Prop where
  | askRead {l : Lock θ} {t : θ} (outside : l.stance? t = none) : Step l (l.askRead t)
  | askWrite {l : Lock θ} {t : θ} (outside : l.stance? t = none) : Step l (l.askWrite t)
  | recheck {l : Lock θ} (t : θ) : Step l (l.recheck t)
  | leave {l : Lock θ} (t : θ) : Step l (l.leave t)

/-- The states of the lock after some steps, of whichever threads and in whichever order. -/
def Reachable (l : Lock θ) : Prop := Relation.ReflTransGen Step {} l

/-! ### Threads that change their stance -/

@[simp] theorem stance?_place (l : Lock θ) (t t' : θ) (s : Stance) :
    (l.place t s).stance? t' = if t' = t then some s else l.stance? t' := by
  unfold stance? place
  split
  · next same => rw [same, Table.get?_put_self]
  · next other => exact Table.get?_put_of_ne _ _ other

@[simp] theorem stance?_drop (l : Lock θ) (t t' : θ) :
    (l.drop t).stance? t' = if t' = t then none else l.stance? t' :=
  Table.get?_remove l.threads t t'

@[simp] theorem stance?_wakeAll (l : Lock θ) (t : θ) :
    l.wakeAll.stance? t = (l.stance? t).map Stance.woken :=
  Table.get?_mapValues l.threads (fun _ s => s.woken) t

/-- A thread has one stance: the one that it gets counts, and the one that it had does not. -/
theorem count_place (nodup : l.threads.keys.Nodup) (t : θ) (s : Stance) (p : Stance → Bool) :
    (l.place t s).count p + (l.stance? t).toList.countP p = l.count p + [s].countP p :=
  Table.countP_put nodup p t s

/-- A thread that is gone does not count. -/
theorem count_drop (nodup : l.threads.keys.Nodup) (t : θ) (p : Stance → Bool) :
    (l.drop t).count p + (l.stance? t).toList.countP p = l.count p :=
  Table.countP_remove nodup p t

omit [DecidableEq θ] in
/-- Whether a thread sleeps or was woken up makes no difference to a sort of stances that does not
tell the two apart. -/
theorem count_wakeAll (l : Lock θ) {p : Stance → Bool} (same : ∀ s, p s.woken = p s) :
    l.wakeAll.count p = l.count p := by
  unfold count wakeAll
  rw [List.countP_map]
  exact List.countP_congr fun entry _ => by rw [Function.comp_apply, same]

/-! ### To ask is to look -/

/-- Where a thread stood before it looks is forgotten. -/
theorem tryRead_place (l : Lock θ) (t : θ) (s : Stance) :
    (l.place t s).tryRead t = l.tryRead t := by
  unfold tryRead place
  simp only [Table.put_put]

/-- The same for a thread that wants to write. -/
theorem tryWrite_place (l : Lock θ) (t : θ) (s : Stance) :
    (l.place t s).tryWrite t = l.tryWrite t := by
  unfold tryWrite place
  simp only [Table.put_put]

/-- A thread that asks to read is one that was woken up and looks. -/
theorem askRead_eq (l : Lock θ) (t : θ) : l.askRead t = (l.place t .readerAwake).recheck t := by
  have awake : (l.place t .readerAwake).threads.get? t = some .readerAwake :=
    Table.get?_put_self _ _ _
  unfold recheck
  rw [awake]
  exact (tryRead_place l t .readerAwake).symm

/-- A thread that asks to write is counted, and is then one that was woken up and looks. -/
theorem askWrite_eq (l : Lock θ) (t : θ) :
    l.askWrite t =
      (({ l with writersWaiting := l.writersWaiting + 1 } : Lock θ).place t .writerAwake).recheck
        t := by
  have awake : (({ l with writersWaiting := l.writersWaiting + 1 } : Lock θ).place t
      .writerAwake).threads.get? t = some .writerAwake := Table.get?_put_self _ _ _
  unfold recheck
  rw [awake]
  exact (tryWrite_place _ t .writerAwake).symm

/-! ### The invariant -/

/-- The counters say where the threads stand, and a writer is alone. -/
structure Sound (l : Lock θ) : Prop where
  nodup : l.threads.keys.Nodup
  readers : l.readers = l.count Stance.reads
  writer : l.writer.toNat = l.count Stance.writes
  waiting : l.writersWaiting = l.count Stance.awaitsWriting
  alone : l.writer = true → l.readers = 0

omit [DecidableEq θ] in
/-- Waking up changes no counter. -/
theorem Sound.wakeAll (h : Sound l) : Sound l.wakeAll where
  nodup := by
    have keys : l.wakeAll.threads.keys = l.threads.keys := by simp [Lock.wakeAll, Table.keys]
    rw [keys]
    exact h.nodup
  readers := by
    rw [count_wakeAll l (by intro s; cases s <;> rfl)]
    exact h.readers
  writer := by
    rw [count_wakeAll l (by intro s; cases s <;> rfl)]
    exact h.writer
  waiting := by
    rw [count_wakeAll l (by intro s; cases s <;> rfl)]
    exact h.waiting
  alone := h.alone

/-- A thread gets a stance and the counters follow: what it counts for now is added, and what it
counted for before is taken off. -/
theorem Sound.placed (h : Sound l) {s : Stance} (threads : l'.threads = l.threads.put t s)
    (readers : l'.readers + (l.stance? t).toList.countP Stance.reads =
      l.readers + [s].countP Stance.reads)
    (writer : l'.writer.toNat + (l.stance? t).toList.countP Stance.writes =
      l.writer.toNat + [s].countP Stance.writes)
    (waiting : l'.writersWaiting + (l.stance? t).toList.countP Stance.awaitsWriting =
      l.writersWaiting + [s].countP Stance.awaitsWriting)
    (alone : l'.writer = true → l'.readers = 0) : Sound l' := by
  have counted (p : Stance → Bool) :
      l'.count p + (l.stance? t).toList.countP p = l.count p + [s].countP p := by
    have placed := count_place h.nodup t s p
    unfold count at placed ⊢
    rw [threads]
    exact placed
  refine ⟨threads ▸ Table.nodup_keys_put h.nodup t s, ?_, ?_, ?_, alone⟩
  · have := counted Stance.reads
    have := h.readers
    omega
  · have := counted Stance.writes
    have := h.writer
    omega
  · have := counted Stance.awaitsWriting
    have := h.waiting
    omega

/-- A thread goes away and the counters follow. -/
theorem Sound.dropped (h : Sound l) (threads : l'.threads = l.threads.remove t)
    (readers : l'.readers + (l.stance? t).toList.countP Stance.reads = l.readers)
    (writer : l'.writer.toNat + (l.stance? t).toList.countP Stance.writes = l.writer.toNat)
    (waiting : l'.writersWaiting + (l.stance? t).toList.countP Stance.awaitsWriting =
      l.writersWaiting)
    (alone : l'.writer = true → l'.readers = 0) : Sound l' := by
  have counted (p : Stance → Bool) :
      l'.count p + (l.stance? t).toList.countP p = l.count p := by
    have dropped := count_drop h.nodup t p
    unfold count at dropped ⊢
    rw [threads]
    exact dropped
  refine ⟨threads ▸ Table.nodup_keys_remove h.nodup t, ?_, ?_, ?_, alone⟩
  · have := counted Stance.reads
    have := h.readers
    omega
  · have := counted Stance.writes
    have := h.writer
    omega
  · have := counted Stance.awaitsWriting
    have := h.waiting
    omega

/-- A thread that stands in a stance is counted. -/
theorem Sound.count_pos {s : Stance} {p : Stance → Bool} (stands : l.stance? t = some s)
    (hp : p s = true) : 0 < l.count p :=
  List.countP_pos_iff.2 ⟨(t, s), Table.mem_of_get? stands, hp⟩

/-! ### One step -/

/-- A thread that was woken up looks. -/
theorem Sound.recheck (h : Sound l) (t : θ) : Sound (l.recheck t) := by
  unfold Lock.recheck
  split
  case h_1 awake =>
    have stands : l.stance? t = some .readerAwake := awake
    unfold tryRead
    split
    case isTrue blocked =>
      exact h.placed rfl (by rw [stands]; rfl) (by rw [stands]; rfl) (by rw [stands]; rfl) h.alone
    case isFalse free =>
      refine h.placed rfl (by rw [stands]; rfl) (by rw [stands]; rfl) (by rw [stands]; rfl) ?_
      intro writer
      exact absurd (Or.inl writer) free
  case h_2 awake =>
    have stands : l.stance? t = some .writerAwake := awake
    unfold tryWrite
    split
    case isTrue blocked =>
      exact h.placed rfl (by rw [stands]; rfl) (by rw [stands]; rfl) (by rw [stands]; rfl) h.alone
    case isFalse free =>
      -- The thread that looks is one of the waiting writers.
      have waiting : 0 < l.writersWaiting := h.waiting ▸ Sound.count_pos stands rfl
      have idle : l.writer = false := by simpa using fun writer => free (Or.inl writer)
      have empty : l.readers = 0 := by
        by_contra some
        exact free (Or.inr some)
      refine h.placed rfl ?_ ?_ ?_ fun _ => empty
      · rw [stands]
        rfl
      · rw [stands, idle]
        rfl
      · rw [stands]
        change l.writersWaiting - 1 + 1 = l.writersWaiting
        omega
  case h_3 => exact h

/-- A thread asks to read. -/
theorem Sound.askRead (h : Sound l) (outside : l.stance? t = none) : Sound (l.askRead t) := by
  have arrived : Sound (l.place t .readerAwake) :=
    h.placed rfl (by rw [outside]; rfl) (by rw [outside]; rfl) (by rw [outside]; rfl) h.alone
  rw [askRead_eq]
  exact arrived.recheck t

/-- A thread asks to write. -/
theorem Sound.askWrite (h : Sound l) (outside : l.stance? t = none) : Sound (l.askWrite t) := by
  have arrived : Sound (({ l with writersWaiting := l.writersWaiting + 1 } : Lock θ).place t
      .writerAwake) :=
    h.placed rfl (by rw [outside]; rfl) (by rw [outside]; rfl) (by rw [outside]; rfl) h.alone
  rw [askWrite_eq]
  exact arrived.recheck t

/-- A thread leaves. -/
theorem Sound.leave (h : Sound l) (t : θ) : Sound (l.leave t) := by
  unfold Lock.leave
  split
  case h_1 inside =>
    have stands : l.stance? t = some .reading := inside
    have some_ : 0 < l.readers := h.readers ▸ Sound.count_pos stands rfl
    have left : Sound (({ l with readers := l.readers - 1 } : Lock θ).drop t) := by
      refine h.dropped rfl ?_ (by rw [stands]; rfl) (by rw [stands]; rfl) fun writer => ?_
      · rw [stands]
        change l.readers - 1 + 1 = l.readers
        omega
      · have := h.alone writer
        omega
    dsimp only
    split
    · exact left.wakeAll
    · exact left
  case h_2 inside =>
    have stands : l.stance? t = some .writing := inside
    have one : 0 < l.writer.toNat := h.writer ▸ Sound.count_pos stands rfl
    have writer : l.writer = true := by
      cases flag : l.writer with
      | true => rfl
      | false => simp [flag] at one
    refine Sound.wakeAll (h.dropped rfl (by rw [stands]; rfl) ?_ (by rw [stands]; rfl) nofun)
    rw [stands, writer]
    rfl
  case h_3 => exact h

/-- What one thread does keeps the invariant. -/
theorem Sound.step (h : Sound l) (step : Step l l') : Sound l' := by
  cases step with
  | askRead outside => exact h.askRead outside
  | askWrite outside => exact h.askWrite outside
  | recheck t => exact h.recheck t
  | leave t => exact h.leave t

/-- Whatever the threads do, the invariant holds. -/
theorem Reachable.sound (reached : Reachable l) : Sound l := by
  induction reached with
  | refl => exact ⟨List.nodup_nil, rfl, rfl, rfl, nofun⟩
  | tail _ step ih => exact ih.step step

/-! ### Who is inside -/

/-- A thread that looks and then reads has found no writer, neither inside nor waiting. -/
theorem tryRead_enters {t' : θ} (reads : (l.tryRead t).stance? t' = some .reading) :
    l.stance? t' = some .reading ∨ l.writer = false ∧ l.writersWaiting = 0 := by
  unfold tryRead at reads
  split at reads
  case isTrue blocked =>
    rw [stance?_place] at reads
    split at reads
    · cases reads
    · exact Or.inl reads
  case isFalse free =>
    exact Or.inr (by simpa using free)

/-- Nobody reads because somebody wants to write. -/
theorem tryWrite_enters {t' : θ} (reads : (l.tryWrite t).stance? t' = some .reading) :
    l.stance? t' = some .reading := by
  unfold tryWrite at reads
  split at reads <;>
  · rw [stance?_place] at reads
    split at reads
    · cases reads
    · exact reads

/-- Nobody reads because somebody was woken up. -/
theorem wakeAll_enters (reads : l.wakeAll.stance? t = some .reading) :
    l.stance? t = some .reading := by
  rw [stance?_wakeAll] at reads
  obtain ⟨s, stands, same⟩ := Option.map_eq_some_iff.1 reads
  cases s with
  | reading => exact stands
  | _ => cases same

/-- Nobody reads because somebody leaves. -/
theorem leave_enters {t' : θ} (reads : (l.leave t).stance? t' = some .reading) :
    l.stance? t' = some .reading := by
  have stayed {l' : Lock θ} (threads : l'.threads = l.threads)
      (reads : (l'.drop t).stance? t' = some .reading) : l.stance? t' = some .reading := by
    rw [stance?_drop] at reads
    split at reads
    · cases reads
    · unfold stance? at reads ⊢
      rwa [threads] at reads
  unfold Lock.leave at reads
  split at reads
  · dsimp only at reads
    split at reads
    · exact stayed rfl (wakeAll_enters reads)
    · exact stayed rfl reads
  · exact stayed rfl (wakeAll_enters reads)
  · exact reads

/-- A thread enters a read section only where no writer is inside or waits. -/
theorem Step.enters (step : Step l l') (reads : l'.stance? t = some .reading) :
    l.stance? t = some .reading ∨ l.writer = false ∧ l.writersWaiting = 0 := by
  cases step with
  | askRead outside => exact tryRead_enters reads
  | askWrite outside =>
    exact Or.inl (tryWrite_enters (l := { l with writersWaiting := l.writersWaiting + 1 }) reads)
  | recheck t' =>
    unfold Lock.recheck at reads
    split at reads
    · exact tryRead_enters reads
    · exact Or.inl (tryWrite_enters reads)
    · exact Or.inl reads
  | leave t' => exact Or.inl (leave_enters reads)

omit [DecidableEq θ] in
/-- The threads inside are those that read and those that write. -/
theorem length_holding (l : Lock θ) :
    l.holding.length = l.count Stance.reads + l.count Stance.writes := by
  have once (s : Stance) : (if s.holds = true then 1 else 0) =
      (if s.reads = true then 1 else 0) + if s.writes = true then 1 else 0 := by
    cases s <;> rfl
  unfold holding count Table.keys
  rw [List.length_map, ← List.countP_eq_length_filter]
  induction l.threads with
  | nil => rfl
  | cons entry rest ih =>
    have := once entry.2
    rw [List.countP_cons, List.countP_cons, List.countP_cons, ih]
    omega

omit [DecidableEq θ] in
/-- Where nobody is inside, nobody reads and nobody writes. -/
theorem count_eq_zero_of_holding (nobody : l.holding = []) :
    l.count Stance.reads = 0 ∧ l.count Stance.writes = 0 := by
  have length := length_holding l
  rw [nobody, List.length_nil] at length
  omega

omit [DecidableEq θ] in
/-- Where nobody is inside, the counters are free. -/
theorem Sound.free_of_holding (h : Sound l) (nobody : l.holding = []) :
    l.writer = false ∧ l.readers = 0 := by
  obtain ⟨noReader, noWriter⟩ := count_eq_zero_of_holding nobody
  refine ⟨?_, h.readers.trans noReader⟩
  have flag := h.writer
  rw [noWriter] at flag
  cases writer : l.writer with
  | false => rfl
  | true => simp [writer] at flag

/-- A thread that writes is inside, and nobody else is. -/
theorem Sound.holding_eq (h : Sound l) (writes : l.stance? t = some .writing) :
    l.holding = [t] := by
  have one : 0 < l.count Stance.writes := Sound.count_pos writes rfl
  have flag := h.writer
  have readers := h.readers
  have length := length_holding l
  have writer : l.writer = true := by
    cases flag' : l.writer with
    | true => rfl
    | false =>
      rw [flag', Bool.toNat_false] at flag
      omega
  rw [writer, Bool.toNat_true] at flag
  rw [h.alone writer] at readers
  have inside : t ∈ l.holding :=
    List.mem_map.2 ⟨(t, .writing), List.mem_filter.2 ⟨Table.mem_of_get? writes, rfl⟩, rfl⟩
  obtain ⟨t', only⟩ := List.length_eq_one_iff.1 (by omega : l.holding.length = 1)
  rw [only] at inside ⊢
  rw [List.mem_singleton.1 inside]

/-- The lock is safe, whatever the threads do and in whichever order they are woken up.  The
counters say how many threads read, whether one writes, and how many have asked to write and not
got it; each thread is counted once.  A thread that writes is alone inside, and nobody begins to
read while somebody writes or waits to write. -/
theorem reachable_safe (reached : Reachable l) :
    l.threads.keys.Nodup ∧
    l.readers = l.count Stance.reads ∧
    (l.writer = true ↔ l.count Stance.writes = 1) ∧
    (∀ t, l.stance? t = some .writing → l.holding = [t]) ∧
    l.writersWaiting = l.count Stance.awaitsWriting ∧
    ∀ l' t, Step l l' → l'.stance? t = some .reading → l.stance? t ≠ some .reading →
      l.writer = false ∧ l.writersWaiting = 0 := by
  have h := reached.sound
  refine ⟨h.nodup, h.readers, ?_, fun t writes => h.holding_eq writes, h.waiting,
    fun l' t step reads outside => (step.enters reads).resolve_left outside⟩
  have flag := h.writer
  cases writer : l.writer <;> simp [writer] at flag <;> simp [← flag]

/-! ### A writer that waits -/

/-- Whoever was woken up looks, one thread after the other. -/
theorem Reachable.settle (reached : Reachable l) : Reachable l.settle := by
  have looks (ts : List θ) (l : Lock θ) (reached : Reachable l) :
      Reachable (ts.foldl Lock.recheck l) := by
    induction ts generalizing l with
    | nil => exact reached
    | cons t rest ih => exact ih _ (reached.tail (.recheck t))
  exact looks _ l reached

/-- One thread reads, a second one waits to write, and a third one wants to read and waits too. -/
def crowded : Lock Nat := (((({} : Lock Nat).askRead 0).askWrite 1).askRead 2)

/-- While the writer waits nobody else begins to read; when the reader has left and all have looked,
the writer is alone, and the other reader still waits. -/
theorem writer_waits_first :
    Reachable crowded ∧ crowded.readers = 1 ∧ crowded.writersWaiting = 1 ∧
      (∀ l', Step crowded l' → l'.stance? 2 ≠ some .reading) ∧
      Reachable (crowded.leave 0).settle ∧ (crowded.leave 0).settle.holding = [1] ∧
      (crowded.leave 0).settle.waiting = [2] := by
  have reached : Reachable crowded :=
    ((Relation.ReflTransGen.refl.tail (.askRead rfl)).tail (.askWrite rfl)).tail (.askRead rfl)
  have left : Reachable (crowded.leave 0) := reached.tail (.leave 0)
  have after : Reachable (crowded.leave 0).settle := left.settle
  obtain ⟨-, -, -, -, -, enters⟩ := reachable_safe reached
  obtain ⟨-, -, -, alone, -, -⟩ := reachable_safe after
  refine ⟨reached, rfl, rfl, fun l' step reads => ?_, after, alone 1 rfl, rfl⟩
  cases (enters l' 2 step reads (by decide)).2

end Lock

end LiveCheck
