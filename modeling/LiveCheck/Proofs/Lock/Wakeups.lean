import LiveCheck.Proofs.Lock

/-!
# No wake-up of the lock is lost

A thread that sleeps is woken up only by a thread that leaves, and by the last reader to leave or
by the writer.  A thread that enters wakes nobody.  So somebody who is on the way out, or will be,
has to stand behind every sleeper.

`Awaited` says who that is.  A reader sleeps only while somebody writes or waits to write, and a
writer only while somebody is inside.  The writer for whom a reader sleeps may sleep himself, but
then somebody is inside; and where nobody is inside, no writer sleeps, so that the one who waits is
awake and gets the lock as soon as he looks.
-/

namespace LiveCheck

namespace Stance

/-- Is the thread asleep? -/
def sleeps : Stance → Bool
  | readerAsleep | writerAsleep => true
  | _ => false

/-- Was the thread woken up, and has it not looked again? -/
def isNotified : Stance → Bool
  | readerAwake | writerAwake => true
  | _ => false

/-- Nobody is asleep after all are woken up. -/
theorem sleeps_woken (s : Stance) : s.woken.sleeps = false := by
  cases s <;> rfl

end Stance

namespace Lock

variable {θ : Type} [DecidableEq θ] {l l' : Lock θ} {t : θ}

/-- Is the thread asleep? -/
def Sleeps (l : Lock θ) (t : θ) : Prop := ∃ s, l.stance? t = some s ∧ s.sleeps = true

omit [DecidableEq θ] in
/-- Every thread that was woken up has looked again. -/
def Settled (l : Lock θ) : Prop := ∀ entry ∈ l.threads, entry.2.isNotified = false

/-! ### Who is waited for -/

/-- A reader sleeps while somebody writes or waits to write, and a writer while somebody is
inside. -/
structure Awaited (l : Lock θ) : Prop where
  reader : ∀ t, l.stance? t = some .readerAsleep → l.writer = true ∨ l.writersWaiting ≠ 0
  writer : ∀ t, l.stance? t = some .writerAsleep → l.writer = true ∨ l.readers ≠ 0

/-- Where nobody sleeps, nobody has to be waited for. -/
theorem awaited_of_awake (awake : ∀ t, ¬ l.Sleeps t) : Awaited l where
  reader t stands := absurd ⟨_, stands, rfl⟩ (awake t)
  writer t stands := absurd ⟨_, stands, rfl⟩ (awake t)

/-- Nobody is asleep after all are woken up. -/
theorem not_sleeps_wakeAll (l : Lock θ) (t : θ) : ¬ l.wakeAll.Sleeps t := by
  rintro ⟨s, stands, sleeps⟩
  rw [stance?_wakeAll] at stands
  obtain ⟨s', -, rfl⟩ := Option.map_eq_some_iff.1 stands
  rw [Stance.sleeps_woken] at sleeps
  cases sleeps

/-- A thread looks and falls asleep only if it has to wait; whoever it would have to wait for is
there afterwards too. -/
theorem Awaited.placed (h : Awaited l) {s : Stance} (threads : l'.threads = l.threads.put t s)
    (reader : l.writer = true ∨ l.writersWaiting ≠ 0 ∨ s = .readerAsleep →
      l'.writer = true ∨ l'.writersWaiting ≠ 0)
    (writer : l.writer = true ∨ l.readers ≠ 0 ∨ s = .writerAsleep →
      l'.writer = true ∨ l'.readers ≠ 0) : Awaited l' := by
  have stands (t' : θ) : l'.stance? t' = if t' = t then some s else l.stance? t' := by
    have placed := stance?_place l t t' s
    unfold stance? at placed ⊢
    rw [threads]
    exact placed
  constructor
  · intro t' sleeps
    rw [stands] at sleeps
    split at sleeps
    · exact reader (.inr (.inr (Option.some.inj sleeps)))
    · exact reader ((h.reader t' sleeps).imp_right .inl)
  · intro t' sleeps
    rw [stands] at sleeps
    split at sleeps
    · exact writer (.inr (.inr (Option.some.inj sleeps)))
    · exact writer ((h.writer t' sleeps).imp_right .inl)

/-- A thread that wants to read looks. -/
theorem Awaited.tryRead (h : Awaited l) (t : θ) : Awaited (l.tryRead t) := by
  unfold Lock.tryRead
  split
  case isTrue blocked =>
    refine h.placed rfl (fun _ => blocked) ?_
    rintro (writer | some_ | none_)
    · exact .inl writer
    · exact .inr some_
    · cases none_
  case isFalse free =>
    refine h.placed rfl ?_ fun _ => .inr (Nat.succ_ne_zero l.readers)
    rintro (writer | some_ | none_)
    · exact absurd (.inl writer) free
    · exact absurd (.inr some_) free
    · cases none_

/-- A thread that wants to write looks. -/
theorem Awaited.tryWrite (h : Awaited l) (t : θ) : Awaited (l.tryWrite t) := by
  unfold Lock.tryWrite
  split
  case isTrue blocked =>
    refine h.placed rfl ?_ fun _ => blocked
    rintro (writer | some_ | none_)
    · exact .inl writer
    · exact .inr some_
    · cases none_
  case isFalse free =>
    exact h.placed rfl (fun _ => .inl rfl) fun _ => .inl rfl

/-- A thread that is counted as a waiting writer gives no reader less to wait for. -/
theorem Awaited.counted (h : Awaited l) :
    Awaited ({ l with writersWaiting := l.writersWaiting + 1 } : Lock θ) where
  reader _ _ := .inr (Nat.succ_ne_zero l.writersWaiting)
  writer t sleeps := h.writer t sleeps

/-- A thread leaves: it was the last one inside, and all are woken up, or other readers are still
inside. -/
theorem Awaited.leave (h : Awaited l) (t : θ) : Awaited (l.leave t) := by
  unfold Lock.leave
  split
  case h_1 inside =>
    dsimp only
    split
    case isTrue last => exact awaited_of_awake (not_sleeps_wakeAll _)
    case isFalse others =>
      have before (t' : θ) {s : Stance}
          (stands : (({ l with readers := l.readers - 1 } : Lock θ).drop t).stance? t' = some s) :
          l.stance? t' = some s := by
        rw [stance?_drop] at stands
        split at stands
        · cases stands
        · exact stands
      exact ⟨fun t' sleeps => h.reader t' (before t' sleeps), fun _ _ => .inr others⟩
  case h_2 inside => exact awaited_of_awake (not_sleeps_wakeAll _)
  case h_3 => exact h

/-- What one thread does keeps everybody awaited. -/
theorem Awaited.step (h : Awaited l) (step : Step l l') : Awaited l' := by
  cases step with
  | askRead outside => exact h.tryRead _
  | askWrite outside => exact h.counted.tryWrite _
  | recheck t =>
    unfold Lock.recheck
    split
    · exact h.tryRead t
    · exact h.tryWrite t
    · exact h
  | leave t => exact h.leave t

/-- Whatever the threads do, everybody who sleeps is waiting for somebody. -/
theorem Reachable.awaited (reached : Reachable l) : Awaited l := by
  induction reached with
  | refl => exact ⟨nofun, nofun⟩
  | tail _ step ih => exact ih.step step

/-! ### Who gets on -/

/-- A writer that was woken up gets the lock if nobody is inside. -/
theorem Sound.recheck_writes (h : Sound l) (nobody : l.holding = [])
    (awake : l.stance? t = some .writerAwake) : (l.recheck t).stance? t = some .writing := by
  obtain ⟨idle, empty⟩ := h.free_of_holding nobody
  have stands : l.threads.get? t = some .writerAwake := awake
  have free : ¬ (l.writer = true ∨ l.readers ≠ 0) := by simp [idle, empty]
  unfold Lock.recheck
  rw [stands]
  dsimp only
  unfold Lock.tryWrite
  rw [if_neg free, stance?_place, if_pos rfl]

/-- Somebody who waits to write is asleep or was woken up. -/
theorem Sound.exists_waiting (h : Sound l) (waits : l.writersWaiting ≠ 0) :
    ∃ t, l.stance? t = some .writerAsleep ∨ l.stance? t = some .writerAwake := by
  rw [h.waiting] at waits
  obtain ⟨⟨t, s⟩, there, awaits⟩ := List.countP_pos_iff.1 (Nat.pos_of_ne_zero waits)
  have stands : l.stance? t = some s := Table.get?_of_mem h.nodup there
  cases s with
  | writerAsleep => exact ⟨t, .inl stands⟩
  | writerAwake => exact ⟨t, .inr stands⟩
  | _ => cases awaits

/-- Where nobody is inside and somebody sleeps, a writer is awake and gets the lock when he
looks. -/
theorem Sound.exists_runnable (h : Sound l) (awaited : Awaited l) (nobody : l.holding = [])
    (sleeps : l.Sleeps t) :
    ∃ t', l.stance? t' = some .writerAwake ∧ (l.recheck t').stance? t' = some .writing := by
  obtain ⟨idle, empty⟩ := h.free_of_holding nobody
  -- A writer would sleep for somebody who is inside.
  have noWriter (t' : θ) : l.stance? t' ≠ some .writerAsleep := by
    intro stands
    rcases awaited.writer t' stands with writer | some_
    · rw [idle] at writer
      cases writer
    · exact some_ empty
  have waits : l.writersWaiting ≠ 0 := by
    obtain ⟨s, stands, asleep⟩ := sleeps
    cases s with
    | readerAsleep =>
      refine (awaited.reader t stands).resolve_left fun writer => ?_
      rw [idle] at writer
      cases writer
    | writerAsleep => exact absurd stands (noWriter t)
    | _ => cases asleep
  obtain ⟨t', asleep | awake⟩ := h.exists_waiting waits
  · exact absurd asleep (noWriter t')
  · exact ⟨t', awake, h.recheck_writes nobody awake⟩

/-- No wake-up is lost, whatever the threads do and in whichever order they are woken up.  Once
all who were woken up have looked, nobody sleeps if nobody is inside, and no reader sleeps if only
readers are inside and no writer waits.  At any moment at which somebody sleeps, somebody is inside,
or a writer who waits is awake and gets the lock when he looks. -/
theorem no_wakeup_lost (reached : Reachable l) :
    (l.Settled →
      (l.holding = [] → ∀ t, ¬ l.Sleeps t) ∧
      (l.writer = false → l.writersWaiting = 0 → ∀ t, l.stance? t ≠ some .readerAsleep)) ∧
    ∀ t, l.Sleeps t → l.holding ≠ [] ∨
      ∃ t', l.stance? t' = some .writerAwake ∧ l.writersWaiting ≠ 0 ∧
        (l.recheck t').stance? t' = some .writing := by
  have sound := reached.sound
  have awaited := reached.awaited
  refine ⟨fun settled => ⟨fun nobody t sleeps => ?free, fun idle none_ t stands => ?shared⟩,
    fun t sleeps => ?awaited⟩
  case free =>
    obtain ⟨t', awake, -⟩ := sound.exists_runnable awaited nobody sleeps
    cases settled _ (Table.mem_of_get? awake)
  case shared =>
    rcases awaited.reader t stands with writer | some_
    · rw [idle] at writer
      cases writer
    · exact some_ none_
  case awaited =>
    by_cases nobody : l.holding = []
    · obtain ⟨t', awake, writes⟩ := sound.exists_runnable awaited nobody sleeps
      have waits : 0 < l.writersWaiting := sound.waiting ▸ Sound.count_pos awake rfl
      exact .inr ⟨t', awake, Nat.ne_of_gt waits, writes⟩
    · exact .inl nobody

/-- After the reader has left, the other reader is woken up and looks first. -/
def overtaken : Lock Nat := (crowded.leave 0).recheck 2

/-- The reader that looks before the writer falls asleep again although the lock is free.  But the
writer is awake and gets the lock when he looks; and when he has left and all have looked, the
reader is inside. -/
theorem sleeps_at_free_lock :
    Reachable overtaken ∧ overtaken.holding = [] ∧ overtaken.Sleeps 2 ∧
      (∃ t, overtaken.stance? t = some .writerAwake ∧ overtaken.writersWaiting ≠ 0 ∧
        (overtaken.recheck t).stance? t = some .writing) ∧
      Reachable (overtaken.settle.leave 1).settle ∧ (overtaken.settle.leave 1).settle.Settled ∧
      (overtaken.settle.leave 1).settle.holding = [2] ∧
      ∀ t, (overtaken.settle.leave 1).settle.stance? t ≠ some .readerAsleep := by
  have first : Reachable crowded :=
    ((Relation.ReflTransGen.refl.tail (.askRead rfl)).tail (.askWrite rfl)).tail (.askRead rfl)
  have second : Reachable overtaken := (first.tail (.leave 0)).tail (.recheck 2)
  have third : Reachable (overtaken.settle.leave 1).settle :=
    Reachable.settle (second.settle.tail (.leave 1))
  have free : overtaken.holding = [] := rfl
  have sleeps : overtaken.Sleeps 2 := ⟨.readerAsleep, rfl, rfl⟩
  have settled : (overtaken.settle.leave 1).settle.Settled := by
    unfold Settled
    decide
  have runnable := ((no_wakeup_lost second).2 2 sleeps).resolve_left fun some_ => some_ free
  have shared := ((no_wakeup_lost third).1 settled).2 rfl rfl
  exact ⟨second, free, sleeps, runnable, third, settled, rfl, shared⟩

end Lock

end LiveCheck
