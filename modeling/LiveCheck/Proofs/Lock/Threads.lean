import LiveCheck.Proofs.Lock

/-!
# The lock as one thread sees it

`Moves` is a step of the lock together with the thread that makes it.  Of what the others do a
thread notices little: it may be woken up, and nothing else.  In particular nobody can bring a
thread that reads out of its section, nor a thread that is outside into one.

A thread that reads keeps all writers out (`Sound.not_writing`), and a thread that is outside has
nobody to wait for but the others (`askRead_enters`, `askWrite_enters`).
-/

namespace LiveCheck.Lock

variable {θ : Type} [DecidableEq θ] {l l' : Lock θ} {t t' : θ}

/-- What this thread does under the mutex. -/
inductive Moves (t : θ) : Lock θ → Lock θ → Prop where
  | askRead {l : Lock θ} (outside : l.stance? t = none) : Moves t l (l.askRead t)
  | askWrite {l : Lock θ} (outside : l.stance? t = none) : Moves t l (l.askWrite t)
  | recheck (l : Lock θ) : Moves t l (l.recheck t)
  | leave (l : Lock θ) : Moves t l (l.leave t)

/-- What a thread does is a step of the lock. -/
theorem Moves.step (moves : Moves t l l') : Step l l' := by
  cases moves with
  | askRead outside => exact .askRead outside
  | askWrite outside => exact .askWrite outside
  | recheck => exact .recheck t
  | leave => exact .leave t

/-- A thread that wants to read looks at the counters, for the first time or again. -/
inductive Looks (t : θ) : Lock θ → Lock θ → Prop where
  | first {l : Lock θ} (outside : l.stance? t = none) : Looks t l (l.askRead t)
  | again {l : Lock θ} (awake : l.stance? t = some .readerAwake) : Looks t l (l.recheck t)

/-- A thread that looks has not been inside, and does something under the mutex. -/
theorem Looks.moves (looks : Looks t l l') :
    Moves t l l' ∧ l.stance? t ≠ some .reading := by
  cases looks with
  | first outside => exact ⟨.askRead outside, by simp [outside]⟩
  | again awake => exact ⟨.recheck l, by simp [awake]⟩

/-! ### What the others notice -/

/-- A thread stands where it stood, or was woken up. -/
def Undisturbed (t : θ) (l l' : Lock θ) : Prop :=
  l'.stance? t = l.stance? t ∨ l'.stance? t = (l.stance? t).map Stance.woken

/-- A thread that gets another stance disturbs nobody else. -/
theorem undisturbed_place (other : t' ≠ t) (threads : l'.threads = l.threads) (s : Stance) :
    Undisturbed t' l (l'.place t s) := by
  left
  rw [stance?_place, if_neg other]
  unfold stance?
  rw [threads]

/-- A thread that goes away disturbs nobody else. -/
theorem undisturbed_drop (other : t' ≠ t) (threads : l'.threads = l.threads) :
    (l'.drop t).stance? t' = l.stance? t' := by
  rw [stance?_drop, if_neg other]
  unfold stance?
  rw [threads]

/-- A thread that looks disturbs nobody else. -/
theorem undisturbed_recheck (other : t' ≠ t) : Undisturbed t' l (l.recheck t) := by
  unfold recheck
  split
  · unfold tryRead
    split <;> exact undisturbed_place other rfl _
  · unfold tryWrite
    split <;> exact undisturbed_place other rfl _
  · exact .inl rfl

/-- A thread that leaves disturbs nobody else, but may wake him up. -/
theorem undisturbed_leave (other : t' ≠ t) : Undisturbed t' l (l.leave t) := by
  have woken {l₁ : Lock θ} (threads : l₁.threads = l.threads) :
      Undisturbed t' l (l₁.drop t).wakeAll := by
    right
    rw [stance?_wakeAll, undisturbed_drop other threads]
  unfold leave
  split
  · dsimp only
    split
    · exact woken rfl
    · exact .inl (undisturbed_drop other rfl)
  · exact woken rfl
  · exact .inl rfl

/-- What a thread does disturbs nobody else. -/
theorem Moves.undisturbed (moves : Moves t l l') (other : t' ≠ t) : Undisturbed t' l l' := by
  cases moves with
  | askRead outside =>
    unfold Lock.askRead tryRead
    split <;> exact undisturbed_place other rfl _
  | askWrite outside =>
    unfold Lock.askWrite tryWrite
    split <;> exact undisturbed_place other rfl _
  | recheck => exact undisturbed_recheck other
  | leave => exact undisturbed_leave other

/-- Whoever reads goes on reading, and nobody begins to, because of others. -/
theorem Undisturbed.reading_iff (h : Undisturbed t l l') :
    l'.stance? t = some .reading ↔ l.stance? t = some .reading := by
  rcases h with same | woken
  · rw [same]
  · rw [woken]
    cases l.stance? t with
    | none => simp
    | some s => cases s <;> simp [Stance.woken]

/-- Whoever is outside stays outside, and nobody gets there, because of others. -/
theorem Undisturbed.none_iff (h : Undisturbed t l l') :
    l'.stance? t = none ↔ l.stance? t = none := by
  rcases h with same | woken
  · rw [same]
  · rw [woken, Option.map_eq_none_iff]

/-! ### Entering and leaving -/

/-- A thread that reads and leaves is outside. -/
theorem stance?_leave_self (reads : l.stance? t = some .reading) :
    (l.leave t).stance? t = none := by
  have stands : l.threads.get? t = some .reading := reads
  unfold leave
  rw [stands]
  dsimp only
  split
  · rw [stance?_wakeAll, stance?_drop, if_pos rfl]
    rfl
  · rw [stance?_drop, if_pos rfl]

/-- While one thread reads, nobody writes. -/
theorem Sound.not_writing (h : Sound l) (reads : l.stance? t = some .reading) (t' : θ) :
    l.stance? t' ≠ some .writing := by
  intro writes
  have alone := h.holding_eq writes
  have inside : t ∈ l.holding :=
    List.mem_map.2 ⟨(t, .reading), List.mem_filter.2 ⟨Table.mem_of_get? reads, rfl⟩, rfl⟩
  rw [alone] at inside
  obtain rfl := List.mem_singleton.1 inside
  rw [reads] at writes
  cases writes

/-- A thread that asks to write gets the lock at once if nobody is inside. -/
theorem askWrite_enters (h : Sound l) (nobody : l.holding = []) :
    (l.askWrite t).stance? t = some .writing := by
  obtain ⟨idle, empty⟩ := h.free_of_holding nobody
  unfold askWrite tryWrite
  rw [if_neg (by simp [idle, empty]), stance?_place, if_pos rfl]

/-- A thread that asks to read gets the lock at once if nobody is inside and no writer waits. -/
theorem askRead_enters (h : Sound l) (nobody : l.holding = []) (none_ : l.writersWaiting = 0) :
    (l.askRead t).stance? t = some .reading := by
  obtain ⟨idle, -⟩ := h.free_of_holding nobody
  unfold askRead tryRead
  rw [if_neg (by simp [idle, none_]), stance?_place, if_pos rfl]

/-- A thread that is outside is not inside. -/
theorem not_mem_holding (outside : l.stance? t = none) : t ∉ l.holding := by
  intro inside
  obtain ⟨⟨t', s⟩, here, rfl⟩ := List.mem_map.1 inside
  have there : t' ∈ l.threads.keys := List.mem_map_of_mem (List.mem_filter.1 here).1
  obtain ⟨s', stands⟩ := Table.exists_get? there
  exact nomatch outside.symm.trans stands

/-- A thread that looks reads afterwards, or falls asleep and wants to read. -/
theorem Looks.stance (looks : Looks t l l') :
    l'.stance? t = some .reading ∨ l'.stance? t = some .readerAsleep := by
  have tried : (l.tryRead t).stance? t = some .reading ∨
      (l.tryRead t).stance? t = some .readerAsleep := by
    unfold tryRead
    split
    · exact .inr (by rw [stance?_place, if_pos rfl])
    · exact .inl (by rw [stance?_place, if_pos rfl])
  cases looks with
  | first outside => exact tried
  | again awake =>
    have awake' : l.threads.get? t = some .readerAwake := awake
    unfold recheck
    rw [awake']
    exact tried

/-- The counter of the readers says how many there are: it is the same wherever the same threads
read. -/
theorem Sound.readers_eq (h : Sound l) (h' : Sound l')
    (same : ∀ t, l'.stance? t = some .reading ↔ l.stance? t = some .reading) :
    l'.readers = l.readers := by
  have reading {l₁ : Lock θ} (sound : Sound l₁) (t : θ) :
      t ∈ Table.keys (l₁.threads.filter fun entry => entry.2.reads) ↔
        l₁.stance? t = some .reading := by
    constructor
    · intro inside
      obtain ⟨⟨t', s⟩, here, rfl⟩ := List.mem_map.1 inside
      obtain ⟨stands, reads⟩ := List.mem_filter.1 here
      obtain rfl : s = .reading := by
        cases s with
        | reading => rfl
        | _ => cases reads
      exact Table.get?_of_mem sound.nodup stands
    · intro stands
      exact List.mem_map.2 ⟨(t, .reading), List.mem_filter.2 ⟨Table.mem_of_get? stands, rfl⟩, rfl⟩
  have nodup {l₁ : Lock θ} (sound : Sound l₁) :
      (Table.keys (l₁.threads.filter fun entry => entry.2.reads)).Nodup :=
    sound.nodup.sublist (List.filter_sublist.map _)
  have perm := (List.perm_ext_iff_of_nodup (nodup h') (nodup h)).2 fun t => by
    rw [reading h', reading h, same]
  have length := perm.length_eq
  rw [h.readers, h'.readers]
  unfold count
  rw [List.countP_eq_length_filter, List.countP_eq_length_filter]
  simpa [Table.keys] using length

end LiveCheck.Lock
