import LiveCheck.Proofs.Service.Operation

/-!
# No scan escapes

Whoever cancels all scans reads the table of scans in flight under the lock and trips the tokens
afterwards, while others go on.  A scan is put into the table when it is accepted, but the note to
forget it is attached to its future later, and the future may be done by then.  `Tabled` is the
invariant: the table has all known scans, each once, except those whose note was heeded, and a note
is heeded only when the future is done.

What happens after somebody has read the table is said by three things that stay: a future that is
done, a scan that is caught by a caller (`Caught`), which means that its token is tripped or is one
of those that he has still to trip, and what he has read (`HasRead`).  A service that is shut
accepts nothing any more, so a caller who has shut it before he reads the table catches all scans
that there will ever be.
-/

namespace LiveCheck

namespace Operation

variable {κ : Type} [DecidableEq κ] {scans : ScanNumber → Scan} {workers : Nat}
  {s s' : Operation κ} {number : ScanNumber} {c : κ}

/-! ### The table -/

/-- The table has each scan that is known and whose note was not heeded, and has it once.  A note
is due or was heeded only if the future is done. -/
structure Tabled (inFlight : List ScanNumber) (futures : Table ScanNumber Future)
    (notes : ScanNumber → Note) : Prop where
  nodup : inFlight.Nodup
  mem_iff : ∀ number, number ∈ inFlight ↔ number ∈ futures.keys ∧ notes number ≠ .heeded
  ended : ∀ number, notes number = .due ∨ notes number = .heeded →
    ∃ future, futures.get? number = some future ∧ future.isOver = true

variable {inFlight : List ScanNumber} {futures : Table ScanNumber Future}
  {notes : ScanNumber → Note} {future : Future}

/-- A scan that is not done is in the table. -/
theorem Tabled.mem (h : Tabled inFlight futures notes) (known : futures.get? number = some future)
    (open_ : future.isOver = false) : number ∈ inFlight := by
  refine (h.mem_iff number).2 ⟨Table.mem_keys_of_get? known, fun heeded => ?_⟩
  obtain ⟨future', known', ended⟩ := h.ended number (Or.inr heeded)
  rw [known] at known'
  cases known'
  rw [open_] at ended
  cases ended

/-- A scan is accepted that was not known. -/
theorem Tabled.append (h : Tabled inFlight futures notes) (fresh : number ∉ futures.keys)
    (future : Future) : Tabled (inFlight ++ [number]) (futures.put number future) notes where
  nodup := by
    have outside : number ∉ inFlight := fun mem => fresh ((h.mem_iff number).1 mem).1
    exact List.perm_append_singleton _ _ |>.nodup_iff.2 (List.nodup_cons.2 ⟨outside, h.nodup⟩)
  mem_iff number' := by
    have unheeded : notes number ≠ .heeded := fun heeded => by
      obtain ⟨_, known, -⟩ := h.ended number (Or.inr heeded)
      exact fresh (Table.mem_keys_of_get? known)
    rw [Table.keys_put, if_neg fresh, List.mem_append, List.mem_append, h.mem_iff,
      List.mem_singleton]
    constructor
    · rintro (⟨known, note⟩ | rfl)
      · exact ⟨Or.inl known, note⟩
      · exact ⟨Or.inr rfl, unheeded⟩
    · rintro ⟨known | rfl, note⟩
      · exact Or.inl ⟨known, note⟩
      · exact Or.inr rfl
  ended number' noted := by
    obtain ⟨future', known, ended⟩ := h.ended number' noted
    have ne : number' ≠ number := by
      rintro rfl
      exact fresh (Table.mem_keys_of_get? known)
    exact ⟨future', (Table.get?_put_of_ne _ _ ne).trans known, ended⟩

/-- A future that is not done changes. -/
theorem Tabled.put (h : Tabled inFlight futures notes) (known : futures.get? number = some future)
    (open_ : future.isOver = false) (future' : Future) :
    Tabled inFlight (futures.put number future') notes where
  nodup := h.nodup
  mem_iff number' := by
    rw [Table.keys_put, if_pos (Table.mem_keys_of_get? known)]
    exact h.mem_iff number'
  ended number' noted := by
    obtain ⟨future'', known', ended⟩ := h.ended number' noted
    have ne : number' ≠ number := by
      rintro rfl
      rw [known] at known'
      cases known'
      rw [open_] at ended
      cases ended
    exact ⟨future'', (Table.get?_put_of_ne _ _ ne).trans known', ended⟩

/-- A note changes that was not heeded and is not heeded now. -/
theorem Tabled.note (h : Tabled inFlight futures notes) {note : Note}
    (before : notes number ≠ .heeded) (after : note ≠ .heeded)
    (due : note = .due → ∃ future, futures.get? number = some future ∧ future.isOver = true) :
    Tabled inFlight futures (Function.update notes number note) where
  nodup := h.nodup
  mem_iff := (Function.forall_update_iff notes fun number note =>
      number ∈ inFlight ↔ number ∈ futures.keys ∧ note ≠ .heeded).2
    ⟨(h.mem_iff number).trans (and_congr_right fun _ => iff_of_true before after),
      fun number' _ => h.mem_iff number'⟩
  ended := (Function.forall_update_iff notes fun number note => note = .due ∨ note = .heeded →
      ∃ future, futures.get? number = some future ∧ future.isOver = true).2
    ⟨fun noted => due (noted.resolve_right after), fun number' _ => h.ended number'⟩

/-- A future is done from now on. -/
theorem Tabled.ends (h : Tabled inFlight futures notes) (known : futures.get? number = some future)
    (open_ : future.isOver = false) {future' : Future} (ended : future'.isOver = true) :
    Tabled inFlight (futures.put number future')
      (Function.update notes number (notes number).atEnd) := by
  have unheeded : notes number ≠ .heeded := ((h.mem_iff number).1 (h.mem known open_)).2
  refine (h.put known open_ future').note unheeded ?_ fun _ =>
    ⟨future', Table.get?_put_self _ _ _, ended⟩
  cases note : notes number with
  | heeded => exact absurd note unheeded
  | unattached | attached | due => nofun

/-- A scan whose note is due is forgotten. -/
theorem Tabled.forget (h : Tabled inFlight futures notes) (due : notes number = .due) :
    Tabled (inFlight.erase number) futures (Function.update notes number .heeded) where
  nodup := h.nodup.erase _
  mem_iff := (Function.forall_update_iff notes fun number' note =>
      number' ∈ inFlight.erase number ↔ number' ∈ futures.keys ∧ note ≠ .heeded).2
    ⟨iff_of_false (fun mem => (h.nodup.mem_erase_iff.1 mem).1 rfl) fun mem => mem.2 rfl,
      fun number' hn => by rw [h.nodup.mem_erase_iff, h.mem_iff, and_iff_right hn]⟩
  ended := (Function.forall_update_iff notes fun number note => note = .due ∨ note = .heeded →
      ∃ future, futures.get? number = some future ∧ future.isOver = true).2
    ⟨fun _ => h.ended number (Or.inl due), fun number' _ => h.ended number'⟩

/-- One step. -/
theorem Tabled.step (h : Tabled s.service.inFlight s.pool.futures s.notes)
    (numbered : Numbered s.service.accepted s.pool.futures) (step : Step scans s s') :
    Tabled s'.service.inFlight s'.pool.futures s'.notes := by
  cases step with
  | submit accepted =>
    obtain ⟨-, rfl, rfl⟩ := Service.submit_eq_ok accepted
    exact h.append numbered.notMem_keys_succ .pending
  | @attach number future known unattached =>
    refine h.note (by rw [unattached]; nofun) ?_ fun due => ⟨future, known, ?_⟩
    · split <;> nofun
    · split at due
      · assumption
      · cases due
  | begins waits => exact h.put waits rfl .running
  | @resolves number result running ended =>
    refine h.ends running rfl ?_
    cases result <;> rfl
  | withdraws waits =>
    have ends := h.ends waits rfl (rfl : Future.isOver .withdrawn = true)
    rwa [← Pool.futures_withdraw waits] at ends
  | forgets due => exact h.forget due
  | records returned => simpa using h
  | returns | leaves | shuts | closes | reads | trips | counts => exact h

/-- The table of a service in operation. -/
theorem Reachable.tabled (reached : Reachable scans workers s) :
    Tabled s.service.inFlight s.pool.futures s.notes := by
  induction reached with
  | refl => exact ⟨.nil, fun number => by simp [start, Table.keys], fun number noted => by
      rcases noted with h | h <;> cases h⟩
  | tail before step ih => exact ih.step (Reachable.numbered before) step

/-- The future of a scan is done. -/
def IsOver (s : Operation κ) (number : ScanNumber) : Prop :=
  ∃ future, s.pool.futures.get? number = some future ∧ future.isOver = true

/-- An accepted scan is done or in the table. -/
theorem Reachable.isOver_or_mem (reached : Reachable scans workers s) (positive : 0 < number)
    (le : number ≤ s.service.accepted) : s.IsOver number ∨ number ∈ s.service.inFlight := by
  obtain ⟨future, known⟩ := (Reachable.numbered reached).exists_get? positive le
  cases ended : future.isOver with
  | true => exact Or.inl ⟨future, known, ended⟩
  | false => exact Or.inr ((Reachable.tabled reached).mem known ended)

/-! ### What stays -/

/-- A future that is done stays as it is. -/
theorem IsOver.step (ended : s.IsOver number)
    (numbered : Numbered s.service.accepted s.pool.futures) (step : Step scans s s') :
    s'.IsOver number := by
  obtain ⟨future, known, isOver⟩ := ended
  -- Whatever future changes in a step is another one.
  have other {number' : ScanNumber} {before : Future} (after : Future)
      (changes : s.pool.futures.get? number' = some before) (open_ : before.isOver = false) :
      (s.pool.futures.put number' after).get? number = some future := by
    have ne : number ≠ number' := by
      rintro rfl
      rw [known] at changes
      cases changes
      rw [isOver] at open_
      cases open_
    exact (Table.get?_put_of_ne _ _ ne).trans known
  cases step with
  | submit accepted =>
    obtain ⟨-, rfl, -⟩ := Service.submit_eq_ok accepted
    have ne : number ≠ s.service.accepted + 1 :=
      (Nat.lt_succ_of_le (numbered.bounds known).2).ne
    exact ⟨future, (Table.get?_put_of_ne _ _ ne).trans known, isOver⟩
  | begins waits => exact ⟨future, other .running waits rfl, isOver⟩
  | resolves running ended => exact ⟨future, other _ running rfl, isOver⟩
  | withdraws waits =>
    have unchanged := other .withdrawn waits rfl
    rw [← Pool.futures_withdraw waits] at unchanged
    exact ⟨future, unchanged, isOver⟩
  | attach | returns | leaves | records | forgets | shuts | closes | reads | trips | counts =>
    exact ⟨future, known, isOver⟩

/-- The same for many steps. -/
theorem IsOver.leads (ended : s.IsOver number)
    (numbered : Numbered s.service.accepted s.pool.futures) (leads : Leads scans s s') :
    s'.IsOver number := by
  induction leads with
  | refl => exact ended
  | tail before step ih => exact ih.step (numbered.leads before) step

/-- A service that is shut stays shut and accepts nothing. -/
theorem Step.closed (step : Step scans s s') (closed : s.service.closed = true) :
    s'.service.closed = true ∧ s'.service.accepted = s.service.accepted := by
  cases step with
  | submit accepted =>
    rw [Service.submit_eq_error closed] at accepted
    cases accepted
  | records returned => simpa using closed
  | shuts | closes => exact ⟨rfl, rfl⟩
  | attach | begins | returns | leaves | resolves | withdraws | forgets | reads | trips | counts =>
    exact ⟨closed, rfl⟩

/-- The same for many steps. -/
theorem Leads.closed (leads : Leads scans s s') (closed : s.service.closed = true) :
    s'.service.closed = true ∧ s'.service.accepted = s.service.accepted := by
  induction leads with
  | refl => exact ⟨closed, rfl⟩
  | tail _ step ih =>
    obtain ⟨closed', same⟩ := step.closed ih.1
    exact ⟨closed', same.trans ih.2⟩

/-- A token that is tripped stays tripped. -/
theorem Step.isCancelled (step : Step scans s s')
    (cancelled : s.service.isCancelled number = true) :
    s'.service.isCancelled number = true := by
  cases step with
  | submit accepted =>
    obtain ⟨-, -, rfl⟩ := Service.submit_eq_ok accepted
    exact cancelled
  | records returned => simpa using cancelled
  | trips under => exact s.service.isCancelled_trip.2 (Or.inr cancelled)
  | attach | begins | returns | leaves | resolves | withdraws | forgets | shuts | closes | reads
  | counts => exact cancelled

/-! ### A caller who cancels all scans -/

/-- What a step means for a caller who cancels all scans. -/
inductive Turn (c : κ) (s s' : Operation κ) : Prop where
  /-- It is another one who acts. -/
  | rests (same : s'.sweeps c = s.sweeps c)
  | closes (before : s.sweeps c = .unbegun) (after : s'.sweeps c = .closing)
      (closed : s'.service.closed = true)
  | reads {closes : Bool} (ready : s.sweeps c = if closes then .closing else .unbegun)
      (eq : s' = s.read c closes)
  | trips {read left : List ScanNumber} {number : ScanNumber} {closes : Bool}
      (before : s.sweeps c = .under read (number :: left) closes)
      (after : s'.sweeps c = .under read left closes)
      (cancelled : s'.service.isCancelled number = true)
  | counts {read : List ScanNumber} {closes : Bool} (before : s.sweeps c = .under read [] closes)
      (after : s'.sweeps c = .swept read.length closes)

/-- A step changes what one caller at most has to do. -/
theorem Step.turn (step : Step scans s s') (c : κ) : Turn c s s' := by
  cases step with
  | @closes c' unshut unbegun =>
    by_cases hc : c = c'
    · subst hc
      exact .closes unbegun (Function.update_self ..) rfl
    · exact .rests (Function.update_of_ne hc ..)
  | @reads c' closes ready =>
    by_cases hc : c = c'
    · subst hc
      exact .reads ready rfl
    · exact .rests (Function.update_of_ne hc ..)
  | @trips c' read left number closes under =>
    by_cases hc : c = c'
    · subst hc
      exact .trips under (Function.update_self ..) (s.service.isCancelled_trip.2 (Or.inl rfl))
    · exact .rests (Function.update_of_ne hc ..)
  | @counts c' read closes under =>
    by_cases hc : c = c'
    · subst hc
      exact .counts under (Function.update_self ..)
    · exact .rests (Function.update_of_ne hc ..)
  | submit | attach | begins | returns | leaves | records | resolves | withdraws | forgets
  | shuts => exact .rests rfl

/-- A caller has read these scans. -/
def HasRead (s : Operation κ) (c : κ) (read : List ScanNumber) (closes : Bool) : Prop :=
  (∃ left, s.sweeps c = .under read left closes) ∨ s.sweeps c = .swept read.length closes

/-- A caller reads the table once. -/
theorem HasRead.step {read : List ScanNumber} {closes : Bool} (hasRead : s.HasRead c read closes)
    (step : Step scans s s') : s'.HasRead c read closes := by
  unfold HasRead at hasRead ⊢
  cases step.turn c with
  | rests same => rwa [same]
  | closes before after closed => simp [before] at hasRead
  | @reads closes' ready eq => cases closes' <;> simp [ready] at hasRead
  | trips before after cancelled =>
    simp only [before, Sweep.under.injEq, reduceCtorEq, or_false] at hasRead
    obtain ⟨left, rfl, -, rfl⟩ := hasRead
    exact Or.inl ⟨_, after⟩
  | counts before after =>
    simp only [before, Sweep.under.injEq, reduceCtorEq, or_false] at hasRead
    obtain ⟨left, rfl, -, rfl⟩ := hasRead
    exact Or.inr after

/-- A scan is caught by a caller: its token is tripped, or he has still to trip it. -/
def Caught (s : Operation κ) (c : κ) (number : ScanNumber) : Prop :=
  s.service.isCancelled number = true ∨
    ∃ read left closes, s.sweeps c = .under read left closes ∧ number ∈ left

/-- A scan that is caught stays caught. -/
theorem Caught.step (caught : s.Caught c number) (step : Step scans s s') :
    s'.Caught c number := by
  rcases caught with cancelled | ⟨read, left, closes, under, mem⟩
  · exact Or.inl (step.isCancelled cancelled)
  cases step.turn c with
  | rests same => exact Or.inr ⟨read, left, closes, same.trans under, mem⟩
  | closes before after closed =>
    rw [under] at before
    cases before
  | @reads closes' ready eq =>
    rw [under] at ready
    cases closes' <;> cases ready
  | trips before after cancelled =>
    rw [under] at before
    cases before
    rcases List.mem_cons.1 mem with rfl | mem
    · exact Or.inl cancelled
    · exact Or.inr ⟨_, _, _, after, mem⟩
  | counts before after =>
    rw [under] at before
    cases before
    cases mem

/-- Whoever has tripped all that he has read knows how many scans he has read, and all of them are
cancelled. -/
theorem eq_length_of_leads_read {count : Nat} {closes closes' : Bool}
    (leads : Leads scans (s.read c closes) s') (swept : s'.sweeps c = .swept count closes') :
    closes' = closes ∧ count = s.service.inFlight.length ∧
      ∀ number ∈ s.service.inFlight, s'.service.isCancelled number = true := by
  have under := s.sweeps_read_self c closes
  have hasRead : s'.HasRead c s.service.inFlight closes := by
    clear swept
    induction leads with
    | refl => exact Or.inl ⟨_, under⟩
    | tail _ step ih => exact ih.step step
  have caught {number : ScanNumber} (mem : number ∈ s.service.inFlight) : s'.Caught c number := by
    clear swept hasRead
    induction leads with
    | refl => exact Or.inr ⟨_, _, _, under, mem⟩
    | tail _ step ih => exact ih.step step
  rcases hasRead with ⟨left, is⟩ | is
  · rw [swept] at is
    cases is
  · rw [swept] at is
    cases is
    refine ⟨rfl, rfl, fun number mem => (caught mem).resolve_right ?_⟩
    rintro ⟨read, left, closes', is, -⟩
    rw [swept] at is
    cases is

/-- Whoever has to trip tokens, or has tripped them, has read the table at some time. -/
theorem Reachable.exists_read (reached : Reachable scans workers s)
    (begun : s.sweeps c ≠ .unbegun) (ready : s.sweeps c ≠ .closing) :
    ∃ s₀ closes, Reachable scans workers s₀ ∧
      s₀.sweeps c = (if closes then .closing else .unbegun) ∧ Leads scans (s₀.read c closes) s := by
  induction reached with
  | refl => exact absurd rfl begun
  | @tail s₁ s₂ before step ih =>
    have earlier (begun : s₁.sweeps c ≠ .unbegun) (ready : s₁.sweeps c ≠ .closing) :
        ∃ s₀ closes, Reachable scans workers s₀ ∧
          s₀.sweeps c = (if closes then .closing else .unbegun) ∧
          Leads scans (s₀.read c closes) s₂ := by
      obtain ⟨s₀, closes, reached, ready, leads⟩ := ih begun ready
      exact ⟨s₀, closes, reached, ready, leads.tail step⟩
    cases step.turn c with
    | rests same =>
      rw [same] at begun ready
      exact earlier begun ready
    | closes unbegun after closed => exact absurd after ready
    | @reads closes ready eq => exact ⟨s₁, closes, before, ready, eq ▸ .refl⟩
    | trips under after cancelled => exact earlier (by rw [under]; nofun) (by rw [under]; nofun)
    | counts under after => exact earlier (by rw [under]; nofun) (by rw [under]; nofun)

/-- Whoever is about to read the table because he shuts the service down has shut it. -/
theorem Reachable.closed (reached : Reachable scans workers s) (closing : s.sweeps c = .closing) :
    s.service.closed = true := by
  induction reached with
  | refl => cases closing
  | tail before step ih =>
    cases step.turn c with
    | rests same => exact (step.closed (ih (same.symm.trans closing))).1
    | closes unbegun after closed => exact closed
    | reads ready eq =>
      subst eq
      rw [sweeps_read_self] at closing
      cases closing
    | trips under after cancelled =>
      rw [closing] at after
      cases after
    | counts under after =>
      rw [closing] at after
      cases after

/-! ### The whole -/

/-- No scan escapes, whatever others do at the same time.  Every accepted scan that is not done is
in the table, which has no scan twice.  Whoever cancels all scans cancels those that were accepted
and not done when he read the table, and learns how many he has read.  A service that is shut
accepts nothing any more, and once somebody has shut it and cancelled all scans, every scan that was
ever accepted is done or cancelled.  When all scans are done and forgotten the table is empty.  All
this is true of what a session does at once: to cancel all scans with `Service.cancelAll` is a run
that begins with the read of the table, and to shut the service down with `Service.close` is a run
too. -/
theorem none_escapes (reached : Reachable scans workers s) :
    (∀ number, 0 < number → number ≤ s.service.accepted →
      s.IsOver number ∨ number ∈ s.service.inFlight) ∧
    s.service.inFlight.Nodup ∧
    (∀ c closes s', Leads scans (s.read c closes) s' → ∀ count closes',
      s'.sweeps c = .swept count closes' →
      count = s.service.inFlight.length ∧
        ∀ number, 0 < number → number ≤ s.service.accepted →
          s.IsOver number ∨ s'.service.isCancelled number = true) ∧
    (s.service.closed = true → s.service.submit = .error Service.closedFault ∧
      ∀ s', Leads scans s s' →
        s'.service.closed = true ∧ s'.service.accepted = s.service.accepted) ∧
    (∀ c count, s.sweeps c = .swept count true →
      s.service.closed = true ∧ ∀ number, 0 < number → number ≤ s.service.accepted →
        s.IsOver number ∨ s.service.isCancelled number = true) ∧
    ((∀ number, 0 < number → number ≤ s.service.accepted →
      s.IsOver number ∧ s.notes number = .heeded) →
      s.service.inFlight = [] ∧ s.service.isScanning = false) ∧
    (∀ c closes, Leads scans (s.read c closes) (s.cancelAll c closes)) ∧
    ∀ c, s.service.closed = false → s.sweeps c = .unbegun → Leads scans s (s.close c) := by
  have tabled := Reachable.tabled reached
  refine ⟨fun number => reached.isOver_or_mem, tabled.nodup,
    fun c closes s' leads count closes' swept => ?_, fun closed => ?_, fun c count swept => ?_,
    fun settled => ?_, leads_cancelAll s, fun c => leads_close⟩
  · obtain ⟨-, length, all⟩ := eq_length_of_leads_read leads swept
    exact ⟨length, fun number positive le =>
      (reached.isOver_or_mem positive le).imp_right (all number)⟩
  · exact ⟨Service.submit_eq_error closed, fun s' leads => leads.closed closed⟩
  · -- At the time of the read the service was shut, so nothing was accepted since.
    obtain ⟨s₀, closes, before, ready, leads⟩ :=
      reached.exists_read (c := c) (by rw [swept]; nofun) (by rw [swept]; nofun)
    obtain ⟨rfl, -, all⟩ := eq_length_of_leads_read leads swept
    obtain ⟨closed, same⟩ := leads.closed (before.closed ready)
    refine ⟨closed, fun number positive le => ?_⟩
    rw [same] at le
    have numbered := Reachable.numbered before
    exact (before.isOver_or_mem positive le).imp
      (fun h => IsOver.leads (s := s₀.read c true) h numbered leads) (all number)
  · have empty : s.service.inFlight = [] := by
      refine List.eq_nil_iff_forall_not_mem.2 fun number mem => ?_
      obtain ⟨key, unheeded⟩ := (tabled.mem_iff number).1 mem
      rw [Reachable.numbered reached, List.mem_range'_1] at key
      exact unheeded (settled number key.1 (Nat.lt_one_add_iff.1 key.2)).2
    refine ⟨empty, ?_⟩
    rw [Service.isScanning, empty]
    rfl

/-! ### A scan that is done before its note is attached -/

/-- A scan is taken back before its note is attached, and is forgotten all the same. -/
theorem leads_lateNote (waits : s.pool.futures.get? number = some .pending)
    (unattached : s.notes number = .unattached) :
    Leads scans s { s with
      service := s.service.forget number
      pool := (s.pool.withdraw number).2
      notes := Function.update s.notes number .heeded } := by
  have known : (s.pool.withdraw number).2.futures.get? number = some .withdrawn := by
    rw [Pool.futures_withdraw waits, Table.get?_put_self]
  have late : Function.update s.notes number (s.notes number).atEnd number = .unattached := by
    rw [Function.update_self, unattached]
    rfl
  have withdrawn : Leads scans s _ := .single (.withdraws waits)
  have attached : Leads scans s _ := withdrawn.tail (.attach known late)
  have forgotten : Leads scans s _ := attached.tail (.forgets (Function.update_self ..))
  dsimp only at forgotten ⊢
  rwa [Function.update_idem, Function.update_idem] at forgotten

/-- Two scans were accepted, and the first was taken back and forgotten.  Then somebody has shut the
service down and cancelled all scans. -/
def shutDown : Operation Unit where
  service := { closed := true, accepted := 2, inFlight := [2], cancelled := [2] }
  pool := { workers := 2, futures := [(1, .withdrawn), (2, .pending)] }
  stages := fun _ => .unended
  notes := Function.update (fun _ => .unattached) 1 .heeded
  sweeps := Function.update (fun _ => .unbegun) () (.swept 1 true)

/-- The second scan was taken back and forgotten too. -/
def emptied : Operation Unit where
  service := { closed := true, accepted := 2, inFlight := [], cancelled := [2] }
  pool := { workers := 2, futures := [(1, .withdrawn), (2, .withdrawn)] }
  stages := shutDown.stages
  notes := Function.update shutDown.notes 2 .heeded
  sweeps := shutDown.sweeps

/-- The scan that was not done when the service was shut down is cancelled, nothing is accepted
after that, and the table is empty in the end. -/
theorem late_notes_are_heeded :
    Reachable idleScans 2 shutDown ∧
      (∀ number, 0 < number → number ≤ 2 →
        shutDown.IsOver number ∨ shutDown.service.isCancelled number = true) ∧
      shutDown.service.submit = .error Service.closedFault ∧
      Reachable idleScans 2 emptied ∧ emptied.service.isScanning = false := by
  have first : Reachable idleScans 2 (_ : Operation Unit) := reachable_twoAccepted.trans
    (leads_lateNote (show Table.get? _ 1 = some Future.pending from rfl) rfl)
  obtain ⟨-, -, -, -, -, -, -, close⟩ := none_escapes first
  have reached : Reachable idleScans 2 shutDown := first.trans (close () rfl rfl)
  have done_ : Reachable idleScans 2 emptied := reached.trans
    (leads_lateNote (show Table.get? _ 2 = some Future.pending from rfl) rfl)
  obtain ⟨-, -, -, shut, swept, -⟩ := none_escapes reached
  obtain ⟨-, -, -, -, -, empty, -⟩ := none_escapes done_
  refine ⟨reached, (swept () 1 rfl).2, (shut rfl).1, done_, (empty fun number positive le => ?_).2⟩
  have two {n : Nat} (positive : 0 < n) (le : n ≤ 2) : n = 1 ∨ n = 2 := by omega
  rcases two positive le with rfl | rfl <;> exact ⟨⟨.withdrawn, rfl, rfl⟩, rfl⟩

end Operation

end LiveCheck
