import LiveCheck.Proofs.Scan.Custody
import LiveCheck.Proofs.Scan.Snapshots
import LiveCheck.Session.State

/-!
# Every copy of a set is removed once

A set of snapshots grows with every call that makes some, also with one that fails on the way, and
may be cleaned up at any time.  A snapshot remembers that the removal of its copy was tried, and
nothing else does.  `Life` is a sequence of such calls with all that was asked in them, and
`account` says, without a look at what the snapshots remember, which of them the last cleanup found
and which were added since.

The invariant of a life is that the former are retired and the latter are as they were made
(`Life.files_eq`).  So a cleanup tries exactly the copies that were added since, and all cleanups
together try every copy once.  A removal may fail as removals do: the file is missing, or a system
call fails; it is noted or not, and the next copy is tried.

A call that makes snapshots removes nothing that belongs to the set: it may try to remove the one
copy that it could not write, and that copy is in no set (`runs_makeAll_hands`).
-/

namespace LiveCheck

open Program (Exchange Runs AsksOnly)

/-! ### Removals in a trace -/

/-- Does a removal go as removals do: the file is removed or missing, or a system call fails? -/
def usual : Except Fault Unit → Bool
  | .ok () => true
  | .error fault => fault.isSystem

namespace Program.Exchange

/-- Is this no removal, or one that goes as removals do? -/
def isUsual : Exchange → Bool
  | ⟨.remove _, reply⟩ => usual reply
  | _ => true

/-- The file whose removal is tried. -/
def removal? : Exchange → Option String
  | ⟨.remove path, _⟩ => some path
  | _ => none

/-- The copy that is created. -/
def creation? : Exchange → Option String
  | ⟨.createTemporary _ _ _, .ok path⟩ => some path
  | _ => none

end Program.Exchange

namespace Trace

/-- The files whose removal is tried. -/
def removals (t : Trace) : List String := t.filterMap Exchange.removal?

/-- The copies that are created. -/
def creations (t : Trace) : List String := t.filterMap Exchange.creation?

variable {t t₁ t₂ : Trace}

/-- The removals of two traces one after the other. -/
theorem removals_append : removals (t₁ ++ t₂) = removals t₁ ++ removals t₂ :=
  List.filterMap_append

/-- The creations of two traces one after the other. -/
theorem creations_append : creations (t₁ ++ t₂) = creations t₁ ++ creations t₂ :=
  List.filterMap_append

/-- The copies that a part of a call creates are those that it hands on and at most one that it
does not; this one alone it may try to remove. -/
structure Hands (t : Trace) (kept : List String) (lost : Option String) : Prop where
  creations_eq : creations t = kept ++ lost.toList
  removals_eq : removals t = [] ∨ removals t = lost.toList

variable {kept kept₁ kept₂ : List String} {lost : Option String}

/-- Where nothing is asked about copies, none is created and none is removed. -/
theorem About.hands {cs : List Concern} (h : About cs t) (hc : Concern.copy ∉ cs) :
    Hands t [] none := by
  have quiet : ∀ e ∈ t, e.creation? = none ∧ e.removal? = none := by
    intro ⟨r, reply⟩ he
    have about : r.concern ∈ cs := h _ he
    cases r with
    | encoding | createTemporary | writeTemporary | remove => exact absurd about hc
    | _ => exact ⟨rfl, rfl⟩
  exact ⟨List.filterMap_eq_nil_iff.2 fun e he => (quiet e he).1,
    .inl (List.filterMap_eq_nil_iff.2 fun e he => (quiet e he).2)⟩

/-- A part that hands on all its copies, and another one. -/
theorem Hands.append (h₁ : Hands t₁ kept₁ none) (h₂ : Hands t₂ kept₂ lost) :
    Hands (t₁ ++ t₂) (kept₁ ++ kept₂) lost where
  creations_eq := by
    rw [creations_append, h₁.creations_eq, h₂.creations_eq]
    simp
  removals_eq := by
    have nothing : removals t₁ = [] := h₁.removals_eq.elim id id
    rw [removals_append, nothing, List.nil_append]
    exact h₂.removals_eq

/-- A part that asks nothing about copies after another one. -/
theorem Hands.append_about {cs : List Concern} (h : Hands t₁ kept lost) (about : About cs t₂)
    (hc : Concern.copy ∉ cs) : Hands (t₁ ++ t₂) kept lost where
  creations_eq := by
    rw [creations_append, h.creations_eq, (about.hands hc).creations_eq]
    simp
  removals_eq := by
    have nothing : removals t₂ = [] := (about.hands hc).removals_eq.elim id id
    rw [removals_append, nothing, List.append_nil]
    exact h.removals_eq

/-- A part that asks nothing about copies before another one. -/
theorem Hands.about_append {cs : List Concern} (h : Hands t₂ kept lost) (about : About cs t₁)
    (hc : Concern.copy ∉ cs) : Hands (t₁ ++ t₂) kept lost :=
  (about.hands hc).append h

end Trace

open Trace

namespace Snapshot

open Program

/-! ### Removals while snapshots are made -/

/-- To remove a copy is one removal, and none if it was tried before. -/
theorem removals_delete {s : Snapshot} {t : Trace} {r : Except Fault Unit}
    (run : Runs s.delete.attempt t r) : creations t = [] ∧ removals t = copyPaths [s] := by
  unfold delete at run
  split at run
  · next pending =>
    obtain ⟨_, t₂, reply, rfl, remove, rest⟩ := runs_attempt_ofTotal_bind.1 run
    cases runs_request.1 remove
    have logged : About [.log] t₂ := by
      refine rest.about ?_
      match reply with
      | .ok () => exact asksOnly_attempt_pure ()
      | .error fault =>
        dsimp only
        split
        · exact asksOnly_attempt_pure ()
        · split
          · exact AsksOnly.ofTotal (logLine_asks _ _ _)
          · exact asksOnly_attempt_throw _
    obtain ⟨created, removed⟩ := logged.hands (by decide)
    have copy : copyPaths [s] = [s.path] := by simp [copyPaths, pending]
    rw [copy]
    exact ⟨created, congrArg (s.path :: ·) (removed.elim id id)⟩
  · next done =>
    obtain ⟨rfl, -⟩ := runs_attempt_pure.1 run
    exact ⟨rfl, by simp [copyPaths, done, removals]⟩

/-- The copy that an action hands on, if it does not fail. -/
def copiesOf : Except Fault Snapshot → List String
  | .ok s => copyPaths [s]
  | .error _ => []

/-- To write a text to a copy creates nothing, and removes the copy at most if that fails. -/
theorem hands_fillCopy {s : Snapshot} {text : String} {t : Trace} {r : Except Fault Unit}
    (run : Runs (s.fillCopy text).attempt t r) :
    creations t = [] ∧ (removals t = [] ∨ removals t = copyPaths [s] ∧ ∀ u, r ≠ .ok u) := by
  have writing {t : Trace} {r : Except Fault Unit} (run : Runs (do
      let encoding ← Action.ofProgram (.request (.encoding s.handle))
      Action.ofProgram (.request (.writeTemporary s.path text encoding)) :
        Action Unit).attempt t r) : creations t = [] ∧ removals t = [] := by
    rcases runs_attempt_bind.1 run with ⟨t₁, t₂, encoding, rfl, find, write⟩ | ⟨fault, rfl, find⟩
    · cases runs_request.1 find
      cases runs_request.1 write
      exact ⟨rfl, rfl⟩
    · cases runs_request.1 find
      exact ⟨rfl, rfl⟩
  unfold fillCopy at run
  rcases runs_attempt_tryCatch.1 run with ⟨_, -, write⟩ | ⟨t₁, t₂, fault, rfl, write, handled⟩
  · exact ⟨(writing write).1, .inl (writing write).2⟩
  obtain ⟨created, removed⟩ := writing write
  -- What the handler asks is the removal of the copy, or nothing; and it always fails.
  have tail : creations t₂ = [] ∧
      (removals t₂ = [] ∨ removals t₂ = copyPaths [s] ∧ ∀ u, r ≠ .ok u) := by
    split at handled
    · rcases runs_attempt_bind.1 handled with ⟨t₃, t₄, _, rfl, delete, raise⟩ | ⟨_, rfl, delete⟩
      · obtain ⟨rfl, rfl⟩ := runs_attempt_throw.1 raise
        rw [List.append_nil]
        exact ⟨(removals_delete delete).1, .inr ⟨(removals_delete delete).2, nofun⟩⟩
      · exact ⟨(removals_delete delete).1, .inr ⟨(removals_delete delete).2, nofun⟩⟩
    · obtain ⟨rfl, -⟩ := runs_attempt_throw.1 handled
      exact ⟨rfl, .inl rfl⟩
  rw [creations_append, removals_append, created, removed]
  exact tail

/-- To place a snapshot creates its copy, if it has one; a copy that is not handed on may be
removed. -/
theorem hands_place {scratch : Option String} {h : Handle} {current : String}
    {onDisk : Option String} {t : Trace} {r : Except Fault Snapshot}
    (run : Runs (place scratch h current onDisk).attempt t r) :
    ∃ lost, Hands t (copiesOf r) lost ∧ ((∃ s, r = .ok s) → lost = none) := by
  unfold place at run
  split at run
  · obtain ⟨rfl, rfl⟩ := runs_attempt_pure.1 run
    exact ⟨none, ⟨rfl, .inl rfl⟩, fun _ => rfl⟩
  unfold writeCopy at run
  rcases runs_attempt_bind.1 run with ⟨t₁, t₂, path, rfl, create, filling⟩ | ⟨fault, rfl, create⟩
  · obtain ⟨reply, rfl, created, -⟩ := runs_createCopy create
    obtain rfl := (created path).1 rfl
    rcases runs_attempt_bind.1 filling with ⟨t₃, t₄, _, rfl, fill, last⟩ | ⟨fault, rfl, fill⟩
    · obtain ⟨rfl, rfl⟩ := runs_attempt_pure.1 last
      obtain ⟨nothing, kept | ⟨-, failed⟩⟩ := hands_fillCopy fill
      · rw [List.append_nil]
        exact ⟨none, ⟨congrArg (path :: ·) nothing, .inl kept⟩, fun _ => rfl⟩
      · exact absurd rfl (failed _)
    · obtain ⟨nothing, removed⟩ := hands_fillCopy fill
      refine ⟨some path, ⟨congrArg (path :: ·) nothing, removed.imp id And.left⟩, ?_⟩
      rintro ⟨s, same⟩
      cases same
  · obtain ⟨reply, rfl, created, -⟩ := runs_createCopy create
    match reply with
    | .ok path => exact nomatch (created path).2 rfl
    | .error fault => exact ⟨none, ⟨rfl, .inl rfl⟩, fun _ => rfl⟩

/-- The same for a file, from the look at the token on. -/
theorem hands_make {scratch : Option String} {cancellable : Bool} {unsaved : Table String Handle}
    {h : Handle} {t : Trace} {r : Except Fault (Snapshot × Table String Handle)}
    (run : Runs (make scratch cancellable unsaved h).attempt t r) :
    ∃ lost, Hands t (copiesOf (r.map Prod.fst)) lost ∧ ((∃ x, r = .ok x) → lost = none) := by
  have checked {t : Trace} {x : Except Fault Unit}
      (run : Runs (checkCancelled cancellable).attempt t x) : About [.token, .text] t :=
    (run.about (checkCancelled_asks _)).mono (by decide)
  have texts {current : String} {onDisk : Option String} :
      Hands [⟨.currentText h, .ok current⟩, ⟨.diskText h, .ok onDisk⟩] [] none := ⟨rfl, .inl rfl⟩
  cases runs_make run with
  | stopped check => exact ⟨none, (checked check).hands (by decide), fun _ => rfl⟩
  | unread check read =>
    have reading := (read.about (readTexts_asks h)).hands (by decide)
    exact ⟨none, reading.about_append (checked check) (by decide), fun _ => rfl⟩
  | collides check taken =>
    exact ⟨none, texts.about_append (checked check) (by decide), fun _ => rfl⟩
  | unplaced check claimed place =>
    obtain ⟨lost, placing, -⟩ := hands_place place
    refine ⟨lost, (texts.append placing).about_append (checked check) (by decide), ?_⟩
    rintro ⟨x, same⟩
    cases same
  | placed check claimed place =>
    obtain ⟨lost, placing, all⟩ := hands_place place
    exact ⟨lost, (texts.append placing).about_append (checked check) (by decide),
      fun _ => all ⟨_, rfl⟩⟩

/-- To make the snapshots of files one by one hands on the copies of those that were made. -/
theorem hands_makeEach {scratch : Option String} {cancellable : Bool}
    {unsaved : Table String Handle} {handles : List Handle} {t : Trace} {made : List Snapshot}
    {r : Except Fault Unit}
    (run : Runs (makeEach scratch cancellable unsaved handles) t (made, r)) :
    ∃ lost, Hands t (copyPaths made) lost := by
  induction handles generalizing unsaved t made with
  | nil =>
    obtain ⟨rfl, same⟩ := runs_pure.1 run
    cases same
    exact ⟨none, rfl, .inl rfl⟩
  | cons h rest ih =>
    rcases runs_makeEach run with
      ⟨fault, rfl, -, make⟩ | ⟨s, others, unsaved', t₁, t₂, rfl, rfl, make, makeRest⟩
    · obtain ⟨lost, hands, -⟩ := hands_make make
      exact ⟨lost, hands⟩
    · obtain ⟨_, hands₁, all⟩ := hands_make make
      obtain rfl := all ⟨_, rfl⟩
      obtain ⟨lost, hands₂⟩ := ih makeRest
      have cut : copyPaths (s :: others) = copyPaths [s] ++ copyPaths others :=
        copyPaths_append [s] others
      rw [cut]
      exact ⟨lost, hands₁.append hands₂⟩

/-- A call that makes snapshots tries to remove nothing but the one copy, if any, that it created
and did not add to the set. -/
theorem runs_makeAll_hands {scratch : Option String} {cancellable : Bool} {handles : List Handle}
    {t : Trace} {made : List Snapshot} {r : Except Fault Unit}
    (run : Runs (makeAll scratch cancellable handles) t (made, r)) :
    ∃ lost, Hands t (copyPaths made) lost := by
  rcases runs_makeAll run with ⟨fault, rfl, -, rfl⟩ | ⟨t₁, ending, unlocked, rfl, -, each⟩
  · exact ⟨none, rfl, .inl rfl⟩
  · obtain ⟨lost, hands⟩ := hands_makeEach each
    have held := hands.append_about (about_singleton ⟨.unlock, unlocked⟩) (by simp [Request.concern])
    exact ⟨lost, held.about_append (about_singleton ⟨.lock, .ok ()⟩) (by simp [Request.concern])⟩

/-! ### One cleanup -/

/-- What is noted when the removal of the copy is answered so: a warning, if a system call failed
though the file was there. -/
def noted (s : Snapshot) : Except Fault Unit → Trace
  | .ok () => []
  | .error fault =>
    if fault.isIn .missing then []
    else [⟨.log (.make .warning .snapshot ("Failed to delete snapshot " ++ s.path ++ " for " ++
      s.handle.path ++ ": " ++ fault.message)), ()⟩]

/-- What happens when the removal of the copy is tried and answered so. -/
def tried (s : Snapshot) (reply : Except Fault Unit) : Trace :=
  ⟨.remove s.path, reply⟩ :: s.noted reply

/-- What happens when the removals of some copies are tried one after the other. -/
def triedAll (copies : List Snapshot) (replies : List (Except Fault Unit)) : Trace :=
  (List.zipWith tried copies replies).flatten

/-- A removal is tried where it is said to be, and what is noted is no removal. -/
theorem removals_tried (s : Snapshot) (reply : Except Fault Unit) :
    removals (s.tried reply) = [s.path] := by
  unfold tried noted
  match reply with
  | .ok () => rfl
  | .error fault =>
    dsimp only
    split <;> rfl

/-- One removal is tried for each copy, in order. -/
theorem removals_triedAll {copies : List Snapshot} {replies : List (Except Fault Unit)}
    (each : replies.length = copies.length) :
    removals (triedAll copies replies) = copies.map path := by
  induction copies generalizing replies with
  | nil => rfl
  | cons s rest ih =>
    obtain ⟨reply, replies, rfl⟩ := List.exists_cons_of_length_eq_add_one each
    have step : triedAll (s :: rest) (reply :: replies) = s.tried reply ++ triedAll rest replies :=
      rfl
    rw [step, removals_append, removals_tried, ih (Nat.succ.inj each)]
    rfl

/-- What happens about a copy goes as removals do just if its answer does. -/
theorem isUsual_tried {s : Snapshot} {reply : Except Fault Unit} :
    (∀ e ∈ s.tried reply, e.isUsual = true) ↔ usual reply = true := by
  unfold tried
  rw [List.forall_mem_cons]
  refine and_iff_left fun e he => ?_
  unfold noted at he
  match reply with
  | .ok () => cases he
  | .error fault =>
    dsimp only at he
    split at he
    · cases he
    · cases List.mem_singleton.1 he
      rfl

/-- The copy of a snapshot, if its removal was not tried before, is tried to remove once; and the
removal fails in no way if it goes as removals do. -/
theorem runs_delete_iff {s : Snapshot} {t : Trace} {r : Except Fault Unit} :
    (Runs s.delete.attempt t r ∧ ∀ e ∈ t, e.isUsual = true) ↔
      r = .ok () ∧ if s.isPending then ∃ reply, usual reply = true ∧ t = s.tried reply
        else t = [] := by
  unfold delete
  split
  swap
  · rw [runs_attempt_pure]
    constructor
    · rintro ⟨⟨rfl, rfl⟩, -⟩
      exact ⟨rfl, rfl⟩
    · rintro ⟨rfl, rfl⟩
      exact ⟨⟨rfl, rfl⟩, nofun⟩
  constructor
  · rintro ⟨run, goes⟩
    obtain ⟨_, t₂, reply, rfl, remove, rest⟩ := runs_attempt_ofTotal_bind.1 run
    cases runs_request.1 remove
    have goes₁ : usual reply = true := goes _ List.mem_cons_self
    match reply with
    | .ok () =>
      obtain ⟨rfl, rfl⟩ := runs_attempt_pure.1 rest
      exact ⟨rfl, _, goes₁, rfl⟩
    | .error fault =>
      dsimp only at rest
      split at rest
      · next missing =>
        obtain ⟨rfl, rfl⟩ := runs_attempt_pure.1 rest
        exact ⟨rfl, _, goes₁, by rw [tried, noted, if_pos missing]; rfl⟩
      · next there =>
        have system : fault.isSystem = true := goes₁
        rw [if_pos system] at rest
        obtain ⟨_, rfl, log⟩ := runs_attempt_ofTotal.1 rest
        obtain rfl := runs_request.1 log
        exact ⟨rfl, _, goes₁, by rw [tried, noted, if_neg there]; rfl⟩
  · rintro ⟨rfl, reply, goes, rfl⟩
    refine ⟨runs_attempt_ofTotal_bind.2 ⟨_, s.noted reply, reply, rfl, runs_request.2 rfl, ?_⟩,
      isUsual_tried.2 goes⟩
    unfold noted
    match reply with
    | .ok () => exact runs_attempt_pure.2 ⟨rfl, rfl⟩
    | .error fault =>
      dsimp only
      split
      · exact runs_attempt_pure.2 ⟨rfl, rfl⟩
      · have system : fault.isSystem = true := goes
        rw [if_pos system]
        exact runs_attempt_ofTotal.2 ⟨(), rfl, runs_request.2 rfl⟩

/-- A cleanup whose removals go as removals do removes the first copy and then the others. -/
theorem runs_clean_cons {s : Snapshot} {rest : List Snapshot} {t : Trace}
    {x : List Snapshot × Except Fault Unit} :
    (Runs (clean (s :: rest)) t x ∧ ∀ e ∈ t, e.isUsual = true) ↔
      ∃ t₁ t₂ left ending, t = t₁ ++ t₂ ∧ x = (s.retired :: left, ending) ∧
        (Runs s.delete.attempt t₁ (.ok ()) ∧ ∀ e ∈ t₁, e.isUsual = true) ∧
        (Runs (clean rest) t₂ (left, ending) ∧ ∀ e ∈ t₂, e.isUsual = true) := by
  rw [clean, runs_bind]
  constructor
  · rintro ⟨⟨t₁, t₂, removed, rfl, delete, going⟩, goes⟩
    obtain ⟨goes₁, goes₂⟩ := List.forall_mem_append.1 goes
    obtain ⟨rfl, -⟩ := runs_delete_iff.1 ⟨delete, goes₁⟩
    obtain ⟨t₃, t₄, ⟨left, ending⟩, rfl, cleaned, last⟩ := runs_bind.1 going
    obtain ⟨rfl, same⟩ := runs_pure.1 last
    rw [List.append_nil] at goes₂ ⊢
    exact ⟨t₁, t₃, left, ending, rfl, same, ⟨delete, goes₁⟩, cleaned, goes₂⟩
  · rintro ⟨t₁, t₂, left, ending, rfl, rfl, ⟨delete, goes₁⟩, cleaned, goes₂⟩
    refine ⟨⟨t₁, t₂, .ok (), rfl, delete, ?_⟩, List.forall_mem_append.2 ⟨goes₁, goes₂⟩⟩
    exact runs_bind.2 ⟨t₂, [], (left, ending), (List.append_nil t₂).symm, cleaned,
      runs_pure.2 ⟨rfl, rfl⟩⟩

/-- A cleanup whose removals go as removals do tries every copy of the set that was not tried
before, whatever becomes of the others; it ends well and leaves all snapshots retired. -/
theorem runs_clean_iff {files : List Snapshot} {t : Trace}
    {x : List Snapshot × Except Fault Unit} :
    (Runs (clean files) t x ∧ ∀ e ∈ t, e.isUsual = true) ↔
      x = (files.map retired, .ok ()) ∧ ∃ replies : List (Except Fault Unit),
        replies.length = (files.filter isPending).length ∧
        (∀ reply ∈ replies, usual reply = true) ∧
        t = triedAll (files.filter isPending) replies := by
  induction files generalizing t x with
  | nil =>
    constructor
    · rintro ⟨run, -⟩
      obtain ⟨rfl, rfl⟩ := runs_pure.1 run
      exact ⟨rfl, [], rfl, nofun, rfl⟩
    · rintro ⟨rfl, replies, -, -, rfl⟩
      exact ⟨runs_pure.2 ⟨rfl, rfl⟩, nofun⟩
  | cons s rest ih =>
    rw [runs_clean_cons]
    by_cases pending : s.isPending = true
    · rw [List.filter_cons_of_pos pending]
      constructor
      · rintro ⟨t₁, t₂, left, ending, rfl, rfl, deleted, cleaned⟩
        obtain ⟨-, one⟩ := runs_delete_iff.1 deleted
        rw [if_pos pending] at one
        obtain ⟨reply, goes, rfl⟩ := one
        obtain ⟨same, replies, each, all, rfl⟩ := ih.1 cleaned
        cases same
        exact ⟨rfl, reply :: replies, congrArg (· + 1) each, List.forall_mem_cons.2 ⟨goes, all⟩,
          rfl⟩
      · rintro ⟨rfl, replies, each, all, rfl⟩
        obtain ⟨reply, replies, rfl⟩ := List.exists_cons_of_length_eq_add_one each
        obtain ⟨goes, all⟩ := List.forall_mem_cons.1 all
        refine ⟨s.tried reply, _, _, _, rfl, rfl, runs_delete_iff.2 ⟨rfl, ?_⟩,
          ih.2 ⟨rfl, replies, Nat.succ.inj each, all, rfl⟩⟩
        rw [if_pos pending]
        exact ⟨reply, goes, rfl⟩
    · rw [List.filter_cons_of_neg pending]
      constructor
      · rintro ⟨t₁, t₂, left, ending, rfl, rfl, deleted, cleaned⟩
        obtain ⟨-, nothing⟩ := runs_delete_iff.1 deleted
        rw [if_neg pending] at nothing
        subst nothing
        obtain ⟨same, others⟩ := ih.1 cleaned
        cases same
        exact ⟨rfl, others⟩
      · rintro ⟨rfl, others⟩
        refine ⟨[], t, _, _, rfl, rfl, runs_delete_iff.2 ⟨rfl, ?_⟩, ih.2 ⟨rfl, others⟩⟩
        rw [if_neg pending]

/-- A snapshot that is retired stays as it is. -/
theorem retired_retired (s : Snapshot) : s.retired.retired = s.retired := by
  obtain ⟨handle, path, temporary, deleted⟩ := s
  cases temporary <;> rfl

/-- A cleanup of retired snapshots asks nothing and leaves them as they are, whatever is answered
elsewhere. -/
theorem runs_clean_retired {files : List Snapshot} {t : Trace}
    {x : List Snapshot × Except Fault Unit} :
    Runs (clean (files.map retired)) t x ↔ t = [] ∧ x = (files.map retired, .ok ()) := by
  have nothing (s : Snapshot) {t : Trace} {r : Except Fault Unit} :
      Runs s.retired.delete.attempt t r ↔ t = [] ∧ r = .ok () := by
    unfold delete
    rw [isPending_retired]
    exact runs_attempt_pure
  induction files generalizing t x with
  | nil => exact runs_pure
  | cons s rest ih =>
    rw [List.map_cons]
    unfold clean
    rw [runs_bind]
    constructor
    · rintro ⟨t₁, t₂, removed, rfl, delete, going⟩
      obtain ⟨rfl, rfl⟩ := (nothing s).1 delete
      obtain ⟨t₃, t₄, left, rfl, cleaned, last⟩ := runs_bind.1 going
      obtain ⟨rfl, rfl⟩ := ih.1 cleaned
      obtain ⟨rfl, rfl⟩ := runs_pure.1 last
      exact ⟨rfl, by rw [retired_retired]⟩
    · rintro ⟨rfl, rfl⟩
      refine ⟨[], [], .ok (), rfl, (nothing s).2 ⟨rfl, rfl⟩, ?_⟩
      refine runs_bind.2 ⟨[], [], _, rfl, ih.2 ⟨rfl, rfl⟩, runs_pure.2 ⟨rfl, ?_⟩⟩
      rw [retired_retired]

/-! ### The life of a set -/

/-- A call on a set of snapshots: what was asked in it, which snapshots it added, and how it
ended. -/
inductive Turn where
  | make (trace : Trace) (made : List Snapshot) (ending : Except Fault Unit)
  | clean (trace : Trace) (ending : Except Fault Unit)

namespace Turn

/-- What was asked in a call. -/
def trace : Turn → Trace
  | make trace _ _ => trace
  | clean trace _ => trace

/-- The snapshots that a call added to the set. -/
def added : Turn → List Snapshot
  | make _ made _ => made
  | clean _ _ => []

/-- What was asked in a cleanup. -/
def cleaning : Turn → Trace
  | make _ _ _ => []
  | clean trace _ => trace

/-- The snapshots that the last cleanup found, and those that were added since, after a call. -/
def account (before : List Snapshot × List Snapshot) : Turn → List Snapshot × List Snapshot
  | make _ made _ => (before.1, before.2 ++ made)
  | clean _ _ => (before.1 ++ before.2, [])

end Turn

/-- The snapshots that the last cleanup found. -/
def found (turns : List Turn) : List Snapshot := (turns.foldl Turn.account ([], [])).1

/-- The snapshots that were added since the last cleanup. -/
def fresh (turns : List Turn) : List Snapshot := (turns.foldl Turn.account ([], [])).2

/-- Calls on a set that is empty at first, and the snapshots that it holds after them.  Every call
may go in all the ways in which it can go. -/
inductive Life (scratch : Option String) : List Turn → List Snapshot → Prop where
  | start : Life scratch [] []
  | make {turns : List Turn} {files made : List Snapshot} {cancellable : Bool}
      {handles : List Handle} {t : Trace} {ending : Except Fault Unit}
      (before : Life scratch turns files)
      (run : Runs (makeAll scratch cancellable handles) t (made, ending)) :
      Life scratch (turns ++ [.make t made ending]) (files ++ made)
  | clean {turns : List Turn} {files left : List Snapshot} {t : Trace} {ending : Except Fault Unit}
      (before : Life scratch turns files) (run : Runs (clean files) t (left, ending)) :
      Life scratch (turns ++ [.clean t ending]) left

/-- Where the copies of some snapshots are, whether or not their removal was tried. -/
def temporaryPaths (made : List Snapshot) : List String := (made.filter temporary).map path

variable {scratch : Option String} {turns : List Turn} {files made : List Snapshot} {t : Trace}

/-- A call that makes snapshots adds them to the fresh ones. -/
theorem found_fresh_make {ending : Except Fault Unit} :
    found (turns ++ [.make t made ending]) = found turns ∧
      fresh (turns ++ [.make t made ending]) = fresh turns ++ made := by
  unfold found fresh
  rw [List.foldl_append]
  exact ⟨rfl, rfl⟩

/-- A cleanup finds all snapshots, and none is fresh. -/
theorem found_fresh_clean {ending : Except Fault Unit} :
    found (turns ++ [.clean t ending]) = found turns ++ fresh turns ∧
      fresh (turns ++ [.clean t ending]) = [] := by
  unfold found fresh
  rw [List.foldl_append]
  exact ⟨rfl, rfl⟩

/-- The snapshots that were found by a cleanup and the fresh ones are all that were added. -/
theorem found_append_fresh (turns : List Turn) :
    found turns ++ fresh turns = turns.flatMap Turn.added := by
  induction turns using List.reverseRecOn with
  | nil => rfl
  | append_singleton turns turn ih =>
    rw [List.flatMap_append, ← ih, List.flatMap_singleton]
    cases turn with
    | make t made ending =>
      rw [found_fresh_make.1, found_fresh_make.2]
      exact (List.append_assoc _ _ _).symm
    | clean t ending =>
      rw [found_fresh_clean.1, found_fresh_clean.2]
      rfl

/-- The removal of a snapshot that is made was not tried. -/
theorem deleted_of_makeEach {cancellable : Bool} {unsaved : Table String Handle}
    {handles : List Handle} {ending : Except Fault Unit}
    (run : Runs (makeEach scratch cancellable unsaved handles) t (made, ending)) :
    ∀ s ∈ made, s.deleted = false := by
  induction handles generalizing unsaved t made with
  | nil =>
    obtain ⟨-, same⟩ := runs_pure.1 run
    cases same
    exact nofun
  | cons h rest ih =>
    rcases runs_makeEach run with
      ⟨fault, rfl, -, -⟩ | ⟨s, others, unsaved', t₁, t₂, rfl, rfl, make, makeRest⟩
    · exact nofun
    · have unspent : s.deleted = false := by cases runs_make_ok make <;> rfl
      exact List.forall_mem_cons.2 ⟨unspent, ih makeRest⟩

/-- The same under the lock. -/
theorem deleted_of_makeAll {cancellable : Bool} {handles : List Handle}
    {ending : Except Fault Unit}
    (run : Runs (makeAll scratch cancellable handles) t (made, ending)) :
    ∀ s ∈ made, s.deleted = false := by
  rcases runs_makeAll run with ⟨fault, rfl, -, -⟩ | ⟨t₁, ending, unlocked, rfl, -, each⟩
  · exact nofun
  · exact deleted_of_makeEach each

/-- Among snapshots whose removal was not tried, those with a copy are pending. -/
theorem filter_isPending (unspent : ∀ s ∈ made, s.deleted = false) :
    made.filter isPending = made.filter temporary := by
  refine List.filter_congr fun s hs => ?_
  rw [isPending, unspent s hs]
  exact Bool.and_true _

/-- A retired snapshot is not pending. -/
theorem filter_isPending_retired (made : List Snapshot) :
    (made.map retired).filter isPending = [] := by
  refine List.filter_eq_nil_iff.2 fun s hs => ?_
  obtain ⟨s, -, rfl⟩ := List.mem_map.1 hs
  rw [isPending_retired]
  exact Bool.false_ne_true

/-- What is so after every call of a life: the snapshots that a cleanup found are retired and the
fresh ones are as they were made; cleanups have ended well and tried each copy that they found
once; and calls that make snapshots have tried to remove no copy of the set. -/
structure Accounted (turns : List Turn) (files : List Snapshot) : Prop where
  files_eq : files = (found turns).map retired ++ fresh turns
  unspent : ∀ s ∈ fresh turns, s.deleted = false
  ended : ∀ t ending, Turn.clean t ending ∈ turns → ending = .ok ()
  removals_eq : removals (turns.flatMap Turn.cleaning) = temporaryPaths (found turns)
  hands : ∀ t made ending, Turn.make t made ending ∈ turns →
    ∃ lost, Hands t (temporaryPaths made) lost

namespace Accounted

/-- The copies that are pending are those of the fresh snapshots. -/
theorem pending_eq (h : Accounted turns files) :
    files.filter isPending = (fresh turns).filter temporary := by
  rw [h.files_eq, List.filter_append, filter_isPending_retired, filter_isPending h.unspent]
  rfl

/-- A set without snapshots. -/
theorem start : Accounted [] [] := ⟨rfl, nofun, nofun, rfl, nofun⟩

/-- A call that makes snapshots. -/
theorem make (h : Accounted turns files) {cancellable : Bool} {handles : List Handle}
    {ending : Except Fault Unit}
    (run : Runs (makeAll scratch cancellable handles) t (made, ending)) :
    Accounted (turns ++ [.make t made ending]) (files ++ made) where
  files_eq := by
    rw [found_fresh_make.1, found_fresh_make.2, h.files_eq, List.append_assoc]
  unspent := by
    rw [found_fresh_make.2]
    exact List.forall_mem_append.2 ⟨h.unspent, deleted_of_makeAll run⟩
  ended t' ending' mem := by
    rcases List.mem_append.1 mem with before | last
    · exact h.ended t' ending' before
    · cases List.mem_singleton.1 last
  removals_eq := by
    rw [found_fresh_make.1, ← h.removals_eq, List.flatMap_append]
    exact congrArg removals (List.append_nil _)
  hands t' made' ending' mem := by
    rcases List.mem_append.1 mem with before | last
    · exact h.hands t' made' ending' before
    · cases List.mem_singleton.1 last
      have all : copyPaths made = temporaryPaths made :=
        congrArg (List.map path) (filter_isPending (deleted_of_makeAll run))
      rw [← all]
      exact runs_makeAll_hands run

/-- A cleanup whose removals go as removals do. -/
theorem clean (h : Accounted turns files) {left : List Snapshot} {ending : Except Fault Unit}
    (run : Runs (clean files) t (left, ending)) (goes : ∀ e ∈ t, e.isUsual = true) :
    Accounted (turns ++ [.clean t ending]) left := by
  obtain ⟨same, replies, each, -, rfl⟩ := runs_clean_iff.1 ⟨run, goes⟩
  cases same
  refine ⟨?files, ?unspent, ?ended, ?removals, ?hands⟩
  case files =>
    rw [found_fresh_clean.1, found_fresh_clean.2, h.files_eq, List.map_append, List.map_append,
      List.map_map, List.append_nil]
    congr 2
    exact funext retired_retired
  case unspent =>
    rw [found_fresh_clean.2]
    exact nofun
  case ended =>
    intro t' ending' mem
    rcases List.mem_append.1 mem with before | last
    · exact h.ended t' ending' before
    · cases List.mem_singleton.1 last
      rfl
  case removals =>
    rw [found_fresh_clean.1, List.flatMap_append, List.flatMap_singleton, removals_append,
      h.removals_eq, Turn.cleaning, removals_triedAll each, h.pending_eq]
    unfold temporaryPaths
    rw [List.filter_append, List.map_append]
  case hands =>
    intro t' made' ending' mem
    rcases List.mem_append.1 mem with before | last
    · exact h.hands t' made' ending' before
    · cases List.mem_singleton.1 last

end Accounted

/-- All calls of a life whose removals go as removals do. -/
theorem Life.accounted (life : Life scratch turns files)
    (goes : ∀ turn ∈ turns, ∀ e ∈ turn.trace, e.isUsual = true) : Accounted turns files := by
  induction life with
  | start => exact .start
  | make before run ih => exact (ih (List.forall_mem_append.1 goes).1).make run
  | clean before run ih =>
    obtain ⟨goes₁, goes₂⟩ := List.forall_mem_append.1 goes
    exact (ih goes₁).clean run (goes₂ _ (List.mem_singleton.2 rfl))

/-- Cleanups are complete and do nothing twice.  Up to some point in the life of a set all cleanups
have ended well; the snapshots that were added fall in those that a cleanup found and the fresh
ones, and the removals that cleanups tried are one for each copy among the former.  A call that
made snapshots has tried to remove at most the one copy that it created and did not add.  Whatever
becomes of its removals, one more cleanup tries the copies of the fresh snapshots one by one, notes
each removal that fails though the file is there, and ends well; and after it a cleanup does
nothing. -/
theorem copies_tried_once (life : Life scratch turns files)
    (goes : ∀ turn ∈ turns, ∀ e ∈ turn.trace, e.isUsual = true) :
    (∀ t ending, Turn.clean t ending ∈ turns → ending = .ok ()) ∧
    found turns ++ fresh turns = turns.flatMap Turn.added ∧
    removals (turns.flatMap Turn.cleaning) = temporaryPaths (found turns) ∧
    (∀ t made ending, Turn.make t made ending ∈ turns →
      ∃ lost, Hands t (temporaryPaths made) lost) ∧
    (∀ t r, (Runs (deleteAll files).attempt t r ∧ ∀ e ∈ t, e.isUsual = true) ↔
      r = .ok () ∧ ∃ replies : List (Except Fault Unit),
        replies.length = ((fresh turns).filter temporary).length ∧
        (∀ reply ∈ replies, usual reply = true) ∧
        t = triedAll ((fresh turns).filter temporary) replies) ∧
    ∀ t left r, Runs (clean files) t (left, r) → (∀ e ∈ t, e.isUsual = true) →
      left = files.map retired ∧
      ∀ t' x, Runs (clean left) t' x ↔ t' = [] ∧ x = (left, .ok ()) := by
  have sound := life.accounted goes
  refine ⟨sound.ended, found_append_fresh turns, sound.removals_eq, sound.hands, fun t r => ?_,
    fun t left r run goes' => ?_⟩
  · rw [← sound.pending_eq, ← runs_clean]
    constructor
    · rintro ⟨⟨left, run⟩, goes'⟩
      obtain ⟨same, tried⟩ := runs_clean_iff.1 ⟨run, goes'⟩
      cases same
      exact ⟨rfl, tried⟩
    · rintro ⟨rfl, tried⟩
      obtain ⟨run, goes'⟩ := runs_clean_iff.2 ⟨rfl, tried⟩
      exact ⟨⟨_, run⟩, goes'⟩
  · obtain ⟨same, -⟩ := runs_clean_iff.1 ⟨run, goes'⟩
    cases same
    exact ⟨rfl, fun _ _ => runs_clean_retired⟩

/-- Copies can be made of one file only, and none can be removed. -/
def stubborn : (r : Request) → r.Reply
  | .createTemporary stem extension _ =>
    if stem = "a_" then .ok ("/tmp/" ++ stem ++ "0" ++ extension)
    else .error (.raised .system "OSError" "No space left on device")
  | .remove _ => .error (.raised .system "PermissionError" "Operation not permitted")
  | r => r.nothing

/-- Two files are added to a set, and the second one fails. -/
def halfMade : List Snapshot × Except Fault Unit :=
  (answered stubborn (makeAll none false [{ path := "/p/a.py" }, { path := "/p/b.py" }])).2

/-- Then the set is cleaned up. -/
def stubbornTurns : List Turn :=
  [.make (answered stubborn
      (makeAll none false [{ path := "/p/a.py" }, { path := "/p/b.py" }])).1 halfMade.1 halfMade.2,
    .clean (answered stubborn (clean halfMade.1)).1 (answered stubborn (clean halfMade.1)).2.2]

/-- The copy that was made is tried to remove once, and a second cleanup has nothing to do. -/
theorem stubborn_tried_once :
    (∀ turn ∈ stubbornTurns, ∀ e ∈ turn.trace, e.isUsual = true) ∧
    removals (stubbornTurns.flatMap Turn.cleaning) = ["/tmp/a_0.py"] ∧
    ∀ t r, (Runs (deleteAll (answered stubborn (clean halfMade.1)).2.1).attempt t r ∧
      ∀ e ∈ t, e.isUsual = true) ↔ r = .ok () ∧ t = [] := by
  have life : Life none stubbornTurns (answered stubborn (clean halfMade.1)).2.1 :=
    .clean (.make .start (runs_answered _ _)) (runs_answered _ _)
  have goes : ∀ turn ∈ stubbornTurns, ∀ e ∈ turn.trace, e.isUsual = true := by decide +kernel
  obtain ⟨-, -, removed, -, again, -⟩ := copies_tried_once life goes
  refine ⟨goes, removed.trans (by decide +kernel), fun t r => (again t r).trans ?_⟩
  have nothing : (fresh stubbornTurns).filter temporary = [] := by decide +kernel
  rw [nothing]
  refine and_congr_right fun _ => ?_
  constructor
  · rintro ⟨replies, none, -, rfl⟩
    rfl
  · rintro rfl
    exact ⟨[], rfl, nofun, rfl⟩

end Snapshot

/-! ### Sets of a session -/

/-- The snapshots of a set are what a cleanup of the set leaves, once a session has retired
them. -/
theorem Session.snapshotsAt_retire (s : Session) (numbers : List Nat) :
    (s.retire numbers).snapshotsAt numbers = (s.snapshotsAt numbers).map Snapshot.retired := by
  unfold snapshotsAt retire
  rw [List.map_filterMap]
  refine List.filterMap_congr fun i mem => ?_
  dsimp only
  rw [List.getElem?_mapIdx]
  cases s.snapshots[i]? with
  | none => rfl
  | some x => exact congrArg some (if_pos mem)

end LiveCheck
