import LiveCheck.Proofs.Scan.Calls

/-!
# What becomes of temporary copies

A temporary copy is there from the moment when it is created until it is removed.  This file
follows the copies through a scan whose removals all succeed.  A copy belongs to the set of
snapshots once its text is written, and the set is removed before the outcome is told.  In between
there is a gap: the copy exists before it belongs to the set, and `fillCopy` removes it only after
the faults that the writing of a text is expected to have.  After any other fault the write is
abandoned, and the copy stays.  `copies_gone_iff` says that this is the only way: all copies are
gone before anybody hears of the end if and only if no write was abandoned.
-/

namespace LiveCheck

open Program (Exchange Runs AsksOnly)

/-! ### Copies in a trace -/

/-- The copies that are there after a request, where these were there before. -/
def Program.Exchange.copiesAfter (copies : List String) : Exchange → List String
  | ⟨.createTemporary _ _ _, .ok path⟩ => path :: copies
  | ⟨.remove path, .ok ()⟩ => copies.erase path
  | _ => copies

/-- Does the removal of a file fail? -/
def Program.Exchange.failsToRemove : Exchange → Bool
  | ⟨.remove _, .error _⟩ => true
  | _ => false

/-- Is the text of a copy not written, after a fault that this is not expected to have? -/
def Program.Exchange.abandons : Exchange → Bool
  | ⟨.encoding _, .error fault⟩ => !fault.isUnwritable
  | ⟨.writeTemporary _ _ _, .error fault⟩ => !fault.isUnwritable
  | _ => false

/-- Does somebody hear of the end of a scan? -/
def Program.Exchange.isTerminal : Exchange → Bool
  | ⟨.present _ _ _, _⟩ => true
  | ⟨.tellEnd _ _, _⟩ => true
  | _ => false

namespace Trace

/-- The copies that are there after a trace, where these were there before. -/
def copiesFrom (before : List String) (t : Trace) : List String :=
  t.foldl Exchange.copiesAfter before

/-- The copies that are there after a trace. -/
def copies (t : Trace) : List String := copiesFrom [] t

variable {t t₁ t₂ : Trace}

/-- The copies after two traces one after the other. -/
theorem copiesFrom_append (c : List String) :
    copiesFrom c (t₁ ++ t₂) = copiesFrom (copiesFrom c t₁) t₂ :=
  List.foldl_append

/-- A part of a scan that keeps account of its copies: those that it hands on, and those that it
has lost.  Something is lost just when a write was abandoned. -/
structure Keeps (t : Trace) (owned lost : List String) : Prop where
  copies_perm : ∀ c, (copiesFrom c t).Perm (owned ++ (lost ++ c))
  lost_iff : lost = [] ↔ ∀ e ∈ t, e.abandons = false

/-- Where nothing is asked about copies, none is made and none is lost. -/
theorem About.keeps {cs : List Concern} (h : About cs t) (hc : Concern.copy ∉ cs) :
    Keeps t [] [] := by
  have quiet : ∀ e ∈ t, (∀ c, e.copiesAfter c = c) ∧ e.abandons = false := by
    intro ⟨r, reply⟩ he
    have about : r.concern ∈ cs := h _ he
    cases r with
    | encoding | createTemporary | writeTemporary | remove => exact absurd about hc
    | _ => exact ⟨fun _ => rfl, rfl⟩
  have same : ∀ c, copiesFrom c t = c := by
    intro c
    clear h
    induction t with
    | nil => rfl
    | cons e rest ih =>
      unfold copiesFrom
      rw [List.foldl_cons, (quiet e List.mem_cons_self).1]
      exact ih fun e he => quiet e (List.mem_cons_of_mem _ he)
  exact ⟨fun c => by rw [same]; exact List.Perm.refl c,
    fun _ => fun e he => (quiet e he).2, fun _ => rfl⟩

/-- The account of two parts one after the other. -/
theorem Keeps.append {owned₁ owned₂ lost₁ lost₂ : List String} (h₁ : Keeps t₁ owned₁ lost₁)
    (h₂ : Keeps t₂ owned₂ lost₂) : Keeps (t₁ ++ t₂) (owned₁ ++ owned₂) (lost₁ ++ lost₂) where
  copies_perm c := by
    rw [copiesFrom_append]
    refine (h₂.copies_perm _).trans ?_
    refine (((h₁.copies_perm c).append_left lost₂).append_left owned₂).trans ?_
    refine List.perm_iff_count.2 fun a => ?_
    simp only [List.count_append]
    omega
  lost_iff := by
    rw [List.append_eq_nil_iff, h₁.lost_iff, h₂.lost_iff, List.forall_mem_append]

/-- A part that makes no copies after one that keeps account. -/
theorem Keeps.append_about {owned lost : List String} {cs : List Concern} (h : Keeps t₁ owned lost)
    (about : About cs t₂) (hc : Concern.copy ∉ cs) : Keeps (t₁ ++ t₂) owned lost := by
  have both := h.append (about.keeps hc)
  rwa [List.append_nil, List.append_nil] at both

/-- A request that is not about copies before a part that keeps account. -/
theorem Keeps.cons {owned lost : List String} (h : Keeps t owned lost) {e : Exchange}
    (he : e.request.concern ≠ .copy) : Keeps (e :: t) owned lost := by
  exact ((about_singleton e).keeps fun hmem => he (List.mem_singleton.1 hmem).symm).append h

/-- A part that makes no copies before one that keeps account. -/
theorem Keeps.about_append {owned lost : List String} {cs : List Concern} (h : Keeps t₂ owned lost)
    (about : About cs t₁) (hc : Concern.copy ∉ cs) : Keeps (t₁ ++ t₂) owned lost :=
  (about.keeps hc).append h

end Trace

open Trace

/-! ### Copies of a set of snapshots -/

namespace Snapshot

open Program

/-- The copies that a set of snapshots has to remove. -/
def copyPaths (made : List Snapshot) : List String := (made.filter isPending).map path

/-- The copies of two sets. -/
theorem copyPaths_append (made made' : List Snapshot) :
    copyPaths (made ++ made') = copyPaths made ++ copyPaths made' := by
  unfold copyPaths
  rw [List.filter_append, List.map_append]

/-- To remove a copy, if the removal does not fail. -/
theorem runs_delete {s : Snapshot} {t : Trace} {r : Except Fault Unit}
    (run : Runs s.delete.attempt t r) (removable : ∀ e ∈ t, e.failsToRemove = false) :
    r = .ok () ∧ t = (copyPaths [s]).map fun path => ⟨.remove path, .ok ()⟩ := by
  unfold delete at run
  split at run
  · next pending =>
    obtain ⟨_, t₂, reply, rfl, remove, rest⟩ := runs_attempt_ofTotal_bind.1 run
    cases runs_request.1 remove
    match reply with
    | .ok () =>
      obtain ⟨rfl, rfl⟩ := runs_attempt_pure.1 rest
      exact ⟨rfl, by simp [copyPaths, pending]⟩
    | .error fault => cases removable _ List.mem_cons_self
  · next done =>
    obtain ⟨rfl, rfl⟩ := runs_attempt_pure.1 run
    exact ⟨rfl, by simp [copyPaths, done]⟩

/-- To remove the copies of a set, if no removal fails: one removal after the other. -/
theorem runs_deleteAll {made : List Snapshot} {t : Trace} {r : Except Fault Unit}
    (run : Runs (deleteAll made).attempt t r) (removable : ∀ e ∈ t, e.failsToRemove = false) :
    r = .ok () ∧ t = (copyPaths made).map fun path => ⟨.remove path, .ok ()⟩ := by
  induction made generalizing t with
  | nil =>
    obtain ⟨rfl, rfl⟩ := runs_attempt_pure.1 run
    exact ⟨rfl, rfl⟩
  | cons s rest ih =>
    unfold deleteAll at run
    obtain ⟨t₁, t₂, reply, rfl, delete, others⟩ := runs_attempt_ofTotal_bind.1 run
    obtain ⟨removable₁, removable₂⟩ := List.forall_mem_append.1 removable
    obtain ⟨rfl, rfl⟩ := runs_delete delete removable₁
    obtain ⟨rfl, rfl⟩ := ih others removable₂
    have cut : copyPaths (s :: rest) = copyPaths [s] ++ copyPaths rest :=
      copyPaths_append [s] rest
    rw [cut, List.map_append]
    exact ⟨rfl, rfl⟩

/-- The removals of copies leave what was there besides. -/
theorem copiesFrom_removals (paths c c' : List String) (h : c'.Perm (paths ++ c)) :
    (copiesFrom c' (paths.map fun path => ⟨.remove path, .ok ()⟩)).Perm c := by
  induction paths generalizing c' with
  | nil => exact h
  | cons path rest ih =>
    refine ih (c'.erase path) ?_
    have erased := h.erase path
    rwa [List.cons_append, List.erase_cons_head] at erased

/-- The copies stay as they are while a text is written, and a fault abandons the write unless it
is one that this is expected to have. -/
theorem runs_writing {s : Snapshot} {text : String} {t : Trace} {r : Except Fault Unit}
    (run : Runs (do
      let encoding ← Action.ofProgram (.request (.encoding s.handle))
      Action.ofProgram (.request (.writeTemporary s.path text encoding)) :
        Action Unit).attempt t r) :
    (∀ c, copiesFrom c t = c) ∧ (∀ e ∈ t, e.failsToRemove = false) ∧
      ((∃ e ∈ t, e.abandons = true) ↔ ∃ fault, r = .error fault ∧ fault.isUnwritable = false) := by
  rcases runs_attempt_bind.1 run with ⟨t₁, t₂, encoding, rfl, find, write⟩ | ⟨fault, rfl, find⟩
  · cases runs_request.1 find
    cases runs_request.1 write
    cases r with
    | ok u => exact ⟨fun _ => rfl, by simp [Exchange.failsToRemove], by simp [Exchange.abandons]⟩
    | error fault =>
      exact ⟨fun _ => rfl, by simp [Exchange.failsToRemove], by simp [Exchange.abandons]⟩
  · cases runs_request.1 find
    exact ⟨fun _ => rfl, by simp [Exchange.failsToRemove], by simp [Exchange.abandons]⟩

/-- The ways in which the text of a copy is written: it is; or it is not and the copy is removed
again, unless the write is abandoned. -/
theorem runs_fillCopy {s : Snapshot} {text : String} {t : Trace} {r : Except Fault Unit}
    (pending : s.isPending = true) (run : Runs (s.fillCopy text).attempt t r)
    (removable : ∀ e ∈ t, e.failsToRemove = false) :
    (r = .ok () ∧ (∀ e ∈ t, e.abandons = false) ∧ ∀ c, copiesFrom c t = c) ∨
    ∃ fault, r = .error fault ∧
      ((∀ e ∈ t, e.abandons = false) ∧ (∀ c, copiesFrom c t = c.erase s.path) ∨
       (∃ e ∈ t, e.abandons = true) ∧ ∀ c, copiesFrom c t = c) := by
  unfold fillCopy at run
  rcases runs_attempt_tryCatch.1 run with ⟨_, rfl, write⟩ | ⟨t₁, t₂, fault, rfl, write, handle⟩
  · obtain ⟨same, -, abandons⟩ := runs_writing write
    refine Or.inl ⟨rfl, fun e he => ?_, same⟩
    by_contra h
    obtain ⟨_, h, _⟩ := abandons.1 ⟨e, he, by simpa using h⟩
    cases h
  · obtain ⟨same, -, abandons⟩ := runs_writing write
    split at handle
    · next expected =>
      have kept : ∀ e ∈ t₁, e.abandons = false := by
        intro e he
        by_contra h
        obtain ⟨_, h, unexpected⟩ := abandons.1 ⟨e, he, by simpa using h⟩
        cases h
        rw [expected] at unexpected
        cases unexpected
      rcases runs_attempt_bind.1 handle with ⟨t₃, t₄, _, rfl, delete, raise⟩ | ⟨_, rfl, delete⟩
      · obtain ⟨rfl, rfl⟩ := runs_attempt_throw.1 raise
        rw [List.append_nil] at removable ⊢
        obtain ⟨-, rfl⟩ := runs_delete delete (List.forall_mem_append.1 removable).2
        refine Or.inr ⟨_, rfl, Or.inl ⟨?_, fun c => ?_⟩⟩
        · refine List.forall_mem_append.2 ⟨kept, ?_⟩
          simp [Exchange.abandons]
        · rw [copiesFrom_append, same]
          simp [copyPaths, pending, copiesFrom, Exchange.copiesAfter]
      · obtain ⟨h, _⟩ := runs_delete delete (List.forall_mem_append.1 removable).2
        cases h
    · next unexpected =>
      obtain ⟨rfl, rfl⟩ := runs_attempt_throw.1 handle
      rw [List.append_nil]
      have lost : ∃ e ∈ t₁, e.abandons = true := abandons.2 ⟨fault, rfl, by simpa using unexpected⟩
      exact Or.inr ⟨fault, rfl, Or.inr ⟨lost, same⟩⟩

/-- To write a copy hands it on, or it is not there, or it is lost. -/
theorem keeps_writeCopy {scratch : Option String} {h : Handle} {text : String} {t : Trace}
    {r : Except Fault Snapshot} (run : Runs (writeCopy scratch h text).attempt t r)
    (removable : ∀ e ∈ t, e.failsToRemove = false) :
    ∃ lost, Keeps t (copyPaths r.toOption.toList) lost := by
  unfold writeCopy at run
  rcases runs_attempt_bind.1 run with ⟨t₁, t₂, path, rfl, create, fill⟩ | ⟨fault, rfl, create⟩
  · obtain ⟨reply, rfl, created, -⟩ := runs_createCopy create
    obtain rfl := (created path).1 rfl
    rcases runs_attempt_bind.1 fill with ⟨t₃, t₄, _, rfl, write, last⟩ | ⟨fault, rfl, write⟩
    · obtain ⟨rfl, rfl⟩ := runs_attempt_pure.1 last
      rw [List.append_nil] at removable ⊢
      have removable₃ := (List.forall_mem_append.1 removable).2
      rcases runs_fillCopy rfl write removable₃ with ⟨-, kept, same⟩ | ⟨_, h, _⟩
      · refine ⟨[], fun c => ?_, fun _ => ?_, fun _ => rfl⟩
        · rw [copiesFrom_append, same]
          exact List.Perm.refl _
        · exact List.forall_mem_append.2 ⟨by simp [Exchange.abandons], kept⟩
      · cases h
    · have removable₂ := (List.forall_mem_append.1 removable).2
      rcases runs_fillCopy rfl write removable₂ with ⟨h, _⟩ | ⟨_, -, ⟨kept, gone⟩ | ⟨lost, same⟩⟩
      · cases h
      · refine ⟨[], fun c => ?_, fun _ => ?_, fun _ => rfl⟩
        · rw [copiesFrom_append, gone]
          exact List.Perm.of_eq (List.erase_cons_head ..)
        · exact List.forall_mem_append.2 ⟨by simp [Exchange.abandons], kept⟩
      · refine ⟨[path], fun c => ?_, fun h => ?_, fun h => ?_⟩
        · rw [copiesFrom_append, same]
          exact List.Perm.refl _
        · cases h
        · obtain ⟨e, he, abandoned⟩ := lost
          have kept := h e (List.mem_append_right _ he)
          rw [abandoned] at kept
          cases kept
  · obtain ⟨reply, rfl, created, -⟩ := runs_createCopy create
    refine ⟨[], fun c => ?_, fun _ => by simp [Exchange.abandons], fun _ => rfl⟩
    cases reply with
    | ok path => cases (created path).2 rfl
    | error fault => exact List.Perm.refl c

/-- The snapshot of a file that is read where it is has no copy; any other has one. -/
theorem keeps_place {scratch : Option String} {h : Handle} {current : String}
    {onDisk : Option String} {t : Trace} {r : Except Fault Snapshot}
    (run : Runs (place scratch h current onDisk).attempt t r)
    (removable : ∀ e ∈ t, e.failsToRemove = false) :
    ∃ lost, Keeps t (copyPaths r.toOption.toList) lost := by
  unfold place at run
  split at run
  · obtain ⟨rfl, rfl⟩ := runs_attempt_pure.1 run
    exact ⟨[], fun c => List.Perm.refl c, fun _ => by simp, fun _ => rfl⟩
  · exact keeps_writeCopy run removable

/-- To make a snapshot hands on its copy. -/
theorem keeps_make {scratch : Option String} {cancellable : Bool} {unsaved : Table String Handle}
    {h : Handle} {t : Trace} {r : Except Fault (Snapshot × Table String Handle)}
    (run : Runs (make scratch cancellable unsaved h).attempt t r)
    (removable : ∀ e ∈ t, e.failsToRemove = false) :
    ∃ lost, Keeps t (copyPaths (r.toOption.toList.map Prod.fst)) lost := by
  unfold make at run
  rcases runs_attempt_bind.1 run with ⟨t₁, t₂, _, rfl, check, reading⟩ | ⟨_, rfl, check⟩
  swap
  · exact ⟨[], (check.about (checkCancelled_asks _)).keeps (by simp)⟩
  have removable₂ := (List.forall_mem_append.1 removable).2
  rcases runs_attempt_bind.1 reading with ⟨t₃, t₄, texts, rfl, read, claiming⟩ | ⟨_, rfl, read⟩
  swap
  · have quiet := (read.about (readTexts_asks _)).keeps (by simp)
    exact ⟨[], quiet.about_append (check.about (checkCancelled_asks _)) (by simp)⟩
  have removable₄ := (List.forall_mem_append.1 removable₂).2
  suffices ∃ lost, Keeps t₄ (copyPaths (r.toOption.toList.map Prod.fst)) lost by
    obtain ⟨lost, h⟩ := this
    have h' := h.about_append (read.about (readTexts_asks _)) (by simp)
    exact ⟨lost, h'.about_append (check.about (checkCancelled_asks _)) (by simp)⟩
  rcases runs_attempt_bind.1 claiming with ⟨t₅, t₆, unsaved', rfl, claim, placing⟩ | ⟨_, rfl, claim⟩
  swap
  · obtain ⟨rfl, -⟩ := runs_attempt_ofExcept.1 claim
    exact ⟨[], fun c => List.Perm.refl c, fun _ => by simp, fun _ => rfl⟩
  obtain ⟨rfl, -⟩ := runs_attempt_ofExcept.1 claim
  rcases runs_attempt_bind.1 placing with ⟨t₇, t₈, s, rfl, place, last⟩ | ⟨_, rfl, place⟩
  · obtain ⟨rfl, rfl⟩ := runs_attempt_pure.1 last
    rw [List.nil_append, List.append_nil] at removable₄ ⊢
    exact keeps_place place removable₄
  · exact keeps_place place removable₄

/-- To make the snapshots of files one by one hands on the copies of those that were made. -/
theorem keeps_makeEach {scratch : Option String} {cancellable : Bool}
    {unsaved : Table String Handle} {handles : List Handle} {t : Trace} {made : List Snapshot}
    {r : Except Fault Unit} (run : Runs (makeEach scratch cancellable unsaved handles) t (made, r))
    (removable : ∀ e ∈ t, e.failsToRemove = false) : ∃ lost, Keeps t (copyPaths made) lost := by
  induction handles generalizing unsaved t made with
  | nil =>
    obtain ⟨rfl, h⟩ := runs_pure.1 run
    cases h
    exact ⟨[], fun c => List.Perm.refl c, fun _ => by simp, fun _ => rfl⟩
  | cons h rest ih =>
    rcases runs_makeEach run with
      ⟨fault, rfl, -, make⟩ | ⟨s, others, unsaved', t₁, t₂, rfl, rfl, make, makeRest⟩
    · obtain ⟨lost, keeps⟩ := keeps_make make removable
      exact ⟨lost, by simpa [copyPaths, Except.toOption] using keeps⟩
    · obtain ⟨removable₁, removable₂⟩ := List.forall_mem_append.1 removable
      obtain ⟨lost₁, keeps₁⟩ := keeps_make make removable₁
      obtain ⟨lost₂, keeps₂⟩ := ih makeRest removable₂
      have cut : copyPaths (s :: others) = copyPaths [s] ++ copyPaths others :=
        copyPaths_append [s] others
      rw [cut]
      exact ⟨lost₁ ++ lost₂, keeps₁.append keeps₂⟩

/-- The same for a whole set. -/
theorem keeps_makeAll {scratch : Option String} {cancellable : Bool} {handles : List Handle}
    {t : Trace} {made : List Snapshot} {r : Except Fault Unit}
    (run : Runs (makeAll scratch cancellable handles) t (made, r))
    (removable : ∀ e ∈ t, e.failsToRemove = false) : ∃ lost, Keeps t (copyPaths made) lost := by
  rcases runs_makeAll run with ⟨fault, rfl, -, rfl⟩ | ⟨t₁, ending, unlocked, rfl, -, each⟩
  · exact ⟨[], (about_singleton _).keeps (by simp [Request.concern])⟩
  · have removable₂ := (List.forall_mem_cons.1 removable).2
    obtain ⟨lost, keeps⟩ := keeps_makeEach each (List.forall_mem_append.1 removable₂).1
    have held := keeps.append_about (about_singleton ⟨.unlock, unlocked⟩) (by simp [Request.concern])
    exact ⟨lost, held.cons (by simp [Request.concern])⟩

end Snapshot

/-! ### Copies of a scan -/

namespace Scan

open Program

/-- Up to its report a scan hands on the copies of its snapshots. -/
theorem keeps_perform {scan : Scan} {id : String} {t : Trace} {made : List Snapshot}
    {r : Except Fault Report} (run : Runs (scan.perform id) t (made, r))
    (removable : ∀ e ∈ t, e.failsToRemove = false) :
    ∃ lost, Keeps t (Snapshot.copyPaths made) lost := by
  cases runs_perform run with
  | unstarted start => exact ⟨[], (start.about (start_asks _)).keeps (by simp)⟩
  | nothing start => exact ⟨[], (start.about (start_asks _)).keeps (by simp)⟩
  | unprepared start make =>
    have removable' := (List.forall_mem_cons.1 (List.forall_mem_append.1 removable).2).2
    obtain ⟨lost, h⟩ := Snapshot.keeps_makeAll make removable'
    have h' := h.cons (e := ⟨.enter .snapshotting, ()⟩) (by simp [Request.concern])
    exact ⟨lost, h'.about_append (start.about (start_asks _)) (by simp)⟩
  | prepared start make check =>
    have removable' := (List.forall_mem_cons.1 (List.forall_mem_append.1 removable).2).2
    obtain ⟨lost, h⟩ := Snapshot.keeps_makeAll make (List.forall_mem_append.1 removable').1
    have h₁ := h.append_about (check.about (check_asks _ _ _)) (by simp)
    have h₂ := h₁.cons (e := ⟨.enter .snapshotting, ()⟩) (by simp [Request.concern])
    exact ⟨lost, h₂.about_append (start.about (start_asks _)) (by simp)⟩

/-- When a scan has its outcome, the copies of its snapshots are removed, and only lost ones are
there. -/
theorem keeps_obtain {scan : Scan} {id : String} {t : Trace} {r : Except Fault Outcome}
    (run : Runs (scan.obtain id).attempt t r) (removable : ∀ e ∈ t, e.failsToRemove = false) :
    ∃ lost, Keeps t [] lost := by
  obtain ⟨t₁, t₂, made, ended, removed, rfl, perform, delete, rfl⟩ := runs_obtain.1 run
  obtain ⟨removable₁, removable₂⟩ := List.forall_mem_append.1 removable
  obtain ⟨lost, h⟩ := keeps_perform perform removable₁
  obtain ⟨-, rfl⟩ := Snapshot.runs_deleteAll delete removable₂
  refine ⟨lost, fun c => ?_, ?_⟩
  · rw [copiesFrom_append]
    exact Snapshot.copiesFrom_removals _ _ _ (h.copies_perm c)
  · rw [h.lost_iff, List.forall_mem_append, and_iff_left]
    intro e he
    obtain ⟨path, _, rfl⟩ := List.mem_map.1 he
    rfl

/-- Before a scan has its outcome nobody hears of its end. -/
theorem isTerminal_of_mem_obtain {scan : Scan} {id : String} {t : Trace} {r : Except Fault Outcome}
    (run : Runs (scan.obtain id).attempt t r) : ∀ e ∈ t, e.isTerminal = false := by
  obtain ⟨opening, entered, -, seen, -⟩ := sights_obtain run
  intro ⟨request, reply⟩ he
  -- A sight of the stages is a phase, the registry or a start.
  have stage {sight : Sight} (h : Exchange.sight? ⟨request, reply⟩ = some sight) :
      (∃ phase, sight = .entered phase) ∨ (∃ ls, sight = .registered ls) ∨
        ∃ l files, sight = .started l files := by
    have hs : sight ∈ sights t := List.mem_filterMap.2 ⟨_, he, h⟩
    rw [seen] at hs
    rcases List.mem_cons.1 hs with rfl | hs
    · exact Or.inl ⟨_, rfl⟩
    rcases List.mem_append.1 hs with hs | hs
    · cases opening with
      | none => cases hs
      | some o =>
        rcases List.mem_cons.1 hs with rfl | hs
        · exact Or.inr (Or.inl ⟨_, rfl⟩)
        · obtain ⟨e, _, rfl⟩ := List.mem_map.1 hs
          exact Or.inr (Or.inr ⟨_, _, rfl⟩)
    · obtain ⟨phase, _, rfl⟩ := List.mem_map.1 hs
      exact Or.inl ⟨phase, rfl⟩
  cases request with
  | present => simpa using stage rfl
  | tellEnd => simpa using stage rfl
  | _ => rfl

/-- The trace of a call is cut where its outcome is known: before the cut nobody hears of the end
and the copies are accounted for, and behind it nothing is asked about copies. -/
theorem exists_cut {scan : Scan} {t : Trace} {r : Except Fault Report} (run : Runs scan.run t r)
    (removable : ∀ e ∈ t, e.failsToRemove = false) :
    ∃ t₁ t₂ lost, t = t₁ ++ t₂ ∧ (∀ e ∈ t₁, e.isTerminal = false) ∧ Keeps t₁ [] lost ∧
      About [.call, .phase, .log, .user, .registry, .listener] t₂ := by
  obtain ⟨id, t₁, ⟨fault, obtained, rfl, rfl⟩ |
    ⟨outcome, t₂, told, obtained, announced, rfl, rfl⟩⟩ := runs_run run
  · have removable' := (List.forall_mem_append.1 (List.forall_mem_cons.1 removable).2).1
    obtain ⟨lost, h⟩ := keeps_obtain obtained removable'
    refine ⟨⟨.freshId, id⟩ :: t₁, _, lost, rfl, ?_, h.cons (by simp [Request.concern]), ?_⟩
    · exact List.forall_mem_cons.2 ⟨rfl, isTerminal_of_mem_obtain obtained⟩
    · intro e he
      obtain rfl := List.mem_singleton.1 he
      simp [Request.concern]
  · have removable' := (List.forall_mem_append.1 (List.forall_mem_cons.1 removable).2).1
    obtain ⟨lost, h⟩ := keeps_obtain obtained removable'
    refine ⟨⟨.freshId, id⟩ :: t₁, _, lost, rfl, ?_, h.cons (by simp [Request.concern]), ?_⟩
    · exact List.forall_mem_cons.2 ⟨rfl, isTerminal_of_mem_obtain obtained⟩
    · refine List.forall_mem_cons.2 ⟨by simp [Request.concern], ?_⟩
      refine List.forall_mem_append.2 ⟨announced.about ((announce_asks outcome).about rfl), ?_⟩
      simp [Request.concern]

/-- If all removals of a scan succeed, every copy is gone before anybody hears of the end, and
when the scan returns or a fault leaves it, if and only if no write of a copy was abandoned. -/
theorem copies_gone_iff {scan : Scan} {t : Trace} {r : Except Fault Report}
    (run : Runs scan.run t r) (removable : ∀ e ∈ t, e.failsToRemove = false) :
    ((∀ before e after, t = before ++ e :: after → e.isTerminal = true → copies before = []) ∧
      copies t = []) ↔ ∀ e ∈ t, e.abandons = false := by
  obtain ⟨t₁, t₂, lost, rfl, silent, account, about⟩ := exists_cut run removable
  -- Behind the cut the copies are what is lost.
  have behind {t : Trace} (h : About [.call, .phase, .log, .user, .registry, .listener] t) :
      (copies (t₁ ++ t)).Perm lost := by
    have perm := (account.append_about h (by simp)).copies_perm []
    rwa [List.append_nil] at perm
  have kept : (∀ e ∈ t₁ ++ t₂, e.abandons = false) ↔ lost = [] :=
    (account.append_about about (by simp)).lost_iff.symm
  rw [kept]
  constructor
  · rintro ⟨-, gone⟩
    have perm := behind about
    rw [gone] at perm
    exact List.Perm.nil_eq perm |>.symm
  · rintro rfl
    refine ⟨fun before e after split terminal => ?_, (behind about).eq_nil⟩
    rcases List.append_eq_append_iff.1 split with ⟨t, rfl, h⟩ | ⟨t, rfl, h⟩
    · have prefix_about : About [.call, .phase, .log, .user, .registry, .listener] t := by
        intro e he
        exact about e (by rw [h]; exact List.mem_append_left _ he)
      exact (behind prefix_about).eq_nil
    · cases t with
      | nil =>
        rw [List.append_nil] at behind
        have nothing := behind (t := []) (by intro e he; cases he)
        rw [List.append_nil] at nothing
        exact nothing.eq_nil
      | cons e' rest =>
        obtain ⟨rfl, -⟩ := List.cons.inj h
        have told := silent e (List.mem_append_right _ List.mem_cons_self)
        rw [terminal] at told
        cases told

/-- A copy of an unsaved file is written, and it is gone before anybody hears of the end. -/
theorem written_copy_gone :
    let t := (answered Request.nothing (provided [{ path := "/p/a.py" }]).run).1
    (∀ e ∈ t, e.failsToRemove = false) ∧ (∀ e ∈ t, e.abandons = false) ∧
      (∀ before e after, t = before ++ e :: after → e.isTerminal = true → copies before = []) ∧
        copies t = [] := by
  intro t
  have removable : ∀ e ∈ t, e.failsToRemove = false := by decide +kernel
  have kept : ∀ e ∈ t, e.abandons = false := by decide +kernel
  exact ⟨removable, kept, (copies_gone_iff (runs_answered _ _) removable).2 kept⟩

/-- Copies are created in a directory, and no encoding of a file can be found out. -/
def encodingUnknown : (r : Request) → r.Reply
  | .encoding _ => .error (.raised .other "RuntimeError" "boom")
  | .createTemporary stem extension _ => .ok ("/tmp/" ++ stem ++ "00000000" ++ extension)
  | r => r.nothing

/-- Copies may stay though all removals succeed: one does, when the encoding of its file cannot be
found out for a reason that nobody expects. -/
theorem not_all_copies_gone :
    ¬ ∀ (scan : Scan) (t : Trace) (r : Except Fault Report), Runs scan.run t r →
      (∀ e ∈ t, e.failsToRemove = false) →
        (∀ before e after, t = before ++ e :: after → e.isTerminal = true → copies before = []) ∧
          copies t = [] := by
  intro gone
  have stays : copies (answered encodingUnknown (provided [{ path := "/p/a.py" }]).run).1 =
      ["/tmp/a_00000000.py"] := by decide +kernel
  have none := (gone _ _ _ (runs_answered encodingUnknown (provided [{ path := "/p/a.py" }]).run)
    (by decide +kernel)).2
  rw [stays] at none
  cases none

end Scan

end LiveCheck
