import Mathlib.Data.List.Perm.Subperm
import LiveCheck.Proofs.Scan.Copies

/-!
# Who removes a copy

Whoever makes a copy keeps it in hand until its removal is tried, and nobody tries twice: whether
the removal succeeds or not, the copy is out of hand.  This file shows that a scan writes and
removes only what it has in hand at that moment.  It holds for all answers; a removal may fail and
an answer may even give one name to two copies, so what is in hand is a list that may hold a name
twice.

The account is kept like that of a resource.  `Tends owned p left` says that a program which is
handed these copies, whatever else is in hand besides, touches nothing else and hands on what it
leaves.  The rules for sequences and faults carry this from a single request to a whole scan, and
to a set of snapshots that is cleaned up any number of times.
-/

namespace LiveCheck

open Program (Exchange Runs)

/-! ### What a trace has in hand -/

namespace Program.Exchange

/-- The copies in hand after a request, where these were in hand before. -/
def heldAfter (held : List String) : Exchange → List String
  | ⟨.createTemporary _ _ _, .ok path⟩ => path :: held
  | ⟨.remove path, _⟩ => held.erase path
  | _ => held

/-- The copy that a request writes or removes. -/
def touched? : Exchange → Option String
  | ⟨.writeTemporary path _ _, _⟩ => some path
  | ⟨.remove path, _⟩ => some path
  | _ => none

end Program.Exchange

namespace Trace

/-- The copies in hand after a trace, where these were in hand before. -/
def heldFrom (held : List String) (t : Trace) : List String := t.foldl Exchange.heldAfter held

/-- Every copy that is written or removed is in hand at that moment. -/
def Careful (held : List String) : Trace → Prop
  | [] => True
  | e :: t => (∀ path ∈ e.touched?, path ∈ held) ∧ Careful (e.heldAfter held) t

variable {held : List String} {t t₁ t₂ : Trace}

/-- What is in hand after two traces one after the other. -/
theorem heldFrom_append : heldFrom held (t₁ ++ t₂) = heldFrom (heldFrom held t₁) t₂ :=
  List.foldl_append

/-- A trace is careful if both its parts are. -/
theorem careful_append :
    Careful held (t₁ ++ t₂) ↔ Careful held t₁ ∧ Careful (heldFrom held t₁) t₂ := by
  induction t₁ generalizing held with
  | nil => exact (iff_of_eq (true_and _)).symm
  | cons e rest ih =>
    change _ ∧ Careful _ (rest ++ t₂) ↔ (_ ∧ _) ∧ _
    rw [ih, and_assoc]
    rfl

/-- What is in hand after a trace that begins with nothing was created in it. -/
theorem exists_created {path : String} (h : path ∈ heldFrom held t) :
    path ∈ held ∨ ∃ stem extension directory,
      ⟨.createTemporary stem extension directory, .ok path⟩ ∈ t := by
  induction t generalizing held with
  | nil => exact Or.inl h
  | cons e rest ih =>
    rcases ih h with before | ⟨stem, extension, directory, created⟩
    · obtain ⟨r, reply⟩ := e
      cases r with
      | createTemporary stem extension directory =>
        cases reply with
        | error fault => exact Or.inl before
        | ok made =>
          rcases List.mem_cons.1 before with rfl | before
          · exact Or.inr ⟨stem, extension, directory, List.mem_cons_self⟩
          · exact Or.inl before
      | remove => exact Or.inl (List.mem_of_mem_erase before)
      | _ => exact Or.inl before
    · exact Or.inr ⟨stem, extension, directory, List.mem_cons_of_mem _ created⟩

/-- A trace that is handed some copies touches nothing else and hands on others, whatever else is
in hand. -/
def Tends (owned : List String) (t : Trace) (left : List String) : Prop :=
  ∀ others held, (owned ++ others).Subperm held →
    Careful held t ∧ (left ++ others).Subperm (heldFrom held t)

variable {owned middle left : List String}

/-- No request. -/
theorem tends_nil (owned : List String) : Tends owned [] owned :=
  fun _ _ have_ => ⟨trivial, have_⟩

/-- Two traces one after the other. -/
theorem Tends.append (h₁ : Tends owned t₁ middle) (h₂ : Tends middle t₂ left) :
    Tends owned (t₁ ++ t₂) left := by
  intro others held have_
  obtain ⟨careful₁, have₁⟩ := h₁ others held have_
  obtain ⟨careful₂, have₂⟩ := h₂ others _ have₁
  exact ⟨careful_append.2 ⟨careful₁, careful₂⟩, heldFrom_append ▸ have₂⟩

/-- Copies that are in hand besides stay in hand. -/
theorem Tends.frame (h : Tends owned t left) (besides : List String) :
    Tends (owned ++ besides) t (left ++ besides) := by
  intro others held have_
  rw [List.append_assoc] at have_ ⊢
  exact h (besides ++ others) held have_

/-- A copy may be lost out of hand. -/
theorem Tends.lose {less : List String} (h : Tends owned t left) (le : less.Subperm left) :
    Tends owned t less := by
  intro others held have_
  obtain ⟨careful, have'⟩ := h others held have_
  exact ⟨careful, ((List.subperm_append_right others).2 le).trans have'⟩

/-- A request that neither makes nor touches a copy. -/
theorem tends_quiet {e : Exchange} (same : ∀ held, e.heldAfter held = held)
    (untouched : e.touched? = none) (owned : List String) : Tends owned [e] owned := by
  intro others held have_
  refine ⟨⟨by simp [untouched], trivial⟩, ?_⟩
  change (owned ++ others).Subperm (e.heldAfter held)
  rwa [same]

/-- Where nothing is asked about copies, what is in hand stays in hand. -/
theorem About.tends {cs : List Concern} (h : About cs t) (hc : Concern.copy ∉ cs)
    (owned : List String) : Tends owned t owned := by
  induction t with
  | nil => exact tends_nil owned
  | cons e rest ih =>
    have about : e.request.concern ∈ cs := h _ List.mem_cons_self
    have quiet : Tends owned [e] owned := by
      obtain ⟨r, reply⟩ := e
      cases r with
      | encoding | createTemporary | writeTemporary | remove => exact absurd about hc
      | _ => exact tends_quiet (fun _ => rfl) rfl owned
    exact quiet.append (ih fun e he => h e (List.mem_cons_of_mem _ he))

end Trace

/-! ### Programs that tend their copies -/

namespace Program

variable {α β : Type}

/-- A program that is handed some copies touches nothing else, and hands on what it leaves. -/
def Tends (owned : List String) (p : Program α) (left : α → List String) : Prop :=
  ∀ t a, Runs p t a → Trace.Tends owned t (left a)

/-- What an action hands on that hands on nothing if it fails. -/
def onOk (left : α → List String) : Except Fault α → List String
  | .ok a => left a
  | .error _ => []

variable {owned : List String}

/-- A result hands on what there is, or less. -/
theorem tends_pure {left : α → List String} {a : α} (le : (left a).Subperm owned) :
    Tends owned (pure a : Program α) left := by
  intro t b run
  obtain ⟨rfl, rfl⟩ := runs_pure.1 run
  exact (Trace.tends_nil owned).lose le

/-- The second part of a sequence is handed what the first one leaves. -/
theorem Tends.bind {p : Program α} {f : α → Program β} {middle : α → List String}
    {left : β → List String} (hp : Tends owned p middle) (hf : ∀ a, Tends (middle a) (f a) left) :
    Tends owned (p >>= f) left := by
  intro t b run
  obtain ⟨t₁, t₂, a, rfl, first, second⟩ := runs_bind.1 run
  exact (hp _ _ first).append (hf a _ _ second)

/-- A program may lose copies out of hand. -/
theorem Tends.lose {p : Program α} {left less : α → List String} (h : Tends owned p left)
    (le : ∀ a, (less a).Subperm (left a)) : Tends owned p less :=
  fun t a run => (h t a run).lose (le a)

/-- Copies that are in hand besides stay in hand. -/
theorem Tends.frame {p : Program α} {left : α → List String} (h : Tends owned p left)
    (besides : List String) : Tends (owned ++ besides) p fun a => left a ++ besides :=
  fun t a run => (h t a run).frame besides

/-- A program that asks nothing about copies keeps what it is handed. -/
theorem AsksOnly.tends {p : Program α} {cs : List Concern} (h : AsksAbout cs p)
    (hc : Concern.copy ∉ cs) (owned : List String) : Tends owned p fun _ => owned :=
  fun _ _ run => (run.about h).tends hc owned

/-- A request about something else keeps what is in hand. -/
theorem tends_request (r : Request) (h : r.concern ≠ .copy) (owned : List String) :
    Tends owned (request r) fun _ => owned := by
  have about : AsksAbout [r.concern] (request r) := asksOnly_request (List.mem_singleton.2 rfl)
  exact about.tends (fun copy => h (List.mem_singleton.1 copy).symm) owned

/-- The second of two actions is handed what the first one leaves; if that fails, the whole
does. -/
theorem Tends.attempt_bind {a : Action α} {f : α → Action β}
    {middle : Except Fault α → List String} {left : Except Fault β → List String}
    (ha : Tends owned a.attempt middle) (hf : ∀ x, Tends (middle (.ok x)) (f x).attempt left)
    (lost : ∀ fault, (left (.error fault)).Subperm (middle (.error fault))) :
    Tends owned (a >>= f).attempt left := by
  rw [Program.attempt_bind]
  exact ha.bind fun
    | .ok x => hf x
    | .error fault => tends_pure (lost fault)

/-- The same where the first part cannot fail. -/
theorem Tends.ofTotal_bind {p : Program α} {f : α → Action β} {middle : α → List String}
    {left : Except Fault β → List String} (hp : Tends owned p middle)
    (hf : ∀ x, Tends (middle x) (f x).attempt left) :
    Tends owned (Action.ofTotal p >>= f).attempt left := by
  intro t r run
  obtain ⟨t₁, t₂, x, rfl, first, second⟩ := runs_attempt_ofTotal_bind.1 run
  exact (hp _ _ first).append (hf x _ _ second)

/-- The handler of a fault is handed what the action leaves. -/
theorem Tends.attempt_tryCatch {a : Action α} {handle : Fault → Action α}
    {middle left : Except Fault α → List String} (ha : Tends owned a.attempt middle)
    (handled : ∀ fault, Tends (middle (.error fault)) (handle fault).attempt left)
    (done : ∀ x, (left (.ok x)).Subperm (middle (.ok x))) :
    Tends owned (tryCatch a handle).attempt left := by
  rw [Program.attempt_tryCatch]
  exact ha.bind fun
    | .ok x => tends_pure (done x)
    | .error fault => handled fault

/-- A copy that is created is in hand. -/
theorem tends_create (stem extension : String) (directory : Option String) (owned : List String) :
    Tends owned (request (.createTemporary stem extension directory)) fun reply =>
      reply.toOption.toList ++ owned := by
  intro t reply run
  cases runs_request.1 run
  cases reply with
  | error fault => exact Trace.tends_quiet (fun _ => rfl) rfl owned
  | ok path =>
    intro others held have_
    exact ⟨⟨by simp [Exchange.touched?], trivial⟩, (List.subperm_cons path).2 have_⟩

/-- A copy that is written stays in hand. -/
theorem tends_write (path text encoding : String) :
    Tends [path] (request (.writeTemporary path text encoding)) fun _ => [path] := by
  intro t reply run
  cases runs_request.1 run
  intro others held have_
  have there : path ∈ held := have_.subset List.mem_cons_self
  exact ⟨⟨by simpa [Exchange.touched?] using there, trivial⟩, have_⟩

/-- A copy whose removal is tried is out of hand. -/
theorem tends_remove (path : String) : Tends [path] (request (.remove path)) fun _ => [] := by
  intro t reply run
  cases runs_request.1 run
  intro others held have_
  have there : path ∈ held := have_.subset List.mem_cons_self
  refine ⟨⟨by simpa [Exchange.touched?] using there, trivial⟩, ?_⟩
  have rest := have_.erase path
  rwa [List.singleton_append, List.erase_cons_head] at rest

/-- A question about copies that touches none. -/
theorem tends_encoding (h : Handle) (owned : List String) :
    Tends owned (request (.encoding h)) fun _ => owned := by
  intro t reply run
  cases runs_request.1 run
  exact Trace.tends_quiet (fun _ => rfl) rfl owned

end Program

/-! ### Sets of snapshots -/

namespace Snapshot

open Program

/-- To remove the copy of a snapshot takes it out of hand. -/
theorem tends_delete (s : Snapshot) : Tends (copyPaths [s]) s.delete.attempt fun _ => [] := by
  unfold delete
  split
  · next pending =>
    have copy : copyPaths [s] = [s.path] := by simp [copyPaths, pending]
    rw [copy]
    refine (tends_remove s.path).ofTotal_bind fun reply => ?_
    cases reply with
    | ok _ => exact tends_pure (List.Subperm.refl _)
    | error fault =>
      dsimp only
      split
      · exact tends_pure (List.Subperm.refl _)
      · split
        · exact (AsksOnly.ofTotal (logLine_asks _ _ _)).tends (by decide) []
        · exact tends_pure (List.Subperm.refl _)
  · exact tends_pure List.nil_subperm

/-- To remove the copies of a set takes them out of hand. -/
theorem tends_deleteAll (made : List Snapshot) :
    Tends (copyPaths made) (deleteAll made).attempt fun _ => [] := by
  induction made with
  | nil => exact tends_pure (List.Subperm.refl _)
  | cons s rest ih =>
    have cut : copyPaths (s :: rest) = copyPaths [s] ++ copyPaths rest :=
      copyPaths_append [s] rest
    rw [cut]
    unfold deleteAll
    refine ((tends_delete s).frame (copyPaths rest)).ofTotal_bind fun reply => ?_
    cases reply with
    | ok _ => exact ih
    | error fault =>
      dsimp only
      split
      · exact tends_pure List.nil_subperm
      · exact ((logLine_asks _ _ _).tends (by decide) _).ofTotal_bind fun _ => ih

/-- A copy that is written is in hand; a copy that is not written is removed, or lost. -/
theorem tends_fillCopy {s : Snapshot} (pending : s.isPending = true) (text : String) :
    Tends [s.path] (s.fillCopy text).attempt (onOk fun _ => [s.path]) := by
  have copy : copyPaths [s] = [s.path] := by simp [copyPaths, pending]
  have write : Tends [s.path] (do
      let encoding ← Action.ofProgram (.request (.encoding s.handle))
      Action.ofProgram (.request (.writeTemporary s.path text encoding)) : Action Unit).attempt
      fun _ => [s.path] :=
    Tends.attempt_bind (tends_encoding _ _) (fun _ => tends_write _ _ _) fun _ =>
      List.Subperm.refl _
  unfold fillCopy
  refine write.attempt_tryCatch (fun fault => ?_) fun _ => List.Subperm.refl _
  split
  · rw [← copy]
    refine Tends.attempt_bind (tends_delete s) (fun _ => ?_) fun _ => List.nil_subperm
    exact tends_pure List.nil_subperm
  · exact tends_pure List.nil_subperm

/-- To make an empty copy. -/
theorem tends_createCopy (scratch : Option String) (h : Handle) :
    Tends [] (createCopy scratch h).attempt (onOk fun path => [path]) := by
  unfold createCopy
  obtain ⟨stem, extension⟩ := Path.splitExtension h.name
  refine (tends_create (stem ++ "_") extension scratch []).ofTotal_bind fun reply => ?_
  match reply with
  | .ok path => exact tends_pure (List.Subperm.refl _)
  | .error fault =>
    dsimp only
    split <;> exact tends_pure (List.Subperm.refl _)

/-- The snapshot of a file that is read where it is has no copy; the copy of any other is in
hand. -/
theorem tends_place (scratch : Option String) (h : Handle) (current : String)
    (onDisk : Option String) :
    Tends [] (place scratch h current onDisk).attempt (onOk fun s => copyPaths [s]) := by
  unfold place
  split
  · exact tends_pure (List.Subperm.refl _)
  · unfold writeCopy
    refine Tends.attempt_bind (tends_createCopy scratch h) (fun path => ?_) fun _ =>
      List.Subperm.refl _
    refine Tends.attempt_bind (tends_fillCopy rfl current) (fun _ => ?_) fun _ =>
      List.Subperm.refl _
    exact tends_pure (List.Subperm.refl _)

/-- To make a snapshot hands on its copy. -/
theorem tends_make (scratch : Option String) (cancellable : Bool) (unsaved : Table String Handle)
    (h : Handle) :
    Tends [] (make scratch cancellable unsaved h).attempt (onOk fun x => copyPaths [x.1]) := by
  unfold make
  refine Tends.attempt_bind ((checkCancelled_asks _).tends (by decide) []) (fun _ => ?_) fun _ =>
    List.Subperm.refl _
  refine Tends.attempt_bind ((readTexts_asks h).tends (by decide) []) (fun texts => ?_) fun _ =>
    List.Subperm.refl _
  have claimed : AsksAbout [] (Action.ofExcept (claim unsaved h texts.2)).attempt :=
    asksOnly_attempt_ofExcept _
  refine Tends.attempt_bind (claimed.tends (by decide) []) (fun unsaved' => ?_) fun _ =>
    List.Subperm.refl _
  refine Tends.attempt_bind (tends_place scratch h texts.1 texts.2) (fun s => ?_) fun _ =>
    List.Subperm.refl _
  exact tends_pure (List.Subperm.refl _)

/-- To make the snapshots of files one by one hands on the copies of those that were made. -/
theorem tends_makeEach (scratch : Option String) (cancellable : Bool)
    (unsaved : Table String Handle) (handles : List Handle) :
    Tends [] (makeEach scratch cancellable unsaved handles) fun x => copyPaths x.1 := by
  induction handles generalizing unsaved with
  | nil => exact tends_pure (List.Subperm.refl _)
  | cons h rest ih =>
    unfold makeEach
    refine (tends_make scratch cancellable unsaved h).bind fun made => ?_
    cases made with
    | error fault => exact tends_pure (List.Subperm.refl _)
    | ok first =>
      obtain ⟨s, unsaved'⟩ := first
      refine ((ih unsaved').frame (copyPaths [s])).bind fun more => ?_
      obtain ⟨others, ending⟩ := more
      refine tends_pure (List.Perm.subperm ?_)
      have cut : copyPaths (s :: others) = copyPaths [s] ++ copyPaths others :=
        copyPaths_append [s] others
      dsimp only
      rw [cut]
      exact List.perm_append_comm

/-- The same under the lock. -/
theorem tends_makeAll (scratch : Option String) (cancellable : Bool) (handles : List Handle) :
    Tends [] (makeAll scratch cancellable handles) fun x => copyPaths x.1 := by
  unfold makeAll
  refine (tends_request .lock (by decide) []).bind fun locked => ?_
  match locked with
  | .error fault => exact tends_pure (List.Subperm.refl _)
  | .ok () =>
    refine (tends_makeEach scratch cancellable [] handles).bind fun (made, ending) => ?_
    refine (tends_request .unlock (by decide) _).bind fun _ => ?_
    exact tends_pure (List.Subperm.refl _)

/-- The cleanup of a set together with what becomes of the set: the snapshots whose removal was
tried are retired, and a fault that ends the program leaves the others as they are. -/
def clean : List Snapshot → Program (List Snapshot × Except Fault Unit)
  | [] => pure ([], .ok ())
  | s :: rest => do
    match ← s.delete.attempt with
    | .ok () =>
      let (rest, ending) ← clean rest
      pure (s.retired :: rest, ending)
    | .error fault =>
      if fault.isFatal then pure (s.retired :: rest, .error fault)
      else do
        logLine .warning .snapshot ("Cleanup of " ++ s.handle.path ++ " failed: " ++ fault.message)
        let (rest, ending) ← clean rest
        pure (s.retired :: rest, ending)

/-- The cleanup of a set is the removal of its copies. -/
theorem runs_clean {made : List Snapshot} {t : Trace} {r : Except Fault Unit} :
    (∃ left, Runs (clean made) t (left, r)) ↔ Runs (deleteAll made).attempt t r := by
  induction made generalizing t with
  | nil => simp [clean, deleteAll]
  | cons s rest ih =>
    -- What comes behind the first snapshot, on both sides.
    have others {t : Trace} : (∃ left, Runs (do
        let (rest, ending) ← clean rest
        pure (s.retired :: rest, ending)) t (left, r)) ↔ Runs (deleteAll rest).attempt t r := by
      rw [← ih]
      constructor
      · rintro ⟨left, run⟩
        obtain ⟨t₁, t₂, ⟨left', ending⟩, rfl, cleaned, last⟩ := runs_bind.1 run
        obtain ⟨rfl, same⟩ := runs_pure.1 last
        cases same
        exact ⟨left', by rwa [List.append_nil]⟩
      · rintro ⟨left, run⟩
        exact ⟨s.retired :: left, runs_bind.2 ⟨t, [], _, (List.append_nil t).symm, run,
          runs_pure.2 ⟨rfl, rfl⟩⟩⟩
    unfold clean deleteAll
    rw [runs_attempt_ofTotal_bind]
    constructor
    · rintro ⟨left, run⟩
      obtain ⟨t₁, t₂, removed, rfl, delete, going⟩ := runs_bind.1 run
      refine ⟨t₁, t₂, removed, rfl, delete, ?_⟩
      match removed with
      | .ok () => exact others.1 ⟨left, going⟩
      | .error fault =>
        dsimp only at going ⊢
        split at going
        · next fatal =>
          obtain ⟨rfl, same⟩ := runs_pure.1 going
          cases same
          rw [if_pos fatal]
          exact runs_attempt_throw.2 ⟨rfl, rfl⟩
        · next noted =>
          obtain ⟨t₃, t₄, _, rfl, log, going⟩ := runs_bind.1 going
          rw [if_neg noted]
          exact runs_attempt_ofTotal_bind.2 ⟨t₃, t₄, _, rfl, log, others.1 ⟨left, going⟩⟩
    · rintro ⟨t₁, t₂, removed, rfl, delete, going⟩
      suffices ∃ left, Runs _ t₂ (left, r) from
        this.imp fun left run => runs_bind.2 ⟨t₁, t₂, removed, rfl, delete, run⟩
      match removed with
      | .ok () => exact others.2 going
      | .error fault =>
        dsimp only at going ⊢
        split at going
        · next fatal =>
          obtain ⟨rfl, rfl⟩ := runs_attempt_throw.1 going
          rw [if_pos fatal]
          exact ⟨_, runs_pure.2 ⟨rfl, rfl⟩⟩
        · next noted =>
          obtain ⟨t₃, t₄, _, rfl, log, going⟩ := runs_attempt_ofTotal_bind.1 going
          rw [if_neg noted]
          obtain ⟨left, run⟩ := others.2 going
          exact ⟨left, runs_bind.2 ⟨t₃, t₄, _, rfl, log, run⟩⟩

/-- After a cleanup that was not cut short every snapshot of the set is retired. -/
theorem eq_retired_of_clean {made left : List Snapshot} {t : Trace}
    (run : Runs (clean made) t (left, .ok ())) : left = made.map retired := by
  induction made generalizing left t with
  | nil =>
    obtain ⟨-, same⟩ := runs_pure.1 run
    cases same
    rfl
  | cons s rest ih =>
    have others {t : Trace} {left : List Snapshot} (run : Runs (do
        let (rest, ending) ← clean rest
        pure (s.retired :: rest, ending)) t (left, .ok ())) :
        left = (s :: rest).map retired := by
      obtain ⟨t₁, t₂, ⟨left', ending⟩, rfl, cleaned, last⟩ := runs_bind.1 run
      obtain ⟨-, same⟩ := runs_pure.1 last
      cases same
      rw [ih cleaned]
      rfl
    unfold clean at run
    obtain ⟨t₁, t₂, removed, rfl, -, going⟩ := runs_bind.1 run
    match removed with
    | .ok () => exact others going
    | .error fault =>
      dsimp only at going
      split at going
      · obtain ⟨-, same⟩ := runs_pure.1 going
        cases same
      · obtain ⟨t₃, t₄, _, rfl, -, going⟩ := runs_bind.1 going
        exact others going

/-- A snapshot whose removal was tried has no copy to remove. -/
theorem isPending_retired (s : Snapshot) : s.retired.isPending = false := by
  obtain ⟨handle, path, temporary, deleted⟩ := s
  cases temporary <;> simp [retired, isPending]

/-- To clean up a set takes the copies out of hand whose removal was tried. -/
theorem tends_clean (made : List Snapshot) :
    Tends (copyPaths made) (clean made) fun x => copyPaths x.1 := by
  have tried (s : Snapshot) (others : List Snapshot) :
      copyPaths (s.retired :: others) = copyPaths others := by
    unfold copyPaths
    rw [List.filter_cons_of_neg (by simp [isPending_retired])]
  induction made with
  | nil => exact tends_pure (List.Subperm.refl _)
  | cons s rest ih =>
    have cut : copyPaths (s :: rest) = copyPaths [s] ++ copyPaths rest :=
      copyPaths_append [s] rest
    rw [cut]
    unfold clean
    refine ((tends_delete s).frame (copyPaths rest)).bind fun removed => ?_
    have others : Tends (copyPaths rest) (do
        let (rest, ending) ← clean rest
        pure (s.retired :: rest, ending)) fun x => copyPaths x.1 :=
      ih.bind fun x => tends_pure (by rw [tried])
    match removed with
    | .ok () => exact others
    | .error fault =>
      dsimp only
      split
      · exact tends_pure (by rw [tried]; exact List.Subperm.refl _)
      · exact ((logLine_asks _ _ _).tends (by decide) _).bind fun _ => others

end Snapshot

/-! ### Scans -/

namespace Scan

open Program

/-- Up to its report a scan has the copies of its snapshots in hand. -/
theorem tends_perform (scan : Scan) (id : String) :
    Tends [] (scan.perform id) fun x => Snapshot.copyPaths x.1 := by
  unfold perform
  refine ((start_asks scan).tends (by decide) []).bind fun found => ?_
  match found with
  | .error fault => exact tends_pure (List.Subperm.refl _)
  | .ok [] => exact tends_pure (List.Subperm.refl _)
  | .ok (h :: rest) =>
    refine (tends_request (.enter .snapshotting) (by decide) []).bind fun _ => ?_
    refine (Snapshot.tends_makeAll _ _ _).bind fun (made, ending) => ?_
    match ending with
    | .error fault => exact tends_pure (List.Subperm.refl _)
    | .ok () =>
      refine ((check_asks scan id made).tends (by decide) _).bind fun _ => ?_
      exact tends_pure (List.Subperm.refl _)

/-- A scan begins with nothing in hand and touches only what it has made. -/
theorem tends_run (scan : Scan) : Tends [] scan.run fun _ => [] := by
  have obtained (id : String) : Tends [] (scan.obtain id).attempt fun _ => [] := by
    unfold obtain
    refine (tends_perform scan id).bind fun (made, ended) => ?_
    refine (Snapshot.tends_deleteAll made).bind fun removed => ?_
    cases removed <;> exact tends_pure (List.Subperm.refl _)
  unfold Scan.run
  refine (tends_request .freshId (by decide) []).bind fun id => ?_
  refine (obtained id).bind fun ended => ?_
  match ended with
  | .error fault =>
    refine (tends_request (.enter .idle) (by decide) []).bind fun _ => ?_
    exact tends_pure (List.Subperm.refl _)
  | .ok outcome =>
    refine (tends_request (.conclude outcome) (by simp [Request.concern]) []).bind fun _ => ?_
    refine ((announce_asks outcome).tends (by decide) []).bind fun told => ?_
    refine (tends_request (.enter .idle) (by decide) []).bind fun _ => ?_
    exact tends_pure (List.Subperm.refl _)

end Scan

end LiveCheck
