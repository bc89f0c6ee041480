import Mathlib.Tactic.Common
import LiveCheck.Program

/-!
# Runs of programs

A program is a tree of requests, and a run is a way through the tree: the trace of the requests
with the answers that they got, and the result at the leaf.  What is said about all runs is said
about all surroundings, since every request may be answered in every way.

Programs are put together by sequencing, and runs are taken apart the same way: `runs_bind` cuts
the trace of a sequence in two, and `runs_attempt_bind` does so for actions, which may end early
with a fault.  `AsksOnly` bounds the requests of a program without a look at its runs.  In the
other direction `record` answers the requests of a program from a state and `runs_record` says
that this is a run, so no program is without runs.
-/

namespace LiveCheck

/-- The requests of a run with the answers that they got, the first of them first. -/
abbrev Trace := List Program.Exchange

namespace Program

variable {α β σ : Type}

/-! ### Taking runs apart -/

/-- A program that has ended asks nothing. -/
@[simp] theorem runs_done {a b : α} {t : Trace} : Runs (done a) t b ↔ t = [] ∧ b = a := by
  constructor
  · intro h
    cases h
    exact ⟨rfl, rfl⟩
  · rintro ⟨rfl, rfl⟩
    exact Runs.done b

/-- The run of a program that asks begins with the request. -/
@[simp] theorem runs_ask {r : Request} {next : r.Reply → Program α} {t : Trace} {a : α} :
    Runs (ask r next) t a ↔ ∃ reply rest, t = ⟨r, reply⟩ :: rest ∧ Runs (next reply) rest a := by
  constructor
  · intro h
    cases h with
    | ask reply rest => exact ⟨reply, _, rfl, rest⟩
  · rintro ⟨reply, rest, rfl, h⟩
    exact Runs.ask reply h

/-- A result without requests. -/
@[simp] theorem runs_pure {a b : α} {t : Trace} :
    Runs (pure a : Program α) t b ↔ t = [] ∧ b = a := runs_done

/-- The run of a single request. -/
@[simp] theorem runs_request {r : Request} {t : Trace} {reply : r.Reply} :
    Runs (request r) t reply ↔ t = [⟨r, reply⟩] := by
  simp only [request, runs_ask, runs_done]
  constructor
  · rintro ⟨_, _, rfl, rfl, rfl⟩
    rfl
  · rintro rfl
    exact ⟨reply, [], rfl, rfl, rfl⟩

/-- The run of a sequence is a run of its first part and then one of the rest. -/
theorem runs_bind {p : Program α} {f : α → Program β} {t : Trace} {b : β} :
    Runs (p >>= f) t b ↔ ∃ t₁ t₂ a, t = t₁ ++ t₂ ∧ Runs p t₁ a ∧ Runs (f a) t₂ b := by
  change Runs (p.bind f) t b ↔ _
  induction p generalizing t with
  | done a =>
    simp only [Program.bind, runs_done]
    constructor
    · intro h
      exact ⟨[], t, a, rfl, ⟨rfl, rfl⟩, h⟩
    · rintro ⟨_, _, _, rfl, ⟨rfl, rfl⟩, h⟩
      exact h
  | ask r next ih =>
    simp only [Program.bind, runs_ask, ih]
    constructor
    · rintro ⟨reply, _, rfl, t₁, t₂, a, rfl, h₁, h₂⟩
      exact ⟨⟨r, reply⟩ :: t₁, t₂, a, rfl, ⟨reply, t₁, rfl, h₁⟩, h₂⟩
    · rintro ⟨_, t₂, a, rfl, ⟨reply, t₁, rfl, h₁⟩, h₂⟩
      exact ⟨reply, t₁ ++ t₂, rfl, t₁, t₂, a, rfl, h₁, h₂⟩

/-- A sequence that begins with a request. -/
theorem runs_request_bind {r : Request} {f : r.Reply → Program β} {t : Trace} {b : β} :
    Runs (request r >>= f) t b ↔ ∃ reply rest, t = ⟨r, reply⟩ :: rest ∧ Runs (f reply) rest b :=
  runs_ask

/-! ### Taking the runs of actions apart -/

/-- A sequence of actions as a sequence of programs. -/
theorem attempt_bind (a : Action α) (f : α → Action β) :
    (a >>= f).attempt =
      a.attempt >>= fun | .ok x => (f x).attempt | .error fault => pure (.error fault) := by
  refine (ExceptT.run_bind a f).trans ?_
  congr 1
  funext x
  cases x <;> rfl

/-- An action whose faults are handled as a sequence of programs. -/
theorem attempt_tryCatch (a : Action α) (handle : Fault → Action α) :
    (tryCatch a handle).attempt =
      a.attempt >>= fun | .ok x => pure (.ok x) | .error fault => (handle fault).attempt := by
  refine (ExceptT.run_tryCatch a handle).trans ?_
  congr 1
  funext x
  cases x <;> rfl

/-- An action that has a result. -/
@[simp] theorem runs_attempt_pure {a : α} {t : Trace} {r : Except Fault α} :
    Runs (pure a : Action α).attempt t r ↔ t = [] ∧ r = .ok a := runs_done

/-- An action that fails. -/
@[simp] theorem runs_attempt_throw {fault : Fault} {t : Trace} {r : Except Fault α} :
    Runs (throw fault : Action α).attempt t r ↔ t = [] ∧ r = .error fault := runs_done

/-- An action that is given by its program. -/
@[simp] theorem runs_attempt_ofProgram {p : Program (Except Fault α)} {t : Trace}
    {r : Except Fault α} : Runs (Action.ofProgram p).attempt t r ↔ Runs p t r := Iff.rfl

/-- A computation without requests. -/
@[simp] theorem runs_attempt_ofExcept {e : Except Fault α} {t : Trace} {r : Except Fault α} :
    Runs (Action.ofExcept e).attempt t r ↔ t = [] ∧ r = e := runs_done

/-- An action without faults ends as its program does. -/
@[simp] theorem runs_attempt_ofTotal {p : Program α} {t : Trace} {r : Except Fault α} :
    Runs (Action.ofTotal p).attempt t r ↔ ∃ a, r = .ok a ∧ Runs p t a := by
  change Runs (p >>= fun a => pure (.ok a)) t r ↔ _
  simp only [runs_bind, runs_pure]
  constructor
  · rintro ⟨t₁, _, a, rfl, h, rfl, rfl⟩
    exact ⟨a, rfl, by simpa using h⟩
  · rintro ⟨a, rfl, h⟩
    exact ⟨t, [], a, by simp, h, rfl, rfl⟩

/-- The run of a sequence of actions: the first part has a result and the rest is run, or the
first part fails and that is all. -/
theorem runs_attempt_bind {a : Action α} {f : α → Action β} {t : Trace} {r : Except Fault β} :
    Runs (a >>= f).attempt t r ↔
      (∃ t₁ t₂ x, t = t₁ ++ t₂ ∧ Runs a.attempt t₁ (.ok x) ∧ Runs (f x).attempt t₂ r) ∨
      ∃ fault, r = .error fault ∧ Runs a.attempt t (.error fault) := by
  rw [attempt_bind, runs_bind]
  constructor
  · rintro ⟨t₁, t₂, x | x, rfl, h₁, h₂⟩
    · obtain ⟨rfl, rfl⟩ := runs_pure.1 h₂
      exact Or.inr ⟨x, rfl, by simpa using h₁⟩
    · exact Or.inl ⟨t₁, t₂, x, rfl, h₁, h₂⟩
  · rintro (⟨t₁, t₂, x, rfl, h₁, h₂⟩ | ⟨fault, rfl, h⟩)
    · exact ⟨t₁, t₂, .ok x, rfl, h₁, h₂⟩
    · exact ⟨t, [], .error fault, by simp, h, by simp⟩

/-- A sequence of actions that ends well: its first part ended well too. -/
theorem runs_attempt_bind_ok {a : Action α} {f : α → Action β} {t : Trace} {y : β} :
    Runs (a >>= f).attempt t (.ok y) ↔
      ∃ t₁ t₂ x, t = t₁ ++ t₂ ∧ Runs a.attempt t₁ (.ok x) ∧ Runs (f x).attempt t₂ (.ok y) := by
  rw [runs_attempt_bind]
  constructor
  · rintro (parts | ⟨_, fault, _⟩)
    · exact parts
    · cases fault
  · exact Or.inl

/-- A sequence of actions whose first part cannot fail. -/
theorem runs_attempt_ofTotal_bind {p : Program α} {f : α → Action β} {t : Trace}
    {r : Except Fault β} :
    Runs (Action.ofTotal p >>= f).attempt t r ↔
      ∃ t₁ t₂ x, t = t₁ ++ t₂ ∧ Runs p t₁ x ∧ Runs (f x).attempt t₂ r := by
  rw [runs_attempt_bind]
  constructor
  · rintro (⟨t₁, t₂, x, rfl, h₁, h₂⟩ | ⟨fault, rfl, h⟩)
    · obtain ⟨y, hy, h⟩ := runs_attempt_ofTotal.1 h₁
      cases hy
      exact ⟨t₁, t₂, x, rfl, h, h₂⟩
    · obtain ⟨_, hy, _⟩ := runs_attempt_ofTotal.1 h
      cases hy
  · rintro ⟨t₁, t₂, x, rfl, h₁, h₂⟩
    exact Or.inl ⟨t₁, t₂, x, rfl, runs_attempt_ofTotal.2 ⟨x, rfl, h₁⟩, h₂⟩

/-- An action whose faults are handled. -/
theorem runs_attempt_tryCatch {a : Action α} {handle : Fault → Action α} {t : Trace}
    {r : Except Fault α} :
    Runs (tryCatch a handle).attempt t r ↔
      (∃ x, r = .ok x ∧ Runs a.attempt t (.ok x)) ∨
      ∃ t₁ t₂ fault, t = t₁ ++ t₂ ∧ Runs a.attempt t₁ (.error fault) ∧
        Runs (handle fault).attempt t₂ r := by
  rw [attempt_tryCatch, runs_bind]
  constructor
  · rintro ⟨t₁, t₂, x | x, rfl, h₁, h₂⟩
    · exact Or.inr ⟨t₁, t₂, x, rfl, h₁, h₂⟩
    · obtain ⟨rfl, rfl⟩ := runs_pure.1 h₂
      exact Or.inl ⟨x, rfl, by simpa using h₁⟩
  · rintro (⟨x, rfl, h⟩ | ⟨t₁, t₂, fault, rfl, h₁, h₂⟩)
    · exact ⟨t, [], .ok x, by simp, h, by simp⟩
    · exact ⟨t₁, t₂, .error fault, rfl, h₁, h₂⟩

/-- Steps that are done one after the other keep what every one of them keeps. -/
theorem inv_of_runs_foldlM {f : β → α → Action β} {S : Exchange → Prop} {Inv : β → Prop}
    (step : ∀ b a t b', Runs (f b a).attempt t (.ok b') → (∀ e ∈ t, S e) → Inv b → Inv b')
    {as : List α} {b b' : β} {t : Trace}
    (run : Runs (as.foldlM f b : Action β).attempt t (.ok b')) (h : ∀ e ∈ t, S e) (hb : Inv b) :
    Inv b' := by
  induction as generalizing b t with
  | nil =>
    obtain ⟨-, same⟩ := runs_attempt_pure.1 run
    cases same
    exact hb
  | cons a as ih =>
    rw [List.foldlM_cons] at run
    obtain ⟨t₁, t₂, b₁, rfl, first, rest⟩ := runs_attempt_bind_ok.1 run
    obtain ⟨h₁, h₂⟩ := List.forall_mem_append.1 h
    exact ih rest h₂ (step b a t₁ b₁ first h₁ hb)

/-- What was done under the lock had a result if the whole has one. -/
theorem eq_ok_of_unlockedWith {ended : Except Fault α} {unlocked : Except Fault Unit}
    {a : α} (h : unlockedWith ended unlocked = .ok a) : ended = .ok a ∧ unlocked = .ok () := by
  cases unlocked with
  | ok u => exact ⟨h, rfl⟩
  | error fault => cases h

/-! ### Bounding the requests of a program -/

/-- All requests that a program can make satisfy `S`, whatever it is answered. -/
inductive AsksOnly (S : Request → Prop) : Program α → Prop where
  | done (a : α) : AsksOnly S (done a)
  | ask {r : Request} {next : r.Reply → Program α} (hr : S r)
      (hn : ∀ reply, AsksOnly S (next reply)) : AsksOnly S (ask r next)

variable {S : Request → Prop}

/-- The requests in a run are those that the program can make. -/
theorem Runs.asksOnly {p : Program α} {t : Trace} {a : α} (run : Runs p t a)
    (h : AsksOnly S p) : ∀ e ∈ t, S e.request := by
  induction run with
  | done a => simp
  | ask reply rest ih =>
    cases h with
    | ask hr hn =>
      intro e he
      rcases List.mem_cons.1 he with rfl | he
      · exact hr
      · exact ih (hn reply) e he

/-- A program without requests makes none outside any bound. -/
theorem asksOnly_pure (a : α) : AsksOnly S (pure a : Program α) := AsksOnly.done a

/-- A request is bounded by what holds of it. -/
theorem asksOnly_request {r : Request} (hr : S r) : AsksOnly S (request r) :=
  AsksOnly.ask hr fun reply => AsksOnly.done reply

/-- A sequence makes the requests of its two parts. -/
theorem AsksOnly.bind {p : Program α} {f : α → Program β} (hp : AsksOnly S p)
    (hf : ∀ a, AsksOnly S (f a)) : AsksOnly S (p >>= f) := by
  induction hp with
  | done a => exact hf a
  | ask hr _ ih => exact AsksOnly.ask hr ih

/-- A weaker bound. -/
theorem AsksOnly.mono {S' : Request → Prop} (hS : ∀ r, S r → S' r) {p : Program α}
    (hp : AsksOnly S p) : AsksOnly S' p := by
  induction hp with
  | done a => exact AsksOnly.done a
  | ask hr _ ih => exact AsksOnly.ask (hS _ hr) ih

/-- An action that has a result asks nothing. -/
theorem asksOnly_attempt_pure (a : α) : AsksOnly S (pure a : Action α).attempt :=
  AsksOnly.done _

/-- An action that fails asks nothing. -/
theorem asksOnly_attempt_throw (fault : Fault) :
    AsksOnly S (throw fault : Action α).attempt :=
  AsksOnly.done _

/-- A computation without requests asks nothing. -/
theorem asksOnly_attempt_ofExcept (e : Except Fault α) :
    AsksOnly S (Action.ofExcept e).attempt :=
  AsksOnly.done _

/-- An action without faults asks what its program asks. -/
theorem AsksOnly.ofTotal {p : Program α} (hp : AsksOnly S p) :
    AsksOnly S (Action.ofTotal p).attempt := hp.bind fun _ => AsksOnly.done _

/-- A sequence of actions makes the requests of its two parts. -/
theorem AsksOnly.attempt_bind {a : Action α} {f : α → Action β} (ha : AsksOnly S a.attempt)
    (hf : ∀ x, AsksOnly S (f x).attempt) : AsksOnly S (a >>= f).attempt := by
  rw [Program.attempt_bind]
  refine ha.bind fun
    | .ok x => hf x
    | .error _ => AsksOnly.done _

/-- An action whose faults are handled makes its requests and those of the handler. -/
theorem AsksOnly.attempt_tryCatch {a : Action α} {handle : Fault → Action α}
    (ha : AsksOnly S a.attempt) (hh : ∀ fault, AsksOnly S (handle fault).attempt) :
    AsksOnly S (tryCatch a handle).attempt := by
  rw [Program.attempt_tryCatch]
  refine ha.bind fun
    | .ok _ => AsksOnly.done _
    | .error fault => hh fault

/-! ### Building runs -/

/-- Answer the requests of a program from a state: the trace, the result and the last state. -/
def record (answer : σ → (r : Request) → r.Reply × σ) : σ → Program α → Trace × α × σ
  | s, done a => ([], a, s)
  | s, ask r next =>
    let (reply, s) := answer s r
    let (t, result) := record answer s (next reply)
    (⟨r, reply⟩ :: t, result)

/-- Whatever answers the requests of a program, what is recorded is a run of it. -/
theorem runs_record (answer : σ → (r : Request) → r.Reply × σ) (s : σ) (p : Program α) :
    Runs p (record answer s p).1 (record answer s p).2.1 := by
  induction p generalizing s with
  | done a => exact Runs.done a
  | ask r next ih => exact Runs.ask _ (ih _ _)

/-- What is recorded is answered from some state. -/
theorem replies_record (answer : σ → (r : Request) → r.Reply × σ) (s : σ) (p : Program α) :
    ∀ e ∈ (record answer s p).1, ∃ s', e.reply = (answer s' e.request).1 := by
  induction p generalizing s with
  | done a => exact nofun
  | ask r next ih => exact List.forall_mem_cons.2 ⟨⟨s, rfl⟩, ih _ _⟩

/-- Answer the requests of a program by a rule that does not change: the trace and the result. -/
def answered (answer : (r : Request) → r.Reply) (p : Program α) : Trace × α :=
  let recorded := record (fun (_ : Unit) r => (answer r, ())) () p
  (recorded.1, recorded.2.1)

/-- A program whose requests are answered by a rule is run. -/
theorem runs_answered (answer : (r : Request) → r.Reply) (p : Program α) :
    Runs p (answered answer p).1 (answered answer p).2 :=
  runs_record _ _ _

/-- Running a program in a monad of states gives the result of a run of it. -/
theorem record_eq_runWith (answer : (r : Request) → StateM σ r.Reply) (s : σ) (p : Program α) :
    (record (fun s r => (answer r).run s) s p).2 = (p.runWith answer).run s := by
  induction p generalizing s with
  | done a => rfl
  | ask r next ih => exact ih _ _

/-- If no request of a program changes the state, all of them are answered from the state that it
is run from. -/
theorem record_of_unchanged (answer : σ → (r : Request) → r.Reply × σ) {s : σ} {p : Program α}
    (asks : AsksOnly S p) (keeps : ∀ r, S r → (answer s r).2 = s) :
    (record answer s p).2.2 = s ∧
      ∀ e ∈ (record answer s p).1, e.reply = (answer s e.request).1 := by
  induction asks with
  | done a => exact ⟨rfl, fun e he => absurd he List.not_mem_nil⟩
  | @ask r next hr _ ih =>
    have asked : answer s r = ((answer s r).1, s) := Prod.ext rfl (keeps r hr)
    obtain ⟨state, replies⟩ := ih (answer s r).1
    rw [record, asked]
    exact ⟨state, List.forall_mem_cons.2 ⟨rfl, replies⟩⟩

end Program

end LiveCheck
