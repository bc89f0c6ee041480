import LiveCheck.Proofs.Lock.Threads
import LiveCheck.Proofs.Observed
import LiveCheck.Proofs.Scan.Calls
import LiveCheck.Proofs.Scan.Roots

/-!
# When a scan holds a lock

A scan uses two locks, that of the documents and that of its list of listeners.  It reads texts and
encodings while it holds the first one, once and not twice, copies the list while it holds the
second one, and holds neither of them whenever it calls somebody else: the tool, a listener, or the
user.  However it ends, it has given back what it took (`tidy_run`).

For the lock of the documents this is what keeps a scan from being in anybody's way.  `Passes` says
how the lock goes on while a scan runs and others come and go, and `lock_discipline` that the scan
reads when it has to be inside, that it is outside when somebody else is called, who may then edit,
and that it is outside at the end.
-/

namespace LiveCheck

open Program (Exchange Runs)

/-! ### Locks in hand -/

/-- A lock that a scan uses. -/
inductive Guard where
  | documents
  /-- The lock of the list of listeners. -/
  | registry
deriving DecidableEq

/-- What a scan does about its locks, and what must happen inside or outside of them. -/
inductive Deed where
  | asks (g : Guard)
  | takes (g : Guard)
  | drops (g : Guard)
  /-- What a file holds, or how it is encoded, is asked. -/
  | reads
  /-- The list of listeners is copied. -/
  | copies
  /-- Somebody else is called. -/
  | calls
deriving DecidableEq

namespace Deed

/-- The locks in hand afterwards. -/
def after (held : List Guard) : Deed → List Guard
  | takes g => g :: held
  | drops g => held.erase g
  | asks _ | reads | copies | calls => held

/-- Is it right to do this with these locks in hand?  No lock is asked for while another one, or
the same, is in hand. -/
def Fits (held : List Guard) : Deed → Prop
  | asks _ | takes _ | calls => held = []
  | drops g => held = [g]
  | reads => held = [.documents]
  | copies => held = [.registry]

end Deed

namespace Program.Exchange

/-- Is somebody else called: the tool, a listener, the user, or whoever picks files? -/
def callsOut (e : Exchange) : Bool :=
  match e.request with
  | .tellStart _ _ | .tellEnd _ _ => true
  | r => [Concern.choice, .tool, .user].elem r.concern

/-- Is it asked what a file holds, or how it is encoded? -/
def readsFile (e : Exchange) : Bool :=
  match e.request with
  | .currentText _ | .diskText _ | .encoding _ => true
  | _ => false

/-- What is done about locks in an exchange. -/
def deeds (e : Exchange) : List Deed :=
  match e with
  | ⟨.lock, .ok ()⟩ => [.asks .documents, .takes .documents]
  | ⟨.lock, .error _⟩ => [.asks .documents]
  | ⟨.unlock, _⟩ => [.drops .documents]
  | ⟨.lockListeners, _⟩ => [.asks .registry, .takes .registry]
  | ⟨.listeners, _⟩ => [.copies]
  | ⟨.unlockListeners, _⟩ => [.drops .registry]
  | e => if e.readsFile then [.reads] else if e.callsOut then [.calls] else []

end Program.Exchange

namespace Trace

/-- What is done about locks in a trace. -/
def deeds (t : Trace) : List Deed := t.flatMap Exchange.deeds

/-- The locks in hand after these deeds. -/
def guards (held : List Guard) (ds : List Deed) : List Guard := ds.foldl Deed.after held

/-- Is everything done with the right locks in hand? -/
def Lawful (held : List Guard) : List Deed → Prop
  | [] => True
  | d :: rest => d.Fits held ∧ Lawful (d.after held) rest

/-- A trace in which everything is done with the right locks in hand, and after which there are the
same in hand as before. -/
structure Tidy (held : List Guard) (t : Trace) : Prop where
  lawful : Lawful held (deeds t)
  ends : guards held (deeds t) = held

variable {held : List Guard} {t t₁ t₂ : Trace} {a b : List Deed} {cs : List Concern}

/-- The locks in hand after two lists of deeds. -/
theorem guards_append : guards held (a ++ b) = guards (guards held a) b :=
  List.foldl_append

/-- What is done in two parts is lawful if each of the parts is. -/
theorem lawful_append : Lawful held (a ++ b) ↔ Lawful held a ∧ Lawful (guards held a) b := by
  induction a generalizing held with
  | nil => exact ⟨fun h => ⟨trivial, h⟩, And.right⟩
  | cons d rest ih =>
    change d.Fits held ∧ Lawful (d.after held) (rest ++ b) ↔
      (d.Fits held ∧ Lawful (d.after held) rest) ∧ Lawful (guards (d.after held) rest) b
    rw [ih, and_assoc]

/-- A trace that is put together from two. -/
theorem Tidy.append (h₁ : Tidy held t₁) (h₂ : Tidy held t₂) : Tidy held (t₁ ++ t₂) := by
  have parts : deeds (t₁ ++ t₂) = deeds t₁ ++ deeds t₂ := List.flatMap_append
  constructor
  · rw [parts, lawful_append, h₁.ends]
    exact ⟨h₁.lawful, h₂.lawful⟩
  · rw [parts, guards_append, h₁.ends, h₂.ends]

/-- A trace all of whose exchanges are tidy. -/
theorem tidy_of_forall (each : ∀ e ∈ t, Tidy held [e]) : Tidy held t := by
  induction t with
  | nil => exact ⟨trivial, rfl⟩
  | cons e rest ih =>
    obtain ⟨first, others⟩ := List.forall_mem_cons.1 each
    exact first.append (ih others)

/-- What may be asked about outside of all sections. -/
def outside : List Concern :=
  [.tree, .choice, .token, .tool, .listener, .user, .log, .phase, .call]

/-- Outside of all sections everything may be asked but what files hold and who listens. -/
theorem tidy_outside {e : Exchange} (asked : e.request.concern ∈ outside) : Tidy [] [e] := by
  obtain ⟨r, reply⟩ := e
  cases r with
  | lock | unlock | lockListeners | listeners | unlockListeners | currentText | diskText | encoding
      | createTemporary | writeTemporary | remove =>
    simp [outside, Request.concern] at asked
  | _ => exact ⟨by simp [deeds, Exchange.deeds, Lawful, Deed.Fits, Exchange.readsFile,
      Exchange.callsOut, Request.concern], rfl⟩

/-- Inside a section of the documents files are read and copies are made. -/
theorem tidy_inside {e : Exchange}
    (asked : e.request.concern ∈ [Concern.token, .text, .copy, .log]) :
    Tidy [.documents] [e] := by
  obtain ⟨r, reply⟩ := e
  cases r with
  | isCancelled | currentText | diskText | encoding | createTemporary | writeTemporary | remove
      | log =>
    exact ⟨by simp [deeds, Exchange.deeds, Lawful, Deed.Fits, Exchange.readsFile,
      Exchange.callsOut, Request.concern], rfl⟩
  | _ => simp [Request.concern] at asked

/-- To remove copies nothing has to be in hand. -/
theorem tidy_removes {e : Exchange} (removes : Snapshot.Removes e.request) : Tidy [] [e] := by
  obtain ⟨r, reply⟩ := e
  obtain ⟨asked, other⟩ := removes
  cases r with
  | encoding h => exact absurd rfl (other h)
  | createTemporary | writeTemporary | remove | log => exact ⟨trivial, rfl⟩
  | _ => simp [Request.concern] at asked

/-- To copy the list of listeners nothing has to be in hand. -/
theorem tidy_registering (ls : List Listener) : Tidy [] (registering ls) :=
  ⟨⟨rfl, rfl, rfl, rfl, trivial⟩, rfl⟩

/-- A section of the documents, however it ends. -/
theorem Tidy.section_ (inside : Tidy [.documents] t) (ended : Except Fault Unit) :
    Tidy [] (⟨.lock, .ok ()⟩ :: (t ++ [⟨.unlock, ended⟩])) := by
  have parts : deeds (⟨.lock, .ok ()⟩ :: (t ++ [⟨.unlock, ended⟩])) =
      .asks .documents :: .takes .documents :: (deeds t ++ [.drops .documents]) := by
    simp [deeds, Exchange.deeds]
  have before : Deed.after [] (.takes .documents) = [.documents] := rfl
  constructor
  · rw [parts]
    refine ⟨rfl, rfl, ?_⟩
    change Lawful (Deed.after [] (.takes .documents)) _
    rw [before, lawful_append, inside.ends]
    exact ⟨inside.lawful, rfl, trivial⟩
  · rw [parts]
    change guards (Deed.after [] (.takes .documents)) _ = []
    rw [before, guards_append, inside.ends]
    rfl

end Trace

/-- Whoever asks what a file holds does nothing else about locks. -/
theorem Program.Exchange.deeds_of_readsFile {e : Exchange} (reads : e.readsFile = true) :
    e.deeds = [.reads] := by
  obtain ⟨r, reply⟩ := e
  cases r with
  | currentText | diskText | encoding => rfl
  | _ => cases reads

/-- Whoever asks for the lock of the documents has no lock in hand if it is right to ask. -/
theorem Program.Exchange.fits_of_lock {e : Exchange} {held : List Guard}
    (asks : e.request = .lock) (lawful : Trace.Lawful held e.deeds) : held = [] := by
  obtain ⟨r, reply⟩ := e
  cases asks
  cases reply with
  | ok u => exact lawful.1
  | error fault => exact lawful.1

/-- Whoever calls somebody else does nothing about locks. -/
theorem Program.Exchange.deeds_of_callsOut {e : Exchange} (out : e.callsOut = true) :
    e.deeds = [.calls] := by
  obtain ⟨r, reply⟩ := e
  cases r with
  | pick | isFile | invoke | start | wait | collect | kill | tellStart | tellEnd | present => rfl
  | _ => cases out

/-- Whoever does nothing about the lock of the documents has it in hand afterwards if it was in hand
before. -/
theorem Program.Exchange.documents_mem_guards {e : Exchange} {held : List Guard}
    (asked : e.request.concern ≠ .lock) :
    .documents ∈ Trace.guards held e.deeds ↔ .documents ∈ held := by
  obtain ⟨r, reply⟩ := e
  cases r with
  | lock | unlock => exact absurd rfl asked
  | lockListeners => exact List.mem_cons.trans (or_iff_right nofun)
  | unlockListeners => exact List.mem_erase_of_ne nofun
  | _ => exact Iff.rfl

/-! ### The parts of a scan -/

open Trace

/-- All runs of the program are tidy. -/
def Program.TidyRuns {α : Type} (held : List Guard) (p : Program α) : Prop :=
  ∀ t a, Runs p t a → Tidy held t

namespace Program

variable {α β : Type} {held : List Guard}

/-- A program without requests. -/
theorem tidy_pure (a : α) : TidyRuns held (pure a : Program α) := by
  intro t b run
  obtain ⟨rfl, -⟩ := runs_pure.1 run
  exact ⟨trivial, rfl⟩

/-- A program whose requests are tidy one by one. -/
theorem AsksOnly.tidyRuns {S : Request → Prop} {p : Program α} (asks : AsksOnly S p)
    (each : ∀ e : Exchange, S e.request → Tidy held [e]) : TidyRuns held p := by
  intro t a run
  exact tidy_of_forall fun e he => each e (run.asksOnly asks e he)

/-- A program that asks nothing of a file, and for no lock. -/
theorem AsksOnly.tidyRuns_outside {cs : List Concern} {p : Program α} (asks : AsksAbout cs p)
    (hcs : (cs.all fun c => outside.elem c) = true) : TidyRuns [] p :=
  (asks.about hcs).tidyRuns fun _ asked => tidy_outside asked

/-- One request that asks nothing of a file, and for no lock. -/
theorem tidy_request (r : Request) (hr : outside.elem r.concern = true) :
    TidyRuns [] (request r) :=
  (asks_request r hr).tidyRuns_outside rfl

/-- One program after the other. -/
theorem TidyRuns.bind {p : Program α} {f : α → Program β} (hp : TidyRuns held p)
    (hf : ∀ a, TidyRuns held (f a)) : TidyRuns held (p >>= f) := by
  intro t b run
  obtain ⟨t₁, t₂, a, rfl, first, second⟩ := runs_bind.1 run
  exact (hp t₁ a first).append (hf a t₂ b second)

/-- One action after the other. -/
theorem TidyRuns.attempt_bind {a : Action α} {f : α → Action β} (ha : TidyRuns held a.attempt)
    (hf : ∀ x, TidyRuns held (f x).attempt) : TidyRuns held (a >>= f).attempt := by
  rw [Program.attempt_bind]
  refine ha.bind fun
    | .ok x => hf x
    | .error _ => tidy_pure _

end Program

open Program

/-- Snapshots are made in one section of the documents. -/
theorem Snapshot.tidy_makeAll (scratch : Option String) (cancellable : Bool)
    (handles : List Handle) : TidyRuns [] (makeAll scratch cancellable handles) := by
  intro t result run
  unfold makeAll at run
  obtain ⟨locked, t₁, rfl, making⟩ := runs_request_bind.1 run
  match locked with
  | .error fault =>
    obtain ⟨rfl, -⟩ := runs_pure.1 making
    exact ⟨⟨rfl, trivial⟩, rfl⟩
  | .ok () =>
    obtain ⟨t₂, t₃, ended, rfl, each, unlocking⟩ := runs_bind.1 making
    obtain ⟨unlocked, t₄, rfl, last⟩ := runs_request_bind.1 unlocking
    obtain ⟨rfl, -⟩ := runs_pure.1 last
    have inside := (makeEach_asks scratch cancellable [] handles).tidyRuns
      (fun _ asked => tidy_inside asked) t₂ ended each
    exact inside.section_ unlocked

/-- Lines are attributed in one section of the documents. -/
theorem Attribution.tidy_ofLines {setup : Setup} (documents : setup.withDocuments = true)
    (mapping : Table String Handle) (lines : List String) :
    TidyRuns [] (ofLines setup mapping lines).attempt := by
  intro t result run
  unfold ofLines at run
  dsimp only at run
  rw [if_pos documents] at run
  obtain ⟨locked, t₁, rfl, adding⟩ := runs_request_bind.1 run
  match locked with
  | .error fault =>
    obtain ⟨rfl, -⟩ := runs_pure.1 adding
    exact ⟨⟨rfl, trivial⟩, rfl⟩
  | .ok () =>
    obtain ⟨t₂, t₃, ended, rfl, each, unlocking⟩ := runs_bind.1 adding
    obtain ⟨unlocked, t₄, rfl, last⟩ := runs_request_bind.1 unlocking
    obtain ⟨rfl, -⟩ := runs_pure.1 last
    have inside := ((addLines_asks _ _ _ _ _).about rfl).tidyRuns
      (fun _ asked => tidy_inside asked) t₂ ended each
    exact inside.section_ unlocked

namespace Scan

/-- A check of snapshots runs the tool, and then reads texts in one section. -/
theorem tidy_check (scan : Scan) (id : String) (made : List Snapshot) :
    TidyRuns [] (scan.check id made).attempt := by
  unfold check
  refine TidyRuns.attempt_bind ((print_asks scan _).tidyRuns_outside rfl) fun lines => ?_
  unfold report
  refine TidyRuns.attempt_bind ((enter_asks _).tidyRuns_outside rfl) fun _ => ?_
  refine TidyRuns.attempt_bind ((checkCancelled_asks _).tidyRuns_outside rfl) fun _ => ?_
  refine TidyRuns.attempt_bind (Attribution.tidy_ofLines rfl _ _) fun problems => ?_
  exact tidy_pure _

/-- The list of listeners is copied in one section of its own. -/
theorem tidy_listeners : TidyRuns [] listeners.attempt := by
  intro t result run
  obtain ⟨ls, rfl, copying⟩ := runs_attempt_ofTotal.1 run
  obtain rfl := runs_registered.1 copying
  exact tidy_registering ls

/-- The start of a scan copies the list of listeners before it tells them. -/
theorem tidy_start (scan : Scan) : TidyRuns [] scan.start.attempt := by
  unfold start
  refine TidyRuns.attempt_bind ((enter_asks _).tidyRuns_outside rfl) fun _ => ?_
  refine TidyRuns.attempt_bind ((checkCancelled_asks _).tidyRuns_outside rfl) fun _ => ?_
  refine TidyRuns.attempt_bind ((resolveFiles_asks scan).tidyRuns_outside rfl) fun files => ?_
  refine TidyRuns.attempt_bind tidy_listeners fun ls => ?_
  exact TidyRuns.attempt_bind ((tellStart_asks files ls).tidyRuns_outside rfl) fun _ => tidy_pure _

/-- So does the telling of an outcome. -/
theorem tidy_announce (outcome : Outcome) : TidyRuns [] (announce outcome).attempt := by
  have tell (ending : Ending) :
      TidyRuns [] (do tellEnd ending (← listeners) : Action Unit).attempt :=
    TidyRuns.attempt_bind tidy_listeners fun ls => (tellEnd_asks ending ls).tidyRuns_outside rfl
  unfold announce
  cases outcome with
  | failed id error =>
    refine TidyRuns.attempt_bind ((enter_asks _).tidyRuns_outside rfl) fun _ => ?_
    refine TidyRuns.attempt_bind ((AsksOnly.ofTotal (logLine_asks _ _ _)).tidyRuns_outside rfl)
      fun _ => ?_
    exact TidyRuns.attempt_bind ((ofFault_asks error).tidyRuns_outside rfl) fun _ => tell _
  | cancelled | success =>
    exact TidyRuns.attempt_bind ((enter_asks _).tidyRuns_outside rfl) fun _ => tell _

/-- Everything up to the report is done with the right locks in hand. -/
theorem tidy_perform (scan : Scan) (id : String) : TidyRuns [] (scan.perform id) := by
  unfold perform
  refine TidyRuns.bind (tidy_start scan) fun
    | .error fault => tidy_pure _
    | .ok [] => tidy_pure _
    | .ok (h :: rest) => ?_
  refine TidyRuns.bind (tidy_request _ rfl) fun _ => ?_
  refine TidyRuns.bind (Snapshot.tidy_makeAll _ _ _) fun
    | (made, .error fault) => tidy_pure _
    | (made, .ok ()) => ?_
  exact TidyRuns.bind (tidy_check scan id made) fun _ => tidy_pure _

/-- And everything up to the outcome, with the copies removed. -/
theorem tidy_obtain (scan : Scan) (id : String) : TidyRuns [] (scan.obtain id).attempt := by
  unfold obtain
  refine TidyRuns.bind (tidy_perform scan id) fun (made, result) => ?_
  refine TidyRuns.bind ((Snapshot.deleteAll_removes made).tidyRuns fun _ => tidy_removes) fun
    | .error fault => tidy_pure _
    | .ok () => tidy_pure _

/-- A scan does everything with the right locks in hand, and has none in hand at the end. -/
theorem tidy_run (scan : Scan) : TidyRuns [] scan.run := by
  unfold Scan.run
  refine TidyRuns.bind (tidy_request _ rfl) fun id => ?_
  refine TidyRuns.bind (tidy_obtain scan id) fun
    | .error fault => ?_
    | .ok outcome => ?_
  · exact TidyRuns.bind (tidy_request _ rfl) fun _ => tidy_pure _
  · refine TidyRuns.bind (tidy_request _ rfl) fun _ => ?_
    refine TidyRuns.bind (tidy_announce outcome) fun told => ?_
    exact TidyRuns.bind (tidy_request _ rfl) fun _ => tidy_pure _

end Scan

/-! ### The lock of the documents while a scan runs -/

namespace Lock

variable {θ : Type} [DecidableEq θ] {me : θ} {l l' m : Lock θ} {t : Trace} {e : Exchange}

/-- Another thread does something under the mutex. -/
def Others (me : θ) (l l' : Lock θ) : Prop := ∃ t, t ≠ me ∧ Moves t l l'

/-- A thread wants to read, and others are about: it looks as often as it likes. -/
def Asks (me : θ) : Lock θ → Lock θ → Prop :=
  Relation.ReflTransGen fun l l' => Others me l l' ∨ Looks me l l'

/-- How the lock goes on during an exchange of a thread. -/
inductive Goes (me : θ) : Lock θ → Exchange → Lock θ → Prop where
  /-- The thread asks until it is inside. -/
  | enters {l m : Lock θ} (outside : l.stance? me = none) (asks : Asks me l m)
      (reads : m.stance? me = some .reading) : Goes me l ⟨.lock, .ok ()⟩ m
  /-- The thread is interrupted before it gets inside, and waits no longer. -/
  | givesUp {l m : Lock θ} {fault : Fault} (outside : l.stance? me = none) (asks : Asks me l m)
      (waits : m.stance? me ≠ some .reading) : Goes me l ⟨.lock, .error fault⟩ (m.drop me)
  /-- The thread ends its section, and leaves whatever comes of it. -/
  | leaves {l : Lock θ} {reply : Except Fault Unit} : Goes me l ⟨.unlock, reply⟩ (l.leave me)
  /-- Somebody else is called, who may read and edit documents, on this thread and on others, and
  leaves their lock when he is done. -/
  | calls {l m : Lock θ} {e : Exchange} (out : e.callsOut = true)
      (moves : Relation.ReflTransGen (fun l l' => ∃ t, Moves t l l') l m)
      (back : m.stance? me = none) : Goes me l e m
  /-- Nothing is done at the lock. -/
  | other {l : Lock θ} {e : Exchange} (asked : e.request.concern ≠ .lock)
      (own : e.callsOut = false) : Goes me l e l

/-- How the lock goes on while a thread goes through a trace, and others come and go. -/
inductive Passes (me : θ) (l : Lock θ) : Trace → Lock θ → Prop where
  | refl : Passes me l [] l
  | others {t : Trace} {m l' : Lock θ} (passes : Passes me l t m) (others : Others me m l') :
      Passes me l t l'
  | goes {t : Trace} {e : Exchange} {m l' : Lock θ} (passes : Passes me l t m)
      (goes : Goes me m e l') : Passes me l (t ++ [e]) l'

/-- Where a thread stands that has these locks in hand. -/
structure Stands (me : θ) (held : List Guard) (l : Lock θ) : Prop where
  sound : l.Sound
  outside : .documents ∉ held → l.stance? me = none
  inside : .documents ∈ held → l.stance? me = some .reading

/-- A thread that has no lock in hand is outside. -/
theorem Stands.outside_of_nil {held : List Guard} (stands : Stands me held l)
    (bare : held = []) : l.stance? me = none := by
  subst bare
  exact stands.outside List.not_mem_nil

/-- Whatever threads do, the lock stays in order. -/
theorem Sound.moves (h : Sound l)
    (moves : Relation.ReflTransGen (fun l l' => ∃ t, Moves t l l') l m) : Sound m := by
  induction moves with
  | refl => exact h
  | tail _ move ih =>
    obtain ⟨t, moves⟩ := move
    exact ih.step moves.step

/-- A thread that asks does so under the mutex. -/
theorem Asks.moves (asks : Asks me l m) :
    Relation.ReflTransGen (fun l l' => ∃ t, Moves t l l') l m := by
  refine Relation.ReflTransGen.mono (fun _ _ step => ?_) _ _ asks
  rcases step with ⟨t, -, moves⟩ | looks
  · exact ⟨t, moves⟩
  · exact ⟨me, looks.moves.1⟩

/-- A thread that was outside and asks to read has nothing to do with writing. -/
theorem Asks.stance (asks : Asks me l m) (outside : l.stance? me = none) :
    m.stance? me = none ∨ m.stance? me = some .reading ∨ m.stance? me = some .readerAsleep ∨
      m.stance? me = some .readerAwake := by
  induction asks with
  | refl => exact .inl outside
  | tail _ step ih =>
    rcases step with ⟨t, other, moves⟩ | looks
    · rcases moves.undisturbed (Ne.symm other) with same | woken
      · rw [same]
        exact ih
      · rw [woken]
        rcases ih with h | h | h | h <;> simp [h, Stance.woken]
    · rcases looks.stance with h | h <;> simp [h]

/-- A thread that gives up leaves the lock in order. -/
theorem Asks.sound_drop (asks : Asks me l m) (outside : l.stance? me = none) (sound : m.Sound)
    (waits : m.stance? me ≠ some .reading) : (m.drop me).Sound := by
  rcases asks.stance outside with h | h | h | h
  · exact sound.dropped rfl (by rw [h]; rfl) (by rw [h]; rfl) (by rw [h]; rfl) sound.alone
  · exact absurd h waits
  · exact sound.dropped rfl (by rw [h]; rfl) (by rw [h]; rfl) (by rw [h]; rfl) sound.alone
  · exact sound.dropped rfl (by rw [h]; rfl) (by rw [h]; rfl) (by rw [h]; rfl) sound.alone

/-- What others do leaves a thread where it stands. -/
theorem Stands.others {held : List Guard} (stands : Stands me held l) (others : Others me l l') :
    Stands me held l' := by
  obtain ⟨t, other, moves⟩ := others
  have undisturbed := moves.undisturbed (Ne.symm other)
  exact ⟨stands.sound.step moves.step, fun none_ => undisturbed.none_iff.2 (stands.outside none_),
    fun held => undisturbed.reading_iff.2 (stands.inside held)⟩

/-- A thread that does what is right stands where the locks in its hand say. -/
theorem Stands.goes {held : List Guard} (stands : Stands me held l)
    (lawful : Trace.Lawful held e.deeds) (goes : Goes me l e l') :
    Stands me (Trace.guards held e.deeds) l' := by
  cases goes with
  | enters outside asks reads =>
    obtain ⟨rfl, -⟩ := lawful
    exact ⟨stands.sound.moves asks.moves, nofun, fun _ => reads⟩
  | @givesUp m fault outside asks waits =>
    have sound := asks.sound_drop outside (stands.sound.moves asks.moves) waits
    refine ⟨sound, fun _ => by rw [stance?_drop, if_pos rfl], fun inside => ?_⟩
    exact nomatch outside.symm.trans (stands.inside inside)
  | leaves =>
    obtain ⟨rfl, -⟩ := lawful
    exact ⟨stands.sound.leave me, fun _ => stance?_leave_self (stands.inside List.mem_cons_self),
      nofun⟩
  | calls out moves back =>
    rw [Exchange.deeds_of_callsOut out] at lawful ⊢
    obtain ⟨rfl, -⟩ := lawful
    exact ⟨stands.sound.moves moves, fun _ => back, nofun⟩
  | other asked own =>
    have same : .documents ∈ Trace.guards held e.deeds ↔ .documents ∈ held :=
      Exchange.documents_mem_guards asked
    exact ⟨stands.sound, fun none_ => stands.outside fun mem => none_ (same.2 mem),
      fun inside => stands.inside (same.1 inside)⟩

/-- While a thread goes through a trace it stands where the locks in its hand say. -/
theorem Passes.stands (passes : Passes me l t m) (sound : l.Sound) (outside : l.stance? me = none)
    (lawful : Trace.Lawful [] (Trace.deeds t)) : Stands me (Trace.guards [] (Trace.deeds t)) m := by
  induction passes with
  | refl => exact ⟨sound, fun _ => outside, fun h => nomatch h⟩
  | others _ others ih => exact (ih lawful).others others
  | @goes t e m l' _ goes ih =>
    have parts : Trace.deeds (t ++ [e]) = Trace.deeds t ++ e.deeds := by
      simp [Trace.deeds]
    rw [parts, Trace.lawful_append] at lawful
    rw [parts, Trace.guards_append]
    exact (ih lawful.1).goes lawful.2 goes

end Lock

/-! ### The discipline of a scan -/

namespace Scan

variable {scan : Scan} {t : Trace} {r : Except Fault Report}

/-- A scan takes its locks one at a time, reads files with the lock of the documents in hand, calls
the tool, listeners and the user with none, and has none in hand at the end.  While it runs among
other threads it is inside the lock of the documents whenever it reads, and outside whenever it asks
for the lock or calls somebody: whoever is called and edits has nobody to wait for but others.  At
the end it is outside, and the counter of the readers is what the others make it. -/
theorem lock_discipline (run : Runs scan.run t r) :
    (∀ a d b, Trace.deeds t = a ++ d :: b → d.Fits (Trace.guards [] a)) ∧
    Trace.guards [] (Trace.deeds t) = [] ∧
    ∀ (θ : Type) [DecidableEq θ] (me : θ) (l : Lock θ), l.Sound → l.stance? me = none →
      (∀ a e b m, t = a ++ e :: b → Lock.Passes me l a m →
        (e.readsFile = true → m.stance? me = some .reading) ∧
        (e.request = .lock → m.stance? me = none ∧
          (m.holding = [] → m.writersWaiting = 0 →
            (m.askRead me).stance? me = some .reading)) ∧
        (e.callsOut = true → m.stance? me = none ∧ me ∉ m.holding ∧
          (m.holding = [] → (m.askWrite me).stance? me = some .writing))) ∧
      ∀ l', Lock.Passes me l t l' → l'.Sound ∧ l'.stance? me = none ∧
        ((∀ t', t' ≠ me → (l'.stance? t' = some .reading ↔ l.stance? t' = some .reading)) →
          l'.readers = l.readers) := by
  obtain ⟨lawful, ends⟩ := tidy_run scan t r run
  refine ⟨?fits, ends, fun θ _ me l sound outside => ⟨?during, ?after⟩⟩
  case fits =>
    intro a d b parts
    rw [parts, Trace.lawful_append] at lawful
    exact lawful.2.1
  case during =>
    rintro a e b m rfl passes
    have parts : Trace.deeds (a ++ e :: b) = Trace.deeds a ++ (e.deeds ++ Trace.deeds b) := by
      simp [Trace.deeds]
    rw [parts, Trace.lawful_append, Trace.lawful_append] at lawful
    have stands := passes.stands sound outside lawful.1
    have now := lawful.2.1
    refine ⟨fun reads => ?_, fun asks => ?_, fun out => ?_⟩
    · rw [Exchange.deeds_of_readsFile reads] at now
      exact stands.inside (now.1 ▸ List.mem_cons_self)
    · have none_ := stands.outside_of_nil (Exchange.fits_of_lock asks now)
      exact ⟨none_, Lock.askRead_enters stands.sound⟩
    · rw [Exchange.deeds_of_callsOut out] at now
      have none_ := stands.outside_of_nil now.1
      exact ⟨none_, Lock.not_mem_holding none_, Lock.askWrite_enters stands.sound⟩
  case after =>
    intro l' passes
    have stands := passes.stands sound outside lawful
    have none_ := stands.outside_of_nil ends
    refine ⟨stands.sound, none_, fun same => sound.readers_eq stands.sound fun t' => ?_⟩
    by_cases own : t' = me
    · subst own
      rw [none_, outside]
    · exact same t' own

end Scan

/-! ### Edits on the thread of a scan -/

namespace Lock

variable {θ : Type} [DecidableEq θ] {me : θ} {l l' : Lock θ} {t : Trace} {e : Exchange}

/-- The lock goes on while nobody else is about; but whoever is called edits on this very thread. -/
def goOn? (me : θ) (l : Lock θ) (e : Exchange) : Option (Lock θ) :=
  match e with
  | ⟨.lock, .ok ()⟩ =>
    if l.stance? me = none ∧ (l.askRead me).stance? me = some .reading then some (l.askRead me)
    else none
  | ⟨.lock, .error _⟩ => none
  | ⟨.unlock, _⟩ => some (l.leave me)
  | e =>
    if e.callsOut then
      if l.stance? me = none ∧ ((l.askWrite me).leave me).stance? me = none then
        some ((l.askWrite me).leave me)
      else none
    else some l

/-- That is a way for the lock to go on. -/
theorem goes_of_goOn? (went : goOn? me l e = some l') : Goes me l e l' := by
  unfold goOn? at went
  split at went
  · obtain ⟨⟨outside, reads⟩, same⟩ := Option.ite_none_right_eq_some.1 went
    cases same
    exact .enters outside (.single (.inr (.first outside))) reads
  · cases went
  · cases went
    exact .leaves
  · next no_ok no_error no_unlock =>
    split at went
    · next out =>
      obtain ⟨⟨outside, back⟩, same⟩ := Option.ite_none_right_eq_some.1 went
      cases same
      have asked : Moves me l (l.askWrite me) := .askWrite outside
      exact .calls out (.tail (.single ⟨me, asked⟩) ⟨me, .leave _⟩) back
    · next own =>
      cases went
      refine .other (fun asked => ?_) (Bool.eq_false_iff.2 own)
      obtain ⟨r, reply⟩ := e
      cases r with
      | lock =>
        cases reply with
        | ok u => exact no_ok rfl
        | error fault => exact no_error fault rfl
      | unlock => exact no_unlock reply rfl
      | _ => cases asked

/-- The same for a whole trace. -/
theorem passes_of_foldlM (went : t.foldlM (goOn? me) l = some l') : Passes me l t l' := by
  suffices ∀ (t₀ : Trace) (m : Lock θ), Passes me l t₀ m → t.foldlM (goOn? me) m = some l' →
      Passes me l (t₀ ++ t) l' from this [] l .refl went
  clear went
  induction t with
  | nil =>
    intro t₀ m passes went
    cases went
    rwa [List.append_nil]
  | cons e rest ih =>
    intro t₀ m passes went
    rw [List.foldlM_cons] at went
    obtain ⟨n, first, others⟩ := Option.bind_eq_some_iff.1 went
    have next := ih (t₀ ++ [e]) n (passes.goes (goes_of_goOn? first)) others
    rwa [List.append_assoc] at next

end Lock

namespace Scan

/-- A scan whose runner and listeners edit on its own thread, and whose last listener fails: it
reads, copies the list of listeners and calls, and in the end nobody holds the lock of the
documents. -/
theorem edits_on_own_thread :
    ∃ t r l', Runs (provided twoHandles).run t r ∧ Lock.Passes 0 ({} : Lock Nat) t l' ∧
      (∃ e ∈ t, e.readsFile = true) ∧ .copies ∈ Trace.deeds t ∧ (∃ e ∈ t, e.callsOut = true) ∧
      l'.Sound ∧ l'.stance? 0 = none ∧ l'.readers = 0 := by
  have run := Program.runs_record (Workspace.reply exhausted) (twoBefore false)
    (provided twoHandles).run
  have went : ((Program.record (Workspace.reply exhausted) (twoBefore false)
      (provided twoHandles).run).1.foldlM (Lock.goOn? 0) ({} : Lock Nat)) = some {} := by
    decide +kernel
  have reads : ∃ e ∈ (Program.record (Workspace.reply exhausted) (twoBefore false)
      (provided twoHandles).run).1, e.readsFile = true := by
    decide +kernel
  have copies : .copies ∈ Trace.deeds (Program.record (Workspace.reply exhausted)
      (twoBefore false) (provided twoHandles).run).1 := by
    decide +kernel
  have calls : ∃ e ∈ (Program.record (Workspace.reply exhausted) (twoBefore false)
      (provided twoHandles).run).1, e.callsOut = true := by
    decide +kernel
  generalize Program.record (Workspace.reply exhausted) (twoBefore false)
    (provided twoHandles).run = recorded at run went reads copies calls
  obtain ⟨t, r, v⟩ := recorded
  have passes := Lock.passes_of_foldlM went
  obtain ⟨-, -, discipline⟩ := lock_discipline run
  obtain ⟨-, after⟩ := discipline Nat 0 {} (Lock.Reachable.sound .refl) rfl
  obtain ⟨sound, outside, readers⟩ := after {} passes
  exact ⟨t, r, {}, run, passes, reads, copies, calls, sound, outside, readers fun _ _ => Iff.rfl⟩

end Scan

end LiveCheck
