import Mathlib.Data.List.Induction
import Mathlib.Data.List.Nodup
import LiveCheck.Proofs.CommandLine.Recording
import LiveCheck.Proofs.Scan.Firing
import LiveCheck.Service

/-!
# Listeners are isolated from each other

The registry of a scan holds every listener once, in the order in which they came, however often
they are added and removed (`pair_sublist_registry_iff`).  Whenever something happens, all who are
registered are told in this order.

A listener may fail while it is told, and so may the display.  Two calls of a scan that differ in
this alone have the same outline: what is left of a trace when nobody reads the log or hears how
listeners and the display answered.  The outline carries the argument.  The surroundings answer
what they answer after an outline, and a program is steady if its runs in the same surroundings have
the same outline and the same result.  Programs that ask neither listeners nor the display are
steady, sequences of steady programs are, and a telling is, since its outline is the list of those
who are told.

One thing goes from listener to listener: the list of the files that a scan starts with.  It is one
list for all of them, and whoever changes it changes it for those who come next.  So the outline
leaves it out, and the lists that are told are compared apart (`Alike`).  They are the same if every
listener, whether it fails or not, leaves the same list.
-/

namespace LiveCheck

open Program (Exchange Runs AsksOnly)

/-! ### The registry -/

/-- A change of the registry. -/
inductive Registration where
  | add (l : Listener)
  | remove (l : Listener)
deriving DecidableEq

/-- The registry after a change. -/
def Registration.applied (ls : List Listener) : Registration → List Listener
  | add l => Service.withListener ls l
  | remove l => ls.erase l

/-- The registry after some changes, where it is empty at first. -/
def registry (changes : List Registration) : List Listener :=
  changes.foldl Registration.applied []

/-- There was a moment when the first listener was registered and the second one was not, and since
then the first one has not been removed. -/
def CameFirst (changes : List Registration) (l l' : Listener) : Prop :=
  ∃ before after, changes = before ++ after ∧ l ∈ registry before ∧ l' ∉ registry before ∧
    .remove l ∉ after

section Registry

variable {changes before after : List Registration} {c : Registration} {l l' : Listener}

/-- The registry after somebody is added. -/
theorem registry_append_add : registry (changes ++ [.add l]) =
    if l ∈ registry changes then registry changes else registry changes ++ [l] := by
  unfold registry
  rw [List.foldl_append]
  rfl

/-- The registry after somebody is removed. -/
theorem registry_append_remove :
    registry (changes ++ [.remove l]) = (registry changes).erase l := by
  unfold registry
  rw [List.foldl_append]
  rfl

/-- Nobody is registered twice. -/
theorem nodup_registry (changes : List Registration) : (registry changes).Nodup := by
  induction changes using List.reverseRecOn with
  | nil => exact List.nodup_nil
  | append_singleton changes c ih =>
    cases c with
    | add l =>
      rw [registry_append_add]
      split
      · exact ih
      · next new => exact ih.append (List.nodup_singleton l) (List.disjoint_singleton.2 new)
    | remove l =>
      rw [registry_append_remove]
      exact ih.erase l

/-- Who is registered after one more change. -/
theorem mem_registry_append_singleton :
    l ∈ registry (changes ++ [c]) ↔ c = .add l ∨ l ∈ registry changes ∧ c ≠ .remove l := by
  cases c with
  | add l' =>
    rw [registry_append_add]
    grind
  | remove l' =>
    rw [registry_append_remove, (nodup_registry changes).mem_erase_iff]
    grind

/-- Those are registered who were added and not removed since. -/
theorem mem_registry_iff :
    l ∈ registry changes ↔
      ∃ before after, changes = before ++ .add l :: after ∧ .remove l ∉ after := by
  induction changes using List.reverseRecOn with
  | nil => exact iff_of_false List.not_mem_nil (by simp)
  | append_singleton changes c ih =>
    rw [mem_registry_append_singleton, ih]
    constructor
    · rintro (rfl | ⟨⟨before, after, rfl, kept⟩, other⟩)
      · exact ⟨changes, [], rfl, List.not_mem_nil⟩
      · exact ⟨before, after ++ [c], by simp, by simpa [kept] using other.symm⟩
    · rintro ⟨before, after, same, kept⟩
      induction after using List.reverseRecOn with
      | nil =>
        obtain ⟨-, last⟩ := List.append_inj' same rfl
        exact .inl (List.cons.inj last).1
      | append_singleton after d _ =>
        rw [← List.cons_append, ← List.append_assoc] at same
        obtain ⟨rfl, last⟩ := List.append_inj' same rfl
        obtain ⟨rfl, -⟩ := List.cons.inj last
        rw [List.mem_append, List.mem_singleton, not_or] at kept
        exact .inr ⟨⟨before, after, rfl, kept.1⟩, kept.2 ∘ Eq.symm⟩

/-- Who is not removed stays registered. -/
theorem mem_registry_append (mem : l ∈ registry before) (kept : .remove l ∉ after) :
    l ∈ registry (before ++ after) := by
  obtain ⟨a, b, rfl, kept'⟩ := mem_registry_iff.1 mem
  exact mem_registry_iff.2 ⟨a, b ++ after, by simp, by simp [kept, kept']⟩

/-- Whoever came first is registered. -/
theorem CameFirst.mem (first : CameFirst changes l l') : l ∈ registry changes := by
  obtain ⟨before, after, rfl, there, -, kept⟩ := first
  exact mem_registry_append there kept

/-- One change more does not make anybody first among those who are registered. -/
theorem cameFirst_append_singleton (mem : l' ∈ registry (changes ++ [c])) :
    CameFirst (changes ++ [c]) l l' ↔ CameFirst changes l l' ∧ c ≠ .remove l := by
  constructor
  · rintro ⟨before, after, same, there, absent, kept⟩
    induction after using List.reverseRecOn with
    | nil =>
      rw [List.append_nil] at same
      exact absurd (same ▸ mem) absent
    | append_singleton after d _ =>
      rw [← List.append_assoc] at same
      obtain ⟨rfl, last⟩ := List.append_inj' same rfl
      obtain ⟨rfl, -⟩ := List.cons.inj last
      rw [List.mem_append, List.mem_singleton, not_or] at kept
      exact ⟨⟨before, after, rfl, there, absent, kept.1⟩, kept.2 ∘ Eq.symm⟩
  · rintro ⟨⟨before, after, rfl, there, absent, kept⟩, other⟩
    exact ⟨before, after ++ [c], by simp, there, absent, by simpa [kept] using other.symm⟩

/-- Where two stand in a list with one more at its end. -/
theorem pair_sublist_append_singleton {ls : List Listener} {k : Listener} :
    [l, l'].Sublist (ls ++ [k]) ↔ [l, l'].Sublist ls ∨ l ∈ ls ∧ l' = k := by
  constructor
  · intro sub
    obtain ⟨first, last, same, sub₁, sub₂⟩ := List.sublist_append_iff.1 sub
    rcases List.sublist_singleton.1 sub₂ with rfl | rfl
    · rw [List.append_nil] at same
      exact .inl (same ▸ sub₁)
    · have cut : [l] ++ [l'] = first ++ [k] := same
      obtain ⟨rfl, last⟩ := List.append_inj' cut rfl
      exact .inr ⟨List.singleton_sublist.1 sub₁, (List.cons.inj last).1⟩
  · rintro (sub | ⟨mem, rfl⟩)
    · exact sub.trans (List.sublist_append_left ls [k])
    · exact (List.singleton_sublist.2 mem).append (List.Sublist.refl [l'])

/-- In the registry one listener stands before another if it came first. -/
theorem pair_sublist_registry_iff :
    [l, l'].Sublist (registry changes) ↔ l' ∈ registry changes ∧ CameFirst changes l l' := by
  induction changes using List.reverseRecOn with
  | nil => exact iff_of_false (by simp [registry]) (by simp [registry])
  | append_singleton changes c ih =>
    by_cases mem : l' ∈ registry (changes ++ [c])
    swap
    · exact iff_of_false (fun sub => mem (sub.subset (by simp))) fun both => mem both.1
    rw [cameFirst_append_singleton mem, and_iff_right mem]
    cases c with
    | add k =>
      rw [and_iff_left (by simp), registry_append_add]
      split
      · next there =>
        have mem' : l' ∈ registry changes := by
          rcases mem_registry_append_singleton.1 mem with same | ⟨before, -⟩
          · cases same
            exact there
          · exact before
        rw [ih, and_iff_right mem']
      · next new =>
        rw [pair_sublist_append_singleton, ih]
        constructor
        · rintro (⟨-, first⟩ | ⟨there, rfl⟩)
          · exact first
          · exact ⟨changes, [], (List.append_nil _).symm, there, new, List.not_mem_nil⟩
        · intro first
          rcases mem_registry_append_singleton.1 mem with same | ⟨before, -⟩
          · cases same
            exact .inr ⟨first.mem, rfl⟩
          · exact .inl ⟨before, first⟩
    | remove k =>
      obtain added | ⟨mem', other'⟩ := mem_registry_append_singleton.1 mem
      · cases added
      rw [registry_append_remove, (nodup_registry changes).erase_eq_filter]
      constructor
      · intro sub
        refine ⟨(ih.1 (sub.trans List.filter_sublist)).2, ?_⟩
        rintro same
        cases same
        have kept := (List.mem_filter.1 (sub.subset (List.mem_cons_self))).2
        simp at kept
      · rintro ⟨first, other⟩
        have all : [l, l'].filter (· != k) = [l, l'] := by grind
        rw [← all]
        exact (ih.2 ⟨mem', first⟩).filter _

end Registry

/-! ### Outlines -/

namespace Program.Exchange

/-- An exchange for somebody who neither reads the log nor hears how listeners and the display
answer, nor which list listeners are told. -/
def outline? : Exchange → Option Exchange
  | ⟨.log _, _⟩ => none
  | ⟨.tellStart l _, _⟩ => some ⟨.tellStart l [], ([], .ok ())⟩
  | ⟨.tellEnd l ending, _⟩ => some ⟨.tellEnd l ending, .ok ()⟩
  | ⟨.present title message error, _⟩ => some ⟨.present title message error, .ok ()⟩
  | e => some e

/-- Does the scan go on after this?  It does not after a fault of a listener that leaves the scan,
or a fault of the display that ends the program. -/
def isBearable : Exchange → Bool
  | ⟨.tellStart _ _, (_, .error fault)⟩ => !fault.leaves
  | ⟨.tellEnd _ _, .error fault⟩ => !fault.leaves
  | ⟨.present _ _ _, .error fault⟩ => !fault.isFatal
  | _ => true

end Program.Exchange

/-- The event that a listener is told. -/
def Sight.told? : Sight → Option (Listener × Scan.Event)
  | started l _ => some (l, .starting)
  | ended l ending => some (l, Scan.eventOf ending)
  | _ => none

/-- The start that a listener is told of, with the files. -/
def Sight.start? : Sight → Option (Listener × List Handle)
  | started l files => some (l, files)
  | _ => none

/-- Surroundings that answer a request after what has been outlined so far. -/
abbrev Surroundings := Trace → (r : Request) → r.Reply

namespace Trace

/-- The outline of a trace. -/
def outline (t : Trace) : Trace := t.filterMap Exchange.outline?

/-- Who is told of which events, in order. -/
def told (t : Trace) : List (Listener × Scan.Event) := (sights t).filterMap Sight.told?

/-- The events that a listener is told, in order. -/
def eventsFor (l : Listener) (t : Trace) : List Scan.Event :=
  (told t).filterMap fun x => if x.1 = l then some x.2 else none

/-- In outline the requests of a trace are answered by the surroundings, after this outline. -/
def Answered (s : Surroundings) (past : Trace) : Trace → Prop
  | [] => True
  | e :: t => e.outline? = Exchange.outline? ⟨e.request, s past e.request⟩ ∧
      Answered s (past ++ e.outline?.toList) t

/-- Whatever list of files a listener is told, it leaves the same list in both traces. -/
def SameLists (t t' : Trace) : Prop :=
  ∀ l files reply reply', ⟨.tellStart l files, reply⟩ ∈ t → ⟨.tellStart l files, reply'⟩ ∈ t' →
    reply.1 = reply'.1

/-- Two traces have the same outline, and listeners are told of the same files if they leave the
same lists. -/
structure Alike (t t' : Trace) : Prop where
  outline_eq : outline t = outline t'
  started_eq : SameLists t t' → started t = started t'

variable {s : Surroundings} {past t t₁ t₂ t₁' t₂' : Trace}

/-- Who is told that a scan starts. -/
theorem started_eq_filterMap (t : Trace) : started t = (sights t).filterMap Sight.start? :=
  List.filterMap_congr fun sight _ => by cases sight <;> rfl

/-- The outline of two traces one after the other. -/
theorem outline_append : outline (t₁ ++ t₂) = outline t₁ ++ outline t₂ := List.filterMap_append

/-- The surroundings answer two traces one after the other. -/
theorem answered_append :
    Answered s past (t₁ ++ t₂) ↔ Answered s past t₁ ∧ Answered s (past ++ outline t₁) t₂ := by
  induction t₁ generalizing past with
  | nil =>
    change _ ↔ True ∧ Answered s (past ++ []) t₂
    rw [List.append_nil, true_and]
    rfl
  | cons e rest ih =>
    have cut : outline (e :: rest) = e.outline?.toList ++ outline rest := by
      unfold outline
      rw [List.filterMap_cons]
      cases e.outline? <;> rfl
    change _ ∧ Answered s _ (rest ++ t₂) ↔ (_ ∧ Answered s _ rest) ∧ _
    rw [ih, and_assoc, cut, List.append_assoc]

/-- Where the surroundings always give the same registry, nobody else is registered. -/
theorem Answered.registered {ls : List Listener} (answered : Answered s past t)
    (same : ∀ past, s past .listeners = ls) : ∀ ls', ⟨.listeners, ls'⟩ ∈ t → ls' = ls := by
  induction t generalizing past with
  | nil => exact nofun
  | cons e rest ih =>
    intro ls' mem
    rcases List.mem_cons.1 mem with rfl | later
    · have asked := (Exchange.mk.inj (Option.some.inj answered.1)).2
      exact (eq_of_heq asked).trans (same past)
    · exact ih answered.2 ls' later

/-- Every failure in surroundings leaves a trace that they answer in outline. -/
theorem answered_record {α : Type} {s failing : Surroundings}
    (agree : ∀ past r, Exchange.outline? ⟨r, failing past r⟩ = Exchange.outline? ⟨r, s past r⟩)
    (past : Trace) (p : Program α) :
    Answered s past (Program.record (fun past r =>
      (failing past r, past ++ (Exchange.outline? ⟨r, failing past r⟩).toList)) past p).1 := by
  induction p generalizing past with
  | done a => trivial
  | ask r next ih => exact ⟨agree past r, ih _ _⟩

/-- What a listener is told of the start is among what all are told. -/
theorem startsFor_eq_filterMap (l : Listener) (t : Trace) :
    startsFor l t = (started t).filterMap fun x => if x.1 = l then some x.2 else none := by
  rw [started_eq_filterMap, List.filterMap_filterMap]
  exact List.filterMap_congr fun sight _ => by cases sight <;> rfl

/-- If events are told to all of some listeners, each of them is told all events, and nobody else
is told anything. -/
theorem eventsFor_of_told {fired : List Scan.Event} {ls : List Listener} (nodup : ls.Nodup)
    (all : told t = fired.flatMap fun event => ls.map fun l => (l, event)) (l : Listener) :
    eventsFor l t = if l ∈ ls then fired else [] := by
  have once (event : Scan.Event) :
      (ls.map fun l => (l, event)).filterMap (fun x => if x.1 = l then some x.2 else none) =
        if l ∈ ls then [event] else [] := by
    clear all
    induction ls with
    | nil => rfl
    | cons l' rest ih =>
      obtain ⟨new, nodup⟩ := List.nodup_cons.1 nodup
      rw [List.map_cons, List.filterMap_cons, ih nodup]
      by_cases same : l' = l
      · subst same
        simp [new]
      · simp [same, Ne.symm same]
  unfold eventsFor
  rw [all, List.filterMap_flatMap]
  split
  · next mem =>
    simp only [once, if_pos mem]
    exact List.flatMap_singleton' fired
  · next other =>
    simp only [once, if_neg other]
    exact List.flatMap_eq_nil_iff.2 fun _ _ => rfl

/-- A trace is like itself. -/
theorem alike_refl (t : Trace) : Alike t t := ⟨rfl, fun _ => rfl⟩

/-- Traces are alike if their parts are. -/
theorem Alike.append (h₁ : Alike t₁ t₁') (h₂ : Alike t₂ t₂') :
    Alike (t₁ ++ t₂) (t₁' ++ t₂') where
  outline_eq := by rw [outline_append, outline_append, h₁.outline_eq, h₂.outline_eq]
  started_eq same := by
    rw [started_append, started_append,
      h₁.started_eq fun l files reply reply' mem mem' =>
        same l files reply reply' (List.mem_append_left _ mem) (List.mem_append_left _ mem'),
      h₂.started_eq fun l files reply reply' mem mem' =>
        same l files reply reply' (List.mem_append_right _ mem) (List.mem_append_right _ mem')]

/-- What is said about a trace by its outline alone. -/
theorem filterMap_outline {α : Type} {f : Exchange → Option α}
    (same : ∀ e : Exchange, e.outline?.bind f = f e) (t : Trace) :
    (outline t).filterMap f = t.filterMap f := by
  unfold outline
  rw [List.filterMap_filterMap]
  exact congrArg (t.filterMap ·) (funext same)

/-- The outline says who is told of which events. -/
theorem told_outline (t : Trace) : told (outline t) = told t := by
  unfold told sights
  rw [List.filterMap_filterMap, List.filterMap_filterMap]
  exact filterMap_outline (fun ⟨r, reply⟩ => by cases r <;> rfl) t

/-- The outline says what listeners are told of the end. -/
theorem endsFor_outline (l : Listener) (t : Trace) : endsFor l (outline t) = endsFor l t := by
  unfold endsFor sights
  rw [List.filterMap_filterMap, List.filterMap_filterMap]
  exact filterMap_outline (fun ⟨r, reply⟩ => by cases r <;> rfl) t

/-- The outline says what is concluded. -/
theorem outcomes_outline (t : Trace) : outcomes (outline t) = outcomes t :=
  filterMap_outline (fun ⟨r, reply⟩ => by cases r <;> rfl) t

/-- Lines of the log are left out. -/
theorem About.outline_eq_nil (about : About [.log] t) : outline t = [] := by
  refine List.filterMap_eq_nil_iff.2 fun ⟨r, reply⟩ he => ?_
  have concern : r.concern = .log := List.mem_singleton.1 (about _ he)
  cases r with
  | log => rfl
  | _ => cases concern

end Trace

open Trace

/-! ### Steady programs -/

namespace Request

/-- Is nobody told or shown anything? -/
def isPlain : Request → Bool
  | tellStart _ _ | tellEnd _ _ | present _ _ _ => false
  | _ => true

/-- A request about something else than listeners and the user. -/
theorem isPlain_of_concern {r : Request} (listener : r.concern ≠ .listener)
    (user : r.concern ≠ .user) : r.isPlain = true := by
  cases r with
  | tellStart | tellEnd => exact absurd rfl listener
  | present => exact absurd rfl user
  | _ => rfl

end Request

namespace Program

variable {α β : Type}

/-- In the same surroundings all runs of the program in which nobody keeps it from going on are
alike and have the same result. -/
def Steady (p : Program α) : Prop :=
  ∀ s past t t' a a', Runs p t a → Runs p t' a' → Answered s past t → Answered s past t' →
    (∀ e ∈ t, e.isBearable = true) → (∀ e ∈ t', e.isBearable = true) → Alike t t' ∧ a = a'

/-- A result. -/
theorem steady_pure (a : α) : Steady (pure a : Program α) := by
  intro s past t t' b b' run run' _ _ _ _
  obtain ⟨rfl, rfl⟩ := runs_pure.1 run
  obtain ⟨rfl, rfl⟩ := runs_pure.1 run'
  exact ⟨alike_refl [], rfl⟩

/-- A sequence of steady programs. -/
theorem Steady.bind {p : Program α} {f : α → Program β} (hp : Steady p)
    (hf : ∀ a, Steady (f a)) : Steady (p >>= f) := by
  intro s past t t' b b' run run' answered answered' bearable bearable'
  obtain ⟨t₁, t₂, a, rfl, first, second⟩ := runs_bind.1 run
  obtain ⟨t₁', t₂', a', rfl, first', second'⟩ := runs_bind.1 run'
  obtain ⟨answered₁, answered₂⟩ := answered_append.1 answered
  obtain ⟨answered₁', answered₂'⟩ := answered_append.1 answered'
  obtain ⟨bearable₁, bearable₂⟩ := List.forall_mem_append.1 bearable
  obtain ⟨bearable₁', bearable₂'⟩ := List.forall_mem_append.1 bearable'
  obtain ⟨alike₁, rfl⟩ := hp s past _ _ _ _ first first' answered₁ answered₁' bearable₁ bearable₁'
  -- The second parts begin after the same outline.
  rw [← alike₁.outline_eq] at answered₂'
  obtain ⟨alike₂, rfl⟩ :=
    hf a s _ _ _ _ _ second second' answered₂ answered₂' bearable₂ bearable₂'
  exact ⟨alike₁.append alike₂, rfl⟩

/-- A single request by which nobody is told or shown anything. -/
theorem steady_request {r : Request} (plain : r.isPlain = true) : Steady (request r) := by
  intro s past t t' reply reply' run run' answered answered' _ _
  obtain rfl := runs_request.1 run
  obtain rfl := runs_request.1 run'
  have same : Exchange.outline? ⟨r, reply⟩ = Exchange.outline? ⟨r, reply'⟩ :=
    answered.1.trans answered'.1.symm
  have eq : reply = reply' := by
    cases r with
    | tellStart | tellEnd | present => cases plain
    | log => rfl
    | _ => exact eq_of_heq (Exchange.mk.inj (Option.some.inj same)).2
  subst eq
  exact ⟨alike_refl _, rfl⟩

/-- A program that tells and shows nobody anything. -/
theorem AsksOnly.steady {p : Program α} (asks : AsksOnly (fun r => r.isPlain = true) p) :
    Steady p := by
  induction asks with
  | done a => exact steady_pure a
  | @ask r next plain _ ih => exact (steady_request plain).bind ih

/-- A program that asks about other things than listeners and the user. -/
theorem steady_of_asksAbout {cs : List Concern} {p : Program α} (asks : AsksAbout cs p)
    (other : ∀ c ∈ [Concern.listener, .user], c ∉ cs) : Steady p := by
  refine (asks.mono fun r concern => Request.isPlain_of_concern ?_ ?_).steady
  · exact fun same => other .listener (by simp) (same ▸ concern)
  · exact fun same => other .user (by simp) (same ▸ concern)

/-- A sequence of steady actions. -/
theorem Steady.attempt_bind {a : Action α} {f : α → Action β} (ha : Steady a.attempt)
    (hf : ∀ x, Steady (f x).attempt) : Steady (a >>= f).attempt := by
  rw [Program.attempt_bind]
  exact ha.bind fun
    | .ok x => hf x
    | .error fault => steady_pure (Except.error fault)

/-- A steady program as an action. -/
theorem Steady.ofTotal {p : Program α} (hp : Steady p) : Steady (Action.ofTotal p).attempt :=
  hp.bind fun a => steady_pure (Except.ok a)

end Program

/-! ### Telling and showing -/

namespace Scan

open Program

/-- What a listener is told at the start, in outline. -/
def startOutline (l : Listener) : Exchange := ⟨.tellStart l [], ([], .ok ())⟩

/-- What a listener is told of the end. -/
def endOutline (ending : Ending) (l : Listener) : Exchange := ⟨.tellEnd l ending, .ok ()⟩

variable {t t' : Trace} {r r' : Except Fault Unit}

/-- A fault of a listener that does not leave the scan is noted in the log at most. -/
theorem runs_settle_bearable {l : Listener} {event : Event} {reply : Except Fault Unit}
    (run : Runs (settle l event reply).attempt t r)
    (bearable : ∀ fault, reply = .error fault → fault.leaves = false) :
    r = .ok () ∧ About [.log] t := by
  refine ⟨?_, run.about (settle_asks l event reply)⟩
  rcases (runs_settle run).2 with done | ⟨fault, rfl, -, leaves⟩
  · exact done
  · rw [bearable fault rfl] at leaves
    cases leaves

/-- The first listener is told of the start, and then the others are told of the list that it
leaves. -/
theorem runs_tellStart_cons {files : List Handle} {l : Listener} {rest : List Listener}
    (run : Runs (tellStart files (l :: rest)).attempt t r)
    (bearable : ∀ e ∈ t, e.isBearable = true) :
    ∃ reply log t₂, t = ⟨.tellStart l files, reply⟩ :: (log ++ t₂) ∧ About [.log] log ∧
      Runs (tellStart reply.1 rest).attempt t₂ r := by
  unfold tellStart at run
  obtain ⟨_, t₂, ⟨left, reply⟩, rfl, tell, settling⟩ := runs_attempt_ofTotal_bind.1 run
  cases runs_request.1 tell
  have borne : ∀ fault, reply = .error fault → fault.leaves = false := by
    rintro fault rfl
    simpa [Exchange.isBearable] using bearable _ List.mem_cons_self
  rcases runs_attempt_bind.1 settling with ⟨t₃, t₄, _, rfl, settled, others⟩ | ⟨_, -, failed⟩
  · exact ⟨(left, reply), t₃, t₄, rfl, (runs_settle_bearable settled borne).2, others⟩
  · cases (runs_settle_bearable failed borne).1

/-- All who are registered are told of the start, whatever becomes of the list. -/
theorem runs_tellStart_bearable {files : List Handle} {ls : List Listener}
    (run : Runs (tellStart files ls).attempt t r) (bearable : ∀ e ∈ t, e.isBearable = true) :
    r = .ok () ∧ outline t = ls.map startOutline := by
  induction ls generalizing files t with
  | nil =>
    obtain ⟨rfl, rfl⟩ := runs_attempt_pure.1 run
    exact ⟨rfl, rfl⟩
  | cons l rest ih =>
    obtain ⟨reply, log, t₂, rfl, about, others⟩ := runs_tellStart_cons run bearable
    obtain ⟨rfl, told⟩ := ih others fun e he =>
      bearable e (List.mem_cons_of_mem _ (List.mem_append_right _ he))
    refine ⟨rfl, ?_⟩
    change startOutline l :: outline (log ++ t₂) = _
    rw [outline_append, about.outline_eq_nil, told]
    rfl

/-- All who are registered are told of the end. -/
theorem runs_tellEnd_bearable {ending : Ending} {ls : List Listener}
    (run : Runs (tellEnd ending ls).attempt t r) (bearable : ∀ e ∈ t, e.isBearable = true) :
    r = .ok () ∧ outline t = ls.map (endOutline ending) := by
  induction ls generalizing t with
  | nil =>
    obtain ⟨rfl, rfl⟩ := runs_attempt_pure.1 run
    exact ⟨rfl, rfl⟩
  | cons l rest ih =>
    unfold tellEnd at run
    obtain ⟨_, t₂, reply, rfl, tell, settling⟩ := runs_attempt_ofTotal_bind.1 run
    cases runs_request.1 tell
    have borne : ∀ fault, reply = .error fault → fault.leaves = false := by
      rintro fault rfl
      simpa [Exchange.isBearable] using bearable _ List.mem_cons_self
    rcases runs_attempt_bind.1 settling with ⟨t₃, t₄, _, rfl, settled, others⟩ | ⟨_, -, failed⟩
    · obtain ⟨rfl, told⟩ := ih others fun e he => bearable e (by simp [he])
      refine ⟨rfl, ?_⟩
      change endOutline ending l :: outline (t₃ ++ t₄) = _
      rw [outline_append, (runs_settle_bearable settled borne).2.outline_eq_nil, told]
      rfl
    · cases (runs_settle_bearable failed borne).1

/-- Listeners that leave the same lists are told of the same files. -/
theorem started_tellStart {files : List Handle} {ls : List Listener}
    (run : Runs (tellStart files ls).attempt t r) (run' : Runs (tellStart files ls).attempt t' r')
    (bearable : ∀ e ∈ t, e.isBearable = true) (bearable' : ∀ e ∈ t', e.isBearable = true)
    (same : SameLists t t') : started t = started t' := by
  induction ls generalizing files t t' with
  | nil =>
    obtain ⟨rfl, -⟩ := runs_attempt_pure.1 run
    obtain ⟨rfl, -⟩ := runs_attempt_pure.1 run'
    rfl
  | cons l rest ih =>
    obtain ⟨reply, log, t₂, rfl, about, others⟩ := runs_tellStart_cons run bearable
    obtain ⟨reply', log', t₂', rfl, about', others'⟩ := runs_tellStart_cons run' bearable'
    have inside {log t₂ : Trace} {e₀ : Exchange} : ∀ e ∈ t₂, e ∈ e₀ :: (log ++ t₂) :=
      fun e he => List.mem_cons_of_mem _ (List.mem_append_right _ he)
    have left : reply.1 = reply'.1 :=
      same l files reply reply' List.mem_cons_self List.mem_cons_self
    rw [← left] at others'
    change (l, files) :: started (log ++ t₂) = (l, files) :: started (log' ++ t₂')
    rw [started_append, started_append, about.started_eq_nil (by decide),
      about'.started_eq_nil (by decide)]
    exact congrArg ((l, files) :: ·) (ih others others' (fun e he => bearable e (inside e he))
      (fun e he => bearable' e (inside e he)) fun l files reply reply' mem mem' =>
        same l files reply reply' (inside _ mem) (inside _ mem'))

/-- To tell listeners of the start is steady. -/
theorem steady_tellStart (files : List Handle) (ls : List Listener) :
    Steady (tellStart files ls).attempt := by
  intro s past t t' r r' run run' _ _ bearable bearable'
  obtain ⟨rfl, told⟩ := runs_tellStart_bearable run bearable
  obtain ⟨rfl, told'⟩ := runs_tellStart_bearable run' bearable'
  exact ⟨⟨told.trans told'.symm, started_tellStart run run' bearable bearable'⟩, rfl⟩

/-- Nobody is told of a start where nobody is told of it in outline. -/
theorem started_eq_nil_of_outline (none : ∀ e ∈ outline t, ∀ l files reply,
    e ≠ ⟨.tellStart l files, reply⟩) : started t = [] := by
  refine List.filterMap_eq_nil_iff.2 fun sight hs => ?_
  obtain ⟨⟨r, reply⟩, he, seen⟩ := List.mem_filterMap.1 hs
  cases r with
  | tellStart l files =>
    exact absurd rfl (none (startOutline l) (List.mem_filterMap.2 ⟨_, he, rfl⟩) l [] _)
  | _ =>
    cases seen
    try rfl

/-- To tell listeners of the end is steady. -/
theorem steady_tellEnd (ending : Ending) (ls : List Listener) :
    Steady (tellEnd ending ls).attempt := by
  intro s past t t' r r' run run' _ _ bearable bearable'
  obtain ⟨rfl, told⟩ := runs_tellEnd_bearable run bearable
  obtain ⟨rfl, told'⟩ := runs_tellEnd_bearable run' bearable'
  have silent {t : Trace} (told : outline t = ls.map (endOutline ending)) : started t = [] := by
    refine started_eq_nil_of_outline fun e he l files reply same => ?_
    rw [told] at he
    obtain ⟨_, -, rfl⟩ := List.mem_map.1 he
    cases same
  exact ⟨⟨told.trans told'.symm, fun _ => (silent told).trans (silent told').symm⟩, rfl⟩

/-- To show a fault is steady. -/
theorem steady_ofFault (error : Fault) : Steady (Notification.ofFault error).attempt := by
  have shown {t : Trace} {r : Except Fault Unit}
      (run : Runs (Notification.ofFault error).attempt t r)
      (bearable : ∀ e ∈ t, e.isBearable = true) : r = .ok () ∧ ∃ reply log,
        t = ⟨.present Notification.title (Notification.text error) (some error), reply⟩ :: log ∧
        About [.log] log := by
    refine ⟨?_, ?_⟩
    · rcases (runs_ofFault run).2 with done | ⟨fault, -, fatal, title, text, mem⟩
      · exact done
      · have borne := bearable _ mem
        simp [Exchange.isBearable, fatal] at borne
    · unfold Notification.ofFault Notification.show_ at run
      obtain ⟨_, t₂, reply, rfl, present, rest⟩ := runs_attempt_ofTotal_bind.1 run
      cases runs_request.1 present
      refine ⟨reply, t₂, rfl, rest.about ?_⟩
      match reply with
      | .ok () => exact asksOnly_attempt_pure ()
      | .error fault =>
        dsimp only
        split
        · exact asksOnly_attempt_throw _
        · exact AsksOnly.ofTotal (logLine_asks _ _ _)
  intro s past t t' r r' run run' _ _ bearable bearable'
  obtain ⟨rfl, reply, log, rfl, about⟩ := shown run bearable
  obtain ⟨rfl, reply', log', rfl, about'⟩ := shown run' bearable'
  refine ⟨⟨?_, fun _ => ?_⟩, rfl⟩
  · change _ :: outline log = _ :: outline log'
    rw [about.outline_eq_nil, about'.outline_eq_nil]
  · change started log = started log'
    rw [about.started_eq_nil (by decide), about'.started_eq_nil (by decide)]

/-! ### The stages of a scan -/

/-- To ask who is registered is steady. -/
theorem steady_listeners : Steady listeners.attempt :=
  (steady_of_asksAbout registered_asks (by decide)).ofTotal

/-- To enter a phase is steady. -/
theorem steady_enter (phase : Phase) : Steady (enter phase).attempt :=
  steady_of_asksAbout (enter_asks phase) (by decide)

/-- The start of a scan is steady. -/
theorem steady_start (scan : Scan) : Steady scan.start.attempt := by
  unfold start
  refine (steady_enter _).attempt_bind fun _ => ?_
  refine (steady_of_asksAbout (checkCancelled_asks true) (by decide)).attempt_bind fun _ => ?_
  refine (steady_of_asksAbout (resolveFiles_asks scan) (by decide)).attempt_bind fun files => ?_
  refine steady_listeners.attempt_bind fun ls => ?_
  exact (steady_tellStart files ls).attempt_bind fun _ => steady_pure _

/-- A scan is steady up to its report. -/
theorem steady_perform (scan : Scan) (id : String) : Steady (scan.perform id) := by
  unfold perform
  refine (steady_start scan).bind fun
    | .error _ => steady_pure _
    | .ok [] => steady_pure _
    | .ok (h :: rest) => ?_
  refine (steady_request (r := .enter .snapshotting) rfl).bind fun _ => ?_
  refine (steady_of_asksAbout (Snapshot.makeAll_asks _ _ _) (by decide)).bind fun
    | (made, .error _) => steady_pure _
    | (made, .ok ()) => ?_
  exact (steady_of_asksAbout (check_asks scan id made) (by decide)).bind fun _ => steady_pure _

/-- A scan is steady up to its outcome. -/
theorem steady_obtain (scan : Scan) (id : String) : Steady (scan.obtain id).attempt := by
  unfold obtain
  refine (steady_perform scan id).bind fun (made, result) => ?_
  refine (steady_of_asksAbout (Snapshot.deleteAll_asks made) (by decide)).bind fun
    | .error _ => steady_pure _
    | .ok () => steady_pure _

/-- To show and tell an outcome is steady. -/
theorem steady_announce (outcome : Outcome) : Steady (announce outcome).attempt := by
  have telling (ending : Ending) :
      Steady (do tellEnd ending (← listeners) : Action Unit).attempt :=
    steady_listeners.attempt_bind fun ls => steady_tellEnd ending ls
  cases outcome with
  | failed id error =>
    refine (steady_enter _).attempt_bind fun _ => ?_
    have log := steady_of_asksAbout
      (logLine_asks .warning .scan ("Scan failed: " ++ error.message)) (by decide)
    refine log.ofTotal.attempt_bind fun _ => ?_
    exact (steady_ofFault error).attempt_bind fun _ => telling _
  | cancelled id => exact (steady_enter _).attempt_bind fun _ => telling _
  | success report => exact (steady_enter _).attempt_bind fun _ => telling _

/-- A scan is steady. -/
theorem steady_run (scan : Scan) : Steady scan.run := by
  unfold Scan.run
  refine (steady_request (r := .freshId) rfl).bind fun id => ?_
  refine (steady_obtain scan id).bind fun
    | .error fault => ?_
    | .ok outcome => ?_
  · exact (steady_request (r := .enter .idle) rfl).bind fun _ => steady_pure _
  · refine (steady_request (r := .conclude outcome) rfl).bind fun _ => ?_
    refine (steady_announce outcome).bind fun told => ?_
    exact (steady_request (r := .enter .idle) rfl).bind fun _ => steady_pure _

/-! ### What all who are registered are told -/

section Told

variable {scan : Scan} {t : Trace} {ls : List Listener}

/-- Who is seen to be registered is answered to be. -/
theorem mem_of_registered (seen : .registered ls ∈ sights t) : ⟨.listeners, ls⟩ ∈ t := by
  obtain ⟨⟨r, reply⟩, he, same⟩ := List.mem_filterMap.1 seen
  cases r with
  | listeners =>
    cases same
    exact he
  | _ => cases same

/-- A view of a call that does not look at phases is one of its start and one of its end. -/
theorem Call.Sound.filterMap_trace {α : Type} {c : Call} {result : Except Fault Report}
    (sound : c.Sound scan result) {f : Sight → Option α}
    (entered : ∀ phase, f (.entered phase) = none) :
    (sights c.trace).filterMap f =
      (c.opening.elim [] Opening.sights).filterMap f ++ c.closingSights.filterMap f := by
  rw [sound.sights_trace, List.filterMap_cons_none (entered _), List.filterMap_append,
    List.filterMap_append, List.filterMap_append, filterMap_entered _ entered,
    List.filterMap_cons_none (entered _), List.filterMap_nil, List.append_nil, List.append_nil]

/-- In a call listeners are told that it starts, and then how it ends. -/
theorem Call.Sound.told_trace {c : Call} {result : Except Fault Report}
    (sound : c.Sound scan result) :
    told c.trace = ((started c.trace).map fun x => (x.1, .starting)) ++
      c.closingSights.filterMap Sight.told? := by
  unfold told
  rw [started_eq_filterMap, sound.filterMap_trace fun _ => rfl, sound.filterMap_trace fun _ => rfl,
    List.map_append, List.append_assoc]
  congr 1
  · cases c.opening with
    | none => rfl
    | some o =>
      rw [List.map_filterMap]
      refine List.filterMap_congr fun sight hs => ?_
      rcases List.mem_cons.1 hs with rfl | hs
      · rfl
      · obtain ⟨x, -, rfl⟩ := List.mem_map.1 hs
        rfl
  · have nobody : c.closingSights.filterMap Sight.start? = [] := by
      unfold Call.closingSights
      cases c.closing with
      | error fault => rfl
      | ok e =>
        cases hh : e.hearing <;> cases ho : e.outcome.error? <;>
          simp [Closing.sights, Hearing.sights, Sight.start?, hh, ho]
    rw [nobody]
    rfl

/-- All who are registered are told how a call ends, once it has an outcome. -/
theorem Call.Sound.told_closing {c : Call} {result : Except Fault Report}
    (sound : c.Sound scan result) (run : Runs scan.run c.trace result)
    (bearable : ∀ e ∈ c.trace, e.isBearable = true)
    (registered : ∀ ls', ⟨.listeners, ls'⟩ ∈ c.trace → ls' = ls) :
    c.closingSights.filterMap Sight.told? = (outcomes c.trace).flatMap fun outcome =>
      ls.map fun l => (l, eventOf outcome.ending) := by
  unfold Call.closingSights
  cases hc : c.closing with
  | error fault =>
    have undecided := (sound.ran.about (obtain_asks scan c.id)).outcomes_eq_nil (by decide)
    have nothing : outcomes c.trace = [] := by
      unfold Call.trace
      rw [hc]
      change outcomes (c.stage ++ [] ++ _) = []
      rw [outcomes_append, outcomes_append, undecided]
      rfl
    rw [nothing]
    rfl
  | ok e =>
    obtain ⟨seen, _, ends, -⟩ := sound.closed e hc
    have inside : c.telling ⊆ c.trace := fun x hx => by simp [Call.trace, hc, hx]
    have concluded : outcomes c.trace = [e.outcome] := by
      have mem : e.outcome ∈ outcomes c.trace := mem_outcomes.2 (by simp [Call.trace, hc])
      rcases outcomes_run run with ⟨nothing, -⟩ | ⟨outcome, _, one, -⟩
      · rw [nothing] at mem
        cases mem
      · rw [one] at mem ⊢
        rw [List.mem_singleton.1 mem]
    rw [concluded, List.flatMap_singleton]
    dsimp only
    cases ends with
    | @all h hearing all =>
      have there : .registered h.registered ∈ sights c.telling := by
        rw [seen]
        simp [Closing.sights, hearing, Hearing.sights]
      have same : h.registered = ls := registered _ (inside (mem_of_registered there))
      have ended : (ls.map fun l => Sight.ended l e.outcome.ending).filterMap Sight.told? =
          ls.map fun l => (l, eventOf e.outcome.ending) := by
        rw [List.filterMap_map]
        exact congrFun List.filterMap_eq_map ls
      unfold Closing.sights
      rw [hearing]
      dsimp only [Option.elim, Hearing.sights]
      rw [all, same, ← ended]
      cases e.outcome.error? <;> rfl
    | unshown _ _ display fatal =>
      have borne := bearable _ (inside display)
      simp [Exchange.isBearable, fatal] at borne
    | cut _ _ reply leaves =>
      have borne := bearable _ (inside reply)
      simp [Exchange.isBearable, leaves] at borne

/-- All who are registered are told that a call starts, once its files are resolved. -/
theorem Firing.map_fst_started (f : scan.Firing) (bearable : ∀ e ∈ f.trace, e.isBearable = true)
    (registered : ∀ ls', ⟨.listeners, ls'⟩ ∈ f.trace → ls' = ls) :
    (started f.trace).map Prod.fst = ls := by
  have asked : f.registered = ls := registered _ (by simp [Firing.trace, registering])
  have telling : ∀ e ∈ f.telling, e.isBearable = true :=
    fun e he => bearable e (by simp [Firing.trace, he])
  obtain ⟨done, -⟩ := runs_tellStart_bearable f.tell telling
  obtain ⟨firsts, -, seen, ⟨-, all⟩ | ⟨fault, failed, -⟩⟩ := runs_tellStart f.tell
  · have same : started f.telling = firsts := by
      rw [started_eq_filterMap, seen, List.filterMap_map]
      exact List.filterMap_some
    rw [f.started_trace, same, all, asked]
  · rw [done] at failed
    cases failed

/-- In a call in which nobody keeps the scan from going on, every event that fires is told to all
who are registered, in order: the start once files are resolved, and the end once there is an
outcome. -/
theorem told_run {r : Except Fault Report} (run : Runs scan.run t r)
    (bearable : ∀ e ∈ t, e.isBearable = true)
    (registered : ∀ ls', ⟨.listeners, ls'⟩ ∈ t → ls' = ls) :
    ∃ opening : List Event,
      (opening = [] ∧ scan.Unfired t ∨ opening = [.starting] ∧ ∃ f : scan.Firing, f.trace = t) ∧
      told t = (opening ++ (outcomes t).map fun outcome => eventOf outcome.ending).flatMap
        fun event => ls.map fun l => (l, event) := by
  obtain ⟨c, rfl, sound⟩ := exists_call run
  rw [sound.told_trace, sound.told_closing run bearable registered]
  rcases exists_firing run with unfired | ⟨f, same⟩
  · obtain ⟨-, -, -, -, -, -, -, silent⟩ := id unfired
    refine ⟨[], .inl ⟨rfl, unfired⟩, ?_⟩
    rw [silent, List.nil_append, List.flatMap_map]
    rfl
  · have all : (started c.trace).map Prod.fst = ls := by
      rw [← same] at bearable registered ⊢
      exact f.map_fst_started bearable registered
    refine ⟨[.starting], .inr ⟨rfl, f, same⟩, ?_⟩
    rw [List.flatMap_append, List.flatMap_singleton, List.flatMap_map, ← all, List.map_map]
    rfl

end Told

/-- Listeners are isolated from each other.  Take two calls of a scan in the same surroundings, in
which the registry is what some changes have made of it, and let listeners and the display fail in
either of them as they like, as long as no fault leaves the scan.

The registry holds nobody twice.  It holds those who were added and not removed since, in the order
in which they came.  Every event that fires is told to all of them in this order, so each of them is
told each event once: the start if the files are resolved, and the end if there is an outcome.  In
both calls the same listeners are told the same events, with the same reports and faults, and with
the same files if whoever is told a list leaves the same list in both; and the outcome and the
result are the same. -/
theorem listeners_isolated {scan : Scan} {changes : List Registration} {s : Surroundings}
    (answers : ∀ past, s past .listeners = registry changes)
    {t t' : Trace} {r r' : Except Fault Report}
    (run : Runs scan.run t r) (answered : Answered s [] t)
    (bearable : ∀ e ∈ t, e.isBearable = true)
    (run' : Runs scan.run t' r') (answered' : Answered s [] t')
    (bearable' : ∀ e ∈ t', e.isBearable = true) :
    (registry changes).Nodup ∧
    (∀ l, l ∈ registry changes ↔
      ∃ before after, changes = before ++ .add l :: after ∧ .remove l ∉ after) ∧
    (∀ l l', [l, l'].Sublist (registry changes) ↔
      l' ∈ registry changes ∧ CameFirst changes l l') ∧
    (∃ opening : List Event,
      (opening = [] ∧ scan.Unfired t ∨ opening = [.starting] ∧ ∃ f : scan.Firing, f.trace = t) ∧
      let fired := opening ++ (outcomes t).map fun outcome => eventOf outcome.ending
      (told t = fired.flatMap fun event => (registry changes).map fun l => (l, event)) ∧
      ∀ l, eventsFor l t = if l ∈ registry changes then fired else []) ∧
    told t' = told t ∧ (∀ l, endsFor l t' = endsFor l t) ∧
    (SameLists t t' → ∀ l, startsFor l t' = startsFor l t) ∧
    outcomes t' = outcomes t ∧ r' = r := by
  obtain ⟨alike, rfl⟩ :=
    steady_run scan s [] t t' r r' run run' answered answered' bearable bearable'
  refine ⟨nodup_registry changes, fun l => mem_registry_iff, fun l l' => pair_sublist_registry_iff,
    ?_, ?_, fun l => ?_, fun same l => ?_, ?_, rfl⟩
  · obtain ⟨opening, fires, all⟩ := told_run run bearable (answered.registered answers)
    exact ⟨opening, fires, all, eventsFor_of_told (nodup_registry changes) all⟩
  · rw [← told_outline, ← alike.outline_eq, told_outline]
  · rw [← endsFor_outline, ← alike.outline_eq, endsFor_outline]
  · rw [startsFor_eq_filterMap, startsFor_eq_filterMap, alike.started_eq same]
  · rw [← outcomes_outline, ← alike.outline_eq, outcomes_outline]

/-- Three listeners come and go, and one of them comes twice. -/
def comings : List Registration :=
  [.add ⟨"first"⟩, .add ⟨"second"⟩, .add ⟨"first"⟩, .add ⟨"third"⟩, .remove ⟨"second"⟩,
    .add ⟨"second"⟩]

/-- These three are registered, and the tool fails. -/
def brokenTool : Surroundings
  | _, .listeners => registry comings
  | _, .invoke _ _ => .error (.raised .other "RuntimeError" "boom")
  | _, r => r.nothing

/-- Besides, one listener fails at the start and another one at the end, and nothing can be
shown. -/
def brokenFollowers : Surroundings
  | _, .tellStart ⟨"first"⟩ files => (files, .error (.raised .value "ValueError" "start"))
  | _, .tellEnd ⟨"third"⟩ _ => .error (.cancelled "end")
  | _, .present _ _ _ => .error (.raised .memory "MemoryError" "")
  | past, r => brokenTool past r

/-- What happens in a call of a scan of one file with failures like these. -/
def failingCall (failing : Surroundings) : Trace × Except Fault Report × Trace :=
  record (fun past r => (failing past r, past ++ (Exchange.outline? ⟨r, failing past r⟩).toList)) []
    (provided [{ path := "/p/a.py" }]).run

/-- The failures of others keep nobody from being told that the scan starts and that it failed. -/
theorem isolated_from_failures :
    (∀ e ∈ (failingCall brokenFollowers).1, e.isBearable = true) ∧
    told (failingCall brokenFollowers).1 = [.starting, .failed].flatMap (fun event =>
      [⟨"first"⟩, ⟨"third"⟩, ⟨"second"⟩].map fun l : Listener => (l, event)) ∧
    (failingCall brokenFollowers).2.1 = (failingCall brokenTool).2.1 := by
  have agree : ∀ past r, Exchange.outline? ⟨r, brokenFollowers past r⟩ =
      Exchange.outline? ⟨r, brokenTool past r⟩ := by
    intro past r
    unfold brokenFollowers
    split <;> rfl
  have bearable : ∀ e ∈ (failingCall brokenTool).1, e.isBearable = true := by decide +kernel
  have bearable' : ∀ e ∈ (failingCall brokenFollowers).1, e.isBearable = true := by decide +kernel
  obtain ⟨-, -, -, -, same, -, -, -, result⟩ :=
    listeners_isolated (fun _ => rfl)
      (runs_record _ _ (provided [{ path := "/p/a.py" }]).run)
      (answered_record (fun _ _ => rfl) [] _) bearable
      (runs_record _ _ _) (answered_record agree [] _) bearable'
  exact ⟨bearable', same.trans (by decide +kernel), result⟩

end Scan

end LiveCheck
