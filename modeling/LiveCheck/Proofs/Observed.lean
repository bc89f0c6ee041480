import LiveCheck.Proofs.Requests

/-!
# What is seen of a run

A trace holds every request of a run.  Somebody who watches a scan sees less: the phases that it
enters, who its listeners are, what they are told and what the user is shown.  These are the
sights of a trace.  They respect the cutting of a trace in two, and a part of a run that asks
about other things shows nothing.
-/

namespace LiveCheck

open Program (Exchange Runs AsksOnly)

/-- What can be seen of a scan from outside. -/
inductive Sight where
  /-- The scan enters a phase. -/
  | entered (phase : Phase)
  /-- These listeners stand in the registry when it is read. -/
  | registered (listeners : List Listener)
  /-- A listener is told that the scan starts with these files. -/
  | started (listener : Listener) (files : List Handle)
  /-- A listener is told how the scan ended. -/
  | ended (listener : Listener) (ending : Ending)
  /-- The user is shown something, perhaps because of a fault. -/
  | shown (error : Option Fault)
deriving DecidableEq

namespace Sight

/-- The phase that is entered. -/
def phase? : Sight → Option Phase
  | entered phase => some phase
  | _ => none

/-- What this listener is told of the end. -/
def endFor? (l : Listener) : Sight → Option Ending
  | ended listener ending => if listener = l then some ending else none
  | _ => none

/-- The files that this listener is told at the start. -/
def startFor? (l : Listener) : Sight → Option (List Handle)
  | started listener files => if listener = l then some files else none
  | _ => none

end Sight

/-- What is seen of a request. -/
def Program.Exchange.sight? : Exchange → Option Sight
  | ⟨.enter phase, _⟩ => some (.entered phase)
  | ⟨.listeners, listeners⟩ => some (.registered listeners)
  | ⟨.tellStart listener files, _⟩ => some (.started listener files)
  | ⟨.tellEnd listener ending, _⟩ => some (.ended listener ending)
  | ⟨.present _ _ error, _⟩ => some (.shown error)
  | _ => none

namespace Trace

/-- What is seen of a run, in order. -/
def sights (t : Trace) : List Sight := t.filterMap Exchange.sight?

/-- The phases that are entered, in order. -/
def phases (t : Trace) : List Phase := (sights t).filterMap Sight.phase?

/-- What a listener is told of the end. -/
def endsFor (l : Listener) (t : Trace) : List Ending := (sights t).filterMap (Sight.endFor? l)

/-- The files that a listener is told at the start, once for each time. -/
def startsFor (l : Listener) (t : Trace) : List (List Handle) :=
  (sights t).filterMap (Sight.startFor? l)

variable {t t' : Trace}

/-- Nothing is seen of no run. -/
@[simp] theorem sights_nil : sights [] = [] := rfl

/-- What is seen of two traces one after the other. -/
@[simp] theorem sights_append : sights (t ++ t') = sights t ++ sights t' :=
  List.filterMap_append

/-- What is seen of a trace that begins with a request. -/
@[simp] theorem sights_cons (e : Exchange) : sights (e :: t) = e.sight?.toList ++ sights t := by
  unfold sights
  rw [List.filterMap_cons]
  cases e.sight? <;> rfl

/-- A trace whose requests are all about these things. -/
def About (concerns : List Concern) (t : Trace) : Prop :=
  ∀ e ∈ t, e.request.concern ∈ concerns

/-- A trace that is about other things. -/
theorem About.concern_ne {cs : List Concern} (h : About cs t) {c : Concern} (hc : c ∉ cs) :
    ∀ e ∈ t, e.request.concern ≠ c := by
  rintro e he rfl
  exact hc (h e he)

/-- A trace that is about less. -/
theorem About.mono {cs cs' : List Concern} (h : About cs t) (less : ∀ c ∈ cs, c ∈ cs') :
    About cs' t := fun e he => less _ (h e he)

/-- A single request is about what it is about. -/
theorem about_singleton (e : Exchange) : About [e.request.concern] [e] := by
  intro e' he'
  obtain rfl := List.mem_singleton.1 he'
  exact List.mem_singleton.2 rfl

/-- Nothing is seen where nothing is asked about phases, of listeners and their list or of the
user. -/
theorem About.sights_eq_nil {cs : List Concern} (h : About cs t)
    (hc : ∀ c ∈ [Concern.phase, .registry, .listener, .user], c ∉ cs) : sights t = [] := by
  refine List.filterMap_eq_nil_iff.2 fun ⟨r, reply⟩ he => ?_
  have about : r.concern ∈ cs := h _ he
  cases r with
  | enter | listeners | tellStart | tellEnd | present =>
    exact absurd about (hc _ (by simp [Request.concern]))
  | _ => rfl

end Trace

/-- The trace of a program is about what the program asks about. -/
theorem Program.Runs.about {α : Type} {p : Program α} {t : Trace} {a : α} {cs : List Concern}
    (run : Runs p t a) (h : AsksAbout cs p) : Trace.About cs t :=
  run.asksOnly h

end LiveCheck
