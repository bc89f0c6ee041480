import LiveCheck.Proofs.Scan.Roots
import LiveCheck.Proofs.Scratch

/-!
# What a scan leaves alone

If nobody who is asked changes a file, a scan changes none: its requests create copies where
nothing stands, write to these and remove them, and it removes nothing that it has not created.
`Framed` collects what holds at every moment of a scan, seen from the workspace in which it began,
and `Framed.step` shows that it is kept.  `run_framed` reads off what this means for the files of
the user, for whole runs and for runs that are cut off anywhere.
-/

namespace LiveCheck

open Program (Exchange Runs)
open Trace (Careful heldFrom)

/-- A trace whose copies are made and removed on the disk of a workspace, while nobody else changes
it, and the workspace that is left. -/
inductive Serves : Workspace → Trace → Workspace → Prop where
  | nil (w : Workspace) : Serves w [] w
  | concat {w v v' : Workspace} {t : Trace} {e : Exchange} (before : Serves w t v)
      (last : Served (fun _ => True) Eq v e v') : Serves w (t ++ [e]) v'

/-! ### One answer -/

section Served

variable {scratch : String → Prop} {w w' : Workspace} {e : Exchange} {place : Place}

/-- The current directory and the documents stay as they are. -/
theorem Served.cwd_documents (served : Served scratch Eq w e w') :
    w'.cwd = w.cwd ∧ w'.documents = w.documents := by
  cases served with
  | created | uncreated | unwritten | spoilt | removed | unremoved => exact ⟨rfl, rfl⟩
  | written write =>
    obtain ⟨bytes, -, ⟨place, -, rfl⟩ | ⟨-, rfl⟩⟩ := Workspace.writeTemporary_spec write <;>
      exact ⟨rfl, rfl⟩
  | encoding outside | other asked outside => exact outside ▸ ⟨rfl, rfl⟩

/-- What stands somewhere else stays as it is. -/
theorem Served.entry_eq (served : Served scratch Eq w e w') {x : Entry}
    (stands : w.disk.entry? place = some x) (elsewhere : e.Elsewhere w place) :
    w'.disk.entry? place = some x := by
  have touched {q : String} (touches : e.touched? = some q) :
      w'.disk.entry? place = some x := by
    obtain ⟨place', bytes', leads', file', other⟩ := elsewhere q touches
    exact (served.entry_of_ne touches leads' file' (Ne.symm other)).trans stands
  cases served with
  | @created _ _ _ _ fresh _ _ _ create =>
    obtain ⟨missing, rfl, -, -⟩ := Disk.create_eq create
    have other : place ≠ fresh := by
      rintro rfl
      rw [stands] at missing
      cases missing
    rw [Disk.lookup_putEntry, if_neg other]
    split
    · next root =>
      subst root
      exact stands
    · exact stands
  | written | unwritten | spoilt | removed | unremoved => exact touched rfl
  | uncreated => exact stands
  | encoding outside | other asked outside => exact outside ▸ stands

/-- Where something stands that did not, a copy was created. -/
theorem Served.created_of_entry (served : Served scratch Eq w e w')
    (vacant : w.disk.entry? place = none) (stands : w'.disk.entry? place ≠ none) :
    ∃ stem extension directory path,
      e = ⟨.createTemporary stem extension directory, .ok path⟩ ∧ w'.Leads path place := by
  have filled (place' : Place) (content : List UInt8) :
      Disk.entry? (w.disk.fill place' content) place = none := by
    cases file : w.disk.entry? place' with
    | none => simpa [Disk.fill, file] using vacant
    | some x =>
      cases x with
      | directory | link => simpa [Disk.fill, file] using vacant
      | file bytes =>
        have other : place ≠ place' := by
          rintro rfl
          rw [vacant] at file
          cases file
        rw [Disk.lookup_fill file, if_neg other]
        exact vacant
  cases served with
  | @created stem extension directory path fresh _ _ _ create =>
    obtain ⟨-, rfl, -, found⟩ := Disk.create_eq create
    have there : place = fresh := by
      by_contra other
      apply stands
      rw [Disk.lookup_putEntry, if_neg other]
      split
      · next root =>
        subst root
        cases vacant
      · exact vacant
    subst there
    exact ⟨stem, extension, directory, path, rfl, found⟩
  | uncreated | unwritten | unremoved => exact absurd vacant stands
  | written write =>
    obtain ⟨bytes, -, ⟨place', -, rfl⟩ | ⟨-, rfl⟩⟩ := Workspace.writeTemporary_spec write
    · exact absurd (filled place' bytes) stands
    · exact absurd vacant stands
  | spoilt => exact absurd (filled _ _) stands
  | removed remove =>
    obtain ⟨place', -, gone⟩ := Disk.remove_eq remove
    refine absurd ?_ stands
    rw [gone]
    split
    · rfl
    · exact vacant
  | encoding outside | other asked outside => exact absurd vacant (outside ▸ stands)

/-- Whoever made a file had made it before, or has made it where nothing stood. -/
theorem Served.makersAfter_some {ι : Type} {Outside : Workspace → Workspace → Prop}
    (served : Served scratch Outside w e w') {i j : ι} {makers : Place → Option ι}
    (made : e.makersAfter i w w' makers place = some j) :
    makers place = some j ∨ w.disk.entry? place = none := by
  cases served with
  | @created stem extension directory path fresh disk next _ create =>
    obtain ⟨missing, -, -, found⟩ := Disk.create_eq create
    have leads : Workspace.Leads { w with disk, nextTemporary := next } path fresh := found
    rw [leads.makersAfter_created] at made
    by_cases there : place = fresh
    · subst there
      exact Or.inr missing
    · rw [Function.update_of_ne there] at made
      exact Or.inl made
  | @removed path disk remove =>
    obtain ⟨place', found, -⟩ := Disk.remove_eq remove
    have leads : w.Leads path place' := found
    rw [leads.makersAfter_removed] at made
    by_cases there : place = place'
    · subst there
      exact absurd made (by simp)
    · rw [Function.update_of_ne there] at made
      exact Or.inl made
  | uncreated | written | unwritten | spoilt | unremoved | encoding => exact Or.inl made
  | @other _ r reply asked outside =>
    cases r with
    | createTemporary | remove => exact absurd rfl asked
    | _ => exact Or.inl made

end Served

/-! ### Whole traces -/

/-- The place is one at which a copy was created. -/
def CreatedAt (w : Workspace) (t : Trace) (place : Place) : Prop :=
  ∃ a stem extension directory path b v v',
    t = a ++ ⟨.createTemporary stem extension directory, .ok path⟩ :: b ∧ Serves w a v ∧
      Served (fun _ => True) Eq v ⟨.createTemporary stem extension directory, .ok path⟩ v' ∧
      v.disk.entry? place = none ∧ v'.Leads path place

/-- A workspace seen from the one in which a scan began: everything that was there is there, what
is new was created as a copy, and the copies in hand are none of the files that were there. -/
structure Framed (w : Workspace) (t : Trace) (v : Workspace) : Prop where
  cwd : v.cwd = w.cwd
  documents : v.documents = w.documents
  kept : ∀ place x, w.disk.entry? place = some x → v.disk.entry? place = some x
  created : ∀ place, w.disk.entry? place = none → v.disk.entry? place ≠ none → CreatedAt w t place
  hands : ∃ makers : Place → Option Unit, Private (fun _ => True) v makers (fun _ => t) ∧
    ∀ place, makers place = some () → w.disk.entry? place = none

/-- In the beginning nothing has happened. -/
theorem framed_nil (w : Workspace) : Framed w [] w where
  cwd := rfl
  documents := rfl
  kept _ _ h := h
  created _ vacant stands := absurd vacant stands
  hands := ⟨fun _ => none, private_nil, fun _ made => by cases made⟩

/-- A place that a scan has created stays one. -/
theorem CreatedAt.concat {w : Workspace} {t : Trace} {place : Place} (h : CreatedAt w t place)
    (e : Exchange) : CreatedAt w (t ++ [e]) place := by
  obtain ⟨a, stem, extension, directory, path, b, v, v', rfl, rest⟩ := h
  exact ⟨a, stem, extension, directory, path, b ++ [e], v, v', by simp, rest⟩

/-- Every answer to a careful scan leaves what was there. -/
theorem Framed.step {w v v' : Workspace} {t : Trace} {e : Exchange} (h : Framed w t v)
    (serves : Serves w t v) (served : Served (fun _ => True) Eq v e v')
    (careful : ∀ q ∈ e.touched?, q ∈ heldFrom [] t) : Framed w (t ++ [e]) v' := by
  obtain ⟨cwd, documents, kept, created, makers, hands, fresh⟩ := h
  have next := hands.step served.spares (i := ()) careful
  have same : Function.update (fun _ : Unit => t) () (t ++ [e]) = fun _ => t ++ [e] :=
    funext fun _ => Function.update_self _ _ _
  rw [same] at next
  -- What is written or removed is a copy, and no copy stands where something was.
  have elsewhere {place : Place} {x : Entry} (there : w.disk.entry? place = some x) :
      e.Elsewhere v place := by
    intro q hq
    obtain ⟨copy, hx⟩ := Trace.exists_holding (careful q hq)
    obtain ⟨place', stands⟩ := hands.stands () _ hx
    obtain ⟨bytes, file, -⟩ := stands.fits
    refine ⟨place', bytes, stands.leads, file, ?_⟩
    rintro rfl
    rw [fresh _ stands.made] at there
    cases there
  refine ⟨served.cwd_documents.1.trans cwd, served.cwd_documents.2.trans documents,
    fun place x there => served.entry_eq (kept place x there) (elsewhere there),
    fun place vacant stands => ?_, _, next, fun place made => ?_⟩
  · by_cases before : v.disk.entry? place = none
    · obtain ⟨stem, extension, directory, path, rfl, leads⟩ :=
        served.created_of_entry before stands
      exact ⟨t, stem, extension, directory, path, [], v, v', rfl, serves, served, before, leads⟩
    · exact (created place vacant before).concat e
  · rcases served.makersAfter_some made with made | vacant
    · exact fresh place made
    · cases there : w.disk.entry? place with
      | none => rfl
      | some x =>
        rw [kept place x there] at vacant
        cases vacant

/-- One answer before others. -/
theorem Serves.cons {w v v' : Workspace} {e : Exchange} {t : Trace}
    (first : Served (fun _ => True) Eq w e v) (others : Serves v t v') : Serves w (e :: t) v' := by
  induction others with
  | nil => exact .concat (.nil w) first
  | concat before last ih => exact .concat ih last

/-- Surroundings that answer from a workspace make and remove copies on its disk. -/
theorem serves_record {α : Type} (others : (r : Request) → r.Reply) (w : Workspace)
    (p : Program α) :
    Serves w (Program.record (Workspace.reply others) w p).1
      (Program.record (Workspace.reply others) w p).2.2 := by
  induction p generalizing w with
  | done a => exact .nil w
  | ask r next ih => exact .cons (w.served_reply others r) (ih _ _)

/-- What a careful trace leaves. -/
theorem Serves.framed {w v : Workspace} {t : Trace} (serves : Serves w t v)
    (careful : Careful [] t) : Framed w t v := by
  induction serves with
  | nil => exact framed_nil _
  | concat before last ih =>
    obtain ⟨first, now, -⟩ := Trace.careful_append.1 careful
    exact (ih first).step before last now

namespace Scan

/-- A scan is careful up to every moment. -/
theorem careful_of_run {scan : Scan} {before after : Trace} {r : Except Fault Report}
    (run : Runs scan.run (before ++ after) r) : Careful [] before :=
  (Trace.careful_append.1 ((tends_run scan _ _ run [] [] (List.Subperm.refl _)).1)).1

/-- What a scan leaves alone, up to any moment of any run.  The documents stay as they are; every
file, directory and link that was there is there with what it held; whatever is new stands where a
copy was created; and every path that was written or removed is one at which the scan had created a
copy before. -/
theorem run_framed {scan : Scan} {before after : Trace} {r : Except Fault Report}
    {w v : Workspace} (run : Runs scan.run (before ++ after) r) (serves : Serves w before v) :
    v.cwd = w.cwd ∧ v.documents = w.documents ∧
    (∀ place x, w.disk.entry? place = some x → v.disk.entry? place = some x) ∧
    (∀ place, w.disk.entry? place = none → v.disk.entry? place ≠ none →
      CreatedAt w before place) ∧
    ∀ a e b, before = a ++ e :: b → ∀ path ∈ e.touched?, ∃ stem extension directory,
      ⟨.createTemporary stem extension directory, .ok path⟩ ∈ a := by
  have careful := careful_of_run run
  obtain ⟨cwd, documents, kept, created, -⟩ := serves.framed careful
  refine ⟨cwd, documents, kept, created, ?_⟩
  rintro a e b rfl path hp
  obtain ⟨-, now, -⟩ := Trace.careful_append.1 careful
  exact (Trace.exists_created (now path hp)).resolve_left List.not_mem_nil

/-- A scan of two files, one of which is edited: its copy is created and removed, and both files are
as they were. -/
theorem framed_two_files :
    ∃ t r v, Runs (provided twoHandles).run t r ∧ Serves (twoBefore false) t v ∧
      (∃ e ∈ t, e.touched? = some "/tmp/b_00000000.py") ∧
      v.documents = (twoBefore false).documents ∧
      v.disk.entry? [['p'], "a.py".toList] = some (.file [0x78]) ∧
      v.disk.entry? [['p'], "b.py".toList] = some (.file [0x79]) := by
  have run := Program.runs_record (Workspace.reply Request.nothing) (twoBefore false)
    (provided twoHandles).run
  have serves := serves_record Request.nothing (twoBefore false) (provided twoHandles).run
  have touched : ∃ e ∈ (Program.record (Workspace.reply Request.nothing) (twoBefore false)
      (provided twoHandles).run).1, e.touched? = some "/tmp/b_00000000.py" := by
    decide +kernel
  generalize Program.record (Workspace.reply Request.nothing) (twoBefore false)
    (provided twoHandles).run = recorded at run serves touched
  obtain ⟨t, r, v⟩ := recorded
  dsimp only at run serves touched
  have whole : Runs (provided twoHandles).run (t ++ []) r := by rwa [List.append_nil]
  obtain ⟨-, documents, kept, -⟩ := run_framed whole serves
  have first := kept [['p'], "a.py".toList] (.file [0x78]) (by decide +kernel)
  have second := kept [['p'], "b.py".toList] (.file [0x79]) (by decide +kernel)
  exact ⟨t, r, v, run, serves, touched, documents, first, second⟩

end Scan

end LiveCheck
