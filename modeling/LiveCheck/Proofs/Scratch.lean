import Mathlib.Data.List.Pairwise
import LiveCheck.Proofs.Disk
import LiveCheck.Proofs.Scan.Custody
import LiveCheck.Proofs.Surroundings

/-!
# Copies on a disk that others use too

A directory for temporary copies is shared: other scans make copies in it, a name is free again
when its file is removed, and everywhere else on the disk anything may happen.  What keeps the
copies of one scan apart from all others is little.  A copy is created at a path where nothing
stands; nobody else touches the directory; and everybody touches only what he has in hand.

`Served` says how a request is answered on such a disk, `Private` what holds of the copies in hand:
each stands where its path leads, made by whoever has it in hand, with the text that was written to
it, and no two of them are one file.  `Private.step` shows that this is kept by every answer to
somebody who is careful, and `Private.spared` that it is kept by what the others do.
-/

namespace LiveCheck

open Program (Exchange)

/-! ### What has been written to a copy -/

/-- What is known of a copy in hand. -/
inductive Copy where
  /-- It was created; nothing was written to it, or the writing failed. -/
  | begun
  /-- This text was written to it in this encoding. -/
  | written (text encoding : String)
deriving DecidableEq

/-- The bytes are those of the text that was written. -/
def Copy.Fits (codecs : Encoding.Codecs) : Copy → List UInt8 → Prop
  | begun, _ => True
  | written text encoding, bytes =>
    ((codecs.find encoding).bind fun codec => codec.encode text.toList) = .ok bytes

/-- A copy in hand: its path and what is known of it. -/
abbrev Holding := String × Copy

namespace Program.Exchange

/-- The copies in hand after a request, with what was written to them. -/
def holdingsAfter (held : List Holding) : Exchange → List Holding
  | ⟨.createTemporary _ _ _, .ok path⟩ => (path, .begun) :: held
  | ⟨.writeTemporary path text encoding, .ok ()⟩ =>
    held.map fun x => if x.1 = path then (path, .written text encoding) else x
  | ⟨.writeTemporary path _ _, .error _⟩ =>
    held.map fun x => if x.1 = path then (path, .begun) else x
  | ⟨.remove path, _⟩ => held.eraseP (·.1 = path)
  | _ => held

/-- The paths are those of the copies in hand. -/
theorem map_fst_holdingsAfter (held : List Holding) (e : Exchange) :
    (e.holdingsAfter held).map Prod.fst = e.heldAfter (held.map Prod.fst) := by
  have rewritten (path : String) (copy : Copy) :
      (held.map fun x => if x.1 = path then (path, copy) else x).map Prod.fst =
        held.map Prod.fst := by
    rw [List.map_map]
    refine List.map_congr_left fun x _ => ?_
    by_cases same : x.1 = path <;> simp [same]
  obtain ⟨r, reply⟩ := e
  cases r with
  | createTemporary => cases reply <;> rfl
  | writeTemporary => cases reply <;> exact rewritten _ _
  | remove path =>
    change (held.eraseP _).map Prod.fst = (held.map Prod.fst).erase path
    rw [List.erase_eq_eraseP', List.eraseP_map]
    rfl
  | _ => rfl

end Program.Exchange

namespace Trace

/-- The copies in hand after a trace, with what was written to them. -/
def holdings (t : Trace) : List Holding := t.foldl Exchange.holdingsAfter []

/-- One more request. -/
theorem holdings_concat (t : Trace) (e : Exchange) :
    holdings (t ++ [e]) = e.holdingsAfter (holdings t) :=
  List.foldl_append

/-- The paths are those of the copies in hand. -/
theorem map_fst_holdings (t : Trace) : (holdings t).map Prod.fst = heldFrom [] t := by
  suffices ∀ held : List Holding,
      (t.foldl Exchange.holdingsAfter held).map Prod.fst = heldFrom (held.map Prod.fst) t from
    this []
  intro held
  induction t generalizing held with
  | nil => rfl
  | cons e rest ih =>
    rw [List.foldl_cons, ih, Exchange.map_fst_holdingsAfter]
    rfl

/-- Something is known of every copy in hand. -/
theorem exists_holding {t : Trace} {path : String} (h : path ∈ heldFrom [] t) :
    ∃ copy, (path, copy) ∈ holdings t := by
  rw [← map_fst_holdings] at h
  obtain ⟨⟨_, copy⟩, hx, rfl⟩ := List.mem_map.1 h
  exact ⟨copy, hx⟩

/-- What something is known of is in hand. -/
theorem mem_heldFrom {t : Trace} {x : Holding} (h : x ∈ holdings t) : x.1 ∈ heldFrom [] t :=
  map_fst_holdings t ▸ List.mem_map_of_mem h

/-- A copy that was created is in hand until its removal is tried. -/
theorem mem_heldFrom_of_created {a b : Trace} {stem extension path : String}
    {directory : Option String} {held : List String} (kept : ∀ e ∈ b, e.request ≠ .remove path) :
    path ∈ heldFrom held (a ++ ⟨.createTemporary stem extension directory, .ok path⟩ :: b) := by
  suffices stays : ∀ held, path ∈ held → path ∈ heldFrom held b by
    rw [heldFrom_append]
    exact stays _ List.mem_cons_self
  induction b with
  | nil => exact fun _ there => there
  | cons e rest ih =>
    intro held there
    refine ih (fun e he => kept e (List.mem_cons_of_mem _ he)) _ ?_
    have here := kept e List.mem_cons_self
    obtain ⟨r, reply⟩ := e
    cases r with
    | createTemporary =>
      cases reply with
      | error fault => exact there
      | ok made => exact List.mem_cons_of_mem _ there
    | remove other =>
      refine (List.mem_erase_of_ne ?_).2 there
      rintro rfl
      exact here rfl
    | _ => exact there

/-- A copy that was written holds the text until it is touched again. -/
theorem mem_holdings_of_written {a b : Trace} {path text encoding : String}
    (there : path ∈ heldFrom [] a) (untouched : ∀ e ∈ b, e.touched? ≠ some path) :
    (path, .written text encoding) ∈
      holdings (a ++ ⟨.writeTemporary path text encoding, .ok ()⟩ :: b) := by
  suffices stays : ∀ held : List Holding, (path, .written text encoding) ∈ held →
      (path, .written text encoding) ∈ b.foldl Exchange.holdingsAfter held by
    obtain ⟨copy, hx⟩ := exists_holding there
    unfold holdings
    rw [List.foldl_append]
    exact stays _ (List.mem_map.2 ⟨_, hx, if_pos rfl⟩)
  induction b with
  | nil => exact fun _ known => known
  | cons e rest ih =>
    intro held known
    refine ih (fun e he => untouched e (List.mem_cons_of_mem _ he)) _ ?_
    have other := untouched e List.mem_cons_self
    obtain ⟨r, reply⟩ := e
    cases r with
    | createTemporary =>
      cases reply with
      | error fault => exact known
      | ok made => exact List.mem_cons_of_mem _ known
    | writeTemporary path' =>
      have ne : path ≠ path' := fun same => other (congrArg some same.symm)
      cases reply <;> exact List.mem_map.2 ⟨_, known, if_neg ne⟩
    | remove path' =>
      have ne : path ≠ path' := fun same => other (congrArg some same.symm)
      exact (List.mem_eraseP_of_neg (by simpa using ne)).2 known
    | _ => exact known

end Trace

/-! ### How requests are answered -/

/-- The path leads to this place; a link at its end is not followed. -/
def Workspace.Leads (w : Workspace) (path : String) (place : Place) : Prop :=
  w.disk.locate w.cwd path false = .ok (.found place)

/-- A path leads to one place. -/
theorem Workspace.Leads.unique {w : Workspace} {path : String} {place place' : Place}
    (h : w.Leads path place) (h' : w.Leads path place') : place = place' := by
  have same := h.symm.trans h'
  injection same with same
  injection same

/-- What is written to a temporary file is the text in its encoding; nothing is written where there
is no file. -/
theorem Workspace.writeTemporary_spec {w w' : Workspace} {path text encoding : String}
    (write : w.writeTemporary path text encoding = (.ok (), w')) :
    ∃ bytes, (Copy.written text encoding).Fits w.documents.codecs bytes ∧
      ((∃ place, w.Leads path place ∧ w' = { w with disk := w.disk.fill place bytes }) ∨
        (∀ place, ¬ w.Leads path place) ∧ w' = w) := by
  unfold writeTemporary at write
  split at write
  · cases write
  next bytes encoded =>
  refine ⟨bytes, encoded, ?_⟩
  split at write
  · next place found =>
    cases write
    exact .inl ⟨place, found, rfl⟩
  · next missing =>
    cases write
    exact .inr ⟨fun place leads => missing place leads, rfl⟩

/-- The same where there is a file. -/
theorem Workspace.Leads.written {w w' : Workspace} {path text encoding : String} {place : Place}
    (leads : w.Leads path place) (write : w.writeTemporary path text encoding = (.ok (), w')) :
    ∃ bytes, (Copy.written text encoding).Fits w.documents.codecs bytes ∧
      w' = { w with disk := w.disk.fill place bytes } := by
  obtain ⟨bytes, fits, ⟨place', leads', rfl⟩ | ⟨missing, -⟩⟩ := writeTemporary_spec write
  · obtain rfl := leads.unique leads'
    exact ⟨bytes, fits, rfl⟩
  · exact absurd leads (missing place)

/-- What others do: they leave the current directory and the known encodings as they are, and the
files of the scratch directory where and as they are. -/
structure Spares (scratch : String → Prop) (w w' : Workspace) : Prop where
  cwd : w'.cwd = w.cwd
  codecs : w'.documents.codecs = w.documents.codecs
  files : ∀ path place bytes, scratch path → w.Leads path place →
    w.disk.entry? place = some (.file bytes) →
    w'.Leads path place ∧ w'.disk.entry? place = some (.file bytes)

/-- Whoever does nothing spares everything. -/
theorem Spares.refl (scratch : String → Prop) (w : Workspace) : Spares scratch w w :=
  ⟨rfl, rfl, fun _ _ _ _ leads file => ⟨leads, file⟩⟩

/-- How a request is answered, and the workspace afterwards.  A copy gets a path of the scratch
directory at which nothing stands.  What is written is the text in its encoding; a write that fails
may have written anything.  Other requests are answered in any way, and what happens to the
workspace meanwhile is up to `Outside`. -/
inductive Served (scratch : String → Prop) (Outside : Workspace → Workspace → Prop) :
    Workspace → Exchange → Workspace → Prop where
  | created {w : Workspace} {stem extension : String} {directory : Option String} {path : String}
      {place : Place} {disk : Disk} {nextTemporary : Nat} (inside : scratch path)
      (create : w.disk.create w.cwd path = .ok (place, disk)) :
      Served scratch Outside w ⟨.createTemporary stem extension directory, .ok path⟩
        { w with disk, nextTemporary }
  | uncreated {w : Workspace} {stem extension : String} {directory : Option String}
      {fault : Fault} {nextTemporary : Nat} :
      Served scratch Outside w ⟨.createTemporary stem extension directory, .error fault⟩
        { w with nextTemporary }
  | written {w w' : Workspace} {path text encoding : String}
      (write : w.writeTemporary path text encoding = (.ok (), w')) :
      Served scratch Outside w ⟨.writeTemporary path text encoding, .ok ()⟩ w'
  | unwritten {w : Workspace} {path text encoding : String} {fault : Fault} :
      Served scratch Outside w ⟨.writeTemporary path text encoding, .error fault⟩ w
  | spoilt {w : Workspace} {path text encoding : String} {fault : Fault} {place : Place}
      {bytes : List UInt8} (leads : w.Leads path place) :
      Served scratch Outside w ⟨.writeTemporary path text encoding, .error fault⟩
        { w with disk := w.disk.fill place bytes }
  | removed {w : Workspace} {path : String} {disk : Disk}
      (remove : w.disk.remove w.cwd path = .ok disk) :
      Served scratch Outside w ⟨.remove path, .ok ()⟩ { w with disk }
  | unremoved {w : Workspace} {path : String} {fault : Fault} :
      Served scratch Outside w ⟨.remove path, .error fault⟩ w
  | encoding {w w' : Workspace} {h : Handle} {reply : Except Fault String}
      (outside : Outside w w') : Served scratch Outside w ⟨.encoding h, reply⟩ w'
  | other {w w' : Workspace} {r : Request} {reply : r.Reply} (asked : r.concern ≠ .copy)
      (outside : Outside w w') : Served scratch Outside w ⟨r, reply⟩ w'

/-- Whoever does nothing spares all files. -/
theorem Served.spares {scratch : String → Prop} {w w' : Workspace} {e : Exchange}
    (served : Served scratch Eq w e w') : Served scratch (Spares scratch) w e w' := by
  cases served with
  | created inside create => exact .created inside create
  | uncreated => exact .uncreated
  | written write => exact .written write
  | unwritten => exact .unwritten
  | spoilt leads => exact .spoilt leads
  | removed remove => exact .removed remove
  | unremoved => exact .unremoved
  | encoding outside => exact .encoding (outside ▸ Spares.refl scratch w)
  | other asked outside => exact .other asked (outside ▸ Spares.refl scratch w)

/-- Surroundings that answer from a workspace leave it alone but for the copies. -/
theorem Workspace.served_reply (others : (r : Request) → r.Reply) (w : Workspace) (r : Request) :
    Served (fun _ => True) Eq w ⟨r, (w.reply others r).1⟩ (w.reply others r).2 := by
  cases r with
  | createTemporary stem extension directory =>
    unfold reply
    dsimp only
    split
    · next path w' made =>
      split
      · obtain ⟨place, disk, next, create, rfl⟩ := createTemporary_spec made
        exact .created trivial create
      · exact .uncreated
    · exact .uncreated
  | writeTemporary path text encoding =>
    change Served _ _ w
      ⟨.writeTemporary path text encoding, (w.writeTemporary path text encoding).1⟩
      (w.writeTemporary path text encoding).2
    cases write : w.writeTemporary path text encoding with
    | mk reply w' =>
      cases reply with
      | ok u => exact .written write
      | error fault =>
        unfold writeTemporary at write
        split at write
        · cases write
          exact .unwritten
        · split at write <;> cases write
  | remove path =>
    change Served _ _ w ⟨.remove path, (w.remove path).1⟩ (w.remove path).2
    unfold remove
    split
    · next disk removed => exact .removed removed
    · exact .unremoved
  | encoding => exact .encoding rfl
  | _ => exact .other (by simp [Request.concern]) rfl

/-- Who made the file at a place, as far as it was made here: whoever creates a copy has made what
stands there, and when it is removed nobody has. -/
def Program.Exchange.makersAfter {ι : Type} (i : ι) (w w' : Workspace)
    (makers : Place → Option ι) : Exchange → Place → Option ι
  | ⟨.createTemporary _ _ _, .ok path⟩ =>
    match w'.disk.locate w'.cwd path false with
    | .ok (.found place) => Function.update makers place (some i)
    | _ => makers
  | ⟨.remove path, .ok ()⟩ =>
    match w.disk.locate w.cwd path false with
    | .ok (.found place) => Function.update makers place none
    | _ => makers
  | _ => makers

section Makers

variable {ι : Type} {i : ι} {w w' : Workspace} {path : String} {place : Place}

/-- Whoever creates a copy has made it. -/
theorem Workspace.Leads.makersAfter_created (leads : w'.Leads path place)
    (makers : Place → Option ι) (stem extension : String) (directory : Option String) :
    Exchange.makersAfter i w w' makers ⟨.createTemporary stem extension directory, .ok path⟩ =
      Function.update makers place (some i) := by
  have found : w'.disk.locate w'.cwd path false = .ok (.found place) := leads
  unfold Exchange.makersAfter
  dsimp only
  rw [found]

/-- Nobody has made what is removed. -/
theorem Workspace.Leads.makersAfter_removed (leads : w.Leads path place)
    (makers : Place → Option ι) :
    Exchange.makersAfter i w w' makers ⟨.remove path, .ok ()⟩ =
      Function.update makers place none := by
  have found : w.disk.locate w.cwd path false = .ok (.found place) := leads
  unfold Exchange.makersAfter
  dsimp only
  rw [found]

end Makers

/-! ### Files that nobody touches -/

section Untouched

variable {scratch : String → Prop} {w w' : Workspace} {e : Exchange} {path : String}
  {place : Place} {bytes : List UInt8}

/-- The copy that a request writes or removes, if it does, is another file. -/
def Program.Exchange.Elsewhere (e : Exchange) (w : Workspace) (place : Place) : Prop :=
  ∀ q ∈ e.touched?, ∃ place' bytes', w.Leads q place' ∧
    w.disk.entry? place' = some (.file bytes') ∧ place' ≠ place

/-- A file keeps its place and its bytes when another one is filled. -/
theorem Workspace.keeps_fill {place' : Place} {bytes' : List UInt8} (leads : w.Leads path place)
    (file : w.disk.entry? place = some (.file bytes))
    (file' : w.disk.entry? place' = some (.file bytes')) (other : place' ≠ place)
    (content : List UInt8) :
    { w with disk := w.disk.fill place' content }.Leads path place ∧
      Disk.entry? (w.disk.fill place' content) place = some (.file bytes) := by
  refine ⟨((Disk.extends_fill w.disk place' content).but fun _ => False).locate leads not_false, ?_⟩
  rw [Disk.lookup_fill file', if_neg (Ne.symm other)]
  exact file

/-- The encodings that are known stay the same whatever is answered. -/
theorem Served.codecs_eq (served : Served scratch (Spares scratch) w e w') :
    w'.documents.codecs = w.documents.codecs := by
  cases served with
  | created | uncreated | unwritten | spoilt | removed | unremoved => rfl
  | written write =>
    obtain ⟨bytes, -, ⟨place, -, rfl⟩ | ⟨-, rfl⟩⟩ := Workspace.writeTemporary_spec write
    · rfl
    · rfl
  | encoding outside => exact outside.codecs
  | other asked outside => exact outside.codecs

/-- A file of the scratch directory keeps its place and its bytes whatever is answered, if it is
not the one that is written or removed. -/
theorem Served.keeps (served : Served scratch (Spares scratch) w e w') (inside : scratch path)
    (leads : w.Leads path place) (file : w.disk.entry? place = some (.file bytes))
    (elsewhere : e.Elsewhere w place) :
    w'.Leads path place ∧ w'.disk.entry? place = some (.file bytes) := by
  cases served with
  | @created _ _ _ _ fresh _ _ _ create =>
    obtain ⟨missing, rfl, -, -⟩ := Disk.create_eq create
    have more := (Disk.create_spec create).2.2
    refine ⟨(more.but fun _ => False).locate leads not_false, ?_⟩
    have root : place ≠ [] := by
      rintro rfl
      cases file
    have other : place ≠ fresh := by
      rintro rfl
      rw [file] at missing
      cases missing
    rw [Disk.lookup_putEntry, if_neg root, if_neg other]
    exact file
  | uncreated | unwritten | unremoved => exact ⟨leads, file⟩
  | @written _ q text encoding write =>
    obtain ⟨place', bytes', leads', file', other⟩ := elsewhere q rfl
    obtain ⟨content, -, rfl⟩ := leads'.written write
    exact Workspace.keeps_fill leads file file' other content
  | @spoilt q text encoding fault place₁ content leads₁ =>
    obtain ⟨place', bytes', leads', file', other⟩ := elsewhere q rfl
    obtain rfl := leads₁.unique leads'
    exact Workspace.keeps_fill leads file file' other _
  | @removed q disk remove =>
    obtain ⟨place', bytes', leads', file', other⟩ := elsewhere q rfl
    obtain ⟨place₁, found, gone⟩ := Disk.remove_eq remove
    obtain rfl : place₁ = place' := Workspace.Leads.unique found leads'
    refine ⟨(Disk.extendsBut_remove file' gone).locate leads (Ne.symm other), ?_⟩
    rw [gone, if_neg (Ne.symm other)]
    exact file
  | encoding outside => exact outside.files _ _ _ inside leads file
  | other asked outside => exact outside.files _ _ _ inside leads file

/-- A write or a removal changes nothing but the file that it touches. -/
theorem Served.entry_of_ne {Outside : Workspace → Workspace → Prop} {q : String} {place' : Place}
    {bytes' : List UInt8} (served : Served scratch Outside w e w') (touches : e.touched? = some q)
    (leads' : w.Leads q place') (file' : w.disk.entry? place' = some (.file bytes'))
    (other : place ≠ place') : w'.disk.entry? place = w.disk.entry? place := by
  cases served with
  | created | uncreated | encoding => cases touches
  | unwritten | unremoved => rfl
  | written write =>
    cases touches
    obtain ⟨content, -, rfl⟩ := leads'.written write
    exact (Disk.lookup_fill file' _ _).trans (if_neg other)
  | spoilt leads =>
    cases touches
    obtain rfl := leads.unique leads'
    exact (Disk.lookup_fill file' _ _).trans (if_neg other)
  | removed remove =>
    cases touches
    obtain ⟨place₁, found, gone⟩ := Disk.remove_eq remove
    obtain rfl : place₁ = place' := Workspace.Leads.unique found leads'
    rw [gone, if_neg other]
  | @other _ r reply asked outside =>
    cases r with
    | writeTemporary | remove => exact absurd rfl asked
    | _ => cases touches

/-- Whoever made a file made it also afterwards, if it is not the one that is removed. -/
theorem Served.makersAfter_eq {ι : Type} {Outside : Workspace → Workspace → Prop}
    (served : Served scratch Outside w e w') (file : w.disk.entry? place = some (.file bytes))
    (elsewhere : e.Elsewhere w place) (i : ι) (makers : Place → Option ι) :
    e.makersAfter i w w' makers place = makers place := by
  cases served with
  | @created stem extension directory path fresh disk next _ create =>
    obtain ⟨missing, -, -, found⟩ := Disk.create_eq create
    have other : place ≠ fresh := by
      rintro rfl
      rw [file] at missing
      cases missing
    have leads : Workspace.Leads { w with disk, nextTemporary := next } path fresh := found
    rw [leads.makersAfter_created]
    exact Function.update_of_ne other _ _
  | @removed q disk remove =>
    obtain ⟨place', bytes', leads', -, other⟩ := elsewhere q rfl
    rw [leads'.makersAfter_removed]
    exact Function.update_of_ne (Ne.symm other) _ _
  | uncreated | written | unwritten | spoilt | unremoved | encoding => rfl
  | @other _ r reply asked outside =>
    cases r with
    | createTemporary | remove => exact absurd rfl asked
    | _ => rfl

end Untouched

/-! ### Copies in hand -/

section Hands

variable {ι : Type} {scratch : String → Prop} {w w' : Workspace} {makers : Place → Option ι}
  {past : ι → Trace}

/-- A copy stands at a place: its path leads there, whoever has it in hand made the file, and the
file holds what was written. -/
structure Stands (scratch : String → Prop) (w : Workspace) (makers : Place → Option ι) (i : ι)
    (x : Holding) (place : Place) : Prop where
  inside : scratch x.1
  leads : w.Leads x.1 place
  made : makers place = some i
  fits : ∃ bytes, w.disk.entry? place = some (.file bytes) ∧ x.2.Fits w.documents.codecs bytes

/-- Two paths lead to different places. -/
def Apart (w : Workspace) (path path' : String) : Prop :=
  ∀ place, w.Leads path place → ¬ w.Leads path' place

instance : Std.Symm (Apart w) where
  symm _ _ apart place leads leads' := apart place leads' leads

/-- The copies in hand: each of them stands somewhere, and nobody has two paths of one file. -/
structure Private (scratch : String → Prop) (w : Workspace) (makers : Place → Option ι)
    (past : ι → Trace) : Prop where
  stands : ∀ i, ∀ x ∈ Trace.holdings (past i), ∃ place, Stands scratch w makers i x place
  apart : ∀ i, (Trace.heldFrom [] (past i)).Pairwise (Apart w)

/-- In the beginning there are no copies. -/
theorem private_nil : Private scratch w makers fun _ => [] :=
  ⟨fun _ _ h => (List.not_mem_nil h).elim, fun _ => List.Pairwise.nil⟩

/-- Paths stay apart while each of them leads where it led. -/
theorem apart_of_leads {paths : List String} (h : paths.Pairwise (Apart w))
    (same : ∀ p ∈ paths, ∃ place, w.Leads p place ∧ w'.Leads p place) :
    paths.Pairwise (Apart w') := by
  refine h.imp_of_mem fun {p q} hp hq apart place leads leads' => ?_
  obtain ⟨place₁, before₁, after₁⟩ := same p hp
  obtain ⟨place₂, before₂, after₂⟩ := same q hq
  obtain rfl := after₁.unique leads
  obtain rfl := after₂.unique leads'
  exact apart _ before₁ before₂

/-- Nobody has a copy in hand twice. -/
theorem Private.nodup (h : Private scratch w makers past) (i : ι) :
    (Trace.heldFrom [] (past i)).Nodup := by
  refine (h.apart i).imp_of_mem fun {p q} hp _ apart same => ?_
  obtain ⟨copy, hx⟩ := Trace.exists_holding hp
  obtain ⟨place, stands⟩ := h.stands i _ hx
  exact apart place stands.leads (same ▸ stands.leads)

/-- Different copies in hand stand at different places, whoever has them. -/
theorem Private.place_ne (h : Private scratch w makers past) {i j : ι} {x y : Holding}
    {place place' : Place} (hx : x ∈ Trace.holdings (past i)) (hy : y ∈ Trace.holdings (past j))
    (sx : Stands scratch w makers i x place) (sy : Stands scratch w makers j y place')
    (other : i = j → x.1 ≠ y.1) : place ≠ place' := by
  rintro rfl
  obtain rfl : i = j := Option.some.inj (sx.made.symm.trans sy.made)
  have apart : Apart w x.1 y.1 :=
    (h.apart i).forall (Trace.mem_heldFrom hx) (Trace.mem_heldFrom hy) (other rfl)
  exact apart place sx.leads sy.leads

/-- What others do leaves the copies in hand as they are. -/
theorem Private.spared (h : Private scratch w makers past) (spares : Spares scratch w w') :
    Private scratch w' makers past := by
  refine ⟨fun i x hx => ?_, fun i => apart_of_leads (h.apart i) fun p hp => ?_⟩
  · obtain ⟨place, inside, leads, made, bytes, file, fits⟩ := h.stands i x hx
    obtain ⟨leads', file'⟩ := spares.files _ _ _ inside leads file
    exact ⟨place, inside, leads', made, bytes, file', spares.codecs ▸ fits⟩
  · obtain ⟨copy, hx⟩ := Trace.exists_holding hp
    obtain ⟨place, inside, leads, made, bytes, file, fits⟩ := h.stands i _ hx
    exact ⟨place, leads, (spares.files _ _ _ inside leads file).1⟩

/-- What somebody writes or removes is not the copy that another one has in hand, nor another one
of his own. -/
theorem Private.elsewhere (h : Private scratch w makers past) {i j : ι} {e : Exchange}
    (careful : ∀ q ∈ e.touched?, q ∈ Trace.heldFrom [] (past i)) {x : Holding} {place : Place}
    (hx : x ∈ Trace.holdings (past j)) (sx : Stands scratch w makers j x place)
    (other : i = j → x.1 ∉ e.touched?) : e.Elsewhere w place := by
  intro q hq
  obtain ⟨copy, hy⟩ := Trace.exists_holding (careful q hq)
  obtain ⟨place', sy⟩ := h.stands i _ hy
  obtain ⟨bytes, file, -⟩ := sy.fits
  refine ⟨place', bytes, sy.leads, file, h.place_ne hy hx sy sx fun same => ?_⟩
  rintro rfl
  exact other same hq

/-- A copy that is not touched stands where it stood. -/
theorem Stands.keeps {i j : ι} {e : Exchange} {x : Holding} {place : Place}
    (sx : Stands scratch w makers j x place) (served : Served scratch (Spares scratch) w e w')
    (elsewhere : e.Elsewhere w place) :
    Stands scratch w' (e.makersAfter i w w' makers) j x place := by
  obtain ⟨inside, leads, made, bytes, file, fits⟩ := sx
  obtain ⟨leads', file'⟩ := served.keeps inside leads file elsewhere
  exact ⟨inside, leads', (served.makersAfter_eq file elsewhere i makers).trans made, bytes, file',
    served.codecs_eq ▸ fits⟩

/-- A copy that was just created stands where nothing stood. -/
theorem Served.stands_created {Outside : Workspace → Workspace → Prop} {stem extension : String}
    {directory : Option String} {path : String}
    (served : Served scratch Outside w ⟨.createTemporary stem extension directory, .ok path⟩ w')
    (i : ι) (makers : Place → Option ι) :
    ∃ place, w.disk.entry? place = none ∧ (∀ place', ¬ w.Leads path place') ∧
      Stands scratch w' (Exchange.makersAfter i w w' makers
        ⟨.createTemporary stem extension directory, .ok path⟩) i (path, .begun) place := by
  cases served with
  | @created _ _ _ _ place disk next inside create =>
    obtain ⟨missing, made, free, found⟩ := Disk.create_eq create
    have root : place ≠ [] := by
      rintro rfl
      cases missing
    have leads : Workspace.Leads { w with disk, nextTemporary := next } path place := found
    refine ⟨place, missing, fun place' leads => free ⟨place', leads⟩, inside, leads, ?_, [], ?_,
      trivial⟩
    · rw [leads.makersAfter_created]
      exact Function.update_self _ _ _
    · change disk.entry? place = some (.file [])
      rw [made, Disk.lookup_putEntry, if_neg root, if_pos rfl]
  | other asked => exact absurd rfl asked

/-- A copy that was written stands where it stood and holds the text. -/
theorem Served.stands_written {Outside : Workspace → Workspace → Prop}
    {path text encoding : String} {i : ι} {copy : Copy} {place : Place}
    (served : Served scratch Outside w ⟨.writeTemporary path text encoding, .ok ()⟩ w')
    (sx : Stands scratch w makers i (path, copy) place) :
    Stands scratch w' makers i (path, .written text encoding) place := by
  obtain ⟨inside, leads, made, bytes, file, -⟩ := sx
  cases served with
  | written write =>
    obtain ⟨content, encoded, rfl⟩ := leads.written write
    have more := Disk.extends_fill w.disk place content
    refine ⟨inside, (more.but fun _ => False).locate leads not_false, made, content, ?_, encoded⟩
    exact (Disk.lookup_fill file _ _).trans (if_pos rfl)
  | other asked => exact absurd rfl asked

/-- A copy that could not be written stands where it stood. -/
theorem Served.stands_unwritten {Outside : Workspace → Workspace → Prop}
    {path text encoding : String} {fault : Fault} {i : ι} {copy : Copy} {place : Place}
    (served : Served scratch Outside w ⟨.writeTemporary path text encoding, .error fault⟩ w')
    (sx : Stands scratch w makers i (path, copy) place) :
    Stands scratch w' makers i (path, .begun) place := by
  obtain ⟨inside, leads, made, bytes, file, -⟩ := sx
  cases served with
  | unwritten => exact ⟨inside, leads, made, bytes, file, trivial⟩
  | @spoilt _ _ _ _ place' content leads' =>
    obtain rfl := leads.unique leads'
    have more := Disk.extends_fill w.disk place content
    refine ⟨inside, (more.but fun _ => False).locate leads not_false, made, content, ?_, trivial⟩
    exact (Disk.lookup_fill file _ _).trans (if_pos rfl)
  | other asked => exact absurd rfl asked

/-- A copy in hand that is not touched stands where it stood. -/
theorem Private.untouched (h : Private scratch w makers past) {i j : ι} {e : Exchange}
    (served : Served scratch (Spares scratch) w e w')
    (careful : ∀ q ∈ e.touched?, q ∈ Trace.heldFrom [] (past i)) {x : Holding}
    (hx : x ∈ Trace.holdings (past j)) (other : i = j → x.1 ∉ e.touched?) :
    ∃ place, Stands scratch w makers j x place ∧
      Stands scratch w' (e.makersAfter i w w' makers) j x place := by
  obtain ⟨place, sx⟩ := h.stands j x hx
  exact ⟨place, sx, sx.keeps served (h.elsewhere careful hx sx other)⟩

/-- Whatever somebody is answered, each copy that he has in hand then stands somewhere, and if its
path led somewhere before, it is there. -/
theorem Private.own (h : Private scratch w makers past) {i : ι} {e : Exchange}
    (served : Served scratch (Spares scratch) w e w')
    (careful : ∀ q ∈ e.touched?, q ∈ Trace.heldFrom [] (past i)) {x : Holding}
    (hx : x ∈ e.holdingsAfter (Trace.holdings (past i))) :
    ∃ place, Stands scratch w' (e.makersAfter i w w' makers) i x place ∧
      ∀ place', w.Leads x.1 place' → place' = place := by
  have kept {x : Holding} (hx : x ∈ Trace.holdings (past i)) (other : x.1 ∉ e.touched?) :
      ∃ place, Stands scratch w' (e.makersAfter i w w' makers) i x place ∧
        ∀ place', w.Leads x.1 place' → place' = place := by
    obtain ⟨place, before, after⟩ := h.untouched served careful hx fun _ => other
    exact ⟨place, after, fun place' leads => leads.unique before.leads⟩
  obtain ⟨r, reply⟩ := e
  cases r with
  | createTemporary stem extension directory =>
    cases reply with
    | error fault => exact kept hx (by simp [Exchange.touched?])
    | ok path =>
      rcases List.mem_cons.1 hx with rfl | hx
      · obtain ⟨place, -, free, stands⟩ := served.stands_created i makers
        exact ⟨place, stands, fun place' leads => absurd leads (free place')⟩
      · exact kept hx (by simp [Exchange.touched?])
  | writeTemporary path text encoding =>
    cases reply with
    | error fault =>
      obtain ⟨y, hy, rfl⟩ := List.mem_map.1 hx
      by_cases same : y.1 = path
      · obtain ⟨place, sy⟩ := h.stands i y hy
        obtain ⟨_, copy⟩ := y
        cases same
        rw [if_pos rfl]
        exact ⟨place, served.stands_unwritten sy, fun place' leads => leads.unique sy.leads⟩
      · rw [if_neg same]
        exact kept hy (by simpa [Exchange.touched?] using Ne.symm same)
    | ok u =>
      obtain ⟨y, hy, rfl⟩ := List.mem_map.1 hx
      by_cases same : y.1 = path
      · obtain ⟨place, sy⟩ := h.stands i y hy
        obtain ⟨_, copy⟩ := y
        cases same
        rw [if_pos rfl]
        exact ⟨place, served.stands_written sy, fun place' leads => leads.unique sy.leads⟩
      · rw [if_neg same]
        exact kept hy (by simpa [Exchange.touched?] using Ne.symm same)
  | remove path =>
    have left := List.mem_map_of_mem (f := Prod.fst) hx
    rw [Exchange.map_fst_holdingsAfter, Trace.map_fst_holdings] at left
    obtain ⟨other, -⟩ := (h.nodup i).mem_erase_iff.1 left
    exact kept (List.mem_of_mem_eraseP hx) (by simpa [Exchange.touched?] using Ne.symm other)
  | _ => exact kept hx (by simp [Exchange.touched?])

/-- Paths in hand stay apart. -/
theorem Private.apart_own (h : Private scratch w makers past) {i : ι} {e : Exchange}
    (served : Served scratch (Spares scratch) w e w')
    (careful : ∀ q ∈ e.touched?, q ∈ Trace.heldFrom [] (past i)) :
    (e.heldAfter (Trace.heldFrom [] (past i))).Pairwise (Apart w') := by
  -- A path that was in hand before and is in hand still leads where it led.
  have same {p : String} (hp : p ∈ Trace.heldFrom [] (past i))
      (hp' : p ∈ e.heldAfter (Trace.heldFrom [] (past i))) :
      ∃ place, w.Leads p place ∧ w'.Leads p place := by
    obtain ⟨copy, hx⟩ := Trace.exists_holding hp
    obtain ⟨place, sx⟩ := h.stands i _ hx
    rw [← Trace.map_fst_holdings, ← Exchange.map_fst_holdingsAfter] at hp'
    obtain ⟨y, hy, rfl⟩ := List.mem_map.1 hp'
    obtain ⟨place', sy, there⟩ := h.own served careful hy
    obtain rfl := there place sx.leads
    exact ⟨place, sx.leads, sy.leads⟩
  have before := h.apart i
  obtain ⟨r, reply⟩ := e
  cases r with
  | createTemporary stem extension directory =>
    cases reply with
    | error fault => exact apart_of_leads before fun p hp => same hp hp
    | ok path =>
      refine List.pairwise_cons.2 ⟨fun q hq place leads leads' => ?_,
        apart_of_leads before fun p hp => same hp (List.mem_cons_of_mem _ hp)⟩
      -- The new file stands where nothing stood, and the others stood somewhere.
      obtain ⟨fresh, missing, -, stands⟩ := served.stands_created i makers
      obtain rfl := stands.leads.unique leads
      obtain ⟨copy, hx⟩ := Trace.exists_holding hq
      obtain ⟨place', sx⟩ := h.stands i _ hx
      obtain ⟨bytes, file, -⟩ := sx.fits
      obtain ⟨place₁, before₁, after₁⟩ := same hq (List.mem_cons_of_mem _ hq)
      obtain rfl := before₁.unique sx.leads
      obtain rfl := after₁.unique leads'
      rw [file] at missing
      cases missing
  | remove path =>
    refine apart_of_leads (before.sublist List.erase_sublist) fun p hp => ?_
    exact same (List.mem_of_mem_erase hp) hp
  | _ => exact apart_of_leads before fun p hp => same hp hp

/-- What somebody changes who is careful is a file that he made. -/
theorem Private.made_of_changed (h : Private scratch w makers past) {i : ι} {e : Exchange}
    {Outside : Workspace → Workspace → Prop} (served : Served scratch Outside w e w')
    (careful : ∀ q ∈ e.touched?, q ∈ Trace.heldFrom [] (past i)) (touches : e.touched? ≠ none)
    {place : Place} (changed : w'.disk.entry? place ≠ w.disk.entry? place) :
    makers place = some i := by
  obtain ⟨q, touches⟩ := Option.ne_none_iff_exists'.1 touches
  obtain ⟨copy, hx⟩ := Trace.exists_holding (careful q touches)
  obtain ⟨place', stands⟩ := h.stands i _ hx
  obtain ⟨bytes, file, -⟩ := stands.fits
  by_contra other
  refine changed (served.entry_of_ne touches stands.leads file ?_)
  rintro rfl
  exact other stands.made

/-- What somebody is answered who is careful leaves the copies in hand private. -/
theorem Private.step [DecidableEq ι] (h : Private scratch w makers past) {i : ι} {e : Exchange}
    (served : Served scratch (Spares scratch) w e w')
    (careful : ∀ q ∈ e.touched?, q ∈ Trace.heldFrom [] (past i)) :
    Private scratch w' (e.makersAfter i w w' makers)
      (Function.update past i (past i ++ [e])) := by
  refine ⟨fun j x hx => ?_, fun j => ?_⟩
  · by_cases same : j = i
    · subst same
      rw [Function.update_self, Trace.holdings_concat] at hx
      obtain ⟨place, stands, -⟩ := h.own served careful hx
      exact ⟨place, stands⟩
    · rw [Function.update_of_ne same] at hx
      obtain ⟨place, -, stands⟩ := h.untouched served careful hx fun eq => absurd eq.symm same
      exact ⟨place, stands⟩
  · by_cases same : j = i
    · subst same
      rw [Function.update_self, Trace.heldFrom_append]
      exact h.apart_own served careful
    · rw [Function.update_of_ne same]
      refine apart_of_leads (h.apart j) fun p hp => ?_
      obtain ⟨copy, hx⟩ := Trace.exists_holding hp
      obtain ⟨place, before, after⟩ :=
        h.untouched served careful hx fun eq => absurd eq.symm same
      exact ⟨place, before.leads, after.leads⟩

end Hands

end LiveCheck
