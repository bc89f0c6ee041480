import LiveCheck.Disk.Basic
import LiveCheck.Proofs.Table

/-!
# Paths that stay

A path that leads to something on a disk leads there as long as nothing on its way is taken away.
`Extends` says that a disk has everything that another one has; only the bytes of files may
differ.  To create a file where nothing stands, and to fill one, extend the disk.  So a path at
which a file was created leads to it from then on, and nothing can be created there again.

When a file is removed the disk has less, but a file is never on the way to something else.
`ExtendsBut` allows for places whose files are missing; paths to other places lead there as
before.  At the end stand the three changes that are made to files one by one, creating, filling
and removing, each with all that it does.
-/

namespace LiveCheck

/-- Two computations one after the other succeed if both do. -/
theorem bind_eq_ok {ε α β : Type} {e : Except ε α} {f : α → Except ε β} {b : β} :
    e >>= f = .ok b ↔ ∃ a, e = .ok a ∧ f a = .ok b := by
  cases e with
  | error fault => exact ⟨nofun, nofun⟩
  | ok a =>
    constructor
    · intro done
      exact ⟨a, rfl, done⟩
    · rintro ⟨_, ⟨⟩, done⟩
      exact done

/-- Two computations one after the other fail if one of them does. -/
theorem bind_eq_error {ε α β : Type} {e : Except ε α} {f : α → Except ε β} {fault : ε} :
    e >>= f = .error fault ↔ e = .error fault ∨ ∃ a, e = .ok a ∧ f a = .error fault := by
  cases e with
  | error fault' =>
    constructor
    · rintro ⟨⟩
      exact .inl rfl
    · rintro (⟨⟨⟩⟩ | ⟨_, ⟨⟩, _⟩)
      rfl
  | ok a =>
    constructor
    · intro failed
      exact .inr ⟨a, rfl, failed⟩
    · rintro (⟨⟨⟩⟩ | ⟨_, ⟨⟩, failed⟩)
      exact failed

namespace Disk

/-! ### Disks that have more -/

/-- The same up to the bytes of a file. -/
def Entry.Alike : Entry → Entry → Prop
  | .file _, .file _ => True
  | e, e' => e = e'

/-- The second disk has everything that the first one has. -/
def Extends (d d' : Disk) : Prop :=
  ∀ place e, d.entry? place = some e → ∃ e', d'.entry? place = some e' ∧ Entry.Alike e e'

/-- The second disk has everything that the first one has, but perhaps not the files at some
places. -/
def ExtendsBut (gone : Place → Prop) (d d' : Disk) : Prop :=
  ∀ place e, d.entry? place = some e →
    (∃ e', d'.entry? place = some e' ∧ Entry.Alike e e') ∨
      gone place ∧ ∃ content, e = .file content

/-- A disk that has everything has everything but some files. -/
theorem Extends.but {d d' : Disk} (h : Extends d d') (gone : Place → Prop) :
    ExtendsBut gone d d' := fun place e he => Or.inl (h place e he)

/-- Everything is like itself. -/
theorem Entry.Alike.refl (e : Entry) : Entry.Alike e e := by
  cases e <;> trivial

/-- Only a directory is like a directory. -/
theorem Entry.Alike.directory {e : Entry} (h : Entry.Alike .directory e) : e = .directory := by
  cases e with
  | directory => rfl
  | file | link => cases h

/-- Only the same link is like a link. -/
theorem Entry.Alike.link {target : String} {e : Entry} (h : Entry.Alike (.link target) e) :
    e = .link target := by
  cases e with
  | link => exact h.symm
  | directory | file => cases h

/-- A disk has everything that it has. -/
theorem Extends.refl (d : Disk) : Extends d d := fun _ e h => ⟨e, h, Entry.Alike.refl e⟩

/-- The entry at a place that was written, and those at all others. -/
theorem lookup_putEntry (d : Disk) (place : Place) (e : Entry) (q : Place) :
    Disk.entry? (d.putEntry place e) q =
      if q = [] then some .directory else if q = place then some e else d.entry? q := by
  unfold entry? putEntry
  by_cases hq : q = []
  · rw [if_pos hq, if_pos hq]
  · rw [if_neg hq, if_neg hq, if_neg hq]
    by_cases hp : q = place
    · subst hp
      rw [if_pos rfl, Table.get?_put_self]
    · rw [if_neg hp, Table.get?_put_of_ne _ _ hp]

/-- A disk has more after something was put where nothing stood, or one file in place of another. -/
theorem extends_putEntry {d : Disk} {place : Place} {e : Entry}
    (h : ∀ old, d.entry? place = some old → Entry.Alike old e) :
    Extends d (d.putEntry place e) := by
  intro q old hold
  rw [lookup_putEntry]
  by_cases hq : q = []
  · rw [if_pos hq]
    unfold entry? at hold
    rw [if_pos hq] at hold
    cases hold
    exact ⟨_, rfl, Entry.Alike.refl _⟩
  · rw [if_neg hq]
    by_cases hp : q = place
    · subst hp
      rw [if_pos rfl]
      exact ⟨e, rfl, h old hold⟩
    · rw [if_neg hp]
      exact ⟨old, hold, Entry.Alike.refl old⟩

/-- To fill a file extends the disk. -/
theorem extends_fill (d : Disk) (place : Place) (content : List UInt8) :
    Extends d (d.fill place content) := by
  unfold fill
  split
  · next old h =>
    refine extends_putEntry fun e he => ?_
    rw [h] at he
    cases he
    trivial
  · exact Extends.refl d

/-! ### Walks on disks that have more -/

/-- A walk that goes on where a file stands ends there. -/
theorem found_of_walk_file {d : Disk} {followLast : Bool} {place : Place} {pieces : List Name}
    {content : List UInt8} (file : d.entry? place = some (.file content)) {w : Walk}
    (hw : d.walk followLast place pieces = w)
    (some : (∃ p, w = .ended (.found p)) ∨ ∃ p target rest, w = .met p target rest) :
    w = .ended (.found place) := by
  cases pieces with
  | nil => exact hw.symm
  | cons piece rest =>
    rw [Disk.walk, file, if_pos (by simp)] at hw
    subst hw
    rcases some with ⟨_, h⟩ | ⟨_, _, _, h⟩ <;> cases h

/-- A walk that ends at something that is not missing, or meets a link, goes the same way where
there is more. -/
theorem ExtendsBut.walk {gone : Place → Prop} {d d' : Disk} (h : ExtendsBut gone d d')
    {followLast : Bool} {place : Place} {pieces : List Name} {w : Walk}
    (hw : d.walk followLast place pieces = w)
    (some : (∃ p, w = .ended (.found p)) ∨ ∃ p target rest, w = .met p target rest)
    (there : ∀ p, w = .ended (.found p) → ¬ gone p) : d'.walk followLast place pieces = w := by
  induction pieces generalizing place with
  | nil => exact hw
  | cons piece rest ih =>
    rw [Disk.walk] at hw ⊢
    by_cases hd : d.entry? place = .some .directory
    · have hd' : d'.entry? place = .some .directory := by
        obtain ⟨e', he', alike⟩ | ⟨-, _, file⟩ := h place _ hd
        · rw [he', alike.directory]
        · cases file
      rw [if_neg (not_not.2 hd)] at hw
      rw [if_neg (not_not.2 hd')]
      split at hw
      · next idle =>
        rw [if_pos idle]
        exact ih hw
      next named =>
      rw [if_neg named]
      split at hw
      · next up =>
        rw [if_pos up]
        exact ih hw
      next down =>
      rw [if_neg down]
      split at hw
      · subst hw
        rcases some with ⟨_, h⟩ | ⟨_, _, _, h⟩ <;> cases h
      next short =>
      rw [if_neg short]
      dsimp only at hw ⊢
      cases hn : d.entry? (place ++ [piece]) with
      | none =>
        rw [hn] at hw
        dsimp only at hw
        split at hw <;> subst hw <;> rcases some with ⟨_, h⟩ | ⟨_, _, _, h⟩ <;> cases h
      | some e =>
        rw [hn] at hw
        obtain ⟨e'', he'', alike'⟩ | ⟨missing, _, rfl⟩ := h _ e hn
        · rw [he'']
          cases e with
          | link target =>
            rw [alike'.link]
            exact hw
          | directory =>
            rw [alike'.directory]
            exact ih hw
          | file content =>
            cases e'' with
            | file content' => exact ih hw
            | directory | link => cases alike'
        · exact absurd missing (there _ (found_of_walk_file hn hw some))
    · rw [if_pos hd] at hw
      subst hw
      rcases some with ⟨_, h⟩ | ⟨_, _, _, h⟩ <;> cases h

/-- A path that leads to something that is not missing leads to it where there is more, also through
links. -/
theorem ExtendsBut.follow {gone : Place → Prop} {d d' : Disk} (h : ExtendsBut gone d d')
    {followLast : Bool} {links : Nat} {place found : Place} {pieces : List Name}
    (hf : d.follow followLast links place pieces = .ok (.found found)) (there : ¬ gone found) :
    d'.follow followLast links place pieces = .ok (.found found) := by
  have ended : ∀ p, Walk.ended (.found found) = .ended (.found p) → ¬ gone p := by
    intro p same
    cases same
    exact there
  induction links generalizing place pieces with
  | zero =>
    rw [Disk.follow] at hf ⊢
    cases hw : d.walk followLast place pieces with
    | ended target =>
      rw [hw] at hf
      cases hf
      rw [h.walk hw (Or.inl ⟨_, rfl⟩) ended]
    | met directory target rest =>
      rw [hw] at hf
      cases hf
    | failed number =>
      rw [hw] at hf
      cases hf
  | succ links ih =>
    rw [Disk.follow] at hf ⊢
    cases hw : d.walk followLast place pieces with
    | ended target =>
      rw [hw] at hf
      cases hf
      rw [h.walk hw (Or.inl ⟨_, rfl⟩) ended]
    | met directory target rest =>
      rw [hw] at hf
      rw [h.walk hw (Or.inr ⟨_, _, _, rfl⟩) (by simp)]
      dsimp only at hf ⊢
      split at hf
      · cases hf
      · next named =>
        rw [if_neg named]
        exact ih hf
    | failed number =>
      rw [hw] at hf
      cases hf

/-- The same from the current directory. -/
theorem ExtendsBut.locate {gone : Place → Prop} {d d' : Disk} (h : ExtendsBut gone d d')
    {cwd path : String} {followLast : Bool} {found : Place}
    (hl : d.locate cwd path followLast = .ok (.found found)) (there : ¬ gone found) :
    d'.locate cwd path followLast = .ok (.found found) := by
  unfold Disk.locate at hl ⊢
  split at hl
  · cases hl
  next named =>
  rw [if_neg named]
  split at hl
  · cases hl
  next short =>
  rw [if_neg short]
  exact h.follow hl there

/-- Does something stand at the path, if a link at its end is not followed? -/
def Occupied (d : Disk) (cwd path : String) : Prop :=
  ∃ place, d.locate cwd path false = .ok (.found place)

/-- A path at which something stands is occupied where there is more. -/
theorem Occupied.mono {d d' : Disk} {cwd path : String} (h : d.Occupied cwd path)
    (more : Extends d d') : d'.Occupied cwd path := by
  obtain ⟨place, hplace⟩ := h
  exact ⟨place, (more.but fun _ => False).locate hplace not_false⟩

/-! ### Creating a file -/

/-- Nothing stands where a walk ends before a missing name. -/
theorem vacant_of_walk_absent {d : Disk} {followLast : Bool} {place directory : Place}
    {pieces : List Name} {name : Name}
    (hw : d.walk followLast place pieces = .ended (.absent directory name)) :
    d.entry? (directory ++ [name]) = none := by
  induction pieces generalizing place with
  | nil => cases hw
  | cons piece rest ih =>
    rw [Disk.walk] at hw
    split at hw
    · cases hw
    split at hw
    · exact ih hw
    split at hw
    · exact ih hw
    split at hw
    · cases hw
    dsimp only at hw
    split at hw
    · next missing =>
      split at hw
      · cases hw
        exact missing
      · cases hw
    · split at hw <;> cases hw
    · exact ih hw

/-- A walk that ends before a missing name finds the file where there is one. -/
theorem Extends.walk_absent {d d' : Disk} (h : Extends d d') {followLast : Bool}
    {place directory : Place} {pieces : List Name} {name : Name} {content : List UInt8}
    (hw : d.walk followLast place pieces = .ended (.absent directory name))
    (made : d'.entry? (directory ++ [name]) = some (.file content)) :
    d'.walk followLast place pieces = .ended (.found (directory ++ [name])) := by
  induction pieces generalizing place with
  | nil => cases hw
  | cons piece rest ih =>
    rw [Disk.walk] at hw ⊢
    split at hw
    · cases hw
    next hd =>
    obtain ⟨e', he', alike⟩ := h place _ (not_not.1 hd)
    rw [alike.directory] at he'
    rw [if_neg (not_not.2 he')]
    split at hw
    · next idle =>
      rw [if_pos idle]
      exact ih hw
    next named =>
    rw [if_neg named]
    split at hw
    · next up =>
      rw [if_pos up]
      exact ih hw
    next down =>
    rw [if_neg down]
    split at hw
    · cases hw
    next short =>
    rw [if_neg short]
    dsimp only at hw ⊢
    cases hn : d.entry? (place ++ [piece]) with
    | none =>
      rw [hn] at hw
      dsimp only at hw
      split at hw
      · next last =>
        cases hw
        rw [made, last]
        rfl
      · cases hw
    | some e =>
      rw [hn] at hw
      obtain ⟨e'', he'', alike'⟩ := h _ e hn
      rw [he'']
      cases e with
      | link target =>
        dsimp only at hw
        split at hw <;> cases hw
      | directory =>
        rw [alike'.directory]
        exact ih hw
      | file content' =>
        cases e'' with
        | file content'' => exact ih hw
        | directory | link => cases alike'

/-- A path that leads before a missing name leads to the file that is put there. -/
theorem follow_putEntry {d : Disk} {followLast : Bool} {links : Nat} {place directory : Place}
    {pieces : List Name} {name : Name}
    (hf : d.follow followLast links place pieces = .ok (.absent directory name)) :
    d.entry? (directory ++ [name]) = none ∧
      (d.putEntry (directory ++ [name]) (.file [])).follow followLast links place pieces =
        .ok (.found (directory ++ [name])) := by
  have made : Disk.entry? (d.putEntry (directory ++ [name]) (.file [])) (directory ++ [name]) =
      some (.file []) := by
    rw [lookup_putEntry, if_neg (by simp), if_pos rfl]
  have extends_of (missing : d.entry? (directory ++ [name]) = none) :
      Extends d (d.putEntry (directory ++ [name]) (.file [])) :=
    extends_putEntry fun old hold => by rw [missing] at hold; cases hold
  induction links generalizing place pieces with
  | zero =>
    rw [Disk.follow] at hf ⊢
    cases hw : d.walk followLast place pieces with
    | ended target =>
      rw [hw] at hf
      cases hf
      have missing := vacant_of_walk_absent hw
      refine ⟨missing, ?_⟩
      rw [(extends_of missing).walk_absent hw made]
    | met | failed =>
      rw [hw] at hf
      cases hf
  | succ links ih =>
    rw [Disk.follow] at hf ⊢
    cases hw : d.walk followLast place pieces with
    | ended target =>
      rw [hw] at hf
      cases hf
      have missing := vacant_of_walk_absent hw
      refine ⟨missing, ?_⟩
      rw [(extends_of missing).walk_absent hw made]
    | met directory' target rest =>
      rw [hw] at hf
      dsimp only at hf
      split at hf
      · cases hf
      next named =>
      obtain ⟨missing, found⟩ := ih hf
      refine ⟨missing, ?_⟩
      rw [((extends_of missing).but fun _ => False).walk hw (Or.inr ⟨_, _, _, rfl⟩) (by simp)]
      dsimp only
      rw [if_neg named]
      exact found
    | failed =>
      rw [hw] at hf
      cases hf

/-- The same from the current directory. -/
theorem locate_putEntry {d : Disk} {cwd path : String} {followLast : Bool} {directory : Place}
    {name : Name} (hl : d.locate cwd path followLast = .ok (.absent directory name)) :
    d.entry? (directory ++ [name]) = none ∧
      (d.putEntry (directory ++ [name]) (.file [])).locate cwd path followLast =
        .ok (.found (directory ++ [name])) := by
  unfold locate at hl ⊢
  split at hl
  · cases hl
  next named =>
  rw [if_neg named]
  split at hl
  · cases hl
  next short =>
  rw [if_neg short]
  exact follow_putEntry hl

/-! ### Files one by one -/

/-- The path under which a call finds something is looked for on the disk. -/
theorem locate_of_locateOrFault {d : Disk} {cwd path : String} {followLast : Bool}
    {target : Target} (h : d.locateOrFault cwd path followLast = .ok target) :
    d.locate cwd path followLast = .ok target := by
  unfold locateOrFault at h
  split at h
  · cases h
  cases hl : d.locate cwd path followLast with
  | error number =>
    rw [hl] at h
    cases h
  | ok target' =>
    rw [hl] at h
    cases h
    rfl

/-- A file that is created is empty, and nothing else is there that was not. -/
theorem create_eq {d : Disk} {cwd path : String} {place : Place} {d' : Disk}
    (h : d.create cwd path = .ok (place, d')) :
    d.entry? place = none ∧ d' = d.putEntry place (.file []) ∧
      ¬ d.Occupied cwd path ∧ d'.locate cwd path false = .ok (.found place) := by
  unfold create at h
  cases hl : d.locateOrFault cwd path false with
  | error fault =>
    rw [hl] at h
    cases h
  | ok target =>
    rw [hl] at h
    cases target with
    | found place => cases h
    | absent directory name =>
      cases h
      replace hl := locate_of_locateOrFault hl
      have free : ¬ d.Occupied cwd path := by
        rintro ⟨place, hplace⟩
        rw [hl] at hplace
        cases hplace
      obtain ⟨missing, found⟩ := locate_putEntry hl
      exact ⟨missing, rfl, free, found⟩

/-- A file is created where nothing stood; then it stands there, and the disk has what it had. -/
theorem create_spec {d : Disk} {cwd path : String} {place : Place} {d' : Disk}
    (h : d.create cwd path = .ok (place, d')) :
    ¬ d.Occupied cwd path ∧ d'.Occupied cwd path ∧ Extends d d' := by
  obtain ⟨missing, rfl, free, there⟩ := create_eq h
  refine ⟨free, ⟨place, there⟩, extends_putEntry fun old hold => ?_⟩
  rw [missing] at hold
  cases hold

/-- A path with a null character is looked for by no call. -/
theorem null_notMem_of_locateOrFault {d : Disk} {cwd path : String} {followLast : Bool}
    {target : Target} (h : d.locateOrFault cwd path followLast = .ok target) :
    '\x00' ∉ path.toList := by
  unfold locateOrFault at h
  split at h
  · cases h
  · next named => exact named

/-- A file that is opened for writing was there or was missing; now its path leads to it, it is
empty, and everything else is as it was. -/
theorem openEmpty_eq {d : Disk} {cwd path : String} {place : Place} {d' : Disk}
    (h : d.openEmpty cwd path = .ok (place, d')) :
    d' = d.putEntry place (.file []) ∧ d'.locate cwd path true = .ok (.found place) ∧
      d'.lookUp? cwd path = some (.file []) := by
  have down_of_file {bytes : List UInt8} (file : d.entry? place = some (.file bytes)) :
      place ≠ [] := by
    rintro rfl
    cases file
  unfold openEmpty at h
  cases hl : d.locateOrFault cwd path true with
  | error fault =>
    rw [hl] at h
    cases h
  | ok target =>
    rw [hl] at h
    have named := null_notMem_of_locateOrFault hl
    replace hl := locate_of_locateOrFault hl
    have opened : d' = d.putEntry place (.file []) ∧ place ≠ [] ∧
        d'.locate cwd path true = .ok (.found place) := by
      cases target with
      | absent directory name =>
        cases h
        exact ⟨rfl, by simp, (locate_putEntry hl).2⟩
      | found place' =>
        dsimp only [bind, Except.bind] at h
        split at h
        · next bytes file =>
          cases h
          have more : Extends d (d.putEntry place (.file [])) := by
            refine extends_putEntry fun old hold => ?_
            rw [file] at hold
            cases hold
            trivial
          exact ⟨rfl, down_of_file file, (more.but fun _ => False).locate hl not_false⟩
        · cases h
    obtain ⟨rfl, down, leads⟩ := opened
    refine ⟨rfl, leads, ?_⟩
    unfold lookUp?
    rw [if_neg named, leads]
    dsimp only
    rw [lookup_putEntry, if_neg down, if_pos rfl]

/-- A file that is filled has these bytes, and everything else is as it was. -/
theorem lookup_fill {d : Disk} {place : Place} {bytes : List UInt8}
    (file : d.entry? place = some (.file bytes)) (content : List UInt8) (q : Place) :
    Disk.entry? (d.fill place content) q =
      if q = place then some (.file content) else d.entry? q := by
  unfold fill
  rw [file]
  dsimp only
  rw [lookup_putEntry]
  by_cases hq : q = []
  · subst hq
    have root : place ≠ [] := by
      rintro rfl
      cases file
    rw [if_pos rfl, if_neg (Ne.symm root)]
    rfl
  · rw [if_neg hq]

/-- What is removed stood where its path leads, and everything else is as it was. -/
theorem remove_eq {d d' : Disk} {cwd path : String} (h : d.remove cwd path = .ok d') :
    ∃ place, d.locate cwd path false = .ok (.found place) ∧
      ∀ q, d'.entry? q = if q = place then none else d.entry? q := by
  unfold remove at h
  cases hl : d.locateOrFault cwd path false with
  | error fault =>
    rw [hl] at h
    cases h
  | ok target =>
    rw [hl] at h
    cases target with
    | absent directory name => cases h
    | found place =>
      refine ⟨place, locate_of_locateOrFault hl, fun q => ?_⟩
      dsimp only [bind, Except.bind] at h
      split at h
      · cases h
      · cases h
      · next e he stands =>
        cases h
        have root : place ≠ [] := by
          rintro rfl
          exact he (Option.some.inj stands).symm
        unfold entry?
        by_cases hq : q = []
        · subst hq
          rw [if_pos rfl, if_neg (Ne.symm root), if_pos rfl]
        · rw [if_neg hq, if_neg hq]
          exact Table.get?_remove _ _ _

/-- When a file is removed everything else is there. -/
theorem extendsBut_remove {d d' : Disk} {place : Place} {bytes : List UInt8}
    (file : d.entry? place = some (.file bytes))
    (removed : ∀ q, d'.entry? q = if q = place then none else d.entry? q) :
    ExtendsBut (· = place) d d' := by
  intro q e he
  by_cases hq : q = place
  · subst hq
    rw [file] at he
    cases he
    exact Or.inr ⟨rfl, bytes, rfl⟩
  · refine Or.inl ⟨e, ?_, Entry.Alike.refl e⟩
    rw [removed, if_neg hq]
    exact he

end Disk

end LiveCheck
