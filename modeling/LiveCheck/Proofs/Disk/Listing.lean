import Mathlib.Data.List.Nodup
import LiveCheck.Proofs.Disk.Elsewhere
import LiveCheck.Proofs.Path

/-!
# Listing directories

A directory lists the names under which something stands in it.  A disk is sound if its table has
no place twice and no name has a slash, as it is of every disk that is read in or written by paths;
then no name is listed twice, and different names make different paths.  A file that is written
keeps a disk sound, since its name is a piece of its path or of the target of a link; and it is
listed in its own directory only.
-/

namespace LiveCheck

/-- Names that do not begin with a slash make different paths in a directory. -/
theorem Path.joinChars_injective {base x y : List Char} (hx : '/' ∉ x) (hy : '/' ∉ y)
    (same : joinChars base x = joinChars base y) : x = y := by
  have relative {z : List Char} (hz : '/' ∉ z) : isAbsoluteChars z = false := by
    cases z with
    | nil => rfl
    | cons c rest =>
      have first : c ≠ '/' := by
        rintro rfl
        exact hz List.mem_cons_self
      simp [isAbsoluteChars, first]
  unfold joinChars at same
  rw [relative hx, relative hy, if_neg Bool.false_ne_true, if_neg Bool.false_ne_true] at same
  by_cases ended : base = [] ∨ base.getLast? = some '/'
  · rw [if_pos ended, if_pos ended] at same
    exact List.append_cancel_left same
  · rw [if_neg ended, if_neg ended] at same
    exact List.tail_eq_of_cons_eq (List.append_cancel_left same)

namespace Disk

variable {d d' : Disk} {cwd path : String} {place q : Place} {name : Name}

/-! ### The names in a directory -/

/-- A place beneath the root stands in the table, or nothing stands there. -/
theorem mem_keys_iff (down : place ≠ []) : place ∈ d.entries.keys ↔ d.entry? place ≠ none := by
  unfold entry?
  rw [if_neg down]
  constructor
  · intro key
    obtain ⟨e, found⟩ := Table.exists_get? key
    rw [found]
    exact Option.some_ne_none e
  · intro there
    obtain ⟨e, found⟩ := Option.ne_none_iff_exists'.1 there
    exact Table.mem_keys_of_get? found

/-- The places in a directory are those of its names. -/
theorem listed_eq_some :
    (if q.dropLast = place then q.getLast? else none) = some name ↔ q = place ++ [name] := by
  constructor
  · intro listed
    split at listed
    · next directory =>
      obtain ⟨front, rfl⟩ := List.getLast?_eq_some_iff.1 listed
      rw [List.dropLast_concat] at directory
      rw [directory]
    · cases listed
  · rintro rfl
    rw [if_pos List.dropLast_concat, List.getLast?_concat]

/-- A directory has the names under which something stands in it. -/
theorem mem_namesIn : name ∈ d.namesIn place ↔ d.entry? (place ++ [name]) ≠ none := by
  have down : place ++ [name] ≠ [] := List.append_ne_nil_of_right_ne_nil _ (List.cons_ne_nil _ _)
  rw [← mem_keys_iff down]
  unfold namesIn
  rw [List.mem_filterMap]
  constructor
  · rintro ⟨q, key, listed⟩
    rw [← listed_eq_some.1 listed]
    exact key
  · intro key
    exact ⟨_, key, listed_eq_some.2 rfl⟩

/-- A path is a directory if it leads to one. -/
theorem isDirectory_iff : d.isDirectory cwd path = true ↔
    ∃ place, d.target? cwd path = some place ∧ d.entry? place = some .directory := by
  unfold isDirectory
  rw [decide_eq_true_iff, lookUp?_eq_bind, Option.bind_eq_some_iff]

/-- The names of a directory are listed, and nothing else is. -/
theorem list_eq_ok {names : List Name} : d.list cwd path = .ok names ↔
    ∃ place, d.target? cwd path = some place ∧ d.entry? place = some .directory ∧
      names = d.namesIn place := by
  unfold list target?
  constructor
  · intro listing
    obtain ⟨target, located, listed⟩ := bind_eq_ok.1 listing
    rw [located]
    cases target with
    | absent directory name => cases listed
    | found place =>
      dsimp only at listed
      split at listed
      · next directory =>
        exact ⟨place, rfl, directory, (Except.ok.inj listed).symm⟩
      · cases listed
  · rintro ⟨place, leads, directory, rfl⟩
    cases located : d.locateOrFault cwd path true with
    | error fault =>
      rw [located] at leads
      cases leads
    | ok target =>
      rw [located] at leads
      refine bind_eq_ok.2 ⟨target, rfl, ?_⟩
      cases target with
      | absent parent name =>
        -- Nothing stands where something is missing.
        obtain rfl : parent ++ [name] = place := Option.some.inj leads
        have missing := (locate_putEntry (locate_of_locateOrFault located)).1
        rw [missing] at directory
        cases directory
      | found q =>
        obtain rfl : q = place := Option.some.inj leads
        dsimp only
        rw [directory]

/-- Every directory can be listed. -/
theorem exists_list (directory : d.isDirectory cwd path = true) :
    ∃ names, d.list cwd path = .ok names := by
  obtain ⟨place, leads, there⟩ := isDirectory_iff.1 directory
  exact ⟨d.namesIn place, list_eq_ok.2 ⟨place, leads, there, rfl⟩⟩

/-! ### Sound disks -/

/-- No place is twice in the table, and no name has a slash. -/
structure Sound (d : Disk) : Prop where
  nodup : d.entries.keys.Nodup
  plain : ∀ place ∈ d.entries.keys, ∀ name ∈ place, '/' ∉ name

/-- The names that lead to something have no slash. -/
theorem Sound.plain_of_entry (sound : d.Sound) (there : d.entry? place ≠ none) :
    ∀ name ∈ place, '/' ∉ name := by
  by_cases root : place = []
  · rw [root]
    exact nofun
  · exact sound.plain place ((mem_keys_iff root).2 there)

/-- No name is listed twice. -/
theorem Sound.nodup_namesIn (sound : d.Sound) (place : Place) : (d.namesIn place).Nodup := by
  unfold namesIn
  apply List.Nodup.filterMap ?_ sound.nodup
  intro p q name hp hq
  rw [listed_eq_some.1 hp, listed_eq_some.1 hq]

/-- No path is listed twice. -/
theorem Sound.nodup_paths (sound : d.Sound) {names : List Name}
    (listed : d.list cwd path = .ok names) (directory : String) :
    (names.map fun name => Path.join directory (String.ofList name)).Nodup := by
  obtain ⟨place, -, -, rfl⟩ := list_eq_ok.1 listed
  have plain : ∀ name ∈ d.namesIn place, '/' ∉ name := by
    intro name hname
    apply sound.plain_of_entry (mem_namesIn.1 hname)
    exact List.mem_append_right _ (List.mem_singleton_self name)
  apply List.Nodup.map_on ?_ (sound.nodup_namesIn place)
  intro x hx y hy same
  have chars := String.ofList_injective same
  rw [String.toList_ofList, String.toList_ofList] at chars
  exact Path.joinChars_injective (plain x hx) (plain y hy) chars

/-! ### The name of a file that is made -/

/-- A walk ends before a missing name of its pieces, in a directory. -/
theorem walk_absent {followLast : Bool} {start directory : Place} {pieces : List Name}
    (ended : d.walk followLast start pieces = .ended (.absent directory name)) :
    d.entry? directory = some .directory ∧ name ∈ pieces := by
  induction pieces generalizing start with
  | nil => cases ended
  | cons piece rest ih =>
    have later {start : Place}
        (ended : d.walk followLast start rest = .ended (.absent directory name)) :
        d.entry? directory = some .directory ∧ name ∈ piece :: rest := by
      obtain ⟨there, among⟩ := ih ended
      exact ⟨there, List.mem_cons_of_mem _ among⟩
    rw [Disk.walk] at ended
    split at ended
    · cases ended
    next there =>
    split at ended
    · exact later ended
    split at ended
    · exact later ended
    split at ended
    · cases ended
    dsimp only at ended
    split at ended
    · split at ended
      · cases ended
        exact ⟨not_not.1 there, List.mem_cons_self⟩
      · cases ended
    · split at ended <;> cases ended
    · exact later ended

/-- A walk that meets a link has pieces left that it began with. -/
theorem walk_met {followLast : Bool} {start directory : Place} {pieces rest : List Name}
    {target : String} (met : d.walk followLast start pieces = .met directory target rest) :
    rest ⊆ pieces := by
  induction pieces generalizing start with
  | nil => cases met
  | cons piece pieces ih =>
    have later {start : Place} (met : d.walk followLast start pieces = .met directory target rest) :
        rest ⊆ piece :: pieces := List.subset_cons_of_subset _ (ih met)
    rw [Disk.walk] at met
    split at met
    · cases met
    split at met
    · exact later met
    split at met
    · exact later met
    split at met
    · cases met
    dsimp only at met
    split at met
    · split at met <;> cases met
    · split at met
      · cases met
      · cases met
        exact List.subset_cons_self _ _
    · exact later met

/-- The same through links: the name has no slash if no piece has one, since the pieces of a target
have none. -/
theorem follow_absent {followLast : Bool} {links : Nat} {start directory : Place}
    {pieces : List Name} (plain : ∀ piece ∈ pieces, '/' ∉ piece)
    (found : d.follow followLast links start pieces = .ok (.absent directory name)) :
    d.entry? directory = some .directory ∧ '/' ∉ name := by
  have named {start : Place} {pieces : List Name} (plain : ∀ piece ∈ pieces, '/' ∉ piece)
      (walked : d.walk followLast start pieces = .ended (.absent directory name)) :
      d.entry? directory = some .directory ∧ '/' ∉ name := by
    obtain ⟨there, among⟩ := walk_absent walked
    exact ⟨there, plain name among⟩
  induction links generalizing start pieces with
  | zero =>
    rw [Disk.follow] at found
    cases walked : d.walk followLast start pieces with
    | ended target =>
      rw [walked] at found
      cases found
      exact named plain walked
    | met _ _ _ | failed _ =>
      rw [walked] at found
      cases found
  | succ links ih =>
    rw [Disk.follow] at found
    cases walked : d.walk followLast start pieces with
    | ended target =>
      rw [walked] at found
      cases found
      exact named plain walked
    | failed _ =>
      rw [walked] at found
      cases found
    | met parent target rest =>
      rw [walked] at found
      dsimp only at found
      split at found
      · cases found
      · refine ih (fun piece hpiece => ?_) found
        rcases List.mem_append.1 hpiece with of_target | of_rest
        · exact Path.noSlash_of_mem_pieces _ piece of_target
        · exact plain piece (walk_met walked of_rest)

/-- And from the current directory. -/
theorem locate_absent {followLast : Bool} {directory : Place}
    (located : d.locate cwd path followLast = .ok (.absent directory name)) :
    d.entry? directory = some .directory ∧ '/' ∉ name := by
  unfold locate at located
  split at located
  · cases located
  split at located
  · cases located
  exact follow_absent (Path.noSlash_of_mem_pieces _) located

/-- A file is opened at a place without slashes. -/
theorem Sound.plain_of_openEmpty (sound : d.Sound)
    (opening : d.openEmpty cwd path = .ok (place, d')) : ∀ name ∈ place, '/' ∉ name := by
  unfold openEmpty at opening
  obtain ⟨target, located, opened⟩ := bind_eq_ok.1 opening
  cases target with
  | absent directory name =>
    obtain rfl : directory ++ [name] = place := congrArg Prod.fst (Except.ok.inj opened)
    obtain ⟨there, plain⟩ := locate_absent (locate_of_locateOrFault located)
    intro piece hpiece
    rcases List.mem_append.1 hpiece with above | last
    · exact sound.plain_of_entry (by simp [there]) piece above
    · rw [List.mem_singleton.1 last]
      exact plain
  | found q =>
    dsimp only at opened
    split at opened
    · next bytes file =>
      obtain rfl : q = place := congrArg Prod.fst (Except.ok.inj opened)
      exact sound.plain_of_entry (by simp [file])
    · cases opened

/-! ### Listing after a file was written -/

/-- Something at a place without slashes keeps a disk sound. -/
theorem Sound.putEntry (sound : d.Sound) (plain : ∀ name ∈ place, '/' ∉ name) (e : Entry) :
    (d.putEntry place e).Sound where
  nodup := Table.nodup_keys_put sound.nodup place e
  plain := by
    intro q key
    unfold Disk.putEntry at key
    rw [Table.keys_put] at key
    split at key
    · exact sound.plain q key
    · rcases List.mem_append.1 key with before | new
      · exact sound.plain q before
      · rw [List.mem_singleton.1 new]
        exact plain

/-- A file that is opened and filled keeps a disk sound. -/
theorem Sound.written (sound : d.Sound) (opening : d.openEmpty cwd path = .ok (place, d'))
    (bytes : List UInt8) : (d'.fill place bytes).Sound := by
  have plain := sound.plain_of_openEmpty opening
  have opened : d'.Sound := by
    rw [(openEmpty_eq opening).1]
    exact sound.putEntry plain _
  unfold fill
  split
  · exact opened.putEntry plain _
  · exact opened

/-- Something that is put at a place changes no directory but its own. -/
theorem namesIn_putEntry (elsewhere : place.dropLast ≠ q) (e : Entry) :
    (d.putEntry place e).namesIn q = d.namesIn q := by
  unfold namesIn putEntry
  dsimp only
  rw [Table.keys_put]
  split
  · rfl
  · rw [List.filterMap_append, List.filterMap_cons, if_neg elsewhere]
    exact List.append_nil _

/-- A file that is opened and filled is listed in no directory but its own. -/
theorem namesIn_of_openEmpty (opening : d.openEmpty cwd path = .ok (place, d'))
    (elsewhere : place.dropLast ≠ q) (bytes : List UInt8) :
    (d'.fill place bytes).namesIn q = d.namesIn q := by
  have opened : d'.namesIn q = d.namesIn q := by
    rw [(openEmpty_eq opening).1]
    exact namesIn_putEntry elsewhere _
  unfold fill
  split
  · exact (namesIn_putEntry elsewhere _).trans opened
  · exact opened

end Disk

end LiveCheck
