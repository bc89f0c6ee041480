import LiveCheck.Documents
import LiveCheck.Proofs.Disk

/-!
# Paths that lead elsewhere

When files come, go or get other bytes, every path leads to the same place as before, also through
links: a file is never on the way to something else, and where it is missing a walk ends before
it.  So a path that does not lead to a changed file leads to the same as before, and the texts of
files under other paths stay as they are.
-/

namespace LiveCheck

namespace Disk

/-! ### Where a path leads, be it there or not -/

/-- The place of what is found, or of what is missing. -/
def Target.place : Target → Place
  | .found place => place
  | .absent directory name => directory ++ [name]

/-- The place that a path leads to, with all links followed, whether something stands there or
not. -/
def target? (d : Disk) (cwd path : String) : Option Place :=
  (d.locateOrFault cwd path true).toOption.map Target.place

/-- The same directories and links on both disks; files may have come, gone or changed. -/
def SameWays (d d' : Disk) : Prop :=
  ∀ place e, (∀ bytes, e ≠ .file bytes) → (d'.entry? place = some e ↔ d.entry? place = some e)

/-- Two walks that go the same way: they meet the same link, or they end at one place, or both
fail. -/
def Walk.Alike : Walk → Walk → Prop
  | .ended target, .ended target' => target.place = target'.place
  | .met directory target rest, w => w = .met directory target rest
  | .failed _, .failed _ => True
  | _, _ => False

/-- A walk goes its own way. -/
theorem Walk.Alike.refl (w : Walk) : w.Alike w := by
  cases w <;> simp [Walk.Alike]

section Ways

variable {d d' d'' : Disk} {place : Place}

/-- The ways on a disk are its own. -/
theorem SameWays.refl (d : Disk) : SameWays d d := fun _ _ _ => Iff.rfl

/-- Ways that stay twice stay. -/
theorem SameWays.trans (h₁ : SameWays d d') (h₂ : SameWays d' d'') : SameWays d d'' :=
  fun place e other => (h₂ place e other).trans (h₁ place e other)

/-- What else stands at a place: a file or nothing. -/
def FileOrNothing (d : Disk) (place : Place) : Prop :=
  d.entry? place = none ∨ ∃ bytes, d.entry? place = some (.file bytes)

/-- The root is a directory. -/
theorem FileOrNothing.ne_root (here : d.FileOrNothing place) : place ≠ [] := by
  rintro rfl
  rcases here with missing | ⟨bytes, file⟩
  · cases missing
  · cases file

/-- Disks that differ in one file have the same ways. -/
theorem sameWays_of_file (before : d.FileOrNothing place) (after : d'.FileOrNothing place)
    (same : ∀ q, q ≠ place → d'.entry? q = d.entry? q) : SameWays d d' := by
  have none_here {d₁ : Disk} (here : d₁.FileOrNothing place) {e : Entry}
      (other : ∀ bytes, e ≠ .file bytes) : d₁.entry? place ≠ some e := by
    intro found
    rcases here with missing | ⟨bytes, file⟩
    · rw [missing] at found
      cases found
    · rw [file] at found
      exact other bytes (Option.some.inj found).symm
  intro q e other
  by_cases here : q = place
  · subst here
    exact ⟨fun found => absurd found (none_here after other),
      fun found => absurd found (none_here before other)⟩
  · rw [same q here]

/-- Where one disk has neither directory nor link, the other one has neither. -/
theorem SameWays.fileOrNothing (h : SameWays d d') (before : d.FileOrNothing place) :
    d'.FileOrNothing place := by
  cases now : d'.entry? place with
  | none => exact .inl now
  | some e =>
    cases e with
    | file bytes => exact .inr ⟨bytes, now⟩
    | directory | link =>
      have then_ := (h place _ (by simp)).1 now
      rcases before with missing | ⟨bytes, file⟩
      · rw [missing] at then_
        cases then_
      · rw [file] at then_
        cases then_

/-- A walk that comes to a place where no way goes on: it ends there, or it fails because something
is left to walk. -/
def Walk.Stops (place : Place) (rest : List Name) : Walk → Prop
  | .ended target => rest = [] ∧ target.place = place
  | .met _ _ _ => False
  | .failed _ => rest ≠ []

/-- Two walks that stop at one place are alike. -/
theorem Walk.Stops.alike {rest : List Name} {w w' : Walk} (h : w.Stops place rest)
    (h' : w'.Stops place rest) : w.Alike w' := by
  cases w <;> cases w' <;> simp_all [Walk.Stops, Walk.Alike]

/-- A walk stops at a file, and where nothing stands. -/
theorem walk_stops {start : Place} {piece : Name} (directory : d.entry? start = some .directory)
    (named : ¬ (piece = [] ∨ piece = ['.'])) (down : piece ≠ ['.', '.'])
    (short : ¬ byteLength piece > maxName) (here : d.FileOrNothing (start ++ [piece]))
    (followLast : Bool) (rest : List Name) :
    (d.walk followLast start (piece :: rest)).Stops (start ++ [piece]) rest := by
  rw [Disk.walk, if_neg (not_not.2 directory), if_neg named, if_neg down, if_neg short]
  dsimp only
  rcases here with missing | ⟨bytes, file⟩
  · rw [missing]
    dsimp only
    split
    · next last => exact ⟨last, rfl⟩
    · next more => exact more
  · rw [file]
    dsimp only
    cases rest with
    | nil => exact ⟨rfl, rfl⟩
    | cons piece' rest =>
      rw [Disk.walk, if_pos (by simp [file])]
      exact List.cons_ne_nil _ _

/-- Where the ways are the same, walks are alike. -/
theorem SameWays.walk (h : SameWays d d') (followLast : Bool) (start : Place)
    (pieces : List Name) :
    (d.walk followLast start pieces).Alike (d'.walk followLast start pieces) := by
  induction pieces generalizing start with
  | nil => rfl
  | cons piece rest ih =>
    have directories := h start .directory (by simp)
    by_cases directory : d.entry? start = some .directory
    swap
    · rw [Disk.walk, Disk.walk, if_pos directory, if_pos (mt directories.1 directory)]
      trivial
    have directory' := directories.2 directory
    by_cases idle : piece = [] ∨ piece = ['.']
    · rw [Disk.walk, Disk.walk, if_neg (not_not.2 directory), if_neg (not_not.2 directory'),
        if_pos idle, if_pos idle]
      exact ih start
    by_cases up : piece = ['.', '.']
    · rw [Disk.walk, Disk.walk, if_neg (not_not.2 directory), if_neg (not_not.2 directory'),
        if_neg idle, if_neg idle, if_pos up, if_pos up]
      exact ih start.dropLast
    by_cases long : byteLength piece > maxName
    · rw [Disk.walk, Disk.walk, if_neg (not_not.2 directory), if_neg (not_not.2 directory'),
        if_neg idle, if_neg idle, if_neg up, if_neg up, if_pos long, if_pos long]
      trivial
    by_cases here : d.FileOrNothing (start ++ [piece])
    · exact (walk_stops directory idle up long here followLast rest).alike
        (walk_stops directory' idle up long (h.fileOrNothing here) followLast rest)
    -- A directory or a link is there on both disks.
    rw [Disk.walk, Disk.walk, if_neg (not_not.2 directory), if_neg (not_not.2 directory'),
      if_neg idle, if_neg idle, if_neg up, if_neg up, if_neg long, if_neg long]
    dsimp only
    cases next : d.entry? (start ++ [piece]) with
    | none => exact absurd (.inl next) here
    | some e =>
      have next' : ∀ (_ : ∀ bytes, e ≠ .file bytes), d'.entry? (start ++ [piece]) = some e :=
        fun other => (h _ _ other).2 next
      cases e with
      | file bytes => exact absurd (.inr ⟨bytes, next⟩) here
      | directory =>
        rw [next' (by simp)]
        exact ih (start ++ [piece])
      | link target =>
        rw [next' (by simp)]
        exact .refl _

/-- Where the ways are the same, searches end at the same place, or both fail. -/
theorem SameWays.follow (h : SameWays d d') (followLast : Bool) (links : Nat) (start : Place)
    (pieces : List Name) :
    (d'.follow followLast links start pieces).toOption.map Target.place =
      (d.follow followLast links start pieces).toOption.map Target.place := by
  induction links generalizing start pieces with
  | zero =>
    have alike := h.walk followLast start pieces
    rw [Disk.follow, Disk.follow]
    revert alike
    cases d.walk followLast start pieces <;> cases d'.walk followLast start pieces <;>
      simp +contextual [Walk.Alike, Except.toOption]
  | succ links ih =>
    have alike := h.walk followLast start pieces
    rw [Disk.follow, Disk.follow]
    revert alike
    cases d.walk followLast start pieces with
    | ended target =>
      cases d'.walk followLast start pieces <;> simp +contextual [Walk.Alike, Except.toOption]
    | failed number =>
      cases d'.walk followLast start pieces <;> simp +contextual [Walk.Alike, Except.toOption]
    | met directory target rest =>
      intro met
      rw [show d'.walk followLast start pieces = _ from met]
      dsimp only
      split
      · rfl
      · exact ih _ _

/-- The same from the current directory. -/
theorem SameWays.locate (h : SameWays d d') (cwd path : String) (followLast : Bool) :
    (d'.locate cwd path followLast).toOption.map Target.place =
      (d.locate cwd path followLast).toOption.map Target.place := by
  unfold Disk.locate
  split
  · rfl
  split
  · rfl
  exact h.follow followLast maxLinks _ _

/-- The place of a path without a null character. -/
theorem target?_of_named {cwd path : String} (named : '\x00' ∉ path.toList) :
    d.target? cwd path = (d.locate cwd path true).toOption.map Target.place := by
  unfold target? locateOrFault
  rw [if_neg named]
  cases d.locate cwd path true <;> rfl

/-- Where the ways are the same, every path leads to the same place. -/
theorem SameWays.target?_eq (h : SameWays d d') (cwd path : String) :
    d'.target? cwd path = d.target? cwd path := by
  by_cases null : '\x00' ∈ path.toList
  · simp [target?, locateOrFault, null, Except.toOption]
  · rw [target?_of_named null, target?_of_named null, h.locate]

/-- What a path leads to is what stands at its place. -/
theorem lookUp?_eq_bind (d : Disk) (cwd path : String) :
    d.lookUp? cwd path = (d.target? cwd path).bind d.entry? := by
  unfold lookUp? target? locateOrFault
  split
  · rfl
  cases located : d.locate cwd path true with
  | error number => rfl
  | ok target =>
    cases target with
    | found place => rfl
    | absent directory name => exact (locate_putEntry located).1.symm

/-- A path leads to the same as before if nothing has changed at its place. -/
theorem SameWays.lookUp?_eq (h : SameWays d d') {cwd path : String}
    (same : ∀ place, d.target? cwd path = some place → d'.entry? place = d.entry? place) :
    d'.lookUp? cwd path = d.lookUp? cwd path := by
  rw [lookUp?_eq_bind, lookUp?_eq_bind, h.target?_eq]
  cases leads : d.target? cwd path with
  | none => rfl
  | some place => exact same place leads

/-! ### Links at the end -/

/-- A walk that does not find a link goes the same way when links at the end are followed. -/
theorem walk_followLast {start : Place} {pieces : List Name}
    (not_link : ∀ p, d.walk false start pieces = .ended (.found p) →
      ∀ target, d.entry? p ≠ some (.link target)) :
    d.walk true start pieces = d.walk false start pieces := by
  induction pieces generalizing start with
  | nil => rfl
  | cons piece rest ih =>
    rw [Disk.walk] at not_link ⊢
    rw [Disk.walk]
    split
    · rfl
    next directory =>
    rw [if_neg directory] at not_link
    split
    · next idle =>
      rw [if_pos idle] at not_link
      exact ih not_link
    next named =>
    rw [if_neg named] at not_link
    split
    · next up =>
      rw [if_pos up] at not_link
      exact ih not_link
    next down =>
    rw [if_neg down] at not_link
    split
    · rfl
    next short =>
    rw [if_neg short] at not_link
    dsimp only at not_link ⊢
    cases next : d.entry? (start ++ [piece]) with
    | none => rfl
    | some e =>
      rw [next] at not_link
      cases e with
      | directory | file => exact ih not_link
      | link target =>
        by_cases last : rest = []
        · exact absurd next (not_link _ (if_pos ⟨last, rfl⟩) target)
        · simp [last]

/-- A search that does not find a link ends the same way when links at the end are followed. -/
theorem follow_followLast {links : Nat} {start : Place} {pieces : List Name} {target : Target}
    (found : d.follow false links start pieces = .ok target)
    (here : d.FileOrNothing target.place) : d.follow true links start pieces = .ok target := by
  have not_link {p : Place} (same : target = .found p) (link : String) :
      d.entry? p ≠ some (.link link) := by
    subst same
    intro there
    rcases here with missing | ⟨bytes, file⟩
    · cases there.symm.trans missing
    · cases there.symm.trans file
  induction links generalizing start pieces with
  | zero =>
    rw [Disk.follow] at found ⊢
    rw [walk_followLast fun p ended => ?_]
    · exact found
    · rw [ended] at found
      exact not_link (Except.ok.inj found).symm
  | succ links ih =>
    rw [Disk.follow] at found ⊢
    rw [walk_followLast fun p ended => ?_]
    · cases walked : d.walk false start pieces with
      | ended | failed =>
        rw [walked] at found
        exact found
      | met directory target' rest =>
        rw [walked] at found
        dsimp only at found ⊢
        split
        · next empty =>
          rw [if_pos empty] at found
          cases found
        · next named =>
          rw [if_neg named] at found
          exact ih found
    · rw [ended] at found
      exact not_link (Except.ok.inj found).symm

/-- Where a path leads without following a link at its end it leads anyway, if there is a file or
nothing. -/
theorem target?_eq_place {cwd path : String} {target : Target} (named : '\x00' ∉ path.toList)
    (located : d.locate cwd path false = .ok target) (here : d.FileOrNothing target.place) :
    d.target? cwd path = some target.place := by
  rw [target?_of_named named]
  unfold locate at located ⊢
  split at located
  · cases located
  next some =>
  split at located
  · cases located
  next short =>
  rw [if_neg some, if_neg short, follow_followLast located here]
  rfl

/-- A file that is opened and filled has these bytes, and everything else is as it was. -/
theorem FileOrNothing.lookup_written (before : d.FileOrNothing place) (bytes : List UInt8)
    (q : Place) :
    Disk.entry? ((d.putEntry place (.file [])).fill place bytes) q =
      if q = place then some (.file bytes) else d.entry? q := by
  have root := before.ne_root
  have opened : Disk.entry? (d.putEntry place (.file [])) place = some (.file []) := by
    rw [lookup_putEntry, if_neg root, if_pos rfl]
  rw [lookup_fill opened, lookup_putEntry]
  by_cases here : q = place
  · rw [if_pos here, if_pos here]
  · rw [if_neg here, if_neg here, if_neg here]
    split
    · next top =>
      rw [top]
      rfl
    · rfl

/-- To open and fill a file leaves the ways as they are. -/
theorem FileOrNothing.sameWays_written (before : d.FileOrNothing place) (bytes : List UInt8) :
    d.SameWays ((d.putEntry place (.file [])).fill place bytes) :=
  sameWays_of_file before
    (.inr ⟨bytes, (before.lookup_written bytes place).trans (if_pos rfl)⟩)
    fun q other => (before.lookup_written bytes q).trans (if_neg other)

/-- A file is created where its path leads. -/
theorem target?_of_create {cwd path : String} {place : Place}
    (create : d.create cwd path = .ok (place, d')) : d.target? cwd path = some place := by
  have missing := (create_eq create).1
  unfold Disk.create at create
  obtain ⟨target, located, made⟩ := bind_eq_ok.1 create
  cases target with
  | found place' => cases made
  | absent directory name =>
    obtain rfl : directory ++ [name] = place := congrArg Prod.fst (Except.ok.inj made)
    exact target?_eq_place (null_notMem_of_locateOrFault located)
      (locate_of_locateOrFault located) (.inl missing)

/-- A file is opened where its path leads, and there was a file or nothing before. -/
theorem target?_of_openEmpty {cwd path : String}
    (opening : d.openEmpty cwd path = .ok (place, d')) :
    d.target? cwd path = some place ∧ d.FileOrNothing place := by
  unfold openEmpty at opening
  obtain ⟨target, located, opened⟩ := bind_eq_ok.1 opening
  have leads : d.target? cwd path = some target.place := by
    rw [target?, located]
    rfl
  cases target with
  | absent directory name =>
    obtain rfl : directory ++ [name] = place := congrArg Prod.fst (Except.ok.inj opened)
    have missing := (locate_putEntry (locate_of_locateOrFault located)).1
    exact ⟨leads, .inl missing⟩
  | found q =>
    dsimp only at opened
    split at opened
    · next bytes file =>
      obtain rfl : q = place := congrArg Prod.fst (Except.ok.inj opened)
      exact ⟨leads, .inr ⟨bytes, file⟩⟩
    · cases opened

/-- A file that is opened and filled has its bytes where its path leads; the ways are as they were,
and so is everything else. -/
theorem fill_of_openEmpty {cwd path : String} (opening : d.openEmpty cwd path = .ok (place, d'))
    (bytes : List UInt8) :
    d.target? cwd path = some place ∧ SameWays d (d'.fill place bytes) ∧
      ∀ q, Disk.entry? (d'.fill place bytes) q =
        if q = place then some (.file bytes) else d.entry? q := by
  obtain ⟨leads, before⟩ := target?_of_openEmpty opening
  obtain ⟨rfl, -, -⟩ := openEmpty_eq opening
  exact ⟨leads, before.sameWays_written bytes, before.lookup_written bytes⟩

end Ways

/-! ### One file -/

/-- The first disk has a file at this place, and the second one has a file there or nothing; in
everything else they are the same. -/
structure SameBut (place : Place) (d d' : Disk) : Prop where
  file : ∃ bytes, d.entry? place = some (.file bytes)
  left : d'.FileOrNothing place
  same : ∀ q, q ≠ place → d'.entry? q = d.entry? q

/-- Disks that differ in one file have the same ways. -/
theorem SameBut.ways {place : Place} {d d' : Disk} (h : SameBut place d d') : SameWays d d' :=
  sameWays_of_file (.inr h.file) h.left h.same

/-- A path that does not lead to the file leads to the same on both disks. -/
theorem SameBut.lookUp?_eq {place : Place} {d d' : Disk} (h : SameBut place d d')
    {cwd path : String} (apart : d.locate cwd path true ≠ .ok (.found place)) :
    d'.lookUp? cwd path = d.lookUp? cwd path := by
  refine h.ways.lookUp?_eq fun q leads => h.same q ?_
  rintro rfl
  unfold target? at leads
  cases located : d.locateOrFault cwd path true with
  | error fault =>
    rw [located] at leads
    cases leads
  | ok target =>
    rw [located] at leads
    have located := locate_of_locateOrFault located
    cases target with
    | found p =>
      obtain rfl : p = q := Option.some.inj leads
      exact apart located
    | absent directory name =>
      obtain rfl : directory ++ [name] = q := Option.some.inj leads
      obtain ⟨bytes, file⟩ := h.file
      rw [(locate_putEntry located).1] at file
      cases file

/-- The bytes of what stands under a path: only a file has any. -/
def bytesOf (path : String) : Entry → Except Fault (List UInt8)
  | .file content => .ok content
  | _ => .error (SystemError.fault SystemError.isDirectory path)

/-- What is read under a path is what the path leads to. -/
theorem read_of_lookUp? {d : Disk} {cwd path : String} {e : Entry}
    (there : d.lookUp? cwd path = some e) : d.read cwd path = bytesOf path e := by
  unfold lookUp? at there
  split at there
  · cases there
  next named =>
  split at there
  · next place located =>
    unfold read locateOrFault
    rw [if_neg named, located]
    dsimp only [bind, Except.bind, Except.mapError]
    rw [there]
    cases e <;> rfl
  · cases there

/-- Bytes are read of a file, and of nothing else. -/
theorem read_eq_ok {d : Disk} {cwd path : String} {bytes : List UInt8} :
    d.read cwd path = .ok bytes ↔ d.lookUp? cwd path = some (.file bytes) := by
  constructor
  · intro read
    cases there : d.lookUp? cwd path with
    | some e =>
      rw [read_of_lookUp? there] at read
      cases e with
      | file content => exact congrArg (some ∘ Entry.file) (Except.ok.inj read)
      | directory | link => cases read
    | none =>
      unfold Disk.read at read
      obtain ⟨target, located, opened⟩ := bind_eq_ok.1 read
      unfold lookUp? at there
      rw [if_neg (null_notMem_of_locateOrFault located),
        locate_of_locateOrFault located] at there
      cases target with
      | absent directory name => cases opened
      | found place =>
        dsimp only at there opened
        rw [there] at opened
        cases opened
  · exact fun there => read_of_lookUp? there

end Disk

namespace Documents

variable {docs : Documents} {d d' : Disk} {cwd text : String} {h : Handle}

/-- The texts that are on the disk: those of a file whose encoding is known and whose bytes it can
decode. -/
theorem diskText_eq_some :
    docs.diskText d cwd h = .ok (some text) ↔ ∃ bytes codec,
      d.lookUp? cwd h.path = some (.file bytes) ∧
      docs.codecs.find (docs.encodingOf h) = .ok codec ∧ codec.decode bytes = .ok text.toList := by
  unfold diskText Disk.has
  constructor
  · intro saved
    split at saved
    swap
    · cases saved
    obtain ⟨_, -, reading⟩ := bind_eq_ok.1 saved
    obtain ⟨bytes, read, finding⟩ := bind_eq_ok.1 reading
    obtain ⟨codec, found, decoding⟩ := bind_eq_ok.1 finding
    obtain ⟨chars, decoded, last⟩ := bind_eq_ok.1 decoding
    obtain rfl := Option.some.inj (Except.ok.inj last)
    exact ⟨bytes, codec, Disk.read_eq_ok.1 read, found, by rw [decoded, String.toList_ofList]⟩
  · rintro ⟨bytes, codec, there, found, decoded⟩
    obtain ⟨_, checked, -⟩ := bind_eq_ok.1 (show _ >>= _ = _ from found)
    rw [if_pos (by rw [there]; rfl)]
    refine bind_eq_ok.2 ⟨_, checked, bind_eq_ok.2 ⟨bytes, Disk.read_eq_ok.2 there, ?_⟩⟩
    refine bind_eq_ok.2 ⟨codec, found, bind_eq_ok.2 ⟨_, decoded, ?_⟩⟩
    rw [String.ofList_toList]

/-- No text is on the disk where a path leads to nothing. -/
theorem diskText_eq_none :
    docs.diskText d cwd h = .ok none ↔ d.lookUp? cwd h.path = none := by
  unfold diskText Disk.has
  constructor
  · intro saved
    split at saved
    · obtain ⟨_, -, reading⟩ := bind_eq_ok.1 saved
      obtain ⟨bytes, -, finding⟩ := bind_eq_ok.1 reading
      obtain ⟨codec, -, decoding⟩ := bind_eq_ok.1 finding
      obtain ⟨chars, -, last⟩ := bind_eq_ok.1 decoding
      cases last
    · next missing => simpa using missing
  · intro missing
    rw [missing]
    rfl

/-- A text that can be read is that of a file, if there is one. -/
theorem isFile_of_diskText {saved : Option String} (there : docs.diskText d cwd h = .ok saved) :
    d.isFile cwd h.path = saved.isSome := by
  unfold Disk.isFile
  cases saved with
  | none =>
    rw [diskText_eq_none.1 there]
    rfl
  | some text =>
    obtain ⟨bytes, -, file, -⟩ := diskText_eq_some.1 there
    rw [file]
    rfl

/-- The text of a file on the disk hangs on what its path leads to. -/
theorem diskText_congr (same : d'.lookUp? cwd h.path = d.lookUp? cwd h.path) :
    docs.diskText d' cwd h = docs.diskText d cwd h := by
  unfold diskText Disk.has
  rw [same]
  split
  · next there =>
    obtain ⟨e, found⟩ := Option.isSome_iff_exists.1 there
    rw [Disk.read_of_lookUp? found, Disk.read_of_lookUp? (same.trans found)]
  · rfl

/-- And so does the text of a file as the editor shows it. -/
theorem currentText_congr (same : d'.lookUp? cwd h.path = d.lookUp? cwd h.path) :
    docs.currentText d' cwd h = docs.currentText d cwd h := by
  unfold currentText
  rw [diskText_congr same]

/-- And so does whether it is modified. -/
theorem isModified_congr (same : d'.lookUp? cwd h.path = d.lookUp? cwd h.path) :
    docs.isModified d' cwd h = docs.isModified d cwd h := by
  unfold isModified
  rw [diskText_congr same]

end Documents

end LiveCheck
