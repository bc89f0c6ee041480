import LiveCheck.Proofs.Scan.Course
import LiveCheck.Proofs.Surroundings

/-!
# What snapshots are made

The snapshot of a file is the file itself or a copy that is created for it.  While snapshots are
made nothing is removed.  Every copy is therefore still there when the next one is created, and
since a file is only created where nothing stands, no two copies of a set have one path.
-/

namespace LiveCheck.Snapshot

open Program Trace

/-- How the snapshot of a file comes about: no copy is needed, or one is created on the way. -/
inductive Placed (scratch : Option String) (h : Handle) : Snapshot → Trace → Prop where
  | itself {t : Trace} (adds : Adds t) :
      Placed scratch h { handle := h, path := h.path, temporary := false } t
  | copied {t₁ t₂ : Trace} {stem extension path : String} (before : Adds t₁) (after : Adds t₂) :
      Placed scratch h { handle := h, path, temporary := true }
        (t₁ ++ ⟨.createTemporary stem extension scratch, .ok path⟩ :: t₂)

/-! ### One snapshot -/

variable {scratch : Option String} {h : Handle} {t : Trace}

/-- The texts of a file that are read are those that were answered. -/
theorem runs_readTexts_ok {texts : String × Option String}
    (run : Runs (readTexts h).attempt t (.ok texts)) :
    t = [⟨.currentText h, .ok texts.1⟩, ⟨.diskText h, .ok texts.2⟩] := by
  unfold readTexts at run
  rcases runs_attempt_tryCatch.1 run with ⟨_, same, read⟩ | ⟨t₁, t₂, fault, -, -, handled⟩
  · obtain ⟨t₁, t₂, current, rfl, ask, read⟩ := runs_attempt_bind_ok.1 read
    obtain ⟨t₃, t₄, onDisk, rfl, ask', last⟩ := runs_attempt_bind_ok.1 read
    obtain rfl := runs_request.1 (runs_attempt_ofProgram.1 ask)
    obtain rfl := runs_request.1 (runs_attempt_ofProgram.1 ask')
    obtain ⟨rfl, same'⟩ := runs_attempt_pure.1 last
    cases same
    cases same'
    rfl
  · -- The handler of a fault always fails.
    split at handled <;> exact nomatch (runs_attempt_throw.1 handled).2

/-- A copy that is written is written with the encoding that was answered. -/
theorem runs_fillCopy_ok {s : Snapshot} {text : String}
    (run : Runs (s.fillCopy text).attempt t (.ok ())) :
    ∃ encoding, t = [⟨.encoding s.handle, .ok encoding⟩,
      ⟨.writeTemporary s.path text encoding, .ok ()⟩] := by
  unfold fillCopy at run
  rcases runs_attempt_tryCatch.1 run with ⟨_, -, written⟩ | ⟨t₁, t₂, fault, rfl, -, handled⟩
  · obtain ⟨t₁, t₂, encoding, rfl, ask, write⟩ := runs_attempt_bind_ok.1 written
    obtain rfl := runs_request.1 (runs_attempt_ofProgram.1 ask)
    obtain rfl := runs_request.1 (runs_attempt_ofProgram.1 write)
    exact ⟨encoding, rfl⟩
  · -- The handler of a fault always fails.
    split at handled
    · obtain ⟨t₃, t₄, _, rfl, -, thrown⟩ := runs_attempt_bind_ok.1 handled
      exact nomatch (runs_attempt_throw.1 thrown).2
    · exact nomatch (runs_attempt_throw.1 handled).2

/-- A snapshot that is placed is the file itself, if the texts are the same, and else a copy that
is created and written. -/
theorem runs_place_ok {current : String} {onDisk : Option String} {s : Snapshot}
    (run : Runs (place scratch h current onDisk).attempt t (.ok s)) :
    (onDisk = some current ∧ t = [] ∧ s = { handle := h, path := h.path, temporary := false }) ∨
      onDisk ≠ some current ∧ ∃ path encoding,
        s = { handle := h, path, temporary := true } ∧
        t = [⟨.createTemporary ((Path.splitExtension h.name).1 ++ "_")
            (Path.splitExtension h.name).2 scratch, .ok path⟩,
          ⟨.encoding h, .ok encoding⟩, ⟨.writeTemporary path current encoding, .ok ()⟩] := by
  unfold place at run
  split at run
  · next same =>
    obtain ⟨rfl, made⟩ := runs_attempt_pure.1 run
    exact .inl ⟨same, rfl, Except.ok.inj made⟩
  · next differs =>
    refine .inr ⟨differs, ?_⟩
    unfold writeCopy at run
    obtain ⟨t₁, t₂, path, rfl, create, filling⟩ := runs_attempt_bind_ok.1 run
    obtain ⟨reply, rfl, created, -⟩ := runs_createCopy create
    obtain rfl := (created path).1 rfl
    obtain ⟨t₃, t₄, _, rfl, fill, last⟩ := runs_attempt_bind_ok.1 filling
    obtain ⟨rfl, made⟩ := runs_attempt_pure.1 last
    obtain ⟨encoding, rfl⟩ := runs_fillCopy_ok fill
    exact ⟨path, encoding, Except.ok.inj made, rfl⟩

/-- The ways in which the making of a snapshot goes: it is cancelled, the texts cannot be read, the
path is taken by another file that was never saved, the snapshot cannot be placed, or it is
placed. -/
inductive Made (scratch : Option String) (cancellable : Bool) (unsaved : Table String Handle)
    (h : Handle) : Trace → Except Fault (Snapshot × Table String Handle) → Prop where
  | stopped {t : Trace} {fault : Fault}
      (check : Runs (checkCancelled cancellable).attempt t (.error fault)) :
      Made scratch cancellable unsaved h t (.error fault)
  | unread {t₁ t₂ : Trace} {fault : Fault}
      (check : Runs (checkCancelled cancellable).attempt t₁ (.ok ()))
      (read : Runs (readTexts h).attempt t₂ (.error fault)) :
      Made scratch cancellable unsaved h (t₁ ++ t₂) (.error fault)
  | collides {t₁ : Trace} {current : String} {onDisk : Option String} {fault : Fault}
      (check : Runs (checkCancelled cancellable).attempt t₁ (.ok ()))
      (taken : claim unsaved h onDisk = .error fault) :
      Made scratch cancellable unsaved h
        (t₁ ++ [⟨.currentText h, .ok current⟩, ⟨.diskText h, .ok onDisk⟩]) (.error fault)
  | unplaced {t₁ t₂ : Trace} {current : String} {onDisk : Option String}
      {unsaved' : Table String Handle} {fault : Fault}
      (check : Runs (checkCancelled cancellable).attempt t₁ (.ok ()))
      (claimed : claim unsaved h onDisk = .ok unsaved')
      (place : Runs (place scratch h current onDisk).attempt t₂ (.error fault)) :
      Made scratch cancellable unsaved h
        (t₁ ++ ([⟨.currentText h, .ok current⟩, ⟨.diskText h, .ok onDisk⟩] ++ t₂)) (.error fault)
  | placed {t₁ t₂ : Trace} {current : String} {onDisk : Option String}
      {unsaved' : Table String Handle} {s : Snapshot}
      (check : Runs (checkCancelled cancellable).attempt t₁ (.ok ()))
      (claimed : claim unsaved h onDisk = .ok unsaved')
      (place : Runs (place scratch h current onDisk).attempt t₂ (.ok s)) :
      Made scratch cancellable unsaved h
        (t₁ ++ ([⟨.currentText h, .ok current⟩, ⟨.diskText h, .ok onDisk⟩] ++ t₂))
        (.ok (s, unsaved'))

/-- The making of a snapshot goes in one of these ways. -/
theorem runs_make {cancellable : Bool} {unsaved : Table String Handle}
    {r : Except Fault (Snapshot × Table String Handle)}
    (run : Runs (make scratch cancellable unsaved h).attempt t r) :
    Made scratch cancellable unsaved h t r := by
  unfold make at run
  rcases runs_attempt_bind.1 run with ⟨t₁, t₂, _, rfl, check, reading⟩ | ⟨fault, rfl, check⟩
  swap
  · exact .stopped check
  rcases runs_attempt_bind.1 reading with
    ⟨t₃, t₄, ⟨current, onDisk⟩, rfl, read, claiming⟩ | ⟨fault, rfl, read⟩
  swap
  · exact .unread check read
  obtain rfl := runs_readTexts_ok read
  rcases runs_attempt_bind.1 claiming with
    ⟨t₅, t₆, unsaved', rfl, claim, placing⟩ | ⟨fault, rfl, claim⟩
  swap
  · obtain ⟨rfl, taken⟩ := runs_attempt_ofExcept.1 claim
    rw [List.append_nil]
    exact .collides check taken.symm
  obtain ⟨rfl, claimed⟩ := runs_attempt_ofExcept.1 claim
  rcases runs_attempt_bind.1 placing with ⟨t₇, t₈, s, rfl, place, last⟩ | ⟨fault, rfl, place⟩
  · obtain ⟨rfl, rfl⟩ := runs_attempt_pure.1 last
    rw [List.append_nil]
    exact .placed check claimed.symm place
  · exact .unplaced check claimed.symm place

/-- To make a snapshot is to ask for the token, to read the texts of the file, and to place it. -/
theorem runs_make_parts {cancellable : Bool} {unsaved unsaved' : Table String Handle} {s : Snapshot}
    (run : Runs (make scratch cancellable unsaved h).attempt t (.ok (s, unsaved'))) :
    ∃ t₁ t₂ current onDisk, About [.token] t₁ ∧
      t = t₁ ++ ([⟨.currentText h, .ok current⟩, ⟨.diskText h, .ok onDisk⟩] ++ t₂) ∧
      Runs (place scratch h current onDisk).attempt t₂ (.ok s) := by
  cases runs_make run with
  | placed check claimed place =>
    exact ⟨_, _, _, _, check.about (checkCancelled_asks _), rfl, place⟩

/-- A snapshot that is made is the file itself or a copy that is created on the way. -/
theorem runs_make_ok {cancellable : Bool} {unsaved unsaved' : Table String Handle} {s : Snapshot}
    (run : Runs (make scratch cancellable unsaved h).attempt t (.ok (s, unsaved'))) :
    Placed scratch h s t := by
  obtain ⟨t₁, t₂, current, onDisk, about, rfl, placing⟩ := runs_make_parts run
  have adds₁ : Adds t₁ := about.adds (by decide)
  have adds₂ : Adds [⟨.currentText h, .ok current⟩, ⟨.diskText h, .ok onDisk⟩] := by
    simp [Adds, Request.concern]
  rcases runs_place_ok placing with ⟨-, rfl, rfl⟩ | ⟨-, path, encoding, rfl, rfl⟩
  · rw [List.append_nil]
    exact .itself (adds_append.2 ⟨adds₁, adds₂⟩)
  · rw [← List.append_assoc]
    refine .copied (adds_append.2 ⟨adds₁, adds₂⟩) ?_
    simp [Adds, Request.concern]

/-! ### A set of snapshots -/

/-- To make the snapshots of files is to make that of the first and then those of the others. -/
theorem runs_makeEach_cons {cancellable : Bool} {unsaved : Table String Handle}
    {rest : List Handle} {made : List Snapshot}
    (run : Runs (makeEach scratch cancellable unsaved (h :: rest)) t (made, .ok ())) :
    ∃ s others unsaved' t₁ t₂, made = s :: others ∧ t = t₁ ++ t₂ ∧
      Runs (make scratch cancellable unsaved h).attempt t₁ (.ok (s, unsaved')) ∧
      Runs (makeEach scratch cancellable unsaved' rest) t₂ (others, .ok ()) := by
  rcases runs_makeEach run with ⟨_, -, failed, -⟩ | parts
  · cases failed
  · exact parts

/-- To make the snapshots of files under the lock is to lock, to make them, and to unlock. -/
theorem runs_makeAll_ok {cancellable : Bool} {files : List Handle} {made : List Snapshot}
    (run : Runs (makeAll scratch cancellable files) t (made, .ok ())) :
    ∃ t₁, t = ⟨.lock, .ok ()⟩ :: (t₁ ++ [⟨.unlock, .ok ()⟩]) ∧
      Runs (makeEach scratch cancellable [] files) t₁ (made, .ok ()) := by
  rcases runs_makeAll run with ⟨_, -, failed, -⟩ | ⟨t₁, ending, unlocked, rfl, ended, each⟩
  · cases failed
  · obtain ⟨rfl, rfl⟩ := eq_ok_of_unlockedWith ended.symm
    exact ⟨t₁, rfl, each⟩

/-- The snapshot that is placed for a file is one of the file. -/
theorem Placed.handle_eq {s : Snapshot} (placed : Placed scratch h s t) : s.handle = h := by
  cases placed <;> rfl

/-- There is one snapshot for every file, in the order of the files. -/
theorem map_handle_of_makeEach {cancellable : Bool} {unsaved : Table String Handle}
    {files : List Handle} {made : List Snapshot}
    (run : Runs (makeEach scratch cancellable unsaved files) t (made, .ok ())) :
    made.map handle = files := by
  induction files generalizing unsaved made t with
  | nil =>
    obtain ⟨-, same⟩ := runs_pure.1 run
    cases same
    rfl
  | cons h rest ih =>
    obtain ⟨s, others, unsaved', t₁, t₂, rfl, rfl, make, makeRest⟩ := runs_makeEach_cons run
    rw [List.map_cons, (runs_make_ok make).handle_eq, ih makeRest]

/-- Snapshots of files that do not get into each other's way in a workspace: whatever is not the
file itself is at a normal path of its own, where nothing stood. -/
structure Apart (w : Workspace) (files : List Handle) (made : List Snapshot) : Prop where
  handles : made.map handle = files
  itself : ∀ s ∈ made, s.temporary = false → s.path = s.handle.path
  normal : ∀ s ∈ made, s.temporary = true → Path.normalize w.cwd s.path = s.path
  free : ∀ s ∈ made, s.temporary = true → ¬ w.disk.Occupied w.cwd s.path
  distinct : ((made.filter temporary).map path).Nodup

variable {w w' : Workspace}

/-- A copy that is created on the way was not there before and is there afterwards. -/
theorem Placed.occupied {s : Snapshot} (placed : Placed scratch h s t) (follows : Follows w t w')
    (temporary : s.temporary = true) :
    Path.normalize w.cwd s.path = s.path ∧ ¬ w.disk.Occupied w.cwd s.path ∧
      w'.disk.Occupied w'.cwd s.path := by
  cases placed with
  | itself => cases temporary
  | copied before after =>
    obtain ⟨u, follows₁, follows₂⟩ := Follows.append_iff.1 follows
    cases follows₂ with
    | cons head tail =>
      obtain ⟨normal, free, there⟩ := head.created_spec
      rw [follows₁.cwd_eq] at normal
      exact ⟨normal, fun occupied => free (follows₁.occupied before occupied),
        tail.occupied after there⟩

/-- A snapshot that is made removes nothing. -/
theorem Placed.adds {s : Snapshot} (placed : Placed scratch h s t) : Adds t := by
  cases placed with
  | itself adds => exact adds
  | copied before after =>
    refine adds_append.2 ⟨before, fun e he => ?_⟩
    rcases List.mem_cons.1 he with rfl | he
    · exact ⟨by simp [Request.concern], by simp⟩
    · exact after e he

/-- Snapshots that are made one after the other are apart. -/
theorem apart_of_makeEach {cancellable : Bool} {unsaved : Table String Handle}
    {files : List Handle} {made : List Snapshot}
    (run : Runs (makeEach scratch cancellable unsaved files) t (made, .ok ()))
    (follows : Follows w t w') : Apart w files made := by
  induction files generalizing unsaved made t w with
  | nil =>
    obtain ⟨-, same⟩ := runs_pure.1 run
    cases same
    exact ⟨rfl, by simp, by simp, by simp, List.nodup_nil⟩
  | cons h rest ih =>
    obtain ⟨s, others, unsaved', t₁, t₂, rfl, rfl, make, makeRest⟩ := runs_makeEach_cons run
    have placed := runs_make_ok make
    obtain ⟨v, follows₁, follows₂⟩ := Follows.append_iff.1 follows
    have tail := ih makeRest follows₂
    have itself : s.temporary = false → s.path = s.handle.path := by
      cases placed with
      | itself => exact fun _ => rfl
      | copied => exact fun none => by cases none
    refine ⟨map_handle_of_makeEach run, ?_, ?_, ?_, ?_⟩
    · exact List.forall_mem_cons.2 ⟨itself, tail.itself⟩
    · refine List.forall_mem_cons.2 ⟨fun is => (placed.occupied follows₁ is).1, ?_⟩
      rw [← follows₁.cwd_eq]
      exact tail.normal
    · refine List.forall_mem_cons.2 ⟨fun is => (placed.occupied follows₁ is).2.1, ?_⟩
      intro s' hs' is' occupied
      exact tail.free s' hs' is' (follows₁.occupied placed.adds occupied)
    · by_cases is : s.temporary = true
      · rw [List.filter_cons_of_pos is, List.map_cons]
        refine List.nodup_cons.2 ⟨fun hmem => ?_, tail.distinct⟩
        obtain ⟨s', hs', same⟩ := List.mem_map.1 hmem
        obtain ⟨hs', is'⟩ := List.mem_filter.1 hs'
        -- The first copy is still there when this one is created at its path.
        have there := (placed.occupied follows₁ is).2.2
        rw [← same] at there
        exact tail.free s' hs' is' there
      · rw [List.filter_cons_of_neg is]
        exact tail.distinct

/-- Snapshots that are made under the lock are apart. -/
theorem apart_of_makeAll {cancellable : Bool} {files : List Handle} {made : List Snapshot}
    (run : Runs (makeAll scratch cancellable files) t (made, .ok ()))
    (follows : Follows w t w') : Apart w files made := by
  obtain ⟨t, rfl, each⟩ := runs_makeAll_ok run
  cases follows with
  | cons head tail =>
    obtain ⟨v, follows, -⟩ := Follows.append_iff.1 tail
    obtain rfl := head.eq (by simp [Request.concern])
    exact apart_of_makeEach each follows

end LiveCheck.Snapshot
