import LiveCheck.Proofs.Disk.Listing
import LiveCheck.Proofs.Path.Containment
import LiveCheck.Proofs.Path.Parent

/-!
# Disks without links

Without links a path leads where its text says.  What a walk does to a place is what normalization
does to the components read so far (`walk_eq_found`), so a directory stands at the components of
its normal form (`Unlinked.entry?_parts`).  A walk that goes on behind some pieces has found a
directory with them (`walk_append`), and therefore whatever a path of a directory is put together
from is a directory as well (`Unlinked.isDirectory_of_join`).
-/

namespace LiveCheck

namespace Path

variable {cwd path : String} {name : List Char}

/-! ### Pieces and components of longer paths -/

/-- A slash separates the pieces before it from those behind it. -/
theorem pieces_append (s t : List Char) : pieces (s ++ '/' :: t) = pieces s ++ pieces t := by
  induction s with
  | nil => exact pieces_slash t
  | cons c rest ih =>
    by_cases hc : c = '/'
    · subst hc
      rw [List.cons_append, pieces_slash, pieces_slash, ih]
      rfl
    · obtain ⟨p, ps, h, h'⟩ := pieces_cons hc rest
      obtain ⟨q, qs, k, k'⟩ := pieces_cons hc (rest ++ '/' :: t)
      rw [ih, h] at k
      obtain ⟨rfl, rfl⟩ := List.cons.inj k
      rw [List.cons_append, k', h']
      rfl

/-- The components of a path that goes on behind a slash. -/
theorem components_append (s t : List Char) : components (s ++ '/' :: t) =
    ((pieces t).foldl pushPiece (components s).reverse).reverse := by
  unfold components
  rw [pieces_append, List.foldl_append, List.reverse_reverse]

/-- The components of a path that is seen from another one. -/
theorem components_joinChars (base path : List Char) : components (joinChars base path) =
    ((pieces path).foldl pushPiece
      (if isAbsoluteChars path then [] else components base).reverse).reverse := by
  unfold joinChars
  by_cases absolute : isAbsoluteChars path = true
  · rw [if_pos absolute, if_pos absolute]
    rfl
  · rw [if_neg absolute, if_neg absolute]
    by_cases ended : base = [] ∨ base.getLast? = some '/'
    · rw [if_pos ended]
      rcases ended with rfl | slash
      · rfl
      · obtain ⟨front, rfl⟩ := List.getLast?_eq_some_iff.1 slash
        have start : components (front ++ ['/']) = components front := by
          rw [components_append]
          exact List.reverse_reverse _
        rw [start, List.append_assoc]
        exact components_append front path
    · rw [if_neg ended]
      exact components_append base path

/-- The components of a path come from its pieces, one after the other. -/
theorem parts_eq (cwd path : String) : parts cwd path =
    ((pieces path.toList).foldl pushPiece (Disk.startOf cwd path).reverse).reverse := by
  have named : ∀ p ∈ components (joinChars cwd.toList path.toList), IsComponent p :=
    fun p hp => (mem_components hp).2
  unfold parts normalizeChars normalizeAbsolute
  rw [components_render named, components_joinChars]
  rfl

/-- The characters of a normal form. -/
theorem toList_normalize (cwd path : String) :
    (normalize cwd path).toList = normalizeChars cwd.toList path.toList :=
  String.toList_ofList

/-- The normal form of the normal form. -/
theorem normalizeChars_normalize (cwd path : String) :
    normalizeChars cwd.toList (normalize cwd path).toList =
      normalizeChars cwd.toList path.toList := by
  rw [← toList_normalize, ← toList_normalize, normalize_normalize]

/-- A path has the components of its normal form. -/
theorem parts_normalize (cwd path : String) : parts cwd (normalize cwd path) = parts cwd path :=
  congrArg components (normalizeChars_normalize cwd path)

/-- A path begins as its normal form does. -/
theorem isPlain_normalize : IsPlain cwd (normalize cwd path) ↔ IsPlain cwd path := by
  unfold IsPlain
  rw [normalizeChars_normalize]

/-- The components of a path that was put together. -/
theorem parts_render (cwd : String) {n : Nat} {cs : List (List Char)} (hn : n = 1 ∨ n = 2)
    (named : ∀ p ∈ cs, IsComponent p) : parts cwd (String.ofList (render n cs)) = cs := by
  unfold parts
  rw [← toList_normalize, normalize_render cwd hn named, String.toList_ofList,
    components_render named]

/-- The components of a path with one more name. -/
theorem parts_join (hname : IsComponent name) :
    parts cwd (join (normalize cwd path) (String.ofList name)) = parts cwd path ++ [name] := by
  have named : ∀ p ∈ parts cwd path ++ [name], IsComponent p := by
    intro p hp
    rcases List.mem_append.1 hp with hp | hp
    · exact isComponent_of_mem_parts p hp
    · exact List.mem_singleton.1 hp ▸ hname
  unfold join
  rw [String.toList_ofList, toList_normalize, normalizeChars_eq,
    joinChars_render (leadingSlashes_eq _) isComponent_of_mem_parts hname,
    parts_render cwd (leadingSlashes_eq _) named]

end Path

namespace Disk

variable {d : Disk} {cwd path : String} {place start : Place} {piece : Name}
  {pieces front rest : List Name} {target : Target}

/-! ### Walks that end -/

/-- The place that a piece leads to from another one. -/
def enter (start : Place) (piece : Name) : Place := (Path.pushPiece start.reverse piece).reverse

/-- A walk that ends has gone through a directory. -/
theorem entry?_of_walk_cons (ended : d.walk true start (piece :: rest) = .ended target) :
    d.entry? start = some .directory := by
  rw [Disk.walk] at ended
  split at ended
  · cases ended
  · next there => exact not_not.1 there

/-- A walk that ends goes on behind its first piece, unless that is missing. -/
theorem walk_cons (ended : d.walk true start (piece :: rest) = .ended target) :
    target = .absent start piece ∧ rest = [] ∨ ∀ others,
      d.walk true start (piece :: others) = d.walk true (enter start piece) others := by
  have there := entry?_of_walk_cons ended
  unfold enter Path.pushPiece
  -- A piece leaves the walk where it is, or takes it up, or takes it down to what stands there.
  by_cases still : piece = [] ∨ piece = ['.']
  · right
    intro others
    rw [Disk.walk, if_neg (not_not.2 there), if_pos still, if_pos still, List.reverse_reverse]
  by_cases up : piece = ['.', '.']
  · right
    intro others
    rw [Disk.walk, if_neg (not_not.2 there), if_neg still, if_pos up, if_neg still, if_pos up,
      List.tail_reverse, List.reverse_reverse]
  rw [Disk.walk, if_neg (not_not.2 there), if_neg still, if_neg up] at ended
  rw [if_neg still, if_neg up, List.reverse_cons, List.reverse_reverse]
  by_cases long : byteLength piece > maxName
  · rw [if_pos long] at ended
    cases ended
  rw [if_neg long] at ended
  dsimp only at ended
  cases next : d.entry? (start ++ [piece]) with
  | none =>
    rw [next] at ended
    left
    dsimp only at ended
    split at ended
    · next last => exact ⟨(Walk.ended.inj ended).symm, last⟩
    · cases ended
  | some entry =>
    rw [next] at ended
    cases entry with
    | link target =>
      dsimp only at ended
      rw [if_neg (by simp)] at ended
      cases ended
    | directory | file _ =>
      right
      intro others
      rw [Disk.walk, if_neg (not_not.2 there), if_neg still, if_neg up, if_neg long]
      dsimp only
      rw [next]

/-- A walk that finds something has come where the pieces lead. -/
theorem walk_eq_found (found : d.walk true start pieces = .ended (.found place)) :
    place = (pieces.foldl Path.pushPiece start.reverse).reverse := by
  induction pieces generalizing start with
  | nil =>
    obtain rfl := Target.found.inj (Walk.ended.inj found)
    exact (List.reverse_reverse start).symm
  | cons piece rest ih =>
    rcases walk_cons found with ⟨missing, -⟩ | goes
    · cases missing
    · rw [goes] at found
      rw [ih found, List.foldl_cons]
      unfold enter
      rw [List.reverse_reverse]

/-- A walk that ends has found something with the pieces that are not the last ones. -/
theorem walk_append (more : rest ≠ []) (ended : d.walk true start (front ++ rest) = .ended target) :
    ∃ middle, d.walk true start front = .ended (.found middle) ∧
      d.walk true middle rest = .ended target := by
  induction front generalizing start with
  | nil => exact ⟨start, rfl, ended⟩
  | cons piece front ih =>
    rcases walk_cons ended with ⟨-, last⟩ | goes
    · exact absurd last (List.append_ne_nil_of_right_ne_nil front more)
    · have further : d.walk true (enter start piece) (front ++ rest) = .ended target := by
        rw [← goes]
        exact ended
      rw [goes]
      exact ih further

/-! ### No links -/

/-- No link stands anywhere. -/
def Unlinked (d : Disk) : Prop := ∀ place target, d.entry? place ≠ some (.link target)

/-- No link stands anywhere if none stands in the table. -/
theorem unlinked_of_entries (none : ∀ entry ∈ d.entries, ∀ target, entry.2 ≠ .link target) :
    d.Unlinked := by
  intro place target found
  unfold entry? at found
  split at found
  · cases found
  · exact none _ (Table.mem_of_get? found) target rfl

/-- A walk meets no link. -/
theorem Unlinked.walk_ne_met (unlinked : d.Unlinked) (start : Place) (pieces : List Name)
    (directory : Place) (target : String) (rest : List Name) :
    d.walk true start pieces ≠ .met directory target rest := by
  induction pieces generalizing start with
  | nil => exact nofun
  | cons piece more ih =>
    intro met
    rw [Disk.walk] at met
    split at met
    · cases met
    split at met
    · exact ih start met
    split at met
    · exact ih start.dropLast met
    split at met
    · cases met
    dsimp only at met
    split at met
    · split at met <;> cases met
    · next link => exact unlinked _ _ link
    · exact ih (start ++ [piece]) met

/-- To follow pieces is to walk them. -/
theorem Unlinked.follow_eq_ok (unlinked : d.Unlinked) {links : Nat} :
    d.follow true links start pieces = .ok target ↔
      d.walk true start pieces = .ended target := by
  rw [Disk.follow]
  cases walked : d.walk true start pieces with
  | ended reached =>
    constructor
    · intro same
      exact congrArg Walk.ended (Except.ok.inj same)
    · intro same
      exact congrArg Except.ok (Walk.ended.inj same)
  | failed number =>
    constructor
    · intro same
      cases same
    · intro same
      cases same
  | met directory text rest => exact absurd walked (unlinked.walk_ne_met start pieces _ _ _)

/-- A path is a directory if it can be one and its pieces lead to one. -/
theorem Unlinked.isDirectory_iff (unlinked : d.Unlinked) : d.isDirectory cwd path = true ↔
    '\x00' ∉ path.toList ∧ path ≠ "" ∧ byteLength path.toList ≤ maxPath ∧
      ∃ place, d.walk true (startOf cwd path) (Path.pieces path.toList) = .ended (.found place) ∧
        d.entry? place = some .directory := by
  unfold isDirectory lookUp? locate
  rw [decide_eq_true_iff]
  constructor
  · intro found
    split at found
    · cases found
    next named =>
    split at found
    · next located =>
      split at located
      · cases located
      next given =>
      split at located
      · cases located
      next short =>
      exact ⟨named, given, Nat.le_of_not_lt short, _, unlinked.follow_eq_ok.1 located, found⟩
    · cases found
  · rintro ⟨named, given, short, place, walked, there⟩
    rw [if_neg named, if_neg given, if_neg (Nat.not_lt_of_le short), unlinked.follow_eq_ok.2 walked]
    exact there

/-- A directory stands at the components of its path. -/
theorem Unlinked.entry?_parts (unlinked : d.Unlinked) (there : d.isDirectory cwd path = true) :
    d.target? cwd path = some (Path.parts cwd path) ∧
      d.entry? (Path.parts cwd path) = some .directory := by
  obtain ⟨place, leads, directory⟩ := Disk.isDirectory_iff.1 there
  obtain ⟨named, given, short, place', walked, -⟩ := unlinked.isDirectory_iff.1 there
  have same : place' = place := by
    have located : d.locate cwd path true = .ok (.found place') := by
      unfold locate
      rw [if_neg given, if_neg (Nat.not_lt_of_le short)]
      exact unlinked.follow_eq_ok.2 walked
    rw [target?_of_named named, located] at leads
    exact Option.some.inj leads
  have stands : place' = Path.parts cwd path := by
    rw [walk_eq_found walked, Path.parts_eq]
  rw [← stands, same]
  exact ⟨leads, directory⟩

/-- A path that goes on is at least as long. -/
theorem byteLength_le_append (s t : List Char) : byteLength s ≤ byteLength (s ++ t) := by
  have further (n : Nat) (t : List Char) : n ≤ t.foldl (fun n c => n + c.utf8Size) n := by
    induction t generalizing n with
    | nil => exact Nat.le_refl n
    | cons c rest ih => exact Nat.le_trans (Nat.le_add_right n c.utf8Size) (ih _)
  unfold byteLength
  rw [List.foldl_append]
  exact further _ t

/-- The path without components is the root. -/
theorem Unlinked.isDirectory_root (unlinked : d.Unlinked) {n : Nat} (hn : n = 1 ∨ n = 2) :
    d.isDirectory cwd (String.ofList (Path.render n [])) = true := by
  rw [unlinked.isDirectory_iff, Path.render_nil, String.toList_ofList]
  rcases hn with rfl | rfl
  · exact ⟨by decide, by decide, by decide, [], rfl, rfl⟩
  · exact ⟨by decide, by decide, by decide, [], rfl, rfl⟩

/-- What a directory stands in is a directory. -/
theorem Unlinked.isDirectory_of_join (unlinked : d.Unlinked) {name : Name}
    (hname : Path.IsComponent name)
    (there : d.isDirectory cwd (Path.join (Path.normalize cwd path) (String.ofList name)) = true) :
    d.isDirectory cwd (Path.normalize cwd path) = true := by
  obtain ⟨n, cs, hn, named, normal⟩ := Path.exists_render cwd path
  have chars : (Path.join (Path.normalize cwd path) (String.ofList name)).toList =
      Path.render n (cs ++ [name]) := by
    unfold Path.join
    rw [String.toList_ofList, String.toList_ofList, normal, Path.joinChars_render hn named hname]
  by_cases root : cs = []
  · rw [← String.ofList_toList (s := Path.normalize cwd path), normal, root]
    exact unlinked.isDirectory_root hn
  · have split : Path.render n (cs ++ [name]) = Path.render n cs ++ '/' :: name := by
      unfold Path.render
      rw [Path.joinPieces_concat root, List.append_assoc]
    have absolute : startOf cwd (Path.normalize cwd path) = [] :=
      if_pos (Path.isAbsoluteChars_normalize cwd path)
    have absolute' :
        startOf cwd (Path.join (Path.normalize cwd path) (String.ofList name)) = [] := by
      rw [← Path.normalize_join cwd cwd path hname]
      exact if_pos (Path.isAbsoluteChars_normalize cwd _)
    obtain ⟨whole, -, short, place, walked, -⟩ := unlinked.isDirectory_iff.1 there
    rw [chars, split] at whole short walked
    rw [absolute', Path.pieces_append, Path.pieces_of_noSlash hname.noSlash] at walked
    obtain ⟨middle, front, last⟩ := walk_append (List.cons_ne_nil name []) walked
    rw [unlinked.isDirectory_iff, absolute, normal]
    refine ⟨?_, ?_, ?_, middle, front, entry?_of_walk_cons last⟩
    · intro null
      exact whole (List.mem_append_left _ null)
    · intro empty
      have slash := Path.isAbsoluteChars_normalize cwd path
      rw [empty] at slash
      cases slash
    · exact Nat.le_trans (byteLength_le_append _ _) short

end Disk

end LiveCheck
