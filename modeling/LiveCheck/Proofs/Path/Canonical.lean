import LiveCheck.Proofs.Disk.Unlinked

/-!
# The normal form of a path is canonical

A normal form consists of one slash or two and of components with a slash between each two of them.
It has two slashes at its start exactly if the path has, seen from the current directory, so three
slashes are as good as one (`leadingSlashes_eq_two_iff`).

What a path becomes when another one is joined to it depends on its slashes and its components
alone: the slashes at the start are those of the first path (`leadingSlashes_joinChars`), and the
pieces of the second one go on from the components of the first.  Both are kept by normalization.
So it does not matter whether a directory is normalized before a path in it is looked up
(`normalize_canonical`).

Which components a normal form has is said piece by piece (`components_normalize_join`): a component
is kept until a `..` takes it back, and whatever is normal already is kept as a whole
(`normalize_eq_self`).
-/

namespace LiveCheck.Path

variable {s base path : List Char}

/-- The text has exactly two slashes at its start. -/
def StartsWithTwo (s : List Char) : Prop :=
  ∃ rest, s = '/' :: '/' :: rest ∧ rest.head? ≠ some '/'

/-! ### Slashes at the start -/

/-- A normal path keeps two slashes exactly if there are two at the start, and no third. -/
theorem leadingSlashes_eq_two_iff : leadingSlashes s = 2 ↔ StartsWithTwo s := by
  unfold leadingSlashes
  split
  · refine iff_of_false (by decide) ?_
    rintro ⟨rest, same, other⟩
    cases same
    exact other rfl
  · next rest noThird =>
    refine iff_of_true rfl ⟨rest, rfl, ?_⟩
    intro third
    obtain ⟨more, rfl⟩ := List.head?_eq_some_iff.1 third
    exact noThird more rfl
  · next noTwo =>
    refine iff_of_false (by decide) ?_
    rintro ⟨rest, rfl, -⟩
    exact noTwo rest rfl

/-- A path that does not start with a slash keeps one when it is read as an absolute one. -/
theorem leadingSlashes_of_relative (relative : isAbsoluteChars s = false) :
    leadingSlashes s = 1 := by
  refine (leadingSlashes_eq s).resolve_right fun two => ?_
  obtain ⟨rest, rfl, -⟩ := leadingSlashes_eq_two_iff.1 two
  cases relative

/-- What stands behind a text that is not empty does not change the slashes at its start, unless it
begins with a slash and the text ends with one. -/
theorem leadingSlashes_append (hne : base ≠ [])
    (apart : base.getLast? = some '/' → path.head? ≠ some '/') :
    leadingSlashes (base ++ path) = leadingSlashes base := by
  match base with
  | [c] =>
    by_cases hc : c = '/'
    · subst hc
      have other := apart rfl
      cases path with
      | nil => rfl
      | cons d rest => simp_all [leadingSlashes]
    · simp [leadingSlashes, hc]
  | [c, d] =>
    by_cases hc : c = '/'
    · by_cases hd : d = '/'
      · subst hc hd
        have other := apart rfl
        cases path with
        | nil => rfl
        | cons d rest => simp_all [leadingSlashes]
      · simp [leadingSlashes, hc, hd]
    · simp [leadingSlashes, hc]
  | c :: d :: e :: rest =>
    by_cases hc : c = '/' <;> by_cases hd : d = '/' <;> by_cases he : e = '/' <;>
      simp [leadingSlashes, hc, hd, he]

/-- A path that does not start with a slash does not add one to the start of another path. -/
theorem leadingSlashes_joinChars (relative : isAbsoluteChars path = false) :
    leadingSlashes (joinChars base path) = leadingSlashes base := by
  have first : path.head? ≠ some '/' := by
    intro slash
    obtain ⟨rest, rfl⟩ := List.head?_eq_some_iff.1 slash
    cases relative
  unfold joinChars
  rw [relative, if_neg Bool.false_ne_true]
  by_cases empty : base = []
  · rw [if_pos (Or.inl empty), empty]
    exact leadingSlashes_of_relative relative
  split
  · exact leadingSlashes_append empty fun _ => first
  · next ended => exact leadingSlashes_append empty fun slash => absurd (Or.inr slash) ended

/-! ### Paths in directories -/

/-- A path as the start of longer ones: with a slash at its end, unless it is empty. -/
def opened (base : List Char) : List Char :=
  if base = [] ∨ base.getLast? = some '/' then base else base ++ ['/']

/-- A path that does not start with a slash is put behind the other one. -/
theorem joinChars_eq_opened_append (relative : isAbsoluteChars path = false) :
    joinChars base path = opened base ++ path := by
  unfold joinChars opened
  rw [relative, if_neg Bool.false_ne_true]
  split
  · rfl
  · rw [List.append_assoc]
    rfl

/-- A path behind an opened one is opened as it is alone. -/
theorem opened_opened_append (cwd base : List Char) :
    opened (opened cwd ++ base) = opened cwd ++ opened base := by
  have ended : opened cwd = [] ∨ (opened cwd).getLast? = some '/' := by
    unfold opened
    split
    · assumption
    · exact Or.inr List.getLast?_concat
  by_cases empty : base = []
  · subst empty
    rw [List.append_nil]
    exact (if_pos ended).trans (List.append_nil _).symm
  generalize opened cwd = front
  have last : (front ++ base).getLast? = base.getLast? := List.getLast?_append_of_ne_nil _ empty
  unfold opened
  by_cases slash : base.getLast? = some '/'
  · rw [if_pos (Or.inr (last.trans slash)), if_pos (Or.inr slash)]
  · have more : front ++ base ≠ [] := fun none => empty (List.append_eq_nil_iff.1 none).2
    rw [if_neg (not_or.2 ⟨more, last ▸ slash⟩), if_neg (not_or.2 ⟨empty, slash⟩),
      List.append_assoc]

/-- Whether a path starts at the root is seen from its first character. -/
theorem isAbsoluteChars_cons (c : Char) (rest : List Char) :
    isAbsoluteChars (c :: rest) = decide (c = '/') := by
  by_cases hc : c = '/' <;> simp [isAbsoluteChars, hc]

/-- A path in a directory starts at the root if the directory does. -/
theorem isAbsoluteChars_joinChars (relative : isAbsoluteChars path = false) :
    isAbsoluteChars (joinChars base path) = isAbsoluteChars base := by
  rw [joinChars_eq_opened_append relative]
  cases base with
  | nil => exact relative
  | cons c rest =>
    obtain ⟨more, first⟩ : ∃ more, opened (c :: rest) = c :: more := by
      unfold opened
      split
      · exact ⟨rest, rfl⟩
      · exact ⟨rest ++ ['/'], rfl⟩
    rw [first, List.cons_append, isAbsoluteChars_cons, isAbsoluteChars_cons]

/-- A path that is seen from a directory which is itself seen from another one. -/
theorem joinChars_assoc (cwd base path : List Char) :
    joinChars cwd (joinChars base path) = joinChars (joinChars cwd base) path := by
  by_cases absolute : isAbsoluteChars path = true
  · rw [joinChars_of_isAbsolute absolute, joinChars_of_isAbsolute absolute,
      joinChars_of_isAbsolute absolute]
  have relative : isAbsoluteChars path = false := Bool.eq_false_iff.2 absolute
  have same : isAbsoluteChars (joinChars base path) = isAbsoluteChars base :=
    isAbsoluteChars_joinChars relative
  by_cases top : isAbsoluteChars base = true
  · rw [joinChars_of_isAbsolute top, joinChars_of_isAbsolute (same.trans top)]
  · have below : isAbsoluteChars base = false := Bool.eq_false_iff.2 top
    rw [joinChars_eq_opened_append (same.trans below), joinChars_eq_opened_append relative,
      joinChars_eq_opened_append relative, joinChars_eq_opened_append below,
      opened_opened_append, List.append_assoc]

/-- A path is the same whether the directory that it stands in was normalized before or not. -/
theorem normalizeAbsolute_joinChars :
    normalizeAbsolute (joinChars (normalizeAbsolute base) path) =
      normalizeAbsolute (joinChars base path) := by
  by_cases absolute : isAbsoluteChars path = true
  · rw [joinChars_of_isAbsolute absolute, joinChars_of_isAbsolute absolute]
  have relative : isAbsoluteChars path = false := Bool.eq_false_iff.2 absolute
  have named : ∀ p ∈ components base, IsComponent p := fun p hp => (mem_components hp).2
  have slashes : leadingSlashes (normalizeAbsolute base) = leadingSlashes base :=
    leadingSlashes_render named (leadingSlashes_eq base)
  have same : components (normalizeAbsolute base) = components base := components_render named _
  change render (leadingSlashes (joinChars (normalizeAbsolute base) path)) (components _) =
    render (leadingSlashes (joinChars base path)) (components _)
  rw [leadingSlashes_joinChars relative, leadingSlashes_joinChars relative, slashes,
    components_joinChars, components_joinChars, same]

/-! ### The canonical form -/

/-- The normal form of a path is put together from one slash or two and from components, and no
slash stands behind the last of them; it has two slashes exactly if the path has them, seen from the
current directory; it is its own normal form, seen from anywhere; and a path that is looked up in a
directory has the same normal form whether the directory was normalized before or not. -/
theorem normalize_canonical (cwd path : String) :
    (∃ slashes cs, (slashes = 1 ∨ slashes = 2) ∧ (∀ p ∈ cs, IsComponent p) ∧
      (normalize cwd path).toList = List.replicate slashes '/' ++ joinPieces cs ∧
      (cs ≠ [] → (normalize cwd path).toList.getLast? ≠ some '/')) ∧
    (StartsWithTwo (normalize cwd path).toList ↔ StartsWithTwo (join cwd path).toList) ∧
    (∀ cwd', normalize cwd' (normalize cwd path) = normalize cwd path) ∧
    ∀ cwd' r, normalize cwd' (join (normalize cwd path) r) = normalize cwd (join path r) := by
  obtain ⟨slashes, cs, start, named, text⟩ := exists_render cwd path
  refine ⟨⟨slashes, cs, start, named, text, fun some_ => ?_⟩, ?_, ?_, ?_⟩
  · obtain ⟨front, c, closed, other⟩ := exists_last_render (n := slashes) some_ named
    rw [text, closed, List.getLast?_concat]
    exact fun slash => other (Option.some.inj slash)
  · rw [← leadingSlashes_eq_two_iff, ← leadingSlashes_eq_two_iff, toList_normalize]
    unfold join
    rw [String.toList_ofList]
    exact iff_of_eq (congrArg (· = 2) (leadingSlashes_render (fun p hp => (mem_components hp).2)
      (leadingSlashes_eq _)))
  · exact fun cwd' => normalize_normalize cwd cwd' path
  · intro cwd' r
    have absolute : isAbsoluteChars (joinChars (normalize cwd path).toList r.toList) = true := by
      by_cases top : isAbsoluteChars r.toList = true
      · rwa [joinChars_of_isAbsolute top]
      · rw [isAbsoluteChars_joinChars (Bool.eq_false_iff.2 top)]
        exact isAbsoluteChars_normalize cwd path
    refine congrArg String.ofList ?_
    unfold join
    rw [String.toList_ofList, String.toList_ofList]
    unfold normalizeChars
    rw [joinChars_of_isAbsolute absolute, toList_normalize, joinChars_assoc]
    exact normalizeAbsolute_joinChars

/-! ### The components that are kept -/

/-- The components of a normal form are those of the path, seen from the current directory. -/
theorem components_normalize (cwd path : String) :
    components (normalize cwd path).toList = components (joinChars cwd.toList path.toList) := by
  rw [toList_normalize]
  exact components_render (fun p hp => (mem_components hp).2) _

/-- A path that is put together from one slash or two and from components keeps them all. -/
theorem normalize_eq_self (cwd : String) {path : String} {slashes : Nat} {cs : List (List Char)}
    (start : slashes = 1 ∨ slashes = 2) (named : ∀ p ∈ cs, IsComponent p)
    (text : path.toList = render slashes cs) : normalize cwd path = path := by
  have absolute : isAbsoluteChars (render slashes cs) = true := by
    rcases start with rfl | rfl <;> rfl
  unfold normalize normalizeChars normalizeAbsolute
  rw [text, joinChars_of_isAbsolute absolute, leadingSlashes_render named start,
    components_render named, ← text, String.ofList_toList]

/-- One more piece is pushed onto the components before it. -/
theorem components_normalize_join_of_noSlash (cwd path : String) {piece : String}
    (noSlash : '/' ∉ piece.toList) :
    components (normalize cwd (join path piece)).toList =
      (pushPiece (components (normalize cwd path).toList).reverse piece.toList).reverse := by
  have relative : isAbsoluteChars piece.toList = false := by
    refine Bool.eq_false_iff.2 fun absolute => ?_
    obtain ⟨rest, first⟩ := exists_of_isAbsoluteChars absolute
    exact noSlash (first ▸ List.mem_cons_self)
  rw [components_normalize, components_normalize, join, String.toList_ofList, joinChars_assoc,
    components_joinChars, pieces_of_noSlash noSlash, relative]
  rfl

/-- Which components a normal form keeps.  A component that is looked up in a directory stands
behind those of the directory, nothing and `.` add nothing to them, and `..` takes back the last of
them, if there is one. -/
theorem components_normalize_join (cwd path : String) :
    (∀ name : String, IsComponent name.toList →
      components (normalize cwd (join path name)).toList =
        components (normalize cwd path).toList ++ [name.toList]) ∧
    (∀ piece ∈ ["", "."], components (normalize cwd (join path piece)).toList =
      components (normalize cwd path).toList) ∧
    components (normalize cwd (join path "..")).toList =
      (components (normalize cwd path).toList).dropLast := by
  refine ⟨fun name named => ?_, fun piece still => ?_, ?_⟩
  · have each : ∀ p ∈ [name.toList], IsComponent p := fun p hp => List.mem_singleton.1 hp ▸ named
    have pushed := foldl_pushPiece each (components (normalize cwd path).toList).reverse
    rw [components_normalize_join_of_noSlash cwd path named.noSlash]
    exact (congrArg List.reverse pushed).trans (by simp)
  · rcases List.mem_pair.1 still with rfl | rfl
    all_goals
      rw [components_normalize_join_of_noSlash cwd path (by decide)]
      exact List.reverse_reverse _
  · rw [components_normalize_join_of_noSlash cwd path (by decide)]
    exact (congrArg List.reverse List.tail_reverse).trans (List.reverse_reverse _)

example : normalize "/home/me" "a/./b//../c" = "/home/me/a/c" := by decide

end LiveCheck.Path
