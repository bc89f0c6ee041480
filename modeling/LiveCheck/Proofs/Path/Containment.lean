import LiveCheck.Proofs.Path

/-!
# Containment of paths

Whether a path stands under a root is decided on texts: both are normalized, the deepest directory
over the two is put together, and it is compared with the root.  For a root with one slash at its
start this is the same as a statement about lists: the components of the root are the first
components of the path (`isUnder_iff`).  So a name that merely begins like the name of the root is
no containment, and the two spellings of a path do not matter.
-/

namespace LiveCheck.Path

/-- The components of the normal form of a path, seen from the current directory. -/
def parts (cwd path : String) : List (List Char) :=
  components (normalizeChars cwd.toList path.toList)

/-- The normal form of the path has one slash at its start. -/
def IsPlain (cwd path : String) : Prop :=
  leadingSlashes (normalizeChars cwd.toList path.toList) = 1

instance (cwd path : String) : Decidable (IsPlain cwd path) :=
  inferInstanceAs (Decidable (_ = _))

/-! ### Normal forms and their components -/

/-- The components of a normal form name something. -/
theorem isComponent_of_mem_parts {cwd path : String} : ∀ p ∈ parts cwd path, IsComponent p :=
  fun _ hp => (mem_components hp).2

/-- A normal form is put together from its slashes and its components. -/
theorem normalizeChars_eq (cwd path : String) :
    normalizeChars cwd.toList path.toList =
      render (leadingSlashes (normalizeChars cwd.toList path.toList)) (parts cwd path) :=
  (normalizeAbsolute_normalizeAbsolute (joinChars cwd.toList path.toList)).symm

/-- The normal form of a plain path has one slash in front of its components. -/
theorem IsPlain.normalizeChars_eq {cwd path : String} (plain : IsPlain cwd path) :
    normalizeChars cwd.toList path.toList = render 1 (parts cwd path) := by
  have normal := Path.normalizeChars_eq cwd path
  rwa [plain] at normal

/-- Components that are put together with the same slashes are found again. -/
theorem render_injective {cs ds : List (List Char)} (hc : ∀ p ∈ cs, IsComponent p)
    (hd : ∀ p ∈ ds, IsComponent p) {n m : Nat} (h : render n cs = render m ds) : cs = ds := by
  rw [← components_render hc n, h, components_render hd]

/-- An empty piece names nothing. -/
theorem namedPieces_slash (s : List Char) : namedPieces ('/' :: s) = namedPieces s := by
  unfold namedPieces
  rw [pieces_slash]
  rfl

/-- The pieces of a normal path that name something are its components. -/
theorem namedPieces_render {cs : List (List Char)} (h : ∀ p ∈ cs, IsComponent p) (n : Nat) :
    namedPieces (render n cs) = cs := by
  induction n with
  | zero =>
    by_cases hne : cs = []
    · subst hne
      rfl
    · change namedPieces (joinPieces cs) = cs
      unfold namedPieces
      rw [pieces_joinPieces hne fun p hp => (h p hp).noSlash]
      exact List.filter_eq_self.2 fun p hp =>
        decide_eq_true ⟨(h p hp).ne_nil, (h p hp).ne_dot⟩
  | succ n ih =>
    change namedPieces ('/' :: render n cs) = cs
    rw [namedPieces_slash, ih]

/-! ### Containment -/

/-- The common start of two lists is a start of the second. -/
theorem commonStart_prefix {α : Type} [DecidableEq α] (as bs : List α) :
    commonStart as bs <+: bs := by
  induction as generalizing bs with
  | nil => exact List.nil_prefix
  | cons a as ih =>
    cases bs with
    | nil => exact List.nil_prefix
    | cons b bs =>
      unfold commonStart
      split
      · next h =>
        subst h
        exact (List.prefix_cons_inj a).2 (ih bs)
      · exact List.nil_prefix

/-- A list is its common start with another one where it is a start of it. -/
theorem commonStart_eq_iff {α : Type} [DecidableEq α] {as bs : List α} :
    commonStart as bs = bs ↔ bs <+: as := by
  induction as generalizing bs with
  | nil =>
    rw [List.prefix_nil]
    exact ⟨fun h => h.symm, fun h => h.symm⟩
  | cons a as ih =>
    cases bs with
    | nil => exact ⟨fun _ => List.nil_prefix, fun _ => rfl⟩
    | cons b bs =>
      unfold commonStart
      rw [List.cons_prefix_cons]
      split
      · next h =>
        subst h
        rw [List.cons_inj_right, ih]
        exact ⟨fun h => ⟨rfl, h⟩, fun h => h.2⟩
      · next h =>
        refine ⟨fun empty => ?_, fun start => absurd start.1.symm h⟩
        cases empty

/-- A path is under a plain root exactly if the components of the root are the first components of
the path. -/
theorem isUnder_iff {cwd path root : String} (plain : IsPlain cwd root) :
    isUnder cwd path root = true ↔ parts cwd root <+: parts cwd path := by
  have start := commonStart_prefix (parts cwd path) (parts cwd root)
  have named : ∀ p ∈ commonStart (parts cwd path) (parts cwd root), IsComponent p :=
    fun p hp => isComponent_of_mem_parts p (start.subset hp)
  unfold isUnder commonDirectory
  rw [decide_eq_true_iff, normalizeChars_eq cwd path, plain.normalizeChars_eq,
    namedPieces_render isComponent_of_mem_parts, namedPieces_render isComponent_of_mem_parts]
  -- one slash stands in front of both, so only the components are compared
  change render 1 (commonStart _ _) = render 1 _ ↔ _
  rw [← commonStart_eq_iff]
  exact ⟨render_injective named isComponent_of_mem_parts, congrArg (render 1)⟩

/-- A name that begins like the name of the root is not under it. -/
example : isUnder "/" "/p/src2/a.py" "/p/src" = false := by decide +kernel

/-- A path is in one of some plain roots exactly if it begins with the components of one. -/
theorem any_isUnder_iff {cwd : String} {roots : List String} (plain : ∀ r ∈ roots, IsPlain cwd r)
    (path : String) :
    roots.any (isUnder cwd path) = true ↔ ∃ r ∈ roots, parts cwd r <+: parts cwd path := by
  rw [List.any_eq_true]
  exact exists_congr fun r => and_congr_right fun hr => isUnder_iff (plain r hr)

end LiveCheck.Path
