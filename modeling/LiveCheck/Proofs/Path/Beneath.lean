import LiveCheck.Project
import LiveCheck.Proofs.Disk.Unlinked

/-!
# Equal or beneath

A path is under a root when it is the root or lies beneath it.  On normal texts this reads: the two
are equal, or the root is a single slash, or the path goes on with a slash behind the root
(`AtOrBeneath`).  The check itself compares components and puts the deepest directory together with
one slash at its start, while a normal form may keep two.  Where the root has one slash the two
readings are the same, and a root with two is never found, not even over itself.

From the components everything else follows: containment goes on from root to root, two names in
one directory have no path in common, and a project contains its own directories as far as they
have one slash at their start (`isUnder_beneath`).
-/

namespace LiveCheck

namespace Path

variable {cwd path root : String} {cs ds : List (List Char)}

/-- A normal text is the one of the root, or goes on behind it with a slash. -/
def AtOrBeneath (path root : String) : Prop :=
  path = root ∨ root = "/" ∨ (root ++ "/").toList <+: path.toList

instance (path root : String) : Decidable (AtOrBeneath path root) :=
  inferInstanceAs (Decidable (_ ∨ _ ∨ _))

/-- The normal form of a path, with one slash at its start in any case. -/
def normalizePlain (cwd path : String) : String := String.ofList (render 1 (parts cwd path))

/-! ### Texts that go on behind components -/

/-- Components and more of them stand before and behind a slash. -/
theorem joinPieces_append (hc : cs ≠ []) (hd : ds ≠ []) :
    joinPieces (cs ++ ds) = joinPieces cs ++ '/' :: joinPieces ds := by
  obtain ⟨d, rest, rfl⟩ := List.exists_cons_of_ne_nil hd
  induction cs with
  | nil => exact absurd rfl hc
  | cons c more ih =>
    cases more with
    | nil => rfl
    | cons c' more =>
      change c ++ '/' :: joinPieces (c' :: more ++ d :: rest) = _
      rw [ih (List.cons_ne_nil _ _), ← List.cons_append, ← List.append_assoc]
      rfl

/-- A text that goes on behind some components with a slash has these components first. -/
theorem prefix_of_joinPieces_slash (hc : cs ≠ []) (named : ∀ p ∈ cs, IsComponent p)
    (named' : ∀ p ∈ ds, IsComponent p) (start : joinPieces cs ++ ['/'] <+: joinPieces ds) :
    cs <+: ds := by
  obtain ⟨rest, longer⟩ := start
  have hd : ds ≠ [] := by
    rintro rfl
    cases (List.append_eq_nil_iff.1 (List.append_eq_nil_iff.1 longer).1).2
  refine ⟨pieces rest, ?_⟩
  -- the slash separates the pieces before it from those behind it
  rw [List.append_assoc] at longer
  have split := pieces_append (joinPieces cs) rest
  rw [show joinPieces cs ++ '/' :: rest = joinPieces ds from longer,
    pieces_joinPieces hd fun p hp => (named' p hp).noSlash,
    pieces_joinPieces hc fun p hp => (named p hp).noSlash] at split
  exact split.symm

/-- A path with one slash at its start is beneath another path exactly if that has one slash at its
start as well, and its components come first. -/
theorem atOrBeneath_render_iff {n : Nat} (hn : n = 1 ∨ n = 2) (named : ∀ p ∈ cs, IsComponent p)
    (named' : ∀ p ∈ ds, IsComponent p) :
    AtOrBeneath (String.ofList (render 1 ds)) (String.ofList (render n cs)) ↔
      n = 1 ∧ cs <+: ds := by
  have noSlash : ∀ rest, joinPieces ds ≠ '/' :: rest := by
    intro rest slash
    exact head?_joinPieces named' (congrArg List.head? slash)
  have behind : (String.ofList (render n cs) ++ "/").toList <+:
      (String.ofList (render 1 ds)).toList ↔ render n cs ++ ['/'] <+: '/' :: joinPieces ds := by
    simp only [String.toList_append, String.toList_ofList]
    rfl
  unfold AtOrBeneath
  rw [behind]
  rcases hn with rfl | rfl
  · constructor
    · rintro (same | top | ⟨rest, longer⟩)
      · obtain rfl := render_injective named' named (String.ofList_injective same)
        exact ⟨rfl, List.prefix_refl _⟩
      · have none : render 1 cs = render 1 [] := String.ofList_injective top
        obtain rfl := render_injective named (fun _ h => absurd h List.not_mem_nil) none
        exact ⟨rfl, List.nil_prefix⟩
      · have longer : joinPieces cs ++ ['/'] ++ rest = joinPieces ds := (List.cons.inj longer).2
        by_cases hc : cs = []
        · subst hc
          exact absurd longer.symm (noSlash rest)
        · exact ⟨rfl, prefix_of_joinPieces_slash hc named named' ⟨rest, longer⟩⟩
    · rintro ⟨-, more, rfl⟩
      by_cases hm : more = []
      · left
        rw [hm, List.append_nil]
      by_cases hc : cs = []
      · right
        left
        rw [hc]
        rfl
      · refine Or.inr (Or.inr ⟨joinPieces more, ?_⟩)
        rw [joinPieces_append hc hm, List.append_assoc]
        rfl
  · refine ⟨?_, fun h => absurd h.1 (by decide)⟩
    -- a path with one slash has no second one at its start
    rintro (same | top | ⟨rest, longer⟩)
    · exact absurd (List.cons.inj (String.ofList_injective same)).2 (noSlash _)
    · cases (List.cons.inj (String.ofList_injective top)).2
    · exact absurd (List.cons.inj longer).2.symm (noSlash _)

/-! ### Containment -/

/-- A path is under a root exactly if the root has one slash at its start and its components come
first. -/
theorem isUnder_iff_isPlain :
    isUnder cwd path root = true ↔ IsPlain cwd root ∧ parts cwd root <+: parts cwd path := by
  by_cases plain : IsPlain cwd root
  · rw [isUnder_iff plain]
    exact (and_iff_right plain).symm
  · refine iff_of_false (fun under => plain ?_) fun h => plain h.1
    unfold isUnder commonDirectory at under
    rw [decide_eq_true_iff, normalizeChars_eq cwd path,
      namedPieces_render isComponent_of_mem_parts] at under
    have start := commonStart_prefix (parts cwd path)
      (namedPieces (normalizeChars cwd.toList root.toList))
    rw [normalizeChars_eq cwd root, namedPieces_render isComponent_of_mem_parts] at start
    have one : leadingSlashes (render 1 (commonStart (parts cwd path) (parts cwd root))) = 1 :=
      leadingSlashes_render (fun p hp => isComponent_of_mem_parts p (start.subset hp)) (Or.inl rfl)
    unfold IsPlain
    rw [← under, normalizeChars_eq cwd root, namedPieces_render isComponent_of_mem_parts]
    exact one

/-- The text of a normal form. -/
theorem normalize_eq_render (cwd path : String) : normalize cwd path =
    String.ofList (render (leadingSlashes (normalizeChars cwd.toList path.toList))
      (parts cwd path)) :=
  congrArg String.ofList (normalizeChars_eq cwd path)

/-- A path whose normal form has one slash at its start keeps that form. -/
theorem IsPlain.normalizePlain_eq (plain : IsPlain cwd path) :
    normalizePlain cwd path = normalize cwd path :=
  congrArg String.ofList plain.normalizeChars_eq.symm

/-- A path is under a root exactly if it is equal to it or beneath it, read with one slash at its
start. -/
theorem isUnder_iff_atOrBeneath :
    isUnder cwd path root = true ↔ AtOrBeneath (normalizePlain cwd path) (normalize cwd root) := by
  rw [isUnder_iff_isPlain, normalize_eq_render cwd root]
  exact (atOrBeneath_render_iff (leadingSlashes_eq _) isComponent_of_mem_parts
    isComponent_of_mem_parts).symm

/-- A path is under itself exactly if its normal form has one slash at its start. -/
theorem isUnder_self_iff : isUnder cwd path path = true ↔ IsPlain cwd path := by
  rw [isUnder_iff_isPlain]
  exact and_iff_left (List.prefix_refl _)

/-- What is under a path that is under a root is under the root. -/
theorem isUnder_trans {middle : String} (inner : isUnder cwd path middle = true)
    (outer : isUnder cwd middle root = true) : isUnder cwd path root = true := by
  rw [isUnder_iff_isPlain] at inner outer ⊢
  exact ⟨outer.1, outer.2.trans inner.2⟩

/-- Two names in one directory that a path is under, or that it is, are the same. -/
theorem eq_of_isUnder_join {directory : String} {a b : List Char} (ha : IsComponent a)
    (hb : IsComponent b)
    (under : isUnder cwd path (join (normalize cwd directory) (String.ofList a)) = true)
    (other : parts cwd (join (normalize cwd directory) (String.ofList b)) <+: parts cwd path) :
    a = b := by
  have first := (isUnder_iff_isPlain.1 under).2
  rw [parts_join ha] at first
  rw [parts_join hb] at other
  have same : parts cwd directory ++ [a] = parts cwd directory ++ [b] := by
    refine List.IsPrefix.eq_of_length (List.prefix_of_prefix_length_le first other ?_) ?_ <;> simp
  exact List.singleton_inj.1 (List.append_cancel_left same)

/-- One of some roots that has one slash at its start is under one of them. -/
theorem any_isUnder_of_mem {roots : List String} (hroot : root ∈ roots) (plain : IsPlain cwd root) :
    roots.any (isUnder cwd root) = true :=
  List.any_eq_true.2 ⟨root, hroot, isUnder_self_iff.2 plain⟩

/-! ### What containment says -/

/-- A path is under a root exactly if it is equal to it or beneath it, read with one slash at its
start; so for a path with one slash this is the same on the two normal forms.  A path is under
itself exactly if it has one slash at its start.  Containment is transitive, it never holds between
two names in one directory or between what is under them, and a project contains its base, its
source roots and its excluded roots as far as they have one slash at their start. -/
theorem isUnder_beneath (cwd path root : String) :
    (isUnder cwd path root = true ↔ AtOrBeneath (normalizePlain cwd path) (normalize cwd root)) ∧
    (IsPlain cwd path →
      (isUnder cwd path root = true ↔ AtOrBeneath (normalize cwd path) (normalize cwd root))) ∧
    (isUnder cwd path path = true ↔ IsPlain cwd path) ∧
    (∀ inner, isUnder cwd inner path = true → isUnder cwd path root = true →
      isUnder cwd inner root = true) ∧
    (∀ a b, IsComponent a → IsComponent b → a ≠ b →
      isUnder cwd (join (normalize cwd root) (String.ofList b))
        (join (normalize cwd root) (String.ofList a)) = false ∧
      ∀ inner, isUnder cwd inner (join (normalize cwd root) (String.ofList b)) = true →
        isUnder cwd inner (join (normalize cwd root) (String.ofList a)) = false) ∧
    ∀ sources excluded, let project := Project.make cwd root sources excluded
      (project.contains cwd project.base = true ↔ IsPlain cwd root) ∧
      (∀ r ∈ project.sourceRoots, IsPlain cwd r → project.inSourceRoot cwd r = true) ∧
      ∀ r ∈ project.excludedRoots, IsPlain cwd r → project.isExcluded cwd r = true := by
  refine ⟨isUnder_iff_atOrBeneath, fun plain => ?_, isUnder_self_iff, fun _ => isUnder_trans,
    ?_, ?_⟩
  · rw [isUnder_iff_atOrBeneath, plain.normalizePlain_eq]
  · intro a b ha hb different
    refine ⟨Bool.eq_false_iff.2 fun under => ?_, fun inner below => ?_⟩
    · exact different (eq_of_isUnder_join ha hb under (List.prefix_refl _))
    · refine Bool.eq_false_iff.2 fun under => ?_
      exact different (eq_of_isUnder_join ha hb under (isUnder_iff_isPlain.1 below).2)
  · intro sources excluded project
    refine ⟨?_, fun r => any_isUnder_of_mem, fun r => any_isUnder_of_mem⟩
    change isUnder cwd (normalize cwd root) (normalize cwd root) = true ↔ _
    rw [isUnder_self_iff, isPlain_normalize]

/-- A file beneath a directory, and the two readings of it. -/
theorem sources_beneath : IsPlain "/" "/p/src/a.py" ∧
    (isUnder "/" "/p/src/a.py" "/p/src" = true ↔
      AtOrBeneath (normalize "/" "/p/src/a.py") (normalize "/" "/p/src")) :=
  have plain : IsPlain "/" "/p/src/a.py" := by decide +kernel
  ⟨plain, (isUnder_beneath "/" "/p/src/a.py" "/p/src").2.1 plain⟩

/-- A directory with two slashes at its start is not under itself, although it is equal to itself,
and what has its name there is under the one with one slash, although it is not beneath that. -/
theorem not_isUnder_self_of_two_slashes :
    isUnder "/" "//a" "//a" = false ∧ AtOrBeneath (normalize "/" "//a") (normalize "/" "//a") ∧
    isUnder "/" "//a/b" "/a" = true ∧
    ¬ AtOrBeneath (normalize "/" "//a/b") (normalize "/" "/a") := by
  decide +kernel

end Path

end LiveCheck
