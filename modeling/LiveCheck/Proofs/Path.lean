import Mathlib.Tactic.Common
import LiveCheck.Path

/-!
# Normal paths

A normal path starts with one slash or with two and has components between its slashes that name
something.  Such a path is its own normal form, wherever it is read from, and this is what the
lookup of a printed path rests on: `normalize_normalize` says that the path which a tool was given
is found again under itself.  No character comes into a path by normalization except slashes.
-/

namespace LiveCheck.Path

/-- A piece of a path that names something in a directory. -/
structure IsComponent (p : List Char) : Prop where
  ne_nil : p ≠ []
  ne_dot : p ≠ ['.']
  ne_dots : p ≠ ['.', '.']
  noSlash : '/' ∉ p

/-! ### Pieces -/

/-- A text has at least one piece. -/
theorem pieces_ne_nil (s : List Char) : pieces s ≠ [] := by
  cases s with
  | nil => simp [pieces]
  | cons c rest =>
    unfold pieces
    split
    · simp
    · split <;> simp

/-- A slash ends the piece before it. -/
theorem pieces_slash (s : List Char) : pieces ('/' :: s) = [] :: pieces s := by
  rw [pieces]
  split
  · next h => exact absurd h (pieces_ne_nil s)
  · next p ps h => rw [if_pos rfl, h]

/-- A character that is no slash belongs to the first piece. -/
theorem pieces_cons {c : Char} (hc : c ≠ '/') (s : List Char) :
    ∃ p ps, pieces s = p :: ps ∧ pieces (c :: s) = (c :: p) :: ps := by
  cases h : pieces s with
  | nil => exact absurd h (pieces_ne_nil s)
  | cons p ps =>
    refine ⟨p, ps, rfl, ?_⟩
    rw [pieces, h]
    exact if_neg hc

/-- No piece holds a slash. -/
theorem noSlash_of_mem_pieces (s : List Char) : ∀ p ∈ pieces s, '/' ∉ p := by
  induction s with
  | nil => simp [pieces]
  | cons c rest ih =>
    by_cases hc : c = '/'
    · subst hc
      rw [pieces_slash]
      exact List.forall_mem_cons.2 ⟨List.not_mem_nil, ih⟩
    · obtain ⟨p, ps, h, h'⟩ := pieces_cons hc rest
      rw [h] at ih
      rw [h']
      obtain ⟨hp, hps⟩ := List.forall_mem_cons.1 ih
      refine List.forall_mem_cons.2 ⟨fun hmem => ?_, hps⟩
      rcases List.mem_cons.1 hmem with heq | hmem
      · exact hc heq.symm
      · exact hp hmem

/-- A piece in front of a slash. -/
theorem pieces_append_slash {p : List Char} (hp : '/' ∉ p) (s : List Char) :
    pieces (p ++ '/' :: s) = p :: pieces s := by
  induction p with
  | nil => exact pieces_slash s
  | cons c rest ih =>
    have hc : c ≠ '/' := fun h => hp (h ▸ List.mem_cons_self)
    obtain ⟨q, qs, h, h'⟩ := pieces_cons hc (rest ++ '/' :: s)
    rw [ih fun h => hp (List.mem_cons_of_mem _ h)] at h
    cases h
    exact h'

/-- A text without slashes is one piece. -/
theorem pieces_of_noSlash {p : List Char} (hp : '/' ∉ p) : pieces p = [p] := by
  induction p with
  | nil => rfl
  | cons c rest ih =>
    have hc : c ≠ '/' := fun h => hp (h ▸ List.mem_cons_self)
    obtain ⟨q, qs, h, h'⟩ := pieces_cons hc rest
    rw [ih fun h => hp (List.mem_cons_of_mem _ h)] at h
    cases h
    exact h'

/-- Pieces that were put together are found again. -/
theorem pieces_joinPieces {ps : List (List Char)} (hne : ps ≠ []) (h : ∀ p ∈ ps, '/' ∉ p) :
    pieces (joinPieces ps) = ps := by
  induction ps with
  | nil => exact absurd rfl hne
  | cons p rest ih =>
    obtain ⟨hp, hrest⟩ := List.forall_mem_cons.1 h
    cases rest with
    | nil => exact pieces_of_noSlash hp
    | cons q qs =>
      change pieces (p ++ '/' :: joinPieces (q :: qs)) = _
      rw [pieces_append_slash hp, ih (List.cons_ne_nil q qs) hrest]

/-- The characters of pieces that are put together. -/
theorem mem_joinPieces {ps : List (List Char)} {c : Char} (h : c ∈ joinPieces ps) :
    c = '/' ∨ ∃ p ∈ ps, c ∈ p := by
  induction ps with
  | nil => cases h
  | cons p rest ih =>
    cases rest with
    | nil => exact Or.inr ⟨p, List.mem_cons_self, h⟩
    | cons q qs =>
      rcases List.mem_append.1 (show c ∈ p ++ '/' :: joinPieces (q :: qs) from h) with h | h
      · exact Or.inr ⟨p, List.mem_cons_self, h⟩
      rcases List.mem_cons.1 h with rfl | h
      · exact Or.inl rfl
      rcases ih h with rfl | ⟨r, hr, hc⟩
      · exact Or.inl rfl
      · exact Or.inr ⟨r, List.mem_cons_of_mem _ hr, hc⟩

/-- The characters of the pieces of a text stand in the text. -/
theorem mem_of_mem_pieces {s p : List Char} {c : Char} (hp : p ∈ pieces s) (hc : c ∈ p) :
    c ∈ s := by
  induction s generalizing p with
  | nil =>
    obtain rfl := List.mem_singleton.1 (show p ∈ [[]] from hp)
    cases hc
  | cons d rest ih =>
    by_cases hd : d = '/'
    · subst hd
      rw [pieces_slash] at hp
      rcases List.mem_cons.1 hp with rfl | hp
      · cases hc
      · exact List.mem_cons_of_mem _ (ih hp hc)
    · obtain ⟨q, qs, h, h'⟩ := pieces_cons hd rest
      rw [h'] at hp
      rcases List.mem_cons.1 hp with rfl | hp
      · rcases List.mem_cons.1 hc with rfl | hc
        · exact List.mem_cons_self
        · exact List.mem_cons_of_mem _ (ih (h ▸ List.mem_cons_self) hc)
      · exact List.mem_cons_of_mem _ (ih (h ▸ List.mem_cons_of_mem _ hp) hc)

/-! ### Components -/

/-- What stands on the stack after a piece stood there before, or is the piece and names
something. -/
theorem mem_pushPiece {stack : List (List Char)} {piece p : List Char} (hpiece : '/' ∉ piece)
    (h : p ∈ pushPiece stack piece) : p ∈ stack ∨ p = piece ∧ IsComponent p := by
  unfold pushPiece at h
  split at h
  · exact Or.inl h
  · next named =>
    split at h
    · exact Or.inl (List.mem_of_mem_tail h)
    · next up =>
      rcases List.mem_cons.1 h with rfl | h
      · exact Or.inr ⟨rfl, fun h => named (Or.inl h), fun h => named (Or.inr h), up, hpiece⟩
      · exact Or.inl h

/-- What stands on the stack after some pieces is one of them that names something, or stood there
before. -/
theorem mem_foldl_pushPiece {ps stack : List (List Char)} {p : List Char}
    (hps : ∀ q ∈ ps, '/' ∉ q) (h : p ∈ ps.foldl pushPiece stack) :
    p ∈ stack ∨ p ∈ ps ∧ IsComponent p := by
  induction ps generalizing stack with
  | nil => exact Or.inl h
  | cons q rest ih =>
    obtain ⟨hq, hrest⟩ := List.forall_mem_cons.1 hps
    rcases ih hrest h with h | ⟨hmem, hp⟩
    · rcases mem_pushPiece hq h with h | ⟨rfl, hp⟩
      · exact Or.inl h
      · exact Or.inr ⟨List.mem_cons_self, hp⟩
    · exact Or.inr ⟨List.mem_cons_of_mem _ hmem, hp⟩

/-- A component of a path is a piece of it that names something. -/
theorem mem_components {s p : List Char} (h : p ∈ components s) : p ∈ pieces s ∧ IsComponent p := by
  unfold components at h
  rcases mem_foldl_pushPiece (noSlash_of_mem_pieces s) (List.mem_reverse.1 h) with h | h
  · cases h
  · exact h

/-- Pieces that name something all come onto the stack. -/
theorem foldl_pushPiece {ps : List (List Char)} (h : ∀ p ∈ ps, IsComponent p)
    (stack : List (List Char)) : ps.foldl pushPiece stack = ps.reverse ++ stack := by
  induction ps generalizing stack with
  | nil => rfl
  | cons p rest ih =>
    obtain ⟨hp, hrest⟩ := List.forall_mem_cons.1 h
    have push : pushPiece stack p = p :: stack := by
      unfold pushPiece
      rw [if_neg (not_or.2 ⟨hp.ne_nil, hp.ne_dot⟩), if_neg hp.ne_dots]
    rw [List.foldl_cons, push, ih hrest, List.reverse_cons, List.append_assoc]
    rfl

/-- Slashes in front of a path do not change its components. -/
theorem components_replicate_append (n : Nat) (s : List Char) :
    components (List.replicate n '/' ++ s) = components s := by
  induction n with
  | zero => rfl
  | succ n ih =>
    have skip : components ('/' :: (List.replicate n '/' ++ s)) =
        components (List.replicate n '/' ++ s) := by
      unfold components
      rw [pieces_slash]
      rfl
    rw [List.replicate_succ, List.cons_append, skip, ih]

/-- The components of a path that was put together. -/
theorem components_render {cs : List (List Char)} (h : ∀ p ∈ cs, IsComponent p) (n : Nat) :
    components (render n cs) = cs := by
  unfold render
  rw [components_replicate_append]
  by_cases hne : cs = []
  · subst hne
    rfl
  · unfold components
    rw [pieces_joinPieces hne fun p hp => (h p hp).noSlash, foldl_pushPiece h, List.append_nil,
      List.reverse_reverse]

/-! ### Normal forms -/

/-- A path keeps one slash at its start or two. -/
theorem leadingSlashes_eq (s : List Char) : leadingSlashes s = 1 ∨ leadingSlashes s = 2 := by
  unfold leadingSlashes
  split
  · exact Or.inl rfl
  · exact Or.inr rfl
  · exact Or.inl rfl

/-- Components that are put together do not start with a slash. -/
theorem head?_joinPieces {cs : List (List Char)} (h : ∀ p ∈ cs, IsComponent p) :
    (joinPieces cs).head? ≠ some '/' := by
  cases cs with
  | nil => simp [joinPieces]
  | cons p rest =>
    have hp := h p List.mem_cons_self
    cases p with
    | nil => exact absurd rfl hp.ne_nil
    | cons c q =>
      have first : (joinPieces ((c :: q) :: rest)).head? = some c := by
        cases rest <;> rfl
      rw [first]
      intro heq
      cases heq
      exact hp.noSlash List.mem_cons_self

/-- The slashes at the start of a path that was put together. -/
theorem leadingSlashes_render {cs : List (List Char)} (h : ∀ p ∈ cs, IsComponent p) {n : Nat}
    (hn : n = 1 ∨ n = 2) : leadingSlashes (render n cs) = n := by
  have first := head?_joinPieces h
  unfold render
  generalize joinPieces cs = s at first ⊢
  cases s with
  | nil => rcases hn with rfl | rfl <;> rfl
  | cons c rest =>
    have hc : c ≠ '/' := fun heq => first (congrArg some heq)
    rcases hn with rfl | rfl
    · change leadingSlashes ('/' :: c :: rest) = 1
      unfold leadingSlashes
      split
      · rfl
      · next heq => exact absurd (List.cons.inj (List.cons.inj heq).2).1 hc
      · rfl
    · change leadingSlashes ('/' :: '/' :: c :: rest) = 2
      unfold leadingSlashes
      split
      · next heq => exact absurd (List.cons.inj (List.cons.inj (List.cons.inj heq).2).2).1 hc
      · rfl
      · next other => exact absurd rfl (other _)

/-- A normal path is its own normal form. -/
theorem normalizeAbsolute_normalizeAbsolute (s : List Char) :
    normalizeAbsolute (normalizeAbsolute s) = normalizeAbsolute s := by
  have named : ∀ p ∈ components s, IsComponent p := fun p hp => (mem_components hp).2
  unfold normalizeAbsolute
  rw [leadingSlashes_render named (leadingSlashes_eq s), components_render named]

/-- A normal path starts with a slash. -/
theorem isAbsoluteChars_normalizeAbsolute (s : List Char) :
    isAbsoluteChars (normalizeAbsolute s) = true := by
  unfold normalizeAbsolute render
  rcases leadingSlashes_eq s with h | h <;> rw [h] <;> rfl

/-- No character but slashes comes into a path by normalization. -/
theorem mem_normalizeAbsolute {s : List Char} {c : Char} (h : c ∈ normalizeAbsolute s) :
    c = '/' ∨ c ∈ s := by
  unfold normalizeAbsolute render at h
  rcases List.mem_append.1 h with h | h
  · exact Or.inl (List.eq_of_mem_replicate h)
  · rcases mem_joinPieces h with rfl | ⟨p, hp, hc⟩
    · exact Or.inl rfl
    · exact Or.inr (mem_of_mem_pieces (mem_components hp).1 hc)

/-- What a path that starts with a slash looks like. -/
theorem exists_of_isAbsoluteChars {path : List Char} (h : isAbsoluteChars path = true) :
    ∃ rest, path = '/' :: rest := by
  unfold isAbsoluteChars at h
  split at h
  · exact ⟨_, rfl⟩
  · cases h

/-- A path that starts with a slash is not moved. -/
theorem joinChars_of_isAbsolute {path : List Char} (h : isAbsoluteChars path = true)
    (base : List Char) : joinChars base path = path := by
  unfold joinChars
  exact if_pos h

/-- A normalized path starts with a slash. -/
theorem isAbsoluteChars_normalize (cwd path : String) :
    isAbsoluteChars (normalize cwd path).toList = true := by
  unfold normalize normalizeChars
  rw [String.toList_ofList]
  exact isAbsoluteChars_normalizeAbsolute _

/-- A normalized path is its own normal form, seen from anywhere. -/
theorem normalize_normalize (cwd cwd' path : String) :
    normalize cwd' (normalize cwd path) = normalize cwd path := by
  have absolute := isAbsoluteChars_normalize cwd path
  have chars : (normalize cwd path).toList = normalizeAbsolute (joinChars cwd.toList path.toList) :=
    String.toList_ofList
  unfold normalize at absolute chars ⊢
  unfold normalizeChars at absolute chars ⊢
  rw [joinChars_of_isAbsolute absolute, chars, normalizeAbsolute_normalizeAbsolute]

/-- A normalized path is not moved. -/
theorem join_normalize (base cwd path : String) :
    join base (normalize cwd path) = normalize cwd path := by
  unfold join
  rw [joinChars_of_isAbsolute (isAbsoluteChars_normalize cwd path), String.ofList_toList]

/-- No character but slashes comes into a path that starts with a slash. -/
theorem mem_normalize {cwd path : String} (h : isAbsoluteChars path.toList = true) {c : Char}
    (hc : c ∈ (normalize cwd path).toList) : c = '/' ∨ c ∈ path.toList := by
  unfold normalize normalizeChars at hc
  rw [String.toList_ofList, joinChars_of_isAbsolute h] at hc
  exact mem_normalizeAbsolute hc

end LiveCheck.Path
