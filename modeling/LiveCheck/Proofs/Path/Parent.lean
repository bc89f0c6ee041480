import LiveCheck.Proofs.Path

/-!
# A path and its directory

To join a name to a normal path is to add one component at its end, and to take the directory of
the result is to take it away again.  So a path that is listed in a directory is a normal path, and
it knows its directory (`normalize_join`, `directory_join`).
-/

namespace LiveCheck.Path

variable {n : Nat} {cs : List (List Char)} {name : List Char}

/-- It can be checked whether a text is a component. -/
instance (p : List Char) : Decidable (IsComponent p) :=
  decidable_of_iff (p ≠ [] ∧ p ≠ ['.'] ∧ p ≠ ['.', '.'] ∧ '/' ∉ p)
    ⟨fun ⟨h₁, h₂, h₃, h₄⟩ => ⟨h₁, h₂, h₃, h₄⟩, fun ⟨h₁, h₂, h₃, h₄⟩ => ⟨h₁, h₂, h₃, h₄⟩⟩

/-! ### One more component -/

/-- One more component stands behind one more slash. -/
theorem joinPieces_concat (hne : cs ≠ []) (p : List Char) :
    joinPieces (cs ++ [p]) = joinPieces cs ++ '/' :: p := by
  induction cs with
  | nil => exact absurd rfl hne
  | cons q rest ih =>
    cases rest with
    | nil => rfl
    | cons q' rest =>
      change q ++ '/' :: joinPieces (q' :: rest ++ [p]) = _
      rw [ih (List.cons_ne_nil _ _), ← List.cons_append, ← List.append_assoc]
      rfl

/-- A component ends with another character than a slash. -/
theorem IsComponent.exists_last {p : List Char} (hp : IsComponent p) :
    ∃ front c, p = front ++ [c] ∧ c ≠ '/' := by
  have last := List.dropLast_concat_getLast hp.ne_nil
  refine ⟨p.dropLast, p.getLast hp.ne_nil, last.symm, ?_⟩
  intro slash
  exact hp.noSlash (slash ▸ List.getLast_mem hp.ne_nil)

/-- A path with components ends with another character than a slash. -/
theorem exists_last_render (hne : cs ≠ []) (h : ∀ p ∈ cs, IsComponent p) :
    ∃ front c, render n cs = front ++ [c] ∧ c ≠ '/' := by
  obtain ⟨before, p, rfl⟩ := (List.eq_nil_or_concat cs).resolve_left hne
  rw [List.concat_eq_append] at h ⊢
  have hp : IsComponent p := h p (by simp)
  obtain ⟨front, c, rfl, hc⟩ := hp.exists_last
  unfold render
  by_cases first : before = []
  · refine ⟨List.replicate n '/' ++ front, c, ?_, hc⟩
    rw [first, List.append_assoc]
    rfl
  · refine ⟨List.replicate n '/' ++ (joinPieces before ++ '/' :: front), c, ?_, hc⟩
    rw [joinPieces_concat first]
    simp

/-- A path without components consists of slashes. -/
theorem render_nil : render n [] = List.replicate n '/' := List.append_nil _

/-- To join a name to a path is to add a component. -/
theorem joinChars_render (hn : n = 1 ∨ n = 2) (h : ∀ p ∈ cs, IsComponent p)
    (hname : IsComponent name) : joinChars (render n cs) name = render n (cs ++ [name]) := by
  have relative : isAbsoluteChars name = false := by
    cases name with
    | nil => rfl
    | cons c rest =>
      have first : c ≠ '/' := by
        rintro rfl
        exact hname.noSlash List.mem_cons_self
      simp [isAbsoluteChars, first]
  unfold joinChars
  rw [relative, if_neg Bool.false_ne_true]
  by_cases root : cs = []
  · have ended : (render n cs).getLast? = some '/' := by
      rw [root]
      rcases hn with rfl | rfl <;> rfl
    rw [if_pos (Or.inr ended), root, render_nil]
    rfl
  · obtain ⟨front, c, eq, hc⟩ := exists_last_render (n := n) root h
    have open_ : ¬ (render n cs = [] ∨ (render n cs).getLast? = some '/') := by
      rw [eq, List.getLast?_concat]
      simp [hc]
    rw [if_neg open_]
    unfold render
    rw [joinPieces_concat root, List.append_assoc]

/-- To take the directory of a path is to take its last component away. -/
theorem directoryChars_render (hn : n = 1 ∨ n = 2) (h : ∀ p ∈ cs, IsComponent p)
    (hname : IsComponent name) : directoryChars (render n (cs ++ [name])) = render n cs := by
  have named : ∀ c ∈ name.reverse, decide (c ≠ '/') = true := by
    intro c hc
    refine decide_eq_true ?_
    rintro rfl
    exact hname.noSlash (List.mem_reverse.1 hc)
  unfold directoryChars
  by_cases root : cs = []
  · have split : render n (cs ++ [name]) = render n [] ++ name := by
      rw [root, render_nil]
      rfl
    have head : (render n (cs ++ [name])).reverse.dropWhile (· ≠ '/') =
        (render n []).reverse := by
      rw [split, List.reverse_append, List.dropWhile_append_of_pos named]
      rcases hn with rfl | rfl <;> rfl
    rw [head, List.reverse_reverse, root]
    rcases hn with rfl | rfl <;> rfl
  · have split : render n (cs ++ [name]) = render n cs ++ '/' :: name := by
      unfold render
      rw [joinPieces_concat root, List.append_assoc]
    have head : (render n (cs ++ [name])).reverse.dropWhile (· ≠ '/') =
        '/' :: (render n cs).reverse := by
      rw [split, List.reverse_append, List.reverse_cons, List.append_assoc,
        List.dropWhile_append_of_pos named]
      rfl
    obtain ⟨front, c, eq, hc⟩ := exists_last_render (n := n) root h
    rw [head, List.reverse_cons, List.reverse_reverse, eq]
    simp [hc]

/-! ### The same on strings -/

/-- A normal path is put together from its slashes and its components. -/
theorem exists_render (cwd path : String) : ∃ n cs, (n = 1 ∨ n = 2) ∧ (∀ p ∈ cs, IsComponent p) ∧
    (normalize cwd path).toList = render n cs := by
  refine ⟨leadingSlashes (joinChars cwd.toList path.toList),
    components (joinChars cwd.toList path.toList), leadingSlashes_eq _, ?_, ?_⟩
  · intro p hp
    exact (mem_components hp).2
  · unfold normalize
    rw [String.toList_ofList]
    rfl

/-- Slashes and components make a normal path. -/
theorem normalize_render (cwd : String) (hn : n = 1 ∨ n = 2) (h : ∀ p ∈ cs, IsComponent p) :
    normalize cwd (String.ofList (render n cs)) = String.ofList (render n cs) := by
  have absolute : isAbsoluteChars (render n cs) = true := by
    rcases hn with rfl | rfl <;> rfl
  unfold normalize normalizeChars
  rw [String.toList_ofList, joinChars_of_isAbsolute absolute]
  unfold normalizeAbsolute
  rw [leadingSlashes_render h hn, components_render h]

/-- A name in a directory with a normal path makes a normal path. -/
theorem normalize_join (cwd cwd' path : String) (hname : IsComponent name) :
    normalize cwd' (join (normalize cwd path) (String.ofList name)) =
      join (normalize cwd path) (String.ofList name) := by
  obtain ⟨n, cs, hn, h, eq⟩ := exists_render cwd path
  have more : ∀ p ∈ cs ++ [name], IsComponent p := by
    intro p hp
    rcases List.mem_append.1 hp with hp | hp
    · exact h p hp
    · exact List.mem_singleton.1 hp ▸ hname
  unfold join
  rw [eq, String.toList_ofList, joinChars_render hn h hname]
  exact normalize_render cwd' hn more

/-- The directory of the path is the one in which the name stands. -/
theorem directory_join (cwd path : String) (hname : IsComponent name) :
    Path.directory (join (normalize cwd path) (String.ofList name)) = normalize cwd path := by
  obtain ⟨n, cs, hn, h, eq⟩ := exists_render cwd path
  unfold join Path.directory
  rw [eq, String.toList_ofList, String.toList_ofList, joinChars_render hn h hname,
    directoryChars_render hn h hname, ← eq, String.ofList_toList]

/-- The directory of a normal path is shorter, unless it is the path itself. -/
theorem length_directory_lt (cwd path : String) :
    Path.directory (normalize cwd path) = normalize cwd path ∨
      (Path.directory (normalize cwd path)).toList.length < (normalize cwd path).toList.length := by
  obtain ⟨n, cs, hn, h, eq⟩ := exists_render cwd path
  unfold Path.directory
  rw [String.toList_ofList, eq]
  rcases List.eq_nil_or_concat cs with rfl | ⟨before, name, rfl⟩
  · left
    rw [← String.ofList_toList (s := normalize cwd path), eq, render_nil]
    rcases hn with rfl | rfl <;> rfl
  · right
    rw [List.concat_eq_append] at h ⊢
    have hname : IsComponent name := h name (by simp)
    rw [directoryChars_render hn (fun p hp => h p (by simp [hp])) hname]
    have length : 0 < name.length := List.length_pos_iff.2 hname.ne_nil
    unfold render
    by_cases first : before = []
    · rw [first, List.length_append, List.length_append]
      exact Nat.add_lt_add_left length _
    · rw [joinPieces_concat first, List.length_append, List.length_append, List.length_append,
        List.length_cons]
      omega

end LiveCheck.Path
