import Mathlib.Order.Bounds.Basic
import Mathlib.Tactic.Ring
import LiveCheck.Diagnostic.Column

/-!
# Columns as widths

A report gives a column as it stands on a terminal, where a tab goes on to the next multiple of the
tab width.  `Column.width` is the width of a text there, so column `n` begins where the text before
it is `n - 1` wide.  A tab is at least one wide, and therefore a longer start of a line is a wider
one (`width_take_lt`).

The index of a column is found by going through the line until the width is reached.  `seek_spec`
says what the loop has found when it stops, and `toIndex_least` puts it in terms of the whole line:
the index is the least one whose width reaches the column, or the end of the line.  A line without
tabs is as wide as it is long, which is why it needs no loop.
-/

namespace LiveCheck.Column

variable {tabWidth : Int}

/-! ### Widths -/

/-- The next multiple of the tab width. -/
def nextStop (tabWidth width : Int) : Int := (width / tabWidth + 1) * tabWidth

/-- The width of what ends with this character, if what stands before it has the width `width`. -/
def advance (tabWidth width : Int) (c : Char) : Int :=
  if c = '\t' then nextStop tabWidth width else width + 1

/-- The width up to the end of a text, if what stands before it has the width `width`. -/
def widthFrom (tabWidth width : Int) (s : List Char) : Int := s.foldl (advance tabWidth) width

/-- The width of a text on the terminal. -/
def width (tabWidth : Int) (s : List Char) : Int := widthFrom tabWidth 0 s

/-- A tab goes on by what is missing to the next multiple. -/
theorem add_sub_fmod (tabs : 1 ≤ tabWidth) (width : Int) :
    width + (tabWidth - width.fmod tabWidth) = nextStop tabWidth width := by
  have floor : width.fmod tabWidth = width % tabWidth :=
    Int.fmod_eq_emod_of_nonneg width (by omega)
  have parts : tabWidth * (width / tabWidth) + width % tabWidth = width :=
    Int.mul_ediv_add_emod width tabWidth
  have distrib : nextStop tabWidth width = tabWidth * (width / tabWidth) + tabWidth := by
    unfold nextStop
    ring
  omega

/-- Every character makes a text wider. -/
theorem lt_advance (tabs : 1 ≤ tabWidth) (width : Int) (c : Char) :
    width < advance tabWidth width c := by
  unfold advance
  split
  · have rest : width % tabWidth < tabWidth := Int.emod_lt_of_pos width (by omega)
    have floor : width.fmod tabWidth = width % tabWidth :=
      Int.fmod_eq_emod_of_nonneg width (by omega)
    rw [← add_sub_fmod tabs]
    omega
  · omega

/-- The width of a text does not fall below that of its start. -/
theorem le_widthFrom (tabs : 1 ≤ tabWidth) (width : Int) (s : List Char) :
    width ≤ widthFrom tabWidth width s := by
  induction s generalizing width with
  | nil => exact le_refl width
  | cons c rest ih =>
    have wider := lt_advance tabs width c
    have further := ih (advance tabWidth width c)
    change width ≤ widthFrom tabWidth (advance tabWidth width c) rest
    omega

/-- The longer one of two starts of a line is wider. -/
theorem width_take_lt (tabs : 1 ≤ tabWidth) {line : List Char} {i j : Nat} (shorter : i < j)
    (inside : j ≤ line.length) : width tabWidth (line.take i) < width tabWidth (line.take j) := by
  have rest : line.take j = line.take i ++ (line.drop i).take (j - i) := by
    rw [← List.take_add]
    congr 1
    omega
  obtain ⟨c, more, split⟩ : ∃ c more, (line.drop i).take (j - i) = c :: more := by
    apply List.exists_cons_of_length_pos
    rw [List.length_take, List.length_drop]
    omega
  rw [rest, split]
  unfold width widthFrom
  rw [List.foldl_append, List.foldl_cons]
  have wider := lt_advance tabs ((line.take i).foldl (advance tabWidth) 0) c
  have further := le_widthFrom tabs (advance tabWidth ((line.take i).foldl (advance tabWidth) 0) c)
    more
  unfold widthFrom at further
  omega

/-- A text without tabs is as wide as it is long. -/
theorem widthFrom_of_no_tab {s : List Char} (plain : '\t' ∉ s) (width : Int) :
    widthFrom tabWidth width s = width + s.length := by
  induction s generalizing width with
  | nil => simp [widthFrom]
  | cons c rest ih =>
    have first : c ≠ '\t' := by
      intro tab
      exact plain (tab ▸ List.mem_cons_self)
    have others : '\t' ∉ rest := fun later => plain (List.mem_cons_of_mem c later)
    have step : advance tabWidth width c = width + 1 := if_neg first
    have tail := ih others (width + 1)
    change widthFrom tabWidth (advance tabWidth width c) rest = _
    rw [step, tail, List.length_cons]
    omega

/-! ### The loop -/

/-- Where the width does not reach the target the loop goes on with the next character. -/
theorem seek_cons (tabs : 1 ≤ tabWidth) {target width : Int} (short : width < target) (index : Nat)
    (c : Char) (rest : List Char) : seek tabWidth target index width (c :: rest) =
      seek tabWidth target (index + 1) (advance tabWidth width c) rest := by
  have going : ¬ width ≥ target := by omega
  have positive : tabWidth ≠ 0 := by omega
  rw [seek, if_neg going]
  unfold advance
  by_cases tab : c = '\t'
  · rw [if_pos tab, if_pos tab, if_neg positive, add_sub_fmod tabs]
  · rw [if_neg tab, if_neg tab]

/-- The loop stops at the first place whose width reaches the target, or at the end. -/
theorem seek_spec (tabs : 1 ≤ tabWidth) (target : Int) (index : Nat) (width : Int)
    (line : List Char) : ∃ n, seek tabWidth target index width line = .ok (index + n) ∧
      n ≤ line.length ∧ (∀ j < n, widthFrom tabWidth width (line.take j) < target) ∧
      (n < line.length → target ≤ widthFrom tabWidth width (line.take n)) := by
  induction line generalizing index width with
  | nil =>
    refine ⟨0, rfl, le_refl 0, ?_, ?_⟩
    · intro j hj
      omega
    · intro inside
      exact absurd inside (Nat.lt_irrefl 0)
  | cons c rest ih =>
    by_cases reached : target ≤ width
    · refine ⟨0, ?_, Nat.zero_le _, ?_, ?_⟩
      · rw [seek, if_pos reached, Nat.add_zero]
      · intro j hj
        omega
      · intro _
        exact reached
    · have short : width < target := by omega
      obtain ⟨n, found, inside, before, here⟩ := ih (index + 1) (advance tabWidth width c)
      refine ⟨n + 1, ?_, ?_, ?_, ?_⟩
      · rw [seek_cons tabs short, found]
        congr 1
        omega
      · rw [List.length_cons]
        omega
      · intro j hj
        match j with
        | 0 => exact short
        | j + 1 => exact before j (by omega)
      · intro more
        rw [List.length_cons] at more
        exact here (by omega)

/-! ### The index of a column -/

/-- The indexes in a line whose width reaches a column. -/
def reaching (tabWidth column : Int) (line : List Char) : Set Nat :=
  {i | i ≤ line.length ∧ max (column - 1) 0 ≤ width tabWidth (line.take i)}

/-- The least index whose width reaches a column, or the end of the line if there is none. -/
def IsIndexOf (tabWidth column : Int) (line : List Char) (i : Nat) : Prop :=
  IsLeast (reaching tabWidth column line) i ∨ reaching tabWidth column line = ∅ ∧ i = line.length

/-- An index at which the loop may stop is the least one. -/
theorem isIndexOf_of_stops {column : Int} {line : List Char} {n : Nat} (inside : n ≤ line.length)
    (before : ∀ j < n, width tabWidth (line.take j) < max (column - 1) 0)
    (here : n < line.length → max (column - 1) 0 ≤ width tabWidth (line.take n)) :
    IsIndexOf tabWidth column line n := by
  have least : ∀ i ∈ reaching tabWidth column line, n ≤ i := by
    rintro i ⟨-, reaches⟩
    by_contra earlier
    have short := before i (by omega)
    omega
  by_cases reaches : max (column - 1) 0 ≤ width tabWidth (line.take n)
  · exact Or.inl ⟨⟨inside, reaches⟩, least⟩
  · have last : n = line.length := by
      by_contra other
      exact reaches (here (by omega))
    refine Or.inr ⟨Set.eq_empty_of_forall_notMem ?_, last⟩
    rintro i ⟨within, reaches'⟩
    have same : i = n := by
      have above := least i ⟨within, reaches'⟩
      omega
    exact reaches (same ▸ reaches')

/-- There is one such index. -/
theorem IsIndexOf.unique {column : Int} {line : List Char} {i j : Nat}
    (hi : IsIndexOf tabWidth column line i) (hj : IsIndexOf tabWidth column line j) : i = j := by
  rcases hi with hi | ⟨none, rfl⟩
  · rcases hj with hj | ⟨none, -⟩
    · exact hi.unique hj
    · have inside := hi.1
      rw [none] at inside
      exact absurd inside (Set.notMem_empty i)
  · rcases hj with hj | ⟨-, rfl⟩
    · have inside := hj.1
      rw [none] at inside
      exact absurd inside (Set.notMem_empty j)
    · rfl

/-- A column further to the right has no smaller index. -/
theorem IsIndexOf.mono {column column' : Int} {line : List Char} {i j : Nat}
    (hi : IsIndexOf tabWidth column line i) (hj : IsIndexOf tabWidth column' line j)
    (right : column ≤ column') : i ≤ j := by
  have fewer : reaching tabWidth column' line ⊆ reaching tabWidth column line := by
    rintro k ⟨inside, reaches⟩
    exact ⟨inside, by omega⟩
  rcases hj with hj | ⟨none', rfl⟩
  · have reached := fewer hj.1
    rcases hi with hi | ⟨none, -⟩
    · exact hi.2 reached
    · rw [none] at reached
      exact absurd reached (Set.notMem_empty j)
  · rcases hi with hi | ⟨-, rfl⟩
    · exact hi.1.1
    · exact le_refl line.length

/-- The loop finds the index of a column. -/
theorem seek_isIndexOf (tabs : 1 ≤ tabWidth) (line : List Char) (column : Int) :
    ∃ i, seek tabWidth (column - 1).toNat 0 0 line = .ok i ∧ i ≤ line.length ∧
      IsIndexOf tabWidth column line i := by
  obtain ⟨n, found, inside, before, here⟩ :=
    seek_spec tabs ((column - 1).toNat : Int) 0 0 line
  have target : ((column - 1).toNat : Int) = max (column - 1) 0 := Int.toNat_eq_max (column - 1)
  rw [Nat.zero_add] at found
  rw [target] at before here
  exact ⟨n, found, inside, isIndexOf_of_stops inside before here⟩

/-- Where there are no tabs the loop stops where the arithmetic says. -/
theorem seek_of_no_tab (tabs : 1 ≤ tabWidth) {line : List Char} (plain : '\t' ∉ line)
    (target : Nat) : seek tabWidth target 0 0 line = .ok (min target line.length) := by
  obtain ⟨n, found, inside, before, here⟩ := seek_spec tabs (target : Int) 0 0 line
  have wide (j : Nat) (hj : j ≤ line.length) : widthFrom tabWidth 0 (line.take j) = j := by
    have start : '\t' ∉ line.take j := fun tab => plain (List.mem_of_mem_take tab)
    rw [widthFrom_of_no_tab start, List.length_take, Nat.min_eq_left hj]
    omega
  have same : n = min target line.length := by
    have stops : n < line.length → target ≤ n := by
      intro more
      have reached := here more
      rw [wide n inside] at reached
      omega
    have passes : 0 < n → n - 1 < target := by
      intro some
      have short := before (n - 1) (by omega)
      rw [wide (n - 1) (by omega)] at short
      omega
    omega
  rw [found, Nat.zero_add, same]

/-- A line without tabs is treated as the loop would treat it. -/
theorem toIndex_eq_seek (tabs : 1 ≤ tabWidth) (line : List Char) (column : Int) :
    toIndex line column tabWidth = seek tabWidth (column - 1).toNat 0 0 line := by
  unfold toIndex
  dsimp only
  split
  · rfl
  · next plain => exact (seek_of_no_tab tabs plain (column - 1).toNat).symm

/-- A column has an index, and it is the least one. -/
theorem toIndex_isIndexOf (tabs : 1 ≤ tabWidth) (line : List Char) (column : Int) :
    ∃ i, toIndex line column tabWidth = .ok i ∧ i ≤ line.length ∧
      IsIndexOf tabWidth column line i := by
  rw [toIndex_eq_seek tabs line column]
  exact seek_isIndexOf tabs line column

/-- The column behind the start of a line up to an index has this index. -/
theorem toIndex_width_add_one (tabs : 1 ≤ tabWidth) {line : List Char} {i : Nat}
    (inside : i ≤ line.length) :
    toIndex line (1 + width tabWidth (line.take i)) tabWidth = .ok i := by
  obtain ⟨j, found, -, least⟩ :=
    toIndex_isIndexOf tabs line (1 + width tabWidth (line.take i))
  have positive : 0 ≤ width tabWidth (line.take i) := le_widthFrom tabs 0 (line.take i)
  have here : IsIndexOf tabWidth (1 + width tabWidth (line.take i)) line i := by
    refine Or.inl ⟨⟨inside, by omega⟩, ?_⟩
    rintro k ⟨within, reaches⟩
    by_contra earlier
    have narrower := width_take_lt tabs (show k < i by omega) inside
    omega
  rw [found, least.unique here]

/-- The index of a column is the least one whose width reaches the column, or the end of the line
if there is none.  The shortcut for a line without tabs does what the loop does, the index lies in
the line, and it does not fall when the column rises. -/
theorem toIndex_least (tabs : 1 ≤ tabWidth) (line : List Char) :
    (∀ column, ∃ i, toIndex line column tabWidth = .ok i ∧ i ≤ line.length ∧
      IsIndexOf tabWidth column line i) ∧
    (∀ column, toIndex line column tabWidth = seek tabWidth (column - 1).toNat 0 0 line) ∧
    ∀ column column' i j, column ≤ column' → toIndex line column tabWidth = .ok i →
      toIndex line column' tabWidth = .ok j → i ≤ j := by
  refine ⟨toIndex_isIndexOf tabs line, toIndex_eq_seek tabs line, ?_⟩
  intro column column' i j right found found'
  obtain ⟨i', same, -, least⟩ := toIndex_isIndexOf tabs line column
  obtain ⟨j', same', -, least'⟩ := toIndex_isIndexOf tabs line column'
  have hi : i = i' := Except.ok.inj (found.symm.trans same)
  have hj : j = j' := Except.ok.inj (found'.symm.trans same')
  rw [hi, hj]
  exact least.mono least' right

/-- In `a`, tab, `b` with tabs four wide, a column inside the tab has the index behind it, and one
behind the line has the end. -/
theorem toIndex_inside_tab :
    (1 : Int) ≤ 4 ∧ toIndex ['a', '\t', 'b'] 3 4 = .ok 2 ∧
    IsIndexOf 4 3 ['a', '\t', 'b'] 2 ∧ toIndex ['a', '\t', 'b'] 9 4 = .ok 3 ∧
    IsIndexOf 4 9 ['a', '\t', 'b'] 3 := by
  have tabs : (1 : Int) ≤ 4 := by decide
  obtain ⟨index, -, -⟩ := toIndex_least tabs ['a', '\t', 'b']
  have inside : toIndex ['a', '\t', 'b'] 3 4 = .ok 2 := by decide
  have behind : toIndex ['a', '\t', 'b'] 9 4 = .ok 3 := by decide
  obtain ⟨i, found, -, least⟩ := index 3
  obtain ⟨j, found', -, least'⟩ := index 9
  have hi : 2 = i := Except.ok.inj (inside.symm.trans found)
  have hj : 3 = j := Except.ok.inj (behind.symm.trans found')
  exact ⟨tabs, inside, hi ▸ least, behind, hj ▸ least'⟩

end LiveCheck.Column
