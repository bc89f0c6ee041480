import Mathlib.Data.List.Perm.Basic
import LiveCheck.Diagnostic.Basic

/-!
# Listings

A listing has diagnostics by path, then by line, then by column, and where several stand at one
place they keep the order in which they were given.  `Listing` says so without a word about how a
listing is made: the same diagnostics, in order, and at every place the same part of the list.
`listing_sort` is that sorting makes one.

Diagnostics are usually kept file by file, so they are sorted from another list than the one in
which they came.  `Listing.of_files` is that this does not matter, as long as no two files have one
path.
-/

namespace LiveCheck

/-! ### Parts of a list -/

section Parts

variable {α κ : Type} {p : α → Bool} {l l' : List α}

/-- A list that has the elements of another one, and a part of it in its order, has that part. -/
theorem filter_eq_of_perm (perm : l'.Perm l) (part : (l.filter p).Sublist l') :
    l'.filter p = l.filter p := by
  have inside : (l.filter p).Sublist (l'.filter p) := by
    have twice := part.filter p
    simpa [List.filter_filter] using twice
  exact (inside.eq_of_length (perm.filter p).length_eq.symm).symm

variable [DecidableEq κ] {key : α → κ} {keys : List κ}

/-- The elements of a list, taken key by key. -/
def byKey (key : α → κ) (keys : List κ) (l : List α) : List α :=
  keys.flatMap fun k => l.filter (key · = k)

/-- A list that is taken key by key has the same elements. -/
theorem perm_byKey (nodup : keys.Nodup) (covered : ∀ a ∈ l, key a ∈ keys) :
    (byKey key keys l).Perm l := by
  unfold byKey
  induction keys generalizing l with
  | nil =>
    cases l with
    | nil => rfl
    | cons a rest => exact absurd (covered a List.mem_cons_self) List.not_mem_nil
  | cons k rest ih =>
    obtain ⟨fresh, nodup⟩ := List.nodup_cons.1 nodup
    -- what the other keys take is taken from what the first one leaves
    have others : (rest.flatMap fun k => l.filter (key · = k)) =
        rest.flatMap fun k' => (l.filter fun a => !decide (key a = k)).filter (key · = k') := by
      refine List.flatMap_congr fun k' mem => ?_
      rw [List.filter_filter]
      refine List.filter_congr fun a _ => ?_
      by_cases same : key a = k'
      · have other : key a ≠ k := fun first => fresh (first ▸ same ▸ mem)
        rw [decide_eq_true same, decide_eq_false other]
        rfl
      · rw [decide_eq_false same]
        rfl
    rw [List.flatMap_cons, others]
    refine (List.Perm.append_left _ (ih nodup fun a mem => ?_)).trans
      (List.filter_append_perm _ _)
    obtain ⟨mem, other⟩ := List.mem_filter.1 mem
    refine (List.mem_cons.1 (covered a mem)).resolve_left fun first => ?_
    simp [first] at other

/-- A part of a list whose elements have one key is the same when the list is taken key by key. -/
theorem filter_byKey (nodup : keys.Nodup) (covered : ∀ a ∈ l, key a ∈ keys)
    (alike : ∀ a ∈ l, ∀ b ∈ l, p a = true → p b = true → key a = key b) :
    (byKey key keys l).filter p = l.filter p := by
  refine filter_eq_of_perm (perm_byKey nodup covered) ?_
  cases found : l.filter p with
  | nil => exact List.nil_sublist _
  | cons a rest =>
    obtain ⟨mem, chosen⟩ := List.mem_filter.1 (found ▸ List.mem_cons_self : a ∈ l.filter p)
    have one : l.filter p = (l.filter p).filter (key · = key a) := by
      refine (List.filter_eq_self.2 fun b there => ?_).symm
      obtain ⟨there, also⟩ := List.mem_filter.1 there
      exact decide_eq_true (alike b there a mem also chosen)
    rw [← found, one, List.filter_filter, List.filter_congr fun _ _ => Bool.and_comm _ _,
      ← List.filter_filter]
    exact List.filter_sublist.trans
      (List.sublist_flatten_of_mem (List.mem_map_of_mem (covered a mem)))

end Parts

namespace Diagnostic

/-! ### Places -/

/-- Where a diagnostic stands in a listing. -/
def place (d : Diagnostic) : String × Int × Int := (d.file.path, d.line, d.column)

/-- The place of a diagnostic is not behind the place of another one: its path is smaller, or the
paths are the same and its line is smaller, or the lines are the same as well and its column is not
larger. -/
def NotBehind (d e : Diagnostic) : Prop :=
  d.file.path < e.file.path ∨ d.file.path = e.file.path ∧
    (d.line < e.line ∨ d.line = e.line ∧ d.column ≤ e.column)

variable {d e f : Diagnostic}

/-- The order of a listing goes by path, then by line, then by column. -/
theorem precedes_iff : d.precedes e = true ↔ d.NotBehind e := by
  unfold precedes NotBehind
  by_cases path : d.file.path = e.file.path
  · rw [if_pos path]
    by_cases line : d.line = e.line
    · rw [if_pos line, decide_eq_true_iff]
      simp [path, line]
    · rw [if_neg line, decide_eq_true_iff]
      simp [path, line]
  · rw [if_neg path, decide_eq_true_iff]
    simp [path]

/-- One place after the other. -/
theorem NotBehind.trans (first : d.NotBehind e) (second : e.NotBehind f) : d.NotBehind f := by
  unfold NotBehind at *
  obtain lt | ⟨eq, within⟩ := first
  · obtain lt' | ⟨eq', -⟩ := second
    · exact .inl (String.lt_trans lt lt')
    · exact .inl (eq' ▸ lt)
  · obtain lt' | ⟨eq', within'⟩ := second
    · exact .inl (eq ▸ lt')
    · exact .inr ⟨eq.trans eq', by omega⟩

/-- Of two places one is not behind the other. -/
theorem NotBehind.total (d e : Diagnostic) : d.NotBehind e ∨ e.NotBehind d := by
  unfold NotBehind
  by_cases path : d.file.path = e.file.path
  · have lines : (d.line < e.line ∨ d.line = e.line ∧ d.column ≤ e.column) ∨
        e.line < d.line ∨ e.line = d.line ∧ e.column ≤ d.column := by
      omega
    exact lines.imp (fun h => .inr ⟨path, h⟩) fun h => .inr ⟨path.symm, h⟩
  · by_cases le : d.file.path ≤ e.file.path
    · refine .inl (.inl (String.not_le.1 fun ge => path (String.le_antisymm le ge)))
    · exact .inr (.inl (String.not_le.1 le))

/-- A place is not behind itself. -/
theorem NotBehind.of_place_eq (same : d.place = e.place) : d.NotBehind e := by
  simp only [place, Prod.mk.injEq] at same
  obtain ⟨path, line, column⟩ := same
  exact .inr ⟨path, .inr ⟨line, Int.le_of_eq column⟩⟩

/-! ### Listings -/

/-- The second list is a listing of the first one. -/
structure Listing (given listed : List Diagnostic) : Prop where
  /-- It has the same diagnostics, each as often. -/
  perm : listed.Perm given
  /-- They stand by path, line and column. -/
  ordered : listed.Pairwise NotBehind
  /-- At one place they stand in the order in which they were given. -/
  ties : ∀ spot, listed.filter (·.place = spot) = given.filter (·.place = spot)

/-- Sorted diagnostics are a listing. -/
theorem listing_sort (ds : List Diagnostic) : Listing ds (sort ds) := by
  have trans (a b c : Diagnostic) (hab : a.precedes b = true) (hbc : b.precedes c = true) :
      a.precedes c = true :=
    precedes_iff.2 ((precedes_iff.1 hab).trans (precedes_iff.1 hbc))
  have total (a b : Diagnostic) : (a.precedes b || b.precedes a) = true := by
    rw [Bool.or_eq_true, precedes_iff, precedes_iff]
    exact NotBehind.total a b
  refine ⟨List.mergeSort_perm ds _, ?_, fun spot => ?_⟩
  · exact (List.pairwise_mergeSort trans total ds).imp precedes_iff.1
  · refine filter_eq_of_perm (List.mergeSort_perm ds _) ?_
    refine List.sublist_mergeSort trans total (List.pairwise_iff_forall_sublist.2 ?_)
      List.filter_sublist
    intro a b pair
    have there {c : Diagnostic} (mem : c ∈ [a, b]) : c.place = spot := by
      simpa using (List.mem_filter.1 (pair.subset mem)).2
    exact precedes_iff.2 (.of_place_eq ((there (by simp)).trans (there (by simp)).symm))

/-- An error in the file `/a`. -/
private def errorAt (line : Int) (message : String) : Diagnostic :=
  { file := { path := "/a" }, line, column := 1, severity := .error, message, code := none
    offset := none }

example : (sort [errorAt 2 "late", errorAt 1 "first", errorAt 1 "second"]).map message =
    ["first", "second", "late"] := by
  cbv

/-- A listing of diagnostics that were taken file by file is a listing of the diagnostics, if the
files have different paths. -/
theorem Listing.of_files {files : List Handle} {given listed : List Diagnostic}
    (listing : Listing (byKey Diagnostic.file files given) listed) (nodup : files.Nodup)
    (covered : ∀ d ∈ given, d.file ∈ files)
    (apart : ∀ h ∈ files, ∀ k ∈ files, h.path = k.path → h = k) : Listing given listed := by
  refine ⟨listing.perm.trans (perm_byKey nodup covered), listing.ordered, fun spot => ?_⟩
  rw [listing.ties]
  refine filter_byKey nodup covered fun d mem e mem' here here' => ?_
  have same : d.place = e.place :=
    (decide_eq_true_iff.1 here).trans (decide_eq_true_iff.1 here').symm
  exact apart _ (covered d mem) _ (covered e mem') (Prod.mk.inj same).1

end Diagnostic

end LiveCheck
