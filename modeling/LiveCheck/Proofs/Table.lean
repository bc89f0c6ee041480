import Mathlib.Data.List.Induction
import LiveCheck.Table

/-!
# Lookups in tables

A table that is put together from pairs holds no key twice, and nothing that is not among the
pairs.  Where the pairs have different keys, it is the list of them.
-/

namespace LiveCheck.Table

variable {κ ν μ : Type} [DecidableEq κ]

/-- What is looked up stands in the table. -/
theorem mem_of_get? {t : Table κ ν} {k : κ} {v : ν} (h : get? t k = some v) : (k, v) ∈ t := by
  unfold get? at h
  obtain ⟨entry, found, rfl⟩ := Option.map_eq_some_iff.1 h
  have key : entry.1 = k := by simpa using List.find?_some found
  rw [← key]
  exact List.mem_of_find?_eq_some found

/-- A key at which something is found is one of the keys. -/
theorem mem_keys_of_get? {t : Table κ ν} {k : κ} {v : ν} (h : get? t k = some v) : k ∈ keys t :=
  List.mem_map_of_mem (mem_of_get? h)

/-- A key of the table is found. -/
theorem exists_get? {t : Table κ ν} {k : κ} (h : k ∈ keys t) : ∃ v, get? t k = some v := by
  obtain ⟨entry, hentry, rfl⟩ := List.mem_map.1 h
  have found : (t.find? fun e => e.1 = entry.1).isSome = true := by
    rw [List.find?_isSome]
    exact ⟨entry, hentry, by simp⟩
  obtain ⟨e, he⟩ := Option.isSome_iff_exists.1 found
  exact ⟨e.2, by rw [get?, he]; rfl⟩

/-- What is not a key of the table is not found. -/
theorem get?_eq_none {t : Table κ ν} {k : κ} (h : k ∉ keys t) : get? t k = none := by
  cases found : get? t k with
  | none => rfl
  | some v => exact absurd (List.mem_map.2 ⟨_, mem_of_get? found, rfl⟩) h

/-- In a table without a key twice every entry is found. -/
theorem get?_of_mem {t : Table κ ν} (nodup : (keys t).Nodup) {k : κ} {v : ν} (h : (k, v) ∈ t) :
    get? t k = some v := by
  induction t with
  | nil => cases h
  | cons entry rest ih =>
    obtain ⟨fresh, nodup'⟩ := List.nodup_cons.1 nodup
    rcases List.mem_cons.1 h with rfl | h
    · simp [get?]
    · have other : entry.1 ≠ k := by
        rintro rfl
        exact fresh (List.mem_map.2 ⟨_, h, rfl⟩)
      have tail := ih nodup' h
      unfold get? at tail ⊢
      rw [List.find?_cons_of_neg (by simpa using other)]
      exact tail

/-- The values of a table may be changed before the lookup or after it. -/
theorem get?_mapValues (t : Table κ ν) (f : κ → ν → μ) (k : κ) :
    get? (t.map fun e => (e.1, f e.1 e.2)) k = (get? t k).map (f k) := by
  induction t with
  | nil => rfl
  | cons entry rest ih =>
    by_cases h : entry.1 = k
    · simp [get?, h]
    · unfold get? at ih ⊢
      rw [List.map_cons, List.find?_cons_of_neg (by simpa using h),
        List.find?_cons_of_neg (by simpa using h)]
      exact ih

/-- What is found in a table without a key: everything but the key. -/
theorem get?_remove (t : Table κ ν) (k k' : κ) :
    get? (remove t k) k' = if k' = k then none else get? t k' := by
  induction t with
  | nil => split <;> rfl
  | cons entry rest ih =>
    unfold remove at ih ⊢
    unfold get? at ih ⊢
    by_cases h : entry.1 = k
    · rw [List.filter_cons_of_neg (by simpa using h), ih]
      split
      · rfl
      · next other =>
        have ne : entry.1 ≠ k' := fun same => other (same ▸ h)
        rw [List.find?_cons_of_neg (by simpa using ne)]
    · rw [List.filter_cons_of_pos (by simpa using h)]
      by_cases h' : entry.1 = k'
      · have other : k' ≠ k := fun same => h (h'.trans same)
        rw [List.find?_cons_of_pos (by simpa using h'), if_neg other,
          List.find?_cons_of_pos (by simpa using h')]
      · rw [List.find?_cons_of_neg (by simpa using h'), ih,
          List.find?_cons_of_neg (by simpa using h')]

/-- What stands in a table after one more pair stood there before, or is the pair. -/
theorem mem_put {t : Table κ ν} {k : κ} {v : ν} {e : κ × ν} (h : e ∈ put t k v) :
    e ∈ t ∨ e = (k, v) := by
  induction t with
  | nil => exact Or.inr (List.mem_singleton.1 h)
  | cons entry rest ih =>
    unfold put at h
    split at h
    · next key =>
      rcases List.mem_cons.1 h with rfl | h
      · exact Or.inr (by rw [key])
      · exact Or.inl (List.mem_cons_of_mem _ h)
    · rcases List.mem_cons.1 h with rfl | h
      · exact Or.inl List.mem_cons_self
      · rcases ih h with h | h
        · exact Or.inl (List.mem_cons_of_mem _ h)
        · exact Or.inr h

/-- A new key comes to the end of the table. -/
theorem put_of_notMem {t : Table κ ν} {k : κ} (h : k ∉ keys t) (v : ν) :
    put t k v = t ++ [(k, v)] := by
  induction t with
  | nil => rfl
  | cons entry rest ih =>
    have other : entry.1 ≠ k := fun heq => h (heq ▸ List.mem_cons_self)
    unfold put
    rw [if_neg other, ih fun hmem => h (List.mem_cons_of_mem _ hmem)]
    rfl

/-- A new key that is put and removed again leaves the table as it was. -/
theorem remove_put {t : Table κ ν} {k : κ} (h : k ∉ keys t) (v : ν) :
    remove (put t k v) k = t := by
  rw [put_of_notMem h]
  unfold remove
  rw [List.filter_append, List.filter_cons_of_neg (by simp), List.filter_nil, List.append_nil]
  refine List.filter_eq_self.2 fun entry mem => ?_
  exact decide_eq_true fun same => h (List.mem_map.2 ⟨entry, mem, same⟩)

/-- No key is twice in a table after one more pair. -/
theorem nodup_keys_put {t : Table κ ν} (nodup : (keys t).Nodup) (k : κ) (v : ν) :
    (keys (put t k v)).Nodup := by
  rw [keys_put]
  split
  · exact nodup
  · next fresh =>
    refine List.nodup_append.2 ⟨nodup, List.nodup_cons.2 ⟨List.not_mem_nil, List.nodup_nil⟩, ?_⟩
    intro a ha b hb
    obtain rfl := List.mem_singleton.1 hb
    rintro rfl
    exact fresh ha

/-- Of two values that a key is given one after the other the second counts. -/
theorem put_put (t : Table κ ν) (k : κ) (v v' : ν) : put (put t k v) k v' = put t k v' := by
  induction t with
  | nil => simp [put]
  | cons entry rest ih =>
    by_cases h : entry.1 = k
    · simp [put, h]
    · simp [put, h, ih]

/-- No key is twice in a table without a key. -/
theorem nodup_keys_remove {t : Table κ ν} (nodup : (keys t).Nodup) (k : κ) :
    (keys (remove t k)).Nodup :=
  nodup.sublist (List.filter_sublist.map _)

/-- A table has the keys at which something is found. -/
theorem has_eq_isSome_get? (t : Table κ ν) (k : κ) : has t k = (get? t k).isSome := by
  unfold has get?
  rw [Option.isSome_map, List.isSome_find?]

/-- Keys are those at which something is found. -/
theorem mem_keys_iff {t : Table κ ν} {k : κ} : k ∈ keys t ↔ (get? t k).isSome = true := by
  rw [Option.isSome_iff_exists]
  exact ⟨exists_get?, fun ⟨_, found⟩ => mem_keys_of_get? found⟩

/-- To give a key a value does not touch a selection of keys without it. -/
theorem filter_keys_put (t : Table κ ν) {p : κ → Bool} {k : κ} (out : p k = false) (v : ν) :
    (keys (put t k v)).filter p = (keys t).filter p := by
  rw [keys_put]
  split
  · rfl
  · rw [List.filter_append, List.filter_cons_of_neg (by simp [out]), List.filter_nil,
      List.append_nil]

/-- To remove a key does not, either. -/
theorem filter_keys_remove (t : Table κ ν) {p : κ → Bool} {k : κ} (out : p k = false) :
    (keys (remove t k)).filter p = (keys t).filter p := by
  induction t with
  | nil => rfl
  | cons entry rest ih =>
    unfold remove keys at ih ⊢
    by_cases here : entry.1 = k
    · rw [List.filter_cons_of_neg (by simp [here]), ih, List.map_cons,
        List.filter_cons_of_neg (by simp [here, out])]
    · rw [List.filter_cons_of_pos (by simp [here]), List.map_cons, List.map_cons,
        List.filter_cons, List.filter_cons, ih]

/-- How many values of a table have a property, once a key has been given a value: the value that
the key had before does not count any more. -/
theorem countP_put {t : Table κ ν} (nodup : (keys t).Nodup) (p : ν → Bool) (k : κ) (v : ν) :
    ((put t k v).countP fun e => p e.2) + (get? t k).toList.countP p =
      (t.countP fun e => p e.2) + [v].countP p := by
  induction t with
  | nil => simp [put, get?]
  | cons entry rest ih =>
    obtain ⟨-, nodup'⟩ := List.nodup_cons.1 nodup
    by_cases h : entry.1 = k
    · simp only [put, get?, h, if_true, List.countP_cons, List.find?_cons_of_pos, decide_true,
        Option.map_some, Option.toList_some, List.countP_nil]
      omega
    · have found : get? (entry :: rest) k = get? rest k := by
        unfold get?
        rw [List.find?_cons_of_neg (by simpa using h)]
      have tail := ih nodup'
      rw [found]
      simp only [put, h, if_false, List.countP_cons] at tail ⊢
      omega

/-- How many values of a table have a property without a key: the value of the key does not
count. -/
theorem countP_remove {t : Table κ ν} (nodup : (keys t).Nodup) (p : ν → Bool) (k : κ) :
    ((remove t k).countP fun e => p e.2) + (get? t k).toList.countP p =
      t.countP fun e => p e.2 := by
  induction t with
  | nil => rfl
  | cons entry rest ih =>
    obtain ⟨fresh, nodup'⟩ := List.nodup_cons.1 nodup
    have tail := ih nodup'
    by_cases h : entry.1 = k
    · have missing : get? rest k = none := get?_eq_none (h ▸ fresh)
      have found : get? (entry :: rest) k = some entry.2 := by simp [get?, h]
      have same : remove (entry :: rest) k = remove rest k := by simp [remove, h]
      rw [missing] at tail
      rw [found, same]
      simp only [List.countP_cons, Option.toList_some, Option.toList_none,
        List.countP_nil] at tail ⊢
      omega
    · have found : get? (entry :: rest) k = get? rest k := by
        unfold get?
        rw [List.find?_cons_of_neg (by simpa using h)]
      have same : remove (entry :: rest) k = entry :: remove rest k := by simp [remove, h]
      rw [found, same]
      simp only [List.countP_cons]
      omega

/-- No key is twice in a table of pairs. -/
theorem nodup_keys_ofPairs (pairs : List (κ × ν)) : (keys (ofPairs pairs)).Nodup := by
  have step (pairs : List (κ × ν)) (t : Table κ ν) (nodup : (keys t).Nodup) :
      (keys (pairs.foldl (fun t p => put t p.1 p.2) t)).Nodup := by
    induction pairs generalizing t with
    | nil => exact nodup
    | cons p rest ih => exact ih (put t p.1 p.2) (nodup_keys_put nodup p.1 p.2)
  exact step pairs [] List.nodup_nil

/-- What stands in a table of pairs is one of them. -/
theorem mem_of_mem_ofPairs {pairs : List (κ × ν)} {e : κ × ν} (h : e ∈ ofPairs pairs) :
    e ∈ pairs := by
  have step (pairs : List (κ × ν)) (t : Table κ ν)
      (h : e ∈ pairs.foldl (fun t p => put t p.1 p.2) t) : e ∈ t ∨ e ∈ pairs := by
    induction pairs generalizing t with
    | nil => exact Or.inl h
    | cons p rest ih =>
      rcases ih (put t p.1 p.2) h with h | h
      · rcases mem_put h with h | rfl
        · exact Or.inl h
        · exact Or.inr List.mem_cons_self
      · exact Or.inr (List.mem_cons_of_mem _ h)
  exact (step pairs [] h).resolve_left List.not_mem_nil

/-- The keys of pairs are the keys of their table. -/
theorem mem_keys_ofPairs {pairs : List (κ × ν)} {k : κ} (h : k ∈ pairs.map Prod.fst) :
    k ∈ keys (ofPairs pairs) := by
  have step (pairs : List (κ × ν)) (t : Table κ ν) (h : k ∈ keys t ∨ k ∈ pairs.map Prod.fst) :
      k ∈ keys (pairs.foldl (fun t p => put t p.1 p.2) t) := by
    induction pairs generalizing t with
    | nil => exact h.resolve_right List.not_mem_nil
    | cons p rest ih =>
      refine ih (put t p.1 p.2) ?_
      rw [keys_put]
      rcases h with h | h
      · refine Or.inl ?_
        split
        · exact h
        · exact List.mem_append_left _ h
      · rcases List.mem_cons.1 h with rfl | h
        · refine Or.inl ?_
          split
          · assumption
          · exact List.mem_append_right _ (List.mem_singleton.2 rfl)
        · exact Or.inr h
  exact step pairs [] (Or.inr h)

/-- A key of a table of pairs is one of theirs. -/
theorem mem_of_mem_keys_ofPairs {pairs : List (κ × ν)} {k : κ} (h : k ∈ keys (ofPairs pairs)) :
    k ∈ pairs.map Prod.fst := by
  obtain ⟨e, he, rfl⟩ := List.mem_map.1 h
  exact List.mem_map_of_mem (mem_of_mem_ofPairs he)

/-- Of the pairs with one key the last one counts. -/
theorem get?_ofPairs (pairs : List (κ × ν)) (k : κ) :
    get? (ofPairs pairs) k = get? pairs.reverse k := by
  induction pairs using List.reverseRecOn with
  | nil => rfl
  | append_singleton rest p ih =>
    have longer : ofPairs (rest ++ [p]) = put (ofPairs rest) p.1 p.2 := List.foldl_append
    rw [longer, List.reverse_append]
    by_cases h : k = p.1
    · subst h
      rw [get?_put_self]
      simp [get?]
    · rw [get?_put_of_ne _ _ h, ih]
      simp [get?, Ne.symm h]

/-- Pairs with different keys are their own table. -/
theorem ofPairs_of_nodup {pairs : List (κ × ν)} (h : (pairs.map Prod.fst).Nodup) :
    ofPairs pairs = pairs := by
  have step (pairs : List (κ × ν)) (t : Table κ ν) (h : (keys t ++ pairs.map Prod.fst).Nodup) :
      pairs.foldl (fun t p => put t p.1 p.2) t = t ++ pairs := by
    induction pairs generalizing t with
    | nil => exact (List.append_nil t).symm
    | cons p rest ih =>
      have fresh : p.1 ∉ keys t := fun hmem =>
        (List.nodup_append.1 h).2.2 p.1 hmem p.1 List.mem_cons_self rfl
      have longer : put t p.1 p.2 = t ++ [p] := put_of_notMem fresh p.2
      rw [List.foldl_cons, longer, ih (t ++ [p]) (by simpa [keys] using h), List.append_assoc]
      rfl
  exact step pairs [] h

end LiveCheck.Table
