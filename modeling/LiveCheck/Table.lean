namespace LiveCheck

/-! ### Tables in order of first insertion

A table is a list of keys with their values, no key twice, in the order in which the keys were
first put. Putting a key again replaces its value and keeps its place. -/

/-- Keys with values, oldest key first. -/
abbrev Table (κ ν : Type) := List (κ × ν)

namespace Table

variable {κ ν : Type} [DecidableEq κ]

/-- The value of a key. -/
def get? (t : Table κ ν) (k : κ) : Option ν :=
  (t.find? fun entry => entry.1 = k).map (·.2)

/-- Does the table hold the key? -/
def has (t : Table κ ν) (k : κ) : Bool := t.any fun entry => entry.1 = k

/-- Give a key a value: in place if the table holds it, at the end if not. -/
def put (t : Table κ ν) (k : κ) (v : ν) : Table κ ν :=
  match t with
  | [] => [(k, v)]
  | (k', v') :: rest => if k' = k then (k', v) :: rest else (k', v') :: put rest k v

/-- Change the value of a key, if the table holds it. -/
def modify (t : Table κ ν) (k : κ) (f : ν → ν) : Table κ ν :=
  t.map fun entry => if entry.1 = k then (entry.1, f entry.2) else entry

/-- The table without a key. -/
def remove (t : Table κ ν) (k : κ) : Table κ ν := t.filter fun entry => entry.1 ≠ k

/-- The table of the pairs, put one after the other. -/
def ofPairs (pairs : List (κ × ν)) : Table κ ν := pairs.foldl (fun t p => put t p.1 p.2) []

omit [DecidableEq κ] in
/-- The keys, in order of first insertion. -/
def keys (t : Table κ ν) : List κ := t.map (·.1)

theorem get?_put_self (t : Table κ ν) (k : κ) (v : ν) : get? (put t k v) k = some v := by
  induction t with
  | nil => simp [put, get?]
  | cons entry rest ih =>
    by_cases h : entry.1 = k
    · simp [put, get?, h]
    · simpa [put, get?, h] using ih

theorem get?_put_of_ne (t : Table κ ν) {k k' : κ} (v : ν) (h : k' ≠ k) :
    get? (put t k v) k' = get? t k' := by
  induction t with
  | nil => simp [put, get?, Ne.symm h]
  | cons entry rest ih =>
    by_cases hk : entry.1 = k
    · subst hk; simp [put, get?, Ne.symm h]
    · by_cases hk' : entry.1 = k'
      · subst hk'; simp [put, get?, hk]
      · simpa [put, get?, hk, hk'] using ih

/-- Putting a key that is there keeps the keys; putting a new one adds it at the end. -/
theorem keys_put (t : Table κ ν) (k : κ) (v : ν) :
    keys (put t k v) = if k ∈ keys t then keys t else keys t ++ [k] := by
  induction t with
  | nil => simp [put, keys]
  | cons entry rest ih =>
    simp only [keys] at ih
    by_cases h : entry.1 = k
    · simp [put, keys, h]
    · have h' : k ≠ entry.1 := fun e => h e.symm
      simp only [put, h, if_false, keys, List.map_cons, ih, List.mem_cons, h', false_or]
      by_cases hk : k ∈ rest.map (·.1) <;> simp [hk]

end Table

end LiveCheck
