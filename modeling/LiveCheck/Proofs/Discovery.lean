import LiveCheck.Proofs.Runs
import LiveCheck.Scan

/-!
# What discovery finds

A walk adds nothing to its files but what a path resolves to, and it adds no file twice.  Whatever
holds of everything that paths resolve to therefore holds of all files of a scan of roots, however
the directories lie, and the picked ones stand among them once.
-/

namespace LiveCheck

open Program

/-- No file is found twice, and all of them satisfy `P`. -/
structure Discovered.Known (P : Handle → Prop) (found : Discovered) : Prop where
  nodup : found.files.Nodup
  all : ∀ h ∈ found.files, P h

/-- The files in their order are the files that were found. -/
theorem Discovered.perm_sorted (found : Discovered) : found.sorted.Perm found.files :=
  List.mergeSort_perm _ _

/-- No path comes before a smaller one. -/
theorem Discovered.pairwise_sorted (found : Discovered) :
    found.sorted.Pairwise fun h k => h.path ≤ k.path := by
  refine (List.pairwise_mergeSort (fun a b c hab hbc => ?_) (fun a b => ?_) found.files).imp
    fun h => decide_eq_true_iff.1 h
  · exact decide_eq_true
      (String.le_trans (decide_eq_true_iff.1 hab) (decide_eq_true_iff.1 hbc))
  · rw [Bool.or_eq_true, decide_eq_true_iff, decide_eq_true_iff]
    exact String.le_total _ _

/-- What a path resolves to in this exchange satisfies `P`. -/
def Program.Exchange.ResolvesTo (P : Handle → Prop) (e : Exchange) : Prop :=
  ∀ path h, e = ⟨.resolve path, .ok (some h)⟩ → P h

namespace Discovery

variable {P : Handle → Prop} {found : Discovered}

/-- One more file is known if it satisfies `P`. -/
theorem known_add (known : found.Known P) {k : Handle} (hk : P k) : (found.add k).Known P := by
  unfold Discovered.add
  split
  · exact known
  · next fresh =>
    refine ⟨List.nodup_append.2 ⟨known.nodup, List.pairwise_singleton _ k, ?_⟩, fun h hh => ?_⟩
    · rintro a ha b hb rfl
      exact fresh (List.mem_singleton.1 hb ▸ ha)
    · rcases List.mem_append.1 hh with hh | hh
      · exact known.all h hh
      · exact List.mem_singleton.1 hh ▸ hk

/-- What a path resolves to is known if it satisfies `P`. -/
theorem known_addResolved (known : found.Known P) {resolved : Option Handle}
    (h : ∀ k, resolved = some k → P k) : (found.addResolved resolved).Known P := by
  cases resolved with
  | none => exact known
  | some k => exact known_add known (h k rfl)

/-- The children of a directory that are looked at become known. -/
theorem known_look {children inner inner' : List String} {found' : Discovered} {t : Trace}
    (run : Runs (look inner found children).attempt t (.ok (inner', found')))
    (resolves : ∀ e ∈ t, e.ResolvesTo P) (known : found.Known P) : found'.Known P := by
  induction children generalizing inner found t with
  | nil =>
    obtain ⟨-, same⟩ := runs_attempt_pure.1 run
    cases same
    exact known
  | cons child rest ih =>
    unfold look at run
    obtain ⟨t₁, t₂, isDirectory, rfl, -, next⟩ := runs_attempt_bind_ok.1 run
    obtain ⟨-, resolves₂⟩ := List.forall_mem_append.1 resolves
    split at next
    · exact ih next resolves₂ known
    · obtain ⟨t₃, t₄, resolved, rfl, ask, more⟩ := runs_attempt_bind_ok.1 next
      obtain ⟨resolves₃, resolves₄⟩ := List.forall_mem_append.1 resolves₂
      obtain rfl := runs_request.1 (runs_attempt_ofProgram.1 ask)
      refine ih more resolves₄ (known_addResolved known fun k hk => ?_)
      exact resolves₃ _ List.mem_cons_self child k (by rw [hk])

/-- The files of a directory and of the directories in it become known. -/
theorem known_walk {cwd : String} {cancellable : Bool} {depth : Nat} {ancestors : List String}
    {directory : String} {found' : Discovered} {t : Trace}
    (run : Runs (walk cwd cancellable depth ancestors found directory).attempt t (.ok found'))
    (resolves : ∀ e ∈ t, e.ResolvesTo P) (known : found.Known P) : found'.Known P := by
  induction depth generalizing ancestors directory found found' t with
  | zero =>
    obtain ⟨-, fault⟩ := runs_attempt_throw.1 run
    cases fault
  | succ depth ih =>
    unfold walk at run
    obtain ⟨t₁, t₂, _, rfl, -, visiting⟩ := runs_attempt_bind_ok.1 run
    obtain ⟨t₃, t₄, real, rfl, -, listing⟩ := runs_attempt_bind_ok.1 visiting
    obtain ⟨-, resolves₄⟩ := List.forall_mem_append.1 (List.forall_mem_append.1 resolves).2
    dsimp only at listing
    split at listing
    · obtain ⟨-, same⟩ := runs_attempt_pure.1 listing
      cases same
      exact known
    · obtain ⟨t₅, t₆, listed, rfl, -, walking⟩ := runs_attempt_ofTotal_bind.1 listing
      obtain ⟨-, resolves₆⟩ := List.forall_mem_append.1 resolves₄
      have known' : Discovered.Known P
          { found with visited := Path.normalize cwd directory :: found.visited } :=
        ⟨known.nodup, known.all⟩
      match listed with
      | .error fault =>
        dsimp only at walking
        split at walking
        · obtain ⟨-, same⟩ := runs_attempt_pure.1 walking
          cases same
          exact known'
        · obtain ⟨-, thrown⟩ := runs_attempt_throw.1 walking
          cases thrown
      | .ok children =>
        obtain ⟨t₇, t₈, ⟨inner, found₁⟩, rfl, looked, walked⟩ := runs_attempt_bind_ok.1 walking
        obtain ⟨resolves₇, resolves₈⟩ := List.forall_mem_append.1 resolves₆
        exact inv_of_runs_foldlM (fun _ _ _ _ run h known => ih run h known) walked resolves₈
          (known_look looked resolves₇ known')

/-- The files of a root become known. -/
theorem known_walkRoot {cwd : String} {cancellable : Bool} {depth : Nat} {root : Root}
    {found' : Discovered} {t : Trace}
    (run : Runs (walkRoot cwd cancellable depth found root).attempt t (.ok found'))
    (resolves : ∀ e ∈ t, e.ResolvesTo P) (known : found.Known P) : found'.Known P := by
  unfold walkRoot at run
  obtain ⟨t₁, t₂, _, rfl, -, asking⟩ := runs_attempt_bind_ok.1 run
  obtain ⟨t₃, t₄, isDirectory, rfl, -, walking⟩ := runs_attempt_bind_ok.1 asking
  obtain ⟨-, resolves₄⟩ := List.forall_mem_append.1 (List.forall_mem_append.1 resolves).2
  split at walking
  · exact known_walk walking resolves₄ known
  · obtain ⟨t₅, t₆, resolved, rfl, ask, last⟩ := runs_attempt_bind_ok.1 walking
    obtain ⟨resolves₅, -⟩ := List.forall_mem_append.1 resolves₄
    obtain rfl := runs_request.1 (runs_attempt_ofProgram.1 ask)
    obtain ⟨-, same⟩ := runs_attempt_pure.1 last
    cases same
    exact known_addResolved known fun k hk => resolves₅ _ List.mem_cons_self _ k (by rw [hk])

/-- The files under roots are what a walk discovers, put in order. -/
theorem runs_flatten {cwd : String} {cancellable : Bool} {roots : List Root}
    {files : List Handle} {t : Trace} :
    Runs (flatten cwd cancellable roots).attempt t (.ok files) ↔
      ∃ found, Runs (discover cwd cancellable roots).attempt t (.ok found) ∧
        files = found.sorted := by
  unfold flatten
  rw [runs_attempt_bind_ok]
  constructor
  · rintro ⟨t₁, t₂, found, rfl, discovering, last⟩
    obtain ⟨rfl, same⟩ := runs_attempt_pure.1 last
    cases same
    exact ⟨found, by simpa using discovering, rfl⟩
  · rintro ⟨found, discovering, rfl⟩
    exact ⟨t, [], found, by simp, discovering, runs_attempt_pure.2 ⟨rfl, rfl⟩⟩

/-- What is discovered under roots is known. -/
theorem known_discover {cwd : String} {cancellable : Bool} {roots : List Root}
    {found : Discovered} {t : Trace}
    (run : Runs (discover cwd cancellable roots).attempt t (.ok found))
    (resolves : ∀ e ∈ t, e.ResolvesTo P) : found.Known P := by
  unfold discover at run
  obtain ⟨t₁, t₂, depth, rfl, -, walking⟩ := runs_attempt_ofTotal_bind.1 run
  exact inv_of_runs_foldlM (fun _ _ _ _ run h known => known_walkRoot run h known) walking
    (List.forall_mem_append.1 resolves).2 ⟨List.nodup_nil, fun _ h => by cases h⟩

/-- The files under roots are known, each once. -/
theorem known_flatten {cwd : String} {cancellable : Bool} {roots : List Root}
    {files : List Handle} {t : Trace}
    (run : Runs (flatten cwd cancellable roots).attempt t (.ok files))
    (resolves : ∀ e ∈ t, e.ResolvesTo P) : files.Nodup ∧ ∀ h ∈ files, P h := by
  obtain ⟨found, discovering, rfl⟩ := runs_flatten.1 run
  have known := known_discover discovering resolves
  exact ⟨found.perm_sorted.nodup_iff.2 known.nodup, fun h hmem =>
    known.all h (found.perm_sorted.mem_iff.1 hmem)⟩

end Discovery

/-! ### Picked files -/

/-- The list without later copies has the elements of the list. -/
theorem Filter.mem_firsts {α : Type} [DecidableEq α] {as : List α} {a : α} :
    a ∈ firsts as ↔ a ∈ as := by
  induction as with
  | nil => exact Iff.rfl
  | cons b rest ih =>
    unfold firsts
    rw [List.mem_cons, List.mem_cons, List.mem_filter, ih, decide_eq_true_iff]
    by_cases h : a = b <;> simp [h]

/-- Nothing is picked twice. -/
theorem Filter.nodup_firsts {α : Type} [DecidableEq α] (as : List α) : (firsts as).Nodup := by
  induction as with
  | nil => exact List.nodup_nil
  | cons b rest ih =>
    refine List.nodup_cons.2 ⟨fun h => ?_, ih.filter _⟩
    have other := (List.mem_filter.1 h).2
    simp at other

/-- The list without later copies is a part of the list. -/
theorem Filter.firsts_sublist {α : Type} [DecidableEq α] (as : List α) : (firsts as).Sublist as := by
  induction as with
  | nil => exact List.Sublist.slnil
  | cons b rest ih => exact (List.filter_sublist.trans ih).cons_cons b

/-- The elements stand in the order in which they occur first. -/
theorem Filter.pairwise_firsts {α : Type} [DecidableEq α] (as : List α) :
    (firsts as).Pairwise fun a b => as.idxOf a < as.idxOf b := by
  induction as with
  | nil => exact List.Pairwise.nil
  | cons c rest ih =>
    have later {a : α} (h : a ∈ (firsts rest).filter (· ≠ c)) :
        (c :: rest).idxOf a = rest.idxOf a + 1 := by
      have other : a ≠ c := by simpa using (List.mem_filter.1 h).2
      rw [List.idxOf_cons, beq_eq_false_iff_ne.2 other.symm]
      rfl
    refine List.pairwise_cons.2 ⟨fun a ha => ?_, ?_⟩
    · rw [later ha, List.idxOf_cons_self]
      exact Nat.succ_pos _
    · refine (ih.filter _).imp_of_mem fun ha hb h => ?_
      rw [later ha, later hb]
      exact Nat.succ_lt_succ h

/-- A scan with a rule resolves its files to those candidates that the rule selects. -/
theorem Scan.runs_resolveFiles {scan : Scan} {filter : Filter} (picker : scan.picker = .rule filter)
    {files : List Handle} {t : Trace} :
    Runs scan.resolveFiles.attempt t (.ok files) ↔
      ∃ handles, Runs scan.candidates.attempt t (.ok handles) ∧
        files = filter.select scan.cwd handles := by
  unfold resolveFiles pick
  rw [picker, runs_attempt_bind_ok]
  constructor
  · rintro ⟨t₁, t₂, handles, rfl, found, last⟩
    obtain ⟨rfl, same⟩ := runs_attempt_pure.1 last
    cases same
    exact ⟨handles, by simpa using found, rfl⟩
  · rintro ⟨handles, found, rfl⟩
    exact ⟨t, [], handles, by simp, found, runs_attempt_pure.2 ⟨rfl, rfl⟩⟩

/-- The files of a scan of roots that are picked by the rule stand there once, and they are what
paths resolve to. -/
theorem Scan.known_resolveFiles {scan : Scan} {roots : List Root} {filter : Filter}
    (targets : scan.targets = .roots roots) (picker : scan.picker = .rule filter)
    {P : Handle → Prop} {files : List Handle} {t : Trace}
    (run : Runs scan.resolveFiles.attempt t (.ok files)) (resolves : ∀ e ∈ t, e.ResolvesTo P) :
    files.Nodup ∧ ∀ h ∈ files, P h := by
  obtain ⟨found, flattened, rfl⟩ := (runs_resolveFiles picker).1 run
  unfold candidates at flattened
  rw [targets] at flattened
  obtain ⟨-, all⟩ := Discovery.known_flatten flattened resolves
  refine ⟨(Filter.nodup_firsts found).filter _, fun h hmem => all h ?_⟩
  exact Filter.mem_firsts.1 (List.mem_filter.1 hmem).1

end LiveCheck
