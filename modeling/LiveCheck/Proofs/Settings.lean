import Mathlib.Tactic.Common
import LiveCheck.Settings.Basic

/-!
# Settings are decided one by one

Every setting has a rule of its own (`Setting.rule`) and is decided by it from the value that is
given for it alone (`Setting.decision`).  How a rule reads a value as a text or as a number is left
to a `Reader`, of which nothing is assumed.  Settings come of the values exactly if all nine
decisions are good, and then each of them is what its decision says (`decideAll_eq_ok_iff`);
otherwise the refusals are those of the decisions, in the order of the settings
(`decideAll_eq_error`).

The value that is given for a setting is found the same way, setting by setting, so environment and
overrides of one setting do not matter for another one (`load_fieldwise`).  There is one exception:
the rule for extensions goes through the parts of the value, and a number other than zero has none.
Then nothing is reported about any setting, and this is the only case in which the report of a
failure does not name what was refused.
-/

namespace LiveCheck

namespace Setting

/-- What a setting holds. -/
@[reducible]
def Holds : Setting → Type
  | command | arguments => String
  | configFile | scratchDir => Option String
  | tabWidth | maxWorkers => { n : Nat // 1 ≤ n }
  | allFiles => Bool
  | extensions => { l : List String // l ≠ [] }
  | pollInterval => Float

/-- The rule by which a value for a setting is accepted. -/
def rule (reader : Reader) : (f : Setting) → Value → Except Complaint f.Holds
  | command => Settings.readCommand reader
  | arguments => reader.text
  | configFile | scratchDir => Settings.readOptionalText reader
  | tabWidth | maxWorkers => Settings.readPositive reader
  | allFiles => Settings.readBool reader
  | extensions => Settings.readExtensions
  | pollInterval => Settings.readInterval reader

end Setting

/-- A number other than zero, a plain yes, or another object of this kind: a value that is neither
empty nor made of parts. -/
def Value.IsSolid : Value → Prop
  | .int n => n ≠ 0
  | .float x => (x == 0) = false
  | .bool b => b = true
  | .object _ _ _ parts => parts = none
  | _ => False

namespace Settings

/-- What one of the settings is. -/
def held (s : Settings) : (f : Setting) → f.Holds
  | .command => s.command
  | .arguments => s.arguments
  | .configFile => s.configFile
  | .tabWidth => ⟨s.tabWidth, s.one_le_tabWidth⟩
  | .allFiles => s.allFiles
  | .extensions => ⟨s.extensions, s.extensions_ne_nil⟩
  | .scratchDir => s.scratchDir
  | .maxWorkers => ⟨s.maxWorkers, s.one_le_maxWorkers⟩
  | .pollInterval => s.pollInterval

/-- The settings that hold these values. -/
def ofHeld (x : (f : Setting) → f.Holds) : Settings where
  command := x .command
  arguments := x .arguments
  configFile := x .configFile
  tabWidth := (x .tabWidth).1
  allFiles := x .allFiles
  extensions := (x .extensions).1
  scratchDir := x .scratchDir
  maxWorkers := (x .maxWorkers).1
  pollInterval := x .pollInterval
  one_le_tabWidth := (x .tabWidth).2
  one_le_maxWorkers := (x .maxWorkers).2
  extensions_ne_nil := (x .extensions).2

/-- Settings hold the values that they were put together from. -/
theorem held_ofHeld (x : (f : Setting) → f.Holds) (f : Setting) : (ofHeld x).held f = x f := by
  cases f <;> rfl

/-- The refusals are those of the values that the rules do not accept, one for each, in the order of
the settings. -/
structure NamesRefused (reader : Reader) (given : Setting → Option Value)
    (refusals : List Refusal) : Prop where
  mem_iff : ∀ r, r ∈ refusals ↔
    given r.setting = some r.value ∧ r.setting.rule reader r.value = .error r.complaint
  inOrder : (refusals.map Refusal.setting).Sublist Setting.all

/-- What is reported of a failure are exactly the values that the rules do not accept. -/
def Rejection.Reports (reader : Reader) (given : Setting → Option Value) : Rejection → Prop
  | .noParts _ => False
  | .refused refusals => NamesRefused reader given refusals

/-- An override that counts: a null does not. -/
def counted : Option Value → Option Value
  | some .null => none
  | override => override

/-- The value given for a setting: the override if one counts, and else the text of the variable,
if it is set. -/
def raw (environment : String → Option String) (override : Setting → Option Value) (f : Setting) :
    Option Value :=
  (counted (override f)).or ((environment f.environmentName).map .text)

end Settings

/-- The decision about one setting: by its own rule, from the value given for it. -/
def Setting.decision (reader : Reader) (given : Setting → Option Value) (f : Setting) :
    Except Settings.Refusal f.Holds :=
  Settings.decideSetting given f (Settings.default.held f) (f.rule reader)

namespace Settings

open Setting (decision)

variable {reader : Reader} {given : Setting → Option Value} {f : Setting} {r : Refusal}

/-! ### One setting -/

/-- A setting for which no value is given has its default. -/
theorem decision_of_none (h : given f = none) : f.decision reader given = .ok (default.held f) := by
  unfold Setting.decision decideSetting
  rw [h]

/-- A setting for which an accepted value is given is what the rule makes of it. -/
theorem decision_of_ok {v : Value} {x : f.Holds} (h : given f = some v)
    (accepted : f.rule reader v = .ok x) : f.decision reader given = .ok x := by
  unfold Setting.decision decideSetting
  rw [h]
  dsimp only
  rw [accepted]

/-- A setting for which another value is given is refused. -/
theorem decision_of_error {v : Value} {complaint : Complaint} (h : given f = some v)
    (refused : f.rule reader v = .error complaint) :
    f.decision reader given = .error { setting := f, complaint, value := v } := by
  unfold Setting.decision decideSetting
  rw [h]
  dsimp only
  rw [refused]

/-- The decision about a setting rests on the value given for it and on no other one. -/
theorem decision_congr {given' : Setting → Option Value} (same : given' f = given f) :
    f.decision reader given' = f.decision reader given := by
  unfold Setting.decision decideSetting
  rw [same]

/-- The decision about a setting is good exactly if the value, if one is given, is accepted. -/
theorem exists_decision_iff :
    (∃ x, f.decision reader given = .ok x) ↔
      ∀ v, given f = some v → ∃ x, f.rule reader v = .ok x := by
  cases h : given f with
  | none => exact iff_of_true ⟨_, decision_of_none h⟩ nofun
  | some v =>
    cases read : f.rule reader v with
    | ok x => exact iff_of_true ⟨x, decision_of_ok h read⟩ (by rintro _ ⟨⟩; exact ⟨x, read⟩)
    | error complaint =>
      refine iff_of_false ?_ fun all => ?_
      · rintro ⟨x, good⟩
        rw [decision_of_error h read] at good
        cases good
      · obtain ⟨x, good⟩ := all v rfl
        rw [read] at good
        cases good

/-- The refusal of a decision is about its setting and a value that the rule does not accept. -/
theorem mem_refusalIn_decision_iff : r ∈ refusalIn (f.decision reader given) ↔
    r.setting = f ∧ given r.setting = some r.value ∧
      r.setting.rule reader r.value = .error r.complaint := by
  obtain ⟨setting, complaint, value⟩ := r
  dsimp only
  constructor
  · intro mem
    cases h : given f with
    | none =>
      rw [decision_of_none h] at mem
      cases mem
    | some v =>
      cases read : f.rule reader v with
      | ok x =>
        rw [decision_of_ok h read] at mem
        cases mem
      | error complaint =>
        rw [decision_of_error h read] at mem
        cases List.mem_singleton.1 mem
        exact ⟨rfl, h, read⟩
  · rintro ⟨rfl, h, read⟩
    rw [decision_of_error h read]
    exact List.mem_singleton.2 rfl

/-- A decision is about its setting, if it is a refusal. -/
theorem map_setting_refusalIn :
    ((refusalIn (f.decision reader given)).map Refusal.setting).Sublist [f] := by
  cases h : f.decision reader given with
  | ok x => exact List.nil_sublist _
  | error r =>
    have own : r ∈ refusalIn (f.decision reader given) := by
      rw [h]
      exact List.mem_singleton.2 rfl
    have same : [r.setting] = [f] := by rw [(mem_refusalIn_decision_iff.1 own).1]
    exact same ▸ List.Sublist.refl _

/-! ### All settings -/

/-- Settings come of the values exactly if all decisions are good, and they are what the decisions
say. -/
theorem decideAll_eq_ok_iff {s : Settings} :
    decideAll reader given = .ok s ↔ ∀ f : Setting, f.decision reader given = .ok (s.held f) := by
  constructor
  · intro h
    unfold decideAll at h
    dsimp only at h
    split at h
    · next command arguments configFile tabWidth allFiles extensions scratchDir maxWorkers
        pollInterval =>
      cases h
      rintro (_ | _ | _ | _ | _ | _ | _ | _ | _) <;> assumption
    · cases h
  · intro all
    have command : decideSetting given .command default.command (readCommand reader) =
      .ok s.command := all .command
    have arguments : decideSetting given .arguments default.arguments reader.text =
      .ok s.arguments := all .arguments
    have configFile : decideSetting given .configFile default.configFile (readOptionalText reader) =
      .ok s.configFile := all .configFile
    have tabWidth : decideSetting given .tabWidth ⟨default.tabWidth, default.one_le_tabWidth⟩
      (readPositive reader) = .ok ⟨s.tabWidth, s.one_le_tabWidth⟩ := all .tabWidth
    have allFiles : decideSetting given .allFiles default.allFiles (readBool reader) =
      .ok s.allFiles := all .allFiles
    have extensions : decideSetting given .extensions
      ⟨default.extensions, default.extensions_ne_nil⟩ readExtensions =
      .ok ⟨s.extensions, s.extensions_ne_nil⟩ := all .extensions
    have scratchDir : decideSetting given .scratchDir default.scratchDir (readOptionalText reader) =
      .ok s.scratchDir := all .scratchDir
    have maxWorkers : decideSetting given .maxWorkers
      ⟨default.maxWorkers, default.one_le_maxWorkers⟩ (readPositive reader) =
      .ok ⟨s.maxWorkers, s.one_le_maxWorkers⟩ := all .maxWorkers
    have pollInterval : decideSetting given .pollInterval default.pollInterval
      (readInterval reader) = .ok s.pollInterval := all .pollInterval
    unfold decideAll
    dsimp only
    rw [command, arguments, configFile, tabWidth, allFiles, extensions, scratchDir, maxWorkers,
      pollInterval]

/-- Otherwise the refusals are those of the decisions. -/
theorem decideAll_eq_error {refusals : List Refusal}
    (h : decideAll reader given = .error refusals) :
    refusals = Setting.all.flatMap fun f => refusalIn (f.decision reader given) := by
  unfold decideAll at h
  dsimp only at h
  split at h
  · cases h
  · cases h
    simp only [Setting.all, List.flatMap_cons, List.flatMap_nil, List.append_nil,
      List.append_assoc]
    rfl

/-- The refusals of all decisions name what the rules do not accept. -/
theorem namesRefused_decisions (reader : Reader) (given : Setting → Option Value) :
    NamesRefused reader given
      (Setting.all.flatMap fun f => refusalIn (f.decision reader given)) where
  mem_iff r := by
    rw [List.mem_flatMap]
    constructor
    · rintro ⟨f, -, mem⟩
      exact (mem_refusalIn_decision_iff.1 mem).2
    · intro refused
      have listed : r.setting ∈ Setting.all := by cases r.setting <;> decide
      exact ⟨r.setting, listed, mem_refusalIn_decision_iff.2 ⟨rfl, refused⟩⟩
  inOrder := by
    induction Setting.all with
    | nil => exact List.Sublist.refl _
    | cons f rest ih =>
      rw [List.flatMap_cons, List.map_append]
      exact map_setting_refusalIn.append ih

/-! ### The values that are given -/

variable {environment environment' : String → Option String}
  {override override' : Setting → Option Value}

/-- The values given for the settings are found setting by setting. -/
theorem merged_eq (environment : String → Option String) (override : Setting → Option Value) :
    merged environment override = raw environment override := by
  funext f
  unfold merged raw counted
  cases override f with
  | none => rfl
  | some v => cases v <;> rfl

/-- An override counts once and for all. -/
theorem counted_counted (given : Option Value) : counted (counted given) = counted given := by
  cases given with
  | none => rfl
  | some v => cases v <;> rfl

/-- The environment holds texts, so only an override can be solid. -/
theorem raw_solid_iff {v : Value} (solid : v.IsSolid) :
    raw environment override f = some v ↔ override f = some v := by
  have noText : ∀ s, v ≠ .text s := by
    rintro s rfl
    exact solid
  have noNull : v ≠ .null := by
    rintro rfl
    exact solid
  have fromVariable : (environment f.environmentName).map Value.text ≠ some v := by
    cases environment f.environmentName with
    | none => exact nofun
    | some s => exact fun same => noText s (Option.some.inj same).symm
  unfold raw
  cases override f with
  | none => exact iff_of_false fromVariable nofun
  | some v' =>
    cases v' with
    | null => exact iff_of_false fromVariable fun same => noNull (Option.some.inj same).symm
    | _ => exact Iff.rfl

/-- The variable of a setting does not matter if an override counts. -/
theorem raw_congr (same : ∀ f, counted (override f) = none →
    environment' f.environmentName = environment f.environmentName) :
    raw environment' override = raw environment override := by
  funext f
  unfold raw
  cases h : counted (override f) with
  | none => rw [same f h]
  | some v => rfl

/-- A null among the overrides is as good as nothing. -/
theorem raw_counted : (raw environment fun f => counted (override f)) = raw environment override := by
  funext f
  unfold raw
  rw [counted_counted]

/-! ### Loading -/

/-- A solid value has no extensions. -/
theorem readExtensions_of_solid {v : Value} (solid : v.IsSolid) :
    readExtensions v = .error .noExtension := by
  cases v with
  | object kind shown text parts =>
    obtain rfl : parts = none := solid
    rfl
  | null | text | list | record => exact solid.elim
  | _ => rfl

/-- Solid extensions are reported as such, and nothing else is. -/
theorem ofGiven_of_solid {v : Value} (h : given .extensions = some v) (solid : v.IsSolid) :
    ofGiven given reader = .error (.noParts v.kindName) := by
  have kind : kindWithoutParts? v = some v.kindName := by
    cases v <;> simp_all [kindWithoutParts?, Value.IsSolid]
  unfold ofGiven
  rw [h, Option.bind_some, kind]

/-- All other values are decided. -/
theorem ofGiven_of_parts (parts : ¬ ∃ v, given .extensions = some v ∧ v.IsSolid) :
    ofGiven given reader = (decideAll reader given).mapError .refused := by
  have none_ : (given .extensions).bind kindWithoutParts? = none := by
    cases h : given .extensions with
    | none => rfl
    | some v =>
      have hollow : ¬ v.IsSolid := fun solid => parts ⟨v, h, solid⟩
      cases v <;> simp_all [kindWithoutParts?, Value.IsSolid]
  unfold ofGiven
  rw [none_]

/-- Settings are loaded exactly if all decisions are good, and they are what the decisions say. -/
theorem ofGiven_eq_ok_iff {s : Settings} :
    ofGiven given reader = .ok s ↔ ∀ f : Setting, f.decision reader given = .ok (s.held f) := by
  by_cases parts : ∃ v, given .extensions = some v ∧ v.IsSolid
  · obtain ⟨v, h, solid⟩ := parts
    refine iff_of_false ?_ fun all => ?_
    · rw [ofGiven_of_solid h solid]
      exact nofun
    · have refused : Setting.decision reader given .extensions = _ :=
        decision_of_error h (readExtensions_of_solid solid)
      cases (all .extensions).symm.trans refused
  · rw [ofGiven_of_parts parts, ← decideAll_eq_ok_iff]
    cases decideAll reader given <;> simp [Except.mapError]

/-- What is reported of a failure is what was refused, unless the extensions are solid. -/
theorem reports_iff {rejection : Rejection} (h : ofGiven given reader = .error rejection) :
    rejection.Reports reader given ↔ ¬ ∃ v, given .extensions = some v ∧ v.IsSolid := by
  by_cases parts : ∃ v, given .extensions = some v ∧ v.IsSolid
  · refine iff_of_false ?_ (not_not_intro parts)
    obtain ⟨v, given_, solid⟩ := parts
    rw [ofGiven_of_solid given_ solid] at h
    cases h
    exact id
  · refine iff_of_true ?_ parts
    rw [ofGiven_of_parts parts] at h
    cases decided : decideAll reader given with
    | ok s =>
      rw [decided] at h
      cases h
    | error refusals =>
      rw [decided] at h
      cases h
      rw [Rejection.Reports, decideAll_eq_error decided]
      exact namesRefused_decisions reader given

/-- Settings are loaded exactly if every value that is given is accepted by the rule of its
setting.  Each of them then is what the rule makes of its own value, or its default, and so the same
wherever the same value is given for it.  What is reported of a failure is what the rules do not
accept, unless the extensions are overridden by a solid value, which alone is reported then.  The
variable of a setting does not matter where an override counts, and a null does not count.

This holds however values are read, as long as each of them is read on its own. -/
theorem load_fieldwise (reader : Reader) (environment : String → Option String)
    (override : Setting → Option Value) :
    ((∃ s, load environment override reader = .ok s) ↔
      ∀ f v, raw environment override f = some v → ∃ x, f.rule reader v = .ok x) ∧
    (∀ s, load environment override reader = .ok s → ∀ f,
      (∀ v, raw environment override f = some v → f.rule reader v = .ok (s.held f)) ∧
      (raw environment override f = none → s.held f = default.held f)) ∧
    (∀ environment' override' s s', load environment override reader = .ok s →
      load environment' override' reader = .ok s' → ∀ f,
      raw environment' override' f = raw environment override f → s'.held f = s.held f) ∧
    (∀ rejection, load environment override reader = .error rejection →
      (rejection.Reports reader (raw environment override) ↔
        ¬ ∃ v, override .extensions = some v ∧ v.IsSolid)) ∧
    (∀ v, override .extensions = some v → v.IsSolid →
      load environment override reader = .error (.noParts v.kindName)) ∧
    (∀ environment', (∀ f, counted (override f) = none →
        environment' f.environmentName = environment f.environmentName) →
      load environment' override reader = load environment override reader) ∧
    load environment (fun f => counted (override f)) reader = load environment override reader := by
  have same (environment : String → Option String) (override : Setting → Option Value) :
      load environment override reader = ofGiven (raw environment override) reader :=
    congrArg (ofGiven · reader) (merged_eq environment override)
  simp only [same]
  refine ⟨?_, ?_, ?_, ?_, ?_, ?_, ?_⟩
  · simp only [ofGiven_eq_ok_iff, ← exists_decision_iff]
    constructor
    · rintro ⟨s, decided⟩ f
      exact ⟨_, decided f⟩
    · intro good
      choose x decided using good
      exact ⟨ofHeld x, fun f => (held_ofHeld x f).symm ▸ decided f⟩
  · intro s loaded f
    have decided := ofGiven_eq_ok_iff.1 loaded f
    refine ⟨fun v given => ?_, fun given => ?_⟩
    · obtain ⟨x, accepted⟩ := exists_decision_iff.1 ⟨_, decided⟩ v given
      rw [decision_of_ok given accepted] at decided
      rw [accepted, Except.ok.inj decided]
    · rw [decision_of_none given] at decided
      exact (Except.ok.inj decided).symm
  · intro environment' override' s s' loaded loaded' f given
    have decided := ofGiven_eq_ok_iff.1 loaded' f
    rw [decision_congr given, ofGiven_eq_ok_iff.1 loaded f] at decided
    exact (Except.ok.inj decided).symm
  · intro rejection failed
    rw [reports_iff failed]
    exact not_congr (exists_congr fun v => and_congr_left fun solid => raw_solid_iff solid)
  · intro v given solid
    exact ofGiven_of_solid ((raw_solid_iff solid).2 given) solid
  · intro environment' unchanged
    rw [raw_congr unchanged]
  · rw [raw_counted]

/-- A variable that holds no number, where an override counts; one that is used although a null
stands among the overrides; and one with a number that is too small. -/
def mixed : String → Option String
  | "MYPY_SCAN_TAB_WIDTH" => some "wide"
  | "MYPY_SCAN_CMD" => some " dmypy run -- "
  | "MYPY_SCAN_MAX_WORKERS" => some "0"
  | _ => none

/-- Overrides for the width of tabs and for the command; the second one is null. -/
def overriding (workers : Option Value) : Setting → Option Value
  | .tabWidth => some (.int 8)
  | .command => some .null
  | .maxWorkers => workers
  | _ => none

/-- The report names the number of workers alone, and once that is overridden the settings are
loaded. -/
theorem load_mixed :
    (∀ rejection, load mixed (overriding none) = .error rejection →
      rejection.Reports .usual (raw mixed (overriding none))) ∧
    ∃ s, load mixed (overriding (some (.text " 3 "))) = .ok s ∧ s.tabWidth = 8 ∧
      s.command = "dmypy run --" ∧ s.maxWorkers = 3 ∧ s.arguments = default.arguments := by
  obtain ⟨-, -, -, reports, -⟩ := load_fieldwise .usual mixed (overriding none)
  obtain ⟨accepted, fields, -⟩ := load_fieldwise .usual mixed (overriding (some (.text " 3 ")))
  have width : Setting.rule .usual .tabWidth (.int 8) = .ok ⟨8, by decide⟩ := rfl
  have command : Setting.rule .usual .command (.text " dmypy run -- ") = .ok "dmypy run --" := by
    decide +kernel
  have workers : Setting.rule .usual .maxWorkers (.text " 3 ") = .ok ⟨3, by decide⟩ := by
    decide +kernel
  refine ⟨fun rejection failed => (reports rejection failed).2 ?_, ?_⟩
  · rintro ⟨v, given, -⟩
    cases given
  · obtain ⟨s, loaded⟩ := accepted.2 <| by
      rintro (_ | _ | _ | _ | _ | _ | _ | _ | _) v given <;> cases given
      · exact ⟨_, command⟩
      · exact ⟨_, width⟩
      · exact ⟨_, workers⟩
    have width' := (fields s loaded .tabWidth).1 _ rfl
    have command' := (fields s loaded .command).1 _ rfl
    have workers' := (fields s loaded .maxWorkers).1 _ rfl
    have arguments := (fields s loaded .arguments).2 rfl
    refine ⟨s, loaded, ?_, ?_, ?_, arguments⟩
    · exact congrArg Subtype.val (Except.ok.inj (width'.symm.trans width))
    · exact Except.ok.inj (command'.symm.trans command)
    · exact congrArg Subtype.val (Except.ok.inj (workers'.symm.trans workers))

/-- Not every failure reports what was refused: a number for the extensions is reported as such, and
not as the value of a setting. -/
theorem not_always_reported :
    ¬ ∀ environment override rejection, load environment override = .error rejection →
      rejection.Reports .usual (raw environment override) := by
  intro all
  let override : Setting → Option Value
    | .extensions => some (.int 5)
    | _ => none
  exact all (fun _ => none) override (.noParts "int") rfl

end Settings

end LiveCheck
