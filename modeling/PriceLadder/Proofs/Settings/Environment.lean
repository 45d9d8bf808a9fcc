import PriceLadder.Proofs.Outcome
import PriceLadder.Settings.Environment

set_option autoImplicit false

namespace PriceLadder.Settings

namespace Variable

def all : List Variable :=
  [.decadeWidth, .minTick, .maxTick, .outOfRange, .precisionTolerance]

theorem mem_all (v : Variable) : v ∈ all := by
  cases v <;> decide

theorem map_name_all : all.map name = ["TICK_DECADE_WIDTH", "TICK_MIN", "TICK_MAX",
    "TICK_OUT_OF_RANGE", "TICK_PRECISION_TOLERANCE"] :=
  rfl

theorem name_injective {v w : Variable} (same : v.name = w.name) : v = w := by
  have distinct : ∀ v ∈ all, ∀ w ∈ all, v.name = w.name → v = w := by decide
  exact distinct v v.mem_all w w.mem_all same

abbrev Value : Variable → Type
  | .decadeWidth | .minTick | .maxTick => Int32
  | .outOfRange => Policy
  | .precisionTolerance => Float

def read : (v : Variable) → List Char → Except Cause v.Value
  | .decadeWidth | .minTick | .maxTick => readTicks
  | .outOfRange => readPolicy
  | .precisionTolerance => readTolerance

end Variable

def field (s : Settings) : (v : Variable) → v.Value
  | .decadeWidth => s.decadeWidth
  | .minTick => s.minTick
  | .maxTick => s.maxTick
  | .outOfRange => s.outOfRange
  | .precisionTolerance => s.precisionTolerance

theorem eq_of_field_eq {s t : Settings} (same : ∀ v, s.field v = t.field v) : s = t := by
  cases s
  cases t
  rw [mk.injEq]
  exact ⟨same .decadeWidth, same .minTick, same .maxTick, same .outOfRange,
    same .precisionTolerance⟩

namespace Variable

/-- The standard value of a variable as the log has it. -/
def standardText : Variable → String
  | .decadeWidth => toString standard.decadeWidth
  | .minTick => toString standard.minTick
  | .maxTick => toString standard.maxTick
  | .outOfRange => standard.outOfRange.name
  | .precisionTolerance => Decimal.Layout.plain.render standard.precisionTolerance

def record (v : Variable) : Event :=
  .unset v v.standardText

/-- What a variable is read as, without white space around it, if it is set. -/
def reading (v : Variable) (env : Environment) : Option (Except Cause v.Value) :=
  (env v.name).map fun raw => v.read (Text.trim raw.toList)

/-- Whether a variable is set to something that is no value of its field, for `cause`. -/
def Fails (v : Variable) (env : Environment) (cause : Cause) : Prop :=
  v.reading env = some (.error cause)

/-- Whether `x` is the value of a variable: what it is set to, or the standard if it is not set. -/
def Gives (v : Variable) (env : Environment) (x : v.Value) : Prop :=
  match v.reading env with
  | some read => read = .ok x
  | none => x = standard.field v

def fault? (v : Variable) (env : Environment) : Option Fault :=
  match v.reading env with
  | some (.error cause) => some (.badVariable v cause)
  | _ => none

/-- The value of a variable that does not fail. -/
def value (v : Variable) (env : Environment) : v.Value :=
  match v.reading env with
  | some (.ok x) => x
  | _ => standard.field v

section

variable {v : Variable} {env : Environment}

theorem fault?_eq_some_iff {fault : Fault} :
    v.fault? env = some fault ↔ ∃ cause, v.Fails env cause ∧ fault = .badVariable v cause := by
  unfold fault? Fails
  rcases v.reading env with _ | x | cause
  · simp
  · simp [eq_comm]
  · simp

theorem gives_iff {x : v.Value} : v.Gives env x ↔ v.fault? env = none ∧ v.value env = x := by
  unfold Gives fault? value
  rcases v.reading env with _ | own | cause
  · simp [eq_comm]
  · simp
  · simp

theorem exists_gives_iff : (∃ x, v.Gives env x) ↔
    ∀ raw, env v.name = some raw → ∃ x, v.read (Text.trim raw.toList) = .ok x := by
  unfold Gives reading
  cases env v.name <;> simp

theorem gives_of_env_eq {other : Environment} (same : env v.name = other v.name) {x : v.Value} :
    v.Gives env x ↔ v.Gives other x := by
  rw [Gives, reading, same, Gives, reading]

end

end Variable

def values (env : Environment) : Settings where
  decadeWidth := Variable.value .decadeWidth env
  minTick := Variable.value .minTick env
  maxTick := Variable.value .maxTick env
  outOfRange := Variable.value .outOfRange env
  precisionTolerance := Variable.value .precisionTolerance env

theorem field_values (env : Environment) (v : Variable) : (values env).field v = v.value env := by
  cases v <;> rfl

/-- The records of the variables that are not set, up to the first one that fails. -/
def unsetRecords (env : Environment) (vs : List Variable) : List Event :=
  ((vs.takeWhile fun v => (v.fault? env).isNone).filter fun v => (env v.name).isNone).map
    Variable.record

section

variable {env : Environment} {v : Variable}

theorem unsetRecords_of_fault {fault : Fault} (fails : v.fault? env = some fault)
    (vs : List Variable) : unsetRecords env (v :: vs) = [] := by
  simp [unsetRecords, fails]

theorem unsetRecords_cons (sound : v.fault? env = none) (vs : List Variable) :
    unsetRecords env (v :: vs) =
      (if (env v.name).isNone then [v.record] else []) ++ unsetRecords env vs := by
  rw [unsetRecords, List.takeWhile_cons_of_pos (by simp [sound])]
  cases unset : (env v.name).isNone with
  | true => rw [List.filter_cons_of_pos (by exact unset)]; rfl
  | false => rw [List.filter_cons_of_neg (by exact Bool.eq_false_iff.1 unset)]; rfl

/-- One variable either ends the loading or leaves a record if it is not set. -/
theorem run_setting (log : List Event) :
    (setting env v v.read (standard.field v) v.standardText).run.run log =
      match v.fault? env with
      | some fault => (.error fault, log)
      | none => (.ok (v.value env), log ++ if (env v.name).isNone then [v.record] else []) := by
  unfold setting Variable.fault? Variable.value Variable.reading
  cases env v.name with
  | none => rfl
  | some raw =>
    dsimp only [Option.map_some]
    cases v.read (Text.trim raw.toList) with
    | ok x =>
      rw [if_neg (by simp), List.append_nil]
      rfl
    | error cause => rfl

theorem run_bind {α β : Type} (first : Load α) (next : α → Load β) (log : List Event) :
    (first >>= next).run.run log =
      match first.run.run log with
      | (.ok a, log) => (next a).run.run log
      | (.error fault, log) => (.error fault, log) := by
  rw [ExceptT.run_bind, StateT.run_bind]
  rcases first.run.run log with ⟨_ | _, _⟩ <;> rfl

end

/-- Whether a loading reads some variables and then ends with the settings of the environment. -/
def Reads (env : Environment) (vs : List Variable) (loading : Load Settings) : Prop :=
  ∀ log, loading.run.run log =
    match vs.findSome? fun v => v.fault? env with
    | some fault => (.error fault, log ++ unsetRecords env vs)
    | none => (.ok (values env), log ++ unsetRecords env vs ++ [.loadedVariables (values env)])

section

variable {env : Environment}

theorem reads_nil : Reads env [] (record (.loadedVariables (values env)) >>= fun _ =>
    pure (values env)) := by
  intro log
  change _ = (_, log ++ [] ++ [_])
  rw [List.append_nil]
  rfl

/-- One variable more: what comes after it is the rest of the loading, unless it fails. -/
theorem reads_cons {v : Variable} {vs : List Variable} {next : v.Value → Load Settings}
    (rest : Reads env vs (next (v.value env))) :
    Reads env (v :: vs)
      (setting env v v.read (standard.field v) v.standardText >>= next) := by
  intro log
  rw [run_bind, run_setting]
  cases fault : v.fault? env with
  | some own =>
    rw [unsetRecords_of_fault fault, List.append_nil, List.findSome?_cons, fault]
  | none =>
    rw [unsetRecords_cons fault, ← List.append_assoc, List.findSome?_cons, fault]
    exact rest _

theorem reads_load : Reads env Variable.all (load env) :=
  reads_cons (v := .decadeWidth) <| reads_cons (v := .minTick) <| reads_cons (v := .maxTick) <|
    reads_cons (v := .outOfRange) <| reads_cons (v := .precisionTolerance) reads_nil

theorem ofEnvironment_eq_ok_iff {s : Settings} : (ofEnvironment env).1 = .ok s ↔
    ∀ v : Variable, v.Gives env (s.field v) := by
  simp only [Variable.gives_iff]
  rw [ofEnvironment, reads_load []]
  cases first : Variable.all.findSome? fun v => v.fault? env with
  | some fault =>
    obtain ⟨v, -, fails⟩ := List.exists_of_findSome?_eq_some first
    simp only [reduceCtorEq, false_iff]
    intro sound
    rw [(sound v).1] at fails
    cases fails
  | none =>
    have sound (v : Variable) : v.fault? env = none :=
      List.findSome?_eq_none_iff.1 first v v.mem_all
    simp only [Except.ok.injEq, sound, true_and]
    constructor
    · rintro rfl v
      exact (field_values env v).symm
    · intro same
      exact eq_of_field_eq fun v => (field_values env v).trans (same v)

theorem exists_ofEnvironment_iff : (∃ s, (ofEnvironment env).1 = .ok s) ↔
    ∀ v : Variable, ∃ x, v.Gives env x := by
  simp only [ofEnvironment_eq_ok_iff]
  constructor
  · rintro ⟨s, gives⟩ v
    exact ⟨_, gives v⟩
  · intro gives
    refine ⟨values env, fun v => ?_⟩
    obtain ⟨x, own⟩ := gives v
    rw [field_values, (Variable.gives_iff.1 own).2]
    exact own

theorem ofEnvironment_eq_error_iff {fault : Fault} : (ofEnvironment env).1 = .error fault ↔
    ∃ before v after cause, Variable.all = before ++ v :: after ∧
      (∀ w ∈ before, ∃ x, w.Gives env x) ∧ v.Fails env cause ∧ fault = .badVariable v cause := by
  have first : (ofEnvironment env).1 = .error fault ↔
      (Variable.all.findSome? fun v => v.fault? env) = some fault := by
    rw [ofEnvironment, reads_load []]
    cases Variable.all.findSome? fun v => v.fault? env <;> simp
  rw [first, List.findSome?_eq_some_iff]
  constructor
  · rintro ⟨before, v, after, split, fails, sound⟩
    obtain ⟨cause, own, named⟩ := Variable.fault?_eq_some_iff.1 fails
    exact ⟨before, v, after, cause, split,
      fun w earlier => ⟨_, Variable.gives_iff.2 ⟨sound w earlier, rfl⟩⟩, own, named⟩
  · rintro ⟨before, v, after, cause, split, sound, own, named⟩
    refine ⟨before, v, after, split, Variable.fault?_eq_some_iff.2 ⟨cause, own, named⟩, ?_⟩
    intro w earlier
    obtain ⟨x, gives⟩ := sound w earlier
    exact (Variable.gives_iff.1 gives).1

theorem log_ofEnvironment : (ofEnvironment env).2 = unsetRecords env Variable.all ++
    (ofEnvironment env).1.toOption.toList.map .loadedVariables := by
  rw [ofEnvironment, reads_load []]
  cases Variable.all.findSome? fun v => v.fault? env with
  | some fault => exact (List.append_nil _).symm
  | none => rfl

theorem ofEnvironment_of_env_eq {other : Environment}
    (same : ∀ v : Variable, env v.name = other v.name) :
    ofEnvironment other = ofEnvironment env := by
  simp only [ofEnvironment, load, setting, same]

theorem field_eq_of_env_eq {other : Environment} {v : Variable} (same : env v.name = other v.name)
    {s t : Settings} (loaded : (ofEnvironment env).1 = .ok s)
    (otherLoaded : (ofEnvironment other).1 = .ok t) : s.field v = t.field v := by
  have own := (Variable.gives_of_env_eq same).1 (ofEnvironment_eq_ok_iff.1 loaded v)
  have theirs := ofEnvironment_eq_ok_iff.1 otherLoaded v
  rw [← (Variable.gives_iff.1 own).2, (Variable.gives_iff.1 theirs).2]

end

theorem readPolicy_trim_eq_ok_iff {text : List Char} {policy : Policy} :
    readPolicy (Text.trim text) = .ok policy ↔
      (Text.trim text).map Char.toLower = policy.name.toList := by
  have named (name : String) : Policy.ofName? name = some policy ↔ name = policy.name := by
    constructor
    · intro found
      have same := List.find?_some (p := fun q : Policy => decide (q.name = name)) found
      exact (of_decide_eq_true same).symm
    · rintro rfl
      exact Policy.ofName?_name policy
  have readAs : Policy.read? (String.ofList (Text.trim text)) = some policy ↔
      (Text.trim text).map Char.toLower = policy.name.toList := by
    rw [Policy.read?, named, String.toList_ofList, Text.trim_trim, ← String.toList_inj,
      String.toList_ofList]
  rw [← readAs, readPolicy]
  cases Policy.read? (String.ofList (Text.trim text)) <;> simp

/-- Loading is all or nothing and goes field by field. There are settings if and only if every
variable that is set, white space around it apart, is a value of its field; each field then is that
value, or the standard one of a variable that is not set, and depends on nothing else. Otherwise the
fault is that of the first variable that fails. The log has a record for each variable that is not
set and comes before a failure, and one more if and only if there are settings. The variables have
five different names, and only the white space at both ends of a text is no part of a value. -/
theorem ofEnvironment_allOrNothing (env : Environment) :
    ((∃ s, (ofEnvironment env).1 = .ok s) ↔ ∀ (v : Variable) (raw : String),
      env v.name = some raw → ∃ x, v.read (Text.trim raw.toList) = .ok x) ∧
    (∀ s, (ofEnvironment env).1 = .ok s ↔ ∀ v : Variable, v.Gives env (s.field v)) ∧
    (∀ fault, (ofEnvironment env).1 = .error fault ↔ ∃ before v after cause,
      Variable.all = before ++ v :: after ∧ (∀ w ∈ before, ∃ x, w.Gives env x) ∧
        v.Fails env cause ∧ fault = .badVariable v cause) ∧
    (∀ (v : Variable) cause, (Fault.badVariable v cause).message =
      s!"Failed to parse {v.name}: {cause.message}") ∧
    (ofEnvironment env).2 = unsetRecords env Variable.all ++
      (ofEnvironment env).1.toOption.toList.map .loadedVariables ∧
    (∀ event ∈ unsetRecords env Variable.all, event.level = .debug) ∧
    (∀ s, (Event.loadedVariables s).level = .info) ∧
    (∀ other : Environment, (∀ v : Variable, env v.name = other v.name) →
      ofEnvironment other = ofEnvironment env) ∧
    (∀ (other : Environment) (v : Variable) (s t : Settings), env v.name = other v.name →
      (ofEnvironment env).1 = .ok s → (ofEnvironment other).1 = .ok t →
      s.field v = t.field v) ∧
    (∀ (text : List Char) (policy : Policy), readPolicy (Text.trim text) = .ok policy ↔
      (Text.trim text).map Char.toLower = policy.name.toList) ∧
    Variable.all.map Variable.name = ["TICK_DECADE_WIDTH", "TICK_MIN", "TICK_MAX",
      "TICK_OUT_OF_RANGE", "TICK_PRECISION_TOLERANCE"] ∧
    (∀ v w : Variable, v.name = w.name → v = w) ∧
    (∀ text core : List Char, Text.trim text = core ↔ Text.TrimsTo text core) := by
  refine ⟨?_, fun s => ofEnvironment_eq_ok_iff, fun fault => ofEnvironment_eq_error_iff,
    fun v cause => rfl, log_ofEnvironment, ?_, fun s => rfl,
    fun other => ofEnvironment_of_env_eq, fun other v s t same => field_eq_of_env_eq same,
    fun text policy => readPolicy_trim_eq_ok_iff, Variable.map_name_all,
    fun v w => Variable.name_injective, fun text core => Text.trim_eq_iff⟩
  · simp only [exists_ofEnvironment_iff, Variable.exists_gives_iff]
  · intro event recorded
    obtain ⟨v, -, rfl⟩ := List.mem_map.1 recorded
    rfl

/-- White space is passed over at the ends of a value but not within it, and of two variables that
fail the first one counts. -/
theorem ofEnvironment_allOrNothing_padded :
    (ofEnvironment fun name => [("TICK_DECADE_WIDTH", " 90000\n"),
      ("TICK_OUT_OF_RANGE", "\tClamp\u3000")].lookup name).1 =
        .ok { standard with decadeWidth := 90000, outOfRange := .clamp } ∧
    (ofEnvironment fun name => [("TICK_PRECISION_TOLERANCE", "none"), ("TICK_MIN", " -900\r"),
      ("TICK_MAX", " 9 000 ")].lookup name).1 =
        .error (.badVariable .maxTick (.integer .badDigit)) := by
  constructor
  · refine ((ofEnvironment_allOrNothing _).2.1 _).2 fun v => ?_
    cases v <;> rfl
  · refine ((ofEnvironment_allOrNothing _).2.2.1 _).2 ⟨[.decadeWidth, .minTick], .maxTick,
      [.outOfRange, .precisionTolerance], .integer .badDigit, rfl, ?_, rfl, rfl⟩
    exact List.forall_mem_cons.2 ⟨⟨9000000, rfl⟩, List.forall_mem_singleton.2 ⟨-900, rfl⟩⟩

end PriceLadder.Settings
