import HttpServer.CommandLine

/-!
# What command lines spell

An accepted list of arguments spells options with their values, in order. `Spells` is the grammar of
such lists; `CommandLine.parse_eq_ok_iff` says that a list is accepted exactly if it spells options
that can be given one after the other, are completed by the environment, and go together.
-/

namespace HttpServer

/-! ## Steps that succeed -/

section Success

variable {Value Other Error Worse : Type} {tried : Except Error Value} {value : Value}
  {other : Other}

theorem map_eq_ok_iff {change : Value → Other} :
    tried.map change = .ok other ↔ ∃ value, tried = .ok value ∧ change value = other := by
  cases tried <;> simp [Except.map]

theorem bind_eq_ok_iff {next : Value → Except Error Other} :
    (tried >>= next) = .ok other ↔ ∃ value, tried = .ok value ∧ next value = .ok other := by
  cases tried <;> simp [bind, Except.bind]

theorem mapError_eq_ok_iff {change : Error → Worse} :
    tried.mapError change = .ok value ↔ tried = .ok value := by
  cases tried with
  | error error => exact ⟨nofun, nofun⟩
  | ok other =>
      constructor
      · rintro ⟨⟩
        rfl
      · rintro ⟨⟩
        rfl

theorem eq_ok_of_toOption (found : tried.toOption = some value) : tried = .ok value := by
  cases tried with
  | error error => cases found
  | ok other => exact congrArg Except.ok (Option.some.inj found)

end Success

/-! ## Giving options -/

open CommandLine

def Options.giveAll (options : Options) (given : List (CommandOption × Bytes)) :
    Except CommandLineError Options :=
  given.foldlM (fun options one => options.give one.1 one.2) options

theorem Options.giveAll_cons (options : Options) (first : CommandOption × Bytes)
    (rest : List (CommandOption × Bytes)) :
    options.giveAll (first :: rest) =
      (options.give first.1 first.2 >>= fun options => options.giveAll rest) :=
  List.foldlM_cons

theorem Options.giveAll_append (options : Options) (front rest : List (CommandOption × Bytes)) :
    options.giveAll (front ++ rest) =
      (options.giveAll front >>= fun options => options.giveAll rest) :=
  List.foldlM_append

namespace CommandLine

/-! ## The grammar -/

/-- An argument names an option, perhaps with its value. -/
inductive Names (argument : Bytes) : CommandOption → Option Bytes → Prop
  | long {name : Bytes} {value : Option Bytes} {option : CommandOption}
      (form : formOf argument = .long name value)
      (known : CommandOption.named? name = some option) : Names argument option value
  | short {letter : UInt8} {rest : Bytes} {option : CommandOption}
      (form : formOf argument = .short letter rest)
      (known : CommandOption.lettered? letter = some option) :
      Names argument option (joinedValue? rest)

/-- What arguments spell, where perhaps the value of an option is awaited. -/
inductive Spells : Option CommandOption → List Bytes → List (CommandOption × Bytes) → Prop
  | done : Spells none [] []
  | escape {argument : Bytes} (form : formOf argument = .escape) : Spells none [argument] []
  | joined {argument value : Bytes} {rest : List Bytes} {option : CommandOption}
      {given : List (CommandOption × Bytes)} (names : Names argument option (some value))
      (spells : Spells none rest given) : Spells none (argument :: rest) ((option, value) :: given)
  | apart {argument : Bytes} {rest : List Bytes} {option : CommandOption}
      {given : List (CommandOption × Bytes)} (names : Names argument option none)
      (spells : Spells (some option) rest given) : Spells none (argument :: rest) given
  | value {argument : Bytes} {rest : List Bytes} {option : CommandOption}
      {given : List (CommandOption × Bytes)} (form : formOf argument = .word)
      (spells : Spells none rest given) :
      Spells (some option) (argument :: rest) ((option, argument) :: given)

/-! ## Options and flags -/

theorem name_of_named? {name : Bytes} {option : CommandOption}
    (known : CommandOption.named? name = some option) : Bytes.ascii option.name = name := by
  simpa using List.find?_some known

theorem flag?_of_named? {name : Bytes} {option : CommandOption}
    (known : CommandOption.named? name = some option) : Reading.flag? name = none := by
  rw [← name_of_named? known]
  cases option <;> decide

theorem letterFlag?_of_lettered? {letter : UInt8} {option : CommandOption}
    (known : CommandOption.lettered? letter = some option) : Reading.letterFlag? letter = none := by
  unfold Reading.letterFlag?
  by_cases help : letter = 0x68
  · rw [help] at known
    exact absurd known (by decide +revert)
  · by_cases version : letter = 0x56
    · rw [version] at known
      exact absurd known (by decide +revert)
    · rw [if_neg help, if_neg version]

/-! ## One argument -/

namespace Reading

variable {reading next : Reading} {argument value : Bytes} {option : CommandOption}

/-- The option whose value has to come next. -/
def awaited? (reading : Reading) : Option CommandOption :=
  match reading.pending with
  | some (option, none) => some option
  | _ => none

/-- What is still to be taken into account. -/
def held (reading : Reading) : List (CommandOption × Bytes) :=
  match reading.pending with
  | some (option, some value) => [(option, value)]
  | _ => []

theorem held_of_awaited (awaits : reading.awaited? = some option) : reading.held = [] := by
  unfold awaited? at awaits
  unfold held
  rcases pending : reading.pending with _ | ⟨other, _ | value⟩
  · rfl
  · rfl
  · simp [pending] at awaits

theorem resolve_of_awaited (awaits : reading.awaited? = some option) :
    reading.resolve = .error (.missingValue option) := by
  unfold awaited? at awaits
  unfold resolve
  rcases pending : reading.pending with _ | ⟨other, _ | value⟩
  · simp [pending] at awaits
  · simpa [pending] using awaits
  · simp [pending] at awaits

theorem resolve_of_not_awaited (awaits : reading.awaited? = none) :
    reading.resolve =
      (reading.options.giveAll reading.held).map fun options =>
        { reading with options, pending := none } := by
  unfold awaited? at awaits
  unfold resolve held
  rcases pending : reading.pending with _ | ⟨other, _ | value⟩
  · rcases reading with ⟨options, shown, escaped⟩
    cases pending
    rfl
  · simp [pending] at awaits
  · simp [Options.giveAll]

theorem name_of_awaited (awaits : reading.awaited? = some option) (other : CommandOption)
    (value : Option Bytes) : reading.name other value = .error (.missingValue option) := by
  unfold name
  rw [resolve_of_awaited awaits]
  rfl

theorem name_apart (awaits : reading.awaited? = none) (option : CommandOption) :
    reading.name option none =
      (reading.options.giveAll reading.held).map fun options =>
        { reading with options, pending := some (option, none) } := by
  unfold name
  rw [resolve_of_not_awaited awaits]
  cases reading.options.giveAll reading.held <;> rfl

theorem name_joined (awaits : reading.awaited? = none) (option : CommandOption) (value : Bytes) :
    reading.name option (some value) =
      (reading.options.giveAll (reading.held ++ [(option, value)])).map fun options =>
        { reading with options, pending := none } := by
  unfold name
  rw [resolve_of_not_awaited awaits, Options.giveAll_append]
  cases reading.options.giveAll reading.held with
  | error error => rfl
  | ok options =>
      change (options.give option value).map _ = Except.map _ (options.giveAll [(option, value)])
      rw [Options.giveAll_cons]
      cases options.give option value <;> rfl

theorem step_of_names (free : reading.escaped = false) {named : Option Bytes}
    (names : Names argument option named) :
    reading.step argument = (reading.name option named).mapError .refused := by
  unfold step
  rw [if_neg (by simp [free])]
  cases names with
  | long form known =>
      rw [form]
      simp only [long, flag?_of_named? known, known]
  | short form known =>
      rw [form]
      simp only [short, letterFlag?_of_lettered? known, known]

theorem flag_ne_ok (exit : CommandLineExit) : reading.flag exit ≠ .ok next := by
  unfold flag
  cases reading.resolve <;> simp

/-- An argument that names no option can only end the options or be a value. -/
theorem step_of_not_names (free : reading.escaped = false)
    (nameless : ∀ option named, ¬ Names argument option named)
    (step : reading.step argument = .ok next) :
    formOf argument = .escape ∧ next = { reading with escaped := true } ∨
      formOf argument = .word ∧ reading.word argument = .ok next := by
  unfold Reading.step at step
  rw [if_neg (by simp [free])] at step
  cases form : formOf argument with
  | escape =>
      rw [form] at step
      exact .inl ⟨rfl, (Except.ok.inj step).symm⟩
  | word =>
      rw [form] at step
      exact .inr ⟨rfl, mapError_eq_ok_iff.mp step⟩
  | long name value =>
      rw [form] at step
      cases known : CommandOption.named? name with
      | some option => exact absurd (.long form known) (nameless option value)
      | none =>
          simp only [long, known] at step
          rcases flagged : flag? name with _ | ⟨shown, exit⟩
          · simp [flagged] at step
          · cases value with
            | some value => simp [flagged] at step
            | none =>
                simp only [flagged] at step
                exact absurd step (flag_ne_ok exit)
  | short letter rest =>
      rw [form] at step
      cases known : CommandOption.lettered? letter with
      | some option => exact absurd (.short form known) (nameless option _)
      | none =>
          simp only [short, known] at step
          cases flagged : letterFlag? letter with
          | none => simp [flagged] at step
          | some exit =>
              simp only [flagged] at step
              exact absurd step (flag_ne_ok exit)

theorem word_eq_ok_iff (free : reading.escaped = false) :
    reading.word argument = .ok next ↔
      ∃ option, reading.awaited? = some option ∧
        next = { reading with pending := some (option, some argument) } := by
  unfold word awaited?
  rcases reading.pending with _ | ⟨option, _ | value⟩
  · simp
  · simp [free, eq_comm]
  · simp

/-- How an argument is read that can be there. -/
inductive Takes (reading : Reading) (argument : Bytes) : Reading → Prop
  | escape (form : formOf argument = .escape) :
      Takes reading argument { reading with escaped := true }
  | joined {value : Bytes} {option : CommandOption} {options : Options}
      (names : Names argument option (some value)) (awaits : reading.awaited? = none)
      (given : reading.options.giveAll (reading.held ++ [(option, value)]) = .ok options) :
      Takes reading argument { reading with options, pending := none }
  | apart {option : CommandOption} {options : Options}
      (names : Names argument option none) (awaits : reading.awaited? = none)
      (given : reading.options.giveAll reading.held = .ok options) :
      Takes reading argument { reading with options, pending := some (option, none) }
  | value {option : CommandOption} (form : formOf argument = .word)
      (awaits : reading.awaited? = some option) :
      Takes reading argument { reading with pending := some (option, some argument) }

theorem takes_of_step (free : reading.escaped = false)
    (step : reading.step argument = .ok next) : reading.Takes argument next := by
  by_cases nameless : ∀ option named, ¬ Names argument option named
  · rcases step_of_not_names free nameless step with ⟨form, rfl⟩ | ⟨form, word⟩
    · exact .escape form
    · obtain ⟨option, awaits, rfl⟩ := (word_eq_ok_iff free).mp word
      exact .value form awaits
  · obtain ⟨option, nameless⟩ := Classical.not_forall.mp nameless
    obtain ⟨named, names⟩ := Classical.not_forall_not.mp nameless
    rw [step_of_names free names, mapError_eq_ok_iff] at step
    cases awaits : reading.awaited? with
    | some other =>
        rw [name_of_awaited awaits] at step
        cases step
    | none =>
        cases named with
        | none =>
            rw [name_apart awaits, map_eq_ok_iff] at step
            obtain ⟨options, given, rfl⟩ := step
            exact .apart names awaits given
        | some value =>
            rw [name_joined awaits, map_eq_ok_iff] at step
            obtain ⟨options, given, rfl⟩ := step
            exact .joined names awaits given

theorem step_of_takes (free : reading.escaped = false) (takes : reading.Takes argument next) :
    reading.step argument = .ok next := by
  cases takes with
  | escape form =>
      unfold step
      rw [if_neg (by simp [free]), form]
  | joined names awaits given =>
      rw [step_of_names free names, name_joined awaits, given]
      rfl
  | apart names awaits given =>
      rw [step_of_names free names, name_apart awaits, given]
      rfl
  | value form awaits =>
      unfold step
      rw [if_neg (by simp [free]), form, mapError_eq_ok_iff, word_eq_ok_iff free]
      exact ⟨_, awaits, rfl⟩

theorem step_of_escaped (escaped : reading.escaped = true) : reading.step argument ≠ .ok next := by
  intro step
  rw [Reading.step, if_pos escaped, mapError_eq_ok_iff, word] at step
  rcases pending : reading.pending with _ | ⟨option, _ | value⟩
  · simp [pending] at step
  · simp [pending, escaped] at step
  · simp [pending] at step

/-! ## All arguments -/

def readAll (reading : Reading) (arguments : List Bytes) : Except CommandLineExit Options :=
  arguments.foldlM step reading >>= fun reading =>
    (reading.resolve.map Reading.options).mapError .refused

theorem readAll_nil_eq_ok_iff {options : Options} :
    reading.readAll [] = .ok options ↔
      reading.awaited? = none ∧ reading.options.giveAll reading.held = .ok options := by
  change (reading.resolve.map Reading.options).mapError _ = _ ↔ _
  rw [mapError_eq_ok_iff]
  cases awaits : reading.awaited? with
  | some option =>
      rw [resolve_of_awaited awaits]
      simp [Except.map]
  | none =>
      rw [resolve_of_not_awaited awaits]
      cases reading.options.giveAll reading.held <;> simp [Except.map]

theorem readAll_cons_eq_ok_iff {rest : List Bytes} {options : Options} :
    reading.readAll (argument :: rest) = .ok options ↔
      ∃ next, reading.step argument = .ok next ∧ next.readAll rest = .ok options := by
  unfold readAll
  rw [List.foldlM_cons]
  cases reading.step argument <;> simp [Except.bind, bind]

theorem readAll_of_escaped {arguments : List Bytes} {options : Options}
    (escaped : reading.escaped = true) (read : reading.readAll arguments = .ok options) :
    arguments = [] := by
  cases arguments with
  | nil => rfl
  | cons argument rest =>
      obtain ⟨next, step, _⟩ := readAll_cons_eq_ok_iff.mp read
      exact absurd step (step_of_escaped escaped)

theorem exists_spells_of_readAll {arguments : List Bytes} {options : Options}
    (free : reading.escaped = false) (read : reading.readAll arguments = .ok options) :
    ∃ given, Spells reading.awaited? arguments given ∧
      reading.options.giveAll (reading.held ++ given) = .ok options := by
  induction arguments generalizing reading with
  | nil =>
      obtain ⟨awaits, given⟩ := readAll_nil_eq_ok_iff.mp read
      rw [awaits]
      exact ⟨[], .done, by simpa using given⟩
  | cons argument rest inductionHypothesis =>
      obtain ⟨next, step, later⟩ := readAll_cons_eq_ok_iff.mp read
      cases takes_of_step free step with
      | escape form =>
          obtain rfl := readAll_of_escaped (by rfl) later
          obtain ⟨awaits, given⟩ := readAll_nil_eq_ok_iff.mp later
          have awaits : reading.awaited? = none := awaits
          have given : reading.options.giveAll reading.held = .ok options := given
          rw [awaits]
          exact ⟨[], .escape form, by simpa using given⟩
      | @joined value option _ names awaits taken =>
          obtain ⟨given, spells, all⟩ := inductionHypothesis (by exact free) later
          rw [awaits]
          refine ⟨(option, value) :: given, .joined names spells, ?_⟩
          rw [List.append_cons, Options.giveAll_append, taken]
          exact all
      | apart names awaits taken =>
          obtain ⟨given, spells, all⟩ := inductionHypothesis (by exact free) later
          rw [awaits]
          refine ⟨given, .apart names spells, ?_⟩
          rw [Options.giveAll_append, taken]
          exact all
      | @value option form awaits =>
          obtain ⟨given, spells, all⟩ := inductionHypothesis (by exact free) later
          rw [awaits, held_of_awaited awaits]
          exact ⟨(option, argument) :: given, .value form spells, all⟩

theorem readAll_of_spells {arguments : List Bytes} {options : Options}
    {given : List (CommandOption × Bytes)} (free : reading.escaped = false)
    (spells : Spells reading.awaited? arguments given)
    (all : reading.options.giveAll (reading.held ++ given) = .ok options) :
    reading.readAll arguments = .ok options := by
  generalize awaits : reading.awaited? = awaited at spells
  induction spells generalizing reading with
  | done =>
      exact readAll_nil_eq_ok_iff.mpr ⟨awaits, by simpa using all⟩
  | escape form =>
      refine readAll_cons_eq_ok_iff.mpr ⟨_, step_of_takes free (.escape form), ?_⟩
      rw [List.append_nil] at all
      exact readAll_nil_eq_ok_iff.mpr ⟨awaits, all⟩
  | joined names spells inductionHypothesis =>
      rw [List.append_cons, Options.giveAll_append] at all
      obtain ⟨taken, given, all⟩ := bind_eq_ok_iff.mp all
      refine readAll_cons_eq_ok_iff.mpr ⟨_, step_of_takes free (.joined names awaits given), ?_⟩
      exact inductionHypothesis (by exact free) all rfl
  | apart names spells inductionHypothesis =>
      rw [Options.giveAll_append] at all
      obtain ⟨taken, given, all⟩ := bind_eq_ok_iff.mp all
      refine readAll_cons_eq_ok_iff.mpr ⟨_, step_of_takes free (.apart names awaits given), ?_⟩
      exact inductionHypothesis (by exact free) all rfl
  | value form spells inductionHypothesis =>
      rw [held_of_awaited awaits] at all
      refine readAll_cons_eq_ok_iff.mpr ⟨_, step_of_takes free (.value form awaits), ?_⟩
      exact inductionHypothesis (by exact free) all rfl

end Reading

/-! ## Accepted command lines -/

/-- A command line is accepted exactly if it spells options that can be given one after the other,
that the environment can complete, and that go together. -/
theorem parse_eq_ok_iff {environment : Environment} {arguments : List Bytes} {options : Options} :
    parse environment arguments = .ok options ↔
      ∃ given stated completed, Spells none arguments given ∧
        ({} : Options).giveAll given = .ok stated ∧
        CommandOption.all.foldlM (giveFrom environment) stated = .ok completed ∧
        complete completed = .ok options := by
  have parts : parse environment arguments = .ok options ↔
      ∃ stated completed, ({} : Reading).readAll arguments = .ok stated ∧
        CommandOption.all.foldlM (giveFrom environment) stated = .ok completed ∧
        complete completed = .ok options := by
    unfold parse Reading.readAll finish
    simp only [bind_eq_ok_iff, mapError_eq_ok_iff, map_eq_ok_iff]
    constructor
    · rintro ⟨reading, read, resolved, resolves, completed, completes, last⟩
      exact ⟨_, completed, ⟨reading, read, resolved, resolves, rfl⟩, completes, last⟩
    · rintro ⟨_, completed, ⟨reading, read, resolved, resolves, rfl⟩, completes, last⟩
      exact ⟨reading, read, resolved, resolves, completed, completes, last⟩
  rw [parts]
  constructor
  · rintro ⟨stated, completed, read, rest⟩
    obtain ⟨given, spells, all⟩ := Reading.exists_spells_of_readAll rfl read
    exact ⟨given, stated, completed, spells, all, rest⟩
  · rintro ⟨given, stated, completed, spells, all, rest⟩
    exact ⟨stated, completed, Reading.readAll_of_spells rfl spells all, rest⟩

end CommandLine

end HttpServer
