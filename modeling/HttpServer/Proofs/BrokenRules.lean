import HttpServer.Config.Validation

/-!
# What the rules of a configuration ask

The problems of a configuration are the rules that it breaks. `Config.Breaks` says of each rule what
breaks it, in terms of the settings that the rule is about.
-/

namespace HttpServer

def CredentialPaths.path (paths : CredentialPaths) : CredentialSetting → Path
  | .certificate => paths.certificate
  | .key => paths.key

def ConnectionConfig.limit (config : ConnectionConfig) : LimitSetting → Word
  | .readBuffer => config.readBuffer
  | .maximumHead => config.maximumHead
  | .maximumBody => config.maximumBody

variable {problem : ConfigProblem}

/-! ## The rules of one part -/

namespace ListenerConfig

variable {config : ListenerConfig}

theorem mem_sourceProblems_iff :
    problem ∈ config.sourceProblems ↔
      (problem = .noListenerSource ∧ config.inherited = none ∧
          Text.isBlankText config.bindAddress = true) ∨
        ∃ number, problem = .negativeDescriptor number ∧ config.inherited = some number ∧
          number < 0 := by
  unfold sourceProblems
  cases config.inherited with
  | some number =>
      simp only [Option.some.injEq, reduceCtorEq, false_and, and_false, false_or]
      split
      case isTrue negative =>
        constructor
        · intro member
          exact ⟨number, List.mem_singleton.mp member, rfl, negative⟩
        · rintro ⟨_, rfl, rfl, -⟩
          exact List.mem_singleton_self _
      case isFalse natural =>
        constructor
        · intro member
          cases member
        · rintro ⟨_, rfl, rfl, negative⟩
          exact absurd negative natural
  | none =>
      by_cases blank : Text.isBlankText config.bindAddress = true
      · simp [blank]
      · simp [blank]

theorem mem_timeoutProblems_iff :
    problem ∈ config.timeoutProblems ↔
      problem = .zeroAcceptTimeout ∧ config.acceptTimeout = 0 := by
  unfold timeoutProblems
  by_cases zero : config.acceptTimeout = 0
  · simp [zero]
  · simp [zero]

theorem mem_credentialProblems_iff :
    problem ∈ config.credentialProblems ↔
      ∃ setting paths, problem = .emptyCredentialPath setting ∧ config.credentials = some paths ∧
        (paths.path setting).isEmpty = true := by
  unfold credentialProblems
  cases config.credentials with
  | none =>
      simp
  | some paths =>
      simp only [List.mem_append, Option.some.injEq]
      constructor
      · rintro (member | member)
        · split at member
          · exact ⟨.certificate, paths, List.mem_singleton.mp member, rfl, ‹_›⟩
          · cases member
        · split at member
          · exact ⟨.key, paths, List.mem_singleton.mp member, rfl, ‹_›⟩
          · cases member
      · rintro ⟨setting, _, rfl, rfl, empty⟩
        cases setting with
        | certificate =>
            have empty : paths.certificate.isEmpty = true := empty
            simp [empty]
        | key =>
            have empty : paths.key.isEmpty = true := empty
            simp [empty]

end ListenerConfig

theorem ConnectionConfig.mem_limitProblems_iff {config : ConnectionConfig} :
    problem ∈ config.limitProblems ↔
      ∃ setting, problem = .zeroLimit setting ∧ config.limit setting = 0 := by
  simp only [limitProblems, List.mem_filterMap]
  constructor
  · rintro ⟨⟨setting, value⟩, member, broken⟩
    split at broken
    · refine ⟨setting, (Option.some.inj broken).symm, ?_⟩
      simp only [List.mem_cons, Prod.mk.injEq, List.not_mem_nil, or_false] at member
      rcases member with ⟨rfl, rfl⟩ | ⟨rfl, rfl⟩ | ⟨rfl, rfl⟩ <;> assumption
    · cases broken
  · rintro ⟨setting, rfl, zero⟩
    refine ⟨(setting, config.limit setting), ?_, if_pos zero⟩
    cases setting <;> simp [ConnectionConfig.limit]

theorem ObservabilityConfig.mem_metricsProblems_iff {config : ObservabilityConfig} :
    problem ∈ config.metricsProblems ↔
      problem = .badMetricsAddress config.metricsAddress ∧ config.metricsEnabled = true ∧
        SocketAddress.parse? config.metricsAddress = none := by
  unfold metricsProblems
  split
  case isTrue broken =>
    have broken : config.metricsEnabled = true ∧
        SocketAddress.parse? config.metricsAddress = none := by simpa using broken
    simp [broken]
  case isFalse fine =>
    have fine : config.metricsEnabled = true →
        SocketAddress.parse? config.metricsAddress ≠ none := by simpa using fine
    constructor
    · intro member
      cases member
    · rintro ⟨-, enabled, wrong⟩
      exact absurd wrong (fine enabled)

/-! ## All rules -/

namespace Config

variable {config : Config}

/-- Whether a configuration breaks a rule. -/
def Breaks (config : Config) : ConfigProblem → Prop
  | .noListenerSource =>
    config.listener.inherited = none ∧ Text.isBlankText config.listener.bindAddress = true
  | .negativeDescriptor number => config.listener.inherited = some number ∧ number < 0
  | .zeroAcceptTimeout => config.listener.acceptTimeout = 0
  | .emptyCredentialPath setting =>
    ∃ paths, config.listener.credentials = some paths ∧ (paths.path setting).isEmpty = true
  | .zeroLimit setting => config.connection.limit setting = 0
  | .badMetricsAddress address =>
    config.observability.metricsAddress = address ∧ config.observability.metricsEnabled = true ∧
      SocketAddress.parse? address = none

/-- The problems of a configuration are the rules that it breaks. -/
theorem mem_problems_iff : problem ∈ config.problems ↔ config.Breaks problem := by
  simp only [problems, List.mem_append, ListenerConfig.mem_sourceProblems_iff,
    ListenerConfig.mem_timeoutProblems_iff, ListenerConfig.mem_credentialProblems_iff,
    ConnectionConfig.mem_limitProblems_iff, ObservabilityConfig.mem_metricsProblems_iff]
  cases problem with
  | noListenerSource | zeroAcceptTimeout =>
      simp [Breaks]
  | negativeDescriptor number =>
      simp [Breaks]
  | emptyCredentialPath setting =>
      simp [Breaks]
  | zeroLimit setting =>
      simp [Breaks]
  | badMetricsAddress address =>
      simp only [Breaks, reduceCtorEq, false_and, exists_false, or_self, false_or,
        ConfigProblem.badMetricsAddress.injEq]
      constructor
      · rintro ⟨rfl, enabled, wrong⟩
        exact ⟨rfl, enabled, wrong⟩
      · rintro ⟨rfl, enabled, wrong⟩
        exact ⟨rfl, enabled, wrong⟩

end Config

end HttpServer
