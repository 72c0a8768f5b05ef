import SecureHeaders.Cli.Serve
import SecureHeaders.Proofs.CheckedConfig
/-!
After the check of a configuration nothing is left to fail in it: the translation to a declaration
stops exactly where the check finds an invalid header, and the address of the metrics endpoint is
read by the reader that the check has used.
-/

namespace SecureHeaders

open Config (Content Fault)

namespace Config

theorem invalidHeader_mem_faults {c : Config} {i : Nat} {e : HeaderError} :
    Fault.invalidHeader i e ∈ c.faults ↔ InvalidAt c.headers.custom i e := by
  rw [← invalidHeader_mem_customFaults, faults, List.mem_append]
  constructor
  · rintro (early | late)
    · simp only [addressFaults, timeoutFaults] at early
      split at early <;> split at early <;> split at early <;> simp at early
    · exact late
  · exact Or.inr

end Config

namespace Cli

open Net (SocketAddress)

/-- All that opening the metrics endpoint can come to. -/
theorem startMetrics_cases (host : Host) (c : Config.Observability) :
    startMetrics host c = ([], .ok []) ∨
    (c.metricsEnabled = true ∧ SocketAddress.parse? c.metricsAddress = none ∧
      startMetrics host c = ([], .error (.metricsAddress c.metricsAddress))) ∨
    (∃ refusal, startMetrics host c = ([], .error (.metrics refusal))) ∨
    ∃ address, startMetrics host c = ([metricsListening address], .ok [address]) := by
  unfold startMetrics
  split
  · rename_i wanted
    split
    · rename_i unread
      exact Or.inr (Or.inl ⟨wanted, unread, rfl⟩)
    · rename_i address read
      split
      · rename_i refusal _
        exact Or.inr (Or.inr (Or.inl ⟨refusal, rfl⟩))
      · exact Or.inr (Or.inr (Or.inr ⟨address, rfl⟩))
  · exact Or.inl rfl

/-- All that taking the address of the listener can come to. -/
theorem startListener_cases (host : Host) (taken : List SocketAddress) (c : Config)
    (chain : Chain) :
    startListener host taken c chain = ([], .error .bindAddress) ∨
    (∃ refusal, startListener host taken c chain = ([], .error (.bind refusal))) ∨
    ∃ address, startListener host taken c chain = ([starting address chain.size], .ok ()) := by
  unfold startListener
  split
  · exact Or.inl rfl
  · rename_i address read
    split
    · rename_i refusal _
      exact Or.inr (Or.inl ⟨refusal, rfl⟩)
    · exact Or.inr (Or.inr ⟨address, rfl⟩)

theorem startMetrics_ne_metricsAddress {c : Config.Observability}
    (known : c.metricsEnabled = true → Config.isSocketAddress c.metricsAddress = true)
    (host : Host) (given : String) :
    (startMetrics host c).2 ≠ .error (.metricsAddress given) := by
  rcases startMetrics_cases host c with
    off | ⟨wanted, unread, -⟩ | ⟨refusal, failed⟩ | ⟨address, opened⟩
  · simp [off]
  · have read := known wanted
    rw [Config.isSocketAddress, unread] at read
    cases read
  · simp [failed]
  · simp [opened]

theorem startListener_ne_metricsAddress (host : Host) (taken : List SocketAddress) (c : Config)
    (chain : Chain) (given : String) :
    (startListener host taken c chain).2 ≠ .error (.metricsAddress given) := by
  rcases startListener_cases host taken c chain with unread | ⟨refusal, failed⟩ | ⟨address, up⟩
  · simp [unread]
  · simp [failed]
  · simp [up]

/-- The address that the metrics endpoint reads has been read before, by the check. -/
theorem startServer_ne_metricsAddress (host : Host) (c : Config) (given : String) :
    (startServer host c).2 ≠ .error (.metricsAddress given) := by
  unfold startServer
  split
  · simp
  · rename_i server made
    have sound := Http.Server.faults_of_ofConfig made
    have metrics := startMetrics_ne_metricsAddress (Config.isSocketAddress_metrics sound) host given
    dsimp only
    split
    · rename_i failed
      rw [failed] at metrics
      simpa using metrics
    · exact startListener_ne_metricsAddress host _ c server.chain given

theorem listHeaders_of_readConfig {source : Option Content} {c : Config}
    (read : readConfig source = .ok c) {d : Declaration} (declared : c.headers.declare = .ok d) :
    listHeaders source = .ok d.build.headers := by
  simp only [listHeaders, read, bind, Except.bind, declared]

theorem check_of_readConfig {source : Option Content} {c : Config}
    (read : readConfig source = .ok c) {d : Declaration} (declared : c.headers.declare = .ok d)
    (json : Bool) : check source json = { exit := 0, stdout := listing json d.build.headers } := by
  rw [check, listHeaders_of_readConfig read declared]

theorem listHeaders_of_load {content : Content} {c : Config}
    (loaded : Config.load content = .ok c) {d : Declaration}
    (declared : c.headers.declare = .ok d) :
    listHeaders (some content) = .ok d.build.headers := by
  have read : readConfig (some content) = .ok c := loaded
  exact listHeaders_of_readConfig read declared

end Cli

/-- Nothing fails in the configuration that its check has not reported. -/
structure Config.FaultsComeEarly (c : Config) : Prop where
  fails : (∃ e, c.headers.declare = .error e) ↔ ∃ i e, Fault.invalidHeader i e ∈ c.faults
  lowest : ∀ e, c.headers.declare = .error e ↔
    ∃ i, Fault.invalidHeader i e ∈ c.faults ∧
      ∀ j e', Fault.invalidHeader j e' ∈ c.faults → i ≤ j
  header : ∀ e, Http.Server.ofConfig c ≠ .error (.header e)
  refused : (∃ e, Http.Server.ofConfig c = .error e) ↔ c.faults ≠ []
  metrics : ∀ host given, (Cli.startServer host c).2 ≠ .error (.metricsAddress given)
  listed : ∀ content, Config.load content = .ok c →
    ∃ d, c.headers.declare = .ok d ∧ Cli.listHeaders (some content) = .ok d.build.headers

/-- Reading the custom headers fails where the check reports an invalid header, with the fault of
the lowest one, whatever the switches say. So a server is refused for reported faults alone, no
start fails for the metrics address, and the headers of a loaded configuration can be listed. -/
theorem late_faults_unreachable (c : Config) : c.FaultsComeEarly := by
  have lowest : ∀ e, c.headers.declare = .error e ↔
      ∃ i, Fault.invalidHeader i e ∈ c.faults ∧
        ∀ j e', Fault.invalidHeader j e' ∈ c.faults → i ≤ j := by
    intro e
    simp only [Config.invalidHeader_mem_faults, Config.Headers.declare_eq_error_iff]
    exact Config.readCustomHeaders_eq_error_iff
  refine ⟨?fails, lowest, ?header, ?refused, ?metrics, ?listed⟩
  case fails =>
    constructor
    · rintro ⟨e, failed⟩
      obtain ⟨i, reported, -⟩ := (lowest e).1 failed
      exact ⟨i, e, reported⟩
    · rintro ⟨i, e, reported⟩
      obtain ⟨first, failed⟩ := (Config.invalidHeader_mem_faults.1 reported).exists_error
      exact ⟨first, Config.Headers.declare_eq_error_iff.2 failed⟩
  case header =>
    intro e made
    have checked := (Http.Server.ofConfig_eq_error_iff.1 made).2
    cases checked
  case refused =>
    simp only [Http.Server.ofConfig_eq_error_iff]
    constructor
    · rintro ⟨_, faulty, -⟩
      exact faulty
    · intro faulty
      exact ⟨_, faulty, rfl⟩
  case metrics =>
    intro host given
    exact Cli.startServer_ne_metricsAddress host c given
  case listed =>
    intro content loaded
    obtain ⟨fixed, checked⟩ := Config.checked_of_faults_eq_nil (Config.faults_of_load loaded)
    have declared := Config.Headers.declare_of_read checked.read
    exact ⟨_, declared, Cli.listHeaders_of_load loaded declared⟩

end SecureHeaders
