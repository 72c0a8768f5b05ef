import SecureHeaders.Http.Server
import SecureHeaders.Proofs.CustomFaults
/-!
What a check without faults has settled: the custom headers can be read, none has a managed name
and no two share a name. A server is made of exactly these configurations, and its chain is that of
the declaration of their headers section.
-/

namespace SecureHeaders

open Config (readCustomHeaders)

namespace Config

/-- The configuration with other custom headers, or the same ones in another order. -/
def withCustom (c : Config) (custom : List CustomHeader) : Config :=
  { c with headers := { c.headers with custom } }

theorem faults_withCustom (c : Config) (custom : List CustomHeader) :
    (c.withCustom custom).faults =
      addressFaults c ++ timeoutFaults c ++ customFaults 0 [] custom := rfl

/-- The declaration of a headers section whose custom headers have been read. -/
def Headers.declaration (c : Headers) (fixed : List Header) : Declaration :=
  { disabled := !c.enabled, embedder := c.embedder.slot, referrer := c.referrer.slot, fixed }

theorem Headers.declare_of_read {c : Headers} {fixed : List Header}
    (read : readCustomHeaders c.custom = .ok fixed) : c.declare = .ok (c.declaration fixed) := by
  rw [declare, read]
  rfl

theorem Headers.declare_eq_error_iff {c : Headers} {e : HeaderError} :
    c.declare = .error e ↔ readCustomHeaders c.custom = .error e := by
  cases read : readCustomHeaders c.custom with
  | error source =>
      rw [declare, read]
      simp [bind, Except.bind]
  | ok fixed =>
      rw [declare_of_read read]
      simp

/-- The custom headers of a section, read, with names of their own. -/
structure Headers.Checked (c : Headers) (fixed : List Header) : Prop where
  read : readCustomHeaders c.custom = .ok fixed
  unmanaged : ∀ h ∈ fixed, h.name ∉ managedNames
  distinct : (fixed.map Header.name).Nodup

theorem checked_of_faults_eq_nil {c : Config} (sound : c.faults = []) :
    ∃ fixed, c.headers.Checked fixed := by
  have custom := (List.append_eq_nil_iff.1 sound).2
  obtain ⟨fixed, read, apart, distinct⟩ := customFaults_eq_nil_iff.1 custom
  exact ⟨fixed, read, fun h member => (apart h member).1, distinct⟩

theorem isSocketAddress_metrics {c : Config} (sound : c.faults = [])
    (wanted : c.observability.metricsEnabled = true) :
    isSocketAddress c.observability.metricsAddress = true := by
  have early := (List.append_eq_nil_iff.1 sound).1
  have addresses := (List.append_eq_nil_iff.1 early).1
  have metrics := (List.append_eq_nil_iff.1 addresses).2
  rw [wanted, Bool.true_and] at metrics
  cases known : isSocketAddress c.observability.metricsAddress with
  | true => rfl
  | false =>
      rw [known] at metrics
      cases metrics

theorem accept_of_faults_eq_nil {c : Config} (sound : c.faults = []) : accept c = .ok c := by
  unfold accept
  split
  · rfl
  · rename_i faulty
    exact absurd sound faulty

theorem accept_of_faults_ne_nil {c : Config} (faulty : c.faults ≠ []) :
    accept c = .error (.invalid c.faults) := by
  unfold accept
  split
  · rename_i sound
    exact absurd sound faulty
  · rfl

theorem accept_eq_ok_iff {c c' : Config} : accept c = .ok c' ↔ c = c' ∧ c.faults = [] := by
  by_cases sound : c.faults = []
  · rw [accept_of_faults_eq_nil sound, Except.ok.injEq]
    exact (and_iff_left sound).symm
  · rw [accept_of_faults_ne_nil sound]
    simp [sound]

theorem faults_of_load {content : Content} {c : Config} (loaded : load content = .ok c) :
    c.faults = [] := by
  unfold load at loaded
  split at loaded
  · cases loaded
  · unfold parse at loaded
    split at loaded
    · cases loaded
    · split at loaded
      · cases loaded
      · obtain ⟨rfl, sound⟩ := accept_eq_ok_iff.1 loaded
        exact sound

end Config

namespace Http.Server

theorem ofConfig_of_faults_eq_nil {c : Config} (sound : c.faults = []) :
    ∃ fixed, c.headers.Checked fixed ∧
      ofConfig c = .ok (withDeclaration c (c.headers.declaration fixed)) := by
  obtain ⟨fixed, checked⟩ := Config.checked_of_faults_eq_nil sound
  refine ⟨fixed, checked, ?_⟩
  rw [ofConfig, Config.accept_of_faults_eq_nil sound]
  simp only [bind, Except.bind, Config.Headers.declare_of_read checked.read]

theorem ofConfig_of_faults_ne_nil {c : Config} (faulty : c.faults ≠ []) :
    ofConfig c = .error (.invalid c.faults) := by
  rw [ofConfig, Config.accept_of_faults_ne_nil faulty]
  rfl

/-- The check is the only thing that refuses a server. -/
theorem ofConfig_eq_error_iff {c : Config} {e : Config.LoadError} :
    ofConfig c = .error e ↔ c.faults ≠ [] ∧ e = .invalid c.faults := by
  by_cases sound : c.faults = []
  · obtain ⟨fixed, -, made⟩ := ofConfig_of_faults_eq_nil sound
    rw [made]
    simp [sound]
  · rw [ofConfig_of_faults_ne_nil sound, Except.error.injEq, eq_comm]
    exact (and_iff_right sound).symm

theorem faults_of_ofConfig {c : Config} {s : Server} (made : ofConfig c = .ok s) :
    c.faults = [] := by
  apply Decidable.byContradiction
  intro faulty
  rw [ofConfig_of_faults_ne_nil faulty] at made
  cases made

end Http.Server
end SecureHeaders
