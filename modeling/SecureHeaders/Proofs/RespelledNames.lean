import Mathlib.Data.List.Forall2
import SecureHeaders.Proofs.RepairedConfig
/-!
Custom header names in another case. The check finds the same faults in the same places, but that
it quotes a name that is no token as it is written; the translation stops at the same header or
declares the same headers, and servers of both configurations answer every request alike.
-/

namespace SecureHeaders

open Header (Name)

namespace Header

/-- Texts that differ in the case of ASCII letters at most. -/
def SameLetters (a b : String) : Prop :=
  List.Forall₂ (fun x y : Char => x.toLower = y.toLower) a.toList b.toList

theorem sameLetters_iff {a b : String} :
    SameLetters a b ↔ a.toList.map Char.toLower = b.toList.map Char.toLower := by
  rw [← List.forall₂_eq_eq_eq, List.forall₂_map_left_iff, List.forall₂_map_right_iff]
  rfl

instance (a b : String) : Decidable (SameLetters a b) := decidable_of_iff _ sameLetters_iff.symm

theorem SameLetters.lower_eq {a b : String} (same : SameLetters a b) : lower a = lower b := by
  rw [lower, lower, sameLetters_iff.1 same]

/-- What holds of a letter in either case holds throughout a text in any case. -/
theorem SameLetters.all_eq {a b : String} (same : SameLetters a b) {p : Char → Bool}
    (caseless : ∀ c : Char, p c.toLower = p c) : a.toList.all p = b.toList.all p := by
  have lowered : ∀ s : List Char, (s.map Char.toLower).all p = s.all p := by
    intro s
    rw [List.all_map]
    exact congrArg s.all (funext caseless)
  rw [← lowered, sameLetters_iff.1 same, lowered]

theorem caseless_of_ascii {p : Char → Bool}
    (ascii : ∀ n < 128, p (Char.ofNat n).toLower = p (Char.ofNat n)) (c : Char) :
    p c.toLower = p c := by
  by_cases small : c.toNat < 128
  · exact of_ascii (P := fun c => p c.toLower = p c) ascii small
  · have capital : c.isUpper = false := by
      apply decide_eq_false
      rintro ⟨-, below⟩
      have bound : c.toNat ≤ 90 := UInt32.le_iff_toNat_le.1 below
      omega
    rw [toLower_of_isUpper_eq_false capital]

theorem SameLetters.isAllBlank_eq {a b : String} (same : SameLetters a b) :
    Text.isAllBlank a = Text.isAllBlank b :=
  same.all_eq (caseless_of_ascii (by decide))

theorem SameLetters.isToken_iff {a b : String} (same : SameLetters a b) :
    IsToken a ↔ IsToken b := by
  have length : a.toList.length = b.toList.length := List.Forall₂.length_eq same
  have chars : a.toList.all isTokenChar = b.toList.all isTokenChar :=
    same.all_eq (caseless_of_ascii (by decide))
  unfold IsToken
  rw [← List.length_pos_iff, ← List.length_pos_iff, length, chars]

theorem SameLetters.nameOfText?_eq {a b : String} (same : SameLetters a b) :
    Name.ofText? a = Name.ofText? b := by
  ext n
  rw [Name.ofText?_eq_some_iff, Name.ofText?_eq_some_iff, same.isToken_iff, same.lower_eq]

end Header

/-- The fault, where it quotes the name as written, quoting another one. -/
def HeaderError.quoting (name : String) : HeaderError → HeaderError
  | .invalidName _ => .invalidName name
  | e => e

/-- A header is read alike from its name in any case. -/
theorem Header.SameLetters.ofText_eq {a b : String} (same : SameLetters a b)
    (values : List String) :
    ofText a values = (ofText b values).mapError (HeaderError.quoting a) := by
  unfold ofText
  rw [same.isAllBlank_eq, same.nameOfText?_eq]
  split
  · rfl
  · split
    · rfl
    · split <;> rfl

namespace Config

/-- The same custom header, its name in another case perhaps. -/
structure CustomHeader.Respells (a b : CustomHeader) : Prop where
  name : Header.SameLetters a.name b.name
  values : a.values = b.values

theorem CustomHeader.Respells.header_eq {a b : CustomHeader} (alike : a.Respells b) :
    a.header = b.header.mapError (HeaderError.quoting a.name) := by
  rw [header, header, alike.values, alike.name.ofText_eq]

theorem CustomHeader.Respells.header_eq_ok_iff {a b : CustomHeader} (alike : a.Respells b)
    {h : Header} : a.header = .ok h ↔ b.header = .ok h := by
  rw [alike.header_eq]
  cases b.header <;> simp [Except.mapError]

/-- The fault, where it quotes the name of an invalid header, quoting it as in this list. -/
def Fault.quoting (l : List CustomHeader) : Fault → Fault
  | .invalidHeader i e => .invalidHeader i ((l[i]?.map fun c => e.quoting c.name).getD e)
  | f => f

theorem Fault.quoting_of_index?_eq_none (l : List CustomHeader) {f : Fault}
    (early : f.index? = none) : f.quoting l = f := by
  cases f with
  | invalidHeader i e => cases early
  | _ => rfl

theorem getElem?_of_respells {a b : List CustomHeader}
    (alike : List.Forall₂ CustomHeader.Respells a b) (i : Nat) :
    (a[i]? = none ∧ b[i]? = none) ∨
      ∃ x y, a[i]? = some x ∧ b[i]? = some y ∧ x.Respells y := by
  induction alike generalizing i with
  | nil => exact Or.inl ⟨rfl, rfl⟩
  | cons first rest ih =>
      cases i with
      | zero => exact Or.inr ⟨_, _, rfl, rfl, first⟩
      | succ i => exact ih i

theorem headerNames_of_respells {a b : List CustomHeader}
    (alike : List.Forall₂ CustomHeader.Respells a b) : headerNames a = headerNames b := by
  induction alike with
  | nil => rfl
  | @cons x y a b first rest ih =>
      have name : x.header.toOption.map Header.name = y.header.toOption.map Header.name := by
        rw [first.header_eq]
        cases y.header <;> rfl
      unfold headerNames at ih ⊢
      rw [List.filterMap_cons, List.filterMap_cons, name, ih]

/-- A position has the same fault under either spelling, but for a name that the fault quotes. -/
theorem faultAt_of_respells {a b : List CustomHeader}
    (alike : List.Forall₂ CustomHeader.Respells a b) (i : Nat) :
    faultAt a i = (faultAt b i).map (Fault.quoting a) := by
  -- What stands before the position matters through its names alone, and these are in lower case.
  have before := headerNames_of_respells (List.forall₂_take i alike)
  rcases getElem?_of_respells alike i with ⟨x, y⟩ | ⟨x, y, here, there, same⟩
  · simp only [faultAt, x, y, Option.bind_none, Option.map_none]
  · simp only [faultAt, here, there, Option.bind_some, faultBehind, before, same.header_eq]
    cases y.header with
    | error e => simp [Except.mapError, Fault.quoting, here]
    | ok h =>
        simp only [Except.mapError]
        split
        · rfl
        · split <;> rfl

theorem customFaults_of_respells {a b : List CustomHeader}
    (alike : List.Forall₂ CustomHeader.Respells a b) :
    customFaults 0 [] a = (customFaults 0 [] b).map (Fault.quoting a) := by
  rw [customFaults_eq, customFaults_eq, List.map_filterMap, alike.length_eq]
  exact congrFun (congrArg _ (funext (faultAt_of_respells alike))) _

theorem faults_of_respells (c : Config) {custom : List CustomHeader}
    (alike : List.Forall₂ CustomHeader.Respells custom c.headers.custom) :
    (c.withCustom custom).faults = c.faults.map (Fault.quoting custom) := by
  have early : (addressFaults c ++ timeoutFaults c).map (Fault.quoting custom) =
      addressFaults c ++ timeoutFaults c := by
    conv => rhs; rw [← List.map_id (addressFaults c ++ timeoutFaults c)]
    apply List.map_congr_left
    intro f member
    exact Fault.quoting_of_index?_eq_none custom (index?_of_early member)
  rw [faults_withCustom, faults, List.map_append, early, customFaults_of_respells alike]

/-- The translation of custom headers ends at a position, with the fault of the header there. -/
def StopsAt (l : List CustomHeader) (i : Nat) (e : HeaderError) : Prop :=
  InvalidAt l i e ∧ ∀ j e', InvalidAt l j e' → i ≤ j

theorem readCustomHeaders_eq_error_iff_stopsAt {l : List CustomHeader} {e : HeaderError} :
    readCustomHeaders l = .error e ↔ ∃ i, StopsAt l i e :=
  readCustomHeaders_eq_error_iff

theorem readCustomHeaders_of_respells {a b : List CustomHeader}
    (alike : List.Forall₂ CustomHeader.Respells a b) {hs : List Header} :
    readCustomHeaders a = .ok hs ↔ readCustomHeaders b = .ok hs := by
  rw [readCustomHeaders_eq_ok_iff, readCustomHeaders_eq_ok_iff]
  induction alike generalizing hs with
  | nil => exact Iff.rfl
  | cons first rest ih =>
      cases hs with
      | nil => simp
      | cons h hs =>
          simp only [List.map_cons, List.cons.injEq, ih, first.header_eq_ok_iff]

theorem invalidAt_of_respells {a b : List CustomHeader}
    (alike : List.Forall₂ CustomHeader.Respells a b) {i : Nat} {e : HeaderError} :
    InvalidAt a i e ↔ ∃ x e', a[i]? = some x ∧ InvalidAt b i e' ∧ e = e'.quoting x.name := by
  rcases getElem?_of_respells alike i with ⟨x, y⟩ | ⟨x, y, here, there, same⟩
  · simp [InvalidAt, x]
  · simp only [InvalidAt, here, there, Option.some.injEq, exists_eq_left', same.header_eq]
    cases y.header <;> simp [Except.mapError, eq_comm]

theorem StopsAt.of_respells {a b : List CustomHeader}
    (alike : List.Forall₂ CustomHeader.Respells a b) {i : Nat} {e : HeaderError}
    (stops : StopsAt b i e) : ∃ x, a[i]? = some x ∧ StopsAt a i (e.quoting x.name) := by
  obtain ⟨⟨y, there, invalid⟩, least⟩ := stops
  rcases getElem?_of_respells alike i with ⟨-, none⟩ | ⟨x, y', here, -, -⟩
  · cases there.symm.trans none
  · -- The invalid positions of both lists are the same, and so is the lowest of them.
    refine ⟨x, here, ?_, ?_⟩
    · exact (invalidAt_of_respells alike).2 ⟨x, e, here, ⟨y, there, invalid⟩, rfl⟩
    · intro j e' found
      obtain ⟨-, source, -, original, -⟩ := (invalidAt_of_respells alike).1 found
      exact least j source original

/-- What the translations of two headers sections with one spelling each come to. -/
inductive DeclareAlike (a b : Headers) : Prop
  | built {d d' : Declaration} : a.declare = .ok d → b.declare = .ok d' → d.build = d'.build →
      DeclareAlike a b
  | stopped {i : Nat} {x : CustomHeader} {e : HeaderError} : a.custom[i]? = some x →
      StopsAt a.custom i (e.quoting x.name) → StopsAt b.custom i e →
      a.declare = .error (e.quoting x.name) → b.declare = .error e → DeclareAlike a b

theorem Headers.declareAlike_of_respells (c : Headers) {custom : List CustomHeader}
    (alike : List.Forall₂ CustomHeader.Respells custom c.custom) :
    DeclareAlike { c with custom } c := by
  cases read : readCustomHeaders c.custom with
  | ok fixed =>
      have read' := (readCustomHeaders_of_respells alike).2 read
      exact .built (declare_of_read read') (declare_of_read read) rfl
  | error e =>
      obtain ⟨i, stops⟩ := readCustomHeaders_eq_error_iff_stopsAt.1 read
      obtain ⟨x, here, stops'⟩ := stops.of_respells alike
      have read' := readCustomHeaders_eq_error_iff_stopsAt.2 ⟨i, stops'⟩
      exact .stopped here stops' stops (declare_eq_error_iff.2 read') (declare_eq_error_iff.2 read)

end Config

namespace Http.Server

theorem answer_congr {s s' : Server} (same : s.chain = s'.chain) (fresh : Header.Value)
    (request : Request) : s.answer fresh request = s'.answer fresh request := by
  rw [answer, answer, same]

/-- Where the check finds nothing both servers have the chain of one declaration. -/
theorem ofConfig_of_respells {c : Config} {custom : List Config.CustomHeader}
    (alike : List.Forall₂ Config.CustomHeader.Respells custom c.headers.custom)
    (sound : c.faults = []) (sound' : (c.withCustom custom).faults = []) :
    ∃ d, ofConfig c = .ok (withDeclaration c d) ∧
      ofConfig (c.withCustom custom) = .ok (withDeclaration (c.withCustom custom) d) := by
  obtain ⟨fixed, checked, made⟩ := ofConfig_of_faults_eq_nil sound
  obtain ⟨fixed', checked', made'⟩ := ofConfig_of_faults_eq_nil sound'
  have read := (Config.readCustomHeaders_of_respells alike).1 checked'.read
  cases read.symm.trans checked.read
  exact ⟨_, made, made'⟩

end Http.Server

/-- Custom headers with names in another case: the check finds the same faults, each in its place;
the translation stops at the same header with the same fault, or the chains are equal; and servers
are made of both configurations or of neither, and give the same answers. -/
theorem respelled_keeps_faults_and_answers (c : Config) {custom : List Config.CustomHeader}
    (respelled : List.Forall₂ Config.CustomHeader.Respells custom c.headers.custom) :
    (c.withCustom custom).faults = c.faults.map (Config.Fault.quoting custom) ∧
    Config.DeclareAlike (c.withCustom custom).headers c.headers ∧
    ((∃ s, Http.Server.ofConfig (c.withCustom custom) = .ok s) ↔
      ∃ s, Http.Server.ofConfig c = .ok s) ∧
    ∀ s s', Http.Server.ofConfig (c.withCustom custom) = .ok s → Http.Server.ofConfig c = .ok s' →
      s.chain = s'.chain ∧ ∀ fresh request, s.answer fresh request = s'.answer fresh request := by
  have faults := Config.faults_of_respells c respelled
  have accepted : (c.withCustom custom).faults = [] ↔ c.faults = [] := by
    rw [faults, List.map_eq_nil_iff]
  refine ⟨faults, c.headers.declareAlike_of_respells respelled, ?made, ?answers⟩
  case made =>
    constructor
    · rintro ⟨s, made⟩
      have sound' := Http.Server.faults_of_ofConfig made
      obtain ⟨d, made', -⟩ :=
        Http.Server.ofConfig_of_respells respelled (accepted.1 sound') sound'
      exact ⟨_, made'⟩
    · rintro ⟨s, made⟩
      have sound := Http.Server.faults_of_ofConfig made
      obtain ⟨d, -, made'⟩ :=
        Http.Server.ofConfig_of_respells respelled sound (accepted.2 sound)
      exact ⟨_, made'⟩
  case answers =>
    intro s s' made made'
    obtain ⟨d, known', known⟩ := Http.Server.ofConfig_of_respells respelled
      (Http.Server.faults_of_ofConfig made') (Http.Server.faults_of_ofConfig made)
    cases made.symm.trans known
    cases made'.symm.trans known'
    exact ⟨rfl, fun fresh request => Http.Server.answer_congr rfl fresh request⟩

theorem respelled_keeps_faults_and_answers_of_two :
    let faulty : Config := { headers := { custom :=
      [⟨"X-Frame-Options", ["DENY"]⟩, ⟨"Bad Name", ["x"]⟩, ⟨"Referrer-Policy", ["origin"]⟩,
        ⟨"x-frame-options", ["SAMEORIGIN"]⟩] } }
    let shouted : List Config.CustomHeader :=
      [⟨"x-FRAME-options", ["DENY"]⟩, ⟨"BAD name", ["x"]⟩, ⟨"REFERRER-POLICY", ["origin"]⟩,
        ⟨"X-Frame-Options", ["SAMEORIGIN"]⟩]
    let sound : Config := { headers := { custom := [⟨"Vary", ["Origin", "é"]⟩] } }
    let lowered : List Config.CustomHeader := [⟨"vary", ["Origin", "é"]⟩]
    (faulty.withCustom shouted).faults = [.invalidHeader 1 (.invalidName "BAD name"),
      .managedHeader 2 ReferrerPolicy.name, .duplicateHeader 3 ⟨"x-frame-options", by decide⟩] ∧
    ∃ s s', Http.Server.ofConfig (sound.withCustom lowered) = .ok s ∧
      Http.Server.ofConfig sound = .ok s' ∧
      ∀ fresh request, s.answer fresh request = s'.answer fresh request := by
  intro faulty shouted sound lowered
  have respelled : List.Forall₂ Config.CustomHeader.Respells shouted faulty.headers.custom :=
    .cons ⟨by decide, rfl⟩ (.cons ⟨by decide, rfl⟩ (.cons ⟨by decide, rfl⟩
      (.cons ⟨by decide, rfl⟩ .nil)))
  have respelled' : List.Forall₂ Config.CustomHeader.Respells lowered sound.headers.custom :=
    .cons ⟨by decide, rfl⟩ .nil
  obtain ⟨faults, -⟩ := respelled_keeps_faults_and_answers faulty respelled
  obtain ⟨-, -, made, answers⟩ := respelled_keeps_faults_and_answers sound respelled'
  obtain ⟨fixed, -, server⟩ := Http.Server.ofConfig_of_faults_eq_nil (c := sound) (by decide)
  obtain ⟨s, server'⟩ := made.2 ⟨_, server⟩
  refine ⟨faults.trans (by decide), s, _, server', server, ?_⟩
  exact (answers _ _ server' server).2

end SecureHeaders
