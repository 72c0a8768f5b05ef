import SecureHeaders.Proofs.LateFaults
import SecureHeaders.Proofs.LegibleMessages
/-!
No text of a configuration forges a line of output. Cut at its newlines, the listing of headers is
one line for each of them; and the message that rejects a configuration is a single line without
control characters.
-/

namespace SecureHeaders

open Config (Content Fault)
open Text (isPlain)

namespace Text

/-- A tab or a printable ASCII character, as a byte. -/
def PlainByte (b : UInt8) : Prop := b.toNat = 0x09 ∨ 0x20 ≤ b.toNat ∧ b.toNat ≤ 0x7E

/-- A control character, the tab included. -/
def isControl (c : Char) : Bool := c.toNat < 0x20 || (0x7F ≤ c.toNat && c.toNat ≤ 0x9F)

/-- The characters behind which a text may go on in a new line. -/
def lineBreaks : List Char := ['\n', '\x0b', '\x0c', '\r', '\u0085', '\u2028', '\u2029']

theorem toNat_of_isPlain {c : Char} (plain : isPlain c = true) :
    c.toNat = 0x09 ∨ 0x20 ≤ c.toNat ∧ c.toNat ≤ 0x7E := by
  simp only [isPlain, Bool.or_eq_true, Bool.and_eq_true, beq_iff_eq, decide_eq_true_eq] at plain
  rcases plain with rfl | visible
  · exact Or.inl rfl
  · omega

theorem plainByte_of_mem_bytes {s : String} (plain : ∀ c ∈ s.toList, isPlain c = true) {b : UInt8}
    (member : b ∈ bytes s) : PlainByte b := by
  have ascii : ∀ c ∈ s.toList, c.toNat < 128 := by
    intro c inside
    have range := toNat_of_isPlain (plain c inside)
    omega
  rw [bytes_of_ascii ascii] at member
  obtain ⟨c, inside, rfl⟩ := List.mem_map.1 member
  have range := toNat_of_isPlain (plain c inside)
  rw [PlainByte, UInt8.toNat_ofNat']
  omega

theorem newline_not_mem_bytes {s : String} (plain : ∀ c ∈ s.toList, isPlain c = true) :
    0x0A ∉ bytes s := by
  intro broken
  rcases plainByte_of_mem_bytes plain broken with tab | visible
  · exact absurd tab (by decide)
  · exact absurd visible.1 (by decide)

/-- Lines that hold no newline are found again between the newlines of what they make up. -/
theorem splitOn_bytes_join {lines : List String} (whole : ∀ line ∈ lines, 0x0A ∉ bytes line) :
    (bytes (String.join (lines.map fun line => line ++ "\n"))).splitOn 0x0A =
      lines.map bytes ++ [[]] := by
  induction lines with
  | nil => exact List.splitOn_nil _
  | cons line lines ih =>
      rw [List.forall_mem_cons] at whole
      have newline : bytes "\n" = [0x0A] := by decide
      rw [List.map_cons, String.join_cons, bytes_append, bytes_append, newline, List.append_assoc,
        List.singleton_append, List.splitOn_append_cons_self_of_not_mem whole.1, ih whole.2]
      rfl

theorem isHidden_of_mem_lineBreaks {c : Char} (member : c ∈ lineBreaks) : isHidden c = true := by
  have all : lineBreaks.all isHidden = true := by decide +kernel
  exact List.all_eq_true.1 all c member

theorem isHidden_of_isControl {c : Char} (control : isControl c = true) : isHidden c = true := by
  apply isHidden_of_control
  simpa [isControl] using control

theorem Legible.unbroken {s : String} (legible : Legible s) {c : Char} (member : c ∈ s.toList) :
    isControl c = false ∧ c ∉ lineBreaks := by
  have apparent := legible c member
  constructor
  · apply Bool.eq_false_iff.2
    intro control
    rw [isHidden_of_isControl control] at apparent
    cases apparent
  · intro broken
    rw [isHidden_of_mem_lineBreaks broken] at apparent
    cases apparent

end Text

namespace Cli

/-- What an output has to be in order to list headers line by line. Cut at the newlines it is one
line for each header, or the one line that says there is none, and ends with a newline. -/
structure ListsByLine (output : String) (hs : List Header) : Prop where
  lines : (Text.bytes output).splitOn 0x0A =
    (if hs = [] then [Text.bytes noHeaders] else hs.map fun h => Text.bytes h.display) ++ [[]]
  named : ∀ h ∈ hs, Text.bytes (h.name.text ++ ": ") <+: Text.bytes h.display
  plain : ∀ line ∈ (Text.bytes output).splitOn 0x0A, ∀ b ∈ line, Text.PlainByte b

theorem isPlain_of_mem_headerLines {hs : List Header} {line : String}
    (listed : line ∈ headerLines hs) : ∀ c ∈ line.toList, isPlain c = true := by
  unfold headerLines at listed
  split at listed
  · have fixed : noHeaders.toList.all isPlain = true := by decide
    rw [List.mem_singleton.1 listed]
    exact List.all_eq_true.1 fixed
  · obtain ⟨h, -, rfl⟩ := List.mem_map.1 listed
    exact fun c member => h.isPlain_display member

theorem listsByLine_listing (hs : List Header) : ListsByLine (listing false hs) hs := by
  have cut : (Text.bytes (listing false hs)).splitOn 0x0A =
      (headerLines hs).map Text.bytes ++ [[]] :=
    Text.splitOn_bytes_join fun line listed =>
      Text.newline_not_mem_bytes (isPlain_of_mem_headerLines listed)
  refine ⟨?lines, ?named, ?plain⟩
  case lines =>
    rw [cut, headerLines]
    cases hs with
    | nil => rfl
    | cons h hs => simp
  case named =>
    intro h _
    rw [Header.display, Text.bytes_append (h.name.text ++ ": ")]
    exact List.prefix_append _ _
  case plain =>
    intro line member b inside
    rw [cut] at member
    rcases List.mem_append.1 member with early | last
    · obtain ⟨text, listed, rfl⟩ := List.mem_map.1 early
      exact Text.plainByte_of_mem_bytes (isPlain_of_mem_headerLines listed) inside
    · rw [List.mem_singleton.1 last] at inside
      cases inside

end Cli

/-- An accepted configuration is listed with one line for each header; a rejected one is reported
with the messages of its faults, in order and on a single line. -/
theorem output_lines_unforged (c : Config) :
    (Config.accept c = .ok c ∧ ∃ d, c.headers.declare = .ok d ∧
      Cli.ListsByLine (Cli.listing false d.build.headers) d.build.headers ∧
      ∀ source, Cli.readConfig source = .ok c →
        Cli.check source false = { exit := 0, stdout := Cli.listing false d.build.headers }) ∨
    ∃ e, Config.accept c = .error e ∧
      e.message = "Validation failed: " ++ String.intercalate ", " (c.faults.map Fault.message) ∧
      ∀ ch ∈ e.message.toList, Text.isControl ch = false ∧ ch ∉ Text.lineBreaks := by
  by_cases sound : c.faults = []
  · left
    obtain ⟨fixed, checked⟩ := Config.checked_of_faults_eq_nil sound
    have declared := Config.Headers.declare_of_read checked.read
    refine ⟨Config.accept_of_faults_eq_nil sound, _, declared, Cli.listsByLine_listing _, ?_⟩
    intro source read
    exact Cli.check_of_readConfig read declared false
  · right
    refine ⟨_, Config.accept_of_faults_ne_nil sound, rfl, ?_⟩
    intro ch member
    exact (Config.LoadError.legible_message_invalid c.faults).unbroken member

end SecureHeaders
