import Mathlib.Tactic.SplitIfs
import SecureHeaders.Json.Printer
import SecureHeaders.Json.Reader
/-!
Printed JSON is read back as the data that was printed, `Json.read?_print`: for data of texts, lists
and maps whose keys ascend. Each reader is shown to undo its printer in front of any rest.
-/

namespace SecureHeaders.Json

theorem textTail_quote (seen : List Char) (rest : Input) :
    textTail seen none ('"' :: rest) = some (String.ofList seen.reverse, rest) := by
  rw [textTail.eq_def]
  rfl

theorem textTail_verbatim {c : Char} (quote : c ≠ '"') (backslash : c ≠ '\\')
    (visible : 0x20 ≤ c.toNat) (seen : List Char) (rest : Input) :
    textTail seen none (c :: rest) = textTail (c :: seen) none rest := by
  have above : ¬ c.toNat < 0x20 := Nat.not_lt.2 visible
  rw [textTail]
  · simp only [Option.isSome_none, Bool.false_eq_true, if_false, quote, backslash, above,
      decide_false, Bool.or_self]
  · intro _ _ _ _ _ first
    exact absurd first backslash
  · intro _ _ first
    exact absurd first backslash

theorem textTail_simpleEscape {mark c : Char} (known : simpleEscape? mark = some c)
    (seen : List Char) (rest : Input) :
    textTail seen none ('\\' :: mark :: rest) = textTail (c :: seen) none rest := by
  rw [textTail]
  · simp only [Option.isSome_none, Bool.false_eq_true, if_false, known]
  · rintro _ _ _ _ _ rfl
    cases known

theorem textTail_unit {a b c d : Char} {n : Nat} (known : unit? a b c d = some n)
    (low : n < 0xD800) (seen : List Char) (rest : Input) :
    textTail seen none ('\\' :: 'u' :: a :: b :: c :: d :: rest) =
      textTail (Char.ofNat n :: seen) none rest := by
  have alone : isHighSurrogate n = false ∧ isLowSurrogate n = false := by
    simp [isHighSurrogate, isLowSurrogate]
    omega
  rw [textTail.eq_def]
  simp [known, alone]

theorem unit?_hex4Text {n : Nat} (control : n < 0x20) :
    ∃ a b c d, hex4Text n = [a, b, c, d] ∧ unit? a b c d = some n := by
  have all : ∀ n < 0x20,
      hex4Text n = ['0', '0', Nat.digitChar (n / 16), Nat.digitChar (n % 16)] ∧
        unit? '0' '0' (Nat.digitChar (n / 16)) (Nat.digitChar (n % 16)) = some n := by decide
  exact ⟨_, _, _, _, all n control⟩

theorem escapeChar_cases (c : Char) :
    (∃ mark, simpleEscape? mark = some c ∧ escapeChar c = ['\\', mark]) ∨
      (c.toNat < 0x20 ∧ escapeChar c = '\\' :: 'u' :: hex4Text c.toNat) ∨
      (c ≠ '"' ∧ c ≠ '\\' ∧ 0x20 ≤ c.toNat ∧ escapeChar c = [c]) := by
  unfold escapeChar
  split_ifs with quote backslash _ _ _ _ _ control
  case neg => exact Or.inr (Or.inr ⟨quote, backslash, Nat.le_of_not_lt control, rfl⟩)
  all_goals first
    | exact Or.inr (Or.inl ⟨control, rfl⟩)
    | subst c
      exact Or.inl ⟨_, rfl, rfl⟩

/-- A character of a text is read from what it is written as. -/
theorem textTail_escapeChar (seen : List Char) (c : Char) (rest : Input) :
    textTail seen none (escapeChar c ++ rest) = textTail (c :: seen) none rest := by
  rcases escapeChar_cases c with ⟨mark, known, written⟩ | ⟨control, written⟩ |
    ⟨quote, backslash, visible, written⟩
  · rw [written]
    exact textTail_simpleEscape known seen rest
  · obtain ⟨a, b, x, y, digits, known⟩ := unit?_hex4Text control
    have read := textTail_unit known (by omega) seen rest
    rw [written, digits]
    rwa [Char.ofNat_toNat] at read
  · rw [written]
    exact textTail_verbatim quote backslash visible seen rest

theorem textTail_escaped (s seen : List Char) (rest : Input) :
    textTail seen none (s.flatMap escapeChar ++ '"' :: rest) =
      some (String.ofList (seen.reverse ++ s), rest) := by
  induction s generalizing seen with
  | nil =>
      rw [List.append_nil]
      exact textTail_quote seen rest
  | cons c s ih =>
      rw [List.flatMap_cons, List.append_assoc, textTail_escapeChar, ih, List.reverse_cons,
        List.append_assoc, List.singleton_append]

theorem toList_textLiteral (s : String) (rest : Input) :
    (textLiteral s).toList ++ rest = '"' :: (s.toList.flatMap escapeChar ++ '"' :: rest) := by
  rw [textLiteral, String.toList_ofList, List.append_assoc]
  rfl

theorem textAfterQuote_escaped (s : String) (rest : Input) :
    textAfterQuote (s.toList.flatMap escapeChar ++ '"' :: rest) = some (s, rest) := by
  rw [textAfterQuote, textTail_escaped]
  simp

theorem isSpace_of_mem_newLine {level : Nat} {c : Char} (member : c ∈ (newLine level).toList) :
    isSpace c = true := by
  rw [newLine, String.toList_append] at member
  rcases List.mem_append.1 member with first | indent
  · rw [List.mem_singleton.1 first]
    rfl
  · rw [String.toList_ofList] at indent
    rw [List.eq_of_mem_replicate indent]
    rfl

theorem skipSpace_newLine (level : Nat) (s : Input) :
    skipSpace ((newLine level).toList ++ s) = skipSpace s :=
  List.dropWhile_append_of_pos fun _ => isSpace_of_mem_newLine

theorem skipSpace_cons {c : Char} (mark : isSpace c = false) (s : Input) :
    skipSpace (c :: s) = c :: s :=
  List.dropWhile_cons_of_neg (Bool.eq_false_iff.1 mark)

theorem skipSpace_textLiteral (s : String) (rest : Input) :
    skipSpace ((textLiteral s).toList ++ rest) = (textLiteral s).toList ++ rest := by
  rw [toList_textLiteral]
  exact skipSpace_cons rfl _

theorem value_newLine (depth level : Nat) (s : Input) :
    value depth ((newLine level).toList ++ s) = value depth s := by
  rw [value, value, skipSpace_newLine]

theorem value_space (depth : Nat) (s : Input) : value depth (' ' :: s) = value depth s := by
  have blank : skipSpace (' ' :: s) = skipSpace s := rfl
  rw [value, value, blank]

theorem toList_writeItems_cons (level : Nat) (item : Data) (more : List Data) (tail : Input) :
    (writeItems level (item :: more)).toList ++ tail =
      ',' :: ((newLine level).toList ++
        ((write level item).toList ++ ((writeItems level more).toList ++ tail))) := by
  simp only [writeItems, String.toList_append, List.append_assoc]
  rfl

theorem toList_writeEntries_cons (level : Nat) (key : String) (item : Data)
    (more : List (String × Data)) (tail : Input) :
    (writeEntries level ((key, item) :: more)).toList ++ tail =
      ',' :: ((newLine level).toList ++ ((textLiteral key).toList ++
        ':' :: ' ' :: ((write level item).toList ++
          ((writeEntries level more).toList ++ tail)))) := by
  simp only [writeEntries, String.toList_append, List.append_assoc]
  rfl

theorem length_le_writeItems (level : Nat) (items : List Data) :
    items.length ≤ (writeItems level items).toList.length := by
  induction items with
  | nil => exact Nat.zero_le _
  | cons item items ih =>
      have written := congrArg List.length (toList_writeItems_cons level item items [])
      simp only [List.append_nil, List.length_cons, List.length_append] at written ⊢
      omega

theorem length_le_writeEntries (level : Nat) (entries : List (String × Data)) :
    entries.length ≤ (writeEntries level entries).toList.length := by
  induction entries with
  | nil => exact Nat.zero_le _
  | cons entry entries ih =>
      obtain ⟨key, item⟩ := entry
      have written := congrArg List.length (toList_writeEntries_cons level key item entries [])
      simp only [List.append_nil, List.length_cons, List.length_append] at written ⊢
      omega

/-- What is written is read, whatever stands behind it. -/
def ReadsBack (depth level : Nat) (d : Data) : Prop :=
  ∀ rest, value depth ((write level d).toList ++ rest) = some (d, rest)

/-- The items of a list are read once the first of them is. -/
theorem items_write {depth level : Nat} {more : List Data}
    (back : ∀ item ∈ more, ReadsBack depth level item) {tail rest : Input}
    (closed : skipSpace tail = ']' :: rest) {item : Data} {s : Input}
    (first : value depth s = some (item, (writeItems level more).toList ++ tail)) {fuel : Nat}
    (enough : more.length < fuel) (seen : List Data) :
    items (value depth) fuel seen s = some (.list (seen.reverse ++ item :: more), rest) := by
  induction more generalizing item s fuel seen with
  | nil =>
      obtain ⟨fuel, rfl⟩ := Nat.exists_eq_add_one.2 (Nat.zero_lt_of_lt enough)
      have ends : skipSpace ((writeItems level []).toList ++ tail) = ']' :: rest := closed
      simp only [items, first, Option.bind_eq_bind, Option.bind_some, ends, List.reverse_cons]
  | cons next more ih =>
      obtain ⟨fuel, rfl⟩ := Nat.exists_eq_add_one.2 (Nat.zero_lt_of_lt enough)
      rw [List.forall_mem_cons] at back
      rw [toList_writeItems_cons] at first
      have second := (value_newLine depth level _).trans
        (back.1 ((writeItems level more).toList ++ tail))
      have further := ih back.2 second (Nat.lt_of_succ_lt_succ enough) (item :: seen)
      rw [List.reverse_cons, List.append_assoc, List.singleton_append] at further
      simpa only [items, first, Option.bind_eq_bind, Option.bind_some,
        skipSpace_cons (c := ',') rfl] using further

theorem insertSorted_of_last {key : String} {value : Data} {entries : List (String × Data)}
    (last : ∀ e ∈ entries, e.1 < key) :
    Data.insertSorted key value entries = entries ++ [(key, value)] := by
  induction entries with
  | nil => rfl
  | cons e entries ih =>
      rw [List.forall_mem_cons] at last
      have other : key ≠ e.1 := by
        rintro rfl
        exact String.lt_irrefl _ last.1
      rw [Data.insertSorted, if_neg (String.lt_asymm last.1), if_neg other, ih last.2]
      rfl

/-- What the reader of a map does with one entry, the keys before it being lower. -/
theorem entries_entry {depth level : Nat} {key : String} {item : Data}
    (back : ReadsBack depth level item) {s rest : Input}
    (start : skipSpace s =
      (textLiteral key).toList ++ ':' :: ' ' :: ((write level item).toList ++ rest))
    {seen more : List (String × Data)}
    (ascending : (seen ++ (key, item) :: more).Pairwise fun a b => a.1 < b.1) (fuel : Nat) :
    (∀ further, skipSpace rest = ',' :: further →
      entries (value depth) (fuel + 1) seen s =
        entries (value depth) fuel (seen ++ [(key, item)]) further) ∧
    ∀ further, skipSpace rest = '\x7d' :: further →
      entries (value depth) (fuel + 1) seen s = some (.map (seen ++ [(key, item)]), further) := by
  have blank : value depth (' ' :: ((write level item).toList ++ rest)) = some (item, rest) :=
    (value_space depth _).trans (back rest)
  -- A key above all others goes to the end, so that the reader keeps the order of the text.
  have last : ∀ e ∈ seen, e.1 < key := fun e member =>
    (List.pairwise_append.1 ascending).2.2 e member _ List.mem_cons_self
  rw [toList_textLiteral] at start
  constructor
  all_goals
    intro further mark
    simp only [entries, start, dropExactly, if_true, Option.bind_eq_bind, Option.bind_some,
      textAfterQuote_escaped, skipSpace_cons (c := ':') rfl, blank, mark,
      insertSorted_of_last last]

/-- The entries of a map are read from its first key on, where the keys ascend. -/
theorem entries_write {depth level : Nat} {more : List (String × Data)}
    (back : ∀ e ∈ more, ReadsBack depth level e.2) {tail rest : Input}
    (closed : skipSpace tail = '\x7d' :: rest) {key : String} {item : Data}
    (first : ReadsBack depth level item) {s : Input}
    (start : skipSpace s = (textLiteral key).toList ++
      ':' :: ' ' :: ((write level item).toList ++ ((writeEntries level more).toList ++ tail)))
    {seen : List (String × Data)}
    (ascending : (seen ++ (key, item) :: more).Pairwise fun a b => a.1 < b.1) {fuel : Nat}
    (enough : more.length < fuel) :
    entries (value depth) fuel seen s = some (.map (seen ++ (key, item) :: more), rest) := by
  induction more generalizing key item s seen fuel with
  | nil =>
      obtain ⟨fuel, rfl⟩ := Nat.exists_eq_add_one.2 (Nat.zero_lt_of_lt enough)
      exact (entries_entry first start ascending fuel).2 rest closed
  | cons next more ih =>
      obtain ⟨fuel, rfl⟩ := Nat.exists_eq_add_one.2 (Nat.zero_lt_of_lt enough)
      have goes := congrArg skipSpace (toList_writeEntries_cons level next.1 next.2 more tail)
      have step := (entries_entry first start ascending fuel).1 _
        (goes.trans (skipSpace_cons rfl _))
      rw [List.forall_mem_cons] at back
      rw [List.append_cons] at ascending ⊢
      rw [step]
      refine ih back.2 back.1 ?_ ascending (Nat.lt_of_succ_lt_succ enough)
      rw [skipSpace_newLine]
      exact skipSpace_textLiteral _ _

/-- Data of texts, lists and maps, these at most `depth` deep, with ascending keys. -/
inductive Textual : Nat → Data → Prop
  | text (depth : Nat) (s : String) : Textual depth (.text s)
  | list {depth : Nat} {items : List Data} (inner : ∀ item ∈ items, Textual depth item) :
      Textual (depth + 1) (.list items)
  | map {depth : Nat} {entries : List (String × Data)}
      (ascending : entries.Pairwise fun a b => a.1 < b.1)
      (inner : ∀ e ∈ entries, Textual depth e.2) : Textual (depth + 1) (.map entries)

theorem readsBack_text (depth level : Nat) (s : String) : ReadsBack depth level (.text s) := by
  intro rest
  have opens : skipSpace ((write level (.text s)).toList ++ rest) =
      '"' :: (s.toList.flatMap escapeChar ++ '"' :: rest) := by
    rw [write, skipSpace_textLiteral, toList_textLiteral]
  rw [value, opens]
  simp only [textAfterQuote_escaped, Option.map_some]

theorem value_bracket {s t u : Input} (opens : skipSpace s = '[' :: t) {c : Char}
    (first : skipSpace t = c :: u) (other : c ≠ ']') (depth : Nat) :
    value (depth + 1) s = items (value depth) ((c :: u).length + 1) [] (c :: u) := by
  rw [value, opens]
  simp only [first]
  split
  · rename_i ends
    exact absurd (List.cons.inj ends).1 other
  · rfl

theorem value_brace {s t u : Input} (opens : skipSpace s = '\x7b' :: t) {c : Char}
    (first : skipSpace t = c :: u) (other : c ≠ '\x7d') (depth : Nat) :
    value (depth + 1) s = entries (value depth) ((c :: u).length + 1) [] (c :: u) := by
  rw [value, opens]
  simp only [first]
  split
  · rename_i ends
    exact absurd (List.cons.inj ends).1 other
  · rfl

theorem toList_write_nil (level : Nat) (rest : Input) :
    (write level (.list [])).toList ++ rest = '[' :: ']' :: rest := by
  rw [write]
  rfl

theorem toList_write_cons (level : Nat) (item : Data) (more : List Data) (rest : Input) :
    (write level (.list (item :: more))).toList ++ rest =
      '[' :: ((newLine (level + 1)).toList ++ ((write (level + 1) item).toList ++
        ((writeItems (level + 1) more).toList ++ ((newLine level).toList ++ ']' :: rest)))) := by
  simp only [write, String.toList_append, List.append_assoc]
  rfl

theorem toList_write_map_nil (level : Nat) (rest : Input) :
    (write level (.map [])).toList ++ rest = '\x7b' :: '\x7d' :: rest := by
  rw [write]
  rfl

theorem toList_write_map_cons (level : Nat) (key : String) (item : Data)
    (more : List (String × Data)) (rest : Input) :
    (write level (.map ((key, item) :: more))).toList ++ rest =
      '\x7b' :: ((newLine (level + 1)).toList ++ ((textLiteral key).toList ++
        ':' :: ' ' :: ((write (level + 1) item).toList ++
          ((writeEntries (level + 1) more).toList ++
            ((newLine level).toList ++ '\x7d' :: rest))))) := by
  simp only [write, String.toList_append, List.append_assoc]
  rfl

/-- No text, list or map is taken for a blank or the end of the list around it. -/
theorem exists_opening {depth : Nat} {d : Data} (textual : Textual depth d) (level : Nat)
    (rest : Input) :
    ∃ c s, (write level d).toList ++ rest = c :: s ∧ isSpace c = false ∧ c ≠ ']' := by
  cases textual with
  | text depth s =>
      rw [write]
      exact ⟨'"', _, toList_textLiteral s rest, rfl, by decide⟩
  | @list _ items inner =>
      cases items with
      | nil => exact ⟨'[', _, toList_write_nil level rest, rfl, by decide⟩
      | cons item more => exact ⟨'[', _, toList_write_cons level item more rest, rfl, by decide⟩
  | @map _ entries ascending inner =>
      cases entries with
      | nil => exact ⟨'\x7b', _, toList_write_map_nil level rest, rfl, by decide⟩
      | cons entry more =>
          have written := toList_write_map_cons level entry.1 entry.2 more rest
          exact ⟨'\x7b', _, written, rfl, by decide⟩

theorem skipSpace_closing (level : Nat) {c : Char} (mark : isSpace c = false) (rest : Input) :
    skipSpace ((newLine level).toList ++ c :: rest) = c :: rest := by
  rw [skipSpace_newLine]
  exact skipSpace_cons mark rest

theorem readsBack_list {depth level : Nat} {items : List Data}
    (inner : ∀ item ∈ items, Textual depth item)
    (back : ∀ item ∈ items, ReadsBack depth (level + 1) item) :
    ReadsBack (depth + 1) level (.list items) := by
  intro rest
  cases items with
  | nil =>
      rw [toList_write_nil]
      rfl
  | cons item more =>
      rw [List.forall_mem_cons] at inner back
      have closed := skipSpace_closing level (c := ']') rfl rest
      have first := back.1 ((writeItems (level + 1) more).toList ++
        ((newLine level).toList ++ ']' :: rest))
      obtain ⟨c, s, shown, mark, other⟩ := exists_opening inner.1 (level + 1)
        ((writeItems (level + 1) more).toList ++ ((newLine level).toList ++ ']' :: rest))
      -- The reader takes one round for each item, and every item is at least a comma long.
      have enough : more.length < (c :: s).length + 1 := by
        have inside := length_le_writeItems (level + 1) more
        rw [← shown, List.length_append, List.length_append]
        omega
      rw [shown] at first
      rw [toList_write_cons, shown]
      have begins := skipSpace_closing (level + 1) mark s
      rw [value_bracket (skipSpace_cons rfl _) begins other depth]
      exact items_write back.2 closed first enough []

theorem readsBack_map {depth level : Nat} {entries : List (String × Data)}
    (ascending : entries.Pairwise fun a b => a.1 < b.1)
    (back : ∀ e ∈ entries, ReadsBack depth (level + 1) e.2) :
    ReadsBack (depth + 1) level (.map entries) := by
  intro rest
  cases entries with
  | nil =>
      rw [toList_write_map_nil]
      rfl
  | cons entry more =>
      obtain ⟨key, item⟩ := entry
      rw [List.forall_mem_cons] at back
      have closed := skipSpace_closing level (c := '\x7d') rfl rest
      have inside := length_le_writeEntries (level + 1) more
      rw [toList_write_map_cons, toList_textLiteral]
      have begins := skipSpace_closing (level + 1) (c := '"') rfl
      rw [value_brace (skipSpace_cons rfl _) (begins _) (by decide) depth]
      refine entries_write back.2 closed back.1 ?_ ascending ?_
      · rw [toList_textLiteral]
        exact skipSpace_cons rfl _
      · simp only [List.length_cons, List.length_append]
        omega

theorem Textual.readsBack {depth : Nat} {d : Data} (textual : Textual depth d) (level : Nat) :
    ReadsBack depth level d := by
  induction textual generalizing level with
  | text depth s => exact readsBack_text depth level s
  | list inner ih => exact readsBack_list inner fun item member => ih item member (level + 1)
  | map ascending _ ih => exact readsBack_map ascending fun e member => ih e member (level + 1)

/-- Printed data is read back, with the newline that ends an output behind it or without. -/
theorem read?_print {d : Data} (textual : Textual maxDepth d) {tail : String}
    (blank : skipSpace tail.toList = []) : read? (print d ++ tail) = some d := by
  have back := textual.readsBack 0 tail.toList
  simp only [read?, print, String.toList_append, back, blank, List.isEmpty_nil, if_true]

end SecureHeaders.Json
