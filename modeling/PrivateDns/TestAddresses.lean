/-
This file models the addresses the integration tests make up for their test servers, and
proves that they do not collide where the tests need them apart.

`getUniqueIPv4Address` keeps a static counter and hands out `127.0.100.n`, with `n` the
low byte of the counter, so that tests whose validation threads outlive them do not meet
each other's servers. The guarantee is exact: from any value of the counter, a run of
calls hands out pairwise distinct addresses if and only if it makes at most 256 calls.

The multinetwork tests make their servers' addresses from the network id, as
`192.168.<netId - TEST_NETID_BASE>.<n>` and `2001:db8:<netId - TEST_NETID_BASE>::<n>`,
assuming the network ids are unique. That assumption is enough: both functions are
injective in the network id and the host number, for every `unsigned` network id, because
the subtraction wraps around and a decimal rendering reads back to its number.

`fmt::format` renders an integer in decimal with no leading zero, which is `toString` on
`Nat`; `digitsValue` reads such a rendering back, and every character of it is a digit,
so a `.` or a `:` after it marks where it ends.
-/

import PrivateDns.Compare

namespace Android.Net.Test

/-! ### Decimal renderings -/

/-- One more decimal digit read after `value`. -/
def readDigit (value : Nat) (digit : Char) : Nat := 10 * value + (digit.toNat - '0'.toNat)

/-- The value of a list of decimal digits, most significant first. -/
def digitsValue (digits : List Char) : Nat := digits.foldl readDigit 0

theorem readDigit_digitChar (value : Nat) {digit : Nat} (small : digit < 10) :
    readDigit value (Nat.digitChar digit) = 10 * value + digit := by
  interval_cases digit <;> rfl

theorem isDigit_digitChar {digit : Nat} (small : digit < 10) : (Nat.digitChar digit).isDigit := by
  interval_cases digit <;> rfl

/-- With enough fuel, the digits `toDigitsCore` puts before `ds` read back to `n`. -/
theorem foldl_readDigit_toDigitsCore {fuel n : Nat} (enough : n < fuel) (ds : List Char) :
    (Nat.toDigitsCore 10 fuel n ds).foldl readDigit 0 = ds.foldl readDigit n := by
  induction fuel generalizing n ds with
  | zero => omega
  | succ fuel inductionHypothesis =>
    have lastDigit (value : Nat) :=
      readDigit_digitChar value (Nat.mod_lt n (by decide : 10 > 0))
    simp only [Nat.toDigitsCore]
    split
    · rw [List.foldl_cons, lastDigit]
      congr 1
      omega
    · rw [inductionHypothesis (by omega), List.foldl_cons, lastDigit]
      congr 1
      omega

theorem digitsValue_toString (n : Nat) : digitsValue (toString n).data = n :=
  foldl_readDigit_toDigitsCore (Nat.lt_succ_self n) []

/-- Distinct numbers render to distinct decimal strings. -/
theorem toString_injective : Function.Injective (toString : Nat → String) := fun a b same => by
  rw [← digitsValue_toString a, ← digitsValue_toString b, same]

theorem isDigit_of_mem_toDigitsCore {fuel n : Nat} {ds : List Char} {char : Char}
    (member : char ∈ Nat.toDigitsCore 10 fuel n ds) : char ∈ ds ∨ char.isDigit := by
  induction fuel generalizing n ds with
  | zero => exact .inl member
  | succ fuel inductionHypothesis =>
    have digit := isDigit_digitChar (Nat.mod_lt n (by decide : 10 > 0))
    simp only [Nat.toDigitsCore] at member
    split at member
    · rcases List.mem_cons.mp member with rfl | old
      · exact .inr digit
      · exact .inl old
    · rcases inductionHypothesis member with added | isDigit
      · rcases List.mem_cons.mp added with rfl | old
        · exact .inr digit
        · exact .inl old
      · exact .inr isDigit

/-- Every character of a decimal rendering is a digit. -/
theorem isDigit_of_mem_toString {n : Nat} {char : Char} (member : char ∈ (toString n).data) :
    char.isDigit :=
  (isDigit_of_mem_toDigitsCore member).resolve_left (List.not_mem_nil _)

/-- Two lists cut at their first `separator` agree before it and after it. -/
theorem append_cons_inj {separator : Char} {first rest first' rest' : List Char}
    (free : separator ∉ first) (free' : separator ∉ first')
    (same : first ++ separator :: rest = first' ++ separator :: rest') :
    first = first' ∧ rest = rest' := by
  induction first generalizing first' with
  | nil =>
    cases first' with
    | nil => simpa using same
    | cons char first' =>
      obtain ⟨rfl, -⟩ := List.cons.inj same
      exact absurd (List.mem_cons_self _ _) free'
  | cons char first inductionHypothesis =>
    cases first' with
    | nil =>
      obtain ⟨rfl, -⟩ := List.cons.inj same
      exact absurd (List.mem_cons_self _ _) free
    | cons char' first' =>
      obtain ⟨rfl, tail⟩ := List.cons.inj same
      obtain ⟨head, after⟩ := inductionHypothesis
        (fun member => free (List.mem_cons_of_mem _ member))
        (fun member => free' (List.mem_cons_of_mem _ member)) tail
      exact ⟨by rw [head], after⟩

/-- A decimal rendering followed by a non-digit separator is read off unambiguously. -/
theorem toString_append_cons_inj {separator : Char} (notDigit : separator.isDigit = false)
    {a b : Nat} {rest rest' : List Char}
    (same : (toString a).data ++ separator :: rest = (toString b).data ++ separator :: rest') :
    a = b ∧ rest = rest' := by
  have free (n : Nat) : separator ∉ (toString n).data := fun member => by
    simp [isDigit_of_mem_toString member] at notDigit
  obtain ⟨digits, after⟩ := append_cons_inj (free a) (free b) same
  exact ⟨toString_injective (String.ext digits), after⟩

/-- Two numbers rendered after a fixed lead and apart by a separator that starts with a
non-digit read back from the string. -/
theorem rendered_inj {lead separator : String} {first : Char} {rest : List Char}
    (starts : separator.data = first :: rest) (notDigit : first.isDigit = false) {a b c d : Nat}
    (same : lead ++ toString a ++ separator ++ toString b =
      lead ++ toString c ++ separator ++ toString d) : a = c ∧ b = d := by
  have rendered := congrArg String.data same
  simp only [String.data_append, List.append_assoc, starts, List.cons_append] at rendered
  obtain ⟨numbers, after⟩ := toString_append_cons_inj notDigit (List.append_cancel_left rendered)
  exact ⟨numbers, toString_injective (String.ext (List.append_cancel_left after))⟩

/-! ### `getUniqueIPv4Address` -/

/-- `ResolverTest::getUniqueIPv4Address()`, with its static counter as the state: the counter
goes up by one and its low byte is the last octet. The counter is an `int` that no test run
brings near its overflow; it is unbounded here. -/
def getUniqueIPv4Address (counter : Nat) : String × Nat :=
  ("127.0.100." ++ toString ((counter + 1) &&& 0xff), counter + 1)

/-- The addresses that `calls` successive calls hand out, from the counter's value before
them. -/
def uniqueAddresses (counter : Nat) : Nat → List String
  | 0 => []
  | calls + 1 =>
    (getUniqueIPv4Address counter).1 :: uniqueAddresses (getUniqueIPv4Address counter).2 calls

/-- The address a call hands out after the counter reached `counter`. -/
def uniqueAddress (counter : Nat) : String := "127.0.100." ++ toString ((counter + 1) % 256)

theorem uniqueAddresses_eq (counter calls : Nat) :
    uniqueAddresses counter calls =
      (List.range calls).map fun call => uniqueAddress (counter + call) := by
  induction calls generalizing counter with
  | zero => rfl
  | succ calls inductionHypothesis =>
    have lowByte : (counter + 1) &&& 0xff = (counter + 1) % 256 :=
      Nat.and_pow_two_sub_one_eq_mod (counter + 1) 8
    rw [uniqueAddresses, inductionHypothesis, List.range_succ_eq_map, List.map_cons,
      List.map_map]
    simp only [getUniqueIPv4Address, lowByte, uniqueAddress, Nat.add_zero]
    congr 1
    refine List.map_congr_left fun call _ => ?_
    simp only [Function.comp, Nat.succ_eq_add_one]
    congr 3
    omega

/-- From any value of the counter, successive calls hand out pairwise distinct addresses for
exactly 256 calls: 256 calls never repeat an address, and a 257th call repeats the first. -/
theorem uniqueAddresses_nodup_iff (counter calls : Nat) :
    (uniqueAddresses counter calls).Nodup ↔ calls ≤ 256 := by
  rw [uniqueAddresses_eq]
  constructor
  · intro distinct
    by_contra many
    have wrapped : uniqueAddress (counter + 0) = uniqueAddress (counter + 256) := by
      simp only [uniqueAddress]
      congr 2
      omega
    have := List.inj_on_of_nodup_map distinct (List.mem_range.mpr (by omega))
      (List.mem_range.mpr (by omega)) wrapped
    omega
  · intro few
    refine (List.nodup_range calls).map_on fun first firstMem second secondMem same => ?_
    rw [List.mem_range] at firstMem secondMem
    have octet := toString_injective
      (String.ext (List.append_cancel_left (congrArg String.data same)))
    omega

/-! ### Addresses of a test network -/

/-- `ResolverMultinetworkTest::TEST_NETID_BASE`; the `int` converts to `unsigned` in the
subtraction from a network id. -/
def testNetIdBase : UInt32 := 10000

/-- `ScopedNetwork::makeIpv4AddrString(n)`. -/
def makeIpv4AddrString (mNetId : UInt32) (n : UInt8) : String :=
  "192.168." ++ toString (mNetId - testNetIdBase).toNat ++ "." ++ toString n.toNat

/-- `ScopedNetwork::makeIpv6AddrString(n)`. -/
def makeIpv6AddrString (mNetId : UInt32) (n : UInt8) : String :=
  "2001:db8:" ++ toString (mNetId - testNetIdBase).toNat ++ "::" ++ toString n.toNat

theorem sub_testNetIdBase_toNat_inj {mNetId other : UInt32}
    (same : (mNetId - testNetIdBase).toNat = (other - testNetIdBase).toNat) : mNetId = other :=
  sub_left_injective (UInt32.toNat.inj same)

/-- The IPv4 and IPv6 addresses of a test network's servers never collide: each is made by
one network id and one host number only, for every `unsigned` network id. -/
theorem makeAddrString_injective (mNetId other : UInt32) (n m : UInt8) :
    (makeIpv4AddrString mNetId n = makeIpv4AddrString other m ↔ mNetId = other ∧ n = m) ∧
      (makeIpv6AddrString mNetId n = makeIpv6AddrString other m ↔ mNetId = other ∧ n = m) := by
  refine ⟨⟨fun same => ?_, fun ⟨rfl, rfl⟩ => rfl⟩, ⟨fun same => ?_, fun ⟨rfl, rfl⟩ => rfl⟩⟩
  all_goals
    obtain ⟨network, host⟩ := rendered_inj rfl (by decide) same
    exact ⟨sub_testNetIdBase_toNat_inj network, UInt8.toNat.inj host⟩

end Android.Net.Test
