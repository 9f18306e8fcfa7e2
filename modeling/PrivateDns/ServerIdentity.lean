/-
This file models `PrivateDnsConfiguration::ServerIdentity`, the key of the per-network
server maps of `mDotTracker`.

An identity is a socket address and a provider name, and its `operator<` and its
`operator==` both go through `std::tie(sockaddr, provider)`. `IPSockAddr` is declared
outside this header, so its type is a parameter here, with the one assumption the maps
need of it: its `operator<` is a strict total order consistent with its `operator==`.
`std::string` is Lean's `String`, whose order is the lexicographic order of its
characters and is a strict total order outright. Under the assumption the identity order
is a strict total order too, its incomparable pairs are exactly its `operator==` pairs,
and a server map keeps one entry per address and provider: the same address under two
provider names is two servers.
-/

import PrivateDns.OrderedMap

namespace Android.Net

/-- `PrivateDnsConfiguration::ServerIdentity`. -/
structure ServerIdentity (SockAddr : Type) where
  sockaddr : SockAddr
  provider : String
  deriving DecidableEq, Repr

namespace ServerIdentity

variable {SockAddr : Type}

/-- `std::tie(sockaddr, provider)`, the tuple both comparisons read. -/
def tie (identity : ServerIdentity SockAddr) : SockAddr × String :=
  (identity.sockaddr, identity.provider)

theorem tie_injective : Function.Injective (tie : ServerIdentity SockAddr → SockAddr × String) := by
  rintro ⟨_, _⟩ ⟨_, _⟩ same
  simpa [tie] using same

/-- `operator==`. -/
def equal [DecidableEq SockAddr] (identity other : ServerIdentity SockAddr) : Bool :=
  tieEqual identity.tie other.tie

theorem equal_iff [DecidableEq SockAddr] {a b : ServerIdentity SockAddr} :
    a.equal b ↔ a.sockaddr = b.sockaddr ∧ a.provider = b.provider := by
  simp [equal, tieEqual, tie]

variable [LT SockAddr] [DecidableRel (· < · : SockAddr → SockAddr → Prop)]

/-- `operator<`. -/
def less (identity other : ServerIdentity SockAddr) : Bool :=
  tieLess identity.tie other.tie

variable [IsStrictTotalOrder SockAddr (· < ·)]

/-- `std::less<ServerIdentity>`, the comparator of a network's map in `mDotTracker`. -/
def compare : Compare (ServerIdentity SockAddr) :=
  Compare.tie.comap tie

theorem compare_less : (compare : Compare (ServerIdentity SockAddr)).less = less := rfl

theorem compare_equiv_iff {a b : ServerIdentity SockAddr} : compare.equiv a b ↔ a = b := by
  rw [compare, Compare.comap_equiv, Compare.tie, Compare.ofStrictTotal_equiv]
  exact tie_injective.eq_iff

/-- Neither identity is below the other exactly when they are `==`. -/
theorem incomparable_iff_equal [DecidableEq SockAddr] {a b : ServerIdentity SockAddr} :
    (a.less b = false ∧ b.less a = false) ↔ a.equal b := by
  show compare.less a b = false ∧ compare.less b a = false ↔ _
  rw [← Compare.equiv_iff, compare_equiv_iff, equal_iff, ← tie_injective.eq_iff, tie, tie,
    Prod.mk.injEq]

/-- One network's map of `mDotTracker`: `std::map<ServerIdentity, DnsTlsServer>`. -/
abbrev DotServers (SockAddr Server : Type) [LT SockAddr]
    [DecidableRel (· < · : SockAddr → SockAddr → Prop)] [IsStrictTotalOrder SockAddr (· < ·)] :=
  OrderedMap (compare : Compare (ServerIdentity SockAddr)) Server

variable {Server : Type}

/-- A server map holds at most one entry per address and provider. -/
theorem dotServers_nodup (servers : DotServers SockAddr Server) :
    (servers.entries.map fun entry => (entry.1.sockaddr, entry.1.provider)).Nodup := by
  have keys := List.Nodup.map tie_injective servers.keys_nodup
  rw [List.map_map] at keys
  exact keys

/-- The order of identities, under the assumption on the order of socket addresses: it is
irreflexive and transitive, two identities are incomparable exactly when they are `==`,
that is when both fields match, a server map keeps one entry per address and provider, and
the same address under two provider names is two servers. -/
theorem less_consistent_with_equal [DecidableEq SockAddr] :
    (∀ a : ServerIdentity SockAddr, a.less a = false) ∧
      (∀ a b c : ServerIdentity SockAddr, a.less b → b.less c → a.less c) ∧
      (∀ a b : ServerIdentity SockAddr, (a.less b = false ∧ b.less a = false) ↔ a.equal b) ∧
      (∀ a b : ServerIdentity SockAddr,
        a.equal b ↔ a.sockaddr = b.sockaddr ∧ a.provider = b.provider) ∧
      (∀ {Server : Type} (servers : DotServers SockAddr Server),
        (servers.entries.map fun entry => (entry.1.sockaddr, entry.1.provider)).Nodup) ∧
      (∀ {Server : Type} (servers : DotServers SockAddr Server) (a b : ServerIdentity SockAddr)
        (x y : Server), a.sockaddr = b.sockaddr → a.provider ≠ b.provider →
        ((servers.insertOrAssign a x).insertOrAssign b y).find a = some (a, x) ∧
          ((servers.insertOrAssign a x).insertOrAssign b y).find b = some (b, y)) :=
  ⟨compare.less_irrefl, fun _ _ _ => compare.less_trans, fun _ _ => incomparable_iff_equal,
    fun _ _ => equal_iff, dotServers_nodup,
    fun servers _ _ x y _ otherProvider => servers.find_insertOrAssign_insertOrAssign
      (fun _ _ => compare_equiv_iff) (fun same => otherProvider (congrArg provider same)) x y⟩

/-- One address, written as text, under the anonymous name and under a provider name: two
keys of one server map. -/
theorem less_consistent_with_equal_two_names :
    IsStrictTotalOrder String (· < ·) ∧
      (((OrderedMap.empty : DotServers String Nat).insertOrAssign ⟨"192.0.2.1", ""⟩ 1)
          |>.insertOrAssign ⟨"192.0.2.1", "dns.google"⟩ 2).find ⟨"192.0.2.1", ""⟩ =
        some (⟨"192.0.2.1", ""⟩, 1) :=
  ⟨inferInstance, (less_consistent_with_equal.2.2.2.2.2 OrderedMap.empty ⟨"192.0.2.1", ""⟩
    ⟨"192.0.2.1", "dns.google"⟩ 1 2 rfl (by decide)).1⟩

end ServerIdentity

end Android.Net
