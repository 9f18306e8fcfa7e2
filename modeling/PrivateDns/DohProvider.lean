/-
This file models `DohProviderEntry::getDohIdentity`, which decides whether a known DoH
provider serves a network and at which address.

Given the network's sorted list of valid server addresses and its private DNS hostname,
the entry answers in one of two ways. With a hostname, the hostname must be the
provider's, and the first address is taken without looking at the provider's published
addresses: the TLS handshake will verify the hostname. Without a hostname nothing will be
verified later, so the entry takes the first address the provider itself publishes. The
file proves that this is all `getDohIdentity` does: when it answers and what it answers,
and that the answer's address is always a supplied one, and a published one when no
hostname is given. Over the built-in table `mAvailableDoHProviders`, whose hostnames are
distinct, a private DNS hostname therefore selects at most one provider.

`DohIdentity` compares through `std::tie(ipAddr, host)`, against another identity or
against a `ServerIdentity` rendered as text; the last section relates the two.
-/

import PrivateDns.ServerIdentity
import PrivateDns.Status

namespace Android.Net

/-- `PrivateDnsConfiguration::DohIdentity`. -/
structure DohIdentity where
  httpsTemplate : String
  ipAddr : String
  host : String
  status : Validation
  deriving DecidableEq, Repr

/-- `std::less<std::string>`. -/
def stringLess : Compare String := Compare.ofLT String

/-- `PrivateDnsConfiguration::DohProviderEntry`, reduced to the fields `getDohIdentity`
reads; `ips` is a `std::set<std::string>`. -/
structure DohProviderEntry where
  ips : OrderedSet stringLess
  host : String
  httpsTemplate : String

namespace DohProviderEntry

/-- The identity `getDohIdentity` returns for the address it chose. -/
def dohIdentity (entry : DohProviderEntry) (ip host : String) : DohIdentity :=
  ⟨entry.httpsTemplate, ip, host, .inProcess⟩

/-- The loop of `getDohIdentity`: the first address the provider publishes. -/
def matchIps (entry : DohProviderEntry) (host : String) : List String → Except String DohIdentity
  | [] => .error "server not matched"
  | ip :: rest =>
    if entry.ips.find ip = none then entry.matchIps host rest else .ok (entry.dohIdentity ip host)

/-- `getDohIdentity(sortedValidIps, host)`. -/
def getDohIdentity (entry : DohProviderEntry) (sortedValidIps : List String) (host : String) :
    Except String DohIdentity :=
  if host.isEmpty then entry.matchIps host sortedValidIps
  else if entry.host ≠ host then .error ("host " ++ host ++ " not matched")
  else match sortedValidIps with
    | ip :: _ => .ok (entry.dohIdentity ip host)
    | [] => entry.matchIps host []

/-! ### The answer of `getDohIdentity` -/

theorem ips_find_eq_none_iff (entry : DohProviderEntry) (ip : String) :
    entry.ips.find ip = none ↔ ip ∉ entry.ips.elements := by
  rw [← entry.ips.find_isSome_iff ip fun _ _ => Compare.ofLT_equiv, Option.not_isSome_iff_eq_none]

/-- The loop answers with the first published address. -/
theorem matchIps_eq_ok_iff (entry : DohProviderEntry) (host : String) (ips : List String)
    (identity : DohIdentity) :
    entry.matchIps host ips = .ok identity ↔
      ∃ ip, ips.find? (· ∈ entry.ips.elements) = some ip ∧
        identity = entry.dohIdentity ip host := by
  induction ips with
  | nil => simp [matchIps]
  | cons ip rest inductionHypothesis =>
    by_cases published : ip ∈ entry.ips.elements
    · have found : entry.ips.find ip ≠ none := by rwa [ne_eq, ips_find_eq_none_iff, not_not]
      simp [matchIps, found, published, eq_comm]
    · have missing : entry.ips.find ip = none := (ips_find_eq_none_iff _ _).mpr published
      simp [matchIps, missing, published, inductionHypothesis]

/-- What `getDohIdentity` answers: with a hostname, the provider's hostname and the first
address; without one, the first address the provider publishes. -/
theorem getDohIdentity_eq_ok_iff (entry : DohProviderEntry) (sortedValidIps : List String)
    (host : String) (identity : DohIdentity) :
    entry.getDohIdentity sortedValidIps host = .ok identity ↔
      ∃ ip, identity = entry.dohIdentity ip host ∧
        if host = "" then sortedValidIps.find? (· ∈ entry.ips.elements) = some ip
        else host = entry.host ∧ sortedValidIps.head? = some ip := by
  by_cases empty : host = ""
  · simp only [getDohIdentity, empty, String.isEmpty_iff, if_true, matchIps_eq_ok_iff]
    exact exists_congr fun _ => and_comm
  · have named : host.isEmpty = false :=
      Bool.eq_false_iff.mpr fun isEmpty => empty ((String.isEmpty_iff host).mp isEmpty)
    by_cases other : entry.host = host
    · cases sortedValidIps with
      | nil => simp [getDohIdentity, named, other, empty, matchIps]
      | cons ip rest => simp [getDohIdentity, named, other, empty, eq_comm]
    · simp [getDohIdentity, named, other, empty, Ne.symm other]

/-- `getDohIdentity` answers exactly when a hostname is given, is the provider's, and some
address is supplied, or no hostname is given and some supplied address is published by the
provider. Its answer carries the provider's template, the given hostname and the
in-process status; its address is the first supplied one in the first case and the first
published supplied one in the second, so it is always supplied, and published when no
hostname is given. -/
theorem getDohIdentity_spec (entry : DohProviderEntry) (sortedValidIps : List String)
    (host : String) :
    ((∃ identity, entry.getDohIdentity sortedValidIps host = .ok identity) ↔
        (host ≠ "" ∧ host = entry.host ∧ sortedValidIps ≠ []) ∨
          (host = "" ∧ ∃ ip ∈ sortedValidIps, ip ∈ entry.ips.elements)) ∧
      ∀ identity, entry.getDohIdentity sortedValidIps host = .ok identity →
        identity.httpsTemplate = entry.httpsTemplate ∧ identity.host = host ∧
          identity.status = .inProcess ∧
          (host ≠ "" → sortedValidIps.head? = some identity.ipAddr) ∧
          (host = "" → sortedValidIps.find? (· ∈ entry.ips.elements) = some identity.ipAddr) ∧
          identity.ipAddr ∈ sortedValidIps ∧
          (host = "" → identity.ipAddr ∈ entry.ips.elements) := by
  simp only [getDohIdentity_eq_ok_iff]
  constructor
  · by_cases empty : host = ""
    · simp only [empty, if_true, ne_eq, not_true_eq_false, false_and, true_and, false_or]
      constructor
      · rintro ⟨_, ip, -, found⟩
        exact ⟨ip, List.mem_of_find?_eq_some found, by simpa using List.find?_some found⟩
      · rintro ⟨ip, member, published⟩
        have some_found : (sortedValidIps.find? (· ∈ entry.ips.elements)).isSome :=
          List.find?_isSome.mpr ⟨ip, member, by simpa using published⟩
        obtain ⟨first, found⟩ := Option.isSome_iff_exists.mp some_found
        exact ⟨_, first, rfl, found⟩
    · cases sortedValidIps <;> simp [empty]
  · rintro _ ⟨ip, rfl, answer⟩
    by_cases empty : host = ""
    · simp only [empty, if_true] at answer
      exact ⟨rfl, rfl, rfl, fun named => absurd empty named, fun _ => answer,
        List.mem_of_find?_eq_some answer, fun _ => by simpa using List.find?_some answer⟩
    · simp only [empty, if_false] at answer
      exact ⟨rfl, rfl, rfl, fun _ => answer.2, fun unnamed => absurd unnamed empty,
        List.mem_of_mem_head? answer.2, fun unnamed => absurd unnamed empty⟩

/-- With a hostname, a provider answers only under its own hostname. -/
theorem host_eq_of_getDohIdentity_eq_ok {entry : DohProviderEntry} {sortedValidIps : List String}
    {host : String} {identity : DohIdentity} (named : host ≠ "")
    (answer : entry.getDohIdentity sortedValidIps host = .ok identity) : host = entry.host := by
  obtain ⟨_, -, chosen⟩ := (getDohIdentity_eq_ok_iff ..).mp answer
  rw [if_neg named] at chosen
  exact chosen.1

end DohProviderEntry

/-! ### The built-in providers -/

/-- `mAvailableDoHProviders`, each entry reduced to the fields `getDohIdentity` reads. -/
def availableDoHProviders : List DohProviderEntry :=
  [⟨.ofList ["2001:4860:4860::8888", "2001:4860:4860::8844", "8.8.8.8", "8.8.4.4"],
      "dns.google", "https://dns.google/dns-query"⟩,
    ⟨.ofList ["2001:4860:4860::64", "2001:4860:4860::6464"],
      "dns64.dns.google", "https://dns64.dns.google/dns-query"⟩,
    ⟨.ofList ["2606:4700::6810:f8f9", "2606:4700::6810:f9f9", "104.16.248.249", "104.16.249.249"],
      "cloudflare-dns.com", "https://cloudflare-dns.com/dns-query"⟩,
    ⟨.ofList ["127.0.0.3", "::1"], "example.com", "https://example.com/dns-query"⟩,
    ⟨.ofList ["192.0.2.100"], "dns.androidtesting.org", "https://dns.androidtesting.org/dns-query"⟩]

theorem availableDoHProviders_hosts_nodup :
    (availableDoHProviders.map DohProviderEntry.host).Nodup := by
  decide

/-- A private DNS hostname selects at most one built-in provider: the providers' hostnames
are distinct, and with a hostname a provider answers only under its own. -/
theorem getDohIdentity_host_unique {sortedValidIps : List String} {host : String}
    (named : host ≠ "") {first second : DohProviderEntry}
    (firstMem : first ∈ availableDoHProviders) (secondMem : second ∈ availableDoHProviders)
    (firstAnswers : ∃ identity, first.getDohIdentity sortedValidIps host = .ok identity)
    (secondAnswers : ∃ identity, second.getDohIdentity sortedValidIps host = .ok identity) :
    first = second := by
  obtain ⟨_, firstAnswer⟩ := firstAnswers
  obtain ⟨_, secondAnswer⟩ := secondAnswers
  exact List.inj_on_of_nodup_map availableDoHProviders_hosts_nodup firstMem secondMem
    ((DohProviderEntry.host_eq_of_getDohIdentity_eq_ok named firstAnswer).symm.trans
      (DohProviderEntry.host_eq_of_getDohIdentity_eq_ok named secondAnswer))

/-- The hostname `dns.google` with one address: the first built-in provider answers, and it
is the only one. -/
theorem getDohIdentity_host_unique_dnsGoogle :
    ∃ entry ∈ availableDoHProviders,
      (∃ identity, entry.getDohIdentity ["8.8.8.8"] "dns.google" = .ok identity) ∧
        ∀ other ∈ availableDoHProviders,
          (∃ identity, other.getDohIdentity ["8.8.8.8"] "dns.google" = .ok identity) →
            other = entry :=
  ⟨_, List.mem_cons_self _ _, ⟨_, rfl⟩, fun _ otherMem otherAnswers =>
    getDohIdentity_host_unique (by decide) otherMem (List.mem_cons_self _ _) otherAnswers
      ⟨_, rfl⟩⟩

/-! ### Comparing identities -/

namespace DohIdentity

/-- `std::tie(ipAddr, host)`, the tuple every comparison of an identity reads. -/
def tie (identity : DohIdentity) : String × String := (identity.ipAddr, identity.host)

/-- `operator<(const DohIdentity&)`. -/
def less (identity other : DohIdentity) : Bool := tieLess identity.tie other.tie

/-- `operator==(const DohIdentity&)`. -/
def equal (identity other : DohIdentity) : Bool := tieEqual identity.tie other.tie

/-- `operator<` orders identities strictly and weakly: it is the tie's order, read through
`tie`. -/
theorem less_isStrictWeakOrder : IsStrictWeakOrder DohIdentity fun a b => less a b = true :=
  (Compare.tie.comap tie).strictWeakOrder

/-- `operator<` as a comparator: identities ordered by address, then by hostname. -/
def compare : Compare DohIdentity := ⟨less, less_isStrictWeakOrder⟩

theorem compare_less : compare.less = less := rfl

/-- Two identities are one key exactly when they are `==`: same address and hostname,
whatever their templates and statuses. -/
theorem compare_equiv_iff_equal {a b : DohIdentity} : compare.equiv a b ↔ a.equal b := by
  rw [show compare = Compare.tie.comap tie from rfl, Compare.comap_equiv, Compare.tie_equiv,
    equal]

variable {SockAddr : Type}

/-- `operator<(const ServerIdentity&)`; `ipString` renders `sockaddr.ip().toString()`. -/
def lessServer (ipString : SockAddr → String) (identity : DohIdentity)
    (other : ServerIdentity SockAddr) : Bool :=
  tieLess identity.tie (ipString other.sockaddr, other.provider)

/-- `operator==(const ServerIdentity&)`. -/
def equalServer (ipString : SockAddr → String) (identity : DohIdentity)
    (other : ServerIdentity SockAddr) : Bool :=
  tieEqual identity.tie (ipString other.sockaddr, other.provider)

/-- Comparing with a DoT server is comparing with any DoH identity at its rendered address
and provider. -/
theorem lessServer_eq_less (ipString : SockAddr → String) (identity : DohIdentity)
    (other : ServerIdentity SockAddr) (httpsTemplate : String) (status : Validation) :
    identity.lessServer ipString other =
      identity.less ⟨httpsTemplate, ipString other.sockaddr, other.provider, status⟩ := rfl

theorem equalServer_eq_equal (ipString : SockAddr → String) (identity : DohIdentity)
    (other : ServerIdentity SockAddr) (httpsTemplate : String) (status : Validation) :
    identity.equalServer ipString other =
      identity.equal ⟨httpsTemplate, ipString other.sockaddr, other.provider, status⟩ := rfl

end DohIdentity

end Android.Net
