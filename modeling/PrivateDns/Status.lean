/-
This file models the snapshot `PrivateDnsStatus` that the query path reads, and its two
views: the validated DoT servers and whether a DoH server is validated.

`validatedServers` walks `dotServersMap` in iteration order and appends each server whose
validation succeeded. The walk is a fold with an accumulator; the file proves it is the
map's success entries in map order, so the list inherits the map's invariant: it is
strictly increasing under `AddressComparator`, has no repeated server, and names each
success server and no other. `DnsTlsServer` and `AddressComparator` are declared outside
this header, so both stay parameters: the results hold for every server type and every
comparator the map can be built with.
-/

import PrivateDns.OrderedMap

namespace Android.Net

/-- Modelled from the spec: the `Validation` enum, declared in `DnsTlsServer.h`, which is
not part of this header. The spec's data model lists the states unknown, in_process,
success and fail. -/
inductive Validation where
  | inProcess
  | success
  | fail
  | unknown
  deriving DecidableEq, Repr

/-- `DohServerInfo`, reduced to the field the snapshot's readers use. -/
structure DohServerInfo where
  status : Validation
  deriving DecidableEq, Repr

/-- `PrivateDnsStatus`: the DoT servers keyed under `AddressComparator`, and the DoH
servers keyed by socket address under `std::less`. -/
structure PrivateDnsStatus {Server SockAddr : Type} (addressComparator : Compare Server)
    (sockAddrLess : Compare SockAddr) where
  dotServersMap : OrderedMap addressComparator Validation
  dohServersMap : OrderedMap sockAddrLess DohServerInfo

namespace PrivateDnsStatus

variable {Server SockAddr : Type} {addressComparator : Compare Server}
  {sockAddrLess : Compare SockAddr}

/-- One turn of the loop of `validatedServers`: `push_back` a success server. -/
def pushValidated (servers : List Server) (pair : Server × Validation) : List Server :=
  if pair.2 = .success then servers ++ [pair.1] else servers

/-- `validatedServers()`. -/
def validatedServers (status : PrivateDnsStatus addressComparator sockAddrLess) : List Server :=
  status.dotServersMap.entries.foldl pushValidated []

/-- `hasValidatedDohServers()`: the loop returns at the first validated DoH server. -/
def hasValidatedDohServers (status : PrivateDnsStatus addressComparator sockAddrLess) : Bool :=
  status.dohServersMap.entries.any fun pair => pair.2.status = .success

/-- The loop appends the success servers of the rest of the walk, in order. -/
theorem foldl_pushValidated (servers : List Server) (entries : List (Server × Validation)) :
    entries.foldl pushValidated servers =
      servers ++ (entries.filter fun pair => pair.2 = .success).map Prod.fst := by
  induction entries generalizing servers with
  | nil => simp
  | cons pair rest inductionHypothesis =>
    rw [List.foldl_cons, inductionHypothesis, pushValidated]
    by_cases success : pair.2 = .success <;> simp [success]

theorem validatedServers_eq (status : PrivateDnsStatus addressComparator sockAddrLess) :
    status.validatedServers =
      (status.dotServersMap.entries.filter fun pair => pair.2 = .success).map Prod.fst := by
  rw [validatedServers, foldl_pushValidated, List.nil_append]

theorem mem_validatedServers (status : PrivateDnsStatus addressComparator sockAddrLess)
    {server : Server} :
    server ∈ status.validatedServers ↔ (server, .success) ∈ status.dotServersMap.entries := by
  simp [validatedServers_eq]

/-- A validated server is a success entry of the map, and the only entry of its key. -/
theorem validation_eq_success_of_mem (status : PrivateDnsStatus addressComparator sockAddrLess)
    {server : Server} (validated : server ∈ status.validatedServers) {validation : Validation}
    (member : (server, validation) ∈ status.dotServersMap.entries) : validation = .success := by
  rw [mem_validatedServers] at validated
  have same := status.dotServersMap.eq_of_equiv member validated
    (addressComparator.equiv_refl server)
  exact (Prod.ext_iff.mp same).2

theorem validatedServers_sorted (status : PrivateDnsStatus addressComparator sockAddrLess) :
    status.validatedServers.Pairwise fun a b => addressComparator.less a b := by
  rw [validatedServers_eq, List.pairwise_map]
  exact status.dotServersMap.sorted.filter _

theorem validatedServers_nodup (status : PrivateDnsStatus addressComparator sockAddrLess) :
    status.validatedServers.Nodup :=
  status.validatedServers_sorted.imp fun below same => by
    rw [same, addressComparator.less_irrefl] at below
    exact Bool.false_ne_true below

theorem hasValidatedDohServers_iff (status : PrivateDnsStatus addressComparator sockAddrLess) :
    status.hasValidatedDohServers ↔
      ∃ pair ∈ status.dohServersMap.entries, pair.2.status = .success := by
  simp [hasValidatedDohServers]

/-- The two views of a snapshot: the validated DoT servers are the map's success servers
in map order, so strictly increasing, repetition-free, complete and exact; and a DoH
server counts as validated iff some DoH entry is a success. -/
theorem validatedServers_spec (status : PrivateDnsStatus addressComparator sockAddrLess) :
    status.validatedServers =
        (status.dotServersMap.entries.filter fun pair => pair.2 = .success).map Prod.fst ∧
      status.validatedServers.Pairwise (fun a b => addressComparator.less a b) ∧
      status.validatedServers.Nodup ∧
      (∀ server, (server, Validation.success) ∈ status.dotServersMap.entries →
        server ∈ status.validatedServers) ∧
      (∀ server ∈ status.validatedServers, ∀ validation,
        (server, validation) ∈ status.dotServersMap.entries → validation = .success) ∧
      (status.hasValidatedDohServers ↔
        ∃ pair ∈ status.dohServersMap.entries, pair.2.status = .success) :=
  ⟨status.validatedServers_eq, status.validatedServers_sorted, status.validatedServers_nodup,
    fun _ member => status.mem_validatedServers.mpr member,
    fun _ validated _ member => status.validation_eq_success_of_mem validated member,
    status.hasValidatedDohServers_iff⟩

end PrivateDnsStatus

end Android.Net
