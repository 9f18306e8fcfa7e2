/-
This file models the check by which the integration tests compare the resolver's
per-server statistics with what they expect, `expectStatsFromGetResolverInfo`, and the two
ways they call it, `expectStatsEqualTo` and `expectStatsNotGreaterThan`.

The check reads the resolver's info: a list of servers and a parallel list of statistics. It
records a failure and returns false when the info cannot be read, when the two lists differ
in length, when they differ in length from the expected list, or when an expected server is
not listed. Otherwise it compares each expected server's statistics with those at the
server's first position, field by field, and returns true. The comparisons are gtest
`EXPECT`s: a mismatch is recorded under the server's `SCOPED_TRACE`, and the check goes on.

The statistics are C `int`s, 32-bit two's complement: `BitVec 32` here, compared through
`toInt`. `EXPECT_NEAR` compares in `double`, where the difference of two `int`s is exact.
`EXPECT_LE` compares with `stats.rtt_avg + RTT_TOLERANCE_MS`, an `int` sum that overflows
when the average is within the tolerance of `INT_MAX`; C leaves that overflow undefined, and
the model wraps, as the hardware does.

The file proves what a test can read off the check: the result is true exactly when the
info was read, the lengths agree and every expected server is listed, whatever the
statistics; with distinct expected servers, a true result means every listed server was
compared; and the failures a true result comes with are, server by server, the fields on
which the statistics miss what the comparison expects, each under its server's trace. Data
that passes the equality check without a failure passes the not-greater-than check without
one too, as long as no expected average plus the tolerance overflows.
-/

import PrivateDns.Compare

namespace Android.Net.Test

/-- `NameserverStats`: a server and the statistics a test expects of it, with the defaults
of its `int` fields. -/
structure NameserverStats where
  server : String
  successes : BitVec 32 := 0
  errors : BitVec 32 := 0
  timeouts : BitVec 32 := 0
  internalErrors : BitVec 32 := 0
  rttAvg : BitVec 32 := -1
  deriving DecidableEq, Repr

/-- The `int` fields of `ResolverStats` that the check reads. -/
structure ResolverStats where
  successes : BitVec 32
  errors : BitVec 32
  timeouts : BitVec 32
  internalErrors : BitVec 32
  rttAvg : BitVec 32
  deriving DecidableEq, Repr

/-- What `getResolverInfo()` gives when it succeeds: the servers and, in parallel, their
statistics. -/
structure ResolverInfo where
  dnsServers : List String
  stats : List ResolverStats
  deriving DecidableEq, Repr

/-- `ResolverTest::StatsCmp`. -/
inductive StatsCmp where
  | le
  | eq
  deriving DecidableEq, Repr

/-- A field of the statistics that an `EXPECT` compares. -/
inductive StatsField where
  | successes
  | errors
  | timeouts
  | internalErrors
  | rttAvg
  deriving DecidableEq, Repr

/-- A failure the check records: an `ADD_FAILURE` message, or an `EXPECT` on a field that did
not hold. The server is that of the `SCOPED_TRACE` in effect. -/
inductive Failure where
  | message (trace : Option String) (text : String)
  | field (trace : String) (name : StatsField)
  deriving DecidableEq, Repr

/-- `RTT_TOLERANCE_MS`, an `int`. -/
def rttToleranceMs : BitVec 32 := 200

/-- An `EXPECT` on `name`: no failure if it holds. -/
def expectField (holds : Prop) [Decidable holds] (name : StatsField) : List StatsField :=
  if holds then [] else [name]

/-- The `EXPECT`s of one server's comparison, in the order the `switch` makes them: the
fields whose check does not hold. -/
def failedFields (cmp : StatsCmp) (reported : ResolverStats) (expected : NameserverStats) :
    List StatsField :=
  match cmp with
  | .eq =>
    expectField (reported.successes = expected.successes) .successes ++
      expectField (reported.errors = expected.errors) .errors ++
      expectField (reported.timeouts = expected.timeouts) .timeouts ++
      expectField (reported.internalErrors = expected.internalErrors) .internalErrors ++
      if reported.rttAvg.toInt < 0 ∨ expected.rttAvg.toInt < 0 then
        expectField (reported.rttAvg = expected.rttAvg) .rttAvg
      else
        expectField (|reported.rttAvg.toInt - expected.rttAvg.toInt| ≤ rttToleranceMs.toInt)
          .rttAvg
  | .le =>
    expectField (reported.successes.toInt ≤ expected.successes.toInt) .successes ++
      expectField (reported.errors.toInt ≤ expected.errors.toInt) .errors ++
      expectField (reported.timeouts.toInt ≤ expected.timeouts.toInt) .timeouts ++
      expectField (reported.internalErrors.toInt ≤ expected.internalErrors.toInt)
        .internalErrors ++
      expectField (reported.rttAvg.toInt ≤ (expected.rttAvg + rttToleranceMs).toInt) .rttAvg

/-- The message for an expected server that the info does not list. -/
def notFoundMessage (server : String) (resServers : List String) : String :=
  "nameserver " ++ server ++ " not found in the list \x7b" ++ ", ".intercalate resServers ++
    "\x7d"

/-- The statistics at a server's first position, if the server is listed: `std::find`, then
`res_stats[index]`, in range by the size check before the loop. -/
def reportedStats (info : ResolverInfo) (sizes : info.dnsServers.length = info.stats.length)
    (server : String) : Option ResolverStats :=
  match found : info.dnsServers.indexOf? server with
  | none => none
  | some index =>
    some (info.stats.get ⟨index, sizes ▸ (List.findIdx?_eq_some_iff_findIdx_eq.mp found).1⟩)

/-- The loop over the expected servers, after the size checks, with the failures recorded
so far. -/
def checkServers (info : ResolverInfo) (sizes : info.dnsServers.length = info.stats.length)
    (cmp : StatsCmp) : List NameserverStats → List Failure → Bool × List Failure
  | [], failures => (true, failures)
  | stats :: rest, failures =>
    match reportedStats info sizes stats.server with
    | none =>
      (false, failures ++ [.message (some stats.server)
        (notFoundMessage stats.server info.dnsServers)])
    | some reported =>
      checkServers info sizes cmp rest
        (failures ++ (failedFields cmp reported stats).map (.field stats.server))

/-- `expectStatsFromGetResolverInfo(nameserversStats, cmp)`, given what `getResolverInfo()`
returned. -/
def expectStatsFromGetResolverInfo (resolvInfo : Except String ResolverInfo)
    (nameserversStats : List NameserverStats) (cmp : StatsCmp) : Bool × List Failure :=
  match resolvInfo with
  | .error message => (false, [.message none message])
  | .ok info =>
    if sizes : info.dnsServers.length ≠ info.stats.length then
      (false, [.message none ("res_servers.size() != res_stats.size(): " ++
        toString info.dnsServers.length ++ " != " ++ toString info.stats.length)])
    else if info.dnsServers.length ≠ nameserversStats.length then
      (false, [.message none ("res_servers.size() != nameserversStats.size(): " ++
        toString info.dnsServers.length ++ " != " ++ toString nameserversStats.length)])
    else checkServers info (Decidable.of_not_not sizes) cmp nameserversStats []

/-- `expectStatsEqualTo(nameserversStats)`. -/
def expectStatsEqualTo (resolvInfo : Except String ResolverInfo)
    (nameserversStats : List NameserverStats) : Bool × List Failure :=
  expectStatsFromGetResolverInfo resolvInfo nameserversStats .eq

/-- `expectStatsNotGreaterThan(nameserversStats)`. -/
def expectStatsNotGreaterThan (resolvInfo : Except String ResolverInfo)
    (nameserversStats : List NameserverStats) : Bool × List Failure :=
  expectStatsFromGetResolverInfo resolvInfo nameserversStats .le

/-! ### What a comparison expects -/

/-- The fields an `EXPECT` compares, in the order the check compares them. -/
def StatsField.all : List StatsField := [.successes, .errors, .timeouts, .internalErrors, .rttAvg]

/-- A field of the resolver's statistics. -/
def StatsField.ofResolverStats : StatsField → ResolverStats → BitVec 32
  | .successes, stats => stats.successes
  | .errors, stats => stats.errors
  | .timeouts, stats => stats.timeouts
  | .internalErrors, stats => stats.internalErrors
  | .rttAvg, stats => stats.rttAvg

/-- A field of the expected statistics. -/
def StatsField.ofNameserverStats : StatsField → NameserverStats → BitVec 32
  | .successes, stats => stats.successes
  | .errors, stats => stats.errors
  | .timeouts, stats => stats.timeouts
  | .internalErrors, stats => stats.internalErrors
  | .rttAvg, stats => stats.rttAvg

/-- What a comparison expects of one field, given the resolver's value and the expected one.
Equality asks for the same value, except that two non-negative averages need only be within
the tolerance; not-greater-than asks for a value at most the expected one, an average at most
the expected one plus the tolerance. -/
def StatsCmp.expects : StatsCmp → StatsField → BitVec 32 → BitVec 32 → Bool
  | .eq, .rttAvg, reported, expected =>
    if reported.toInt < 0 ∨ expected.toInt < 0 then reported = expected
    else |reported.toInt - expected.toInt| ≤ rttToleranceMs.toInt
  | .eq, _, reported, expected => reported = expected
  | .le, .rttAvg, reported, expected => reported.toInt ≤ (expected + rttToleranceMs).toInt
  | .le, _, reported, expected => reported.toInt ≤ expected.toInt

/-- The fields on which the resolver's statistics miss what the comparison expects, in the
order of `StatsField.all`. -/
def StatsCmp.mismatches (cmp : StatsCmp) (reported : ResolverStats)
    (expected : NameserverStats) : List StatsField :=
  StatsField.all.filter fun field =>
    !cmp.expects field (field.ofResolverStats reported) (field.ofNameserverStats expected)

theorem expectField_eq_filter (holds : Prop) [Decidable holds] (name : StatsField) :
    expectField holds name = [name].filter fun _ => !decide holds := by
  by_cases h : holds <;> simp [expectField, h]

/-- The `EXPECT`s of one server's comparison fail on exactly the mismatched fields. -/
theorem failedFields_eq_mismatches (cmp : StatsCmp) (reported : ResolverStats)
    (expected : NameserverStats) :
    failedFields cmp reported expected = cmp.mismatches reported expected := by
  have pieces (keep : StatsField → Bool) : StatsField.all.filter keep =
      [.successes].filter keep ++ [.errors].filter keep ++ [.timeouts].filter keep ++
        [.internalErrors].filter keep ++ [.rttAvg].filter keep := by
    simp only [← List.filter_append]
    rfl
  rw [StatsCmp.mismatches, pieces]
  cases cmp <;> simp only [failedFields, expectField_eq_filter, List.filter_cons, List.filter_nil,
    StatsCmp.expects, StatsField.ofResolverStats, StatsField.ofNameserverStats]
  congr 1
  split <;> simp only [*, if_true, if_false]

/-- The statistics at a server's first position in the info, if it is listed. -/
def ResolverInfo.statsOf (info : ResolverInfo) (server : String) : Option ResolverStats :=
  (info.dnsServers.zip info.stats).lookup server

/-- The statistics paired with a server's first position: `std::find`, then the index. -/
theorem lookup_zip_dnsServers (server : String) :
    ∀ (servers : List String) (stats : List ResolverStats),
      (servers.zip stats).lookup server = (servers.indexOf? server).bind (stats[·]?)
  | [], _ => rfl
  | _ :: _, [] => by simp
  | name :: servers, reported :: stats => by
    have tail := lookup_zip_dnsServers server servers stats
    unfold List.indexOf? at tail ⊢
    rw [List.zip_cons_cons, List.lookup_cons, List.findIdx?_cons, List.findIdx?_succ]
    by_cases same : name = server
    · simp [same]
    · have differs : (server == name) = false := by simpa using Ne.symm same
      simp only [same, differs, beq_iff_eq, if_false, tail]
      cases List.findIdx? (fun other => other == server) servers <;> simp

/-! ### The loop -/

section Loop

variable (info : ResolverInfo) (sizes : info.dnsServers.length = info.stats.length)

/-- The check reads the statistics at the server's first position. -/
theorem reportedStats_eq_statsOf (server : String) :
    reportedStats info sizes server = info.statsOf server := by
  rw [ResolverInfo.statsOf, lookup_zip_dnsServers]
  unfold reportedStats
  split <;> simp_all

/-- A server has statistics exactly when it is listed. -/
theorem reportedStats_eq_none_iff (server : String) :
    reportedStats info sizes server = none ↔ server ∉ info.dnsServers := by
  unfold reportedStats
  split
  · rename_i missing
    simp only [List.indexOf?_eq_none_iff, beq_iff_eq] at missing
    simpa using fun member => missing _ member rfl
  · rename_i index found
    obtain ⟨bound, matching, -⟩ := List.findIdx?_eq_some_iff_getElem.mp found
    have listed : server ∈ info.dnsServers := by
      rw [← beq_iff_eq.mp matching]
      exact List.getElem_mem bound
    simp [listed]

/-- The loop returns true exactly when every expected server is listed. -/
theorem checkServers_fst (cmp : StatsCmp) (expected : List NameserverStats)
    (failures : List Failure) :
    (checkServers info sizes cmp expected failures).1 = true ↔
      ∀ stats ∈ expected, stats.server ∈ info.dnsServers := by
  induction expected generalizing failures with
  | nil => simp [checkServers]
  | cons stats rest inductionHypothesis =>
    cases found : reportedStats info sizes stats.server with
    | none =>
      simp [checkServers, found, (reportedStats_eq_none_iff info sizes _).mp found]
    | some reported =>
      have listed : stats.server ∈ info.dnsServers := by
        by_contra absent
        simp [(reportedStats_eq_none_iff info sizes _).mpr absent] at found
      simp [checkServers, found, inductionHypothesis, listed]

/-- When every expected server is listed, the loop adds, server by server, the mismatched
fields of the server's statistics under the server's trace. -/
theorem checkServers_of_listed (cmp : StatsCmp) (expected : List NameserverStats)
    (failures : List Failure) (listed : ∀ stats ∈ expected, stats.server ∈ info.dnsServers) :
    checkServers info sizes cmp expected failures =
      (true, failures ++ expected.flatMap fun stats =>
        ((info.statsOf stats.server).elim [] (cmp.mismatches · stats)).map
          (.field stats.server)) := by
  induction expected generalizing failures with
  | nil => simp [checkServers]
  | cons stats rest inductionHypothesis =>
    obtain ⟨reported, found⟩ := Option.ne_none_iff_exists'.mp fun missing =>
      (reportedStats_eq_none_iff info sizes _).mp missing (listed stats (List.mem_cons_self _ _))
    have atFirst := (reportedStats_eq_statsOf info sizes _).symm.trans found
    simp only [checkServers, found, inductionHypothesis _
      (fun other member => listed other (List.mem_cons_of_mem _ member)),
      List.flatMap_cons, atFirst, Option.elim_some, failedFields_eq_mismatches, List.append_assoc]

/-- The loop only adds failures. -/
theorem prefix_checkServers (cmp : StatsCmp) (expected : List NameserverStats)
    (failures : List Failure) : failures <+: (checkServers info sizes cmp expected failures).2 := by
  induction expected generalizing failures with
  | nil => exact List.prefix_refl _
  | cons stats rest inductionHypothesis =>
    simp only [checkServers]
    split
    · exact List.prefix_append _ _
    · exact (List.prefix_append _ _).trans (inductionHypothesis _)

/-- An average plus the tolerance that fits in an `int` is their sum. -/
theorem toInt_add_rttToleranceMs {value : BitVec 32}
    (noOverflow : value.toInt + rttToleranceMs.toInt < 2 ^ 31) :
    (value + rttToleranceMs).toInt = value.toInt + rttToleranceMs.toInt := by
  have tolerance : rttToleranceMs.toNat = 200 := rfl
  have bound := value.isLt
  simp only [BitVec.toInt_eq_toNat_cond, BitVec.toNat_add, tolerance] at noOverflow ⊢
  split_ifs at noOverflow ⊢ <;> omega

/-- A field that meets the equality comparison meets the not-greater-than comparison, unless
it is an average whose sum with the tolerance overflows. -/
theorem expects_le_of_eq (field : StatsField) {reported expected : BitVec 32}
    (noOverflow : field = .rttAvg → expected.toInt + rttToleranceMs.toInt < 2 ^ 31)
    (equal : StatsCmp.eq.expects field reported expected) :
    StatsCmp.le.expects field reported expected := by
  cases field
  case rttAvg =>
    have tolerance : rttToleranceMs.toInt = 200 := rfl
    simp only [StatsCmp.expects, toInt_add_rttToleranceMs (noOverflow rfl), tolerance,
      decide_eq_true_eq] at equal ⊢
    split_ifs at equal
    · simp only [decide_eq_true_eq] at equal
      subst equal
      omega
    · have near := (abs_le.mp (of_decide_eq_true equal)).2
      omega
  all_goals simp_all [StatsCmp.expects]

/-- An equality comparison without a failure is a not-greater-than comparison without one,
when the expected average plus the tolerance fits in an `int`. -/
theorem failedFields_le_of_eq {reported : ResolverStats} {expected : NameserverStats}
    (noOverflow : expected.rttAvg.toInt + rttToleranceMs.toInt < 2 ^ 31)
    (clean : failedFields .eq reported expected = []) :
    failedFields .le reported expected = [] := by
  rw [failedFields_eq_mismatches] at clean ⊢
  simp only [StatsCmp.mismatches, List.filter_eq_nil_iff, Bool.not_eq_true',
    Bool.not_eq_false] at clean ⊢
  exact fun field member => expects_le_of_eq field (by rintro rfl; exact noOverflow)
    (clean field member)

/-- A loop of equality comparisons that records no failure is a loop of not-greater-than
comparisons that records none, when no expected average plus the tolerance overflows. -/
theorem checkServers_le_of_eq (expected : List NameserverStats) (failures : List Failure)
    (noOverflow : ∀ stats ∈ expected, stats.rttAvg.toInt + rttToleranceMs.toInt < 2 ^ 31)
    (clean : (checkServers info sizes .eq expected failures).2 = failures) :
    checkServers info sizes .le expected failures = (true, failures) := by
  induction expected generalizing failures with
  | nil => rfl
  | cons stats rest inductionHypothesis =>
    cases found : reportedStats info sizes stats.server with
    | none =>
      simp [checkServers, found] at clean
    | some reported =>
      simp only [checkServers, found] at clean ⊢
      have grown := (prefix_checkServers info sizes .eq rest
        (failures ++ (failedFields .eq reported stats).map (.field stats.server))).length_le
      rw [clean, List.length_append, List.length_map] at grown
      have none : failedFields .eq reported stats = [] :=
        List.eq_nil_of_length_eq_zero (by omega)
      rw [failedFields_le_of_eq (noOverflow stats (List.mem_cons_self _ _)) none, List.map_nil,
        List.append_nil]
      rw [none, List.map_nil, List.append_nil] at clean
      exact inductionHypothesis failures
        (fun other member => noOverflow other (List.mem_cons_of_mem _ member)) clean

end Loop

/-! ### What a test can read off the check -/

/-- The check returns true exactly when the info was read, its two lists and the expected
list have one length, and every expected server is listed: a mismatch of statistics is
recorded as a failure, never returned. -/
theorem expectStatsFromGetResolverInfo_fst (resolvInfo : Except String ResolverInfo)
    (nameserversStats : List NameserverStats) (cmp : StatsCmp) :
    (expectStatsFromGetResolverInfo resolvInfo nameserversStats cmp).1 = true ↔
      ∃ info, resolvInfo = .ok info ∧ info.dnsServers.length = info.stats.length ∧
        info.dnsServers.length = nameserversStats.length ∧
        ∀ stats ∈ nameserversStats, stats.server ∈ info.dnsServers := by
  cases resolvInfo with
  | error message => simp [expectStatsFromGetResolverInfo]
  | ok info =>
    simp only [expectStatsFromGetResolverInfo]
    split_ifs with sizes lengths
    · simp [sizes]
    · simp [lengths]
    · rw [checkServers_fst]
      simp_all

/-- With distinct expected servers, a true result means the expected servers are the listed
servers in some order: every listed server had its statistics compared. -/
theorem expectStats_compares_every_server (resolvInfo : Except String ResolverInfo)
    (info : ResolverInfo) (nameserversStats : List NameserverStats) (cmp : StatsCmp)
    (read : resolvInfo = .ok info) (distinct : (nameserversStats.map (·.server)).Nodup)
    (passed : (expectStatsFromGetResolverInfo resolvInfo nameserversStats cmp).1 = true) :
    (nameserversStats.map (·.server)).Perm info.dnsServers := by
  obtain ⟨found, readFound, -, lengths, listed⟩ :=
    (expectStatsFromGetResolverInfo_fst resolvInfo nameserversStats cmp).mp passed
  obtain rfl : info = found := Except.ok.inj (read.symm.trans readFound)
  refine (List.subperm_of_subset distinct fun server member => ?_).perm_of_length_le ?_
  · obtain ⟨stats, expected, rfl⟩ := List.mem_map.mp member
    exact listed stats expected
  · simp [lengths]

/-- A true result comes with, server by server in the expected order, the fields on which the
statistics at the server's first position miss what the comparison expects, each under the
server's trace. -/
theorem expectStatsFromGetResolverInfo_snd (resolvInfo : Except String ResolverInfo)
    (info : ResolverInfo) (nameserversStats : List NameserverStats) (cmp : StatsCmp)
    (read : resolvInfo = .ok info)
    (passed : (expectStatsFromGetResolverInfo resolvInfo nameserversStats cmp).1 = true) :
    (expectStatsFromGetResolverInfo resolvInfo nameserversStats cmp).2 =
      nameserversStats.flatMap fun stats =>
        ((info.statsOf stats.server).elim [] (cmp.mismatches · stats)).map
          (.field stats.server) := by
  obtain ⟨found, readFound, sizes, lengths, listed⟩ :=
    (expectStatsFromGetResolverInfo_fst resolvInfo nameserversStats cmp).mp passed
  obtain rfl : info = found := Except.ok.inj (read.symm.trans readFound)
  subst read
  simp only [expectStatsFromGetResolverInfo]
  rw [dif_neg (not_not.mpr sizes), if_neg (not_not.mpr lengths),
    checkServers_of_listed info _ cmp nameserversStats [] listed, List.nil_append]

/-- What a test can read off the check: the result is true exactly when the info was read,
the lengths agree and every expected server is listed, whatever the statistics and the
comparison; with distinct expected servers, true means they are the listed servers in some
order, so every listed server had its statistics compared; and a true result comes with,
server by server in the expected order, the fields on which the statistics at the server's
first position miss what the comparison expects, each under the server's trace. -/
theorem expectStatsFromGetResolverInfo_result (resolvInfo : Except String ResolverInfo)
    (nameserversStats : List NameserverStats) (cmp : StatsCmp) :
    ((expectStatsFromGetResolverInfo resolvInfo nameserversStats cmp).1 = true ↔
      ∃ info, resolvInfo = .ok info ∧ info.dnsServers.length = info.stats.length ∧
        info.dnsServers.length = nameserversStats.length ∧
        ∀ stats ∈ nameserversStats, stats.server ∈ info.dnsServers) ∧
      (∀ info, resolvInfo = .ok info → (nameserversStats.map (·.server)).Nodup →
        (expectStatsFromGetResolverInfo resolvInfo nameserversStats cmp).1 = true →
        (nameserversStats.map (·.server)).Perm info.dnsServers) ∧
      ∀ info, resolvInfo = .ok info →
        (expectStatsFromGetResolverInfo resolvInfo nameserversStats cmp).1 = true →
        (expectStatsFromGetResolverInfo resolvInfo nameserversStats cmp).2 =
          nameserversStats.flatMap fun stats =>
            ((info.statsOf stats.server).elim [] (cmp.mismatches · stats)).map
              (.field stats.server) :=
  ⟨expectStatsFromGetResolverInfo_fst resolvInfo nameserversStats cmp,
    fun info read distinct passed =>
      expectStats_compares_every_server resolvInfo info nameserversStats cmp read distinct passed,
    fun info read passed =>
      expectStatsFromGetResolverInfo_snd resolvInfo info nameserversStats cmp read passed⟩

/-- Two servers, expected in the other order than listed, the first with a stale average: the
check passes, and records the average of the second as a failure. -/
theorem expectStatsFromGetResolverInfo_result_swapped :
    (([{ server := "127.0.0.2" }, { server := "127.0.0.1", successes := 1 }] :
        List NameserverStats).map (·.server)).Nodup ∧
      (expectStatsFromGetResolverInfo
        (.ok ⟨["127.0.0.1", "127.0.0.2"], [⟨1, 0, 0, 0, 10⟩, ⟨0, 0, 0, 0, -1⟩]⟩)
        [{ server := "127.0.0.2" }, { server := "127.0.0.1", successes := 1 }] .eq).1 = true ∧
      (([{ server := "127.0.0.2" }, { server := "127.0.0.1", successes := 1 }] :
        List NameserverStats).map (·.server)).Perm ["127.0.0.1", "127.0.0.2"] ∧
      (expectStatsFromGetResolverInfo
        (.ok ⟨["127.0.0.1", "127.0.0.2"], [⟨1, 0, 0, 0, 10⟩, ⟨0, 0, 0, 0, -1⟩]⟩)
        [{ server := "127.0.0.2" }, { server := "127.0.0.1", successes := 1 }] .eq).2 =
        [.field "127.0.0.1" .rttAvg] :=
  ⟨by decide, by decide, (expectStatsFromGetResolverInfo_result _ _ .eq).2.1
    ⟨["127.0.0.1", "127.0.0.2"], [⟨1, 0, 0, 0, 10⟩, ⟨0, 0, 0, 0, -1⟩]⟩ rfl (by decide)
    (by decide),
    ((expectStatsFromGetResolverInfo_result _ _ .eq).2.2
      ⟨["127.0.0.1", "127.0.0.2"], [⟨1, 0, 0, 0, 10⟩, ⟨0, 0, 0, 0, -1⟩]⟩ rfl
      (by decide)).trans (by decide)⟩

/-- Statistics that pass the equality check with no failure pass the not-greater-than check
with no failure, when no expected average plus the tolerance overflows an `int`. -/
theorem expectStatsNotGreaterThan_of_expectStatsEqualTo (resolvInfo : Except String ResolverInfo)
    (nameserversStats : List NameserverStats)
    (noOverflow :
      ∀ stats ∈ nameserversStats, stats.rttAvg.toInt + rttToleranceMs.toInt < 2 ^ 31)
    (clean : (expectStatsEqualTo resolvInfo nameserversStats).2 = []) :
    expectStatsNotGreaterThan resolvInfo nameserversStats = (true, []) := by
  cases resolvInfo with
  | error message => simp [expectStatsEqualTo, expectStatsFromGetResolverInfo] at clean
  | ok info =>
    simp only [expectStatsEqualTo, expectStatsNotGreaterThan,
      expectStatsFromGetResolverInfo] at clean ⊢
    by_cases sizes : info.dnsServers.length ≠ info.stats.length
    · simp [sizes] at clean
    · by_cases lengths : info.dnsServers.length ≠ nameserversStats.length
      · simp [sizes, lengths] at clean
      · rw [dif_neg sizes, if_neg lengths] at clean ⊢
        exact checkServers_le_of_eq info _ nameserversStats [] noOverflow clean

/-- One server whose average is within the tolerance. -/
theorem expectStatsNotGreaterThan_of_expectStatsEqualTo_near :
    (∀ stats ∈ ([{ server := "127.0.0.1", successes := 3, errors := 1, rttAvg := 100 }] :
        List NameserverStats), stats.rttAvg.toInt + rttToleranceMs.toInt < 2 ^ 31) ∧
      (expectStatsEqualTo (.ok ⟨["127.0.0.1"], [⟨3, 1, 0, 0, 150⟩]⟩)
        [{ server := "127.0.0.1", successes := 3, errors := 1, rttAvg := 100 }]).2 = [] ∧
      expectStatsNotGreaterThan (.ok ⟨["127.0.0.1"], [⟨3, 1, 0, 0, 150⟩]⟩)
        [{ server := "127.0.0.1", successes := 3, errors := 1, rttAvg := 100 }] = (true, []) :=
  ⟨by decide, by decide, expectStatsNotGreaterThan_of_expectStatsEqualTo _ _ (by decide)
    (by decide)⟩

/-- At `INT_MAX` the sum with the tolerance wraps: an average that passes the equality check
fails the not-greater-than check. -/
example :
    (expectStatsEqualTo (.ok ⟨["127.0.0.1"], [⟨0, 0, 0, 0, 0x7fffffff⟩]⟩)
        [{ server := "127.0.0.1", rttAvg := 0x7fffffff }]).2 = [] ∧
      expectStatsNotGreaterThan (.ok ⟨["127.0.0.1"], [⟨0, 0, 0, 0, 0x7fffffff⟩]⟩)
        [{ server := "127.0.0.1", rttAvg := 0x7fffffff }] =
        (true, [.field "127.0.0.1" .rttAvg]) := by
  decide

end Android.Net.Test
