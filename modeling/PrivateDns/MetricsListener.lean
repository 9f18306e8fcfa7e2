/-
This file models `DnsMetricsListener`, the observer through which the integration tests
watch the resolver: it receives the resolver's validation, NAT64 prefix and DNS events,
and the test thread waits on what it has received.

The listener is a state machine shared by two sides. The resolver calls the three
callbacks; the test calls the waits, `popDnsEvent` and `getUnexpectedNat64PrefixUpdates`.
Each call runs under the listener's mutex, so a run is a sequence of calls, in any
interleaving of the two sides.
A wait polls until its condition holds or time runs out; its polls that fail change
nothing, so a wait is modelled by the one check that ends it, and the time limit only
decides where in the run that check falls.

The file proves what the tests rely on, over every run from every state: the DNS events
of the listener's network come out of `popDnsEvent` in the order they came in, none lost
and none twice, each pop handing out the oldest one not yet handed out, and no other
network's event ever comes out; the validation records are
a mailbox with one slot per network and server, refined by the `std::map` the listener
keeps, so a wait succeeds only on a report that no earlier wait consumed; and the NAT64
prefix is the one the last event for the network set, while the count of unexpected prefix
updates is the number of prefix events less the number of successful prefix waits.
-/

import PrivateDns.OrderedMap

namespace Android.Net.Metrics

/-- `DnsMetricsListener::DnsEvent`. -/
structure DnsEvent where
  netId : Int
  eventType : Int
  returnCode : Int
  hostname : String
  ipAddresses : List String
  ipAddressesCount : Int
  deriving DecidableEq, Repr

/-- `DnsEvent::operator==`: the tie of all six fields. -/
def DnsEvent.equal (event other : DnsEvent) : Bool :=
  event.netId == other.netId && event.eventType == other.eventType &&
    event.returnCode == other.returnCode && event.hostname == other.hostname &&
    event.ipAddresses == other.ipAddresses && event.ipAddressesCount == other.ipAddressesCount

/-- `operator==` compares every field, so it is equality of events. -/
theorem DnsEvent.equal_iff {event other : DnsEvent} : event.equal other ↔ event = other := by
  cases event
  cases other
  simp [DnsEvent.equal, and_assoc]

/-- What `waitForNat64Prefix` waits for. -/
inductive ExpectNat64PrefixStatus where
  | expectFound
  | expectNotFound
  deriving DecidableEq, Repr

/-- `ServerKey`: a network and a server address, ordered as `std::pair` orders them. -/
abbrev ServerKey := Int × String

/-- The state of `DnsMetricsListener` that its mutex guards, with the network it watches. The
count of unexpected prefix updates is an `int` that no test brings near overflow; it is
unbounded here. -/
structure DnsMetricsListener where
  mNetId : Int
  mUnexpectedNat64PrefixUpdates : Int
  mNat64Prefix : String
  mValidationRecords : OrderedMap (Compare.tie : Compare ServerKey) Bool
  mDnsEventRecords : List DnsEvent

namespace DnsMetricsListener

/-- A listener for the network `netId`, before any event. -/
def init (netId : Int) : DnsMetricsListener :=
  ⟨netId, 0, "", OrderedMap.empty, []⟩

/-! ### The calls -/

/-- `onNat64PrefixEvent`: every event counts as unexpected; one for the listener's network
sets or clears the prefix. -/
def onNat64PrefixEvent (listener : DnsMetricsListener) (netId : Int) (added : Bool)
    (prefixString : String) : DnsMetricsListener :=
  { listener with
    mUnexpectedNat64PrefixUpdates := listener.mUnexpectedNat64PrefixUpdates + 1
    mNat64Prefix :=
      if netId = listener.mNetId then (if added then prefixString else "")
      else listener.mNat64Prefix }

/-- `onPrivateDnsValidationEvent`: the latest status of the server replaces any earlier. -/
def onPrivateDnsValidationEvent (listener : DnsMetricsListener) (netId : Int)
    (ipAddress : String) (validated : Bool) : DnsMetricsListener :=
  { listener with
    mValidationRecords := listener.mValidationRecords.insertOrAssign (netId, ipAddress) validated }

/-- `onDnsEvent`: an event of the listener's network joins the back of the queue. The
latency and the uid are not recorded. -/
def onDnsEvent (listener : DnsMetricsListener) (netId eventType returnCode : Int)
    (hostname : String) (ipAddresses : List String) (ipAddressesCount : Int) :
    DnsMetricsListener :=
  if netId = listener.mNetId then
    { listener with
      mDnsEventRecords := listener.mDnsEventRecords ++
        [⟨netId, eventType, returnCode, hostname, ipAddresses, ipAddressesCount⟩] }
  else listener

/-- The condition `waitForNat64Prefix` polls for. -/
def nat64PrefixReady (listener : DnsMetricsListener) (status : ExpectNat64PrefixStatus) : Bool :=
  (status = .expectFound && !listener.mNat64Prefix.isEmpty) ||
    (status = .expectNotFound && listener.mNat64Prefix.isEmpty)

/-- The check that ends `waitForNat64Prefix`: a satisfied wait takes back one unexpected
update. -/
def waitForNat64Prefix (listener : DnsMetricsListener) (status : ExpectNat64PrefixStatus) :
    Bool × DnsMetricsListener :=
  if listener.nat64PrefixReady status then
    (true, { listener with
      mUnexpectedNat64PrefixUpdates := listener.mUnexpectedNat64PrefixUpdates - 1 })
  else (false, listener)

/-- `findAndRemoveValidationRecord(key, value)`. -/
def findAndRemoveValidationRecord (listener : DnsMetricsListener) (key : ServerKey)
    (value : Bool) : Bool × DnsMetricsListener :=
  match listener.mValidationRecords.find key with
  | some (_, recorded) =>
    if recorded = value then
      (true, { listener with mValidationRecords := listener.mValidationRecords.erase key })
    else (false, listener)
  | none => (false, listener)

/-- The check that ends `waitForPrivateDnsValidation(serverAddr, validated)`. -/
def waitForPrivateDnsValidation (listener : DnsMetricsListener) (serverAddr : String)
    (validated : Bool) : Bool × DnsMetricsListener :=
  listener.findAndRemoveValidationRecord (listener.mNetId, serverAddr) validated

/-- `popDnsEvent`, once its wait for a non-empty queue has ended. -/
def popDnsEvent (listener : DnsMetricsListener) : Option DnsEvent × DnsMetricsListener :=
  match listener.mDnsEventRecords with
  | [] => (none, listener)
  | event :: rest => (some event, { listener with mDnsEventRecords := rest })

/-- `getUnexpectedNat64PrefixUpdates()`, an accessor of `dns_metrics_listener.h`: the count of
prefix updates that no satisfied wait has taken back, read under the mutex. -/
def getUnexpectedNat64PrefixUpdates (listener : DnsMetricsListener) : Int :=
  listener.mUnexpectedNat64PrefixUpdates

/-- A call on the listener, by the resolver or by the test. -/
inductive Call where
  | nat64PrefixEvent (netId : Int) (added : Bool) (prefixString : String)
  | privateDnsValidationEvent (netId : Int) (ipAddress : String) (validated : Bool)
  | dnsEvent (netId eventType returnCode : Int) (hostname : String) (ipAddresses : List String)
      (ipAddressesCount : Int)
  | waitForNat64Prefix (status : ExpectNat64PrefixStatus)
  | waitForPrivateDnsValidation (serverAddr : String) (validated : Bool)
  | popDnsEvent
  | getUnexpectedNat64PrefixUpdates
  deriving DecidableEq

/-- What a call returns. -/
inductive Reply where
  | ok
  | result (value : Bool)
  | event (event : Option DnsEvent)
  | count (value : Int)
  deriving DecidableEq

/-- One call. -/
def step (listener : DnsMetricsListener) : Call → Reply × DnsMetricsListener
  | .nat64PrefixEvent netId added prefixString =>
    (.ok, listener.onNat64PrefixEvent netId added prefixString)
  | .privateDnsValidationEvent netId ipAddress validated =>
    (.ok, listener.onPrivateDnsValidationEvent netId ipAddress validated)
  | .dnsEvent netId eventType returnCode hostname ipAddresses ipAddressesCount =>
    (.ok, listener.onDnsEvent netId eventType returnCode hostname ipAddresses ipAddressesCount)
  | .waitForNat64Prefix status => Prod.map .result id (listener.waitForNat64Prefix status)
  | .waitForPrivateDnsValidation serverAddr validated =>
    Prod.map .result id (listener.waitForPrivateDnsValidation serverAddr validated)
  | .popDnsEvent => Prod.map .event id listener.popDnsEvent
  | .getUnexpectedNat64PrefixUpdates => (.count listener.getUnexpectedNat64PrefixUpdates, listener)

/-- A run: the calls in the order the mutex admitted them, and their replies. -/
def run (listener : DnsMetricsListener) : List Call → List Reply × DnsMetricsListener
  | [] => ([], listener)
  | call :: rest => Prod.map ((listener.step call).1 :: ·) id ((listener.step call).2.run rest)

@[simp] theorem run_nil (listener : DnsMetricsListener) : listener.run [] = ([], listener) := rfl

@[simp] theorem run_cons_fst (listener : DnsMetricsListener) (call : Call) (rest : List Call) :
    (listener.run (call :: rest)).1 =
      (listener.step call).1 :: ((listener.step call).2.run rest).1 := rfl

@[simp] theorem run_cons_snd (listener : DnsMetricsListener) (call : Call) (rest : List Call) :
    (listener.run (call :: rest)).2 = ((listener.step call).2.run rest).2 := rfl

/-! ### What each call changes -/

/-- The mailbox the validation records implement: for each network and server, the status
that no wait has consumed yet. -/
def records (listener : DnsMetricsListener) : ServerKey → Option Bool :=
  listener.mValidationRecords.lookup

theorem serverKey_equiv_iff (a b : ServerKey) :
    (Compare.tie : Compare ServerKey).equiv a b ↔ a = b :=
  Compare.ofStrictTotal_equiv _ _

@[simp] theorem onDnsEvent_eq (listener : DnsMetricsListener) (netId eventType returnCode : Int)
    (hostname : String) (ipAddresses : List String) (ipAddressesCount : Int) :
    listener.onDnsEvent netId eventType returnCode hostname ipAddresses ipAddressesCount =
      { listener with
        mDnsEventRecords := listener.mDnsEventRecords ++
          if netId = listener.mNetId then
            [⟨netId, eventType, returnCode, hostname, ipAddresses, ipAddressesCount⟩]
          else [] } := by
  unfold onDnsEvent
  split <;> simp

@[simp] theorem waitForNat64Prefix_eq (listener : DnsMetricsListener)
    (status : ExpectNat64PrefixStatus) :
    listener.waitForNat64Prefix status =
      (listener.nat64PrefixReady status,
        { listener with
          mUnexpectedNat64PrefixUpdates := listener.mUnexpectedNat64PrefixUpdates -
            if listener.nat64PrefixReady status then 1 else 0 }) := by
  unfold waitForNat64Prefix
  split <;> simp_all

@[simp] theorem findAndRemoveValidationRecord_eq (listener : DnsMetricsListener)
    (key : ServerKey) (value : Bool) :
    listener.findAndRemoveValidationRecord key value =
      (decide (listener.records key = some value),
        { listener with
          mValidationRecords :=
            if listener.records key = some value then listener.mValidationRecords.erase key
            else listener.mValidationRecords }) := by
  unfold findAndRemoveValidationRecord records OrderedMap.lookup
  cases listener.mValidationRecords.find key with
  | none => simp
  | some entry => by_cases matching : entry.2 = value <;> simp [matching]

@[simp] theorem waitForPrivateDnsValidation_eq (listener : DnsMetricsListener)
    (serverAddr : String) (validated : Bool) :
    listener.waitForPrivateDnsValidation serverAddr validated =
      listener.findAndRemoveValidationRecord (listener.mNetId, serverAddr) validated := rfl

@[simp] theorem popDnsEvent_eq (listener : DnsMetricsListener) :
    listener.popDnsEvent =
      (listener.mDnsEventRecords.head?,
        { listener with mDnsEventRecords := listener.mDnsEventRecords.tail }) := by
  obtain ⟨_, _, _, _, queue⟩ := listener
  cases queue <;> rfl

/-- No call changes the network a listener watches. -/
@[simp] theorem step_mNetId (listener : DnsMetricsListener) (call : Call) :
    (listener.step call).2.mNetId = listener.mNetId := by
  cases call <;> simp [step, onNat64PrefixEvent, onPrivateDnsValidationEvent]

/-! ### The DNS event queue -/

/-- The event a reply hands to the test. -/
def Reply.popped : Reply → List DnsEvent
  | .event (some handed) => [handed]
  | _ => []

/-- The event a call delivers to a listener of the network `netId`. -/
def Call.delivered (netId : Int) : Call → List DnsEvent
  | .dnsEvent eventNetId eventType returnCode hostname ipAddresses ipAddressesCount =>
    if eventNetId = netId then
      [⟨eventNetId, eventType, returnCode, hostname, ipAddresses, ipAddressesCount⟩]
    else []
  | _ => []

theorem netId_of_mem_delivered {netId : Int} {call : Call} {event : DnsEvent}
    (member : event ∈ call.delivered netId) : event.netId = netId := by
  cases call with
  | dnsEvent =>
    simp only [Call.delivered] at member
    split at member <;> simp_all
  | _ => simp [Call.delivered] at member

/-- The queue across one call: what comes out in front, then what stays, is what was
there, then what the call delivered. -/
theorem step_queue (listener : DnsMetricsListener) (call : Call) :
    (listener.step call).1.popped ++ (listener.step call).2.mDnsEventRecords =
      listener.mDnsEventRecords ++ call.delivered listener.mNetId := by
  cases call with
  | popDnsEvent =>
    simp only [step, popDnsEvent_eq, Prod.map_fst, Prod.map_snd, id, Call.delivered,
      List.append_nil]
    cases listener.mDnsEventRecords <;> rfl
  | _ => simp [step, Reply.popped, Call.delivered, onNat64PrefixEvent,
      onPrivateDnsValidationEvent]

/-- The queue a call leaves: a pop drops the front, any other call appends what it
delivered. -/
def Call.queue (netId : Int) (queue : List DnsEvent) : Call → List DnsEvent
  | .popDnsEvent => queue.tail
  | call => queue ++ call.delivered netId

theorem step_mDnsEventRecords (listener : DnsMetricsListener) (call : Call) :
    (listener.step call).2.mDnsEventRecords =
      call.queue listener.mNetId listener.mDnsEventRecords := by
  cases call <;> simp [step, Call.queue, Call.delivered, onNat64PrefixEvent,
    onPrivateDnsValidationEvent]

/-- The queue across a run: what came out, then what stays, is what was there, then every
event the run delivered, in order. -/
theorem run_queue (listener : DnsMetricsListener) (calls : List Call) :
    (listener.run calls).1.flatMap Reply.popped ++ (listener.run calls).2.mDnsEventRecords =
      listener.mDnsEventRecords ++ calls.flatMap (Call.delivered listener.mNetId) := by
  induction calls generalizing listener with
  | nil => simp
  | cons call rest inductionHypothesis =>
    have next := inductionHypothesis (listener.step call).2
    rw [step_mNetId] at next
    rw [run_cons_fst, run_cons_snd, List.flatMap_cons, List.append_assoc, next,
      ← List.append_assoc, step_queue, List.flatMap_cons, List.append_assoc]

/-- From a fresh listener, `popDnsEvent` hands out the events of the listener's network in
the order the resolver reported them, none lost and none twice: what it handed out, then
what is still queued, is exactly that sequence. So what it handed out is a prefix of it,
and no event of another network is ever handed out. After any run, a pop hands out the
oldest event not yet handed out, and nothing only when every event has been. -/
theorem popDnsEvent_fifo (netId : Int) (calls : List Call) :
    ((init netId).run calls).1.flatMap Reply.popped ++
        ((init netId).run calls).2.mDnsEventRecords =
      calls.flatMap (Call.delivered netId) ∧
      ((init netId).run calls).1.flatMap Reply.popped <+: calls.flatMap (Call.delivered netId) ∧
      (∀ event ∈ ((init netId).run calls).1.flatMap Reply.popped, event.netId = netId) ∧
      (((init netId).run calls).2.step .popDnsEvent).1 =
        .event (calls.flatMap (Call.delivered netId))[
          (((init netId).run calls).1.flatMap Reply.popped).length]? := by
  have whole := run_queue (init netId) calls
  have empty : (init netId).mDnsEventRecords = [] := rfl
  have network : (init netId).mNetId = netId := rfl
  rw [empty, network, List.nil_append] at whole
  refine ⟨whole, ⟨_, whole⟩, fun event member => ?_, ?_⟩
  · have delivered : event ∈ calls.flatMap (Call.delivered netId) :=
      whole ▸ List.mem_append_left _ member
    obtain ⟨call, -, inCall⟩ := List.mem_flatMap.mp delivered
    exact netId_of_mem_delivered inCall
  · have queued := congrArg (List.drop (((init netId).run calls).1.flatMap Reply.popped).length)
      whole
    rw [List.drop_left] at queued
    simp [step, queued, List.head?_eq_getElem?]

/-! ### The validation records -/

/-- What a call does to the mailbox of a listener watching `netId`. -/
def Call.mailbox (netId : Int) (mailbox : ServerKey → Option Bool) :
    Call → ServerKey → Option Bool
  | .privateDnsValidationEvent eventNetId ipAddress validated =>
    Function.update mailbox (eventNetId, ipAddress) (some validated)
  | .waitForPrivateDnsValidation serverAddr validated =>
    if mailbox (netId, serverAddr) = some validated then
      Function.update mailbox (netId, serverAddr) none
    else mailbox
  | _ => mailbox

/-- The records refine the mailbox: each call moves them as it moves the mailbox. -/
theorem records_step (listener : DnsMetricsListener) (call : Call) :
    (listener.step call).2.records = call.mailbox listener.mNetId listener.records := by
  cases call with
  | privateDnsValidationEvent =>
    exact OrderedMap.lookup_insertOrAssign _ serverKey_equiv_iff _ _
  | waitForPrivateDnsValidation serverAddr validated =>
    simp only [step, records, Call.mailbox, waitForPrivateDnsValidation_eq,
      findAndRemoveValidationRecord_eq, Prod.map_snd, id]
    split_ifs <;> simp [OrderedMap.lookup_erase _ serverKey_equiv_iff]
  | _ => simp [step, Call.mailbox, records, onNat64PrefixEvent]

/-- A wait answers from the mailbox. -/
theorem step_waitForPrivateDnsValidation (listener : DnsMetricsListener) (serverAddr : String)
    (validated : Bool) :
    (listener.step (.waitForPrivateDnsValidation serverAddr validated)).1 =
      .result (decide (listener.records (listener.mNetId, serverAddr) = some validated)) := by
  simp [step]

/-- A report for `key`. -/
def Call.reports (key : ServerKey) : Call → Bool
  | .privateDnsValidationEvent netId ipAddress _ => (netId, ipAddress) = key
  | _ => false

/-- A wait for the server `serverAddr` that a report satisfied. -/
def consumes (serverAddr : String) : Call × Reply → Bool
  | (.waitForPrivateDnsValidation waited _, .result true) => waited = serverAddr
  | _ => false

/-- One call consumes a report only by emptying the slot it was in. -/
theorem step_consumes_le (listener : DnsMetricsListener) (serverAddr : String) (call : Call) :
    (if consumes serverAddr (call, (listener.step call).1) then 1 else 0) +
        (if ((listener.step call).2.records (listener.mNetId, serverAddr)).isSome then 1 else 0) ≤
      (if call.reports (listener.mNetId, serverAddr) then 1 else 0) +
        (if (listener.records (listener.mNetId, serverAddr)).isSome then 1 else 0) := by
  rw [records_step]
  cases call with
  | privateDnsValidationEvent netId ipAddress validated =>
    simp only [Call.mailbox, Call.reports, consumes, step]
    by_cases same : (netId, ipAddress) = (listener.mNetId, serverAddr)
    · obtain ⟨rfl, rfl⟩ := Prod.mk.inj same
      simp
    · simp [same, Function.update_noteq (Ne.symm same)]
  | waitForPrivateDnsValidation waited validated =>
    rw [step_waitForPrivateDnsValidation]
    by_cases same : waited = serverAddr
    · subst same
      by_cases holds : listener.records (listener.mNetId, waited) = some validated <;>
        simp [Call.mailbox, Call.reports, consumes, holds]
    · have apart : (listener.mNetId, serverAddr) ≠ (listener.mNetId, waited) := by
        simpa using Ne.symm same
      by_cases holds : listener.records (listener.mNetId, waited) = some validated <;>
        simp [Call.mailbox, Call.reports, consumes, holds, same, Function.update_noteq apart]
  | _ => simp [Call.mailbox, Call.reports, consumes]

/-- Over a run, the waits for a server that succeed, and the report still in its slot, are
never more than the reports of the server, and the report in its slot at the start. -/
theorem run_consumes_le (listener : DnsMetricsListener) (serverAddr : String)
    (calls : List Call) :
    (calls.zip (listener.run calls).1).countP (consumes serverAddr) +
        (if ((listener.run calls).2.records (listener.mNetId, serverAddr)).isSome then 1 else 0) ≤
      calls.countP (Call.reports (listener.mNetId, serverAddr)) +
        (if (listener.records (listener.mNetId, serverAddr)).isSome then 1 else 0) := by
  induction calls generalizing listener with
  | nil => simp
  | cons call rest inductionHypothesis =>
    have next := inductionHypothesis (listener.step call).2
    have here := step_consumes_le listener serverAddr call
    rw [step_mNetId] at next
    simp only [run_cons_fst, run_cons_snd, List.zip_cons_cons, List.countP_cons]
    omega

/-- From a fresh listener no report satisfies two waits: the waits for a server that succeed
are never more than the reports of the server's status on the listener's network. -/
theorem waitForPrivateDnsValidation_consumes_le (netId : Int) (serverAddr : String)
    (calls : List Call) :
    (calls.zip ((init netId).run calls).1).countP (consumes serverAddr) ≤
      calls.countP (Call.reports (netId, serverAddr)) := by
  have bound := run_consumes_le (init netId) serverAddr calls
  have empty : (init netId).records ((init netId).mNetId, serverAddr) = none := rfl
  simp only [empty, Option.isSome_none, Bool.false_eq_true, if_false, add_zero] at bound
  exact (Nat.le_add_right _ _).trans bound

/-- A report is consumed by the next matching wait, and the wait after that finds it gone. -/
theorem report_consumed_once (listener : DnsMetricsListener) (serverAddr : String)
    (validated : Bool) :
    let reported :=
      (listener.step (.privateDnsValidationEvent listener.mNetId serverAddr validated)).2
    (reported.step (.waitForPrivateDnsValidation serverAddr validated)).1 = .result true ∧
      ((reported.step (.waitForPrivateDnsValidation serverAddr validated)).2.step
        (.waitForPrivateDnsValidation serverAddr validated)).1 = .result false := by
  simp only [step_waitForPrivateDnsValidation, records_step, step_mNetId]
  simp [Call.mailbox]

/-! ### The NAT64 prefix -/

/-- The prefix a call sets on a listener watching `netId`. -/
def Call.nat64PrefixSet (netId : Int) : Call → Option String
  | .nat64PrefixEvent eventNetId added prefixString =>
    if eventNetId = netId then some (if added then prefixString else "") else none
  | _ => none

/-- A prefix event, of any network. -/
def Call.isNat64PrefixEvent : Call → Bool
  | .nat64PrefixEvent .. => true
  | _ => false

/-- A prefix wait that was satisfied. -/
def satisfiesNat64Wait : Call × Reply → Bool
  | (.waitForNat64Prefix _, .result true) => true
  | _ => false

theorem step_mNat64Prefix (listener : DnsMetricsListener) (call : Call) :
    (listener.step call).2.mNat64Prefix =
      (call.nat64PrefixSet listener.mNetId).getD listener.mNat64Prefix := by
  cases call with
  | nat64PrefixEvent netId =>
    by_cases same : netId = listener.mNetId <;>
      simp [step, onNat64PrefixEvent, Call.nat64PrefixSet, same]
  | _ => simp [step, Call.nat64PrefixSet, onPrivateDnsValidationEvent]

/-- Over a run the prefix is the one the last prefix event of the network set, if any. -/
theorem run_mNat64Prefix (listener : DnsMetricsListener) (calls : List Call) :
    (listener.run calls).2.mNat64Prefix =
      ((calls.filterMap (Call.nat64PrefixSet listener.mNetId)).getLast?).getD
        listener.mNat64Prefix := by
  induction calls generalizing listener with
  | nil => rfl
  | cons call rest inductionHypothesis =>
    rw [run_cons_snd, inductionHypothesis, step_mNetId, step_mNat64Prefix, List.filterMap_cons]
    cases call.nat64PrefixSet listener.mNetId <;> simp [List.getLast?_cons]

theorem step_mUnexpectedNat64PrefixUpdates (listener : DnsMetricsListener) (call : Call) :
    (listener.step call).2.mUnexpectedNat64PrefixUpdates =
      listener.mUnexpectedNat64PrefixUpdates + (if call.isNat64PrefixEvent then 1 else 0) -
        (if satisfiesNat64Wait (call, (listener.step call).1) then 1 else 0) := by
  cases call with
  | waitForNat64Prefix status =>
    simp only [step, waitForNat64Prefix_eq, Prod.map_fst, Prod.map_snd, id]
    cases listener.nat64PrefixReady status <;> simp [Call.isNat64PrefixEvent, satisfiesNat64Wait]
  | _ => simp [step, Call.isNat64PrefixEvent, satisfiesNat64Wait, onNat64PrefixEvent,
      onPrivateDnsValidationEvent]

/-- Over a run the count of unexpected prefix updates grows by the prefix events and falls
by the satisfied prefix waits. -/
theorem run_mUnexpectedNat64PrefixUpdates (listener : DnsMetricsListener) (calls : List Call) :
    (listener.run calls).2.mUnexpectedNat64PrefixUpdates =
      listener.mUnexpectedNat64PrefixUpdates + calls.countP Call.isNat64PrefixEvent -
        (calls.zip (listener.run calls).1).countP satisfiesNat64Wait := by
  induction calls generalizing listener with
  | nil => simp
  | cons call rest inductionHypothesis =>
    have here := step_mUnexpectedNat64PrefixUpdates listener call
    simp only [run_cons_fst, run_cons_snd, List.zip_cons_cons, List.countP_cons,
      inductionHypothesis]
    split_ifs at here ⊢ <;> push_cast <;> omega

/-- From a fresh listener the prefix is the one the last prefix event of its network set, or
empty if there was none; the count of unexpected updates is the number of prefix events of
any network, less the number of satisfied prefix waits. -/
theorem nat64Prefix_run (netId : Int) (calls : List Call) :
    ((init netId).run calls).2.mNat64Prefix =
        ((calls.filterMap (Call.nat64PrefixSet netId)).getLast?).getD "" ∧
      ((init netId).run calls).2.mUnexpectedNat64PrefixUpdates =
        calls.countP Call.isNat64PrefixEvent -
          (calls.zip ((init netId).run calls).1).countP satisfiesNat64Wait := by
  rw [run_mNat64Prefix, run_mUnexpectedNat64PrefixUpdates]
  exact ⟨rfl, by simp [init]⟩

end DnsMetricsListener

end Android.Net.Metrics
