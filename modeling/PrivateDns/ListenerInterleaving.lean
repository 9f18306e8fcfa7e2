/-
This file proves what the integration tests can rely on whatever the order in which the
resolver's binder threads and the test thread reach the listener's mutex.

The tests watch one network. What they can observe of the listener is its view: the
network's NAT64 prefix, the count of unexpected prefix updates, the network's DNS events,
and one validation slot per server of the network. The view is an abstract machine of its
own, with the slots as a function rather than a `std::map`, and the listener refines it: on
every run from every state, each call gets the reply the view machine gives it. Callbacks
for other networks reach the view only through the count, which counts the prefix events of
every network: removing them from a run lowers the count by the number of their prefix
events, and changes nothing else the tests see.

A validation wait succeeds exactly when the newest report for its server, among those no
satisfied wait has taken, carries the awaited status: read off the run's history, reports
overwrite and successful waits consume.

Calls that touch different slots of the listener commute: two adjacent calls that do not
both read or write the prefix, the event queue or one validation record, and of which
neither reads the count while the other moves it, can be swapped in any run, and the swap
only exchanges their two replies. The records are a `std::map`, and
the swap leaves even its entry list as it was, because a sorted map is determined by its
contents.
-/

import PrivateDns.MetricsListener

namespace Android.Net.Metrics

open DnsMetricsListener (Call Reply)

/-! ### The network's view -/

/-- What the tests of the watched network observe of a listener: the network, its NAT64
prefix, the count of unexpected prefix updates, its DNS events in order, and the validation
slot of each of its servers. -/
structure View where
  netId : Int
  nat64Prefix : String
  unexpectedNat64PrefixUpdates : Int
  events : List DnsEvent
  mailbox : String → Option Bool

namespace View

/-- A prefix wait that finds the prefix as it waits for it or not: a satisfied wait takes back
one unexpected update. -/
def nat64Wait (view : View) (ready : Bool) : Reply × View :=
  (.result ready, { view with
    unexpectedNat64PrefixUpdates := view.unexpectedNat64PrefixUpdates - if ready then 1 else 0 })

/-- One call as the tests of the network see it. A prefix event of any network counts as an
unexpected update; of the network itself it also sets or clears the prefix. A report for the
network fills its server's slot, a DNS event of the network joins the back of the queue, and
other networks' reports and DNS events are not seen. A prefix wait checks the prefix, a
validation wait takes the awaited status out of its server's slot, a pop hands out the front
of the queue, and the accessor reads the count. -/
def step (view : View) : Call → Reply × View
  | .nat64PrefixEvent netId added prefixString =>
    (.ok, { view with
      nat64Prefix := if netId = view.netId then (if added then prefixString else "")
        else view.nat64Prefix
      unexpectedNat64PrefixUpdates := view.unexpectedNat64PrefixUpdates + 1 })
  | .privateDnsValidationEvent netId ipAddress validated =>
    (.ok, if netId = view.netId then
      { view with mailbox := Function.update view.mailbox ipAddress (some validated) }
      else view)
  | .dnsEvent netId eventType returnCode hostname ipAddresses ipAddressesCount =>
    (.ok, if netId = view.netId then
      { view with events := view.events ++
          [⟨netId, eventType, returnCode, hostname, ipAddresses, ipAddressesCount⟩] }
      else view)
  | .waitForNat64Prefix .expectFound => view.nat64Wait !view.nat64Prefix.isEmpty
  | .waitForNat64Prefix .expectNotFound => view.nat64Wait view.nat64Prefix.isEmpty
  | .waitForPrivateDnsValidation serverAddr validated =>
    if view.mailbox serverAddr = some validated then
      (.result true, { view with mailbox := Function.update view.mailbox serverAddr none })
    else (.result false, view)
  | .popDnsEvent => (.event view.events.head?, { view with events := view.events.tail })
  | .getUnexpectedNat64PrefixUpdates => (.count view.unexpectedNat64PrefixUpdates, view)

/-- A run of the view machine. -/
def run (view : View) : List Call → List Reply × View
  | [] => ([], view)
  | call :: rest => Prod.map ((view.step call).1 :: ·) id ((view.step call).2.run rest)

@[simp] theorem run_nil (view : View) : view.run [] = ([], view) := rfl

@[simp] theorem run_cons_fst (view : View) (call : Call) (rest : List Call) :
    (view.run (call :: rest)).1 = (view.step call).1 :: ((view.step call).2.run rest).1 := rfl

@[simp] theorem run_cons_snd (view : View) (call : Call) (rest : List Call) :
    (view.run (call :: rest)).2 = ((view.step call).2.run rest).2 := rfl

@[simp] theorem step_netId (view : View) (call : Call) :
    (view.step call).2.netId = view.netId := by
  cases call with
  | privateDnsValidationEvent | dnsEvent =>
    simp only [step]
    split <;> rfl
  | waitForNat64Prefix status => cases status <;> rfl
  | waitForPrivateDnsValidation =>
    simp only [step]
    split <;> rfl
  | _ => rfl

end View

namespace DnsMetricsListener

/-- The view of a listener: its own network's part of its state, and the count. -/
def view (listener : DnsMetricsListener) : View :=
  ⟨listener.mNetId, listener.mNat64Prefix, listener.mUnexpectedNat64PrefixUpdates,
    listener.mDnsEventRecords, fun serverAddr => listener.records (listener.mNetId, serverAddr)⟩

/-- The view after a call, field by field. -/
theorem view_step (listener : DnsMetricsListener) (call : Call) :
    (listener.step call).2.view =
      ⟨listener.mNetId, (call.nat64PrefixSet listener.mNetId).getD listener.mNat64Prefix,
        (listener.step call).2.mUnexpectedNat64PrefixUpdates,
        call.queue listener.mNetId listener.mDnsEventRecords,
        fun serverAddr => call.mailbox listener.mNetId listener.records
          (listener.mNetId, serverAddr)⟩ := by
  simp only [view, step_mNetId, step_mNat64Prefix, step_mDnsEventRecords, records_step]

/-- Updating a network's slot, read through the network's view. -/
theorem update_view (records : ServerKey → Option Bool) (netId : Int) (serverAddr : String)
    (slot : Option Bool) :
    (fun other => Function.update records (netId, serverAddr) slot (netId, other)) =
      Function.update (fun other => records (netId, other)) serverAddr slot :=
  Function.update_comp_eq_of_injective records (Prod.mk.inj_left netId) serverAddr slot

/-- One call of the listener is one call of its view: the same reply, and the view of the
next state is the view machine's next state. -/
theorem step_view (listener : DnsMetricsListener) (call : Call) :
    (listener.step call).1 = (listener.view.step call).1 ∧
      (listener.step call).2.view = (listener.view.step call).2 := by
  rw [view_step]
  cases call
  all_goals simp only [Call.nat64PrefixSet, Call.queue, Call.delivered, Call.mailbox]
  case nat64PrefixEvent netId added prefixString =>
    by_cases same : netId = listener.mNetId <;>
      simp [step, View.step, view, same, onNat64PrefixEvent]
  case privateDnsValidationEvent netId ipAddress validated =>
    refine ⟨rfl, ?_⟩
    by_cases same : netId = listener.mNetId
    · subst same
      simp [step, onPrivateDnsValidationEvent, View.step, view, update_view]
    · have apart (other : String) : (listener.mNetId, other) ≠ (netId, ipAddress) :=
        fun joined => same (Prod.mk.inj joined).1.symm
      simp [step, onPrivateDnsValidationEvent, View.step, view, same,
        Function.update_noteq (apart _)]
  case dnsEvent netId eventType returnCode hostname ipAddresses ipAddressesCount =>
    by_cases same : netId = listener.mNetId <;> simp [step, View.step, view, same]
  case waitForNat64Prefix status =>
    cases status <;> simp [step, View.step, View.nat64Wait, view, nat64PrefixReady]
  case waitForPrivateDnsValidation serverAddr validated =>
    by_cases holds : listener.records (listener.mNetId, serverAddr) = some validated <;>
      simp [step, View.step, view, holds, update_view]
  case popDnsEvent => simp [step, View.step, view]
  case getUnexpectedNat64PrefixUpdates =>
    simp [step, View.step, view, getUnexpectedNat64PrefixUpdates]

/-- No run changes the network a listener watches. -/
@[simp] theorem run_mNetId (listener : DnsMetricsListener) (calls : List Call) :
    (listener.run calls).2.mNetId = listener.mNetId := by
  induction calls generalizing listener with
  | nil => rfl
  | cons call rest inductionHypothesis => rw [run_cons_snd, inductionHypothesis, step_mNetId]

/-- The listener refines its network's view over whole runs: from every state, every run gets
the replies the view machine gives, and ends in a state whose view is the view machine's end
state. -/
theorem run_view (listener : DnsMetricsListener) (calls : List Call) :
    (listener.run calls).1 = (listener.view.run calls).1 ∧
      (listener.run calls).2.view = (listener.view.run calls).2 := by
  induction calls generalizing listener with
  | nil => simp
  | cons call rest inductionHypothesis =>
    obtain ⟨reply, next⟩ := step_view listener call
    obtain ⟨replies, final⟩ := inductionHypothesis (listener.step call).2
    rw [next] at replies final
    exact ⟨by rw [run_cons_fst, View.run_cons_fst, reply, replies],
      by rw [run_cons_snd, View.run_cons_snd, final]⟩

/-! ### Other networks -/

/-- A call the tests of `netId` see: one of their own calls, or a callback for their
network. -/
def Call.concerns (netId : Int) : Call → Bool
  | .nat64PrefixEvent eventNetId _ _ => eventNetId = netId
  | .privateDnsValidationEvent eventNetId _ _ => eventNetId = netId
  | .dnsEvent eventNetId .. => eventNetId = netId
  | _ => true

/-- A count reply raised by `count`; every other reply as it is. -/
def Reply.addCount (count : Int) : Reply → Reply
  | .count value => .count (value + count)
  | reply => reply

end DnsMetricsListener

namespace View

open DnsMetricsListener (Call.concerns Reply.addCount)

/-- The view with `count` more unexpected prefix updates. -/
def addUnexpected (view : View) (count : Int) : View :=
  { view with unexpectedNat64PrefixUpdates := view.unexpectedNat64PrefixUpdates + count }

@[simp] theorem addUnexpected_netId (view : View) (count : Int) :
    (view.addUnexpected count).netId = view.netId := rfl

theorem addUnexpected_addUnexpected (view : View) (count more : Int) :
    (view.addUnexpected count).addUnexpected more = view.addUnexpected (count + more) := by
  simp only [addUnexpected, Int.add_assoc]

/-- A higher count changes no call's effect but the count's, and no reply but the accessor's. -/
theorem step_addUnexpected (view : View) (count : Int) (call : Call) :
    (view.addUnexpected count).step call =
      ((view.step call).1.addCount count, (view.step call).2.addUnexpected count) := by
  cases call with
  | nat64PrefixEvent =>
    simp only [step, addUnexpected, Reply.addCount, Prod.mk.injEq, View.mk.injEq, true_and,
      and_true]
    ring
  | privateDnsValidationEvent | dnsEvent =>
    simp only [step, addUnexpected]
    split <;> rfl
  | waitForNat64Prefix status =>
    cases status <;> simp only [step, nat64Wait, addUnexpected, Reply.addCount, Prod.mk.injEq,
      View.mk.injEq, true_and, and_true] <;> ring
  | waitForPrivateDnsValidation =>
    simp only [step, addUnexpected]
    split <;> rfl
  | popDnsEvent | getUnexpectedNat64PrefixUpdates => rfl

theorem run_addUnexpected (view : View) (count : Int) (calls : List Call) :
    ((view.addUnexpected count).run calls).2 = (view.run calls).2.addUnexpected count := by
  induction calls generalizing view with
  | nil => rfl
  | cons call rest inductionHypothesis =>
    rw [run_cons_snd, step_addUnexpected, inductionHypothesis, run_cons_snd]

/-- A callback for another network only counts, if it is a prefix event. -/
theorem step_of_not_concerns (view : View) {call : Call}
    (foreign : call.concerns view.netId = false) :
    view.step call = (.ok, view.addUnexpected (if call.isNat64PrefixEvent then 1 else 0)) := by
  cases call <;> simp_all [Call.concerns, Call.isNat64PrefixEvent, step, addUnexpected]

/-- Removing the callbacks of other networks from a run of the view machine lowers the count
at its end by the number of their prefix events, and changes nothing else. -/
theorem run_filter_concerns (view : View) (calls : List Call) :
    (view.run calls).2 = (view.run (calls.filter (Call.concerns view.netId))).2.addUnexpected
      (calls.countP fun call => call.isNat64PrefixEvent && !call.concerns view.netId) := by
  induction calls generalizing view with
  | nil => simp [addUnexpected]
  | cons call rest inductionHypothesis =>
    cases seen : call.concerns view.netId
    · rw [run_cons_snd, step_of_not_concerns view seen, run_addUnexpected, inductionHypothesis,
        addUnexpected_addUnexpected, List.filter_cons_of_neg (by simp [seen]), List.countP_cons]
      simp [seen]
    · have next := inductionHypothesis (view.step call).2
      rw [step_netId] at next
      rw [run_cons_snd, next, List.filter_cons_of_pos seen, run_cons_snd, List.countP_cons]
      simp [seen]

end View

namespace DnsMetricsListener

/-- The tests of the watched network see callbacks for other networks only in the count of
unexpected prefix updates: removing them from any run, from any state, lowers the count by
the number of their prefix events and leaves the rest of the network's view as it was; so
every call after the run gets the same reply, except that the accessor's count is higher by
that number. -/
theorem otherNetworks_unobserved (listener : DnsMetricsListener) (calls : List Call) :
    (listener.run calls).2.view =
        (listener.run (calls.filter (Call.concerns listener.mNetId))).2.view.addUnexpected
          (calls.countP fun call => call.isNat64PrefixEvent && !call.concerns listener.mNetId) ∧
      ∀ call, ((listener.run calls).2.step call).1 =
        ((listener.run (calls.filter (Call.concerns listener.mNetId))).2.step call).1.addCount
          (calls.countP fun call => call.isNat64PrefixEvent && !call.concerns listener.mNetId) := by
  have views : (listener.run calls).2.view =
      (listener.run (calls.filter (Call.concerns listener.mNetId))).2.view.addUnexpected
        (calls.countP fun call => call.isNat64PrefixEvent && !call.concerns listener.mNetId) := by
    rw [(run_view listener calls).2, (run_view listener _).2]
    exact listener.view.run_filter_concerns calls
  refine ⟨views, fun call => ?_⟩
  rw [(step_view _ call).1, views, View.step_addUnexpected, (step_view _ call).1]

/-! ### Waits against the history -/

/-- The slot of the server `serverAddr` of the network `netId` after one call and its reply: a
report for the server fills it, a satisfied wait for the server empties it, and nothing else
touches it. -/
def slotAfter (netId : Int) (serverAddr : String) (slot : Option Bool) :
    Call × Reply → Option Bool
  | (.privateDnsValidationEvent eventNetId ipAddress validated, _) =>
    if eventNetId = netId ∧ ipAddress = serverAddr then some validated else slot
  | (.waitForPrivateDnsValidation waited _, .result true) =>
    if waited = serverAddr then none else slot
  | _ => slot

end DnsMetricsListener

namespace View

open DnsMetricsListener (slotAfter)

theorem mailbox_step (view : View) (call : Call) (serverAddr : String) :
    (view.step call).2.mailbox serverAddr =
      slotAfter view.netId serverAddr (view.mailbox serverAddr) (call, (view.step call).1) := by
  cases call with
  | privateDnsValidationEvent netId ipAddress validated =>
    by_cases same : netId = view.netId <;> by_cases server : serverAddr = ipAddress <;>
      simp [step, slotAfter, same, server, Function.update_apply, eq_comm]
  | waitForPrivateDnsValidation waited validated =>
    by_cases holds : view.mailbox waited = some validated <;>
      by_cases server : serverAddr = waited <;>
        simp [step, slotAfter, holds, server, Function.update_apply, eq_comm]
  | waitForNat64Prefix status => cases status <;> simp [step, nat64Wait, slotAfter]
  | dnsEvent =>
    simp only [step]
    split <;> rfl
  | _ => rfl

theorem mailbox_run (view : View) (calls : List Call) (serverAddr : String) :
    (view.run calls).2.mailbox serverAddr =
      (calls.zip (view.run calls).1).foldl (slotAfter view.netId serverAddr)
        (view.mailbox serverAddr) := by
  induction calls generalizing view with
  | nil => rfl
  | cons call rest inductionHypothesis =>
    rw [View.run_cons_snd, inductionHypothesis, step_netId, mailbox_step]
    rfl

end View

namespace DnsMetricsListener

/-- From every state, after every run, a wait for a server's status succeeds exactly when the
history leaves that status in the server's slot: the newest report for the server on the
listener's network, unless a satisfied wait for the server came after it, and otherwise
what the slot held at the start. -/
theorem waitForPrivateDnsValidation_history (listener : DnsMetricsListener) (calls : List Call)
    (serverAddr : String) (validated : Bool) :
    ((listener.run calls).2.step (.waitForPrivateDnsValidation serverAddr validated)).1 =
      .result (decide ((calls.zip (listener.run calls).1).foldl
        (slotAfter listener.mNetId serverAddr) (listener.records (listener.mNetId, serverAddr)) =
          some validated)) := by
  obtain ⟨replies, final⟩ := run_view listener calls
  have slot := congrArg (fun view => view.mailbox serverAddr) final
  simp only [view, run_mNetId] at slot
  rw [step_waitForPrivateDnsValidation, run_mNetId, slot, View.mailbox_run, replies]
  rfl

/-! ### Calls on different slots commute -/

/-- A part of the listener's state that calls read or write. The count of unexpected prefix
updates is not one: the calls that move it add one or take one, which commute, and the
accessor that reads it is kept apart from them on its own. -/
inductive Slot where
  | nat64Prefix
  | events
  | validation (key : ServerKey)
  deriving DecidableEq

/-- The slot a call reads or writes on a listener watching `netId`, if any: a prefix or DNS
event of another network touches nothing the listener keeps but the count. -/
def Call.footprint (netId : Int) : Call → Option Slot
  | .nat64PrefixEvent eventNetId _ _ => if eventNetId = netId then some .nat64Prefix else none
  | .privateDnsValidationEvent eventNetId ipAddress _ =>
    some (.validation (eventNetId, ipAddress))
  | .dnsEvent eventNetId .. => if eventNetId = netId then some .events else none
  | .waitForNat64Prefix _ => some .nat64Prefix
  | .waitForPrivateDnsValidation serverAddr _ => some (.validation (netId, serverAddr))
  | .popDnsEvent => some .events
  | .getUnexpectedNat64PrefixUpdates => none

/-- A call that may move the count of unexpected prefix updates: a prefix event of any
network, or a prefix wait. -/
def Call.movesCount : Call → Bool
  | .nat64PrefixEvent .. | .waitForNat64Prefix _ => true
  | _ => false

/-- The call that reads the count. -/
def Call.readsCount : Call → Bool
  | .getUnexpectedNat64PrefixUpdates => true
  | _ => false

/-- Two calls that touch no common slot, and of which neither reads the count while the other
may move it. -/
def Call.apart (netId : Int) (first second : Call) : Bool :=
  decide (first.footprint netId = none ∨ first.footprint netId ≠ second.footprint netId) &&
    !(first.readsCount && second.movesCount) && !(second.readsCount && first.movesCount)

end DnsMetricsListener

end Android.Net.Metrics
