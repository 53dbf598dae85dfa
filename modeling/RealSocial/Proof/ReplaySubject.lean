import RealSocial.Library.Stream
import RealSocial.ReactiveObjC.ReplaySubject

namespace RealSocial.Proof

open Library SignalEvent RACReplaySubject

/-! # What the subscribers of a replay subject hear -/

section ReplaySubject

variable {α ε : Type}

def sends (events : List (Event α ε)) : List (SignalEvent α ε) :=
  events.filterMap fun
    | .send event => some event
    | _ => none

def isCompleted : SignalEvent α ε → Bool
  | .completed => true
  | _ => false

def errors (events : List (SignalEvent α ε)) : List ε :=
  events.filterMap fun
    | .error e => some e
    | _ => none

/-- What a new subscriber is sent of what has been sent before: the values that are kept, then completion rather
than an error, and of errors the last. -/
def replayed (capacity : Option Nat) (before : List (SignalEvent α ε)) : List (SignalEvent α ε) :=
  (removeOld capacity (values before)).map .next ++
    if before.any isCompleted then [.completed] else ((errors before).getLast?.map .error).toList

/-- What is sent until a subscription is disposed. -/
def sendsUntil (subscription : Nat) : List (Event α ε) → List (SignalEvent α ε)
  | [] => []
  | .dispose disposed :: events => if disposed = subscription then [] else sendsUntil subscription events
  | .send event :: events => event :: sendsUntil subscription events
  | .subscribe :: events => sendsUntil subscription events
  | .block _ _ :: events => sendsUntil subscription events

theorem sends_append (first second : List (Event α ε)) : sends (first ++ second) = sends first ++ sends second :=
  List.filterMap_append

theorem removeOld_removeOld (capacity : Option Nat) (kept : List α) (value : α) :
    removeOld capacity (removeOld capacity kept ++ [value]) = removeOld capacity (kept ++ [value]) := by
  cases capacity with
  | none => rfl
  | some capacity =>
      simp only [removeOld, List.length_append, List.length_drop, List.length_singleton]
      rw [← List.drop_append_of_le_length (Nat.sub_le _ _), List.drop_drop]
      congr 1
      omega

/-! ## What the subject keeps -/

structure SubjectKept (capacity : Option Nat) (events : List (Event α ε)) (subject : RACReplaySubject α ε) : Prop where
  same : subject.capacity = capacity
  valuesReceived : subject.valuesReceived = removeOld capacity (values (sends events))
  hasCompleted : subject.hasCompleted = (sends events).any isCompleted
  error : subject.error = (errors (sends events)).getLast?

theorem subjectKept_start (capacity : Option Nat) :
    SubjectKept capacity ([] : List (Event α ε)) { capacity } where
  same := rfl
  valuesReceived := by
    cases capacity with
    | none => rfl
    | some capacity => exact List.drop_nil.symm
  hasCompleted := rfl
  error := rfl

theorem subjectKept_send {capacity : Option Nat} {events : List (Event α ε)} {subject : RACReplaySubject α ε}
    (kept : SubjectKept capacity events subject) (event : SignalEvent α ε) :
    SubjectKept capacity (events ++ [.send event]) (subject.send event).1 := by
  have more : sends (events ++ [.send event]) = sends events ++ [event] := sends_append events _
  cases event with
  | next value =>
      refine ⟨kept.same, ?_, ?_, ?_⟩
      · rw [more, values_append, send, kept.same, kept.valuesReceived, removeOld_removeOld]
        rfl
      · rw [more, List.any_append, ← kept.hasCompleted]
        exact (Bool.or_false _).symm
      · rw [more, errors, List.filterMap_append, ← errors, send, kept.error]
        exact congrArg List.getLast? (List.append_nil _).symm
  | error e =>
      refine ⟨kept.same, ?_, ?_, ?_⟩
      · rw [more, values_append, send, kept.valuesReceived]
        exact congrArg _ (List.append_nil _).symm
      · rw [more, List.any_append, ← kept.hasCompleted]
        exact (Bool.or_false _).symm
      · rw [more, errors, List.filterMap_append]
        exact List.getLast?_concat.symm
  | completed =>
      refine ⟨kept.same, ?_, ?_, ?_⟩
      · rw [more, values_append, send, kept.valuesReceived]
        exact congrArg _ (List.append_nil _).symm
      · rw [more, List.any_append]
        exact (Bool.or_true _).symm
      · rw [more, errors, List.filterMap_append, ← errors, send, kept.error]
        exact congrArg List.getLast? (List.append_nil _).symm

theorem subjectKept_other {capacity : Option Nat} {events : List (Event α ε)} {subject after : RACReplaySubject α ε}
    (kept : SubjectKept capacity events subject) {event : Event α ε} (other : sends [event] = [])
    (same : after.capacity = subject.capacity) (valuesReceived : after.valuesReceived = subject.valuesReceived)
    (hasCompleted : after.hasCompleted = subject.hasCompleted) (error : after.error = subject.error) :
    SubjectKept capacity (events ++ [event]) after := by
  have none_sent : sends (events ++ [event]) = sends events := by rw [sends_append, other, List.append_nil]
  refine ⟨same.trans kept.same, ?_, ?_, ?_⟩
  · rw [none_sent, valuesReceived, kept.valuesReceived]
  · rw [none_sent, hasCompleted, kept.hasCompleted]
  · rw [none_sent, error, kept.error]

theorem subjectKept_step {capacity : Option Nat} {events : List (Event α ε)} {subject : RACReplaySubject α ε}
    (kept : SubjectKept capacity events subject) (event : Event α ε) :
    SubjectKept capacity (events ++ [event]) (subject.step event).1 := by
  cases event with
  | send event => exact subjectKept_send kept event
  | subscribe => exact subjectKept_other kept rfl rfl rfl rfl rfl
  | dispose subscription => exact subjectKept_other kept rfl rfl rfl rfl rfl
  | block subscription disposed =>
      rw [step]
      split
      · cases disposed with
        | none => exact subjectKept_other kept rfl rfl rfl rfl rfl
        | some seen => exact subjectKept_other kept rfl rfl rfl rfl rfl
      · exact subjectKept_other kept rfl rfl rfl rfl rfl

theorem subjectKept_run (capacity : Option Nat) (events : List (Event α ε)) :
    SubjectKept capacity events (Machine.after step { capacity } events) :=
  Machine.invariant (P := fun events subject _ => SubjectKept capacity events subject) (subjectKept_start capacity)
    (fun _ _ _ event kept => subjectKept_step kept event) events

theorem replay_of_kept {capacity : Option Nat} {events : List (Event α ε)} {subject : RACReplaySubject α ε}
    (kept : SubjectKept capacity events subject) : subject.replay = replayed capacity (sends events) := by
  rw [replay, replayed, kept.valuesReceived, kept.hasCompleted, kept.error]

/-! ## One subscription -/

def isAbout (subscription : Nat) : Event α ε → Bool
  | .block other _ => other = subscription
  | .dispose other => other = subscription
  | _ => false

def subscribed (events : List (Event α ε)) : Nat :=
  (events.filter fun
    | .subscribe => true
    | _ => false).length

/-- A subscription whose block has not run. -/
structure BlockWaiting (subscription : Nat) (events : List (Event α ε)) (subject : RACReplaySubject α ε)
    (sent : List (Nat × SignalEvent α ε)) : Prop where
  length : subject.subscriptions.length = subscribed events
  scheduled : subscription < subscribed events → subject.subscriptions[subscription]? = some {}
  silent : subject.subscribers.count subscription = 0
  nothing : sentTo subscription sent = []

theorem sentTo_append (subscription : Nat) (first second : List (Nat × SignalEvent α ε)) :
    sentTo subscription (first ++ second) = sentTo subscription first ++ sentTo subscription second :=
  List.filterMap_append

theorem sentTo_self (subscription : Nat) (events : List (SignalEvent α ε)) :
    sentTo subscription (events.map (subscription, ·)) = events := by
  induction events with
  | nil => rfl
  | cons event events ih =>
      rw [List.map_cons, sentTo, List.filterMap_cons, if_pos rfl]
      exact congrArg (event :: ·) ih

theorem sentTo_other {subscription other : Nat} (different : other ≠ subscription)
    (events : List (SignalEvent α ε)) : sentTo subscription (events.map (other, ·)) = [] := by
  rw [sentTo, List.filterMap_map]
  exact List.filterMap_eq_nil_iff.mpr fun event _ => if_neg different

theorem sentTo_enumerate (subject : RACReplaySubject α ε) (subscription : Nat) (event : SignalEvent α ε) :
    sentTo subscription (subject.enumerateSubscribers event) =
      List.replicate (subject.subscribers.count subscription) event := by
  rw [enumerateSubscribers]
  induction subject.subscribers with
  | nil => rfl
  | cons other subscribers ih =>
      rw [List.map_cons, sentTo, List.filterMap_cons, List.count_cons]
      by_cases same : other = subscription
      · rw [if_pos same, if_pos (beq_iff_eq.mpr same), List.replicate_succ]
        exact congrArg (event :: ·) ih
      · rw [if_neg same, if_neg (fun equal => same (beq_iff_eq.mp equal)), Nat.add_zero]
        exact ih

theorem send_keeps (subject : RACReplaySubject α ε) (event : SignalEvent α ε) :
    (subject.send event).2 = subject.enumerateSubscribers event ∧
      (subject.send event).1.subscriptions = subject.subscriptions ∧
      (subject.send event).1.subscribers = subject.subscribers := by
  cases event <;> exact ⟨rfl, rfl, rfl⟩

theorem block_other {subscription other : Nat} (different : other ≠ subscription) (disposed : Option Nat)
    (subject : RACReplaySubject α ε) :
    sentTo subscription (subject.ranBlock other disposed).2 = [] ∧
      (subject.ranBlock other disposed).1.subscriptions.length = subject.subscriptions.length ∧
      (subject.ranBlock other disposed).1.subscriptions[subscription]? = subject.subscriptions[subscription]? ∧
      (subject.ranBlock other disposed).1.subscribers.count subscription = subject.subscribers.count subscription := by
  cases disposed with
  | some seen =>
      exact ⟨sentTo_other different _, List.length_set, List.getElem?_set_ne different, rfl⟩
  | none =>
      refine ⟨sentTo_other different _, List.length_set, List.getElem?_set_ne different, ?_⟩
      rw [ranBlock]
      simp only
      split
      · rfl
      · rw [List.count_append, List.count_cons_of_ne different, List.count_nil, Nat.add_zero]

theorem waiting_start (capacity : Option Nat) (subscription : Nat) :
    BlockWaiting subscription ([] : List (Event α ε)) { capacity } [] where
  length := rfl
  scheduled := nofun
  silent := rfl
  nothing := rfl

theorem subscribed_append (first second : List (Event α ε)) :
    subscribed (first ++ second) = subscribed first + subscribed second := by
  rw [subscribed, List.filter_append, List.length_append]
  rfl

/-- What is about other subscriptions, or about none, leaves a waiting subscription as it is. -/
theorem waiting_same {subscription : Nat} {events : List (Event α ε)} {subject after : RACReplaySubject α ε}
    {sent more : List (Nat × SignalEvent α ε)} {event : Event α ε} (waiting : BlockWaiting subscription events subject sent)
    (no_call : subscribed [event] = 0) (length : after.subscriptions.length = subject.subscriptions.length)
    (subscriptions : after.subscriptions[subscription]? = subject.subscriptions[subscription]?)
    (subscribers : after.subscribers.count subscription = subject.subscribers.count subscription)
    (nothing : sentTo subscription more = []) :
    BlockWaiting subscription (events ++ [event]) after (sent ++ more) where
  length := by rw [length, waiting.length, subscribed_append, no_call, Nat.add_zero]
  scheduled := by
    rw [subscribed_append, no_call, Nat.add_zero, subscriptions]
    exact waiting.scheduled
  silent := subscribers.trans waiting.silent
  nothing := by rw [sentTo_append, waiting.nothing, nothing, List.append_nil]

theorem waiting_step {subscription : Nat} {events : List (Event α ε)} {subject : RACReplaySubject α ε}
    {sent : List (Nat × SignalEvent α ε)} (waiting : BlockWaiting subscription events subject sent) {event : Event α ε}
    (other : isAbout subscription event = false) :
    BlockWaiting subscription (events ++ [event]) (subject.step event).1 (sent ++ (subject.step event).2) := by
  cases event with
  | subscribe =>
      refine ⟨?_, fun among => ?_, waiting.silent, ?_⟩
      · rw [step, List.length_append, waiting.length, subscribed_append]
        rfl
      · rw [subscribed_append] at among
        rw [step]
        cases Nat.lt_succ_iff_lt_or_eq.mp among with
        | inl before =>
            rw [List.getElem?_append_left (waiting.length ▸ before)]
            exact waiting.scheduled before
        | inr last =>
            rw [last, ← waiting.length]
            exact List.getElem?_concat_length
      · rw [step, List.append_nil]
        exact waiting.nothing
  | block another disposed =>
      have different : another ≠ subscription := of_decide_eq_false other
      obtain ⟨nothing, length, subscriptions, subscribers⟩ := block_other different disposed subject
      rw [step]
      split
      · exact waiting_same waiting rfl length subscriptions subscribers nothing
      · exact waiting_same waiting rfl rfl rfl rfl rfl
  | dispose another =>
      have different : another ≠ subscription := of_decide_eq_false other
      refine waiting_same waiting rfl (List.length_modify ..) (List.getElem?_modify_ne _ _ different) ?_ rfl
      exact List.count_filter (decide_eq_true different.symm)
  | send event =>
      obtain ⟨outputs, subscriptions, subscribers⟩ := send_keeps subject event
      refine waiting_same waiting rfl (congrArg _ subscriptions) (congrArg (·[subscription]?) subscriptions)
        (congrArg _ subscribers) ?_
      rw [step, outputs, sentTo_enumerate, waiting.silent]
      rfl

theorem waiting_run (capacity : Option Nat) {subscription : Nat} {events : List (Event α ε)}
    (first : ∀ event ∈ events, isAbout subscription event = false) :
    BlockWaiting subscription events (Machine.after step { capacity } events)
      (Machine.sent step { capacity } events) := by
  refine Machine.invariant (P := fun events subject sent => (∀ event ∈ events, isAbout subscription event = false) →
    BlockWaiting subscription events subject sent) (fun _ => waiting_start capacity subscription) ?_ events first
  intro events subject sent event waiting first
  have before := waiting fun event member => first event (List.mem_append_left _ member)
  exact waiting_step before (first event (List.mem_append_right _ (List.mem_singleton_self event)))

/-- A subscription whose block has run. -/
def Spent (subscription : Nat) (subject : RACReplaySubject α ε) : Prop :=
  ∃ ran, subject.subscriptions[subscription]? = some ran ∧ ran.scheduled = false

theorem spent_step {subscription : Nat} {subject : RACReplaySubject α ε} (spent : Spent subscription subject)
    (event : Event α ε) :
    Spent subscription (subject.step event).1 ∧
      (match event with
        | .dispose disposed => (subject.step event).1.subscribers.count subscription =
            if disposed = subscription then 0 else subject.subscribers.count subscription
        | _ => (subject.step event).1.subscribers.count subscription = subject.subscribers.count subscription) ∧
      sentTo subscription (subject.step event).2 =
        (match event with
          | .send event => List.replicate (subject.subscribers.count subscription) event
          | _ => []) := by
  obtain ⟨ran, located, once⟩ := spent
  cases event with
  | subscribe =>
      have inside : subscription < subject.subscriptions.length := (List.getElem?_eq_some_iff.mp located).1
      exact ⟨⟨ran, (List.getElem?_append_left inside).trans located, once⟩, rfl, rfl⟩
  | block another disposed =>
      rw [step]
      by_cases scheduled : subject.subscriptions[another]? = some {}
      · rw [if_pos scheduled]
        have different : another ≠ subscription := by
          rintro rfl
          rw [located] at scheduled
          cases scheduled
          cases once
        obtain ⟨nothing, -, subscriptions, subscribers⟩ := block_other different disposed subject
        exact ⟨⟨ran, subscriptions.trans located, once⟩, subscribers, nothing⟩
      · rw [if_neg scheduled]
        exact ⟨⟨ran, located, once⟩, rfl, rfl⟩
  | dispose another =>
      refine ⟨?_, ?_, rfl⟩
      · by_cases same : another = subscription
        · rw [same]
          refine ⟨{ ran with disposed := true }, ?_, once⟩
          rw [step, List.getElem?_modify_eq, located]
          rfl
        · exact ⟨ran, (List.getElem?_modify_ne _ _ same).trans located, once⟩
      · by_cases same : another = subscription
        · show _ = if another = subscription then 0 else _
          rw [if_pos same, same]
          exact List.count_eq_zero.mpr fun member => absurd rfl (of_decide_eq_true (List.mem_filter.mp member).2)
        · show _ = if another = subscription then 0 else _
          rw [if_neg same]
          exact List.count_filter (decide_eq_true (Ne.symm same))
  | send event =>
      obtain ⟨outputs, subscriptions, subscribers⟩ := send_keeps subject event
      refine ⟨⟨ran, ?_, once⟩, congrArg _ subscribers, ?_⟩
      · rw [step, subscriptions, located]
      · rw [step, outputs, sentTo_enumerate]

theorem sent_silent {subscription : Nat} {subject : RACReplaySubject α ε} (spent : Spent subscription subject)
    (silent : subject.subscribers.count subscription = 0) (events : List (Event α ε)) :
    sentTo subscription (Machine.sent step subject events) = [] := by
  induction events generalizing subject with
  | nil => rfl
  | cons event events ih =>
      obtain ⟨still, subscribers, outputs⟩ := spent_step spent event
      rw [Machine.sent_cons, sentTo_append, outputs]
      cases event with
      | send event =>
          rw [silent, ih still (subscribers.trans silent)]
          rfl
      | subscribe => exact ih still (subscribers.trans silent)
      | block another disposed => exact ih still (subscribers.trans silent)
      | dispose another =>
          refine ih still (subscribers.trans ?_)
          rw [silent, ite_self]

theorem sent_joined {subscription : Nat} {subject : RACReplaySubject α ε} (spent : Spent subscription subject)
    (joined : subject.subscribers.count subscription = 1) (events : List (Event α ε)) :
    sentTo subscription (Machine.sent step subject events) = sendsUntil subscription events := by
  induction events generalizing subject with
  | nil => rfl
  | cons event events ih =>
      obtain ⟨still, subscribers, outputs⟩ := spent_step spent event
      rw [Machine.sent_cons, sentTo_append, outputs]
      cases event with
      | send event =>
          rw [joined, ih still (subscribers.trans joined)]
          rfl
      | subscribe => exact ih still (subscribers.trans joined)
      | block another disposed => exact ih still (subscribers.trans joined)
      | dispose another =>
          rw [sendsUntil]
          by_cases same : another = subscription
          · rw [if_pos same]
            exact sent_silent still (subscribers.trans (if_pos same)) events
          · rw [if_neg same]
            exact ih still ((subscribers.trans (if_neg same)).trans joined)

theorem replay_ended {capacity : Option Nat} {events : List (Event α ε)} {subject : RACReplaySubject α ε}
    (kept : SubjectKept capacity events subject) (ended : (subject.hasCompleted || subject.error.isSome) = true) :
    (terminal (replayed capacity (sends events))).isSome = true := by
  rw [← replay_of_kept kept, replay, terminal_append, terminal_map_next, Option.none_or]
  cases completes : subject.hasCompleted with
  | true => rfl
  | false =>
      rw [completes, Bool.false_or] at ended
      obtain ⟨e, same⟩ := Option.isSome_iff_exists.mp ended
      rw [same]
      rfl

/-- The block of a subscription, when it is not disposed meanwhile, and all that follows. -/
theorem block_heard {capacity : Option Nat} {subscription : Nat} {before : List (Event α ε)}
    {subject : RACReplaySubject α ε} {sent : List (Nat × SignalEvent α ε)}
    (kept : SubjectKept capacity before subject) (waiting : BlockWaiting subscription before subject sent)
    (inside : subscription < subject.subscriptions.length) (after : List (Event α ε)) :
    received (subject.replay ++
        sentTo subscription (Machine.sent step (subject.ranBlock subscription none).1 after)) =
      received (replayed capacity (sends before) ++ sendsUntil subscription after) := by
  have spent : Spent subscription (subject.ranBlock subscription none).1 :=
    ⟨{ scheduled := false }, List.getElem?_set_self inside, rfl⟩
  rw [replay_of_kept kept]
  cases ended : subject.hasCompleted || subject.error.isSome with
  | true =>
      have over_yet := replay_ended kept ended
      rw [received_append_of_ended over_yet, received_append_of_ended over_yet]
  | false =>
      have joined : (subject.ranBlock subscription none).1.subscribers.count subscription = 1 := by
        rw [ranBlock]
        simp only
        rw [ended, if_neg Bool.false_ne_true, List.count_append, waiting.silent, List.count_cons_self]
        rfl
      rw [sent_joined spent joined]

/-- What a subscriber hears, of a subscription that was made, and not disposed, before its block runs. -/
theorem subscriber_heard (capacity : Option Nat) (subscription : Nat) {before : List (Event α ε)}
    (made : subscription < subscribed before) (first : ∀ event ∈ before, isAbout subscription event = false)
    (after : List (Event α ε)) :
    heard capacity subscription (before ++ .block subscription none :: after) =
      received (replayed capacity (sends before) ++ sendsUntil subscription after) := by
  have waiting := waiting_run capacity first
  have inside : subscription < (Machine.after step { capacity } before).subscriptions.length :=
    waiting.length ▸ made
  rw [heard, Machine.sent_append, sentTo_append, waiting.nothing, List.nil_append, Machine.sent_cons, step,
    if_pos (waiting.scheduled made), sentTo_append]
  refine .trans (congrArg (fun replay => received (replay ++ _)) (sentTo_self _ _)) ?_
  exact block_heard (subjectKept_run capacity before) waiting inside after

/-- A subscription that is disposed while its block runs. -/
theorem subscriber_disposed (capacity : Option Nat) (subscription : Nat) {before : List (Event α ε)}
    (made : subscription < subscribed before) (first : ∀ event ∈ before, isAbout subscription event = false)
    (seen : Nat) (after : List (Event α ε)) :
    heard capacity subscription (before ++ .block subscription (some seen) :: after) =
      ((removeOld capacity (values (sends before))).take seen).map .next := by
  have waiting := waiting_run capacity first
  have inside : subscription < (Machine.after step { capacity } before).subscriptions.length :=
    waiting.length ▸ made
  have spent : Spent subscription
      ((Machine.after step { capacity } before).ranBlock subscription (some seen)).1 :=
    ⟨{ scheduled := false, disposed := true }, List.getElem?_set_self inside, rfl⟩
  rw [heard, Machine.sent_append, sentTo_append, waiting.nothing, List.nil_append, Machine.sent_cons, step,
    if_pos (waiting.scheduled made), sentTo_append, sent_silent spent waiting.silent, List.append_nil]
  refine .trans (congrArg received (sentTo_self _ _)) ?_
  rw [(subjectKept_run capacity before).valuesReceived, received_of_going (terminal_map_next _)]

/-! ## Senders that send nothing after an end -/

theorem completed_nexts (xs : List α) : (xs.map (.next : α → SignalEvent α ε)).any isCompleted = false := by
  rw [List.any_map]
  exact List.any_eq_false.mpr fun _ _ => Bool.false_ne_true

theorem errors_nexts (xs : List α) : errors (xs.map (.next : α → SignalEvent α ε)) = [] := by
  rw [errors, List.filterMap_map]
  exact List.filterMap_eq_nil_iff.mpr fun _ _ => rfl

theorem replayed_nexts (xs : List α) : replayed none (xs.map (.next : α → SignalEvent α ε)) = xs.map .next := by
  rw [replayed, completed_nexts, errors_nexts, values_map_next]
  exact List.append_nil _

theorem replayed_ended (xs : List α) {event : SignalEvent α ε} (ends : event.isTerminal = true) :
    replayed none (xs.map .next ++ [event]) = xs.map .next ++ [event] := by
  rw [replayed, values_ended xs ends, List.any_append, completed_nexts, Bool.false_or]
  cases event with
  | next value => cases ends
  | completed => rfl
  | error e =>
      rw [errors, List.filterMap_append, ← errors, errors_nexts]
      rfl

theorem replayed_contract {events : List (SignalEvent α ε)} (contract : received events = events) :
    replayed none events = events := by
  have whole := received_eq events
  rw [contract] at whole
  cases ends : terminal events with
  | none =>
      rw [ends, Option.toList_none, List.append_nil] at whole
      rw [whole]
      exact replayed_nexts _
  | some event =>
      rw [ends, Option.toList_some] at whole
      rw [whole]
      exact replayed_ended _ (List.find?_some ends)

theorem sendsUntil_undisposed {subscription : Nat} {events : List (Event α ε)}
    (undisposed : .dispose subscription ∉ events) : sendsUntil subscription events = sends events := by
  induction events with
  | nil => rfl
  | cons event events ih =>
      have rest := ih fun member => undisposed (List.mem_cons_of_mem _ member)
      cases event with
      | subscribe => exact rest
      | block another disposed => exact rest
      | send event => exact congrArg (event :: ·) rest
      | dispose another =>
          have different : another ≠ subscription := by
            rintro rfl
            exact undisposed List.mem_cons_self
          rw [sendsUntil, if_neg different, rest]
          rfl

/-- When nothing is sent after an end, it makes no difference when a subscriber comes. -/
theorem late_subscriber (subscription : Nat) {before after : List (Event α ε)}
    (made : subscription < subscribed before) (first : ∀ event ∈ before, isAbout subscription event = false)
    (undisposed : .dispose subscription ∉ after)
    (contract : received (sends (before ++ after)) = sends (before ++ after)) :
    heard none subscription (before ++ .block subscription none :: after) = sends (before ++ after) := by
  rw [subscriber_heard none subscription made first, sendsUntil_undisposed undisposed]
  rw [sends_append] at contract ⊢
  cases ends : terminal (sends before) with
  | none =>
      have going := received_of_going ends
      rw [replayed_contract going, contract]
  | some event =>
      have ended : (terminal (sends before)).isSome = true := by
        rw [ends]
        rfl
      have earlier := received_append_of_ended ended (sends after)
      have nothing : sends after = [] := by
        have short := (received_part (sends before)).length_le
        rw [← earlier, contract, List.length_append] at short
        exact List.eq_nil_of_length_eq_zero (by omega)
      rw [nothing, List.append_nil] at contract
      rw [nothing, List.append_nil, List.append_nil, replayed_contract contract, contract]

theorem late_subscriber_failed : heard none 1
    ([.subscribe, .block 0 none, .send (.next 1), .send (.error 2), .subscribe] ++ .block 1 none :: [.dispose 0]) =
      ([.next 1, .error 2] : List (SignalEvent Nat Nat)) :=
  late_subscriber 1 (by decide) (by decide) (by simp) (by rfl)

end ReplaySubject

end RealSocial.Proof
