import RealSocial.Library.ColdSignal
import RealSocial.Proof.Zip

namespace RealSocial.Proof

open Library SignalEvent

/-! # `zip:` of any signals, in any order of their events -/

section ZipAll

variable {α β γ ε : Type}

def eventsOf (input : Nat) (events : List (Nat × SignalEvent α ε)) : List (SignalEvent α ε) :=
  events.filterMap fun sent => if sent.1 = input then some sent.2 else none

/-- The first values of the signals from 0 to `n`, then their second values, as long as all of them have one. -/
def rows (inputs : Nat → List (SignalEvent α ε)) : Nat → List (List α)
  | 0 => (values (inputs 0)).map fun x => [x]
  | n + 1 => ((rows inputs n).zip (values (inputs (n + 1)))).map fun pair => pair.1 ++ [pair.2]

/-- One of the signals has completed, and the others have a value for each of its values. -/
def AllDone (inputs : Nat → List (SignalEvent α ε)) (n : Nat) : Prop :=
  ∃ i ≤ n, terminal (inputs i) = some .completed ∧
    ∀ j ≤ n, (values (inputs i)).length ≤ (values (inputs j)).length

/-- What is heard of `zip:` of the signals from 0 to `n`. An error that is not heard came after the completion of
a first part of the signals: of one that has the signal in error, and not the last signal. -/
inductive AllHeard (inputs : Nat → List (SignalEvent α ε)) (n : Nat) : List (SignalEvent (List α) ε) → Prop
  | going (undone : ¬ AllDone inputs n)
      (hidden : ∀ i ≤ n, ∀ e, terminal (inputs i) = some (.error e) → ∃ m, i ≤ m ∧ m < n ∧ AllDone inputs m) :
      AllHeard inputs n ((rows inputs n).map .next)
  | done (done : AllDone inputs n) : AllHeard inputs n ((rows inputs n).map .next ++ [.completed])
  | failed (i : Nat) (among : i ≤ n) (e : ε) (sent : terminal (inputs i) = some (.error e)) {first : List (List α)}
      (part : first <+: rows inputs n) : AllHeard inputs n (first.map .next ++ [.error e])

def HeardOf (inputs : Nat → List (SignalEvent α ε)) : (signals : Nat) → List (SignalEvent (List α) ε) → Prop
  | 0, out => out = [.completed]
  | n + 1, out => AllHeard inputs n out

theorem length_rows_le (inputs : Nat → List (SignalEvent α ε)) (n : Nat) :
    ∀ j ≤ n, (rows inputs n).length ≤ (values (inputs j)).length := by
  induction n with
  | zero =>
      intro j first
      rw [Nat.le_zero.mp first, rows, List.length_map]
  | succ n ih =>
      intro j among
      rw [rows, List.length_map, List.length_zip]
      cases Nat.le_succ_iff.mp among with
      | inl before => exact Nat.le_trans (Nat.min_le_left _ _) (ih j before)
      | inr last =>
          rw [last]
          exact Nat.min_le_right _ _

theorem le_length_rows {inputs : Nat → List (SignalEvent α ε)} {n k : Nat}
    (all : ∀ j ≤ n, k ≤ (values (inputs j)).length) : k ≤ (rows inputs n).length := by
  induction n with
  | zero =>
      rw [rows, List.length_map]
      exact all 0 (Nat.le_refl 0)
  | succ n ih =>
      rw [rows, List.length_map, List.length_zip]
      exact Nat.le_min.mpr ⟨ih fun j among => all j (Nat.le_succ_of_le among), all (n + 1) (Nat.le_refl _)⟩

theorem allDone_iff {inputs : Nat → List (SignalEvent α ε)} {n : Nat} :
    AllDone inputs n ↔ ∃ i ≤ n, terminal (inputs i) = some .completed ∧
      (values (inputs i)).length ≤ (rows inputs n).length := by
  refine exists_congr fun i => and_congr_right fun among => and_congr_right fun _ => ?_
  exact ⟨le_length_rows, fun least j amongJ => Nat.le_trans least (length_rows_le inputs n j amongJ)⟩

theorem allDone_succ {inputs : Nat → List (SignalEvent α ε)} {n : Nat} :
    AllDone inputs (n + 1) ↔
      AllDone inputs n ∧ (rows inputs n).length ≤ (values (inputs (n + 1))).length ∨
        terminal (inputs (n + 1)) = some .completed ∧ (values (inputs (n + 1))).length ≤ (rows inputs n).length := by
  rw [allDone_iff, allDone_iff, rows, List.length_map, List.length_zip]
  constructor
  · intro ⟨i, among, ended, least⟩
    have bounds := Nat.le_min.mp least
    cases Nat.le_succ_iff.mp among with
    | inl before =>
        refine Or.inl ⟨⟨i, before, ended, bounds.1⟩, ?_⟩
        exact Nat.le_trans (length_rows_le inputs n i before) bounds.2
    | inr last =>
        rw [last] at ended bounds
        exact Or.inr ⟨ended, bounds.1⟩
  · intro either
    cases either with
    | inl before =>
        obtain ⟨⟨i, among, ended, least⟩, shorter⟩ := before
        exact ⟨i, Nat.le_succ_of_le among, ended, Nat.le_min.mpr ⟨least, Nat.le_trans least shorter⟩⟩
    | inr last => exact ⟨n + 1, Nat.le_refl _, last.1, Nat.le_min.mpr ⟨last.2, Nat.le_refl _⟩⟩

/-! ## One more signal -/

theorem pairs_map (f : α → γ) (l : List (SignalEvent α ε)) (r : List (SignalEvent β ε)) :
    (pairs l r).map (Prod.map f id) = pairs (l.map (SignalEvent.map f)) r := by
  rw [pairs, pairs, values_map, List.zip_map_left]

theorem zipDone_map (f : α → γ) {l : List (SignalEvent α ε)} {r : List (SignalEvent β ε)} :
    ZipDone (l.map (SignalEvent.map f)) r ↔ ZipDone l r := by
  rw [ZipDone, ZipDone, values_map, List.length_map, terminal_map]
  refine or_congr (and_congr_left fun _ => ?_) Iff.rfl
  cases terminal l with
  | none => simp
  | some event => cases event <;> simp [SignalEvent.map]

theorem failed_map (f : α → γ) {l : List (SignalEvent α ε)} {e : ε} :
    terminal (l.map (SignalEvent.map f)) = some (.error e) ↔ terminal l = some (.error e) := by
  rw [terminal_map]
  cases terminal l with
  | none => simp
  | some event => cases event <;> simp [SignalEvent.map]

/-- The values of the first signal may be mapped before they are paired or after. -/
theorem heard_map (f : α → γ) {l : List (SignalEvent α ε)} {r : List (SignalEvent β ε)}
    {out : List (SignalEvent (α × β) ε)} (heard : ZipHeard l r out) :
    ZipHeard (l.map (SignalEvent.map f)) r (out.map (SignalEvent.map (Prod.map f id))) := by
  have nexts (first : List (α × β)) (more : List (SignalEvent (α × β) ε)) :
      (first.map SignalEvent.next ++ more).map (SignalEvent.map (Prod.map f id)) =
        (first.map (Prod.map f id)).map .next ++ more.map (SignalEvent.map (Prod.map f id)) := by
    rw [List.map_append, List.map_map, List.map_map]
    rfl
  cases heard with
  | going undone left right =>
      rw [← List.append_nil ((pairs l r).map _), nexts, pairs_map, List.map_nil, List.append_nil]
      exact .going (fun done => undone ((zipDone_map f).mp done)) (fun e failed => left e ((failed_map f).mp failed)) right
  | done done =>
      rw [nexts, pairs_map]
      exact .done ((zipDone_map f).mpr done)
  | failed e failed part =>
      rw [nexts]
      exact .failed e (failed.imp_left (failed_map f).mpr) (pairs_map f l r ▸ part.map _)


def withLast (pair : List α × α) : List α := pair.1 ++ [pair.2]

theorem pairs_rows {inputs : Nat → List (SignalEvent α ε)} {n : Nat} {l : List (SignalEvent (List α) ε)}
    (same : values l = rows inputs n) : (pairs l (inputs (n + 1))).map withLast = rows inputs (n + 1) := by
  rw [pairs, same, rows]
  rfl

theorem pairs_part {inputs : Nat → List (SignalEvent α ε)} {n : Nat} {l : List (SignalEvent (List α) ε)}
    (part : values l <+: rows inputs n) : (pairs l (inputs (n + 1))).map withLast <+: rows inputs (n + 1) := by
  obtain ⟨rest, whole⟩ := part
  rw [rows, ← whole]
  exact (zip_longer (values l) rest _).map withLast

theorem pairs_whole {inputs : Nat → List (SignalEvent α ε)} {n : Nat} {l : List (SignalEvent (List α) ε)}
    (part : values l <+: rows inputs n) (enough : (values (inputs (n + 1))).length ≤ (values l).length) :
    (pairs l (inputs (n + 1))).map withLast = rows inputs (n + 1) := by
  obtain ⟨rest, whole⟩ := part
  rw [rows, ← whole, zip_ahead enough]
  rfl

theorem map_withLast (first : List (List α × α)) (more : List (SignalEvent (List α × α) ε)) :
    (first.map SignalEvent.next ++ more).map (SignalEvent.map withLast) =
      (first.map withLast).map .next ++ more.map (SignalEvent.map withLast) := by
  rw [List.map_append, List.map_map, List.map_map]
  rfl

theorem allHeard_values {inputs : Nat → List (SignalEvent α ε)} {n : Nat} {l : List (SignalEvent (List α) ε)}
    (before : AllHeard inputs n l) : values l <+: rows inputs n := by
  cases before with
  | going => exact ⟨[], by rw [values_map_next, List.append_nil]⟩
  | done => exact ⟨[], by rw [values_ended _ rfl, List.append_nil]⟩
  | failed i among e sent part => rwa [values_ended _ rfl]

theorem allHeard_error {inputs : Nat → List (SignalEvent α ε)} {n : Nat} {l : List (SignalEvent (List α) ε)}
    (before : AllHeard inputs n l) {e : ε} (failed : terminal l = some (.error e)) :
    ∃ i ≤ n, terminal (inputs i) = some (.error e) := by
  cases before with
  | going =>
      rw [terminal_map_next] at failed
      cases failed
  | done =>
      rw [terminal_ended _ rfl] at failed
      cases failed
  | failed i among e' sent part =>
      rw [terminal_ended _ rfl] at failed
      cases failed
      exact ⟨i, among, sent⟩

theorem allHeard_completed {inputs : Nat → List (SignalEvent α ε)} {n : Nat} {l : List (SignalEvent (List α) ε)}
    (before : AllHeard inputs n l) (ended : terminal l = some .completed) : AllDone inputs n := by
  cases before with
  | going =>
      rw [terminal_map_next] at ended
      cases ended
  | done done => exact done
  | failed i among e sent part =>
      rw [terminal_ended _ rfl] at ended
      cases ended

theorem allHeard_unfailed {inputs : Nat → List (SignalEvent α ε)} {n : Nat} {l : List (SignalEvent (List α) ε)}
    (before : AllHeard inputs n l) (unfailed : ∀ e, terminal l ≠ some (.error e)) :
    values l = rows inputs n ∧ (AllDone inputs n → terminal l = some .completed) ∧
      ∀ i ≤ n, ∀ e, terminal (inputs i) = some (.error e) → ∃ m, i ≤ m ∧ m < n + 1 ∧ AllDone inputs m := by
  cases before with
  | going undone hidden =>
      refine ⟨values_map_next _, fun done => absurd done undone, fun i among e failed => ?_⟩
      obtain ⟨m, behind, earlier, done⟩ := hidden i among e failed
      exact ⟨m, behind, Nat.lt_succ_of_lt earlier, done⟩
  | done done =>
      exact ⟨values_ended _ rfl, fun _ => terminal_ended _ rfl,
        fun i among e failed => ⟨n, among, Nat.lt_succ_self n, done⟩⟩
  | failed i among e sent part => exact absurd (terminal_ended _ rfl) (unfailed e)

theorem allHeard_failed {inputs : Nat → List (SignalEvent α ε)} {n : Nat} {l : List (SignalEvent (List α) ε)}
    (before : AllHeard inputs n l) {e : ε}
    (failed : terminal l = some (.error e) ∨ terminal (inputs (n + 1)) = some (.error e))
    {first : List (List α × α)} (part : first <+: pairs l (inputs (n + 1))) :
    AllHeard inputs (n + 1) ((first.map withLast).map .next ++ [.error e]) := by
  have part' := (part.map withLast).trans (pairs_part (allHeard_values before))
  cases failed with
  | inl earlier =>
      obtain ⟨i, among, sent⟩ := allHeard_error before earlier
      exact .failed i (Nat.le_succ_of_le among) e sent part'
  | inr last => exact .failed (n + 1) (Nat.le_refl _) e last part'

theorem allHeard_succ {inputs : Nat → List (SignalEvent α ε)} {n : Nat} {l : List (SignalEvent (List α) ε)}
    {out : List (SignalEvent (List α × α) ε)} (before : AllHeard inputs n l)
    (heard : ZipHeard l (inputs (n + 1)) out) :
    AllHeard inputs (n + 1) (out.map (SignalEvent.map withLast)) := by
  cases heard with
  | failed e failed part =>
      rw [map_withLast]
      exact allHeard_failed before failed part
  | going undone left right =>
      obtain ⟨same, completes, hidden⟩ := allHeard_unfailed before left
      rw [← List.append_nil ((pairs l _).map _), map_withLast, pairs_rows same, List.map_nil, List.append_nil]
      refine .going (fun done => undone ?_) fun i among e failed => ?_
      · rw [ZipDone, same]
        exact (allDone_succ.mp done).imp_left fun earlier => ⟨completes earlier.1, earlier.2⟩
      · cases Nat.le_succ_iff.mp among with
        | inl earlier => exact hidden i earlier e failed
        | inr last =>
            rw [last] at failed
            exact absurd failed (right e)
  | done done =>
      rw [map_withLast]
      cases done with
      | inl earlier =>
          have left (e : ε) : terminal l ≠ some (.error e) := by
            rw [earlier.1]
            simp
          obtain ⟨same, -, -⟩ := allHeard_unfailed before left
          rw [pairs_rows same]
          refine .done (allDone_succ.mpr (Or.inl ⟨allHeard_completed before earlier.1, ?_⟩))
          rw [← same]
          exact earlier.2
      | inr last =>
          have part := allHeard_values before
          rw [pairs_whole part last.2]
          exact .done (allDone_succ.mpr (Or.inr ⟨last.1, Nat.le_trans last.2 part.length_le⟩))

/-! ## The signals of `join:block:` -/

theorem unwrap_append (tuple : RACTuple α) (xs : List α) : tuple.unwrap xs = tuple.unwrap [] ++ xs := by
  induction tuple generalizing xs with
  | one x => rfl
  | pair before last ih => rw [RACTuple.unwrap, RACTuple.unwrap, ih, ih [last], List.append_assoc]; rfl

theorem step_beyond (n : Nat) (state : RACZip.State α n) {input : Nat} (beyond : n < input)
    (event : SignalEvent α ε) : RACZip.step n state (input, event) = (state, []) := by
  induction n with
  | zero =>
      cases state with
      | first => rw [RACZip.step, if_neg (Nat.ne_of_gt beyond)]
  | succ n ih =>
      cases state with
      | join current zipWith =>
          rw [RACZip.step, if_neg (Nat.ne_of_gt beyond), ih current (Nat.lt_of_succ_lt beyond)]
          rfl

/-- The events that reach the last of the zips, and from which side. -/
def reaching (n : Nat) : RACZip.State α n → List (Nat × SignalEvent α ε) →
    List (SignalEvent (RACTuple α) ε ⊕ SignalEvent α ε)
  | _, [] => []
  | current, sent :: events =>
      (if sent.1 = n + 1 then [Sum.inr sent.2] else (RACZip.step n current sent).2.map .inl) ++
        reaching n (RACZip.step n current sent).1 events

theorem lefts_reaching (n : Nat) (current : RACZip.State α n) (events : List (Nat × SignalEvent α ε)) :
    lefts (reaching n current events) = Machine.sent (RACZip.step n) current events := by
  induction events generalizing current with
  | nil => rfl
  | cons sent events ih =>
      rw [reaching, lefts, List.filterMap_append, Machine.sent, ← ih]
      refine congrArg (· ++ _) ?_
      by_cases last : sent.1 = n + 1
      · rw [if_pos last, step_beyond n current (last ▸ Nat.lt_succ_self n)]
        rfl
      · rw [if_neg last, List.filterMap_map]
        exact List.filterMap_some

theorem rights_reaching (n : Nat) (current : RACZip.State α n) (events : List (Nat × SignalEvent α ε)) :
    rights (reaching n current events) = eventsOf (n + 1) events := by
  induction events generalizing current with
  | nil => rfl
  | cons sent events ih =>
      rw [reaching, rights, List.filterMap_append, eventsOf, List.filterMap_cons]
      have rest := ih (RACZip.step n current sent).1
      rw [rights, eventsOf] at rest
      rw [rest]
      by_cases last : sent.1 = n + 1
      · rw [if_pos last, if_pos last]
        rfl
      · rw [if_neg last, if_neg last, List.filterMap_map]
        have none : (RACZip.step n current sent).2.filterMap (Sum.getRight? ∘ Sum.inl) = ([] : List (SignalEvent α ε)) :=
          List.filterMap_eq_nil_iff.mpr fun _ _ => rfl
        rw [none]
        rfl

theorem sent_succ (n : Nat) (current : RACZip.State α n) (zipWith : RACZipWith (RACTuple α) α)
    (events : List (Nat × SignalEvent α ε)) :
    Machine.sent (RACZip.step (n + 1)) (.join current zipWith) events =
      (Machine.sent RACZipWith.step zipWith (reaching n current events)).map
        (SignalEvent.map fun tuple => .pair tuple.1 tuple.2) := by
  induction events generalizing current zipWith with
  | nil => rfl
  | cons sent events ih =>
      obtain ⟨input, event⟩ := sent
      rw [Machine.sent_cons, reaching, Machine.sent_append, List.map_append, RACZip.step]
      by_cases last : input = n + 1
      · rw [if_pos last, if_pos last, step_beyond n current (last ▸ Nat.lt_succ_self n), Machine.sent_cons,
          Machine.sent_nil, List.append_nil]
        exact congrArg (_ ++ ·) (ih current _)
      · rw [if_neg last, if_neg last]
        exact congrArg (_ ++ ·) (ih _ _)

theorem sent_zero (events : List (Nat × SignalEvent α ε)) :
    Machine.sent (RACZip.step 0) .first events = (eventsOf 0 events).map (SignalEvent.map .one) := by
  induction events with
  | nil => rfl
  | cons sent events ih =>
      obtain ⟨input, event⟩ := sent
      rw [Machine.sent_cons, eventsOf, List.filterMap_cons, RACZip.step]
      by_cases first : input = 0
      · rw [if_pos first, if_pos first]
        exact congrArg (_ :: ·) ih
      · rw [if_neg first, if_neg first]
        exact ih

theorem allHeard_zero (inputs : Nat → List (SignalEvent α ε)) {events : List (SignalEvent α ε)}
    (only : inputs 0 = received events) :
    AllHeard inputs 0 (received (events.map (SignalEvent.map fun x => [x]))) := by
  have ends : terminal (inputs 0) = terminal events := by rw [only, terminal_received]
  have first : rows inputs 0 = (values (received events)).map fun x => [x] := by rw [rows, only]
  have nexts : (values (received events)).map ((SignalEvent.map fun x => [x]) ∘ .next) =
      (rows inputs 0).map (.next : List α → SignalEvent (List α) ε) := by
    rw [first, List.map_map]
    rfl
  rw [received_map, received_eq events, List.map_append, List.map_map, nexts]
  cases last : terminal events with
  | none =>
      rw [Option.toList_none, List.map_nil, List.append_nil]
      refine .going (fun done => ?_) fun i among e failed => ?_
      · obtain ⟨i, among, ended, -⟩ := done
        rw [Nat.le_zero.mp among, ends, last] at ended
        cases ended
      · rw [Nat.le_zero.mp among, ends, last] at failed
        cases failed
  | some event =>
      cases event with
      | next x => exact absurd (List.find?_some last) Bool.false_ne_true
      | error e => exact .failed 0 (Nat.le_refl 0) e (ends.trans last) List.prefix_rfl
      | completed =>
          refine .done ⟨0, Nat.le_refl 0, ends.trans last, fun j among => ?_⟩
          rw [Nat.le_zero.mp among]

theorem allHeard_sent (n : Nat) (events : List (Nat × SignalEvent α ε)) :
    AllHeard (fun input => received (eventsOf input events)) n
      ((received (Machine.sent (RACZip.step n) (RACZip.start n) events)).map
        (SignalEvent.map (RACTuple.unwrap []))) := by
  induction n with
  | zero =>
      rw [RACZip.start, sent_zero, ← received_map, List.map_map]
      have each : SignalEvent.map (RACTuple.unwrap []) ∘ SignalEvent.map (.one : α → RACTuple α) =
          (SignalEvent.map fun x => [x] : SignalEvent α ε → SignalEvent (List α) ε) := by
        funext event
        cases event <;> rfl
      rw [each]
      exact allHeard_zero _ rfl
  | succ n ih =>
      have heard := (zipWith_kept (reaching n (RACZip.start n) events)).2
      rw [lefts_reaching, rights_reaching] at heard
      have next := allHeard_succ ih (heard_map (RACTuple.unwrap []) heard)
      have each : SignalEvent.map withLast ∘ SignalEvent.map (Prod.map (RACTuple.unwrap []) id) =
          SignalEvent.map (RACTuple.unwrap []) ∘ (SignalEvent.map fun tuple => .pair tuple.1 tuple.2 :
            SignalEvent (RACTuple α × α) ε → SignalEvent (RACTuple α) ε) := by
        funext event
        cases event with
        | next tuple => exact congrArg SignalEvent.next (unwrap_append tuple.1 [tuple.2]).symm
        | error e => rfl
        | completed => rfl
      rw [List.map_map, each, ← List.map_map] at next
      rwa [RACZip.start, sent_succ, received_map]

/-- What a subscriber to `zip:` hears, in whatever order the events of the signals come. -/
theorem zip_heard (signals : Nat) (events : List (Nat × SignalEvent α ε)) :
    HeardOf (fun input => received (eventsOf input events)) signals (RACZip.heard signals events) := by
  cases signals with
  | zero => rfl
  | succ n =>
      show AllHeard _ n (RACZip.heard (n + 1) events)
      rw [RACZip.heard, received_map]
      exact allHeard_sent n events

/-! ## The zip of requests -/

/-- The events of a request's signal for its answer: the response goes before the end. -/
def RequestAnswered : Option Bool → List (SignalEvent α ε) → Prop
  | none, events => events = []
  | some false, events => ∃ e, events = [.error e]
  | some true, events => ∃ x, events = [.next x] ∨ events = [.next x, .completed]

theorem requestAnswered_length {answer : Option Bool} {events : List (SignalEvent α ε)} (answered : RequestAnswered answer events) :
    (values (received events)).length = if answer = some true then 1 else 0 := by
  cases answer with
  | none =>
      cases answered
      rfl
  | some ok =>
      cases ok with
      | false =>
          obtain ⟨e, rfl⟩ := answered
          rfl
      | true =>
          obtain ⟨x, rfl | rfl⟩ := answered
          · rfl
          · rfl

theorem requestAnswered_error {answer : Option Bool} {events : List (SignalEvent α ε)} (answered : RequestAnswered answer events)
    {e : ε} (failed : terminal (received events) = some (.error e)) : answer ≠ some true := by
  rintro rfl
  obtain ⟨x, rfl | rfl⟩ := answered
  · cases failed
  · cases failed

theorem values_allHeard {inputs : Nat → List (SignalEvent α ε)} {n : Nat} {l : List (SignalEvent (List α) ε)}
    (heard : AllHeard inputs n l) (unfailed : ∀ i ≤ n, ∀ e, terminal (inputs i) ≠ some (.error e)) :
    values l = rows inputs n := by
  cases heard with
  | going => exact values_map_next _
  | done => exact values_ended _ rfl
  | failed i among e sent => exact absurd sent (unfailed i among e)

theorem one_row {inputs : Nat → List (SignalEvent α ε)} {n : Nat} {l : List (SignalEvent (List α) ε)}
    (heard : AllHeard inputs n l) (one : ∀ i ≤ n, (values (inputs i)).length = 1)
    (unfailed : ∀ i ≤ n, ∀ e, terminal (inputs i) ≠ some (.error e)) : (values l).length = 1 := by
  rw [values_allHeard heard unfailed]
  apply Nat.le_antisymm
  · exact Nat.le_trans (length_rows_le inputs n 0 (Nat.zero_le n)) (Nat.le_of_eq (one 0 (Nat.zero_le n)))
  · exact le_length_rows fun j among => Nat.le_of_eq (one j among).symm

theorem no_row {inputs : Nat → List (SignalEvent α ε)} {n : Nat} {l : List (SignalEvent (List α) ε)}
    (heard : AllHeard inputs n l) {i : Nat} (among : i ≤ n) (nothing : (values (inputs i)).length = 0) :
    (values l).length = 0 := by
  have short := Nat.le_trans (allHeard_values heard).length_le (length_rows_le inputs n i among)
  rw [nothing] at short
  exact Nat.le_zero.mp short

/-- A zip that is taken to emit once all requests have answered with a response does so: one row is heard then,
whatever the order of the events, and no row before or else. Without a request there is none. -/
theorem zip_emitted {R : Type} {requests : List R} {answers : List (Option Bool)}
    (all : answers.length = requests.length) {events : List (Nat × SignalEvent α ε)}
    (answered : ∀ i answer, answers[i]? = some answer → RequestAnswered answer (eventsOf i events)) :
    (values (RACZip.heard requests.length events)).length =
      if (ColdSignal.zip (requests.map .request)).emitted answers = true then 1 else 0 := by
  cases requests with
  | nil => rfl
  | cons request requests =>
      have heard : AllHeard (fun input => received (eventsOf input events)) requests.length
          (RACZip.heard (requests.length + 1) events) := zip_heard (requests.length + 1) events
      have inside {i : Nat} : i < answers.length ↔ i ≤ requests.length := by
        rw [all, List.length_cons, Nat.lt_succ_iff]
      have is (i : Nat) (among : i < answers.length) := answered i answers[i] (List.getElem?_eq_getElem among)
      by_cases ok : ∀ answer ∈ answers, answer = some true
      · rw [if_pos ((ColdSignal.emitted_zip_requests all).mpr ⟨List.cons_ne_nil _ _, ok⟩)]
        have response (i : Nat) (among : i < answers.length) : answers[i] = some true :=
          ok _ (List.getElem_mem among)
        apply one_row heard
        · intro i among
          rw [requestAnswered_length (is i (inside.mpr among)), if_pos (response i (inside.mpr among))]
        · intro i among e failed
          exact requestAnswered_error (is i (inside.mpr among)) failed (response i (inside.mpr among))
      · rw [if_neg fun emitted => ok ((ColdSignal.emitted_zip_requests all).mp emitted).2]
        obtain ⟨given, member, refused⟩ : ∃ answer ∈ answers, answer ≠ some true := by
          simpa only [not_forall, exists_prop] using ok
        obtain ⟨i, among, rfl⟩ := List.getElem_of_mem member
        apply no_row heard (inside.mp among)
        rw [requestAnswered_length (is i among), if_neg refused]

/-- The second of two requests is answered first. -/
abbrev twoAnswers : List (Nat × SignalEvent Nat Nat) := [(1, .next 7), (0, .next 5), (1, .completed), (0, .completed)]

theorem twoAnswers_answered (i : Nat) (answer : Option Bool) (given : [some true, some true][i]? = some answer) :
    RequestAnswered answer (eventsOf i twoAnswers) := by
  match i with
  | 0 =>
      cases given
      exact ⟨5, Or.inr rfl⟩
  | 1 =>
      cases given
      exact ⟨7, Or.inr rfl⟩

theorem zip_emitted_two : (values (RACZip.heard 2 twoAnswers)).length =
    if (ColdSignal.zip ([true, false].map .request)).emitted [some true, some true] = true then 1 else 0 :=
  zip_emitted rfl twoAnswers_answered

end ZipAll

end RealSocial.Proof
