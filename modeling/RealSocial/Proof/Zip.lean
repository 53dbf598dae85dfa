import RealSocial.ReactiveObjC.Zip
import Mathlib.Data.List.Zip

namespace RealSocial.Proof

open Library SignalEvent

/-! # `zipWith:` in any order of the events -/

section ZipWith

variable {α β ε : Type}

/-- A zip is done when one of its signals has completed and the other has a value for each of its values. -/
def ZipDone (l : List (SignalEvent α ε)) (r : List (SignalEvent β ε)) : Prop :=
  terminal l = some .completed ∧ (values l).length ≤ (values r).length ∨
    terminal r = some .completed ∧ (values r).length ≤ (values l).length

def pairs (l : List (SignalEvent α ε)) (r : List (SignalEvent β ε)) : List (α × β) := (values l).zip (values r)

/-- What is heard of a zip when the two signals have sent `l` and `r`. -/
inductive ZipHeard (l : List (SignalEvent α ε)) (r : List (SignalEvent β ε)) : List (SignalEvent (α × β) ε) → Prop
  | going (undone : ¬ ZipDone l r) (left : ∀ e, terminal l ≠ some (.error e))
      (right : ∀ e, terminal r ≠ some (.error e)) : ZipHeard l r ((pairs l r).map .next)
  | done (done : ZipDone l r) : ZipHeard l r ((pairs l r).map .next ++ [.completed])
  | failed (e : ε) (sent : terminal l = some (.error e) ∨ terminal r = some (.error e)) {first : List (α × β)}
      (part : first <+: pairs l r) : ZipHeard l r (first.map .next ++ [.error e])

/-- What the blocks keep, when the two signals have sent `l` and `r`. -/
structure ZipKept (l : List (SignalEvent α ε)) (r : List (SignalEvent β ε)) (state : RACZipWith α β) : Prop where
  selfCompleted : state.selfCompleted = true ↔ terminal l = some .completed
  otherCompleted : state.otherCompleted = true ↔ terminal r = some .completed
  selfEnded : state.selfEnded = (terminal l).isSome
  otherEnded : state.otherEnded = (terminal r).isSome
  selfValues : state.selfValues = (values l).drop (values r).length
  otherValues : state.otherValues = (values r).drop (values l).length

theorem zipKept_start : ZipKept ([] : List (SignalEvent α ε)) ([] : List (SignalEvent β ε)) {} where
  selfCompleted := ⟨nofun, nofun⟩
  otherCompleted := ⟨nofun, nofun⟩
  selfEnded := rfl
  otherEnded := rfl
  selfValues := rfl
  otherValues := rfl

theorem heard_start : ZipHeard ([] : List (SignalEvent α ε)) ([] : List (SignalEvent β ε)) [] :=
  .going (by simp [ZipDone, terminal]) nofun nofun

theorem sendCompleted_of_kept {l : List (SignalEvent α ε)} {r : List (SignalEvent β ε)} {state : RACZipWith α β}
    (kept : ZipKept l r state) :
    ZipDone l r ∧ state.sendCompletedIfNecessary = [(.completed : SignalEvent (α × β) ε)] ∨
      ¬ ZipDone l r ∧ state.sendCompletedIfNecessary = ([] : List (SignalEvent (α × β) ε)) := by
  have necessary : ((state.selfCompleted && state.selfValues.length = 0) ||
      (state.otherCompleted && state.otherValues.length = 0)) = true ↔ ZipDone l r := by
    rw [Bool.or_eq_true, Bool.and_eq_true, Bool.and_eq_true, kept.selfCompleted, kept.otherCompleted,
      kept.selfValues, kept.otherValues, decide_eq_true_iff, decide_eq_true_iff, List.length_drop,
      List.length_drop, Nat.sub_eq_zero_iff_le, Nat.sub_eq_zero_iff_le]
    rfl
  by_cases done : ZipDone l r
  · exact Or.inl ⟨done, if_pos (necessary.mpr done)⟩
  · exact Or.inr ⟨done, if_neg fun sent => done (necessary.mp sent)⟩

theorem heard_going {l : List (SignalEvent α ε)} {r : List (SignalEvent β ε)}
    {sent : List (SignalEvent (α × β) ε)} (heard : ZipHeard l r (received sent)) (going : terminal sent = none) :
    sent = (pairs l r).map .next ∧ ¬ ZipDone l r ∧ (∀ e, terminal l ≠ some (.error e)) ∧
      ∀ e, terminal r ≠ some (.error e) := by
  have whole := received_of_going going
  rw [whole] at heard
  cases heard with
  | going undone left right => exact ⟨rfl, undone, left, right⟩
  | done => simp [terminal_append, terminal_map_next] at going
  | failed => simp [terminal_append, terminal_map_next] at going

/-- Once there is an end, what is sent more is not heard. -/
theorem heard_ended {l l' : List (SignalEvent α ε)} {r : List (SignalEvent β ε)}
    {sent : List (SignalEvent (α × β) ε)} (more : List (SignalEvent (α × β) ε)) (heard : ZipHeard l r (received sent))
    (ended : (terminal sent).isSome = true) (done : ZipDone l r → ZipDone l' r ∧ pairs l' r = pairs l r)
    (failing : ∀ e, terminal l = some (.error e) → terminal l' = some (.error e))
    (longer : pairs l r <+: pairs l' r) : ZipHeard l' r (received (sent ++ more)) := by
  rw [received_append_of_ended ended]
  rw [← terminal_received] at ended
  generalize received sent = events at heard ended
  cases heard with
  | going => simp [terminal_map_next] at ended
  | done before =>
      obtain ⟨later, same⟩ := done before
      rw [← same]
      exact .done later
  | failed e failed part => exact .failed e (failed.imp_left (failing e)) (part.trans longer)

theorem terminal_snoc {l : List (SignalEvent α ε)} (going : terminal l = none) (event : SignalEvent α ε) :
    terminal (l ++ [event]) = terminal [event] := by
  rw [terminal_append, going, Option.none_or]

theorem pairs_ahead {l : List (SignalEvent α ε)} {r : List (SignalEvent β ε)}
    (ahead : (values r).length ≤ (values l).length) (event : SignalEvent α ε) :
    pairs (l ++ [event]) r = pairs l r := by
  rw [pairs, values_append]
  exact zip_ahead ahead _

theorem pairs_longer (l : List (SignalEvent α ε)) (r : List (SignalEvent β ε)) (event : SignalEvent α ε) :
    pairs l r <+: pairs (l ++ [event]) r := by
  rw [pairs, pairs, values_append]
  exact zip_longer _ _ _

/-- The next event of a signal that has no end, and what is heard of it. -/
theorem heard_snoc {l : List (SignalEvent α ε)} {r : List (SignalEvent β ε)}
    {sent : List (SignalEvent (α × β) ε)} (heard : ZipHeard l r (received sent)) (going : terminal l = none)
    (event : SignalEvent α ε) (more : List (SignalEvent (α × β) ε))
    (next : ¬ ZipDone l r → (∀ e, terminal r ≠ some (.error e)) →
      ZipHeard (l ++ [event]) r ((pairs l r).map .next ++ received more)) :
    ZipHeard (l ++ [event]) r (received (sent ++ more)) := by
  cases ends : terminal sent with
  | none =>
      obtain ⟨same, undone, -, right⟩ := heard_going heard ends
      rw [received_append_of_going ends, same]
      exact next undone right
  | some last =>
      refine heard_ended more heard (by rw [ends]; rfl) ?_ ?_ (pairs_longer l r event)
      · intro done
        obtain left | right := done
        · rw [going] at left
          cases left.1
        · refine ⟨Or.inr ⟨right.1, ?_⟩, pairs_ahead right.2 event⟩
          rw [values_append, List.length_append]
          exact Nat.le_add_right_of_le right.2
      · intro e failed
        rw [going] at failed
        cases failed

/-- What is heard when the pairs go on, and the end is sent when it is due. -/
theorem heard_sendCompleted {l : List (SignalEvent α ε)} {r : List (SignalEvent β ε)} {state : RACZipWith α β}
    (kept : ZipKept l r state) (left : ∀ e, terminal l ≠ some (.error e)) (right : ∀ e, terminal r ≠ some (.error e)) :
    ZipHeard l r ((pairs l r).map .next ++ received state.sendCompletedIfNecessary) := by
  obtain ⟨done, sent⟩ | ⟨undone, sent⟩ := sendCompleted_of_kept kept
  · rw [sent]
    exact .done done
  · rw [sent, received_nil, List.append_nil]
    exact .going undone left right

theorem self_waits {l : List (SignalEvent α ε)} {r : List (SignalEvent β ε)} {state : RACZipWith α β}
    {sent : List (SignalEvent (α × β) ε)} (kept : ZipKept l r state) (heard : ZipHeard l r (received sent))
    (going : terminal l = none) (ahead : (values r).length ≤ (values l).length) (x : α) :
    ZipKept (l ++ [.next x]) r { state with selfValues := state.selfValues ++ [x] } ∧
      ZipHeard (l ++ [.next x]) r (received (sent ++ [])) := by
  have still : terminal (l ++ [.next x]) = none := terminal_snoc going _
  have longer : values (l ++ [.next x]) = values l ++ [x] := values_append l _
  refine ⟨⟨?_, kept.otherCompleted, ?_, kept.otherEnded, ?_, ?_⟩, heard_snoc heard going _ _ ?_⟩
  · rw [still, ← going]
    exact kept.selfCompleted
  · rw [still, ← going]
    exact kept.selfEnded
  · rw [longer, List.drop_append_of_le_length ahead, ← kept.selfValues]
  · rw [longer, List.length_append, List.drop_of_length_le (Nat.le_add_right_of_le ahead), kept.otherValues,
      List.drop_of_length_le ahead]
  · intro undone right
    rw [received_nil, List.append_nil, ← pairs_ahead ahead (.next x)]
    refine .going ?_ (fun e failed => ?_) right
    · rintro (left | right)
      · rw [still] at left
        cases left.1
      · exact undone (Or.inr ⟨right.1, ahead⟩)
    · rw [still] at failed
      cases failed

theorem self_pairs {l : List (SignalEvent α ε)} {r : List (SignalEvent β ε)} {state : RACZipWith α β}
    {sent : List (SignalEvent (α × β) ε)} {y : β} {otherValues : List β} (kept : ZipKept l r state)
    (heard : ZipHeard l r (received sent)) (going : terminal l = none)
    (behind : state.otherValues = y :: otherValues) (x : α) :
    ZipKept (l ++ [.next x]) r { state with selfValues := [], otherValues } ∧
      ZipHeard (l ++ [.next x]) r (received (sent ++ .next (x, y) ::
        RACZipWith.sendCompletedIfNecessary { state with selfValues := [], otherValues })) := by
  have still : terminal (l ++ [.next x]) = none := terminal_snoc going _
  have longer : values (l ++ [.next x]) = values l ++ [x] := values_append l _
  have before : (values r).drop (values l).length = y :: otherValues := kept.otherValues.symm.trans behind
  have after : (values r).drop ((values l).length + 1) = otherValues := by
    rw [← List.drop_drop, before, List.drop_one, List.tail_cons]
  have less : (values l).length < (values r).length := by
    by_contra more
    rw [List.drop_of_length_le (Nat.le_of_not_lt more)] at before
    cases before
  have paired : pairs (l ++ [.next x]) r = pairs l r ++ [(x, y)] := by
    rw [pairs, longer]
    exact zip_behind before x
  have kept' : ZipKept (l ++ [.next x]) r { state with selfValues := [], otherValues } := by
    refine ⟨?_, kept.otherCompleted, ?_, kept.otherEnded, ?_, ?_⟩
    · rw [still, ← going]
      exact kept.selfCompleted
    · rw [still, ← going]
      exact kept.selfEnded
    · rw [longer, List.drop_of_length_le]
      rw [List.length_append]
      exact less
    · rw [longer, List.length_append]
      exact after.symm
  refine ⟨kept', heard_snoc heard going _ _ fun undone right => ?_⟩
  have heard' := heard_sendCompleted kept' (fun e failed => by rw [still] at failed; cases failed) right
  rw [paired, List.map_append, List.append_assoc] at heard'
  exact heard'

theorem self_next {l : List (SignalEvent α ε)} {r : List (SignalEvent β ε)} {state : RACZipWith α β}
    {sent : List (SignalEvent (α × β) ε)} (kept : ZipKept l r state) (heard : ZipHeard l r (received sent))
    (going : terminal l = none) (x : α) :
    ZipKept (l ++ [.next x]) r (state.selfEvent (.next x : SignalEvent α ε)).1 ∧
      ZipHeard (l ++ [.next x]) r (received (sent ++ (state.selfEvent (.next x)).2)) := by
  cases others : state.otherValues with
  | nil =>
      have ahead : (values r).length ≤ (values l).length := by
        rw [kept.otherValues] at others
        exact List.drop_eq_nil_iff.mp others
      have waits : state.selfEvent (.next x : SignalEvent α ε) =
          ({ state with selfValues := state.selfValues ++ [x] }, []) := by
        rw [RACZipWith.selfEvent, RACZipWith.sendNext]
        simp only [others]
        split <;> simp_all
      rw [waits]
      exact self_waits kept heard going ahead x
  | cons y otherValues =>
      have empty : state.selfValues = [] := by
        rw [kept.selfValues, List.drop_of_length_le]
        by_contra more
        rw [kept.otherValues, List.drop_of_length_le (Nat.le_of_lt (Nat.lt_of_not_le more))] at others
        cases others
      have pairs : state.selfEvent (.next x : SignalEvent α ε) = ({ state with selfValues := [], otherValues },
          .next (x, y) :: RACZipWith.sendCompletedIfNecessary { state with selfValues := [], otherValues }) := by
        rw [RACZipWith.selfEvent, RACZipWith.sendNext]
        simp only [others, empty, List.nil_append]
      rw [pairs]
      exact self_pairs kept heard going others x

theorem self_error {l : List (SignalEvent α ε)} {r : List (SignalEvent β ε)} {state : RACZipWith α β}
    {sent : List (SignalEvent (α × β) ε)} (kept : ZipKept l r state) (heard : ZipHeard l r (received sent))
    (going : terminal l = none) (e : ε) :
    ZipKept (l ++ [.error e]) r (state.selfEvent (.error e)).1 ∧
      ZipHeard (l ++ [.error e]) r (received (sent ++ (state.selfEvent (.error e)).2)) := by
  have ends : terminal (l ++ [.error e]) = some (.error e) := terminal_snoc going _
  have same : values (l ++ [.error e]) = values l := (values_append l _).trans (List.append_nil _)
  refine ⟨⟨?_, kept.otherCompleted, ?_, kept.otherEnded, ?_, ?_⟩, heard_snoc heard going _ _ ?_⟩
  · refine ⟨fun completed => ?_, fun completed => ?_⟩
    · have before := kept.selfCompleted.mp completed
      rw [going] at before
      cases before
    · rw [ends] at completed
      cases completed
  · rw [ends]
    rfl
  · rw [same]
    exact kept.selfValues
  · rw [same]
    exact kept.otherValues
  · intro undone right
    exact .failed e (Or.inl ends) (pairs_longer l r _)

theorem self_completed {l : List (SignalEvent α ε)} {r : List (SignalEvent β ε)} {state : RACZipWith α β}
    {sent : List (SignalEvent (α × β) ε)} (kept : ZipKept l r state) (heard : ZipHeard l r (received sent))
    (going : terminal l = none) :
    ZipKept (l ++ [.completed]) r (state.selfEvent (.completed : SignalEvent α ε)).1 ∧
      ZipHeard (l ++ [.completed]) r (received (sent ++ (state.selfEvent .completed).2)) := by
  have ends : terminal (l ++ [.completed]) = some .completed := terminal_snoc going _
  have same : values (l ++ [.completed]) = values l := (values_append l _).trans (List.append_nil _)
  have kept' : ZipKept (l ++ [.completed]) r (state.selfEvent (.completed : SignalEvent α ε)).1 := by
    refine ⟨?_, kept.otherCompleted, ?_, kept.otherEnded, ?_, ?_⟩
    · rw [ends]
      exact ⟨fun _ => rfl, fun _ => rfl⟩
    · rw [ends]
      rfl
    · rw [same]
      exact kept.selfValues
    · rw [same]
      exact kept.otherValues
  refine ⟨kept', heard_snoc heard going _ _ fun undone right => ?_⟩
  have heard' := heard_sendCompleted kept' (fun e failed => by rw [ends] at failed; cases failed) right
  rwa [pairs, same] at heard'

/-- An event of the first signal. -/
theorem self_step {l : List (SignalEvent α ε)} {r : List (SignalEvent β ε)} {state : RACZipWith α β}
    {sent : List (SignalEvent (α × β) ε)} (kept : ZipKept (received l) (received r) state)
    (heard : ZipHeard (received l) (received r) (received sent)) (event : SignalEvent α ε) :
    ZipKept (received (l ++ [event])) (received r) (state.step (.inl event)).1 ∧
      ZipHeard (received (l ++ [event])) (received r) (received (sent ++ (state.step (.inl event)).2)) := by
  cases ends : terminal l with
  | some last =>
      have ended : state.selfEnded = true := by
        rw [kept.selfEnded, terminal_received, ends]
        rfl
      rw [received_append_of_ended (by rw [ends]; rfl), RACZipWith.step, if_pos ended, List.append_nil]
      exact ⟨kept, heard⟩
  | none =>
      have going : terminal (received l) = none := (terminal_received l).trans ends
      have more : received (l ++ [event]) = received l ++ [event] := by
        rw [received_append_of_going ends, received_of_going ends]
        cases event <;> rfl
      have open' : ¬ state.selfEnded = true := by
        rw [kept.selfEnded, going]
        exact Bool.false_ne_true
      rw [more, RACZipWith.step, if_neg open']
      cases event with
      | next x => exact self_next kept heard going x
      | error e => exact self_error kept heard going e
      | completed => exact self_completed kept heard going

/-! ## The two signals are treated alike -/

def swapped (state : RACZipWith α β) : RACZipWith β α where
  selfCompleted := state.otherCompleted
  selfValues := state.otherValues
  otherCompleted := state.selfCompleted
  otherValues := state.selfValues
  selfEnded := state.otherEnded
  otherEnded := state.selfEnded

abbrev swapSent (sent : List (SignalEvent (α × β) ε)) : List (SignalEvent (β × α) ε) :=
  sent.map (SignalEvent.map Prod.swap)

theorem swapSent_swapSent (sent : List (SignalEvent (α × β) ε)) : swapSent (swapSent sent) = sent := by
  rw [swapSent, swapSent, List.map_map]
  refine (List.map_congr_left fun event _ => ?_).trans (List.map_id sent)
  cases event <;> rfl

theorem sendCompleted_swapped (state : RACZipWith α β) :
    (swapped state).sendCompletedIfNecessary =
      swapSent (state.sendCompletedIfNecessary : List (SignalEvent (α × β) ε)) := by
  rw [RACZipWith.sendCompletedIfNecessary, RACZipWith.sendCompletedIfNecessary, swapSent, Bool.or_comm]
  show (if _ then _ else _) = List.map _ (if _ then _ else _)
  rw [apply_ite (List.map (SignalEvent.map Prod.swap))]
  rfl

theorem sendNext_swapped (state : RACZipWith α β) :
    (swapped state).sendNext = ((swapped (state.sendNext (ε := ε)).1), swapSent (state.sendNext (ε := ε)).2) := by
  rw [RACZipWith.sendNext, RACZipWith.sendNext]
  cases selfs : state.selfValues with
  | nil => cases others : state.otherValues <;> simp [swapped, selfs, others]
  | cons x selfValues =>
      cases others : state.otherValues with
      | nil => simp [swapped, selfs, others]
      | cons y otherValues =>
          have ends := sendCompleted_swapped (ε := ε) { state with selfValues, otherValues }
          simp only [swapped, selfs, others] at ends ⊢
          rw [ends]
          rfl

theorem step_swapped (state : RACZipWith α β) (event : SignalEvent β ε) :
    (swapped state).step (.inl event) =
      (swapped (state.step (.inr event)).1, swapSent (state.step (.inr event)).2) := by
  rw [RACZipWith.step, RACZipWith.step]
  by_cases ended : state.otherEnded = true
  · rw [if_pos ended, if_pos (show (swapped state).selfEnded = true from ended)]
    rfl
  · rw [if_neg ended, if_neg (show ¬ (swapped state).selfEnded = true from ended)]
    cases event with
    | next y => exact sendNext_swapped { state with otherValues := state.otherValues ++ [y] }
    | error e => rfl
    | completed =>
        have ends := sendCompleted_swapped (ε := ε) { state with otherCompleted := true, otherEnded := true }
        exact congrArg (Prod.mk _) ends

theorem zipDone_swap {l : List (SignalEvent α ε)} {r : List (SignalEvent β ε)} : ZipDone r l ↔ ZipDone l r := or_comm

theorem pairs_swap (l : List (SignalEvent α ε)) (r : List (SignalEvent β ε)) :
    (pairs l r).map Prod.swap = pairs r l := List.zip_swap _ _

theorem zipKept_swapped {l : List (SignalEvent α ε)} {r : List (SignalEvent β ε)} {state : RACZipWith α β}
    (kept : ZipKept l r state) : ZipKept r l (swapped state) :=
  ⟨kept.otherCompleted, kept.selfCompleted, kept.otherEnded, kept.selfEnded, kept.otherValues, kept.selfValues⟩

theorem heard_swapped {l : List (SignalEvent α ε)} {r : List (SignalEvent β ε)}
    {events : List (SignalEvent (α × β) ε)} (heard : ZipHeard l r events) : ZipHeard r l (swapSent events) := by
  have nexts (values : List (α × β)) (more : List (SignalEvent (α × β) ε)) :
      swapSent (values.map .next ++ more) = (values.map Prod.swap).map .next ++ swapSent more := by
    rw [swapSent, List.map_append, List.map_map, List.map_map]
    rfl
  cases heard with
  | going undone left right =>
      rw [← List.append_nil (List.map _ _), nexts, pairs_swap, swapSent, List.map_nil, List.append_nil]
      exact .going (fun done => undone (zipDone_swap.mp done)) right left
  | done done =>
      rw [nexts, pairs_swap]
      exact .done (zipDone_swap.mpr done)
  | failed e failed part =>
      rw [nexts]
      have part' := part.map Prod.swap
      rw [pairs_swap] at part'
      exact .failed e failed.symm part'

theorem other_step {l : List (SignalEvent α ε)} {r : List (SignalEvent β ε)} {state : RACZipWith α β}
    {sent : List (SignalEvent (α × β) ε)} (kept : ZipKept (received l) (received r) state)
    (heard : ZipHeard (received l) (received r) (received sent)) (event : SignalEvent β ε) :
    ZipKept (received l) (received (r ++ [event])) (state.step (.inr event)).1 ∧
      ZipHeard (received l) (received (r ++ [event])) (received (sent ++ (state.step (.inr event)).2)) := by
  have heard' := heard_swapped heard
  rw [swapSent, ← received_map] at heard'
  obtain ⟨kept', heard'⟩ := self_step (zipKept_swapped kept) heard' event
  rw [step_swapped] at kept' heard'
  have back := heard_swapped heard'
  rw [← List.map_append, received_map] at back
  rw [swapSent_swapSent] at back
  exact ⟨zipKept_swapped kept', back⟩

/-! ## Whole runs -/

def lefts {A B : Type*} (events : List (A ⊕ B)) : List A := events.filterMap Sum.getLeft?

def rights {A B : Type*} (events : List (A ⊕ B)) : List B := events.filterMap Sum.getRight?

theorem zipWith_kept (events : List (SignalEvent α ε ⊕ SignalEvent β ε)) :
    ZipKept (received (lefts events)) (received (rights events)) (Machine.after RACZipWith.step {} events) ∧
      ZipHeard (received (lefts events)) (received (rights events))
        (received (Machine.sent RACZipWith.step {} events)) := by
  refine Machine.invariant (P := fun events state sent =>
    ZipKept (received (lefts events)) (received (rights events)) state ∧
      ZipHeard (received (lefts events)) (received (rights events)) (received sent))
    ⟨zipKept_start, heard_start⟩ ?_ events
  intro events state sent event ⟨kept, heard⟩
  rw [lefts, rights, List.filterMap_append, List.filterMap_append]
  cases event with
  | inl event =>
      rw [show [(Sum.inl event : SignalEvent α ε ⊕ SignalEvent β ε)].filterMap Sum.getRight? = [] from rfl,
        List.append_nil]
      exact self_step kept heard event
  | inr event =>
      rw [show [(Sum.inr event : SignalEvent α ε ⊕ SignalEvent β ε)].filterMap Sum.getLeft? = [] from rfl,
        List.append_nil]
      exact other_step kept heard event

end ZipWith

end RealSocial.Proof
