import Mathlib.Data.List.Basic
import Mathlib.Logic.Relation

namespace RealSocial.Library

/-! # Change feeds

A server hands out pages one after another. A page carries the cursor under which the page
after it is served, and a consumer keeps the cursor of the last page it has taken in. -/

structure Feed (C P : Type*) where
  next : C → Option P
  cursor : P → C

namespace Feed

variable {C P D : Type*} (feed : Feed C P)

inductive Served (start : C) : List P → C → Prop
  | nil : Served start [] start
  | snoc {pages c p} : Served start pages c → feed.next c = some p →
      Served start (pages ++ [p]) (feed.cursor p)

def Advance (c c' : C) : Prop := ∃ p, feed.next c = some p ∧ feed.cursor p = c'

variable {feed}

theorem Served.snoc_inv {start d : C} {pages : List P} {p : P}
    (served : feed.Served start (pages ++ [p]) d) :
    d = feed.cursor p ∧ ∃ c, feed.Served start pages c ∧ feed.next c = some p := by
  generalize same : pages ++ [p] = whole at served
  cases served with
  | nil => simp at same
  | snoc before page =>
      obtain ⟨rfl, last⟩ := List.append_inj' same rfl
      simp only [List.cons.injEq, and_true] at last
      subst last
      exact ⟨rfl, _, before, page⟩

theorem Served.unique {start c d : C} {ps qs : List P} (first : feed.Served start ps c)
    (second : feed.Served start qs d) (length : ps.length = qs.length) : ps = qs ∧ c = d := by
  induction first generalizing qs d with
  | nil =>
      cases second with
      | nil => exact ⟨rfl, rfl⟩
      | snoc _ _ => simp at length
  | snoc before page ih =>
      cases second with
      | nil => simp at length
      | snoc before' page' =>
          obtain ⟨rfl, rfl⟩ := ih before' (by simpa using length)
          rw [page] at page'
          simp only [Option.some.injEq] at page'
          subst page'
          exact ⟨rfl, rfl⟩

theorem Served.take {start c : C} {ps : List P} (served : feed.Served start ps c) (n : Nat) :
    ∃ d, feed.Served start (ps.take n) d := by
  induction served with
  | nil => exact ⟨start, by simpa using Served.nil⟩
  | @snoc pages c p before page ih =>
      by_cases inside : n ≤ pages.length
      · rw [List.take_append_of_le_length inside]
        exact ih
      · refine ⟨feed.cursor p, ?_⟩
        rw [List.take_of_length_le (by rw [List.length_append, List.length_singleton]; omega)]
        exact before.snoc page

theorem Served.prefix_of_length_le {start c d : C} {ps qs : List P} (first : feed.Served start ps c)
    (second : feed.Served start qs d) (length : ps.length ≤ qs.length) : ps <+: qs := by
  obtain ⟨e, taken⟩ := second.take ps.length
  have same := (first.unique taken (List.length_take_of_le length).symm).1
  rw [same]
  exact List.take_prefix ps.length qs

theorem Served.prefix_of_first {start c : C} {ps qs : List P} (first : feed.Served start ps c)
    (only : ∀ p ∈ ps.dropLast, feed.cursor p ≠ c) (fresh : c ≠ start)
    (second : feed.Served start qs c) : ps <+: qs := by
  apply first.prefix_of_length_le second
  by_contra shorter
  have inside := second.prefix_of_length_le first (by omega)
  cases second with
  | nil => exact fresh rfl
  | @snoc before c' p _ _ =>
      obtain ⟨rest, rfl⟩ := inside
      have nonempty : rest ≠ [] := by
        rintro rfl
        simp at shorter
      refine only p ?_ rfl
      rw [List.dropLast_append_of_ne_nil nonempty]
      simp

/-! ## Consumers that take in each page at least once -/

section Consumer

variable (feed) (absorb : D → P → D)

/-- What a consumer holds that has stored the cursor of the pages `ps`: all of them applied, and
perhaps also the page after them, whose cursor is not stored yet. -/
inductive Holds (start : C) (initial : D) (ps : List P) (c : C) : D → Prop
  | even : feed.Served start ps c → Holds start initial ps c (ps.foldl absorb initial)
  | ahead {p} : feed.Served start ps c → feed.next c = some p →
      Holds start initial ps c (absorb (ps.foldl absorb initial) p)

variable {feed} {absorb} {start c : C} {initial data : D} {ps : List P} {p : P}

theorem Holds.served (holds : feed.Holds absorb start initial ps c data) : feed.Served start ps c := by
  cases holds with
  | even served => exact served
  | ahead served _ => exact served

theorem Holds.absorb_next (idem : ∀ d p, absorb (absorb d p) p = absorb d p)
    (holds : feed.Holds absorb start initial ps c data) (page : feed.next c = some p) :
    absorb data p = absorb (ps.foldl absorb initial) p := by
  cases holds with
  | even _ => rfl
  | ahead _ page' =>
      rw [page] at page'
      simp only [Option.some.injEq] at page'
      subst page'
      exact idem _ _

theorem Holds.pages (holds : feed.Holds absorb start initial ps c data) :
    ∃ rest, data = (ps ++ rest).foldl absorb initial ∧ ∃ d, feed.Served start (ps ++ rest) d := by
  cases holds with
  | even served => exact ⟨[], by simp, c, by simpa using served⟩
  | @ahead p served page => exact ⟨[p], by simp, feed.cursor p, served.snoc page⟩

variable (feed absorb initial) in
/-- A page that an answer to a request may still bring: the next one, or once more the last one. -/
def Expected (ps : List P) (c : C) (data : D) (p : P) : Prop :=
  feed.next c = some p ∨ (∃ before, ps = before ++ [p]) ∧ data = ps.foldl absorb initial

variable (feed absorb initial) in
def Absorbed (ps : List P) (c : C) (data : D) (p : P) : Prop :=
  feed.next c = some p ∧ data = absorb (ps.foldl absorb initial) p ∨
  (∃ before, ps = before ++ [p]) ∧ data = ps.foldl absorb initial

theorem Absorbed.expected (absorbed : feed.Absorbed absorb initial ps c data p) :
    feed.Expected absorb initial ps c data p := by
  rcases absorbed with ⟨page, -⟩ | last
  · exact .inl page
  · exact .inr last

theorem Holds.absorb_expected (idem : ∀ d p, absorb (absorb d p) p = absorb d p)
    (holds : feed.Holds absorb start initial ps c data)
    (expected : feed.Expected absorb initial ps c data p) :
    feed.Holds absorb start initial ps c (absorb data p) ∧
    feed.Absorbed absorb initial ps c (absorb data p) p := by
  rcases expected with page | ⟨⟨before, rfl⟩, even⟩
  · rw [holds.absorb_next idem page]
    exact ⟨.ahead holds.served page, .inl ⟨page, rfl⟩⟩
  · have again : absorb data p = (before ++ [p]).foldl absorb initial := by
      rw [even, List.foldl_append]
      exact idem _ _
    rw [again]
    exact ⟨.even holds.served, .inr ⟨⟨before, rfl⟩, rfl⟩⟩

theorem Holds.store (holds : feed.Holds absorb start initial ps c data)
    (absorbed : feed.Absorbed absorb initial ps c data p) :
    ∃ qs, feed.Holds absorb start initial qs (feed.cursor p) data ∧
      ∀ q, feed.next c = some q → feed.Expected absorb initial qs (feed.cursor p) data q := by
  rcases absorbed with ⟨page, ahead⟩ | ⟨⟨before, rfl⟩, even⟩
  · have taken : data = (ps ++ [p]).foldl absorb initial := by
      rw [ahead, List.foldl_append]
      rfl
    refine ⟨ps ++ [p], ?_, ?_⟩
    · rw [taken]
      exact .even (holds.served.snoc page)
    · intro q page'
      rw [page] at page'
      simp only [Option.some.injEq] at page'
      subst page'
      exact .inr ⟨⟨ps, rfl⟩, taken⟩
  · have here : c = feed.cursor p := holds.served.snoc_inv.1
    subst here
    exact ⟨before ++ [p], holds, fun q page => .inl page⟩

end Consumer

end Feed

end RealSocial.Library
