import Mathlib.Data.List.Nodup
import Mathlib.Data.List.Lattice

namespace RealSocial.Library

/-! # Tables with a unique key

Rows are kept in the order in which they were inserted. Replacing a row takes it out and
inserts the new one at the end, as SQL does for a key that is not the row id. -/

@[ext] structure Table {ρ κ : Type*} (key : ρ → κ) where
  rows : List ρ
  unique : (rows.map key).Nodup

namespace Table

variable {ρ κ : Type*} {key : ρ → κ}

instance : EmptyCollection (Table key) := ⟨⟨[], by simp⟩⟩

instance [DecidableEq ρ] : DecidableEq (Table key) :=
  fun t u => decidable_of_iff (t.rows = u.rows) Table.ext_iff.symm

def mapRows (f : ρ → ρ) (keeps : ∀ r, key (f r) = key r) (t : Table key) : Table key :=
  ⟨t.rows.map f, by simpa [Function.comp_def, keeps] using t.unique⟩

@[simp] theorem rows_mapRows (f : ρ → ρ) (keeps : ∀ r, key (f r) = key r) (t : Table key) :
    (t.mapRows f keeps).rows = t.rows.map f := rfl

variable [DecidableEq κ]

def find (t : Table key) (k : κ) : Option ρ := t.rows.find? fun r => key r = k

def insertOrReplace (t : Table key) (r : ρ) : Table key where
  rows := t.rows.filter (fun x => key x ≠ key r) ++ [r]
  unique := by
    have kept : ((t.rows.filter fun x => key x ≠ key r).map key).Nodup :=
      (List.filter_sublist.map key).nodup t.unique
    rw [List.map_append, List.nodup_append]
    refine ⟨kept, by simp, ?_⟩
    intro k inKept k' isNew same
    obtain ⟨x, member, rfl⟩ := List.mem_map.mp inKept
    simp only [List.map_cons, List.map_nil, List.mem_singleton] at isNew
    simp [same, isNew] at member

def insertOrReplaceAll (t : Table key) (rs : List ρ) : Table key := rs.foldl insertOrReplace t

@[simp] theorem find_empty (k : κ) : (∅ : Table key).find k = none := rfl

@[simp] theorem insertOrReplaceAll_nil (t : Table key) : t.insertOrReplaceAll [] = t := rfl

@[simp] theorem insertOrReplaceAll_cons (t : Table key) (r : ρ) (rs : List ρ) :
    t.insertOrReplaceAll (r :: rs) = (t.insertOrReplace r).insertOrReplaceAll rs := rfl

theorem insertOrReplaceAll_append (t : Table key) (rs ss : List ρ) :
    t.insertOrReplaceAll (rs ++ ss) = (t.insertOrReplaceAll rs).insertOrReplaceAll ss :=
  List.foldl_append

theorem find_key {t : Table key} {k : κ} {r : ρ} (found : t.find k = some r) : key r = k := by
  simpa using List.find?_some found

theorem mem_of_find {t : Table key} {k : κ} {r : ρ} (found : t.find k = some r) : r ∈ t.rows :=
  List.mem_of_find?_eq_some found

theorem find_of_mem {t : Table key} {r : ρ} (member : r ∈ t.rows) : t.find (key r) = some r := by
  obtain ⟨x, found⟩ : ∃ x, t.find (key r) = some x := by
    rw [← Option.isSome_iff_exists, find, List.find?_isSome]
    exact ⟨r, member, by simp⟩
  have same := List.inj_on_of_nodup_map t.unique (mem_of_find found) member (find_key found)
  rw [found, same]

theorem mem_rows_iff {t : Table key} {r : ρ} : r ∈ t.rows ↔ t.find (key r) = some r :=
  ⟨find_of_mem, mem_of_find⟩

theorem find_insertOrReplace (t : Table key) (r : ρ) (k : κ) :
    (t.insertOrReplace r).find k = if key r = k then some r else t.find k := by
  unfold find insertOrReplace
  rw [List.find?_append]
  by_cases same : key r = k
  · subst same
    have gone : (t.rows.filter fun x => key x ≠ key r).find? (fun x => key x = key r) = none := by
      rw [List.find?_eq_none]
      intro x member
      simpa using (List.mem_filter.mp member).2
    rw [gone]
    simp
  · have kept : (t.rows.filter fun x => key x ≠ key r).find? (fun x => key x = k) =
        t.rows.find? fun x => key x = k := by
      rw [List.find?_filter]
      congr 1
      funext x
      by_cases here : key x = k
      · have other : k ≠ key r := fun eq => same eq.symm
        simp [here, other]
      · simp [here]
    rw [kept]
    simp [same]

theorem find_mapRows (f : ρ → ρ) (keeps : ∀ r, key (f r) = key r) (t : Table key) (k : κ) :
    (t.mapRows f keeps).find k = (t.find k).map f := by
  unfold find
  rw [rows_mapRows, List.find?_map]
  congr 2
  funext r
  exact congrArg (fun x => decide (x = k)) (keeps r)

/-! ## The last version of a key in a list of rows -/

def lastVersion (key : ρ → κ) : List ρ → κ → Option ρ
  | [], _ => none
  | r :: rs, k => (lastVersion key rs k).or (if key r = k then some r else none)

theorem lastVersion_append (rs ss : List ρ) (k : κ) :
    lastVersion key (rs ++ ss) k = (lastVersion key ss k).or (lastVersion key rs k) := by
  induction rs with
  | nil => simp [lastVersion]
  | cons r rs ih => simp [lastVersion, ih, Option.or_assoc]

theorem lastVersion_mem {rs : List ρ} {k : κ} {r : ρ} (last : lastVersion key rs k = some r) :
    r ∈ rs ∧ key r = k := by
  induction rs with
  | nil => simp [lastVersion] at last
  | cons x rs ih =>
      rw [lastVersion, Option.or_eq_some_iff] at last
      rcases last with later | ⟨-, here⟩
      · exact ⟨List.mem_cons_of_mem x (ih later).1, (ih later).2⟩
      · split_ifs at here with same
        simp only [Option.some.injEq] at here
        subst here
        exact ⟨List.mem_cons_self, same⟩

theorem lastVersion_eq_none {rs : List ρ} {k : κ} :
    lastVersion key rs k = none ↔ ∀ r ∈ rs, key r ≠ k := by
  induction rs with
  | nil => simp [lastVersion]
  | cons x rs ih => simp [lastVersion, ih, and_comm]

theorem lastVersion_of_nodup {rs : List ρ} {r : ρ} (distinct : (rs.map key).Nodup) (member : r ∈ rs) :
    lastVersion key rs (key r) = some r := by
  cases last : lastVersion key rs (key r) with
  | none => exact absurd rfl (lastVersion_eq_none.mp last r member)
  | some x =>
      obtain ⟨there, same⟩ := lastVersion_mem last
      rw [List.inj_on_of_nodup_map distinct there member same]

theorem lastVersion_map {α β : Type*} [DecidableEq β] {f : α → ρ} {g : β → κ} {name : α → β}
    (injective : Function.Injective g) (named : ∀ a, key (f a) = g (name a)) (as : List α) (b : β) :
    lastVersion key (as.map f) (g b) = (lastVersion name as b).map f := by
  induction as with
  | nil => rfl
  | cons a as ih =>
      rw [List.map_cons, lastVersion, lastVersion, ih]
      by_cases same : name a = b
      · cases lastVersion name as b <;> simp [named, same]
      · cases lastVersion name as b <;> simp [named, same, injective.eq_iff]

theorem find_insertOrReplaceAll (t : Table key) (rs : List ρ) (k : κ) :
    (t.insertOrReplaceAll rs).find k = (lastVersion key rs k).or (t.find k) := by
  induction rs generalizing t with
  | nil => simp [lastVersion]
  | cons r rs ih =>
      rw [insertOrReplaceAll_cons, ih, find_insertOrReplace, lastVersion, Option.or_assoc]
      congr 1
      split_ifs <;> rfl

def lastVersions (key : ρ → κ) : List ρ → List ρ
  | [] => []
  | r :: rs => if key r ∈ rs.map key then lastVersions key rs else r :: lastVersions key rs

theorem lastVersions_subset (rs : List ρ) : lastVersions key rs ⊆ rs := by
  induction rs with
  | nil => simp [lastVersions]
  | cons r rs ih =>
      rw [lastVersions]
      split_ifs
      · exact List.Subset.trans ih (List.subset_cons_self r rs)
      · exact List.cons_subset_cons r ih

theorem rows_insertOrReplaceAll (t : Table key) (rs : List ρ) :
    (t.insertOrReplaceAll rs).rows =
      t.rows.filter (fun x => key x ∉ rs.map key) ++ lastVersions key rs := by
  induction rs generalizing t with
  | nil => simp [lastVersions]
  | cons r rs ih =>
      rw [insertOrReplaceAll_cons, ih, insertOrReplace, List.filter_append, List.filter_filter]
      have old : (t.rows.filter fun x => decide (key x ∉ rs.map key) && decide (key x ≠ key r)) =
          t.rows.filter fun x => key x ∉ (r :: rs).map key := by
        apply List.filter_congr
        intro x _
        simp only [List.map_cons, List.mem_cons, not_or, Bool.decide_and, Bool.and_comm]
      rw [old, List.append_assoc]
      congr 1
      by_cases replaced : key r ∈ rs.map key
      · rw [lastVersions, if_pos replaced, List.filter_cons_of_neg (by simpa using replaced)]
        rfl
      · rw [lastVersions, if_neg replaced, List.filter_cons_of_pos (by simpa using replaced)]
        rfl

theorem insertOrReplaceAll_idem (t : Table key) (rs : List ρ) :
    (t.insertOrReplaceAll rs).insertOrReplaceAll rs = t.insertOrReplaceAll rs := by
  apply Table.ext
  rw [rows_insertOrReplaceAll, rows_insertOrReplaceAll, List.filter_append, List.filter_filter]
  have none_kept : (lastVersions key rs).filter (fun x => key x ∉ rs.map key) = [] := by
    rw [List.filter_eq_nil_iff]
    intro x member
    simpa using ⟨x, lastVersions_subset rs member, rfl⟩
  rw [none_kept, List.append_nil]
  simp only [Bool.and_self]

end Table

end RealSocial.Library
