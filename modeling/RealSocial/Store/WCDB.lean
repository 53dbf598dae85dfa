import Mathlib.Data.List.TakeWhile
import RealSocial.Library.Table

namespace RealSocial

open Library

abbrev NSData := List UInt8

/-! # The database operations of WCDB that the services call

The flag `ok` is the result of the statement that writes: every write may fail on its own. -/

namespace WCDB

variable {ρ κ : Type} {key : ρ → κ} [DecidableEq κ]

def insertOrReplaceObject (ok : Bool) (object : ρ) (table : Table key) : Bool × Table key :=
  if ok then (true, table.insertOrReplace object) else (false, table)

/-- `WCTInsert` writes all objects in one transaction and answers `NO` to an empty array. -/
def insertOrReplaceObjects (ok : Bool) (objects : List ρ) (table : Table key) : Bool × Table key :=
  if objects.length = 0 then (false, table)
  else if ok then (true, table.insertOrReplaceAll objects)
  else (false, table)

def updateAllRows (ok : Bool) (set : ρ → ρ) (keeps : ∀ r, key (set r) = key r)
    (table : Table key) : Bool × Table key :=
  if ok then (true, table.mapRows set keeps) else (false, table)

def updateRows (ok : Bool) (set : ρ → ρ) (keeps : ∀ r, key (set r) = key r) (condition : ρ → Bool)
    (table : Table key) : Bool × Table key :=
  updateAllRows ok (fun r => if condition r then set r else r)
    (fun r => by cases condition r <;> simp [keeps]) table

def getObjects (condition : ρ → Bool) (table : Table key) : List ρ := table.rows.filter condition

/-- Text and blob columns of length 0 are read back as nil. -/
def unarchive {α : Type} (value : List α) : Option (List α) :=
  if 0 < value.length then some value else none

def unarchiveString (value : String) : Option String :=
  if 0 < value.length then some value else none

/-- Text is bound and embedded as a C string, which ends before its first zero. -/
def cString (text : String) : String := String.ofList (text.toList.takeWhile (· ≠ Char.ofNat 0))

theorem cString_of_no_zero {text : String} (clean : Char.ofNat 0 ∉ text.toList) : cString text = text := by
  have all : text.toList.takeWhile (· ≠ Char.ofNat 0) = text.toList := by
    apply List.takeWhile_eq_self_iff.mpr
    intro char member
    exact decide_eq_true fun zero => clean (zero ▸ member)
  rw [cString, all, String.ofList_toList]

theorem unarchiveString_eq_some_iff {value text : String} :
    unarchiveString value = some text ↔ value = text ∧ text ≠ "" := by
  have positive : 0 < value.length ↔ value ≠ "" := by
    rw [Nat.pos_iff_ne_zero, ne_eq, String.length_eq_zero_iff]
  rw [unarchiveString, Option.ite_none_right_eq_some, positive, Option.some.injEq]
  constructor
  · intro ⟨nonempty, same⟩
    exact ⟨same, same ▸ nonempty⟩
  · intro ⟨same, nonempty⟩
    exact ⟨same ▸ nonempty, same⟩

theorem unarchiveString_injective : Function.Injective unarchiveString := by
  intro value other same
  by_cases empty : value = ""
  · by_contra different
    have read : unarchiveString other = some other :=
      unarchiveString_eq_some_iff.mpr ⟨rfl, fun none => different (empty.trans none.symm)⟩
    rw [empty, read] at same
    cases same
  · have read : unarchiveString value = some value := unarchiveString_eq_some_iff.mpr ⟨rfl, empty⟩
    rw [read] at same
    exact (unarchiveString_eq_some_iff.mp same.symm).1.symm

/-- A `uint32_t` property goes to its column through `int32_t` and is compared there as such. -/
def int32Column (value : UInt32) : Int := value.toInt32.toInt

theorem insertOrReplaceObject_failed (object : ρ) (table : Table key) :
    insertOrReplaceObject false object table = (false, table) := rfl

theorem find_updateRows (ok : Bool) (set : ρ → ρ) (keeps : ∀ r, key (set r) = key r) (condition : ρ → Bool)
    (table : Table key) (k : κ) :
    (updateRows ok set keeps condition table).2.find k =
      (table.find k).map fun r => if ok && condition r then set r else r := by
  cases ok with
  | false => simp [updateRows, updateAllRows]
  | true =>
      have kept : ∀ r, key (if condition r then set r else r) = key r :=
        fun r => by cases condition r <;> simp [keeps]
      exact Table.find_mapRows (fun r => if condition r then set r else r) kept table k

theorem getObjects_key (table : Table key) (k : κ) :
    (getObjects (fun r => key r = k) table).head? = table.find k := by
  rw [getObjects, Table.find, List.head?_filter]

end WCDB

end RealSocial
