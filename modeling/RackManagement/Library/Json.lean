import Mathlib.Algebra.Ring.Int.Defs
import Mathlib.Data.List.Nodup

/-!
# JSON values

The values of `serde_json` with the accessors that are used.
-/

namespace RackManagement.Library

open List

inductive Json
  | null
  | bool (value : Bool)
  | integer (value : Int)
  | float (text : String)
  | string (value : String)
  | array (elements : List Json)
  | object (fields : List (String × Json))

namespace Json

def get (key : String) : Json → Option Json
  | object fields => fields.lookup key
  | _ => none

def isObject : Json → Bool
  | object _ => true
  | _ => false

def asStr : Json → Option String
  | string value => some value
  | _ => none

def asBool : Json → Option Bool
  | bool value => some value
  | _ => none

def asArray : Json → Option (List Json)
  | array elements => some elements
  | _ => none

def asU64 : Json → Option Nat
  | integer value => if 0 ≤ value ∧ value < 2 ^ 64 then some value.toNat else none
  | _ => none

def asI64 : Json → Option Int
  | integer value => if -2 ^ 63 ≤ value ∧ value < 2 ^ 63 then some value else none
  | _ => none

def ofOption (value : Option Json) : Json := value.getD null

def insertField (key : String) (value : Json) : List (String × Json) → List (String × Json)
  | [] => [(key, value)]
  | (other, old) :: fields =>
    if other == key then (key, value) :: fields else (other, old) :: insertField key value fields

def insert (json : Json) (key : String) (value : Json) : Json :=
  match json with
  | object fields => object (insertField key value fields)
  | json => json

/-- The entries of a map: of a repeated key the first value counts, as for `get`. -/
def entries : List (String × Json) → List (String × Json)
  | [] => []
  | (key, value) :: fields => (key, value) :: (entries fields).filter (fun field => field.1 ≠ key)

def getStr (key : String) (json : Json) : Option String := (json.get key).bind asStr

lemma lookup_cons {α : Type} (key name : String) (value : α) (fields : List (String × α)) :
    List.lookup key ((name, value) :: fields) = if key = name then some value
      else List.lookup key fields := by
  rw [List.lookup_cons]
  by_cases h : key = name
  · simp [h]
  · have hne : (key == name) = false := by simpa using h
    rw [hne, if_neg h]

lemma lookup_of_mem_nodup {α : Type} {fields : List (String × α)} {key : String} {value : α}
    (hnodup : (fields.map Prod.fst).Nodup) (hmem : (key, value) ∈ fields) :
    fields.lookup key = some value := by
  induction fields with
  | nil => simp at hmem
  | cons field fields ih =>
    obtain ⟨name, other⟩ := field
    rw [map_cons, nodup_cons] at hnodup
    rw [lookup_cons]
    obtain heq | hmem := mem_cons.mp hmem
    · cases heq
      exact if_pos rfl
    · have hne : key ≠ name := fun heq => hnodup.1 (mem_map.mpr ⟨(key, value), hmem, heq⟩)
      rw [if_neg hne]
      exact ih hnodup.2 hmem

lemma nodup_entries (fields : List (String × Json)) : ((entries fields).map Prod.fst).Nodup := by
  induction fields with
  | nil => exact nodup_nil
  | cons field fields ih =>
    rw [entries, map_cons, nodup_cons]
    refine ⟨?_, ih.sublist (filter_sublist.map _)⟩
    intro hmem
    obtain ⟨other, hother, heq⟩ := mem_map.mp hmem
    exact (by simpa using (mem_filter.mp hother).2 : other.1 ≠ field.1) heq

lemma lookup_insertField (key other : String) (value : Json) (fields : List (String × Json)) :
    (insertField key value fields).lookup other = if other = key then some value
      else fields.lookup other := by
  induction fields with
  | nil => rw [insertField, lookup_cons]
  | cons field fields ih =>
    obtain ⟨name, old⟩ := field
    unfold insertField
    by_cases hname : name = key
    · subst hname
      simp only [beq_self_eq_true, ↓reduceIte, lookup_cons]
      split <;> rfl
    · simp only [beq_iff_eq, hname, ↓reduceIte, lookup_cons, ih]
      by_cases h : other = name
      · simp [h, hname]
      · simp [h]

lemma get_insert_of_ne {key other : String} (h : other ≠ key) (value json : Json) :
    (json.insert key value).get other = json.get other := by
  cases json with
  | object fields =>
    change (insertField key value fields).lookup other = fields.lookup other
    rw [lookup_insertField, if_neg h]
  | _ => rfl

mutual

def beq : Json → Json → Bool
  | null, null => true
  | bool a, bool b => a == b
  | integer a, integer b => a == b
  | float a, float b => a == b
  | string a, string b => a == b
  | array a, array b => beqElements a b
  | object a, object b => beqFields a b
  | _, _ => false

def beqElements : List Json → List Json → Bool
  | [], [] => true
  | a :: as, b :: bs => beq a b && beqElements as bs
  | _, _ => false

def beqFields : List (String × Json) → List (String × Json) → Bool
  | [], [] => true
  | (key, a) :: as, (other, b) :: bs => key == other && beq a b && beqFields as bs
  | _, _ => false

end

instance : BEq Json := ⟨beq⟩

end Json

end RackManagement.Library
