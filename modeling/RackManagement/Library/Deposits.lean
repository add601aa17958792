import RackManagement.Library.FiniteMap

/-!
# Deposits of files

A file is written under a temporary name and renamed.
-/

namespace RackManagement.Library

variable {N V : Type}

structure Deposit (N V : Type) where
  temporary : N
  final : N
  content : V

namespace Deposit

variable [DecidableEq N]

/-- The effect of a deposit. A name that is both is the final one. -/
def Stores (before : FiniteMap N V) (deposit : Deposit N V) (after : FiniteMap N V) : Prop :=
  ∀ name, after.lookup name =
    if name = deposit.final then some deposit.content
    else if name = deposit.temporary then none
    else before.lookup name

inductive StoresAll : FiniteMap N V → List (Deposit N V) → FiniteMap N V → Prop
  | nil (files : FiniteMap N V) : StoresAll files [] files
  | cons {before middle after : FiniteMap N V} {deposit : Deposit N V} {rest : List (Deposit N V)} :
    Stores before deposit middle → StoresAll middle rest after → StoresAll before (deposit :: rest) after

variable {before after : FiniteMap N V}

/-- The last deposit that writes or removes the file `name`. -/
def lastUse (name : N) (deposits : List (Deposit N V)) : Option (Deposit N V) :=
  deposits.reverse.find? (fun deposit => deposit.final = name ∨ deposit.temporary = name)

variable {deposits : List (Deposit N V)}

/-- The file `name` is in the end what its last use left. -/
lemma StoresAll.lookup_eq (h : StoresAll before deposits after) (name : N) :
    after.lookup name =
      match lastUse name deposits with
      | none => before.lookup name
      | some last => if last.final = name then some last.content else none := by
  induction h with
  | nil files => rfl
  | @cons before middle after deposit rest hstores _ ih =>
    have hlast : lastUse name (deposit :: rest) =
        (lastUse name rest).or (if deposit.final = name ∨ deposit.temporary = name then some deposit
          else none) := by
      simp [lastUse, List.find?_append, List.find?_singleton]
    rw [ih, hlast]
    cases lastUse name rest with
    | some last => rfl
    | none =>
      dsimp only [Option.none_or]
      rw [hstores name]
      by_cases hfinal : deposit.final = name
      · simp [hfinal]
      · by_cases htemporary : deposit.temporary = name
        · simp [hfinal, htemporary, Ne.symm hfinal]
        · simp [hfinal, htemporary, Ne.symm hfinal, Ne.symm htemporary]

/-- In a directory that was empty, the bytes of `name` are those of its last use as a final name. -/
lemma StoresAll.lookup_eq_some_iff (h : StoresAll ∅ deposits after) {name : N} {content : V} :
    after.lookup name = some content ↔
      ∃ last, lastUse name deposits = some last ∧ last.final = name ∧ last.content = content := by
  rw [h.lookup_eq name]
  cases lastUse name deposits with
  | none => simp
  | some last => by_cases hfinal : last.final = name <;> simp [hfinal]

end Deposit

end RackManagement.Library
