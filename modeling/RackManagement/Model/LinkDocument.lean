import RackManagement.Model.FabricLayout

/-!
# Link-state documents

How a profile's `full_link_states` are read and written.
-/

namespace RackManagement

open Library

/-- The entries of a mapping, in the order in which a deserializer visits them. -/
abbrev LinkDocument := List (String × FabricLinkState)

structure InterfaceRange where
  namePrefix : String
  first : Nat
  last : Nat
  ascending : first ≤ last

namespace InterfaceRange

def width (range : InterfaceRange) : Nat := range.last - range.first + 1

def names (range : InterfaceRange) : List String :=
  (List.range' range.first range.width).map (fun number => s!"{range.namePrefix}{number}")

end InterfaceRange

namespace LinkDocument

def parseIndex (text : String) : Except String Nat :=
  match canonicalU32 text with
  | some number =>
    if 0 < number then .ok number else .error "interface indices must be canonical positive u32 integers"
  | none => .error "interface indices must be canonical positive u32 integers"

def parsePrefix (expression : String) : Except String (String × String) :=
  match stripStart "acp" expression with
  | some suffix => .ok ("acp", suffix)
  | none =>
    match stripStart "fnm" expression with
    | some suffix => .ok ("fnm", suffix)
    | none => .error "controlled interfaces must use the acp or fnm prefix"

def parseRange (expression : String) : Except String InterfaceRange := do
  let named ← parsePrefix expression
  let bounds := (splitOnce '-' named.2).getD (named.2, named.2)
  let first ← parseIndex bounds.1
  let last ← parseIndex bounds.2
  if ascending : first ≤ last then .ok ⟨named.1, first, last, ascending⟩
  else .error "interface ranges must be ascending"

def insertName (state : FabricLinkState) (states : LinkStates) (name : String) : Except String LinkStates :=
  if (states.lookup name).isSome then .error "controlled interface entries overlap"
  else .ok (states.insert name state)

/-- The expanded size is checked before the names of a range are generated. -/
def addEntry (states : LinkStates) (entry : String × FabricLinkState) : Except String LinkStates := do
  let range ← parseRange entry.1
  failIf (maxInterfaces < range.width +
    states.size) s!"expanded controlled interfaces exceed {maxInterfaces}"
  range.names.foldlM (insertName entry.2) states

/-- In the order of the texts, with the last state of a text that is repeated. -/
def collected (document : LinkDocument) : LinkDocument := (OrderedMap.ofList document).entries

def deserializeFullLinkStates (document : LinkDocument) : Except String LinkStates :=
  document.collected.foldlM addEntry .empty

def serialize (states : LinkStates) : LinkDocument := states.entries

end LinkDocument

end RackManagement
