import Mathlib.Data.List.DropRight
import RackManagement.Library.Text

/-! # File names in texts -/

namespace RackManagement.Library

def endsWith (ending s : String) : Bool := ending.toList.isSuffixOf s.toList

def containsText (part s : String) : Bool := s.toList.tails.any (fun rest => part.toList.isPrefixOf rest)

def stripEnd (ending name : String) : Option String :=
  if ending.toList.isSuffixOf name.toList then
    some (String.ofList (name.toList.rdrop ending.toList.length))
  else none

def joinPath (directory fileName : String) : String :=
  if directory.isEmpty || directory.toList.getLast? = some '/' then directory ++ fileName
  else directory ++ "/" ++ fileName

def toAsciiUppercase (s : String) : String := String.ofList (s.toList.map Char.toUpper)

/-- The last component of a path. Separators at the end and `.` components count for nothing. -/
def fileName (path : String) : Option String :=
  match (((splitAll '/' path).filter (· ≠ "")).rdropWhile (· == ".")).getLast? with
  | some name => if name = ".." then none else some name
  | none => none

/-- What follows the last dot of the file name, if something precedes it. -/
def extension (path : String) : Option String :=
  match fileName path with
  | none => none
  | some name =>
    let stem := name.toList.rdropWhile (· != '.')
    if stem.length ≤ 1 then none else some (String.ofList (name.toList.rtakeWhile (· != '.')))

/-- The parts before and after the last occurrence of a text. -/
def splitAtLast (part s : String) : Option (String × String) :=
  let starts :=
    (List.range (s.toList.length + 1)).filter (fun n => part.toList.isPrefixOf (s.toList.drop n))
  starts.getLast?.map (fun n =>
    (String.ofList (s.toList.take n), String.ofList (s.toList.drop (n + part.toList.length))))

example : fileName "/cache/images/./" = some "images" ∧ fileName "a/.." = none ∧ fileName "." = none := by
  decide +kernel

example : extension "/a/BmcFwV1.IMA" = some "IMA" ∧ extension ".ima" = none ∧ extension "ima" = none ∧
    splitAtLast "ab" "xababy" = some ("xab", "y") := by
  decide +kernel

end RackManagement.Library
