import Mathlib.Data.List.Basic

/-!
# Words of a POSIX shell command

Token recognition with the quoting rules of the POSIX shell, one step for each character.
-/

namespace RackManagement.Library

namespace ShellWords

inductive ShellChar
  | literal (c : Char)
  /-- The shell gives the character a meaning: an expansion, a pattern, a comment or an assignment. -/
  | special (c : Char)
deriving DecidableEq

inductive Token
  | word (chars : List ShellChar)
  | operator (c : Char)
deriving DecidableEq

inductive Mode
  | unquoted
  | escaped
  | singleQuoted
  | doubleQuoted
  | doubleQuotedEscaped
deriving DecidableEq

/-- The word that has been started, if there is one, and the tokens before it. -/
structure State where
  mode : Mode
  word : Option (List ShellChar)
  tokens : List Token
deriving DecidableEq

def isBlank (c : Char) : Bool := c = ' ' || c = '\t'

def isOperator (c : Char) : Bool := c ∈ ['|', '&', ';', '<', '>', '(', ')', '\n']

def isSpecial (c : Char) : Bool := c ∈ ['$', '\x60', '*', '?', '[', '#', '~', '=', '%']

/-- The characters that start an expansion between double quotes. -/
def isExpansion (c : Char) : Bool := c = '$' || c = '\x60'

namespace State

variable (s : State)

def push (chars : List ShellChar) (mode : Mode) : State :=
  { s with mode := mode, word := some (s.word.getD [] ++ chars) }

def close : State :=
  match s.word with
  | none => s
  | some chars => { s with word := none, tokens := s.tokens ++ [.word chars] }

def step (c : Char) : State :=
  match s.mode with
  | .unquoted =>
    -- a quote starts a word, so that a pair of quotes is an empty word
    if c = '\'' then s.push [] .singleQuoted
    else if c = '"' then s.push [] .doubleQuoted
    else if c = '\\' then { s with mode := .escaped }
    else if isBlank c then s.close
    else if isOperator c then { s.close with tokens := s.close.tokens ++ [.operator c] }
    else if isSpecial c then s.push [.special c] .unquoted
    else s.push [.literal c] .unquoted
  | .escaped =>
    -- an escaped newline continues the line
    if c = '\n' then { s with mode := .unquoted } else s.push [.literal c] .unquoted
  | .singleQuoted => if c = '\'' then { s with mode := .unquoted } else s.push [.literal c] .singleQuoted
  | .doubleQuoted =>
    if c = '"' then { s with mode := .unquoted }
    else if c = '\\' then { s with mode := .doubleQuotedEscaped }
    else if isExpansion c then s.push [.special c] .doubleQuoted
    else s.push [.literal c] .doubleQuoted
  | .doubleQuotedEscaped =>
    if c = '\n' then { s with mode := .doubleQuoted }
    else if isExpansion c || c = '"' || c = '\\' then s.push [.literal c] .doubleQuoted
    else s.push [.literal '\\', .literal c] .doubleQuoted

/-- A text that ends inside quotes or after a backslash is not complete. -/
def finish : Option (List Token) := if s.mode = .unquoted then some s.close.tokens else none

end State

/-- The tokens of a command line. `none` means that a quote is left open. -/
def split (text : List Char) : Option (List Token) := (text.foldl State.step ⟨.unquoted, none, []⟩).finish

/-- A word in which every character stands for itself. -/
def literalWord (text : List Char) : Token := .word (text.map .literal)

lemma step_singleQuoted {c : Char} (hc : c ≠ '\'') (chars : List ShellChar) (tokens : List Token) :
    State.step ⟨.singleQuoted, some chars, tokens⟩ c =
      ⟨.singleQuoted, some (chars ++ [.literal c]), tokens⟩ := by
  simp [State.step, State.push, hc]

end ShellWords

end RackManagement.Library
