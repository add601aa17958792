import RackManagement.Library.Lines
import RackManagement.Model.ManagedFabric

/-!
# Managed configuration files

How settings are read and removed, as in `libnmxc/managed_config.rs`.
-/

namespace RackManagement

open Library

structure ManagedConfig where
  entries : ConfigEntries
  valid : entries.entries.forM validateEntry = .ok ()

def ManagedConfig.tryFrom (entries : ConfigEntries) : Except String ManagedConfig :=
  match valid : entries.entries.forM validateEntry with
  | .ok () => .ok ⟨entries, valid⟩
  | .error error => .error error

structure ManagedDirective where
  start : Nat
  stop : Nat
  key : String
  value : String
deriving DecidableEq

namespace ManagedConfigFile

def trailingBackslashes (line : List Char) : Nat := (line.reverse.takeWhile (fun c => c = '\\')).length

def isSeparator (c : Char) : Bool := c = '=' || isWhitespace c

def isKeyChar (c : Char) : Bool := c.isAlphanum || c = '_' || c = '.' || c = '-'

def stripEquals : List Char → List Char
  | '=' :: value => value
  | value => value

/-- Blank lines and comments have no key. Only the separator after the key counts. -/
def splitDirective (physicalLine : List Char) : Except String (Option (String × List Char)) :=
  let line := trimChars physicalLine
  if line = [] ∨ line.head?.any (fun c => c = '#' || c = ';') = true then .ok none
  else do
    failIf (trailingBackslashes line % 2 ≠ 0) "managed configuration contains an unsupported continuation"
    let value := line.dropWhile (fun c => !isSeparator c)
    failIf (value = []) "managed configuration contains an ambiguous directive"
    let key := trimChars (line.takeWhile (fun c => !isSeparator c))
    failIf (key = [] ∨ key.all isKeyChar = false) "managed configuration contains an unsupported key"
    return some (String.ofList key, trimChars (stripEquals (value.dropWhile isWhitespace)))

def isQuote (c : Char) : Bool := c = '\'' || c = '"'

def isUnsupported (c : Char) : Bool := c = '\\' || isQuote c || c = '#' || c = ';' || isControl c

def unquote : List Char → Except String (List Char)
  | [] => .ok []
  | c :: value =>
    if isQuote c then
      if value.getLast? = some c then .ok value.dropLast
      else .error "managed configuration contains an ambiguous quoted value"
    else .ok (c :: value)

def readValue (file : String) (desired : ConfigEntries) (key : String) (text : List Char) :
    Except String String :=
  if (desired.lookup (toLex (file, key))).isSome then do
    let value ← unquote text
    failIf (value.any isUnsupported = true) "managed configuration contains an unsupported owned value"
    return String.ofList value
  else .ok (String.ofList text)

def directivesFrom (file : String) (desired : ConfigEntries) :
    (offset : Nat) → (seen : List String) → List (List Char) → Except String (List ManagedDirective)
  | _, _, [] => .ok []
  | offset, seen, line :: lines => do
    let stop := offset + byteLength line
    match ← splitDirective line with
    | none => directivesFrom file desired stop seen lines
    | some (key, text) =>
      failIf (key ∈ seen) "controller returned an ambiguous managed configuration entry"
      let value ← readValue file desired key text
      return ⟨offset, stop, key, value⟩ :: (← directivesFrom file desired stop (key :: seen) lines)

def managedDirectives (file content : String) (desired : ConfigEntries) :
    Except String (List ManagedDirective) :=
  directivesFrom file desired 0 [] (splitInclusive '\n' content.toList)

/-- The required files and the managed settings read from them. -/
structure ManagedConfigSnapshot where
  files : OrderedMap String String
  values : ConfigEntries

structure ConfigFileContent where
  configFileName : String
  configFileContent : String

structure NmxGetStaticConfigResponse where
  staticConfig : Option (Option (List ConfigFileContent))

def requiredFiles (desired : ConfigEntries) : OrderedSet String :=
  .ofList (desired.keys.map (fun key => (ofLex key).1))

def addDirective (file : String) (desired : ConfigEntries) (values : ConfigEntries)
    (directive : ManagedDirective) : ConfigEntries :=
  if (desired.lookup (toLex (file, directive.key))).isSome then values.insert
    (toLex (file, directive.key)) (some directive.value)
  else values

def addFile (desired : ConfigEntries) (current : ManagedConfigSnapshot) (file : ConfigFileContent) :
    Except String ManagedConfigSnapshot :=
  if file.configFileName ∈ requiredFiles desired then do
    let directives ← managedDirectives file.configFileName file.configFileContent desired
    return ⟨current.files.insert file.configFileName file.configFileContent,
      directives.foldl (addDirective file.configFileName desired) current.values⟩
  else .ok current

/-- Requires every requested file exactly once. -/
def completeConfig (response : NmxGetStaticConfigResponse) (desired : ConfigEntries) :
    Except String ManagedConfigSnapshot :=
  match response.staticConfig.join with
  | none => .error "controller did not return complete requested configuration files"
  | some files => do
    let returned := files.map ConfigFileContent.configFileName
    failIf (¬returned.Nodup) "controller returned duplicate configuration files"
    failIf (¬∀ file ∈ (requiredFiles desired).toList,
      file ∈ returned) "controller omitted a requested configuration file"
    files.foldlM (addFile desired) ⟨.empty, .ofList (desired.keys.map (fun key => (key, none)))⟩

/-- Absence must have been observed. -/
def configMatches (current : ManagedConfigSnapshot) (config : ManagedConfig) : Bool :=
  config.entries.entries.all (fun entry => current.values.lookup entry.1 = some entry.2)

def orInvalid {α : Type} (text : Option α) : Except String α :=
  match text with
  | some text => .ok text
  | none => .error "managed configuration record range is invalid"

def isRemoved (file : String) (desired : ConfigEntries) (key : String) : Bool :=
  desired.lookup (toLex (file, key)) = some none

def keptFrom (file : String) (desired : ConfigEntries) (content : List Char) :
    (cursor : Nat) → List ManagedDirective → Except String (List Char)
  | cursor, [] => orInvalid (dropBytes content cursor)
  | cursor, directive :: directives => do
    let between ← orInvalid (sliceBytes content cursor directive.start)
    if isRemoved file desired directive.key then
      return between ++ (← keptFrom file desired content directive.stop directives)
    else
      let record ← orInvalid (sliceBytes content directive.start directive.stop)
      return between ++ record ++ (← keptFrom file desired content directive.stop directives)

def replacementConfigFile (file content : String) (desired : ConfigEntries) : Except String String := do
  let directives ← managedDirectives file content desired
  return String.ofList (← keptFrom file desired content.toList 0 directives)

end ManagedConfigFile

end RackManagement
