import ControlForge.Clock
import ControlForge.Foundation.Effect
import ControlForge.Foundation.Text

/-!
# The packet filter and what an attempt leaves of it

An endpoint is contained by rules in one anchor of the packet filter (PF) and
by a counted reference to the filter, which a token names.  The recovery
material is a state file.  Every command and every call of the state store may
fail, with or without its effect.
-/

namespace ControlForge

namespace Containment

def pfctl : String :=
  "/sbin/pfctl"

def controlforgeAnchor : String :=
  "com.apple/controlforge"

/-- `MAX_CONTAINMENT`: fifteen minutes. -/
def maxContainment : Int :=
  seconds 900

/-! ## Tokens -/

/-- `_TOKEN`: one to twenty decimal digits. -/
def isToken (text : String) : Bool :=
  1 ≤ text.toList.length && text.toList.length ≤ 20 &&
    text.toList.all Char.isDigit

structure PfToken where
  text : String
  matched : isToken text = true
deriving DecidableEq

def PfToken.of? (text : String) : Option PfToken :=
  if matched : isToken text = true then some ⟨text, matched⟩ else none

/-- The letters of `Token` in either case; the Kelvin sign is a `K`. -/
def tokenWord : List (List Char) :=
  [['T', 't'], ['O', 'o'], ['K', 'k', Char.ofNat 0x212a], ['E', 'e'],
    ['N', 'n']]

def dropWord : List (List Char) → List Char → Option (List Char)
  | [], rest => some rest
  | _ :: _, [] => none
  | letters :: word, character :: rest =>
      if character ∈ letters then dropWord word rest else none

/-- `\s*$` on one of several lines. -/
def endsLine (rest : List Char) : Bool :=
  (rest.takeWhile Text.isSpace).contains '\n' ||
    (rest.dropWhile Text.isSpace).isEmpty

/-- `Token\s*:\s*([0-9]{1,20})\s*$` at the start of a line. -/
def tokenAt (line : List Char) : Option PfToken :=
  match (dropWord tokenWord line).map (·.dropWhile Text.isSpace) with
  | some (':' :: rest) =>
      let number := rest.dropWhile Text.isSpace
      if endsLine (number.dropWhile Char.isDigit) then
        PfToken.of? (String.ofList (number.takeWhile Char.isDigit))
      else
        none
  | _ => none

/-- The first line of the text that names a token. -/
def searchToken (lineStart : Bool) : List Char → Option PfToken
  | [] => none
  | character :: rest =>
      (if lineStart then tokenAt (character :: rest) else none).orElse
        fun _ => searchToken (character = '\n') rest

/-- `_TOKEN_OUTPUT.search`. -/
def tokenOutput (output : String) : Option PfToken :=
  searchToken true output.toList

example :
    (tokenOutput "pf enabled\nToken : 42\n").map (·.text) = some "42" := by
  decide +kernel

/-! ## Commands -/

/-- The rules are loaded under a token, which is not an argument. -/
inductive PfctlCommand where
  | enable
  | load (owner : PfToken) (rules : String)
  | flush
  | release (token : PfToken)
deriving DecidableEq

def PfctlCommand.arguments : PfctlCommand → List String
  | .enable => [pfctl, "-E"]
  | .load _ _ => [pfctl, "-a", controlforgeAnchor, "-f", "-"]
  | .flush => [pfctl, "-a", controlforgeAnchor, "-F", "all"]
  | .release token => [pfctl, "-X", token.text]

def PfctlCommand.rules : PfctlCommand → Option String
  | .load _ rules => some rules
  | _ => none

/-- `FixedPfctlRunner._validate`. -/
def allowlisted (arguments : List String) (rules : Option String) : Bool :=
  (arguments = [pfctl, "-E"] && rules.isNone) ||
  (arguments = [pfctl, "-a", controlforgeAnchor, "-f", "-"] &&
    rules.any (· ≠ "")) ||
  (arguments = [pfctl, "-a", controlforgeAnchor, "-F", "all"] &&
    rules.isNone) ||
  (match arguments with
    | [program, option, token] =>
        program = pfctl && option = "-X" && isToken token && rules.isNone
    | _ => false)

/-! ## The state file -/

/-- `MacOSPfState.management_ips`: sorted, without repetition. -/
structure ManagementIps where
  values : List String
  notEmpty : values ≠ []
  atMost16 : values.length ≤ 16
  sorted : values.Pairwise (· < ·)
deriving DecidableEq

structure MacOSPfState where
  pfToken : PfToken
  expiresAt : Timestamp
  managementIps : ManagementIps
deriving DecidableEq

/-- The rules in the anchor, and the token under which they were loaded. -/
structure LoadedAnchor where
  rules : String
  owner : PfToken
deriving DecidableEq

/-- What stays between two attempts: the references that were obtained and
that PF still counts, the anchor and the state file. -/
structure Host where
  held : List PfToken
  anchor : Option LoadedAnchor
  stateFile : Option MacOSPfState
deriving DecidableEq

def Host.clean : Host where
  held := []
  anchor := none
  stateFile := none

/-- The effect of a command.  A reference whose token is not in the output has
not been obtained. -/
def Host.perform (host : Host) (output : Option String) :
    PfctlCommand → Host
  | .enable =>
      match output.bind tokenOutput with
      | some token => { host with held := token :: host.held }
      | none => host
  | .load owner rules => { host with anchor := some ⟨rules, owner⟩ }
  | .flush => { host with anchor := none }
  | .release token => { host with held := host.held.filter (· ≠ token) }

/-! ## Calls of an attempt -/

/-- How a call ends; one that fails may have had its effect. -/
inductive Answer where
  | done
  | failed (applied : Bool)
deriving DecidableEq

def Answer.applied : Answer → Bool
  | .done => true
  | .failed applied => applied

/-- The parts of an attempt. -/
inductive Phase where
  | starting
  | releasing
  | applying
  | undoing
  | discarding
  | preserving
deriving DecidableEq

inductive StoreOperation where
  | read
  | write
  | delete
deriving DecidableEq

/-- The calls and checks of `RootOwnedPfStateStore`. -/
inductive StoreCall where
  | makeParent
  | parentIsDirectory
  | parentIsSymlink
  | parentIsOwned
  | metadata
  | isRegular
  | isSymlink
  | isOwned
  | readBytes
  | makeTemporary
  | fillTemporary
  | replace
  | syncReplaced
  | unlinkReplaced
  | syncUnlinked
  | removeTemporary
  | unlink
  | syncParent
deriving DecidableEq

inductive Call where
  | pfctl (phase : Phase) (command : PfctlCommand)
  | store (phase : Phase) (operation : StoreOperation) (call : StoreCall)
deriving DecidableEq

/-- A call, how it ended, and whether the state file was in place then. -/
structure Entry where
  call : Call
  answer : Answer
  inPlace : Bool
deriving DecidableEq

/-- What an attempt runs in.  Each call is made at most once. -/
structure Surroundings where
  clock : Option Timestamp
  system : String
  euid : Nat
  resolve : String → Nat → Except String (List String)
  stdout : String
  pfctl : Phase → PfctlCommand → Answer
  store : Phase → StoreOperation → StoreCall → Answer

/-- What is raised: `MacOSResponseError`, `PfctlCommandError`, `OSError` and
`ValueError`. -/
inductive Failure where
  | response (code : String)
  | command
  | os
  | value
deriving DecidableEq

/-- An attempt in progress: the host, the calls so far, the token obtained and
what the rollback returned. -/
structure Progress where
  host : Host
  journal : List Entry
  obtained : Option PfToken
  rolledBack : Option Bool

abbrev Program : Type → Type :=
  Effect Progress Failure

/-- `except MacOSResponseError`. -/
def caught {Value : Type} (program : Program Value) :
    Program (Except String Value) :=
  tryCatch (do return .ok (← program)) fun failure =>
    match failure with
    | .response code => return .error code
    | other => throw other

/-! ## Running a command -/

/-- The answer of `pfctl`: only a reference that is held can be released. -/
def Surroundings.answers (surroundings : Surroundings) (phase : Phase)
    (command : PfctlCommand) (host : Host) : Answer :=
  match command with
  | .release token =>
      if token ∈ host.held then surroundings.pfctl phase command
      else .failed false
  | _ => surroundings.pfctl phase command

/-- The host after a command. -/
def Host.after (host : Host) (output : String) (command : PfctlCommand) :
    Answer → Host
  | .done => host.perform (some output) command
  | .failed true => host.perform none command
  | .failed false => host

/-- The process that `FixedPfctlRunner.run` starts. -/
def issue (surroundings : Surroundings) (phase : Phase)
    (command : PfctlCommand) : Program String :=
  fun progress =>
    let output := String.ofList (surroundings.stdout.toList.take 1024)
    let answer := surroundings.answers phase command progress.host
    let host := progress.host.after output command answer
    let after := { progress with
      host
      journal := progress.journal ++
        [⟨.pfctl phase command, answer, host.stateFile.isSome⟩] }
    match answer with
    | .done => (.ok output, after)
    | .failed _ => (.error .command, after)

/-- `FixedPfctlRunner.run`. -/
def run (surroundings : Surroundings) (phase : Phase)
    (command : PfctlCommand) : Program String :=
  if allowlisted command.arguments command.rules then
    issue surroundings phase command
  else
    throw .value

end Containment

end ControlForge
