/-
This file reads configurations. What the text says on volumes can be said differently by the
environment: a variable such as `CSI__VOLUME_INFO__STAGING_PATH` goes before the text. Destinations
are in the text alone, where names keep their case and nothing is taken for something else. A
failure says what could not be read. Which file that was and why are left out of its message: the
texts come here without their paths, and the cause is in the words of the file system or of the
reader of the text.
-/

import NodeAgent.Configuration.Secret
import NodeAgent.Configuration.VolumeSection

namespace NodeAgent

/-- A configuration: what it says on volumes, and the destinations in their order. -/
structure Configuration where
  volumes : VolumeSection
  destinations : List Destination
deriving DecidableEq, Inhabited

namespace Configuration

/-! ### Volumes -/

/-- What the names of the variables begin with that are settings. -/
def variableMark : String := "csi__"

/-- The name of a setting, with points in place of pairs of low lines. -/
def pointed : List Char → List Char
  | '_' :: '_' :: rest => '.' :: pointed rest
  | c :: rest => c :: pointed rest
  | [] => []

/-- The setting of a variable, where it is one. -/
def variableSetting? (name value : String) : Option (String × Setting) :=
  let lowered := (Setting.foldCase name).toList
  if variableMark.toList.isPrefixOf lowered then
    some (String.ofList (pointed (lowered.drop variableMark.length)), Setting.ofVariable value)
  else none

/-- The settings of a text, with those of the environment over them. The text as a whole must not
stand for a moment. -/
def settings? (written : List (String × Toml)) (environment : Table String) : Option Setting := do
  let .table entries ← Setting.ofToml? (.table written) | none
  return Setting.assignAll (Setting.assignAll (.table []) entries)
    (environment.entries.filterMap fun (name, value) => variableSetting? name value)

/-- Reads what some settings say on volumes. -/
def volumeSection? (settings : Setting) : Option VolumeSection :=
  (Setting.lookup "volume_info" settings.entries).bind VolumeSection.ofSetting?

/-! ### Destinations -/

/-- The text that a value is. -/
def text? : Toml → Option String
  | .text value => some value
  | _ => none

/-- Reads the environment of a destination. A moment is taken for the table that it may stand in. -/
def environment? : Toml → Option (Table String)
  | .table entries => Secret.texts? entries
  | .moment written => some (.ofList [(Toml.momentKey, written)])
  | _ => none

/-- Reads a destination: a table, or a list of its address and its environment. -/
def destination? : Toml → Option Destination
  | .table entries => do
    let repository ← (Toml.lookup "repo" entries).bind text?
    let environment ← ((Toml.lookup "environment" entries).map environment?).getD (some .empty)
    some ⟨repository, environment⟩
  | .list (repository :: rest) => do
    let repository ← text? repository
    let environment ← (rest.head?.map environment?).getD (some .empty)
    some ⟨repository, environment⟩
  | _ => none

/-- Reads the destinations of a text. -/
def destinations? (written : List (String × Toml)) : Option (List Destination) :=
  match Toml.lookup "restic_repo" written with
  | none => some []
  | some (.list items) => items.mapM destination?
  | some _ => none

/-! ### Reading -/

/-- The value, or a failure with a message, which ends before the path of the file and the cause. -/
def orFail {Value : Type} (message : String) : Option Value → Except Failure Value
  | none => .error (.configuration message)
  | some value => .ok value

/-- Reads a configuration from its text and from the text that holds the secrets, as far as they
are there, and from the environment. Of the messages only those of `VolumeSection.check` and of an
unknown secret are complete. -/
def read (text secrets : Option String) (environment : Table String) :
    Except Failure Configuration := do
  let text ← orFail "Failed to read config file" text
  let written ← orFail "Failed to parse" (Toml.read text)
  let settings ← orFail "Failed to parse" (settings? written environment)
  let volumes ← orFail "Invalid [volume_info] section" (volumeSection? settings)
  volumes.check
  let destinations ← orFail "Invalid [[restic_repo]] entries" (destinations? written)
  let destinations ← Secret.resolve secrets destinations
  return ⟨volumes, destinations⟩

end Configuration

end NodeAgent
