import BookLookup.Settings.Basic
import BookLookup.Settings.File

/-!
# Settings from the environment

The environment may name a settings file. The value of a key is the one of the
environment, even if it is blank, and else the one of the file. A fault in the
file is reported before any other.
-/

namespace BookLookup

/-- What the program finds around it. -/
structure Environment where
  /-- The values of the variables by name. -/
  values : TextMap String
  /-- The octets of the file at a path, if it can be read. -/
  readFile : String -> Option (List UInt8)

namespace Environment

/-- The path of the settings file, if one is named. -/
def settingsPath? (environment : Environment) : Option String :=
  (environment.values.get? "CATALOG_CONFIG_PATH").bind nonBlank?

/-- The text of the file at a path. -/
def readText
    (environment : Environment)
    (path : String) : Except SettingsFault String :=
  match (environment.readFile path).bind Utf8.decode? with
  | some text => .ok (String.ofList text)
  | none => .error (.unreadableFile path)

/-- The values by key of the settings file, none if no file is named. -/
def fileValues
    (environment : Environment) : Except SettingsFault (TextMap String) :=
  match environment.settingsPath? with
  | none => .ok .empty
  | some path => do SettingsFile.read (<- environment.readText path)

/-- Values by key, of which some are replaced by others. -/
def override (values others : TextMap String) : TextMap String :=
  others.entries.foldl (fun map entry => map.insert entry.1 entry.2) values

/-- The settings that the environment gives. -/
def settings (environment : Environment) : Except SettingsFault Settings := do
  let fileValues <- environment.fileValues
  Settings.ofValues (override fileValues environment.values)

end Environment
end BookLookup
