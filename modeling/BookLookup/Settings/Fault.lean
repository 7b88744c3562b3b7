import BookLookup.Text.Decimal

/-!
# Why settings are refused
-/

namespace BookLookup

/-- Why settings are refused. Each fault names the key or the line at which it
lies. -/
inductive SettingsFault where
  | unreadableFile (path : String)
  /-- A line of the file has no equals sign. -/
  | malformedLine (number : Nat)
  /-- A line of the file has nothing before its equals sign. -/
  | emptyKey (number : Nat)
  | invalidAddress (key : String)
  | invalidUrl (key : String)
  /-- A value is none of the words for yes and no. -/
  | invalidSwitch (key : String)
  /-- A value is no natural number of 64 bits. -/
  | invalidInteger (key : String)
  | zero (key : String)
  /-- A value is no positive number of 32 bits. -/
  | invalidLimit (key : String)
  | missing (key : String)
  deriving DecidableEq, Repr

namespace SettingsFault

/-- The code of a fault. -/
def code : SettingsFault -> String
  | unreadableFile _ => "ERR_CONFIG_FILE_READ"
  | malformedLine _ => "ERR_CONFIG_FILE_PARSE"
  | emptyKey _ => "ERR_CONFIG_FILE_PARSE"
  | missing _ => "ERR_MISSING_CONFIG"
  | _ => "ERR_INVALID_CONFIG"

/-- The text of a fault. -/
def message : SettingsFault -> String
  | unreadableFile path => "failed to read config file at " ++ path
  | malformedLine number =>
      "invalid config line " ++ Decimal.text number ++ " (expected KEY=VALUE)"
  | emptyKey number =>
      "invalid config line " ++ Decimal.text number ++ " (empty key)"
  | invalidAddress key => key ++ " must be a valid host:port socket address"
  | invalidUrl key => key ++ " must be an http(s) URL"
  | invalidSwitch key => key ++ " must be true or false"
  | invalidInteger key => key ++ " must be an integer"
  | zero key => key ++ " must be >= 1"
  | invalidLimit key => key ++ " must be a positive integer"
  | missing key => "missing required config key " ++ key

end SettingsFault
end BookLookup
