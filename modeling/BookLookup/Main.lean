import BookLookup.Startup

/-!
# The program

The program reads the variables of its environment and the file that they may
name. If it cannot start, it writes why and ends with status one. Requests are
brought to it by a transport, which is not part of this library; without one
there is nothing to serve and the program ends.
-/

namespace BookLookup

/-- The names of the variables that the program reads. -/
def keyNames : List String := [
  "CATALOG_CONFIG_PATH", "CATALOG_BIND_ADDR", "CATALOG_AWS_REGION",
  "AWS_REGION", "CATALOG_TABLE_NAME", "CATALOG_ASSET_BUCKET",
  "CATALOG_STORE_ENDPOINT", "CATALOG_ASSET_ENDPOINT",
  "CATALOG_ASSET_PATH_STYLE", "CATALOG_STORE_TIMEOUT_MS",
  "CATALOG_REQUEST_TIMEOUT_MS", "CATALOG_STORE_PAGE_LIMIT",
  "AWS_ACCESS_KEY_ID", "AWS_SECRET_ACCESS_KEY", "AWS_SESSION_TOKEN"]

/-- The variables that are set. -/
def readValues : IO (TextMap String) := do
  let pairs <- keyNames.filterMapM fun name => do
    return (<- IO.getEnv name).map fun value => (name, value)
  return .ofPairs pairs

/-- The octets of the file at a path, if it can be read. -/
def readFileOctets (path : String) : IO (Option (List UInt8)) := do
  try
    return some (<- IO.FS.readBinFile path).toList
  catch _ => return none

/-- The environment of the program, with the file that it names. -/
def readEnvironment : IO Environment := do
  let values <- readValues
  let unread : Environment := ⟨values, fun _ => none⟩
  match unread.settingsPath? with
  | none => return unread
  | some path =>
      let octets <- readFileOctets path
      return ⟨values, fun asked => if asked = path then octets else none⟩

/-- Start, or write why not. The result is the status of the program. -/
def runProgram : IO UInt32 := do
  match start (<- readEnvironment) fun _ => true with
  | .ok _ => return 0
  | .error refusal =>
      (<- IO.getStderr).putStrLn refusal.line
      return 1

end BookLookup

/-- The program. -/
def main : IO UInt32 :=
  BookLookup.runProgram
