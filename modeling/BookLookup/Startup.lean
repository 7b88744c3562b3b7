import BookLookup.Service
import BookLookup.Settings.Environment

/-!
# Starting

The program reads its settings, builds the client of the store and the maker of
links, and takes its address. Whatever refuses comes with a code and a text, and
nothing is served.
-/

namespace BookLookup

/-- Why the program does not start. -/
inductive StartupRefusal where
  | settings (fault : SettingsFault)
  | store (fault : StoreFailure)
  | assets (fault : LinkFault)
  /-- The address cannot be taken. -/
  | bind
  deriving DecidableEq, Repr

namespace StartupRefusal

/-- The code of a refusal. -/
def code : StartupRefusal -> String
  | settings fault => fault.code
  | bind => "ERR_BIND_FAILED"
  | _ => "ERR_INVALID_CONFIG"

/-- The text of a refusal. -/
def message : StartupRefusal -> String
  | settings fault => fault.code ++ ": " ++ fault.message
  | store fault =>
      "ERR_INVALID_CONFIG: failed to initialize record store client: " ++
        fault.message
  | assets fault =>
      "ERR_INVALID_CONFIG: failed to initialize asset signer: " ++
        fault.message
  | bind => "ERR_BIND_FAILED failed to bind catalog listener"

/-- The line that is written for a refusal. -/
def line (refusal : StartupRefusal) : String :=
  "STARTUP_ERROR " ++ refusal.message

end StartupRefusal

/-- What the program works with once it has started. -/
structure Application where
  /-- The client of the store. -/
  client : StoreClient
  /-- The maker of links. -/
  links : LinkMaker
  /-- How long a lookup may take. -/
  limit : Duration

namespace Application

/-- The application that some settings ask for. -/
def ofSettings (settings : Settings) : Except StartupRefusal Application := do
  let client <- (StoreClient.ofSettings settings.store).mapError .store
  let links <- (LinkMaker.ofSettings settings.assets).mapError .assets
  return { client, links, limit := settings.lookupLimit }

/-- The service of an application. Links are made at the times of a clock,
which is read by how many have been asked for before. -/
def service
    (application : Application)
    (clock : Nat -> Instant) : Service Network where
  store := application.client.store
  signer := fun asked key =>
    application.links.link (clock asked.length) LinkMaker.validity key
  limit := application.limit

end Application

/-- The settings and the application that an environment gives, if the address
can be taken. -/
def start
    (environment : Environment)
    (canBind : SocketAddress -> Bool) :
    Except StartupRefusal (Settings × Application) := do
  let settings <- environment.settings.mapError .settings
  let application <- Application.ofSettings settings
  if canBind settings.bindAddress then return (settings, application)
  else throw .bind

end BookLookup
