import BookLookup.Proofs.Secret.Serving
import BookLookup.Proofs.Secret.Settings

/-!
# What the program lets out

The program lets out the line for which it does not start, the texts shown for
its settings, its answers and its requests to the store. With another secret, all
of these are the same but for signatures.
-/

namespace BookLookup

/-! ## Starting with another secret -/

/-- With another secret, the same client is built but for the secret, or the
same fault is met. -/
theorem StoreClient.ofSettings_withSecret
    (settings : Settings)
    (secret : String) :
    ofSettings (settings.withSecret secret).store =
      (ofSettings settings.store).map fun client =>
        client.withSecret secret := by
  have sameEndpoint : (settings.withSecret secret).store.endpoint =
      settings.store.endpoint := rfl
  unfold ofSettings
  rw [sameEndpoint]
  cases readEndpoint settings.store.endpoint with
  | error fault => rfl
  | ok found => rfl

/-- So is the maker of links. -/
theorem LinkMaker.ofSettings_withSecret
    (settings : Settings)
    (secret : String) :
    ofSettings (settings.withSecret secret).assets =
      (ofSettings settings.assets).map fun links =>
        links.withSecret secret := by
  have sameEndpoint : (settings.withSecret secret).assets.endpoint =
      settings.assets.endpoint := rfl
  unfold ofSettings
  rw [sameEndpoint]
  cases readEndpoint settings.assets.endpoint with
  | error fault => rfl
  | ok found => rfl

/-- And so is the application. -/
theorem Application.ofSettings_withSecret
    (settings : Settings)
    (secret : String) :
    ofSettings (settings.withSecret secret) =
      (ofSettings settings).map fun application =>
        application.withSecret secret := by
  unfold ofSettings
  rw [StoreClient.ofSettings_withSecret, LinkMaker.ofSettings_withSecret]
  cases StoreClient.ofSettings settings.store with
  | error fault => rfl
  | ok client =>
      cases LinkMaker.ofSettings settings.assets with
      | error fault => rfl
      | ok links => rfl

/-- A program with another secret starts as well, or does not start for the same
reason. -/
theorem start_withSecret
    {environment other : Environment}
    {settings : Settings}
    {secret : String}
    (accepted : environment.settings = .ok settings)
    (otherAccepted : other.settings = .ok (settings.withSecret secret))
    (canBind : SocketAddress -> Bool) :
    start other canBind =
      (start environment canBind).map fun started =>
        (started.1.withSecret secret, started.2.withSecret secret) := by
  have sameAddress : (settings.withSecret secret).bindAddress =
      settings.bindAddress := rfl
  unfold start
  rw [accepted, otherAccepted]
  dsimp only [Except.mapError, bind, Except.bind]
  rw [Application.ofSettings_withSecret, sameAddress]
  cases Application.ofSettings settings with
  | error refusal => rfl
  | ok application =>
      dsimp only [Except.map]
      split
      · rfl
      · rfl

/-! ## Emissions -/

/-- What the program meets besides its environment. -/
structure Surroundings where
  /-- The addresses that can be taken. -/
  canBind : SocketAddress -> Bool
  /-- The times at which links are made. -/
  clock : Nat -> Instant
  /-- The store, with the replies that it gives and the times at which it is
  asked. -/
  network : Network
  /-- The requests, in order. -/
  requests : List HttpRequest

/-- What the program lets out. -/
structure Emission where
  /-- The line that is written if the program does not start. -/
  refusal : Option String
  /-- The texts shown for the settings. -/
  shown : List String
  /-- The answers, in order. -/
  responses : List HttpResponse
  /-- The requests that the store has received, in order. -/
  received : List SentRequest

/-- An emission with its signatures blanked. -/
def Emission.blanked (emission : Emission) : Emission :=
  { emission with
    responses := emission.responses.map HttpResponse.blanked
    received := emission.received.map SentRequest.blanked }

/-- What an application lets out, with some texts for its settings. -/
def Application.emission
    (application : Application)
    (surroundings : Surroundings)
    (shown : List String) : Emission :=
  let service := application.service surroundings.clock
  let initial : ServiceState Network := ⟨surroundings.network, [], .empty⟩
  { refusal := none
    shown
    responses :=
      (service.serveAll initial surroundings.requests).map Served.response
    received := (service.after initial surroundings.requests).store.received }

/-- What the program lets out in an environment. -/
def Environment.emission
    (environment : Environment)
    (surroundings : Surroundings) : Emission :=
  let shown :=
    match environment.settings with
    | .ok settings => settings.shownTexts
    | .error _ => []
  match start environment surroundings.canBind with
  | .ok (_, application) => application.emission surroundings shown
  | .error refusal =>
      { refusal := some refusal.line
        shown
        responses := []
        received := surroundings.network.received }

/-- With another secret, an application lets out the same but for signatures. -/
theorem Application.blanked_emission_withSecret
    (application : Application)
    (secret : String)
    (surroundings : Surroundings)
    (shown : List String) :
    ((application.withSecret secret).emission surroundings shown).blanked =
      (application.emission surroundings shown).blanked := by
  have initially : ServiceState.Alike Network.Alike
      ⟨surroundings.network, [], .empty⟩ ⟨surroundings.network, [], .empty⟩ :=
    ⟨⟨rfl, rfl, rfl⟩, rfl, rfl⟩
  obtain ⟨answers, last⟩ :=
    (application.alike_withSecret secret surroundings.clock).serveAll initially
      surroundings.requests
  rw [emission, emission, Emission.blanked, Emission.blanked]
  dsimp only
  rw [List.map_map, List.map_map, ← last.store.received]
  exact congrArg (fun responses => Emission.mk none shown responses _)
    answers.symm

namespace Environment

/-- The values of an environment are accepted as settings. -/
structure Accepted
    (environment : Environment)
    (values : TextMap String) : Prop where
  /-- The environment gives these values. -/
  merged : environment.merged = .ok values
  /-- They give settings. -/
  accepted : (Settings.ofValues values).isOk

/-- The settings are read from the values. -/
theorem Accepted.exists_settings
    {environment : Environment}
    {values : TextMap String}
    (accepted : environment.Accepted values) :
    ∃ settings, environment.settings = .ok settings ∧
      Settings.ReadFrom values settings := by
  obtain ⟨merged, isOk⟩ := accepted
  rw [settings_of_merged merged]
  cases given : Settings.ofValues values with
  | error fault =>
      rw [given] at isOk
      cases isOk
  | ok settings =>
      exact ⟨settings, rfl, Settings.ofValues_eq_ok_iff.mp given⟩

/-- With another secret and another token, values are accepted as well. -/
theorem Accepted.of_agreeBut
    {environment other : Environment}
    {values others : TextMap String}
    (accepted : environment.Accepted values)
    (merged : other.merged = .ok others)
    (agree : values.AgreeBut [Settings.secretKey, Settings.tokenKey] others)
    {secret : String}
    (given : Settings.value? others Settings.secretKey = some secret) :
    other.Accepted others := by
  obtain ⟨settings, -, read⟩ := accepted.exists_settings
  refine ⟨merged, ?_⟩
  rw [Settings.ofValues_eq_ok_iff.mpr (read.of_agreeBut agree given)]
  rfl

/-- The settings of an environment are shown, whether it starts or not. -/
theorem shown_emission
    {environment : Environment}
    {settings : Settings}
    (accepted : environment.settings = .ok settings)
    (surroundings : Surroundings) :
    (environment.emission surroundings).shown = settings.shownTexts := by
  rw [emission, accepted]
  dsimp only
  cases start environment surroundings.canBind with
  | error refusal => rfl
  | ok started => rfl

/-- An environment with another secret lets out the same but for signatures. -/
theorem blanked_emission_eq
    {environment other : Environment}
    {settings : Settings}
    {secret : String}
    (accepted : environment.settings = .ok settings)
    (otherAccepted : other.settings = .ok (settings.withSecret secret))
    (surroundings : Surroundings) :
    (environment.emission surroundings).blanked =
      (other.emission surroundings).blanked := by
  have sameTexts : (settings.withSecret secret).shownTexts =
      settings.shownTexts :=
    settings.shownTexts_withSecret_withToken secret rfl
  rw [emission, emission, accepted, otherAccepted,
    start_withSecret accepted otherAccepted]
  dsimp only
  rw [sameTexts]
  cases start environment surroundings.canBind with
  | error refusal => rfl
  | ok started =>
      exact (started.2.blanked_emission_withSecret secret surroundings _).symm

/-- For environments that are accepted and differ in the secret alone, the
program lets out the same but for signatures. The texts shown for the settings
do not depend on the token either, but for whether there is one. -/
theorem secret_leaves_in_signatures_alone
    {environment other : Environment}
    {values others : TextMap String}
    (accepted : environment.Accepted values)
    (otherAccepted : other.Accepted others)
    (surroundings : Surroundings) :
    (values.AgreeBut [Settings.secretKey] others ->
        (environment.emission surroundings).blanked =
          (other.emission surroundings).blanked) ∧
      (values.AgreeBut [Settings.secretKey, Settings.tokenKey] others ->
        (Settings.value? values Settings.tokenKey).isSome =
          (Settings.value? others Settings.tokenKey).isSome ->
        (environment.emission surroundings).shown =
          (other.emission surroundings).shown) := by
  obtain ⟨settings, given, read⟩ := accepted.exists_settings
  obtain ⟨otherSettings, otherGiven, otherRead⟩ :=
    otherAccepted.exists_settings
  constructor
  · intro agree
    rw [read.eq_withSecret agree otherRead] at otherGiven
    exact blanked_emission_eq given otherGiven surroundings
  · intro agree together
    obtain ⟨-, -, token⟩ :=
      Settings.readCredentials_eq_ok_iff.mp read.credentials
    obtain ⟨-, -, otherToken⟩ :=
      Settings.readCredentials_eq_ok_iff.mp otherRead.credentials
    rw [Settings.tokenKey, token, otherToken] at together
    rw [shown_emission given, shown_emission otherGiven,
      read.eq_withSecret_withToken agree otherRead,
      settings.shownTexts_withSecret_withToken _ together.symm]

/-- An environment on the local host with a token and a secret. -/
def withTokenAndSecret (token secret : String) : Environment where
  values := ((TextMap.ofPairs [("AWS_ACCESS_KEY_ID", "AKIDTEST"),
    ("CATALOG_STORE_ENDPOINT", "http://[::1]:8000"),
    ("CATALOG_ASSET_ENDPOINT", "http://[::1]:9000")]).insert
      Settings.tokenKey token).insert Settings.secretKey secret
  readFile := fun _ => none

/-- It gives its own values. -/
theorem merged_withTokenAndSecret (token secret : String) :
    (withTokenAndSecret token secret).merged =
      .ok (withTokenAndSecret token secret).values := by
  apply merged_of_no_file
  rw [settingsPath?, withTokenAndSecret]
  dsimp only
  rw [TextMap.get?_insert, if_neg (by decide), TextMap.get?_insert,
    if_neg (by decide)]
  decide

/-- A program that is asked for all books, of which there is one with an
image. -/
def askedForCover : Surroundings where
  canBind := fun _ => true
  clock := fun _ => ⟨0, 0⟩
  network := {
    replies := [.answer 200 (Utf8.octets (Json.object [("Items", .array [
      .object [("id", (Attribute.string "1").toJson),
        ("imageKey", (Attribute.string "covers/1.png").toJson)]])]).render)]
    received := []
    clock := fun _ => ⟨0, 0⟩ }
  requests := [⟨"GET", "/books", [], 0, ⟨0⟩⟩]

/-- Two secrets are let out in signatures alone, and two tokens are not shown. -/
theorem emission_two_secrets_and_tokens :
    let emission (token secret : String) : Emission :=
      (withTokenAndSecret token secret).emission askedForCover
    (emission "first" "secret").blanked = (emission "first" "other").blanked ∧
      (emission "first" "secret").shown =
        (emission "second" "other").shown := by
  intro emission
  have accepted : (withTokenAndSecret "first" "secret").Accepted _ :=
    ⟨merged_withTokenAndSecret _ _, by decide⟩
  have agree (token : String) :
      (withTokenAndSecret "first" "secret").values.AgreeBut
        [Settings.secretKey, Settings.tokenKey]
        (withTokenAndSecret token "other").values :=
    ((TextMap.AgreeBut.refl _ _).insert (by decide) "first" token).insert
      (by decide) "secret" "other"
  have otherAccepted (token : String) :
      (withTokenAndSecret token "other").Accepted
        (withTokenAndSecret token "other").values := by
    apply accepted.of_agreeBut (merged_withTokenAndSecret _ _) (agree token)
    rw [Settings.value?, withTokenAndSecret, TextMap.get?_insert, if_pos rfl]
    exact show nonBlank? "other" = some "other" by decide
  constructor
  · apply (secret_leaves_in_signatures_alone accepted (otherAccepted "first")
      askedForCover).1
    exact (TextMap.AgreeBut.refl _ _).insert (by decide) "secret" "other"
  · apply (secret_leaves_in_signatures_alone accepted (otherAccepted "second")
      askedForCover).2 (agree "second")
    decide

end Environment
end BookLookup
