import BookLookup.Proofs.Link.Written
import BookLookup.Proofs.Settings.Described
import BookLookup.Proofs.Store.Signing
import BookLookup.Startup

/-!
# What keeps the program from starting

An endpoint is checked three times: with the settings it belongs to, by the
client of the store, and by the maker of links. The first check asks for a URL
of the web with a host, the second only for a URL with a host, the third for a
URL of the web with a host and neither a path nor a query. So accepted settings
always give a client, and they give a maker of links exactly if the endpoint of
the images has neither.
-/

namespace BookLookup

/-! ## The checks of an endpoint -/

/-- A text is a URL with neither a path nor a query. It may have a user, a port
and a fragment. -/
def IsBareEndpoint (endpoint : String) : Prop :=
  ∃ url, Url.read endpoint = .ok url ∧ url.path = "/" ∧ url.query = none

/-- A URL of the web that is accepted has a text for its host and its port. -/
theorem Settings.IsWebAddress.exists_authority
    {endpoint : String}
    (isWebAddress : IsWebAddress endpoint) :
    ∃ url authority, Url.read endpoint = .ok url ∧ Url.IsWeb url.scheme ∧
      url.authority? = some authority := by
  obtain ⟨url, read, web, hosted⟩ := isWebAddress
  have named : url.authority? ≠ none := by
    rw [Url.authority?, ne_eq, Option.map_eq_none_iff]
    exact hosted
  obtain ⟨authority, isAuthority⟩ := Option.ne_none_iff_exists'.mp named
  exact ⟨url, authority, read, web, isAuthority⟩

/-- The client of the store asks for less than the settings: a URL of the web is
always an endpoint for it. -/
theorem StoreClient.exists_ofSettings
    {settings : StoreSettings}
    (isWebAddress : Settings.IsWebAddress settings.endpoint) :
    ∃ client, ofSettings settings = .ok client := by
  obtain ⟨url, authority, read, -, named⟩ := isWebAddress.exists_authority
  have endpoint : readEndpoint settings.endpoint = .ok (url, authority) := by
    simp only [readEndpoint, read, named]
  unfold ofSettings
  rw [endpoint]
  exact ⟨_, rfl⟩

namespace LinkMaker

/-- The fault of an endpoint with a path or a query. -/
def longEndpoint (endpoint : String) : LinkFault :=
  .invalidEndpoint
    (endpoint ++ ": " ++ "endpoint must not carry a path or query")

/-- The maker of links asks for more than the settings: a URL of the web is an
endpoint for it if it is bare. -/
theorem exists_ofSettings
    {settings : AssetSettings}
    (isWebAddress : Settings.IsWebAddress settings.endpoint)
    (isBare : IsBareEndpoint settings.endpoint) :
    ∃ maker, ofSettings settings = .ok maker := by
  obtain ⟨url, authority, read, web, named⟩ := isWebAddress.exists_authority
  obtain ⟨same, sameRead, bare⟩ := isBare
  obtain rfl := Except.ok.inj (sameRead.symm.trans read)
  have endpoint : readEndpoint settings.endpoint =
      .ok (same.scheme, authority) := by
    simp only [readEndpoint, read]
    exact endpointParts_eq_ok_iff.mpr ⟨web, bare, named, rfl⟩
  unfold ofSettings
  rw [endpoint]
  exact ⟨_, rfl⟩

/-- Otherwise this is what is wrong with it. -/
theorem ofSettings_eq_error
    {settings : AssetSettings}
    (isWebAddress : Settings.IsWebAddress settings.endpoint)
    (notBare : ¬ IsBareEndpoint settings.endpoint) :
    ofSettings settings = .error (longEndpoint settings.endpoint) := by
  obtain ⟨url, -, read, web, -⟩ := isWebAddress.exists_authority
  have long : url.path ≠ "/" ∨ url.query.isSome := by
    rw [Option.isSome_iff_ne_none]
    exact not_and_or.mp fun bare => notBare ⟨url, read, bare⟩
  have endpoint : readEndpoint settings.endpoint =
      .error "endpoint must not carry a path or query" := by
    simp only [readEndpoint, read, endpointParts, if_pos long,
      if_neg fun others : _ ∧ _ => web.elim others.1 others.2]
  unfold ofSettings
  rw [endpoint]
  rfl

end LinkMaker

/-! ## Building for accepted settings -/

namespace Application

/-- What is built for settings is the client of their store and the maker of
their links. -/
theorem ofSettings_eq_ok_iff
    {settings : Settings}
    {application : Application} :
    ofSettings settings = .ok application ↔
      StoreClient.ofSettings settings.store = .ok application.client ∧
        LinkMaker.ofSettings settings.assets = .ok application.links ∧
        settings.lookupLimit = application.limit := by
  unfold ofSettings
  constructor
  · intro built
    obtain ⟨client, isClient, built⟩ := exists_of_bind_eq_ok built
    obtain ⟨links, isMaker, built⟩ := exists_of_bind_eq_ok built
    obtain rfl := Except.ok.inj built
    exact ⟨mapError_eq_ok_iff.mp isClient, mapError_eq_ok_iff.mp isMaker, rfl⟩
  · obtain ⟨client, links, limit⟩ := application
    rintro ⟨isClient, isMaker, rfl⟩
    rw [mapError_eq_ok_iff.mpr isClient, mapError_eq_ok_iff.mpr isMaker]
    rfl

/-- An application is served by a store and signs for a service at the endpoints
of some settings, and both endpoints are URLs of the web with a host. -/
structure IsServedAt
    (application : Application)
    (settings : Settings) : Prop where
  /-- The endpoint of the store is that of the settings. -/
  storeRead :
    Url.read settings.storeEndpoint = .ok application.client.endpoint
  /-- It is a URL of the web. -/
  storeWeb : Url.IsWeb application.client.endpoint.scheme
  /-- It has the host that requests name. -/
  storeHost : application.client.endpoint.authority? =
    some application.client.host
  /-- The endpoint of the settings has the scheme and the host of links. -/
  assets : ∃ url, Url.read settings.assetEndpoint = .ok url ∧
    url.scheme = application.links.scheme ∧
    url.authority? = some application.links.endpointHost
  /-- The scheme is one of the web. -/
  assetWeb : Url.IsWeb application.links.scheme

variable
  {values : TextMap String}
  {settings : Settings}
  {application : Application}

/-- Accepted settings with a bare endpoint of the images give an application. -/
theorem exists_ofSettings
    (accepted : Settings.ofValues values = .ok settings)
    (isBare : IsBareEndpoint settings.assetEndpoint) :
    ∃ application, ofSettings settings = .ok application := by
  have describes := Settings.ofValues_eq_ok_iff_describes.mp accepted
  obtain ⟨client, isClient⟩ :=
    @StoreClient.exists_ofSettings settings.store describes.storeOnWeb
  obtain ⟨maker, isMaker⟩ :=
    @LinkMaker.exists_ofSettings settings.assets describes.assetOnWeb isBare
  exact ⟨⟨client, maker, settings.lookupLimit⟩,
    ofSettings_eq_ok_iff.mpr ⟨isClient, isMaker, rfl⟩⟩

/-- All other accepted settings are refused by the maker of links. -/
theorem ofSettings_eq_error
    (accepted : Settings.ofValues values = .ok settings)
    (notBare : ¬ IsBareEndpoint settings.assetEndpoint) :
    ofSettings settings =
      .error (.assets (LinkMaker.longEndpoint settings.assetEndpoint)) := by
  have describes := Settings.ofValues_eq_ok_iff_describes.mp accepted
  obtain ⟨client, isClient⟩ :=
    @StoreClient.exists_ofSettings settings.store describes.storeOnWeb
  have refused :=
    @LinkMaker.ofSettings_eq_error settings.assets describes.assetOnWeb notBare
  unfold ofSettings
  rw [isClient, refused]
  rfl

/-- An application that is built for accepted settings is served at their
endpoints. -/
theorem isServedAt_of_ofSettings
    (accepted : Settings.ofValues values = .ok settings)
    (built : ofSettings settings = .ok application) :
    application.IsServedAt settings := by
  have describes := Settings.ofValues_eq_ok_iff_describes.mp accepted
  obtain ⟨isClient, isMaker, -⟩ := ofSettings_eq_ok_iff.mp built
  obtain ⟨storeRead, storeHost, -⟩ :=
    StoreClient.endpoint_of_ofSettings isClient
  obtain ⟨store, sameRead, storeWeb, -⟩ := describes.storeOnWeb
  obtain rfl := Except.ok.inj (sameRead.symm.trans storeRead)
  obtain ⟨url, assetRead, parts, -⟩ := LinkMaker.endpoint_of_ofSettings isMaker
  obtain ⟨assetWeb, -, named, scheme⟩ :=
    LinkMaker.endpointParts_eq_ok_iff.mp parts
  exact {
    storeRead, storeWeb, storeHost
    assets := ⟨url, assetRead, scheme, named⟩
    assetWeb := scheme ▸ assetWeb }

end Application

/-! ## Starting -/

/-- The program refuses to start whatever address it could take, and not for
want of it. -/
def RefusesBeforeBinding (environment : Environment) : Prop :=
  ∃ refusal, refusal ≠ .bind ∧
    ∀ canBind, start environment canBind = .error refusal

/-- The program comes to taking its address, and starts with an application
exactly if it can have it. -/
def ComesToBinding
    (environment : Environment)
    (settings : Settings)
    (application : Application) : Prop :=
  ∀ canBind, start environment canBind =
    if canBind settings.bindAddress then .ok (settings, application)
    else .error .bind

/-- Who comes to taking an address does not refuse before it. -/
theorem ComesToBinding.not_refuses
    {environment : Environment}
    {settings : Settings}
    {application : Application}
    (comes : ComesToBinding environment settings application) :
    ¬ RefusesBeforeBinding environment := by
  rintro ⟨refusal, -, refuses⟩
  cases (refuses fun _ => true).symm.trans (comes fun _ => true)

/-- Settings that are refused keep the program from starting. -/
theorem start_of_settings_eq_error
    {environment : Environment}
    {fault : SettingsFault}
    (refused : environment.settings = .error fault)
    (canBind : SocketAddress -> Bool) :
    start environment canBind = .error (.settings fault) := by
  rw [start, refused]
  rfl

/-- So does an application that cannot be built. -/
theorem start_of_ofSettings_eq_error
    {environment : Environment}
    {settings : Settings}
    {refusal : StartupRefusal}
    (found : environment.settings = .ok settings)
    (refused : Application.ofSettings settings = .error refusal)
    (canBind : SocketAddress -> Bool) :
    start environment canBind = .error refusal := by
  rw [start, found]
  dsimp only [Except.mapError, bind, Except.bind]
  rw [refused]

/-- With an application, only the address is left. -/
theorem comesToBinding_of_ofSettings
    {environment : Environment}
    {settings : Settings}
    {application : Application}
    (found : environment.settings = .ok settings)
    (built : Application.ofSettings settings = .ok application) :
    ComesToBinding environment settings application := by
  intro canBind
  rw [start, found]
  dsimp only [Except.mapError, bind, Except.bind]
  rw [built]
  rfl

/-- What starts has been given settings and built an application for them. -/
theorem exists_of_start
    {environment : Environment}
    {canBind : SocketAddress -> Bool}
    {settings : Settings}
    {application : Application}
    (started : start environment canBind = .ok (settings, application)) :
    environment.settings = .ok settings ∧
      Application.ofSettings settings = .ok application := by
  unfold start at started
  obtain ⟨found, isFound, started⟩ := exists_of_bind_eq_ok started
  obtain ⟨built, isBuilt, started⟩ := exists_of_bind_eq_ok started
  split at started
  · cases started
    exact ⟨mapError_eq_ok_iff.mp isFound, isBuilt⟩
  · cases started

theorem Environment.exists_values_of_settings
    {environment : Environment}
    {settings : Settings}
    (found : environment.settings = .ok settings) :
    ∃ values, Settings.ofValues values = .ok settings := by
  obtain ⟨fileValues, -, accepted⟩ := exists_of_bind_eq_ok found
  exact ⟨_, accepted⟩

/-- The program refuses to start before it takes its address exactly if its
settings are refused or the endpoint of the images is not bare. -/
theorem refusesBeforeBinding_iff {environment : Environment} :
    RefusesBeforeBinding environment ↔
      (∃ fault, environment.settings = .error fault) ∨
        ∃ settings, environment.settings = .ok settings ∧
          ¬ IsBareEndpoint settings.assetEndpoint := by
  constructor
  · intro refuses
    cases found : environment.settings with
    | error fault => exact .inl ⟨fault, rfl⟩
    | ok settings =>
        refine .inr ⟨settings, rfl, fun isBare => ?_⟩
        obtain ⟨values, accepted⟩ :=
          Environment.exists_values_of_settings found
        obtain ⟨application, built⟩ :=
          Application.exists_ofSettings accepted isBare
        exact (comesToBinding_of_ofSettings found built).not_refuses refuses
  · rintro (⟨fault, refused⟩ | ⟨settings, found, notBare⟩)
    · exact ⟨.settings fault, nofun, start_of_settings_eq_error refused⟩
    · obtain ⟨values, accepted⟩ := Environment.exists_values_of_settings found
      exact ⟨.assets (LinkMaker.longEndpoint settings.assetEndpoint), nofun,
        start_of_ofSettings_eq_error found
          (Application.ofSettings_eq_error accepted notBare)⟩

/-- Whenever it does not refuse, it comes to taking its address. -/
theorem exists_comesToBinding
    {environment : Environment}
    (goesAhead : ¬ RefusesBeforeBinding environment) :
    ∃ settings application,
      ComesToBinding environment settings application := by
  rw [refusesBeforeBinding_iff, not_or] at goesAhead
  obtain ⟨noFault, short⟩ := goesAhead
  cases found : environment.settings with
  | error fault => exact absurd ⟨fault, found⟩ noFault
  | ok settings =>
      have isBare : IsBareEndpoint settings.assetEndpoint :=
        by_contra fun notBare => short ⟨settings, found, notBare⟩
      obtain ⟨values, accepted⟩ := Environment.exists_values_of_settings found
      obtain ⟨application, built⟩ :=
        Application.exists_ofSettings accepted isBare
      exact ⟨settings, application, comesToBinding_of_ofSettings found built⟩

/-- Accepted settings always give a client of the store. They give an
application exactly if the endpoint of the images has neither a path nor a
query, and otherwise the maker of links refuses them. So the program refuses to
start before it takes its address exactly if its settings are refused or this
endpoint has one of them; in every other case only the address decides. What has
started works with endpoints that are URLs of the web and have a host. -/
theorem settings_start_unless_asset_endpoint_has_path_or_query
    (values : TextMap String)
    (environment : Environment) :
    (∀ settings, Settings.ofValues values = .ok settings ->
      (∃ client, StoreClient.ofSettings settings.store = .ok client) ∧
      ((∃ application, Application.ofSettings settings = .ok application) ↔
        IsBareEndpoint settings.assetEndpoint) ∧
      ∀ refusal, Application.ofSettings settings = .error refusal ->
        refusal.code = "ERR_INVALID_CONFIG" ∧
        refusal = .assets (LinkMaker.longEndpoint settings.assetEndpoint) ∧
        LinkMaker.ofSettings settings.assets =
          .error (LinkMaker.longEndpoint settings.assetEndpoint)) ∧
    (RefusesBeforeBinding environment ↔
      (∃ fault, environment.settings = .error fault) ∨
        ∃ settings, environment.settings = .ok settings ∧
          ¬ IsBareEndpoint settings.assetEndpoint) ∧
    (¬ RefusesBeforeBinding environment ->
      ∃ settings application,
        ComesToBinding environment settings application) ∧
    ∀ canBind settings application,
      start environment canBind = .ok (settings, application) ->
        application.IsServedAt settings := by
  refine ⟨fun settings accepted => ?_, refusesBeforeBinding_iff,
    exists_comesToBinding, fun canBind settings application started => ?_⟩
  · have describes := Settings.ofValues_eq_ok_iff_describes.mp accepted
    refine ⟨@StoreClient.exists_ofSettings settings.store describes.storeOnWeb,
      ⟨?_, Application.exists_ofSettings accepted⟩, ?_⟩
    · rintro ⟨application, built⟩
      by_contra notBare
      cases built.symm.trans (Application.ofSettings_eq_error accepted notBare)
    · intro refusal refused
      by_cases isBare : IsBareEndpoint settings.assetEndpoint
      · obtain ⟨application, built⟩ :=
          Application.exists_ofSettings accepted isBare
        cases built.symm.trans refused
      · obtain rfl := Except.error.inj
          (refused.symm.trans (Application.ofSettings_eq_error accepted isBare))
        exact ⟨rfl, rfl, @LinkMaker.ofSettings_eq_error settings.assets
          describes.assetOnWeb isBare⟩
  · obtain ⟨found, built⟩ := exists_of_start started
    obtain ⟨values, accepted⟩ := Environment.exists_values_of_settings found
    exact Application.isServedAt_of_ofSettings accepted built

/-- An environment with an endpoint of the images and no file. -/
def imagesAt (endpoint : String) : Environment where
  values := .ofPairs [("AWS_ACCESS_KEY_ID", "AKIDTEST"),
    ("AWS_SECRET_ACCESS_KEY", "secret"), ("CATALOG_ASSET_ENDPOINT", endpoint)]
  readFile _ := none

/-- A path behind the host keeps the program from starting, a fragment does
not. -/
theorem path_keeps_from_starting_and_fragment_does_not :
    RefusesBeforeBinding (imagesAt " https://images.example/shop") ∧
    ∃ settings application,
      ComesToBinding (imagesAt "https://images.example#shop") settings
        application ∧
      application.IsServedAt settings := by
  constructor
  · obtain ⟨-, refuses, -⟩ :=
      settings_start_unless_asset_endpoint_has_path_or_query .empty
        (imagesAt " https://images.example/shop")
    refine refuses.mpr (.inr ?_)
    have endpoint :
        (imagesAt " https://images.example/shop").settings.map
          Settings.assetEndpoint = .ok "https://images.example/shop" := by
      decide +kernel
    obtain ⟨settings, found, isEndpoint⟩ := map_eq_ok_iff.mp endpoint
    refine ⟨settings, found, ?_⟩
    rw [isEndpoint]
    rintro ⟨url, read, noPath, -⟩
    have path : (Url.read "https://images.example/shop").map Url.path =
        .ok "/shop" := by
      decide +kernel
    rw [read] at path
    exact absurd (noPath.symm.trans (Except.ok.inj path)) (by decide)
  · obtain ⟨-, refuses, comes, served⟩ :=
      settings_start_unless_asset_endpoint_has_path_or_query .empty
        (imagesAt "https://images.example#shop")
    have endpoint :
        (imagesAt "https://images.example#shop").settings.map
          Settings.assetEndpoint = .ok "https://images.example#shop" := by
      decide +kernel
    have read : Url.read "https://images.example#shop" =
        .ok ⟨"https", "", "", some (.domain "images.example"), none, "/", none,
          some "shop"⟩ := by
      decide +kernel
    obtain ⟨settings, found, isEndpoint⟩ := map_eq_ok_iff.mp endpoint
    have goesAhead :
        ¬ RefusesBeforeBinding (imagesAt "https://images.example#shop") := by
      rw [refuses, found]
      rintro (⟨fault, refused⟩ | ⟨same, isSame, notBare⟩)
      · cases refused
      · cases isSame
        rw [isEndpoint] at notBare
        exact notBare ⟨_, read, rfl, rfl⟩
    obtain ⟨settings, application, comesToBinding⟩ := comes goesAhead
    exact ⟨settings, application, comesToBinding,
      served (fun _ => true) _ _ (comesToBinding fun _ => true)⟩

end BookLookup
