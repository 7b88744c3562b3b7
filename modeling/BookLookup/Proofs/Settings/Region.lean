import BookLookup.Proofs.Startup
import BookLookup.Proofs.Url.Bare

/-!
# Where a region leads to

An endpoint that is not given is made from the region, which may be any text.
The endpoints name their services in the region exactly if the region is written
with characters that a host may hold. Any other region that is accepted leads
requests and links to another host.
-/

namespace BookLookup

/-- Two texts are the same but for the case of letters in ASCII. -/
def SameLetters (first second : String) : Prop :=
  inSmall first.toList = inSmall second.toList

instance (first second : String) : Decidable (SameLetters first second) :=
  inferInstanceAs (Decidable (_ = _))

namespace Settings

/-- A service whose endpoint is made from the region. -/
def IsService (service : String) : Prop :=
  service = "dynamodb" ∨ service = "s3"

/-- The name of a service in a region. -/
def hostIn (service region : String) : String :=
  service ++ "." ++ region ++ ".amazonaws.com"

/-- A region is written with characters that a host may hold. -/
def FitsHost (region : String) : Prop :=
  ∀ symbol ∈ region.toList, Label.isKept symbol

instance (region : String) : Decidable (FitsHost region) :=
  decidable_of_iff (region.toList.all Label.isKept) List.all_eq_true

/-- A URL names a service in a region, but for the case of letters, and nothing
else. -/
structure NamesOnly (url : Url) (service region : String) : Prop where
  /-- The scheme is the one that endpoints are made with. -/
  scheme : url.scheme = "https"
  /-- The host is the name of the service. -/
  host : ∃ host, url.host = some host ∧
    SameLetters host.text (hostIn service region)
  /-- There is no user. -/
  username : url.username = ""
  /-- There is no password. -/
  password : url.password = ""
  /-- There is no port. -/
  port : url.port = none
  /-- There is no path. -/
  path : url.path = "/"
  /-- There is no query. -/
  query : url.query = none
  /-- There is no fragment. -/
  fragment : url.fragment = none

variable {service region : String} {url : Url}

theorem toList_endpointIn :
    (endpointIn service region).toList =
      "https".toList ++ ':' :: '/' :: '/' :: (hostIn service region).toList := by
  simp [endpointIn, hostIn]

/-- The name of a service ends in one that does not depend on the region. -/
theorem toList_hostIn :
    (hostIn service region).toList =
      (service.toList ++ '.' :: region.toList) ++
        '.' :: "amazonaws.com".toList := by
  simp [hostIn]

/-- It is written with the characters of the region and others that a host may
hold. -/
theorem isKept_hostIn_iff (isService : IsService service) :
    (∀ symbol ∈ (hostIn service region).toList, Label.isKept symbol) ↔
      FitsHost region := by
  have front : ∀ symbol ∈ service.toList, Label.isKept symbol := by
    rw [← List.all_eq_true]
    rcases isService with rfl | rfl <;> decide
  have point : Label.isKept '.' := by decide
  have back : ∀ symbol ∈ "amazonaws.com".toList, Label.isKept symbol := by
    rw [← List.all_eq_true]
    decide
  simp only [toList_hostIn, List.forall_mem_append, List.forall_mem_cons]
  exact ⟨fun kept => kept.1.2.2, fun fits => ⟨⟨front, point, fits⟩, point, back⟩⟩

/-- It does not end in a number. -/
theorem endsInNumber_hostIn :
    NumericHost.endsInNumber (inSmall (hostIn service region).toList) =
      false := by
  have back : inSmall ('.' :: "amazonaws.com".toList) =
      '.' :: "amazonaws.com".toList := by
    decide
  rw [toList_hostIn, inSmall_append, back,
    NumericHost.endsInNumber_append _ (by decide)]
  decide

/-- From a region of such characters, an endpoint is made that names the service
only. -/
theorem namesOnly_of_fitsHost
    (isService : IsService service)
    (fits : FitsHost region)
    (read : Url.read (endpointIn service region) = .ok url) :
    NamesOnly url service region := by
  have kept := (isKept_hostIn_iff isService).mpr fits
  have nonempty : (hostIn service region).toList ≠ [] := by
    simp [hostIn]
  rw [Url.read_of_isHostText (.inr rfl) (Url.isHostText_of_isKept nonempty kept)
    toList_endpointIn] at read
  obtain ⟨host, isHost, rfl⟩ := map_eq_ok_iff.mp read
  obtain rfl := Host.ofSpecial_eq_domain kept endsInNumber_hostIn isHost
  have same : SameLetters
      (Host.domain (String.ofList (inSmall (hostIn service region).toList))).text
      (hostIn service region) := by
    rw [SameLetters, Host.text, String.toList_ofList,
      Domain.inSmall_inSmall kept]
  exact {
    scheme := rfl, host := ⟨_, rfl, same⟩, username := rfl, password := rfl
    port := rfl, path := rfl, query := rfl, fragment := rfl }

/-- Only from such a region, an endpoint is made whose host is the name of the
service. -/
theorem fitsHost_of_sameLetters
    {host : Host}
    (isService : IsService service)
    (read : Url.read (endpointIn service region) = .ok url)
    (isHost : url.host = some host)
    (same : SameLetters host.text (hostIn service region)) :
    FitsHost region := by
  obtain ⟨-, -, found, isFound, normal⟩ :=
    Url.isNormal_of_read_append (.inr rfl) toList_endpointIn read
  cases isHost.symm.trans isFound
  -- An IPv6 address begins with a bracket, and no service does.
  have noBracket : ∀ groups, host ≠ .ipv6 groups := by
    rintro groups rfl
    have first := congrArg List.head? same
    rw [Host.toList_text_ipv6] at first
    rcases isService with rfl | rfl <;> simp [inSmall, hostIn] at first
  have kept := Host.isKept_of_mem_text normal noBracket
  have keptSmall := Domain.isKept_of_mem_inSmall kept
  rw [same] at keptSmall
  exact (isKept_hostIn_iff isService).mp (Label.isKept_of_inSmall keptSmall)

/-- An endpoint names the service only exactly if the region is written with
such characters. -/
theorem namesOnly_iff
    (isService : IsService service)
    (read : Url.read (endpointIn service region) = .ok url) :
    NamesOnly url service region ↔ FitsHost region := by
  constructor
  · intro names
    obtain ⟨host, isHost, same⟩ := names.host
    exact fitsHost_of_sameLetters isService read isHost same
  · intro fits
    exact namesOnly_of_fitsHost isService fits read

/-- A host with a port is not the name of a service, which ends in a letter. -/
theorem port_eq_none_of_sameLetters
    {host : Host}
    {port : Option Nat}
    {authority : String}
    (named : authority.toList = Url.authorityText host port)
    (same : SameLetters authority (hostIn service region)) :
    port = none := by
  cases port with
  | none => rfl
  | some number =>
      have noLetter : ∀ code < 0x80, (Char.ofNat code).isDigit ->
          (Char.ofNat code).toLower ≠ 'm' := by
        decide
      have nonempty := Decimal.digits_ne_nil number
      -- The digits of the port stand behind whatever the region brings in.
      have ends : authority.toList.getLast?.map Char.toLower = some 'm' := by
        rw [← List.getLast?_map, ← inSmall, same, toList_hostIn, inSmall_append,
          List.getLast?_append_of_ne_nil _ (by decide)]
        decide
      rw [named, Url.authorityText, Url.portText,
        List.getLast?_append_of_ne_nil _ (List.cons_ne_nil _ _),
        List.getLast?_cons_of_ne_nil nonempty,
        List.getLast?_eq_some_getLast nonempty, Option.map_some,
        Option.some.injEq] at ends
      have digit := Decimal.isDigit_of_mem_digits (List.getLast_mem nonempty)
      have ascii := Label.isAscii_of_isKept (Label.isKept_of_isDigit digit)
      rw [← Char.ofNat_toNat ((Decimal.digits number).getLast nonempty)]
        at digit ends
      exact absurd ends (noLetter _ (of_decide_eq_true ascii) digit)

/-- The host and the port of an endpoint are the name of the service in the same
case. -/
theorem sameLetters_authority_iff
    {authority : String}
    (isService : IsService service)
    (read : Url.read (endpointIn service region) = .ok url)
    (named : url.authority? = some authority) :
    SameLetters authority (hostIn service region) ↔ FitsHost region := by
  obtain ⟨host, isHost, text⟩ := Url.authority?_eq_some_iff.mp named
  constructor
  · intro same
    have noPort := port_eq_none_of_sameLetters text same
    rw [noPort, Url.authorityText, Url.portText, List.append_nil] at text
    rw [SameLetters, text] at same
    exact fitsHost_of_sameLetters isService read isHost same
  · intro fits
    have names := namesOnly_of_fitsHost isService fits read
    obtain ⟨sameHost, isSame, same⟩ := names.host
    cases isSame.symm.trans isHost
    rw [names.port, Url.authorityText, Url.portText, List.append_nil] at text
    rw [SameLetters, text]
    exact same

/-! ## Where requests and links go -/

/-- Whatever values are accepted that give no endpoint, and from which an
application is built: the store is asked at the name of its service in the
region, and links lead to the name of theirs, with nothing else in the URLs,
exactly if the region is written with characters that a host may hold. For every
other region, both hosts are others. -/
theorem services_are_in_region_iff_it_fits_host
    {values : TextMap String}
    {settings : Settings}
    {application : Application}
    (noStore : Gives values "CATALOG_STORE_ENDPOINT" none)
    (noAssets : Gives values "CATALOG_ASSET_ENDPOINT" none)
    (accepted : ofValues values = .ok settings)
    (built : Application.ofSettings settings = .ok application) :
    GivesRegion values settings.region ∧ application.IsServedAt settings ∧
    (NamesOnly application.client.endpoint "dynamodb" settings.region ↔
      FitsHost settings.region) ∧
    (SameLetters application.client.host
      (hostIn "dynamodb" settings.region) ↔ FitsHost settings.region) ∧
    (∀ url, Url.read settings.assetEndpoint = .ok url ->
      (NamesOnly url "s3" settings.region ↔ FitsHost settings.region)) ∧
    (SameLetters application.links.endpointHost
      (hostIn "s3" settings.region) ↔ FitsHost settings.region) := by
  have describes := ofValues_eq_ok_iff_describes.mp accepted
  have storeEndpoint : settings.storeEndpoint =
      endpointIn "dynamodb" settings.region :=
    describes.storeEndpoint.eq_absent noStore
  have assetEndpoint : settings.assetEndpoint =
      endpointIn "s3" settings.region :=
    describes.assetEndpoint.eq_absent noAssets
  have served := Application.isServedAt_of_ofSettings accepted built
  have storeRead := served.storeRead
  obtain ⟨asset, assetRead, -, assetHost⟩ := served.assets
  rw [storeEndpoint] at storeRead
  rw [assetEndpoint] at assetRead
  refine ⟨describes.region, served, namesOnly_iff (.inl rfl) storeRead,
    sameLetters_authority_iff (.inl rfl) storeRead served.storeHost,
    fun url read => ?_, sameLetters_authority_iff (.inr rfl) assetRead assetHost⟩
  rw [assetEndpoint] at read
  exact namesOnly_iff (.inr rfl) read

/-- Values that give a region and no endpoint. -/
def valuesIn (region : String) : TextMap String :=
  .ofPairs [("AWS_ACCESS_KEY_ID", "AKIDTEST"),
    ("AWS_SECRET_ACCESS_KEY", "secret"), ("AWS_REGION", region)]

/-- The region that some values give and the hosts that requests and links then
have. -/
def hosts
    (values : TextMap String) :
    Except StartupRefusal (String × String × String) := do
  let settings <- (ofValues values).mapError .settings
  let application <- Application.ofSettings settings
  return (settings.region, application.client.host,
    application.links.endpointHost)

/-- These are the hosts of an application. -/
theorem exists_of_hosts
    {values : TextMap String}
    {region store assets : String}
    (found : hosts values = .ok (region, store, assets)) :
    ∃ settings application,
      ofValues values = .ok settings ∧
      Application.ofSettings settings = .ok application ∧
      settings.region = region ∧ application.client.host = store ∧
      application.links.endpointHost = assets := by
  obtain ⟨settings, accepted, found⟩ := exists_of_bind_eq_ok found
  obtain ⟨application, built, found⟩ := exists_of_bind_eq_ok found
  cases found
  exact ⟨settings, application, mapError_eq_ok_iff.mp accepted, built, rfl, rfl,
    rfl⟩

/-- In a region that is written in capital letters, the program is served by the
services there. -/
theorem capital_region_names_services :
    ∃ settings application,
      ofValues (valuesIn " EU-WEST-1 ") = .ok settings ∧
      Application.ofSettings settings = .ok application ∧
      NamesOnly application.client.endpoint "dynamodb" "EU-WEST-1" ∧
      SameLetters application.links.endpointHost
        "s3.EU-WEST-1.amazonaws.com" := by
  obtain ⟨settings, application, accepted, built, region, -, -⟩ :=
    exists_of_hosts (by decide +kernel :
      hosts (valuesIn " EU-WEST-1 ") = .ok ("EU-WEST-1",
        "dynamodb.eu-west-1.amazonaws.com", "s3.eu-west-1.amazonaws.com"))
  have given (key : String)
      (absent : value? (valuesIn " EU-WEST-1 ") key = none) :
      Gives (valuesIn " EU-WEST-1 ") key none :=
    gives_iff.mpr absent
  obtain ⟨-, -, store, -, -, links⟩ := services_are_in_region_iff_it_fits_host
    (given "CATALOG_STORE_ENDPOINT" (by decide))
    (given "CATALOG_ASSET_ENDPOINT" (by decide)) accepted built
  rw [region] at store links
  have fits : FitsHost "EU-WEST-1" := by decide
  exact ⟨settings, application, accepted, built, store.mpr fits, links.mpr fits⟩

/-- A region with a commercial at and a number sign makes user information and a
fragment of the rest of the name: the program starts, and all requests and links
go to a host that the region names. -/
theorem region_with_divider_leads_elsewhere :
    ∃ settings application,
      Gives (valuesIn "a@elsewhere.example#") "CATALOG_STORE_ENDPOINT" none ∧
      Gives (valuesIn "a@elsewhere.example#") "CATALOG_ASSET_ENDPOINT" none ∧
      ofValues (valuesIn "a@elsewhere.example#") = .ok settings ∧
      Application.ofSettings settings = .ok application ∧
      settings.region = "a@elsewhere.example#" ∧
      application.client.host = "elsewhere.example" ∧
      application.links.endpointHost = "elsewhere.example" ∧
      ¬ SameLetters application.client.host
        (hostIn "dynamodb" settings.region) ∧
      ¬ SameLetters application.links.endpointHost
        (hostIn "s3" settings.region) := by
  obtain ⟨settings, application, accepted, built, region, store, links⟩ :=
    exists_of_hosts (by decide +kernel :
      hosts (valuesIn "a@elsewhere.example#") = .ok ("a@elsewhere.example#",
        "elsewhere.example", "elsewhere.example"))
  refine ⟨settings, application, gives_iff.mpr (by decide),
    gives_iff.mpr (by decide), accepted, built, region, store, links, ?_⟩
  rw [store, links, region]
  decide

end Settings
end BookLookup
