import BookLookup.Proofs.Secret.Written
import BookLookup.Proofs.Settings.Reading
import BookLookup.Settings.Shown

/-!
# Settings with another secret

Values that agree but at the keys of the secret and of the token give settings
that differ in these two alone. They are shown by the same texts if there is a
token in both or in neither.
-/

namespace BookLookup

/-- Credentials with another token. -/
def Credentials.withToken
    (credentials : Credentials)
    (token : Option String) : Credentials :=
  { credentials with sessionToken := token }

/-- Credentials are shown by the same text for any secret and for any token, if
there is one in both or in neither. -/
theorem Credentials.redactedText_withSecret_withToken
    (credentials : Credentials)
    (secret : String)
    {token : Option String}
    (together : token.isSome = credentials.sessionToken.isSome) :
    ((credentials.withSecret secret).withToken token).redactedText =
      credentials.redactedText := by
  obtain ⟨keyId, firstSecret, firstToken⟩ := credentials
  cases firstToken with
  | none =>
      cases token with
      | none => rfl
      | some token => cases together
  | some firstToken =>
      cases token with
      | none => cases together
      | some token => exact redactedText_eq ..

namespace Settings

/-- Settings with another secret. -/
def withSecret (settings : Settings) (secret : String) : Settings :=
  { settings with credentials := settings.credentials.withSecret secret }

/-- Settings with another token. -/
def withToken (settings : Settings) (token : Option String) : Settings :=
  { settings with credentials := settings.credentials.withToken token }

/-! ## Reading -/

/-- The key of the secret. -/
def secretKey : String := "AWS_SECRET_ACCESS_KEY"

/-- The key of the token. -/
def tokenKey : String := "AWS_SESSION_TOKEN"

/-- Values that agree but at these keys are accepted as well if they give a
secret. The settings differ in the secret and the token alone. -/
theorem ReadFrom.of_agreeBut
    {values others : TextMap String}
    (agree : values.AgreeBut [secretKey, tokenKey] others)
    {settings : Settings}
    (read : ReadFrom values settings)
    {secret : String}
    (given : value? others secretKey = some secret) :
    ReadFrom others
      ((settings.withSecret secret).withToken (value? others tokenKey)) := by
  have same {key : String} (notMember : key ∉ [secretKey, tokenKey]) :
      value? others key = value? values key :=
    (value?_congr agree notMember).symm
  obtain ⟨keyId, -, -⟩ := readCredentials_eq_ok_iff.mp read.credentials
  -- No field but the credentials is read at either key.
  constructor
  case bindAddress =>
    rw [readBindAddress, readOr, same (by decide)]
    exact read.bindAddress
  case region =>
    rw [readRegion, same (by decide), same (by decide)]
    exact read.region
  case tableName =>
    rw [same (by decide)]
    exact read.tableName
  case assetBucket =>
    rw [same (by decide)]
    exact read.assetBucket
  case storeEndpoint =>
    rw [readEndpoint, same (by decide)]
    exact read.storeEndpoint
  case assetEndpoint =>
    rw [readEndpoint, same (by decide)]
    exact read.assetEndpoint
  case assetPathStyle =>
    rw [readPathStyle, readOr, same (by decide)]
    exact read.assetPathStyle
  case storeTimeout =>
    rw [readTimeout, readOr, same (by decide)]
    exact read.storeTimeout
  case requestTimeout =>
    rw [readTimeout, readOr, same (by decide)]
    exact read.requestTimeout
  case storePageLimit =>
    rw [readPageLimit, readOr, same (by decide)]
    exact read.storePageLimit
  case credentials =>
    exact readCredentials_eq_ok_iff.mpr
      ⟨(same (by decide)).trans keyId, given, rfl⟩

/-- Settings that are read from such values differ in the secret and the token
alone. -/
theorem ReadFrom.eq_withSecret_withToken
    {values others : TextMap String}
    (agree : values.AgreeBut [secretKey, tokenKey] others)
    {settings other : Settings}
    (read : ReadFrom values settings)
    (otherRead : ReadFrom others other) :
    other = (settings.withSecret other.credentials.secretAccessKey).withToken
      other.credentials.sessionToken := by
  obtain ⟨-, secret, token⟩ :=
    readCredentials_eq_ok_iff.mp otherRead.credentials
  have accepted := ofValues_eq_ok_iff.mpr otherRead
  rw [ofValues_eq_ok_iff.mpr (read.of_agreeBut agree secret)] at accepted
  rw [← token]
  exact (Except.ok.inj accepted).symm

/-- If the values agree at the key of the token, too, only the secrets differ. -/
theorem ReadFrom.eq_withSecret
    {values others : TextMap String}
    (agree : values.AgreeBut [secretKey] others)
    {settings other : Settings}
    (read : ReadFrom values settings)
    (otherRead : ReadFrom others other) :
    other = settings.withSecret other.credentials.secretAccessKey := by
  obtain ⟨-, -, token⟩ := readCredentials_eq_ok_iff.mp read.credentials
  obtain ⟨-, -, otherToken⟩ :=
    readCredentials_eq_ok_iff.mp otherRead.credentials
  have sameToken : other.credentials.sessionToken =
      settings.credentials.sessionToken := by
    rw [← token, ← otherToken, value?_congr agree (by decide)]
  have both := read.eq_withSecret_withToken (agree.mono (by simp)) otherRead
  rw [sameToken] at both
  exact both

/-! ## Shown texts -/

/-- The texts shown for settings: those of the credentials, of the settings
themselves and of the settings of the store and of the images. -/
def shownTexts (settings : Settings) : List String :=
  [settings.credentials.redactedText, settings.shown, settings.store.shown,
    settings.assets.shown]

/-- The texts do not depend on the secret, nor on which token there is. -/
theorem shownTexts_withSecret_withToken
    (settings : Settings)
    (secret : String)
    {token : Option String}
    (together : token.isSome = settings.credentials.sessionToken.isSome) :
    ((settings.withSecret secret).withToken token).shownTexts =
      settings.shownTexts := by
  unfold shownTexts shown StoreSettings.shown AssetSettings.shown
  rw [withToken, withSecret, store, store, assets, assets]
  dsimp only
  rw [settings.credentials.redactedText_withSecret_withToken secret together]

end Settings
end BookLookup
