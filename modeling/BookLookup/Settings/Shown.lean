import BookLookup.Settings.Basic

/-!
# Settings as they are shown

A record is shown by its name and, in braces, by its fields in order, each with
its name. Credentials are shown without their secret and their token, also
within the settings that hold them.
-/

namespace BookLookup
namespace Shown

/-- A record of some name with fields that are shown. -/
def record (name : String) (fields : List (String × String)) : String :=
  name ++ " \x7b " ++
    ", ".intercalate (fields.map fun field => field.1 ++ ": " ++ field.2) ++
    " \x7d"

/-- A text. -/
def text (value : String) : String :=
  String.ofList (Escaped.quoted value)

/-- A truth value. -/
def switch (value : Bool) : String :=
  if value then "true" else "false"

/-- A number that may be absent. -/
def optional : Option Nat -> String
  | none => "None"
  | some value => "Some(" ++ Decimal.text value ++ ")"

end Shown

/-- The text shown for settings. -/
def Settings.shown (settings : Settings) : String :=
  Shown.record "CatalogConfig" [
    ("bind_addr", settings.bindAddress.text),
    ("region", Shown.text settings.region),
    ("table_name", Shown.text settings.tableName),
    ("asset_bucket", Shown.text settings.assetBucket),
    ("store_endpoint", Shown.text settings.storeEndpoint),
    ("asset_endpoint", Shown.text settings.assetEndpoint),
    ("asset_path_style", Shown.switch settings.assetPathStyle),
    ("store_timeout_ms", Decimal.text settings.storeTimeout),
    ("store_page_limit", Shown.optional settings.storePageLimit),
    ("request_timeout_ms", Decimal.text settings.requestTimeout),
    ("credentials", settings.credentials.redactedText)]

/-- The text shown for the settings of the store. -/
def StoreSettings.shown (settings : StoreSettings) : String :=
  Shown.record "DynamoStoreConfig" [
    ("endpoint", Shown.text settings.endpoint),
    ("region", Shown.text settings.region),
    ("table_name", Shown.text settings.tableName),
    ("credentials", settings.credentials.redactedText),
    ("timeout", settings.timeout.text),
    ("page_limit", Shown.optional settings.pageLimit)]

/-- The text shown for the settings of the images. -/
def AssetSettings.shown (settings : AssetSettings) : String :=
  Shown.record "S3PresignerConfig" [
    ("bucket", Shown.text settings.bucket),
    ("region", Shown.text settings.region),
    ("endpoint", Shown.text settings.endpoint),
    ("path_style", Shown.switch settings.pathStyle),
    ("credentials", settings.credentials.redactedText)]

end BookLookup
