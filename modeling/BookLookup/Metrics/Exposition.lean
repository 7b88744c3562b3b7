import BookLookup.Metrics.Registry
import BookLookup.Text.Shortest

/-!
# Metrics as text

Every family of metrics that has a value is written under two lines, which say
what it means and of what type it is. Families are in the order of their names,
series in the order of their label values, and labels in the order of their
names, but the bound of a class of times comes last. Classes of times are
cumulative and the last has no bound.
-/

namespace BookLookup
namespace Exposition

/-- The type of the text. -/
def contentType : String := "text/plain; version=0.0.4"

/-- How a character is written in the value of a label. -/
def escapeChar (symbol : Char) : List Char :=
  if symbol = '\\' then ['\\', '\\']
  else if symbol = '\n' then ['\\', 'n']
  else if symbol = '"' then ['\\', '"']
  else [symbol]

/-- A label with its value. -/
def label (name value : String) : String :=
  name ++ "=\"" ++ String.ofList (value.toList.flatMap escapeChar) ++ "\""

/-- The name of a metric with its labels. -/
def metric (name : String) (labels : List String) : String :=
  name ++ "\x7b" ++ ",".intercalate labels ++ "\x7d"

/-- The labels of a series. -/
def labelsOf (names values : List String) : List String :=
  (names.zip values).map fun (name, value) => label name value

/-- The two lines before the values of a family. -/
def header (name help type : String) : List String :=
  ["# HELP " ++ name ++ " " ++ help, "# TYPE " ++ name ++ " " ++ type]

/-- The lines of a family, none if it has no values. -/
def family
    {α : Type}
    (name help type : String)
    (series : Series α)
    (lines : List String × α -> List String) : List String :=
  if series.isEmpty then []
  else header name help type ++ series.flatMap lines

/-- The lines of a family of counters. -/
def counters
    (name help : String)
    (labels : List String)
    (series : Series Nat) : List String :=
  family name help "counter" series fun (values, count) =>
    [metric name (labelsOf labels values) ++ " " ++ Decimal.text count]

/-- The bounds of the classes of times in seconds. -/
def boundTexts : List String :=
  ["0.005", "0.01", "0.025", "0.05", "0.1", "0.25", "0.5", "1", "2.5", "5",
    "10"]

/-- The lines of a histogram. -/
def histogram
    (name : String)
    (labels : List String)
    (values : Histogram) : List String :=
  let bucket (bound : String) (count : Nat) : String :=
    metric (name ++ "_bucket") (labels ++ [label "le" bound]) ++ " " ++
      Decimal.text count
  (boundTexts.zip values.upTo).map (fun (bound, count) => bucket bound count) ++
    [bucket "+Inf" values.count,
      metric (name ++ "_sum") labels ++ " " ++ Shortest.text values.sum,
      metric (name ++ "_count") labels ++ " " ++ Decimal.text values.count]

/-- The lines of all that has been counted. -/
def lines (registry : Registry) : List String :=
  counters "catalog_filter_rejections_total"
    "Query parameter sets rejected by the filter compiler." ["reason"]
    registry.rejections ++
  family "catalog_http_request_duration_seconds"
    "Catalog HTTP request duration in seconds." "histogram" registry.times
    (fun (values, times) =>
      histogram "catalog_http_request_duration_seconds"
        (labelsOf ["method", "outcome", "route"] values) times) ++
  counters "catalog_http_requests_total" "Catalog HTTP request count."
    ["method", "route", "status"] registry.requests ++
  counters "catalog_signed_urls_total" "Asset URL signing attempts."
    ["outcome"] registry.signedUrls ++
  counters "catalog_store_scans_total"
    "Record store scans by mode and outcome." ["mode", "outcome"]
    registry.scans

/-- The text of all that has been counted. -/
def render (registry : Registry) : String :=
  String.join ((lines registry).map (· ++ "\n"))

end Exposition
end BookLookup
