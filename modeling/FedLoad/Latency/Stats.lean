import FedLoad.Decimal.Style
import FedLoad.Latency.Histogram
import FedLoad.Text.Columns
/-!
# Latency statistics and their table

The statistics of a histogram are read off at fixed quantiles, in microseconds. They are shown in
milliseconds with two places, on one line or as rows of a table in ascending order of labels.
-/
namespace FedLoad.Latency

open Text Decimal

/-- What is read off a histogram with at least one value, in microseconds. -/
structure Stats where
  count : Nat
  least : Nat
  most : Nat
  mean : Float
  p50 : Nat
  p90 : Nat
  p95 : Nat
  p99 : Nat
  p999 : Nat

/-- The statistics, if anything is recorded. -/
def Histogram.stats (h : Histogram) : Option Stats :=
  h.reading {
    count := h.count
    least := h.least
    most := h.most
    mean := h.mean Float
    p50 := h.quantile 0.5
    p90 := h.quantile 0.9
    p95 := h.quantile 0.95
    p99 := h.quantile 0.99
    p999 := h.quantile 0.999 }

namespace Stats

def twoPlaces (micros : Nat) : String := fixed 2 (Histogram.millis micros)

/-- All statistics on one line. -/
def line (s : Stats) : String :=
  let ms (name : String) (value : String) := name ++ "=" ++ value ++ "ms"
  ", ".intercalate [
    "count=" ++ toString s.count,
    ms "min" (twoPlaces s.least),
    ms "max" (twoPlaces s.most),
    ms "mean" (fixed 2 (s.mean / 1000.0)),
    ms "p50" (twoPlaces s.p50),
    ms "p90" (twoPlaces s.p90),
    ms "p95" (twoPlaces s.p95),
    ms "p99" (twoPlaces s.p99),
    ms "p99.9" (twoPlaces s.p999)]

/-- A label and eight columns of figures. -/
def columns (label : String) (figures : List String) : String :=
  " ".intercalate (padRight 30 label :: figures.map (padLeft 8))

/-- A row of the table. -/
def row (s : Stats) (label : String) : String :=
  columns label [
    toString s.count,
    twoPlaces s.p50,
    twoPlaces s.p90,
    twoPlaces s.p95,
    twoPlaces s.p99,
    twoPlaces s.p999,
    fixed 2 (s.mean / 1000.0),
    twoPlaces s.most]

end Stats

/-- The two lines above the rows. -/
def tableHead : List String :=
  [Stats.columns "Label" ["Count", "P50", "P90", "P95", "P99", "P99.9", "Mean", "Max"],
   Stats.columns "" ["", "(ms)", "(ms)", "(ms)", "(ms)", "(ms)", "(ms)", "(ms)"]]

/-- The table of statistics under a title; `rows` are in ascending order of labels. -/
def table (title : String) (rows : List (String × Stats)) : String :=
  if rows.isEmpty then s!"## {title}\n\nNo data available.\n"
  else
    let lines := tableHead ++ rule 102 :: rows.map fun (label, stats) => stats.row label
    s!"\n## {title}\n\n" ++ String.join (lines.map (· ++ "\n"))

end FedLoad.Latency
