import WorkloadScan.Interval.Reader
import WorkloadScan.Interval.Text
import WorkloadScan.Json.Decode

/-! Intervals in JSON documents are strings. -/
namespace WorkloadScan.Interval

def toJson (d : Interval) : Json := .string d.text

def ofJson (j : Json) : Except Json.DecodeError Interval := do
  let s ← j.asString
  (read s).mapError fun fault => .rejected fault.message

end WorkloadScan.Interval
