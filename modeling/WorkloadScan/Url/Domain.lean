import WorkloadScan.Url.Domain.Label
import WorkloadScan.Url.Percent

/-! Names of hosts. Names that differ only in case, in ornament or in invisible characters are one
name. -/
namespace WorkloadScan.Url.Domain

def areProper (labels : List (List Char)) : Bool :=
  labels.all Label.isProper && (!labels.any Label.hasLeftward || labels.all Label.hasDirection)

def isProper (name : List Char) : Bool :=
  ((Text.split (· == '.') name).mapM Label.read?).any areProper

def read? (cs : List Char) : Option (List Char) :=
  ((Percent.decodeText? cs).bind plainForm?).filter isProper

end WorkloadScan.Url.Domain
