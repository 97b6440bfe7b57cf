import PerlSymbols.Position
import PerlSymbols.Uri.Host

/-!
# Why a request fails

Everything that goes wrong here comes from data that the indexer should not have published.
-/

namespace PerlSymbols

inductive RequestError where
  /-- The parent of a package is no text. -/
  | parentNotText
  /-- The tag of an element is a list or a map. -/
  | compositeTag
  /-- A parameter to be shown is no text. -/
  | parameterNotText
  | uri (e : Uri.UriError)
  | position (e : PositionError)
  deriving DecidableEq

def RequestError.message : RequestError → String
  | .parentNotText | .compositeTag | .parameterNotText => ""
  | .uri e => e.message
  | .position e => e.message

end PerlSymbols
