import PerlSymbols.Value

/-!
# Merging settings

One set of settings is laid over another: where both have a map under a key, the maps are merged,
and otherwise the upper value counts. Keys keep their place, and new keys come last. Keys that are
alike are one key.
-/

namespace PerlSymbols.Settings

mutual

/-- What stands under a key when `upper` is laid over it. -/
def overlay (lower : Option Value) : Value → Value
  | .map upper =>
    match lower with
    | some (.map lower) => .map (merge lower upper)
    | _ => .map upper
  | v => v

/-- Lays the entries of a map over those of another. -/
def merge (lower : Entries Key Value) : List (Key × Value) → Entries Key Value
  | [] => lower
  | (k, v) :: upper => merge (Key.putAlike lower k (overlay (Key.getAlike? lower k) v)) upper

end

/-! ## Paths -/

/-- The value at the end of a path of keys. -/
def valueAt : Value → List Key → Option Value
  | v, [] => some v
  | .map entries, k :: path =>
    match Key.getAlike? entries k with
    | some v => valueAt v path
    | none => none
  | _, _ :: _ => none

end PerlSymbols.Settings
