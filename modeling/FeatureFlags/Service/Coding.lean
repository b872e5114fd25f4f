import FeatureFlags.Deflate.Container
import FeatureFlags.Text.Letter

/-!
# `FeatureFlags.Service.Coding` — the codings of bodies

A body may be coded several times; a header lists the codings in the order in which they were
applied, so that the last one is undone first.  Codings that are not known are taken to be none.
-/

namespace FeatureFlags

/-- A coding of a body. -/
inductive Coding where
  | gzip
  /-- A stream, or compressed data that is not wrapped. -/
  | deflate
  deriving DecidableEq

namespace Coding

/-- The coding with a name. -/
def named? (name : String) : Option Coding :=
  [("gzip", .gzip), ("deflate", .deflate)].lookup name

/-- The codings that a header lists. -/
def ofHeader (value : String) : List Coding :=
  (value.toList.splitOn ',').filterMap fun item =>
    named? (String.ofList ((Text.trim item).map Char.toLower))

/-- Undoes a coding. -/
def undo (coding : Coding) (bytes : List UInt8) : Except Deflate.Fault (List UInt8) :=
  match coding with
  | .gzip => Deflate.decompress .gzip bytes
  | .deflate =>
    match Deflate.decompress .zlib bytes with
    | .ok bytes => .ok bytes
    | .error _ => Deflate.decompress .none bytes

/-- Undoes codings, the last one first. -/
def undoAll (codings : List Coding) (bytes : List UInt8) : Except Deflate.Fault (List UInt8) :=
  codings.reverse.foldlM (fun bytes coding => coding.undo bytes) bytes

end Coding

end FeatureFlags
