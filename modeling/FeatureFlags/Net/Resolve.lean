import FeatureFlags.Net.Url

/-!
# `FeatureFlags.Net.Resolve` — references to resources

A reference takes from the resource that it is found in what it leaves out: the authority if it has
none, the path if it has none either, and the query if it has neither a path nor a query.  A
relative path starts where the path of the resource ends its last directory.  This holds for the
schemes whose paths form a hierarchy; elsewhere a reference stands for itself.
-/

namespace FeatureFlags

namespace Url

/-- The schemes whose paths form a hierarchy. -/
def hierarchical : List String :=
  ["", "ftp", "http", "gopher", "nntp", "imap", "wais", "file", "https", "shttp", "mms", "prospero",
    "rtsp", "rtspu", "sftp", "svn", "svn+ssh", "ws", "wss"]

/-- The segments of a reference's path behind those of the path that it is relative to. -/
def segmentsFrom (base reference : List Char) : List (List Char) :=
  if reference.head? = some '/' then reference.splitOn '/'
  else
    let above := base.splitOn '/'
    let above := if above.getLast? = some [] then above else above.dropLast
    match above ++ reference.splitOn '/' with
    | [] => []
    | first :: rest => first :: (rest.dropLast.filter (!·.isEmpty) ++ rest.getLast?.toList)

/-- Adds a segment to those above: one dot stays, and two dots go up. -/
def walk (above : List (List Char)) (segment : List Char) : List (List Char) :=
  if segment = ['.', '.'] then above.dropLast
  else if segment = ['.'] then above
  else above ++ [segment]

/-- A relative path in a path. -/
def resolvePath (base reference : List Char) : List Char :=
  let segments := segmentsFrom base reference
  let kept := segments.foldl walk []
  let isDots := segments.getLast? = some ['.'] ∨ segments.getLast? = some ['.', '.']
  let path := ['/'].intercalate (if isDots then kept ++ [[]] else kept)
  if path.isEmpty then ['/'] else path

/-- A part unless it is empty. -/
def nonempty (cs : Option (List Char)) : Option (List Char) := cs.filter (!·.isEmpty)

/-- The parts of a reference in a resource. -/
def resolveParts (base reference : Parts) : Parts :=
  let reference :=
    { reference with query := nonempty reference.query, fragment := nonempty reference.fragment }
  if !reference.authority.isEmpty then { reference with scheme := base.scheme }
  else if reference.path.isEmpty then
    { base with
      query := reference.query <|> nonempty base.query
      fragment := reference.fragment }
  else
    { reference with
      scheme := base.scheme
      authority := base.authority
      path := resolvePath base.path reference.path }

/-- The text of parts as they are written. -/
def Parts.text (p : Parts) : String :=
  String.ofList
    ((if p.scheme.isEmpty then [] else p.scheme ++ [':']) ++
      (if p.authority.isEmpty then [] else '/' :: '/' :: p.authority) ++ p.path ++
      (match p.query with | some q => '?' :: q | none => []) ++
      (match p.fragment with | some f => '#' :: f | none => []))

/-- The text of a reference in a resource. -/
def resolvedText (base reference : String) : String :=
  if base.isEmpty then reference
  else if reference.isEmpty then base
  else
    let b := Parts.ofText base.toList
    let r := Parts.ofText reference.toList
    let scheme := if r.scheme.isEmpty then b.scheme else r.scheme
    if scheme ≠ b.scheme ∨ !hierarchical.contains (String.ofList scheme) then reference
    else (resolveParts b r).text

/-- The resource that a reference stands for in a resource. -/
def resolve (base reference : Url) : Except UrlError Url :=
  parse (resolvedText base.text reference.text)

end Url

end FeatureFlags
