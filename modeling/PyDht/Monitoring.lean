import PyDht.Catalogue
import Mathlib.Data.List.Infix

set_option autoImplicit false

namespace PyDht

namespace Monitoring

/-- The entries in the order of their first appearance. -/
def firsts (entries : List String) : List String :=
  entries.foldl (fun seen entry => if entry ∈ seen then seen else seen ++ [entry]) []

/-- `match_keywords`, over the `str.casefold` of Python. -/
def matchKeywords (casefold : String → String) (torrent : IndexedTorrent) (keywords : List String)
    (caseSensitive : Bool) : Option KeywordResult :=
  let fold (text : String) : List Char :=
    if caseSensitive then text.toList else (casefold text).toList
  let values := torrent.name.toList.filter (· ≠ "") ++ torrent.files.map IndexedFile.path
  let hits (keyword : String) : List String :=
    values.filter fun value => fold keyword <:+: fold value
  let matched := keywords.filter fun keyword => keyword ≠ "" ∧ hits keyword ≠ []
  if matched = [] then none
  else some { keywords := matched, matched := firsts (matched.flatMap hits) }

end Monitoring

end PyDht
