import Mathlib.Logic.Basic
import MarketingOS.Base.Traverse
import MarketingOS.Utils.Page

/-!
# Reading any page

What a page must not hold for `parse_page` to return. The links of its style sheets and its icon
go to `urljoin`, its anchors and the profiles of its organization to `urlparse`, and its JSON-LD to
`json.loads`. Only the last is guarded, and only against a `ValueError`.
-/
namespace MarketingOS.Web

variable {ν : Type} (tables : PageTables) (lib : UrlLibrary)
  (loads : String → Except LoadsError (JsonValue ν))

/-- The JSON-LD blocks of a page that are read, each cut to its bound. -/
def jsonldBlocks (html : String) : List String :=
  ((Pattern.findGroups tables.isWord jsonldBlockRe html).take maxJsonldBlocks).map
    (clip maxJsonldBlockChars)

/-- The nodes of a block, or nothing for one that cannot be read. -/
def nodesOf (text : String) : List (List (String × JsonValue ν)) :=
  match loads text with
  | .ok parsed => blockNodes parsed
  | .error _ => []

/-- The nodes of the blocks that can be read. -/
def pageNodes (html : String) : List (List (String × JsonValue ν)) :=
  (jsonldBlocks tables html).flatMap (nodesOf loads)

/-- The anchor links of a page that are looked at. -/
def anchorHrefs (html : String) : List String :=
  (Pattern.findGroups tables.isWord anchorHrefRe html).take maxAnchorsScanned

/-- A page that can be read: the library takes every link that is given to it. -/
structure Readable (html baseUrl : String) (getCss : Option (String → Option String))
    (maxCss : Nat) : Prop where
  styleSheets : getCss.isSome → ∀ href ∈ cssHrefs tables html maxCss,
    (lib.urljoin baseUrl href).isSome
  blocks : ∀ text ∈ jsonldBlocks tables html, loads text ≠ .error .other
  favicon : (lib.urljoin baseUrl (faviconHref tables html)).isSome
  profiles : ∀ url ∈ sameAs (pageNodes tables loads html), (lib.urlparse url).isSome
  anchors : ∀ href ∈ anchorHrefs tables html, (lib.urlparse href).isSome

end MarketingOS.Web
