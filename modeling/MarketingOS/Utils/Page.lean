import MarketingOS.Ai.Parsers
import MarketingOS.Base.Dict
import MarketingOS.Base.Pattern
import MarketingOS.Base.StableSort
import MarketingOS.Core.Text
import MarketingOS.Schemas.Common
import MarketingOS.Utils.Web

/-!
# Reading a page

The brand signals of a fetched page: its text, the colors and fonts of its style sheets, and the
identity its metadata, JSON-LD and links declare. What the Unicode database, `urllib.parse` and
`json.loads` make of a text is given.
-/
namespace MarketingOS.Web

/-- What the string methods and `re` take from the Unicode database. -/
structure PageTables where
  /-- `text.lower()` -/
  lower : String → String
  /-- `c.isalnum()` -/
  isAlnum : Char → Bool
  /-- `unicodedata.decimal(c)` -/
  decimal : Char → Option Nat

/-- `\w` -/
def PageTables.isWord (tables : PageTables) (c : Char) : Bool := tables.isAlnum c || c == '_'

/-! ## The expressions -/

section Expressions

open Pattern

/-- Both quotation marks. -/
def quotes : List Char := "\"'".toList

/-- `\s*` -/
def blanks : Pattern := many isSpace 0 none true

/-- `\s*=\s*` -/
def equals : Pattern := inOrder [blanks, word "=", blanks]

/-- `_LINK_CSS_RE` -/
def linkCssRe : Pattern :=
  inOrder [word "<link", someNotOf ['>'], word "rel=", optional quotes, word "stylesheet",
    optional quotes, noneOf ['>'], word ">"]

/-- `_HREF_RE` -/
def hrefRe : Pattern :=
  inOrder [word "href", equals, oneOf quotes, group 1 (someNotOf quotes), oneOf quotes]

/-- `_JSONLD_BLOCK_RE` -/
def jsonldBlockRe : Pattern :=
  inOrder [word "<script", someNotOf ['>'], word "type", equals, oneOf quotes,
    word "application/ld+json", oneOf quotes, noneOf ['>'], word ">", group 1 fewest,
    word "</script>"]

/-- `_ANCHOR_HREF_RE` -/
def anchorHrefRe : Pattern :=
  inOrder [word "<a", boundary, noneOf ['>'], boundary, hrefRe]

/-- `_ICON_LINK_RE` -/
def iconLinkRe : Pattern :=
  inOrder [word "<link", someNotOf ['>'], word "rel", equals, optional quotes,
    alt (word "shortcut icon") (alt (word "icon") (word "apple-touch-icon")), optional quotes,
    noneOf ['>'], word ">"]

end Expressions

/-- `_MAX_JSONLD_BLOCKS` -/
def maxJsonldBlocks : Nat := 20

/-- `_MAX_JSONLD_BLOCK_CHARS` -/
def maxJsonldBlockChars : Nat := 20000

/-- `_MAX_ANCHORS_SCANNED` -/
def maxAnchorsScanned : Nat := 500

/-- `SocialLink` -/
structure SocialLink where
  platform : String
  url : String
deriving DecidableEq

/-- `IdentitySignals` -/
structure IdentitySignals where
  orgName : Option String
  logoUrl : Option String
  faviconUrl : Option String
  location : Option String
  emails : List String
  phones : List String
  socialLinks : List SocialLink
deriving DecidableEq

section Signals

variable (tables : PageTables)

/-- `_clean_str` of a text. -/
def cleanText? (limit : Nat) : Option String → Option String
  | none => none
  | some value => if strip value = "" then none else some (clip limit (strip value))

/-- `_clean_str` of a JSON value. -/
def cleanStr {ν : Type} (limit : Nat) : JsonValue ν → Option String
  | .str value => cleanText? limit (some value)
  | _ => none

/-- `int(text)`, when every character is a digit. -/
def readInt (text : String) : Option Nat :=
  (text.toList.mapM tables.decimal).map fun digits => digits.foldl (fun n d => n * 10 + d) 0

/-- `left or right` of two texts that may be missing. -/
def orText (left right : Option String) : Option String :=
  if left.getD "" = "" then right else left

end Signals

/-! ## Identity -/

section Identity

variable {ν : Type} (tables : PageTables) (lib : UrlLibrary)
  (loads : String → Except LoadsError (JsonValue ν))

/-- The objects in a list of values. -/
def objects (values : List (JsonValue ν)) : List (List (String × JsonValue ν)) :=
  values.filterMap fun
    | .dict entries => some entries
    | _ => none

/-- The nodes of one parsed block: its objects, or the objects of their graphs. -/
def blockNodes (parsed : JsonValue ν) : List (List (String × JsonValue ν)) :=
  let candidates := match parsed with
    | .list items => items
    | value => [value]
  (objects candidates).flatMap fun candidate =>
    match JsonValue.get candidate "@graph" with
    | .list graph => objects graph
    | _ => [candidate]

/-- Whether a value is the name of an organization type. -/
def isOrganizationType : JsonValue ν → Bool
  | .str name => name == "Organization" || name == "LocalBusiness"
  | _ => false

/-- `_find_organization` -/
def findOrganization (nodes : List (List (String × JsonValue ν))) :
    Option (List (String × JsonValue ν)) :=
  nodes.find? fun node =>
    match JsonValue.get node "@type" with
    | .list types => types.any isOrganizationType
    | nodeType => isOrganizationType nodeType

/-- `_extract_favicon` — the link that is joined to the base. -/
def faviconHref (html : String) : String :=
  match Pattern.search tables.isWord iconLinkRe html with
  | none => "/favicon.ico"
  | some found =>
    match Pattern.search tables.isWord hrefRe (String.ofList found.text) with
    | none => "/favicon.ico"
    | some href => href.group 1

/-- The texts of `org["sameAs"]`, when it is a list. -/
def sameAs (nodes : List (List (String × JsonValue ν))) : List String :=
  match (findOrganization nodes).map fun org => JsonValue.get org "sameAs" with
  | some (.list urls) =>
    urls.filterMap fun
      | .str url => some url
      | _ => none
  | _ => []

/-- The links of the first style sheets; one without a `href` is skipped. -/
def cssHrefs (html : String) (maxCss : Nat) : List String :=
  ((Pattern.findTexts tables.isWord linkCssRe html).take maxCss).filterMap fun link =>
    (Pattern.search tables.isWord hrefRe link).map fun found => found.group 1

end Identity

end MarketingOS.Web
