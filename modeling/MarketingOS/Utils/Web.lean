import MarketingOS.Core.Exceptions

/-!
# Fetching a page

The requests of the page fetcher: redirects are followed by hand, and each hop is resolved again
and its connection pinned to an address of that answer. What `urllib.parse` and `ipaddress` make
of a text is given, and so are the answers of the resolver and of the servers.
-/
namespace MarketingOS.Web

/-- The parts of a parsed URL; `port` is nothing where reading it raises. -/
structure UrlParts where
  scheme : String
  hostname : Option String
  port : Option (Option Nat)
  path : String
  params : String
  query : String

/-- An `ipaddress` address: its text, its version and what it is asked. -/
structure IpAddress where
  text : String
  version : Nat
  isPrivate : Bool
  isLoopback : Bool
  isLinkLocal : Bool
  isReserved : Bool
  isMulticast : Bool
  isUnspecified : Bool

/-- What the standard library makes of a text; nothing where it raises `ValueError`. -/
structure UrlLibrary where
  /-- `urlparse(url)` -/
  urlparse : String → Option UrlParts
  /-- `urljoin(base, url)` -/
  urljoin : String → String → Option String
  /-- `ipaddress.ip_address(text)` -/
  ipAddress : String → Option IpAddress

/-- `urlunparse` of a URL with a scheme and a network location, and no fragment. -/
def urlunparse (scheme netloc path params query : String) : String :=
  let url := if params = "" then path else path ++ ";" ++ params
  let url := if url ≠ "" ∧ url.toList.head? ≠ some '/' then "/" ++ url else url
  let url := scheme ++ ":" ++ ("//" ++ netloc ++ url)
  if query = "" then url else url ++ "?" ++ query

/-- `_is_blocked_ip` -/
def isBlockedIp (ip : IpAddress) : Bool :=
  ip.isPrivate || ip.isLoopback || ip.isLinkLocal || ip.isReserved || ip.isMulticast ||
    ip.isUnspecified

/-- The addresses of an answer, unless one of them is blocked; what is no address is skipped. -/
def publicAddresses (lib : UrlLibrary) : List String → Option (List IpAddress)
  | [] => some []
  | entry :: rest =>
    match lib.ipAddress entry with
    | none => publicAddresses lib rest
    | some ip =>
      if isBlockedIp ip then none else (publicAddresses lib rest).map fun addrs => ip :: addrs

/-- `_resolve_public_ip`, of the answer of the lookup; nothing where the lookup raises. -/
def resolvePublicIp (lib : UrlLibrary) (infos : Option (List String)) : Option String :=
  match infos with
  | none => none
  | some infos =>
    if infos = [] then none
    else
      match publicAddresses lib infos with
      | none => none
      | some addrs =>
        match addrs.find? fun ip => ip.version = 4 with
        | some ip => some ip.text
        | none => addrs.head?.map IpAddress.text

/-- `_MAX_REDIRECTS` -/
def maxRedirects : Nat := 5

/-- What `client.get` is given: the URL, the `Host` header and the SNI name. -/
structure Request where
  url : String
  host : String
  sniHostname : String
deriving DecidableEq

/-- What comes of a request. -/
inductive Response where
  /-- `httpx.HTTPError` -/
  | httpError
  /-- Another exception. -/
  | raised (exc : Exc)
  | response (status : Nat) (location : Option String) (text : String)

/-- What the code reads from outside: the answer of each lookup and what comes of each request, by
their numbers. -/
structure Network where
  /-- `socket.getaddrinfo` — nothing where it raises. -/
  lookup : Nat → String → Option (List String)
  respond : Nat → Request → Response

/-- The literal in the network location, in brackets for an IPv6 address. -/
def hostLiteral (ip : String) : String := if ':' ∈ ip.toList then "[" ++ ip ++ "]" else ip

/-- `f":{parsed.port}" if parsed.port else ""` -/
def portSuffix (port : Option Nat) : String :=
  if port.getD 0 = 0 then "" else ":" ++ toString (port.getD 0)

/-- The network location of a pinned URL. -/
def netloc (ip : String) (port : Option Nat) : String := hostLiteral ip ++ portSuffix port

/-- The request of one hop, or why there is none: nothing where the code returns None. -/
def hopRequest (lib : UrlLibrary) (infos : String → Option (List String)) (current : String) :
    Outcome (Option Request) :=
  match lib.urlparse current with
  | none => raised .valueError
  | some parsed =>
    if parsed.scheme ≠ "http" ∧ parsed.scheme ≠ "https" then .ok none
    else
      match parsed.hostname with
      | none => .ok none
      | some hostname =>
        if hostname = "" then .ok none
        else
          match resolvePublicIp lib (infos hostname) with
          | none => .ok none
          | some ip =>
            match parsed.port with
            | none => raised .valueError
            | some port =>
              .ok (some {
                url := urlunparse parsed.scheme (netloc ip port)
                  (if parsed.path = "" then "/" else parsed.path) parsed.params parsed.query
                host := hostname
                sniHostname := hostname })

/-- The hops of `_get` from one number on, with the requests they make. -/
def getFrom (lib : UrlLibrary) (network : Network) :
    Nat → Nat → String → Outcome (Option String) × List (String × Request)
  | 0, _, _ => (.ok none, [])
  | left + 1, hop, current =>
    match hopRequest lib (network.lookup hop) current with
    | .error exc => (.error exc, [])
    | .ok none => (.ok none, [])
    | .ok (some request) =>
      let made := (current, request)
      match network.respond hop request with
      | .httpError => (.ok none, [made])
      | .raised exc => (.error exc, [made])
      | .response status location text =>
        if 300 ≤ status ∧ status < 400 then
          match location with
          | none => (.ok none, [made])
          | some location =>
            if location = "" then (.ok none, [made])
            else
              match lib.urljoin current location with
              | none => (raised .valueError, [made])
              | some next =>
                let rest := getFrom lib network left (hop + 1) next
                (rest.1, made :: rest.2)
        else if 200 ≤ status ∧ status < 300 then (.ok (some text), [made])
        else (.ok none, [made])

/-- `_get` — with the URL of every hop and the request made for it. -/
def get (lib : UrlLibrary) (network : Network) (url : String) :
    Outcome (Option String) × List (String × Request) :=
  getFrom lib network (maxRedirects + 1) 0 url

end MarketingOS.Web
