import TaggedConfig.Host

/-! A network of fixed routes behind a link that may be down.
A request is brought to its final URL first; the first route that matches it decides.
-/

namespace TaggedConfig

/-- How a server behaves towards a request. -/
inductive Conduct where
  | answer
  /-- Closes the connection, stops within the body or stays silent. -/
  | fail
  /-- Holds the request until the load has been cancelled. -/
  | cancel
  /-- Brings down what carries out the request. -/
  | crash
  deriving DecidableEq, Repr

/-- What a server does for the requests of a URL, perhaps only with a certain token. -/
structure Route where
  url : String
  token : Option (Option String) := none
  status : Nat := 200
  body : Bytes := []
  conduct : Conduct := .answer
  /-- Whether the load is cancelled while the server is at a request, whatever it then does. -/
  cancels : Bool := false
  deriving DecidableEq, Repr

/-- A network. -/
structure Network where
  routes : List Route := []
  /-- Whether requests get through at all. -/
  reachable : Bool := true
  deriving DecidableEq, Repr

namespace Network

/-- The text before a character and the rest from it on. -/
def cut (stops : Char → Bool) (text : List Char) : List Char × List Char :=
  (text.takeWhile (! stops ·), text.dropWhile (! stops ·))

/-- The scheme of a web address, and what follows it. -/
def scheme? (address : List Char) : Option (String × List Char) :=
  if "http://".toList.isPrefixOf address then some ("http://", address.drop 7)
  else if "https://".toList.isPrefixOf address then some ("https://", address.drop 8)
  else none

/-- The URL that a request is sent to: without fragment and without the port 80, with a path.
Only web addresses of a host have one. An encrypted connection is made like any other, so that
certificates are never refused, and a port is left out as the network records requests, without
regard to the scheme.
-/
def target? (url : String) : Option String := do
  let whole := (cut (· = '#') url.toList).1
  if whole.any fun c => c.toNat ≤ 32 || c.toNat = 127 then none
  let (scheme, rest) ← scheme? whole
  let (host, path) := cut (fun c => c = '/' || c = '?') rest
  let host := if ":80".toList.isSuffixOf host then host.take (host.length - 3) else host
  if host.isEmpty then none
  let path := if path.head? = some '/' then path else '/' :: path
  some (scheme ++ String.ofList (host ++ path))

/-- Whether a token can be sent. -/
def isSendable (token : String) : Bool :=
  token.toList.all fun c => (32 ≤ c.toNat && c.toNat ≠ 127) || c = '\t'

def Route.matches (route : Route) (request : Request) : Bool :=
  route.url = request.url && (route.token.all (· = request.token))

/-- Statuses that ask to look elsewhere. No route says where, and the client reports an answer
that lacks this as a failed request. Where a server does say it the client looks there by itself,
and what it finds is all that is seen of the exchange.
-/
def redirects : List Nat := [301, 302, 303, 307, 308]

/-- The first route for a request. -/
def route? (network : Network) (request : Request) : Option Route :=
  network.routes.find? (Route.matches · request)

/-- What becomes of a request that reaches the network. -/
def answer (network : Network) (request : Request) : Exchange :=
  match network.route? request with
  | none => .answered 404 []
  | some route =>
      match route.conduct with
      | .cancel => .abandoned
      | .fail => .failed "Connection error: connection closed"
      | .crash => .lost
      | .answer =>
          if redirects.contains route.status then .failed "HTTP request failed: redirect"
          else .answered route.status route.body

/-- Whether the load is cancelled while a request is under way. It is if the request is held until
then. It may also be just before an answer comes, which is then taken all the same.
-/
def cancels (network : Network) (request : Request) : Bool :=
  (network.route? request).any fun route => route.cancels || route.conduct = .cancel

/-- What becomes of a request, and the request as it reached the network. -/
def send (network : Network) (request : Request) : Exchange × Option Request :=
  match target? request.url, request.token.all isSendable with
  | some url, true =>
      if network.reachable then
        let sent := { request with url }
        (network.answer sent, some sent)
      else (.failed "Connection error: Network is unreachable (os error 101)", none)
  | _, _ =>
      if network.reachable then (.failed "HTTP request failed: invalid request", none)
      else (.failed "Connection error: Network is unreachable (os error 101)", none)

end Network

end TaggedConfig
