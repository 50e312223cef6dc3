import KitConsole.Entries

/-!
# The wire

* `Wire.Request` — a request as it is sent.
* `Wire.Failure` — why a request got no response; timeouts and connection failures are told apart from the rest.
* `Wire` — what the requests of a run meet, one after the other, and the requests sent so far.
* `Wire.send` — the next request and what it met.
-/

namespace KitConsole

namespace Wire

inductive Method
  | get
  | post
  | delete
  deriving DecidableEq, Repr

def Method.name : Method → String
  | get => "GET"
  | post => "POST"
  | delete => "DELETE"

/-- The token header is left out when there is no token; a form without entries is no form. -/
structure Request where
  method : Method
  url : String
  token : Option String
  timeoutSeconds : Int
  form : Option (Entries String)
  deriving DecidableEq, Repr

inductive Cause
  | timeout
  | readTimeout
  | connectTimeout
  | connectionError
  | proxyError
  | sslError
  | invalidUrl
  | missingSchema
  | invalidSchema
  | invalidHeader
  | invalidProxyUrl
  | tooManyRedirects
  | chunkedEncodingError
  | contentDecodingError
  | streamConsumedError
  | retryError
  | unrewindableBodyError
  | httpError
  | urlRequired
  | requestError
  deriving DecidableEq, Repr

namespace Cause

def all : List Cause :=
  [timeout, readTimeout, connectTimeout, connectionError, proxyError, sslError, invalidUrl, missingSchema,
   invalidSchema, invalidHeader, invalidProxyUrl, tooManyRedirects, chunkedEncodingError, contentDecodingError,
   streamConsumedError, retryError, unrewindableBodyError, httpError, urlRequired, requestError]

def name : Cause → String
  | timeout => "Timeout"
  | readTimeout => "ReadTimeout"
  | connectTimeout => "ConnectTimeout"
  | connectionError => "ConnectionError"
  | proxyError => "ProxyError"
  | sslError => "SSLError"
  | invalidUrl => "InvalidURL"
  | missingSchema => "MissingSchema"
  | invalidSchema => "InvalidSchema"
  | invalidHeader => "InvalidHeader"
  | invalidProxyUrl => "InvalidProxyURL"
  | tooManyRedirects => "TooManyRedirects"
  | chunkedEncodingError => "ChunkedEncodingError"
  | contentDecodingError => "ContentDecodingError"
  | streamConsumedError => "StreamConsumedError"
  | retryError => "RetryError"
  | unrewindableBodyError => "UnrewindableBodyError"
  | httpError => "HTTPError"
  | urlRequired => "URLRequired"
  | requestError => "RequestException"

def ofName? (s : String) : Option Cause := all.find? (·.name = s)

/-- A timeout or a failed connection, as opposed to a request that could not be made. -/
def isConnectivity : Cause → Bool
  | timeout | readTimeout | connectTimeout | connectionError | proxyError | sslError => true
  | _ => false

end Cause

structure Failure where
  cause : Cause
  detail : String := ""
  deriving DecidableEq, Repr

structure Response where
  status : Int := 200
  body : String := ""
  deriving DecidableEq, Repr

/-- What a request meets: a response, a failure, or a refusal to work with its values. -/
inductive Outcome
  | response (r : Response)
  | failure (f : Failure)
  | refusal (message : String)
  deriving DecidableEq, Repr

end Wire

structure Wire where
  outcome : Nat → Wire.Outcome
  sent : List Wire.Request := []

namespace Wire

/-- The outcomes of a list, and failed connections after them. -/
def ofList (script : List Outcome) : Wire :=
  { outcome := fun n => script.getD n (.failure ⟨.connectionError, ""⟩) }

/-- Nothing is at the other end. -/
def unplugged : Wire := ofList []

def send (wire : Wire) (request : Request) : Outcome × Wire :=
  (wire.outcome wire.sent.length, { wire with sent := wire.sent ++ [request] })

end Wire

end KitConsole
