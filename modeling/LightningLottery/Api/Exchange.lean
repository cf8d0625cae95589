/-
  Requests over HTTP, and what comes back.

  * `Request`, `Exchange`: what is sent, and what becomes of it.
  * `isSuccess`, `statusText`: the classes and the names of status codes (RFC 9110).
  * `isHeaderValue`: the texts that can be sent in a header.
-/
import LightningLottery.Error
import LightningLottery.Url.Basic

namespace LightningLottery

/-- What is asked of the server. -/
inductive Method where
  | get
  | post
  deriving DecidableEq, Repr

/-- The name of a method. -/
def Method.name : Method → String
  | .get => "GET"
  | .post => "POST"

/-- A request with its headers. -/
structure Request where
  method : Method
  url : Url
  accept : String
  authorization : Option String
  contentType : Option String
  userAgent : Option String
  cacheControl : Option String
  deriving DecidableEq, Repr

/-- What becomes of a request. Redirects are left out: a request has one exchange, and its reply is
    the one that the client ends with. -/
inductive Exchange where
  /-- No reply comes. -/
  | unanswered
  /-- A reply whose body ends too early. -/
  | cutShort
  /-- A reply with its whole body. -/
  | answered (status : UInt16) (body : Bytes)
  deriving DecidableEq, Repr

/-! ## Status codes -/

/-- The status of a reply that has no body. -/
def noContent : UInt16 := 204

/-- The status of a request for what is not there. -/
def notFoundStatus : UInt16 := 404

/-- The status of a request that comes too soon after others. -/
def tooManyRequests : UInt16 := 429

/-- Whether a request succeeded. -/
def isSuccess (status : UInt16) : Bool := 200 ≤ status && status ≤ 299

/-- Whether a status says that the client or the server failed. -/
def isFailure (status : UInt16) : Bool := 400 ≤ status && status ≤ 599

/-- The names of the status codes. -/
def reasonPhrases : List (UInt16 × String) :=
  [(100, "Continue"), (101, "Switching Protocols"), (102, "Processing"), (200, "OK"),
   (201, "Created"), (202, "Accepted"), (203, "Non Authoritative Information"),
   (204, "No Content"), (205, "Reset Content"), (206, "Partial Content"), (207, "Multi-Status"),
   (208, "Already Reported"), (226, "IM Used"), (300, "Multiple Choices"),
   (301, "Moved Permanently"), (302, "Found"), (303, "See Other"), (304, "Not Modified"),
   (305, "Use Proxy"), (307, "Temporary Redirect"), (308, "Permanent Redirect"),
   (400, "Bad Request"), (401, "Unauthorized"), (402, "Payment Required"), (403, "Forbidden"),
   (404, "Not Found"), (405, "Method Not Allowed"), (406, "Not Acceptable"),
   (407, "Proxy Authentication Required"), (408, "Request Timeout"), (409, "Conflict"),
   (410, "Gone"), (411, "Length Required"), (412, "Precondition Failed"),
   (413, "Payload Too Large"), (414, "URI Too Long"), (415, "Unsupported Media Type"),
   (416, "Range Not Satisfiable"), (417, "Expectation Failed"), (418, "I'm a teapot"),
   (421, "Misdirected Request"), (422, "Unprocessable Entity"), (423, "Locked"),
   (424, "Failed Dependency"), (425, "Too Early"), (426, "Upgrade Required"),
   (428, "Precondition Required"), (429, "Too Many Requests"),
   (431, "Request Header Fields Too Large"), (451, "Unavailable For Legal Reasons"),
   (500, "Internal Server Error"), (501, "Not Implemented"), (502, "Bad Gateway"),
   (503, "Service Unavailable"), (504, "Gateway Timeout"), (505, "HTTP Version Not Supported"),
   (506, "Variant Also Negotiates"), (507, "Insufficient Storage"), (508, "Loop Detected"),
   (510, "Not Extended"), (511, "Network Authentication Required")]

/-- A status code with its name. -/
def statusText (status : UInt16) : String :=
  decimalText status.toNat ++ " " ++
    ((reasonPhrases.lookup status).getD "<unknown status code>")

/-- The text of a status of failure. -/
def failureText (status : UInt16) (url : Url) : String :=
  let side := if status < 500 then "client" else "server"
  "HTTP status " ++ side ++ " error (" ++ statusText status ++ ") for url (" ++ url.text ++ ")"

/-- The status of a plain request, unless it is one of failure or no reply came. -/
def Exchange.status (url : Url) : Exchange → Except Error UInt16
  | .unanswered => .error (.network .send)
  | .cutShort => .error (.network .readBody)
  | .answered status _ =>
    if isFailure status then .error (.httpStatus status (failureText status url)) else .ok status

/-! ## Headers -/

/-- Whether a text can be sent in a header: control characters cannot, a tab apart. -/
def isHeaderValue (s : String) : Bool :=
  s.toList.all fun c => c == '\t' || (0x20 ≤ c.toNat && c.toNat != 0x7F)

end LightningLottery
