import BearerCache.Secret
import BearerCache.Text.Base64
import BearerCache.Url.Basic

/-! # Requests on a network

What the library sends, and what it gets back.  A network answers each request with the next
of the replies it holds and remembers what was sent; one that cannot be reached answers
nothing and nothing is sent.  A request is sent once: nothing is repeated and no redirection
is followed.

How the bytes of a body become a text is left open: a network comes with the `Decoder` by which
bodies are read, and nothing depends on which one it is. -/

namespace BearerCache.Http

/-! ## Requests -/

/-- A request as it is sent. -/
structure Request where
  method : String
  /-- The whole address, without user and fragment. -/
  target : String
  /-- Whether the exchange is not protected. -/
  isPlain : Bool
  /-- The values of the header `Authorization`, in order. -/
  authorization : List String
  contentType : List String
  body : String
  deriving DecidableEq, Repr

/-- The value that presents a user name and a password. -/
def basicHeader (username password : List UInt8) : String :=
  "Basic " ++ Text.Base64.encodePadded .standard (username ++ 0x3A :: password)

/-- The text that a part of an address stands for, if its bytes are one. -/
def partText? (part : String) : Option String :=
  Text.ofBytes? (Url.unescape (Text.bytes part))

/-- The user name and the password that an address has in it, if it has one of them.  A password
that is no text counts as none, and with a user name that is no text there is neither. -/
def userOf? (url : Url) : Option (String × Option String) := do
  let username ← partText? url.username
  let password := url.password.bind partText?
  if username = "" ∧ password = none then none else some (username, password)

/-- The credentials that an address has in it, as a header. -/
def urlCredentials (url : Url) : List String :=
  match userOf? url with
  | none => []
  | some (username, password) =>
    [basicHeader (Text.bytes username) (Text.bytes (password.getD ""))]

/-- The address that a request names. -/
def targetOf (url : Url) : String :=
  { url with username := "", password := none, fragment := none }.write

/-- A request for what is at an address, with further authorization. -/
def get (url : Url) (authorization : List String) : Request :=
  ⟨"GET", targetOf url, url.scheme == "http", urlCredentials url ++ authorization, [], ""⟩

/-- A request that posts a form to an address. -/
def postForm (url : Url) (form : String) : Request :=
  ⟨"POST", targetOf url, url.scheme == "http", urlCredentials url,
    ["application/x-www-form-urlencoded"], form⟩

/-! ## Header values -/

/-- Whether a text can be the value of a header: it has no control characters but tabs. -/
def isHeaderValue (s : String) : Bool :=
  s.toList.all fun c => c == '\t' || (0x20 ≤ c.toNat && c.toNat != 0x7F)

/-- The values of `Authorization` once a secret is presented after others; nothing if one of
them cannot be the value of a header. -/
def presentBearer (before : List String) (secret : Secret) : Option (List String) :=
  let values := before ++ [secret.bearerHeader]
  if values.all isHeaderValue then some values else none

/-! ## Replies -/

/-- What comes back. -/
inductive Reply where
  /-- A whole answer. -/
  | answer (status : Nat) (contentType : Option String) (body : List UInt8)
  /-- No answer, or not all of one, or none in time. -/
  | lost
  deriving DecidableEq, Repr

/-- How the bytes of a body are read as a text, by the content type that came with them.  Every
body has a text: bytes that stand for nothing are replaced. -/
abbrev Decoder := Option String → List UInt8 → String

/-- The decoder that takes every body for UTF-8, as is done with one that has neither a content type
nor a byte order mark. -/
def Decoder.utf8 : Decoder := fun _ body => Text.lossy body

/-- A whole answer with its body as a text. -/
structure Response where
  status : Nat
  body : String
  deriving DecidableEq, Repr

/-- The body that is received with a status.  Some answers have none, whatever is sent. -/
def receivedBody (status : Nat) (body : List UInt8) : List UInt8 :=
  if status = 204 ∨ status = 304 then [] else body

/-- The text of an answer, if there is one. -/
def Reply.response? (decode : Decoder) : Reply → Option Response
  | .answer status contentType body =>
    some ⟨status, decode contentType (receivedBody status body)⟩
  | .lost => none

/-- A network. -/
inductive Network where
  | unreachable
  /-- Answers plain requests with these replies in turn, and reads their bodies with a decoder;
  `sent` are the requests sent so far. -/
  | replying (decode : Decoder) (replies : List Reply) (sent : List Request)

namespace Network

/-- The requests sent so far, in order. -/
def sent : Network → List Request
  | unreachable => []
  | replying _ _ sent => sent

/-- Sends a request.  Past the last reply there is no answer. -/
def send (request : Request) : Network → Option Response × Network
  | unreachable => (none, unreachable)
  | replying decode replies sent =>
    if request.isPlain then
      match replies with
      | reply :: replies => (reply.response? decode, replying decode replies (sent ++ [request]))
      | [] => (none, replying decode [] (sent ++ [request]))
    else (none, replying decode replies sent)

/-- A plain request gets the next reply, and is then the last one that has been sent. -/
theorem send_of_isPlain {request : Request} (h : request.isPlain) (decode : Decoder)
    (replies : List Reply) (sent : List Request) :
    (replying decode replies sent).send request =
      (replies.head?.bind (Reply.response? decode),
        replying decode replies.tail (sent ++ [request])) := by
  cases replies <;> simp [send, h]

/-- A request that is sent is sent once. -/
theorem sent_send (request : Request) (network : Network) :
    (network.send request).2.sent = network.sent ∨
      (network.send request).2.sent = network.sent ++ [request] := by
  unfold send
  split
  · exact .inl rfl
  · split
    · split <;> exact .inr rfl
    · exact .inl rfl

end Network

end BearerCache.Http
