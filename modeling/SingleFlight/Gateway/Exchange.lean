import SingleFlight.Json.Value
import SingleFlight.Text.Base64
import SingleFlight.Text.Blank
import SingleFlight.Web.Address

/-!
Exchanges with a web server: messages, the replies to them, and how far a redirect is followed. The
network that carries them is a parameter.
-/

namespace SingleFlight.Gateway

open Text Web

inductive Method where
  | get
  | post
  deriving DecidableEq

/-- What is sent over one connection. -/
structure Message where
  method : Method
  /-- The path and the query. -/
  target : String
  authorization : Option String
  runId : Option String
  contentType : Option String
  body : Option Json

def Method.name : Method → String
  | .get => "GET"
  | .post => "POST"

def Message.toJson (message : Message) : Json :=
  .object [("method", .text message.method.name), ("path", .text message.target),
    ("authorization", .ofTextOption message.authorization), ("run_id", .ofTextOption message.runId),
    ("content_type", .ofTextOption message.contentType), ("body", message.body.getD .null)]

structure Answer where
  status : Nat
  location : Option String
  body : List Byte
  deriving DecidableEq

/-- What comes of a connection: nothing if it is refused or ends early, and nothing in time if the other
side stays silent. -/
inductive Reply where
  | refused
  | closed
  | silent
  | answered (answer : Answer)
  deriving DecidableEq

/-- How a message reaches the server of an address, on a state of type `ν`. -/
structure Network (ν : Type) where
  deliver : Address → Message → ν → Reply × ν

/-- Why there is no answer. -/
inductive Trouble where
  | malformedAddress
  | unsendable (header : String)
  | overlongBound
  | unreached
  | silence
  | malformedAnswer
  | tooManyRedirects
  | unfollowable (location : String)
  deriving DecidableEq

namespace Trouble

def message : Trouble → String
  | malformedAddress => "not the address of a web server"
  | unsendable header => "invalid header '" ++ header ++ "'"
  | overlongBound => "request deadline overflowed"
  | unreached => "connection failed"
  | silence => "timed out reading response"
  | malformedAnswer => "not an HTTP answer"
  | tooManyRedirects => "reached max redirects"
  | unfollowable location => "bad redirection: " ++ location

/-- Trouble counts as a time-out if its wording says so. -/
def isTimeout (trouble : Trouble) : Bool :=
  occursIn "timed out".toList trouble.message.toList

end Trouble

/-- A request on its way, which redirects may lead elsewhere. -/
structure Call where
  method : Method
  address : Address
  authorization : Option String
  runId : Option String
  contentType : Option String
  body : Option Json

/-- Characters that may stand in a header. -/
def isHeaderChar (c : Char) : Bool := (0x20 ≤ c.toNat && c.toNat ≤ 0x7E) || c = '\t'

/-- A header that other sides accept. -/
def header? (text : String) : Option String :=
  if (trim text).toList.all isHeaderChar then some (trim text) else none

namespace Call

/-- The credentials in an address, as they are sent. -/
def credentials? (address : Address) : Option String :=
  if address.user.isEmpty && address.password.isEmpty then none
  else some ("Basic " ++ String.ofList (Base64.encode (Utf8.ofString (address.user ++ ":" ++ address.password))))

/-- The path and the query; a query that holds nothing is left out. -/
def target (address : Address) : String := String.ofList { address with query := filledQuery address.query }.target
where
  filledQuery (query : Option String) : Option String := query.filter (fun text => !text.isEmpty)

def message (call : Call) : Message where
  method := call.method
  target := target call.address
  authorization := call.authorization.or (credentials? call.address)
  runId := call.runId
  contentType := call.contentType
  body := call.body

/-- The request to another address. The body and what authorizes it are not handed on. -/
def redirectedTo (call : Call) (method : Method) (address : Address) : Call :=
  { call with method, address, authorization := none, body := none }

/-- The method with which a redirect is followed, if it is. -/
def redirectMethod? (method : Method) (status : Nat) : Option Method :=
  if status = 301 ∨ status = 302 ∨ status = 303 then some .get
  else if (status = 307 ∨ status = 308) ∧ method = .get then some .get
  else none

/-- Where an answer leads, if it is not the last one. -/
def next? (call : Call) (answer : Answer) : Except Trouble (Option Call) :=
  match answer.location.bind header? with
  | none => .ok none
  | some location =>
    match call.address.join? location with
    | none => .error (.unfollowable location)
    | some address => .ok ((redirectMethod? call.method answer.status).map (call.redirectedTo · address))

end Call

def Answer.isRedirect (answer : Answer) : Bool := 300 ≤ answer.status && answer.status < 399

/-- A status line has a status of two digits at least, which fits into 16 bits. -/
def Answer.isWellFormed (answer : Answer) : Bool := 10 ≤ answer.status && answer.status ≤ 65535

/-- The answer in a reply, if the bound on the time leaves any time to wait for it. -/
def Reply.answer? (bound : Option Nat) : Reply → Except Trouble Answer
  | .refused => .error .unreached
  | .closed => if bound = some 0 then .error .silence else .error .unreached
  | .silent => .error .silence
  | .answered answer =>
    if bound = some 0 then .error .silence
    else if answer.isWellFormed then .ok answer
    else .error .malformedAnswer

/-- How many redirects are followed. -/
def redirectLimit : Nat := 4

variable {ν : Type}

/-- Sends a request, and follows at most a number of redirects. -/
def Network.fetchFollowing (network : Network ν) (bound : Option Nat) :
    Nat → Call → ν → Except Trouble Answer × ν
  | redirects, call, state =>
    match network.deliver call.address call.message state with
    | (reply, after) =>
      match reply.answer? bound with
      | .error trouble => (.error trouble, after)
      | .ok answer =>
        if !answer.isRedirect then (.ok answer, after)
        else match redirects with
          | 0 => (.error .tooManyRedirects, after)
          | redirects + 1 =>
            match call.next? answer with
            | .error trouble => (.error trouble, after)
            | .ok none => (.ok answer, after)
            | .ok (some next) => network.fetchFollowing bound redirects next after

/-- Bounds, in milliseconds, from which no clock can count. -/
def overlong : Nat := (Nat.pow 2 63 - Nat.pow 2 20) * 1000

/-- Sends a request to an address, unless it cannot be sent at all. -/
def Network.fetch (network : Network ν) (bound : Option Nat) (address : String) (call : Address → Call) (state : ν) :
    Except Trouble Answer × ν :=
  match Address.ofText? address with
  | none => (.error .malformedAddress, state)
  | some address =>
    match (call address).authorization.filter (fun text => !text.toList.all isHeaderChar) with
    | some header => (.error (.unsendable header), state)
    | none =>
      if bound.any (overlong ≤ ·) then (.error .overlongBound, state)
      else network.fetchFollowing bound redirectLimit (call address) state

end SingleFlight.Gateway
