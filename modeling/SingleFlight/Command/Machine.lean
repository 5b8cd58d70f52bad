import SingleFlight.Config.Load
import SingleFlight.Files.Layout
import SingleFlight.Gateway.Script
import SingleFlight.Text.Replace

/-!
Machines: everything outside the program that a command meets. Besides files, the environment and the
network, these are the clock and chance. A description of a machine may name the server by a
placeholder.
-/

namespace SingleFlight.Command

open Gateway Time

structure Machine where
  tree : Files.Tree
  environment : Config.Environment
  script : Script
  /-- What the clock shows all the while. -/
  now : Timestamp
  /-- How long each wait for the gateway is found to take. -/
  elapsed : Milliseconds
  suffix : UInt16
  nonce : UInt32

def serverPlaceholder : String := "\x7bserver\x7d"

/-- A text with the address of the server in it. -/
def withServer (server text : String) : String :=
  String.ofList (Text.replaceAll [(serverPlaceholder.toList, server.toList)] text.toList)

/-- A reply as it is described: an answer, or a connection that stays silent or ends. -/
def replyOfJson (server : String) (json : Json) : Reply :=
  match json.field? "close", json.field? "hang", json.field? "status" with
  | some (.bool true), _, _ => .closed
  | _, some (.bool true), _ => .silent
  | _, _, some (.number status) =>
    .answered ⟨status.toNat, ((json.field? "location").bind Json.text?).map (withServer server),
      ((json.field? "body").map Files.Entry.contentOf).getD []⟩
  | _, _, _ => .closed

/-- The network that a description gives, with no message sent yet. -/
def scriptOfJson? (server : String) (json : Json) : Option Script := do
  let address ← Web.Address.ofText? server
  let replies := match json.field? "replies" with
    | some (.list replies) => replies.map (replyOfJson server)
    | _ => []
  return ⟨address, replies, []⟩

def environmentOfJson (server : String) (json : Json) : Config.Environment :=
  match json.field? "env" with
  | some (.object fields) =>
    Dictionary.ofList (fields.filterMap fun (name, value) => value.text?.map
      fun text => (name, (withServer server text : String)))
  | _ => Dictionary.empty

/-- An entry whose content, where it is a text, has the address of the server in it. -/
def entryWithServer (server : String) : Json → Json
  | .list [path, .text text] => .list [path, .text (withServer server text)]
  | entry => entry

def layoutOfJson (server : String) (json : Json) : Files.Layout :=
  match json.field? "fs" with
  | some (.list entries) =>
    Files.Layout.empty.addAll (Files.Layout.entriesOfJson (.list (entries.map (entryWithServer server))))
  | _ => Files.Layout.empty

/-- A machine as it is described by its files, its environment, and the replies of a server. -/
def Machine.ofJson? (server : String) (now : Timestamp) (json : Json) : Option Machine := do
  return {
    tree := (layoutOfJson server json).settled
    environment := environmentOfJson server json
    script := ← scriptOfJson? server json
    now, elapsed := 0, suffix := 0, nonce := 0 }

end SingleFlight.Command
