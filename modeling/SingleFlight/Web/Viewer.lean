import SingleFlight.Web.Address

/-!
Viewer addresses: the one form in which the addresses of remote sessions are shown. What leads to the
session is kept, and how it is presented is fixed.
-/

namespace SingleFlight.Web.Viewer

open Text

def fixedPairs : List Form.Pair := [("autoconnect", "true"), ("resize", "remote")]

def isFixed (pair : Form.Pair) : Bool := fixedPairs.any (·.1 == pair.1)

/-- The named values of a viewer address: those given, in order, and then the fixed ones. -/
def pairs (given : List Form.Pair) : List Form.Pair :=
  (given.filter (fun pair => !isFixed pair)).mergeSort Form.isAtMost ++ fixedPairs

/-- The viewer address of a session. -/
def viewer (address : Address) : Address :=
  { address.withScheme .https with
    segments := ["vnc.html"]
    query := some (String.ofList (Form.render (pairs address.pairs))) }

/-- The form in which an access address is shown. What is no web address is shown as it is, without
blanks around it. -/
def canonicalize (text : String) : String :=
  match Address.ofText? (trim text) with
  | some address => (viewer address).text
  | none => trim text

end SingleFlight.Web.Viewer
