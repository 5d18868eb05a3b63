import FacetedSearch.Json.Access
import FacetedSearch.Settings.Basic
import FacetedSearch.Text.Pieces

/-!
# The address of the engine

The engine's address is written as a host, with a scheme before it and a port after it, both of which
may be missing.  Without a scheme the connection is not secure; the port follows the last colon.

* `Address.parse` — the address that a text writes.
* `Connection.ofSettings` — the connection that the settings ask for.
-/

set_option autoImplicit false

namespace FacetedSearch

/-- Where the engine is. -/
structure Address where
  host : String
  port : Int
  secure : Bool
  deriving DecidableEq, Repr

namespace Address

/-- The port of an address that names none. -/
def defaultPort : Int := 9200

/-- What follows an opening, if the text begins with it. -/
def after? (opening : String) (cs : List Char) : Option (List Char) :=
  if opening.toList.isPrefixOf cs then some (cs.drop opening.length) else none

/-- Whether the connection is secure, and the text without its scheme. -/
def scheme (cs : List Char) : Bool × List Char :=
  match after? "http://" cs with
  | some rest => (false, rest)
  | none =>
    match after? "https://" cs with
    | some rest => (true, rest)
    | none => (false, cs)

/-- The address that a text writes; what follows the last colon has to be an integer. -/
def parse (text : String) : Except Fault Address := do
  let (secure, rest) := scheme text.toList
  match Text.cutAtLast ':' rest with
  | some (host, port) =>
    let port ← (Json.str (String.ofList port)).toInteger
    return ⟨String.ofList host, port, secure⟩
  | none => return ⟨String.ofList rest, defaultPort, secure⟩

end Address

/-- How the engine is reached. -/
structure Connection where
  address : Address
  /-- a user and a password, if both are known -/
  credentials : Option (String × String)
  verifyCertificates : Bool
  deriving DecidableEq, Repr

/-- The user and the password; one without the other is of no use. -/
def Settings.credentials (s : Settings) : Option (String × String) :=
  if s.username ≠ "" ∧ s.password ≠ "" then some (s.username, s.password) else none

/-- The connection that the settings ask for. -/
def Connection.ofSettings (s : Settings) : Except Fault Connection := do
  let address ← Address.parse s.host
  return ⟨address, s.credentials, s.verifyCertificates⟩

end FacetedSearch
