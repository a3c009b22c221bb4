import ContractDrill.Json.Decoder
import ContractDrill.Schema.Record

/-!
# Contract addresses

The node lists the addresses of the contracts that run a code, the latest last.  The contract to
work with is that one: earlier sessions with the same code leave theirs in front.
-/

namespace ContractDrill

open Schema

/-- The addresses of the contracts of a code, if the node gives any. -/
structure ContractListing where
  contracts : Option (List String)
  deriving DecidableEq

/-- The listing that a value describes. -/
def ContractListing.ofJson : Reader ContractListing :=
  record fun members =>
    ContractListing.mk <$> optional "contracts" none (nullable (list text)) members

/-- The object that describes a listing. -/
def ContractListing.toJson (unset : Unset) (listing : ContractListing) : Json :=
  .object (unset.member "contracts" (listing.contracts.map texts))

namespace ContractAddress

/-- Why no address can be taken from an answer. -/
inductive Error where
  | malformed (issues : List Issue)
  | noContracts
  | emptyAddress
  deriving DecidableEq

/-- The issue of a text that is not JSON. -/
def notJson : Issue := ⟨.jsonInvalid, []⟩

/-- The issue of an answer without a text. -/
def notText : Issue := ⟨.jsonType, []⟩

/-- The listing in the answer with the given text. -/
def readListing (text : String) : Verdict ContractListing :=
  match Json.decode .strict text with
  | .ok value => ContractListing.ofJson value
  | .error _ => .invalid [notJson]

/-- The address of the latest contract of a listing. -/
def latest (listing : ContractListing) : Except Error String :=
  match (listing.contracts.getD []).getLast? with
  | none => .error .noContracts
  | some address => if address = "" then .error .emptyAddress else .ok address

/-- The address of the latest contract in the answer with the given text. -/
def read (text : String) : Except Error String :=
  match readListing text with
  | .valid listing => latest listing
  | .invalid issues => .error (.malformed issues)

/-- The address of the latest contract in an answer, whose text may not have been captured. -/
def readCaptured (text : Option String) : Except Error String :=
  match text with
  | some text => read text
  | none => .error (.malformed [notText])

/-- What a report says of an error, with `describe` for the issues of a malformed answer. -/
def Error.message (describe : List Issue → String) : Error → String
  | malformed issues => "list-contract-by-code returned malformed JSON: " ++ describe issues
  | noContracts => "No contracts found for code ID."
  | emptyAddress => "list-contract-by-code returned an empty address."

end ContractAddress

end ContractDrill
