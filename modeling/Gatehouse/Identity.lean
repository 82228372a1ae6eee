import Gatehouse.Text.Quoted

/-! # Connection usernames

    A client of the gateway presents one username, which names two things: the owner of
    the connection and the backend it is to reach.

        alice#gpu-box-1
        owner backend target

    `decode` takes a username apart and `encode` puts one together.  Exactly one delimiter
    is accepted and both segments hold text; every other username has one `Defect`. -/

namespace Gatehouse

/-- The character between the owner and the backend target. -/
def delimiter : Char := '#'

/-- What a username says. -/
structure Identity where
  /-- The user whose registered key decides. -/
  owner  : String
  /-- The host to which the connection goes, verbatim. -/
  target : String
  deriving DecidableEq, Repr

/-! ## What can be wrong with a username -/

inductive Defect where
  /-- No delimiter at all. -/
  | missingDelimiter
  /-- A second delimiter. -/
  | extraDelimiter
  /-- Nothing before the delimiter. -/
  | emptyOwner
  /-- Nothing after the delimiter. -/
  | emptyTarget
  /-- A segment that is to be joined holds a delimiter itself. -/
  | delimiterInSegment
  deriving DecidableEq, Repr

/-- The defect in words. -/
def Defect.reason : Defect → String
  | .missingDelimiter   => "missing delimiter"
  | .extraDelimiter     => "more than one delimiter"
  | .emptyOwner         => "empty owner"
  | .emptyTarget        => "empty backend target"
  | .delimiterInSegment => "segment contains delimiter"

/-- A username that names no owner and target. -/
structure MalformedIdentity where
  username : String
  defect   : Defect
  deriving DecidableEq, Repr

/-- The error text if the characters that are shown as they are are these: the username, quoted,
    and what is wrong with it. -/
def MalformedIdentity.messageIn (plain : Char → Bool) (e : MalformedIdentity) : String :=
  "malformed identity " ++ Text.quotedIn plain e.username ++ ": " ++ e.defect.reason

/-- The error text. -/
def MalformedIdentity.message (e : MalformedIdentity) : String := e.messageIn Text.isPlain

/-! ## Taking apart and putting together -/

namespace Identity

/-- Takes a username apart at its only delimiter. -/
def decode (username : String) : Except MalformedIdentity Identity :=
  let chars := username.toList
  let owner := chars.takeWhile (· != delimiter)
  match chars.dropWhile (· != delimiter) with
  | []          => .error ⟨username, .missingDelimiter⟩
  | _ :: target =>
    if delimiter ∈ target then .error ⟨username, .extraDelimiter⟩
    else if owner.isEmpty then .error ⟨username, .emptyOwner⟩
    else if target.isEmpty then .error ⟨username, .emptyTarget⟩
    else .ok ⟨String.ofList owner, String.ofList target⟩

/-- The owner and the target with the delimiter between them. -/
def joined (owner target : String) : String := owner ++ String.singleton delimiter ++ target

/-- The username that a client presents to reach `target` as `owner`. -/
def encode (owner target : String) : Except MalformedIdentity String :=
  let username := joined owner target
  if delimiter ∈ owner.toList ∨ delimiter ∈ target.toList then
    .error ⟨username, .delimiterInSegment⟩
  else if owner.isEmpty then .error ⟨username, .emptyOwner⟩
  else if target.isEmpty then .error ⟨username, .emptyTarget⟩
  else .ok username

end Identity

end Gatehouse
