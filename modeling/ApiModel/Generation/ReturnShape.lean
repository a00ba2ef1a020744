import ApiModel.Profile.Basic
import ApiModel.Target.Operation

/-!
# The shape of signatures

What an operation returns in code follows from its response in order: the generic response
type may take its place, and it may then be wrapped to be delivered later.

## Main definitions

* `Profile.wrapper`: how types are wrapped that are delivered later.
* `Profile.returnShape`: the shape of a signature.
-/

namespace ApiModel.Profile

variable (p : Profile)

/-- The type of a response. Without content it is the type of no value. -/
def responseType : ResponseType → ResolvedType
  | .content type => type
  | .noContent => .ofTarget p.void .void

/-- Whether the generic response type is returned: it is asked for, or implementations of
the platform return it. -/
def wrapsResponse (flags : Flags) : Bool :=
  flags.returnResponse || (!flags.interfaceOnly && p.implementationReturnsResponse)

/-- How types are wrapped that are delivered later. -/
def wrapper (flags : Flags) : WrapperSyntax :=
  if flags.useReactive then p.reactiveWrapper.getD p.asyncWrapper else p.asyncWrapper

/-- A type that is delivered later. -/
def async (flags : Flags) (payload : ResolvedType) : ResolvedType :=
  { name := fill (p.wrapper flags).template payload.name
    target := (p.wrapper flags).target
    kind := .async payload }

/-- What is delivered later: an object, where the platform asks for one. -/
def asyncPayload (type : ResolvedType) : ResolvedType :=
  if p.asyncRequiresBoxed then type.boxed else type

/-- The shape of the signature of an operation. -/
def returnShape (response : ResponseType) (flags : Flags) : ReturnShape :=
  let wrapped := p.wrapsResponse flags
  let type := if wrapped then .ofTarget p.response .response else p.responseType response
  { isAsync := flags.supportAsync
    interfaceOnly := flags.interfaceOnly
    responseWrapped := wrapped
    returnType := if flags.supportAsync then p.async flags (p.asyncPayload type) else type }

end ApiModel.Profile
