/-!
# Methods of the transfer protocol

## Main definitions

* `Method`: the eight methods under which a path may declare an operation.
* `Method.all`: the methods in the order in which the operations of a path are taken.
-/

namespace ApiModel

/-- A method under which a path declares an operation. -/
inductive Method where
  | get
  | put
  | post
  | delete
  | options
  | head
  | patch
  | trace
  deriving DecidableEq, Repr, Inhabited

namespace Method

/-- The methods in the order in which the operations of a path are taken. -/
def all : List Method := [get, put, post, delete, options, head, patch, trace]

/-- The method as a request line has it. -/
def text : Method → String
  | get => "GET"
  | put => "PUT"
  | post => "POST"
  | delete => "DELETE"
  | options => "OPTIONS"
  | head => "HEAD"
  | patch => "PATCH"
  | trace => "TRACE"

/-- The key under which a path item declares the operation. -/
def key : Method → String
  | get => "get"
  | put => "put"
  | post => "post"
  | delete => "delete"
  | options => "options"
  | head => "head"
  | patch => "patch"
  | trace => "trace"

/-- The method with a given text. -/
def ofText? (s : String) : Option Method := all.find? fun m => m.text == s

@[simp] theorem mem_all (m : Method) : m ∈ all := by cases m <;> decide

end Method

end ApiModel
