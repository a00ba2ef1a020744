import ApiModel.FileTree
import ApiModel.Profile.Builtin

/-!
# Loading profiles

## Main definitions

* `ProfileError`: why there is no profile.
* `Profile.load`: the profile of a name or a path.
-/

namespace ApiModel

/-- Why there is no profile. -/
inductive ProfileError where
  | unreadable (path : String) (cause : FileError)
  | badYaml (path : String)
  deriving DecidableEq, Repr

/-- The wording of an error. -/
def ProfileError.message : ProfileError → String
  | unreadable path cause => "failed to read " ++ path ++ ": " ++ cause.message
  | badYaml path => "failed to parse " ++ path

/-- The profile of a name, or else of the file at a path. -/
def Profile.load {m : Type → Type} [Monad m] (read : FileReader m) (target : String) :
    ExceptT ProfileError m Profile := do
  match Profile.builtin? target with
  | some p => return p
  | none =>
    let text ← (read target).adapt (ProfileError.unreadable target)
    match Profile.ofYaml text with
    | some p => return p
    | none => throw (.badYaml target)

end ApiModel
