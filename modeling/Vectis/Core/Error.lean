import Mathlib.Logic.Basic

/-!
# Errors

The classes of `VectisError` with their texts (`error.rs`). A `DynError` is a boxed error: one of these classes, or the
text of an error of another crate (the database driver, the crypto library, I/O).
-/

namespace Vectis

/-- The error classes of `error.rs`. -/
inductive VectisError
  | tokenDecodeBatchTooLarge
  | invalidInput (message : String)
  | notFound (message : String)
  | conflict (message : String)
  | forbidden (message : String)
  | invalidSignature (message : String)
  | configSignatureStale (message : String)
  | remoteUnreachable (message : String)
  | storage (message : String)
  | overloaded (message : String)
  | internal (message : String)
  deriving DecidableEq, Repr

/-- `Box<dyn Error + Send + Sync>`. -/
inductive DynError
  | vectis (err : VectisError)
  | other (message : String)
  deriving DecidableEq, Repr

namespace DynError

def invalidInput (message : String) : DynError := .vectis (.invalidInput message)

def notFound (message : String) : DynError := .vectis (.notFound message)

def conflict (message : String) : DynError := .vectis (.conflict message)

def forbidden (message : String) : DynError := .vectis (.forbidden message)

def invalidSignature (message : String) : DynError := .vectis (.invalidSignature message)

def internal (message : String) : DynError := .vectis (.internal message)

/-- `err.to_string()`. -/
def toText : DynError → String
  | .vectis .tokenDecodeBatchTooLarge => "token decode batch exceeds maximum allowed envelope size"
  | .vectis (.invalidInput m) | .vectis (.notFound m) | .vectis (.conflict m) | .vectis (.forbidden m)
  | .vectis (.invalidSignature m) | .vectis (.configSignatureStale m) | .vectis (.remoteUnreachable m)
  | .vectis (.storage m) | .vectis (.overloaded m) | .vectis (.internal m) | .other m => m

/-- `with_prefix`: the class stays, the text gets the prefix; an error of another crate becomes internal. -/
def withPrefix (pre : String) : DynError → DynError
  | .vectis .tokenDecodeBatchTooLarge => .vectis .tokenDecodeBatchTooLarge
  | .vectis (.invalidInput m) => .vectis (.invalidInput (pre ++ ": " ++ m))
  | .vectis (.notFound m) => .vectis (.notFound (pre ++ ": " ++ m))
  | .vectis (.conflict m) => .vectis (.conflict (pre ++ ": " ++ m))
  | .vectis (.forbidden m) => .vectis (.forbidden (pre ++ ": " ++ m))
  | .vectis (.invalidSignature m) => .vectis (.invalidSignature (pre ++ ": " ++ m))
  | .vectis (.configSignatureStale m) => .vectis (.configSignatureStale (pre ++ ": " ++ m))
  | .vectis (.remoteUnreachable m) => .vectis (.remoteUnreachable (pre ++ ": " ++ m))
  | .vectis (.storage m) => .vectis (.storage (pre ++ ": " ++ m))
  | .vectis (.overloaded m) => .vectis (.overloaded (pre ++ ": " ++ m))
  | .vectis (.internal m) => .vectis (.internal (pre ++ ": " ++ m))
  | .other m => .vectis (.internal (pre ++ ": " ++ m))

end DynError

/-- Fallible code. -/
abbrev Res := Except DynError

end Vectis
