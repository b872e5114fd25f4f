import FeatureFlags.Text.Quoted

/-!
# `FeatureFlags.Error` — the errors of the library, and failures that are not its own

A `LibraryError` has a kind, a code and a message, and is written `CODE: message`.  The kinds form a
tree under `general`: whoever handles a kind handles the kinds below it.

A `Failure` is anything that can end an operation: a library error, or a foreign failure that the
library neither raises nor expects, such as the failure of a transport or of a caller's code.
-/

namespace FeatureFlags

/-! ## Library errors -/

/-- The kinds of library errors. -/
inductive ErrorKind where
  | general
  /-- Network failure, or an answer other than success. -/
  | transport
  /-- A record that does not have the shape it should have. -/
  | decode
  /-- A failure that concerns a single evaluation. -/
  | evaluation
  | missingProperty
  | notOrderable
  | invalidPattern
  | unsupportedOperator
  | typeMismatch
  | unreadableDigest
  /-- The flag cannot be decided from its definition alone. -/
  | inconclusive
  deriving DecidableEq

namespace ErrorKind

/-- The kind that a kind specialises. -/
def parent? : ErrorKind → Option ErrorKind
  | .general => none
  | .transport | .decode | .evaluation => some .general
  | .missingProperty | .notOrderable | .invalidPattern | .unsupportedOperator | .typeMismatch
  | .unreadableDigest | .inconclusive => some .evaluation

/-- A kind and the kinds above it, the most general last. -/
def lineage (kind : ErrorKind) : List ErrorKind :=
  match kind.parent? with
  | none => [kind]
  | some .general => [kind, .general]
  | some parent => [kind, parent, .general]

/-- Whether a kind is `other` or lies below it. -/
def isA (kind other : ErrorKind) : Bool := kind.lineage.contains other

/-- The code of the errors of a kind; general errors bring their own. -/
def code? : ErrorKind → Option String
  | .general => none
  | .transport => some "TRANSPORT_ERROR"
  | .decode => some "DECODE_ERROR"
  | .evaluation => some "EVALUATION_ERROR"
  | .missingProperty => some "MISSING_PROPERTY"
  | .notOrderable => some "NOT_ORDERABLE"
  | .invalidPattern => some "INVALID_PATTERN"
  | .unsupportedOperator => some "UNSUPPORTED_OPERATOR"
  | .typeMismatch => some "TYPE_MISMATCH"
  | .unreadableDigest => some "INTERNAL_HASH_ERROR"
  | .inconclusive => some "INCONCLUSIVE_MATCH"

end ErrorKind

/-- An error of the library. -/
structure LibraryError where
  kind : ErrorKind
  code : String
  message : String
  /-- The status of the answer that a transport error reports, if there was an answer. -/
  status : Option Int
  deriving DecidableEq

namespace LibraryError

/-- An error with the code of its kind. -/
def ofKind (kind : ErrorKind) (message : String) : LibraryError :=
  ⟨kind, kind.code?.getD "", message, none⟩

/-- A general error with a code of its own. -/
def general (code message : String) : LibraryError := ⟨.general, code, message, none⟩

/-- A transport error. -/
def transport (message : String) (status : Option Int) : LibraryError :=
  { ofKind .transport message with status := status }

/-- A misuse of an operation or a setting. -/
def misuse (message : String) : LibraryError := general "CONFIG_ERROR" message

/-- The text of an error: its code, then its message. -/
def text (e : LibraryError) : String := e.code ++ ": " ++ e.message

end LibraryError

/-! ## Foreign failures -/

/-- The kinds of failures that are not the library's own. -/
inductive ForeignKind where
  | type
  | overflow
  | value
  /-- Bytes are not in a charset. -/
  | unicode
  | unicodeDecode
  | unicodeEncode
  | invalidUrl
  /-- A label of a domain name is malformed. -/
  | domain
  /-- A character may not stand in a domain name. -/
  | domainCharacter
  /-- A character may not stand where it stands in a domain name. -/
  | domainContext
  /-- The directions of the characters of a domain name do not fit together. -/
  | domainDirection
  | runtime
  | recursion
  | os
  | assertion
  | key
  | index
  | attribute
  deriving DecidableEq

/-- A failure that is not the library's own. -/
structure ForeignError where
  kind : ForeignKind
  message : String
  deriving DecidableEq

namespace ForeignError

/-- The text of a foreign failure; the text of a failed look-up is the quoted key. -/
def text (e : ForeignError) : String :=
  match e.kind with
  | .key => Text.quoted e.message
  | _ => e.message

end ForeignError

/-- What ends an operation without a result. -/
inductive Failure where
  | library (e : LibraryError)
  | foreign (e : ForeignError)
  deriving DecidableEq

namespace Failure

/-- The text of a failure. -/
def text : Failure → String
  | .library e => e.text
  | .foreign e => e.text

end Failure

end FeatureFlags
