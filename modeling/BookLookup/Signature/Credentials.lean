import BookLookup.Text.Escaped

/-!
# Credentials

A key identity, its secret and, for temporary credentials, a session token.
The text shown for credentials hides the secret and the token.
-/

namespace BookLookup

/-- What requests are signed with. -/
structure Credentials where
  /-- The identity of the key. -/
  accessKeyId : String
  /-- The secret of the key. -/
  secretAccessKey : String
  /-- The token of temporary credentials. -/
  sessionToken : Option String
  deriving DecidableEq

namespace Credentials

/-- What is shown in place of a secret. -/
def redacted : List Char := "\"<redacted>\"".toList

/-- The text shown for credentials. -/
def redactedText (credentials : Credentials) : String :=
  String.ofList ("Credentials \x7b access_key_id: ".toList ++
    Escaped.quoted credentials.accessKeyId ++
    ", secret_access_key: ".toList ++ redacted ++ ", session_token: ".toList ++
    (match credentials.sessionToken with
      | none => "None".toList
      | some _ => "Some(".toList ++ redacted ++ [')']) ++
    " \x7d".toList)

/-- The text shown does not depend on the secret, nor on which token there
is. -/
theorem redactedText_eq
    (accessKeyId : String)
    (firstSecret secondSecret : String)
    (firstToken secondToken : String) :
    redactedText ⟨accessKeyId, firstSecret, some firstToken⟩ =
      redactedText ⟨accessKeyId, secondSecret, some secondToken⟩ := rfl

end Credentials
end BookLookup
