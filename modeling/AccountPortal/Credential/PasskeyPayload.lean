import AccountPortal.Text.Base64Url

/-!
# Passkey payloads

What a browser sends after a passkey ceremony is brought to one spelling: the credential id stands
under `id` and `rawId`, and the binary fields of the response are canonical base64url text. A field
that cannot be normalised is kept as it came. Main definitions: `normalizePayload`,
`credentialIdOfBody?`.
-/

namespace AccountPortal

def binaryFields : List String :=
  ["clientDataJSON", "attestationObject", "authenticatorData", "signature", "userHandle"]

/-- The first of the named values that has a canonical form other than the empty one. -/
def firstIdentifier? (v : Value) (names : List String) : Option String :=
  names.findSome? fun n => Base64Url.identifier? (v.get n)

def normalizeField (response : Fields Value) (name : String) : Fields Value :=
  match (response.get? name).bind Base64Url.identifier? with
  | some s => response.put name (.text s)
  | none => response

/-- The entries of a record, none for any other value. -/
def Value.entries : Value → Fields Value
  | .record fields => fields
  | _ => []

def normalizeResponse (v : Value) : Fields Value := binaryFields.foldl normalizeField v.entries

/-- A record with its credential id, when it has one, under both names. -/
def putIdentifier (fields : Fields Value) : Fields Value :=
  match firstIdentifier? (.record fields) ["rawId", "credentialId", "id"] with
  | some id => (fields.put "id" (.text id)).put "rawId" (.text id)
  | none => fields

def normalizePayload : Value → Value
  | .record fields =>
    let response := normalizeResponse ((Value.record fields).get "response")
    .record (Fields.put (putIdentifier fields) "response" (.record response))
  | v => v

/-- The id at the top of the request, else the first of those in its response. -/
def credentialIdOfBody? (body : Value) : Option String :=
  (Base64Url.identifier? (body.get "credentialId")).or
    (firstIdentifier? (body.get "response") ["id", "rawId", "credentialId"])

end AccountPortal
