import AccountPortal.Value
import AccountPortal.Text.Blank
import AccountPortal.Text.Percent
import AccountPortal.Text.Segments

/-!
# Cookies

A cookie is written as its name and percent-encoded value followed by its attributes; a header of
cookies is read segment by segment, and the last segment for a name wins. Main definitions:
`Cookie.encode`, `Cookie.clear`, `Cookie.parse`.
-/

namespace AccountPortal.Cookie

def attributes (secure : Bool) (maxAge : Int) : String :=
  "; Path=/; HttpOnly; SameSite=Lax; " ++ (if secure then "Secure; " else "")
    ++ "Max-Age=" ++ toString maxAge

def encode (name value : String) (maxAge : Int) (secure : Bool) : String :=
  name ++ "=" ++ percentEncode value ++ attributes secure maxAge

def clear (name : String) (secure : Bool) : String := name ++ "=" ++ attributes secure 0

/-- The name and the decoded value of a segment; none without an equals sign or without a name. -/
def ofSegment? (segment : List Char) : Option (String × String) :=
  match cutAt '=' (trimChars isBlank segment) with
  | some (c :: name, raw) =>
    some (String.ofList (c :: name), String.ofList (percentDecodeChars raw))
  | _ => none

def parse (header : String) : Fields String :=
  ((segments ';' header.toList).filterMap ofSegment?).foldl (fun acc e => acc.put e.1 e.2) []

end AccountPortal.Cookie
