import AccountPortal.Value
import AccountPortal.Digest.Scrypt
import AccountPortal.Text.Segments
import AccountPortal.Text.Utf8

/-!
# Passwords

A stored password is the word `scrypt`, a salt and the hexadecimal key, joined by dollar signs.
Main definitions: `Password.hash`, `Password.verify`, `sameText`.
-/

namespace AccountPortal

/-- Compares the UTF-8 bytes; every byte is looked at when the lengths agree. -/
def sameText (a b : String) : Bool := (utf8 a).same (utf8 b)

namespace Password

def algorithm : String := "scrypt"

def keyHex (password salt : String) : String := (Scrypt.derive (utf8 password) (utf8 salt)).hex

def encode (salt keyHex : String) : String := algorithm ++ "$" ++ salt ++ "$" ++ keyHex

/-- The salt is the hexadecimal form of the random bytes. -/
def hash (entropy : Bytes) (password : String) : String :=
  encode entropy.hex (keyHex password entropy.hex)

def verifyText (password encoded : String) : Bool :=
  match (segments '$' encoded.toList).map String.ofList with
  | [name, salt, key] =>
    name == algorithm && salt != "" && key != "" && sameText (keyHex password salt) key
  | _ => false

/-- Whether the encoded text is one of the password; false for anything that is not text. -/
def verify : Value → Value → Bool
  | .text password, .text encoded => verifyText password encoded
  | _, _ => false

end Password

end AccountPortal
