import AccountPortal.Digest.Sha256
import AccountPortal.Text.Base64Url
import AccountPortal.Text.Utf8

/-!
# Tokens, codes and references

Random tokens are base64url text and are stored as their SHA-256; a six-digit code is a random
32-bit number reduced below a million; a wallet reference binds a seed phrase to an account and the
pepper. Main definitions: `Token.generate`, `Token.hash`, `Token.sixDigitCode`, `walletReference`.
-/

namespace AccountPortal

def sha256Hex (s : String) : String := (Sha256.digest (utf8 s)).hex

namespace Token

def generate (entropy : Bytes) : String := Base64Url.encode entropy

def hash (raw : String) : String := sha256Hex raw

/-- The last `width` decimal digits of a number. -/
def digits : (width : Nat) → Nat → List Char
  | 0, _ => []
  | w + 1, n => Char.ofNat (48 + n / 10 ^ w % 10) :: digits w n

def sixDigitCode (entropy : Bytes) : String :=
  String.ofList (digits 6 (entropy.bigNat % 1000000))

end Token

/-- What is hashed for a wallet reference: the three texts with colons between them. -/
def walletPreimage (seedPhrase accountId pepper : String) : Bytes :=
  utf8 seedPhrase ++ 0x3A :: utf8 accountId ++ 0x3A :: utf8 pepper

def walletReference (seedPhrase accountId pepper : String) : String :=
  "seed-sha256:" ++ (Sha256.digest (walletPreimage seedPhrase accountId pepper)).hex

/-- A user's handle on an authenticator: half of the hash of the user id. -/
def webauthnUserId (userId : String) : String :=
  Base64Url.encode ((Sha256.digest (utf8 userId)).take 16)

end AccountPortal
