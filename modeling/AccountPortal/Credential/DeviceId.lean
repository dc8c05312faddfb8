import AccountPortal.Value
import AccountPortal.Text.Blank
import AccountPortal.Text.Lower

/-!
# Device ids

A phone enrols as a node whose id is `ios-` or `iphone-` followed by the device id. Main definition:
`deviceIdOfNode?`.
-/

namespace AccountPortal

/-- What follows the first of the phone marks that the text starts with. -/
def afterPhoneMark? (cs : List Char) : Option (List Char) :=
  if "ios-".toList.isPrefixOf cs then some (cs.drop 4)
  else if "iphone-".toList.isPrefixOf cs then some (cs.drop 7)
  else none

def isIdLetter (c : Char) : Bool := 'a' ≤ c && c ≤ 'z' || '0' ≤ c && c ≤ '9'

/-- The lower-case letters and digits after the mark, if there are at least six. -/
def deviceIdChars? (nodeId : List Char) : Option (List Char) :=
  (afterPhoneMark? (lowerChars (trimChars isBlank nodeId))).bind fun rest =>
    let letters := rest.filter isIdLetter
    if letters.length ≥ 6 then some letters else none

def deviceIdOfNode? : Value → Option String
  | .text nodeId => (deviceIdChars? nodeId.toList).map String.ofList
  | _ => none

end AccountPortal
