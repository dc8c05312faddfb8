import AccountPortal.Text.Blank
import AccountPortal.Text.Lower

/-!
# Email addresses

An address is kept trimmed and in lower case. Main definition: `normalizeEmail`.
-/

namespace AccountPortal

def normalizeEmail (email : String) : String := lower (trim email)

end AccountPortal
