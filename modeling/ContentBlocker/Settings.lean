import ContentBlocker.Decimal.Numeral
import ContentBlocker.Text.Lower

/-!
# Settings

The program is set up by named texts from its surroundings.
-/

namespace ContentBlocker.Settings

/-- The number that a setting gives, or what stands in for one that is absent or no number. -/
def numberOr (default : Int) (setting : Option String) : Int :=
  (setting.bind fun s => Numeral.read? s).getD default

/-- Whether a setting turns something on. -/
def isOn (setting : Option String) : Bool :=
  ["1", "true", "yes", "on"].any fun word => word = Text.lower (Text.trim (setting.getD ""))

end ContentBlocker.Settings
