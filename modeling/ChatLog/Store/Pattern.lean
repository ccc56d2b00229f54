import ChatLog.Failure
import ChatLog.Text.Wildcard

/-!
Testing a text of the store against a wildcard pattern. A pattern that is too long fails as soon as
it is tested.
-/
namespace ChatLog.Store

def matchesPattern (pattern text : String) : Except Failure Bool :=
  if Text.Wildcard.tooLong pattern then .error .storage
  else .ok (Text.Wildcard.fits pattern text)

end ChatLog.Store
