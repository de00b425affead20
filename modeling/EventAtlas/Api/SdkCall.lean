import EventAtlas.NameSet
import EventAtlas.Text.Lower
import EventAtlas.Text.Reader

/-!
# Calls of the client library

A call such as `$client->payments->create(` names a resource and an action. Keywords count in
any case and blanks may stand between the parts. The call is noted as `payments::create`.
-/

namespace EventAtlas.SdkCall

/-- The resources of the client library. -/
def resources : List String := ["payments", "orders", "refunds", "shipments", "captures"]

/-- The actions on a resource. -/
def actions : List String := ["create", "get", "update", "cancel", "list", "capture", "refund"]

/-- The rest of a text after a member arrow. -/
def afterArrow? (text : List Char) : Option (List Char) :=
  Text.afterWord? ['-', '>'] text

/-- The rest of a text after an arrow or a scope mark. -/
def afterAccess? (text : List Char) : Option (List Char) :=
  (afterArrow? text).or (Text.afterWord? [':', ':'] text)

/-- Reads a call: access to a resource, an arrow, an action and an opening parenthesis. What
is read is the resource and the action as they stand in the text. -/
def read : Text.Reader (List Char × List Char) := fun text => do
  let text ← afterAccess? text
  let (resource, text) ← Text.anyKeyword? resources (Text.trimLeft text)
  let text ← afterArrow? (Text.trimLeft text)
  let (action, text) ← Text.anyKeyword? actions (Text.trimLeft text)
  let text ← Text.after? (· == '(') (Text.trimLeft text)
  some ((resource, action), text)

/-- How a call is noted. -/
def signature (resource action : List Char) : String :=
  String.ofList (Text.lower resource ++ [':', ':'] ++ Text.lower action)

/-- The calls that stand in a source text. -/
def detect (source : String) : NameSet :=
  .ofList ((Text.findAll read source.toList).map fun call => signature call.1 call.2)

end EventAtlas.SdkCall
