import Workflow.Url.Domain.Label

/-!
# Domain names

International domain names are compared in a normal form: letters in lower case, wide forms as their
plain ones, invisible characters left out, labels in written form as what they stand for. `domain?`
gives that form if a text is a domain name.
-/

namespace Workflow.Url

def domain? (text : String) : Option String := do
  let plain ← Label.plainForm? text.toList
  let labels ← (plain.splitOn '.').mapM Label.ofPlain?
  if !labels.all Label.isSound then none
  else if labels.any (·.any Label.isRightToLeft) && !labels.all Label.keepsDirection then none
  else some (String.intercalate "." (labels.map String.ofList))

end Workflow.Url
