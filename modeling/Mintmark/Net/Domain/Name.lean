import Mintmark.Net.Domain.Label

/-!
# Domain names

The labels that a domain name stands for once its characters are folded and composed.
-/

namespace Mintmark.Net.Domain

/-- Characters of ASCII that no name holds. -/
def isDenied (c : Char) : Bool :=
  c ≤ ' ' || c == '\x7f' || "%#/:<>?@[\\]^|".toList.contains c

/-- Folds and composes a name. -/
def fold? (cs : List Char) : Option (List Char) :=
  ((cs.mapM foldChar?).map fun folded => Text.composed folded.flatten).filter (!·.any isDenied)

/-- The labels of a name. -/
def labels? (cs : List Char) : Option (List (List Char)) := do
  let labels ← ((← fold? cs).splitOn '.').mapM Label.ofPart?
  let runsLeft := labels.any (·.any fun c => (Text.Direction.ofChar c).runsLeft)
  guard (!runsLeft || labels.all Label.keepsDirection)
  return labels

end Mintmark.Net.Domain
