import TokenRotation.Url.Domain.Label
import TokenRotation.Url.Ipv4
import TokenRotation.Url.Percent

/-!
# Domains

A domain is read in steps: percent signs are decoded, the spelling is made plain, and what that
gives is composed and split at its dots. Every label has to be one, and the whole has to run in one
direction where it has letters that run from right to left. A domain that ends in a number has to be
a host of four bytes.

* `labels?_ne_empty` -- a domain is never empty.
-/

namespace TokenRotation.Url.Domain

/-- The labels of a text in plain spelling and composed. -/
def ofComposed? (text : List Char) : Option (List (List Char)) := do
  let labels ← (text.splitOn '.').mapM label?
  if labels = [[]] then none
  else if labels.any hasRightToLeft && !labels.all isOneWay then none
  else some labels

/-- The labels of a domain as it is written in an address. -/
def labels? (written : List Char) : Option (List (List Char)) := do
  let text ← Percent.text? written
  let plain ← plain? text.toList
  let composed := Text.normal plain
  if composed.any isBarred then none else ofComposed? composed

/-- The text is a domain. -/
def isDomain (written : List Char) : Bool :=
  (labels? written).any fun labels => !Ipv4.endsInNumber labels || Ipv4.isAddress labels

/-- A domain is never empty. -/
theorem labels?_ne_empty {written : List Char} {labels : List (List Char)}
    (h : labels? written = some labels) : labels ≠ [[]] := by
  rintro rfl
  simp only [labels?, ofComposed?, Option.bind_eq_bind, Option.bind_eq_some_iff,
    Option.ite_none_left_eq_some, Option.some.injEq] at h
  obtain ⟨_, _, _, _, _, _, _, nonempty, _, empty⟩ := h
  exact nonempty empty

end TokenRotation.Url.Domain
