import MessageCatalog.Check.RoundTrip
import MessageCatalog.Check.Rules

/-!
# Checking a catalog

A validator makes all checks but those that are disabled.
-/

namespace MessageCatalog.Check

/-- The kinds of findings that are not wanted. -/
structure Validator where
  disabled : List IssueKind := []
  deriving DecidableEq, Repr

namespace Validator

def isEnabled (v : Validator) (kind : IssueKind) : Bool :=
  !v.disabled.contains kind

/-- The findings in a catalog. -/
def validate (v : Validator) (c : Catalog) : List Issue :=
  (checkContent c ++ (if v.isEnabled .roundTripLoss then roundTrip c else [])).filter
    (v.isEnabled ·.kind)

end Validator

/-- The findings of all checks. -/
def validate (c : Catalog) : List Issue :=
  ({} : Validator).validate c

theorem mem_validate {v : Validator} {c : Catalog} {i : Issue} (h : i ∈ v.validate c) :
    v.isEnabled i.kind = true :=
  (List.mem_filter.1 h).2

end MessageCatalog.Check
