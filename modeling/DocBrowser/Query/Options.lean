import DocBrowser.Failure
/-!
# Queries

A query has a filter, a sort order, a projection, and a window into the result. Each of the three
documents is compiled from its own text, and a report names the one whose text is wrong.
-/

namespace DocBrowser

namespace Query

/-- A compiled query; a limit of zero means no limit. -/
structure Options where
  filter : Document := []
  sort : Document := []
  projection : Document := []
  skip : Nat := 0
  limit : Nat := 0

/-- Compiles the text of one part of a query. -/
def compilePart (zone : Zone) (part : String) (text : Option String) : Except Failure Document :=
  match compile? zone text with
  | .ok doc => .ok doc
  | .error fault =>
    match fault.fragment? with
    | some fragment => .error (.report (.compile (part ++ ": " ++ fault.message) fragment))
    | none => .error fault.failure

/-- Compiles a query from its texts. -/
def build (zone : Zone) (filter sort projection : Option String) (skip limit : Int) :
    Except Failure Options :=
  if skip < 0 then .error (.report (.query "skip must not be negative" "skip"))
  else if limit < 0 then .error (.report (.query "limit must not be negative" "limit"))
  else do
    let filter ← compilePart zone "filter" filter
    let sort ← compilePart zone "sort" sort
    let projection ← compilePart zone "projection" projection
    .ok { filter := nativeRegex filter, sort, projection, skip := skip.toNat, limit := limit.toNat }

end Query

end DocBrowser
