import DocBrowser.Query.Compile
import DocBrowser.Value.Equal
/-!
# Failures

Whatever keeps an operation from its result: mostly something that is reported to the user, and a
few conditions of numbers, the clock and files that operations pass on as they are.
-/

namespace DocBrowser

/-- Why an operation has no result. -/
inductive Failure where
  | report (report : Report)
  /-- A text or a number cannot be converted. -/
  | conversion (message : String)
  /-- A signaling NaN was compared. -/
  | signaling
  /-- A number is outside the range of what has to hold it. -/
  | outOfRange
  /-- A file does not hold UTF-8 text. -/
  | encoding
  /-- A file is not there. -/
  | missingFile
  deriving Inhabited

namespace Failure

/-- The report inside a failure. -/
def report? : Failure → Option Report
  | .report r => some r
  | _ => none

/-- A failure in words, where it has any. -/
def text? : Failure → Option String
  | .report r => some r.text
  | .conversion message => some message
  | _ => none

end Failure

/-- A comparison with a signaling NaN as a failure. -/
def Signaling.failure : Signaling → Failure
  | .compared => .signaling

/-- A refusal as a failure. -/
def ExtendedJson.Refusal.failure (refusal : Refusal) : Failure := .report refusal.report

/-- A fault of query text as a failure: a report wherever a piece of text can be shown. -/
def Query.Fault.failure (fault : Fault) : Failure :=
  match fault.fragment? with
  | some fragment => .report (.compile fault.message fragment)
  | none => .conversion fault.message

/-- An answer whose failure has been put into the general form. -/
def orFailure {ε α : Type} (failure : ε → Failure) :
    Except ε α → Except Failure α
  | .ok value => .ok value
  | .error e => .error (failure e)

end DocBrowser
