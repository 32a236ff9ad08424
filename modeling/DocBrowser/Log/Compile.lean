import DocBrowser.Log.Basic
import DocBrowser.Query.Options
/-!
# What the log says about query text

Text that does not compile leaves an entry that shows it, whatever becomes of the failure.
-/

namespace DocBrowser.Log

/-- An entry of the compiler. -/
private def compilerEntry (message : String) : Entry := ⟨.compiler, .debug, message⟩

/-- The entries for text that has been expanded. -/
def ofResolving (zone : Zone) (text : String) (expanded : List Char) : List Entry :=
  match Json.parse expanded with
  | .error (.syntaxAt fault position) =>
    let message := (Json.Fault.syntaxAt fault position).message expanded
    [compilerEntry ("Invalid query JSON " ++ Text.quote (String.ofList expanded) ++ ": " ++ message)]
  | .error _ => []
  | .ok (.obj fields) =>
    match ExtendedJson.decode zone (.obj fields) with
    | .error (.wrapper cause _) =>
      [compilerEntry ("Invalid extended JSON in " ++ Text.quote text ++ ": " ++ cause.message)]
    | .error _ => []
    | .ok (.document _) => []
    | .ok value =>
      [compilerEntry ("Query " ++ Text.quote text ++ " compiled to a bare " ++ value.kindName)]
  | .ok _ => []

/-- The entries for compiling a text. -/
def ofCompiling (zone : Zone) (text : String) : List Entry :=
  if Query.isBlank text.toList then []
  else
    match Shorthand.expand zone text.toList with
    | .error (.piece cause fragment) =>
      let report := Report.compile cause.message (String.ofList fragment)
      [compilerEntry ("Shorthand expansion failed for " ++ Text.quote text ++ ": " ++ report.text)]
    | .error (.longInteger _) => []
    | .ok expanded => ofResolving zone text expanded

/-- The entries for compiling text that may be missing. -/
def ofCompiling? (zone : Zone) (text : Option String) : List Entry :=
  match text with
  | none => []
  | some text => ofCompiling zone text

/-- Entries up to the first text that does not compile. -/
def ofCompilingAll (zone : Zone) : List (Option String) → List Entry
  | [] => []
  | text :: rest =>
    match Query.compile? zone text with
    | .ok _ => ofCompiling? zone text ++ ofCompilingAll zone rest
    | .error _ => ofCompiling? zone text

/-- The entries for building a query. -/
def ofBuilding (zone : Zone) (filter sort projection : Option String) (skip limit : Int) :
    List Entry :=
  if skip < 0 || limit < 0 then [] else ofCompilingAll zone [filter, sort, projection]

end DocBrowser.Log
