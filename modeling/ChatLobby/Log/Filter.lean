import ChatLobby.Log.Record
import ChatLobby.Settings.Basic
import ChatLobby.Text.Blank

/-!
# Log filters

A filter holds directives from the most to the least specific, and the first that is about an
event decides.  Which filter is in force comes from the environment if it names one, and else from
the settings.
-/

namespace ChatLobby

/-- Which records are logged: directives, the most specific first. -/
structure LogFilter where
  directives : List LogDirective := []
  deriving DecidableEq, Repr

namespace LogDirective

/-- The names that order and tell apart directives. -/
def fieldNames (d : LogDirective) : List String := d.fields.map (·.1)

/-- How the specificity of two directives compares; equal ones are about the same events. -/
def compareSpecificity (d e : LogDirective) : Ordering :=
  let size (d : LogDirective) : Nat := (d.target.map (·.utf8ByteSize + 1)).getD 0
  (compare (size d) (size e)).then <|
    (compare d.fields.length e.fields.length).then <|
      (compare (d.target.getD "") (e.target.getD "")).then <|
        if d.fieldNames = e.fieldNames then .eq
        else if d.fieldNames < e.fieldNames then .lt else .gt

/-- The only field that the records of this program have. -/
def recordField : String := "message"

/-- Whether a static directive is about records with the given target. -/
def concerns (d : LogDirective) (target : String) : Bool :=
  d.target.all (·.toList.isPrefixOf target.toList) && d.fieldNames.all (· == recordField)

/-- Insert a directive where it belongs, instead of one that is about the same events. -/
def insertInto (d : LogDirective) : List LogDirective → List LogDirective
  | [] => [d]
  | e :: rest =>
    match d.compareSpecificity e with
    | .gt => d :: e :: rest
    | .eq => d :: rest
    | .lt => e :: insertInto d rest

end LogDirective

namespace LogFilter

/-- What is logged if there are no directives. -/
def fallback : LogDirective := { level := .error }

/-- The filter with the given directives.  Those about spans or values let nothing else pass that
this program logs; they only count as directives. -/
def ofDirectives (ds : List LogDirective) : LogFilter where
  directives :=
    if ds.isEmpty then [fallback]
    else (ds.filter LogDirective.isStatic).foldl (fun sorted d => d.insertInto sorted) []

/-- The pieces of a filter text that should be directives. -/
def directiveTexts (s : String) : List (List Char) :=
  (Text.pieces ',' s.toList).filter (!·.isEmpty)

/-- Read a filter; `none` if one directive is invalid. -/
def ofText? (s : String) : Option LogFilter :=
  ((directiveTexts s).mapM fun cs => (LogDirective.ofChars cs).toOption).map ofDirectives

/-- Read a filter without its invalid directives. -/
def ofValidText (s : String) : LogFilter :=
  ofDirectives ((directiveTexts s).filterMap fun cs => (LogDirective.ofChars cs).toOption)

/-- The invalid directives of a filter text, each with the reason. -/
def invalidIn (s : String) : List (String × DirectiveError) :=
  (directiveTexts s).filterMap fun cs =>
    match LogDirective.ofChars cs with
    | .ok _ => none
    | .error cause => some (String.ofList cs, cause)

/-- Whether the filter lets a record pass. -/
def lets (f : LogFilter) (r : LogRecord) : Bool :=
  match f.directives.find? (·.concerns r.target) with
  | some d => r.level.rank ≤ d.level.rank
  | none => false

/-- The text of the filter. -/
def text (f : LogFilter) : String := ",".intercalate (f.directives.map LogDirective.text)

/-- The filter text of a program that was not told another one. -/
def defaultText : String := "info,nebula_net=info"

/-- The filter in force: that of the environment, if it is valid altogether, and else the valid
part of the given text. -/
def choose (environment : Option String) (configured : String) : LogFilter :=
  match environment.bind ofText? with
  | some f => f
  | none => ofValidText configured

/-- The directives that `choose` complains about, each with the reason. -/
def complaints (environment : Option String) (configured : String) :
    List (String × DirectiveError) :=
  if (environment.bind ofText?).isSome then [] else invalidIn configured

/-- The name of the log file. -/
def fileName : String := "nebula-server.log"

end LogFilter

/-- The filter text that settings ask for; a blank one is as good as none. -/
def Settings.filterText (s : Settings) : String :=
  if Text.isBlankText s.debug.logLevel then LogFilter.defaultText else s.debug.logLevel

end ChatLobby
