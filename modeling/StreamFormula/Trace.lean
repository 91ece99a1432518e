import StreamFormula.Decimal.Shortest
import StreamFormula.Formula.Evaluate
import StreamFormula.Text.Quoted

/-!
# Traces

The records that a run leaves behind for whoever watches it. A run is made of activities, each of
which belongs to a stage; a record says that an activity begins or ends, or notes something within a
stage. The trace of a run is a function of the run's inputs, since nothing else can be seen of it.

An activity that fails ends with a record as well, with one exception: the evaluation of a formula
that does not compile begins and is not heard of again.
-/

namespace StreamFormula

/-- What a run is doing. -/
inductive Activity where
  | tokenize
  | parse
  | validate
  | evaluate
  deriving DecidableEq

namespace Activity

/-- The name of an activity. -/
def name : Activity → String
  | tokenize => "tokenize"
  | parse => "parse"
  | validate => "formula_has_error"
  | evaluate => "evaluate_formula"

/-- The stage that an activity belongs to. -/
def stage : Activity → String
  | tokenize => "LEX"
  | parse => "PARSE"
  | validate => "VALIDATE"
  | evaluate => "EVAL"

end Activity

/-- Something that happened in a run. -/
inductive TraceRecord where
  | enter (activity : Activity) (detail : String)
  | exit (activity : Activity) (detail : String)
  /-- A remark within the stage of an activity. -/
  | note (activity : Activity) (text : String)
  deriving DecidableEq

namespace TraceRecord

/-- The level of all records. -/
def level : String := "DEBUG"

/-- The stage of a record. -/
def stage : TraceRecord → String
  | enter activity _ | exit activity _ | note activity _ => activity.stage

/-- The wording of a record. -/
def message : TraceRecord → String
  | enter activity detail => "ENTER " ++ activity.name ++ " " ++ detail
  | exit activity detail => "EXIT " ++ activity.name ++ " " ++ detail
  | note _ text => text

end TraceRecord

/-! ### Values in records -/

/-- A kind of failure in a record. -/
def ErrorKind.traceName : ErrorKind → String
  | syntaxError => "Syntax"
  | valueError => "Value"
  | mathError => "Math"

/-- An optional value in a record. -/
def traceOption : Option String → String
  | none => "None"
  | some text => "Some(" ++ text ++ ")"

/-- A span in a record. -/
def Span.trace (s : Span) : String :=
  "ErrorData \x7b start_index: " ++ toString s.start ++ ", end_index: " ++ toString s.stop ++
    ", value: " ++ traceOption (s.text.map Text.quote) ++ " \x7d"

/-- A diagnostic in a record. -/
def Diagnostic.trace (d : Diagnostic) : String :=
  d.kind.traceName ++ " \x7b message: " ++ Text.quote d.message ++ ", data: " ++
    traceOption (d.span.map Span.trace) ++ " \x7d"

/-- A verdict in a record. -/
def Verdict.trace : Verdict → String
  | valid => "Valid"
  | message text => "Message(" ++ Text.quote text ++ ")"
  | error d => "Error(" ++ d.trace ++ ")"

/-- A selection of streams in a record. -/
def traceInputs (inputs : List Stream) : String :=
  "[" ++ ", ".intercalate (inputs.map Stream.name) ++ "]"

/-! ### Runs -/

namespace Trace

/-- The records of scanning a formula. -/
def scan (formula : String) : List TraceRecord :=
  [.enter .tokenize ("len=" ++ toString formula.utf8ByteSize),
    .exit .tokenize <|
      match Token.scan formula with
      | .ok tokens => "tokens=" ++ toString tokens.length
      | .error fault => "error=" ++ fault.failure.message]

/-- The records of reading tokens. -/
def read (tokens : List Token) : List TraceRecord :=
  [.enter .parse ("tokens=" ++ toString tokens.length),
    .exit .parse <|
      match Tree.read tokens with
      | .ok (some t) => "tree=" ++ t.text
      | .ok none => "empty"
      | .error fault => "error=" ++ fault.message]

/-- The records of scanning a formula and reading its tokens, if there are any. -/
def scanAndRead (formula : String) : List TraceRecord :=
  scan formula ++
    match Token.scan formula with
    | .ok tokens => read tokens
    | .error _ => []

/-- The records of compiling a formula; a refused token is noted. -/
def compile (s : Settings) (formula : String) : List TraceRecord :=
  scan formula ++
    match Token.scan formula with
    | .error _ => []
    | .ok tokens =>
      match s.vocabulary.firstRefused? tokens with
      | some refused =>
        [.note .validate ("rejected token " ++ refused.token.text ++ " at " ++
          toString refused.token.start ++ ": " ++ refused.reason.message)]
      | none => read tokens

/-- The records of finding the verdict on a formula. -/
def verdict (s : Settings) (formula : String) : List TraceRecord :=
  .enter .validate
      ("formula=" ++ Text.quote formula ++ " inputs=" ++ traceInputs s.inputs) ::
    compile s formula ++ [.exit .validate ("verdict=" ++ (Formula.verdict s formula).trace)]

/-- The records of evaluating a formula. -/
def evaluate (s : Settings) (formula : String) (b : Bindings) (fs : Functions) :
    List TraceRecord :=
  .enter .evaluate ("formula=" ++ Text.quote formula) :: compile s formula ++
    match (Formula.evaluate s formula b fs).result with
    | .ok none => [.exit .evaluate "empty"]
    | .ok (some x) => [.exit .evaluate ("result=" ++ Decimal.render x)]
    | .error (.evaluate fault) => [.exit .evaluate ("error=" ++ fault.diagnostic.message)]
    | .error (.compile _) => []

end Trace

end StreamFormula
