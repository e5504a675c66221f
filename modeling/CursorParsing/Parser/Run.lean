import CursorParsing.Parser
import CursorParsing.Parser.Event

/-!
# Running parsers

A run ends in an answer or an error, and has a history. Runs are chained by `andThen`, and recovery is
`orElse`: it absorbs mismatches and nothing else.
-/

namespace CursorParsing

structure Run (α : Type) where
  ending : Outcome α
  history : List Event

namespace Run

variable {α β : Type}

def done (answer : α) : Run α := ⟨.ok answer, []⟩

def raised (origin : Origin) (error : Error) (cursor : Cursor) : Run α :=
  ⟨.error error, [.raised origin error cursor]⟩

def andThen (run : Run α) (next : α → Run β) : Run β :=
  match run.ending with
  | .ok answer =>
    let following := next answer
    ⟨following.ending, run.history ++ following.history⟩
  | .error error => ⟨.error error, run.history⟩

/-- Go on in another way after a mismatch. -/
def orElse (run : Run α) (alternative : Unit → Run α) : Run α :=
  match run.ending with
  | .error (.mismatch _) =>
    let second := alternative ()
    ⟨second.ending, run.history ++ second.history⟩
  | _ => run

def after (event : Event) (run : Run α) : Run α := ⟨run.ending, event :: run.history⟩

def map (transform : α → β) (run : Run α) : Run β := ⟨run.ending.map transform, run.history⟩

end Run

/-- A value, and the cursor after the symbols it was read from. -/
structure Reply where
  value : Value
  cursor : Cursor

/-- The values of several matches, and the cursor after the last. -/
structure Collection where
  values : List Value
  cursor : Cursor

namespace Collection

def cons (value : Value) (rest : Collection) : Collection := ⟨value :: rest.values, rest.cursor⟩

def toReply (collection : Collection) : Reply := ⟨.list collection.values, collection.cursor⟩

end Collection

/-! ## Reading the input -/

def readSymbol (accepts : Value → Outcome Bool) (cursor : Cursor) : Run Reply :=
  let refuse := .raised .recogniser (cursor.refusal .predicateFailed) cursor
  if cursor.isAtEnd then refuse
  else
    match cursor.current with
    | .error fault => .raised .recogniser (.fault fault) cursor
    | .ok symbol =>
      match accepts symbol with
      | .error error => .raised .supplied error cursor
      | .ok false => refuse
      | .ok true =>
        match cursor.advance 1 with
        | .error fault => .raised .recogniser (.fault fault) cursor
        | .ok rest => .done ⟨symbol, rest⟩

def readLiteral (expected : Value) (cursor : Cursor) : Run Reply :=
  match Source.ofValue? expected with
  | none => .raised .recogniser .typeMismatch cursor
  | some literal =>
    if cursor.startsWith literal then
      match cursor.advance literal.size with
      | .error fault => .raised .recogniser (.fault fault) cursor
      | .ok rest => .done ⟨expected, rest⟩
    else .raised .recogniser (cursor.refusal (.expectedPrefix expected)) cursor

def readEnd (cursor : Cursor) : Run Reply :=
  if cursor.isAtEnd then .done ⟨.absent, cursor⟩
  else .raised .recogniser (cursor.refusal .expectedEndOfInput) cursor

/-! ## Repetition -/

/-- Collect matches until the first mismatch. A match that reads nothing is collected and ends the
collection. The bound is on the number of attempts. -/
def collect (attempt : Cursor → Run Reply) : (bound : Nat) → Cursor → Run Collection
  | 0, cursor => .done ⟨[], cursor⟩
  | bound + 1, cursor =>
    let run := attempt cursor
    match run.ending with
    | .error (.mismatch _) => ⟨.ok ⟨[], cursor⟩, run.history⟩
    | .error (.fault fault) => ⟨.error (.fault fault), run.history⟩
    | .ok reply =>
      if reply.cursor.position = cursor.position then ⟨.ok ⟨[reply.value], reply.cursor⟩, run.history⟩
      else
        let later := collect attempt bound reply.cursor
        ⟨later.ending.map (.cons reply.value), run.history ++ later.history⟩

/-- Every match but the last reads a symbol, so one more attempt than there are symbols is enough. -/
def collectAll (attempt : Cursor → Run Reply) (cursor : Cursor) : Run Collection :=
  collect attempt (cursor.length + 1) cursor

/-- Like `collectAll`, but the first attempt has to match. -/
def collectSome (attempt : Cursor → Run Reply) (cursor : Cursor) : Run Collection :=
  (attempt cursor).andThen fun reply =>
    if reply.cursor.position = cursor.position then .done ⟨[reply.value], reply.cursor⟩
    else (collectAll attempt reply.cursor).map (.cons reply.value)

/-- Collect matches until there are so many or until the first mismatch. -/
def collectUpTo (attempt : Cursor → Run Reply) : (rounds : Nat) → Cursor → Run Collection
  | 0, cursor => .done ⟨[], cursor⟩
  | rounds + 1, cursor =>
    let run := attempt cursor
    match run.ending with
    | .error (.mismatch _) => ⟨.ok ⟨[], cursor⟩, run.history⟩
    | .error (.fault fault) => ⟨.error (.fault fault), run.history⟩
    | .ok reply =>
      let later := collectUpTo attempt rounds reply.cursor
      ⟨later.ending.map (.cons reply.value), run.history ++ later.history⟩

/-- Collect matches until the first mismatch. More matches than there are symbols mean that one of
them read nothing, and it would be repeated forever. -/
def collectUntilMismatch (attempt : Cursor → Run Reply) (cursor : Cursor) : Run Collection :=
  (collectUpTo attempt (cursor.length + 1) cursor).andThen fun collection =>
    if collection.values.length > cursor.length then
      .raised .repetition (.fault .endlessRecursion) collection.cursor
    else .done collection

/-- Collect exactly as many matches as are counted. A match that reads nothing is repeated like any
other. -/
def collectExactly (attempt : Cursor → Run Reply) (count : Count) (cursor : Cursor) :
    Run Collection :=
  let collected :=
    match count.rounds with
    | some rounds => collectUpTo attempt rounds cursor
    | none => collectUntilMismatch attempt cursor
  collected.andThen fun collection =>
    if count.isMetBy collection.values.length then .done collection
    else
      .raised .repetition
        (collection.cursor.refusal
          (.repetitionShort count.requested collection.values.length collection.values))
        collection.cursor

/-! ## Tracing -/

/-- What is told when an attempt has ended. An error that is no mismatch is told of by nobody. -/
def closingsOf (tag : String) (cursor : Cursor) : Outcome Reply → List Event
  | .ok reply => [.matched tag reply.value (reply.cursor.position - cursor.position : Int)]
  | .error (.mismatch cause) => [.failed tag cause]
  | .error (.fault _) => []

/-- An attempt at a cursor, with what is told before and after it. -/
def Run.toldAs (tag : String) (ahead : List Char) (cursor : Cursor) (run : Run Reply) : Run Reply :=
  ⟨run.ending, .trying tag ahead :: run.history ++ closingsOf tag cursor run.ending⟩

/-- Tell of an attempt before and after it. If the input cannot be shown, no attempt is made. -/
def traceAttempt (tag : String) (attempt : Cursor → Run Reply) (cursor : Cursor) : Run Reply :=
  match cursor.snippet? with
  | .ok ahead => (attempt cursor).toldAs tag ahead cursor
  | .error fault => .raised .tracing (.fault fault) cursor

/-! ## Terms -/

/-- What a parser does at a cursor, where `resolve` says what a name does. -/
def Parser.step (resolve : String → Cursor → Run Reply) : Parser → Cursor → Run Reply
  | .pure value, cursor => (Run.done ⟨value, cursor⟩).after (.entered cursor)
  | .raise error, cursor => (Run.raised .supplied error cursor).after (.entered cursor)
  | .symbolThat accepts, cursor => (readSymbol accepts cursor).after (.entered cursor)
  | .literal expected, cursor => (readLiteral expected cursor).after (.entered cursor)
  | .endOfInput, cursor => (readEnd cursor).after (.entered cursor)
  | .flatMap first next, cursor =>
    (first.step resolve cursor).andThen fun reply => (next reply.value).step resolve reply.cursor
  | .orElse first second, cursor =>
    (first.step resolve cursor).orElse fun _ => second.step resolve cursor
  | .zeroOrMore inner, cursor =>
    (collectAll (fun start => inner.step resolve start) cursor).map Collection.toReply
  | .oneOrMore inner, cursor =>
    (collectSome (fun start => inner.step resolve start) cursor).map Collection.toReply
  | .repeated inner count, cursor =>
    ((collectExactly (fun start => inner.step resolve start) count cursor).map
      Collection.toReply).after (.entered cursor)
  | .named _ inner, cursor => inner.step resolve cursor
  | .traced tag inner, cursor => traceAttempt tag (fun start => inner.step resolve start) cursor
  | .reference name, cursor => (resolve name cursor).after (.entered cursor)

end CursorParsing
