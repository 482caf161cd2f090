import Dialogue.Decimal.Digits
import Dialogue.Session

/-!
# Reports

What is shown of an answer: its text, a short line where there is none, or a
trace of the whole turn.  Reports can be coloured for a terminal.
-/

namespace Dialogue.Report

/-! ## Colours -/

/-- How a part of a report is coloured. -/
inductive Ink where
  | dim
  | bold
  | green
  | yellow
  | blue
  | cyan
  | gray
  deriving DecidableEq, Repr

/-- The number of a colour in an escape sequence. -/
def Ink.number : Ink → String
  | dim => "2"
  | bold => "1"
  | green => "32"
  | yellow => "33"
  | blue => "34"
  | cyan => "36"
  | gray => "90"

/-- An escape sequence of a terminal. -/
def escapeSequence (number : String) : String := "\x1b[" ++ number ++ "m"

/-- A text in a colour, if there are colours. -/
def paint (isColored : Bool) (ink : Ink) (text : String) : String :=
  if isColored then escapeSequence ink.number ++ text ++ escapeSequence "0" else text

/-! ## Outcomes -/

/-- How an outcome is named. -/
def outcomeLabel : Outcome → String
  | .matched => "matched"
  | .empty => "template produced no text"
  | .noMatch => "no matching category"
  | .redirectionLimit => "redirect depth limit reached"
  | .loadTimeout => "rule sources still loading"

/-- The short line for a question without an answer. -/
def noAnswer (isColored : Bool) (answer : Answer) : String :=
  paint isColored .dim ("(no answer: " ++ outcomeLabel answer.outcome ++ ")")

/-! ## Durations -/

/-- A number of units with a fraction of `width` digits. -/
def fractional (whole rest width : Nat) : String := toString whole ++ Decimal.fraction width rest

/-- A duration, in the greatest unit of which there is at least one. -/
def duration (nanos : Nat) : String :=
  if 1000000000 ≤ nanos then fractional (nanos / 1000000000) (nanos % 1000000000) 9 ++ "s"
  else if 1000000 ≤ nanos then fractional (nanos / 1000000) (nanos % 1000000) 6 ++ "ms"
  else if 1000 ≤ nanos then fractional (nanos / 1000) (nanos % 1000) 3 ++ "µs"
  else toString nanos ++ "ns"

/-! ## Turns -/

/-- The heading of a section. -/
def heading (isColored : Bool) (title : String) : String :=
  paint isColored .gray ("━━━ " ++ title ++ " ━━━")

/-- The lines about the category that answered. -/
def matchedLines (isColored : Bool) (m : MatchSummary) : List String :=
  let first :=
    "  " ++ paint isColored .gray ("[" ++ toString m.index ++ "]") ++ " " ++
      paint isColored .bold (paint isColored .green m.pattern) ++ " " ++
      paint isColored .dim "│" ++ " " ++ paint isColored .yellow ("source " ++ toString m.source)
  let that := m.that.map fun that =>
    "      " ++ paint isColored .dim "that:" ++ " " ++ paint isColored .blue that
  let stars := m.captures.zipIdx 1 |>.map fun (capture, i) =>
    "      " ++ paint isColored .dim ("star " ++ toString i ++ ":") ++ " " ++
      paint isColored .cyan capture
  first :: that.toList ++ stars

/-- The lines about a question for which no category matches. -/
def unmatchedLines (isColored : Bool) (outcome : Outcome) (categories : Nat) : List String :=
  let reasons := [
    "",
    paint isColored .yellow "Possible reasons:",
    "  • No pattern covers the input (matching is anchored at both ends)",
    "  • A pattern matched but its <that> did not match the previous answer",
    "  • A wildcard met characters outside letters, digits, '-' and apostrophes",
    "",
    paint isColored .dim ("  " ++ toString categories ++ " categories loaded")]
  paint isColored .dim "  No category matched" ::
    (if outcome = .noMatch then reasons else [])

/-- The line about the work that was done. -/
def scanLine (isColored : Bool) (m : Metrics) : String :=
  let count (ink : Ink) (n : Nat) : String := paint isColored ink (toString n)
  "  Tried: " ++ count .blue m.tried ++ "  │  That rejected: " ++ count .yellow m.thatRejections ++
    "  │  Redirects: " ++ count .blue m.redirects ++ "  │  Depth: " ++ count .blue m.maxDepth ++
    (if m.limitHit then paint isColored .yellow "  (limit hit)" else "")

/-- The trace of a turn that took a time, with a bot of so many categories. -/
def turnLines (isColored : Bool) (answer : Answer) (categories nanos : Nat) : List String :=
  let result :=
    match answer.answer with
    | some text => paint isColored .bold (paint isColored .green text)
    | none => paint isColored .dim (outcomeLabel answer.outcome)
  let found :=
    match answer.winner with
    | some winner => matchedLines isColored winner
    | none => unmatchedLines isColored answer.outcome categories
  ["", paint isColored .bold (paint isColored .cyan ("⚙  Input: \"" ++ answer.input ++ "\"")),
    "", heading isColored "Match"] ++ found ++
  ["", heading isColored "Answer", "  " ++ result,
    "", heading isColored "Scan", scanLine isColored answer.metrics,
    "", heading isColored "Timing", "  Total: " ++ paint isColored .green (duration nanos), ""]

/-- The line about the rules of a bot. -/
def loadLine (isColored : Bool) (bot : Bot) : String :=
  heading isColored "Rules" ++ " " ++
    paint isColored .green (toString bot.knowledge.size ++ " categories") ++ " " ++
    paint isColored .dim ("│ " ++ toString bot.gate.loaded ++ "/" ++ toString bot.gate.requested ++
      " sources loaded")

end Dialogue.Report
