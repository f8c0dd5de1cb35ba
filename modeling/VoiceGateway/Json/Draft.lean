import VoiceGateway.Json.Token

/-!
# Drafts of JSON values

The second stage of reading JSON: tokens are put together into a value. A text
may stop being JSON at any point, and what it held up to there still counts,
because of several faults in one text the leftmost is reported, and a value of
the wrong kind may come before the point where the text goes wrong. So the
result is a *draft*: the value as far as it goes, with the fault standing where
it was met.

The assembly is a machine over the tokens with a stack of the containers that
are still open; a fault closes them all.

> `Assembly.feed_done`: once the outermost value is complete, any further token
> counts as trailing and changes nothing else.
-/

namespace VoiceGateway.Json

/-- How the list of an object's members ends. -/
inductive Ending where
  | closed
  /-- After a member, where a comma or the closing brace should be. -/
  | cut (fault : Fault)
  /-- Where a name should be; `next` is what stands there, if anything does. -/
  | nameless (next : Option Token)
deriving DecidableEq, Repr

/-- A JSON value as far as the text gives it. -/
inductive Draft where
  | null
  | bool (b : Bool)
  | number (n : Numeral)
  /-- A string, without content if a surrogate in it has no partner. -/
  | text (content : Option String)
  /-- Items, and the fault met after the last of them, if any. -/
  | array (items : List Draft) (cut : Option Fault)
  | object (members : List (Option String × Draft)) (ending : Ending)
  /-- No value begins here. -/
  | absent (fault : Fault)
  /-- A string that breaks off, for a reader that keeps it and one that does not. -/
  | brokenText (kept skipped : Fault)
  /-- A number or word that breaks off, likewise. -/
  | broken (kept skipped : Fault)

/-- A container that waits for the value being read. -/
inductive Frame where
  /-- An array and its items so far, last one first. -/
  | item (done : List Draft)
  /-- An object, its members so far, last one first, and the name of the next. -/
  | member (done : List (Option String × Draft)) (name : Option String)

/-- What may come next, and what is open around it. -/
inductive Assembly where
  | value (stack : List Frame)
  | firstItem (stack : List Frame)
  | afterItem (done : List Draft) (stack : List Frame)
  | firstName (stack : List Frame)
  | nextName (done : List (Option String × Draft)) (stack : List Frame)
  | colon (done : List (Option String × Draft)) (name : Option String) (stack : List Frame)
  | afterMember (done : List (Option String × Draft)) (stack : List Frame)
  | done (value : Draft) (trailing : Bool)

namespace Assembly

/-- Puts a complete value where it belongs. -/
def place (stack : List Frame) (v : Draft) : Assembly :=
  match stack with
  | [] => .done v false
  | .item ds :: s => .afterItem (v :: ds) s
  | .member ds name :: s => .afterMember ((name, v) :: ds) s

/-- Closes all open containers around a value that holds a fault. -/
def enclose : List Frame → Draft → Draft
  | [], v => v
  | .item ds :: s, v => enclose s (.array (v :: ds).reverse none)
  | .member ds name :: s, v => enclose s (.object ((name, v) :: ds).reverse .closed)

/-- Ends the assembly at a fault. -/
def abort (stack : List Frame) (v : Draft) : Assembly := .done (enclose stack v) true

/-- Begins a value. -/
def enter (stack : List Frame) : Token → Assembly
  | .null => place stack .null
  | .bool b => place stack (.bool b)
  | .number n => place stack (.number n)
  | .text s => place stack (.text s)
  | .openArray => .firstItem stack
  | .openObject => .firstName stack
  | .brokenText k s => abort stack (.brokenText k s)
  | .broken k s => abort stack (.broken k s)
  | .closeArray | .closeObject | .comma | .colon | .stray => abort stack (.absent .malformed)

/-- Takes in one token. -/
def feed : Assembly → Token → Assembly
  | .value stack, t => enter stack t
  | .firstItem stack, .closeArray => place stack (.array [] none)
  | .firstItem stack, t => enter (.item [] :: stack) t
  | .afterItem ds stack, .comma => .value (.item ds :: stack)
  | .afterItem ds stack, .closeArray => place stack (.array ds.reverse none)
  | .afterItem ds stack, _ => abort stack (.array ds.reverse (some .malformed))
  | .firstName stack, .closeObject => place stack (.object [] .closed)
  | .firstName stack, .text name => .colon [] name stack
  | .firstName stack, t => abort stack (.object [] (.nameless (some t)))
  | .nextName ds stack, .text name => .colon ds name stack
  | .nextName ds stack, t => abort stack (.object ds.reverse (.nameless (some t)))
  | .colon ds name stack, .colon => .value (.member ds name :: stack)
  -- The name stands without a value.
  | .colon ds name stack, _ =>
    abort stack (.object ((name, .absent .malformed) :: ds).reverse .closed)
  | .afterMember ds stack, .comma => .nextName ds stack
  | .afterMember ds stack, .closeObject => place stack (.object ds.reverse .closed)
  | .afterMember ds stack, _ => abort stack (.object ds.reverse (.cut .malformed))
  | .done v _, _ => .done v true

/-- The draft of a text that ends here, and whether anything followed the value. -/
def finish : Assembly → Draft × Bool
  | .value stack => (enclose stack (.absent .truncated), false)
  | .firstItem stack => (enclose stack (.array [] (some .truncated)), false)
  | .afterItem ds stack => (enclose stack (.array ds.reverse (some .truncated)), false)
  | .firstName stack => (enclose stack (.object [] (.nameless none)), false)
  | .nextName ds stack => (enclose stack (.object ds.reverse (.nameless none)), false)
  | .colon ds name stack =>
    (enclose stack (.object ((name, .absent .truncated) :: ds).reverse .closed), false)
  | .afterMember ds stack => (enclose stack (.object ds.reverse (.cut .truncated)), false)
  | .done v trailing => (v, trailing)

theorem feed_done (v : Draft) (trailing : Bool) (t : Token) :
    feed (.done v trailing) t = .done v true := by
  cases t <;> rfl

end Assembly

/-- The draft of a text, and whether anything follows its value. -/
def draft (cs : List Char) : Draft × Bool :=
  ((tokens cs).foldl Assembly.feed (.value [])).finish

end VoiceGateway.Json
