import FrameLisp.Fault
import FrameLisp.Node
import FrameLisp.Token.Lexer

/-!
# Building trees from tokens

The builder reads the tokens once and keeps a stack of the brackets that are open.  An opening
bracket starts a `Level`, and its closing bracket turns that level into a form of the level around
it.  A quote mark and a name after `^` make no node; they wait at their level for the next node and
become its properties, and are dropped if the level ends before one comes.

A sequence of tokens is refused for one of four reasons, `Misread`, each at a token to blame.
-/

namespace FrameLisp

/-- Why tokens make no trees, with the location of the token to blame. -/
inductive Misread where
  /-- A bracket opens while as many as allowed are open. -/
  | tooDeep (limit : Nat) (location : Location)
  /-- A bracket closes while none is open. -/
  | unexpectedClosing (location : Location)
  /-- The outermost bracket that is still open at the end. -/
  | neverClosed (location : Location)
  /-- The marker `^` stands alone. -/
  | unnamedProperty (location : Location)
deriving DecidableEq, Inhabited

namespace Misread

/-- Where the token to blame is. -/
def location : Misread → Location
  | tooDeep _ location => location
  | unexpectedClosing location => location
  | neverClosed location => location
  | unnamedProperty location => location

/-- The reason in words. -/
def message : Misread → String
  | tooDeep limit _ => "brackets nested deeper than " ++ Decimal.ofNat limit ++ " levels"
  | unexpectedClosing _ => "unbalanced brackets: unexpected closing bracket"
  | neverClosed _ => "unbalanced brackets: this bracket is never closed"
  | unnamedProperty _ => "property marker `^` must be followed by a name"

/-- Every misread source is a program that is not well formed. -/
def kind (_ : Misread) : Fault.Kind := .malformed

/-- The written form of a misread. -/
def text (misread : Misread) : String :=
  misread.kind.name ++ ": " ++ misread.message ++ " at " ++ misread.location.text

end Misread

/-- What has been read between a bracket and here. -/
structure Level where
  /-- The location of the opening bracket. -/
  location : Location
  /-- Whether the bracket opens an inline function. -/
  inline : Bool
  /-- The properties of the form to be. -/
  properties : List String
  /-- The nodes read so far, the newest first. -/
  nodes : List Node := []
  /-- The properties that wait for the next node, the newest first. -/
  pending : List String := []

/-- The form of a level whose bracket has been closed. -/
def Level.close (level : Level) : Node :=
  .form level.nodes.reverse level.properties level.inline (some level.location)

/-- The state of the builder between two tokens. -/
structure Builder where
  /-- The nodes outside of all brackets, the newest first. -/
  nodes : List Node := []
  /-- The properties that wait for the next node outside of all brackets, the newest first. -/
  pending : List String := []
  /-- The open brackets, the innermost first. -/
  levels : List Level := []

namespace Builder

/-- The properties that wait at the innermost level, the oldest first. -/
def waiting (builder : Builder) : List String :=
  match builder.levels with
  | [] => builder.pending.reverse
  | level :: _ => level.pending.reverse

/-- Lets a property wait at the innermost level. -/
def await (builder : Builder) (property : String) : Builder :=
  match builder.levels with
  | [] => { builder with pending := property :: builder.pending }
  | level :: levels =>
    { builder with levels := { level with pending := property :: level.pending } :: levels }

/-- Drops what waits at the innermost level. -/
def settle (builder : Builder) : Builder :=
  match builder.levels with
  | [] => { builder with pending := [] }
  | level :: levels => { builder with levels := { level with pending := [] } :: levels }

/-- Adds a node to the innermost level. -/
def add (builder : Builder) (node : Node) : Builder :=
  match builder.levels with
  | [] => { builder with nodes := node :: builder.nodes }
  | level :: levels =>
    { builder with levels := { level with nodes := node :: level.nodes } :: levels }

/-- Opens a level that takes over what waits. -/
def enter (builder : Builder) (token : Token) : Builder :=
  let level : Level := {
    location := token.location, inline := token.opensInline, properties := builder.waiting }
  { builder.settle with levels := level :: builder.settle.levels }

/-- Reads one token, with at most `limit` brackets open. -/
def step (limit : Nat) (builder : Builder) (token : Token) : Except Misread Builder :=
  match token.kind with
  | .opening =>
    if limit ≤ builder.levels.length then .error (.tooDeep limit token.location)
    else .ok (builder.enter token)
  | .closing =>
    match builder.levels with
    | [] => .error (.unexpectedClosing token.location)
    | level :: levels => .ok ({ builder with levels }.add level.close)
  | .quote => .ok (builder.await quotedProperty)
  | _ =>
    match token.property? with
    | some "" => .error (.unnamedProperty token.location)
    | some property => .ok (builder.await property)
    | none => .ok (builder.settle.add (.literal token builder.waiting))

/-- The trees once all tokens are read. -/
def finish (builder : Builder) : Except Misread (List Node) :=
  match builder.levels.getLast? with
  | some outermost => .error (.neverClosed outermost.location)
  | none => .ok builder.nodes.reverse

end Builder

namespace Node

/-- How many brackets may be open unless said otherwise. -/
def defaultNesting : Nat := 512

/-- The trees of a sequence of tokens, with at most `limit` brackets open at a time. -/
def build (limit : Nat) (tokens : List Token) : Except Misread (List Node) := do
  let builder ← tokens.foldlM (Builder.step limit) {}
  builder.finish

/-- The trees of a source. -/
def parse (source file : String) : Except Misread (List Node) :=
  build defaultNesting (Token.lex source file)

end Node

/-! ### The extent of a bracket -/

/-- The index of the closing bracket that brings `depth` open brackets down to none. -/
def Token.closingFrom (depth : Nat) : List Token → Option Nat
  | [] => none
  | token :: tokens =>
    match token.kind with
    | .opening => (closingFrom (depth + 1) tokens).map (· + 1)
    | .closing => if depth ≤ 1 then some 0 else (closingFrom (depth - 1) tokens).map (· + 1)
    | _ => (closingFrom depth tokens).map (· + 1)

/-- The index of the bracket that closes the one a sequence of tokens starts with. -/
def Token.boundary : List Token → Option Nat
  | [] => none
  | token :: tokens =>
    if token.kind = .opening then (closingFrom 1 tokens).map (· + 1) else none

end FrameLisp
