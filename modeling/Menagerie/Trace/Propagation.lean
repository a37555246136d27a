import Menagerie.Metadata
import Menagerie.Trace.Context

/-!
# Traces across calls

A span gets its identifiers when it starts. Until then it may be given a parent, whose trace it then
belongs to; afterwards a parent comes too late.

A server takes the caller's context out of a request's metadata, and a client puts the context of
its present span into the metadata of a request.
-/

namespace Menagerie.Trace

-- ---------------------------------------------------------------------------
-- Spans
-- ---------------------------------------------------------------------------

inductive Span where
  | waiting (parent : Option Context)
  | started (context : Context)
  deriving DecidableEq, Repr

/-- Identifiers for a span that starts, the first of them for a trace that begins with it. -/
structure Identifiers where
  trace : TraceId
  span : SpanId
  deriving DecidableEq, Repr

structure Subscriber where
  /-- A span starts when it is entered, and not only when its context is asked for. -/
  startsOnEntry : Bool
  deriving DecidableEq, Repr

def Subscriber.installed : Subscriber := ⟨true⟩

namespace Span

/-- The context of a span that has no other; without a parent it is sampled. -/
def context (ids : Identifiers) : Span → Context
  | .started context => context
  | .waiting none => { trace := ids.trace, span := ids.span, sampled := true }
  | .waiting (some parent) => { parent with span := ids.span }

def enter (subscriber : Subscriber) (ids : Identifiers) (s : Span) : Span :=
  if subscriber.startsOnEntry then .started (s.context ids) else s

def adopt (parent : Option Context) : Span → Span
  | .waiting _ => .waiting parent
  | .started context => .started context

end Span

-- ---------------------------------------------------------------------------
-- Headers
-- ---------------------------------------------------------------------------

def parentHeader : String := "traceparent"

def vendorHeader : String := "tracestate"

def Context.ofMetadata? (m : Metadata) : Option Context :=
  let text (key : String) : List Char := ((m.text? key).getD "").toList
  Context.read? (text parentHeader) (text vendorHeader)

structure Arrived where
  metadata : Metadata
  parent : Option Context
  deriving DecidableEq, Repr

def arrive (m : Metadata) : Arrived := ⟨m, Context.ofMetadata? m⟩

def injectBy (rules : Metadata.Rules) (current : Option Context) (m : Metadata) : Metadata :=
  match current with
  | some c =>
    if c.isValid then
      (m.setBy rules parentHeader c.parentText).setBy rules vendorHeader
        (String.ofList c.vendors.text)
    else m
  | none => m

def inject (current : Option Context) (m : Metadata) : Metadata := injectBy .http current m

/-- The context of the span in which a request is handled: it is entered first, and then asked to go
on with the caller's trace. -/
def handling (subscriber : Subscriber) (ids : Identifiers) (request : Arrived) : Context :=
  (((Span.waiting none).enter subscriber ids).adopt request.parent).context ids

end Menagerie.Trace
