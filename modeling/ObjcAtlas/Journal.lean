import ObjcAtlas.Failure

/-! What a run reports while it works: events with a level and a line of text. Elapsed times are no part of an
event; whoever prints the line supplies them. -/
namespace ObjcAtlas

inductive Level where
  | debug
  | info
  | error
  deriving DecidableEq

def Level.label : Level → String
  | .debug => "DEBUG"
  | .info => "INFO"
  | .error => "ERROR"

inductive Event where
  | cacheLoaded (path : Path) (images : Nat)
  | librariesLoaded (count : Nat) (binary : String)
  | indexBuilt (classes protocols : Nat)
  | moduleSkipped (binary : String)
  | creating (path : Path)
  | operationStarted (name : String)
  | operationCompleted (name : String)
  | operationFailed (name : String) (failure : Failure)
  | moduleStarted (number : Nat) (name : String)
  | moduleCompleted (name : String) (headers : Int)
  | moduleFailed (name : String) (failure : Failure)
  | summary (modules headers : Nat)
  | callFailed (function : String) (failure : Failure)
  | rule
  | summaryTitle
  | moduleResult (module : String) (headers : Nat)
  | umbrellaResult (path : Path)
  | addressesResolved (found asked : Nat)
  | resultsWritten (path : Path)
  | outsideFunctions (address : Int)
  | commandFailed (failure : Failure)
  deriving DecidableEq

namespace Event

def level : Event → Level
  | .operationStarted _ | .operationCompleted _ | .moduleStarted _ _ => .debug
  | .operationFailed _ _ | .moduleFailed _ _ | .callFailed _ _ | .outsideFunctions _
  | .commandFailed _ => .error
  | _ => .info

/-- The failure that a line ends with. -/
def failure? : Event → Option Failure
  | .operationFailed _ f | .moduleFailed _ f | .callFailed _ f => some f
  | _ => none

/-- The line up to the elapsed time, or all of it if it tells no failure. -/
def headline (elapsed : String) : Event → String
  | .cacheLoaded path images =>
    "Shared cache loaded from " ++ path.toString ++ " (" ++ toString images ++ " images)"
  | .librariesLoaded count binary =>
    "Loaded " ++ toString count ++ " imported libraries of " ++ binary
  | .indexBuilt classes protocols =>
    "Foundation index: " ++ toString classes ++ " classes, " ++ toString protocols ++ " protocols"
  | .moduleSkipped binary => "Skipping " ++ binary ++ ": no ObjC metadata"
  | .creating path => "Creating " ++ path.toString
  | .operationStarted name => "Starting operation: " ++ name
  | .operationCompleted name => "Completed operation: " ++ name ++ " in " ++ elapsed
  | .operationFailed name _ => "Failed operation: " ++ name ++ " after " ++ elapsed
  | .moduleStarted number name =>
    "Processing module #" ++ toString number ++ ": " ++ name
  | .moduleCompleted name headers =>
    name ++ ": " ++ Numeral.decimal headers ++ " headers written in " ++ elapsed
  | .moduleFailed name _ => "Module " ++ name ++ " failed after " ++ elapsed
  | .summary modules headers =>
    "Processing complete: " ++ toString modules ++ " modules, " ++
      toString headers ++ " headers in " ++ elapsed
  | .callFailed function _ => "Failed " ++ function ++ " after " ++ elapsed
  | .rule => String.ofList (List.replicate 70 '=')
  | .summaryTitle => "GENERATION SUMMARY"
  | .moduleResult module headers => "  - " ++ module ++ ": " ++ toString headers ++ " headers"
  | .umbrellaResult path => "    umbrella: " ++ path.toString
  | .addressesResolved found asked =>
    "Resolved " ++ toString found ++ " of " ++ toString asked ++ " addresses"
  | .resultsWritten path => "Wrote " ++ path.toString
  | .outsideFunctions address => Numeral.hex address ++ " is not in any known function"
  | .commandFailed failure => "[FAILED] " ++ failure.text

/-- The whole line; a failure is told after the time. -/
def message (elapsed : String) (e : Event) : String :=
  match e.failure? with
  | some f => e.headline elapsed ++ ": " ++ f.text
  | none => e.headline elapsed

end Event
end ObjcAtlas
