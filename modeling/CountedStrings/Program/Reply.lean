import CountedStrings.Config
import CountedStrings.Host.Arguments
import CountedStrings.Str.Display

/-!
# Replies

What a step tells whoever took it.  Most replies are a number, a truth value or nothing; a
description collects everything that can be asked about a string.
-/

namespace CountedStrings

/-- What there is to know about a string. -/
structure Description where
  capacity : Nat
  length : Nat
  visible : Bytes
  terminated : Bytes
  refcount : Int
  display : String
  deriving DecidableEq

/-- Everything there is to know about a string. -/
def Str.description (s : Str) : Description where
  capacity := s.capacity
  length := s.length
  visible := s.visible
  terminated := s.terminated
  refcount := s.refcount.toInt
  display := s.display

/-- Why a call makes no sense. -/
inductive Refusal where
  /-- It is about something else than what it needs. -/
  | mismatch
  /-- It would touch memory behind the end of a buffer, where nothing checks it. -/
  | outsideStorage
  deriving DecidableEq

/-- A refusal in words, if there is something to say. -/
def Refusal.message? : Refusal → Option String
  | .mismatch => none
  | .outsideStorage => some "outside storage"

/-- What a call tells its caller. -/
inductive Reply where
  /-- Nothing. -/
  | done
  | flag (b : Bool)
  | number (n : Int)
  /-- A capacity, which foreign strings do not have. -/
  | capacity (n : Option Nat)
  /-- Bytes as numbers from -128 to 127. -/
  | signedBytes (ns : List Int)
  /-- Whether there is a string now. -/
  | made (present : Bool)
  /-- Whether the string was freed. -/
  | released (freed : Bool)
  | description (d : Description)
  /-- A failure in its two wordings, with its code. -/
  | wording (message detail : String) (code : ErrorCode)
  | code (c : ErrorCode)
  /-- A configuration. -/
  | config (c : Config)
  /-- The standard configuration, with its text and what else is fixed about configurations. -/
  | standard (c : Config)
  /-- A configuration with the variables that were asked for. -/
  | lookedUp (c : Config) (asked : List String)
  /-- An entry of an argument vector, itself and not a copy. -/
  | entry (e : Option HostString)
  /-- The call makes no sense here and did not take place. -/
  | refused (reason : Refusal)

end CountedStrings
