import CountedStrings.Str.Basic

/-!
# Owners of a string

A string that was just made has one owner and the count 0: the count word counts the owners
*besides* the first.  `retain` adds an owner.  `release` takes one away, and if the count it finds
is 0 already (or below), nobody is left and the block of the string is handed back.

Foreign strings are not counted.  Both operations leave them alone and report nothing.

Each of the two is one indivisible step, so several threads that count at the same time do nothing
else than take turns in some order.  `shareBetween` takes the turns thread by thread.
-/

namespace CountedStrings

/-- What is left of a string after an owner gave it up. -/
inductive Release where
  /-- There are owners left, or the string is not counted. -/
  | kept (s : Str)
  /-- That was the last owner, and a block of this layout was handed back. -/
  | freed (block : Layout)
  deriving DecidableEq

namespace Release

/-- The string, if it is still there. -/
def remaining : Release → Option Str
  | .kept s => some s
  | .freed _ => none

end Release

namespace Str

/-- The string with another count. -/
def withRefcount (s : Str) (refcount : Int32) : Str := ⟨refcount, s.info, s.storage⟩

/-- Adds an owner. -/
def retain (s : Str) : Outcome Str :=
  match s.ownedCapacity with
  | none => pure s
  | some _ => do
    let refcount := s.refcount + 1
    Outcome.report (.retained refcount.toInt)
    return s.withRefcount refcount

/-- Takes an owner away, and frees the string if that was the last one. -/
def release (s : Str) : Outcome Release :=
  match s.ownedCapacity with
  | none => pure (.kept s)
  | some capacity =>
    let refcount := s.refcount - 1
    if 0 < s.refcount then do
      Outcome.report (.referenceReleased refcount.toInt)
      return .kept (s.withRefcount refcount)
    else
      match layoutFor capacity with
      | none => pure (.kept (s.withRefcount refcount))
      | some block => do
        Outcome.report (.freed capacity)
        return .freed block

/-- Adds a number of owners, one after the other. -/
def retainTimes : Nat → Str → Outcome Str
  | 0, s => pure s
  | n + 1, s => do
    let s ← s.retain
    retainTimes n s

/-- Takes a number of owners away, one after the other, as long as the string is there. -/
def releaseTimes : Nat → Str → Outcome Release
  | 0, s => pure (.kept s)
  | n + 1, s => do
    match ← s.release with
    | .kept s => releaseTimes n s
    | .freed block => return .freed block

/-- Lets a number of threads each add owners and then take owners away. -/
def shareBetween (threads retains releases : Nat) (s : Str) : Outcome Release :=
  match threads with
  | 0 => pure (.kept s)
  | threads + 1 => do
    let s ← retainTimes retains s
    match ← releaseTimes releases s with
    | .kept s => shareBetween threads retains releases s
    | .freed block => return .freed block

end Str

end CountedStrings
