import ModelStore.Fault

/-!
# The time of sending

Timestamps that are filled in automatically are not known when a statement is built. They are bound as
the pending time, and all of a statement's pending times become one and the same number when it is sent,
so that the rows of one statement never disagree about it.
-/

namespace ModelStore

/-- A value with the pending time resolved; what is inside a sequence or mapping stays. -/
def Value.resolve (now : Int) (v : Value) : Value := if v.isPending then .int now else v

/-- Arguments with every pending time resolved to the given one. -/
def resolveTimestamps (now : Int) (arguments : List Value) : List Value :=
  arguments.map (Value.resolve now)

/-- A clock's reading in seconds as whole milliseconds, toward zero. -/
def milliseconds? (seconds : Binary64) : Option Int := (seconds.timesNat 1000).truncate?

/-- The time that a clock shows. Not-a-number is no time, and an infinite one is too large for any. -/
def clockReading (seconds : Binary64) : Except Fault Int :=
  match milliseconds? seconds with
  | some n => .ok n
  | none => .error (.misused (if seconds = .nan then .content else .overflow))

end ModelStore
