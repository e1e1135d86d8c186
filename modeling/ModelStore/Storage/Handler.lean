import ModelStore.Fault

/-!
# Handlers of storage errors

An interceptor's handler produces what is raised in the place of a storage error, the *native* one. It is
a text, a fault, the name of a kind of fault (into which the native error is then put), or a function of the
native error, which may answer with a fault, with any value, or by failing itself.

Whatever is not a fault is wrapped in one: `Fault.intercepted` carries the value.

A fault that is itself a handler is one object, however often it is raised, and it keeps what it was last
raised for. `Causes` tells what that is; `Handler.remembering` shows a handler as it is by then.
-/

namespace ModelStore

/-- What a handling function answers. -/
inductive Response
  | fault (fault : Fault)
  | value (v : Value)

inductive Handler
  | text (s : String)
  /-- A fault, with its number among those that are handlers. -/
  | fault (object : Nat) (fault : Fault)
  | family (family : Family)
  | call (respond : Fault → Except Fault Response)

/-- What a caller may offer as a handler: a handler, or a value of the wrong kind. -/
inductive Offer
  | handler (handler : Handler)
  | value (v : Value)

/-- A handler, if it is one. Text is a handler wherever it comes from. -/
def Offer.check : Offer → Except Fault Handler
  | handler h => .ok h
  | value (.text s) => .ok (.text s)
  | value v => .error (.refused (.handlerShape v))

namespace Handler

/-- What is raised in the place of a native error. -/
def rejection (native : Fault) : Handler → Except Fault Fault
  | text s => .ok (.intercepted (.text s))
  | fault _ f => .ok f
  | family f => .ok (f.fault native)
  | call respond => do
    match ← respond native with
    | .fault f => .ok f
    | .value v => .ok (.intercepted v)

/-! ## Faults raised before -/

end Handler

/-- What the faults of handlers were raised for, by their numbers, the latest first. -/
abbrev Causes := List (Nat × Fault)

/-- What a handler's fault was last raised for. -/
def Causes.latest? (causes : Causes) (object : Nat) : Option Fault :=
  (causes.find? fun entry => entry.1 == object).map (·.2)

namespace Handler

/-- A handler as it is after its fault was raised for something. -/
def remembering (causes : Causes) : Handler → Handler
  | fault object f => match causes.latest? object with
    | some native => fault object (.because f native)
    | none => fault object f
  | handler => handler

/-! ## Functions of the native error -/

/-- The native error itself. -/
def native : Handler := .call fun fault => .ok (.fault fault)

/-- The value of the native error's code, null if it has none. -/
def nativeCode : Handler := .call fun fault => .ok (.value (code fault.bare))
where
  code : Fault → Value
    | .engine report | .driver report => report.code.getD .null
    | .ambiguous _ code => code
    | _ => .null

/-- The native error's text. -/
def nativeText : Handler := .call fun fault => .ok (.value (.text fault.text))

/-- Always the same value. -/
def constant (v : Value) : Handler := .call fun _ => .ok (.value v)

/-- The native error's text behind a heading. -/
def headed (heading : String) : Handler := .call fun fault => .ok (.fault (.custom (heading ++ fault.text)))

/-- A handler that fails. -/
def failing (fault : Fault) : Handler := .call fun _ => .error fault

end Handler
end ModelStore
