import ModelStore.Fault
import ModelStore.Text.Lowercase

/-!
# Schemes of database addresses

One storage engine is spoken, under two schemes. Behind a `+` a scheme may name a driver, which does not
matter here; case does not matter either.
-/

namespace ModelStore

/-- The schemes of the one engine. -/
def supportedSchemes : List String := ["postgresql", "postgres"]

/-- The scheme without its driver. -/
def engineOfScheme (scheme : String) : String :=
  Text.lowercase (String.ofList (scheme.toList.takeWhile (· != '+')))

/-- Refuses a scheme of another engine. -/
def requireScheme (scheme : String) : Except Fault Unit :=
  if supportedSchemes.contains (engineOfScheme scheme) then .ok ()
  else .error (.refused (.unknownScheme scheme))

/-- Refuses whatever is not a scheme of the engine. Nothing at all counts as an empty scheme. -/
def requireSchemeValue : Value → Except Fault Unit
  | .text scheme => requireScheme scheme
  | .bytes bs => if bs.isEmpty then .error (.refused (.unknownScheme (Value.bytes bs).plain))
    else .error (.misused .kind)
  | v => if v.holds then .error (.misused .member) else .error (.refused (.unknownScheme v.plain))

end ModelStore
