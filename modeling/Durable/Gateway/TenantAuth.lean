import Durable.Text.Joined
import Mathlib.Order.Lattice

/-! The signed token of a tenant: how it is minted, and how it is verified. -/

namespace Durable.Gateway

open Joined (lastIndexOf)

/-- A JavaScript number: none is `NaN`. -/
abbrev JsNumber (Number : Type) := Option Number

/-- Whether a text is one or more digits. -/
def isNumeral (text : List Char) : Bool := !text.isEmpty && text.all Char.isDigit

/-- What the tokens take from the HMAC and from JavaScript's numbers. -/
structure TokenPrimitives (Number : Type) [LinearOrder Number] where
  sign : String → String → String
  sign_inj : ∀ {claim secret claim' secret'}, sign claim secret = sign claim' secret' →
    claim = claim' ∧ secret = secret'
  sign_ne : ∀ claim secret, sign claim secret ≠ ""
  sign_undotted : ∀ claim secret, '.' ∉ (sign claim secret).toList
  add : JsNumber Number → JsNumber Number → JsNumber Number
  isFinite : Number → Bool
  text : JsNumber Number → String
  text_plain : ∀ number, 'x' ∉ (text number).toList
  number : List Char → JsNumber Number
  number_text : ∀ number', isNumeral (text number').toList →
    number (text number').toList = number'
  finite_of_numeral : ∀ number', isNumeral (text (some number')).toList → isFinite number'

/-- What a token is minted with. -/
structure SignOptions (Number : Type) where
  ttlMs : Option (JsNumber Number) := none
  now : Option (JsNumber Number) := none

/-- The identity that a token is verified as. -/
structure VerifiedTenant where
  tenant : String
  capabilities : Option (List String)
deriving Repr, DecidableEq

/-- The separator between a claim and its signature. -/
def tokenSep : Char := '.'

/-- What the marker of an expiry begins with. -/
def expMarker : List Char := ['.', 'e', 'x', 'p']

/-- `EXP_SUFFIX`: the digits of the expiry that a claim ends in. -/
def expSuffix : List Char → Option (List Char)
  | [] => none
  | char :: rest =>
    if expMarker.isPrefixOf (char :: rest) && isNumeral ((char :: rest).drop expMarker.length) then
      some ((char :: rest).drop expMarker.length)
    else expSuffix rest

/-- Whether two texts have the same bytes. -/
def constantTimeEquals (a b : String) : Bool :=
  let ab := a.toUTF8.data.toList
  let bb := b.toUTF8.data.toList
  if ab.length ≠ bb.length then false else ab = bb

section Tokens

variable {Number : Type} [LinearOrder Number] (js : TokenPrimitives Number)

/-- When a token expires that is minted at a time of the clock, if it does. -/
def expiryOf (opts : Option (SignOptions Number)) (clock : Number) : Option (JsNumber Number) :=
  (opts.bind (·.ttlMs)).map fun ttlMs => js.add ((opts.bind (·.now)).getD (some clock)) ttlMs

/-- What a token claims: the tenant, and when the token expires. -/
def claimOf (tenant : String) (opts : Option (SignOptions Number)) (clock : Number) : String :=
  match expiryOf js opts clock with
  | some expiresAt => tenant ++ String.singleton tokenSep ++ "exp" ++ js.text expiresAt
  | none => tenant

/-- Mint the token of a tenant. -/
def signTenantToken (tenant secret : String) (opts : Option (SignOptions Number))
    (clock : Number) : String :=
  let claim := claimOf js tenant opts clock
  claim ++ String.singleton tokenSep ++ js.sign claim secret

/-- The tenant of a claim that is signed, unless it has expired. -/
def tenantOf (capabilities : Option (List String)) (clock : Number) (claim : String) :
    Option VerifiedTenant :=
  match expSuffix claim.toList with
  | some digits =>
    match js.number digits with
    -- `NaN` is not finite.
    | none => none
    | some expiresAt =>
      if !js.isFinite expiresAt || expiresAt < clock then none
      else
        let tenant := claim.toList.take
          (claim.toList.length - (expMarker.length + digits.length))
        if tenant.isEmpty then none else some ⟨String.ofList tenant, capabilities⟩
  | none => some ⟨claim, capabilities⟩

/-- Verify a token under some secrets at a time of the clock. -/
def hmacTenantVerifier (secrets : List String) (capabilities : Option (List String))
    (clock : Number) (token : Option String) : Option VerifiedTenant :=
  match token with
  | none => none
  | some token =>
    if token.isEmpty then none
    else
      match lastIndexOf tokenSep token.toList with
      | none => none
      | some sep =>
        if sep = 0 || sep = token.toList.length - 1 then none
        else
          let claim := String.ofList (token.toList.take sep)
          let presented := String.ofList (token.toList.drop (sep + 1))
          if !secrets.any fun s => constantTimeEquals presented (js.sign claim s) then none
          else tenantOf js capabilities clock claim

end Tokens

end Durable.Gateway
