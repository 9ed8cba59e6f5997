import Durable.Gateway.TenantAuth
import Durable.Data.Ids
import Mathlib.Logic.Equiv.List

/-! When the token of a tenant is verified as the tenant it was minted for. -/

namespace Durable.Gateway

open Joined (lastIndexOf lastIndexOf_eq_some_iff append_mark_eq_iff append_mark_inj_of_back)

variable {front : List Char}

section Suffix

variable {digits front' : List Char}

theorem notMem_of_isNumeral {mark : Char} (numeral : isNumeral digits)
    (other : mark.isDigit = false) : mark ∉ digits := by
  intro listed
  obtain ⟨-, all⟩ := Bool.and_eq_true_iff.mp numeral
  rw [List.all_eq_true.mp all mark listed] at other
  exact Bool.noConfusion other

theorem dotless (numeral : isNumeral digits) : '.' ∉ ['e', 'x', 'p'] ++ digits := by
  intro listed
  rcases List.mem_append.mp listed with marker | digit
  · exact absurd marker (by decide)
  · exact notMem_of_isNumeral numeral (by decide) digit

theorem marked_inj {digits' : List Char} (numeral : isNumeral digits)
    (numeral' : isNumeral digits')
    (same : front ++ expMarker ++ digits = front' ++ expMarker ++ digits') :
    front = front' ∧ digits = digits' := by
  have parts : front = front' ∧ ['e', 'x', 'p'] ++ digits = ['e', 'x', 'p'] ++ digits' := by
    apply append_mark_inj_of_back (dotless numeral) (dotless numeral')
    simpa [expMarker] using same
  exact ⟨parts.1, List.append_cancel_left parts.2⟩

/-- A marker with digits stands last in a list with a marker and no `x` behind it only where what
is behind that one are the digits. -/
theorem numeral_of_marked {text : List Char} (plain : 'x' ∉ text) (numeral : isNumeral digits)
    (same : front ++ expMarker ++ text = front' ++ expMarker ++ digits) : isNumeral text := by
  have joined : front ++ '.' :: (['e', 'x', 'p'] ++ text) =
      front' ++ '.' :: (['e', 'x', 'p'] ++ digits) := by
    simpa [expMarker] using same
  rcases append_mark_eq_iff.mp joined with
    ⟨-, parts⟩ | ⟨between, -, later⟩ | ⟨between, -, later⟩
  · rwa [List.append_cancel_left parts]
  · -- A dot behind the last one.
    exact absurd (by rw [later]; simp) (dotless numeral)
  · -- The marker would stand behind the first marker.
    rcases List.append_eq_append_iff.mp later with ⟨more, -, rest⟩ | ⟨more, marker, rest⟩
    · exact absurd (by simp [rest]) plain
    · cases more with
      | nil => exact absurd (by rw [← List.nil_append text, ← rest]; simp) plain
      | cons first more =>
        obtain ⟨rfl, -⟩ := List.cons.inj rest
        have dot : '.' ∈ ['e', 'x', 'p'] := by rw [marker]; simp
        exact absurd dot (by decide)

theorem expSuffix_eq_some_iff {claim : List Char} : expSuffix claim = some digits ↔
      isNumeral digits ∧ ∃ front, claim = front ++ expMarker ++ digits := by
  constructor
  · intro found
    induction claim with
    | nil => cases found
    | cons char rest ih =>
      rw [expSuffix] at found
      split at found
      · rename_i here
        obtain rfl := Option.some.inj found
        obtain ⟨marker, numeral⟩ := Bool.and_eq_true_iff.mp here
        obtain ⟨back, joined⟩ := List.isPrefixOf_iff_prefix.mp marker
        refine ⟨numeral, [], ?_⟩
        rw [← joined]
        simp
      · obtain ⟨numeral, front, rfl⟩ := ih found
        exact ⟨numeral, char :: front, rfl⟩
  · rintro ⟨numeral, front, rfl⟩
    induction front with
    | nil => simp [expSuffix, expMarker, numeral]
    | cons char front ih =>
      rw [List.cons_append, List.cons_append, expSuffix, ih]
      -- A marker that begins here would leave a dot among its digits.
      rw [if_neg]
      intro here
      obtain ⟨marker, numeral'⟩ := Bool.and_eq_true_iff.mp here
      obtain ⟨back, joined⟩ := List.isPrefixOf_iff_prefix.mp marker
      rw [← joined, List.drop_left] at numeral'
      have fronts : [] = char :: front := (marked_inj numeral' numeral (by simpa using joined)).1
      cases fronts

end Suffix

section Signature

variable {Number : Type} [LinearOrder Number] {js : TokenPrimitives Number} {secrets : List String}

theorem constantTimeEquals_iff {a b : String} : constantTimeEquals a b = true ↔ a = b := by
  constructor
  · intro equal
    have bytes : a.toByteArray.data = b.toByteArray.data := by
      simp only [constantTimeEquals] at equal
      split at equal
      · cases equal
      · exact Array.toList_inj.mp (of_decide_eq_true equal)
    exact String.toByteArray_inj.mp (ByteArray.ext bytes)
  · intro same
    simp [same, constantTimeEquals]

theorem verifier_split {token : String} {back : List Char}
    (split : token.toList = front ++ tokenSep :: back) (undotted : tokenSep ∉ back)
    (secrets : List String) (capabilities : Option (List String)) (clock : Number) :
    hmacTenantVerifier js secrets capabilities clock (some token) =
      if front ≠ [] ∧ back ≠ [] ∧ ∃ secret ∈ secrets,
          String.ofList back = js.sign (String.ofList front) secret then
        tenantOf js capabilities clock (String.ofList front)
      else none := by
  have last : lastIndexOf tokenSep token.toList = some front.length :=
    lastIndexOf_eq_some_iff.mpr ⟨front, back, split, undotted, rfl⟩
  have nonempty : token.isEmpty = false := by
    rw [Bool.eq_false_iff]
    intro empty
    rw [String.isEmpty_iff.mp empty] at split
    simp at split
  have claim : token.toList.take front.length = front := by
    rw [split, List.take_left]
  have presented : token.toList.drop (front.length + 1) = back := by
    rw [split, List.drop_append]
    simp
  have opening : front.length = 0 ↔ front = [] := List.length_eq_zero_iff
  have closing : front.length = token.toList.length - 1 ↔ back = [] := by
    rw [split, ← List.length_eq_zero_iff, List.length_append, List.length_cons]
    omega
  simp only [hmacTenantVerifier, nonempty, last, claim, presented, opening, closing]
  by_cases empty : front = []
  · simp [empty]
  · by_cases unsigned : back = []
    · simp [unsigned]
    · by_cases signature : ∃ secret ∈ secrets,
          String.ofList back = js.sign (String.ofList front) secret <;>
        simp [empty, unsigned, constantTimeEquals_iff, signature]

/-- A claim and its signature under a secret. -/
def signed (js : TokenPrimitives Number) (claim secret : String) : String :=
  claim ++ String.singleton tokenSep ++ js.sign claim secret

theorem signed_toList (claim secret : String) :
    (signed js claim secret).toList =
      claim.toList ++ tokenSep :: (js.sign claim secret).toList := by
  simp [signed]

/-- A signed claim is verified as what the claim says, where a secret is the one it was signed
with. -/
theorem verifier_signed {claim secret : String} (filled : claim ≠ "") (known : secret ∈ secrets)
    (capabilities : Option (List String)) (clock : Number) :
    hmacTenantVerifier js secrets capabilities clock (some (signed js claim secret)) =
      tenantOf js capabilities clock claim := by
  rw [verifier_split (signed_toList claim secret) (js.sign_undotted claim secret)]
  rw [if_pos, String.ofList_toList]
  rw [String.ofList_toList, String.ofList_toList]
  have opening : claim.toList ≠ [] := by simpa using filled
  have closing : (js.sign claim secret).toList ≠ [] := by simpa using js.sign_ne claim secret
  exact ⟨opening, closing, secret, known, rfl⟩

theorem signed_of_verifier {capabilities : Option (List String)} {clock : Number} {token : String}
    {verified : VerifiedTenant}
    (accepted : hmacTenantVerifier js secrets capabilities clock (some token) = some verified) :
    ∃ claim, ∃ secret ∈ secrets, token = signed js claim secret ∧
      tenantOf js capabilities clock claim = some verified := by
  cases last : lastIndexOf tokenSep token.toList with
  | none => simp [hmacTenantVerifier, last] at accepted
  | some sep =>
    obtain ⟨front, back, split, undotted, -⟩ := lastIndexOf_eq_some_iff.mp last
    rw [verifier_split split undotted] at accepted
    split at accepted
    · rename_i parts
      obtain ⟨-, -, secret, known, signature⟩ := parts
      refine ⟨String.ofList front, secret, known, ?_, accepted⟩
      rw [← String.toList_inj, signed_toList, split, ← signature]
      simp
    · cases accepted

end Signature

section Mintings

variable {Number : Type} [LinearOrder Number] {js : TokenPrimitives Number}

def Reserved (tenant : String) : Prop :=
  ∃ front digits, isNumeral digits ∧ tenant.toList = front ++ expMarker ++ digits

/-- A token that is minted, for a name that may be. -/
structure Minting (Number : Type) where
  tenant : String
  secret : String
  opts : Option (SignOptions Number)
  clock : Number
  named : tenant ≠ ""
  unreserved : ¬ Reserved tenant

namespace Minting

/-- When the token expires, if it does. -/
def expiry (js : TokenPrimitives Number) (minting : Minting Number) : Option (JsNumber Number) :=
  expiryOf js minting.opts minting.clock

/-- What the token claims. -/
def claim (js : TokenPrimitives Number) (minting : Minting Number) : String :=
  claimOf js minting.tenant minting.opts minting.clock

/-- The token. -/
def token (js : TokenPrimitives Number) (minting : Minting Number) : String :=
  signTenantToken js minting.tenant minting.secret minting.opts minting.clock

/-- Whether the token has not expired at a time: it does not expire, or the time is at most the
minting's with the lifetime added. -/
def alive (js : TokenPrimitives Number) (minting : Minting Number) (clock : Number) : Bool :=
  match minting.expiry js with
  | none => true
  -- No time is at most `NaN`.
  | some none => false
  | some (some expiresAt) => clock ≤ expiresAt

/-- Whether the time the token expires at is written in digits. -/
def Spelt (js : TokenPrimitives Number) (minting : Minting Number) : Prop :=
  ∀ expiresAt, minting.expiry js = some expiresAt → isNumeral (js.text expiresAt).toList

theorem token_eq (minting : Minting Number) :
    minting.token js = signed js (minting.claim js) minting.secret :=
  rfl

theorem claim_eq (minting : Minting Number) :
    (minting.claim js).toList = minting.tenant.toList ++
      (((minting.expiry js).map fun expiresAt =>
        expMarker ++ (js.text expiresAt).toList).getD []) := by
  unfold claim claimOf expiry
  cases expiryOf js minting.opts minting.clock with
  | none => simp
  | some expiresAt => simp [expMarker, tokenSep]

theorem claim_ne (minting : Minting Number) : minting.claim js ≠ "" := by
  intro empty
  have text : (minting.claim js).toList = _ := minting.claim_eq
  rw [empty] at text
  have named : minting.tenant.toList ≠ [] := by simpa using minting.named
  simp_all

theorem expSuffix_claim_of_not {minting : Minting Number}
    (other : ∀ expiresAt, minting.expiry js = some expiresAt →
      ¬ isNumeral (js.text expiresAt).toList) :
    expSuffix (minting.claim js).toList = none := by
  rw [Option.eq_none_iff_forall_ne_some]
  intro digits found
  obtain ⟨numeral, front, text⟩ := expSuffix_eq_some_iff.mp found
  rw [claim_eq] at text
  cases expires : minting.expiry js with
  | none =>
    rw [expires] at text
    exact minting.unreserved ⟨front, digits, numeral, by simpa using text⟩
  | some expiresAt =>
    rw [expires] at text
    apply other expiresAt expires
    exact numeral_of_marked (js.text_plain expiresAt) numeral (by simpa using text)

theorem tenantOf_claim {minting : Minting Number} (spelt : minting.Spelt js)
    (capabilities : Option (List String)) (clock : Number) :
    tenantOf js capabilities clock (minting.claim js) =
      if minting.alive js clock then some ⟨minting.tenant, capabilities⟩ else none := by
  cases expires : minting.expiry js with
  | none =>
    have alive : minting.alive js clock = true := by simp [alive, expires]
    have unmarked : expSuffix (minting.claim js).toList = none :=
      expSuffix_claim_of_not (by simp [expires])
    have claim : minting.claim js = minting.tenant := by
      rw [← String.toList_inj, claim_eq, expires]
      simp
    rw [tenantOf, unmarked, if_pos alive, claim]
  | some expiresAt =>
    have numeral := spelt expiresAt expires
    have text : (minting.claim js).toList =
        minting.tenant.toList ++ expMarker ++ (js.text expiresAt).toList := by
      rw [claim_eq, expires]
      simp
    have marked : expSuffix (minting.claim js).toList = some (js.text expiresAt).toList :=
      expSuffix_eq_some_iff.mpr ⟨numeral, _, text⟩
    have tenant : (minting.claim js).toList.take ((minting.claim js).toList.length -
        (expMarker.length + (js.text expiresAt).toList.length)) = minting.tenant.toList := by
      rw [text, List.append_assoc, List.length_append, List.length_append, Nat.add_sub_cancel,
        List.take_left]
    have named : minting.tenant.toList ≠ [] := by simpa using minting.named
    cases expiresAt with
    | none =>
      have dead : minting.alive js clock = false := by simp [alive, expires]
      simp [tenantOf, marked, js.number_text none numeral, dead]
    | some number =>
      have alive : minting.alive js clock = decide (clock ≤ number) := by simp [alive, expires]
      have finite := js.finite_of_numeral number numeral
      by_cases late : number < clock
      · simp [tenantOf, marked, js.number_text _ numeral, alive, late, not_le.mpr late]
      · simp only [tenantOf, marked, js.number_text _ numeral, tenant]
        simp [alive, late, finite, named, not_lt.mp late]

/-- A claim whose expiry is not written in digits is verified as one that does not expire, of
another tenant. -/
theorem tenantOf_claim_of_not {minting : Minting Number} {expiresAt : JsNumber Number}
    (expires : minting.expiry js = some expiresAt)
    (other : ¬ isNumeral (js.text expiresAt).toList)
    (capabilities : Option (List String)) (clock : Number) :
    tenantOf js capabilities clock (minting.claim js) =
        some ⟨minting.claim js, capabilities⟩ ∧
      minting.claim js ≠ minting.tenant := by
  constructor
  · have unmarked : expSuffix (minting.claim js).toList = none := by
      apply expSuffix_claim_of_not
      intro expiresAt' expires'
      obtain rfl := Option.some.inj (expires.symm.trans expires')
      exact other
    rw [tenantOf, unmarked]
  · intro same
    have text : (minting.claim js).toList = _ := minting.claim_eq
    rw [same, expires] at text
    simp [expMarker] at text

end Minting

/-- A signature half of a token is one of a minting's, or signs nothing. -/
def Unforged (js : TokenPrimitives Number) (mintings : List (Minting Number)) (token : String) :
    Prop :=
  ∀ claim secret, token = signed js claim secret →
    ∃ minting ∈ mintings, js.sign claim secret = js.sign (minting.claim js) minting.secret

/-- The minted tokens are verified as what they were minted for. -/
structure VerifiesAsMinted (js : TokenPrimitives Number) (mintings : List (Minting Number)) :
    Prop where
  /-- A verifier with its secret accepts a token while it is alive, as its tenant. -/
  accepts : ∀ minting ∈ mintings, ∀ secrets, minting.secret ∈ secrets →
    ∀ capabilities clock,
      hmacTenantVerifier js secrets capabilities clock (some (minting.token js)) =
        if minting.alive js clock then some ⟨minting.tenant, capabilities⟩ else none
  /-- A token that is accepted for a tenant was minted for it, with a secret of the verifier. -/
  mintedFor : ∀ token, Unforged js mintings token → ∀ secrets capabilities clock verified,
    hmacTenantVerifier js secrets capabilities clock (some token) = some verified →
      ∃ minting ∈ mintings, minting.token js = token ∧ minting.tenant = verified.tenant ∧
        minting.secret ∈ secrets

/-- The minted tokens are verified as what they were minted for just when the times that they
expire at are written in digits. -/
theorem verifiesAsMinted_iff (js : TokenPrimitives Number) (mintings : List (Minting Number)) :
    VerifiesAsMinted js mintings ↔ ∀ minting ∈ mintings, minting.Spelt js := by
  constructor
  · intro verifies minting minted expiresAt expires
    by_contra other
    -- The token is accepted as that of another tenant, alive or not.
    have accepted := verifies.accepts minting minted [minting.secret] List.mem_cons_self none
      minting.clock
    obtain ⟨verified, different⟩ :=
      Minting.tenantOf_claim_of_not expires other none minting.clock
    rw [Minting.token_eq, verifier_signed minting.claim_ne List.mem_cons_self, verified] at accepted
    split at accepted
    · exact different (by simpa using accepted)
    · cases accepted
  · intro spelt
    constructor
    · intro minting minted secrets known capabilities clock
      rw [Minting.token_eq, verifier_signed minting.claim_ne known,
        Minting.tenantOf_claim (spelt minting minted)]
    · intro token unforged secrets capabilities clock verified accepted
      obtain ⟨claim, secret, known, rfl, tenant⟩ := signed_of_verifier accepted
      obtain ⟨minting, minted, signature⟩ := unforged claim secret rfl
      obtain ⟨rfl, rfl⟩ := js.sign_inj signature
      refine ⟨minting, minted, rfl, ?_, known⟩
      rw [Minting.tenantOf_claim (spelt minting minted)] at tenant
      split at tenant
      · rw [← Option.some.inj tenant]
      · cases tenant

end Mintings

section Halves

def codeOf (text : String) : Nat := Encodable.encode (text.toList.map Char.toNat)

theorem codeOf_inj {text text' : String} (same : codeOf text = codeOf text') : text = text' := by
  have codes := Encodable.encode_injective same
  apply String.toList_inj.mp
  apply List.map_injective_iff.mpr _ codes
  intro char char' equal
  exact Char.toNat_inj.mp equal

/-- The digits of a number of whole milliseconds, and of one with a half. -/
def halvesText : JsNumber Int → String
  | none => "NaN"
  | some number =>
    (if number < 0 then "-" else "") ++ toString (number.natAbs / 2) ++
      if number.natAbs % 2 = 0 then "" else ".5"

theorem halvesText_plain (number : JsNumber Int) : 'x' ∉ (halvesText number).toList := by
  cases number with
  | none => decide
  | some number =>
    have digits : 'x' ∉ Nat.toDigits 10 (number.natAbs / 2) := notMem_toDigits (by decide) _
    dsimp only [halvesText]
    split <;> split <;> simpa using digits

theorem double_digitsOf_halvesText (number : JsNumber Int)
    (numeral : isNumeral (halvesText number).toList) :
    (digitsOf (halvesText number).toList).map (fun halved : Nat => 2 * (halved : Int)) =
      number := by
  cases number with
  | none => exact absurd numeral (by decide)
  | some number =>
    dsimp only [halvesText] at numeral ⊢
    by_cases negative : number < 0
    · have sign : '-'.isDigit = false := by decide
      exact absurd (by simp [negative]) (notMem_of_isNumeral numeral sign)
    · by_cases even : number.natAbs % 2 = 0
      · simp only [negative, even, if_true, if_false, String.empty_append, String.append_empty]
        rw [digitsOf_toString, Option.map_some]
        congr 1
        omega
      · have point : '.'.isDigit = false := by decide
        exact absurd (by simp [even]) (notMem_of_isNumeral numeral point)

/-- Milliseconds in halves, and a claim and its secret paired as a number for a digest. -/
def halves : TokenPrimitives Int where
  sign claim secret := toString (Nat.pair (codeOf claim) (codeOf secret))
  sign_inj same := by
    obtain ⟨claims, secrets⟩ := Nat.pair_eq_pair.mp (number_injective same)
    exact ⟨codeOf_inj claims, codeOf_inj secrets⟩
  sign_ne claim secret := by
    intro empty
    apply toString_ne_nil (Nat.pair (codeOf claim) (codeOf secret))
    rw [empty]
    rfl
  sign_undotted claim secret := by
    intro listed
    exact absurd (isDigit_of_mem listed) (by decide)
  add first second := first.bind fun first => second.map fun second => first + second
  isFinite _ := true
  text := halvesText
  text_plain := halvesText_plain
  number digits := (digitsOf digits).map fun halved : Nat => 2 * (halved : Int)
  number_text := double_digitsOf_halvesText
  finite_of_numeral _ _ := rfl

def fractional : Minting Int where
  tenant := "acme"
  secret := "secret"
  opts := some { ttlMs := some (some 1), now := some (some 2000) }
  clock := 2000
  named := by decide
  unreserved := by
    rintro ⟨front, digits, numeral, text⟩
    have marked := expSuffix_eq_some_iff.mpr ⟨numeral, front, text⟩
    rw [show expSuffix "acme".toList = none by decide] at marked
    cases marked

/-- A token that lives for half a millisecond is accepted as another tenant's when it is over. -/
theorem fractional_not_as_minted : ¬ VerifiesAsMinted halves [fractional] := by
  intro verifies
  have rejected := verifies.accepts fractional List.mem_cons_self [fractional.secret]
    List.mem_cons_self none 3000
  have expires : fractional.expiry halves = some (some 2001) := by decide
  have other : ¬ isNumeral (halves.text (some 2001)).toList := by decide
  rw [Minting.token_eq, verifier_signed fractional.claim_ne List.mem_cons_self,
    (Minting.tenantOf_claim_of_not expires other none 3000).1] at rejected
  have late : fractional.alive halves 3000 = false := by decide
  rw [late] at rejected
  cases rejected

end Halves

end Durable.Gateway
