import DContact.Governance.PolicyContent

/-!
# Policy scopes and the resolution of a request

A scope key binds some of four dimensions, in a fixed order, and leaves the others
open. A request is governed by the active head of the most specific scope that
matches it. Two different scopes of equal specificity which some request matches at
once are ambiguous; there is no tie-break.
-/

namespace DContact.Governance

open Lib

inductive ScopeDimension where
  | channel
  | contactKind
  | purpose
  | sourceType

def ScopeDimension.text : ScopeDimension → String
  | .channel => "channel"
  | .contactKind => "contactKind"
  | .purpose => "purpose"
  | .sourceType => "sourceType"

/-- `CG4_POLICY_SCOPE_DIMENSIONS`. -/
def scopeDimensions : List ScopeDimension := [.channel, .contactKind, .purpose, .sourceType]

/-- The values that a key binds; an open dimension has none. -/
abbrev ScopeDimensions := ScopeDimension → Option String

def scopeInvalid {α : Type} (message : String) : Except ContentError α :=
  .error ⟨.scopeInvalid, message⟩

def notCanonical {α : Type} : Except ContentError α :=
  scopeInvalid "scopeKey ไม่ใช่ canonical form"

/-- The value of one part of a key, which names its dimension before the first `=`. -/
def scopePart (expected : ScopeDimension) (part : String) : Except ContentError (Option String) :=
  match part.toList.dropWhile (· != '=') with
  | [] => notCanonical
  | _ :: value =>
      if String.ofList (part.toList.takeWhile (· != '=')) ≠ expected.text ∨ value = [] then
        notCanonical
      else
        .ok (if value = ['*'] then none else some (String.ofList value))

def parseCg4PolicyScopeKey (scopeKey : String) : Except ContentError ScopeDimensions :=
  match Text.split scopeKey '|' with
  | [channelPart, contactKindPart, purposePart, sourceTypePart] => do
      let channel ← scopePart .channel channelPart
      let contactKind ← scopePart .contactKind contactKindPart
      let purpose ← scopePart .purpose purposePart
      let sourceType ← scopePart .sourceType sourceTypePart
      .ok fun
        | .channel => channel
        | .contactKind => contactKind
        | .purpose => purpose
        | .sourceType => sourceType
  | _ => notCanonical

def specificity (dimensions : ScopeDimensions) : Nat :=
  (scopeDimensions.filter fun dimension => (dimensions dimension).isSome).length

def cg4PolicyScopeSpecificity (scopeKey : String) : Except ContentError Nat := do
  let dimensions ← parseCg4PolicyScopeKey scopeKey
  .ok (specificity dimensions)

/-- Where both bind a dimension, they bind the same value. -/
def agree (left right : ScopeDimensions) : Bool :=
  scopeDimensions.all fun dimension =>
    (left dimension).isNone || (right dimension).isNone || left dimension == right dimension

def cg4PolicyScopesAmbiguous (left right : String) : Except ContentError Bool := do
  if left = right then
    .ok false
  else
    let a ← parseCg4PolicyScopeKey left
    let b ← parseCg4PolicyScopeKey right
    .ok (specificity a == specificity b && agree a b)

/-- The dimensions of a request; one that it leaves out matches no bound value. -/
structure RequestScope where
  channel : Option String
  contactKind : Option String
  purpose : Option String
  sourceType : Option String

def RequestScope.dimension (request : RequestScope) : ScopeDimensions
  | .channel => request.channel
  | .contactKind => request.contactKind
  | .purpose => request.purpose
  | .sourceType => request.sourceType

def matchesDimensions (dimensions : ScopeDimensions) (request : RequestScope) : Bool :=
  scopeDimensions.all fun dimension =>
    (dimensions dimension).isNone || dimensions dimension == request.dimension dimension

def cg4PolicyScopeMatches (scopeKey : String) (request : RequestScope) :
    Except ContentError Bool := do
  let dimensions ← parseCg4PolicyScopeKey scopeKey
  .ok (matchesDimensions dimensions request)

theorem agree_of_matches {left right : ScopeDimensions} {request : RequestScope}
    (leftMatches : matchesDimensions left request = true)
    (rightMatches : matchesDimensions right request = true) : agree left right = true := by
  simp only [matchesDimensions, agree, List.all_eq_true, Bool.or_eq_true, beq_iff_eq] at *
  intro dimension mem
  rcases leftMatches dimension mem with leftOpen | leftBound
  · exact .inl (.inl leftOpen)
  · rcases rightMatches dimension mem with rightOpen | rightBound
    · exact .inl (.inr rightOpen)
    · exact .inr (leftBound.trans rightBound.symm)

/-- `Cg4AuthorizationReviewReason`, as far as policy resolution uses it. -/
inductive ReviewReason where
  | governanceStateUnavailable
  | governancePolicyVersionUnsupported
  | policyActivationPending
  deriving DecidableEq

structure ScopeHeadFacts where
  scopeKey : String
  policyId : String
  policyVersionId : String
  policyVersion : Nat
  policyContentDigest : String
  schemaVersion : Nat
  registryVersion : String
  evaluatorVersion : String
  headVersion : Nat
  headDigest : String
  nextActivationAt : Option Instant

inductive PolicyResolution where
  | resolved (head : ScopeHeadFacts) (validUntil : Instant)
  | unconfigured
  | failClosed (reason : ReviewReason) (detail : String)

/-- Keep what passes a check that may fail. -/
def filterOk {α : Type} (holds : α → Except ContentError Bool) : List α → Except ContentError (List α)
  | [] => .ok []
  | item :: rest => do
      let kept ← holds item
      let tail ← filterOk holds rest
      .ok (if kept then item :: tail else tail)

def readAll {α β : Type} (read : α → Except ContentError β) : List α → Except ContentError (List β)
  | [] => .ok []
  | item :: rest => do
      let value ← read item
      let tail ← readAll read rest
      .ok (value :: tail)

/-- What the one winning head is resolved to. -/
def resolveHead (head : ScopeHeadFacts) (now : Instant) (cacheTtlSeconds : Nat) :
    PolicyResolution :=
  if head.schemaVersion ≠ policySchemaVersion ∨ head.registryVersion ≠ ruleRegistryVersion ∨
      head.evaluatorVersion ≠ evaluatorVersion then
    .failClosed .governancePolicyVersionUnsupported ("head ใช้ schema " ++
      toString head.schemaVersion ++ "/" ++ head.registryVersion ++ "/" ++ head.evaluatorVersion)
  else
    let ttlBound := now + cacheTtlSeconds * 1000
    match head.nextActivationAt with
    | none => .resolved head ttlBound
    | some next =>
        if next ≤ now then
          .failClosed .policyActivationPending
            ("scheduled activation " ++ toISOString next ++ " ยังไม่ถูก activate")
        else .resolved head (min ttlBound next)

/-- What more than one winning head is resolved to. -/
def resolveTie (first second : ScopeHeadFacts) : Except ContentError PolicyResolution := do
  let ambiguous ← cg4PolicyScopesAmbiguous first.scopeKey second.scopeKey
  .ok (.failClosed .governanceStateUnavailable
    (if ambiguous then
      "scope " ++ first.scopeKey ++ " และ " ++ second.scopeKey ++ " กำกวมที่ specificity เดียวกัน"
    else "มี active head มากกว่าหนึ่งตัวที่ specificity เดียวกัน"))

def resolveCg4ActivePolicy (heads : List ScopeHeadFacts) (request : RequestScope) (now : Instant)
    (cacheTtlSeconds : Nat) : Except ContentError PolicyResolution := do
  let matching ← filterOk (fun head => cg4PolicyScopeMatches head.scopeKey request) heads
  let specificities ← readAll (fun head => cg4PolicyScopeSpecificity head.scopeKey) matching
  let best := specificities.foldr max 0
  let winners ← filterOk (fun head => do
    let own ← cg4PolicyScopeSpecificity head.scopeKey
    .ok (own == best)) matching
  match winners with
  | [] => .ok .unconfigured
  | [head] => .ok (resolveHead head now cacheTtlSeconds)
  | first :: second :: _ => resolveTie first second

end DContact.Governance
