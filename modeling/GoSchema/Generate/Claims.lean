import GoSchema.Generate.Error

/-!
# Claims

The identifiers of a package, or of the members of one type, are claimed one after the other. A claim
remembers who made it, so that a conflict can name both sides.
-/

namespace GoSchema

/-- An identifier and the entity that asks for it. -/
structure Claim where
  ident : String
  site : Site
  deriving DecidableEq

/-- The identifiers claimed, and by whom. -/
structure Claims where
  names : Name.Namespace
  /-- Identifier and claimant, the latest first. -/
  owners : List (String × String)
  deriving DecidableEq

namespace Claims

/-- No claims. -/
def empty : Claims := ⟨.empty, []⟩

/-- Who holds an identifier that is taken. -/
def ownerOf (c : Claims) (ident : String) : String :=
  (c.owners.lookup ident).getD "a reserved Go identifier"

/-- Grants a claim unless the identifier is taken. -/
def claim (c : Claims) (claim : Claim) : Except GenError Claims :=
  match c.names.reserve claim.ident with
  | .ok names => .ok ⟨names, (claim.ident, claim.site.entity) :: c.owners⟩
  | .error (.taken _) => .error (.conflict claim.site claim.ident (c.ownerOf claim.ident))
  | .error error => .error (.internal (.claimRefused error))

/-- Grants claims in order, up to the first that is refused. -/
def claimAll (c : Claims) (claims : List Claim) : Except GenError Claims :=
  claims.foldlM Claims.claim c

end Claims

end GoSchema
