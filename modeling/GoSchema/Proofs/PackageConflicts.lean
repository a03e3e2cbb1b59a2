import GoSchema.Proofs.MemberNames
import GoSchema.Proofs.PackageScope

/-!
# Conflicts in a package

Names come to be held in the scope of a package in two ways. Locals, standard and runtime packages and declarations claim
theirs, and a claim leaves its owner behind. The packages of other schema files are given new names, and nobody is noted as
the owner of these. So the owners of the scope are at any moment the claims granted so far, and the names held are theirs
and the given ones (`Claims.GrantedBeside`).

Hence a conflict over a name that was claimed names the claimant. A name without a claimant is said to be a reserved
identifier, which is right if it is one and wrong if it is the name of a package (`Program.conflict_names_holder`,
`Program.package_called_reserved`).

## What is proved

* `Claims.GrantedBeside.claim` and `Claims.GrantedBeside.refused`: what one claim leaves behind, and what is said
  when it is refused.
* `Env.exists_refused_of_foldlM`: the claims of declarations fail at one that is refused when all before it are
  granted.
* `Program.conflict_names_holder`: this of every file of a program that passes the check, with the claims that were
  granted and the blame.
* `Program.package_called_reserved`: a package of another file is called a reserved identifier.

Identifiers that are given by hand and are not valid end generation with another error, before any claim of their
declaration. Conflicts within a record are treated with the names of members.
-/

namespace GoSchema

open Name

/-- What a scope says of a name that it holds without knowing the owner. -/
def unowned : String := "a reserved Go identifier"

/-- The conflict over a claim says who has the name. It is reserved, was given away, or was claimed before; whoever claimed
it is named, and otherwise it is called reserved. -/
structure Claim.RefusedBeside (c : Claim) (given : List String) (before : List Claim) (existing : String) : Prop where
  taken : isReserved c.ident = true ∨ c.ident ∈ given ∨ ∃ k ∈ before, k.ident = c.ident
  claimed : ∀ k ∈ before, k.ident = c.ident → existing = k.site.entity
  unclaimed : existing = unowned ↔ isReserved c.ident = true ∨ c.ident ∈ given

/-! ### Claims beside given names -/

namespace Claims

/-- The claims granted so far, in order, beside names that were given to nobody. A claim for the initializer is granted
and holds no name. -/
structure GrantedBeside (claims : Claims) (given : List String) (cs : List Claim) : Prop where
  clean : claims.names.Clean
  held : claims.names.held.Perm (given ++ (cs.map Claim.ident).filter (· ≠ initHook))
  owners : claims.owners = (cs.map fun c => (c.ident, c.site.entity)).reverse

namespace GrantedBeside

variable {claims claims' : Claims} {given : List String} {granted cs : List Claim} {c : Claim}

theorem mem_held (h : claims.GrantedBeside given granted) (hinit : c.ident ≠ initHook) :
    c.ident ∈ claims.names.held ↔ c.ident ∈ given ∨ ∃ k ∈ granted, k.ident = c.ident := by
  rw [h.held.mem_iff]
  simp [hinit]

/-- A claim that is granted joins the others. -/
theorem claim (h : claims.GrantedBeside given granted) (hclaim : claims.claim c = .ok claims') :
    claims'.GrantedBeside given (granted ++ [c]) := by
  obtain ⟨names, hnames, rfl⟩ := claim_eq_ok.mp hclaim
  by_cases hinit : c.ident = initHook
  · rw [Namespace.reserve, if_pos hinit] at hnames
    cases hnames
    exact ⟨h.clean, by simpa [hinit] using h.held, by simp [h.owners]⟩
  · obtain ⟨hfree, rfl⟩ := (Namespace.reserve_eq_ok hinit).mp hnames
    refine ⟨h.clean.hold hfree, ?_, by simp [h.owners]⟩
    rw [Namespace.held_hold, List.map_append, List.filter_append, ← List.append_assoc]
    have hlast : ([c].map Claim.ident).filter (· ≠ initHook) = [c.ident] := by simp [hinit]
    rw [hlast]
    exact (h.held.cons c.ident).trans (List.perm_append_singleton _ _).symm

theorem claimAll (h : claims.GrantedBeside given granted) (hclaims : claims.claimAll cs = .ok claims') :
    claims'.GrantedBeside given (granted ++ cs) := by
  induction cs generalizing claims granted with
  | nil =>
    cases hclaims
    simpa using h
  | cons c cs ih =>
    rw [claimAll_cons] at hclaims
    obtain ⟨claims₁, hclaim, hclaims⟩ := Except.bind_eq_ok.mp hclaims
    rw [List.append_cons granted c cs]
    exact ih (h.claim hclaim) hclaims

/-- A name has one claimant. -/
theorem eq_of_ident_eq (h : claims.GrantedBeside given granted) (hinit : c.ident ≠ initHook) {k : Claim}
    (hc : c ∈ granted) (hk : k ∈ granted) (hident : k.ident = c.ident) : k = c := by
  have hnodup := (List.nodup_append.mp (h.held.nodup_iff.mp h.clean.nodup)).2.1
  rw [List.filter_map] at hnodup
  refine List.inj_on_of_nodup_map hnodup ?_ ?_ hident
  · exact List.mem_filter.mpr ⟨hk, by simpa [hident] using hinit⟩
  · exact List.mem_filter.mpr ⟨hc, by simpa using hinit⟩

/-- A name that was claimed is neither reserved nor given away. -/
theorem free_of_mem (h : claims.GrantedBeside given granted) (hinit : c.ident ≠ initHook) (hc : c ∈ granted) :
    isReserved c.ident = false ∧ c.ident ∉ given := by
  have hkept : c.ident ∈ (granted.map Claim.ident).filter (· ≠ initHook) :=
    List.mem_filter.mpr ⟨List.mem_map_of_mem hc, by simpa using hinit⟩
  constructor
  · exact h.clean.free _ ((h.mem_held hinit).mpr (.inr ⟨c, hc, rfl⟩))
  · intro hgiven
    exact (List.nodup_append.mp (h.held.nodup_iff.mp h.clean.nodup)).2.2 _ hgiven _ hkept rfl

/-- The owner of a name that was claimed is its claimant. -/
theorem ownerOf_of_mem (h : claims.GrantedBeside given granted) (hinit : c.ident ≠ initHook) (hc : c ∈ granted) :
    claims.ownerOf c.ident = c.site.entity := by
  have hmem : (c.ident, c.site.entity) ∈ claims.owners := by
    rw [h.owners, List.mem_reverse]
    exact List.mem_map_of_mem hc
  cases hlookup : claims.owners.lookup c.ident with
  | none =>
    have hnone := List.lookup_eq_none_iff.mp hlookup _ hmem
    simp at hnone
  | some entity =>
    obtain ⟨before, after, hsplit, -⟩ := List.lookup_eq_some_iff.mp hlookup
    have hfound : (c.ident, entity) ∈ claims.owners := by simp [hsplit]
    rw [h.owners, List.mem_reverse] at hfound
    obtain ⟨k, hk, hpair⟩ := List.mem_map.mp hfound
    obtain ⟨hident, rfl⟩ := Prod.mk.inj hpair
    rw [ownerOf, hlookup, h.eq_of_ident_eq hinit hc hk hident]
    rfl

/-- A name that nobody claimed has no owner. -/
theorem ownerOf_of_unclaimed (h : claims.GrantedBeside given granted) {ident : String}
    (hnone : ∀ k ∈ granted, k.ident ≠ ident) : claims.ownerOf ident = unowned := by
  have hlookup : claims.owners.lookup ident = none := by
    rw [List.lookup_eq_none_iff, h.owners]
    intro entry hentry
    obtain ⟨k, hk, rfl⟩ := List.mem_map.mp (List.mem_reverse.mp hentry)
    simpa using (hnone k hk).symm
  rw [ownerOf, hlookup]
  rfl

/-- A claim that is refused meets a conflict that says who has the name. -/
theorem refused (h : claims.GrantedBeside given granted) (hentities : ∀ k ∈ granted, k.site.entity ≠ unowned)
    {e : GenError} (hclaim : claims.claim c = .error e) :
    ∃ existing, e = .conflict c.site c.ident existing ∧ c.RefusedBeside given granted existing := by
  obtain ⟨⟨hinit, htaken⟩, rfl⟩ := claim_eq_error.mp hclaim
  have hheld := Namespace.isTaken_iff.mp htaken
  rw [h.mem_held hinit] at hheld
  have hclaimed : ∀ k ∈ granted, k.ident = c.ident → claims.ownerOf c.ident = k.site.entity := by
    intro k hk hident
    rw [← hident]
    exact h.ownerOf_of_mem (hident ▸ hinit) hk
  refine ⟨_, rfl, hheld, hclaimed, fun hunowned => ?_, fun hfree => ?_⟩
  · -- A claimant would be named, and is never called reserved.
    rcases hheld with hreserved | hgiven | ⟨k, hk, hident⟩
    · exact .inl hreserved
    · exact .inr hgiven
    · exact absurd ((hclaimed k hk hident).symm.trans hunowned) (hentities k hk)
  · refine h.ownerOf_of_unclaimed fun k hk hident => ?_
    obtain ⟨hreserved, hgiven⟩ := h.free_of_mem (hident ▸ hinit) hk
    rw [hident] at hreserved hgiven
    rcases hfree with hfree | hfree
    · exact Bool.false_ne_true (hreserved.symm.trans hfree)
    · exact hgiven hfree

end GrantedBeside

/-- Claims in a row fail at one of them, when those before it are granted. -/
theorem exists_refused {claims : Claims} {cs : List Claim} {e : GenError} (h : claims.claimAll cs = .error e) :
    ∃ before c after claims', cs = before ++ c :: after ∧ claims.claimAll before = .ok claims' ∧
      claims'.claim c = .error e := by
  induction cs generalizing claims with
  | nil => cases h
  | cons c cs ih =>
    rw [claimAll_cons] at h
    rcases Except.bind_eq_error.mp h with h | ⟨claims₁, hclaim, h⟩
    · exact ⟨[], c, cs, claims, rfl, rfl, h⟩
    · obtain ⟨before, c', after, claims', rfl, hbefore, hrefused⟩ := ih h
      refine ⟨c :: before, c', after, claims', rfl, ?_, hrefused⟩
      rw [claimAll_cons, hclaim]
      exact hbefore

end Claims

/-! ### Claims of declarations -/

/-- The claims of a declaration describe it, and they fail to be known only because of an identifier given by hand. -/
structure Described (pending : Pending) : Prop where
  error : ∀ e, pending = .error e → ∃ site ident, e = .badIdentifier site ident
  entity : ∀ cs, pending = .ok cs → ∀ c ∈ cs, c.site.entity ≠ unowned

theorem ne_unowned {start rest : String} (h : ¬ start.toList <+: unowned.toList) : start ++ rest ≠ unowned := by
  intro heq
  refine h ?_
  rw [← heq, String.toList_append]
  exact List.prefix_append _ _

theorem identifier_eq_error {name : String} {a : Annotations} {site : Site} {e : GenError}
    (h : identifier name a site = .error e) : ∃ site ident, e = .badIdentifier site ident := by
  unfold identifier at h
  split at h
  · cases h
  · split_ifs at h
    cases h
    exact ⟨_, _, rfl⟩

namespace Described

theorem ok {cs : List Claim} (h : ∀ c ∈ cs, c.site.entity ≠ unowned) : Described (.ok cs) := by
  constructor
  · rintro e ⟨⟩
  · rintro _ ⟨⟩
    exact h

theorem badIdentifier {e : GenError} (h : ∃ site ident, e = .badIdentifier site ident) : Described (.error e) := by
  constructor
  · rintro _ ⟨⟩
    exact h
  · rintro cs ⟨⟩

/-- Claims that are known once an identifier is. -/
theorem ofIdentifier {x : Except GenError String} (hx : ∀ e, x = .error e → ∃ site ident, e = .badIdentifier site ident)
    {f : String → List Claim} (h : ∀ ident, ∀ c ∈ f ident, c.site.entity ≠ unowned) :
    Described (x >>= fun ident => pure (f ident)) := by
  cases x with
  | error e => exact .badIdentifier (hx e rfl)
  | ok ident => exact .ok (h ident)

end Described

namespace Env

variable {env : Env}

theorem nameClaim_described (name : String) (a : Annotations) {entity : String} (h : entity ≠ unowned) :
    Described (env.nameClaim name a entity) :=
  .ofIdentifier (fun _ => identifier_eq_error) fun _ => List.forall_mem_singleton.mpr h

theorem enumClaims_described (e : Enum) : ∀ pending ∈ env.enumClaims e, Described pending := by
  have hentity : e.entity ≠ unowned := ne_unowned (by decide)
  unfold enumClaims
  dsimp only
  cases hident : identifier e.name e.annotations (env.site e.entity) with
  | error error => exact List.forall_mem_singleton.mpr (.badIdentifier (identifier_eq_error hident))
  | ok ident =>
    refine List.forall_mem_cons.mpr ⟨.ok (by simp [site, hentity]), List.forall_mem_map.mpr fun item _ => ?_⟩
    refine .ofIdentifier (fun error herror => ?_) fun _ => List.forall_mem_singleton.mpr ?_
    · unfold itemIdent at herror
      split_ifs at herror
      exact identifier_eq_error herror
    · change s!"item {item.name} of enum {e.name}" ≠ unowned
      rw [String.append_assoc, String.append_assoc]
      exact ne_unowned (by decide)

theorem functionClaims_described (s : Service) (service : String) (f : Function) :
    Described (env.functionClaims s service f) := by
  refine .ofIdentifier (fun _ => identifier_eq_error) fun function => ?_
  refine List.forall_mem_append.mpr ⟨List.forall_mem_append.mpr ⟨?_, ?_⟩, ?_⟩
  · exact List.forall_mem_singleton.mpr (ne_unowned (by decide))
  · exact List.forall_mem_map.mpr fun _ _ => ne_unowned (by decide)
  · exact List.forall_mem_singleton.mpr (ne_unowned (by decide))

theorem serviceClaims_described (s : Service) : ∀ pending ∈ env.serviceClaims s, Described pending := by
  unfold serviceClaims
  cases hident : identifier s.name s.annotations (env.site s.entity) with
  | error error => exact List.forall_mem_singleton.mpr (.badIdentifier (identifier_eq_error hident))
  | ok service => exact List.forall_mem_map.mpr fun f _ => functionClaims_described s service f

theorem declarations_described : ∀ pending ∈ env.declarations, Described pending := by
  unfold declarations
  simp only [List.forall_mem_append, List.forall_mem_map, List.mem_flatMap, forall_exists_index, and_imp]
  refine ⟨⟨⟨⟨fun c _ => ?_, fun pending e _ => enumClaims_described e pending⟩, fun t _ => ?_⟩, fun s _ => ?_⟩,
    fun pending s _ => serviceClaims_described s pending⟩
  · exact nameClaim_described _ _ (ne_unowned (by decide))
  · exact nameClaim_described _ _ (ne_unowned (by decide))
  · refine nameClaim_described _ _ ?_
    rw [Struct.entity]
    cases s.kind <;> exact ne_unowned (by decide)

/-- The claims of declarations fail because one of them is not known, or at one that is refused when all before it are
granted. -/
theorem exists_refused_of_foldlM {ps : List Pending} {claims : Claims} {e : GenError}
    (h : ps.foldlM (fun claims pending => do claims.claimAll (← pending)) claims = .error e) :
    .error e ∈ ps ∨ ∃ (css : List (List Claim)) (cs cs' : List Claim) (c : Claim) (rest : List Pending) (claims' : Claims),
      ps = css.map .ok ++ .ok (cs ++ c :: cs') :: rest ∧
      claims.claimAll (css.flatten ++ cs) = .ok claims' ∧ claims'.claim c = .error e := by
  induction ps generalizing claims with
  | nil => cases h
  | cons pending ps ih =>
    rw [List.foldlM_cons] at h
    rcases Except.bind_eq_error.mp h with hfirst | ⟨claims₁, hfirst, hrest⟩
    · rcases Except.bind_eq_error.mp hfirst with rfl | ⟨cs, rfl, hfirst'⟩
      · exact .inl List.mem_cons_self
      · obtain ⟨before, c, after, claims', rfl, hbefore, hrefused⟩ := Claims.exists_refused hfirst'
        exact .inr ⟨[], before, after, c, ps, claims', rfl, hbefore, hrefused⟩
    · obtain ⟨first, rfl, hfirst'⟩ := Except.bind_eq_ok.mp hfirst
      rcases ih hrest with hmem | ⟨css, cs, cs', c, rest, claims', rfl, hgranted, hrefused⟩
      · exact .inl (List.mem_cons_of_mem _ hmem)
      · refine .inr ⟨first :: css, cs, cs', c, rest, claims', rfl, ?_, hrefused⟩
        rw [List.flatten_cons, List.append_assoc, Claims.claimAll_append, hfirst']
        exact hgranted

end Env

namespace Env

variable {env : Env} {p : Program} {file : Ref .file} {self : File} {o : Options} {claims : Claims}

/-- Before the first declaration the locals and the fixed packages have claimed their names, and other files were given
theirs. -/
theorem grantedBeside_of_ofFile (h : Env.ofFile p file self o = .ok (env, claims)) :
    claims.GrantedBeside (p.fileAliases file self) (ambientClaims o self.path) := by
  rw [ofFile_eq_initial] at h
  cases h
  have hempty : Claims.empty.GrantedBeside [] [] := ⟨Namespace.clean_empty, .refl _, rfl⟩
  have hgranted := hempty.claimAll (claimAll_ambientClaims o self.path)
  rw [List.nil_append] at hgranted
  obtain ⟨hclean, hheld⟩ := nameFiles_names hgranted.clean (calledPackages o) (foreignFiles p file self)
  refine ⟨hclean, ?_, hgranted.owners⟩
  rw [Program.fileAliases, ← names_ambientGranted o self.path]
  change (nameFiles _ _ _).1.held.Perm _
  rw [hheld]
  exact (List.reverse_perm _).append hgranted.held

end Env

/-- The parts of a conflict that a computation ends with. -/
def conflict? {α : Type} : Except GenError α → Option (Site × String × String)
  | .error (.conflict site ident existing) => some (site, ident, existing)
  | _ => none

theorem eq_error_of_conflict? {α : Type} {x : Except GenError α} {site : Site} {ident existing : String}
    (h : conflict? x = some (site, ident, existing)) : x = .error (.conflict site ident existing) := by
  unfold conflict? at h
  split at h
  · cases h
    rfl
  · cases h

theorem ambientClaims_entity (o : Options) (path : String) : ∀ c ∈ ambientClaims o path, c.site.entity ≠ unowned := by
  unfold ambientClaims
  simp only [List.forall_mem_append, List.forall_mem_map]
  exact ⟨⟨fun _ _ => by decide, fun _ _ => by decide⟩, fun _ _ => by decide⟩

namespace Program

variable {p : Program} {file : Ref .file} {self : File} {o : Options}

/-- **A conflict names the holder.** The surroundings of a run are always found. If the declarations of the file then
meet a conflict, it is what generation ends with, and it is over the claim of one of them that is refused when all before
it are granted: those of locals, of standard and runtime packages, and of earlier declarations. If one of these has the
name, the conflict names it. The name is called reserved exactly if it is reserved or was given to the package of another
file. -/
theorem conflict_names_holder (hp : p.check = .ok ()) (hself : p.file? file = some self) (o : Options) :
    ∃ env claims, Env.ofFile p file self o = .ok (env, claims) ∧
      ∀ site ident existing, env.declare claims = .error (.conflict site ident existing) →
        p.generate file o = .error (.conflict site ident existing) ∧
        ∃ (css : List (List Claim)) (cs cs' : List Claim) (rest : List Pending),
          env.declarations = css.map .ok ++ .ok (cs ++ ⟨ident, site⟩ :: cs') :: rest ∧
          (∃ granted, claims.claimAll (css.flatten ++ cs) = .ok granted ∧
            granted.claim ⟨ident, site⟩ = .error (.conflict site ident existing)) ∧
          Claim.RefusedBeside ⟨ident, site⟩ (p.fileAliases file self)
            (ambientClaims o self.path ++ (css.flatten ++ cs)) existing := by
  obtain ⟨env, claims, hof, henv, -, -⟩ := Env.ofFile_eq p file self o
  refine ⟨env, claims, hof, fun site ident existing hdeclare => ⟨?_, ?_⟩⟩
  · rw [generate, draft, hp]
    dsimp only
    rw [hself]
    dsimp only
    rw [Env.draft, hof]
    change (env.declare claims >>= _) >>= _ = _
    rw [hdeclare]
    rfl
  · rcases Env.exists_refused_of_foldlM hdeclare with hmem | ⟨css, cs, cs', c, rest, claims', hsplit, hgranted, hrefused⟩
    · obtain ⟨_, _, herror⟩ := (Env.declarations_described _ hmem).error _ rfl
      cases herror
    have hbeside := (Env.grantedBeside_of_ofFile hof).claimAll hgranted
    have hentity {cs : List Claim} (hcs : .ok cs ∈ env.declarations) : ∀ k ∈ cs, k.site.entity ≠ unowned :=
      (Env.declarations_described _ hcs).entity cs rfl
    have hentities : ∀ k ∈ ambientClaims o self.path ++ (css.flatten ++ cs), k.site.entity ≠ unowned := by
      refine List.forall_mem_append.mpr ⟨ambientClaims_entity o self.path, List.forall_mem_append.mpr ⟨?_, ?_⟩⟩
      · intro k hk
        obtain ⟨earlier, hearlier, hk⟩ := List.mem_flatten.mp hk
        exact hentity (by simp [hsplit, hearlier]) k hk
      · intro k hk
        exact @hentity (cs ++ c :: cs') (by simp [hsplit]) k (List.mem_append_left _ hk)
    obtain ⟨_, heq, hblame⟩ := hbeside.refused hentities hrefused
    cases heq
    exact ⟨css, cs, cs', rest, hsplit, ⟨claims', hgranted, hrefused⟩, hblame⟩

/-- A program in which a file declares the name of the package of another file. -/
def crossing : Program :=
  { Program.empty with
    files := [⟨"a.thrift", "ex/a", "a"⟩, ⟨"b.thrift", "ex/b", "Foo"⟩]
    structs := [⟨"Foo", ⟨0⟩, .struct, [], false, .empty⟩] }

/-- The name of a package is called reserved, although it is not. -/
theorem package_called_reserved :
    crossing.check = .ok () ∧
      crossing.generate ⟨0⟩ {} = .error (.conflict ⟨"struct Foo", "a.thrift"⟩ "Foo" "a reserved Go identifier") ∧
      isReserved "Foo" = false ∧ crossing.fileAliases ⟨0⟩ ⟨"a.thrift", "ex/a", "a"⟩ = ["Foo"] := by
  have hconflict : conflict? (crossing.generate ⟨0⟩ {}) =
      some (⟨"struct Foo", "a.thrift"⟩, "Foo", "a reserved Go identifier") := by
    rw [generate, draft_eq_fromNames]
    decide +kernel
  exact ⟨by decide +kernel, eq_error_of_conflict? hconflict, by decide +kernel, by decide +kernel⟩

theorem conflict_names_holder_namesakes :
    namesakes.generate ⟨1⟩ {} =
      .error (.conflict ⟨"struct user_name", "b.thrift"⟩ "UserName" "typedef UserName") ∧
    ∃ env claims, Env.ofFile namesakes ⟨1⟩ ⟨"b.thrift", "ex/b", "b"⟩ {} = .ok (env, claims) ∧
      ∃ (css : List (List Claim)) (cs : List Claim) (granted : Claims),
        claims.claimAll (css.flatten ++ cs) = .ok granted ∧
        Claim.RefusedBeside ⟨"UserName", "struct user_name", "b.thrift"⟩
          (namesakes.fileAliases ⟨1⟩ ⟨"b.thrift", "ex/b", "b"⟩)
          (ambientClaims {} "b.thrift" ++ (css.flatten ++ cs)) "typedef UserName" := by
  have hp : namesakes.check = .ok () := by decide +kernel
  have hself : namesakes.file? ⟨1⟩ = some ⟨"b.thrift", "ex/b", "b"⟩ := rfl
  obtain ⟨env, claims, hof, hconflict⟩ := conflict_names_holder hp hself {}
  have hdeclare : conflict? (Env.ofFile namesakes ⟨1⟩ ⟨"b.thrift", "ex/b", "b"⟩ {} >>= fun x => x.1.declare x.2) =
      some (⟨"struct user_name", "b.thrift"⟩, "UserName", "typedef UserName") := by
    rw [Env.ofFile_eq_initial]
    decide +kernel
  rw [hof] at hdeclare
  obtain ⟨hgenerate, css, cs, _, _, _, ⟨granted, hgranted, _⟩, hblame⟩ :=
    hconflict _ _ _ (eq_error_of_conflict? hdeclare)
  exact ⟨hgenerate, env, claims, hof, css, cs, granted, hgranted, hblame⟩

end Program

end GoSchema
