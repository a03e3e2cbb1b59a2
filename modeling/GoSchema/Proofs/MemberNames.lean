import GoSchema.Proofs.Layers
import GoSchema.Proofs.Layout

/-!
# The names of the members of a record

The members of a record claim their names in one scope: first the fields, then the methods, then the accessors of
the fields. So a field can clash with a field, with a method, or with the accessor of another field. A layout
succeeds exactly when all these names are different and none is reserved. Otherwise the first claim that
cannot be granted ends it, and the conflict names this claim and the one that was granted the name before.

What carries the blame is that the owners of a scope are at any moment the claims granted so far, and the
names held are theirs (`Claims.Granted`).

## What is proved

* `Claims.Granted.claim` and `Claims.Granted.claimAll`: one claim, and claims in a row, with the blame on the right
  one.
* `Env.membersFrom_of_ready` and `Env.layout_eq`: where the fields are ready, only a name can end a layout.
* `Env.memberClaims_ne_initHook`: the name of the initializer, which is never held, is not among the names of
  members.
* `Env.layout_ok_iff_names_apart`: both directions, and the conflict that is reported otherwise.

The scope is that of one record. Names of the package have rules of their own: there aliases are given away without
a claimant.
-/

namespace GoSchema

open Name

/-- A claim cannot be granted after these others: what a conflict says about the holder of its name. -/
inductive Claim.Blocked (before : List Claim) (c : Claim) : String → Prop where
  /-- The name is a reserved word. -/
  | reserved : isReserved c.ident = true → c.Blocked before "a reserved Go identifier"
  /-- The name was claimed before. -/
  | claimed {earlier : Claim} : earlier ∈ before → earlier.ident = c.ident → c.Blocked before earlier.site.entity

/-- The claims are for different names, none of which is reserved. -/
def ClaimsApart (cs : List Claim) : Prop :=
  (cs.map Claim.ident).Nodup ∧ ∀ c ∈ cs, isReserved c.ident = false

/-- A list with a claim that the claims before it block is not apart. -/
theorem Claim.Blocked.not_apart {before after : List Claim} {c : Claim} {existing : String}
    (h : c.Blocked before existing) : ¬ ClaimsApart (before ++ c :: after) := by
  rintro ⟨hnodup, hfree⟩
  cases h with
  | reserved hreserved =>
    rw [hfree c (by simp)] at hreserved
    cases hreserved
  | @claimed earlier hmem hident =>
    rw [List.map_append, List.nodup_append] at hnodup
    obtain ⟨-, -, hdiffers⟩ := hnodup
    exact hdiffers earlier.ident (List.mem_map_of_mem hmem) c.ident (by simp) hident

/-! ### Claims that were granted -/

namespace Claims

theorem claimAll_cons (claims : Claims) (c : Claim) (cs : List Claim) :
    claims.claimAll (c :: cs) = claims.claim c >>= fun claims' => claims'.claimAll cs :=
  List.foldlM_cons

theorem claimAll_append (claims : Claims) (cs ds : List Claim) :
    claims.claimAll (cs ++ ds) = claims.claimAll cs >>= fun claims' => claims'.claimAll ds :=
  List.foldlM_append

/-- The claims granted so far, in order: the names that are held are theirs, and so are the owners. -/
structure Granted (claims : Claims) (cs : List Claim) : Prop where
  clean : claims.names.Clean
  held : claims.names.held = (cs.map Claim.ident).reverse
  owners : claims.owners = (cs.map fun c => (c.ident, c.site.entity)).reverse

namespace Granted

variable {claims : Claims} {granted cs : List Claim} {c : Claim}

theorem empty : Claims.empty.Granted [] := ⟨Namespace.clean_empty, rfl, rfl⟩

theorem apart (h : claims.Granted granted) : ClaimsApart granted := by
  obtain ⟨hclean, hheld, -⟩ := h
  constructor
  · rw [← List.nodup_reverse, ← hheld]
    exact hclean.nodup
  · intro c hc
    apply hclean.free
    rw [hheld, List.mem_reverse]
    exact List.mem_map_of_mem hc

/-- Who is said to hold a name that is taken: the claim that was granted it, or the language. -/
theorem blocked (h : claims.Granted granted) (htaken : claims.names.isTaken c.ident = true) :
    c.Blocked granted (claims.ownerOf c.ident) := by
  unfold ownerOf
  cases hlookup : claims.owners.lookup c.ident with
  | some entity =>
    obtain ⟨before, after, hsplit, -⟩ := List.lookup_eq_some_iff.mp hlookup
    have hmem : (c.ident, entity) ∈ claims.owners := by simp [hsplit]
    rw [h.owners, List.mem_reverse, List.mem_map] at hmem
    obtain ⟨earlier, hearlier, hpair⟩ := hmem
    obtain ⟨hident, rfl⟩ := Prod.mk.inj hpair
    exact .claimed hearlier hident
  | none =>
    -- Every name that is held has an owner, so this one is reserved.
    rcases Namespace.isTaken_iff.mp htaken with hreserved | hheld
    · exact .reserved hreserved
    · rw [h.held, List.mem_reverse, List.mem_map] at hheld
      obtain ⟨earlier, hearlier, hident⟩ := hheld
      have hmem : (earlier.ident, earlier.site.entity) ∈ claims.owners := by
        rw [h.owners, List.mem_reverse]
        exact List.mem_map_of_mem hearlier
      have := List.lookup_eq_none_iff.mp hlookup _ hmem
      simp [hident] at this

/-- One claim is granted and joins the others, or it is refused with the blame on the right one. -/
theorem claim (h : claims.Granted granted) (hinit : c.ident ≠ initHook) :
    (∃ claims', claims.claim c = .ok claims' ∧ claims'.Granted (granted ++ [c])) ∨
      ∃ existing, c.Blocked granted existing ∧ claims.claim c = .error (.conflict c.site c.ident existing) := by
  unfold Claims.claim
  by_cases htaken : claims.names.isTaken c.ident = true
  · right
    rw [Namespace.reserve_eq_error.mpr ⟨rfl, hinit, htaken⟩]
    exact ⟨_, h.blocked htaken, rfl⟩
  · left
    rw [Bool.not_eq_true] at htaken
    rw [(Namespace.reserve_eq_ok hinit).mpr ⟨htaken, rfl⟩]
    refine ⟨_, rfl, h.clean.hold htaken, ?_, ?_⟩
    · simp [Namespace.held_hold, h.held]
    · simp [h.owners]

/-- Claims in a row are all granted, or the first that is blocked by those before it is refused. -/
theorem claimAll (h : claims.Granted granted) (hinit : ∀ c ∈ cs, c.ident ≠ initHook) :
    (∃ claims', claims.claimAll cs = .ok claims' ∧ claims'.Granted (granted ++ cs)) ∨
      ∃ before c after existing, granted ++ cs = before ++ c :: after ∧ ClaimsApart before ∧
        c.Blocked before existing ∧ claims.claimAll cs = .error (.conflict c.site c.ident existing) := by
  induction cs generalizing claims granted with
  | nil => exact .inl ⟨claims, rfl, by simpa using h⟩
  | cons c cs ih =>
    obtain ⟨hc, hcs⟩ := List.forall_mem_cons.mp hinit
    rw [claimAll_cons]
    rcases h.claim hc with ⟨claims', hclaim, hgranted⟩ | ⟨existing, hblocked, hclaim⟩
    · rw [hclaim, List.append_cons granted c cs]
      exact ih hgranted hcs
    · rw [hclaim]
      exact .inr ⟨granted, c, cs, existing, rfl, h.apart, hblocked, rfl⟩

end Granted

end Claims

/-! ### Layouts -/

namespace Env

/-- The field passes the checks that are made when it is laid out, apart from the claim of its name: of its sets,
its identifier, its tag and its Go type. -/
structure FieldReady (env : Env) (r : Record) (f : Field) : Prop where
  sets : checkSets (env.site (fieldEntity f.name r.name)) f.type = .ok ()
  ident : ∃ ident, identifier f.name f.annotations (env.site (fieldEntity f.name r.name)) = .ok ident
  tag : ∃ tag, structTag (label f.name f.annotations) (f.required && !r.isUnion) f.annotations
    (env.site (fieldEntity f.name r.name)) = .ok tag
  type : ∃ t, env.goType f.type = .ok t

instance (env : Env) (r : Record) (f : Field) : Decidable (env.FieldReady r f) :=
  decidable_of_iff
    ((checkSets (env.site (fieldEntity f.name r.name)) f.type).isOk = true ∧
      (identifier f.name f.annotations (env.site (fieldEntity f.name r.name))).isOk = true ∧
      (structTag (label f.name f.annotations) (f.required && !r.isUnion) f.annotations
        (env.site (fieldEntity f.name r.name))).isOk = true ∧
      (env.goType f.type).isOk = true)
    ⟨fun ⟨hs, hi, ht, hty⟩ => ⟨(Except.isOk_iff.mp hs).elim fun _ h => h, Except.isOk_iff.mp hi,
        Except.isOk_iff.mp ht, Except.isOk_iff.mp hty⟩,
      fun h => ⟨Except.isOk_iff.mpr ⟨(), h.sets⟩, Except.isOk_iff.mpr h.ident, Except.isOk_iff.mpr h.tag,
        Except.isOk_iff.mpr h.type⟩⟩

/-- The claim of a field: its identifier. -/
def fieldClaim (env : Env) (r : Record) (f : Field) : Claim :=
  ⟨goName f.name f.annotations, env.site (fieldEntity f.name r.name)⟩

/-- The claims of the accessors of a field: the getter and the presence check. -/
def accessorClaimsOf (env : Env) (r : Record) (f : Field) : List Claim :=
  [⟨"Get" ++ goName f.name f.annotations, env.site ("getter of " ++ fieldEntity f.name r.name)⟩,
   ⟨"IsSet" ++ goName f.name f.annotations, env.site ("presence check of " ++ fieldEntity f.name r.name)⟩]

/-- The methods that a record can have, each with whether this one has it: logging can be switched off, an exception
is an error, and an envelope tells its method and its kind. -/
def methodTable (env : Env) (r : Record) : List (String × Bool) :=
  [("ToWire", true), ("FromWire", true), ("String", true), ("Equals", true),
   ("MarshalLogObject", !env.options.noZap), ("Error", r.kind = .exception), ("ErrorName", r.kind = .exception),
   ("MethodName", r.envelope.isSome), ("EnvelopeType", r.envelope.isSome)]

/-- The claims of the methods of a record. -/
def methodClaimsOf (env : Env) (r : Record) : List Claim :=
  ((env.methodTable r).filter Prod.snd).map fun m => ⟨m.1, env.site s!"method {m.1} of {r.name}"⟩

/-- The claims of all members of a record, in the order in which they are made. -/
def memberClaims (env : Env) (r : Record) : List Claim :=
  r.fields.map (env.fieldClaim r) ++ env.methodClaimsOf r ++ r.fields.flatMap (env.accessorClaimsOf r)

variable {env : Env} {r : Record} {f : Field} {fields : List Field}

theorem methodClaims_eq (env : Env) (r : Record) : env.methodClaims r = env.methodClaimsOf r := by
  unfold methodClaims methodClaimsOf methodTable Record.methods
  by_cases hexception : r.kind = .exception <;> cases env.options.noZap <;> cases r.envelope <;> simp [hexception]

/-- A type that has a Go type has a type below its typedefs. -/
theorem rootType?_of_goType {ty : Ty} {t : Go.GoType} (h : env.goType ty = .ok t) :
    ∃ root, env.program.rootType? ty = some root := by
  cases ty with
  | typedef ref =>
    obtain ⟨_, -, h⟩ := Except.bind_eq_ok.mp h
    obtain ⟨_, hrooted, -⟩ := Except.bind_eq_ok.mp h
    obtain ⟨root, hroot, -⟩ := Except.bind_eq_ok.mp hrooted
    exact ⟨root, present_eq_ok.mp hroot⟩
  | _ => exact ⟨_, Program.descend_of_not_typedef rfl _⟩

theorem memberOf_of_ready (h : env.FieldReady r f) (ident : String) :
    ∃ m, env.memberOf r f ident = .ok m ∧ m.ident = ident ∧ m.entity = fieldEntity f.name r.name := by
  obtain ⟨tag, htag⟩ := h.tag
  obtain ⟨t, ht⟩ := h.type
  obtain ⟨root, hroot⟩ := rootType?_of_goType ht
  have hholding : ∃ holding, env.holding f.type (f.required && !r.isUnion) = .ok holding := by
    simp [holding, Program.holding?, hroot, present]
  obtain ⟨holding, hholding⟩ := hholding
  simp only [memberOf, htag, hholding, ht]
  exact ⟨_, rfl, rfl, rfl⟩

/-- Fields that are ready make their claims one after the other, and nothing else can end their layout. -/
theorem membersFrom_of_ready (h : ∀ f ∈ fields, env.FieldReady r f) :
    ∃ ms : List Member, ms.map Member.ident = fields.map (fun f => goName f.name f.annotations) ∧
      ms.flatMap env.accessorClaims = fields.flatMap (env.accessorClaimsOf r) ∧
      ∀ claims, env.membersFrom r claims fields =
        claims.claimAll (fields.map (env.fieldClaim r)) >>= fun claims' => .ok (ms, claims') := by
  induction fields with
  | nil => exact ⟨[], rfl, rfl, fun claims => rfl⟩
  | cons f fields ih =>
    obtain ⟨hf, hrest⟩ := List.forall_mem_cons.mp h
    obtain ⟨ms, hidents, haccessors, hmembers⟩ := ih hrest
    obtain ⟨ident, hident⟩ := hf.ident
    obtain ⟨-, rfl⟩ := identifier_eq_ok.mp hident
    obtain ⟨m, hm, hmident, hmentity⟩ := memberOf_of_ready hf (goName f.name f.annotations)
    refine ⟨m :: ms, by simp [hmident, hidents], ?_, fun claims => ?_⟩
    · rw [List.flatMap_cons, List.flatMap_cons, haccessors]
      simp [accessorClaims, accessorClaimsOf, Member.getter, Member.isSet, hmident, hmentity]
    · rw [membersFrom, hf.sets, hident, List.map_cons, Claims.claimAll_cons, bind_assoc]
      show claims.claim (env.fieldClaim r f) >>= _ = _
      congr 1
      funext claims'
      rw [hm, hmembers]
      cases claims'.claimAll (fields.map (env.fieldClaim r)) <;> rfl

/-- The members of a record whose fields are ready are those of its fields, if the claims are granted. -/
theorem members_of_ready (h : ∀ f ∈ r.fields, env.FieldReady r f) :
    ∃ ms : List Member, ms.map Member.ident = r.fields.map (fun f => goName f.name f.annotations) ∧
      env.members r = Claims.empty.claimAll (env.memberClaims r) >>= fun _ => .ok ms := by
  obtain ⟨ms, hidents, haccessors, hmembers⟩ := membersFrom_of_ready h
  refine ⟨ms, hidents, ?_⟩
  simp only [members, hmembers, memberClaims, methodClaims_eq, Claims.claimAll_append, bind_assoc, ← haccessors]
  rfl

theorem idents_assignFlags (names : Namespace) (ms : List Member) :
    (assignFlags names ms).map Member.ident = ms.map Member.ident :=
  map_assignFlags (fun _ _ => rfl) names ms

/-- Only its members can end a layout. -/
theorem layout_eq (r : Record) (run : Run) :
    ∃ run' : List Member → Run, env.layout r run =
      env.members r >>= fun ms => .ok (assignFlags (run' ms).names.enter ms, run' ms) := by
  refine ⟨fun ms => (ms.flatMap fun m => m.goType.paths).foldl Run.usePath run, ?_⟩
  unfold layout
  cases env.members r <;> rfl

/-- No member asks for the name of the initializer, which is never held. -/
theorem memberClaims_ne_initHook (h : ∀ f ∈ r.fields, env.FieldReady r f) :
    ∀ c ∈ env.memberClaims r, c.ident ≠ initHook := by
  have hhead : ∀ c ∈ env.memberClaims r, c.ident.toList.head? ≠ some 'i' := by
    intro c hc
    simp only [memberClaims, List.mem_append, List.mem_map, List.mem_flatMap] at hc
    rcases hc with (⟨f, hf, rfl⟩ | hc) | ⟨f, -, hc⟩
    · obtain ⟨ident, hident⟩ := (h f hf).ident
      exact head?_goName_ne (identifier_eq_ok.mp hident).1 f.name (by decide)
    · obtain ⟨m, hm, rfl⟩ := List.mem_map.mp hc
      have hmethods : ∀ m ∈ env.methodTable r, m.1.toList.head? ≠ some 'i' := by simp [methodTable]
      exact hmethods m (List.mem_filter.mp hm).1
    · simp only [accessorClaimsOf, List.mem_cons, List.not_mem_nil, or_false] at hc
      rcases hc with rfl | rfl <;> simp
  intro c hc hident
  apply hhead c hc
  simp [hident, initHook]

/-- The layout of a record whose fields are ready succeeds exactly when its fields, its methods and the accessors of
its fields all have different names, none of which is reserved; the members then have the identifiers that were
claimed. Otherwise it ends with a conflict at the first name that is reserved or was claimed before, which blames
the claim that comes later and names the one that came earlier. -/
theorem layout_ok_iff_names_apart (env : Env) (r : Record) (hready : ∀ f ∈ r.fields, env.FieldReady r f)
    (run : Run) :
    ((∃ ms run', env.layout r run = .ok (ms, run')) ↔
      ((env.memberClaims r).map Claim.ident).Nodup ∧ ∀ c ∈ env.memberClaims r, isReserved c.ident = false) ∧
    (∀ ms run', env.layout r run = .ok (ms, run') →
      ms.map Member.ident = r.fields.map fun f => goName f.name f.annotations) ∧
    ∀ e, env.layout r run = .error e →
      ∃ before c after existing, env.memberClaims r = before ++ c :: after ∧ ClaimsApart before ∧
        c.Blocked before existing ∧ e = .conflict c.site c.ident existing := by
  obtain ⟨ms, hidents, hmembers⟩ := members_of_ready hready
  obtain ⟨run', hlayout⟩ := @layout_eq env r run
  rw [hlayout, hmembers]
  rcases Claims.Granted.empty.claimAll (memberClaims_ne_initHook hready) with
    ⟨claims, hclaims, hgranted⟩ | ⟨before, c, after, existing, hsplit, hbefore, hblocked, hclaims⟩
  · rw [hclaims]
    refine ⟨iff_of_true ⟨_, _, rfl⟩ hgranted.apart, fun ms' run'' h => ?_, nofun⟩
    cases h
    rw [idents_assignFlags, hidents]
  · rw [hclaims]
    rw [List.nil_append] at hsplit
    refine ⟨iff_of_false nofun ?_, nofun, fun e he => ?_⟩
    · have hapart : ¬ ClaimsApart (before ++ c :: after) := hblocked.not_apart
      rwa [← hsplit] at hapart
    · cases he
      exact ⟨before, c, after, existing, hsplit, hbefore, hblocked, rfl⟩

end Env

/-- A record in which the accessor of one field is another field. -/
def slotRecord : Record :=
  ⟨"Slot", "Slot", .struct,
    [⟨1, "x", .base .i32, true, none, .empty⟩, ⟨2, "get_x", .base .i32, true, none, .empty⟩], false, none⟩

/-- A record whose names are apart. -/
def roomRecord : Record :=
  ⟨"Room", "Room", .exception, [⟨1, "seats", .list (.base .i32), false, none, .empty⟩], false, none⟩

theorem Env.layout_ok_iff_names_apart_slot :
    ∃ env : Env, (∀ f ∈ slotRecord.fields, env.FieldReady slotRecord f) ∧
      (∀ f ∈ roomRecord.fields, env.FieldReady roomRecord f) ∧
      (∃ ms run, env.layout roomRecord ⟨.empty, [], [], [], []⟩ = .ok (ms, run) ∧
        ms.map Member.ident = ["Seats"]) ∧
      ∃ before c after existing, env.memberClaims slotRecord = before ++ c :: after ∧ ClaimsApart before ∧
        c.Blocked before existing ∧
        env.layout slotRecord ⟨.empty, [], [], [], []⟩ = .error (.conflict c.site c.ident existing) ∧
        (GenError.conflict c.site c.ident existing).message =
          "a.thrift: identifier GetX of getter of field x of Slot conflicts with field get_x of Slot" := by
  let env : Env := ⟨.empty, ⟨0⟩, ⟨"a.thrift", "ex/a", "a"⟩, {}, []⟩
  have hslot : ∀ f ∈ slotRecord.fields, env.FieldReady slotRecord f := by decide +kernel
  have hroom : ∀ f ∈ roomRecord.fields, env.FieldReady roomRecord f := by decide +kernel
  refine ⟨env, hslot, hroom, ?_, ?_⟩
  · obtain ⟨hiff, hidents, -⟩ := layout_ok_iff_names_apart env roomRecord hroom ⟨.empty, [], [], [], []⟩
    obtain ⟨ms, run, hok⟩ := hiff.mpr (by decide +kernel)
    exact ⟨ms, run, hok, (hidents ms run hok).trans (by decide +kernel)⟩
  · obtain ⟨-, -, hblame⟩ := layout_ok_iff_names_apart env slotRecord hslot ⟨.empty, [], [], [], []⟩
    have hmessage : ((env.layout slotRecord ⟨.empty, [], [], [], []⟩).mapError GenError.message).map (fun _ => ()) =
        .error "a.thrift: identifier GetX of getter of field x of Slot conflicts with field get_x of Slot" := by
      decide +kernel
    cases hlayout : env.layout slotRecord ⟨.empty, [], [], [], []⟩ with
    | ok x =>
      rw [hlayout] at hmessage
      cases hmessage
    | error e =>
      rw [hlayout] at hmessage
      obtain ⟨before, c, after, existing, hsplit, hbefore, hblocked, rfl⟩ := hblame e hlayout
      exact ⟨before, c, after, existing, hsplit, hbefore, hblocked, rfl, Except.error.inj hmessage⟩

end GoSchema
