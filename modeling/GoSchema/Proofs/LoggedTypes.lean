import GoSchema.Proofs.HelperTypes
import GoSchema.Proofs.Marshalers

/-!
# Logged types have marshalers

For each value that is logged an adder is chosen, and the expression that it takes. Here the choice is held against
what is in the code (`Program.logged_types_marshal`). A scalar is converted to its base type, and the adder is the one
for that Go type. Everything else is added as an object or as an array, and the Go type of the expression has that
marshaler: an enum, a struct or a typedef has it in the file that declares it, and a container is converted to the type
of its helper.

A helper is known by its symbol alone, so a map may be handed to a helper that was built for another map. Both are
logged in one shape as long as the symbols can be read. Otherwise they need not be: if a typedef of an integer is called
`String`, maps with such keys are added as arrays, through a helper that marshals objects.

## What is proved

* `Env.hasMarshaler`: a declared type has the marshaler that it should have, wherever its file is generated with
  logging.
* `Env.Grows.exists_zapper`: a container that was asked for has a helper with one marshaler.
* `Env.HasZapper.built_eq`: the helper was built in the shape of the container, if a map is told apart from the one
  for which it was built.
* `Program.logged_types_marshal` joins these for everything that is logged on the way to the end of a run, and
  `Program.numbers_logged_as_texts` shows a map that is not told apart.

What an adder does with its expression is not modelled, only the Go type that it takes.
-/

namespace GoSchema

open Go

/-! ### Expressions and adders -/

/-- The Go type that a scalar adder takes. -/
def LogMethod.parameter? : LogMethod → Option String
  | .bool => some "bool"
  | .int8 => some "int8"
  | .int16 => some "int16"
  | .int32 => some "int32"
  | .int64 => some "int64"
  | .float64 => some "float64"
  | .string => some "string"
  | .composite _ => none

/-- The expression of a Go type is taken as it is, or converted to another. -/
inductive Retyped (expr type : String) : String → String → Prop where
  | same : Retyped expr type expr type
  | converted (target : String) : Retyped expr type s!"({target})({expr})" target

/-- A scalar adder takes the expression: the one for its Go type, or that for text if the expression is of binary
data, which is encoded first. -/
inductive Env.LogsScalar (env : Env) (expr type : String) : LogValue → Prop where
  | plain {method : LogMethod} (parameter : method.parameter? = some type) : env.LogsScalar expr type ⟨method, expr⟩
  | encoded (binary : type = "[]byte") : env.LogsScalar expr type
      ⟨.string, env.aliasOf "encoding/base64" ++ ".StdEncoding.EncodeToString(" ++ expr ++ ")"⟩

namespace Env

variable {env : Env}

theorem logBase_gives (b : Base) (expr : String) : Gives (env.logBase b expr) (env.LogsScalar expr b.goType.text) := by
  cases b with
  | binary =>
    refine .bind fun base64 hbase64 => .pure ?_
    have halias : Gives (env.package "encoding/base64") (· = env.aliasOf "encoding/base64") :=
      .bind fun _ _ => .pure rfl
    rw [halias base64 hbase64]
    exact .encoded rfl
  | bool | i8 | i16 | i32 | i64 | double | string => exact .pure (.plain rfl)

/-- How a value is logged whose type is no container: as a scalar, after it was converted to its base type, or through
the marshaler of its type or of the enum below it. -/
inductive LogsDeclared (env : Env) (ty : Ty) (t : GoType) (expr : String) : LogValue → Prop where
  | scalar {b : Base} {x : String} {value : LogValue} (root : env.program.rootType? ty = some (.base b))
      (retyped : Retyped expr t.text x b.goType.text) (adds : env.LogsScalar x b.goType.text value) :
      LogsDeclared env ty t expr value
  | composite {declared : Ty} {t' : GoType} {shape : LogShape} {x : String}
      (below : declared = ty ∨ env.program.rootType? ty = some declared) (type : env.goType declared = .ok t')
      (marshals : env.program.declaredShape? declared = some shape) (retyped : Retyped expr t.text x t'.text) :
      LogsDeclared env ty t expr ⟨.composite shape, x⟩

theorem logTypedef_gives {r : Ref .typedef} {root : Ty} (hroot : env.program.rootType? (.typedef r) = some root)
    {t : GoType} (ht : env.goType (.typedef r) = .ok t) (expr : String) :
    Gives (env.logTypedef (.typedef r) root expr) (env.LogsDeclared (.typedef r) t expr) := by
  have hdeclared : env.program.declaredShape? (.typedef r) = env.program.marshaledAs? root := by
    rw [Program.declaredShape?, hroot, Option.bind_some]
  cases root with
  | struct _ => exact .pure (.composite (.inl rfl) ht hdeclared .same)
  | list _ | set _ _ | map _ _ =>
    refine .bind fun shape hshape => .pure (.composite (.inl rfl) ht ?_ .same)
    rw [hdeclared, Program.marshaledAs?]
    exact present_eq_ok.mp hshape.of_lift
  | typedef _ => exact .throw
  | base b =>
    refine .bind fun text htext value hvalue => ?_
    obtain ⟨t', ht', rfl⟩ := typeText_eq htext
    cases ht'
    exact .scalar hroot (.converted _) (logBase_gives b _ value hvalue)
  | enum e =>
    refine .bind fun text htext => .pure ?_
    obtain ⟨t', ht', rfl⟩ := typeText_eq htext
    exact .composite (.inr hroot) ht' rfl (.converted _)

theorem logValue_gives {ty : Ty} (hty : ty.isContainer = false) {t : GoType} (ht : env.goType ty = .ok t)
    (expr : String) : Gives (env.logValue ty expr) (env.LogsDeclared ty t expr) := by
  cases ty with
  | list _ | set _ _ | map _ _ => cases hty
  | base b =>
    intro value hvalue
    cases ht
    exact .scalar (Program.Unfolds.stop rfl).rootType?_eq .same (logBase_gives b expr value hvalue)
  | enum _ | struct _ => exact .pure (.composite (.inl rfl) ht rfl .same)
  | typedef r => exact .bind fun root hroot => logTypedef_gives (present_eq_ok.mp hroot.of_lift) ht expr

/-! ### Marshalers of declared types -/

/-- The Go type of a declared type, written `type`, has a marshaler of this shape: wherever the file that declares it is
generated with logging, the code of the declaration has the method. -/
def HasMarshaler (env : Env) (ty : Ty) (type : String) (shape : LogShape) : Prop :=
  ∃ e ident owner root, ty.entity? = some e ∧ env.program.identOf? e = some ident ∧
    env.program.owner? e = some owner ∧ env.program.rootType? ty = some root ∧
    type = root.receiver (Reference.text ⟨env.packageOf owner, ident⟩) ∧
    ∀ o d, o.noZap = false → env.program.draft owner o = .ok d →
      ∃ part, d.env.Declares ident part e ∧ part <:+: d.code ∧ shape ∈ marshalersOf (root.receiver ident) part

theorem reference_eq_ok {file : Ref .file} {name : String} {a : Annotations} {ref : Reference}
    (h : env.reference file name a = .ok ref) : ref = ⟨env.packageOf file, goName name a⟩ := by
  obtain ⟨_, -, h⟩ := Except.bind_eq_ok.mp h
  obtain ⟨ident, hident, h⟩ := Except.bind_eq_ok.mp h
  obtain ⟨-, rfl⟩ := identifier_eq_ok.mp hident
  exact (Except.ok.inj h).symm

/-- The Go type of a declared type is the receiver of its methods, with the package of its file before the name. -/
theorem goType_text {ty root : Ty} {e : Entity} (hnamed : ty.entity? = some e) {ident : String} {owner : Ref .file}
    (hident : env.program.identOf? e = some ident) (howner : env.program.owner? e = some owner)
    (hroot : env.program.rootType? ty = some root) {t : GoType} (ht : env.goType ty = .ok t) :
    t.text = root.receiver (Reference.text ⟨env.packageOf owner, ident⟩) := by
  cases ty with
  | base _ | list _ | set _ _ | map _ _ => cases hnamed
  | enum r =>
    cases hnamed
    obtain rfl : Ty.enum r = root := Option.some.inj ((Program.Unfolds.stop rfl).rootType?_eq.symm.trans hroot)
    obtain ⟨ref, href, ht⟩ := Except.bind_eq_ok.mp ht
    obtain ⟨e, he, href⟩ := Except.bind_eq_ok.mp href
    rw [present_eq_ok] at he
    obtain rfl : goName e.name e.annotations = ident := by simpa [Program.identOf?, he] using hident
    obtain rfl : e.file = owner := by simpa [Program.owner?, he] using howner
    obtain rfl := reference_eq_ok href
    cases ht
    rfl
  | struct r =>
    cases hnamed
    obtain rfl : Ty.struct r = root := Option.some.inj ((Program.Unfolds.stop rfl).rootType?_eq.symm.trans hroot)
    obtain ⟨ref, href, ht⟩ := Except.bind_eq_ok.mp ht
    obtain ⟨s, hs, href⟩ := Except.bind_eq_ok.mp href
    rw [present_eq_ok] at hs
    obtain rfl : goName s.name s.annotations = ident := by simpa [Program.identOf?, hs] using hident
    obtain rfl : s.file = owner := by simpa [Program.owner?, hs] using howner
    obtain rfl := reference_eq_ok href
    cases ht
    rfl
  | typedef r =>
    cases hnamed
    obtain ⟨ref, href, ht⟩ := Except.bind_eq_ok.mp ht
    obtain ⟨t', ht', href⟩ := Except.bind_eq_ok.mp href
    rw [present_eq_ok] at ht'
    obtain ⟨byReference, hreference, ht⟩ := Except.bind_eq_ok.mp ht
    obtain rfl : goName t'.name t'.annotations = ident := by simpa [Program.identOf?, ht'] using hident
    obtain rfl : t'.file = owner := by simpa [Program.owner?, ht'] using howner
    obtain rfl := reference_eq_ok href
    rw [← receiver_of_isStructRooted hroot hreference]
    cases byReference <;> cases ht <;> rfl

theorem entity?_of_declaredShape? {ty : Ty} {shape : LogShape} (h : env.program.declaredShape? ty = some shape) :
    ∃ e, ty.entity? = some e := by
  cases ty with
  | base _ | list _ | set _ _ | map _ _ => cases h
  | enum r | struct r | typedef r => exact ⟨_, rfl⟩

/-- A declared type has the marshaler that it should have. -/
theorem hasMarshaler {ty : Ty} (hp : env.program.Sound) (hty : env.program.TypeInRange ty) {t : GoType}
    (ht : env.goType ty = .ok t) {shape : LogShape} (hshape : env.program.declaredShape? ty = some shape) :
    env.HasMarshaler ty t.text shape := by
  obtain ⟨e, hnamed⟩ := entity?_of_declaredShape? hshape
  obtain ⟨ident, owner, hident, howner⟩ := Program.declared_of_inRange hty hnamed
  obtain ⟨layers, root, hunfolds⟩ := hp.unfolds hty
  refine ⟨e, ident, owner, root, hnamed, hident, howner, hunfolds.rootType?_eq,
    goType_text hnamed hident howner hunfolds.rootType?_eq ht, fun o d hzap hd => ?_⟩
  obtain ⟨_, _, -, henv, -⟩ := Program.draft_eq_ok hd
  obtain ⟨hprogram, hfile, hcovers⟩ := Program.draft_covers hd
  rw [← hprogram] at hident howner hunfolds hshape
  obtain ⟨part, hdeclares, hinside⟩ := hcovers.declares (hfile ▸ howner) hident
  exact ⟨part, hdeclares, hinside, hdeclares.marshals (henv.options ▸ hzap) hnamed hident hunfolds hshape⟩

/-! ### Marshalers of containers -/

/-- Logging a container asks for its helper, and converts the container to the type of the helper. -/
theorem logValue_of_container {ty : Ty} (hty : ty.isContainer = true) {shape : LogShape}
    (hshape : env.program.logShape? ty = some shape) (expr : String) :
    env.logValue ty expr = do
      let zapper ← env.request .zapper ty (env.zapperCode ty)
      return ⟨.composite shape, s!"({zapper})({expr})"⟩ := by
  have hzapper : env.zapper ty = do
      let zapper ← env.request .zapper ty (env.zapperCode ty)
      return (zapper, shape) := by
    rw [zapper, zapperWith, hshape]
    rfl
  have hlog : env.logValue ty expr = do
      let answer ← env.zapper ty
      return ⟨.composite answer.2, s!"({answer.1})({expr})"⟩ := by
    cases ty with
    | base _ | enum _ | struct _ | typedef _ => cases hty
    | list _ | set _ _ | map _ _ => rfl
  rw [hlog, hzapper, bind_assoc]
  rfl

theorem mem_requests_of_fulfil {q : Request} {build : Emit Code} {r r' : Run} {answer : Unit}
    (hbuild : env.Emits build fun _ => True) (h : fulfil q build r = .ok (answer, r')) : q ∈ r'.requests := by
  by_cases hknown : r.Known q.symbol
  · rw [fulfil_of_known build hknown] at h
    cases h
    exact List.mem_append_right _ (List.mem_singleton_self q)
  · cases hnames : r.names.reserve q.symbol with
    | error _ =>
      rw [fulfil_of_taken build hknown hnames] at h
      cases h
    | ok names =>
      rw [fulfil_of_free build hknown hnames] at h
      obtain ⟨⟨code, r₁⟩, hcode, h⟩ := Except.bind_eq_ok.mp h
      cases h
      obtain ⟨events, htrace, -⟩ := ((hbuild _).1 code r₁ hcode).2.exists_trace
      rw [Run.finished, htrace.requests]
      exact List.mem_append_left _ (List.mem_append_right _ (List.mem_singleton_self q))

/-- A request that was answered is noted. -/
theorem mem_requests_of_request {role : Role} {ty : Ty} {build : String → Emit Code} {r r' : Run} {symbol : String}
    (hbuild : ∀ name, env.Emits (build name) fun _ => True) (h : env.request role ty build r = .ok (symbol, r')) :
    ⟨role, ty, symbol⟩ ∈ r'.requests := by
  obtain ⟨m, r₁, -, h⟩ := Emit.bind_eq_ok.mp h
  obtain ⟨_, r₂, hfulfil, h⟩ := Emit.bind_eq_ok.mp h
  cases h
  exact mem_requests_of_fulfil (hbuild _) hfulfil

/-- In a run there is a helper of this name with one marshaler, of the shape in which the first request for the name is
logged. -/
structure HasZapper (env : Env) (r : Run) (name : String) (q : Request) (built : LogShape) : Prop where
  first : r.first? name = some q
  shape : q.logShape? env.program = some built
  written : ∃ h ∈ r.helpers, h.symbol = name ∧ marshalersOf name h.code = [built]

/-- The end of a symbol tells whether the helper logs. -/
theorem Traced.isLogging_eq {r : Run} (h : env.Traced r) {q q' : Request} (hq : q ∈ r.requests)
    (hq' : q' ∈ r.requests) (hsymbol : q.symbol = q'.symbol) : q.role.isLogging = q'.role.isLogging := by
  obtain ⟨a, -, -, ha⟩ := h.requests q hq
  obtain ⟨b, -, -, hb⟩ := h.requests q' hq'
  rw [Bool.eq_iff_iff, Role.isLogging_iff_suffix _ (a.text r.symbols), Role.isLogging_iff_suffix _ (b.text r.symbols),
    ← ha, ← hb, hsymbol]

/-- In a whole run, a container that was asked for has a helper. -/
theorem Grows.exists_zapper {names : Name.Namespace} {r : Run} (h : env.Grows (Run.start names) r) {ty : Ty}
    {name : String} (hasked : ⟨.zapper, ty, name⟩ ∈ r.requests) : ∃ q built, env.HasZapper r name q built := by
  obtain ⟨q, hfirst⟩ : ∃ q, r.first? name = some q :=
    Option.isSome_iff_exists.mp (List.find?_isSome.mpr ⟨_, hasked, by simp⟩)
  obtain ⟨hq, rfl⟩ := Run.mem_of_first? hfirst
  obtain ⟨events, htrace, hbuilds⟩ := h.builds_first hfirst
  obtain ⟨code, hfinished, hsource⟩ := hbuilds.finished
  have hlogs : q.role.isLogging = true :=
    (h.traced (traced_start names)).isLogging_eq hq hasked rfl
  obtain ⟨built, hshape, hmarshals⟩ := helperSource_marshals hlogs code hsource
  refine ⟨q, built, hfirst, hshape, ⟨q.symbol, code⟩, ?_, rfl, hmarshals⟩
  rw [htrace.helpers]
  exact List.mem_append_right _ hfinished

/-! ### Shapes of containers with one symbol -/

theorem Traced.role_eq_of_type_eq {r : Run} (h : env.Traced r) {q q' : Request} (hq : q ∈ r.requests)
    (hq' : q' ∈ r.requests) (hsymbol : q.symbol = q'.symbol) (htype : q.type = q'.type) : q.role = q'.role := by
  obtain ⟨a, ha, -⟩ := h.requests q hq
  rw [h.symbol_eq hq ha, h.symbol_eq hq' (htype ▸ ha), String.append_right_inj] at hsymbol
  exact suffix_injective hsymbol

theorem Traced.opening_eq {r : Run} (h : env.Traced r) {q q' : Request} (hq : q ∈ r.requests)
    (hq' : q' ∈ r.requests) (hsymbol : q.symbol = q'.symbol) {a b : Shape} (ha : env.program.HasShape q.type a)
    (hb : env.program.HasShape q'.type b) {o o' : Opening} (ho : a.opening? = some o) (ho' : b.opening? = some o') :
    o = o' := by
  rw [h.symbol_eq hq ha, h.symbol_eq hq' hb] at hsymbol
  have hwords := congrArg words hsymbol
  rw [words_symbol, words_symbol, List.cons.injEq, Shape.words_text, Shape.words_text, Shape.head_eq ho,
    Shape.head_eq ho', o.words_word.1, o'.words_word.1] at hwords
  exact Opening.word_injective (String.toList_injective (List.head_eq_of_cons_eq hwords.2))

/-- The first word of its symbol tells a map from other containers. -/
theorem Traced.map_of_symbol_eq {r : Run} (h : env.Traced r) {q q' : Request} (hq : q ∈ r.requests)
    (hq' : q' ∈ r.requests) (hsymbol : q.symbol = q'.symbol) {k v : Ty} (hmap : q.type = .map k v)
    (hcontainer : q'.type.isContainer = true) : ∃ k' v', q'.type = .map k' v' := by
  obtain ⟨a, ha, -⟩ := h.requests q hq
  obtain ⟨b, hb, -⟩ := h.requests q' hq'
  have hopening : a.opening? = some .map := by
    rw [hmap] at ha
    cases ha with
    | map => rfl
    | declared hkey => cases hkey
  have hsame {o : Opening} (ho : b.opening? = some o) : Opening.map = o :=
    h.opening_eq hq hq' hsymbol ha hb hopening ho
  generalize q'.type = ty at hb hcontainer ⊢
  cases hb with
  | map => exact ⟨_, _, rfl⟩
  | base _ => cases hcontainer
  | list | set => cases hsame rfl
  | declared hkey =>
    cases ty with
    | enum _ | struct _ | typedef _ => cases hcontainer
    | base _ | list _ | set _ _ | map _ _ => cases hkey

end Env

/-- Where `s` has the symbols of declarations, the symbols of the two types tell all that they are made of: each
declaration in them is plain, and no two share file and name. -/
structure Program.ToldApart (p : Program) (s : Symbols) (ty ty' : Ty) : Prop where
  plain : ∀ part file name, ty.HasPart part ∨ ty'.HasPart part → p.keyOf? part = some (file, name) →
    s.Plain file name
  same : ∀ part part' key, ty.HasPart part → ty'.HasPart part' → p.keyOf? part = some key →
    p.keyOf? part' = some key → part = part'

/-- A map is logged as an array when its keys are containers. -/
theorem Program.logShape?_of_container_key {p : Program} {k : Ty} (h : k.isContainer = true) (v : Ty) :
    p.logShape? (.map k v) = some .array := by
  cases k with
  | base _ | enum _ | struct _ | typedef _ => cases h
  | list _ | set _ _ | map _ _ =>
    rw [Program.logShape?, (Program.Unfolds.stop rfl).rootType?_eq]
    rfl

/-- Maps are logged in one shape when their keys are told apart by their symbols, and have the same. -/
theorem Program.logShape?_of_hasShape {p : Program} {k k' v v' : Ty} {a : Shape} (h : p.HasShape k a)
    (h' : p.HasShape k' a)
    (hsame : ∀ key, p.keyOf? k = some key → p.keyOf? k' = some key → k = k') :
    p.logShape? (.map k v) = p.logShape? (.map k' v') := by
  cases h with
  | base b =>
    cases h' with
    | base => rfl
  | list _ | set _ _ | map _ _ =>
    cases h'
    rw [logShape?_of_container_key rfl, logShape?_of_container_key rfl]
  | declared hkey =>
    cases h' with
    | declared hkey' =>
      rw [hsame _ hkey hkey']
      rfl

/-- What was built for another type than a map has an array for its marshaler. -/
theorem Request.eq_array {p : Program} {q : Request} {built : LogShape} (h : q.logShape? p = some built)
    (hmap : ∀ k v, q.type ≠ .map k v) : built = .array := by
  obtain ⟨role, ty, symbol⟩ := q
  cases ty with
  | map k v => exact absurd rfl (hmap k v)
  | base _ | list _ | set _ _ | enum _ | struct _ | typedef _ =>
    cases role <;> cases h
    rfl

namespace Env

variable {env : Env}

/-- A container is handed to a helper that was built in its shape, as long as a map is told apart from another that the
helper was built for. -/
theorem HasZapper.built_eq {r : Run} {name : String} {q : Request} {built shape : LogShape} {ty : Ty}
    (h : env.HasZapper r name q built) (htraced : env.Traced r) (hasked : ⟨.zapper, ty, name⟩ ∈ r.requests)
    (hty : ty.isContainer = true) (hshape : env.program.logShape? ty = some shape)
    (hmap : ∀ k v, ty = .map k v → q.type ≠ ty → env.program.ToldApart r.symbols q.type ty) : built = shape := by
  obtain ⟨hq, hsymbol⟩ := Run.mem_of_first? h.first
  cases ty with
  | base _ | enum _ | struct _ | typedef _ => cases hty
  | list _ | set _ _ =>
    cases hshape
    refine Request.eq_array h.shape fun k v hk => ?_
    obtain ⟨_, _, hother⟩ := htraced.map_of_symbol_eq hq hasked hsymbol hk rfl
    cases hother
  | map k v =>
    have hbuilt := h.shape
    by_cases hsame : q.type = .map k v
    · rw [Request.logShape?, htraced.role_eq_of_type_eq hq hasked hsymbol hsame, hsame] at hbuilt
      exact Option.some.inj (hbuilt.symm.trans hshape)
    · have hapart := hmap k v rfl hsame
      obtain ⟨hrole, a, ha, hb⟩ := htraced.role_eq_and_exists_shape hq hasked hsymbol hapart.plain
      rw [Request.logShape?, hrole] at hbuilt
      refine Option.some.inj (hbuilt.symm.trans (Eq.trans ?_ hshape))
      generalize q.type = ty' at ha hapart
      cases hb with
      | declared hkey => cases hkey
      | map hk _ =>
        cases ha with
        | map hk' _ =>
          exact Program.logShape?_of_hasShape hk' hk fun key =>
            hapart.same _ _ key (.key (.self _)) (.key (.self _))

/-- On the way to the end of a run, an expression of a type is logged. -/
def Logs (env : Env) (done : Run) (ty : Ty) (expr : String) (value : LogValue) : Prop :=
  ∃ r r' events, env.logValue ty expr r = .ok (value, r') ∧ env.Trace r' events done

/-- A container that is logged is converted to the type of its helper, which was asked for. -/
theorem Logs.container {done : Run} {ty : Ty} {expr : String} {value : LogValue} (h : env.Logs done ty expr value)
    (hp : env.program.Sound) (hzap : env.options.noZap = false) (hty : env.program.TypeInRange ty)
    (hcontainer : ty.isContainer = true) :
    ∃ name shape, ⟨.zapper, ty, name⟩ ∈ done.requests ∧ env.program.logShape? ty = some shape ∧
      value = ⟨.composite shape, s!"({name})({expr})"⟩ := by
  obtain ⟨r, r', events, hlog, htrace⟩ := h
  obtain ⟨shape, hshape⟩ := logShape?_isSome hp hty
  rw [logValue_of_container hcontainer hshape] at hlog
  obtain ⟨name, r₁, hrequest, hlog⟩ := Emit.bind_eq_ok.mp hlog
  cases hlog
  refine ⟨name, shape, ?_, hshape, rfl⟩
  rw [htrace.requests]
  exact List.mem_append_left _ (mem_requests_of_request (zapperCode_emits hp hzap hty hcontainer) hrequest)

/-- The helper of a list logs the elements of the list. -/
theorem Builds.logs_element (hzap : env.options.noZap = false) {r done : Run} {events : List Event} {e : Ty}
    {name : String} (h : env.Builds r events done ⟨.zapper, .list e, name⟩) : ∃ value, env.Logs done e "v" value := by
  obtain ⟨_, _, after, code, rs, re, -, -, hsource, -, hafter⟩ := h
  obtain ⟨_, _, -, hsource⟩ := Emit.bind_eq_ok.mp hsource
  obtain ⟨_, _, -, hsource⟩ := Emit.bind_eq_ok.mp hsource
  obtain ⟨_, r₁, -, hsource⟩ := Emit.bind_eq_ok.mp hsource
  obtain ⟨value, r₂, hvalue, hsource⟩ := Emit.bind_eq_ok.mp hsource
  obtain ⟨append, _, happend, hsource⟩ := Emit.bind_eq_ok.mp hsource
  cases hsource
  obtain ⟨more, htrace, -⟩ := ((logAppend_emits hzap value r₂).1 append re happend).2.exists_trace
  exact ⟨value, r₁, r₂, _, hvalue, htrace.append hafter⟩

end Env

namespace Program

/-- Whatever is logged in the code for a file, the adder fits the expression that it takes. A scalar is of its base
type. The type of everything else has a marshaler: that of a declared type in the file that declares it, and that of
a container in the helper which was built for the first request for its symbol. It is the marshaler that the adder
calls, unless the helper was built for another map that is not told apart by its symbol. -/
theorem logged_types_marshal {p : Program} {file : Ref .file} {o : Options} {d : Draft} (hd : p.draft file o = .ok d)
    (hzap : o.noZap = false) {ty : Ty} (hty : p.TypeInRange ty) {t : GoType} (ht : d.env.goType ty = .ok t)
    {expr : String} {value : LogValue} (hlog : d.env.Logs d.run ty expr value) :
    (∃ b x, p.rootType? ty = some (.base b) ∧ Retyped expr t.text x b.goType.text ∧
      d.env.LogsScalar x b.goType.text value) ∨
    ∃ shape x type, value = ⟨.composite shape, x⟩ ∧ Retyped expr t.text x type ∧
      ((∃ declared, (declared = ty ∨ p.rootType? ty = some declared) ∧ d.env.HasMarshaler declared type shape) ∨
        (ty.isContainer = true ∧ ⟨.zapper, ty, type⟩ ∈ d.run.requests ∧
          ∃ q built, d.env.HasZapper d.run type q built ∧
            ((∀ k v, ty = .map k v → q.type ≠ ty → p.ToldApart d.run.symbols q.type ty) → built = shape))) := by
  have hp := sound_of_draft hd
  obtain ⟨_, names, -, ⟨rfl, -, -, hoptions, -⟩, -, hgrows⟩ := draft_eq_ok hd
  cases hcontainer : ty.isContainer with
  | true =>
    obtain ⟨name, shape, hasked, hshape, rfl⟩ := hlog.container hp (hoptions ▸ hzap) hty hcontainer
    obtain ⟨q, built, hzapper⟩ := hgrows.exists_zapper hasked
    have htraced := hgrows.traced (Env.traced_start names)
    exact .inr ⟨shape, _, name, rfl, .converted name, .inr ⟨rfl, hasked, q, built, hzapper,
      hzapper.built_eq htraced hasked hcontainer hshape⟩⟩
  | false =>
    obtain ⟨r, r', -, hvalue, -⟩ := hlog
    cases Env.logValue_gives hcontainer ht expr value ⟨r, r', hvalue⟩ with
    | scalar hroot hretyped hadds => exact .inl ⟨_, _, hroot, hretyped, hadds⟩
    | @composite declared t' shape x hbelow htype hmarshals hretyped =>
      have hdeclared : d.env.program.TypeInRange declared := by
        obtain rfl | hroot := hbelow
        · exact hty
        · obtain ⟨root, hroot', hrange, -⟩ := hp.rootType?_isSome hty
          rwa [← Option.some.inj (hroot'.symm.trans hroot)]
      exact .inr ⟨shape, x, t'.text, rfl, hretyped, .inl ⟨declared, hbelow,
        Env.hasMarshaler hp hdeclared htype hmarshals⟩⟩

/-! ### Maps that share a helper -/

/-- A map from texts to sets of keys, which differ in their annotations. -/
def marksOf (annotations : Annotations) : Ty := .map (.base .string) (.set (.typedef ⟨0⟩) annotations)

/-- The annotations of the second of two such maps. -/
def unsorted : Annotations := Annotations.empty.insert "sorted" "no"

/-- A map from texts. -/
def flagsOfTexts : Ty := .map (.base .string) (.base .bool)

/-- A map from integers, which go by the name of `String`. -/
def flagsOfNumbers : Ty := .map (.typedef ⟨1⟩) (.base .bool)

/-- A program in which two maps share a helper, twice. -/
def registers : Program :=
  let declared (name : String) (target : Ty) : Typedef := ⟨name, ⟨0⟩, target, .empty⟩
  { Program.empty with
    files := [⟨"a.thrift", "ex/a", "a"⟩]
    typedefs := [declared "Key" (.base .string), declared "String" (.base .i32), declared "Marks" (marksOf .empty),
      declared "Rows" (.list (marksOf unsorted)), declared "Names" flagsOfTexts,
      declared "Sizes" (.list flagsOfNumbers)] }

/-- The draft has a helper for lists of the type, and all that is asked for the type itself is the helper of
this name, which was built for another. -/
def handsOver (d : Draft) (lists : String) (ty : Ty) (name : String) (other : Ty) : Bool :=
  d.run.first? lists = some ⟨.zapper, .list ty, lists⟩ && d.run.first? name = some ⟨.zapper, other, name⟩ &&
    (d.run.requests.all fun q => q.role ≠ .zapper || q.type ≠ ty || q.symbol = name) &&
    (d.env.goType ty).toOption.isSome

theorem exists_of_handsOver {p : Program} {file : Ref .file} {o : Options} {d : Draft} (hd : p.draft file o = .ok d)
    (hzap : o.noZap = false) {lists name : String} {ty other : Ty} (h : handsOver d lists ty name other = true) :
    (∃ value, d.env.Logs d.run ty "v" value) ∧ d.run.first? name = some ⟨.zapper, other, name⟩ ∧
      (∀ symbol, ⟨.zapper, ty, symbol⟩ ∈ d.run.requests → symbol = name) ∧ ∃ t, d.env.goType ty = .ok t := by
  obtain ⟨_, _, -, henv, -, hgrows⟩ := draft_eq_ok hd
  simp only [handsOver, Bool.and_eq_true, decide_eq_true_eq, List.all_eq_true, Bool.or_eq_true] at h
  obtain ⟨⟨⟨hlists, hfirst⟩, hall⟩, htype⟩ := h
  obtain ⟨_, -, hbuilds⟩ := hgrows.builds_first hlists
  refine ⟨hbuilds.logs_element (henv.options ▸ hzap), hfirst, fun symbol hq => ?_, ?_⟩
  · simpa using hall _ hq
  · cases ht : d.env.goType ty with
    | ok t => exact ⟨t, rfl⟩
    | error e =>
      rw [ht] at htype
      cases htype

/-- The symbols of the declarations in it. -/
def registerSymbols : Symbols := [⟨⟨0⟩, "Key", "Key", "Key"⟩, ⟨⟨0⟩, "String", "String", "String"⟩]

theorem registers_drafts : ∃ d, registers.draft ⟨0⟩ {} = .ok d ∧ d.run.symbols = registerSymbols ∧
    handsOver d "_List_Map_String_Set_Key_mapType_Zapper" (marksOf unsorted) "_Map_String_Set_Key_mapType_Zapper"
      (marksOf .empty) = true ∧
    handsOver d "_List_Map_String_Bool_Zapper" flagsOfNumbers "_Map_String_Bool_Zapper" flagsOfTexts = true :=
  exists_draft (by decide +kernel)

theorem inRange_marksOf : registers.TypeInRange (marksOf unsorted) :=
  typeInRange_map.mpr ⟨typeInRange_base _, typeInRange_set.mpr (typeInRange_typedef.mpr (by decide))⟩

theorem inRange_flags : registers.TypeInRange flagsOfNumbers :=
  typeInRange_map.mpr ⟨typeInRange_typedef.mpr (by decide), typeInRange_base _⟩

theorem part_of_marksOf {annotations : Annotations} {part : Ty} {key : Ref .file × String}
    (h : (marksOf annotations).HasPart part) (hkey : registers.keyOf? part = some key) :
    part = .typedef ⟨0⟩ ∧ key = (⟨0⟩, "Key") := by
  cases h with
  | self => cases hkey
  | key h =>
    cases h
    cases hkey
  | value h =>
    cases h with
    | self => cases hkey
    | member h =>
      cases h
      cases hkey
      exact ⟨rfl, rfl⟩

theorem plain_key : registerSymbols.Plain ⟨0⟩ "Key" where
  opening o := by
    rcases o with b | _ | _ | _
    · cases b <;> decide
    all_goals decide
  number := not_isNumber (by decide +kernel)
  underscore := by decide +kernel

theorem toldApart_marksOf (annotations annotations' : Annotations) :
    registers.ToldApart registerSymbols (marksOf annotations) (marksOf annotations') where
  plain part file name hpart hkey := by
    obtain ⟨-, hname⟩ : part = .typedef ⟨0⟩ ∧ (file, name) = (⟨0⟩, "Key") :=
      hpart.elim (part_of_marksOf · hkey) (part_of_marksOf · hkey)
    cases hname
    exact plain_key
  same part part' key hpart hpart' hkey hkey' := by
    rw [(part_of_marksOf hpart hkey).1, (part_of_marksOf hpart' hkey').1]

/-- The second of the two maps is logged through the helper that was built for the first, in the same shape. -/
theorem logged_types_marshal_marks :
    ∃ d, registers.draft ⟨0⟩ {} = .ok d ∧ ∃ value shape x type q, d.env.Logs d.run (marksOf unsorted) "v" value ∧
      value = ⟨.composite shape, x⟩ ∧ q.type = marksOf .empty ∧ d.env.HasZapper d.run type q shape ∧
      ∃ t, d.env.goType (marksOf unsorted) = .ok t ∧ Retyped "v" t.text x type := by
  obtain ⟨d, hd, hsymbols, hmarks, -⟩ := registers_drafts
  obtain ⟨⟨value, hlog⟩, hfirst, hnamed, t, ht⟩ := exists_of_handsOver hd rfl hmarks
  refine ⟨d, hd, ?_⟩
  have hroot : registers.rootType? (marksOf unsorted) = some (marksOf unsorted) := rfl
  rcases logged_types_marshal hd rfl inRange_marksOf ht hlog with
    ⟨b, x, hbase, -⟩ | ⟨shape, x, type, hvalue, hretyped, h⟩
  · cases hroot.symm.trans hbase
  rcases h with ⟨declared, hbelow, e, _, _, _, hnamed, -⟩ | ⟨-, hasked, q, built, hzapper, hshape⟩
  · obtain rfl : marksOf unsorted = declared := hbelow.elim Eq.symm fun h => Option.some.inj (hroot.symm.trans h)
    cases hnamed
  · obtain rfl := hnamed type hasked
    obtain rfl := Option.some.inj (hfirst.symm.trans hzapper.first)
    obtain rfl := hshape fun _ _ _ _ => hsymbols ▸ toldApart_marksOf _ _
    exact ⟨value, _, x, _, _, hlog, hvalue, rfl, hzapper, t, ht, hretyped⟩

/-- Symbols have to be read: here a map is added as an array, through a helper that marshals objects. -/
theorem numbers_logged_as_texts :
    registers.check = .ok () ∧ ∃ d, registers.draft ⟨0⟩ {} = .ok d ∧ registers.generate ⟨0⟩ {} = .ok d.source ∧
      d.env.Logs d.run flagsOfNumbers "v" ⟨.composite .array, "(_Map_String_Bool_Zapper)(v)"⟩ ∧
      d.env.HasZapper d.run "_Map_String_Bool_Zapper" ⟨.zapper, flagsOfTexts, "_Map_String_Bool_Zapper"⟩ .object := by
  obtain ⟨d, hd, -, -, hsizes⟩ := registers_drafts
  obtain ⟨⟨value, hlog⟩, hfirst, hnamed, -⟩ := exists_of_handsOver hd rfl hsizes
  refine ⟨rfl, d, hd, generate_eq_ok.mpr ⟨d, hd, rfl⟩, ?_⟩
  have hp := sound_of_draft hd
  obtain ⟨_, _, -, ⟨hprogram, -, -, hoptions, -⟩, -, hgrows⟩ := draft_eq_ok hd
  obtain ⟨name, shape, hasked, hshape, rfl⟩ :=
    hlog.container (hprogram ▸ hp) (hoptions ▸ rfl) (hprogram ▸ inRange_flags) rfl
  obtain ⟨q, built, hzapper⟩ := hgrows.exists_zapper hasked
  obtain rfl := hnamed name hasked
  obtain rfl := Option.some.inj (hfirst.symm.trans hzapper.first)
  have hbuilt := hzapper.shape
  rw [hprogram] at hshape hbuilt
  cases hshape
  cases hbuilt
  exact ⟨hlog, hzapper⟩

end Program

end GoSchema
