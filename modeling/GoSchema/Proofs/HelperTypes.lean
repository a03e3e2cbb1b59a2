import GoSchema.Proofs.SymbolReading
import GoSchema.Proofs.WholeRun

/-!
# The types behind a helper

A helper is known by its symbol alone. Here the symbols that a run gives out are traced back to types: every
request of a run has the symbol that its type has in the end, and types with the same shape have the
same Go type, as long as declarations with the same file and name are the same in Go. So two requests for
one symbol ask for one Go type, if their symbols can be read.

They cannot always be read. An enum `Bool` shares its symbol with the base type, and a helper that was built for one of
them serves the other.

## What is proved

* `HasShape.unique` and `Traced.symbol_eq`: a type has one shape, and the symbol of a request is put together from
  it.
* `Traced.exists_shape`: requests for one symbol are for types of one shape, if the shapes can be read.
* `sameInGo_of_hasShape`: types of one shape are the same in Go, if their declarations are.
* `Program.goType_eq_of_symbol_eq`: under four conditions on the declarations that occur, two requests of a run
  with one symbol are for one Go type. `Program.lookalikes_share_symbols` shows for each condition that it cannot
  be left out.

The conditions are on the declarations and not on the types: a container of plain declarations is never mistaken.
What the shared helper then does to the wrong type is left to the compiler of Go.
-/

namespace GoSchema

open Name

namespace Program

/-- The file and the name of the declaration that a type refers to by itself. -/
def keyOf? (p : Program) : Ty → Option (Ref .file × String)
  | .enum r => (p.enum? r).map fun e => (e.file, e.name)
  | .struct r => (p.struct? r).map fun d => (d.file, d.name)
  | .typedef r => (p.typedef? r).map fun t => (t.file, t.name)
  | .base _ | .list _ | .set _ _ | .map _ _ => none

/-- What the symbol of a type tells of it. -/
inductive HasShape (p : Program) : Ty → Shape → Prop where
  | base (b : Base) : HasShape p (.base b) (.base b)
  | list {e : Ty} {a : Shape} : HasShape p e a → HasShape p (.list e) (.list a)
  | set {e : Ty} {annotations : Annotations} {a : Shape} {keyed : Bool} :
      p.isKeyedSet? e annotations = some keyed → HasShape p e a →
      HasShape p (.set e annotations) (.set a keyed)
  | map {k v : Ty} {a b : Shape} : HasShape p k a → HasShape p v b → HasShape p (.map k v) (.map a b)
  | declared {ty : Ty} {file : Ref .file} {name : String} :
      p.keyOf? ty = some (file, name) → HasShape p ty (.declared file name)

/-- The declarations in the shape of a type are those it mentions. -/
theorem HasShape.all {p : Program} {ty : Ty} {a : Shape} (h : p.HasShape ty a)
    {P : Ref .file → String → Prop}
    (hparts : ∀ part file name, ty.HasPart part → p.keyOf? part = some (file, name) → P file name) :
    a.All P := by
  induction h with
  | base b => trivial
  | list _ ih => exact ih fun part file name hpart => hparts part file name (.element hpart)
  | set _ _ ih => exact ih fun part file name hpart => hparts part file name (.member hpart)
  | map _ _ ihk ihv =>
    exact ⟨ihk fun part file name hpart => hparts part file name (.key hpart),
      ihv fun part file name hpart => hparts part file name (.value hpart)⟩
  | declared hkey => exact hparts _ _ _ (.self _) hkey

/-- A type has one shape. -/
theorem HasShape.unique {p : Program} {ty : Ty} {a b : Shape} (ha : p.HasShape ty a) (hb : p.HasShape ty b) :
    a = b := by
  induction ha generalizing b with
  | base x =>
    cases hb with
    | base => rfl
    | declared hkey => cases hkey
  | list _ ih =>
    cases hb with
    | list he => rw [ih he]
    | declared hkey => cases hkey
  | set hkeyed _ ih =>
    cases hb with
    | set hkeyed' he =>
      rw [ih he]
      rw [hkeyed] at hkeyed'
      rw [Option.some.inj hkeyed']
    | declared hkey => cases hkey
  | map _ _ ihk ihv =>
    cases hb with
    | map hk hv => rw [ihk hk, ihv hv]
    | declared hkey => cases hkey
  | declared hkey =>
    cases hb with
    | declared hkey' =>
      rw [hkey] at hkey'
      cases hkey'
      rfl
    | base | list | set | map => cases hkey

end Program

/-! ### Symbols over time -/

namespace Symbols

variable {s s' : Symbols} {file : Ref .file} {name symbol : String}

theorem Seen.mono (h : s.Seen file name) (hs : s <+: s') : s'.Seen file name := by
  obtain ⟨added, rfl⟩ := hs
  obtain ⟨symbol, hsymbol⟩ := Option.isSome_iff_exists.mp h
  exact Option.isSome_iff_exists.mpr ⟨symbol, find?_append_of_some hsymbol added⟩

/-- The symbol of a shape stays the same when further declarations are seen. -/
theorem text_stable {a : Shape} (ha : a.All s.Seen) (hs : s <+: s') : a.text s' = a.text s := by
  induction a with
  | base b => rfl
  | list e ih => rw [Shape.text, Shape.text, ih ha]
  | set e keyed ih => rw [Shape.text, Shape.text, ih ha]
  | map k v ihk ihv => rw [Shape.text, Shape.text, ihk ha.1, ihv ha.2]
  | declared file name =>
    obtain ⟨added, rfl⟩ := hs
    obtain ⟨symbol, hsymbol⟩ := Option.isSome_iff_exists.mp ha
    rw [Shape.text, Shape.text, hsymbol, find?_append_of_some hsymbol]

theorem named_spec (h : s.named file name = (symbol, s')) :
    s'.find? file name = some symbol ∧ s <+: s' ∧ (s.Regular → s'.Regular) := by
  cases hfind : s.find? file name with
  | some known =>
    rw [named_of_find?_some hfind] at h
    cases h
    exact ⟨hfind, List.prefix_rfl, id⟩
  | none =>
    rw [named_of_find?_none hfind] at h
    cases h
    exact ⟨find?_append_entry hfind, List.prefix_append _ _, fun hs => hs.snoc file name⟩

/-- What becomes of the symbols when a type gets its own. -/
structure Adds (p : Program) (s s' : Symbols) (ty : Ty) (m : String) : Prop where
  grows : s <+: s'
  regular : s.Regular → s'.Regular
  shape : ∃ a, p.HasShape ty a ∧ a.All s'.Seen ∧ a.text s' = m

theorem adds_declared {p : Program} {ty : Ty} (hkey : p.keyOf? ty = some (file, name))
    (h : s.named file name = (symbol, s')) : Adds p s s' ty symbol := by
  obtain ⟨hfind, hgrows, hregular⟩ := named_spec h
  refine ⟨hgrows, hregular, .declared file name, .declared hkey, ?_, ?_⟩
  · exact Option.isSome_iff_exists.mpr ⟨symbol, hfind⟩
  · rw [Shape.text, hfind, Option.getD_some]

theorem mangle_adds {p : Program} {ty : Ty} {m : String} (h : mangle p ty s = (some m, s')) :
    Adds p s s' ty m := by
  induction ty generalizing s s' m with
  | base b =>
    cases h
    exact ⟨List.prefix_rfl, id, .base b, .base b, trivial, rfl⟩
  | list e ih =>
    rw [mangle] at h
    obtain ⟨hm, rfl⟩ := Prod.mk.inj h
    obtain ⟨me, hme, rfl⟩ := Option.map_eq_some_iff.mp hm
    obtain ⟨hgrows, hregular, a, hshape, hseen, rfl⟩ := ih (Prod.ext hme rfl)
    exact ⟨hgrows, hregular, .list a, .list hshape, hseen, rfl⟩
  | set e annotations ih =>
    rw [mangle] at h
    cases hkeyed : p.isKeyedSet? e annotations with
    | none =>
      rw [hkeyed] at h
      cases h
    | some keyed =>
      rw [hkeyed] at h
      obtain ⟨hm, rfl⟩ := Prod.mk.inj h
      obtain ⟨me, hme, rfl⟩ := Option.map_eq_some_iff.mp hm
      obtain ⟨hgrows, hregular, a, hshape, hseen, rfl⟩ := ih (Prod.ext hme rfl)
      exact ⟨hgrows, hregular, .set a keyed, .set hkeyed hshape, hseen, rfl⟩
  | map k v ihk ihv =>
    rw [mangle] at h
    rcases hkey : mangle p k s with ⟨key, s₁⟩
    rw [hkey] at h
    cases key with
    | none => cases h
    | some mk =>
      obtain ⟨hm, rfl⟩ := Prod.mk.inj h
      obtain ⟨mv, hmv, rfl⟩ := Option.map_eq_some_iff.mp hm
      obtain ⟨hgrows, hregular, a, hshape, hseen, rfl⟩ := ihk hkey
      obtain ⟨hgrows', hregular', b, hshape', hseen', rfl⟩ := ihv (Prod.ext hmv rfl)
      refine ⟨hgrows.trans hgrows', hregular' ∘ hregular, .map a b, .map hshape hshape', ⟨?_, hseen'⟩, ?_⟩
      · exact hseen.imp fun _ _ h => h.mono hgrows'
      · rw [Shape.text, text_stable hseen hgrows']
  | enum r | struct r | typedef r =>
    rw [mangle] at h
    split at h
    · cases h
    · next d hd =>
      cases h
      exact adds_declared (by rw [Program.keyOf?, hd]; rfl) rfl

end Symbols

/-! ### Requests -/

namespace Env

variable {env : Env} {r r' : Run} {q q' : Request} {symbols : Symbols}

/-- Each request has the symbol that its type has now. -/
structure Traced (env : Env) (r : Run) : Prop where
  regular : r.symbols.Regular
  requests : ∀ q ∈ r.requests, ∃ a, env.program.HasShape q.type a ∧ a.All r.symbols.Seen ∧
    q.symbol = "_" ++ a.text r.symbols ++ "_" ++ q.role.suffix

theorem Traced.noted (h : env.Traced r) (hasks : env.Asks r q symbols) : env.Traced (r.noted symbols q) := by
  obtain ⟨m, hm, hsymbol⟩ := hasks.symbol
  obtain ⟨hgrows, hregular, a, hshape, hseen, rfl⟩ := Symbols.mangle_adds hm
  refine ⟨hregular h.regular, fun q' hq' => ?_⟩
  rcases List.mem_append.mp hq' with hq' | hq'
  · obtain ⟨a', hshape', hseen', hsymbol'⟩ := h.requests q' hq'
    refine ⟨a', hshape', hseen'.imp fun _ _ h => h.mono hgrows, ?_⟩
    rw [hsymbol']
    exact congrArg (fun t => "_" ++ t ++ "_" ++ q'.role.suffix) (Symbols.text_stable hseen' hgrows).symm
  · rw [List.mem_singleton] at hq'
    subst hq'
    exact ⟨a, hshape, hseen, hsymbol⟩

/-- The symbol of a request is put together from the shape of its type. -/
theorem Traced.symbol_eq (h : env.Traced r) (hq : q ∈ r.requests) {a : Shape}
    (hshape : env.program.HasShape q.type a) :
    q.symbol = "_" ++ a.text r.symbols ++ "_" ++ q.role.suffix := by
  obtain ⟨b, hshape', -, hsymbol⟩ := h.requests q hq
  rw [hsymbol, hshape.unique hshape']

theorem Grows.traced (h : env.Grows r r') (hr : env.Traced r) : env.Traced r' := by
  induction h with
  | refl => exact hr
  | trans _ _ ih₁ ih₂ => exact ih₂ (ih₁ hr)
  | use _ => exact ⟨by simpa using hr.regular, by simpa using hr.requests⟩
  | again hasks _ => exact hr.noted hasks
  | build hasks _ _ _ _ ih =>
    have hnoted := hr.noted hasks
    have hfinished := ih ⟨hnoted.regular, hnoted.requests⟩
    exact ⟨hfinished.regular, hfinished.requests⟩

theorem traced_start (names : Namespace) : env.Traced (Run.start names) :=
  ⟨Symbols.regular_nil, fun _ h => by cases h⟩

theorem unnumbered_suffix (role : Role) : Unnumbered (words role.suffix) := by
  intro w hw
  refine not_isNumber ?_
  revert w
  cases role <;> decide +kernel

theorem words_symbol (t : String) (role : Role) :
    words ("_" ++ t ++ "_" ++ role.suffix) = [] :: (words t ++ words role.suffix) := by
  have hsplit : "_" ++ t = "" ++ "_" ++ t := rfl
  rw [hsplit, words_join, words_join]
  rfl

theorem suffix_injective : Function.Injective Role.suffix := by
  intro role role' h
  cases role <;> cases role' <;> first | rfl | exact absurd h (by decide)

/-- Requests for one symbol have one role and are for types with one shape, if that can be read. -/
theorem Traced.role_eq_and_exists_shape (h : env.Traced r) (hq : q ∈ r.requests) (hq' : q' ∈ r.requests)
    (hsymbol : q.symbol = q'.symbol)
    (hplain : ∀ part file name, q.type.HasPart part ∨ q'.type.HasPart part →
      env.program.keyOf? part = some (file, name) → r.symbols.Plain file name) :
    q.role = q'.role ∧ ∃ a, env.program.HasShape q.type a ∧ env.program.HasShape q'.type a := by
  obtain ⟨a, hshape, hseen, ha⟩ := h.requests q hq
  obtain ⟨b, hshape', hseen', hb⟩ := h.requests q' hq'
  have hwords := congrArg words (ha.symm.trans (hsymbol.trans hb))
  rw [words_symbol, words_symbol, List.cons.injEq] at hwords
  have hreadable : a.All r.symbols.Readable :=
    hseen.and (hshape.all fun part file name hpart => hplain part file name (.inl hpart))
  have hreadable' : b.All r.symbols.Readable :=
    hseen'.and (hshape'.all fun part file name hpart => hplain part file name (.inr hpart))
  obtain ⟨rfl, hsuffix⟩ := Shape.words_append_inj h.regular hreadable hreadable' (unnumbered_suffix _)
    (unnumbered_suffix _) hwords.2
  exact ⟨suffix_injective (words_injective hsuffix), a, hshape, hshape'⟩

/-- Requests for one symbol are for types with one shape, if that can be read. -/
theorem Traced.exists_shape (h : env.Traced r) (hq : q ∈ r.requests) (hq' : q' ∈ r.requests)
    (hsymbol : q.symbol = q'.symbol)
    (hplain : ∀ part file name, q.type.HasPart part ∨ q'.type.HasPart part →
      env.program.keyOf? part = some (file, name) → r.symbols.Plain file name) :
    ∃ a, env.program.HasShape q.type a ∧ env.program.HasShape q'.type a :=
  (h.role_eq_and_exists_shape hq hq' hsymbol hplain).2

/-! ### Go types -/

/-- The two types are the same in Go, also as keys of maps. -/
def SameInGo (env : Env) (ty ty' : Ty) : Prop :=
  env.goType ty = env.goType ty' ∧ env.program.isHashable? ty = env.program.isHashable? ty'

/-- Types with one shape are the same in Go, if their declarations are. -/
theorem sameInGo_of_hasShape {ty ty' : Ty} {a : Shape} (h : env.program.HasShape ty a)
    (h' : env.program.HasShape ty' a)
    (hsame : ∀ part part' key, ty.HasPart part → ty'.HasPart part' →
      env.program.keyOf? part = some key → env.program.keyOf? part' = some key →
      env.SameInGo part part') : env.SameInGo ty ty' := by
  induction h generalizing ty' with
  | base b =>
    cases h' with
    | base => exact ⟨rfl, rfl⟩
  | list _ ih =>
    cases h' with
    | list he' =>
      obtain ⟨htype, -⟩ := ih he' fun part part' key hpart hpart' =>
        hsame part part' key (.element hpart) (.element hpart')
      exact ⟨by rw [goType, goType, htype], rfl⟩
  | set hkeyed _ ih =>
    cases h' with
    | set hkeyed' he' =>
      obtain ⟨htype, -⟩ := ih he' fun part part' key hpart hpart' =>
        hsame part part' key (.member hpart) (.member hpart')
      exact ⟨by rw [goType, goType, htype, isKeyedSet, isKeyedSet, hkeyed, hkeyed'], rfl⟩
  | map _ _ ihk ihv =>
    cases h' with
    | map hk' hv' =>
      obtain ⟨htype, hhash⟩ := ihk hk' fun part part' key hpart hpart' =>
        hsame part part' key (.key hpart) (.key hpart')
      obtain ⟨htype', -⟩ := ihv hv' fun part part' key hpart hpart' =>
        hsame part part' key (.value hpart) (.value hpart')
      exact ⟨by rw [goType, goType, htype, htype', isKeyedMap, isKeyedMap, hhash], rfl⟩
  | declared hkey =>
    cases h' with
    | declared hkey' => exact hsame _ _ _ (.self _) (.self _) hkey hkey'

/-- No declaration has the Go type of a base type. -/
theorem goType_ne_base {ty : Ty} {key : Ref .file × String} (h : env.program.keyOf? ty = some key) (b : Base) :
    env.goType ty ≠ .ok b.goType := by
  have hnamed (ref : Go.Reference) : Go.GoType.named ref ≠ b.goType := by cases b <;> nofun
  have hpointer (t : Go.GoType) : Go.GoType.pointer t ≠ b.goType := by cases b <;> nofun
  intro hok
  cases ty with
  | base | list | set | map => cases h
  | enum r =>
    obtain ⟨ref, -, hok⟩ := Except.bind_eq_ok.mp hok
    exact hnamed ref (Except.ok.inj hok)
  | struct r =>
    obtain ⟨ref, -, hok⟩ := Except.bind_eq_ok.mp hok
    exact hpointer _ (Except.ok.inj hok)
  | typedef r =>
    obtain ⟨ref, -, hok⟩ := Except.bind_eq_ok.mp hok
    obtain ⟨rooted, -, hok⟩ := Except.bind_eq_ok.mp hok
    have heq := Except.ok.inj hok
    split_ifs at heq
    · exact hpointer _ heq
    · exact hnamed ref heq

end Env

namespace Program

/-- Two requests for one symbol are for one Go type, as long as each declaration that their types mention is
plain, and no two of them share file and name. A declaration that has the symbol of a base type shares its
helpers, although their Go types differ. -/
theorem goType_eq_of_symbol_eq (p : Program) (file : Ref .file) (o : Options) (source : Source)
    (h : p.generate file o = .ok source) :
    ∃ d, p.draft file o = .ok d ∧ d.source = source ∧
      (∀ q ∈ d.run.requests, ∀ q' ∈ d.run.requests, q.symbol = q'.symbol →
        (∀ part f name, q.type.HasPart part ∨ q'.type.HasPart part →
          p.keyOf? part = some (f, name) → d.run.symbols.Plain f name) →
        (∀ part part' key, q.type.HasPart part → q'.type.HasPart part' →
          p.keyOf? part = some key → p.keyOf? part' = some key → part = part') →
        d.env.goType q.type = d.env.goType q'.type) ∧
      ∀ q ∈ d.run.requests, ∀ q' ∈ d.run.requests, q.role = q'.role →
        ∀ b f name, q.type = .base b → p.keyOf? q'.type = some (f, name) →
          d.run.symbols.find? f name = some b.symbol →
          q.symbol = q'.symbol ∧ d.env.goType q.type ≠ d.env.goType q'.type := by
  obtain ⟨d, hdraft, hd⟩ := generate_eq_ok.mp h
  obtain ⟨self, names, -, henv, -, hgrows⟩ := draft_eq_ok hdraft
  have htraced := hgrows.traced (Env.traced_start names)
  have hprogram := henv.program
  refine ⟨d, hdraft, hd, ?_, ?_⟩
  · intro q hq q' hq' hsymbol hplain hsame
    rw [← hprogram] at hplain hsame
    obtain ⟨a, hshape, hshape'⟩ := htraced.exists_shape hq hq' hsymbol hplain
    refine (Env.sameInGo_of_hasShape hshape hshape' fun part part' key hpart hpart' hkey hkey' => ?_).1
    rw [hsame part part' key hpart hpart' hkey hkey']
    exact ⟨rfl, rfl⟩
  · intro q hq q' hq' hrole b f name hbase hkey hfind
    rw [← hprogram] at hkey
    have hshape : d.env.program.HasShape q.type (.base b) := hbase ▸ HasShape.base b
    refine ⟨?_, ?_⟩
    · rw [htraced.symbol_eq hq hshape, htraced.symbol_eq hq' (.declared hkey), Shape.text, Shape.text,
        hfind, Option.getD_some, hrole]
    · rw [hbase]
      exact (Env.goType_ne_base hkey b).symm

/-- A set of the colors of a palette. -/
def colorSet (annotations : Annotations) : Ty := .set (.enum ⟨0⟩) annotations

/-- A program with two sets of one form whose annotations differ. -/
def palette : Program :=
  { Program.empty with
    files := [⟨"a.thrift", "ex/a", "a"⟩]
    enums := [⟨"Color", ⟨0⟩, [], .empty⟩]
    structs := [⟨"Palette", ⟨0⟩, .struct,
      [⟨1, "used", colorSet .empty, true, none, .empty⟩,
        ⟨2, "free", colorSet (Annotations.empty.insert "sorted" "no"), true, none, .empty⟩], false, .empty⟩] }

theorem part_of_colorSet {annotations : Annotations} {part : Ty} {key : Ref .file × String}
    (h : (colorSet annotations).HasPart part) (hkey : palette.keyOf? part = some key) :
    part = .enum ⟨0⟩ ∧ key = (⟨0⟩, "Color") := by
  cases h with
  | self => cases hkey
  | member h =>
    cases h
    cases hkey
    exact ⟨rfl, rfl⟩

theorem plain_color : Symbols.Plain [⟨⟨0⟩, "Color", "Color", "Color"⟩] ⟨0⟩ "Color" where
  opening o := by
    rcases o with b | _ | _ | _
    · cases b <;> decide
    all_goals decide
  number := not_isNumber (by decide +kernel)
  underscore := by decide +kernel

theorem goType_eq_of_symbol_eq_palette :
    ∃ d, palette.draft ⟨0⟩ {} = .ok d ∧ ∃ q ∈ d.run.requests, ∃ q' ∈ d.run.requests,
      q.type ≠ q'.type ∧ q.symbol = q'.symbol ∧ d.env.goType q.type = d.env.goType q'.type := by
  let used : Request := ⟨.read, colorSet .empty, "_Set_Color_mapType_Read"⟩
  let free : Request :=
    ⟨.read, colorSet (Annotations.empty.insert "sorted" "no"), "_Set_Color_mapType_Read"⟩
  obtain ⟨d, hdraft, hsymbols, hused, hfree⟩ : ∃ d, palette.draft ⟨0⟩ {} = .ok d ∧
      d.run.symbols = [⟨⟨0⟩, "Color", "Color", "Color"⟩] ∧ used ∈ d.run.requests ∧ free ∈ d.run.requests :=
    exists_draft (by decide +kernel)
  obtain ⟨d', hdraft', -, hsame, -⟩ :=
    goType_eq_of_symbol_eq palette ⟨0⟩ {} d.source (generate_eq_ok.mpr ⟨d, hdraft, rfl⟩)
  obtain rfl : d = d' := Except.ok.inj (hdraft.symm.trans hdraft')
  refine ⟨d, hdraft, used, hused, free, hfree, by decide, rfl, hsame used hused free hfree rfl ?_ ?_⟩
  · intro part file name hpart hkey
    obtain ⟨-, hcolor⟩ : part = .enum ⟨0⟩ ∧ (file, name) = (⟨0⟩, "Color") :=
      hpart.elim (part_of_colorSet · hkey) (part_of_colorSet · hkey)
    cases hcolor
    exact hsymbols ▸ plain_color
  · intro part part' key hpart hpart' hkey hkey'
    rw [(part_of_colorSet hpart hkey).1, (part_of_colorSet hpart' hkey').1]

/-! ### Lookalikes -/

/-- The run asks for helpers of both types by one symbol, although their Go types differ. -/
def conflates (d : Draft) (ty ty' : Ty) : Bool :=
  d.run.requests.any fun q => d.run.requests.any fun q' =>
    q.type = ty && q'.type = ty' && q.symbol = q'.symbol &&
      match d.env.goType ty, d.env.goType ty' with
      | .ok t, .ok t' => t ≠ t'
      | _, _ => false

theorem exists_of_conflates {d : Draft} {ty ty' : Ty} (h : conflates d ty ty' = true) :
    ∃ q ∈ d.run.requests, ∃ q' ∈ d.run.requests, q.type = ty ∧ q'.type = ty' ∧ q.symbol = q'.symbol ∧
      d.env.goType q.type ≠ d.env.goType q'.type := by
  simp only [conflates, List.any_eq_true, Bool.and_eq_true, decide_eq_true_eq] at h
  obtain ⟨q, hq, q', hq', ⟨⟨rfl, rfl⟩, hsymbol⟩, hdiffers⟩ := h
  refine ⟨q, hq, q', hq', rfl, rfl, hsymbol, fun heq => ?_⟩
  rw [heq] at hdiffers
  split at hdiffers <;> simp_all

/-- A set that is a sequence. -/
def sliceOf (ty : Ty) : Ty := .set ty (Annotations.empty.insert typeKey sliceForm)

/-- Types in pairs that share a symbol. -/
def lookalikePairs : List (Ty × Ty) :=
  let bool : Ty := .base .bool
  -- A base type and an enum.
  [(bool, .enum ⟨0⟩),
  -- Containers, and enums called `List`, `Set` and `Map`.
    (.map (.enum ⟨1⟩) (.list bool), .map (.list (.enum ⟨1⟩)) bool),
    (.map (.enum ⟨2⟩) (.map (sliceOf (.enum ⟨2⟩)) bool), .map (sliceOf (.map (.enum ⟨2⟩) (.enum ⟨2⟩))) bool),
    (.map (.enum ⟨3⟩) (.map bool bool), .map (.map (.enum ⟨3⟩) bool) bool),
  -- The second `Item`, and an enum called `1`.
    (.map (.map (.enum ⟨4⟩) (.enum ⟨6⟩)) (.enum ⟨5⟩), .map (.map (.enum ⟨5⟩) (.enum ⟨4⟩)) (.enum ⟨6⟩)),
  -- Enums called `_` and `__`.
    (.map (.enum ⟨7⟩) (.enum ⟨8⟩), .map (.enum ⟨8⟩) (.enum ⟨7⟩)),
  -- An enum and a struct of one file with one name.
    (.list (.enum ⟨9⟩), .list (.struct ⟨0⟩))]

/-- A program whose declarations are taken for others. -/
def lookalikes : Program :=
  let enum (file : Ref .file) (name : String) : Enum := ⟨name, file, [], .empty⟩
  let fields := lookalikePairs.flatMap fun pair => [pair.1, pair.2]
  { Program.empty with
    files := [⟨"a.thrift", "ex/a", "a"⟩, ⟨"b.thrift", "ex/b", "b"⟩, ⟨"c.thrift", "ex/c", "c"⟩]
    enums := ["Bool", "List", "Set", "Map", "Item"].map (enum ⟨1⟩) ++ [enum ⟨2⟩ "Item"] ++
      ["1", "_", "__", "Twin"].map (enum ⟨1⟩)
    structs := [⟨"Twin", ⟨1⟩, .struct, [], false, .empty⟩,
      ⟨"All", ⟨0⟩, .struct, fields.zipIdx.map fun f =>
        ⟨Int16.ofNat f.2, "f" ++ toString f.2, f.1, false, none, .empty⟩, false, .empty⟩] }

/-- No condition on declarations can be left out: for each there are two types that share a symbol and are not
one Go type. -/
theorem lookalikes_share_symbols :
    lookalikes.check = .ok () ∧ ∃ d, lookalikes.draft ⟨0⟩ { noZap := true } = .ok d ∧
      lookalikes.generate ⟨0⟩ { noZap := true } = .ok d.source ∧
      ∀ pair ∈ lookalikePairs, ∃ q ∈ d.run.requests, ∃ q' ∈ d.run.requests,
        q.type = pair.1 ∧ q'.type = pair.2 ∧ q.symbol = q'.symbol ∧
          d.env.goType q.type ≠ d.env.goType q'.type := by
  obtain ⟨d, hdraft, hall⟩ : ∃ d, lookalikes.draft ⟨0⟩ { noZap := true } = .ok d ∧
      ∀ pair ∈ lookalikePairs, conflates d pair.1 pair.2 = true := exists_draft (by decide +kernel)
  exact ⟨rfl, d, hdraft, generate_eq_ok.mpr ⟨d, hdraft, rfl⟩, fun pair hpair =>
    exists_of_conflates (hall pair hpair)⟩

end Program

end GoSchema
